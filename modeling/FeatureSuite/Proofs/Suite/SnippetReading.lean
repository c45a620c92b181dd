import FeatureSuite.Proofs.Suite.SnippetMatching

/-!
# Templates of snippets read back

The template of a snippet, read from left to right, has no stray brace, wherever braces of the step
stand beside quoted texts and numbers. It has as many fields as the snippet has parameters, and with
the quoted texts and numbers put back into them it is the text of the step.
-/

namespace FeatureSuite

namespace Template

/-! ## Reading a template -/

/-- What stands in a template. -/
inductive Token where
  /-- A character of the text. A brace that is doubled is one character. -/
  | char (c : Char)
  /-- A field, without its braces. -/
  | field (inner : List Char)
  deriving DecidableEq, Repr

def Token.isField : Token → Bool
  | char _ => false
  | field _ => true

/-- Reads a template from left to right, in which fields are for text or for whole numbers. A brace
that is not doubled and not one of a field is stray. -/
def tokens? : List Char → Option (List Token)
  | [] => some []
  | '\x7b' :: '\x7b' :: cs => (tokens? cs).map (.char '\x7b' :: ·)
  | '\x7d' :: '\x7d' :: cs => (tokens? cs).map (.char '\x7d' :: ·)
  | '\x7b' :: '\x7d' :: cs => (tokens? cs).map (.field [] :: ·)
  | '\x7b' :: ':' :: 'd' :: '\x7d' :: cs => (tokens? cs).map (.field [':', 'd'] :: ·)
  | c :: cs => if c = '\x7b' ∨ c = '\x7d' then none else (tokens? cs).map (.char c :: ·)

private theorem tokens?_plain {c : Char} (hopen : c ≠ '\x7b') (hclose : c ≠ '\x7d')
    (cs : List Char) :
    tokens? (c :: cs) = (tokens? cs).map (.char c :: ·) := by
  rw [tokens?, if_neg (by simp [hopen, hclose])]
  all_goals
    rintro _ rfl
    contradiction

def Piece.tokens : Piece → List Token
  | openBrace => [.char '\x7b']
  | closeBrace => [.char '\x7d']
  | field inner => [.field inner]
  | literal text => text.map .char

private theorem tokens_textPiece {text : List Char} (h : text.head? ≠ some '\x7b') :
    (textPiece text).flatMap Piece.tokens = text.map .char := by
  cases text with
  | nil => rfl
  | cons c text =>
      rw [textPiece_eq_literal (List.cons_ne_nil c text) h]
      exact List.flatMap_singleton ..

private theorem tokens_cut {cs behind before : List Char} {token : Token} {piece : Piece}
    {tokens : List Token} {fuel : Nat} (hbefore : before.reverse.head? ≠ some '\x7b')
    (h : (tokens? cs).map (token :: ·) = some tokens) (hfuel : cs.length < fuel)
    (hpiece : piece.tokens = [token])
    (hcut : ∀ fuel, piecesFrom (fuel + 1) before behind =
      textPiece before.reverse ++ piece :: piecesFrom fuel [] cs)
    (hrest : ∀ {rest fuel}, tokens? cs = some rest → cs.length ≤ fuel →
      (piecesFrom fuel [] cs).flatMap Piece.tokens = rest) :
    (piecesFrom fuel before behind).flatMap Piece.tokens = before.reverse.map .char ++ tokens := by
  obtain ⟨rest, hread, rfl⟩ := Option.map_eq_some_iff.mp h
  obtain ⟨fuel, rfl⟩ := Nat.exists_eq_add_of_le' (Nat.one_le_of_lt hfuel)
  rw [hcut, List.flatMap_append, List.flatMap_cons, tokens_textPiece hbefore, hpiece,
    hrest hread (Nat.le_of_lt_succ hfuel), List.singleton_append]

private theorem tokens_piecesFrom {cs : List Char} {tokens : List Token}
    (h : tokens? cs = some tokens) {fuel : Nat} {before : List Char} (hfuel : cs.length ≤ fuel)
    (hbefore : before.reverse.head? ≠ some '\x7b') :
    (piecesFrom fuel before cs).flatMap Piece.tokens = before.reverse.map .char ++ tokens := by
  have hempty : ([] : List Char).reverse.head? ≠ some '\x7b' := by simp
  fun_induction tokens? cs generalizing tokens fuel before with
  | case1 =>
      cases h
      have hend : piecesFrom fuel before [] = textPiece before.reverse := by
        cases fuel <;> simp [piecesFrom]
      rw [hend, tokens_textPiece hbefore, List.append_nil]
  | case2 cs ih =>
      exact tokens_cut hbefore h (by simp at hfuel; omega) rfl
        (fun fuel => piecesFrom_openBrace fuel before cs) fun hread hlength =>
          ih hread hlength hempty
  | case3 cs ih =>
      exact tokens_cut hbefore h (by simp at hfuel; omega) rfl
        (fun fuel => piecesFrom_closeBrace fuel before cs) fun hread hlength =>
          ih hread hlength hempty
  | case4 cs ih =>
      exact tokens_cut hbefore h (by simp at hfuel; omega) rfl
        (fun fuel => piecesFrom_field (by simp) (fieldAt?_closing cs) fuel before)
        fun hread hlength => ih hread hlength hempty
  | case5 cs ih =>
      exact tokens_cut hbefore h (by simp at hfuel; omega) rfl
        (fun fuel => piecesFrom_number fuel before cs) fun hread hlength =>
          ih hread hlength hempty
  | case6 => cases h
  | case7 c cs _ _ _ _ hbrace ih =>
      -- No piece ends here: the character joins the text in front.
      obtain ⟨rest, hrest, rfl⟩ := Option.map_eq_some_iff.mp h
      obtain ⟨fuel, rfl⟩ := Nat.exists_eq_add_of_le' (show 1 ≤ fuel by simp at hfuel; omega)
      obtain ⟨hopen, hclose⟩ := not_or.mp hbrace
      have hbehind := Snippet.head?_reverse_cons hopen hbefore
      rw [piecesFrom_plain hopen hclose, ih hrest (Nat.le_of_succ_le_succ hfuel) hbehind]
      simp

/-- What is read without a stray brace is what the template stands for. -/
theorem tokens_pieces {template : String} {tokens : List Token}
    (h : tokens? template.toList = some tokens) :
    (pieces template).flatMap Piece.tokens = tokens :=
  tokens_piecesFrom h (Nat.le_of_eq String.length_toList) (by simp)

end Template

namespace Snippet

open Template (Token tokens? tokens?_plain)

/-! ## Reading the template of a snippet -/

/-- What the template of a piece says. -/
def Piece.tokens : Piece → List Token
  | char c => [.char c]
  | quoted _ => [.char '"', .field [], .char '"']
  | number _ => [.field [':', 'd']]

private theorem tokens?_template_append (piece : Piece) (cs : List Char) :
    tokens? (piece.template ++ cs) = (tokens? cs).map (piece.tokens ++ ·) := by
  cases piece with
  | char c =>
      by_cases hopen : c = '\x7b'
      · subst hopen
        rfl
      · by_cases hclose : c = '\x7d'
        · subst hclose
          rfl
        · rw [template_char, if_neg hopen, if_neg hclose]
          exact tokens?_plain hopen hclose cs
  | quoted text =>
      have hquote (cs : List Char) : tokens? ('"' :: cs) = (tokens? cs).map (.char '"' :: ·) :=
        tokens?_plain (by decide) (by decide) cs
      have hfield (cs : List Char) :
          tokens? ('\x7b' :: '\x7d' :: cs) = (tokens? cs).map (.field [] :: ·) := rfl
      change tokens? ('"' :: '\x7b' :: '\x7d' :: '"' :: cs) = _
      rw [hquote, hfield, hquote, Option.map_map, Option.map_map]
      rfl
  | number text => rfl

private theorem tokens?_template (pieces : List Piece) :
    tokens? (pieces.flatMap Piece.template) = some (pieces.flatMap Piece.tokens) := by
  induction pieces with
  | nil => rfl
  | cons piece rest ih =>
      rw [List.flatMap_cons, tokens?_template_append, ih, Option.map_some, List.flatMap_cons]

private theorem countP_tokens (pieces : List Piece) :
    (pieces.flatMap Piece.tokens).countP Token.isField = pieces.countP Piece.isField := by
  induction pieces with
  | nil => rfl
  | cons piece rest ih =>
      rw [List.flatMap_cons, List.countP_append, ih, List.countP_cons, Nat.add_comm]
      cases piece <;> rfl

/-! ## Filling it again -/

/-- Puts quoted texts, without their quotes, and numbers into the fields of a template, in order. Each
has to be of the kind of its field, and none may be left. -/
def refill? : List Token → List Piece → Option (List Char)
  | [], [] => some []
  | .char c :: tokens, fields => (refill? tokens fields).map (c :: ·)
  | .field [] :: tokens, .quoted text :: fields => (refill? tokens fields).map (text ++ ·)
  | .field [':', 'd'] :: tokens, .number text :: fields => (refill? tokens fields).map (text ++ ·)
  | _, _ => none

private theorem refill?_tokens (pieces : List Piece) :
    refill? (pieces.flatMap Piece.tokens) (pieces.filter Piece.isField) =
      some (pieces.flatMap Piece.source) := by
  induction pieces with
  | nil => rfl
  | cons piece rest ih =>
      rw [List.flatMap_cons, List.flatMap_cons]
      cases piece with
      | char c =>
          rw [List.filter_cons_of_neg (by simp [Piece.isField])]
          simp [Piece.tokens, Piece.source, refill?, ih]
      | quoted text =>
          rw [List.filter_cons_of_pos rfl]
          simp [Piece.tokens, Piece.source, refill?, ih]
      | number text =>
          rw [List.filter_cons_of_pos rfl]
          simp [Piece.tokens, Piece.source, refill?, ih]

/-- The template of a snippet is read from left to right without a stray brace, and it is cut into the
same by what registers it. Its fields are as many as the snippet counts. The step is cut into quoted
texts, numbers and other characters, and with the quoted texts and the numbers back in the fields
the template is the text of the step. -/
theorem refill_of_pattern (text : String) :
    ∃ tokens, tokens? (pattern text).1.toList = some tokens ∧
      (Template.pieces (pattern text).1).flatMap Template.Piece.tokens = tokens ∧
      tokens.countP Token.isField = (pattern text).2 ∧
      IsCut (pieces text) ∧
      refill? tokens ((pieces text).filter Piece.isField) = some text.toList := by
  have htokens : tokens? (pattern text).1.toList = some ((pieces text).flatMap Piece.tokens) := by
    rw [toList_pattern, tokens?_template]
  obtain ⟨hsource, hcut⟩ := source_pieces text
  refine ⟨_, htokens, Template.tokens_pieces htokens, countP_tokens (pieces text), hcut, ?_⟩
  rw [refill?_tokens, hsource]

/-- Braces directly beside a number and a quoted text. -/
example : pattern "\x7b12\x7d\x7b\"a\"\x7d" =
    ("\x7b\x7b\x7b:d\x7d\x7d\x7d\x7b\x7b\"\x7b\x7d\"\x7d\x7d", 2) := by
  decide +kernel

end Snippet

end FeatureSuite

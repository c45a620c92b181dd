import FeatureSuite.Proofs.Regex.Preferred
import FeatureSuite.Proofs.Regex.Reads
import FeatureSuite.Step.Template.Compile
import Mathlib

/-!
# Plain fields

Fields without a name, for text and for whole numbers: how they stand in templates, the regular
expressions that they become, how these are read, and what they take from a text.
-/

namespace FeatureSuite.Template

open Regex (MatchState ReaderState Prefers prefers_greedy TakesSome Leads alternatives)

/-! ## Expressions -/

/-- The flags of the regular expressions of templates. -/
def lineFlags : Regex.Flags := { dotAll := true }

def textField : Regex := .repeat 1 none .lazy (.any true)

/-- A sign or a blank, or nothing. -/
def signMark : Regex :=
  .repeat 0 (some 1) .greedy (.set false [.range '-' '-', .range '+' '+', .range ' ' ' '] .exact)

def digitRun (items : List SetItem) : Regex := .repeat 1 none .greedy (.set false items .exact)

/-- Digits of a base behind its mark. -/
def digitsOfBase (mark : List Char) (items : List SetItem) : Regex :=
  .seq [signMark, .char '0' .exact, .set false (mark.map fun c => .range c c) .exact, digitRun items]

def numberField : Regex :=
  .choice
    [.seq [signMark, signMark, digitRun [.range '0' '9']],
      digitsOfBase ['x', 'X'] [.range '0' '9', .range 'a' 'f', .range 'A' 'F'],
      digitsOfBase ['b', 'B'] [.range '0' '0', .range '1' '1'],
      digitsOfBase ['o', 'O'] [.range '0' '7']]

def textFieldText : String := ".+?"

def numberFieldText : String :=
  "[-+ ]?[-+ ]?[0-9]+|[-+ ]?0[xX][0-9a-fA-F]+|[-+ ]?0[bB][01]+|[-+ ]?0[oO][0-7]+"

/-! ## Fields in templates -/

@[simp] private theorem isNameChar_closing : isNameChar '\x7d' = false := by decide +kernel

@[simp] private theorem isNameChar_colon : isNameChar ':' = false := by decide +kernel

theorem fieldAt?_closing (rest : List Char) : fieldAt? ('\x7d' :: rest) = some ([], rest) := by
  have hspan : spanName ('\x7d' :: rest) = ([], '\x7d' :: rest) := by
    rw [spanName, List.takeWhile_cons_of_neg (by simp [isNameChar_closing]),
      List.dropWhile_cons_of_neg (by simp [isNameChar_closing])]
  rw [fieldAt?, hspan]
  rfl

private theorem fieldAt?_number (rest : List Char) :
    fieldAt? (':' :: 'd' :: '\x7d' :: rest) = some ([':', 'd'], rest) := by
  have hspan : spanName (':' :: 'd' :: '\x7d' :: rest) = ([], ':' :: 'd' :: '\x7d' :: rest) := by
    rw [spanName, List.takeWhile_cons_of_neg (by simp [isNameChar_colon]),
      List.dropWhile_cons_of_neg (by simp [isNameChar_colon])]
  rw [fieldAt?, hspan]
  rfl

theorem add_textField (fields : Fields) :
    fields.add [] [] = .ok (String.ofList ('(' :: (textFieldText.toList ++ [')'])),
      { fields with
        plain := fields.plain ++ [⟨fields.groups, .text⟩], groups := fields.groups + 1 }) := by
  rfl

theorem add_numberField (fields : Fields) :
    fields.add [] [':', 'd'] = .ok (String.ofList ('(' :: (numberFieldText.toList ++ [')'])),
      { fields with
        plain := fields.plain ++ [⟨fields.groups, .int none⟩], groups := fields.groups + 1 }) := by
  rfl

/-! ## Templates in pieces -/

theorem piecesFrom_openBrace (fuel : Nat) (before rest : List Char) :
    piecesFrom (fuel + 1) before ('\x7b' :: '\x7b' :: rest) =
      textPiece before.reverse ++ .openBrace :: piecesFrom fuel [] rest := rfl

theorem piecesFrom_closeBrace (fuel : Nat) (before rest : List Char) :
    piecesFrom (fuel + 1) before ('\x7d' :: '\x7d' :: rest) =
      textPiece before.reverse ++ .closeBrace :: piecesFrom fuel [] rest := rfl

theorem piecesFrom_field {rest inner after : List Char} (hhead : rest.head? ≠ some '\x7b')
    (h : fieldAt? rest = some (inner, after)) (fuel : Nat) (before : List Char) :
    piecesFrom (fuel + 1) before ('\x7b' :: rest) =
      textPiece before.reverse ++ .field inner :: piecesFrom fuel [] after := by
  rw [piecesFrom, h]
  rintro _ rfl
  exact hhead rfl

theorem piecesFrom_plain {c : Char} (hopen : c ≠ '\x7b') (hclose : c ≠ '\x7d') (fuel : Nat)
    (before rest : List Char) :
    piecesFrom (fuel + 1) before (c :: rest) = piecesFrom fuel (c :: before) rest := by
  rw [piecesFrom]
  · rintro rfl
    exact hopen rfl
  · rintro _ rfl
    exact absurd rfl hclose

theorem piecesFrom_quotes (fuel : Nat) (before rest : List Char) :
    piecesFrom (fuel + 3) before ('"' :: '\x7b' :: '\x7d' :: '"' :: rest) =
      textPiece ('"' :: before).reverse ++ .field [] :: piecesFrom fuel ['"'] rest := by
  have hopen : ('"' : Char) ≠ '\x7b' := by decide
  have hclose : ('"' : Char) ≠ '\x7d' := by decide
  rw [piecesFrom_plain hopen hclose,
    piecesFrom_field (by simp) (fieldAt?_closing ('"' :: rest)), piecesFrom_plain hopen hclose]

theorem piecesFrom_number (fuel : Nat) (before rest : List Char) :
    piecesFrom (fuel + 1) before ('\x7b' :: ':' :: 'd' :: '\x7d' :: rest) =
      textPiece before.reverse ++ .field [':', 'd'] :: piecesFrom fuel [] rest :=
  piecesFrom_field (by simp) (fieldAt?_number rest) fuel before

theorem textPiece_eq_literal {text : List Char} (hne : text ≠ [])
    (htext : text.head? ≠ some '\x7b') : textPiece text = [.literal text] := by
  unfold textPiece
  split
  · exact absurd rfl hne
  · exact absurd rfl htext
  · rfl

section Pattern

variable {types : CustomTypes} {fields fields' : Fields} {rest : List Piece} {pattern : List Char}

theorem patternOf_openBrace
    (h : patternOf types fields rest = .ok (String.ofList pattern, fields')) :
    patternOf types fields (.openBrace :: rest) =
      .ok (String.ofList (['\\', '\x7b'] ++ pattern), fields') := by
  rw [patternOf, h, String.ofList_append]
  rfl

theorem patternOf_closeBrace
    (h : patternOf types fields rest = .ok (String.ofList pattern, fields')) :
    patternOf types fields (.closeBrace :: rest) =
      .ok (String.ofList (['\\', '\x7d'] ++ pattern), fields') := by
  rw [patternOf, h, String.ofList_append]
  rfl

theorem patternOf_field {inner field : List Char} {between : Fields}
    (hfield : fields.add types inner = .ok (String.ofList field, between))
    (h : patternOf types between rest = .ok (String.ofList pattern, fields')) :
    patternOf types fields (.field inner :: rest) =
      .ok (String.ofList (field ++ pattern), fields') := by
  rw [patternOf, hfield, String.ofList_append]
  change (patternOf types between rest >>= _) = _
  rw [h]
  rfl

theorem patternOf_textPiece {text : List Char} (htext : text.head? ≠ some '\x7b')
    (h : patternOf types fields rest = .ok (String.ofList pattern, fields')) :
    patternOf types fields (textPiece text ++ rest) =
      .ok (String.ofList (escapeLiteral text ++ pattern), fields') := by
  cases text with
  | nil => exact h
  | cons c text =>
      rw [textPiece_eq_literal (List.cons_ne_nil c text) htext, List.singleton_append, patternOf, h,
        String.ofList_append]
      rfl

end Pattern

/-! ## Reading -/

variable {fuel : Nat} {state : ReaderState} {tail : List Char}

theorem run_textField (h : state.rest = textFieldText.toList ++ ')' :: tail) :
    (alternatives (fuel + 4) lineFlags false []).run state =
      .ok ((textField, lineFlags), state.at (')' :: tail) textFieldText.toList.length) := by
  obtain ⟨rest, place, flags, groups, names, lookBehindGroups, conditions⟩ := state
  obtain rfl := h
  cbv

theorem run_numberField (h : state.rest = numberFieldText.toList ++ ')' :: tail) :
    (alternatives (fuel + 15) lineFlags false []).run state =
      .ok ((numberField, lineFlags), state.at (')' :: tail) numberFieldText.toList.length) := by
  obtain ⟨rest, place, flags, groups, names, lookBehindGroups, conditions⟩ := state
  obtain rfl := h
  cbv

/-! ## Preferred ways -/

section Preferred

variable {text : Array Char} {state : MatchState} {tail : List Char}

@[simp] private theorem setContains_digits (c : Char) :
    Regex.setContains [.range '0' '9'] .exact c = c.isDigit := by
  simp only [Regex.setContains, Regex.itemContains, Folding.variants, List.any_cons, List.any_nil,
    Bool.or_false]
  rfl

private theorem setContains_sign {c : Char} (h : c.isDigit = true) :
    Regex.setContains [.range '-' '-', .range '+' '+', .range ' ' ' '] .exact c = false := by
  refine Bool.eq_false_iff.mpr fun hset => ?_
  simp only [Regex.setContains, Regex.itemContains, Folding.variants, List.any_cons, List.any_nil,
    Bool.or_false, Bool.or_eq_true, Bool.and_eq_true, decide_eq_true_eq] at hset
  rcases hset with ⟨hle, hge⟩ | ⟨hle, hge⟩ | ⟨hle, hge⟩ <;>
    cases Char.le_antisymm hle hge <;> cases h

theorem prefers_numberField {sign digits : List Char} (hsign : sign = [] ∨ sign = ['-'])
    (hne : digits ≠ []) (hdigits : ∀ c ∈ digits, c.isDigit = true)
    (htail : tail.head?.all (·.isDigit = false) = true)
    (htext : text.toList.drop state.place = sign ++ (digits ++ tail)) :
    Prefers text numberField state (state.past (sign ++ digits)) := by
  have hrest : text.toList.drop (state.past sign).place = digits ++ tail := by
    rw [MatchState.past, ← List.drop_drop, htext, List.drop_left]
  obtain ⟨d, ds, rfl⟩ := List.exists_cons_of_ne_nil hne
  have hfirst : (Regex.setContains [.range '-' '-', .range '+' '+', .range ' ' ' '] .exact d) = false :=
    setContains_sign (hdigits d List.mem_cons_self)
  have hmark : Prefers text signMark state (state.past sign) := by
    refine prefers_greedy htext ?_ ?_ (Nat.zero_le _) ?_
    · rcases hsign with rfl | rfl
      · exact List.forall_mem_nil _
      · simp; decide
    · rcases hsign with rfl | rfl
      · exact .inl (by simpa using hfirst)
      · exact .inr rfl
    · rintro bound ⟨⟩
      rcases hsign with rfl | rfl <;> simp
  have hnone : Prefers text signMark (state.past sign) (state.past sign) := by
    exact prefers_greedy (show _ = [] ++ _ from hrest) (List.forall_mem_nil _)
      (.inl (by simpa using hfirst)) (Nat.zero_le _) (fun _ _ => Nat.zero_le _)
  have hrun : Prefers text (digitRun [.range '0' '9']) (state.past sign)
      ((state.past sign).past (d :: ds)) := by
    refine prefers_greedy hrest (fun c hc => ?_) (.inl ?_) (by simp) (by simp)
    · rw [setContains_digits, hdigits c hc]
    · simpa only [setContains_digits] using htail
  have hall : Prefers text (.seq ([signMark] ++ ([signMark] ++ [digitRun [.range '0' '9']]))) state
      ((state.past sign).past (d :: ds)) := hmark.append (hnone.append hrun)
  have hpast : (state.past sign).past (d :: ds) = state.past (sign ++ d :: ds) := by
    simp [MatchState.past, Nat.add_assoc]
  rw [← hpast]
  exact hall.alt_left

end Preferred

/-! ## What fields take -/

theorem takesSome_textField {text : Array Char} {before after : MatchState}
    (h : textField.Leads text before after) : TakesSome text (fun _ => true) 1 before after :=
  h.takesSome.mono (fun _ _ => rfl) (Nat.le_refl _)

theorem takesSome_numberField {text : Array Char} {before after : MatchState}
    (h : numberField.Leads text before after) :
    TakesSome text (fun c => c ≠ '"' && c.toNat < 128) 1 before after := by
  refine h.takesSome.mono (fun c hc => ?_) (by decide)
  have hrange {a b : Char} (hquote : b.toNat < '"'.toNat ∨ '"'.toNat < a.toNat) (hb : b.toNat < 128)
      (h : a ≤ c ∧ c ≤ b) : (c ≠ '"' && c.toNat < 128) = true := by
    have hle : a.toNat ≤ c.toNat := h.1
    have hge : c.toNat ≤ b.toNat := h.2
    have hne : c ≠ '"' := by
      rintro rfl
      omega
    simp [hne]
    omega
  simp only [numberField, digitsOfBase, signMark, digitRun, Regex.choice, Regex.seq, Regex.admits,
    Regex.setContains, Regex.itemContains, Folding.variants, List.map_cons, List.map_nil, List.any_cons,
    List.any_nil, Bool.or_false, Bool.bne_false, Bool.or_eq_true, Bool.and_eq_true,
    decide_eq_true_eq] at hc
  have hsign (h : '-' ≤ c ∧ c ≤ '-' ∨ '+' ≤ c ∧ c ≤ '+' ∨ ' ' ≤ c ∧ c ≤ ' ') :
      (c ≠ '"' && c.toNat < 128) = true := by
    rcases h with h | h | h <;> exact hrange (by decide) (by decide) h
  have hzero (h : Folding.exact.same '0' c = true) : (c ≠ '"' && c.toNat < 128) = true := by
    obtain rfl := eq_of_beq h
    rfl
  rcases hc with (h | h | h) | (h | h | (h | h) | h | h | h) | (h | h | (h | h) | h | h) |
    (h | h | (h | h) | h)
  all_goals first
    | exact hsign h
    | exact hzero h
    | exact hrange (by decide) (by decide) h

/-! ## Values -/

theorem toNat_of_isDigit {c : Char} (h : c.isDigit = true) : 48 ≤ c.toNat ∧ c.toNat ≤ 57 := by
  rw [Char.isDigit, Bool.and_eq_true, decide_eq_true_eq, decide_eq_true_eq] at h
  exact ⟨h.1, h.2⟩

private theorem toLower_of_isDigit {c : Char} (h : c.isDigit = true) : c.toLower = c := by
  have hcode := toNat_of_isDigit h
  have hupper : ¬(c.val ≥ 'A'.val ∧ c.val ≤ 'Z'.val) := fun hle => by
    have hle : 65 ≤ c.toNat := hle.1
    omega
  exact dif_neg hupper

private theorem namedBase_digits {digits : List Char} (hdigits : ∀ c ∈ digits, c.isDigit = true) :
    namedBase digits = 10 := by
  unfold namedBase
  split
  · rename_i mark d rest
    have hmark : mark.isDigit = true := hdigits mark (by simp)
    have hne (letter : Char) (h : letter.isDigit = false) : mark ≠ letter := by
      rintro rfl
      rw [hmark] at h
      cases h
    simp [hne]
  · rfl

theorem wholeNumber_digits {sign digits : List Char} (hsign : sign = [] ∨ sign = ['-'])
    (hne : digits ≠ []) (hdigits : ∀ c ∈ digits, c.isDigit = true) :
    wholeNumber none (String.ofList (sign ++ digits)) =
      if mostDigits < digits.length then .error (.tooManyDigits digits.length)
      else
        let n : Nat := digits.foldl (fun n c => n * 10 + digitOf c) 0
        .ok (.int (if sign = ['-'] then -(n : Int) else n)) := by
  obtain ⟨d, ds, rfl⟩ := List.exists_cons_of_ne_nil hne
  have hd := toNat_of_isDigit (hdigits d List.mem_cons_self)
  have hsplit : Numeral.splitSign (sign ++ d :: ds) = (decide (sign = ['-']), d :: ds) := by
    rcases hsign with rfl | rfl
    · unfold Numeral.splitSign
      split
      · rename_i heq
        cases heq
        simp at hd
      · rename_i heq
        cases heq
        simp at hd
      · simp
    · rfl
  have hlower : Text.lower (String.ofList (sign ++ d :: ds)) = String.ofList (sign ++ d :: ds) := by
    refine Text.lower_eq_self fun c hc => ?_
    rw [String.toList_ofList, List.mem_append] at hc
    rcases hc with hc | hc
    · rcases hsign with rfl | rfl
      · cases hc
      · obtain rfl := List.mem_singleton.mp hc
        decide
    · have hcode := toNat_of_isDigit (hdigits c hc)
      exact ⟨by omega, toLower_of_isDigit (hdigits c hc)⟩
  have hfilter : (sign ++ d :: ds).filter (fun c =>
      (c.isDigit || ('a' ≤ c && c ≤ 'z')) && decide (digitOf c < 10)) = d :: ds := by
    have hall : (d :: ds).filter (fun c =>
        (c.isDigit || ('a' ≤ c && c ≤ 'z')) && decide (digitOf c < 10)) = d :: ds := by
      refine List.filter_eq_self.mpr fun c hc => ?_
      have hcode := toNat_of_isDigit (hdigits c hc)
      simp [digitOf, hdigits c hc]
      omega
    rw [List.filter_append, hall]
    rcases hsign with rfl | rfl <;> rfl
  unfold wholeNumber
  simp only [String.toList_ofList, hsplit, Option.getD_none, namedBase_digits hdigits, hlower, hfilter,
    true_and]
  split <;> simp [pure, Except.pure, throw, throwThe, MonadExceptOf.throw]

end FeatureSuite.Template

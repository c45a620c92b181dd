import FeatureSuite.Proofs.Step.Operands

/-!
# Tokens in brackets

A text in brackets has its own tokens between the two brackets, unless it ends with a backslash
inside a token: the backslash then takes the closing bracket into this token.
-/

namespace FeatureSuite.TagExpression

/-- Whether a text ends with a backslash inside a token, of which `current` has been read. -/
def breaksOff : (current : List Char) → List Char → Bool
  | _, [] => false
  | current, ['\\'] => !current.isEmpty
  | current, '\\' :: c :: rest => breaksOff (c :: current) rest
  | current, c :: rest =>
      if c = '(' || c = ')' || Text.isBlank c then breaksOff [] rest
      else breaksOff (c :: current) rest

/-- Whether a text can be put in brackets: it has a token, and does not end with a backslash inside
of one. -/
def Bracketable (condition : String) : Prop :=
  tokens condition ≠ .ok [] ∧ breaksOff [] condition.toList = false

instance (condition : String) : Decidable (Bracketable condition) :=
  inferInstanceAs (Decidable (_ ∧ _))

/-! ## Cutting at separators -/

/-- The token that a separator is, if it is one. -/
def separatorToken (c : Char) : List String := if c = ' ' then [] else [String.singleton c]

theorem tokensFrom_separator {text : String} {c : Char}
    (hc : (c = '(' || c = ')' || Text.isBlank c) = true) {current rest : List Char}
    {ws : List String} :
    tokensFrom text current (c :: rest) = .ok ws ↔
      ∃ later, tokensFrom text [] rest = .ok later ∧
        ws = closeToken current ++ separatorToken c ++ later := by
  have hslash : c ≠ '\\' := by
    rintro rfl
    revert hc
    decide
  rw [tokensFrom, if_pos hc, bind_eq_ok]
  · exact exists_congr fun later => and_congr_right fun _ => pure_eq_ok.trans eq_comm
  · exact fun h => absurd h hslash
  · exact fun _ _ h => absurd h hslash

private theorem tokensFrom_character {text : String} {c : Char} (hslash : c ≠ '\\')
    (hc : (c = '(' || c = ')' || Text.isBlank c) = false) (current rest : List Char) :
    tokensFrom text current (c :: rest) = tokensFrom text (c :: current) rest := by
  rw [tokensFrom, if_neg (by rw [hc]; exact Bool.false_ne_true)]
  · exact fun h => absurd h hslash
  · exact fun _ _ h => absurd h hslash

/-- What stands behind a bracket: nothing, a space or a closing bracket. -/
def Apart (rest : List Char) : Prop :=
  rest = [] ∨ ∃ c later, (c = ' ' ∨ c = ')') ∧ rest = c :: later

private theorem Apart.cons {c : Char}
    (hc : c = ' ' ∨ c = ')') (later : List Char) : Apart (c :: later) :=
  .inr ⟨c, later, hc, rfl⟩

private theorem Apart.tokensFrom {text : String} {rest : List Char} {more : List String}
    (hrest : Apart rest) (h : tokensFrom text [] rest = .ok more) (current : List Char) :
    TagExpression.tokensFrom text current rest = .ok (closeToken current ++ more) := by
  rcases hrest with rfl | ⟨c, later, hc, rfl⟩
  · cases h
    exact congrArg Except.ok (List.append_nil _).symm
  · have hseparator : (c = '(' || c = ')' || Text.isBlank c) = true := by
      rcases hc with rfl | rfl <;> decide
    obtain ⟨behind, hbehind, rfl⟩ := (tokensFrom_separator hseparator).mp h
    refine (tokensFrom_separator hseparator).mpr ⟨behind, hbehind, ?_⟩
    simp [closeToken]

/-! ## Texts in brackets -/

/-- The tokens of a text when a closing bracket stands behind it. -/
def Closes (broken : Bool) (ws closed : List String) : Prop :=
  if broken then
    ∃ front last, last ≠ "" ∧ ws = front ++ [last] ∧ closed = front ++ [last ++ ")"]
  else closed = ws ++ [")"]

private theorem Closes.append_left {broken : Bool} {ws closed : List String}
    (h : Closes broken ws closed) (before : List String) : Closes broken (before ++ ws)
    (before ++ closed) := by
  cases broken with
  | false =>
      have hclosed : closed = ws ++ [")"] := h
      exact hclosed ▸ (List.append_assoc _ _ _).symm
  | true =>
      obtain ⟨front, last, hlast, rfl, rfl⟩ := h
      exact ⟨before ++ front, last, hlast, (List.append_assoc _ _ _).symm,
        (List.append_assoc _ _ _).symm⟩

private theorem closes_of_tokensFrom {source : String} {current cs : List Char} {ws : List String}
    (h : tokensFrom source current cs = .ok ws) :
    ∃ closed, Closes (breaksOff current cs) ws closed ∧
      ∀ text rest more, Apart rest → tokensFrom text [] rest = .ok more →
        tokensFrom text current (cs ++ ')' :: rest) = .ok (closed ++ more) := by
  induction current, cs using tokensFrom.induct generalizing ws with
  | case1 current =>
      cases h
      refine ⟨closeToken current ++ [")"], by rw [breaksOff]; rfl, fun text rest more _ hmore => ?_⟩
      exact (tokensFrom_separator (by decide)).mpr ⟨more, hmore, rfl⟩
  | case2 current =>
      -- The bracket is escaped, and so goes into the token that is being read.
      cases h
      refine ⟨closeToken (')' :: current), ?_, fun text rest more hrest hmore => ?_⟩
      · cases current with
        | nil => rfl
        | cons c current =>
            refine ⟨[], String.ofList (c :: current).reverse, by simp, rfl, ?_⟩
            unfold closeToken
            rw [List.reverse_cons, String.ofList_append]
            rfl
      · exact hrest.tokensFrom hmore (')' :: current)
  | case3 current c rest hescaped ih =>
      rw [tokensFrom, if_pos hescaped] at h
      obtain ⟨closed, hcloses, hclosed⟩ := ih h
      refine ⟨closed, by rwa [breaksOff], fun text later more hlater hmore => ?_⟩
      rw [List.cons_append, List.cons_append, tokensFrom, if_pos hescaped]
      exact hclosed text later more hlater hmore
  | case4 current c rest hescaped =>
      rw [tokensFrom, if_neg hescaped] at h
      cases h
  | case5 current c rest hlast hescape hseparator ih =>
      obtain ⟨behind, hbehind, rfl⟩ := (tokensFrom_separator hseparator).mp h
      obtain ⟨closed, hcloses, hclosed⟩ := ih hbehind
      refine ⟨_, ?_, fun text later more hlater hmore =>
        (tokensFrom_separator hseparator).mpr ⟨_, hclosed text later more hlater hmore,
          (List.append_assoc _ _ _)⟩⟩
      rw [breaksOff.eq_4 _ _ _ hlast hescape, if_pos hseparator]
      exact hcloses.append_left _
  | case6 current c rest hlast hescape hseparator ih =>
      have hslash : c ≠ '\\' := by
        rintro rfl
        cases rest with
        | nil => exact hlast rfl rfl
        | cons next rest => exact hescape next rest rfl rfl
      have hcharacter := Bool.eq_false_iff.mpr hseparator
      rw [tokensFrom_character hslash hcharacter] at h
      obtain ⟨closed, hcloses, hclosed⟩ := ih h
      refine ⟨closed, ?_, fun text later more hlater hmore => ?_⟩
      · rw [breaksOff.eq_4 _ _ _ hlast hescape, if_neg hseparator]
        exact hcloses
      · rw [List.cons_append, tokensFrom_character hslash hcharacter]
        exact hclosed text later more hlater hmore

/-- A text that is cut into these tokens wherever a bracket, a space or the end stands behind it. -/
def Lexes (cs : List Char) (ws : List String) : Prop :=
  ∀ text rest more, Apart rest → tokensFrom text [] rest = .ok more →
    tokensFrom text [] (cs ++ rest) = .ok (ws ++ more)

namespace Lexes

variable {cs ds : List Char} {ws vs : List String}

private theorem of_tokens {condition : String} (h : tokens condition = .ok ws) :
    ∃ closed, Closes (breaksOff [] condition.toList) ws closed ∧
      Lexes ('(' :: condition.toList ++ [')']) ("(" :: closed) := by
  obtain ⟨closed, hcloses, hclosed⟩ := closes_of_tokensFrom h
  refine ⟨closed, hcloses, fun text rest more hrest hmore => ?_⟩
  rw [List.append_assoc]
  exact (tokensFrom_separator (by decide)).mpr ⟨_, hclosed text rest more hrest hmore, rfl⟩

theorem bracketed (h : Lexes cs ws) : Lexes ('(' :: cs ++ [')']) ("(" :: ws ++ [")"]) := by
  intro text rest more hrest hmore
  have hclose : tokensFrom text [] (')' :: rest) = .ok (")" :: more) :=
    (tokensFrom_separator (by decide)).mpr ⟨more, hmore, rfl⟩
  have hinside := h text (')' :: rest) _ (.cons (.inr rfl) rest) hclose
  rw [List.append_assoc]
  refine (tokensFrom_separator (by decide)).mpr ⟨_, hinside, ?_⟩
  simp [closeToken, separatorToken]

theorem and (hcs : Lexes cs ws) (hds : Lexes ds vs) :
    Lexes (cs ++ " and ".toList ++ ds) (ws ++ "and" :: vs) := by
  intro text rest more hrest hmore
  have hright := hds text rest more hrest hmore
  have hword : tokensFrom text ['d', 'n', 'a'] (' ' :: (ds ++ rest)) =
      .ok ("and" :: vs ++ more) :=
    (tokensFrom_separator (by decide)).mpr ⟨_, hright, rfl⟩
  have hmiddle : tokensFrom text [] (" and ".toList ++ (ds ++ rest)) =
      .ok ("and" :: vs ++ more) := by
    refine (tokensFrom_separator (by decide)).mpr ⟨_, ?_, rfl⟩
    exact hword
  rw [List.append_assoc, List.append_assoc, List.append_assoc]
  exact hcs text (" and ".toList ++ (ds ++ rest)) _ (.cons (.inl rfl) _) hmiddle

theorem tokens {text : String} (h : Lexes text.toList ws) :
    TagExpression.tokens text = .ok ws := by
  have hwhole := h text [] [] (.inl rfl) rfl
  rwa [List.append_nil, List.append_nil] at hwhole

end Lexes

private theorem count_of_closes_broken {ws closed : List String} {c : TagExpression}
    (h : Closes true ws closed) (haccepts : Accepts ws c) :
    closed.count ")" ≤ closed.count "(" := by
  obtain ⟨front, last, hlast, rfl, rfl⟩ := h
  obtain ⟨_, _, _, hread, _⟩ := haccepts
  have hfront := hread.count_prefix_le
  have hother : last ++ ")" ≠ ")" := by simpa using hlast
  rw [List.count_append, List.count_append, List.count_cons_of_ne hother]
  exact Nat.le_add_right_of_le hfront

/-- An expression that is read on its own is an operand in brackets if it can be put there, and can
otherwise never be read there. -/
theorem bracket_of_parse {condition : String} {c : TagExpression} (h : parse condition = .ok c) :
    ∃ ws, Lexes ('(' :: condition.toList ++ [')']) ws ∧ ws.count ")" ≤ ws.count "(" ∧
      (Bracketable condition → IsOperand ws c) ∧ (¬Bracketable condition → Unreadable ws) := by
  obtain ⟨ws, htokens, hread⟩ := parse_eq_ok.mp h
  obtain ⟨closed, hcloses, hlexes⟩ := Lexes.of_tokens htokens
  refine ⟨_, hlexes, ?_⟩
  rcases hread with ⟨rfl, rfl⟩ | haccepts
  · have hblank : ¬Bracketable condition := fun h => h.1 htokens
    have hunbroken : breaksOff [] condition.toList = false := by
      cases hbroken : breaksOff [] condition.toList with
      | false => rfl
      | true =>
          rw [hbroken] at hcloses
          obtain ⟨front, last, _, hnil, _⟩ := hcloses
          exact absurd hnil (by simp)
    rw [hunbroken] at hcloses
    have hclosed : closed = [")"] := hcloses
    subst hclosed
    exact ⟨by decide, fun h => absurd h hblank, fun _ => .inl (List.infix_refl _)⟩
  · cases hbroken : breaksOff [] condition.toList with
    | false =>
        rw [hbroken] at hcloses
        have hclosed : closed = ws ++ [")"] := hcloses
        subst hclosed
        have hbracketable : Bracketable condition :=
          ⟨fun hnil => haccepts.1 (Except.ok.inj (htokens.symm.trans hnil)), hbroken⟩
        have hcount := haccepts.count
        refine ⟨?_, fun _ => haccepts.bracketed, fun h => absurd hbracketable h⟩
        simp [List.count_append, hcount]
    | true =>
        rw [hbroken] at hcloses
        have hcount := count_of_closes_broken hcloses haccepts
        have hless : ("(" :: closed).count ")" < ("(" :: closed).count "(" := by
          rw [List.count_cons_of_ne (by decide), List.count_cons_self]
          exact Nat.lt_succ_of_le hcount
        refine ⟨Nat.le_of_lt hless, fun h => ?_, fun _ => .inr hless⟩
        exact absurd (hbroken.symm.trans h.2) (by decide)

end FeatureSuite.TagExpression

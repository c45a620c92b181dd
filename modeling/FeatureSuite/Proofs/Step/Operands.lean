import FeatureSuite.Proofs.Outcome
import FeatureSuite.Step.TagExpression

/-!
# Operands of tag expressions

An expression that is read on its own is an operand once it stands in brackets: whatever has been
read in front of it waits below the bracket on both stacks and is not touched. Brackets that do not
match, and brackets with nothing in them, are never read.
-/

namespace FeatureSuite.TagExpression

/-- What reading a token does to the stacks and to what is expected next, wherever it stands. -/
inductive Reads : Stacks × Bool → String → Stacks × Bool → Prop where
  | not {operators : List Operator} {operands : List TagExpression} :
      Reads (⟨operators, operands⟩, true) "not" (⟨.not :: operators, operands⟩, true)
  | and {operators : List Operator} {operands : List TagExpression} {reduced : Stacks} :
      Stacks.reduce Operator.and.rank operators operands = .ok reduced →
      Reads (⟨operators, operands⟩, false) "and"
        (⟨.and :: reduced.operators, reduced.operands⟩, true)
  | or {operators : List Operator} {operands : List TagExpression} {reduced : Stacks} :
      Stacks.reduce Operator.or.rank operators operands = .ok reduced →
      Reads (⟨operators, operands⟩, false) "or"
        (⟨.or :: reduced.operators, reduced.operands⟩, true)
  | opening {operators : List Operator} {operands : List TagExpression} :
      Reads (⟨operators, operands⟩, true) "(" (⟨.opening :: operators, operands⟩, true)
  | closing {operators left : List Operator} {operands done : List TagExpression}
      {top : Operator} :
      Stacks.reduce 0 operators operands = .ok ⟨top :: left, done⟩ →
      Reads (⟨operators, operands⟩, false) ")" (⟨left, done⟩, false)
  | tag {operators : List Operator} {operands : List TagExpression} {name : String} :
      name ∉ ["not", "and", "or", "(", ")"] →
      Reads (⟨operators, operands⟩, true) name (⟨operators, .tag name :: operands⟩, false)

private theorem step_eq_ok {text token : String} {reading : Stacks} {operand : Bool}
    {before after : List String} {next : Stacks × Bool} :
    reading.step text operand before token after = .ok next ↔
      Reads (reading, operand) token next := by
  obtain ⟨operators, operands⟩ := reading
  constructor
  · intro h
    dsimp only [Stacks.step] at h
    split at h
    · cases operand <;> cases h
      exact .not
    · cases operand with
      | true => cases h
      | false =>
          obtain ⟨reduced, hreduced, h⟩ := bind_eq_ok.mp h
          cases h
          exact .and hreduced
    · cases operand with
      | true => cases h
      | false =>
          obtain ⟨reduced, hreduced, h⟩ := bind_eq_ok.mp h
          cases h
          exact .or hreduced
    · cases operand <;> cases h
      exact .opening
    · cases operand with
      | true => cases h
      | false =>
          obtain ⟨⟨operators, done⟩, hreduced, h⟩ := bind_eq_ok.mp h
          cases operators with
          | nil => cases h
          | cons top left =>
              cases h
              exact .closing hreduced
    · cases operand <;> cases h
      exact .tag (by simp_all)
  · intro h
    cases h with
    | not => rfl
    | and hreduced => exact bind_eq_ok.mpr ⟨_, hreduced, rfl⟩
    | or hreduced => exact bind_eq_ok.mpr ⟨_, hreduced, rfl⟩
    | opening => rfl
    | closing hreduced => exact bind_eq_ok.mpr ⟨_, hreduced, rfl⟩
    | tag hname =>
        dsimp only [Stacks.step]
        split
        case h_6 => rfl
        all_goals exact absurd hname (by decide)

/-- What reading tokens one after the other does. -/
inductive ReadsAll : Stacks × Bool → List String → Stacks × Bool → Prop where
  | nil {state : Stacks × Bool} : ReadsAll state [] state
  | cons {state next last : Stacks × Bool} {token : String} {tokens : List String} :
      Reads state token next → ReadsAll next tokens last → ReadsAll state (token :: tokens) last

private theorem run_eq_ok {text : String} {reading last : Stacks} {operand : Bool}
    {before tokens : List String} :
    Stacks.run text reading operand before tokens = .ok last ↔
      ∃ expected, ReadsAll (reading, operand) tokens (last, expected) := by
  induction tokens generalizing reading operand before with
  | nil =>
      constructor
      · intro h
        cases h
        exact ⟨operand, .nil⟩
      · rintro ⟨_, h⟩
        cases h
        rfl
  | cons token tokens ih =>
      rw [Stacks.run, bind_eq_ok]
      constructor
      · rintro ⟨⟨next, expected⟩, hstep, hrest⟩
        obtain ⟨last, hrest⟩ := ih.mp hrest
        exact ⟨last, .cons (step_eq_ok.mp hstep) hrest⟩
      · rintro ⟨last, h⟩
        cases h with
        | @cons _ next _ _ _ hstep hrest =>
            exact ⟨next, step_eq_ok.mpr hstep, ih.mpr ⟨last, hrest⟩⟩

namespace ReadsAll

variable {state next last : Stacks × Bool} {ws vs : List String}

private theorem append (h : ReadsAll state ws next) (hlater : ReadsAll next vs last) :
    ReadsAll state (ws ++ vs) last := by
  induction h with
  | nil => exact hlater
  | cons hstep _ ih => exact .cons hstep (ih hlater)

private theorem of_append
    (h : ReadsAll state (ws ++ vs) last) : ∃ next, ReadsAll state ws next := by
  induction ws generalizing state with
  | nil => exact ⟨state, .nil⟩
  | cons w ws ih =>
      cases h with
      | cons hstep hrest =>
          obtain ⟨next, hnext⟩ := ih hrest
          exact ⟨next, .cons hstep hnext⟩

end ReadsAll

/-! ## The stacks below a bracket -/

variable {operators left : List Operator} {operands done : List TagExpression}

private theorem apply_below (operator : Operator) (h : Stacks.apply operator operands = .ok done)
    (deep : List TagExpression) :
    Stacks.apply operator (operands ++ deep) = .ok (done ++ deep) := by
  unfold Stacks.apply at h
  split at h <;> cases h <;> rfl

theorem reduce_cons {rank : Nat} {operator : Operator}
    (h : Stacks.reduce rank (operator :: operators) operands = .ok ⟨left, done⟩) :
    ((operator ≠ .opening && rank ≤ operator.rank) = true ∧ operator ≠ .opening ∧
        ∃ applied, Stacks.apply operator operands = .ok applied ∧
          Stacks.reduce rank operators applied = .ok ⟨left, done⟩) ∨
      ((operator ≠ .opening && rank ≤ operator.rank) = false ∧ operator :: operators = left ∧
        operands = done) := by
  rw [Stacks.reduce] at h
  split at h
  · rename_i hbinds
    obtain ⟨applied, happlied, h⟩ := bind_eq_ok.mp h
    exact .inl ⟨hbinds, of_decide_eq_true (Bool.and_eq_true_iff.mp hbinds).1, applied, happlied, h⟩
  · rename_i hbinds
    cases h
    exact .inr ⟨Bool.eq_false_iff.mpr hbinds, rfl, rfl⟩

theorem finish_cons {text : String} {operator : Operator} {c : TagExpression}
    (h : Stacks.finish text (operator :: operators) operands = .ok c) :
    operator ≠ .opening ∧ ∃ applied, Stacks.apply operator operands = .ok applied ∧
      Stacks.finish text operators applied = .ok c := by
  cases operator with
  | opening => cases h
  | not | and | or => exact ⟨nofun, bind_eq_ok.mp h⟩

private theorem reduce_below {rank : Nat}
    (h : Stacks.reduce rank operators operands = .ok ⟨left, done⟩) (below : List Operator)
    (deep : List TagExpression) :
    Stacks.reduce rank (operators ++ .opening :: below) (operands ++ deep) =
      .ok ⟨left ++ .opening :: below, done ++ deep⟩ := by
  induction operators generalizing operands with
  | nil =>
      cases h
      rfl
  | cons operator operators ih =>
      rw [List.cons_append, Stacks.reduce]
      rcases reduce_cons h with ⟨hbinds, _, applied, happlied, h⟩ | ⟨hbinds, rfl, rfl⟩
      · rw [if_pos hbinds]
        exact bind_eq_ok.mpr ⟨_, apply_below operator happlied deep, ih h⟩
      · rw [if_neg (Bool.eq_false_iff.mp hbinds)]
        rfl

private theorem Reads.inside {state next : Stacks × Bool} {token : String}
    (h : Reads state token next) (below : List Operator) (deep : List TagExpression) :
    Reads (⟨state.1.operators ++ .opening :: below, state.1.operands ++ deep⟩, state.2) token
      (⟨next.1.operators ++ .opening :: below, next.1.operands ++ deep⟩, next.2) := by
  cases h with
  | not => exact .not
  | and hreduced => exact .and (reduce_below hreduced below deep)
  | or hreduced => exact .or (reduce_below hreduced below deep)
  | opening => exact .opening
  | closing hreduced => exact .closing (reduce_below hreduced below deep)
  | tag hname => exact .tag hname

private theorem ReadsAll.inside {state last : Stacks × Bool} {ws : List String}
    (h : ReadsAll state ws last) (below : List Operator) (deep : List TagExpression) :
    ReadsAll (⟨state.1.operators ++ .opening :: below, state.1.operands ++ deep⟩, state.2) ws
      (⟨last.1.operators ++ .opening :: below, last.1.operands ++ deep⟩, last.2) := by
  induction h with
  | nil => exact .nil
  | cons hstep _ ih => exact .cons (hstep.inside below deep) ih

/-! ## The number of operands -/

def Operator.isBinary : Operator → Bool
  | .and | .or => true
  | .not | .opening => false

/-- Every operator of two operands has one of them on the stack; the other one is expected. -/
def Counted (state : Stacks × Bool) : Prop :=
  state.1.operands.length =
    state.1.operators.countP Operator.isBinary + if state.2 then 0 else 1

theorem length_apply {operator : Operator} (hopen : operator ≠ .opening)
    (h : Stacks.apply operator operands = .ok done) :
    done ≠ [] ∧ operands.length = done.length + if operator.isBinary then 1 else 0 := by
  unfold Stacks.apply at h
  split at h <;> cases h
  all_goals first | exact ⟨List.cons_ne_nil _ _, rfl⟩ | exact absurd rfl hopen

private theorem length_reduce {rank : Nat}
    (h : Stacks.reduce rank operators operands = .ok ⟨left, done⟩) :
    operands.length + left.countP Operator.isBinary =
      done.length + operators.countP Operator.isBinary := by
  induction operators generalizing operands with
  | nil =>
      cases h
      rfl
  | cons operator operators ih =>
      rcases reduce_cons h with ⟨_, hopen, applied, happlied, h⟩ | ⟨_, rfl, rfl⟩
      · have hlength := (length_apply hopen happlied).2
        have hrest := ih h
        rw [List.countP_cons]
        omega
      · rfl

private theorem head_of_reduce {top : Operator}
    (h : Stacks.reduce 0 operators operands = .ok ⟨top :: left, done⟩) : top = .opening := by
  induction operators generalizing operands with
  | nil => cases h
  | cons operator operators ih =>
      rcases reduce_cons h with ⟨_, _, applied, _, h⟩ | ⟨hbinds, hleft, rfl⟩
      · exact ih h
      · cases hleft
        simpa using hbinds

private theorem Reads.counted {state next : Stacks × Bool} {token : String}
    (h : Reads state token next) (hstate : Counted state) : Counted next := by
  unfold Counted at hstate ⊢
  cases h with
  | not => simpa [List.countP_cons, Operator.isBinary] using hstate
  | and hreduced | or hreduced =>
      have hlength := length_reduce hreduced
      simp [List.countP_cons, Operator.isBinary] at hstate ⊢
      omega
  | opening => simpa [List.countP_cons, Operator.isBinary] using hstate
  | closing hreduced =>
      -- What is dropped is the bracket itself, which no operand waits for.
      have hlength := length_reduce hreduced
      have htop := head_of_reduce hreduced
      subst htop
      simp [Operator.isBinary] at hlength hstate ⊢
      omega
  | tag hname =>
      simp at hstate ⊢
      omega

private theorem ReadsAll.counted {state last : Stacks × Bool} {ws : List String}
    (h : ReadsAll state ws last) (hstate : Counted state) : Counted last := by
  induction h with
  | nil => exact hstate
  | cons hstep _ ih => exact ih (hstep.counted hstate)

private theorem ReadsAll.pending {state last : Stacks × Bool} {ws : List String}
    (h : ReadsAll state ws last) (hws : ws ≠ []) (hlast : last.2 = true) :
    last.1.operators ≠ [] := by
  induction h with
  | nil => exact absurd rfl hws
  | @cons state next last token tokens hstep hrest ih =>
      cases tokens with
      | cons _ _ => exact ih (List.cons_ne_nil _ _) hlast
      | nil =>
          cases hrest
          cases hstep
          case not | and | or | opening => exact List.cons_ne_nil _ _
          all_goals cases hlast

/-! ## Expressions on their own and in brackets -/

variable {c : TagExpression}

private theorem operators_of_finish {text : String}
    (h : Stacks.finish text operators operands = .ok c)
    (hcount : operands.length = operators.countP Operator.isBinary) : operators = [] := by
  induction operators generalizing operands with
  | nil => rfl
  | cons operator operators ih =>
      obtain ⟨hopen, applied, happlied, h⟩ := finish_cons h
      obtain ⟨hsome, hlength⟩ := length_apply hopen happlied
      rw [List.countP_cons] at hcount
      have hlast : operators = [] := ih h (by omega)
      subst hlast
      rw [List.countP_nil] at hcount
      exact absurd (List.length_eq_zero_iff.mp (by omega)) hsome

private theorem reduce_of_finish {text : String}
    (h : Stacks.finish text operators operands = .ok c)
    (hcount : operands.length = operators.countP Operator.isBinary + 1) (below : List Operator)
    (deep : List TagExpression) :
    Stacks.reduce 0 (operators ++ .opening :: below) (operands ++ deep) =
      .ok ⟨.opening :: below, c :: deep⟩ := by
  induction operators generalizing operands with
  | nil =>
      obtain ⟨only, rfl⟩ := List.length_eq_one_iff.mp hcount
      cases h
      rfl
  | cons operator operators ih =>
      obtain ⟨hopen, applied, happlied, h⟩ := finish_cons h
      have hlength := (length_apply hopen happlied).2
      rw [List.countP_cons] at hcount
      -- A rank of 0 applies what the end of the text applies, down to the bracket.
      rw [List.cons_append, Stacks.reduce, if_pos (by simpa using hopen)]
      exact bind_eq_ok.mpr ⟨_, apply_below operator happlied deep, ih h (by omega)⟩

/-- Tokens that are read as an expression on their own. -/
def Accepts (ws : List String) (c : TagExpression) : Prop :=
  ws ≠ [] ∧ ∃ last expected, ReadsAll ({}, true) ws (last, expected) ∧
    ∃ text, Stacks.finish text last.operators last.operands = .ok c

private theorem finish_eq_ok {text : String} (h : Stacks.finish text operators operands = .ok c)
    (other : String) : Stacks.finish other operators operands = .ok c := by
  induction operators generalizing operands with
  | nil => exact h
  | cons operator operators ih =>
      obtain ⟨hopen, applied, happlied, hrest⟩ := finish_cons h
      cases operator with
      | opening => exact absurd rfl hopen
      | not | and | or => exact bind_eq_ok.mpr ⟨applied, happlied, ih hrest⟩

theorem parse_eq_ok {text : String} :
    parse text = .ok c ↔
      ∃ ws, tokens text = .ok ws ∧ (ws = [] ∧ c = .always ∨ Accepts ws c) := by
  unfold parse
  rw [bind_eq_ok]
  refine exists_congr fun ws => and_congr_right fun _ => ?_
  cases ws with
  | nil => simp [Accepts, pure, Except.pure, eq_comm]
  | cons w ws =>
      rw [if_neg (by simp), bind_eq_ok]
      constructor
      · rintro ⟨last, hrun, hfinish⟩
        obtain ⟨expected, hread⟩ := run_eq_ok.mp hrun
        exact .inr ⟨List.cons_ne_nil _ _, last, expected, hread, text, hfinish⟩
      · rintro (⟨hnil, _⟩ | ⟨_, last, expected, hread, other, hfinish⟩)
        · cases hnil
        · exact ⟨last, run_eq_ok.mpr ⟨expected, hread⟩, finish_eq_ok hfinish text⟩

/-- Tokens that are read as one operand wherever one is expected. -/
def IsOperand (ws : List String) (c : TagExpression) : Prop :=
  ∀ operators operands,
    ReadsAll (⟨operators, operands⟩, true) ws (⟨operators, c :: operands⟩, false)

theorem Accepts.bracketed {ws : List String} (h : Accepts ws c) :
    IsOperand ("(" :: ws ++ [")"]) c := by
  obtain ⟨hws, ⟨left, done⟩, expected, hread, text, hfinish⟩ := h
  have hcount : Counted (⟨left, done⟩, expected) := hread.counted rfl
  have hexpected : expected = false := by
    cases expected with
    | false => rfl
    | true =>
        have hnone : left = [] := operators_of_finish hfinish hcount
        exact absurd hnone (hread.pending hws rfl)
  subst hexpected
  intro operators operands
  have hinside := hread.inside operators operands
  have hclose := reduce_of_finish hfinish hcount operators operands
  exact .append (.cons .opening hinside) (.cons (.closing hclose) .nil)

theorem IsOperand.and {ws vs : List String} {a b : TagExpression} (ha : IsOperand ws a)
    (hb : IsOperand vs b) : Accepts (ws ++ "and" :: vs) (.and a b) := by
  refine ⟨by simp, ⟨[.and], [b, a]⟩, false, ?_, "", rfl⟩
  exact (ha [] []).append (.cons (.and rfl) (hb [.and] [a]))

/-! ## Brackets that do not match -/

private theorem count_of_reduce {rank : Nat}
    (h : Stacks.reduce rank operators operands = .ok ⟨left, done⟩) :
    left.count .opening = operators.count .opening := by
  induction operators generalizing operands with
  | nil =>
      cases h
      rfl
  | cons operator operators ih =>
      rcases reduce_cons h with ⟨_, hopen, applied, _, h⟩ | ⟨_, rfl, rfl⟩
      · rw [ih h, List.count_cons_of_ne hopen]
      · rfl

/-- The brackets that wait on the stack are those that are not closed. -/
theorem Reads.count {state next : Stacks × Bool} {token : String} (h : Reads state token next) :
    state.1.operators.count .opening + [token].count "(" =
      next.1.operators.count .opening + [token].count ")" := by
  cases h with
  | not => simp
  | and hreduced | or hreduced =>
      have hcount := count_of_reduce hreduced
      simp [hcount]
  | opening => simp
  | closing hreduced =>
      have hcount := count_of_reduce hreduced
      have htop := head_of_reduce hreduced
      subst htop
      simpa [List.count_cons] using hcount.symm
  | tag hname =>
      simp only [List.mem_cons, List.not_mem_nil, or_false, not_or] at hname
      simp [hname]

private theorem ReadsAll.count {state last : Stacks × Bool} {ws : List String}
    (h : ReadsAll state ws last) :
    state.1.operators.count .opening + ws.count "(" =
      last.1.operators.count .opening + ws.count ")" := by
  induction h with
  | nil => simp
  | cons hstep _ ih =>
      have hcount := hstep.count
      simp only [List.count_cons, List.count_nil] at hcount ⊢
      omega

theorem ReadsAll.count_prefix_le {last : Stacks × Bool} {ws vs : List String}
    (h : ReadsAll ({}, true) (ws ++ vs) last) : ws.count ")" ≤ ws.count "(" := by
  obtain ⟨next, hread⟩ := h.of_append
  have hcount := hread.count
  simp only [List.count_nil] at hcount
  omega

private theorem count_of_finish {text : String}
    (h : Stacks.finish text operators operands = .ok c) :
    operators.count .opening = 0 := by
  induction operators generalizing operands with
  | nil => rfl
  | cons operator operators ih =>
      obtain ⟨hopen, applied, _, h⟩ := finish_cons h
      rw [List.count_cons_of_ne hopen, ih h]

/-- Brackets that can never be read: nothing stands in one of them, or one is not closed. -/
def Unreadable (ws : List String) : Prop :=
  ["(", ")"] <:+: ws ∨ ws.count ")" < ws.count "("

theorem Accepts.count {ws : List String} (h : Accepts ws c) : ws.count "(" = ws.count ")" := by
  obtain ⟨_, last, expected, hread, text, hfinish⟩ := h
  have hcount := hread.count
  rw [count_of_finish hfinish] at hcount
  simpa using hcount

private theorem Reads.expected {state next : Stacks × Bool} {token : String}
    (h : Reads state token next) :
    (token = "(" → next.2 = true) ∧ (token = ")" → state.2 = false) := by
  cases h with
  | tag hname =>
      exact ⟨fun h => absurd (h ▸ hname) (by decide), fun h => absurd (h ▸ hname) (by decide)⟩
  | _ => simp

private theorem ReadsAll.not_empty_brackets {state last : Stacks × Bool} {ws : List String}
    (h : ReadsAll state ws last) : ¬["(", ")"] <:+: ws := by
  induction h with
  | nil => simp
  | @cons state next last token tokens hstep hrest ih =>
      rw [List.infix_cons_iff, not_or]
      refine ⟨?_, ih⟩
      rintro ⟨rest, heq⟩
      obtain ⟨rfl, rfl⟩ := List.cons.inj heq
      cases hrest with
      | cons hclose _ =>
          have hopened := hstep.expected.1 rfl
          have hclosed := hclose.expected.2 rfl
          rw [hopened] at hclosed
          cases hclosed

theorem Unreadable.not_accepts {ws : List String} (h : Unreadable ws) : ¬Accepts ws c := by
  intro haccepts
  have hcount := haccepts.count
  obtain ⟨_, last, expected, hread, _⟩ := haccepts
  rcases h with hempty | hunclosed
  · exact hread.not_empty_brackets hempty
  · omega

end FeatureSuite.TagExpression

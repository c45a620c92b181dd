import FeatureSuite.Proofs.Regex.Ways

/-!
# Preferred ways

The first way that a matcher tries, for sequences of characters, captures and repetitions of one
character. If the rest of the expression succeeds at its end, it is the way of the match.
-/

namespace FeatureSuite.Regex

variable {text : Array Char}

/-- A match goes on from one state to another whenever the rest succeeds there. -/
def Prefers (text : Array Char) (r : Regex) (before after : MatchState) : Prop :=
  ∀ rest final, rest after = some final → r.matcher text before rest = some final

/-! ## Places in a text -/

theorem getElem?_of_drop_eq {place : Nat} {c : Char} {rest : List Char}
    (h : text.toList.drop place = c :: rest) :
    text[place]? = some c ∧ text.toList.drop (place + 1) = rest := by
  refine ⟨?_, by rw [← List.drop_drop, h, List.drop_one, List.tail_cons]⟩
  rw [← Array.getElem?_toList, ← List.head?_drop, h, List.head?_cons]

private theorem getElem?_of_drop_eq_nil {place : Nat} (h : text.toList.drop place = []) :
    text[place]? = none := by
  rw [← Array.getElem?_toList, ← List.head?_drop, h, List.head?_nil]

/-- The state behind taken characters. -/
def MatchState.past (state : MatchState) (taken : List Char) : MatchState :=
  { state with place := state.place + taken.length }

private theorem MatchState.past_cons (state : MatchState) (c : Char) (taken : List Char) :
    state.past (c :: taken) = { state with place := state.place + 1 }.past taken := by
  rw [past, past, List.length_cons, Nat.add_right_comm, Nat.add_assoc]

theorem matchChar_of_drop_eq {accepts : Char → Bool} {c : Char} {tail : List Char} {state : MatchState}
    {rest : Rest} {result : Option MatchState} (h : text.toList.drop state.place = c :: tail)
    (hc : accepts c = true) (hrest : rest { state with place := state.place + 1 } = result) :
    matchChar text accepts state rest = result := by
  rw [matchChar, (getElem?_of_drop_eq h).1]
  dsimp only
  rw [if_pos hc, hrest]

private theorem matchChar_eq_none {accepts : Char → Bool} {tail : List Char} {state : MatchState}
    {rest : Rest} (h : text.toList.drop state.place = tail)
    (htail : tail.head?.all (accepts · = false) = true) :
    matchChar text accepts state rest = none := by
  rw [matchChar]
  cases tail with
  | nil => rw [getElem?_of_drop_eq_nil h]
  | cons c tail =>
      rw [(getElem?_of_drop_eq h).1]
      dsimp only
      rw [if_neg (by simpa using htail)]

/-! ## Parts -/

private theorem matcher_seq_append (rs more : List Regex) (before : MatchState) (rest : Rest) :
    (seq (rs ++ more)).matcher text before rest =
      (seq rs).matcher text before fun between => (seq more).matcher text between rest := by
  induction rs generalizing before with
  | nil => rfl
  | cons r rs ih =>
      have hcons (rs : List Regex) (rest : Rest) : (seq (r :: rs)).matcher text before rest =
          r.matcher text before fun between => (seq rs).matcher text between rest := by
        cases rs <;> rfl
      rw [List.cons_append, hcons, hcons]
      congr 1
      funext between
      exact ih between

theorem Prefers.append {rs more : List Regex} {before between after : MatchState}
    (hfirst : Prefers text (seq rs) before between) (hmore : Prefers text (seq more) between after) :
    Prefers text (seq (rs ++ more)) before after := by
  intro rest final h
  rw [matcher_seq_append]
  exact hfirst _ _ (hmore _ _ h)

theorem prefers_nil (state : MatchState) : Prefers text (seq []) state state := fun _ _ h => h

theorem prefers_char {c : Char} {state : MatchState} {tail : List Char}
    (h : text.toList.drop state.place = c :: tail) :
    Prefers text (.char c .exact) state (state.past [c]) := by
  intro rest final hrest
  simp only [matcher]
  exact matchChar_of_drop_eq h (by simp [Folding.same]) hrest

theorem Prefers.capture {r : Regex} {before after : MatchState} (index : Nat)
    (h : Prefers text r before after) :
    Prefers text (.capture index r) before
      { after with captures := (index, before.place, after.place) :: after.captures } :=
  fun _ _ hrest => h _ _ hrest

theorem Prefers.alt_left {a b : Regex} {before after : MatchState} (h : Prefers text a before after) :
    Prefers text (.alt a b) before after := by
  intro rest final hrest
  simp only [matcher]
  rw [h _ _ hrest]

/-! ## Repetitions -/

/-- Rounds that take as much as possible stop where the next character is none of theirs, or where
there may be no more. -/
theorem greedyRounds_matchChar {accepts : Char → Bool} {least : Nat} {most : Option Nat} {rest : Rest}
    {final : MatchState} {taken tail : List Char} {left count : Nat} {last : Option Nat}
    {state : MatchState} (htext : text.toList.drop state.place = taken ++ tail)
    (htaken : ∀ c ∈ taken, accepts c = true)
    (hstop : tail.head?.all (accepts · = false) = true ∨ most = some (count + taken.length))
    (hleast : least ≤ count + taken.length) (hmost : ∀ bound ∈ most, count + taken.length ≤ bound)
    (hleft : taken.length ≤ left) (hlast : ∀ place ∈ last, place < state.place)
    (hrest : rest (state.past taken) = some final) :
    greedyRounds (matchChar text accepts) least most rest left count last state = some final := by
  induction taken generalizing left count last state with
  | nil =>
      cases left with
      | zero =>
          rw [greedyRounds, if_pos (by simpa using hleast)]
          exact hrest
      | succ left =>
          have hfurther {next : Rest} : (if (most.all (count < ·) && last ≠ some state.place) = true then
              matchChar text accepts state next else none) = none := by
            rcases hstop with hstop | rfl
            · rw [matchChar_eq_none htext hstop, ite_self]
            · simp
          rw [greedyRounds, if_neg (by simpa using hleast)]
          dsimp only
          rw [hfurther]
          exact hrest
  | cons c taken ih =>
      obtain ⟨left, rfl⟩ := Nat.exists_eq_add_one_of_ne_zero (Nat.ne_zero_of_lt hleft)
      obtain ⟨hc, htaken⟩ := List.forall_mem_cons.mp htaken
      have hlength : count + (c :: taken).length = count + 1 + taken.length := by
        rw [List.length_cons, Nat.add_right_comm, Nat.add_assoc]
      have hround {last : Option Nat} (hlast : ∀ place ∈ last, place < state.place + 1) :
          matchChar text accepts state (fun next =>
            greedyRounds (matchChar text accepts) least most rest left (count + 1) last next) =
              some final := by
        refine matchChar_of_drop_eq htext hc ?_
        rw [hlength] at hstop hleast hmost
        rw [MatchState.past_cons] at hrest
        exact ih (getElem?_of_drop_eq htext).2 htaken hstop hleast hmost
          (Nat.le_of_succ_le_succ hleft) hlast hrest
      rw [greedyRounds]
      split
      · exact hround fun place hplace => Nat.lt_succ_of_lt (hlast place hplace)
      · have hmay : (most.all (count < ·) && last ≠ some state.place) = true := by
          rw [Bool.and_eq_true]
          refine ⟨?_, by simpa using fun h => Nat.lt_irrefl _ (hlast _ h)⟩
          cases most with
          | none => rfl
          | some bound =>
              have hbound := hmost bound rfl
              simp at hbound ⊢
              omega
        dsimp only
        rw [if_pos hmay, hround (by simp)]

/-- Rounds that take as little as possible go on until the rest succeeds. -/
theorem lazyRounds_matchChar {accepts : Char → Bool} {least : Nat} {rest : Rest}
    {final : MatchState} {taken tail : List Char} {left count : Nat} {last : Option Nat}
    {state : MatchState} (htext : text.toList.drop state.place = taken ++ tail)
    (htaken : ∀ c ∈ taken, accepts c = true)
    (hfail : ∀ front, front <+: taken → front ≠ taken → least ≤ count + front.length →
      rest (state.past front) = none)
    (hleast : least ≤ count + taken.length)
    (hleft : taken.length ≤ left) (hlast : ∀ place ∈ last, place < state.place)
    (hrest : rest (state.past taken) = some final) :
    lazyRounds (matchChar text accepts) least none rest left count last state = some final := by
  induction taken generalizing left count last state with
  | nil =>
      cases left with
      | zero =>
          rw [lazyRounds, if_pos (by simpa using hleast)]
          exact hrest
      | succ left =>
          have hstate : rest state = some final := hrest
          rw [lazyRounds, if_neg (by simpa using hleast), hstate]
  | cons c taken ih =>
      obtain ⟨left, rfl⟩ := Nat.exists_eq_add_one_of_ne_zero (Nat.ne_zero_of_lt hleft)
      obtain ⟨hc, htaken⟩ := List.forall_mem_cons.mp htaken
      have hround {last : Option Nat} (hlast : ∀ place ∈ last, place < state.place + 1) :
          matchChar text accepts state (fun next =>
            lazyRounds (matchChar text accepts) least none rest left (count + 1) last next) =
              some final := by
        refine matchChar_of_drop_eq htext hc ?_
        rw [MatchState.past_cons] at hrest
        refine ih (getElem?_of_drop_eq htext).2 htaken (fun front hfront hne hcount => ?_) ?_
          (Nat.le_of_succ_le_succ hleft) hlast hrest
        · have hcount : least ≤ count + (c :: front).length := by
            rw [List.length_cons]
            omega
          have hnone := hfail (c :: front) (List.cons_prefix_cons.mpr ⟨rfl, hfront⟩)
            (fun h => hne (List.cons.inj h).2) hcount
          rwa [MatchState.past_cons] at hnone
        · rw [List.length_cons] at hleast
          omega
      rw [lazyRounds]
      split
      · exact hround fun place hplace => Nat.lt_succ_of_lt (hlast place hplace)
      · rename_i hcount
        have hstate : rest state = none :=
          hfail [] List.nil_prefix (List.cons_ne_nil _ _).symm (Nat.not_lt.mp hcount)
        have hmay : ((none : Option Nat).all (count < ·) && last ≠ some state.place) = true := by
          simpa using fun h => Nat.lt_irrefl _ (hlast _ h)
        rw [hstate]
        dsimp only
        rw [if_pos hmay, hround (by simp)]

variable {state : MatchState} {taken tail : List Char}

private theorem length_le_of_drop_eq (h : text.toList.drop state.place = taken ++ tail) :
    taken.length ≤ text.size - state.place := by
  have hlength := congrArg List.length h
  rw [List.length_drop, Array.length_toList, List.length_append] at hlength
  omega

/-- As many characters of a set as there are, up to a bound. -/
theorem prefers_greedy {least : Nat} {most : Option Nat} {items : List SetItem}
    (htext : text.toList.drop state.place = taken ++ tail)
    (htaken : ∀ c ∈ taken, setContains items .exact c = true)
    (hstop : tail.head?.all (setContains items .exact · = false) = true ∨ most = some taken.length)
    (hleast : least ≤ taken.length) (hmost : ∀ bound ∈ most, taken.length ≤ bound) :
    Prefers text (.repeat least most .greedy (.set false items .exact)) state (state.past taken) := by
  intro rest final hrest
  have hlength := length_le_of_drop_eq htext
  exact greedyRounds_matchChar htext (by simpa using htaken) (by simpa using hstop) (by simpa using hleast)
    (by simpa using hmost) (by omega) nofun hrest

/-- At least one character, up to the first one that follows in the expression. -/
theorem prefers_lazy (index : Nat) {q : Char} {tail : List Char}
    (htext : text.toList.drop state.place = taken ++ q :: tail) (hne : taken ≠ []) (hq : q ∉ taken) :
    Prefers text (seq [.capture index (.repeat 1 none .lazy (.any true)), .char q .exact]) state
      { place := state.place + taken.length + 1
        captures := (index, state.place, state.place + taken.length) :: state.captures } := by
  intro rest final hrest
  have hlength := length_le_of_drop_eq htext
  have hpos : 0 < taken.length := List.length_pos_iff.mpr hne
  refine lazyRounds_matchChar htext (fun _ _ => rfl) (fun front hfront hproper _ => ?_) (by omega)
    (by omega) nofun ?_
  · -- Behind a proper part of the taken characters another one of them follows.
    obtain ⟨behind, rfl⟩ := hfront
    have hbehind : text.toList.drop (state.past front).place = behind ++ q :: tail := by
      rw [MatchState.past, ← List.drop_drop, htext, List.append_assoc, List.drop_left]
    refine matchChar_eq_none hbehind ?_
    cases behind with
    | nil => exact absurd (List.append_nil front).symm hproper
    | cons c behind =>
        have hc : q ≠ c := fun h => hq (by simp [h])
        simp [Folding.same, hc]
  · have hbehind : text.toList.drop (state.past taken).place = q :: tail := by
      rw [MatchState.past, ← List.drop_drop, htext, List.drop_left]
    exact matchChar_of_drop_eq hbehind (by simp [Folding.same]) hrest

end FeatureSuite.Regex

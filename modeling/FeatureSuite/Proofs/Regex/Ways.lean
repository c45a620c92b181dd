import FeatureSuite.Regex.Matcher

/-!
# Ways through an expression

What an expression may take from a text, whatever its repetitions prefer. A match is a way through
the expression: backtracking finds nothing else. From a negated assertion nothing is known but that
it takes nothing.
-/

namespace FeatureSuite.Regex

/-! ## Ways -/

/-- Takes one character of a class. -/
def TakesChar (text : Array Char) (accepts : Char → Bool) (before after : MatchState) : Prop :=
  ∃ c, text[before.place]? = some c ∧ accepts c = true ∧
    after = { before with place := before.place + 1 }

/-- A number of rounds, one after the other. -/
inductive Rounds (way : MatchState → MatchState → Prop) : Nat → MatchState → MatchState → Prop where
  | zero (state : MatchState) : Rounds way 0 state state
  | succ {count : Nat} {before between after : MatchState} (first : way before between)
      (more : Rounds way count between after) : Rounds way (count + 1) before after

/-- The ways through an expression lead from one state of a match to another. -/
def Leads (text : Array Char) : Regex → MatchState → MatchState → Prop
  | .empty => fun before after => after = before
  | .char c folding => TakesChar text (folding.same c)
  | .set negated items folding => TakesChar text fun c => setContains items folding c != negated
  | .any lineFeed => TakesChar text fun c => lineFeed || c != '\n'
  | .anchor kind => fun before after => kind.holds text before.place = true ∧ after = before
  | .cat a b => fun before after => ∃ between, a.Leads text before between ∧ b.Leads text between after
  | .alt a b => fun before after => a.Leads text before after ∨ b.Leads text before after
  | .capture index r => fun before after => ∃ last, r.Leads text before last ∧
      after = { last with captures := (index, before.place, last.place) :: last.captures }
  | .repeat least most _ r => fun before after => ∃ count, least ≤ count ∧
      (∀ bound ∈ most, count ≤ max least bound) ∧ Rounds (r.Leads text) count before after
  | .backref index folding => fun before after => ∃ first last,
      before.capture? index = some (first, last) ∧
        (∀ i < last - first, ∃ a b, text[first + i]? = some a ∧ text[before.place + i]? = some b ∧
          folding.lower a = folding.lower b) ∧
        after = { before with place := before.place + (last - first) }
  | .lookAhead negated r => fun before after =>
      if negated then after = before
      else ∃ seen, r.Leads text before seen ∧
        after = { place := before.place, captures := seen.captures }
  | .lookBehind negated least _ r => fun before after =>
      if negated then after = before
      else ∃ seen, r.Leads text { before with place := before.place - least } seen ∧
        seen.place = before.place ∧ after = { place := before.place, captures := seen.captures }
  | .atomic r => r.Leads text
  | .ifCaptured index yes no => fun before after =>
      if (before.capture? index).isSome then yes.Leads text before after
      else no.Leads text before after

theorem leads_seq_cons {text : Array Char} {r : Regex} {rs : List Regex} {before after : MatchState} :
    (seq (r :: rs)).Leads text before after ↔
      ∃ between, r.Leads text before between ∧ (seq rs).Leads text between after := by
  cases rs with
  | nil => simp [seq, Leads]
  | cons r' rs => rfl

/-! ## Matches are ways -/

variable {text : Array Char} {way : MatchState → MatchState → Prop} {step : Matcher} {rest : Rest}
  {final : MatchState}

/-- A matcher that only goes along ways. -/
def Follows (step : Matcher) (way : MatchState → MatchState → Prop) : Prop :=
  ∀ before rest final, step before rest = some final →
    ∃ after, way before after ∧ rest after = some final

private theorem follows_matchChar (accepts : Char → Bool) :
    Follows (matchChar text accepts) (TakesChar text accepts) := by
  intro before rest final h
  unfold matchChar at h
  split at h
  · rename_i c hc
    split at h
    · rename_i haccepts
      exact ⟨_, ⟨c, hc, haccepts, rfl⟩, h⟩
    · cases h
  · cases h

/-- From the end of a number of rounds, further ones lead to a state with which the rest succeeds. -/
def EndsRounds (way : MatchState → MatchState → Prop) (least : Nat) (most : Option Nat) (rest : Rest)
    (count : Nat) (before final : MatchState) : Prop :=
  ∃ further after, Rounds way further before after ∧ rest after = some final ∧
    least ≤ count + further ∧ ∀ bound ∈ most, count + further ≤ max (max least count) bound

private theorem EndsRounds.stop {least count : Nat} {most : Option Nat} {before : MatchState}
    (hcount : least ≤ count) (h : rest before = some final) :
    EndsRounds way least most rest count before final :=
  ⟨0, before, .zero before, h, hcount, fun _ _ => by omega⟩

private theorem EndsRounds.round {least count : Nat} {most : Option Nat}
    {before between : MatchState} (hcount : count < least ∨ ∀ bound ∈ most, count < bound)
    (hfirst : way before between) (h : EndsRounds way least most rest (count + 1) between final) :
    EndsRounds way least most rest count before final := by
  obtain ⟨further, after, hrounds, hrest, hleast, hmost⟩ := h
  refine ⟨further + 1, after, .succ hfirst hrounds, hrest, by omega, fun bound hmem => ?_⟩
  have hmore := hmost bound hmem
  rcases hcount with hcount | hcount
  · omega
  · have hlt := hcount bound hmem
    omega

private theorem lt_of_all_lt {count : Nat} {most : Option Nat} {moved : Bool}
    (h : (most.all (count < ·) && moved) = true) : ∀ bound ∈ most, count < bound := by
  rintro bound rfl
  simpa using (Bool.and_eq_true _ _).mp h |>.1

private theorem endsRounds_of_greedyRounds (hstep : Follows step way) {least : Nat}
    {most : Option Nat} {left count : Nat} {last : Option Nat} {before : MatchState}
    (h : greedyRounds step least most rest left count last before = some final) :
    EndsRounds way least most rest count before final := by
  induction left generalizing count last before with
  | zero =>
      rw [greedyRounds] at h
      split at h
      · rename_i hleast
        exact .stop hleast h
      · cases h
  | succ left ih =>
      rw [greedyRounds] at h
      split at h
      · rename_i hcount
        obtain ⟨between, hfirst, hmore⟩ := hstep _ _ _ h
        exact .round (.inl hcount) hfirst (ih hmore)
      · rename_i hcount
        dsimp only at h
        split at h
        · rename_i found hfound
          cases h
          split at hfound
          · rename_i hmost
            obtain ⟨between, hfirst, hmore⟩ := hstep _ _ _ hfound
            exact .round (.inr (lt_of_all_lt hmost)) hfirst (ih hmore)
          · cases hfound
        · exact .stop (Nat.not_lt.mp hcount) h

private theorem endsRounds_of_lazyRounds (hstep : Follows step way) {least : Nat}
    {most : Option Nat} {left count : Nat} {last : Option Nat} {before : MatchState}
    (h : lazyRounds step least most rest left count last before = some final) :
    EndsRounds way least most rest count before final := by
  induction left generalizing count last before with
  | zero =>
      rw [lazyRounds] at h
      split at h
      · rename_i hleast
        exact .stop hleast h
      · cases h
  | succ left ih =>
      rw [lazyRounds] at h
      split at h
      · rename_i hcount
        obtain ⟨between, hfirst, hmore⟩ := hstep _ _ _ h
        exact .round (.inl hcount) hfirst (ih hmore)
      · rename_i hcount
        split at h
        · rename_i found hfound
          cases h
          exact .stop (Nat.not_lt.mp hcount) hfound
        · split at h
          · rename_i hmost
            obtain ⟨between, hfirst, hmore⟩ := hstep _ _ _ h
            exact .round (.inr (lt_of_all_lt hmost)) hfirst (ih hmore)
          · cases h

private theorem EndsRounds.leads {least : Nat} {most : Option Nat} {greed : Greed} {r : Regex}
    {before : MatchState} (h : EndsRounds (r.Leads text) least most rest 0 before final) :
    ∃ after, (Regex.repeat least most greed r).Leads text before after ∧ rest after = some final := by
  obtain ⟨count, after, hrounds, hrest, hleast, hmost⟩ := h
  refine ⟨after, ⟨count, by omega, fun bound hmem => ?_, hrounds⟩, hrest⟩
  have hbound := hmost bound hmem
  omega

private theorem follows_matchAgain {folding : Folding} {index first last : Nat}
    {before : MatchState} (hcapture : before.capture? index = some (first, last))
    (h : matchAgain text (fun a b => folding.lower a == folding.lower b) first last before rest =
      some final) :
    ∃ after, (Regex.backref index folding).Leads text before after ∧ rest after = some final := by
  unfold matchAgain at h
  dsimp only at h
  split at h
  · rename_i hequal
    refine ⟨_, ⟨first, last, hcapture, fun i hi => ?_, rfl⟩, h⟩
    have hsame := List.all_eq_true.mp hequal i (List.mem_range.mpr hi)
    split at hsame
    · rename_i a b ha hb
      exact ⟨a, b, ha, hb, eq_of_beq hsame⟩
    · cases hsame
  · cases h

private theorem follows_lookAhead {negated : Bool} {r : Regex}
    (hr : Follows (r.matcher text) (r.Leads text)) :
    Follows ((lookAhead negated r).matcher text) ((lookAhead negated r).Leads text) := by
  intro before rest final h
  simp only [matcher] at h
  split at h
  · rename_i seen hseen
    obtain ⟨after, hleads, ⟨⟩⟩ := hr _ _ _ hseen
    cases negated with
    | true => cases h
    | false => exact ⟨_, ⟨_, hleads, rfl⟩, h⟩
  · cases negated with
    | true => exact ⟨before, rfl, h⟩
    | false => cases h

private theorem follows_lookBehind {negated : Bool} {least : Nat} {most : Option Nat} {r : Regex}
    (hr : Follows (r.matcher text) (r.Leads text)) :
    Follows ((lookBehind negated least most r).matcher text)
      ((lookBehind negated least most r).Leads text) := by
  intro before rest final h
  simp only [matcher] at h
  split at h
  · rename_i seen hseen
    cases negated with
    | true => cases h
    | false =>
        split at hseen
        · obtain ⟨after, hleads, hafter⟩ := hr _ _ _ hseen
          split at hafter
          · rename_i hplace
            cases hafter
            exact ⟨_, ⟨_, hleads, hplace, rfl⟩, h⟩
          · cases hafter
        · cases hseen
  · cases negated with
    | true => exact ⟨before, rfl, h⟩
    | false => cases h

/-- Every match goes along a way through the expression. -/
theorem follows_matcher (text : Array Char) (r : Regex) : Follows (r.matcher text) (r.Leads text) := by
  intro before rest final h
  induction r generalizing before rest final with
  | empty => exact ⟨before, rfl, h⟩
  | char c folding => exact follows_matchChar _ before rest final h
  | set negated items folding => exact follows_matchChar _ before rest final h
  | any lineFeed => exact follows_matchChar _ before rest final h
  | anchor kind =>
      simp only [matcher] at h
      split at h
      · rename_i hholds
        exact ⟨before, ⟨hholds, rfl⟩, h⟩
      · cases h
  | cat a b iha ihb =>
      obtain ⟨between, ha, h⟩ := iha _ _ _ h
      obtain ⟨after, hb, h⟩ := ihb _ _ _ h
      exact ⟨after, ⟨between, ha, hb⟩, h⟩
  | alt a b iha ihb =>
      simp only [matcher] at h
      split at h
      · rename_i found hfound
        cases h
        obtain ⟨after, ha, h⟩ := iha _ _ _ hfound
        exact ⟨after, .inl ha, h⟩
      · obtain ⟨after, hb, h⟩ := ihb _ _ _ h
        exact ⟨after, .inr hb, h⟩
  | capture index r ih =>
      obtain ⟨last, hr, h⟩ := ih _ _ _ h
      exact ⟨_, ⟨last, hr, rfl⟩, h⟩
  | «repeat» least most greed r ih =>
      cases greed with
      | greedy => exact (endsRounds_of_greedyRounds ih h).leads
      | lazy => exact (endsRounds_of_lazyRounds ih h).leads
      | possessive =>
          obtain ⟨next, hnext, h⟩ := Option.bind_eq_some_iff.mp h
          obtain ⟨after, hleads, ⟨⟩⟩ := (endsRounds_of_greedyRounds ih hnext).leads
          exact ⟨_, hleads, h⟩
  | backref index folding =>
      simp only [matcher] at h
      split at h
      · cases h
      · rename_i first last hcapture
        exact follows_matchAgain hcapture h
  | lookAhead negated r ih => exact follows_lookAhead ih before rest final h
  | lookBehind negated least most r ih => exact follows_lookBehind ih before rest final h
  | atomic r ih =>
      obtain ⟨next, hnext, h⟩ := Option.bind_eq_some_iff.mp h
      obtain ⟨after, hr, hafter⟩ := ih _ _ _ hnext
      cases hafter
      exact ⟨_, hr, h⟩
  | ifCaptured index yes no ihyes ihno =>
      simp only [matcher] at h
      split at h
      · rename_i hcaptured
        obtain ⟨after, hyes, hafter⟩ := ihyes _ _ _ h
        exact ⟨after, by simpa only [Leads, if_pos hcaptured] using hyes, hafter⟩
      · rename_i hcaptured
        obtain ⟨after, hno, hafter⟩ := ihno _ _ _ h
        exact ⟨after, by simpa only [Leads, if_neg hcaptured] using hno, hafter⟩

/-! ## What a way takes -/

/-- The part of a text between two states of a match. -/
def Takes (text : Array Char) (before after : MatchState) (taken : List Char) : Prop :=
  text.toList.drop before.place = taken ++ text.toList.drop after.place ∧
    after.place = before.place + taken.length

theorem Takes.nil (text : Array Char) {before after : MatchState} (h : after.place = before.place) :
    Takes text before after [] := by
  rw [Takes, h]
  exact ⟨rfl, rfl⟩

theorem Takes.append {before between after : MatchState} {first second : List Char}
    (hfirst : Takes text before between first) (hsecond : Takes text between after second) :
    Takes text before after (first ++ second) := by
  refine ⟨by rw [hfirst.1, hsecond.1, List.append_assoc], ?_⟩
  rw [hsecond.2, hfirst.2, List.length_append, Nat.add_assoc]

private theorem exists_takes {before : MatchState} {count : Nat}
    (h : ∀ i < count, (text[before.place + i]?).isSome) :
    ∃ taken, Takes text before { before with place := before.place + count } taken := by
  have hlength : count ≤ (text.toList.drop before.place).length := by
    rcases Nat.eq_zero_or_pos count with hzero | hpos
    · exact hzero ▸ Nat.zero_le _
    · have hlt : before.place + (count - 1) < text.size := by
        simpa using h (count - 1) (by omega)
      rw [List.length_drop, Array.length_toList]
      omega
  refine ⟨(text.toList.drop before.place).take count, ?_, ?_⟩
  · rw [← List.drop_drop, List.take_append_drop]
  · rw [List.length_take_of_le hlength]

/-- Whether an expression may take a character. -/
def admits : Regex → Char → Bool
  | .empty, _ | .anchor _, _ | .lookAhead .., _ | .lookBehind .., _ => false
  | .char d folding, c => folding.same d c
  | .set negated items folding, c => setContains items folding c != negated
  | .any lineFeed, c => lineFeed || c != '\n'
  | .cat a b, c | .alt a b, c | .ifCaptured _ a b, c => a.admits c || b.admits c
  | .capture _ r, c | .repeat _ _ _ r, c | .atomic r, c => r.admits c
  | .backref .., _ => true

/-- The least number of characters that an expression takes, if all captures are empty. -/
def leastWidth (r : Regex) : Nat := (r.width fun _ => (0, some 0)).1

/-- The part of a text that a way through an expression takes. -/
def TakesSome (text : Array Char) (accepts : Char → Bool) (least : Nat)
    (before after : MatchState) : Prop :=
  ∃ taken, Takes text before after taken ∧ (∀ c ∈ taken, accepts c = true) ∧ least ≤ taken.length

private theorem TakesSome.none {accepts : Char → Bool} {before after : MatchState}
    (h : after.place = before.place) : TakesSome text accepts 0 before after :=
  ⟨[], .nil text h, List.forall_mem_nil _, Nat.zero_le _⟩

private theorem TakesSome.append {accepts : Char → Bool} {m n : Nat}
    {before between after : MatchState} (hfirst : TakesSome text accepts m before between)
    (hsecond : TakesSome text accepts n between after) :
    TakesSome text accepts (m + n) before after := by
  obtain ⟨first, htake, haccepts, hlength⟩ := hfirst
  obtain ⟨second, htake', haccepts', hlength'⟩ := hsecond
  refine ⟨first ++ second, htake.append htake', List.forall_mem_append.mpr ⟨haccepts, haccepts'⟩, ?_⟩
  rw [List.length_append]
  omega

theorem TakesSome.mono {accepts accepts' : Char → Bool} {m n : Nat} {before after : MatchState}
    (h : TakesSome text accepts m before after) (haccepts : ∀ c, accepts c = true → accepts' c = true)
    (hle : n ≤ m) : TakesSome text accepts' n before after := by
  obtain ⟨taken, htake, hall, hlength⟩ := h
  exact ⟨taken, htake, fun c hc => haccepts c (hall c hc), by omega⟩

theorem TakesChar.takes {accepts : Char → Bool} {before after : MatchState}
    (h : TakesChar text accepts before after) :
    ∃ c, accepts c = true ∧ Takes text before after [c] := by
  obtain ⟨c, hc, haccepts, rfl⟩ := h
  refine ⟨c, haccepts, ?_, rfl⟩
  rw [← Array.getElem?_toList] at hc
  obtain ⟨hlt, rfl⟩ := List.getElem?_eq_some_iff.mp hc
  exact List.drop_eq_getElem_cons hlt

private theorem TakesChar.takesSome {accepts : Char → Bool} {before after : MatchState}
    (h : TakesChar text accepts before after) : TakesSome text accepts 1 before after := by
  obtain ⟨c, haccepts, htakes⟩ := h.takes
  exact ⟨[c], htakes, by simpa using haccepts, Nat.le_refl _⟩

private theorem Rounds.takesSome {accepts : Char → Bool} {m count : Nat} {before after : MatchState}
    (hway : ∀ before after, way before after → TakesSome text accepts m before after)
    (h : Rounds way count before after) : TakesSome text accepts (m * count) before after := by
  induction h with
  | zero state => exact .none rfl
  | succ hfirst _ ih =>
      refine ((hway _ _ hfirst).append ih).mono (fun _ h => h) (Nat.le_of_eq ?_)
      rw [Nat.mul_succ, Nat.add_comm]

/-- A way takes characters that the expression admits, and at least as many as it is wide. -/
theorem Leads.takesSome {r : Regex} {before after : MatchState} (h : r.Leads text before after) :
    TakesSome text r.admits r.leastWidth before after := by
  have hleft {a b : Bool} (h : a = true) : (a || b) = true := by rw [h, Bool.true_or]
  have hright {a b : Bool} (h : b = true) : (a || b) = true := by rw [h, Bool.or_true]
  induction r generalizing before after with
  | empty => exact .none (congrArg _ h)
  | char c folding => exact TakesChar.takesSome h
  | set negated items folding => exact TakesChar.takesSome h
  | any lineFeed => exact TakesChar.takesSome h
  | anchor kind => exact .none (congrArg _ h.2)
  | cat a b iha ihb =>
      obtain ⟨between, ha, hb⟩ := h
      have hfirst : TakesSome text (Regex.cat a b).admits a.leastWidth before between :=
        (iha ha).mono (fun _ => hleft) (Nat.le_refl _)
      have hsecond : TakesSome text (Regex.cat a b).admits b.leastWidth between after :=
        (ihb hb).mono (fun _ => hright) (Nat.le_refl _)
      exact hfirst.append hsecond
  | alt a b iha ihb =>
      rcases h with ha | hb
      · exact (iha ha).mono (fun _ => hleft) (Nat.min_le_left _ _)
      · exact (ihb hb).mono (fun _ => hright) (Nat.min_le_right _ _)
  | capture index r ih =>
      obtain ⟨last, hr, rfl⟩ := h
      obtain ⟨taken, htake, hrest⟩ := ih hr
      exact ⟨taken, htake, hrest⟩
  | «repeat» least most greed r ih =>
      obtain ⟨count, hleast, _, hrounds⟩ := h
      exact (hrounds.takesSome fun _ _ => ih).mono (fun _ h => h) (Nat.mul_le_mul_left _ hleast)
  | backref index folding =>
      obtain ⟨first, last, _, hequal, rfl⟩ := h
      have hthere (i : Nat) (hi : i < last - first) : (text[before.place + i]?).isSome := by
        obtain ⟨_, b, _, hb, _⟩ := hequal i hi
        rw [hb]
        rfl
      obtain ⟨taken, htakes⟩ := exists_takes hthere
      exact ⟨taken, htakes, fun _ _ => rfl, Nat.zero_le _⟩
  | lookAhead negated r =>
      cases negated with
      | true => exact .none (congrArg _ h)
      | false =>
          obtain ⟨seen, _, rfl⟩ := h
          exact .none rfl
  | lookBehind negated least most r =>
      cases negated with
      | true => exact .none (congrArg _ h)
      | false =>
          obtain ⟨seen, _, _, rfl⟩ := h
          exact .none rfl
  | atomic r ih => exact ih h
  | ifCaptured index yes no ihyes ihno =>
      rw [Leads] at h
      split at h
      · exact (ihyes h).mono (fun _ => hleft) (Nat.min_le_left _ _)
      · exact (ihno h).mono (fun _ => hright) (Nat.min_le_right _ _)

end FeatureSuite.Regex

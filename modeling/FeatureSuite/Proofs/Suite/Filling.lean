import FeatureSuite.Proofs.Outcome
import FeatureSuite.Proofs.Page.Used

/-!
# Filled steps

The page objects that a test uses are collected before its holes are filled, so every hole is
resolved on its own: what the holes in front of it have won does not count. A test is refused at its
first hole that not exactly one fixture can run. Neither this nor what runs a hole depends on the
order of the steps, of the fixtures or of the tags.
-/

namespace FeatureSuite

private theorem FixtureSet.eq_of_names {set set' : FixtureSet} (h : set.names = set'.names) :
    set = set' := by
  cases set
  cases set'
  cases h
  rfl

namespace PreparedStep

/-! ## Single steps -/

section

variable (used : UsedPages) (graph : PageGraph)

/-- The fixtures that can run a hole; a step that is ready has none. -/
def winners (step : PreparedStep) : List String :=
  step.hole?.toList.flatMap (used.candidateFixtures graph)

/-- One fixture can run the step if it is a hole. -/
def Settled (step : PreparedStep) : Prop :=
  ∀ page, step.hole? = some page → ∃ winner, used.candidateFixtures graph page = [winner]

instance (step : PreparedStep) : Decidable (step.Settled used graph) :=
  decidable_of_iff (∀ page ∈ step.hole?, (used.candidateFixtures graph page).length = 1)
    (by simp [Settled, List.length_eq_one_iff])

/-- The line that is ready, or the call that passes what runs the hole. -/
def written (step : PreparedStep) : String :=
  match step.hole? with
  | none => step.code.getD ""
  | some page =>
      Layout.step step.keyword step.text step.argument (used.candidateFixtures graph page)

/-- Why a hole is not filled: which fixtures can run it, and tags for them. If there are none, the
tags are for all fixtures at or below its page object. -/
def holeFault (uri : String) (step : PreparedStep) (page : Nat) : DocumentFault :=
  let candidates := used.candidateFixtures graph page
  let named := if candidates.isEmpty then graph.reachableFixtures page else candidates
  .pageFixture step.text uri step.line candidates (named.map fixtureTag)

end

variable {used : UsedPages} {graph : PageGraph} {uri : String} {step : PreparedStep}
  {steps rest : List PreparedStep} {before after : FixtureSet} {lines : List String} {page : Nat}

theorem winner_of_settled {winner : String} (h : used.candidateFixtures graph page = [winner]) :
    step.winner used graph uri page = .ok winner := by
  unfold PreparedStep.winner
  rw [h]

theorem winner_of_unsettled (h : ¬ ∃ winner, used.candidateFixtures graph page = [winner]) :
    step.winner used graph uri page = .error (step.holeFault used graph uri page) := by
  unfold PreparedStep.winner
  split
  · rename_i winner honly
    exact absurd ⟨winner, honly⟩ h
  · rfl

private theorem winners_of_hole (h : step.hole? = some page) :
    step.winners used graph = used.candidateFixtures graph page := by
  simp [winners, h]

theorem settled_iff (h : step.hole? = some page) :
    step.Settled used graph ↔ ∃ winner, used.candidateFixtures graph page = [winner] := by
  simp [Settled, h]

theorem exists_hole_of_not_settled (h : ¬ step.Settled used graph) :
    ∃ page, step.hole? = some page := by
  unfold Settled at h
  push Not at h
  obtain ⟨page, hhole, _⟩ := h
  exact ⟨page, hhole⟩

/-! ## All steps -/

theorem fillAll_cons_of_settled (h : step.Settled used graph) :
    fillAll used graph uri before (step :: rest) =
      (fillAll used graph uri (before.update (step.winners used graph)) rest).map
        fun filled => (step.written used graph :: filled.1, filled.2) := by
  rw [fillAll]
  cases hhole : step.hole? with
  | none =>
      have hwinners : step.winners used graph = [] := by simp [winners, hhole]
      have hwritten : step.written used graph = step.code.getD "" := by simp [written, hhole]
      rw [hwinners, hwritten]
      change _ = (fillAll used graph uri before rest).map _
      cases fillAll used graph uri before rest <;> rfl
  | some page =>
      obtain ⟨winner, hwinner⟩ := h page hhole
      have hwinners : step.winners used graph = [winner] := by rw [winners_of_hole hhole, hwinner]
      have hwritten : step.written used graph =
          Layout.step step.keyword step.text step.argument [winner] := by
        simp [written, hhole, hwinner]
      rw [hwinners, hwritten]
      dsimp only
      rw [winner_of_settled hwinner]
      change _ = (fillAll used graph uri (before.add winner) rest).map _
      simp only [bind, Except.bind]
      cases fillAll used graph uri (before.add winner) rest <;> rfl

theorem fillAll_cons_of_not_settled (hhole : step.hole? = some page)
    (h : ¬ step.Settled used graph) :
    fillAll used graph uri before (step :: rest) =
      .error (step.holeFault used graph uri page) := by
  rw [settled_iff hhole] at h
  rw [fillAll, hhole]
  dsimp only
  rw [winner_of_unsettled h]
  rfl

private theorem fillAll_eq_ok :
    fillAll used graph uri before steps = .ok (lines, after) ↔
      (∀ step ∈ steps, step.Settled used graph) ∧ lines = steps.map (·.written used graph) ∧
        after = before.update (steps.flatMap (·.winners used graph)) := by
  induction steps generalizing before lines with
  | nil => simp [fillAll, FixtureSet.update, eq_comm]
  | cons step rest ih =>
      rw [List.forall_mem_cons]
      by_cases hstep : step.Settled used graph
      · have hupdate : before.update ((step :: rest).flatMap (·.winners used graph)) =
            (before.update (step.winners used graph)).update
              (rest.flatMap (·.winners used graph)) := by
          rw [List.flatMap_cons, FixtureSet.update, List.foldl_append]
          rfl
        rw [fillAll_cons_of_settled hstep, hupdate, List.map_cons, map_eq_ok]
        constructor
        · rintro ⟨⟨others, set⟩, hrest, h⟩
          cases h
          obtain ⟨hall, rfl, hafter⟩ := ih.mp hrest
          exact ⟨⟨hstep, hall⟩, rfl, hafter⟩
        · rintro ⟨⟨_, hall⟩, rfl, hafter⟩
          exact ⟨_, ih.mpr ⟨hall, rfl, hafter⟩, rfl⟩
      · obtain ⟨page, hhole⟩ := exists_hole_of_not_settled hstep
        simp [fillAll_cons_of_not_settled hhole hstep, hstep]

/-- Filling ends at the first step that is not settled. -/
theorem fillAll_eq_error {fault : DocumentFault} :
    fillAll used graph uri before steps = .error fault ↔
      ∃ front step back page, steps = front ++ step :: back ∧
        (∀ other ∈ front, other.Settled used graph) ∧ step.hole? = some page ∧
          ¬ step.Settled used graph ∧ fault = step.holeFault used graph uri page := by
  induction steps generalizing before with
  | nil => simp [fillAll]
  | cons first rest ih =>
      by_cases hfirst : first.Settled used graph
      · rw [fillAll_cons_of_settled hfirst, map_eq_error, ih]
        constructor
        · rintro ⟨front, step, back, page, rfl, hfront, hstep⟩
          exact ⟨first :: front, step, back, page, rfl,
            List.forall_mem_cons.mpr ⟨hfirst, hfront⟩, hstep⟩
        · rintro ⟨front, step, back, page, hsplit, hfront, hhole, hnot, hfault⟩
          cases front with
          | nil =>
              obtain ⟨rfl, _⟩ := List.cons.inj hsplit
              exact absurd hfirst hnot
          | cons other front =>
              obtain ⟨_, hrest⟩ := List.cons.inj hsplit
              exact ⟨front, step, back, page, hrest, (List.forall_mem_cons.mp hfront).2, hhole,
                hnot, hfault⟩
      · obtain ⟨page, hhole⟩ := exists_hole_of_not_settled hfirst
        rw [fillAll_cons_of_not_settled hhole hfirst, Except.error.injEq]
        constructor
        · rintro rfl
          exact ⟨[], first, rest, page, rfl, by simp, hhole, hfirst, rfl⟩
        · rintro ⟨front, step, back, page', hsplit, hfront, hhole', _, rfl⟩
          cases front with
          | nil =>
              obtain ⟨rfl, _⟩ := List.cons.inj hsplit
              cases hhole.symm.trans hhole'
              rfl
          | cons other front =>
              obtain ⟨rfl, _⟩ := List.cons.inj hsplit
              exact absurd (hfront first List.mem_cons_self) hfirst

private theorem fst_fillAll_singleton (step : PreparedStep) (before before' : FixtureSet) :
    (fillAll used graph uri before [step]).map Prod.fst =
      (fillAll used graph uri before' [step]).map Prod.fst := by
  by_cases h : step.Settled used graph
  · rw [fillAll_cons_of_settled h, fillAll_cons_of_settled h]
    rfl
  · obtain ⟨page, hhole⟩ := exists_hole_of_not_settled h
    rw [fillAll_cons_of_not_settled hhole h, fillAll_cons_of_not_settled hhole h]

/-! ## What a test uses -/

/-- The page objects of the holes, of the fixtures and of the tags of a test. -/
def Uses (steps : List PreparedStep) (fixtures tags : List String) (graph : PageGraph)
    (other : Nat) : Prop :=
  (∃ step ∈ steps, step.hole? = some other) ∨
    (∃ name ∈ fixtures, graph.byFixture? name = some other) ∨
      ∃ tag ∈ tags, graph.chosenBy? tag = some other

variable {fixtures fixtures' tags tags' : List String} {other : Nat} {chosen : Bool}

private theorem usedPages_eq (steps : List PreparedStep) (fixtures tags : List String)
    (graph : PageGraph) :
    usedPages steps fixtures tags graph = ({} : UsedPages).useAll
      ((steps.filterMap hole?).map (fun page => (page, false)) ++
        (fixtures.flatMap fun name => (graph.byFixture? name).toList.map fun page => (page, false)) ++
          tags.flatMap fun tag => (graph.chosenBy? tag).toList.map fun page => (page, true)) := by
  unfold usedPages UsedPages.useAll
  rw [List.foldl_append, List.foldl_append, List.foldl_map, List.foldl_flatMap, List.foldl_flatMap]
  simp only [UsedPages.useFixture_eq, UsedPages.useTag_eq]
  rfl

theorem mem_usedPages :
    (other, chosen) ∈ (usedPages steps fixtures tags graph).entries ↔
      Uses steps fixtures tags graph other ∧
        (chosen = true ↔ ∃ tag ∈ tags, graph.chosenBy? tag = some other) := by
  rw [usedPages_eq, UsedPages.mem_entries_useAll]
  simp [Uses, or_assoc]

theorem mem_pages_usedPages :
    other ∈ (usedPages steps fixtures tags graph).entries.map Prod.fst ↔
      Uses steps fixtures tags graph other := by
  constructor
  · intro h
    obtain ⟨entry, hentry, rfl⟩ := List.mem_map.mp h
    exact (mem_usedPages.mp hentry).1
  · intro h
    by_cases hchosen : ∃ tag ∈ tags, graph.chosenBy? tag = some other
    · exact List.mem_map_of_mem (mem_usedPages.mpr ⟨h, iff_of_true rfl hchosen⟩)
    · exact List.mem_map_of_mem (mem_usedPages.mpr ⟨h, iff_of_false Bool.false_ne_true hchosen⟩)

private theorem exists_uses_of_mem_winners {winner : String}
    (h : winner ∈ step.winners (usedPages steps fixtures tags graph) graph) :
    ∃ page other, step.hole? = some page ∧ Uses steps fixtures tags graph other ∧
      page ∈ graph.lineage other ∧ graph.fixture other = winner := by
  obtain ⟨page, hhole, hwinner⟩ := List.mem_flatMap.mp h
  obtain ⟨other, hother, hfixture⟩ := UsedPages.mem_candidateFixtures.mp hwinner
  obtain ⟨_, hused, _, hlineage⟩ := UsedPages.exists_of_mem_candidates hother
  exact ⟨page, other, by simpa using hhole, (mem_usedPages.mp hused).1, hlineage, hfixture⟩

/-! ## The outcome -/

private theorem ne_empty_of_mem_winners {name : String} (h : name ∈ step.winners used graph) :
    name ≠ "" := by
  obtain ⟨page, _, hmem⟩ := List.mem_flatMap.mp h
  exact UsedPages.ne_empty_of_mem_candidateFixtures hmem

theorem fill_eq_ok {set filled : FixtureSet} :
    fill steps set tags graph uri = .ok (lines, filled) ↔
      (∀ step ∈ steps, step.Settled (usedPages steps set.names tags graph) graph) ∧
        lines = steps.map (·.written (usedPages steps set.names tags graph) graph) ∧
          filled.names = distinct (set.names ++
            steps.flatMap (·.winners (usedPages steps set.names tags graph) graph)) := by
  let used := usedPages steps set.names tags graph
  let winners := steps.flatMap (·.winners used graph)
  have hwinners : winners.filter (· ≠ "") = winners := by
    apply List.filter_eq_self.mpr
    intro name hname
    obtain ⟨step, _, hmem⟩ := List.mem_flatMap.mp hname
    simpa using ne_empty_of_mem_winners hmem
  have hnames : (set.update winners).names = distinct (set.names ++ winners) := by
    rw [FixtureSet.names_update, hwinners]
  unfold fill
  rw [fillAll_eq_ok]
  refine and_congr_right fun _ => and_congr_right fun _ => ?_
  constructor
  · rintro rfl
    exact hnames
  · intro h
    exact FixtureSet.eq_of_names (h.trans hnames.symm)

theorem exists_fill_iff {set : FixtureSet} :
    (∃ result, fill steps set tags graph uri = .ok result) ↔
      ∀ step ∈ steps, step.Settled (usedPages steps set.names tags graph) graph := by
  constructor
  · rintro ⟨⟨lines, filled⟩, h⟩
    exact (fill_eq_ok.mp h).1
  · intro h
    exact ⟨_, fillAll_eq_ok.mpr ⟨h, rfl, rfl⟩⟩

/-- A test is refused exactly if a hole has not one fixture that can run it, and the fault tells of
the first such hole. Otherwise every step has its line: a step that is ready keeps it, and a hole
passes the fixture that can run it, which joins the fixtures of the test. That fixture is the one of
a used page object at or below the page object of the hole; and neither the used page objects nor
the line or the fault of a step depend on what the others have won. -/
theorem outcome_of_fill (steps : List PreparedStep) (fixtures : FixtureSet) (tags : List String)
    (graph : PageGraph) (uri : String) :
    let used := usedPages steps fixtures.names tags graph
    let outcome := fill steps fixtures tags graph uri
    ((∃ fault, outcome = .error fault) ↔ ∃ step ∈ steps, ¬ step.Settled used graph) ∧
      (∀ fault, outcome = .error fault ↔
        ∃ front step back page, steps = front ++ step :: back ∧
          (∀ other ∈ front, other.Settled used graph) ∧ step.hole? = some page ∧
            ¬ step.Settled used graph ∧ fault = step.holeFault used graph uri page) ∧
      (∀ lines filled, outcome = .ok (lines, filled) ↔
        (∀ step ∈ steps, step.Settled used graph) ∧ lines = steps.map (·.written used graph) ∧
          filled.names = distinct (fixtures.names ++ steps.flatMap (·.winners used graph))) ∧
      (∀ step ∈ steps, ∀ winner ∈ step.winners used graph, ∃ page other,
        step.hole? = some page ∧ Uses steps fixtures.names tags graph other ∧
          page ∈ graph.lineage other ∧ graph.fixture other = winner) ∧
      (∀ other, other ∈ used.entries.map Prod.fst ↔
        Uses steps fixtures.names tags graph other) ∧
      ∀ step before before', (fillAll used graph uri before [step]).map Prod.fst =
        (fillAll used graph uri before' [step]).map Prod.fst := by
  intro used outcome
  refine ⟨?_, fun fault => fillAll_eq_error, fun lines filled => fill_eq_ok,
    fun step _ winner => exists_uses_of_mem_winners, fun other => mem_pages_usedPages,
    fst_fillAll_singleton⟩
  constructor
  · rintro ⟨fault, h⟩
    obtain ⟨front, step, back, _, hsplit, _, _, hnot, _⟩ := fillAll_eq_error.mp h
    exact ⟨step, by simp [hsplit], hnot⟩
  · rintro ⟨step, hmem, hnot⟩
    cases houtcome : outcome with
    | error fault => exact ⟨fault, rfl⟩
    | ok result => exact absurd (exists_fill_iff.mp ⟨result, houtcome⟩ step hmem) hnot

/-- Two branches below a page object without a fixture. -/
def branchedGraph : PageGraph :=
  ((({} : PageGraph).add "Page" "" none).add "Todo" "todo" (some 0)).add "Other" "other" (some 0)

def openStep : PreparedStep :=
  { keyword := "Given", text := "I open the page", line := 3, page := some 0 }

def addStep : PreparedStep :=
  { keyword := "When", text := "I add milk", line := 4, page := some 1 }

def readyStep : PreparedStep :=
  { keyword := "Then", text := "I wait", line := 5, code := some "Then(\"I wait\")" }

/-- The page object of the second hole runs both; without it, nothing runs the first. -/
theorem outcome_of_branchedGraph :
    (∃ filled, filled.names = ["Given", "todo"] ∧
      fill [openStep, readyStep, addStep] (.ofList ["Given"]) [] branchedGraph "a.feature" =
        .ok (["Given(\"I open the page\", todo=todo)", "Then(\"I wait\")",
          "When(\"I add milk\", todo=todo)"], filled)) ∧
      fill [readyStep, openStep] (.ofList ["Given"]) [] branchedGraph "a.feature" =
        .error (.pageFixture "I open the page" "a.feature" 3 []
          ["@fixture:todo", "@fixture:other"]) := by
  obtain ⟨_, _, hfilled, _⟩ := outcome_of_fill [openStep, readyStep, addStep] (.ofList ["Given"]) []
    branchedGraph "a.feature"
  obtain ⟨_, hrefused, _⟩ := outcome_of_fill [readyStep, openStep] (.ofList ["Given"]) []
    branchedGraph "a.feature"
  constructor
  · refine ⟨.ofList ["Given", "todo"], by decide +kernel, (hfilled _ _).mpr ⟨?_, ?_, ?_⟩⟩
    · decide +kernel
    · decide +kernel
    · decide +kernel
  · refine (hrefused _).mpr ⟨[readyStep], openStep, [], 0, rfl, ?_, rfl, ?_, ?_⟩
    · decide +kernel
    · decide +kernel
    · decide +kernel

/-! ## Other orders -/

section

variable {used' : UsedPages}
  (h : ∀ page, (used.candidateFixtures graph page).Perm (used'.candidateFixtures graph page))

include h

private theorem singleton_congr {winner : String} :
    used.candidateFixtures graph page = [winner] ↔
      used'.candidateFixtures graph page = [winner] := by
  rw [← List.perm_singleton, ← List.perm_singleton]
  exact (h page).congr_left [winner]

private theorem settled_congr : step.Settled used graph ↔ step.Settled used' graph := by
  simp only [Settled, singleton_congr h]

private theorem written_congr (hstep : step.Settled used graph) :
    step.written used graph = step.written used' graph := by
  unfold written
  cases hhole : step.hole? with
  | none => rfl
  | some page =>
      obtain ⟨winner, hwinner⟩ := hstep page hhole
      dsimp only
      rw [hwinner, (singleton_congr h).mp hwinner]

private theorem mem_winners_congr {name : String} :
    name ∈ step.winners used graph ↔ name ∈ step.winners used' graph := by
  simp only [winners, List.mem_flatMap, (h _).mem_iff]

end

private theorem candidateFixtures_usedPages_perm {steps' : List PreparedStep}
    (hsteps : ∀ step, step ∈ steps ↔ step ∈ steps')
    (hfixtures : ∀ name, name ∈ fixtures ↔ name ∈ fixtures')
    (htags : ∀ tag, tag ∈ tags ↔ tag ∈ tags') (page : Nat) :
    ((usedPages steps fixtures tags graph).candidateFixtures graph page).Perm
      ((usedPages steps' fixtures' tags' graph).candidateFixtures graph page) := by
  apply UsedPages.candidateFixtures_perm
  rintro ⟨other, chosen⟩
  simp only [UsedPages.mem_qualified, mem_usedPages, Uses, hsteps, hfixtures, htags]

/-- Whether a test is filled, the line of each of its steps and the fixtures with those that run its
holes do not depend on the order of its steps, of its fixtures or of its tags, nor on how often they
are given. -/
theorem fill_of_rearranged {steps steps' : List PreparedStep} {fixtures fixtures' : FixtureSet}
    {tags tags' : List String} (graph : PageGraph) (uri : String)
    (hsteps : ∀ step, step ∈ steps ↔ step ∈ steps')
    (hfixtures : ∀ name, name ∈ fixtures.names ↔ name ∈ fixtures'.names)
    (htags : ∀ tag, tag ∈ tags ↔ tag ∈ tags') :
    ((∃ result, fill steps fixtures tags graph uri = .ok result) ↔
        ∃ result, fill steps' fixtures' tags' graph uri = .ok result) ∧
      ∀ lines lines' filled filled',
        fill steps fixtures tags graph uri = .ok (lines, filled) →
        fill steps' fixtures' tags' graph uri = .ok (lines', filled') →
          lines.length = steps.length ∧ lines'.length = steps'.length ∧
          (∀ (i j : Nat) (step : PreparedStep), steps[i]? = some step → steps'[j]? = some step →
            ∃ line, lines[i]? = some line ∧ lines'[j]? = some line ∧
              ∀ page, step.hole? = some page → ∃ winner,
                line = Layout.step step.keyword step.text step.argument [winner] ∧
                (usedPages steps fixtures.names tags graph).candidateFixtures graph page =
                  [winner] ∧
                (usedPages steps' fixtures'.names tags' graph).candidateFixtures graph page =
                  [winner]) ∧
          ∀ name, name ∈ filled.names ↔ name ∈ filled'.names := by
  have hperm (page : Nat) :
      ((usedPages steps fixtures.names tags graph).candidateFixtures graph page).Perm
        ((usedPages steps' fixtures'.names tags' graph).candidateFixtures graph page) :=
    candidateFixtures_usedPages_perm hsteps hfixtures htags page
  constructor
  · rw [exists_fill_iff, exists_fill_iff]
    simp only [← hsteps]
    exact forall₂_congr fun step _ => settled_congr hperm
  · intro lines lines' filled filled' h h'
    obtain ⟨hall, rfl, hnames⟩ := fill_eq_ok.mp h
    obtain ⟨_, rfl, hnames'⟩ := fill_eq_ok.mp h'
    refine ⟨List.length_map _, List.length_map _, ?_, ?_⟩
    · intro i j step hi hj
      have hstep := hall step (List.mem_of_getElem? hi)
      refine ⟨step.written (usedPages steps fixtures.names tags graph) graph, by simp [hi],
        by simp [hj, written_congr hperm hstep], ?_⟩
      intro page hhole
      obtain ⟨winner, hwinner⟩ := hstep page hhole
      exact ⟨winner, by simp [written, hhole, hwinner], hwinner, (singleton_congr hperm).mp hwinner⟩
    · intro name
      simp only [hnames, hnames', mem_distinct, List.mem_append, List.mem_flatMap, hsteps,
        hfixtures, mem_winners_congr hperm]

/-- The steps turned round and one of them told twice, with other fixtures in front and a tag
repeated. -/
theorem fill_of_rearranged_branches :
    let steps := [openStep, readyStep, addStep]
    let steps' := [addStep, openStep, readyStep, openStep]
    let fixtures := FixtureSet.ofList ["Given", "other"]
    let fixtures' := FixtureSet.ofList ["other", "Given"]
    let tags := ["@slow", "@fixture:todo"]
    let tags' := ["@fixture:todo", "@slow", "@fixture:todo"]
    (∀ step, step ∈ steps ↔ step ∈ steps') ∧
      (∀ name, name ∈ fixtures.names ↔ name ∈ fixtures'.names) ∧
      (∀ tag, tag ∈ tags ↔ tag ∈ tags') ∧
      (∃ result, fill steps fixtures tags branchedGraph "a.feature" = .ok result) ∧
      ∃ result, fill steps' fixtures' tags' branchedGraph "a.feature" = .ok result := by
  intro steps steps' fixtures fixtures' tags tags'
  have hsteps : ∀ step, step ∈ steps ↔ step ∈ steps' := by
    intro step
    simp only [steps, steps', List.mem_cons, List.not_mem_nil, or_false]
    tauto
  have hfixtures : ∀ name, name ∈ fixtures.names ↔ name ∈ fixtures'.names := by
    intro name
    simp only [fixtures, fixtures', FixtureSet.names_ofList, mem_distinct, List.mem_filter,
      List.mem_cons, List.not_mem_nil, or_false]
    tauto
  have htags : ∀ tag, tag ∈ tags ↔ tag ∈ tags' := by
    intro tag
    simp only [tags, tags', List.mem_cons, List.not_mem_nil, or_false]
    tauto
  have hfilled : ∃ result, fill steps fixtures tags branchedGraph "a.feature" = .ok result :=
    exists_fill_iff.mpr (by decide +kernel)
  exact ⟨hsteps, hfixtures, htags, hfilled,
    (fill_of_rearranged branchedGraph "a.feature" hsteps hfixtures htags).1.mp hfilled⟩

end PreparedStep

end FeatureSuite

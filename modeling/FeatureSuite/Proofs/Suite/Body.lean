import FeatureSuite.Proofs.Suite.Filling

/-!
# Bodies of hooks and tests

A body is made in two passes: every step is resolved, then every step of a page object is given the
fixture that runs it. What a body holds is stated here for the steps as a whole, without the passes.
-/

namespace FeatureSuite

open Gherkin (Step)

namespace Occurrence

variable (used : UsedPages) (graph : PageGraph)

/-- The page object whose method runs the step. -/
def page? (occurrence : Occurrence) : Option Nat := occurrence.found.bind (·.binding.page)

/-- The fixtures that can run the step if its handler is a method of a page object. -/
def winners (occurrence : Occurrence) : List String :=
  occurrence.page?.toList.flatMap (used.candidateFixtures graph)

/-- One fixture can run the step if its handler is a method of a page object. -/
def Settled (occurrence : Occurrence) : Prop :=
  ∀ page, occurrence.page? = some page →
    ∃ winner, used.candidateFixtures graph page = [winner]

/-- The fixtures that are passed by name in the call of the step. -/
def passed (occurrence : Occurrence) : List String :=
  occurrence.fixtures ++ occurrence.winners used graph

/-- The line that runs the step. -/
def line (occurrence : Occurrence) : String :=
  match occurrence.found with
  | none => Layout.missingStep occurrence.keyword.label occurrence.pickleStep.text
  | some _ =>
      Layout.step occurrence.keyword.label occurrence.pickleStep.text
        occurrence.pickleStep.argument (occurrence.passed used graph)

@[simp] theorem hole?_prepared (occurrence : Occurrence) :
    occurrence.prepared.hole? = occurrence.page? := by
  unfold prepared page?
  cases occurrence.found with
  | none => rfl
  | some found => cases h : found.binding.page <;> simp [h, PreparedStep.hole?]

private theorem code_prepared {occurrence : Occurrence} (h : occurrence.page? = none) :
    occurrence.prepared.code.getD "" = occurrence.line used graph := by
  unfold page? at h
  unfold prepared line passed winners page?
  cases hfound : occurrence.found with
  | none => rfl
  | some found =>
      rw [hfound] at h
      have hpage : found.binding.page = none := h
      simp [hpage]

theorem fixtures_of_page {occurrence : Occurrence} {page : Nat}
    (h : occurrence.page? = some page) : occurrence.fixtures = [] := by
  unfold page? at h
  unfold fixtures
  cases hfound : occurrence.found with
  | none => rfl
  | some found =>
      rw [hfound] at h
      have hpage : found.binding.page = some page := h
      simp [Binding.fixtureNames, Binding.isPageStep, hpage]

private theorem line_of_page {occurrence : Occurrence} {page : Nat}
    (h : occurrence.page? = some page) :
    occurrence.line used graph =
      Layout.step occurrence.prepared.keyword occurrence.prepared.text
        occurrence.prepared.argument (used.candidateFixtures graph page) := by
  have hpassed : occurrence.passed used graph = used.candidateFixtures graph page := by
    rw [passed, fixtures_of_page h, winners, h]
    simp
  unfold page? at h
  unfold line prepared
  rw [hpassed]
  cases hfound : occurrence.found with
  | none =>
      rw [hfound] at h
      cases h
  | some found =>
      rw [hfound] at h
      have hpage : found.binding.page = some page := h
      simp only [hpage]

end Occurrence

/-! ## Resolving steps -/

namespace Planner

/-- A step is resolved as the pickles, the keywords and the handlers say. -/
structure Resolves (planner : Planner) (tags : List String) (row : Option String) (step : Step)
    (occurrence : Occurrence) : Prop where
  step_eq : occurrence.step = step
  pickleStep_eq : planner.pickleStep? step row = some occurrence.pickleStep
  keyword_eq : planner.keywords.canonical step.keyword = .ok occurrence.keyword
  role_eq : ∃ previous, planner.keywords.classify step.keyword previous = .ok occurrence.role
  found_eq :
    planner.registry.find occurrence.pickleStep.text (some occurrence.role) tags =
      .ok occurrence.found

variable {planner : Planner} {tags : List String} {row : Option String}

private theorem resolves_of_occurrence {previous : Option Role} {step : Step}
    {occurrence : Occurrence} (h : planner.occurrence tags row previous step = .ok occurrence) :
    planner.Resolves tags row step occurrence := by
  unfold Planner.occurrence at h
  split at h
  · cases h
  · rename_i pickleStep hpickle
    obtain ⟨role, hrole, h⟩ := bind_eq_ok.mp h
    obtain ⟨keyword, hkeyword, h⟩ := bind_eq_ok.mp h
    obtain ⟨found, hfound, h⟩ := bind_eq_ok.mp h
    cases h
    exact ⟨rfl, hpickle, documentResult_eq_ok.mp hkeyword,
      ⟨previous, documentResult_eq_ok.mp hrole⟩, conversionResult_eq_ok.mp hfound⟩

/-- Every step is resolved, and nothing else is run. -/
theorem resolves_of_occurrences {previous : Option Role} {steps : List Step}
    {occurrences : List Occurrence}
    (h : planner.occurrences tags row previous steps = .ok occurrences) :
    List.Forall₂ (planner.Resolves tags row) steps occurrences := by
  induction steps generalizing previous occurrences with
  | nil =>
      cases h
      exact .nil
  | cons step steps ih =>
      obtain ⟨occurrence, hstep, h⟩ := bind_eq_ok.mp h
      obtain ⟨rest, hrest, h⟩ := bind_eq_ok.mp h
      cases h
      exact .cons (resolves_of_occurrence hstep) (ih hrest)

end Planner

/-! ## Filling holes -/

namespace Occurrence

variable {used : UsedPages} {graph : PageGraph} {uri : String}

@[simp] private theorem winners_prepared (occurrence : Occurrence) :
    occurrence.prepared.winners used graph = occurrence.winners used graph := by
  rw [PreparedStep.winners, hole?_prepared, winners]

@[simp] private theorem settled_prepared (occurrence : Occurrence) :
    occurrence.prepared.Settled used graph ↔ occurrence.Settled used graph := by
  rw [PreparedStep.Settled, hole?_prepared, Settled]

@[simp] private theorem written_prepared (occurrence : Occurrence) :
    occurrence.prepared.written used graph = occurrence.line used graph := by
  rw [PreparedStep.written, hole?_prepared]
  cases hpage : occurrence.page? with
  | none => exact code_prepared used graph hpage
  | some page => exact (line_of_page used graph hpage).symm

/-- Holes are filled if each of them has one candidate: this one is passed, and joins the fixtures
behind those of the holes in front. -/
theorem fill_eq_ok {occurrences : List Occurrence} {set filled : FixtureSet} {tags : List String}
    {lines : List String}
    (hused : PreparedStep.usedPages (occurrences.map (·.prepared)) set.names tags graph = used) :
    PreparedStep.fill (occurrences.map (·.prepared)) set tags graph uri = .ok (lines, filled) ↔
      (∀ occurrence ∈ occurrences, occurrence.Settled used graph) ∧
        lines = occurrences.map (·.line used graph) ∧
          filled.names = distinct (set.names ++ occurrences.flatMap (·.winners used graph)) := by
  rw [PreparedStep.fill_eq_ok, hused]
  simp only [List.forall_mem_map, settled_prepared, List.map_map, Function.comp_def,
    written_prepared, List.flatMap_map, winners_prepared]

end Occurrence

/-! ## Names -/

private theorem Keyword.label_ne_empty (keyword : Keyword) : keyword.label ≠ "" := by
  cases keyword <;> decide

private theorem Handler.ne_empty_of_mem_fixtureNames {handler : Handler} {name : String}
    (h : name ∈ handler.fixtureNames) : name ≠ "" := by
  unfold Handler.fixtureNames at h
  split at h
  · cases h
  · obtain ⟨parameter, _, rfl⟩ := List.mem_map.mp h
    exact parameter.named

private theorem Occurrence.ne_empty_of_mem_fixtures {occurrence : Occurrence} {name : String}
    (h : name ∈ occurrence.fixtures) : name ≠ "" := by
  unfold Occurrence.fixtures Binding.fixtureNames at h
  split at h
  · cases h
  · split at h
    · cases h
    · exact Handler.ne_empty_of_mem_fixtureNames h

private theorem ne_empty_of_fixtureOfTag? {tag name : String} (h : fixtureOfTag? tag = some name) :
    name ≠ "" := by
  have hname := (Option.filter_eq_some_iff.mp h).2
  simpa using hname

/-! ## Bodies -/

/-- The names that the steps of a body ask for: keywords and handlers step by step. -/
def Body.asked (body : Body) : List String :=
  body.occurrences.flatMap fun occurrence => occurrence.keyword.label :: occurrence.fixtures

private theorem Body.ne_empty_of_mem_asked {body : Body} {name : String} (h : name ∈ body.asked) :
    name ≠ "" := by
  obtain ⟨occurrence, _, hmem⟩ := List.mem_flatMap.mp h
  rcases List.mem_cons.mp hmem with rfl | hmem
  · exact occurrence.keyword.label_ne_empty
  · exact Occurrence.ne_empty_of_mem_fixtures hmem

namespace Planner

variable {planner : Planner} {steps : List Step} {tags : List String} {row : Option String}
  {body : Body}

/-- The page objects that a body uses. -/
def usedPages (planner : Planner) (tags : List String) (body : Body) : UsedPages :=
  PreparedStep.usedPages (body.occurrences.map (·.prepared))
    (bodyFixtures body.occurrences tags).names tags planner.registry.pages

/-- The fixtures that run the page object steps of a body, step by step. -/
def winners (planner : Planner) (tags : List String) (body : Body) : List String :=
  body.occurrences.flatMap (·.winners (planner.usedPages tags body) planner.registry.pages)

/-- A body resolves all steps, and its lines and its fixtures are those of its steps. -/
structure Composes (planner : Planner) (steps : List Step) (tags : List String)
    (row : Option String) (body : Body) : Prop where
  resolves : List.Forall₂ (planner.Resolves tags row) steps body.occurrences
  settled : ∀ occurrence ∈ body.occurrences,
    occurrence.Settled (planner.usedPages tags body) planner.registry.pages
  lines_eq : body.lines =
    body.occurrences.map (·.line (planner.usedPages tags body) planner.registry.pages)
  fixtures_eq : body.fixtures =
    distinct (body.asked ++ tags.filterMap fixtureOfTag? ++ planner.winners tags body)

private theorem names_bodyFixtures (body : Body) (tags : List String) :
    (bodyFixtures body.occurrences tags).names =
      distinct (body.asked ++ tags.filterMap fixtureOfTag?) := by
  have hnamed : ∀ name ∈ body.asked ++ tagFixtures tags, name ≠ "" := by
    intro name h
    rcases List.mem_append.mp h with h | h
    · exact Body.ne_empty_of_mem_asked h
    · obtain ⟨tag, _, htag⟩ := List.mem_filterMap.mp (mem_distinct.mp h)
      exact ne_empty_of_fixtureOfTag? htag
  have hkept : (body.asked ++ tagFixtures tags).filter (· ≠ "") =
      body.asked ++ tagFixtures tags :=
    List.filter_eq_self.mpr fun name h => by simpa using hnamed name h
  have hnames := FixtureSet.names_ofList (body.asked ++ tagFixtures tags)
  rw [hkept, tagFixtures, distinct_append_distinct] at hnames
  exact hnames

theorem composes_of_body (h : planner.body steps tags row = .ok body) :
    planner.Composes steps tags row body := by
  obtain ⟨occurrences, hoccurrences, h⟩ := bind_eq_ok.mp h
  obtain ⟨⟨lines, fixtures⟩, hfill, h⟩ := bind_eq_ok.mp h
  cases h
  let body : Body := ⟨occurrences, fixtures.names, lines⟩
  have hused : PreparedStep.usedPages (occurrences.map (·.prepared))
      (bodyFixtures occurrences tags).names tags planner.registry.pages =
        planner.usedPages tags body := rfl
  obtain ⟨hsettled, hlines, hnames⟩ :=
    (Occurrence.fill_eq_ok hused).mp (documentResult_eq_ok.mp hfill)
  have hfixtures : fixtures.names =
      distinct (body.asked ++ tags.filterMap fixtureOfTag? ++ planner.winners tags body) := by
    rw [hnames, names_bodyFixtures body, distinct_distinct_append]
    rfl
  exact ⟨resolves_of_occurrences hoccurrences, hsettled, hlines, hfixtures⟩

/-- What a step of a body calls and passes is among the fixtures of the body. -/
theorem Composes.mem_fixtures (h : planner.Composes steps tags row body) {occurrence : Occurrence}
    (hmem : occurrence ∈ body.occurrences) :
    occurrence.keyword.label ∈ body.fixtures ∧
      ∀ name ∈ occurrence.passed (planner.usedPages tags body) planner.registry.pages,
        name ∈ body.fixtures := by
  simp only [h.fixtures_eq, mem_distinct]
  have hasked (name : String) (hname : name ∈ occurrence.keyword.label :: occurrence.fixtures) :
      name ∈ body.asked := List.mem_flatMap.mpr ⟨occurrence, hmem, hname⟩
  refine ⟨?_, fun name hname => ?_⟩
  · exact List.mem_append_left _ (List.mem_append_left _ (hasked _ List.mem_cons_self))
  · rcases List.mem_append.mp hname with hname | hname
    · exact List.mem_append_left _
        (List.mem_append_left _ (hasked name (List.mem_cons_of_mem _ hname)))
    · exact List.mem_append_right _ (List.mem_flatMap.mpr ⟨occurrence, hmem, hname⟩)

end Planner

end FeatureSuite

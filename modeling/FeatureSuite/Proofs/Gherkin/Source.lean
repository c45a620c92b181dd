import FeatureSuite.Gherkin.Pickling
import FeatureSuite.Proofs.Gherkin.Numbering
import Mathlib.Data.List.Forall2

/-!
# Sources of pickle steps

A step of a pickle stems from a step of the document, into which a row may be filled. The
identifiers that it carries tell which step and which row these are, so a step of a pickle is found
again by them.
-/

namespace FeatureSuite.Gherkin

/-- A step with the values that are filled into it and the rows that these come from. -/
abbrev Source := Step × List Filling × List String

structure Yields (source : Source) (pickleStep : PickleStep) : Prop where
  text_eq : pickleStep.text = fillIn source.2.1 source.1.text
  argument_eq : pickleStep.argument = source.1.argument source.2.1
  nodes_eq : pickleStep.astNodeIds = source.1.id :: source.2.2

def testSources (background steps : List Step) (fillings : List Filling) (rows : List String) :
    List Source :=
  if steps.isEmpty then []
  else background.map (·, [], []) ++ steps.map (·, fillings, rows)

private theorem forall₂_pickledSteps (previous : Option String) (sources : List Source) :
    List.Forall₂ Yields sources (pickledSteps previous sources) := by
  induction sources generalizing previous with
  | nil => exact .nil
  | cons source sources ih => exact .cons ⟨rfl, rfl, rfl⟩ (ih _)

/-- The steps of a test stem from its sources. -/
theorem PickleScope.forall₂_steps (scope : PickleScope) (start : Option String) (steps : List Step)
    (fillings : List Filling) (rows : List String) :
    List.Forall₂ Yields (testSources scope.background steps fillings rows)
      (scope.steps start steps fillings rows) := by
  unfold testSources PickleScope.steps
  split
  · exact .nil
  · exact forall₂_pickledSteps start _

/-! ## Sources in a document -/

/-- A source consists of nodes: a step of a background or of a scenario without examples as it is,
or a step of an outline with a row. -/
inductive Runs (nodes : List (String × Node)) : Source → Prop where
  | background {background : Background} {step : Step} :
      (step.id, .backgroundStep background step) ∈ nodes → Runs nodes (step, [], [])
  | scenario {scenario : Scenario} {step : Step} :
      (step.id, .scenarioStep scenario step) ∈ nodes → scenario.isOutline = false →
        Runs nodes (step, [], [])
  | outline {outline : Scenario} {step : Step} {block : Examples} {header row : TableRow}
      {fillings : List Filling} :
      (step.id, .scenarioStep outline step) ∈ nodes → outline.isOutline = true →
        (row.id, .row block row) ∈ nodes → block.tableHeader = some header →
          rowFillings header.cells row.cells = .ok fillings → Runs nodes (step, fillings, [row.id])

namespace Runs

variable {nodes : List (String × Node)} {source other : Source}

private theorem row_node (h : Runs nodes source) {id : String} (hid : id ∈ source.2.2) :
    ∃ block row, (id, Node.row block row) ∈ nodes := by
  cases h with
  | background => cases hid
  | scenario => cases hid
  | outline _ _ hrow =>
      rw [List.mem_singleton.mp hid]
      exact ⟨_, _, hrow⟩

private theorem ne_row (hnodes : (nodeIds nodes).Nodup) (h : Runs nodes source)
    (h' : Runs nodes other) {id : String} (hid : id ∈ other.2.2) : source.1.id ≠ id := by
  rintro rfl
  obtain ⟨block, row, hrow⟩ := h'.row_node hid
  cases h with
  | background hstep => cases node_unique hnodes hrow hstep
  | scenario hstep => cases node_unique hnodes hrow hstep
  | outline hstep => cases node_unique hnodes hrow hstep

/-- A source is known from the identifiers that its steps of pickles carry. -/
theorem unique (hnodes : (nodeIds nodes).Nodup) (h : Runs nodes source) (h' : Runs nodes other)
    (hstep : source.1.id ∈ other.1.id :: other.2.2)
    (hrows : ∀ id ∈ source.2.2, id ∈ other.1.id :: other.2.2) : other = source := by
  have hid : source.1.id = other.1.id := by
    rcases List.mem_cons.mp hstep with hid | hid
    · exact hid
    · exact absurd rfl (ne_row hnodes h h' hid)
  have hrows : ∀ id ∈ source.2.2, id ∈ other.2.2 := by
    intro id hmem
    rcases List.mem_cons.mp (hrows id hmem) with hid | hid
    · exact absurd hid.symm (ne_row hnodes h' h hmem)
    · exact hid
  cases h with
  | background hnode =>
      cases h' with
      | background hnode' =>
          cases node_unique hnodes hnode (hid ▸ hnode')
          rfl
      | scenario hnode' => cases node_unique hnodes hnode (hid ▸ hnode')
      | outline hnode' => cases node_unique hnodes hnode (hid ▸ hnode')
  | scenario hnode hplain =>
      cases h' with
      | background hnode' => cases node_unique hnodes hnode (hid ▸ hnode')
      | scenario hnode' =>
          cases node_unique hnodes hnode (hid ▸ hnode')
          rfl
      | outline hnode' hexamples =>
          cases node_unique hnodes hnode (hid ▸ hnode')
          rw [hplain] at hexamples
          cases hexamples
  | outline hnode hexamples hrow hheader hfillings =>
      cases h' with
      | background => cases hrows _ List.mem_cons_self
      | scenario => cases hrows _ List.mem_cons_self
      | outline hnode' hexamples' hrow' hheader' hfillings' =>
          cases node_unique hnodes hnode (hid ▸ hnode')
          have hsame := List.mem_singleton.mp (hrows _ List.mem_cons_self)
          cases node_unique hnodes hrow (hsame ▸ hrow')
          rw [hheader] at hheader'
          cases hheader'
          rw [hfillings] at hfillings'
          cases hfillings'
          rfl

/-! ## Finding the steps of pickles -/

variable {steps : List PickleStep} {row : Option String} {found : PickleStep}

/-- What is found by the identifiers of a source stems from it. -/
theorem yields_of_find? (hnodes : (nodeIds nodes).Nodup)
    (hsteps : ∀ pickleStep ∈ steps, ∃ source, Runs nodes source ∧ Yields source pickleStep)
    (h : Runs nodes source) (hrow : source.2.2 = row.toList)
    (hfound : steps.find? (fun pickleStep => pickleStep.astNodeIds.contains source.1.id &&
      row.all pickleStep.astNodeIds.contains) = some found) :
    found ∈ steps ∧ Yields source found := by
  have hmem := List.mem_of_find?_eq_some hfound
  have hcarries := List.find?_some hfound
  obtain ⟨other, hother, hyields⟩ := hsteps found hmem
  simp only [hyields.nodes_eq, Bool.and_eq_true, List.contains_eq_mem, decide_eq_true_eq]
    at hcarries
  have hrows : ∀ id ∈ source.2.2, id ∈ other.1.id :: other.2.2 := by
    intro id hid
    rw [hrow, Option.mem_toList] at hid
    have hall := hcarries.2
    rw [hid, Option.all_some] at hall
    exact List.contains_iff_mem.mp hall
  have hsame := unique hnodes h hother hcarries.1 hrows
  exact ⟨hmem, hsame ▸ hyields⟩

/-- A step of a pickle is found by the identifiers of a source exactly if one stems from it. -/
theorem isSome_find? (hnodes : (nodeIds nodes).Nodup)
    (hsteps : ∀ pickleStep ∈ steps, ∃ source, Runs nodes source ∧ Yields source pickleStep)
    (h : Runs nodes source) (hrow : source.2.2 = row.toList) :
    (steps.find? (fun pickleStep => pickleStep.astNodeIds.contains source.1.id &&
        row.all pickleStep.astNodeIds.contains)).isSome ↔
      ∃ pickleStep ∈ steps, Yields source pickleStep := by
  constructor
  · intro hsome
    obtain ⟨found, hfound⟩ := Option.isSome_iff_exists.mp hsome
    exact ⟨found, yields_of_find? hnodes hsteps h hrow hfound⟩
  · rintro ⟨pickleStep, hmem, hyields⟩
    refine List.find?_isSome.mpr ⟨pickleStep, hmem, ?_⟩
    rw [hyields.nodes_eq, hrow]
    cases row <;> simp

end Runs

end FeatureSuite.Gherkin

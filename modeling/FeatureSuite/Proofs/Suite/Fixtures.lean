import FeatureSuite.Proofs.Suite.Body
import FeatureSuite.Proofs.Suite.Calls
import FeatureSuite.Proofs.Suite.Checked

/-!
# Where fixtures come from

The fixtures of a body are the keywords of its steps, what the tags that it sees choose, and what
the registry names: handlers ask for fixtures, and fixtures provide page objects. So whatever holds
of the names that can be parameters holds of all fixtures of a plan, if it holds of those that the
registry names.
-/

namespace FeatureSuite

open Gherkin (Step)

/-- The fixtures that handlers ask for and those that provide page objects. -/
def Registry.fixtures (registry : Registry) : List String :=
  registry.bindings.flatMap (·.fixtureNames) ++
    (registry.pages.nodes.map (·.fixture)).filter (· ≠ "")

namespace Registry

variable {registry : Registry} {text : String} {role : Option Role} {tags : List String}
  {found : StepMatch}

private theorem exists_of_findIn {numbered : List (Binding × Nat)}
    (h : findIn text role tags numbered = .ok (some found)) :
    ∃ entry ∈ numbered, entry.1 = found.binding := by
  induction numbered with
  | nil => cases h
  | cons entry numbered ih =>
      obtain ⟨binding, index⟩ := entry
      have hrest (h : findIn text role tags numbered = .ok (some found)) :
          ∃ entry ∈ (binding, index) :: numbered, entry.1 = found.binding := by
        obtain ⟨entry, hentry, hbinding⟩ := ih h
        exact ⟨entry, List.mem_cons_of_mem _ hentry, hbinding⟩
      rw [findIn] at h
      split at h
      · obtain ⟨captured, _, h⟩ := bind_eq_ok.mp h
        cases captured with
        | some captured =>
            cases h
            exact ⟨(binding, index), List.mem_cons_self, rfl⟩
        | none => exact hrest h
      · exact hrest h

private theorem mem_bindings_of_find (h : registry.find text role tags = .ok (some found)) :
    found.binding ∈ registry.bindings := by
  obtain ⟨⟨binding, index⟩, hentry, rfl⟩ := exists_of_findIn h
  exact (List.mem_zipIdx' hentry).2 ▸ List.getElem_mem _

private theorem mem_fixtures_of_candidate {used : UsedPages} {page : Nat} {name : String}
    (hname : name ∈ used.candidateFixtures registry.pages page) : name ∈ registry.fixtures := by
  have hne := UsedPages.ne_empty_of_mem_candidateFixtures hname
  obtain ⟨other, _, rfl⟩ := UsedPages.mem_candidateFixtures.mp hname
  have hlt := PageGraph.lt_of_fixture_ne_empty hne
  rw [PageGraph.fixture_eq hlt] at hne ⊢
  refine List.mem_append_right _ (List.mem_filter.mpr ⟨?_, decide_eq_true hne⟩)
  exact List.mem_map_of_mem (List.getElem_mem hlt)

end Registry

namespace Planner

variable {planner : Planner} {steps : List Step} {tags : List String} {row : Option String}
  {body : Body} {name : String}

theorem Composes.mem_bindings (h : planner.Composes steps tags row body) {occurrence : Occurrence}
    (hmem : occurrence ∈ body.occurrences) {found : StepMatch}
    (hfound : occurrence.found = some found) : found.binding ∈ planner.registry.bindings := by
  obtain ⟨step, _, hresolves⟩ := exists_of_mem_right h.resolves hmem
  exact Registry.mem_bindings_of_find (hfound ▸ hresolves.found_eq)

/-- A fixture of a body is a keyword, or a tag chooses it, or the registry names it. -/
theorem Composes.mem_fixtures_cases (h : planner.Composes steps tags row body)
    (hname : name ∈ body.fixtures) :
    (∃ keyword : Keyword, keyword.label = name) ∨ name ∈ tags.filterMap fixtureOfTag? ∨
      name ∈ planner.registry.fixtures := by
  rw [h.fixtures_eq, mem_distinct, List.append_assoc, List.mem_append, List.mem_append] at hname
  rcases hname with hasked | hchosen | hwinner
  · obtain ⟨occurrence, hmem, hasked⟩ := List.mem_flatMap.mp hasked
    rcases List.mem_cons.mp hasked with rfl | hfixture
    · exact .inl ⟨occurrence.keyword, rfl⟩
    · unfold Occurrence.fixtures at hfixture
      split at hfixture
      · cases hfixture
      · rename_i found hfound
        have hasks : name ∈ planner.registry.bindings.flatMap (·.fixtureNames) :=
          List.mem_flatMap.mpr ⟨found.binding, h.mem_bindings hmem hfound, hfixture⟩
        exact .inr (.inr (List.mem_append_left _ hasks))
  · exact .inr (.inl hchosen)
  · obtain ⟨occurrence, _, hwinner⟩ := List.mem_flatMap.mp hwinner
    obtain ⟨page, _, hcandidate⟩ := List.mem_flatMap.mp hwinner
    exact .inr (.inr (Registry.mem_fixtures_of_candidate hcandidate))

end Planner

/-- What holds of all names for parameters and of the fixtures that the registry names holds of all
fixtures of a plan. -/
theorem FeatureFile.fixtures_of_plan {file : FeatureFile} {keywords : KeywordTable} {uri : String}
    {root : SuiteUnit} {P : String → Prop}
    (hparameters : ∀ name, Text.isParameterName name = true → P name)
    (hregistry : ∀ name ∈ file.registry.fixtures, P name)
    (h : file.plan = .ok (keywords, uri, root)) :
    ∀ placed ∈ root.placed [] [], ∀ name ∈ placed.unit.body.fixtures, P name := by
  intro placed hplaced name hname
  obtain ⟨site, hsite, hrealizes⟩ := exists_of_mem_right (plan_realizes h) hplaced
  have hcomposes := Planner.composes_of_body hrealizes.body_eq
  rcases hcomposes.mem_fixtures_cases hname with ⟨keyword, rfl⟩ | hchosen | hnamed
  · exact hparameters _ (Layout.isParameterName_label keyword)
  · obtain ⟨tag, htag, hfixture⟩ := List.mem_filterMap.mp hchosen
    exact hparameters name (choosesParameter_of_plan h hsite tag htag name hfixture)
  · exact hregistry name hnamed

end FeatureSuite

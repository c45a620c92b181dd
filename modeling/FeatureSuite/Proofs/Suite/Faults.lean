import FeatureSuite.Proofs.Gherkin.Regular
import FeatureSuite.Proofs.Suite.Body
import FeatureSuite.Proofs.Suite.Build

/-!
# Why a module cannot be built

Building walks through a document and fails at the first fault. What can go wrong is a part that
holds nothing, a tag, the fixture of a page object, a converter, or at one step of a site its
keyword or its step of a pickle. So a sort of failures that covers these covers all.
-/

namespace FeatureSuite

open Gherkin

namespace FailsOnly

variable {α : Type} {sort : Failure → Prop}

theorem documentResult {x : Except DocumentFault α}
    (h : FailsOnly (fun fault => sort (.document fault)) x) :
    FailsOnly sort (FeatureSuite.documentResult x) := by
  cases x with
  | ok a => exact .ok a
  | error fault => exact .error (h fault rfl)

theorem conversionResult (x : Except ConversionFault α)
    (h : ∀ fault, sort (.conversion fault)) :
    FailsOnly sort (FeatureSuite.conversionResult x) := by
  cases x with
  | ok a => exact .ok a
  | error fault => exact .error (h fault)

end FailsOnly

namespace KeywordTable

theorem canonical_eq_error {table : KeywordTable} {word : String} {fault : DocumentFault}
    (h : table.canonical word = .error fault) :
    fault = .unknownKeyword (Text.strip word) table.language := by
  unfold canonical at h
  dsimp only at h
  split at h
  · cases h
  · split at h <;> cases h
    rfl

theorem find_eq_error {language : String} {fault : DocumentFault}
    (h : KeywordTable.find language = .error fault) : fault = .unknownLanguage language := by
  unfold KeywordTable.find at h
  split at h <;> cases h
  rfl

end KeywordTable

/-! ## Faults that any document may have -/

/-- A sort of failures covers those that come from tags, page objects and converters. -/
structure Failure.CoversContent (sort : Failure → Prop) : Prop where
  conversion : ∀ fault, sort (.conversion fault)
  fixtureTag : ∀ tag uri line fixture, sort (.document (.fixtureTag tag uri line fixture))
  pageFixture : ∀ text uri line candidates suggestedTags,
    sort (.document (.pageFixture text uri line candidates suggestedTags))

section

variable {sort : Failure → Prop}

private theorem checkFixtureTags_failsOnly (hsort : Failure.CoversContent sort) (uri : String)
    (tags : List Tag) :
    FailsOnly (fun fault => sort (.document fault)) (checkFixtureTags uri tags) := by
  induction tags with
  | nil => exact .ok ()
  | cons tag tags ih =>
      rw [checkFixtureTags]
      split
      · exact ih
      · split
        · exact ih
        · exact .error (hsort.fixtureTag _ _ _ _)

private theorem fillAll_failsOnly (hsort : Failure.CoversContent sort) (used : UsedPages)
    (graph : PageGraph) (uri : String) (fixtures : FixtureSet) (steps : List PreparedStep) :
    FailsOnly (fun fault => sort (.document fault))
      (PreparedStep.fillAll used graph uri fixtures steps) := by
  intro fault h
  obtain ⟨_, _, _, _, _, _, _, _, rfl⟩ := PreparedStep.fillAll_eq_error.mp h
  exact hsort.pageFixture _ _ _ _ _

private theorem classify_failsOnly {sort : DocumentFault → Prop} {table : KeywordTable}
    {word : String} (h : FailsOnly sort (table.canonical word)) (previous : Option Role) :
    FailsOnly sort (table.classify word previous) := by
  unfold KeywordTable.classify
  cases hword : table.canonical word with
  | ok keyword => exact .ok _
  | error fault => exact .error (h fault hword)

end

/-! ## Parts that hold nothing -/

def Gherkin.RuleChild.Hollow (child : RuleChild) : Prop :=
  child.background = none ∧ child.scenario = none

def Gherkin.FeatureChild.Hollow (child : FeatureChild) : Prop :=
  match child.rule with
  | some rule => ∃ child ∈ rule.children, child.Hollow
  | none => child.background = none ∧ child.scenario = none

/-- A part of a feature or of one of its rules holds nothing. -/
def Gherkin.Feature.Hollow (feature : Feature) : Prop := ∃ child ∈ feature.children, child.Hollow

theorem Gherkin.Feature.Regular.not_hollow {feature : Feature} (h : feature.Regular) :
    ¬feature.Hollow := by
  rintro ⟨child, hchild, hhollow⟩
  rcases h.1 child hchild with ⟨background, rfl⟩ | ⟨scenario, _, rfl⟩ | ⟨rule, hrule, rfl⟩
  · cases hhollow.1
  · cases hhollow.2
  · obtain ⟨inner, hinner, hnone⟩ := hhollow
    rcases hrule.1 inner hinner with ⟨background, rfl⟩ | ⟨scenario, _, rfl⟩
    · cases hnone.1
    · cases hnone.2

/-! ## Plans -/

namespace Planner

variable {planner : Planner} {around : List Ancestor} {backgrounds : List Background}
  {sort : Failure → Prop}

/-- A sort of failures covers those of the steps of a site: that there is no step of a pickle for
one, and that its keyword is unknown. -/
def CoversSteps (planner : Planner) (sort : Failure → Prop) (site : Site) : Prop :=
  ∀ step ∈ site.origin.steps,
    (planner.pickleStep? step site.origin.row? = none →
        sort (.document (.noPickleStep step.text step.id))) ∧
      FailsOnly (fun fault => sort (.document fault)) (planner.keywords.canonical step.keyword)

private theorem occurrences_failsOnly (hsort : Failure.CoversContent sort) {steps : List Step}
    {row : Option String}
    (h : ∀ step ∈ steps,
      (planner.pickleStep? step row = none → sort (.document (.noPickleStep step.text step.id))) ∧
        FailsOnly (fun fault => sort (.document fault)) (planner.keywords.canonical step.keyword))
    (tags : List String) (previous : Option Role) :
    FailsOnly sort (planner.occurrences tags row previous steps) := by
  induction steps generalizing previous with
  | nil => exact .ok []
  | cons step steps ih =>
      obtain ⟨⟨hpickle, hkeyword⟩, hsteps⟩ := List.forall_mem_cons.mp h
      have hstep : FailsOnly sort (planner.occurrence tags row previous step) := by
        unfold Planner.occurrence
        split
        · rename_i hnone
          exact .error (hpickle hnone)
        · exact (FailsOnly.documentResult (classify_failsOnly hkeyword previous)).bind fun _ _ =>
            (FailsOnly.documentResult hkeyword).bind fun _ _ =>
              (FailsOnly.conversionResult _ hsort.conversion).bind fun _ _ => .ok _
      exact hstep.bind fun occurrence _ => (ih hsteps (some occurrence.role)).bind fun _ _ => .ok _

private theorem body_failsOnly (hsort : Failure.CoversContent sort) {site : Site}
    (h : planner.CoversSteps sort site) (tags : List String) :
    FailsOnly sort (planner.body site.origin.steps tags site.origin.row?) :=
  (occurrences_failsOnly hsort h tags none).bind fun _ _ =>
    (FailsOnly.documentResult (fillAll_failsOnly hsort _ _ _ _ _)).bind fun _ _ => .ok _

private theorem checkTags_failsOnly (hsort : Failure.CoversContent sort) (planner : Planner)
    (tags : List Tag) : FailsOnly sort (planner.checkTags tags) :=
  .documentResult (checkFixtureTags_failsOnly hsort planner.uri tags)

private theorem scenario_failsOnly (hsort : Failure.CoversContent sort) {scenario : Scenario}
    (h : ∀ site ∈ scenarioSites planner.rows around backgrounds scenario,
      planner.CoversSteps sort site) :
    FailsOnly sort (planner.scenario around scenario) := by
  unfold scenarioSites at h
  unfold Planner.scenario
  split at h
  · rw [if_pos ‹_›]
    refine (checkTags_failsOnly hsort planner _).bind fun _ _ =>
      (FailsOnly.forM fun block _ => checkTags_failsOnly hsort planner _).bind fun _ _ =>
        (FailsOnly.mapM fun entry hentry => ?_).bind fun _ _ => .ok _
    have hsite := h _ (List.mem_map_of_mem hentry)
    exact (body_failsOnly hsort hsite _).bind fun _ _ => .ok _
  · rw [if_neg ‹_›]
    have hsite := h _ List.mem_cons_self
    exact (checkTags_failsOnly hsort planner _).bind fun _ _ =>
      (body_failsOnly hsort hsite _).bind fun _ _ => .ok _

private theorem part_failsOnly (hsort : Failure.CoversContent sort) {inRule : Bool}
    {background : Option Background} {scenario : Option Scenario}
    (hempty : background = none ∧ scenario = none →
      sort (.document (.emptyChild planner.uri inRule)))
    (h : ∀ site ∈ partSites planner.rows around backgrounds background scenario,
      planner.CoversSteps sort site) :
    FailsOnly sort (planner.part around inRule background scenario) := by
  cases background with
  | some background =>
      have hsite := h _ List.mem_cons_self
      exact (body_failsOnly hsort hsite _).bind fun _ _ => .ok _
  | none =>
      cases scenario with
      | some scenario => exact scenario_failsOnly hsort h
      | none => exact .error (hempty ⟨rfl, rfl⟩)

private theorem rule_failsOnly (hsort : Failure.CoversContent sort) {rule : Rule}
    (hempty : (∃ child ∈ rule.children, child.Hollow) →
      ∀ inRule, sort (.document (.emptyChild planner.uri inRule)))
    (h : ∀ site ∈ ruleSites planner.rows around backgrounds rule, planner.CoversSteps sort site) :
    FailsOnly sort (planner.rule around rule) := by
  refine (checkTags_failsOnly hsort planner _).bind fun _ _ =>
    (FailsOnly.mapM fun child hchild => ?_).bind fun _ _ => .ok _
  exact part_failsOnly hsort (fun hnone => hempty ⟨child, hchild, hnone⟩ true) fun site hsite =>
    h site (List.mem_flatMap.mpr ⟨child, hchild, hsite⟩)

private theorem featurePart_failsOnly (hsort : Failure.CoversContent sort) {child : FeatureChild}
    (hempty : child.Hollow → ∀ inRule, sort (.document (.emptyChild planner.uri inRule)))
    (h : ∀ site ∈ featurePartSites planner.rows around backgrounds child,
      planner.CoversSteps sort site) :
    FailsOnly sort (planner.featurePart around child) := by
  unfold featurePartSites at h
  unfold FeatureChild.Hollow at hempty
  unfold featurePart
  cases hrule : child.rule with
  | some rule =>
      rw [hrule] at h hempty
      exact rule_failsOnly hsort hempty h
  | none =>
      rw [hrule] at h hempty
      exact part_failsOnly hsort (fun hnone => hempty hnone false) h

/-- The plan of a feature fails because of its content, its steps or a part that holds nothing. -/
theorem feature_failsOnly (hsort : Failure.CoversContent sort) {feature : Feature}
    (hempty : feature.Hollow → ∀ inRule, sort (.document (.emptyChild planner.uri inRule)))
    (h : ∀ site ∈ featureSites planner.rows feature, planner.CoversSteps sort site) :
    FailsOnly sort (planner.feature feature) := by
  refine (checkTags_failsOnly hsort planner _).bind fun _ _ =>
    (FailsOnly.mapM fun child hchild => ?_).bind fun _ _ => .ok _
  exact featurePart_failsOnly hsort (fun hhollow => hempty ⟨child, hchild, hhollow⟩)
    fun site hsite => h site (List.mem_flatMap.mpr ⟨child, hchild, hsite⟩)

end Planner

/-! ## Files -/

namespace FeatureFile

variable {file : FeatureFile} {sort : Failure → Prop}

/-- Building fails because the document has no name or no feature, because its language is unknown,
or because there is no plan of its feature. -/
theorem build_failsOnly (hsort : Failure.CoversContent sort) (huri : sort (.document .noUri))
    (hfeature : ∀ uri, sort (.document (.noFeature uri)))
    (hlanguage : file.document.feature ≠ none →
      FailsOnly (fun fault => sort (.document fault)) (KeywordTable.find file.language))
    (hempty : ∀ feature uri inRule, file.document.feature = some feature → feature.Hollow →
      sort (.document (.emptyChild uri inRule)))
    (h : ∀ keywords uri, KeywordTable.find file.language = .ok keywords → ∀ site ∈ file.sites,
      (file.planner keywords uri).CoversSteps sort site) :
    FailsOnly sort file.build := by
  have hsource : FailsOnly (fun fault => sort (.document fault)) file.sourceFile := by
    unfold sourceFile
    split
    · split
      · exact .error huri
      · exact .ok _
    · exact .error huri
  refine FailsOnly.bind ?_ fun plan _ => .ok _
  unfold FeatureFile.plan
  split
  · exact (FailsOnly.documentResult hsource).bind fun uri _ => .error (hfeature uri)
  · rename_i feature hsome
    have hwords := hlanguage (by simp [hsome])
    refine (FailsOnly.documentResult hwords).bind fun keywords hkeywords =>
      (FailsOnly.documentResult hsource).bind fun uri _ => FailsOnly.bind ?_ fun _ _ => .ok _
    refine Planner.feature_failsOnly hsort
      (fun hhollow inRule => hempty feature uri inRule hsome hhollow) fun site hsite => ?_
    exact h keywords uri (documentResult_eq_ok.mp hkeywords) site (sites_eq hsome ▸ hsite)

end FeatureFile

end FeatureSuite

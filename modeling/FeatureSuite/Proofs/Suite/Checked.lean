import FeatureSuite.Proofs.Suite.Build
import FeatureSuite.Proofs.Suite.Pickled

/-!
# Tags are checked

All tags of a document are checked while it is planned: those of the feature, of rules, of scenarios
and of blocks of examples, also where a block has no rows. The tags that a hook or a test sees are
among them, so the fixtures that these choose can be parameters.
-/

namespace FeatureSuite

open Gherkin (Background Feature FeatureChild Rule Scenario Tag)

/-- A tag chooses nothing but what can be a parameter. -/
def ChoosesParameter (tag : String) : Prop :=
  ∀ fixture, fixtureOfTag? tag = some fixture → Text.isParameterName fixture = true

private theorem checkFixtureTags_eq_ok {uri : String} {tags : List Tag} :
    checkFixtureTags uri tags = .ok () ↔ ∀ tag ∈ tags, ChoosesParameter tag.name := by
  induction tags with
  | nil => simp [checkFixtureTags]
  | cons tag rest ih =>
      rw [List.forall_mem_cons, ← ih, ChoosesParameter, checkFixtureTags]
      cases hfixture : fixtureOfTag? tag.name with
      | none => simp
      | some fixture => by_cases hname : Text.isParameterName fixture = true <;> simp [hname]

theorem Planner.checkTags_eq_ok {planner : Planner} {tags : List Tag} :
    planner.checkTags tags = .ok () ↔ ∀ tag ∈ tags, ChoosesParameter tag.name :=
  documentResult_eq_ok.trans checkFixtureTags_eq_ok

/-! ## Tags of a document -/

/-- The tags of a scenario and of its blocks of examples. -/
def Gherkin.Scenario.allTags (scenario : Scenario) : List Tag :=
  scenario.tags ++ scenario.examples.flatMap (·.tags)

/-- The tags of what is made of a part. A background has none, and takes precedence. -/
def partTags (background : Option Background) (scenario : Option Scenario) : List Tag :=
  match background, scenario with
  | none, some scenario => scenario.allTags
  | _, _ => []

def Gherkin.Rule.allTags (rule : Rule) : List Tag :=
  rule.tags ++ rule.children.flatMap fun child => partTags child.background child.scenario

def Gherkin.FeatureChild.allTags (child : FeatureChild) : List Tag :=
  match child.rule with
  | some rule => rule.allTags
  | none => partTags child.background child.scenario

def Gherkin.Feature.allTags (feature : Feature) : List Tag :=
  feature.tags ++ feature.children.flatMap (·.allTags)

/-! ## A plan has checked all tags -/

namespace Planner

variable {planner : Planner} {around : List Ancestor} {unit : SuiteUnit}

private theorem checked_of_mapM {α : Type} {make : α → Except Failure SuiteUnit} {items : List α}
    {units : List SuiteUnit} {tags : α → List Tag} (h : items.mapM make = .ok units)
    (hitem : ∀ item unit, make item = .ok unit → ∀ tag ∈ tags item, ChoosesParameter tag.name) :
    ∀ tag ∈ items.flatMap tags, ChoosesParameter tag.name := by
  intro tag htag
  obtain ⟨item, hmem, htag⟩ := List.mem_flatMap.mp htag
  obtain ⟨unit, _, hunit⟩ := exists_of_mem_left (mapM_eq_ok.mp h) hmem
  exact hitem item unit hunit tag htag

private theorem scenario_checked {scenario : Scenario}
    (h : planner.scenario around scenario = .ok unit) :
    ∀ tag ∈ scenario.allTags, ChoosesParameter tag.name := by
  unfold Planner.scenario at h
  refine List.forall_mem_append.mpr ?_
  split at h
  · obtain ⟨_, hown, h⟩ := bind_eq_ok.mp h
    obtain ⟨_, hblocks, _⟩ := bind_eq_ok.mp h
    refine ⟨checkTags_eq_ok.mp hown, fun tag htag => ?_⟩
    obtain ⟨block, hblock, htag⟩ := List.mem_flatMap.mp htag
    exact checkTags_eq_ok.mp (forM_eq_ok.mp hblocks block hblock) tag htag
  · rename_i hplain
    obtain ⟨_, hown, _⟩ := bind_eq_ok.mp h
    have hexamples : scenario.examples = [] := by simpa [Scenario.isOutline] using hplain
    refine ⟨checkTags_eq_ok.mp hown, ?_⟩
    rw [hexamples, List.flatMap_nil]
    exact List.forall_mem_nil _

private theorem part_checked {inRule : Bool} {background : Option Background}
    {scenario : Option Scenario} (h : planner.part around inRule background scenario = .ok unit) :
    ∀ tag ∈ partTags background scenario, ChoosesParameter tag.name := by
  cases background with
  | some background => exact List.forall_mem_nil _
  | none =>
      cases scenario with
      | some scenario => exact scenario_checked h
      | none => exact List.forall_mem_nil _

private theorem rule_checked {rule : Rule} (h : planner.rule around rule = .ok unit) :
    ∀ tag ∈ rule.allTags, ChoosesParameter tag.name := by
  obtain ⟨_, hown, h⟩ := bind_eq_ok.mp h
  obtain ⟨units, hunits, _⟩ := bind_eq_ok.mp h
  exact List.forall_mem_append.mpr
    ⟨checkTags_eq_ok.mp hown, checked_of_mapM hunits fun child unit => part_checked⟩

private theorem featurePart_checked {child : FeatureChild}
    (h : planner.featurePart around child = .ok unit) :
    ∀ tag ∈ child.allTags, ChoosesParameter tag.name := by
  unfold featurePart at h
  unfold FeatureChild.allTags
  cases hrule : child.rule with
  | some rule =>
      rw [hrule] at h
      exact rule_checked h
  | none =>
      rw [hrule] at h
      exact part_checked h

theorem feature_checked {feature : Feature} (h : planner.feature feature = .ok unit) :
    ∀ tag ∈ feature.allTags, ChoosesParameter tag.name := by
  obtain ⟨_, hown, h⟩ := bind_eq_ok.mp h
  obtain ⟨units, hunits, _⟩ := bind_eq_ok.mp h
  exact List.forall_mem_append.mpr
    ⟨checkTags_eq_ok.mp hown, checked_of_mapM hunits fun child unit => featurePart_checked⟩

end Planner

/-! ## Sites see tags of their document -/

section

variable {rows : Scenario → List ExampleRow} {around : List Ancestor}
  {backgrounds : List Background} {site : Site} {known : List Tag}

/-- The tags of all units around a site are known. -/
private def AroundKnown (known : List Tag) (around : List Ancestor) : Prop :=
  ∀ ancestor ∈ around, ancestor.tags ⊆ tagNames known

private theorem AroundKnown.enter (h : AroundKnown known around) (name : String) {tags : List Tag}
    (htags : tags ⊆ known) : AroundKnown known (around ++ [⟨name, tagNames tags⟩]) :=
  List.forall_mem_append.mpr ⟨h, List.forall_mem_singleton.mpr (List.map_subset _ htags)⟩

private theorem AroundKnown.tags_subset (h : AroundKnown known site.around)
    (hown : site.origin.ownTags ⊆ known) : site.tags ⊆ tagNames known := by
  intro tag htag
  rcases List.mem_append.mp (mem_distinct.mp htag) with htag | htag
  · obtain ⟨ancestor, hancestor, htag⟩ := List.mem_flatMap.mp htag
    exact h ancestor hancestor htag
  · exact List.map_subset _ hown htag

private theorem scenario_known (hrows : ListsRows rows) (haround : AroundKnown known around)
    {scenario : Scenario} (htags : scenario.allTags ⊆ known)
    (h : site ∈ scenarioSites rows around backgrounds scenario) : site.tags ⊆ tagNames known := by
  obtain ⟨hown, hblocks⟩ := List.append_subset.mp htags
  unfold scenarioSites at h
  split at h
  · obtain ⟨entry, hentry, rfl⟩ := List.mem_map.mp h
    refine (haround.enter scenario.name hown).tags_subset fun tag htag => hblocks ?_
    exact List.mem_flatMap.mpr ⟨entry.block, (hrows.mem hentry).1, htag⟩
  · rw [List.mem_singleton.mp h]
    exact haround.tags_subset hown

private theorem part_known (hrows : ListsRows rows) (haround : AroundKnown known around)
    {background : Option Background} {scenario : Option Scenario}
    (htags : partTags background scenario ⊆ known)
    (h : site ∈ partSites rows around backgrounds background scenario) :
    site.tags ⊆ tagNames known := by
  cases background with
  | some background =>
      rw [List.mem_singleton.mp h]
      exact haround.tags_subset (List.nil_subset _)
  | none =>
      cases scenario with
      | some scenario => exact scenario_known hrows haround htags h
      | none => cases h

private theorem rule_known (hrows : ListsRows rows) (haround : AroundKnown known around)
    {rule : Rule} (htags : rule.allTags ⊆ known)
    (h : site ∈ ruleSites rows around backgrounds rule) : site.tags ⊆ tagNames known := by
  obtain ⟨hown, hchildren⟩ := List.append_subset.mp htags
  obtain ⟨child, hmem, h⟩ := List.mem_flatMap.mp h
  exact part_known hrows (haround.enter rule.name hown)
    (fun tag htag => hchildren (List.mem_flatMap.mpr ⟨child, hmem, htag⟩)) h

private theorem Site.tags_subset (hrows : ListsRows rows) {feature : Feature}
    (h : site ∈ featureSites rows feature) : site.tags ⊆ tagNames feature.allTags := by
  obtain ⟨child, hmem, h⟩ := List.mem_flatMap.mp h
  have haround : AroundKnown feature.allTags [⟨feature.name, tagNames feature.tags⟩] :=
    List.forall_mem_singleton.mpr (List.map_subset _ (List.subset_append_left _ _))
  have htags : child.allTags ⊆ feature.allTags := fun tag htag =>
    List.mem_append_right _ (List.mem_flatMap.mpr ⟨child, hmem, htag⟩)
  unfold FeatureChild.allTags at htags
  unfold featurePartSites at h
  cases hrule : child.rule with
  | some rule =>
      rw [hrule] at h htags
      exact rule_known hrows haround htags h
  | none =>
      rw [hrule] at h htags
      exact part_known hrows haround htags h

end

/-- A plan is only made if the tags that its hooks and tests see choose parameters. -/
theorem FeatureFile.choosesParameter_of_plan {file : FeatureFile} {keywords : KeywordTable}
    {uri : String} {root : SuiteUnit} (h : file.plan = .ok (keywords, uri, root)) {site : Site}
    (hsite : site ∈ file.sites) : ∀ tag ∈ site.tags, ChoosesParameter tag := by
  obtain ⟨feature, hfeature, hroot⟩ := plan_eq_ok h
  rw [sites_eq hfeature] at hsite
  intro tag htag
  obtain ⟨tag, hmem, rfl⟩ :=
    List.mem_map.mp (Site.tags_subset (expandOutline_listsRows _ _) hsite htag)
  exact Planner.feature_checked hroot tag hmem

end FeatureSuite

import FeatureSuite.Proofs.Suite.Site

/-!
# Plans follow the sites of a document

A plan that is made holds one hook or test for every site of the feature, in the same order, under
the titles and behind the hooks that the document puts around the site.
-/

namespace FeatureSuite

open Gherkin (Background Feature FeatureChild Rule RuleChild Scenario Step Tag)

namespace SuiteUnit

theorem placedAll_eq_flatMap (titles : List String) (hooks : List Body) (units : List SuiteUnit) :
    placedAll titles hooks units = units.flatMap (·.placed titles hooks) := by
  induction units with
  | nil => rfl
  | cons unit units ih => rw [placedAll, ih, List.flatMap_cons]

theorem occurrencesOfAll_eq_flatMap (units : List SuiteUnit) :
    occurrencesOfAll units = units.flatMap (·.occurrences) := by
  induction units with
  | nil => rfl
  | cons unit units ih => rw [occurrencesOfAll, ih, List.flatMap_cons]

theorem linesOfAll_eq_flatten (units : List SuiteUnit) :
    linesOfAll units = (units.map (·.lines)).flatten := by
  induction units with
  | nil => rfl
  | cons unit units ih => rw [linesOfAll, ih, List.map_cons, List.flatten_cons]

end SuiteUnit

@[simp] private theorem Site.body_unit (site : Site) (body : Body) :
    (site.unit body).body = body := by
  unfold Site.unit
  split <;> rfl

@[simp] private theorem Site.isTest_unit (site : Site) (body : Body) :
    (site.unit body).isTest = site.origin.isTest := by
  unfold Site.unit
  split <;> rename_i h <;> rw [h] <;> rfl

namespace Planner

def rows (planner : Planner) (outline : Scenario) : List ExampleRow :=
  expandOutline planner.document outline planner.titleFormat

def Hooks (planner : Planner) (background : Background) (body : Body) : Prop :=
  ∃ tags, planner.body background.steps tags none = .ok body

/-- The titles and the hooks around a unit are those that the document puts there. -/
structure Surrounds (planner : Planner) (around : List Ancestor) (backgrounds : List Background)
    (titles : List String) (hooks : List Body) : Prop where
  titles_eq : titles = around.map (·.name)
  hooks_of : List.Forall₂ planner.Hooks backgrounds hooks

/-- A hook or a test is made for a site: it stands where the site does and runs its steps. -/
structure Realizes (planner : Planner) (site : Site) (placed : Placed) : Prop where
  surrounds : planner.Surrounds site.around site.backgrounds placed.titles placed.hooks
  body_eq : planner.body site.origin.steps site.tags site.origin.row? = .ok placed.unit.body
  unit_eq : placed.unit = site.unit placed.unit.body

variable {planner : Planner} {around : List Ancestor} {backgrounds : List Background}
  {titles : List String} {hooks : List Body} {unit : SuiteUnit}

/-! ## Units that are made -/

theorem background_eq_ok {background : Background}
    (h : planner.background around background = .ok unit) :
    ∃ body, planner.body background.steps (visibleTags around []) none = .ok body ∧
      unit = .hook background.location.line body := by
  obtain ⟨body, hbody, h⟩ := bind_eq_ok.mp h
  cases h
  exact ⟨body, hbody, rfl⟩

theorem test_eq_ok {scenario : Scenario} (h : planner.test around scenario = .ok unit) :
    ∃ body,
      planner.body scenario.steps (visibleTags around (tagNames scenario.tags)) none = .ok body ∧
        unit = .test scenario.name scenario.location.line (.ofTags scenario.tags)
          (testKey around scenario.name) (visibleTags around (tagNames scenario.tags)) body := by
  obtain ⟨_, _, h⟩ := bind_eq_ok.mp h
  obtain ⟨body, hbody, h⟩ := bind_eq_ok.mp h
  cases h
  exact ⟨body, hbody, rfl⟩

theorem row_eq_ok {outline : Scenario} {entry : ExampleRow}
    (h : planner.row around outline entry = .ok unit) :
    ∃ body,
      planner.body outline.steps (visibleTags around (tagNames entry.block.tags))
        (some entry.row.id) = .ok body ∧
        unit = .test entry.title entry.row.location.line (.ofTags entry.block.tags)
          (testKey around entry.title) (visibleTags around (tagNames entry.block.tags)) body := by
  obtain ⟨body, hbody, h⟩ := bind_eq_ok.mp h
  cases h
  exact ⟨body, hbody, rfl⟩

theorem outline_eq_ok {outline : Scenario} (h : planner.outline around outline = .ok unit) :
    ∃ units,
      (planner.rows outline).mapM (planner.row (around ++ [scenarioAncestor outline]) outline) =
        .ok units ∧
        unit = .suite outline.name outline.location.line (.ofTags outline.tags) units := by
  obtain ⟨_, _, h⟩ := bind_eq_ok.mp h
  obtain ⟨_, _, h⟩ := bind_eq_ok.mp h
  obtain ⟨units, hunits, h⟩ := bind_eq_ok.mp h
  cases h
  exact ⟨units, hunits, rfl⟩

theorem rule_eq_ok {rule : Rule} (h : planner.rule around rule = .ok unit) :
    ∃ units,
      rule.children.mapM (planner.rulePart (around ++ [⟨rule.name, tagNames rule.tags⟩])) =
        .ok units ∧
        unit = .suite rule.name rule.location.line (.ofTags rule.tags) units := by
  obtain ⟨_, _, h⟩ := bind_eq_ok.mp h
  obtain ⟨units, hunits, h⟩ := bind_eq_ok.mp h
  cases h
  exact ⟨units, hunits, rfl⟩

theorem feature_eq_ok {feature : Feature} (h : planner.feature feature = .ok unit) :
    ∃ units,
      feature.children.mapM (planner.featurePart [⟨feature.name, tagNames feature.tags⟩]) =
        .ok units ∧
        unit = .suite feature.name feature.location.line (.ofTags feature.tags) units := by
  obtain ⟨_, _, h⟩ := bind_eq_ok.mp h
  obtain ⟨units, hunits, h⟩ := bind_eq_ok.mp h
  cases h
  exact ⟨units, hunits, rfl⟩

theorem Surrounds.enter (h : planner.Surrounds around backgrounds titles hooks)
    (ancestor : Ancestor) {more : List Background} {moreHooks : List Body}
    (hmore : List.Forall₂ planner.Hooks more moreHooks) :
    planner.Surrounds (around ++ [ancestor]) (backgrounds ++ more) (titles ++ [ancestor.name])
      (hooks ++ moreHooks) where
  titles_eq := by rw [h.titles_eq, List.map_append]; rfl
  hooks_of := List.rel_append h.hooks_of hmore

theorem Realizes.of_body (h : planner.Surrounds around backgrounds titles hooks) (origin : Origin)
    {body : Body}
    (hbody : planner.body origin.steps (Site.tags ⟨around, backgrounds, origin⟩) origin.row? =
      .ok body) :
    planner.Realizes ⟨around, backgrounds, origin⟩
      ⟨titles, hooks, Site.unit ⟨around, backgrounds, origin⟩ body⟩ where
  surrounds := h
  body_eq := by rw [Site.body_unit]; exact hbody
  unit_eq := by rw [Site.body_unit]

theorem Realizes.isTest_eq {site : Site} {placed : Placed} (h : planner.Realizes site placed) :
    placed.unit.isTest = site.origin.isTest := by
  rw [h.unit_eq, Site.isTest_unit]

/-! ## Lists of parts -/

private theorem forall₂_placedAll {α : Type} {make : α → Except Failure SuiteUnit} {items : List α}
    {units : List SuiteUnit} {sites : α → List Site} (h : items.mapM make = .ok units)
    (hitem : ∀ item unit, make item = .ok unit →
      List.Forall₂ planner.Realizes (sites item) (unit.placed titles hooks)) :
    List.Forall₂ planner.Realizes (items.flatMap sites)
      (SuiteUnit.placedAll titles hooks units) := by
  rw [SuiteUnit.placedAll_eq_flatMap]
  exact List.rel_flatMap (mapM_eq_ok.mp h) fun item unit hunit => hitem item unit hunit

private theorem forall₂_hooks {α : Type} {make : α → Except Failure SuiteUnit} {items : List α}
    {units : List SuiteUnit} {hook? : α → Option Background} (h : items.mapM make = .ok units)
    (hitem : ∀ item unit, make item = .ok unit →
      Option.Rel planner.Hooks (hook? item) unit.hook?) :
    List.Forall₂ planner.Hooks (items.filterMap hook?) (units.filterMap SuiteUnit.hook?) :=
  List.rel_filterMap (fun item unit hunit => hitem item unit hunit) (mapM_eq_ok.mp h)

/-! ## Hooks -/

private theorem scenario_hook {scenario : Scenario} {unit : SuiteUnit}
    (h : planner.scenario around scenario = .ok unit) : unit.hook? = none := by
  unfold Planner.scenario at h
  split at h
  · obtain ⟨units, _, rfl⟩ := outline_eq_ok h
    rfl
  · obtain ⟨body, _, rfl⟩ := test_eq_ok h
    rfl

private theorem row_hook {outline : Scenario} {entry : ExampleRow} {unit : SuiteUnit}
    (h : planner.row around outline entry = .ok unit) : unit.hook? = none := by
  obtain ⟨body, _, rfl⟩ := row_eq_ok h
  rfl

private theorem part_hook {inRule : Bool} {background : Option Background}
    {scenario : Option Scenario} {unit : SuiteUnit}
    (h : planner.part around inRule background scenario = .ok unit) :
    Option.Rel planner.Hooks background unit.hook? := by
  cases background with
  | some background =>
      obtain ⟨body, hbody, rfl⟩ := background_eq_ok h
      exact .some ⟨_, hbody⟩
  | none =>
      cases scenario with
      | some scenario =>
          rw [scenario_hook h]
          exact .none
      | none => cases h

private theorem rule_hook {rule : Rule} {unit : SuiteUnit}
    (h : planner.rule around rule = .ok unit) : unit.hook? = none := by
  obtain ⟨units, _, rfl⟩ := rule_eq_ok h
  rfl

private theorem featurePart_hook {child : FeatureChild} {unit : SuiteUnit}
    (h : planner.featurePart around child = .ok unit) :
    Option.Rel planner.Hooks child.hook? unit.hook? := by
  unfold featurePart at h
  unfold FeatureChild.hook?
  cases hrule : child.rule with
  | some rule =>
      rw [hrule] at h
      rw [rule_hook h]
      exact .none
  | none =>
      rw [hrule] at h
      exact part_hook h

/-! ## From rows to the feature -/

private theorem outline_realizes (h : planner.Surrounds around backgrounds titles hooks)
    {outline : Scenario} {unit : SuiteUnit} (hunit : planner.outline around outline = .ok unit) :
    List.Forall₂ planner.Realizes
      ((planner.rows outline).map fun entry =>
        ⟨around ++ [scenarioAncestor outline], backgrounds, .row outline entry⟩)
      (unit.placed titles hooks) := by
  obtain ⟨units, hunits, rfl⟩ := outline_eq_ok hunit
  have hnone : List.Forall₂ planner.Hooks
      ((planner.rows outline).filterMap fun _ => none) (units.filterMap SuiteUnit.hook?) :=
    forall₂_hooks hunits fun entry unit hrow => row_hook hrow ▸ .none
  rw [List.filterMap_none] at hnone
  have henter := h.enter (scenarioAncestor outline) hnone
  rw [List.append_nil] at henter
  rw [List.map_eq_flatMap]
  refine forall₂_placedAll hunits fun entry unit hrow => ?_
  obtain ⟨body, hbody, rfl⟩ := row_eq_ok hrow
  exact .cons (.of_body henter (.row outline entry) hbody) .nil

private theorem scenario_realizes (h : planner.Surrounds around backgrounds titles hooks)
    {scenario : Scenario} {unit : SuiteUnit}
    (hunit : planner.scenario around scenario = .ok unit) :
    List.Forall₂ planner.Realizes (scenarioSites planner.rows around backgrounds scenario)
      (unit.placed titles hooks) := by
  unfold Planner.scenario at hunit
  unfold scenarioSites
  split at hunit
  · rw [if_pos ‹_›]
    exact outline_realizes h hunit
  · rw [if_neg ‹_›]
    obtain ⟨body, hbody, rfl⟩ := test_eq_ok hunit
    exact .cons (.of_body h (.scenario scenario) hbody) .nil

private theorem part_realizes (h : planner.Surrounds around backgrounds titles hooks)
    {inRule : Bool} {background : Option Background} {scenario : Option Scenario}
    {unit : SuiteUnit} (hunit : planner.part around inRule background scenario = .ok unit) :
    List.Forall₂ planner.Realizes (partSites planner.rows around backgrounds background scenario)
      (unit.placed titles hooks) := by
  cases background with
  | some background =>
      obtain ⟨body, hbody, rfl⟩ := background_eq_ok hunit
      exact .cons (.of_body h (.background background) hbody) .nil
  | none =>
      cases scenario with
      | some scenario => exact scenario_realizes h hunit
      | none => cases hunit

private theorem rule_realizes (h : planner.Surrounds around backgrounds titles hooks) {rule : Rule}
    {unit : SuiteUnit} (hunit : planner.rule around rule = .ok unit) :
    List.Forall₂ planner.Realizes (ruleSites planner.rows around backgrounds rule)
      (unit.placed titles hooks) := by
  obtain ⟨units, hunits, rfl⟩ := rule_eq_ok hunit
  have hhooks := forall₂_hooks hunits fun child unit hchild => part_hook hchild
  have henter := h.enter ⟨rule.name, tagNames rule.tags⟩ hhooks
  exact forall₂_placedAll hunits fun child unit hchild => part_realizes henter hchild

private theorem featurePart_realizes (h : planner.Surrounds around backgrounds titles hooks)
    {child : FeatureChild} {unit : SuiteUnit}
    (hunit : planner.featurePart around child = .ok unit) :
    List.Forall₂ planner.Realizes (featurePartSites planner.rows around backgrounds child)
      (unit.placed titles hooks) := by
  unfold featurePart at hunit
  unfold featurePartSites
  cases hrule : child.rule with
  | some rule =>
      rw [hrule] at hunit
      exact rule_realizes h hunit
  | none =>
      rw [hrule] at hunit
      exact part_realizes h hunit

/-- A plan holds one hook or test for every site of the feature, in the same order. -/
theorem feature_realizes {feature : Feature} {root : SuiteUnit}
    (h : planner.feature feature = .ok root) :
    List.Forall₂ planner.Realizes (featureSites planner.rows feature) (root.placed [] []) := by
  obtain ⟨units, hunits, rfl⟩ := feature_eq_ok h
  have hhooks := forall₂_hooks hunits fun child unit hchild => featurePart_hook hchild
  have hnothing : planner.Surrounds [] [] [] [] := ⟨rfl, .nil⟩
  have henter := hnothing.enter ⟨feature.name, tagNames feature.tags⟩ hhooks
  exact forall₂_placedAll hunits fun child unit hchild => featurePart_realizes henter hchild

end Planner

end FeatureSuite

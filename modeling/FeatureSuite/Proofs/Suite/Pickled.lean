import FeatureSuite.Proofs.Gherkin.Regular
import FeatureSuite.Proofs.Gherkin.Source
import FeatureSuite.Proofs.Outcome
import FeatureSuite.Proofs.Suite.Site

/-!
# Pickles follow the sites of a document

The pickles of a regular feature are those of its scenarios and rows, one for each and in document
order. The steps of a pickle stem from those of the backgrounds around the scenario and those of the
scenario itself, and its tags are those of the units around the scenario or the row and its own.
-/

namespace FeatureSuite

open Gherkin

/-! ## Pickles of sites -/

/-- What is filled into the steps of a site: the values of its row, if it is one. -/
def Origin.Fills : Origin → List Filling → Prop
  | row _ entry, fillings => ∃ header, entry.block.tableHeader = some header ∧
      rowFillings header.cells entry.row.cells = .ok fillings
  | _, fillings => fillings = []

namespace Site

/-- The sources of the steps of a test. -/
def sources (site : Site) (fillings : List Filling) : List Source :=
  testSources (site.backgrounds.flatMap (·.steps)) site.origin.steps fillings
    site.origin.row?.toList

structure PickledAs (site : Site) (pickle : Pickle) : Prop where
  nodes_eq : pickle.astNodeIds = site.origin.nodeIds
  tags_eq : pickle.tags.map (·.name) =
    site.around.flatMap (·.tags) ++ tagNames site.origin.ownTags
  yields : ∃ fillings, site.origin.Fills fillings ∧
    List.Forall₂ Yields (site.sources fillings) pickle.steps

end Site

namespace Gherkin

private theorem Pickle.number_steps {sources : List Source} {pickle : Pickle}
    (h : List.Forall₂ Yields sources pickle.steps) (n : Nat) :
    List.Forall₂ Yields sources (pickle.number.run n).1.steps := by
  let number (step : PickleStep) : Numbered PickleStep := do return { step with id := ← nextId }
  have hnumbered := forall₂_mapM_run number pickle.steps n
  refine (forall₂_trans h hnumbered).imp fun source step hstep => ?_
  obtain ⟨original, _, hyields, k, rfl⟩ := hstep
  exact ⟨hyields.text_eq, hyields.argument_eq, hyields.nodes_eq⟩

end Gherkin

private theorem Site.PickledAs.number {site : Site} {pickle : Pickle}
    (h : site.PickledAs pickle) (n : Nat) : site.PickledAs (pickle.number.run n).1 := by
  obtain ⟨fillings, hfills, hyields⟩ := h.yields
  exact ⟨h.nodes_eq, h.tags_eq, fillings, hfills, Pickle.number_steps hyields n⟩

/-! ## The walk of the pickles -/

/-- The rows of an outline are those of its blocks, in this order. -/
def ListsRows (rows : Scenario → List ExampleRow) : Prop :=
  ∀ outline, (rows outline).map (fun entry => (entry.block, entry.row)) =
    outline.examples.flatMap fun block => block.tableBody.map (block, ·)

theorem ListsRows.mem {rows : Scenario → List ExampleRow} (h : ListsRows rows) {outline : Scenario}
    {entry : ExampleRow} (hentry : entry ∈ rows outline) :
    entry.block ∈ outline.examples ∧ entry.row ∈ entry.block.tableBody := by
  have hplace : (entry.block, entry.row) ∈
      outline.examples.flatMap fun block => block.tableBody.map (block, ·) :=
    h outline ▸ List.mem_map_of_mem hentry
  obtain ⟨block, hblock, hrow⟩ := List.mem_flatMap.mp hplace
  obtain ⟨row, hrow, hsame⟩ := List.mem_map.mp hrow
  cases hsame
  exact ⟨hblock, hrow⟩

private theorem expandBlocks_listsRows (document : Document) (default : String) (before : Nat)
    (blocks : List Examples) :
    (expandBlocks document default before blocks).map (fun entry => (entry.block, entry.row)) =
      blocks.flatMap fun block => block.tableBody.map (block, ·) := by
  induction blocks generalizing before with
  | nil => rfl
  | cons block blocks ih =>
      rw [expandBlocks, List.map_append, ih, List.flatMap_cons]
      congr 1
      exact List.ext_getElem (by simp) fun i _ _ => by simp

theorem expandOutline_listsRows (document : Document) (default : String) :
    ListsRows fun outline => expandOutline document outline default :=
  fun outline => expandBlocks_listsRows document default 0 outline.examples

/-- What the pickles of a place take over: the steps of the backgrounds and the tags of the units
around it. -/
structure Gherkin.PickleScope.Fits (scope : PickleScope) (around : List Ancestor)
    (backgrounds : List Background) : Prop where
  background_eq : scope.background = backgrounds.flatMap (·.steps)
  tags_eq : tagNames scope.tags = around.flatMap (·.tags)

theorem Gherkin.PickleScope.Fits.behind {scope : PickleScope} {around : List Ancestor}
    {backgrounds : List Background} (h : scope.Fits around backgrounds) (background : Background) :
    (scope.after (some background)).Fits around (backgrounds ++ [background]) where
  background_eq := by
    rw [List.flatMap_append, List.flatMap_singleton, ← h.background_eq]
    rfl
  tags_eq := h.tags_eq

theorem Gherkin.PickleScope.Fits.enter {scope : PickleScope} {around : List Ancestor}
    {backgrounds : List Background} (h : scope.Fits around backgrounds) (name : String)
    (tags : List Tag) :
    PickleScope.Fits { scope with tags := scope.tags ++ tags }
      (around ++ [⟨name, tagNames tags⟩]) backgrounds where
  background_eq := h.background_eq
  tags_eq := by
    rw [List.flatMap_append, List.flatMap_singleton, ← h.tags_eq]
    exact List.map_append

@[simp] theorem map_name_pickledTags (tags : List Tag) :
    (pickledTags tags).map (·.name) = tagNames tags := by
  rw [pickledTags, List.map_map]
  rfl

section

variable {rows : Scenario → List ExampleRow} {scope : PickleScope}
  {around : List Ancestor} {backgrounds : List Background} {pickles : List Pickle}

private theorem row_pickled (hscope : scope.Fits around backgrounds) {outline : Scenario}
    {entry : ExampleRow} {header : TableRow} {pickle : Pickle}
    (hheader : entry.block.tableHeader = some header)
    (h : scope.row outline entry.block header entry.row = .ok pickle) :
    Site.PickledAs ⟨around ++ [Planner.scenarioAncestor outline], backgrounds, .row outline entry⟩
      pickle := by
  obtain ⟨fillings, hfillings, h⟩ := bind_eq_ok.mp h
  cases h
  refine ⟨rfl, ?_, fillings, ⟨header, hheader, hfillings⟩, ?_⟩
  · have houtline := (hscope.enter outline.name outline.tags).tags_eq
    rw [map_name_pickledTags, tagNames, List.map_append]
    exact congrArg (· ++ tagNames entry.block.tags) houtline
  · rw [Site.sources, ← hscope.background_eq]
    exact scope.forall₂_steps none outline.steps fillings [entry.row.id]

/-- A row of an outline, whatever its title and index are, has a pickle. -/
private def RowPickled (around : List Ancestor) (backgrounds : List Background)
    (outline : Scenario) (place : Examples × TableRow) (pickle : Pickle) : Prop :=
  ∀ entry : ExampleRow, (entry.block, entry.row) = place →
    Site.PickledAs ⟨around ++ [Planner.scenarioAncestor outline], backgrounds, .row outline entry⟩
      pickle

private theorem examples_pickled (hscope : scope.Fits around backgrounds)
    {outline : Scenario} {block : Examples} (hheaded : block.Headed)
    (h : scope.examples outline block = .ok pickles) :
    List.Forall₂ (RowPickled around backgrounds outline) (block.tableBody.map (block, ·))
      pickles := by
  unfold PickleScope.examples at h
  split at h
  · rename_i hheader
    cases h
    rw [hheaded hheader]
    exact .nil
  · rename_i header hheader
    rw [List.forall₂_map_left_iff]
    refine (mapM_eq_ok.mp h).imp fun row pickle hrow entry hentry => ?_
    cases hentry
    exact row_pickled hscope hheader hrow

private theorem outline_pickled (hrows : ListsRows rows)
    (hscope : scope.Fits around backgrounds)
    {outline : Scenario} (hheaded : outline.Headed) {blocks : List (List Pickle)}
    (h : outline.examples.mapM (scope.examples outline) = .ok blocks) :
    List.Forall₂ Site.PickledAs
      ((rows outline).map fun entry =>
        ⟨around ++ [Planner.scenarioAncestor outline], backgrounds, .row outline entry⟩)
      blocks.flatten := by
  have hblocks : List.Forall₂ (List.Forall₂ (RowPickled around backgrounds outline))
      (outline.examples.map fun block => block.tableBody.map (block, ·)) blocks := by
    rw [List.forall₂_map_left_iff]
    refine (forall₂_mem (mapM_eq_ok.mp h)).imp fun block pickles hblock => ?_
    obtain ⟨hmem, _, hblock⟩ := hblock
    exact examples_pickled hscope (hheaded block hmem) hblock
  have hflat := List.rel_flatten hblocks
  rw [← List.flatMap_def, ← hrows outline, List.forall₂_map_left_iff] at hflat
  rw [List.forall₂_map_left_iff]
  exact hflat.imp fun entry pickle hentry => hentry entry rfl

private theorem scenario_pickled (hrows : ListsRows rows)
    (hscope : scope.Fits around backgrounds)
    {scenario : Scenario} (hheaded : scenario.Headed) (h : scope.tests scenario = .ok pickles) :
    List.Forall₂ Site.PickledAs
      ((scenarioSites rows around backgrounds scenario).filter (·.origin.isTest)) pickles := by
  have htests : (scenarioSites rows around backgrounds scenario).filter (·.origin.isTest) =
      scenarioSites rows around backgrounds scenario := by
    refine List.filter_eq_self.mpr fun site hsite => ?_
    unfold scenarioSites at hsite
    split at hsite
    · obtain ⟨entry, _, rfl⟩ := List.mem_map.mp hsite
      rfl
    · rw [List.mem_singleton.mp hsite]
      rfl
  rw [htests]
  unfold PickleScope.tests at h
  unfold scenarioSites
  split at h
  · obtain ⟨blocks, hblocks, h⟩ := bind_eq_ok.mp h
    cases h
    rw [if_pos ‹_›]
    exact outline_pickled hrows hscope hheaded hblocks
  · cases h
    rw [if_neg ‹_›]
    refine .cons ⟨rfl, ?_, [], rfl, ?_⟩ .nil
    · rw [PickleScope.scenario, map_name_pickledTags, tagNames, List.map_append]
      exact congrArg (· ++ tagNames scenario.tags) hscope.tags_eq
    · rw [Site.sources, ← hscope.background_eq]
      exact scope.forall₂_steps _ scenario.steps [] []

private theorem ruleParts_pickled (hrows : ListsRows rows)
    (hscope : scope.Fits around backgrounds) {children : List RuleChild}
    (hregular : ∀ child ∈ children, child.Regular)
    (hnone : ∀ child ∈ children, child.background = none)
    (h : scope.ruleParts children = .ok pickles) :
    List.Forall₂ Site.PickledAs
      ((children.flatMap fun child =>
        partSites rows around backgrounds child.background child.scenario).filter
          (·.origin.isTest)) pickles := by
  induction children generalizing pickles with
  | nil =>
      cases h
      exact .nil
  | cons child children ih =>
      obtain ⟨hchild, hregular'⟩ := List.forall_mem_cons.mp hregular
      obtain ⟨hfirst, hnone'⟩ := List.forall_mem_cons.mp hnone
      rcases hchild with ⟨background, rfl⟩ | ⟨scenario, hheaded, rfl⟩
      · cases hfirst
      · obtain ⟨tests, htests, h⟩ := bind_eq_ok.mp h
        obtain ⟨rest, hrest, h⟩ := bind_eq_ok.mp h
        cases h
        rw [List.flatMap_cons, List.filter_append]
        exact List.rel_append (scenario_pickled hrows hscope hheaded htests)
          (ih hregular' hnone' hrest)

private theorem none_or_first {α : Type} {background? : α → Option Background} {children : List α}
    (h : ∀ child ∈ children.tail, background? child = none) :
    (∀ child ∈ children, background? child = none) ∨
      ∃ child rest, ∃ background, children = child :: rest ∧
        background? child = some background ∧ ∀ child ∈ rest, background? child = none := by
  cases children with
  | nil => exact .inl fun child hmem => nomatch hmem
  | cons child rest =>
      cases hchild : background? child with
      | none => exact .inl (List.forall_mem_cons.mpr ⟨hchild, h⟩)
      | some background => exact .inr ⟨child, rest, background, rfl, hchild, h⟩

private theorem rule_pickled (hrows : ListsRows rows)
    (hscope : scope.Fits around backgrounds) {rule : Rule}
    (hregular : rule.Regular) (h : scope.rule rule = .ok pickles) :
    List.Forall₂ Site.PickledAs
      ((ruleSites rows around backgrounds rule).filter (·.origin.isTest)) pickles := by
  obtain ⟨hall, htail⟩ := hregular
  unfold PickleScope.rule at h
  unfold ruleSites
  have hinner := hscope.enter rule.name rule.tags
  generalize rule.children = children at hall htail h ⊢
  rcases none_or_first htail with hnone | ⟨child, rest, background, rfl, hfirst, hnone⟩
  · rw [List.filterMap_eq_nil_iff.mpr hnone, List.append_nil]
    exact ruleParts_pickled hrows hinner hall hnone h
  · obtain ⟨hchild, hrest⟩ := List.forall_mem_cons.mp hall
    rcases hchild with ⟨background, rfl⟩ | ⟨scenario, _, rfl⟩
    · obtain ⟨tests, htests, h⟩ := bind_eq_ok.mp h
      obtain ⟨later, hparts, h⟩ := bind_eq_ok.mp h
      cases htests
      cases h
      rw [List.filterMap_cons, List.filterMap_eq_nil_iff.mpr hnone, List.flatMap_cons,
        List.filter_append]
      exact ruleParts_pickled hrows (hinner.behind background) hrest hnone hparts
    · cases hfirst

private theorem parts_pickled (hrows : ListsRows rows)
    (hscope : scope.Fits around backgrounds) {children : List FeatureChild}
    (hregular : ∀ child ∈ children, child.Regular)
    (hnone : ∀ child ∈ children, child.background = none)
    (h : scope.parts children = .ok pickles) :
    List.Forall₂ Site.PickledAs
      ((children.flatMap (featurePartSites rows around backgrounds)).filter (·.origin.isTest))
      pickles := by
  induction children generalizing pickles with
  | nil =>
      cases h
      exact .nil
  | cons child children ih =>
      obtain ⟨hchild, hregular'⟩ := List.forall_mem_cons.mp hregular
      obtain ⟨hfirst, hnone'⟩ := List.forall_mem_cons.mp hnone
      rw [List.flatMap_cons, List.filter_append]
      rcases hchild with ⟨background, rfl⟩ | ⟨scenario, hheaded, rfl⟩ | ⟨rule, hinner, rfl⟩
      · cases hfirst
      · obtain ⟨inRule, hrule, h⟩ := bind_eq_ok.mp h
        obtain ⟨tests, htests, h⟩ := bind_eq_ok.mp h
        obtain ⟨rest, hrest, h⟩ := bind_eq_ok.mp h
        cases hrule
        cases h
        exact List.rel_append (scenario_pickled hrows hscope hheaded htests)
          (ih hregular' hnone' hrest)
      · obtain ⟨inRule, hrule, h⟩ := bind_eq_ok.mp h
        obtain ⟨tests, htests, h⟩ := bind_eq_ok.mp h
        obtain ⟨rest, hrest, h⟩ := bind_eq_ok.mp h
        cases htests
        cases h
        rw [List.append_nil]
        exact List.rel_append (rule_pickled hrows hscope hinner hrule) (ih hregular' hnone' hrest)

private theorem hook?_eq_background {child : FeatureChild} (h : child.Regular) :
    child.hook? = child.background := by
  rcases h with ⟨background, rfl⟩ | ⟨scenario, _, rfl⟩ | ⟨rule, _, rfl⟩ <;> rfl

/-- The pickles of a feature are those of its scenarios and rows, one for each and in document
order. -/
theorem feature_pickled (hrows : ListsRows rows) {feature : Feature}
    (hscope : scope.Fits [⟨feature.name, tagNames feature.tags⟩] []) (hregular : feature.Regular)
    (h : scope.parts feature.children = .ok pickles) :
    List.Forall₂ Site.PickledAs ((featureSites rows feature).filter (·.origin.isTest)) pickles := by
  obtain ⟨hall, htail⟩ := hregular
  unfold featureSites
  rw [List.filterMap_congr fun child hmem => hook?_eq_background (hall child hmem)]
  generalize feature.children = children at hall htail h ⊢
  rcases none_or_first htail with hnone | ⟨child, rest, background, rfl, hfirst, hnone⟩
  · rw [List.filterMap_eq_nil_iff.mpr hnone]
    exact parts_pickled hrows hscope hall hnone h
  · obtain ⟨hchild, hrest⟩ := List.forall_mem_cons.mp hall
    rcases hchild with ⟨background, rfl⟩ | ⟨scenario, _, rfl⟩ | ⟨rule, _, rfl⟩
    · obtain ⟨inRule, hrule, h⟩ := bind_eq_ok.mp h
      obtain ⟨tests, htests, h⟩ := bind_eq_ok.mp h
      obtain ⟨later, hparts, h⟩ := bind_eq_ok.mp h
      cases hrule
      cases htests
      cases h
      rw [List.filterMap_cons, List.filterMap_eq_nil_iff.mpr hnone, List.flatMap_cons,
        List.filter_append]
      exact parts_pickled hrows (hscope.behind background) hrest hnone hparts
    · cases hfirst
    · cases hfirst

theorem document_pickled (hrows : ListsRows rows) {document : Document} {feature : Feature}
    (hfeature : document.feature = some feature) (hregular : feature.Regular)
    (h : document.pickles = .ok pickles) :
    List.Forall₂ Site.PickledAs ((featureSites rows feature).filter (·.origin.isTest)) pickles := by
  unfold Document.pickles at h
  rw [hfeature] at h
  obtain ⟨tests, htests, h⟩ := bind_eq_ok.mp h
  cases h
  have hnumbered := forall₂_mapM_run Pickle.number tests 0
  have hpickled := feature_pickled hrows ⟨rfl, (List.append_nil _).symm⟩ hregular htests
  refine (forall₂_trans hpickled hnumbered).imp fun site pickle hpickle => ?_
  obtain ⟨original, _, hsite, n, rfl⟩ := hpickle
  exact hsite.number n

end

end FeatureSuite

import FeatureSuite.Proofs.Suite.Build
import FeatureSuite.Proofs.Suite.Pickled

/-!
# Steps in pickles

In a file that is parsed every node has one identifier, so the step of a pickle that a hook or a
test looks up stems from its own step and its own row. Whether there is one depends on the tests: a
scenario without steps has no steps in its pickle, not even those of the backgrounds.
-/

namespace FeatureSuite

open Gherkin

/-! ## Nodes of sites -/

/-- What a hook or a test is generated for consists of nodes. -/
def Origin.Within (nodes : List (String × Node)) : Origin → Prop
  | background unit => unit.nodes ⊆ nodes
  | scenario unit => unit.isOutline = false ∧ unit.nodes ⊆ nodes
  | row outline entry => outline.isOutline = true ∧ outline.nodes ⊆ nodes ∧
      (entry.row.id, .row entry.block entry.row) ∈ nodes

/-- A site and the backgrounds around it consist of nodes. -/
structure Site.Within (nodes : List (String × Node)) (site : Site) : Prop where
  backgrounds_within : ∀ background ∈ site.backgrounds, background.nodes ⊆ nodes
  origin_within : site.origin.Within nodes

section

variable {rows : Scenario → List ExampleRow} {nodes : List (String × Node)}
  {around : List Ancestor} {backgrounds : List Background} {site : Site}

private theorem mem_nodes_of_listsRows (hrows : ListsRows rows) {outline : Scenario}
    {entry : ExampleRow} (h : entry ∈ rows outline) :
    (entry.row.id, Node.row entry.block entry.row) ∈ outline.nodes := by
  obtain ⟨hblock, hrow⟩ := hrows.mem h
  exact List.mem_append_right _ (List.mem_flatMap.mpr ⟨_, hblock, List.mem_map_of_mem hrow⟩)

private theorem scenario_within (hrows : ListsRows rows)
    (hbackgrounds : ∀ background ∈ backgrounds, background.nodes ⊆ nodes) {scenario : Scenario}
    (hnodes : scenario.nodes ⊆ nodes) (h : site ∈ scenarioSites rows around backgrounds scenario) :
    site.Within nodes := by
  unfold scenarioSites at h
  split at h
  · rename_i houtline
    obtain ⟨entry, hentry, rfl⟩ := List.mem_map.mp h
    exact ⟨hbackgrounds, houtline, hnodes, hnodes (mem_nodes_of_listsRows hrows hentry)⟩
  · rename_i hplain
    rw [List.mem_singleton.mp h]
    exact ⟨hbackgrounds, by simpa using hplain, hnodes⟩

private theorem part_within (hrows : ListsRows rows)
    (hbackgrounds : ∀ background ∈ backgrounds, background.nodes ⊆ nodes)
    {background : Option Background} {scenario : Option Scenario}
    (hbackground : background.toList.flatMap Background.nodes ⊆ nodes)
    (hscenario : scenario.toList.flatMap Scenario.nodes ⊆ nodes)
    (h : site ∈ partSites rows around backgrounds background scenario) : site.Within nodes := by
  cases background with
  | some background =>
      rw [List.mem_singleton.mp h]
      rw [Option.toList_some, List.flatMap_singleton] at hbackground
      exact ⟨hbackgrounds, hbackground⟩
  | none =>
      cases scenario with
      | some scenario =>
          rw [Option.toList_some, List.flatMap_singleton] at hscenario
          exact scenario_within hrows hbackgrounds hscenario h
      | none => cases h

private theorem background_nodes_subset {α : Type} {children : List α}
    {background? : α → Option Background} {childNodes : α → List (String × Node)}
    (hchild : ∀ child, (background? child).toList.flatMap Background.nodes ⊆ childNodes child)
    {background : Background} (h : background ∈ children.filterMap background?) :
    background.nodes ⊆ children.flatMap childNodes := by
  obtain ⟨child, hmem, hbackground⟩ := List.mem_filterMap.mp h
  intro node hnode
  refine List.mem_flatMap.mpr ⟨child, hmem, hchild child ?_⟩
  rw [hbackground, Option.toList_some, List.flatMap_singleton]
  exact hnode

private theorem rule_within (hrows : ListsRows rows)
    (hbackgrounds : ∀ background ∈ backgrounds, background.nodes ⊆ nodes) {rule : Rule}
    (hnodes : rule.nodes ⊆ nodes) (h : site ∈ ruleSites rows around backgrounds rule) :
    site.Within nodes := by
  obtain ⟨child, hmem, h⟩ := List.mem_flatMap.mp h
  have hchild : child.nodes ⊆ nodes := fun node hnode =>
    hnodes (List.mem_flatMap.mpr ⟨child, hmem, hnode⟩)
  refine part_within hrows (fun background hbackground => ?_)
    (fun node hnode => hchild (List.mem_append_left _ hnode))
    (fun node hnode => hchild (List.mem_append_right _ hnode)) h
  rcases List.mem_append.mp hbackground with hbackground | hbackground
  · exact hbackgrounds background hbackground
  · have hinner : background.nodes ⊆ rule.nodes :=
      background_nodes_subset (fun child => List.subset_append_left _ _) hbackground
    exact fun node hnode => hnodes (hinner hnode)

/-- The sites of a feature consist of nodes of the feature. -/
theorem feature_within (hrows : ListsRows rows) {feature : Feature}
    (h : site ∈ featureSites rows feature) : site.Within feature.nodes := by
  obtain ⟨child, hmem, h⟩ := List.mem_flatMap.mp h
  have hchild : child.nodes ⊆ feature.nodes := fun node hnode =>
    List.mem_flatMap.mpr ⟨child, hmem, hnode⟩
  have hbackgrounds : ∀ background ∈ feature.children.filterMap FeatureChild.hook?,
      background.nodes ⊆ feature.nodes := by
    intro background hbackground
    refine background_nodes_subset (fun child node hnode => ?_) hbackground
    unfold FeatureChild.hook? at hnode
    split at hnode
    · cases hnode
    · exact List.mem_append_left _ (List.mem_append_left _ hnode)
  unfold featurePartSites at h
  split at h
  · rename_i rule hrule
    refine rule_within hrows hbackgrounds (fun node hnode => hchild ?_) h
    refine List.mem_append_right _ ?_
    rw [hrule, Option.toList_some, List.flatMap_singleton]
    exact hnode
  · refine part_within hrows hbackgrounds (fun node hnode => hchild ?_)
      (fun node hnode => hchild ?_) h
    · exact List.mem_append_left _ (List.mem_append_left _ hnode)
    · exact List.mem_append_left _ (List.mem_append_right _ hnode)

end

/-! ## Sources of sites -/

private theorem Origin.Fills.unique {origin : Origin} {fillings others : List Filling}
    (h : origin.Fills fillings) (h' : origin.Fills others) : fillings = others := by
  cases origin with
  | background => exact Eq.trans h (Eq.symm h')
  | scenario => exact Eq.trans h (Eq.symm h')
  | row outline entry =>
      obtain ⟨header, hheader, hfillings⟩ := h
      obtain ⟨header', hheader', hfillings'⟩ := h'
      rw [hheader] at hheader'
      cases hheader'
      rw [hfillings] at hfillings'
      cases hfillings'
      rfl

namespace Site

variable {nodes : List (String × Node)} {site : Site}

theorem Within.runs_background (h : site.Within nodes) {background : Background}
    (hbackground : background ∈ site.backgrounds) {step : Step} (hstep : step ∈ background.steps) :
    Runs nodes (step, [], []) :=
  .background (h.backgrounds_within background hbackground (List.mem_map_of_mem hstep))

theorem Within.runs_own (h : site.Within nodes) {fillings : List Filling}
    (hfills : site.origin.Fills fillings) {step : Step} (hstep : step ∈ site.origin.steps) :
    Runs nodes (step, fillings, site.origin.row?.toList) := by
  have horigin := h.origin_within
  generalize site.origin = origin at hfills hstep horigin
  cases origin with
  | background unit =>
      cases hfills
      exact .background (horigin (List.mem_map_of_mem hstep))
  | scenario unit =>
      obtain ⟨hplain, hnodes⟩ := horigin
      cases hfills
      exact .scenario (hnodes (List.mem_append_left _ (List.mem_map_of_mem hstep))) hplain
  | row outline entry =>
      obtain ⟨houtline, hnodes, hrow⟩ := horigin
      obtain ⟨header, hheader, hfillings⟩ := hfills
      exact .outline (hnodes (List.mem_append_left _ (List.mem_map_of_mem hstep))) houtline hrow
        hheader hfillings

theorem Within.scenario_node (h : site.Within nodes) (htest : site.origin.isTest) {step : Step}
    (hstep : step ∈ site.origin.steps) :
    ∃ scenario, (step.id, Node.scenarioStep scenario step) ∈ nodes := by
  have horigin := h.origin_within
  generalize site.origin = origin at htest hstep horigin
  cases origin with
  | background unit => cases htest
  | scenario unit =>
      exact ⟨unit, horigin.2 (List.mem_append_left _ (List.mem_map_of_mem hstep))⟩
  | row outline entry =>
      exact ⟨outline, horigin.2.1 (List.mem_append_left _ (List.mem_map_of_mem hstep))⟩

theorem mem_sources {fillings : List Filling} {source : Source} :
    source ∈ site.sources fillings ↔ site.origin.steps ≠ [] ∧
      ((∃ background ∈ site.backgrounds, ∃ step ∈ background.steps, (step, [], []) = source) ∨
        ∃ step ∈ site.origin.steps, (step, fillings, site.origin.row?.toList) = source) := by
  unfold sources testSources
  split
  · rename_i hempty
    simp [List.isEmpty_iff.mp hempty]
  · rename_i hsteps
    rw [List.isEmpty_iff] at hsteps
    simp only [List.mem_append, List.mem_map, List.mem_flatMap, ne_eq, hsteps, not_false_eq_true,
      true_and]
    constructor
    · rintro (⟨step, ⟨background, hbackground, hstep⟩, hsource⟩ | hown)
      · exact .inl ⟨background, hbackground, step, hstep, hsource⟩
      · exact .inr hown
    · rintro (⟨background, hbackground, step, hstep, hsource⟩ | hown)
      · exact .inl ⟨step, ⟨background, hbackground, hstep⟩, hsource⟩
      · exact .inr hown

private theorem Within.runs_sources (h : site.Within nodes) {fillings : List Filling}
    (hfills : site.origin.Fills fillings) {source : Source}
    (hmem : source ∈ site.sources fillings) : Runs nodes source := by
  obtain ⟨_, hsource⟩ := mem_sources.mp hmem
  rcases hsource with ⟨background, hbackground, step, hstep, rfl⟩ | ⟨step, hstep, rfl⟩
  · exact h.runs_background hbackground hstep
  · exact h.runs_own hfills hstep

end Site

/-! ## Parsed files -/

/-- The pickles of a file are those of its sites, and these consist of nodes with identifiers of
their own. -/
structure FeatureFile.Faithful (file : FeatureFile) (nodes : List (String × Node)) : Prop where
  nodup : (nodeIds nodes).Nodup
  within : ∀ site ∈ file.sites, site.Within nodes
  pickled : List.Forall₂ Site.PickledAs file.testSites file.pickles

namespace FeatureFile

variable {file : FeatureFile} {nodes : List (String × Node)} {keywords : KeywordTable}
  {uri : String}

/-- A text that is loaded is parsed, and its document has pickles. -/
theorem document_of_parse {text : String}
    (h : parseDocument text uri = .ok ⟨file.document, file.pickles⟩) :
    ∃ document, parse text = .ok document ∧ file.document.feature = document.feature ∧
      file.document.pickles = .ok file.pickles := by
  unfold parseDocument at h
  split at h
  · cases h
  · rename_i document hparse
    dsimp only at h
    split at h
    · cases h
    · rename_i pickles hpickles
      have hdocument : { document with uri := some uri } = file.document :=
        congrArg LoadedDocument.document (Except.ok.inj h)
      have hsame : pickles = file.pickles := congrArg LoadedDocument.pickles (Except.ok.inj h)
      rw [hdocument, hsame] at hpickles
      exact ⟨document, hparse, hdocument ▸ rfl, hpickles⟩

/-- The document and the pickles of a text are faithful. -/
theorem faithful_of_parse {text : String}
    (h : parseDocument text uri = .ok ⟨file.document, file.pickles⟩) :
    ∃ nodes, file.Faithful nodes := by
  obtain ⟨document, hparse, hsource, hpickles⟩ := document_of_parse h
  cases hfeature : file.document.feature with
  | none =>
      have hsites : file.sites = [] := by rw [sites, hfeature]
      have hnone : file.pickles = [] := by
        unfold Document.pickles at hpickles
        rw [hfeature] at hpickles
        exact (pure_eq_ok.mp hpickles).symm
      refine ⟨[], List.nodup_nil, fun site hsite => ?_, ?_⟩
      · rw [hsites] at hsite
        cases hsite
      · rw [testSites, hsites, hnone]
        exact .nil
  | some feature =>
      obtain ⟨hregular, hnodup⟩ := regular_of_parse hparse (hsource.symm.trans hfeature)
      have hrows : ListsRows file.rows := expandOutline_listsRows _ _
      refine ⟨feature.nodes, hnodup, fun site hsite => ?_, ?_⟩
      · rw [sites_eq hfeature] at hsite
        exact feature_within hrows hsite
      · rw [testSites, sites_eq hfeature]
        exact document_pickled hrows hfeature hregular hpickles

namespace Faithful

private theorem source_of_mem (h : file.Faithful nodes) {pickleStep : PickleStep}
    (hmem : pickleStep ∈ file.pickles.flatMap (·.steps)) :
    ∃ site ∈ file.testSites, ∃ fillings, site.origin.Fills fillings ∧
      ∃ source ∈ site.sources fillings, Yields source pickleStep := by
  obtain ⟨pickle, hpickle, hstep⟩ := List.mem_flatMap.mp hmem
  obtain ⟨site, hsite, hpickled⟩ := exists_of_mem_right h.pickled hpickle
  obtain ⟨fillings, hfills, hyields⟩ := hpickled.yields
  obtain ⟨source, hsource, hyield⟩ := exists_of_mem_right hyields hstep
  exact ⟨site, hsite, fillings, hfills, source, hsource, hyield⟩

private theorem runs_of_mem (h : file.Faithful nodes) :
    ∀ pickleStep ∈ file.pickles.flatMap (·.steps),
      ∃ source, Runs nodes source ∧ Yields source pickleStep := by
  intro pickleStep hmem
  obtain ⟨site, hsite, fillings, hfills, source, hsource, hyields⟩ := h.source_of_mem hmem
  have hwithin := h.within site (List.mem_of_mem_filter hsite)
  exact ⟨source, hwithin.runs_sources hfills hsource, hyields⟩

/-- The step of a pickle that is looked up stems from the step and the row. -/
theorem yields_pickleStep? (h : file.Faithful nodes) {source : Source} (hsource : Runs nodes source)
    {row : Option String} (hrow : source.2.2 = row.toList) {found : PickleStep}
    (hfound : (file.planner keywords uri).pickleStep? source.1 row = some found) :
    Yields source found :=
  (hsource.yields_of_find? h.nodup h.runs_of_mem hrow hfound).2

/-- The step of a pickle is found if it stems from a source of a test. -/
theorem isSome_pickleStep? (h : file.Faithful nodes) {source : Source} (hsource : Runs nodes source)
    {row : Option String} (hrow : source.2.2 = row.toList) :
    ((file.planner keywords uri).pickleStep? source.1 row).isSome ↔
      ∃ site ∈ file.testSites, ∃ fillings, site.origin.Fills fillings ∧
        source ∈ site.sources fillings := by
  refine (hsource.isSome_find? h.nodup h.runs_of_mem hrow).trans ?_
  constructor
  · rintro ⟨pickleStep, hmem, hyields⟩
    obtain ⟨site, hsite, fillings, hfills, other, hother, hyields'⟩ := h.source_of_mem hmem
    have hwithin := h.within site (List.mem_of_mem_filter hsite)
    have hruns := hwithin.runs_sources hfills hother
    have hids := hyields.nodes_eq.symm.trans hyields'.nodes_eq
    have hsame := Runs.unique h.nodup hsource hruns (hids ▸ List.mem_cons_self)
      fun id hid => hids ▸ List.mem_cons_of_mem _ hid
    exact ⟨site, hsite, fillings, hfills, hsame ▸ hother⟩
  · rintro ⟨site, hsite, fillings, hfills, hmem⟩
    obtain ⟨pickle, hpickle, hpickled⟩ := exists_of_mem_left h.pickled hsite
    obtain ⟨fillings', hfills', hyields⟩ := hpickled.yields
    cases hfills.unique hfills'
    obtain ⟨pickleStep, hstep, hyield⟩ := exists_of_mem_left hyields hmem
    exact ⟨pickleStep, List.mem_flatMap.mpr ⟨pickle, hpickle, hstep⟩, hyield⟩

end Faithful

end FeatureFile

end FeatureSuite

import FeatureSuite.Proofs.Suite.Lookup
import FeatureSuite.Proofs.Suite.Signature

/-!
# Tests run the steps of their pickles

The tests of a module and the pickles of its document are made by separate walks. They belong
together one by one, and what runs for a test are the steps of its pickle.
-/

namespace FeatureSuite

open Gherkin

/-- The steps that run for a test: those of the hooks around it, outermost first, then its own. -/
def Placed.occurrences (placed : Placed) : List Occurrence :=
  placed.hooks.flatMap (·.occurrences) ++ placed.unit.body.occurrences

/-- A step of a test runs a step of a pickle: it has its text and its argument. -/
def Occurrence.Runs (occurrence : Occurrence) (pickleStep : PickleStep) : Prop :=
  occurrence.pickleStep.text = pickleStep.text ∧
    occurrence.pickleStep.argument = pickleStep.argument

namespace FeatureFile

variable {file built : FeatureFile} {nodes : List (String × Node)} {keywords : KeywordTable}
  {uri : String}

namespace Faithful

private theorem hook_yields (h : file.Faithful nodes) {site : Site} (hwithin : site.Within nodes)
    {background : Background} (hbackground : background ∈ site.backgrounds) {body : Body}
    (hbody : (file.planner keywords uri).Hooks background body) :
    List.Forall₂ (fun source occurrence => Yields source occurrence.pickleStep)
      (background.steps.map fun step => (step, [], [])) body.occurrences := by
  obtain ⟨tags, hbody⟩ := hbody
  rw [List.forall₂_map_left_iff]
  refine (forall₂_mem (Planner.composes_of_body hbody).resolves).imp fun step occurrence hstep => ?_
  obtain ⟨hmem, _, hresolves⟩ := hstep
  exact h.yields_pickleStep? (hwithin.runs_background hbackground hmem) rfl hresolves.pickleStep_eq

private theorem own_yields (h : file.Faithful nodes) {site : Site} (hwithin : site.Within nodes)
    {fillings : List Filling} (hfills : site.origin.Fills fillings) {placed : Placed}
    (hplaced : (file.planner keywords uri).Realizes site placed) :
    List.Forall₂ (fun source occurrence => Yields source occurrence.pickleStep)
      (site.origin.steps.map fun step => (step, fillings, site.origin.row?.toList))
      placed.unit.body.occurrences := by
  rw [List.forall₂_map_left_iff]
  have hresolves := (Planner.composes_of_body hplaced.body_eq).resolves
  refine (forall₂_mem hresolves).imp fun step occurrence hstep => ?_
  obtain ⟨hmem, _, hresolves⟩ := hstep
  exact h.yields_pickleStep? (hwithin.runs_own hfills hmem) rfl hresolves.pickleStep_eq

/-- What runs for a test with steps stems from the sources of the test. -/
theorem occurrences_yield (h : file.Faithful nodes) {site : Site} (hwithin : site.Within nodes)
    {fillings : List Filling} (hfills : site.origin.Fills fillings) {placed : Placed}
    (hplaced : (file.planner keywords uri).Realizes site placed)
    (hsteps : site.origin.steps ≠ []) :
    List.Forall₂ (fun source occurrence => Yields source occurrence.pickleStep)
      (site.sources fillings) placed.occurrences := by
  unfold Site.sources testSources Placed.occurrences
  rw [if_neg (by simpa using hsteps), List.map_flatMap]
  refine List.rel_append ?_ (h.own_yields hwithin hfills hplaced)
  refine List.rel_flatMap (forall₂_mem hplaced.surrounds.hooks_of) fun background body hbody => ?_
  obtain ⟨hmem, _, hbody⟩ := hbody
  exact h.hook_yields hwithin hmem hbody

private theorem runs_pickle (h : file.Faithful nodes) {site : Site} (hwithin : site.Within nodes)
    {placed : Placed} (hplaced : (file.planner keywords uri).Realizes site placed)
    {pickle : Pickle} (hpickle : site.PickledAs pickle)
    (hsteps : placed.unit.body.occurrences ≠ []) :
    List.Forall₂ Occurrence.Runs placed.occurrences pickle.steps := by
  obtain ⟨fillings, hfills, hyields⟩ := hpickle.yields
  have hown : site.origin.steps ≠ [] := by
    intro hnone
    have hresolves := (Planner.composes_of_body hplaced.body_eq).resolves
    rw [hnone, List.forall₂_nil_left_iff] at hresolves
    exact hsteps hresolves
  have hoccurrences := h.occurrences_yield hwithin hfills hplaced hown
  refine (forall₂_join hoccurrences hyields).imp fun occurrence pickleStep hpair => ?_
  obtain ⟨source, _, hleft, hright⟩ := hpair
  exact ⟨hleft.text_eq.trans hright.text_eq.symm, hleft.argument_eq.trans hright.argument_eq.symm⟩

end Faithful

private theorem body_lines_eq {planner : Planner} {site : Site} {placed : Placed}
    (h : planner.Realizes site placed) :
    ∀ body ∈ placed.hooks ++ [placed.unit.body], ∃ used, body.lines =
      body.occurrences.map fun occurrence =>
        (occurrence.call used planner.registry.pages).write := by
  intro body hmem
  rcases List.mem_append.mp hmem with hmem | hmem
  · obtain ⟨background, _, tags, hbody⟩ := exists_of_mem_right h.surrounds.hooks_of hmem
    exact ⟨_, (Planner.composes_of_body hbody).lines_eq_write⟩
  · rw [List.mem_singleton.mp hmem]
    exact ⟨_, (Planner.composes_of_body h.body_eq).lines_eq_write⟩

/-- The tests of a built module are made for the scenarios and the rows of the document in the order
in which these have pickles. What runs for a test that has steps of its own are the steps of its
pickle: the steps of the hooks around it, outermost first, then its own. Hooks and tests are the
methods that are read in the module, with a call for each step. -/
theorem tests_run_pickles {text : String}
    (hparse : parseDocument text uri = .ok ⟨file.document, file.pickles⟩)
    (hbuild : file.build = .ok built) :
    ∃ keywords uri root headings, file.plan = .ok (keywords, uri, root) ∧
      built.lines = Layout.header uri (imports file.settings built.runnerModules) ++ root.lines ++
        "" :: Layout.tagsFixture built.tags.entries ∧
      readHeadings (readRows root.lines) = ([], headings) ∧
      List.Forall₂ Placed.WrittenAs (root.placed [] []) (headings.filter Heading.isMethod) ∧
      List.Forall₂ (file.planner keywords uri).Realizes file.testSites root.tests ∧
      List.Forall₂ (fun site pickle => pickle.astNodeIds = site.origin.nodeIds)
        file.testSites file.pickles ∧
      List.Forall₂ (fun placed pickle => placed.unit.body.occurrences ≠ [] →
          List.Forall₂ Occurrence.Runs placed.occurrences pickle.steps)
        root.tests file.pickles ∧
      ∀ placed ∈ root.tests, ∀ body ∈ placed.hooks ++ [placed.unit.body], ∃ used,
        body.lines = body.occurrences.map fun occurrence =>
          (occurrence.call used file.registry.pages).write := by
  obtain ⟨nodes, hfaithful⟩ := faithful_of_parse hparse
  obtain ⟨keywords, uri, root, headings, hplan, hlines, hread, hmethods⟩ := methods_of_build hbuild
  have hrealize := tests_realize hplan
  refine ⟨keywords, uri, root, headings, hplan, hlines, hread, hmethods, hrealize, ?_, ?_,
    fun placed hmem => ?_⟩
  · exact hfaithful.pickled.imp fun site pickle hpickle => hpickle.nodes_eq
  · refine (forall₂_join hrealize hfaithful.pickled).imp fun placed pickle hpair hsteps => ?_
    obtain ⟨site, hsite, hplaced, hpickle⟩ := hpair
    have hwithin := hfaithful.within site (List.mem_of_mem_filter hsite)
    exact hfaithful.runs_pickle hwithin hplaced hpickle hsteps
  · obtain ⟨site, _, hplaced⟩ := exists_of_mem_right hrealize hmem
    have hwritten := body_lines_eq hplaced
    exact hwritten

/-- A background, and an outline in a rule with a background of its own. -/
def ruledText : String :=
  "Feature: F\n Background:\n  Given a user\n" ++
    " Rule: R\n  Background:\n   Given a user\n    | a |\n" ++
    "  Scenario Outline: O\n   Then I pay <n>\n   Examples:\n    | n |\n    | 1 |\n    | 2 |\n"

theorem tests_run_pickles_of_ruled :
    ∃ file built root, load ruledText "f.feature" shop = .ok file ∧ file.build = .ok built ∧
      ∃ keywords uri, file.plan = .ok (keywords, uri, root) ∧
        file.pickles.map (fun pickle => pickle.steps.map (·.text)) =
          [["a user", "a user", "I pay 1"], ["a user", "a user", "I pay 2"]] ∧
        (∀ placed ∈ root.tests, placed.unit.body.occurrences ≠ []) ∧
        List.Forall₂ (fun placed pickle => placed.unit.body.occurrences ≠ [] →
            List.Forall₂ Occurrence.Runs placed.occurrences pickle.steps)
          root.tests file.pickles := by
  have hcompile : (compile ruledText "f.feature" shop).toOption.any (fun (file, _, root) =>
      decide (file.pickles.map (fun pickle => pickle.steps.map (·.text)) =
        [["a user", "a user", "I pay 1"], ["a user", "a user", "I pay 2"]] ∧
        ∀ placed ∈ root.tests, placed.unit.body.occurrences.length ≠ 0)) = true := by
    decide +kernel
  obtain ⟨⟨file, built, root⟩, hcompile, hcheck⟩ := exists_ok_of_any hcompile
  obtain ⟨hload, hbuild, keywords, uri, hplan⟩ := compile_eq_ok hcompile
  obtain ⟨htexts, hsteps⟩ := of_decide_eq_true hcheck
  obtain ⟨_, _, _, _, hplan', _, _, _, _, _, hruns, _⟩ :=
    tests_run_pickles (parse_of_load hload) hbuild
  rw [hplan] at hplan'
  cases hplan'
  have hown : ∀ placed ∈ root.tests, placed.unit.body.occurrences ≠ [] := fun placed hmem =>
    List.length_eq_zero_iff.not.mp (hsteps placed hmem)
  exact ⟨file, built, root, hload, hbuild, keywords, uri, hplan, htexts, hown, hruns⟩

end FeatureFile

end FeatureSuite

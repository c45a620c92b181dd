import FeatureSuite.Proofs.Suite.Lookup
import FeatureSuite.Proofs.Suite.Signature
import FeatureSuite.Proofs.Suite.TagMap

/-!
# Inherited tags

The tags that a test has and inherits are gathered by the plan and, separately, by the pickles. Both
gather the same: a test is matched, given fixtures and entered with the tags of its pickle, each
once.
-/

namespace FeatureSuite

open Gherkin

/-- The names of the tags of a pickle, each once, in the order of their first occurrences. -/
def Gherkin.Pickle.distinctTags (pickle : Pickle) : List String :=
  distinct (pickle.tags.map (·.name))

private theorem Site.PickledAs.tags_eq_distinct {site : Site} {pickle : Pickle}
    (h : site.PickledAs pickle) : site.tags = pickle.distinctTags := by
  rw [Pickle.distinctTags, h.tags_eq]
  rfl

/-- A test is made with tags: they select handlers and fixtures, and the test is entered with
them. -/
structure Placed.Uses (placed : Placed) (planner : Planner) (site : Site) (tags : List String) :
    Prop where
  body_eq : planner.body site.origin.steps tags site.origin.row? = .ok placed.unit.body
  tags_eq : placed.unit.tags = tags
  entry_eq : placed.unit.entry? = some (placed.key, tags)

private theorem Planner.Realizes.uses_tags {planner : Planner} {site : Site} {placed : Placed}
    (h : planner.Realizes site placed) (htest : placed.unit.isTest) :
    placed.Uses planner site site.tags := by
  obtain ⟨htags, hentry⟩ := h.entry htest
  exact ⟨h.body_eq, htags, htags ▸ hentry⟩

namespace FeatureFile

variable {file : FeatureFile} {uri : String}

/-- In a file that is parsed, the scenarios and the rows of the document have their pickles in the
same order, and the tags that a scenario or a row has and inherits are those of its pickle, each
once. These are the tags that the test of a plan is matched with, that select its fixtures, and
under which it is entered in the map from tests to tags. -/
theorem tags_of_pickles {text : String}
    (hparse : parseDocument text uri = .ok ⟨file.document, file.pickles⟩) :
    List.Forall₂ (fun site pickle => pickle.astNodeIds = site.origin.nodeIds ∧
        site.tags = pickle.distinctTags)
      file.testSites file.pickles ∧
    ∀ keywords name root, file.plan = .ok (keywords, name, root) →
      List.Forall₂ (fun (site, pickle) placed =>
          placed.Uses (file.planner keywords name) site pickle.distinctTags)
        (file.testSites.zip file.pickles) root.tests ∧
      root.taggedTests =
        List.zipWith (fun placed pickle => (placed.key, pickle.distinctTags)) root.tests
          file.pickles := by
  obtain ⟨nodes, hfaithful⟩ := faithful_of_parse hparse
  have hpickled := hfaithful.pickled
  refine ⟨hpickled.imp fun site pickle h => ⟨h.nodes_eq, h.tags_eq_distinct⟩, ?_⟩
  intro keywords name root hplan
  have hrealize := tests_realize hplan
  have huses : List.Forall₂ (fun site placed =>
      placed.Uses (file.planner keywords name) site site.tags) file.testSites root.tests := by
    refine (forall₂_mem hrealize).imp fun site placed hplaced => ?_
    obtain ⟨_, hmem, hsite⟩ := hplaced
    exact hsite.uses_tags (List.mem_filter.mp hmem).2
  constructor
  · refine (forall₂_zip hpickled huses).imp fun pair placed hpair => ?_
    obtain ⟨site, pickle⟩ := pair
    obtain ⟨hpickle, huse⟩ := hpair
    have htags : site.tags = pickle.distinctTags := hpickle.tags_eq_distinct
    rwa [htags] at huse
  · rw [SuiteUnit.taggedTests_eq_tests]
    refine filterMap_eq_zipWith ((forall₂_join huses hpickled).imp fun placed pickle hpair => ?_)
    obtain ⟨site, _, huse, hpickle⟩ := hpair
    rw [huse.entry_eq, hpickle.tags_eq_distinct]

/-- An outline in a rule, with tags at all of them that are repeated further in. -/
def taggedText : String :=
  "@a\nFeature: F\n @b @a\n Rule: R\n  @c @a\n  Scenario Outline: O\n   Given a user\n" ++
    "   @d @b\n   Examples:\n    | n |\n    | 1 |\n"

theorem tags_of_pickles_of_tagged :
    ∃ file built root, load taggedText "f.feature" shop = .ok file ∧ file.build = .ok built ∧
      ∃ keywords uri, file.plan = .ok (keywords, uri, root) ∧
        file.pickles.map (fun pickle => pickle.tags.map (·.name)) =
          [["@a", "@b", "@a", "@c", "@a", "@d", "@b"]] ∧
        file.testSites.map (·.tags) = [["@a", "@b", "@c", "@d"]] ∧
        List.Forall₂ (fun (site, pickle) placed =>
            placed.Uses (file.planner keywords uri) site pickle.distinctTags)
          (file.testSites.zip file.pickles) root.tests := by
  have hcompile : (compile taggedText "f.feature" shop).toOption.any (fun (file, _, _) =>
      decide (file.pickles.map (fun pickle => pickle.tags.map (·.name)) =
          [["@a", "@b", "@a", "@c", "@a", "@d", "@b"]] ∧
        file.testSites.map (·.tags) = [["@a", "@b", "@c", "@d"]])) = true := by
    decide +kernel
  obtain ⟨⟨file, built, root⟩, hcompile, hcheck⟩ := exists_ok_of_any hcompile
  obtain ⟨hload, hbuild, keywords, uri, hplan⟩ := compile_eq_ok hcompile
  obtain ⟨hpickles, hsites⟩ := of_decide_eq_true hcheck
  obtain ⟨_, htests⟩ := tags_of_pickles (parse_of_load hload)
  obtain ⟨huses, _⟩ := htests keywords uri root hplan
  exact ⟨file, built, root, hload, hbuild, keywords, uri, hplan, hpickles, hsites, huses⟩

end FeatureFile

end FeatureSuite

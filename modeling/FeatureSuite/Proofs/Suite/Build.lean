import FeatureSuite.Proofs.Suite.Planning

/-!
# Built modules

A module that is built is the text of a plan: a header, the suite of the feature, and the map from
tests to tags.
-/

namespace FeatureSuite

open Gherkin (Document Feature)

/-! ## Plans of files -/

namespace FeatureFile

variable {file built : FeatureFile} {keywords : KeywordTable} {uri : String} {root : SuiteUnit}

/-- What the plan of a file is made from, given the words of its language. -/
def planner (file : FeatureFile) (keywords : KeywordTable) (uri : String) : Planner :=
  { uri, document := file.document, pickleSteps := file.pickles.flatMap (·.steps)
    registry := file.registry, keywords, titleFormat := file.settings.examplesTitleFormat }

def rows (file : FeatureFile) (outline : Gherkin.Scenario) : List ExampleRow :=
  expandOutline file.document outline file.settings.examplesTitleFormat

def load (text uri : String) (registry : Registry) : Except Failure FeatureFile := do
  let loaded ← parseDocument text uri
  return { document := loaded.document, pickles := loaded.pickles, registry }

/-- A file of a text with the module and the plan that come of it. -/
def compile (text uri : String) (registry : Registry) :
    Except Failure (FeatureFile × FeatureFile × SuiteUnit) := do
  let file ← load text uri registry
  let built ← file.build
  let (_, _, root) ← file.plan
  return (file, built, root)

theorem parse_of_load {text : String} {registry : Registry}
    (h : load text uri registry = .ok file) :
    parseDocument text uri = .ok ⟨file.document, file.pickles⟩ := by
  obtain ⟨loaded, hloaded, h⟩ := bind_eq_ok.mp h
  cases h
  exact hloaded

theorem registry_of_load {text : String} {registry : Registry}
    (h : load text uri registry = .ok file) : file.registry = registry := by
  obtain ⟨loaded, _, h⟩ := bind_eq_ok.mp h
  cases h
  rfl

theorem compile_eq_ok {text : String} {registry : Registry}
    (h : compile text uri registry = .ok (file, built, root)) :
    load text uri registry = .ok file ∧ file.build = .ok built ∧
      ∃ keywords name, file.plan = .ok (keywords, name, root) := by
  obtain ⟨file, hfile, h⟩ := bind_eq_ok.mp h
  obtain ⟨built, hbuilt, h⟩ := bind_eq_ok.mp h
  obtain ⟨⟨keywords, name, root⟩, hplan, h⟩ := bind_eq_ok.mp h
  cases h
  exact ⟨hfile, hbuilt, keywords, name, hplan⟩

def sites (file : FeatureFile) : List Site :=
  match file.document.feature with
  | none => []
  | some feature => featureSites file.rows feature

def testSites (file : FeatureFile) : List Site := file.sites.filter (·.origin.isTest)

theorem sites_eq {feature : Feature} (h : file.document.feature = some feature) :
    file.sites = featureSites file.rows feature := by
  rw [sites, h]

theorem plan_eq_ok (h : file.plan = .ok (keywords, uri, root)) :
    ∃ feature, file.document.feature = some feature ∧
      (file.planner keywords uri).feature feature = .ok root := by
  unfold plan at h
  split at h
  · obtain ⟨_, _, h⟩ := bind_eq_ok.mp h
    cases h
  · rename_i feature hfeature
    obtain ⟨words, _, h⟩ := bind_eq_ok.mp h
    obtain ⟨name, _, h⟩ := bind_eq_ok.mp h
    obtain ⟨suite, hsuite, h⟩ := bind_eq_ok.mp h
    cases h
    exact ⟨feature, hfeature, hsuite⟩

/-- A plan holds one hook or test for every site of the document, in the same order. -/
theorem plan_realizes (h : file.plan = .ok (keywords, uri, root)) :
    List.Forall₂ (file.planner keywords uri).Realizes file.sites (root.placed [] []) := by
  obtain ⟨feature, hfeature, hroot⟩ := plan_eq_ok h
  rw [sites_eq hfeature]
  exact Planner.feature_realizes hroot

/-- The tests of a plan are made for the scenarios and the rows of the document, one for each and in
the same order. -/
theorem tests_realize (h : file.plan = .ok (keywords, uri, root)) :
    List.Forall₂ (file.planner keywords uri).Realizes file.testSites root.tests := by
  refine List.rel_filter (fun site placed hsite => ?_) (plan_realizes h)
  change site.origin.isTest = true ↔ placed.unit.isTest = true
  rw [hsite.isTest_eq]

/-- A module that is built has a plan, and its text and its map of tags are read off the plan. -/
theorem plan_of_build (h : file.build = .ok built) :
    ∃ keywords uri root header, file.plan = .ok (keywords, uri, root) ∧
      built.tags = fileTags root.taggedTests ∧
        built.lines = header ++ root.lines ++ "" :: Layout.tagsFixture built.tags.entries := by
  obtain ⟨⟨keywords, uri, root⟩, hplan, h⟩ := bind_eq_ok.mp h
  cases h
  exact ⟨keywords, uri, root, _, hplan, rfl, rfl⟩

theorem source_of_plan (h : file.plan = .ok (keywords, uri, root)) : file.sourceFile = .ok uri := by
  unfold plan at h
  split at h
  · obtain ⟨_, _, h⟩ := bind_eq_ok.mp h
    cases h
  · obtain ⟨words, _, h⟩ := bind_eq_ok.mp h
    obtain ⟨name, hname, h⟩ := bind_eq_ok.mp h
    obtain ⟨suite, _, h⟩ := bind_eq_ok.mp h
    cases h
    exact documentResult_eq_ok.mp hname

/-- The text of a module names its document in front of the plan. -/
theorem text_of_build (h : file.build = .ok built) :
    ∃ keywords uri root, file.plan = .ok (keywords, uri, root) ∧ file.sourceFile = .ok uri ∧
      built.outputPath = file.outputPath ∧
        built.lines = Layout.header uri (imports file.settings built.runnerModules) ++
          root.lines ++ "" :: Layout.tagsFixture built.tags.entries := by
  obtain ⟨⟨keywords, uri, root⟩, hplan, h⟩ := bind_eq_ok.mp h
  cases h
  exact ⟨keywords, uri, root, hplan, source_of_plan hplan, rfl, rfl⟩

end FeatureFile

/-! ## Lines of plans -/

namespace SuiteUnit

private theorem lines_ne_nil (unit : SuiteUnit) : unit.lines ≠ [] := by
  cases unit <;> simp [lines, Layout.hook, Layout.test, Layout.suite, Layout.markers]

@[simp] theorem bodyOrPass_linesOfAll {unit : SuiteUnit} {rest : List SuiteUnit} :
    Layout.bodyOrPass (linesOfAll (unit :: rest)) = linesOfAll (unit :: rest) := by
  have h : linesOfAll (unit :: rest) ≠ [] := by simp [linesOfAll, unit.lines_ne_nil]
  rw [Layout.bodyOrPass, if_neg (by simpa using h)]

end SuiteUnit

end FeatureSuite

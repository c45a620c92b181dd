import FeatureSuite.Proofs.Suite.Headings
import FeatureSuite.Proofs.Suite.Pickled

/-!
# Modules follow their documents

The headings of a module, read back from its lines, are those that the document declares: a class
for the feature, every rule and every outline, a method for every background, scenario and row,
depth first in document order, each one level below what it stands in.
-/

namespace FeatureSuite

open Gherkin (Background Feature FeatureChild Rule Scenario)

/-! ## The walk through a document -/

/-- What a heading is written for: a class, or a method with the tags that its steps see. -/
inductive Declared where
  | suite (title : String) (line : Int) (childless : Bool)
  | method (origin : Origin) (tags : List String)

section

variable (rows : Scenario → List ExampleRow) (level : Nat) (around : List Ancestor)

def methodDeclared (origin : Origin) : Nat × Declared :=
  (level, .method origin (visibleTags around (tagNames origin.ownTags)))

def scenarioDeclared (scenario : Scenario) : List (Nat × Declared) :=
  if scenario.isOutline then
    (level, .suite scenario.name scenario.location.line (rows scenario).isEmpty) ::
      (rows scenario).map fun entry =>
        methodDeclared (level + 1) (around ++ [Planner.scenarioAncestor scenario])
          (.row scenario entry)
  else [methodDeclared level around (.scenario scenario)]

def partDeclared (background : Option Background) (scenario : Option Scenario) :
    List (Nat × Declared) :=
  match background, scenario with
  | some background, _ => [methodDeclared level around (.background background)]
  | none, some scenario => scenarioDeclared rows level around scenario
  | none, none => []

def ruleDeclared (rule : Rule) : List (Nat × Declared) :=
  (level, .suite rule.name rule.location.line rule.children.isEmpty) ::
    rule.children.flatMap fun child =>
      partDeclared rows (level + 1) (around ++ [⟨rule.name, tagNames rule.tags⟩])
        child.background child.scenario

def featurePartDeclared (child : FeatureChild) : List (Nat × Declared) :=
  match child.rule with
  | some rule => ruleDeclared rows level around rule
  | none => partDeclared rows level around child.background child.scenario

end

def featureDeclared (rows : Scenario → List ExampleRow) (feature : Feature) :
    List (Nat × Declared) :=
  (0, .suite feature.name feature.location.line feature.children.isEmpty) ::
    feature.children.flatMap (featurePartDeclared rows 1 [⟨feature.name, tagNames feature.tags⟩])

/-! ## The plan of a document -/

namespace Planner

/-- A heading is the one that is declared, with the lines of its steps or the one that stands in for
them. -/
inductive Declares (planner : Planner) : Nat × Declared → Heading → Prop where
  | suite (level : Nat) (title : String) (line : Int) (childless : Bool) :
      Declares planner (level, .suite title line childless) (.ofSuite level title line childless)
  | method (level : Nat) {origin : Origin} {tags : List String} {body : Body} :
      planner.Composes origin.steps tags origin.row? body →
        Declares planner (level, .method origin tags) (.ofMethod level origin.methodName body)

variable {planner : Planner} {level : Nat} {around : List Ancestor} {unit : SuiteUnit}

private theorem isEmpty_of_mapM {α : Type} {make : α → Except Failure SuiteUnit} {items : List α}
    {units : List SuiteUnit} (h : items.mapM make = .ok units) : items.isEmpty = units.isEmpty := by
  cases mapM_eq_ok.mp h <;> rfl

private theorem forall₂_headingsOfAll {α : Type} {make : α → Except Failure SuiteUnit}
    {items : List α} {units : List SuiteUnit} {declared : α → List (Nat × Declared)}
    (h : items.mapM make = .ok units)
    (hitem : ∀ item unit, make item = .ok unit →
      List.Forall₂ planner.Declares (declared item) (unit.headings level)) :
    List.Forall₂ planner.Declares (items.flatMap declared)
      (SuiteUnit.headingsOfAll level units) := by
  rw [SuiteUnit.headingsOfAll_eq_flatMap]
  exact List.rel_flatMap (mapM_eq_ok.mp h) fun item unit hunit => hitem item unit hunit

private theorem row_declares {outline : Scenario} {entry : ExampleRow}
    (h : planner.row around outline entry = .ok unit) :
    List.Forall₂ planner.Declares [methodDeclared level around (.row outline entry)]
      (unit.headings level) := by
  obtain ⟨body, hbody, rfl⟩ := row_eq_ok h
  exact .cons (.method level (composes_of_body hbody)) .nil

private theorem scenario_declares {scenario : Scenario}
    (h : planner.scenario around scenario = .ok unit) :
    List.Forall₂ planner.Declares (scenarioDeclared planner.rows level around scenario)
      (unit.headings level) := by
  unfold Planner.scenario at h
  unfold scenarioDeclared
  split at h
  · rw [if_pos ‹_›]
    obtain ⟨units, hunits, rfl⟩ := outline_eq_ok h
    rw [SuiteUnit.headings, ← isEmpty_of_mapM hunits, List.map_eq_flatMap]
    exact .cons (.suite ..) (forall₂_headingsOfAll hunits fun entry unit => row_declares)
  · rw [if_neg ‹_›]
    obtain ⟨body, hbody, rfl⟩ := test_eq_ok h
    exact .cons (.method level (composes_of_body hbody)) .nil

private theorem part_declares {inRule : Bool} {background : Option Background}
    {scenario : Option Scenario} (h : planner.part around inRule background scenario = .ok unit) :
    List.Forall₂ planner.Declares (partDeclared planner.rows level around background scenario)
      (unit.headings level) := by
  cases background with
  | some background =>
      obtain ⟨body, hbody, rfl⟩ := background_eq_ok h
      exact .cons (.method level (composes_of_body hbody)) .nil
  | none =>
      cases scenario with
      | some scenario => exact scenario_declares h
      | none => cases h

private theorem rule_declares {rule : Rule} (h : planner.rule around rule = .ok unit) :
    List.Forall₂ planner.Declares (ruleDeclared planner.rows level around rule)
      (unit.headings level) := by
  obtain ⟨units, hunits, rfl⟩ := rule_eq_ok h
  rw [SuiteUnit.headings, ← isEmpty_of_mapM hunits]
  exact .cons (.suite ..) (forall₂_headingsOfAll hunits fun child unit => part_declares)

private theorem featurePart_declares {child : FeatureChild}
    (h : planner.featurePart around child = .ok unit) :
    List.Forall₂ planner.Declares (featurePartDeclared planner.rows level around child)
      (unit.headings level) := by
  unfold featurePart at h
  unfold featurePartDeclared
  cases hrule : child.rule with
  | some rule =>
      rw [hrule] at h
      exact rule_declares h
  | none =>
      rw [hrule] at h
      exact part_declares h

/-- A plan declares what the feature does. -/
theorem feature_declares {feature : Feature} (h : planner.feature feature = .ok unit) :
    List.Forall₂ planner.Declares (featureDeclared planner.rows feature) (unit.headings 0) := by
  obtain ⟨units, hunits, rfl⟩ := feature_eq_ok h
  rw [SuiteUnit.headings, ← isEmpty_of_mapM hunits]
  exact .cons (.suite ..) (forall₂_headingsOfAll hunits fun child unit => featurePart_declares)

end Planner

/-! ## Headings of built modules -/

namespace FeatureFile

variable {file built : FeatureFile}

/-- What only headings show is read off the headings of the plan and the fixture behind them. -/
theorem filterMap_rows_of_build {α : Type} {show? : Row → Option α}
    (hshow : ∀ row, row.isHeading = false → show? row = none) (h : file.build = .ok built) :
    ∃ keywords uri root, file.plan = .ok (keywords, uri, root) ∧
      (readRows built.lines).filterMap show? = (root.headings 0).filterMap (show? ·.row) ++
        (readRows (Layout.tagsFixture []).tail).filterMap show? := by
  obtain ⟨keywords, uri, root, hplan, _, _, hlines⟩ := text_of_build h
  have hnone {starts : List Char} {lines : List String}
      (hlines : ∀ line ∈ lines, Layout.StartsIn starts line) (hc : 'c' ∉ starts)
      (hd : 'd' ∉ starts) : (readRows lines).filterMap show? = [] :=
    List.filterMap_eq_nil_iff.mpr fun row hrow =>
      hshow row (Layout.not_isHeading_of_startsIn hlines hc hd row hrow)
  have hheader := hnone (Layout.startsIn_header uri (imports file.settings built.runnerModules))
    (by decide) (by decide)
  have hroot : (readRows root.lines).filterMap show? =
      (root.headings 0).filterMap (show? ·.row) := by
    rw [filterMap_readHeadings hshow, root.readHeadings_lines [] [] (isCoded_of_plan hplan)]
  obtain ⟨table, hfixture, htable⟩ := Layout.tagsFixture_eq built.tags.entries
  have hbehind : (readRows ("" :: table)).filterMap show? = [] :=
    hnone (List.forall_mem_cons.mpr ⟨by decide, htable⟩) (by decide) (by decide)
  refine ⟨keywords, uri, root, hplan, ?_⟩
  rw [hlines, hfixture, ← List.cons_append, readRows_append, readRows_append, readRows_append,
    List.filterMap_append, List.filterMap_append, List.filterMap_append, hheader, hroot, hbehind]
  rfl

/-- A module holds, between what is written in front of and behind all suites, a class or a method
for everything that the document declares, in the same order and at the same levels, and nothing
else: every method with the lines of its steps, every class without children with one line. -/
theorem headings_of_build (h : file.build = .ok built) :
    ∃ keywords uri root feature, file.plan = .ok (keywords, uri, root) ∧
      file.document.feature = some feature ∧ ListsRows file.rows ∧
      built.lines = Layout.header uri (imports file.settings built.runnerModules) ++ root.lines ++
        "" :: Layout.tagsFixture built.tags.entries ∧
      ∃ headings, readHeadings (readRows root.lines) = ([], headings) ∧
        List.Forall₂ (file.planner keywords uri).Declares (featureDeclared file.rows feature)
          headings := by
  obtain ⟨keywords, uri, root, hplan, _, _, hlines⟩ := text_of_build h
  obtain ⟨feature, hfeature, hroot⟩ := plan_eq_ok hplan
  exact ⟨keywords, uri, root, feature, hplan, hfeature, expandOutline_listsRows _ _, hlines,
    root.headings 0, root.readHeadings_lines [] [] (isCoded_of_plan hplan),
    Planner.feature_declares hroot⟩

/-- A background without steps, an outline with a row, and a rule without children. -/
def nestedText : String :=
  "Feature: F\n  Background:\n  Scenario Outline: O\n    Given <n>\n    Examples:\n" ++
    "      | n |\n      | 1 |\n  Rule: R\n"

def nestedHeadings : List Heading :=
  [⟨.startingAt 0 "class Test_f_L1:", []⟩,
    ⟨.startingAt 1 "def before_each_L2(self):", [.startingAt 2 "pass"]⟩,
    ⟨.startingAt 1 "class Test_o_L3:", []⟩,
    ⟨.startingAt 2 "def test_example_1_L7(self, Given):",
      [.startingAt 3 "pytest.fail(\"Missing step: Given 1\")"]⟩,
    ⟨.startingAt 1 "class Test_r_L8:", [.startingAt 2 "pass"]⟩]

theorem headings_of_nested :
    ∃ file built root feature, load nestedText "f.feature" {} = .ok file ∧
      file.build = .ok built ∧ file.document.feature = some feature ∧
      readHeadings (readRows root.lines) = ([], nestedHeadings) ∧
      ∃ keywords uri, file.plan = .ok (keywords, uri, root) ∧
        List.Forall₂ (file.planner keywords uri).Declares (featureDeclared file.rows feature)
          nestedHeadings := by
  have hcompile : (compile nestedText "f.feature" {}).toOption.any (fun (_, _, root) =>
      decide (readHeadings (readRows root.lines) = ([], nestedHeadings))) = true := by
    decide +kernel
  obtain ⟨⟨file, built, root⟩, hcompile, hcheck⟩ := exists_ok_of_any hcompile
  obtain ⟨hload, hbuild, keywords, uri, hplan⟩ := compile_eq_ok hcompile
  obtain ⟨_, _, _, feature, hplan', hfeature, _, _, headings, hread, hdeclared⟩ :=
    headings_of_build hbuild
  rw [hplan] at hplan'
  cases hplan'
  have hheadings := of_decide_eq_true hcheck
  rw [hheadings] at hread
  cases hread
  exact ⟨file, built, root, feature, hload, hbuild, hfeature, hheadings, keywords, uri, hplan,
    hdeclared⟩

end FeatureFile

end FeatureSuite

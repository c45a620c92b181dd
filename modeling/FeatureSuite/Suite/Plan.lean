import FeatureSuite.Config.Settings
import FeatureSuite.Failure
import FeatureSuite.Step.Registry
import FeatureSuite.Suite.Filling
import FeatureSuite.Suite.Keyword
import FeatureSuite.Suite.Outline

/-!
# The plan of a module

The tree of the units that are generated for a document, with every step resolved. Features, rules
and outlines become suites; backgrounds become hooks; scenarios and the rows of outlines become
tests. Everything else about a module is read off its plan.
-/

namespace FeatureSuite

open Gherkin (Background Document Feature FeatureChild Pickle PickleStep Rule RuleChild Scenario
  Step Tag)

/-- A step as one test or hook runs it. -/
structure Occurrence where
  step : Step
  pickleStep : PickleStep
  keyword : Keyword
  role : Role
  /-- The handler that accepts the step. -/
  found : Option StepMatch

namespace Occurrence

/-- The fixtures that are passed to the handler. -/
def fixtures (occurrence : Occurrence) : List String :=
  match occurrence.found with
  | none => []
  | some found => found.binding.fixtureNames

/-- The module that the handler is called through, if it has one. -/
def runner? (occurrence : Occurrence) : Option String :=
  (occurrence.found.bind (·.binding.runner)).filter (· ≠ "")

/-- The step, ready to be written if its handler is no method of a page object. -/
def prepared (occurrence : Occurrence) : PreparedStep :=
  let keyword := occurrence.keyword.label
  let text := occurrence.pickleStep.text
  let argument := occurrence.pickleStep.argument
  let line := occurrence.step.location.line
  match occurrence.found with
  | none => { keyword, text, argument, line, code := some (Layout.missingStep keyword text) }
  | some found =>
      match found.binding.page with
      | some page => { keyword, text, argument, line, page := some page }
      | none =>
          { keyword, text, argument, line
            code := some (Layout.step keyword text argument occurrence.fixtures) }

end Occurrence

/-- The steps of a test or a hook: the fixtures it takes and the lines it runs. -/
structure Body where
  occurrences : List Occurrence
  fixtures : List String
  lines : List String

inductive SuiteUnit where
  | hook (line : Int) (body : Body)
  /-- A test with its key and the tags that it has and inherits. -/
  | test (title : String) (line : Int) (flags : Flags) (key : String) (tags : List String)
      (body : Body)
  | suite (title : String) (line : Int) (flags : Flags) (units : List SuiteUnit)

structure Planner where
  uri : String
  document : Document
  pickleSteps : List PickleStep
  registry : Registry
  keywords : KeywordTable
  titleFormat : String

def documentResult {α : Type} : Except DocumentFault α → Except Failure α
  | .ok a => .ok a
  | .error fault => .error (.document fault)

def conversionResult {α : Type} : Except ConversionFault α → Except Failure α
  | .ok a => .ok a
  | .error fault => .error (.conversion fault)

namespace Planner

/-- The first step of the pickles that stems from a step and, if one is given, a row. -/
def pickleStep? (planner : Planner) (step : Step) (row : Option String) : Option PickleStep :=
  planner.pickleSteps.find? fun pickleStep =>
    pickleStep.astNodeIds.contains step.id && row.all pickleStep.astNodeIds.contains

/-- A step as a test of some tags runs it. `previous` is the role of the step in front. -/
def occurrence (planner : Planner) (tags : List String) (row : Option String)
    (previous : Option Role) (step : Step) : Except Failure Occurrence := do
  match planner.pickleStep? step row with
  | none => throw (.document (.noPickleStep step.text step.id))
  | some pickleStep =>
      let role ← documentResult (planner.keywords.classify step.keyword previous)
      let keyword ← documentResult (planner.keywords.canonical step.keyword)
      let found ← conversionResult (planner.registry.find pickleStep.text (some role) tags)
      return { step, pickleStep, keyword, role, found }

/-- Steps as a test runs them, one after the other. -/
def occurrences (planner : Planner) (tags : List String) (row : Option String) :
    Option Role → List Step → Except Failure (List Occurrence)
  | _, [] => return []
  | previous, step :: rest => do
      let occurrence ← planner.occurrence tags row previous step
      return occurrence :: (← planner.occurrences tags row (some occurrence.role) rest)

/-- The fixtures that steps ask for before holes are filled: keywords and handlers step by step,
then those that tags choose. -/
def bodyFixtures (occurrences : List Occurrence) (tags : List String) : FixtureSet :=
  let asked := occurrences.flatMap fun occurrence =>
    occurrence.keyword.label :: occurrence.fixtures
  FixtureSet.ofList (asked ++ tagFixtures tags)

/-- The body of a test or a hook. -/
def body (planner : Planner) (steps : List Step) (tags : List String) (row : Option String) :
    Except Failure Body := do
  let occurrences ← planner.occurrences tags row none steps
  let (lines, fixtures) ← documentResult <|
    PreparedStep.fill (occurrences.map (·.prepared)) (bodyFixtures occurrences tags) tags
      planner.registry.pages planner.uri
  return { occurrences, fixtures := fixtures.names, lines }

/-- Refuses tags that choose what cannot be a parameter. -/
def checkTags (planner : Planner) (tags : List Tag) : Except Failure Unit :=
  documentResult (checkFixtureTags planner.uri tags)

def background (planner : Planner) (around : List Ancestor) (background : Background) :
    Except Failure SuiteUnit := do
  let body ← planner.body background.steps (visibleTags around []) none
  return .hook background.location.line body

def test (planner : Planner) (around : List Ancestor) (scenario : Scenario) :
    Except Failure SuiteUnit := do
  planner.checkTags scenario.tags
  let tags := visibleTags around (tagNames scenario.tags)
  let body ← planner.body scenario.steps tags none
  return .test scenario.name scenario.location.line (.ofTags scenario.tags)
    (testKey around scenario.name) tags body

def row (planner : Planner) (around : List Ancestor) (outline : Scenario) (entry : ExampleRow) :
    Except Failure SuiteUnit := do
  let tags := visibleTags around (tagNames entry.block.tags)
  let body ← planner.body outline.steps tags (some entry.row.id)
  return .test entry.title entry.row.location.line (.ofTags entry.block.tags)
    (testKey around entry.title) tags body

/-- The title and the own tags of a scenario, as its rows see them. -/
def scenarioAncestor (scenario : Scenario) : Ancestor := ⟨scenario.name, tagNames scenario.tags⟩

def outline (planner : Planner) (around : List Ancestor) (outline : Scenario) :
    Except Failure SuiteUnit := do
  planner.checkTags outline.tags
  outline.examples.forM fun block => planner.checkTags block.tags
  let around := around ++ [scenarioAncestor outline]
  let rows := expandOutline planner.document outline planner.titleFormat
  let units ← rows.mapM (planner.row around outline)
  return .suite outline.name outline.location.line (.ofTags outline.tags) units

def scenario (planner : Planner) (around : List Ancestor) (scenario : Scenario) :
    Except Failure SuiteUnit :=
  if scenario.isOutline then planner.outline around scenario else planner.test around scenario

def part (planner : Planner) (around : List Ancestor) (inRule : Bool)
    (background : Option Background) (scenario : Option Scenario) : Except Failure SuiteUnit :=
  match background, scenario with
  | some background, _ => planner.background around background
  | none, some scenario => planner.scenario around scenario
  | none, none => throw (.document (.emptyChild planner.uri inRule))

def rulePart (planner : Planner) (around : List Ancestor) (child : RuleChild) :
    Except Failure SuiteUnit :=
  planner.part around true child.background child.scenario

def rule (planner : Planner) (around : List Ancestor) (rule : Rule) : Except Failure SuiteUnit := do
  planner.checkTags rule.tags
  let around := around ++ [⟨rule.name, tagNames rule.tags⟩]
  let units ← rule.children.mapM (planner.rulePart around)
  return .suite rule.name rule.location.line (.ofTags rule.tags) units

def featurePart (planner : Planner) (around : List Ancestor) (child : FeatureChild) :
    Except Failure SuiteUnit :=
  match child.rule with
  | some rule => planner.rule around rule
  | none => planner.part around false child.background child.scenario

def feature (planner : Planner) (feature : Feature) : Except Failure SuiteUnit := do
  planner.checkTags feature.tags
  let around := [⟨feature.name, tagNames feature.tags⟩]
  let units ← feature.children.mapM (planner.featurePart around)
  return .suite feature.name feature.location.line (.ofTags feature.tags) units

end Planner

namespace SuiteUnit

mutual

def lines : SuiteUnit → List String
  | hook line body => Layout.hook line body.fixtures body.lines
  | test title line flags _ _ body => Layout.test title line body.fixtures body.lines flags
  | suite title line flags units => Layout.suite title line (linesOfAll units) flags

def linesOfAll : List SuiteUnit → List String
  | [] => []
  | unit :: rest => unit.lines ++ linesOfAll rest

end

mutual

/-- The steps of a unit, in the order of the module. -/
def occurrences : SuiteUnit → List Occurrence
  | hook _ body => body.occurrences
  | test _ _ _ _ _ body => body.occurrences
  | suite _ _ _ units => occurrencesOfAll units

def occurrencesOfAll : List SuiteUnit → List Occurrence
  | [] => []
  | unit :: rest => unit.occurrences ++ occurrencesOfAll rest

end

mutual

def taggedTests : SuiteUnit → List (String × List String)
  | hook .. => []
  | test _ _ _ key tags _ => [(key, tags)]
  | suite _ _ _ units => taggedTestsOfAll units

def taggedTestsOfAll : List SuiteUnit → List (String × List String)
  | [] => []
  | unit :: rest => unit.taggedTests ++ taggedTestsOfAll rest

end

end SuiteUnit

end FeatureSuite

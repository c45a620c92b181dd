import FeatureSuite.Suite.FeatureFile

/-!
# Building in place

A feature file is built by a walk over its document that changes the file as it goes on: tests are
entered with their tags, and it is noted which steps have no handler and which modules handlers are
called through. What is changed stays when the walk breaks off.
-/

namespace FeatureSuite

open Gherkin (Background Feature FeatureChild Rule RuleChild Scenario Step Tag)

abbrev Building := ExceptT Failure (StateM FeatureFile)

namespace FeatureFile

/-- Forgets what came of a build in front. -/
def reset (file : FeatureFile) : FeatureFile :=
  { file with tags := {}, runnerModules := [], undefined := [] }

/-- Enters a test with its tags. -/
def enterTags (key : String) (tags : List String) (file : FeatureFile) : FeatureFile :=
  { file with tags := file.tags.enter key tags }

/-- Takes note of a step: that it has no handler, or of the module that its handler is called
through. -/
def note (uri : String) (occurrence : Occurrence) (file : FeatureFile) : FeatureFile :=
  match occurrence.found with
  | none =>
      let undefined : UndefinedStep :=
        { role := occurrence.role, step := occurrence.step,
          pickleStep := occurrence.pickleStep, uri }
      { file with undefined := file.undefined ++ [undefined] }
  | some _ =>
      match occurrence.runner? with
      | some runner =>
          if file.runnerModules.contains runner then file
          else { file with runnerModules := file.runnerModules ++ [runner] }
      | none => file

end FeatureFile

namespace Building

def ofResult {α : Type} : Except Failure α → Building α
  | .ok a => return a
  | .error failure => throw failure

variable (planner : Planner)

def occurrences (tags : List String) (row : Option String) :
    Option Role → List Step → Building (List Occurrence)
  | _, [] => return []
  | previous, step :: rest => do
      let occurrence ← ofResult (planner.occurrence tags row previous step)
      modify (·.note planner.uri occurrence)
      return occurrence :: (← occurrences tags row (some occurrence.role) rest)

def body (steps : List Step) (tags : List String) (row : Option String) : Building Body := do
  let occurrences ← occurrences planner tags row none steps
  let (lines, fixtures) ← ofResult <| documentResult <|
    PreparedStep.fill (occurrences.map (·.prepared)) (Planner.bodyFixtures occurrences tags) tags
      planner.registry.pages planner.uri
  return { occurrences, fixtures := fixtures.names, lines }

def checkTags (tags : List Tag) : Building Unit := ofResult (planner.checkTags tags)

def background (around : List Ancestor) (background : Background) : Building SuiteUnit := do
  let body ← body planner background.steps (visibleTags around []) none
  return .hook background.location.line body

def test (around : List Ancestor) (scenario : Scenario) : Building SuiteUnit := do
  checkTags planner scenario.tags
  let tags := visibleTags around (tagNames scenario.tags)
  modify (·.enterTags (testKey around scenario.name) tags)
  let body ← body planner scenario.steps tags none
  return .test scenario.name scenario.location.line (.ofTags scenario.tags)
    (testKey around scenario.name) tags body

def row (around : List Ancestor) (outline : Scenario) (entry : ExampleRow) :
    Building SuiteUnit := do
  let tags := visibleTags around (tagNames entry.block.tags)
  modify (·.enterTags (testKey around entry.title) tags)
  let body ← body planner outline.steps tags (some entry.row.id)
  return .test entry.title entry.row.location.line (.ofTags entry.block.tags)
    (testKey around entry.title) tags body

def outline (around : List Ancestor) (outline : Scenario) : Building SuiteUnit := do
  checkTags planner outline.tags
  outline.examples.forM fun block => checkTags planner block.tags
  let around := around ++ [Planner.scenarioAncestor outline]
  let rows := expandOutline planner.document outline planner.titleFormat
  let units ← rows.mapM (row planner around outline)
  return .suite outline.name outline.location.line (.ofTags outline.tags) units

def scenario (around : List Ancestor) (scenario : Scenario) : Building SuiteUnit :=
  if scenario.isOutline then outline planner around scenario else test planner around scenario

def part (around : List Ancestor) (inRule : Bool) (background? : Option Background)
    (scenario? : Option Scenario) : Building SuiteUnit :=
  match background?, scenario? with
  | some given, _ => background planner around given
  | none, some given => scenario planner around given
  | none, none => throw (.document (.emptyChild planner.uri inRule))

def rulePart (around : List Ancestor) (child : RuleChild) : Building SuiteUnit :=
  part planner around true child.background child.scenario

def rule (around : List Ancestor) (rule : Rule) : Building SuiteUnit := do
  checkTags planner rule.tags
  let around := around ++ [⟨rule.name, tagNames rule.tags⟩]
  let units ← rule.children.mapM (rulePart planner around)
  return .suite rule.name rule.location.line (.ofTags rule.tags) units

def featurePart (around : List Ancestor) (child : FeatureChild) : Building SuiteUnit :=
  match child.rule with
  | some given => rule planner around given
  | none => part planner around false child.background child.scenario

def feature (feature : Feature) : Building SuiteUnit := do
  checkTags planner feature.tags
  let around := [⟨feature.name, tagNames feature.tags⟩]
  let units ← feature.children.mapM (featurePart planner around)
  return .suite feature.name feature.location.line (.ofTags feature.tags) units

/-- Builds the module of the file at hand. -/
def build : Building Unit := do
  let file ← get
  match file.document.feature with
  | none => throw (.document (.noFeature (← ofResult (documentResult file.sourceFile))))
  | some root => do
      let keywords ← ofResult (documentResult (KeywordTable.find file.language))
      modify fun file => { file.reset with keywords := some keywords }
      let uri ← ofResult (documentResult file.sourceFile)
      let planner : Planner :=
        { uri, document := file.document, pickleSteps := file.pickles.flatMap (·.steps)
          registry := file.registry, keywords, titleFormat := file.settings.examplesTitleFormat }
      let root ← feature planner root
      modify fun file =>
        { file with
          lines := Layout.header uri (FeatureFile.imports file.settings file.runnerModules) ++
            root.lines ++ "" :: Layout.tagsFixture file.tags.entries }

end Building

namespace FeatureFile

/-- What comes of a call that builds a file in place, and the file behind it. -/
def buildInPlace (file : FeatureFile) : Except Failure Unit × FeatureFile :=
  Building.build.run.run file

/-- What comes of calls one after the other, and the file behind each of them. -/
def buildTimes : Nat → FeatureFile → List (Except Failure Unit × FeatureFile)
  | 0, _ => []
  | calls + 1, file =>
      let (outcome, file) := file.buildInPlace
      (outcome, file) :: buildTimes calls file

end FeatureFile

end FeatureSuite

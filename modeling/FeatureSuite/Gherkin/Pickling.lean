import FeatureSuite.Gherkin.Dialect.Basic
import FeatureSuite.Gherkin.Numbering
import FeatureSuite.Gherkin.Pickle
import FeatureSuite.Regex.Matcher
import FeatureSuite.Regex.Parser

/-!
# Turning a document into pickles

A scenario becomes one pickle and an outline one for every row below a header. The steps of the
backgrounds come first, unless the scenario has no steps of its own. In an outline the values of the
row are filled into everything but the background steps: a column name between angle brackets is
searched as a regular expression.
-/

namespace FeatureSuite.Gherkin

open Regex (BadPattern)

/-- What the tests of a scenario take over from the units around it. -/
structure PickleScope where
  uri : String
  language : String
  tags : List Tag
  background : List Step

/-- One column of a row: what is searched, and what is put in its place. -/
structure Filling where
  pattern : Regex
  value : String

/-- Fills the values of a row into a text, one column after the other. -/
def fillIn (fillings : List Filling) (text : String) : String :=
  fillings.foldl (fun text filling => filling.pattern.replaceAll filling.value text) text

/-- The fillings of a row. A column name may be no regular expression. -/
def rowFillings : List TableCell → List TableCell → Except BadPattern (List Filling)
  | name :: names, cell :: cells => do
      let compiled ← Regex.compile s!"<{name.value}>" {}
      return ⟨compiled.node, cell.value⟩ :: (← rowFillings names cells)
  | _, _ => return []

/-- What a step is given besides its text, with a row filled in. -/
def Step.argument (step : Step) (fillings : List Filling) : Option PickleStepArgument :=
  let docString := step.docString.map fun doc =>
    { content := fillIn fillings doc.content, mediaType := doc.mediaType.map (fillIn fillings) }
  let dataTable := step.dataTable.map fun table =>
    { rows := table.rows.map fun row =>
        { cells := row.cells.map fun cell => { value := fillIn fillings cell.value } } }
  if docString.isNone && dataTable.isNone then none else some { docString, dataTable }

/-- The type of a step in a test: a conjunction has the type of the step in front of it. -/
def Step.typeAfter (step : Step) (previous : Option String) : Option String :=
  if step.keywordType = some StepType.conjunction.label then previous else step.keywordType

/-- A step of a test, not numbered yet. -/
def Step.pickled (step : Step) (type : Option String) (fillings : List Filling)
    (rows : List String) : PickleStep :=
  { id := "", text := fillIn fillings step.text, type, astNodeIds := step.id :: rows,
    argument := step.argument fillings }

/-- The steps of a test: each with the values and the rows that go with it. -/
def pickledSteps : Option String → List (Step × List Filling × List String) → List PickleStep
  | _, [] => []
  | previous, (step, fillings, rows) :: rest =>
      let type := step.typeAfter previous
      step.pickled type fillings rows :: pickledSteps type rest

/-- The steps of a scenario behind those of the backgrounds; none if the scenario has none. -/
def PickleScope.steps (scope : PickleScope) (start : Option String) (steps : List Step)
    (fillings : List Filling) (rows : List String) : List PickleStep :=
  if steps.isEmpty then []
  else
    pickledSteps start <|
      scope.background.map (·, [], []) ++ steps.map (·, fillings, rows)

def pickledTags (tags : List Tag) : List PickleTag :=
  tags.map fun tag => { name := tag.name, astNodeId := tag.id }

/-- The test of a scenario without examples. -/
def PickleScope.scenario (scope : PickleScope) (scenario : Scenario) : Pickle :=
  { id := "", uri := scope.uri, name := scenario.name, language := scope.language
    steps := scope.steps (some StepType.unknown.label) scenario.steps [] []
    tags := pickledTags (scope.tags ++ scenario.tags)
    astNodeIds := [scenario.id] }

def PickleScope.row (scope : PickleScope) (outline : Scenario) (block : Examples)
    (header row : TableRow) : Except BadPattern Pickle := do
  let fillings ← rowFillings header.cells row.cells
  return {
    id := "", uri := scope.uri, name := fillIn fillings outline.name, language := scope.language
    steps := scope.steps none outline.steps fillings [row.id]
    tags := pickledTags (scope.tags ++ outline.tags ++ block.tags)
    astNodeIds := [outline.id, row.id] }

/-- The tests of a block of examples; none without a header. -/
def PickleScope.examples (scope : PickleScope) (outline : Scenario) (block : Examples) :
    Except BadPattern (List Pickle) :=
  match block.tableHeader with
  | none => return []
  | some header => block.tableBody.mapM (scope.row outline block header)

def PickleScope.tests (scope : PickleScope) (scenario : Scenario) :
    Except BadPattern (List Pickle) :=
  if scenario.isOutline then
    return (← scenario.examples.mapM (scope.examples scenario)).flatten
  else return [scope.scenario scenario]

def PickleScope.after (scope : PickleScope) (background : Option Background) : PickleScope :=
  match background with
  | none => scope
  | some background => { scope with background := scope.background ++ background.steps }

def PickleScope.ruleParts : PickleScope → List RuleChild → Except BadPattern (List Pickle)
  | _, [] => return []
  | scope, child :: rest => do
      let scope := scope.after child.background
      let tests ← match child.scenario with
        | none => pure []
        | some scenario => scope.tests scenario
      return tests ++ (← scope.ruleParts rest)

/-- The tests of a rule. Its backgrounds do not reach behind it. -/
def PickleScope.rule (scope : PickleScope) (rule : Rule) : Except BadPattern (List Pickle) :=
  { scope with tags := scope.tags ++ rule.tags }.ruleParts rule.children

def PickleScope.parts : PickleScope → List FeatureChild → Except BadPattern (List Pickle)
  | _, [] => return []
  | scope, child :: rest => do
      let scope := scope.after child.background
      let inRule ← match child.rule with
        | none => pure []
        | some rule => scope.rule rule
      let tests ← match child.scenario with
        | none => pure []
        | some scenario => scope.tests scenario
      return inRule ++ tests ++ (← scope.parts rest)

/-- Numbers a test behind its steps. -/
def Pickle.number (pickle : Pickle) : Numbered Pickle := do
  let steps ← pickle.steps.mapM fun step => do return { step with id := ← nextId }
  return { pickle with steps, id := ← nextId }

/-- All tests of a document in document order, numbered from 0. -/
def Document.pickles (document : Document) : Except BadPattern (List Pickle) :=
  match document.feature with
  | none => return []
  | some feature => do
      let scope : PickleScope :=
        { uri := document.uri.getD "", language := feature.language, tags := feature.tags
          background := [] }
      let tests ← scope.parts feature.children
      return ((tests.mapM Pickle.number).run 0).1

end FeatureSuite.Gherkin

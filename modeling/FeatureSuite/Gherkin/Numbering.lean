import FeatureSuite.Gherkin.Document

/-!
# Numbering the nodes of a document

Nodes are numbered from 0 in decimal, each after the nodes inside it: the rows of a step before the
step, in a block of examples the rows before the tags, the tags of a unit before the unit. A feature
has no number, its tags come last.
-/

namespace FeatureSuite.Gherkin

/-- A computation that draws numbers. -/
abbrev Numbered (α : Type) := StateM Nat α

def nextId : Numbered String := modifyGet fun n => (toString n, n + 1)

def numberTags (tags : List Tag) : Numbered (List Tag) :=
  tags.mapM fun tag => do return { tag with id := ← nextId }

def numberRows (rows : List TableRow) : Numbered (List TableRow) :=
  rows.mapM fun row => do return { row with id := ← nextId }

def numberTable : Option DataTable → Numbered (Option DataTable)
  | none => return none
  | some table => do return some { table with rows := ← numberRows table.rows }

def Step.number (step : Step) : Numbered Step := do
  let dataTable ← numberTable step.dataTable
  return { step with dataTable, id := ← nextId }

def Examples.number (examples : Examples) : Numbered Examples := do
  let header ← numberRows examples.tableHeader.toList
  let tableBody ← numberRows examples.tableBody
  let tags ← numberTags examples.tags
  return { examples with tableHeader := header.head?, tableBody, tags, id := ← nextId }

def Background.number (background : Background) : Numbered Background := do
  let steps ← background.steps.mapM Step.number
  return { background with steps, id := ← nextId }

def Scenario.number (scenario : Scenario) : Numbered Scenario := do
  let steps ← scenario.steps.mapM Step.number
  let examples ← scenario.examples.mapM Examples.number
  let tags ← numberTags scenario.tags
  return { scenario with steps, examples, tags, id := ← nextId }

/-- Numbers a part that may be absent. -/
def numberOption {α : Type} (number : α → Numbered α) : Option α → Numbered (Option α)
  | none => return none
  | some a => do return some (← number a)

def RuleChild.number (child : RuleChild) : Numbered RuleChild := do
  let background ← numberOption Background.number child.background
  return { background, scenario := ← numberOption Scenario.number child.scenario }

def Rule.number (rule : Rule) : Numbered Rule := do
  let children ← rule.children.mapM RuleChild.number
  let tags ← numberTags rule.tags
  return { rule with children, tags, id := ← nextId }

def FeatureChild.number (child : FeatureChild) : Numbered FeatureChild := do
  let background ← numberOption Background.number child.background
  let scenario ← numberOption Scenario.number child.scenario
  return { background, scenario, rule := ← numberOption Rule.number child.rule }

def Feature.number (feature : Feature) : Numbered Feature := do
  let children ← feature.children.mapM FeatureChild.number
  return { feature with children, tags := ← numberTags feature.tags }

def Feature.numbered (feature : Feature) : Feature := (feature.number.run 0).1

end FeatureSuite.Gherkin

import FeatureSuite.Gherkin.Document
import FeatureSuite.Gherkin.Pickle
import FeatureSuite.Json.Shape

/-!
# Documents and pickles on the wire

For every node a reader from JSON and the dump that the reader takes back. A dump names fields in
capitals style and leaves out what is absent.
-/

namespace FeatureSuite.Gherkin

open Json (Reader Fields readModel readText readInt ofFields)

private def dumpList {α : Type} (dump : α → Json) (items : List α) : Json := .array (items.map dump)

/-! ## Documents -/

def Location.read : Reader Location := readModel fun fields =>
  Location.mk <$> fields.required "line" readInt <*> fields.optional "column" readInt

def Location.dump (location : Location) : Json :=
  ofFields [("line", some (.int location.line)), ("column", location.column.map .int)]

def Tag.read : Reader Tag := readModel fun fields =>
  Tag.mk <$> fields.required "name" readText <*> fields.defaulted "id" "" readText
    <*> fields.optional "location" Location.read

def Tag.dump (tag : Tag) : Json :=
  ofFields [("name", some (.string tag.name)), ("id", some (.string tag.id)),
    ("location", tag.location.map Location.dump)]

def Comment.read : Reader Comment := readModel fun fields =>
  Comment.mk <$> fields.required "location" Location.read <*> fields.required "text" readText

def Comment.dump (comment : Comment) : Json :=
  ofFields [("location", some comment.location.dump), ("text", some (.string comment.text))]

def TableCell.read : Reader TableCell := readModel fun fields =>
  TableCell.mk <$> fields.required "value" readText <*> fields.optional "location" Location.read

def TableCell.dump (cell : TableCell) : Json :=
  ofFields [("value", some (.string cell.value)), ("location", cell.location.map Location.dump)]

def TableRow.read : Reader TableRow := readModel fun fields =>
  TableRow.mk <$> fields.required "id" readText <*> fields.required "location" Location.read
    <*> fields.list "cells" TableCell.read

def TableRow.dump (row : TableRow) : Json :=
  ofFields [("id", some (.string row.id)), ("location", some row.location.dump),
    ("cells", some (dumpList TableCell.dump row.cells))]

def DataTable.read : Reader DataTable := readModel fun fields =>
  DataTable.mk <$> fields.optional "location" Location.read <*> fields.list "rows" TableRow.read

/-- Writes the table of a step. -/
def DataTable.dump (table : DataTable) : Json :=
  ofFields [("location", table.location.map Location.dump),
    ("rows", some (dumpList TableRow.dump table.rows))]

/-- Reads the text block of a step. -/
def DocString.read : Reader DocString := readModel fun fields =>
  DocString.mk <$> fields.required "content" readText <*> fields.optional "location" Location.read
    <*> fields.defaulted "delimiter" "\"\"\"" readText <*> fields.optional "mediaType" readText

/-- Writes the text block of a step. -/
def DocString.dump (doc : DocString) : Json :=
  ofFields [("content", some (.string doc.content)), ("location", doc.location.map Location.dump),
    ("delimiter", some (.string doc.delimiter)), ("mediaType", doc.mediaType.map .string)]

def Step.read : Reader Step := readModel fun fields =>
  Step.mk <$> fields.required "id" readText <*> fields.required "location" Location.read
    <*> fields.required "keyword" readText <*> fields.required "text" readText
    <*> fields.optional "keywordType" readText <*> fields.optional "docString" DocString.read
    <*> fields.optional "dataTable" DataTable.read

def Step.dump (step : Step) : Json :=
  ofFields [("id", some (.string step.id)), ("location", some step.location.dump),
    ("keyword", some (.string step.keyword)), ("text", some (.string step.text)),
    ("keywordType", step.keywordType.map .string), ("docString", step.docString.map DocString.dump),
    ("dataTable", step.dataTable.map DataTable.dump)]

def Examples.read : Reader Examples := readModel fun fields =>
  Examples.mk <$> fields.required "id" readText <*> fields.required "location" Location.read
    <*> fields.defaulted "keyword" "Examples" readText <*> fields.defaulted "name" "" readText
    <*> fields.defaulted "description" "" readText <*> fields.list "tags" Tag.read
    <*> fields.optional "tableHeader" TableRow.read <*> fields.list "tableBody" TableRow.read

/-- Writes a block of examples. -/
def Examples.dump (examples : Examples) : Json :=
  ofFields [("id", some (.string examples.id)), ("location", some examples.location.dump),
    ("keyword", some (.string examples.keyword)), ("name", some (.string examples.name)),
    ("description", some (.string examples.description)),
    ("tags", some (dumpList Tag.dump examples.tags)),
    ("tableHeader", examples.tableHeader.map TableRow.dump),
    ("tableBody", some (dumpList TableRow.dump examples.tableBody))]

def Background.read : Reader Background := readModel fun fields =>
  Background.mk <$> fields.required "id" readText <*> fields.required "location" Location.read
    <*> fields.defaulted "keyword" "Background" readText <*> fields.defaulted "name" "" readText
    <*> fields.defaulted "description" "" readText <*> fields.list "steps" Step.read

def Background.dump (background : Background) : Json :=
  ofFields [("id", some (.string background.id)), ("location", some background.location.dump),
    ("keyword", some (.string background.keyword)), ("name", some (.string background.name)),
    ("description", some (.string background.description)),
    ("steps", some (dumpList Step.dump background.steps))]

def Scenario.read : Reader Scenario := readModel fun fields =>
  Scenario.mk <$> fields.required "id" readText <*> fields.required "location" Location.read
    <*> fields.defaulted "keyword" "Scenario" readText <*> fields.defaulted "name" "" readText
    <*> fields.defaulted "description" "" readText <*> fields.list "tags" Tag.read
    <*> fields.list "steps" Step.read <*> fields.list "examples" Examples.read

def Scenario.dump (scenario : Scenario) : Json :=
  ofFields [("id", some (.string scenario.id)), ("location", some scenario.location.dump),
    ("keyword", some (.string scenario.keyword)), ("name", some (.string scenario.name)),
    ("description", some (.string scenario.description)),
    ("tags", some (dumpList Tag.dump scenario.tags)),
    ("steps", some (dumpList Step.dump scenario.steps)),
    ("examples", some (dumpList Examples.dump scenario.examples))]

def RuleChild.read : Reader RuleChild := readModel fun fields =>
  RuleChild.mk <$> fields.optional "background" Background.read
    <*> fields.optional "scenario" Scenario.read

/-- Writes a part of a rule. -/
def RuleChild.dump (child : RuleChild) : Json :=
  ofFields [("background", child.background.map Background.dump),
    ("scenario", child.scenario.map Scenario.dump)]

def Rule.read : Reader Rule := readModel fun fields =>
  Rule.mk <$> fields.required "id" readText <*> fields.required "location" Location.read
    <*> fields.defaulted "keyword" "Rule" readText <*> fields.defaulted "name" "" readText
    <*> fields.defaulted "description" "" readText <*> fields.list "tags" Tag.read
    <*> fields.list "children" RuleChild.read

def Rule.dump (rule : Rule) : Json :=
  ofFields [("id", some (.string rule.id)), ("location", some rule.location.dump),
    ("keyword", some (.string rule.keyword)), ("name", some (.string rule.name)),
    ("description", some (.string rule.description)), ("tags", some (dumpList Tag.dump rule.tags)),
    ("children", some (dumpList RuleChild.dump rule.children))]

def FeatureChild.read : Reader FeatureChild := readModel fun fields =>
  FeatureChild.mk <$> fields.optional "rule" Rule.read
    <*> fields.optional "background" Background.read <*> fields.optional "scenario" Scenario.read

/-- Writes a part of a feature. -/
def FeatureChild.dump (child : FeatureChild) : Json :=
  ofFields [("rule", child.rule.map Rule.dump),
    ("background", child.background.map Background.dump),
    ("scenario", child.scenario.map Scenario.dump)]

def Feature.read : Reader Feature := readModel fun fields =>
  Feature.mk <$> fields.required "location" Location.read
    <*> fields.defaulted "language" "en" readText <*> fields.defaulted "keyword" "Feature" readText
    <*> fields.defaulted "name" "" readText <*> fields.defaulted "description" "" readText
    <*> fields.list "tags" Tag.read <*> fields.list "children" FeatureChild.read

def Feature.dump (feature : Feature) : Json :=
  ofFields [("location", some feature.location.dump), ("language", some (.string feature.language)),
    ("keyword", some (.string feature.keyword)), ("name", some (.string feature.name)),
    ("description", some (.string feature.description)),
    ("tags", some (dumpList Tag.dump feature.tags)),
    ("children", some (dumpList FeatureChild.dump feature.children))]

def Document.read : Reader Document := readModel fun fields =>
  Document.mk <$> fields.optional "uri" readText <*> fields.optional "feature" Feature.read
    <*> fields.list "comments" Comment.read

def Document.dump (document : Document) : Json :=
  ofFields [("uri", document.uri.map .string), ("feature", document.feature.map Feature.dump),
    ("comments", some (dumpList Comment.dump document.comments))]

/-! ## Pickles -/

/-- Reads a text block handed to a step. -/
def PickleDocString.read : Reader PickleDocString := readModel fun fields =>
  PickleDocString.mk <$> fields.required "content" readText <*> fields.optional "mediaType" readText

/-- Writes a text block handed to a step. -/
def PickleDocString.dump (doc : PickleDocString) : Json :=
  ofFields [("content", some (.string doc.content)), ("mediaType", doc.mediaType.map .string)]

def PickleTableCell.read : Reader PickleTableCell := readModel fun fields =>
  PickleTableCell.mk <$> fields.required "value" readText

/-- Writes a cell handed to a step. -/
def PickleTableCell.dump (cell : PickleTableCell) : Json :=
  ofFields [("value", some (.string cell.value))]

def PickleTableRow.read : Reader PickleTableRow := readModel fun fields =>
  PickleTableRow.mk <$> fields.list "cells" PickleTableCell.read

/-- Writes a row handed to a step. -/
def PickleTableRow.dump (row : PickleTableRow) : Json :=
  ofFields [("cells", some (dumpList PickleTableCell.dump row.cells))]

def PickleTable.read : Reader PickleTable := readModel fun fields =>
  PickleTable.mk <$> fields.list "rows" PickleTableRow.read

/-- Writes a table handed to a step. -/
def PickleTable.dump (table : PickleTable) : Json :=
  ofFields [("rows", some (dumpList PickleTableRow.dump table.rows))]

def PickleStepArgument.read : Reader PickleStepArgument := readModel fun fields =>
  PickleStepArgument.mk <$> fields.optional "docString" PickleDocString.read
    <*> fields.optional "dataTable" PickleTable.read

def PickleStepArgument.dump (argument : PickleStepArgument) : Json :=
  ofFields [("docString", argument.docString.map PickleDocString.dump),
    ("dataTable", argument.dataTable.map PickleTable.dump)]

def PickleStep.read : Reader PickleStep := readModel fun fields =>
  PickleStep.mk <$> fields.required "id" readText <*> fields.required "text" readText
    <*> fields.optional "type" readText <*> fields.list "astNodeIds" readText
    <*> fields.optional "argument" PickleStepArgument.read

/-- Writes a step of a test. -/
def PickleStep.dump (step : PickleStep) : Json :=
  ofFields [("id", some (.string step.id)), ("text", some (.string step.text)),
    ("type", step.type.map .string), ("astNodeIds", some (.ofTexts step.astNodeIds)),
    ("argument", step.argument.map PickleStepArgument.dump)]

def PickleTag.read : Reader PickleTag := readModel fun fields =>
  PickleTag.mk <$> fields.required "name" readText <*> fields.defaulted "astNodeId" "" readText

/-- Writes a tag of a test. -/
def PickleTag.dump (tag : PickleTag) : Json :=
  ofFields [("name", some (.string tag.name)), ("astNodeId", some (.string tag.astNodeId))]

def Pickle.read : Reader Pickle := readModel fun fields =>
  Pickle.mk <$> fields.required "id" readText <*> fields.defaulted "uri" "" readText
    <*> fields.defaulted "name" "" readText <*> fields.defaulted "language" "en" readText
    <*> fields.list "steps" PickleStep.read <*> fields.list "tags" PickleTag.read
    <*> fields.list "astNodeIds" readText

/-- Writes a test. -/
def Pickle.dump (pickle : Pickle) : Json :=
  ofFields [("id", some (.string pickle.id)), ("uri", some (.string pickle.uri)),
    ("name", some (.string pickle.name)), ("language", some (.string pickle.language)),
    ("steps", some (dumpList PickleStep.dump pickle.steps)),
    ("tags", some (dumpList PickleTag.dump pickle.tags)),
    ("astNodeIds", some (.ofTexts pickle.astNodeIds))]

/-! ## By name -/

/-- Reads a value of the named kind of node and dumps it again; absent for an unknown name. -/
def redump? (model : String) (data : Json) : Option (Json.Checked Json) :=
  match model with
  | "Location" => some ((Location.read data).map Location.dump)
  | "Tag" => some ((Tag.read data).map Tag.dump)
  | "Comment" => some ((Comment.read data).map Comment.dump)
  | "TableCell" => some ((TableCell.read data).map TableCell.dump)
  | "TableRow" => some ((TableRow.read data).map TableRow.dump)
  | "DataTable" => some ((DataTable.read data).map DataTable.dump)
  | "DocString" => some ((DocString.read data).map DocString.dump)
  | "Step" => some ((Step.read data).map Step.dump)
  | "Examples" => some ((Examples.read data).map Examples.dump)
  | "Background" => some ((Background.read data).map Background.dump)
  | "Scenario" => some ((Scenario.read data).map Scenario.dump)
  | "RuleChild" => some ((RuleChild.read data).map RuleChild.dump)
  | "Rule" => some ((Rule.read data).map Rule.dump)
  | "FeatureChild" => some ((FeatureChild.read data).map FeatureChild.dump)
  | "Feature" => some ((Feature.read data).map Feature.dump)
  | "GherkinDocument" => some ((Document.read data).map Document.dump)
  | "PickleDocString" => some ((PickleDocString.read data).map PickleDocString.dump)
  | "PickleTableCell" => some ((PickleTableCell.read data).map PickleTableCell.dump)
  | "PickleTableRow" => some ((PickleTableRow.read data).map PickleTableRow.dump)
  | "PickleTable" => some ((PickleTable.read data).map PickleTable.dump)
  | "PickleStepArgument" => some ((PickleStepArgument.read data).map PickleStepArgument.dump)
  | "PickleStep" => some ((PickleStep.read data).map PickleStep.dump)
  | "PickleTag" => some ((PickleTag.read data).map PickleTag.dump)
  | "Pickle" => some ((Pickle.read data).map Pickle.dump)
  | _ => none

end FeatureSuite.Gherkin

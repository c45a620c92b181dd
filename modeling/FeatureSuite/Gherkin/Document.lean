/-!
# Feature documents

The tree of a parsed feature file. Every node that tests refer to has an identifier of its own, and
all nodes know their place in the source.
-/

namespace FeatureSuite.Gherkin

/-- A place in the source, counted from 1. -/
structure Location where
  line : Int
  column : Option Int := none
  deriving DecidableEq, Repr

/-- A tag with its leading sign. -/
structure Tag where
  name : String
  id : String := ""
  location : Option Location := none
  deriving DecidableEq, Repr

/-- A comment line, blanks included. -/
structure Comment where
  location : Location
  text : String
  deriving DecidableEq, Repr

structure TableCell where
  value : String
  location : Option Location := none
  deriving DecidableEq, Repr

structure TableRow where
  id : String
  location : Location
  cells : List TableCell := []
  deriving DecidableEq, Repr

/-- The table below a step. -/
structure DataTable where
  location : Option Location := none
  rows : List TableRow := []
  deriving DecidableEq, Repr

/-- The text block below a step. -/
structure DocString where
  content : String
  location : Option Location := none
  delimiter : String := "\"\"\""
  mediaType : Option String := none
  deriving DecidableEq, Repr

/-- A step as written, its keyword in the language of the document. -/
structure Step where
  id : String
  location : Location
  keyword : String
  text : String
  keywordType : Option String := none
  docString : Option DocString := none
  dataTable : Option DataTable := none
  deriving DecidableEq, Repr

/-- A block of examples of an outline. -/
structure Examples where
  id : String
  location : Location
  keyword : String := "Examples"
  name : String := ""
  description : String := ""
  tags : List Tag := []
  tableHeader : Option TableRow := none
  tableBody : List TableRow := []
  deriving DecidableEq, Repr

/-- The names of the columns; none without a header. -/
def Examples.columnNames (examples : Examples) : List String :=
  match examples.tableHeader with
  | none => []
  | some header => header.cells.map (·.value)

/-- Steps that run before every test of a suite. -/
structure Background where
  id : String
  location : Location
  keyword : String := "Background"
  name : String := ""
  description : String := ""
  steps : List Step := []
  deriving DecidableEq, Repr

/-- A scenario, or an outline if it has examples. -/
structure Scenario where
  id : String
  location : Location
  keyword : String := "Scenario"
  name : String := ""
  description : String := ""
  tags : List Tag := []
  steps : List Step := []
  examples : List Examples := []
  deriving DecidableEq, Repr

/-- Whether a scenario is an outline. The keyword depends on the language, the examples do not. -/
def Scenario.isOutline (scenario : Scenario) : Bool := !scenario.examples.isEmpty

structure RuleChild where
  background : Option Background := none
  scenario : Option Scenario := none
  deriving DecidableEq, Repr

/-- A group of scenarios inside a feature. -/
structure Rule where
  id : String
  location : Location
  keyword : String := "Rule"
  name : String := ""
  description : String := ""
  tags : List Tag := []
  children : List RuleChild := []
  deriving DecidableEq, Repr

structure FeatureChild where
  rule : Option Rule := none
  background : Option Background := none
  scenario : Option Scenario := none
  deriving DecidableEq, Repr

structure Feature where
  location : Location
  language : String := "en"
  keyword : String := "Feature"
  name : String := ""
  description : String := ""
  tags : List Tag := []
  children : List FeatureChild := []
  deriving DecidableEq, Repr

/-- A feature file: at most one feature, and all comments. -/
structure Document where
  uri : Option String := none
  feature : Option Feature := none
  comments : List Comment := []
  deriving DecidableEq, Repr

def Document.commentAt? (document : Document) (line : Int) : Option Comment :=
  document.comments.find? (·.location.line = line)

/-- All scenarios and outlines: those of the feature itself, then those inside its rules. -/
def Feature.scenarios (feature : Feature) : List Scenario :=
  feature.children.filterMap FeatureChild.scenario ++
    (feature.children.filterMap FeatureChild.rule).flatMap fun rule =>
      rule.children.filterMap RuleChild.scenario

end FeatureSuite.Gherkin

/-!
# Pickles

A pickle is one test as the feature file describes it: a scenario or one row of an outline, with the
steps of the backgrounds in front and the values of the row filled in.
-/

namespace FeatureSuite.Gherkin

/-- A text block handed to a step. -/
structure PickleDocString where
  content : String
  mediaType : Option String := none
  deriving DecidableEq, Repr

structure PickleTableCell where
  value : String
  deriving DecidableEq, Repr

structure PickleTableRow where
  cells : List PickleTableCell := []
  deriving DecidableEq, Repr

/-- A table handed to a step. -/
structure PickleTable where
  rows : List PickleTableRow := []
  deriving DecidableEq, Repr

/-- What a step is given besides its text. -/
structure PickleStepArgument where
  docString : Option PickleDocString := none
  dataTable : Option PickleTable := none
  deriving DecidableEq, Repr

/-- A step of a test, with the identifiers of the step and the row that it stems from. -/
structure PickleStep where
  id : String
  text : String
  type : Option String := none
  astNodeIds : List String := []
  argument : Option PickleStepArgument := none
  deriving DecidableEq, Repr

/-- A tag that a test has or inherits. -/
structure PickleTag where
  name : String
  astNodeId : String := ""
  deriving DecidableEq, Repr

/-- One test. -/
structure Pickle where
  id : String
  uri : String := ""
  name : String := ""
  language : String := "en"
  steps : List PickleStep := []
  tags : List PickleTag := []
  astNodeIds : List String := []
  deriving DecidableEq, Repr

end FeatureSuite.Gherkin

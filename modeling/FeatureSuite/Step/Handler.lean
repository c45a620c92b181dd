/-!
# Handlers

The function that runs a step. What a step captures is passed by position, and the fixtures that the
handler asks for are its keyword parameters.
-/

namespace FeatureSuite

/-- How a parameter takes its argument. -/
inductive ParameterKind where
  | positional
  | keywordOnly
  /-- All further arguments, by position or by keyword. -/
  | gathered
  deriving DecidableEq, Repr

/-- A parameter. None is without a name. -/
structure Parameter where
  name : String
  kind : ParameterKind
  named : name ≠ "" := by decide
  deriving DecidableEq, Repr

/-- A handler. Not everything that can be called tells its parameters. -/
structure Handler where
  signature : Option (List Parameter) := none
  /-- The file and the line of the definition; empty if they are not known. -/
  location : String := ""
  deriving DecidableEq, Repr

/-- The fixtures that a handler asks for, in the order of its parameters. -/
def Handler.fixtureNames (handler : Handler) : List String :=
  match handler.signature with
  | none => []
  | some parameters =>
      (parameters.filter (·.kind = .keywordOnly)).map (·.name)

end FeatureSuite

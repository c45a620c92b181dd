import FeatureSuite.Files.Tree
import FeatureSuite.Step.Conversion
import FeatureSuite.Suite.Fault

/-!
# Failures

Why the compilation of a document fails: the document is at fault, or something unexpected happens
to its files, its patterns or the values of its steps.
-/

namespace FeatureSuite

/-- Why compilation fails. -/
inductive Failure where
  | document (fault : DocumentFault)
  | conversion (fault : ConversionFault)
  | pattern (bad : Regex.BadPattern)
  | file (fault : FileFault)
  /-- The words of the language are asked for before the module is built. -/
  | notBuilt
  /-- A module without a place for it is to be saved. -/
  | noOutputPath (uri : String)
  deriving DecidableEq

namespace Failure

/-- The name of the kind of a failure; a fault of the document needs none. -/
def label? : Failure → Option String
  | document _ => none
  | conversion fault => some fault.label
  | pattern bad => some bad.label
  | file fault => some fault.kind.label
  | notBuilt => some "RuntimeError"
  | noOutputPath _ => some "ValueError"

def text : Failure → String
  | document fault => fault.message
  | conversion fault => fault.message
  | pattern bad => bad.message
  | file fault => fault.message
  | notBuilt => "Keyword table is loaded by build()"
  | noOutputPath uri => s!"No output path for {uri}"

/-- A failure as it is reported: the kind stands in front, if it has one. -/
def message (failure : Failure) : String :=
  match failure.label? with
  | none => failure.text
  | some label => s!"{label}: {failure.text}"

end Failure

end FeatureSuite

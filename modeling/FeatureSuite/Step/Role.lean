/-!
# Roles of steps

What a step does in a test. A role is known from the keyword that opened the group of steps.
-/

namespace FeatureSuite

inductive Role where
  | context
  | action
  | outcome
  | unknown
  deriving DecidableEq, Repr

namespace Role

def label : Role → String
  | context => "context"
  | action => "action"
  | outcome => "outcome"
  | unknown => "unknown"

def ofLabel? : String → Option Role
  | "context" => some context
  | "action" => some action
  | "outcome" => some outcome
  | "unknown" => some unknown
  | _ => none

def decorator : Role → String
  | context => "given"
  | action => "when"
  | outcome => "then"
  | unknown => "step"

def ofDecorator? : String → Option Role
  | "given" => some context
  | "when" => some action
  | "then" => some outcome
  | "step" => some unknown
  | _ => none

/-- Whether a handler for a role may run a step of a role; one that is not known fits every other.
-/
def fits (handler : Role) (step : Option Role) : Bool :=
  match step with
  | none | some .unknown => true
  | some role => handler = .unknown || role = handler

end Role

end FeatureSuite

import FeatureSuite.Step.Handler
import FeatureSuite.Step.Role
import FeatureSuite.Step.TagExpression
import FeatureSuite.Step.Template.Compile

/-!
# Step bindings

A binding joins a pattern with the handler that runs the steps of the pattern. A pattern is a
template or a regular expression, and must match the whole text of a step.
-/

namespace FeatureSuite

inductive StepPattern where
  | template (text : String)
  | regex (compiled : Regex.Compiled)
  deriving DecidableEq, Repr

def StepPattern.text : StepPattern → String
  | template text => text
  | regex compiled => compiled.pattern

def StepPattern.shown : StepPattern → String
  | template text => Text.literal text
  | regex compiled => compiled.shown

/-- A pattern that is ready to match. -/
inductive StepMatcher where
  | template (matcher : Template)
  | regex (compiled : Regex.Compiled)

/-- Why a handler cannot be registered. -/
inductive RegistrationFault where
  /-- Registration is over: a step. -/
  | stepTooLate (pattern : StepPattern)
  /-- Registration is over: a page object. -/
  | pageTooLate (className : String)
  | template (fault : Template.TemplateFault)
  /-- The template matches the empty text, where a field captures what stands for no value. -/
  | emptyText (fault : ConversionFault)
  | tags (fault : TagExpression.Fault)
  /-- No order of the classes that a class inherits from. -/
  | inheritance (className : String)
  deriving DecidableEq

/-- Why a handler cannot be registered, in words. -/
def RegistrationFault.message : RegistrationFault → String
  | stepTooLate pattern =>
      s!"Cannot register step {pattern.shown}: the step registry is already built"
  | pageTooLate className =>
      s!"Cannot register page object {className}: the step registry is already built"
  | template fault => fault.message
  | emptyText fault => fault.message
  | tags fault => fault.message
  | inheritance className => s!"Cannot create a consistent method resolution order for {className}"

/-- Makes a pattern ready to match. A template is tried on the empty text. -/
def StepPattern.matcher (pattern : StepPattern) (types : Template.CustomTypes) :
    Except RegistrationFault StepMatcher :=
  match pattern with
  | template text =>
      match Template.compile text types with
      | .error fault => throw (.template fault)
      | .ok compiled =>
          match compiled.match? "" with
          | .ok _ => return .template compiled
          | .error fault => throw (.emptyText fault)
  | regex compiled => return .regex compiled

/-- What a regular expression captures: the named groups if there are any, else all groups. -/
def captureGroups (compiled : Regex.Compiled) (text : String) : Option Template.Captured := do
  let chars := text.toList.toArray
  let found ← compiled.node.matchWhole? chars
  let group (i : Nat) : Value :=
    match found.capture? i with
    | some (first, last) => .text (Regex.slice chars first last)
    | none => .absent
  if compiled.names.isEmpty then
    return { args := (List.range compiled.groups).map fun i => group (i + 1) }
  else return { kwargs := compiled.names.map fun (name, i) => (name, group i) }

/-- What a pattern captures from a whole text; absent if it does not match. -/
def StepMatcher.match? (matcher : StepMatcher) (text : String) :
    Except ConversionFault (Option Template.Captured) :=
  match matcher with
  | .template compiled => compiled.match? text
  | .regex compiled => return captureGroups compiled text

/-- A registered handler. -/
structure Binding where
  role : Role
  pattern : StepPattern
  matcher : StepMatcher
  handler : Handler
  /-- The condition on tags as written; absent if there is none. -/
  tags : Option String := none
  condition : Option TagExpression := none
  /-- The page object that the handler is a method of. -/
  page : Option Nat := none
  /-- The module that provides the keywords the handler is called through. -/
  runner : Option String := none
  /-- The types that the template may name besides the built-in ones. -/
  types : Template.CustomTypes := []

namespace Binding

/-- Whether the handler is a method of a page object. -/
def isPageStep (binding : Binding) : Bool := binding.page.isSome

/-- Whether the handler is called through keywords of its own. -/
def hasRunner (binding : Binding) : Bool := binding.runner.any (· ≠ "")

/-- The fixtures that are passed to the handler. A page object provides its own. -/
def fixtureNames (binding : Binding) : List String :=
  if binding.isPageStep then [] else binding.handler.fixtureNames

/-- Whether the tags of a test meet the condition. -/
def acceptsTags (binding : Binding) (tags : List String) : Bool :=
  binding.condition.all (·.holds tags)

/-- Whether the handler may run a step of a role. -/
def acceptsRole (binding : Binding) (role : Option Role) : Bool := binding.role.fits role

def match? (binding : Binding) (text : String) :
    Except ConversionFault (Option Template.Captured) :=
  binding.matcher.match? text

end Binding

end FeatureSuite

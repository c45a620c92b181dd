import FeatureSuite.Json.Basic
import FeatureSuite.Step.Registry

/-!
# Registration scripts

A script lists what a module registers: handlers, scopes, and page classes. It runs one operation
after the other, and an operation that fails leaves what is registered as it is, but for a page
object whose patterns are refused on the way.
-/

namespace FeatureSuite

inductive PatternSource where
  | template (text : String)
  | regex (text : String) (flags : Regex.Flags)
  deriving DecidableEq, Repr

def PatternSource.read : PatternSource → Except Regex.BadPattern StepPattern
  | template text => .ok (.template text)
  | regex text flags => (Regex.compile text flags).map .regex

structure MarkSource where
  role : Role
  pattern : PatternSource
  tags : Option String := none
  deriving DecidableEq, Repr

structure MethodSource where
  name : String
  handler : Handler := {}
  marks : List MarkSource := []
  deriving DecidableEq, Repr

structure ClassSource where
  name : String
  bases : List String := []
  methods : List MethodSource := []
  deriving DecidableEq, Repr

/-- An operation of a script. Operations on a scope name it; the outermost one has no name. A step
is added without a page object: page objects are handed out by a built registry, which no step is
added to, and those that are registered add their steps with themselves. -/
inductive Operation where
  | add (scope : String) (role : Role) (pattern : PatternSource) (handler : Handler)
      (tags : Option String)
  | openScope (outer name : String) (own : Scope)
  | define (source : ClassSource)
  | definePage (scope : String) (source : ClassSource) (fixture : String) (tags : Option String)
  | register (scope className fixture : String) (tags : Option String)
  | build

/-- Why an operation fails. -/
inductive ScriptFault where
  | registration (fault : RegistrationFault)
  | pattern (bad : Regex.BadPattern)
  | unknownName (name : String)
  deriving DecidableEq

/-- Why an operation fails, in words. -/
def ScriptFault.message : ScriptFault → String
  | registration fault => fault.message
  | pattern bad => bad.message
  | unknownName name => Text.literal name

def ScriptFault.label : ScriptFault → String
  | registration (.stepTooLate _) | registration (.pageTooLate _) => "RegistryFrozenError"
  | registration (.template (.unknownType _)) => "ValueError"
  | registration (.template (.repeatedName ..)) => "RepeatedNameError"
  | registration (.template (.sameGroupName _)) => "KeyError"
  | registration (.template (.badPattern bad)) =>
      if bad.label = "error" then "NotImplementedError" else bad.label
  | registration (.emptyText fault) => fault.label
  | registration (.tags _) => "TagExpressionError"
  | registration (.inheritance _) => "TypeError"
  | pattern bad => bad.label
  | unknownName _ => "KeyError"

/-- A running script. Of scopes and classes of one name the first listed is meant. -/
structure Session where
  store : Store := {}
  scopes : List (String × Scope) := [("", {})]
  classes : List (String × PageClass) := []

namespace Session

def start (defaults : Scope) : Session := { scopes := [("", defaults)] }

def scope (session : Session) (name : String) : Except ScriptFault Scope :=
  match session.scopes.find? (·.1 == name) with
  | some (_, scope) => .ok scope
  | none => .error (.unknownName name)

def pageClass (session : Session) (name : String) : Except ScriptFault PageClass :=
  match session.classes.find? (·.1 == name) with
  | some (_, found) => .ok found
  | none => .error (.unknownName name)

def registered {α : Type} : Except RegistrationFault α → Except ScriptFault α
  | .ok a => .ok a
  | .error fault => .error (.registration fault)

def readPattern (pattern : PatternSource) : Except ScriptFault StepPattern :=
  match pattern.read with
  | .ok pattern => .ok pattern
  | .error bad => .error (.pattern bad)

def readMethod (source : MethodSource) : Except ScriptFault PageMethod := do
  let marks ← source.marks.mapM fun mark => do
    return { role := mark.role, pattern := ← readPattern mark.pattern, tags := mark.tags }
  return { name := source.name, handler := source.handler, marks }

/-- Puts a method in the place of an earlier one of its name, or behind the others. -/
def putMethod (methods : List PageMethod) (method : PageMethod) : List PageMethod :=
  if methods.any (·.name == method.name) then
    methods.map fun other => if other.name = method.name then method else other
  else methods ++ [method]

def makeClass (session : Session) (source : ClassSource) : Except ScriptFault PageClass := do
  let bases ← source.bases.mapM session.pageClass
  let methods ← source.methods.mapM readMethod
  let number := session.classes.length
  match linearize number (bases.map (·.number)) (bases.map (·.order)) with
  | none => throw (.registration (.inheritance source.name))
  | some order =>
      return { number, name := source.name, order, methods := methods.foldl putMethod [] }

def registerPage (session : Session) (scope : Scope) (cls : PageClass) (fixture : String)
    (tags : Option String) : Session × Option ScriptFault :=
  let (store, fault) := session.store.addPage scope cls fixture tags
  ({ session with store }, fault.map .registration)

def run (session : Session) (operation : Operation) : Session × Option ScriptFault :=
  match operation with
  | .add scope role pattern handler tags =>
      let result : Except ScriptFault Store := do
        let scope ← session.scope scope
        let pattern ← readPattern pattern
        registered (session.store.add scope role pattern handler tags none)
      match result with
      | .ok store => ({ session with store }, none)
      | .error fault => (session, some fault)
  | .openScope outer name own =>
      match session.scope outer with
      | .ok outer => ({ session with scopes := (name, outer.inner own) :: session.scopes }, none)
      | .error fault => (session, some fault)
  | .define source =>
      match session.makeClass source with
      | .ok cls => ({ session with classes := (source.name, cls) :: session.classes }, none)
      | .error fault => (session, some fault)
  | .definePage scope source fixture tags =>
      match session.makeClass source with
      | .error fault => (session, some fault)
      | .ok cls =>
          let session := { session with classes := (source.name, cls) :: session.classes }
          match session.scope scope with
          | .error fault => (session, some fault)
          | .ok scope => session.registerPage scope cls fixture tags
  | .register scope className fixture tags =>
      match session.pageClass className, session.scope scope with
      | .error fault, _ => (session, some fault)
      | _, .error fault => (session, some fault)
      | .ok cls, .ok scope => session.registerPage scope cls fixture tags
  | .build => ({ session with store := session.store.build.2 }, none)

def runAll (session : Session) : List Operation → Session × Option ScriptFault
  | [] => (session, none)
  | operation :: rest =>
      match session.run operation with
      | (session, none) => session.runAll rest
      | (session, some fault) => (session, some fault)

end Session

end FeatureSuite

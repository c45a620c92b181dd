import FeatureSuite.Page.Graph
import FeatureSuite.Page.Linearization
import FeatureSuite.Step.Binding

/-!
# The step registry

Handlers are registered one after the other and searched in that order. Scopes share one store and
differ only in the defaults that they give: a condition on tags, a runner module and types for
templates. When the registry is built, registration is over.
-/

namespace FeatureSuite

/-- Joins conditions on tags; absent and empty ones do not count. -/
def combineTags (conditions : List (Option String)) : Option String :=
  match conditions.filterMap fun condition => condition.filter (· ≠ "") with
  | [] => none
  | [condition] => some condition
  | conditions => some (" and ".intercalate (conditions.map fun condition => s!"({condition})"))

/-- The defaults of a group of registrations. -/
structure Scope where
  tags : Option String := none
  runner : Option String := none
  types : Template.CustomTypes := []

/-- Types of an outer and an inner scope; the inner ones go first. -/
def overrideTypes (outer inner : Template.CustomTypes) : Template.CustomTypes :=
  outer.filter (fun (name, _) => !inner.any (·.1 == name)) ++ inner

def Scope.inner (outer own : Scope) : Scope where
  tags := combineTags [outer.tags, own.tags]
  runner := (own.runner.filter (· ≠ "")).or outer.runner
  types := overrideTypes outer.types own.types

structure Store where
  bindings : List Binding := []
  graph : PageGraph := {}
  /-- The node of every registered class, the last registration first. -/
  nodeOfClass : List (Nat × Nat) := []
  frozen : Bool := false

/-- A pattern that a method of a page class is marked with. -/
structure PageMark where
  role : Role
  pattern : StepPattern
  tags : Option String := none
  deriving DecidableEq, Repr

structure PageMethod where
  name : String
  handler : Handler := {}
  marks : List PageMark := []
  deriving DecidableEq, Repr

/-- A class, numbered, with the order in which its bases are searched. -/
structure PageClass where
  number : Nat
  name : String
  /-- The class itself and all that it inherits from. -/
  order : List Nat
  methods : List PageMethod := []
  deriving DecidableEq, Repr

namespace Store

def add (store : Store) (scope : Scope) (role : Role) (pattern : StepPattern) (handler : Handler)
    (tags : Option String) (page : Option Nat) : Except RegistrationFault Store := do
  if store.frozen then throw (.stepTooLate pattern)
  else
    let tags := combineTags [scope.tags, tags]
    let matcher ← pattern.matcher scope.types
    let condition ← match tags.filter (· ≠ "") with
      | none => pure none
      | some tags =>
          match TagExpression.parse tags with
          | .ok condition => pure (some condition)
          | .error fault => throw (.tags fault)
    let binding : Binding :=
      { role, pattern, matcher, handler, tags, condition, page, runner := scope.runner
        types := scope.types }
    return { store with bindings := store.bindings ++ [binding] }

/-- The node of the nearest registered class that a class inherits from. -/
def parentOf (store : Store) (cls : PageClass) : Option Nat :=
  (cls.order.drop 1).findSome? fun i => (store.nodeOfClass.find? (·.1 == i)).map (·.2)

/-- Registers the marks of page methods one after the other, up to the first fault. -/
def addMarks (store : Store) (scope : Scope) (tags : Option String) (page : Nat) :
    List (PageMark × Handler) → Store × Option RegistrationFault
  | [] => (store, none)
  | (mark, handler) :: rest =>
      let tags' := combineTags [tags, mark.tags]
      match store.add scope mark.role mark.pattern handler tags' (some page) with
      | .ok store => store.addMarks scope tags page rest
      | .error fault => (store, some fault)

/-- Registers a page class. If one of its patterns is refused, the node and the handlers in front of
it stay. -/
def addPage (store : Store) (scope : Scope) (cls : PageClass) (fixture : String)
    (tags : Option String) : Store × Option RegistrationFault :=
  if store.frozen then (store, some (.pageTooLate cls.name))
  else
    let page := store.graph.nodes.length
    let store :=
      { store with
        graph := store.graph.add cls.name fixture (store.parentOf cls)
        nodeOfClass := (cls.number, page) :: store.nodeOfClass }
    store.addMarks scope tags page <|
      cls.methods.flatMap fun method => method.marks.map (·, method.handler)

end Store

/-- The registered handlers in the order of registration, and the page objects. -/
structure Registry where
  bindings : List Binding := []
  pages : PageGraph := {}

def Store.build (store : Store) : Registry × Store :=
  (⟨store.bindings, store.graph⟩, { store with frozen := true })

/-- A handler that accepts a step. -/
structure StepMatch where
  index : Nat
  binding : Binding
  captured : Template.Captured

namespace Registry

/-- The first of numbered handlers that accepts a step. -/
def findIn (text : String) (role : Option Role) (tags : List String) :
    List (Binding × Nat) → Except ConversionFault (Option StepMatch)
  | [] => return none
  | (binding, index) :: rest => do
      if binding.acceptsRole role && binding.acceptsTags tags then
        match ← binding.match? text with
        | some captured => return some { index, binding, captured }
        | none => findIn text role tags rest
      else findIn text role tags rest

/-- The first handler in the order of registration that accepts a step. -/
def find (registry : Registry) (text : String) (role : Option Role) (tags : List String) :
    Except ConversionFault (Option StepMatch) :=
  findIn text role tags registry.bindings.zipIdx

end Registry

end FeatureSuite

import FeatureSuite.Proofs.Step.Registration

/-!
# Registration ends when the registry is built

A built registry keeps its list of handlers, but its nodes are those of the store. So it stays as it
is only because nothing that is refused later has touched the store: a frozen store refuses before
it looks at a pattern, at a condition on tags or at a class.
-/

namespace FeatureSuite

/-- A registry as it is found later, with its nodes as they are then in the store. -/
def Registry.seenIn (registry : Registry) (store : Store) : Registry :=
  { registry with pages := ⟨store.graph.nodes.take registry.pages.nodes.length⟩ }

namespace Store

variable {store : Store}

theorem add_of_frozen (h : store.frozen = true) (scope : Scope) (role : Role)
    (pattern : StepPattern) (handler : Handler) (tags : Option String) (page : Option Nat) :
    store.add scope role pattern handler tags page = .error (.stepTooLate pattern) := by
  unfold add
  rw [if_pos h]
  rfl

private theorem addPage_of_frozen (h : store.frozen = true) (scope : Scope) (cls : PageClass)
    (fixture : String) (tags : Option String) :
    store.addPage scope cls fixture tags = (store, some (.pageTooLate cls.name)) := by
  unfold addPage
  rw [if_pos h]

@[simp] private theorem seenIn_build
    (store : Store) : store.build.1.seenIn store.build.2 = store.build.1 := by
  have hnodes : store.graph.nodes.take store.graph.nodes.length = store.graph.nodes :=
    List.take_length
  simp only [build, Registry.seenIn, hnodes]

end Store

/-- Whether an operation gets to register something: its scope, its class and its regular
expression are there to be used. -/
def Operation.Registers (session : Session) : Operation → Prop
  | add scope _ pattern _ _ =>
      (∃ own, session.scope scope = .ok own) ∧ ∃ read, Session.readPattern pattern = .ok read
  | definePage scope source _ _ =>
      (∃ cls, session.makeClass source = .ok cls) ∧ ∃ own, session.scope scope = .ok own
  | register scope className _ _ =>
      (∃ cls, session.pageClass className = .ok cls) ∧ ∃ own, session.scope scope = .ok own
  | openScope .. | define _ | build => False

namespace Session

variable {session : Session}

private theorem registerPage_of_frozen (h : session.store.frozen = true) (scope : Scope)
    (cls : PageClass) (fixture : String) (tags : Option String) :
    session.registerPage scope cls fixture tags =
      (session, some (.registration (.pageTooLate cls.name))) := by
  unfold registerPage
  rw [Store.addPage_of_frozen h]
  rfl

private theorem Ran.store_eq {operation : Operation} {after : Session} {fault : Option ScriptFault}
    (hran : session.Ran operation after fault) (h : session.store.frozen = true) :
    after.store = session.store := by
  cases hran with
  | refused => rfl
  | added _ _ hadd =>
      rw [Store.add_of_frozen h] at hadd
      cases hadd
  | opened _ => rfl
  | defined _ => rfl
  | stranded _ _ => rfl
  | definedPage _ _ hresult =>
      rw [hresult, registerPage_of_frozen]
      exact h
  | registeredPage _ _ hresult => rw [hresult, registerPage_of_frozen h]
  | built =>
      change { session.store with frozen := true } = session.store
      rw [← h]

private theorem store_run_of_frozen (h : session.store.frozen = true) (operation : Operation) :
    (session.run operation).1.store = session.store :=
  (session.ran_run operation).store_eq h

private theorem store_runEach_of_frozen (session : Session) (h : session.store.frozen = true)
    (operations : List Operation) : (session.runEach operations).store = session.store := by
  induction operations generalizing session with
  | nil => rfl
  | cons operation operations ih =>
      have hstep := store_run_of_frozen h operation
      have hrest := ih (session.run operation).1 (hstep ▸ h)
      exact hrest.trans hstep

/-- What would register something is refused since registration is over. -/
theorem fault_run_of_frozen (h : session.store.frozen = true) {operation : Operation}
    (hregisters : operation.Registers session) :
    ∃ fault, (session.run operation).2 = some fault ∧ fault.label = "RegistryFrozenError" := by
  cases operation with
  | add scope role pattern handler tags =>
      obtain ⟨⟨own, hscope⟩, read, hread⟩ := hregisters
      have hadd : (do
          let scope ← session.scope scope
          let pattern ← readPattern pattern
          registered (session.store.add scope role pattern handler tags none)) =
            (.error (.registration (.stepTooLate read)) : Except ScriptFault Store) := by
        rw [hscope, hread]
        change registered (session.store.add own role read handler tags none) = _
        rw [Store.add_of_frozen h]
        rfl
      refine ⟨.registration (.stepTooLate read), ?_, rfl⟩
      simp only [run]
      rw [hadd]
  | definePage scope source fixture tags =>
      obtain ⟨⟨cls, hcls⟩, own, hscope⟩ := hregisters
      refine ⟨.registration (.pageTooLate cls.name), ?_, rfl⟩
      have hscope' : ({ session with
          classes := (source.name, cls) :: session.classes } : Session).scope scope = .ok own :=
        hscope
      simp only [run, hcls, hscope']
      rw [registerPage_of_frozen]
      exact h
  | register scope className fixture tags =>
      obtain ⟨⟨cls, hcls⟩, own, hscope⟩ := hregisters
      refine ⟨.registration (.pageTooLate cls.name), ?_, rfl⟩
      simp only [run, hcls, hscope]
      rw [registerPage_of_frozen h]
  | openScope outer name own => cases hregisters
  | define source => cases hregisters
  | build => cases hregisters

/-- After a registry is built, whatever is tried on whatever scope: the store stays as it was then,
so the registry is found as it was built, with the same nodes and children, and is built again just
so. Every handler and every page object is refused because registration is over, whatever its
pattern and its tags are. -/
theorem frozen_of_build (defaults : Scope) (before after : List Operation) :
    let building := (start defaults).runEach before
    let registry := building.store.build.1
    let later := (building.run .build).1.runEach after
    later.store = { building.store with frozen := true } ∧
      registry.seenIn later.store = registry ∧
      later.store.build.1 = registry ∧
      (∀ scope role pattern handler tags page,
        later.store.add scope role pattern handler tags page = .error (.stepTooLate pattern)) ∧
      (∀ scope cls fixture tags,
        later.store.addPage scope cls fixture tags =
          (later.store, some (.pageTooLate cls.name))) ∧
      ∀ operation : Operation, (later.run operation).1.store = later.store ∧
        (operation.Registers later →
          ∃ fault, (later.run operation).2 = some fault ∧
            fault.label = "RegistryFrozenError") := by
  intro building registry later
  have hstore : later.store = { building.store with frozen := true } :=
    store_runEach_of_frozen (building.run .build).1 rfl after
  have hfrozen : later.store.frozen = true := by rw [hstore]
  refine ⟨hstore, ?_, by rw [hstore]; rfl, Store.add_of_frozen hfrozen,
    Store.addPage_of_frozen hfrozen, fun operation => ⟨?_, fault_run_of_frozen hfrozen⟩⟩
  · rw [hstore]
    exact building.store.seenIn_build
  · exact store_run_of_frozen hfrozen operation

/-- A handler whose pattern has an unknown type and whose tags have an open parenthesis. -/
def unreadable : Operation := .add "late" .action (.template "\x7ba:q\x7d") {} (some "(")

theorem frozen_of_build_of_unreadable :
    let building := (start {}).runEach [.definePage "" { name := "Cart" } "cart" none]
    let later := (building.run .build).1.runEach [.openScope "" "late" { tags := some "@x" }]
    ((StepPattern.template "\x7ba:q\x7d").matcher []).toOption.isNone ∧
      (TagExpression.parse "(").toOption.isNone ∧
      unreadable.Registers later ∧
      (∃ fault, (later.run unreadable).2 = some fault ∧ fault.label = "RegistryFrozenError") ∧
      (later.run unreadable).1.store = later.store := by
  intro building later
  have hregisters : unreadable.Registers later := ⟨⟨_, rfl⟩, _, rfl⟩
  obtain ⟨_, _, _, _, _, hrefused⟩ := frozen_of_build {}
    [.definePage "" { name := "Cart" } "cart" none]
    [.openScope "" "late" { tags := some "@x" }]
  obtain ⟨hstore, hfault⟩ := hrefused unreadable
  exact ⟨by decide +kernel, by decide +kernel, hregisters, hfault hregisters, hstore⟩

end Session

end FeatureSuite

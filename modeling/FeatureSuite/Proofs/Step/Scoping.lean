import FeatureSuite.Proofs.Step.Registration
import Mathlib.Data.List.Induction

/-!
# Scopes of registrations

All scopes put their handlers into one store, one behind the other as they are registered. What a
scope gives to its handlers comes from the scopes around it: the innermost one that names a runner
module, or a type of some name, decides.
-/

namespace FeatureSuite

private theorem find?_filter_names (keep : String → Bool) (types : Template.CustomTypes)
    (name : String) :
    Template.CustomTypes.find? (types.filter fun (name, _) => keep name) name =
      if keep name then types.find? name else none := by
  unfold Template.CustomTypes.find?
  induction types with
  | nil => simp
  | cons entry types ih =>
      obtain ⟨other, type⟩ := entry
      by_cases hname : other = name
      · subst hname
        cases hkeep : keep other with
        | true => simp [hkeep]
        | false => simpa [hkeep] using ih
      · have hskip : ((other, type).1 == name) = false := by simpa using hname
        rw [List.find?_cons, hskip, ← ih]
        cases hkeep : keep other with
        | true => simp [hkeep, hname]
        | false => simp [hkeep]

private theorem find?_overrideTypes (outer inner : Template.CustomTypes) (name : String) :
    (overrideTypes outer inner).find? name = (inner.find? name).or (outer.find? name) := by
  have houter := find?_filter_names (fun name => !inner.any (·.1 == name)) outer name
  have happend : (overrideTypes outer inner).find? name =
      (Template.CustomTypes.find?
        (outer.filter fun (name, _) => !inner.any (·.1 == name)) name).or (inner.find? name) := by
    unfold overrideTypes Template.CustomTypes.find?
    rw [List.find?_append, Option.map_or]
  rw [happend, houter]
  cases hinner : inner.find? name with
  | none =>
      have hany : inner.any (·.1 == name) = false := List.any_eq_false.mpr
        (List.find?_eq_none.mp (Option.map_eq_none_iff.mp hinner))
      rw [hany, Option.or_none, Option.none_or]
      rfl
  | some type =>
      obtain ⟨entry, hentry, _⟩ := Option.map_eq_some_iff.mp hinner
      have hname := List.find?_some hentry
      have hany : inner.any (·.1 == name) = true :=
        List.any_eq_true.mpr ⟨entry, List.mem_of_find?_eq_some hentry, hname⟩
      rw [hany]
      rfl

namespace Scope

/-- The runner module that a scope names. -/
def runner? (scope : Scope) : Option String := scope.runner.filter (· ≠ "")

/-- The scope that is opened inside others, the innermost one first. -/
def inside (outermost : Scope) (chain : List Scope) : Scope :=
  chain.foldr (fun own outer => outer.inner own) outermost

private theorem runner?_inner (outer own : Scope) :
    (outer.inner own).runner? = own.runner?.or outer.runner? := by
  unfold inner runner?
  cases hown : own.runner.filter (· ≠ "") with
  | none => rfl
  | some runner =>
      have hname : decide (runner ≠ "") = true := (Option.filter_eq_some_iff.mp hown).2
      rw [Option.some_or, Option.filter_some, if_pos hname, Option.some_or]

private theorem runner?_inside (outermost : Scope) (chain : List Scope) :
    (outermost.inside chain).runner? = (chain ++ [outermost]).findSome? runner? := by
  induction chain with
  | nil => simp [inside]
  | cons own chain ih =>
      change ((outermost.inside chain).inner own).runner? = _
      rw [runner?_inner, ih, List.cons_append, List.findSome?_cons]
      cases own.runner? <;> rfl

private theorem find?_inside (outermost : Scope) (chain : List Scope) (name : String) :
    (outermost.inside chain).types.find? name =
      (chain ++ [outermost]).findSome? (·.types.find? name) := by
  induction chain with
  | nil => simp [inside]
  | cons own chain ih =>
      change (overrideTypes (outermost.inside chain).types own.types).find? name = _
      rw [find?_overrideTypes, ih, List.cons_append, List.findSome?_cons]
      cases own.types.find? name <;> rfl

end Scope

/-! ## Scopes of a script -/

/-- The scopes opened on the way to the one of a name, innermost first. The operations so far are
listed backwards; the outermost scope is not opened. -/
def opened? : List Operation → String → Option (List Scope)
  | [], name => if name = "" then some [] else none
  | .openScope outer inner own :: earlier, name =>
      match opened? earlier outer with
      | some chain => if inner = name then some (own :: chain) else opened? earlier name
      | none => opened? earlier name
  | _ :: earlier, name => opened? earlier name

/-- The scope that an operation registers handlers in. -/
def Operation.scope? : Operation → Option String
  | add scope .. | definePage scope .. | register scope .. => some scope
  | openScope .. | define _ | build => none

def Operation.Opens (operation : Operation) (name : String) : Prop :=
  ∃ outer own, operation = .openScope outer name own

namespace Session

variable {session : Session}

private theorem Ran.scope_eq {operation : Operation} {after : Session} {fault : Option ScriptFault}
    (hran : session.Ran operation after fault) {name : String} (h : ¬operation.Opens name) :
    after.scope name = session.scope name := by
  cases hran with
  | refused => rfl
  | added _ _ _ => rfl
  | @opened outer inner own scope _ =>
      have hne : inner ≠ name := fun heq => h ⟨outer, own, heq ▸ rfl⟩
      unfold Session.scope
      rw [List.find?_cons_of_neg (by simpa using hne)]
  | defined _ => rfl
  | stranded _ _ => rfl
  | definedPage _ _ hresult => rw [hresult]; rfl
  | registeredPage _ _ hresult => rw [hresult]; rfl
  | built => rfl

/-- What a scope gives stays as it is, unless a scope of its name is opened. -/
theorem scope_run {operation : Operation} {name : String} (h : ¬operation.Opens name) :
    (session.run operation).1.scope name = session.scope name :=
  (session.ran_run operation).scope_eq h

private theorem scope_run_openScope (session : Session) (outer name : String) (own : Scope) :
    (session.run (.openScope outer name own)).1.scope name =
      match session.scope outer with
      | .ok scope => .ok (scope.inner own)
      | .error _ => session.scope name := by
  simp only [run]
  cases session.scope outer with
  | error fault => rfl
  | ok scope => simp [Session.scope]

@[simp] theorem runEach_concat (session : Session) (operations : List Operation)
    (operation : Operation) :
    session.runEach (operations ++ [operation]) = ((session.runEach operations).run operation).1 :=
  List.foldl_concat ..

private theorem opened?_of_not_opens {operation : Operation} {name : String}
    (h : ¬operation.Opens name) (earlier : List Operation) : opened?
    (operation :: earlier) name = opened? earlier name := by
  cases operation with
  | openScope outer inner own =>
      have hne : inner ≠ name := fun heq => h ⟨outer, own, heq ▸ rfl⟩
      rw [opened?]
      split
      · rw [if_neg hne]
      · rfl
  | _ => rfl

/-- A scope is known if it has been opened, and gives what the scopes around it say. -/
theorem scope_runEach (defaults : Scope) (operations : List Operation) (name : String) :
    ((start defaults).runEach operations).scope name =
      match opened? operations.reverse name with
      | some chain => .ok (defaults.inside chain)
      | none => .error (.unknownName name) := by
  induction operations using List.reverseRecOn generalizing name with
  | nil =>
      by_cases hname : name = ""
      · subst hname
        rfl
      · have hother : (("", defaults).1 == name) = false := beq_false_of_ne (Ne.symm hname)
        simp only [List.reverse_nil, opened?, if_neg hname]
        change (start defaults).scope name = _
        unfold Session.scope start
        rw [List.find?_cons, hother]
        rfl
  | append_singleton operations operation ih =>
      rw [runEach_concat, List.reverse_concat]
      by_cases hopens : operation.Opens name
      · obtain ⟨outer, own, rfl⟩ := hopens
        rw [scope_run_openScope, ih outer, ih name, opened?]
        cases opened? operations.reverse outer with
        | some chain =>
            dsimp only
            rw [if_pos rfl]
            rfl
        | none => rfl
      · rw [scope_run hopens, opened?_of_not_opens hopens, ih name]

end Session

/-! ## Handlers as they are registered -/

/-- The patterns that the methods of a page class are marked with, in order. -/
def PageClass.marked (cls : PageClass) : List (PageMark × Handler) :=
  cls.methods.flatMap fun method => method.marks.map (·, method.handler)

/-- A handler is registered as it was asked for, with what the scopes around it give, innermost
first. -/
structure Binding.Carries (binding : Binding) (scopes : List Scope)
    (asked : PageMark × Handler) : Prop where
  role_eq : binding.role = asked.1.role
  pattern_eq : binding.pattern = asked.1.pattern
  handler_eq : binding.handler = asked.2
  runner_eq : binding.runner.filter (· ≠ "") = scopes.findSome? Scope.runner?
  types_eq : ∀ name, binding.types.find? name = scopes.findSome? (·.types.find? name)
  matcher_eq : binding.pattern.matcher binding.types = .ok binding.matcher

/-- Of what was asked for, handlers are registered one by one up to the first one that is refused,
and nothing is refused behind the last one. -/
structure Enters (scopes : Option (List Scope)) (asked : List (PageMark × Handler))
    (refused : Bool) (done : List (PageMark × Handler)) (added : List Binding) : Prop where
  isPrefix : done <+: asked
  all_done : refused = false → done = asked
  not_all : refused = true → asked ≠ [] → done ≠ asked
  carries : List.Forall₂ (fun asked binding => ∃ chain, scopes = some chain ∧
    binding.Carries chain asked) done added

theorem Enters.none {scopes : Option (List Scope)} {asked : List (PageMark × Handler)}
    {refused : Bool} (h : refused = false → asked = []) : Enters scopes asked refused [] [] where
  isPrefix := List.nil_prefix
  all_done hdone := (h hdone).symm
  not_all _ hasked := Ne.symm hasked
  carries := .nil

namespace Store

variable {store after : Store} {defaults : Scope} {chain : List Scope}

private theorem carries_of_add {role : Role} {pattern : StepPattern} {handler : Handler}
    {tags : Option String} {page : Option Nat} (asked : Option String)
    (h : store.add (defaults.inside chain) role pattern handler tags page = .ok after) :
    ∃ binding : Binding, after = { store with bindings := store.bindings ++ [binding] } ∧
      binding.Carries (chain ++ [defaults]) (⟨role, pattern, asked⟩, handler) := by
  obtain ⟨_, matcher, condition, hmatcher, _, rfl⟩ := add_eq_ok_iff.mp h
  exact ⟨_, rfl, rfl, rfl, rfl, Scope.runner?_inside defaults chain,
    Scope.find?_inside defaults chain, hmatcher⟩

private theorem addMarks_enters (tags : Option String) (page : Nat)
    (marks : List (PageMark × Handler)) :
    let result := store.addMarks (defaults.inside chain) tags page marks
    ∃ done added, result.1.bindings = store.bindings ++ added ∧
      Enters (some (chain ++ [defaults])) marks result.2.isSome done added := by
  induction marks generalizing store with
  | nil => exact ⟨[], [], (List.append_nil _).symm, .none fun _ => rfl⟩
  | cons mark marks ih =>
      intro result
      dsimp only [result]
      rw [addMarks]
      split
      · rename_i next hnext
        obtain ⟨binding, rfl, hcarries⟩ := carries_of_add mark.1.tags hnext
        obtain ⟨done, added, hbindings, henters⟩ :=
          @ih { store with bindings := store.bindings ++ [binding] }
        refine ⟨mark :: done, binding :: added, ?_, ?_, ?_, ?_, ?_⟩
        · rw [hbindings, List.append_assoc]
          rfl
        · exact List.prefix_cons_inj mark |>.mpr henters.isPrefix
        · exact fun hdone => congrArg _ (henters.all_done hdone)
        · intro hrefused _ hall
          have hsame : done = marks := (List.cons.inj hall).2
          by_cases hmarks : marks = []
          · subst hmarks
            cases hrefused
          · exact henters.not_all hrefused hmarks hsame
        · exact .cons ⟨_, rfl, hcarries⟩ henters.carries
      · exact ⟨[], [], (List.append_nil _).symm, .none fun h => by cases h⟩

private theorem addPage_enters (store : Store) (defaults : Scope) (chain : List Scope)
    (cls : PageClass) (fixture : String) (tags : Option String) :
    let result := store.addPage (defaults.inside chain) cls fixture tags
    ∃ done added, result.1.bindings = store.bindings ++ added ∧
      Enters (some (chain ++ [defaults])) cls.marked result.2.isSome done added := by
  intro result
  dsimp only [result]
  unfold addPage
  split
  · exact ⟨[], [], (List.append_nil _).symm, .none fun h => by cases h⟩
  · exact addMarks_enters tags _ _

end Store

namespace Session

variable {defaults : Scope} {session : Session}

/-- What an operation asks to register, in order. -/
def asked (session : Session) : Operation → List (PageMark × Handler)
  | .add _ role pattern handler tags =>
      match readPattern pattern with
      | .ok pattern => [(⟨role, pattern, tags⟩, handler)]
      | .error _ => []
  | .definePage _ source _ _ =>
      match session.makeClass source with
      | .ok cls => cls.marked
      | .error _ => []
  | .register _ className _ _ =>
      match session.pageClass className with
      | .ok cls => cls.marked
      | .error _ => []
  | .openScope .. | .define _ | .build => []

/-- The scopes around what an operation registers, innermost first, given the operations in front
of it. -/
def scopesOf (defaults : Scope) (before : List Operation) (operation : Operation) :
    Option (List Scope) :=
  (operation.scope?.bind (opened? before.reverse)).map (· ++ [defaults])

/-- The handlers that operations register, one operation behind the other. -/
inductive Registers (defaults : Scope) : List Operation → List Binding → Prop where
  | start : Registers defaults [] []
  | next {before : List Operation} {bindings : List Binding} (operation : Operation)
      {done : List (PageMark × Handler)} {added : List Binding} :
      Registers defaults before bindings →
      Enters (scopesOf defaults before operation)
        (((start defaults).runEach before).asked operation)
        ((((start defaults).runEach before).run operation).2.isSome) done added →
      Registers defaults (before ++ [operation]) (bindings ++ added)

private theorem registerPage_enters {chain : List Scope} (cls : PageClass) (fixture : String)
    (tags : Option String) :
    let result := session.registerPage (defaults.inside chain) cls fixture tags
    ∃ done added, result.1.store.bindings = session.store.bindings ++ added ∧
      Enters (some (chain ++ [defaults])) cls.marked result.2.isSome done added := by
  obtain ⟨done, added, hbindings, henters⟩ :=
    session.store.addPage_enters defaults chain cls fixture tags
  exact ⟨done, added, hbindings, by rw [registerPage, Option.isSome_map]; exact henters⟩

private theorem exists_opened_of_scope {before : List Operation} {name : String} {own : Scope}
    (h : ((start defaults).runEach before).scope name = .ok own) :
    ∃ chain, opened? before.reverse name = some chain ∧ own = defaults.inside chain := by
  rw [scope_runEach] at h
  cases hopened : opened? before.reverse name with
  | none =>
      rw [hopened] at h
      cases h
  | some chain =>
      rw [hopened] at h
      exact ⟨chain, rfl, (Except.ok.inj h).symm⟩

private theorem Ran.enters {before : List Operation} {operation : Operation} {after : Session}
    {fault : Option ScriptFault} (h : session.Ran operation after fault)
    (hsession : session = (start defaults).runEach before) :
    ∃ done added, after.store.bindings = session.store.bindings ++ added ∧
      Enters (scopesOf defaults before operation) (session.asked operation) fault.isSome done
        added := by
  have hscope {name : String} {own : Scope} (hown : session.scope name = .ok own) :
      ∃ chain, opened? before.reverse name = some chain ∧ own = defaults.inside chain :=
    exists_opened_of_scope (hsession ▸ hown)
  clear hsession
  cases h with
  | refused fault => exact ⟨[], [], (List.append_nil _).symm, .none fun h => by cases h⟩
  | @added name role pattern handler tags own read store hown hread hadd =>
      obtain ⟨chain, hopened, rfl⟩ := hscope hown
      obtain ⟨binding, rfl, hcarries⟩ := Store.carries_of_add tags hadd
      refine ⟨[(⟨role, read, tags⟩, handler)], [binding], rfl, ?_⟩
      simp only [asked, hread, scopesOf, Operation.scope?, Option.bind_some, hopened]
      exact ⟨List.prefix_refl _, fun _ => rfl, (fun hrefused => by cases hrefused),
        .cons ⟨_, rfl, hcarries⟩ .nil⟩
  | opened _ => exact ⟨[], [], (List.append_nil _).symm, .none fun _ => rfl⟩
  | defined _ => exact ⟨[], [], (List.append_nil _).symm, .none fun _ => rfl⟩
  | stranded _ _ => exact ⟨[], [], (List.append_nil _).symm, .none fun h => by cases h⟩
  | definedPage hclass hown hresult =>
      obtain ⟨chain, hopened, rfl⟩ := hscope hown
      simp only [asked, hclass, scopesOf, Operation.scope?, Option.bind_some, hopened]
      subst hresult
      exact registerPage_enters ..
  | registeredPage hclass hown hresult =>
      obtain ⟨chain, hopened, rfl⟩ := hscope hown
      simp only [asked, hclass, scopesOf, Operation.scope?, Option.bind_some, hopened]
      subst hresult
      exact registerPage_enters ..
  | built => exact ⟨[], [], (List.append_nil _).symm, .none fun _ => rfl⟩

/-- What an operation registers goes behind what is there. -/
theorem enters_run (defaults : Scope) (before : List Operation) (operation : Operation) :
    let session := (start defaults).runEach before
    let result := session.run operation
    ∃ done added, result.1.store.bindings = session.store.bindings ++ added ∧
      Enters (scopesOf defaults before operation) (session.asked operation) result.2.isSome done
        added :=
  (((start defaults).runEach before).ran_run operation).enters rfl

/-- The handlers of a registry stand in the order in which they were registered, in whatever
scopes and with whatever failures in between. Each has the runner module of the innermost scope
around it that names one, and under every name the type of the innermost scope that has one of this
name. What a scope gives does not depend on what is registered or opened elsewhere. -/
theorem bindings_of_runEach (defaults : Scope) (operations : List Operation) :
    Registers defaults operations ((start defaults).runEach operations).store.build.1.bindings ∧
      ∀ operation name, ¬Operation.Opens operation name →
        ((start defaults).runEach (operations ++ [operation])).scope name =
          ((start defaults).runEach operations).scope name := by
  refine ⟨?_, fun operation name hopens => by rw [runEach_concat, scope_run hopens]⟩
  change Registers defaults operations ((start defaults).runEach operations).store.bindings
  induction operations using List.reverseRecOn with
  | nil => exact .start
  | append_singleton operations operation ih =>
      obtain ⟨done, added, hbindings, henters⟩ := enters_run defaults operations operation
      rw [runEach_concat, hbindings]
      exact .next operation ih henters

/-- Three handlers in the outermost scope, in one inside it, and in one inside that. -/
def nestedScopes : List Operation :=
  [.openScope "" "web" { runner := some "web.steps" },
    .openScope "web" "deep" { runner := some "" },
    .add "deep" .context (.template "a page") {} none,
    .add "" .context (.template "a user") {} none,
    .add "web" .action (.template "I click") {} none]

theorem bindings_of_nestedScopes :
    ∃ bindings, Registers {} nestedScopes bindings ∧
      bindings.map (fun binding => (binding.pattern.text, binding.runner)) =
        [("a page", some "web.steps"), ("a user", none), ("I click", some "web.steps")] ∧
      ¬Operation.Opens (.openScope "" "other" { runner := some "other.steps" }) "web" ∧
      ((start {}).runEach (nestedScopes ++
        [.openScope "" "other" { runner := some "other.steps" }])).scope "web" =
          ((start {}).runEach nestedScopes).scope "web" := by
  obtain ⟨hregisters, hscope⟩ := bindings_of_runEach {} nestedScopes
  have hopens :
      ¬Operation.Opens (.openScope "" "other" { runner := some "other.steps" }) "web" := by
    rintro ⟨outer, own, h⟩
    injection h with _ hname
    exact absurd hname (by decide)
  exact ⟨_, hregisters, by decide +kernel, hopens, hscope _ _ hopens⟩

end Session

end FeatureSuite

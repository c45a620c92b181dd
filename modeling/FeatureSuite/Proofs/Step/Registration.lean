import FeatureSuite.Proofs.Outcome
import FeatureSuite.Proofs.Page.Forest
import FeatureSuite.Step.Script

/-!
# Registration

Whatever an operation of a script does to the store, be it refused at once, refused part way or
carried out, is made up of three kinds of steps: a handler is put behind the others, a page object
is hung into the graph, or registration ends. Invariants of the store are shown for these steps.
-/

namespace FeatureSuite

open Relation (ReflTransGen)

namespace Store

/-- A step of registration. -/
inductive Grows : Store → Store → Prop where
  | bind {store : Store} (binding : Binding) : store.frozen = false →
      (∀ page, binding.page = some page → page < store.graph.nodes.length) →
      Grows store { store with bindings := store.bindings ++ [binding] }
  | hang {store : Store} (cls : PageClass) (fixture : String) : store.frozen = false →
      Grows store
        { store with
          graph := store.graph.add cls.name fixture (store.parentOf cls)
          nodeOfClass := (cls.number, store.graph.nodes.length) :: store.nodeOfClass }
  | freeze {store : Store} : Grows store { store with frozen := true }

variable {store after : Store}

/-- A condition on tags is read if it is there and not empty. -/
def ReadsTags (tags : Option String) (condition : Option TagExpression) : Prop :=
  match tags.filter (· ≠ "") with
  | none => condition = none
  | some text => ∃ read, TagExpression.parse text = .ok read ∧ condition = some read

/-- A handler is registered if registration is not over and its pattern and its condition can be
read; its scope says what it is registered with. -/
theorem add_eq_ok_iff {scope : Scope} {role : Role} {pattern : StepPattern} {handler : Handler}
    {tags : Option String} {page : Option Nat} :
    store.add scope role pattern handler tags page = .ok after ↔
      store.frozen = false ∧ ∃ matcher condition,
        pattern.matcher scope.types = .ok matcher ∧
          ReadsTags (combineTags [scope.tags, tags]) condition ∧
            after = { store with bindings := store.bindings ++ [
              { role, pattern, matcher, handler, tags := combineTags [scope.tags, tags], condition,
                page, runner := scope.runner, types := scope.types }] } := by
  unfold add
  cases hfrozen : store.frozen with
  | true => simp [throw, throwThe, MonadExceptOf.throw]
  | false =>
      rw [if_neg (by simp), bind_eq_ok]
      simp only [true_and]
      refine exists_congr fun matcher => ?_
      rw [exists_and_left]
      refine and_congr_right fun _ => ?_
      unfold ReadsTags
      cases (combineTags [scope.tags, tags]).filter (· ≠ "") with
      | none => simp [pure, Except.pure, bind, Except.bind, eq_comm]
      | some text =>
          cases hread : TagExpression.parse text with
          | error fault => simp [hread, bind, Except.bind, throw, throwThe, MonadExceptOf.throw]
          | ok read => simp [hread, pure, Except.pure, bind, Except.bind, eq_comm]

theorem add_eq_ok {scope : Scope} {role : Role} {pattern : StepPattern} {handler : Handler}
    {tags : Option String} {page : Option Nat}
    (h : store.add scope role pattern handler tags page = .ok after) :
    store.frozen = false ∧ ∃ binding : Binding, binding.page = page ∧
      after = { store with bindings := store.bindings ++ [binding] } := by
  obtain ⟨hopen, _, _, _, _, rfl⟩ := add_eq_ok_iff.mp h
  exact ⟨hopen, _, rfl, rfl⟩

private theorem grows_of_add {scope : Scope} {role : Role} {pattern : StepPattern}
    {handler : Handler} {tags : Option String} {page : Option Nat}
    (h : store.add scope role pattern handler tags page = .ok after)
    (hpage : ∀ i, page = some i → i < store.graph.nodes.length) : Grows store after := by
  obtain ⟨hfrozen, binding, rfl, rfl⟩ := add_eq_ok h
  exact .bind binding hfrozen hpage

private theorem grows_addMarks (scope : Scope) (tags : Option String) (page : Nat)
    (marks : List (PageMark × Handler)) (hpage : page < store.graph.nodes.length) :
    ReflTransGen Grows store (store.addMarks scope tags page marks).1 := by
  induction marks generalizing store with
  | nil => exact .refl
  | cons mark marks ih =>
      rw [addMarks]
      split
      · rename_i next hnext
        have hstep : Grows store next := grows_of_add hnext fun i hi => Option.some.inj hi ▸ hpage
        refine .head hstep (ih ?_)
        obtain ⟨_, binding, _, rfl⟩ := add_eq_ok hnext
        exact hpage
      · exact .refl

private theorem grows_addPage (scope : Scope) (cls : PageClass) (fixture : String)
    (tags : Option String) :
    ReflTransGen Grows store (store.addPage scope cls fixture tags).1 := by
  unfold addPage
  split
  · exact .refl
  · rename_i hfrozen
    refine .head (.hang cls fixture (by simpa using hfrozen)) (grows_addMarks scope tags _ _ ?_)
    rw [PageGraph.length_add]
    exact Nat.lt_succ_self _

end Store

/-! ## Scripts -/

namespace Session

variable {session : Session}

/-- A session after operations. One that fails is followed by the others all the same. -/
def runEach (session : Session) (operations : List Operation) : Session :=
  operations.foldl (fun session operation => (session.run operation).1) session

/-- What an operation leaves and reports. One that is refused leaves all as it is, but a page class
stays defined when the scope of its page object is not there, and a page object stays registered when
a pattern of its class is refused. -/
inductive Ran (session : Session) : Operation → Session → Option ScriptFault → Prop where
  | refused (operation : Operation) (fault : ScriptFault) :
      Ran session operation session (some fault)
  | added {scope : String} {role : Role} {pattern : PatternSource} {handler : Handler}
      {tags : Option String} {own : Scope} {read : StepPattern} {store : Store} :
      session.scope scope = .ok own → readPattern pattern = .ok read →
      session.store.add own role read handler tags none = .ok store →
      Ran session (.add scope role pattern handler tags) { session with store } none
  | opened {outer name : String} {own scope : Scope} : session.scope outer = .ok scope →
      Ran session (.openScope outer name own)
        { session with scopes := (name, scope.inner own) :: session.scopes } none
  | defined {source : ClassSource} {cls : PageClass} : session.makeClass source = .ok cls →
      Ran session (.define source)
        { session with classes := (source.name, cls) :: session.classes } none
  | stranded {scope : String} {source : ClassSource} {fixture : String} {tags : Option String}
      {cls : PageClass} {fault : ScriptFault} :
      session.makeClass source = .ok cls → session.scope scope = .error fault →
      Ran session (.definePage scope source fixture tags)
        { session with classes := (source.name, cls) :: session.classes } (some fault)
  | definedPage {scope : String} {source : ClassSource} {fixture : String} {tags : Option String}
      {cls : PageClass} {own : Scope} {result : Session × Option ScriptFault} :
      session.makeClass source = .ok cls → session.scope scope = .ok own →
      result = registerPage { session with classes := (source.name, cls) :: session.classes } own cls
        fixture tags →
      Ran session (.definePage scope source fixture tags) result.1 result.2
  | registeredPage {scope className fixture : String} {tags : Option String}
      {cls : PageClass} {own : Scope} {result : Session × Option ScriptFault} :
      session.pageClass className = .ok cls → session.scope scope = .ok own →
      result = session.registerPage own cls fixture tags →
      Ran session (.register scope className fixture tags) result.1 result.2
  | built : Ran session .build { session with store := session.store.build.2 } none

@[simp] private theorem registered_eq_ok {α : Type} {result : Except RegistrationFault α} {a : α} :
    registered result = .ok a ↔ result = .ok a := by
  cases result <;> simp [registered]

theorem ran_run (session : Session) (operation : Operation) :
    session.Ran operation (session.run operation).1 (session.run operation).2 := by
  cases operation with
  | add scope role pattern handler tags =>
      simp only [run]
      split
      · rename_i store hstore
        obtain ⟨own, hscope, hstore⟩ := bind_eq_ok.mp hstore
        obtain ⟨read, hread, hstore⟩ := bind_eq_ok.mp hstore
        exact .added hscope hread (registered_eq_ok.mp hstore)
      · exact .refused _ _
  | openScope outer name own =>
      simp only [run]
      split
      · exact .opened ‹_›
      · exact .refused _ _
  | define source =>
      simp only [run]
      split
      · exact .defined ‹_›
      · exact .refused _ _
  | definePage scope source fixture tags =>
      simp only [run]
      split
      · exact .refused _ _
      · rename_i cls hclass
        split
        · exact .stranded hclass ‹_›
        · exact .definedPage hclass ‹_› rfl
  | register scope className fixture tags =>
      simp only [run]
      split
      · exact .refused _ _
      · exact .refused _ _
      · exact .registeredPage ‹_› ‹_› rfl
  | build => exact .built

/-- What an operation does to the store, whether it fails or not. -/
theorem Ran.grows {operation : Operation} {after : Session} {fault : Option ScriptFault}
    (h : session.Ran operation after fault) :
    ReflTransGen Store.Grows session.store after.store := by
  cases h with
  | refused => exact .refl
  | added _ _ hadd => exact .single (Store.grows_of_add hadd fun i hi => nomatch hi)
  | opened _ => exact .refl
  | defined _ => exact .refl
  | stranded _ _ => exact .refl
  | definedPage _ _ hresult => exact hresult ▸ Store.grows_addPage ..
  | registeredPage _ _ hresult => exact hresult ▸ Store.grows_addPage ..
  | built => exact .single .freeze

theorem grows_runEach (session : Session) (operations : List Operation) :
    ReflTransGen Store.Grows session.store (session.runEach operations).store := by
  induction operations generalizing session with
  | nil => exact .refl
  | cons operation operations ih =>
      exact (session.ran_run operation).grows.trans (ih (session.run operation).1)

end Session

/-! ## The nodes of a store -/

namespace Store

/-- The nodes are in order, and classes and handlers refer to nodes that are there. -/
structure Sound (store : Store) : Prop where
  ordered : store.graph.Ordered
  classes : ∀ entry ∈ store.nodeOfClass, entry.2 < store.graph.nodes.length
  bindings : ∀ binding ∈ store.bindings, ∀ page, binding.page = some page →
    page < store.graph.nodes.length

namespace Sound

variable {store after : Store}

theorem empty : Sound {} where
  ordered := .empty
  classes _ h := nomatch h
  bindings _ h := nomatch h

private theorem parentOf_lt (h : store.Sound) (cls : PageClass) {parent : Nat}
    (hparent : store.parentOf cls = some parent) : parent < store.graph.nodes.length := by
  obtain ⟨base, _, hbase⟩ := List.exists_of_findSome?_eq_some hparent
  obtain ⟨entry, hentry, rfl⟩ := Option.map_eq_some_iff.mp hbase
  exact h.classes entry (List.mem_of_find?_eq_some hentry)

private theorem grows (h : store.Sound) (hstep : Grows store after) : after.Sound := by
  cases hstep with
  | bind binding _ hpage =>
      refine ⟨h.ordered, h.classes, fun other hother => ?_⟩
      rcases List.mem_append.mp hother with hother | hother
      · exact h.bindings other hother
      · exact List.mem_singleton.mp hother ▸ hpage
  | hang cls fixture _ =>
      have hlength : (store.graph.add cls.name fixture (store.parentOf cls)).nodes.length =
          store.graph.nodes.length + 1 := PageGraph.length_add _ _ _
      refine ⟨h.ordered.add cls.name fixture fun parent => h.parentOf_lt cls, ?_, ?_⟩
      · intro entry hentry
        rw [hlength]
        rcases List.mem_cons.mp hentry with rfl | hentry
        · exact Nat.lt_succ_self _
        · exact Nat.lt_succ_of_lt (h.classes entry hentry)
      · intro binding hbinding page hpage
        rw [hlength]
        exact Nat.lt_succ_of_lt (h.bindings binding hbinding page hpage)
  | freeze => exact ⟨h.ordered, h.classes, h.bindings⟩

theorem growsAll (h : store.Sound) (hsteps : ReflTransGen Grows store after) : after.Sound := by
  induction hsteps with
  | refl => exact h
  | tail _ hstep ih => exact ih.grows hstep

end Sound

end Store

end FeatureSuite

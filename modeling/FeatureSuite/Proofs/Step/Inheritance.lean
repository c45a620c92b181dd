import FeatureSuite.Proofs.Page.Used
import FeatureSuite.Proofs.Step.Hierarchy
import FeatureSuite.Proofs.Step.Registration

/-!
# Ancestors and inheritance

A node has one parent, the node of the nearest registered class that its class inherits from, while
a class may have several bases. So the nodes above a node are of classes that its class inherits
from. They are all of these exactly if any two of these are related by inheritance.
-/

namespace FeatureSuite

open Relation (ReflTransGen TransGen)

/-! ## Page objects that can run a step -/

/-- Whether a node can run the steps of another one wherever it is used, if it has a fixture: it
qualifies, and it is a candidate unless tags choose others or a node below it is used as well. -/
def PageGraph.CanRun (graph : PageGraph) (j i : Nat) : Prop :=
  ∀ (used : UsedPages) (chosen : Bool), (j, chosen) ∈ used.entries → graph.fixture j ≠ "" →
    (j, chosen) ∈ used.qualified graph i ∧
      ((chosen = true ∨ ∀ other ∈ used.entries, other.2 = false) →
        (∀ other ∈ used.entries, graph.isAncestorOf j other.1 = false) →
        j ∈ used.candidates graph i)

private theorem PageGraph.canRun_of_isAncestorOf {graph : PageGraph} {i j : Nat}
    (h : graph.isAncestorOf i j = true) : graph.CanRun j i := by
  intro used chosen hused hfixture
  have hlineage : i ∈ graph.lineage j := List.contains_iff_mem.mp (Bool.and_eq_true_iff.mp h).2
  have hqualified : (j, chosen) ∈ used.qualified graph i :=
    UsedPages.mem_qualified.mpr ⟨hused, hfixture, hlineage⟩
  have hentries : used.qualified graph i ⊆ used.entries := List.filter_subset_self _
  refine ⟨hqualified, fun hchosen hlast => UsedPages.mem_candidates.mpr ⟨?_, ?_⟩⟩
  · exact UsedPages.mem_preferred.mpr ⟨chosen, hqualified,
      hchosen.imp_right fun hnone other hother => hnone other (hentries hother)⟩
  · intro other hother
    obtain ⟨entry, hentry, rfl⟩ := List.mem_map.mp ((UsedPages.preferred_sublist _).subset hother)
    exact hlast entry (hentries hentry)

/-! ## Nearest classes -/

namespace Store

variable {store later : Store} {cls : PageClass}

private theorem nodes_of_addMarks (scope : Scope) (tags : Option String) (page : Nat)
    (marks : List (PageMark × Handler)) :
    (store.addMarks scope tags page marks).1.graph = store.graph ∧
      (store.addMarks scope tags page marks).1.nodeOfClass = store.nodeOfClass := by
  induction marks generalizing store with
  | nil => exact ⟨rfl, rfl⟩
  | cons mark marks ih =>
      rw [addMarks]
      split
      · rename_i next hnext
        obtain ⟨_, binding, _, rfl⟩ := add_eq_ok hnext
        exact ih
      · exact ⟨rfl, rfl⟩

def pageOf? (store : Store) (number : Nat) : Option Nat :=
  (store.nodeOfClass.find? (·.1 == number)).map (·.2)

theorem parentOf_eq (store : Store) (cls : PageClass) :
    store.parentOf cls = cls.inherited.findSome? store.pageOf? := rfl

private theorem mem_of_pageOf? {number page : Nat} (h : store.pageOf? number = some page) :
    (number, page) ∈ store.nodeOfClass := by
  obtain ⟨entry, hentry, rfl⟩ := Option.map_eq_some_iff.mp h
  have hnumber : entry.1 = number := by simpa using List.find?_some hentry
  exact hnumber ▸ List.mem_of_find?_eq_some hentry

private theorem isSome_pageOf? {number page : Nat} (h : (number, page) ∈ store.nodeOfClass) :
    (store.pageOf? number).isSome := by
  rw [pageOf?, Option.isSome_map, List.find?_isSome]
  exact ⟨(number, page), h, by simp⟩

private theorem parentOf_cons {number page : Nat}
    (hlater : later.nodeOfClass = (number, page) :: store.nodeOfClass)
    (hnumber : number ∉ cls.inherited) : later.parentOf cls = store.parentOf cls := by
  rw [parentOf_eq, parentOf_eq]
  refine findSome?_congr fun i hi => ?_
  have hne : number ≠ i := fun heq => hnumber (heq ▸ hi)
  rw [pageOf?, pageOf?, hlater, List.find?_cons_of_neg (by simpa using hne)]

end Store

/-! ## Registered classes -/

namespace Session

/-- The registered classes with their nodes. -/
def pages (session : Session) : List (PageClass × Nat) :=
  session.defined.flatMap fun cls =>
    (session.store.nodeOfClass.filter (·.1 == cls.number)).map fun entry => (cls, entry.2)

def RegistersOnce (session : Session) : Prop := (session.store.nodeOfClass.map Prod.fst).Nodup

/-- Whether every class is registered behind the registered classes that it inherits from. -/
def RegistersBasesFirst (session : Session) : Prop :=
  ∀ derived ∈ session.pages, ∀ base ∈ session.pages, derived.1.Inherits base.1 → base.2 < derived.2

def RelatesBases (session : Session) (derived base : PageClass) : Prop :=
  ∀ other ∈ session.pages, derived.Inherits other.1 → other.1.Related base

instance (session : Session) : Decidable session.RegistersOnce :=
  inferInstanceAs (Decidable (session.store.nodeOfClass.map Prod.fst).Nodup)

instance (session : Session) : Decidable session.RegistersBasesFirst :=
  inferInstanceAs (Decidable (∀ derived ∈ session.pages, ∀ base ∈ session.pages,
    derived.1.Inherits base.1 → base.2 < derived.2))

variable {session after : Session} {cls : PageClass} {i j : Nat}

theorem mem_pages :
    (cls, i) ∈ session.pages ↔
      cls ∈ session.defined ∧ (cls.number, i) ∈ session.store.nodeOfClass := by
  simp only [pages, List.mem_flatMap, List.mem_map, List.mem_filter, beq_iff_eq]
  constructor
  · rintro ⟨found, hfound, ⟨number, page⟩, ⟨hentry, rfl⟩, heq⟩
    cases heq
    exact ⟨hfound, hentry⟩
  · rintro ⟨hcls, hentry⟩
    exact ⟨cls, hcls, (cls.number, i), ⟨hentry, rfl⟩, rfl⟩

private theorem eq_of_class (honce : session.RegistersOnce) (hi : (cls, i) ∈ session.pages)
    (hj : (cls, j) ∈ session.pages) : i = j := by
  have heq := List.inj_on_of_nodup_map honce (mem_pages.mp hi).2 (mem_pages.mp hj).2 rfl
  exact congrArg Prod.snd heq

private theorem pages_subset (hclasses : session.defined ⊆ after.defined)
    (hnodes : session.store.nodeOfClass ⊆ after.store.nodeOfClass) :
    session.pages ⊆ after.pages := by
  intro ⟨cls, i⟩ hmem
  obtain ⟨hcls, hentry⟩ := mem_pages.mp hmem
  exact mem_pages.mpr ⟨hclasses hcls, hnodes hentry⟩

theorem RegistersBasesFirst.mono (h : after.RegistersBasesFirst)
    (hpages : session.pages ⊆ after.pages) : session.RegistersBasesFirst :=
  fun derived hderived base hbase => h derived (hpages hderived) base (hpages hbase)

end Session

/-! ## What an operation does -/

def Operation.source? : Operation → Option ClassSource
  | define source | definePage _ source _ _ => some source
  | add .. | openScope .. | register .. | build => none

namespace Session

variable {kind : ClassSource → Prop} {session after : Session}
  {cls base other derived : PageClass} {i j : Nat}

/-- A step of a script: a class of a certain kind is defined, a class is registered, or neither. -/
inductive Evolves (kind : ClassSource → Prop) : Session → Session → Prop where
  | define {session : Session} {source : ClassSource} {cls : PageClass} :
      kind source → session.makeClass source = .ok cls →
      Evolves kind session { session with classes := (source.name, cls) :: session.classes }
  | hang {session after : Session} {cls : PageClass} (fixture : String) :
      cls ∈ session.defined → after.classes = session.classes →
      after.store.graph =
        session.store.graph.add cls.name fixture (session.store.parentOf cls) →
      after.store.nodeOfClass =
        (cls.number, session.store.graph.nodes.length) :: session.store.nodeOfClass →
      Evolves kind session after
  | keep {session after : Session} :
      after.classes = session.classes → after.store.graph = session.store.graph →
      after.store.nodeOfClass = session.store.nodeOfClass → Evolves kind session after

private theorem evolves_registerPage (hcls : cls ∈ session.defined) (scope : Scope)
    (fixture : String) (tags : Option String) :
    Evolves kind session (session.registerPage scope cls fixture tags).1 := by
  by_cases hfrozen : session.store.frozen = true
  · have hstore : session.store.addPage scope cls fixture tags =
        (session.store, some (.pageTooLate cls.name)) := by
      rw [Store.addPage, if_pos hfrozen]
    refine .keep rfl ?_ ?_ <;> simp only [registerPage, hstore]
  · refine .hang fixture hcls rfl ?_ ?_
    · simp only [registerPage, Store.addPage, if_neg hfrozen]
      exact (Store.nodes_of_addMarks scope tags _ _).1
    · simp only [registerPage, Store.addPage, if_neg hfrozen]
      exact (Store.nodes_of_addMarks scope tags _ _).2

private theorem Ran.evolves {operation : Operation} {fault : Option ScriptFault}
    (h : session.Ran operation after fault) (hkind : ∀ source ∈ operation.source?, kind source) :
    ReflTransGen (Evolves kind) session after := by
  cases h with
  | refused => exact .refl
  | added _ _ hadd =>
      obtain ⟨_, binding, _, rfl⟩ := Store.add_eq_ok hadd
      exact .single (.keep rfl rfl rfl)
  | opened _ => exact .single (.keep rfl rfl rfl)
  | defined hclass => exact .single (.define (hkind _ rfl) hclass)
  | stranded hclass _ => exact .single (.define (hkind _ rfl) hclass)
  | definedPage hclass _ hresult =>
      have hdefine := Evolves.define (hkind _ rfl) hclass
      rw [hresult]
      exact .tail (.single hdefine) (evolves_registerPage List.mem_cons_self ..)
  | registeredPage hclass _ hresult =>
      rw [hresult]
      exact .single (evolves_registerPage (mem_defined_of_pageClass hclass) ..)
  | built => exact .single (.keep rfl rfl rfl)

private theorem evolves_runEach (session : Session) {operations : List Operation}
    (hkind : ∀ operation ∈ operations, ∀ source ∈ operation.source?, kind source) :
    ReflTransGen (Evolves kind) session (session.runEach operations) := by
  induction operations generalizing session with
  | nil => exact .refl
  | cons operation operations ih =>
      obtain ⟨hoperation, hrest⟩ := List.forall_mem_cons.mp hkind
      exact ((session.ran_run operation).evolves hoperation).trans (ih (session.run operation).1 hrest)

/-! ## Nodes and the classes above them -/

/-- The classes are a hierarchy, every node is of one of them, and if bases are registered first,
the parent of a node is of the nearest class that is registered, be it since. -/
structure Rooted (session : Session) : Prop where
  hierarchy : Hierarchy session.defined
  exists_class : ∀ entry ∈ session.store.nodeOfClass,
    ∃ cls ∈ session.defined, cls.number = entry.1
  page_lt : ∀ entry ∈ session.store.nodeOfClass, entry.2 < session.store.graph.nodes.length
  nodup_nodes : (session.store.nodeOfClass.map Prod.snd).Nodup
  parent_eq : session.RegistersBasesFirst → ∀ cls i, (cls, i) ∈ session.pages →
    session.store.graph.parent? i = session.store.parentOf cls

namespace Rooted

private theorem start (defaults : Scope) : (Session.start defaults).Rooted where
  hierarchy := .empty
  exists_class _ h := nomatch h
  page_lt _ h := nomatch h
  nodup_nodes := List.nodup_nil
  parent_eq _ _ _ h := nomatch h

private theorem define (h : session.Rooted) {source : ClassSource}
    (hmake : session.makeClass source = .ok cls) :
    Rooted { session with classes := (source.name, cls) :: session.classes } := by
  obtain ⟨bases, _, hextends⟩ := extends_of_makeClass hmake
  have hpages : session.pages ⊆
      pages { session with classes := (source.name, cls) :: session.classes } :=
    pages_subset (List.subset_cons_self cls _) (List.Subset.refl _)
  refine ⟨h.hierarchy.define hextends, fun entry hentry => ?_, h.page_lt, h.nodup_nodes, ?_⟩
  · obtain ⟨other, hother, hnumber⟩ := h.exists_class entry hentry
    exact ⟨other, List.mem_cons_of_mem cls hother, hnumber⟩
  · intro hfirst other i hmem
    obtain ⟨hother, hentry⟩ := mem_pages.mp hmem
    rcases List.mem_cons.mp hother with rfl | hother
    · -- The number of a new class is that of no node.
      obtain ⟨older, holder, hnumber⟩ := h.exists_class _ hentry
      have hlt : older.number < session.defined.length := h.hierarchy.number_lt older holder
      exact absurd (hnumber.trans hextends.number_eq) (Nat.ne_of_lt hlt)
    · exact h.parent_eq (hfirst.mono hpages) other i (mem_pages.mpr ⟨hother, hentry⟩)

private theorem hang (h : session.Rooted) {fixture : String} (hcls : cls ∈ session.defined)
    (hclasses : after.classes = session.classes)
    (hgraph : after.store.graph =
      session.store.graph.add cls.name fixture (session.store.parentOf cls))
    (hnodes : after.store.nodeOfClass =
      (cls.number, session.store.graph.nodes.length) :: session.store.nodeOfClass) :
    after.Rooted := by
  have hdefined : after.defined = session.defined := by rw [defined, hclasses, defined]
  have hlength : after.store.graph.nodes.length = session.store.graph.nodes.length + 1 := by
    rw [hgraph, PageGraph.length_add]
  have hpages : session.pages ⊆ after.pages :=
    pages_subset (hdefined ▸ List.Subset.refl _) (hnodes ▸ List.subset_cons_self _ _)
  have hnew : (cls, session.store.graph.nodes.length) ∈ after.pages :=
    mem_pages.mpr ⟨hdefined ▸ hcls, hnodes ▸ List.mem_cons_self⟩
  refine ⟨hdefined ▸ h.hierarchy, ?_, ?_, ?_, fun hfirst other i hmem => ?_⟩
  · rw [hnodes, hdefined]
    exact List.forall_mem_cons.mpr ⟨⟨cls, hcls, rfl⟩, h.exists_class⟩
  · rw [hnodes, hlength]
    exact List.forall_mem_cons.mpr
      ⟨Nat.lt_succ_self _, fun entry hentry => Nat.lt_succ_of_lt (h.page_lt entry hentry)⟩
  · rw [hnodes, List.map_cons]
    refine List.nodup_cons.mpr ⟨fun hmem => ?_, h.nodup_nodes⟩
    obtain ⟨entry, hentry, hpage⟩ := List.mem_map.mp hmem
    exact absurd hpage (Nat.ne_of_lt (h.page_lt entry hentry))
  · obtain ⟨hother, hentry⟩ := mem_pages.mp hmem
    rw [hdefined] at hother
    rw [hnodes] at hentry
    rw [hgraph, PageGraph.parent?_add]
    rcases List.mem_cons.mp hentry with heq | hentry
    · obtain ⟨hnumber, rfl⟩ := Prod.mk.inj heq
      obtain rfl := h.hierarchy.eq_of_number hother hcls hnumber
      rw [if_pos rfl, Store.parentOf_cons hnodes (h.hierarchy.not_inherits_self hcls)]
    · have hlt : i < session.store.graph.nodes.length := h.page_lt _ hentry
      -- The new class is no base of an older one, else it would have been registered first.
      have hnot : ¬ other.Inherits cls := fun hinherits =>
        Nat.lt_asymm hlt (hfirst (other, i) hmem (cls, _) hnew hinherits)
      rw [if_neg (Nat.ne_of_lt hlt), Store.parentOf_cons hnodes hnot]
      exact h.parent_eq (hfirst.mono hpages) other i (mem_pages.mpr ⟨hother, hentry⟩)

private theorem evolves (h : session.Rooted)
    (hstep : Evolves kind session after) : after.Rooted := by
  cases hstep with
  | define _ hmake => exact h.define hmake
  | hang fixture hcls hclasses hgraph hnodes => exact h.hang hcls hclasses hgraph hnodes
  | keep hclasses hgraph hnodes =>
      have hdefined : after.defined = session.defined := by rw [defined, hclasses, defined]
      have hpages : after.pages = session.pages := by rw [pages, hdefined, hnodes, pages]
      refine ⟨hdefined ▸ h.hierarchy, ?_, ?_, hnodes ▸ h.nodup_nodes, fun hfirst other i hmem => ?_⟩
      · rw [hnodes, hdefined]
        exact h.exists_class
      · rw [hnodes, hgraph]
        exact h.page_lt
      · have hparent : after.store.parentOf other = session.store.parentOf other := by
          rw [Store.parentOf, hnodes, Store.parentOf]
        rw [hgraph, hparent]
        exact h.parent_eq (hfirst.mono (hpages ▸ List.Subset.refl _)) other i (hpages ▸ hmem)

private theorem evolvesAll (h : session.Rooted)
    (hsteps : ReflTransGen (Evolves kind) session after) :
    after.Rooted := by
  induction hsteps with
  | refl => exact h
  | tail _ hstep ih => exact ih.evolves hstep

private theorem eq_of_node (h : session.Rooted) (hcls : (cls, i) ∈ session.pages)
    (hother : (other, i) ∈ session.pages) : cls = other := by
  obtain ⟨hcls, hentry⟩ := mem_pages.mp hcls
  obtain ⟨hother, hentry'⟩ := mem_pages.mp hother
  have heq := List.inj_on_of_nodup_map h.nodup_nodes hentry hentry' rfl
  exact h.hierarchy.eq_of_number hcls hother (congrArg Prod.fst heq)

/-- No registered class stands between a class and the class of its parent. -/
theorem exists_parent (h : session.Rooted) (hfirst : session.RegistersBasesFirst)
    (hderived : (derived, j) ∈ session.pages) (hparent : session.store.graph.parent? j = some i) :
    ∃ parent, (parent, i) ∈ session.pages ∧ derived.Inherits parent ∧
      ∀ base ∈ session.pages, derived.Inherits base.1 → ¬ base.1.Inherits parent := by
  have hmem := (mem_pages.mp hderived).1
  rw [h.parent_eq hfirst derived j hderived, Store.parentOf_eq] at hparent
  obtain ⟨number, hnumber, hfound, hfront⟩ :=
    findSome?_first (h.hierarchy.nodup_inherited hmem) hparent
  have hentry := Store.mem_of_pageOf? hfound
  obtain ⟨parent, hparent, rfl⟩ := h.exists_class _ hentry
  refine ⟨parent, mem_pages.mpr ⟨hparent, hentry⟩, hnumber, fun base hbase hinherits hup => ?_⟩
  obtain ⟨hdefined, hregistered⟩ := mem_pages.mp hbase
  have hnone := hfront _ (h.hierarchy.pair_sublist hmem hdefined hinherits hup)
  have hsome := Store.isSome_pageOf? hregistered
  rw [hnone] at hsome
  cases hsome

private theorem isSome_parent? (h : session.Rooted) (hfirst : session.RegistersBasesFirst)
    (hbase : (base, i) ∈ session.pages) (hderived : (derived, j) ∈ session.pages)
    (hinherits : derived.Inherits base) : (session.store.graph.parent? j).isSome := by
  rw [h.parent_eq hfirst derived j hderived, Store.parentOf_eq, List.findSome?_isSome_iff]
  exact ⟨base.number, hinherits, Store.isSome_pageOf? (mem_pages.mp hbase).2⟩

private theorem inherits_of_below (h : session.Rooted) (hfirst : session.RegistersBasesFirst)
    (hup : TransGen session.store.graph.Below j i) (hbase : (base, i) ∈ session.pages)
    (hderived : (derived, j) ∈ session.pages) : derived.Inherits base := by
  induction hup using TransGen.head_induction_on generalizing derived with
  | single hparent =>
      obtain ⟨parent, hmem, hinherits, _⟩ := h.exists_parent hfirst hderived hparent
      exact h.eq_of_node hmem hbase ▸ hinherits
  | head hparent _ ih =>
      obtain ⟨parent, hmem, hinherits, _⟩ := h.exists_parent hfirst hderived hparent
      exact h.hierarchy.inherits_trans (mem_pages.mp hderived).1 (mem_pages.mp hmem).1 hinherits
        (ih hmem)

private theorem below_of_inherits (h : session.Rooted) (honce : session.RegistersOnce)
    (hfirst : session.RegistersBasesFirst) (hordered : session.store.graph.Ordered)
    (hbase : (base, i) ∈ session.pages) (hderived : (derived, j) ∈ session.pages)
    (hinherits : derived.Inherits base) (hrelated : session.RelatesBases derived base) :
    TransGen session.store.graph.Below j i := by
  -- Up to the parent, which has a smaller number; the class cannot be between the two.
  induction j using Nat.strongRecOn generalizing derived with
  | _ j ih =>
      obtain ⟨page, hparent⟩ :=
        Option.isSome_iff_exists.mp (h.isSome_parent? hfirst hbase hderived hinherits)
      obtain ⟨parent, hmem, hnearest, hbetween⟩ := h.exists_parent hfirst hderived hparent
      rcases hrelated (parent, page) hmem hnearest with rfl | hup | hdown
      · exact .single (eq_of_class honce hmem hbase ▸ hparent)
      · have hkept : session.RelatesBases parent base := fun other hother hinherited =>
          hrelated other hother (h.hierarchy.inherits_trans (mem_pages.mp hderived).1
            (mem_pages.mp hmem).1 hnearest hinherited)
        exact .head hparent (ih page (hordered.parent_lt hparent) hmem hup hkept)
      · exact absurd hdown (hbetween (base, i) hbase hinherits)

private theorem related_of_below (h : session.Rooted) (hfirst : session.RegistersBasesFirst)
    {page : Nat} (hi : TransGen session.store.graph.Below page i)
    (hj : TransGen session.store.graph.Below page j) (hbase : (base, i) ∈ session.pages)
    (hother : (other, j) ∈ session.pages) : base.Related other := by
  have hleads {cls cls' : PageClass} {k l : Nat} (hcls : (cls, k) ∈ session.pages)
      (hcls' : (cls', l) ∈ session.pages) (hup : ReflTransGen session.store.graph.Below k l) :
      cls.Related cls' := by
    rcases Relation.reflTransGen_iff_eq_or_transGen.mp hup with rfl | hup
    · exact .inl (h.eq_of_node hcls hcls')
    · exact .inr (.inl (h.inherits_of_below hfirst hup hcls' hcls))
  -- Of two nodes on the way up from the same node, one is on the way up from the other.
  rcases ReflTransGen.total_of_right_unique session.store.graph.rightUnique_below
    hi.to_reflTransGen hj.to_reflTransGen with hup | hup
  · exact hleads hbase hother hup
  · exact (hleads hother hbase hup).symm

end Rooted

private theorem rooted_runEach (defaults : Scope) (operations : List Operation) :
    ((start defaults).runEach operations).Rooted := by
  have hsteps : ReflTransGen (Evolves fun _ => True) (start defaults)
      ((start defaults).runEach operations) :=
    evolves_runEach (start defaults) fun _ _ _ _ => trivial
  exact (Rooted.start defaults).evolvesAll hsteps

def SingleBases (operations : List Operation) : Prop :=
  ∀ operation ∈ operations, ∀ source ∈ operation.source?, source.bases.length ≤ 1

private theorem isLinear_runEach (defaults : Scope) {operations : List Operation}
    (hsingle : SingleBases operations) :
    Hierarchy.IsLinear ((start defaults).runEach operations).defined := by
  have hsteps := evolves_runEach (start defaults) hsingle
  generalize (start defaults).runEach operations = session at hsteps
  suffices hboth : session.Rooted ∧ Hierarchy.IsLinear session.defined from hboth.2
  induction hsteps with
  | refl => exact ⟨.start defaults, Hierarchy.isLinear_empty⟩
  | tail _ hstep ih =>
      obtain ⟨hrooted, hlinear⟩ := ih
      refine ⟨hrooted.evolves hstep, ?_⟩
      cases hstep with
      | define hkind hmake =>
          obtain ⟨bases, hnames, hextends⟩ := extends_of_makeClass hmake
          exact hlinear.define hrooted.hierarchy hextends (hnames.length_eq ▸ hkind)
      | hang fixture _ hclasses => rwa [defined, hclasses]
      | keep hclasses => rwa [defined, hclasses]

/-- If every class is registered at most once and behind the registered classes that it inherits
from, the nodes above a node are of classes that its class inherits from, and it can run their
steps. The node of a class that it inherits from is above it if the class is related to the others
of them. So none is missing exactly if any two of them are related, as they are if no class has two
bases. -/
theorem ancestors_of_runEach (defaults : Scope) (operations : List Operation) :
    let session := (start defaults).runEach operations
    let graph := session.store.graph
    session.RegistersOnce → session.RegistersBasesFirst →
      ∀ derived j, (derived, j) ∈ session.pages →
        (∀ base i, (base, i) ∈ session.pages → graph.isAncestorOf i j = true →
          derived.Inherits base ∧ graph.CanRun j i) ∧
        (∀ base i, (base, i) ∈ session.pages → derived.Inherits base →
          session.RelatesBases derived base → graph.isAncestorOf i j = true) ∧
        ((∀ base i, (base, i) ∈ session.pages → derived.Inherits base →
            graph.isAncestorOf i j = true) ↔
          ∀ base i, (base, i) ∈ session.pages → derived.Inherits base →
            session.RelatesBases derived base) ∧
        (SingleBases operations → ∀ base i, (base, i) ∈ session.pages →
          (graph.isAncestorOf i j = true ↔ derived.Inherits base)) := by
  intro session graph honce hfirst derived j hderived
  have hrooted : session.Rooted := rooted_runEach defaults operations
  have hordered : graph.Ordered :=
    (Store.Sound.empty.growsAll ((start defaults).grows_runEach operations)).ordered
  have hinherits (base : PageClass) (i : Nat) (hbase : (base, i) ∈ session.pages)
      (hij : graph.isAncestorOf i j = true) : derived.Inherits base :=
    hrooted.inherits_of_below hfirst (hordered.isAncestorOf_iff.mp hij) hbase hderived
  have habove (base : PageClass) (i : Nat) (hbase : (base, i) ∈ session.pages)
      (hbelow : derived.Inherits base) (hrelated : session.RelatesBases derived base) :
      graph.isAncestorOf i j = true :=
    hordered.isAncestorOf_iff.mpr
      (hrooted.below_of_inherits honce hfirst hordered hbase hderived hbelow hrelated)
  refine ⟨fun base i hbase hij => ⟨hinherits base i hbase hij, ?_⟩, habove, ⟨?_, ?_⟩, ?_⟩
  · exact PageGraph.canRun_of_isAncestorOf hij
  · intro hall base i hbase hbelow other hother hbelow'
    have hi := hordered.isAncestorOf_iff.mp (hall base i hbase hbelow)
    have hk := hordered.isAncestorOf_iff.mp (hall other.1 other.2 hother hbelow')
    exact hrooted.related_of_below hfirst hk hi hother hbase
  · exact fun hrelated base i hbase hbelow =>
      habove base i hbase hbelow (hrelated base i hbase hbelow)
  · intro hsingle base i hbase
    have hlinear := isLinear_runEach defaults hsingle
    refine ⟨hinherits base i hbase, fun hbelow => habove base i hbase hbelow ?_⟩
    intro other hother hbelow'
    exact hlinear derived (mem_pages.mp hderived).1 other.1 (mem_pages.mp hother).1
      base (mem_pages.mp hbase).1 hbelow' hbelow

/-- A page object and another one that inherits from it through a class that is none. -/
def lineOfPages : List Operation :=
  [.definePage "" { name := "Page" } "" none,
    .define { name := "Form", bases := ["Page"] },
    .definePage "" { name := "Login", bases := ["Form"] } "login" none]

theorem ancestors_of_line :
    let session := (start {}).runEach lineOfPages
    session.RegistersOnce ∧ session.RegistersBasesFirst ∧ SingleBases lineOfPages ∧
      ∃ base derived, (base, 0) ∈ session.pages ∧ (derived, 1) ∈ session.pages ∧
        derived.Inherits base ∧ session.store.graph.isAncestorOf 0 1 = true ∧
        session.store.graph.CanRun 1 0 := by
  intro session
  have honce : session.RegistersOnce := by decide +kernel
  have hfirst : session.RegistersBasesFirst := by decide +kernel
  have hsingle : SingleBases lineOfPages := by simp [SingleBases, lineOfPages, Operation.source?]
  let base : PageClass := { number := 0, name := "Page", order := [0] }
  let derived : PageClass := { number := 2, name := "Login", order := [2, 1, 0] }
  have hbase : (base, 0) ∈ session.pages := by decide +kernel
  have hderived : (derived, 1) ∈ session.pages := by decide +kernel
  have hinherits : derived.Inherits base := by decide
  obtain ⟨hruns, _, _, hline⟩ := ancestors_of_runEach {} lineOfPages honce hfirst derived 1 hderived
  have habove := (hline hsingle base 0 hbase).mpr hinherits
  exact ⟨honce, hfirst, hsingle, base, derived, hbase, hderived, hinherits, habove,
    (hruns base 0 hbase habove).2⟩

def mixedPages : List Operation :=
  [.definePage "" { name := "Search" } "search" none,
    .definePage "" { name := "Cart" } "cart" none,
    .definePage "" { name := "Shop", bases := ["Search", "Cart"] } "shop" none]

/-- A node that is not above one of a class that inherits from its class, so that the page object
runs none of its steps. -/
theorem exists_base_not_above :
    let session := (start {}).runEach mixedPages
    session.RegistersOnce ∧ session.RegistersBasesFirst ∧
      ∃ base derived, (base, 1) ∈ session.pages ∧ (derived, 2) ∈ session.pages ∧
        derived.Inherits base ∧ session.store.graph.isAncestorOf 1 2 = false ∧
        (({} : UsedPages).use 2 false).candidates session.store.graph 1 = [] := by
  intro session
  let base : PageClass := { number := 1, name := "Cart", order := [1] }
  let derived : PageClass := { number := 2, name := "Shop", order := [2, 0, 1] }
  exact ⟨by decide +kernel, by decide +kernel, base, derived, by decide +kernel,
    by decide +kernel, by decide, by decide +kernel, by decide +kernel⟩

end Session

end FeatureSuite

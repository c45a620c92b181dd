import FeatureSuite.Proofs.Aligned
import FeatureSuite.Proofs.Outcome
import FeatureSuite.Proofs.Page.Linearization
import FeatureSuite.Step.Script

/-!
# The classes of a script

Classes are numbered as they are defined. A class inherits from its bases and from all that these
inherit from, and where it inherits from a class, it keeps the order of that class.
-/

namespace FeatureSuite

namespace PageClass

def inherited (cls : PageClass) : List Nat := cls.order.drop 1

/-- Whether a class is a strict subclass of another one. -/
def Inherits (derived base : PageClass) : Prop := base.number ∈ derived.inherited

instance (derived base : PageClass) : Decidable (derived.Inherits base) :=
  inferInstanceAs (Decidable (base.number ∈ derived.inherited))

def Related (cls other : PageClass) : Prop :=
  cls = other ∨ cls.Inherits other ∨ other.Inherits cls

theorem Related.symm {cls other : PageClass} (h : cls.Related other) : other.Related cls :=
  h.imp Eq.symm Or.symm

/-- A class that may be put in front of others, given its bases among them. -/
structure Extends (cls : PageClass) (classes bases : List PageClass) : Prop where
  bases_subset : bases ⊆ classes
  number_eq : cls.number = classes.length
  order_eq : cls.order = cls.number :: cls.inherited
  nodup : cls.inherited.Nodup
  sublist : ∀ base ∈ bases, base.order.Sublist cls.inherited
  exists_base : ∀ i ∈ cls.inherited, ∃ base ∈ bases, i = base.number ∨ i ∈ base.order

end PageClass

/-- Classes that inherit from one another: each is searched in front of what it inherits from, and
that is searched in the order of every class among it. -/
structure Hierarchy (classes : List PageClass) : Prop where
  number_lt : ∀ cls ∈ classes, cls.number < classes.length
  nodup_numbers : (classes.map (·.number)).Nodup
  order_eq : ∀ cls ∈ classes, cls.order = cls.number :: cls.inherited
  nodup_order : ∀ cls ∈ classes, cls.order.Nodup
  exists_base : ∀ cls ∈ classes, ∀ i ∈ cls.inherited,
    ∃ base ∈ classes, base.number = i ∧ base.order.Sublist cls.inherited

namespace Hierarchy

variable {classes bases : List PageClass} {cls base other : PageClass}

theorem empty : Hierarchy [] where
  number_lt _ h := nomatch h
  nodup_numbers := List.nodup_nil
  order_eq _ h := nomatch h
  nodup_order _ h := nomatch h
  exists_base _ h := nomatch h

theorem eq_of_number (h : Hierarchy classes) (hcls : cls ∈ classes) (hother : other ∈ classes)
    (hnumber : cls.number = other.number) : cls = other :=
  List.inj_on_of_nodup_map h.nodup_numbers hcls hother hnumber

theorem not_inherits_self (h : Hierarchy classes) (hcls : cls ∈ classes) : ¬ cls.Inherits cls := by
  have hnodup := h.nodup_order cls hcls
  rw [h.order_eq cls hcls] at hnodup
  exact (List.nodup_cons.mp hnodup).1

theorem nodup_inherited (h : Hierarchy classes) (hcls : cls ∈ classes) : cls.inherited.Nodup := by
  have hnodup := h.nodup_order cls hcls
  rw [h.order_eq cls hcls] at hnodup
  exact (List.nodup_cons.mp hnodup).2

private theorem sublist_of_inherits (h : Hierarchy classes) (hcls : cls ∈ classes)
    (hbase : base ∈ classes)
    (hinherits : cls.Inherits base) : base.order.Sublist cls.inherited := by
  obtain ⟨other, hother, hnumber, hsublist⟩ := h.exists_base cls hcls _ hinherits
  exact h.eq_of_number hother hbase hnumber ▸ hsublist

theorem inherits_trans (h : Hierarchy classes) (hcls : cls ∈ classes) (hbase : base ∈ classes)
    (hinherits : cls.Inherits base) (hother : base.Inherits other) : cls.Inherits other :=
  (h.sublist_of_inherits hcls hbase hinherits).subset (List.mem_of_mem_drop hother)

/-- If one of two inherited classes inherits from the other, it is searched first. -/
theorem pair_sublist (h : Hierarchy classes) (hcls : cls ∈ classes) (hbase : base ∈ classes)
    (hinherits : cls.Inherits base) (hother : base.Inherits other) :
    [base.number, other.number].Sublist cls.inherited := by
  have hpair : [base.number, other.number].Sublist base.order := by
    rw [h.order_eq base hbase]
    exact (List.singleton_sublist.mpr hother).cons_cons base.number
  exact hpair.trans (h.sublist_of_inherits hcls hbase hinherits)

private theorem inherited_lt (h : Hierarchy classes) (hcls : cls.Extends classes bases) {i : Nat}
    (hi : i ∈ cls.inherited) : i < cls.number := by
  rw [hcls.number_eq]
  obtain ⟨base, hbase, hi⟩ := hcls.exists_base i hi
  have hmem := hcls.bases_subset hbase
  rcases hi with rfl | hi
  · exact h.number_lt base hmem
  · rw [h.order_eq base hmem, List.mem_cons] at hi
    rcases hi with rfl | hi
    · exact h.number_lt base hmem
    · obtain ⟨other, hother, rfl, _⟩ := h.exists_base base hmem i hi
      exact h.number_lt other hother

theorem define (h : Hierarchy classes) (hcls : cls.Extends classes bases) :
    Hierarchy (cls :: classes) where
  number_lt := by
    refine List.forall_mem_cons.mpr ⟨?_, fun other hother => ?_⟩
    · simp [hcls.number_eq]
    · exact Nat.lt_succ_of_lt (h.number_lt other hother)
  nodup_numbers := by
    rw [List.map_cons]
    refine List.nodup_cons.mpr ⟨fun hmem => ?_, h.nodup_numbers⟩
    obtain ⟨other, hother, hnumber⟩ := List.mem_map.mp hmem
    have hlt : other.number < cls.number := hcls.number_eq ▸ h.number_lt other hother
    exact absurd hnumber (Nat.ne_of_lt hlt)
  order_eq := List.forall_mem_cons.mpr ⟨hcls.order_eq, h.order_eq⟩
  nodup_order := by
    refine List.forall_mem_cons.mpr ⟨?_, h.nodup_order⟩
    rw [hcls.order_eq]
    exact List.nodup_cons.mpr ⟨fun hmem => Nat.lt_irrefl _ (h.inherited_lt hcls hmem), hcls.nodup⟩
  exists_base := by
    refine List.forall_mem_cons.mpr ⟨fun i hi => ?_, fun other hother i hi => ?_⟩
    · obtain ⟨base, hbase, hi⟩ := hcls.exists_base i hi
      have hmem := hcls.bases_subset hbase
      have hkept := hcls.sublist base hbase
      rw [h.order_eq base hmem, List.mem_cons, or_self_left] at hi
      rcases hi with rfl | hi
      · exact ⟨base, List.mem_cons_of_mem cls hmem, rfl, hkept⟩
      · obtain ⟨other, hother, hnumber, hsublist⟩ := h.exists_base base hmem i hi
        have hdrop : base.inherited.Sublist base.order := List.drop_sublist 1 base.order
        exact ⟨other, List.mem_cons_of_mem cls hother, hnumber, hsublist.trans (hdrop.trans hkept)⟩
    · obtain ⟨base, hbase, hfound⟩ := h.exists_base other hother i hi
      exact ⟨base, List.mem_cons_of_mem cls hbase, hfound⟩

/-- A new class inherits from its bases and from what these inherit from, and from nothing else. -/
theorem inherits_iff (h : Hierarchy classes) (hcls : cls.Extends classes bases)
    (hother : other ∈ classes) :
    cls.Inherits other ↔ ∃ base ∈ bases, other = base ∨ base.Inherits other := by
  constructor
  · intro hinherits
    obtain ⟨base, hbase, hi⟩ := hcls.exists_base _ hinherits
    have hmem := hcls.bases_subset hbase
    rw [h.order_eq base hmem, List.mem_cons, or_self_left] at hi
    exact ⟨base, hbase, hi.imp_left (h.eq_of_number hother hmem)⟩
  · rintro ⟨base, hbase, hother⟩
    have hkept := hcls.sublist base hbase
    rw [h.order_eq base (hcls.bases_subset hbase)] at hkept
    rcases hother with rfl | hother
    · exact hkept.subset List.mem_cons_self
    · exact hkept.subset (List.mem_cons_of_mem base.number hother)

def IsLinear (classes : List PageClass) : Prop :=
  ∀ cls ∈ classes, ∀ base ∈ classes, ∀ other ∈ classes,
    cls.Inherits base → cls.Inherits other → base.Related other

theorem isLinear_empty : IsLinear [] := fun _ h => nomatch h

theorem IsLinear.define (hlinear : IsLinear classes) (h : Hierarchy classes)
    (hcls : cls.Extends classes bases) (hsingle : bases.length ≤ 1) :
    IsLinear (cls :: classes) := by
  have hnew : ∀ derived ∈ cls :: classes, ¬ derived.Inherits cls := by
    refine List.forall_mem_cons.mpr ⟨(h.define hcls).not_inherits_self List.mem_cons_self, ?_⟩
    intro derived hderived hinherits
    obtain ⟨base, hbase, hnumber, _⟩ := h.exists_base derived hderived _ hinherits
    exact absurd (hnumber.trans hcls.number_eq) (Nat.ne_of_lt (h.number_lt base hbase))
  intro derived hderived base hmem other hmem' hinherits hinherits'
  have hbase : base ∈ classes := (List.mem_cons.mp hmem).resolve_left fun heq =>
    hnew derived hderived (heq ▸ hinherits)
  have hother : other ∈ classes := (List.mem_cons.mp hmem').resolve_left fun heq =>
    hnew derived hderived (heq ▸ hinherits')
  rcases List.mem_cons.mp hderived with rfl | hderived
  · -- Both are the only base of the new class or above it.
    obtain ⟨direct, hdirect, hup⟩ := (h.inherits_iff hcls hbase).mp hinherits
    obtain ⟨direct', hdirect', hup'⟩ := (h.inherits_iff hcls hother).mp hinherits'
    obtain rfl : direct = direct' := by
      match bases, hsingle, hdirect, hdirect' with
      | [_], _, hdirect, hdirect' =>
          exact (List.mem_singleton.mp hdirect).trans (List.mem_singleton.mp hdirect').symm
    rcases hup with rfl | hup
    · exact hup'.imp Eq.symm .inl
    · rcases hup' with rfl | hup'
      · exact .inr (.inr hup)
      · exact hlinear direct (hcls.bases_subset hdirect) base hbase other hother hup hup'
  · exact hlinear derived hderived base hbase other hother hinherits hinherits'

end Hierarchy

namespace Session

variable {session : Session}

/-- All classes that were defined, also those behind a later one of the same name. -/
def defined (session : Session) : List PageClass := session.classes.map (·.2)

theorem mem_defined_of_pageClass {name : String} {cls : PageClass}
    (h : session.pageClass name = .ok cls) : cls ∈ session.defined := by
  unfold pageClass at h
  split at h
  · rename_i found hfound
    cases h
    exact List.mem_map_of_mem (List.mem_of_find?_eq_some hfound)
  · cases h

theorem extends_of_makeClass {source : ClassSource} {cls : PageClass}
    (h : session.makeClass source = .ok cls) :
    ∃ bases, List.Forall₂ (fun name base => session.pageClass name = .ok base)
        source.bases bases ∧ cls.Extends session.defined bases := by
  unfold makeClass at h
  obtain ⟨bases, hbases, h⟩ := bind_eq_ok.mp h
  obtain ⟨methods, _, h⟩ := bind_eq_ok.mp h
  have hnames := mapM_eq_ok.mp hbases
  dsimp only at h
  split at h
  · cases h
  · rename_i order horder
    cases h
    obtain ⟨rest, rfl, hnodup, _, hsublist, hmem⟩ := linearize_eq_some horder
    refine ⟨bases, hnames, ?_, ?_, rfl, hnodup, ?_, ?_⟩
    · intro base hbase
      obtain ⟨name, _, hname⟩ := exists_of_mem_right hnames hbase
      exact mem_defined_of_pageClass hname
    · simp [defined]
    · exact fun base hbase => hsublist _ (List.mem_map_of_mem hbase)
    · intro i hi
      rcases hmem i hi with hi | ⟨order, horder, hi⟩
      · obtain ⟨base, hbase, rfl⟩ := List.mem_map.mp hi
        exact ⟨base, hbase, .inl rfl⟩
      · obtain ⟨base, hbase, rfl⟩ := List.mem_map.mp horder
        exact ⟨base, hbase, .inr hi⟩

end Session

end FeatureSuite

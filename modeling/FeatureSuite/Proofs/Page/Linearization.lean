import FeatureSuite.Page.Linearization
import Mathlib.Data.List.Nodup

/-!
# What a linearization keeps

A class that is taken stands at the start of a list and behind the first place of none. So it is
gone from all lists afterwards: the merged list has no repetitions, and every list is a part of it,
in its order.
-/

namespace FeatureSuite

variable {lists : List (List Nat)} {list result bases order : List Nat} {i j : Nat}

private theorem not_mem_drop_of_isDelayed (h : isDelayed lists i = false) (hlist : list ∈ lists) :
    i ∉ list.drop 1 := by
  have hall : ∀ list ∈ lists, (list.drop 1).contains i = false := by simpa [isDelayed] using h
  simpa using hall list hlist

theorem mem_takeFirst :
    list ∈ takeFirst i lists ↔
      list ≠ [] ∧
        ∃ whole ∈ lists, (if whole.head? = some i then whole.drop 1 else whole) = list := by
  simp [takeFirst, and_comm]

private theorem sublist_cons_of_takeFirst (h : ∀ list ∈ takeFirst i lists, list.Sublist result)
    (hlist : list ∈ lists) : list.Sublist (i :: result) := by
  have hrest : (if list.head? = some i then list.drop 1 else list).Sublist result := by
    by_cases hempty : (if list.head? = some i then list.drop 1 else list) = []
    · exact hempty ▸ List.nil_sublist result
    · exact h _ (mem_takeFirst.mpr ⟨hempty, list, hlist, rfl⟩)
  split at hrest
  · rename_i hhead
    cases list with
    | nil => cases hhead
    | cons first rest =>
        cases hhead
        exact hrest.cons_cons i
  · exact hrest.cons i

private theorem not_mem_of_mem_takeFirst (h : isDelayed lists i = false)
    (hlist : list ∈ takeFirst i lists) : i ∉ list := by
  obtain ⟨_, whole, hwhole, rfl⟩ := mem_takeFirst.mp hlist
  have hdrop : i ∉ whole.drop 1 := not_mem_drop_of_isDelayed h hwhole
  split
  · exact hdrop
  · rename_i hhead
    cases whole with
    | nil => exact List.not_mem_nil
    | cons first rest =>
        rw [List.mem_cons, not_or]
        exact ⟨fun hi => hhead (congrArg some hi.symm), hdrop⟩

/-- Lists merged into one: a class at the start of a list, behind the first place of none, goes in
front of the rest. -/
inductive Merges : List (List Nat) → List Nat → Prop where
  | done : Merges [] []
  | take {lists : List (List Nat)} {list result : List Nat} {i : Nat} :
      list ∈ lists → list.head? = some i → isDelayed lists i = false →
      Merges (takeFirst i lists) result → Merges lists (i :: result)

private theorem merges_of_mergeOrders {fuel : Nat} (h : mergeOrders fuel lists = some result) :
    Merges lists result := by
  induction fuel generalizing lists result with
  | zero =>
      cases lists with
      | nil =>
          cases h
          exact .done
      | cons list lists => cases h
  | succ fuel ih =>
      cases lists with
      | nil =>
          cases h
          exact .done
      | cons first lists =>
          rw [mergeOrders] at h
          obtain ⟨i, hi, h⟩ := Option.bind_eq_some_iff.mp h
          obtain ⟨rest, hrest, h⟩ := Option.bind_eq_some_iff.mp h
          cases h
          obtain ⟨list, hlist, hhead⟩ := List.mem_filterMap.mp (List.mem_of_find?_eq_some hi)
          have hdelayed : isDelayed (first :: lists) i = false := by
            simpa using List.find?_some hi
          exact .take hlist hhead hdelayed (ih hrest)
          · intro h'
            cases h'

namespace Merges

private theorem sublist (h : Merges lists result) (hlist : list ∈ lists) : list.Sublist result := by
  induction h generalizing list with
  | done => cases hlist
  | take _ _ _ _ ih => exact sublist_cons_of_takeFirst (fun _ => ih) hlist

private theorem exists_mem (h : Merges lists result)
    (hj : j ∈ result) : ∃ list ∈ lists, j ∈ list := by
  induction h with
  | done => cases hj
  | @take lists list result i hlist hhead _ _ ih =>
      rcases List.mem_cons.mp hj with rfl | hj
      · exact ⟨list, hlist, List.mem_of_head? hhead⟩
      · obtain ⟨rest, hrest, hj⟩ := ih hj
        obtain ⟨_, whole, hwhole, rfl⟩ := mem_takeFirst.mp hrest
        refine ⟨whole, hwhole, ?_⟩
        split at hj
        · exact List.mem_of_mem_drop hj
        · exact hj

private theorem nodup (h : Merges lists result) : result.Nodup := by
  induction h with
  | done => exact List.nodup_nil
  | @take lists list result i _ _ hdelayed hrest ih =>
      refine List.nodup_cons.mpr ⟨fun hi => ?_, ih⟩
      obtain ⟨rest, hmem, hi⟩ := hrest.exists_mem hi
      exact not_mem_of_mem_takeFirst hdelayed hmem hi

end Merges

/-- The order of a class: the class, then its bases and what they inherit from, each once and in
the order of every list that it stands in. -/
theorem linearize_eq_some {orders : List (List Nat)} (h : linearize i bases orders = some order) :
    ∃ rest, order = i :: rest ∧ rest.Nodup ∧ bases.Sublist rest ∧
      (∀ other ∈ orders, other.Sublist rest) ∧
      ∀ j ∈ rest, j ∈ bases ∨ ∃ other ∈ orders, j ∈ other := by
  unfold linearize at h
  split at h
  · cases h
  · obtain ⟨rest, hrest, rfl⟩ := Option.map_eq_some_iff.mp h
    have hmerges := merges_of_mergeOrders hrest
    have hsublist : ∀ list ∈ orders ++ [bases], list.Sublist rest := by
      intro list hlist
      cases list with
      | nil => exact List.nil_sublist rest
      | cons first others => exact hmerges.sublist (List.mem_filter.mpr ⟨hlist, rfl⟩)
    refine ⟨rest, rfl, hmerges.nodup, hsublist bases (by simp),
      fun other hother => hsublist other (List.mem_append_left _ hother), fun j hj => ?_⟩
    obtain ⟨list, hlist, hj⟩ := hmerges.exists_mem hj
    rcases List.mem_append.mp (List.mem_of_mem_filter hlist) with hlist | hlist
    · exact .inr ⟨list, hlist, hj⟩
    · exact .inl (List.mem_singleton.mp hlist ▸ hj)

theorem findSome?_congr {α β : Type} {found found' : α → Option β} {as : List α}
    (h : ∀ a ∈ as, found a = found' a) : as.findSome? found = as.findSome? found' := by
  induction as with
  | nil => rfl
  | cons a as ih =>
      obtain ⟨ha, has⟩ := List.forall_mem_cons.mp h
      rw [List.findSome?_cons, List.findSome?_cons, ha, ih has]

/-- What a search of a linearization finds first stands behind nothing that could be found. -/
theorem findSome?_first {α : Type} {found : Nat → Option α} {rest : List Nat} {a : α}
    (hnodup : rest.Nodup) (h : rest.findSome? found = some a) :
    ∃ i ∈ rest, found i = some a ∧ ∀ j, [j, i].Sublist rest → found j = none := by
  induction rest with
  | nil => cases h
  | cons first rest ih =>
      obtain ⟨hfirst, hrest⟩ := List.nodup_cons.mp hnodup
      rw [List.findSome?_cons] at h
      split at h
      · rename_i hfound
        refine ⟨first, List.mem_cons_self, hfound.trans h, fun j hsublist => absurd ?_ hfirst⟩
        cases hsublist with
        | cons _ hsublist => exact hsublist.subset (by simp)
        | cons_cons _ hsublist => exact List.singleton_sublist.mp hsublist
      · rename_i hnone
        obtain ⟨i, hi, hfound, hfront⟩ := ih hrest h
        refine ⟨i, List.mem_cons_of_mem first hi, hfound, fun j hsublist => ?_⟩
        cases hsublist with
        | cons _ hsublist => exact hfront j hsublist
        | cons_cons _ _ => exact hnone

end FeatureSuite

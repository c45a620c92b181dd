/-!
# First occurrences

A list without its repetitions, in the order of the first occurrences.
-/

namespace FeatureSuite

/-- Keeps the first occurrence of everything in a list. -/
def distinct {α : Type} [DecidableEq α] : List α → List α
  | [] => []
  | a :: rest => a :: (distinct rest).filter (· ≠ a)

variable {α : Type} [DecidableEq α]

@[simp] theorem mem_distinct {a : α} {items : List α} : a ∈ distinct items ↔ a ∈ items := by
  induction items with
  | nil => simp [distinct]
  | cons b rest ih => by_cases h : a = b <;> simp [distinct, ih, h]

theorem nodup_distinct (items : List α) : (distinct items).Nodup := by
  induction items with
  | nil => simp [distinct]
  | cons a rest ih => exact List.nodup_cons.2 ⟨by simp, ih.sublist List.filter_sublist⟩

theorem distinct_of_nodup {items : List α} (h : items.Nodup) : distinct items = items := by
  induction items with
  | nil => rfl
  | cons a rest ih =>
      have ⟨ha, hr⟩ := List.nodup_cons.1 h
      rw [distinct, ih hr]
      congr 1
      refine List.filter_eq_self.2 fun b hb => ?_
      simpa using fun hba : b = a => ha (hba ▸ hb)

/-- What is dropped may be dropped before or after the repetitions. -/
theorem filter_distinct (keep : α → Bool) (items : List α) :
    (distinct items).filter keep = distinct (items.filter keep) := by
  induction items with
  | nil => rfl
  | cons a rest ih =>
      by_cases ha : keep a = true
      · rw [distinct, List.filter_cons_of_pos ha, List.filter_cons_of_pos ha, distinct, ← ih,
          List.filter_filter, List.filter_filter]
        simp only [Bool.and_comm]
      · rw [distinct, List.filter_cons_of_neg ha, List.filter_cons_of_neg ha, ← ih,
          List.filter_filter]
        refine List.filter_congr fun b _ => ?_
        by_cases hb : b = a
        · simpa [hb] using ha
        · simp [hb]

theorem distinct_append_cons_of_mem {a : α} {items : List α} (h : a ∈ items) (more : List α) :
    distinct (items ++ a :: more) = distinct (items ++ more) := by
  induction items with
  | nil => cases h
  | cons b items ih =>
      rw [List.cons_append, List.cons_append, distinct, distinct]
      rcases List.mem_cons.1 h with rfl | h
      · rw [filter_distinct, filter_distinct]
        simp
      · rw [ih h]

theorem distinct_append_singleton {a : α} {items : List α} (h : a ∉ items) :
    distinct (items ++ [a]) = distinct items ++ [a] := by
  induction items with
  | nil => rfl
  | cons b items ih =>
      have ⟨hne, hrest⟩ := not_or.1 (mt List.mem_cons.2 h)
      rw [List.cons_append, distinct, distinct, ih hrest, List.filter_append]
      simp [hne]

theorem distinct_append_distinct (items more : List α) :
    distinct (items ++ distinct more) = distinct (items ++ more) := by
  induction items with
  | nil => exact distinct_of_nodup (nodup_distinct more)
  | cons a items ih => rw [List.cons_append, List.cons_append, distinct, distinct, ih]

theorem distinct_distinct_append (items more : List α) :
    distinct (distinct items ++ more) = distinct (items ++ more) := by
  induction items with
  | nil => rfl
  | cons a items ih =>
      rw [List.cons_append, distinct, distinct, List.cons_append, distinct, ← ih]
      simp only [filter_distinct, List.filter_append, List.filter_filter, Bool.and_self]

theorem idxOf_cons_of_ne {a b : α} (h : b ≠ a) (items : List α) :
    (a :: items).idxOf b = items.idxOf b + 1 := by
  have hbeq : (a == b) = false := beq_eq_false_iff_ne.2 h.symm
  rw [List.idxOf_cons, hbeq, cond_false]

/-- What is left stands in the order of the first occurrences. -/
theorem pairwise_idxOf_distinct (items : List α) :
    (distinct items).Pairwise fun a b => items.idxOf a < items.idxOf b := by
  induction items with
  | nil => exact .nil
  | cons a items ih =>
      have hne {b : α} (hb : b ∈ (distinct items).filter (· ≠ a)) : b ≠ a := by
        simpa using (List.mem_filter.1 hb).2
      refine List.pairwise_cons.2 ⟨fun b hb => ?_, ?_⟩
      · rw [List.idxOf_cons_self, idxOf_cons_of_ne (hne hb)]
        exact Nat.succ_pos _
      · refine (ih.sublist List.filter_sublist).imp_of_mem fun {b c} hb hc h => ?_
        rw [idxOf_cons_of_ne (hne hb), idxOf_cons_of_ne (hne hc)]
        exact Nat.succ_lt_succ h

end FeatureSuite

import Mathlib.Data.List.Forall2

/-!
# Aligned lists

Lists whose items belong together one by one.
-/

namespace FeatureSuite

open List (Forall₂)

variable {α β γ : Type} {R : α → β → Prop} {S : β → γ → Prop}
  {T : α → γ → Prop} {as : List α} {bs : List β} {cs : List γ}

theorem exists_of_mem_left (h : Forall₂ R as bs) {a : α} (ha : a ∈ as) : ∃ b ∈ bs, R a b := by
  induction h with
  | nil => cases ha
  | cons hr _ ih =>
      rcases List.mem_cons.mp ha with rfl | ha
      · exact ⟨_, List.mem_cons_self, hr⟩
      · obtain ⟨b, hb, hr⟩ := ih ha
        exact ⟨b, List.mem_cons_of_mem _ hb, hr⟩

theorem exists_of_mem_right (h : Forall₂ R as bs) {b : β} (hb : b ∈ bs) : ∃ a ∈ as, R a b :=
  exists_of_mem_left h.flip hb

theorem exists_of_getElem? (h : Forall₂ R as bs) {i : Nat} {a : α} (ha : as[i]? = some a) :
    ∃ b, bs[i]? = some b ∧ R a b := by
  induction h generalizing i with
  | nil => cases ha
  | cons hr _ ih =>
      cases i with
      | zero =>
          cases ha
          exact ⟨_, rfl, hr⟩
      | succ i => exact ih ha

theorem forall₂_mem (h : Forall₂ R as bs) : Forall₂ (fun a b => a ∈ as ∧ b ∈ bs ∧ R a b) as bs := by
  induction h with
  | nil => exact .nil
  | cons hr _ ih =>
      refine .cons ⟨List.mem_cons_self, List.mem_cons_self, hr⟩ (ih.imp fun a b hab => ?_)
      obtain ⟨ha, hb, hr⟩ := hab
      exact ⟨List.mem_cons_of_mem _ ha, List.mem_cons_of_mem _ hb, hr⟩

theorem forall₂_trans (h : Forall₂ R as bs) (h' : Forall₂ S bs cs) :
    Forall₂ (fun a c => ∃ b ∈ bs, R a b ∧ S b c) as cs := by
  induction h generalizing cs with
  | nil =>
      cases h'
      exact .nil
  | cons hr _ ih =>
      cases h' with
      | cons hs h' =>
          refine .cons ⟨_, List.mem_cons_self, hr, hs⟩ ((ih h').imp fun a c hac => ?_)
          obtain ⟨b, hb, hac⟩ := hac
          exact ⟨b, List.mem_cons_of_mem _ hb, hac⟩

theorem exists_pairs (h : Forall₂ R as bs) :
    ∃ pairs : List (α × β), pairs.map Prod.fst = as ∧ pairs.map Prod.snd = bs ∧
      ∀ pair ∈ pairs, R pair.1 pair.2 := by
  induction h with
  | nil => exact ⟨[], rfl, rfl, fun pair hpair => nomatch hpair⟩
  | @cons a b as bs hr _ ih =>
      obtain ⟨pairs, rfl, rfl, hpairs⟩ := ih
      exact ⟨(a, b) :: pairs, rfl, rfl, List.forall_mem_cons.mpr ⟨hr, hpairs⟩⟩

/-- Items that belong to the same item belong together. -/
theorem forall₂_join (h : Forall₂ R as bs) (h' : Forall₂ T as cs) :
    Forall₂ (fun b c => ∃ a ∈ as, R a b ∧ T a c) bs cs := by
  induction h generalizing cs with
  | nil =>
      cases h'
      exact .nil
  | cons hr _ ih =>
      cases h' with
      | cons ht h' =>
          refine .cons ⟨_, List.mem_cons_self, hr, ht⟩ ((ih h').imp fun b c hbc => ?_)
          obtain ⟨a, ha, hbc⟩ := hbc
          exact ⟨a, List.mem_cons_of_mem _ ha, hbc⟩

theorem forall₂_zip (h : Forall₂ R as bs) (h' : Forall₂ T as cs) :
    Forall₂ (fun pair c => R pair.1 pair.2 ∧ T pair.1 c) (as.zip bs) cs := by
  induction h generalizing cs with
  | nil =>
      cases h'
      exact .nil
  | cons hr _ ih =>
      cases h' with
      | cons ht h' => exact .cons ⟨hr, ht⟩ (ih h')

theorem map_eq_map {f : α → γ} {g : β → γ} (h : Forall₂ (fun a b => f a = g b) as bs) :
    as.map f = bs.map g := by
  induction h with
  | nil => rfl
  | cons hfirst _ ih => rw [List.map_cons, List.map_cons, hfirst, ih]

theorem flatMap_eq_flatMap {f : α → List γ} {g : β → List γ}
    (h : Forall₂ (fun a b => f a = g b) as bs) : as.flatMap f = bs.flatMap g := by
  rw [List.flatMap_def, List.flatMap_def, map_eq_map h]

theorem filterMap_eq_filterMap {f : α → Option γ} {g : β → Option γ}
    (h : Forall₂ (fun a b => f a = g b) as bs) : as.filterMap f = bs.filterMap g := by
  induction h with
  | nil => rfl
  | cons hfirst _ ih => rw [List.filterMap_cons, List.filterMap_cons, hfirst, ih]

theorem filterMap_eq_zipWith {f : α → Option γ} {g : α → β → γ}
    (h : Forall₂ (fun a b => f a = some (g a b)) as bs) : as.filterMap f = as.zipWith g bs := by
  induction h with
  | nil => rfl
  | cons hfirst _ ih => rw [List.filterMap_cons_some hfirst, List.zipWith_cons_cons, ih]

/-! ## Items that may be absent -/

theorem optionRel_imp {S : α → β → Prop} (h : ∀ a b, R a b → S a b) {a : Option α} {b : Option β}
    (hrel : Option.Rel R a b) : Option.Rel S a b := by
  cases hrel with
  | some hr => exact .some (h _ _ hr)
  | none => exact .none

theorem optionRel_same {R : α → α → Prop} {a : Option α} (h : ∀ item ∈ a, R item item) :
    Option.Rel R a a := by
  cases a with
  | none => exact .none
  | some item => exact .some (h item rfl)

end FeatureSuite

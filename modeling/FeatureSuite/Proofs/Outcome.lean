import FeatureSuite.Suite.Plan
import Mathlib.Data.List.Forall2

/-!
# Outcomes of computations that may fail

A computation that succeeds is taken apart into the successes of its parts, and one whose parts fail
for certain reasons only fails for these. Two computations are compared part by part, and one with
a state is run part by part.
-/

namespace FeatureSuite

variable {ε α β : Type}

theorem bind_eq_ok {x : Except ε α} {f : α → Except ε β} {b : β} :
    x >>= f = .ok b ↔ ∃ a, x = .ok a ∧ f a = .ok b := by
  cases x with
  | error e => simp [bind, Except.bind]
  | ok a => simp [bind, Except.bind]

theorem map_eq_ok {x : Except ε α} {f : α → β} {b : β} :
    x.map f = .ok b ↔ ∃ a, x = .ok a ∧ f a = b := by
  cases x with
  | error e => simp [Except.map]
  | ok a => simp [Except.map]

theorem map_eq_error {x : Except ε α} {f : α → β} {e : ε} :
    x.map f = .error e ↔ x = .error e := by
  cases x with
  | error e' => simp [Except.map]
  | ok a => simp [Except.map]

theorem pure_eq_ok {a b : α} : (pure a : Except ε α) = .ok b ↔ a = b := by
  simp [pure, Except.pure]

theorem mapM_eq_ok {f : α → Except ε β} {as : List α} {bs : List β} :
    as.mapM f = .ok bs ↔ List.Forall₂ (fun a b => f a = .ok b) as bs := by
  induction as generalizing bs with
  | nil => cases bs <;> simp [pure_eq_ok]
  | cons a as ih =>
      rw [List.mapM_cons, List.forall₂_cons_left_iff, bind_eq_ok]
      constructor
      · rintro ⟨b, hb, h⟩
        obtain ⟨bs', hbs, h⟩ := bind_eq_ok.mp h
        exact ⟨b, bs', hb, ih.mp hbs, (pure_eq_ok.mp h).symm⟩
      · rintro ⟨b, bs', hb, hbs, rfl⟩
        exact ⟨b, hb, bind_eq_ok.mpr ⟨bs', ih.mpr hbs, rfl⟩⟩

theorem forM_eq_ok {f : α → Except ε Unit} {as : List α} :
    as.forM f = .ok () ↔ ∀ a ∈ as, f a = .ok () := by
  induction as with
  | nil => exact ⟨fun _ => List.forall_mem_nil _, fun _ => rfl⟩
  | cons a as ih =>
      rw [List.forM, bind_eq_ok, List.forall_mem_cons, ← ih]
      exact ⟨fun ⟨_, ha, has⟩ => ⟨ha, has⟩, fun ⟨ha, has⟩ => ⟨_, ha, has⟩⟩

/-- A success is seen by evaluating a test of it. -/
theorem exists_ok_of_any {x : Except ε α} {p : α → Bool} (h : x.toOption.any p = true) :
    ∃ a, x = .ok a ∧ p a = true := by
  cases x with
  | error e => cases h
  | ok a => exact ⟨a, rfl, h⟩

theorem exists_ok_iff {x : Except ε α} : (∃ a, x = .ok a) ↔ x.toOption.isSome = true := by
  cases x <;> simp [Except.toOption]

def fault? (x : Except ε α) : Option ε :=
  match x with
  | .error e => some e
  | .ok _ => none

@[simp] theorem fault?_eq_some {x : Except ε α} {e : ε} : fault? x = some e ↔ x = .error e := by
  cases x <;> simp [fault?]

@[simp] theorem documentResult_eq_ok {x : Except DocumentFault α} {a : α} :
    documentResult x = .ok a ↔ x = .ok a := by
  cases x <;> simp [documentResult]

@[simp] theorem conversionResult_eq_ok {x : Except ConversionFault α} {a : α} :
    conversionResult x = .ok a ↔ x = .ok a := by
  cases x <;> simp [conversionResult]

/-! ## Reasons for a failure -/

def FailsOnly (sort : ε → Prop) (x : Except ε α) : Prop := ∀ e, x = .error e → sort e

namespace FailsOnly

variable {sort : ε → Prop}

theorem ok (a : α) : FailsOnly sort (.ok a : Except ε α) := by
  intro e h
  cases h

theorem error {e : ε} (h : sort e) : FailsOnly sort (.error e : Except ε α) := by
  intro e' he
  cases he
  exact h

theorem bind {x : Except ε α} {f : α → Except ε β} (hx : FailsOnly sort x)
    (hf : ∀ a, x = .ok a → FailsOnly sort (f a)) : FailsOnly sort (x >>= f) := by
  intro e h
  cases x with
  | error e' =>
      simp only [Bind.bind, Except.bind, Except.error.injEq] at h
      exact hx e (by rw [h])
  | ok a => exact hf a rfl e h

theorem mapM {f : α → Except ε β} {as : List α} (h : ∀ a ∈ as, FailsOnly sort (f a)) :
    FailsOnly sort (as.mapM f) := by
  induction as with
  | nil => exact ok []
  | cons a as ih =>
      rw [List.mapM_cons]
      refine (h a (by simp)).bind fun b _ => ?_
      exact (ih fun a' ha => h a' (List.mem_cons_of_mem a ha)).bind fun bs _ => ok (b :: bs)

theorem forM {f : α → Except ε PUnit} {as : List α} (h : ∀ a ∈ as, FailsOnly sort (f a)) :
    FailsOnly sort (as.forM f) := by
  induction as with
  | nil => exact ok ()
  | cons a as ih =>
      change FailsOnly sort (f a >>= fun _ => as.forM f)
      exact (h a (by simp)).bind fun _ _ => ih fun a' ha => h a' (List.mem_cons_of_mem a ha)

theorem foldlM {f : β → α → Except ε β} {as : List α}
    (h : ∀ a ∈ as, ∀ b, FailsOnly sort (f b a)) (b : β) : FailsOnly sort (as.foldlM f b) := by
  induction as generalizing b with
  | nil => exact ok b
  | cons a as ih =>
      rw [List.foldlM_cons]
      exact (h a (by simp) b).bind fun b' _ => ih (fun a' ha => h a' (List.mem_cons_of_mem a ha)) b'

theorem imp {other : ε → Prop} {x : Except ε α} (hx : FailsOnly sort x)
    (h : ∀ e, sort e → other e) : FailsOnly other x := fun e he => h e (hx e he)

end FailsOnly

/-! ## Two computations -/

/-- Two computations fail for the same reason, or both succeed with results that belong together. -/
inductive Paired (R : α → β → Prop) : Except ε α → Except ε β → Prop where
  | ok {a : α} {b : β} : R a b → Paired R (.ok a) (.ok b)
  | error (e : ε) : Paired R (.error e) (.error e)

namespace Paired

variable {α' β' : Type} {R : α → β → Prop} {S : α' → β' → Prop} {x : Except ε α} {y : Except ε β}

private theorem of_eq {x y : Except ε α} (h : x = y) : Paired (· = ·) x y := by
  subst h
  cases x with
  | error e => exact .error e
  | ok a => exact .ok rfl

theorem bind {f : α → Except ε α'} {g : β → Except ε β'} (h : Paired R x y)
    (hnext : ∀ a b, R a b → Paired S (f a) (g b)) : Paired S (x >>= f) (y >>= g) := by
  cases h with
  | ok hr => exact hnext _ _ hr
  | error e => exact .error e

/-- Computations that start alike go on with one result. -/
theorem bind_eq {x y : Except ε α} {f : α → Except ε α'} {g : α → Except ε β'} (h : x = y)
    (hnext : ∀ a, Paired S (f a) (g a)) : Paired S (x >>= f) (y >>= g) := by
  refine (of_eq h).bind fun a b hab => ?_
  subst hab
  exact hnext a

theorem mapM {f : α → Except ε α'} {g : β → Except ε β'} {as : List α} {bs : List β}
    (h : List.Forall₂ (fun a b => Paired S (f a) (g b)) as bs) :
    Paired (List.Forall₂ S) (as.mapM f) (bs.mapM g) := by
  induction h with
  | nil => exact .ok .nil
  | cons hfirst _ ih =>
      rw [List.mapM_cons, List.mapM_cons]
      refine hfirst.bind fun a b hab => ?_
      exact ih.bind fun as bs hrest => .ok (.cons hab hrest)

theorem of_ok {a : α} {b : β} (h : Paired R (.ok a : Except ε α) (.ok b)) : R a b := by
  cases h with
  | ok hr => exact hr

end Paired

/-! ## Computations with a state -/

section State

variable {σ : Type} {x : ExceptT ε (StateM σ) α} {f : α → ExceptT ε (StateM σ) β} {before after : σ}

private theorem run_bind_eq : (x >>= f).run.run before =
    match x.run.run before with
    | (.ok a, after) => (f a).run.run after
    | (.error e, after) => (.error e, after) := by
  change (do let (a, s) ← x.run.run before; (ExceptT.bindCont f a).run s : Id _) = _
  cases x.run.run before with
  | mk result after => cases result <;> rfl

theorem run_bind_ok {a : α} (h : x.run.run before = (.ok a, after)) :
    (x >>= f).run.run before = (f a).run.run after := by
  rw [run_bind_eq, h]

theorem run_bind_error {e : ε} (h : x.run.run before = (.error e, after)) :
    (x >>= f).run.run before = (.error e, after) := by
  rw [run_bind_eq, h]

end State

end FeatureSuite

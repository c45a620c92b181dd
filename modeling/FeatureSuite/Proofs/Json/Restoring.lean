import FeatureSuite.Json.Shape
import Mathlib.Data.List.Basic
import Mathlib.Data.List.Nodup

/-!
# Readers that take dumps back

A dump names its fields as they are on the wire and leaves out what is absent. As long as no field
is looked up under the name of another one, a reader finds in a dump what was written there and
nothing else, so it gives the dumped value back.
-/

namespace FeatureSuite.Json

variable {α β : Type}

/-- A reader gives every dumped value back. -/
structure Restores (read : Reader α) (dump : α → Json) : Prop where
  read_dump : ∀ value, read (dump value) = .valid value
  dump_ne_null : ∀ value, dump value ≠ .null

theorem restores_text : Restores readText .string := ⟨fun _ => rfl, nofun⟩

theorem restores_int : Restores readInt .int := ⟨fun _ => rfl, nofun⟩

private theorem Restores.readNullable {read : Reader α} {dump : α → Json} (h : Restores read dump)
    (value : α) : readNullable read (dump value) = .valid (some value) := by
  have hnull := h.dump_ne_null value
  have hread := h.read_dump value
  unfold Json.readNullable
  split
  · contradiction
  · rw [hread]
    rfl

private theorem Restores.readItemsFrom {read : Reader α} {dump : α → Json} (h : Restores read dump)
    (i : Nat) (items : List α) : readItemsFrom read i (items.map dump) = .valid items := by
  induction items generalizing i with
  | nil => rfl
  | cons item items ih =>
      rw [List.map_cons, Json.readItemsFrom, h.read_dump, ih]
      rfl

/-! ## Fields of dumps -/

/-- The fields that have a value. -/
def present (fields : List (String × Option Json)) : Fields :=
  fields.filterMap fun (name, value) => value.map (name, ·)

/-- No field is looked up under the name of another one. -/
def NamesApart (names : List String) : Prop :=
  names.Nodup ∧ ∀ name ∈ names, ∀ other ∈ names, snakeCase name = other → name = other

instance (names : List String) : Decidable (NamesApart names) :=
  inferInstanceAs (Decidable (_ ∧ _))

private theorem find?_present_of_notMem {fields : List (String × Option Json)} {name : String}
    (h : name ∉ fields.map (·.1)) : (present fields).find? (·.1 == name) = none := by
  rw [List.find?_eq_none]
  rintro ⟨other, json⟩ hmem
  obtain ⟨⟨other', value⟩, hentry, hvalue⟩ := List.mem_filterMap.mp hmem
  obtain ⟨json', _, hsame⟩ := Option.map_eq_some_iff.mp hvalue
  cases hsame
  have hother := List.mem_map_of_mem (f := (·.1)) hentry
  simpa using fun hname : other = name => h (hname ▸ hother)

private theorem find?_present {fields : List (String × Option Json)} (h : (fields.map (·.1)).Nodup)
    {name : String} {value : Option Json} (hmem : (name, value) ∈ fields) :
    (present fields).find? (·.1 == name) = value.map (name, ·) := by
  induction fields with
  | nil => cases hmem
  | cons entry fields ih =>
      obtain ⟨first, content⟩ := entry
      rw [List.map_cons, List.nodup_cons] at h
      have hfirst : first ∉ fields.map (·.1) := h.1
      rcases List.mem_cons.mp hmem with hsame | htail
      · cases hsame
        -- Without a value the name is not there at all, since no later field has it.
        have hnone := find?_present_of_notMem hfirst
        cases value with
        | none => exact hnone
        | some json => exact List.find?_cons_of_pos (by simp)
      · have hne : first ≠ name := fun hname =>
          hfirst (hname ▸ List.mem_map_of_mem (f := (·.1)) htail)
        have hrest := ih h.2 htail
        cases content with
        | none => exact hrest
        | some json => exact (List.find?_cons_of_neg (by simpa using hne)).trans hrest

private theorem get?_present {fields : List (String × Option Json)}
    (h : NamesApart (fields.map (·.1))) {name : String} {value : Option Json}
    (hmem : (name, value) ∈ fields) :
    (present fields).get? name = value := by
  have hfind := find?_present h.1 hmem
  unfold Fields.get?
  cases value with
  | some json => rw [hfind]; rfl
  | none =>
      rw [hfind]
      by_cases hsnake : snakeCase name ∈ fields.map (·.1)
      · have hname := List.mem_map_of_mem (f := (·.1)) hmem
        rw [← h.2 name hname _ hsnake rfl, hfind]
        rfl
      · rw [find?_present_of_notMem hsnake]
        rfl

/-! ## Reading fields -/

section

variable {fields : Fields} {wire : String} {read : Reader α} {dump : α → Json}

theorem required_of_get? (h : Restores read dump) {value : α}
    (hget : fields.get? wire = some (dump value)) :
    fields.required wire read = .valid value := by
  rw [Fields.required, hget]
  exact congrArg (Checked.under wire) (h.read_dump value)

theorem defaulted_of_get? (h : Restores read dump) {value default : α}
    (hget : fields.get? wire = some (dump value)) :
    fields.defaulted wire default read = .valid value := by
  rw [Fields.defaulted, hget]
  exact congrArg (Checked.under wire) (h.read_dump value)

theorem optional_of_get? (h : Restores read dump) {value : Option α}
    (hget : fields.get? wire = value.map dump) : fields.optional wire read = .valid value := by
  rw [Fields.optional, Fields.defaulted, hget]
  cases value with
  | none => rfl
  | some value => exact congrArg (Checked.under wire) (h.readNullable value)

theorem list_of_get? (h : Restores read dump) {items : List α}
    (hget : fields.get? wire = some (.array (items.map dump))) :
    fields.list wire read = .valid items := by
  rw [Fields.list, Fields.defaulted, hget]
  exact congrArg (Checked.under wire) (h.readItemsFrom 0 items)

end

/-- A reader of fields takes the dumps of a kind of node back if it does so wherever every field is
found with the value that is dumped. -/
theorem Restores.model {read : Fields → Checked α} {dumped : α → List (String × Option Json)}
    (names : List String) (hapart : NamesApart names)
    (hnames : ∀ value, (dumped value).map (·.1) = names)
    (hread : ∀ value (fields : Fields),
      (dumped value).Forall (fun entry => fields.get? entry.1 = entry.2) →
        read fields = .valid value) :
    Restores (readModel read) fun value => ofFields (dumped value) where
  read_dump value := by
    refine hread value (present (dumped value)) ?_
    refine List.forall_iff_forall_mem.mpr fun entry hmem => ?_
    exact get?_present ((hnames value).symm ▸ hapart) hmem
  dump_ne_null _ := nofun

end FeatureSuite.Json

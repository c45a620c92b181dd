import FeatureSuite.Proofs.Outcome

/-!
# Captures without values

A template that matches a whole text gives no values for it if a field of a built-in type captures
what stands for no number, date or time. All other faults are about the template itself, as long as
the types that a project adds convert every text.
-/

namespace FeatureSuite

/-! ## Faults and conversions -/

/-- A field looks for its text in a group that is not there or took no part in the match, or a name
stands inside a value that holds no others. -/
def ConversionFault.isAboutTemplate : ConversionFault → Bool
  | noGroup | unmatched | notNested _ | notDeeplyNested _ => true
  | _ => false

/-- Whether a captured text has to stand for a number, a date or a time. -/
def Conversion.isTyped : Conversion → Bool
  | text | custom _ => false
  | _ => true

/-- Converts every text. -/
def Converter.Total (converter : Converter) : Prop := ∀ s, ∃ value, converter s = .ok value

private theorem Conversion.apply_eq_error {conversion : Conversion} {captured : Option String}
    {group : Nat → Option String} {fault : ConversionFault}
    (hcustom : ∀ converter, conversion = .custom converter → converter.Total)
    (h : conversion.apply captured group = .error fault) :
    fault.isAboutTemplate = true ∨ conversion.isTyped = true := by
  cases conversion with
  | text => cases captured <;> cases h
  | custom converter =>
      cases captured with
      | none =>
          cases h
          exact .inl rfl
      | some s =>
          obtain ⟨value, hvalue⟩ := hcustom converter rfl s
          exact nomatch hvalue.symm.trans h
  | _ => exact .inr rfl

namespace Template

private theorem setPath_failsOnly (path : List String) (value : Value)
    (fields : List (String × Value)) :
    FailsOnly (·.isAboutTemplate = true) (setPath path value fields) := by
  fun_induction setPath path value fields with
  | case1 => exact .ok _
  | case2 => exact .ok _
  | case3 name path value fields _ _ ih => exact ih.bind fun _ _ => .ok _
  | case4 name path value fields _ inner _ ih => exact ih.bind fun _ _ => .ok _
  | case5 => exact .error (by split <;> rfl)

/-! ## Types of fields -/

/-- The conversions of all fields. -/
def Fields.conversions (fields : Fields) : List Conversion :=
  fields.plain.map (·.conversion) ++ fields.named.map (·.conversion)

/-- Converters are those of the types that a project adds. -/
def DrawsOn (types : CustomTypes) (conversion : Conversion) : Prop :=
  ∀ converter, conversion = .custom converter → ∃ entry ∈ types, entry.2.converter = converter

private theorem drawsOn_of_momentType? {name : String} {types : CustomTypes} {type : FieldType}
    (h : momentType? name = some type) : DrawsOn types type.conversion := by
  unfold momentType? at h
  split at h <;> cases h <;> exact nofun

private theorem drawsOn_of_fieldType? {format : Format} {types : CustomTypes} {type : FieldType}
    (h : fieldType? format types = some type) : DrawsOn types type.conversion := by
  unfold fieldType? at h
  split at h
  · cases h
    exact nofun
  · unfold namedType? at h
    dsimp only at h
    split at h
    · rename_i custom hcustom
      cases h
      obtain ⟨entry, hentry, rfl⟩ := Option.map_eq_some_iff.mp hcustom
      intro converter hconverter
      cases hconverter
      exact ⟨entry, List.mem_of_find?_eq_some hentry, rfl⟩
    · -- All built-in types but dates have their conversion written beside them.
      split at h
      case h_20 =>
        split at h
        · cases h
          exact nofun
        · exact drawsOn_of_momentType? h
      all_goals
        cases h
        intro converter hconverter
        dsimp only at hconverter
        try split at hconverter
        all_goals cases hconverter

private theorem mem_conversions_of_named {fields : Fields} {field : NamedField} {groups : Nat}
    {types : CustomTypes} {conversion : Conversion}
    (h : conversion ∈
      ({ fields with named := fields.named ++ [field], groups } : Fields).conversions)
    (hfield : DrawsOn types field.conversion) :
    conversion ∈ fields.conversions ∨ DrawsOn types conversion := by
  simp only [Fields.conversions, List.map_append, List.mem_append, List.map_cons, List.map_nil,
    List.mem_singleton] at h ⊢
  rcases h with h | h | rfl
  · exact .inl (.inl h)
  · exact .inl (.inr h)
  · exact .inr hfield

private theorem mem_conversions_of_plain {fields : Fields} {field : PlainField} {groups : Nat}
    {types : CustomTypes} {conversion : Conversion}
    (h : conversion ∈
      ({ fields with plain := fields.plain ++ [field], groups } : Fields).conversions)
    (hfield : DrawsOn types field.conversion) :
    conversion ∈ fields.conversions ∨ DrawsOn types conversion := by
  simp only [Fields.conversions, List.map_append, List.mem_append, List.map_cons, List.map_nil,
    List.mem_singleton] at h ⊢
  rcases h with (h | rfl) | h
  · exact .inl (.inl h)
  · exact .inr hfield
  · exact .inl (.inr h)

private theorem mem_conversions_of_add {fields added : Fields} {types : CustomTypes}
    {inner : List Char} {text : String} {conversion : Conversion}
    (h : fields.add types inner = .ok (text, added))
    (hconversion : conversion ∈ added.conversions) :
    conversion ∈ fields.conversions ∨ DrawsOn types conversion := by
  have htext : DrawsOn types .text := nofun
  unfold Fields.add at h
  dsimp only at h
  split at h
  · split at h <;> cases h
    exact .inl hconversion
  · -- The field has a name or none, and its type is found or not written.
    simp only [bind, Except.bind, pure, Except.pure, throw, throwThe, MonadExceptOf.throw] at h
    repeat' split at h
    all_goals cases h
    all_goals first
      | exact mem_conversions_of_named hconversion htext
      | exact mem_conversions_of_plain hconversion htext
      | exact mem_conversions_of_named hconversion (drawsOn_of_fieldType? ‹_›)
      | exact mem_conversions_of_plain hconversion (drawsOn_of_fieldType? ‹_›)

private theorem mem_conversions_of_patternOf {types : CustomTypes} {pieces : List Piece}
    {fields all : Fields} {pattern : String} {conversion : Conversion}
    (h : patternOf types fields pieces = .ok (pattern, all))
    (hconversion : conversion ∈ all.conversions) :
    conversion ∈ fields.conversions ∨ DrawsOn types conversion := by
  induction pieces generalizing fields pattern with
  | nil =>
      cases h
      exact .inl hconversion
  | cons piece rest ih =>
      cases piece with
      | field inner =>
          obtain ⟨⟨text, added⟩, hadd, h⟩ := bind_eq_ok.mp h
          obtain ⟨⟨pattern', all'⟩, hrest, h⟩ := bind_eq_ok.mp h
          cases h
          exact (ih hrest).elim (mem_conversions_of_add hadd) .inr
      | _ =>
          obtain ⟨⟨pattern', all'⟩, hrest, h⟩ := bind_eq_ok.mp h
          cases h
          exact ih hrest

theorem drawsOn_of_compile {text : String} {types : CustomTypes} {template : Template}
    (h : compile text types = .ok template) :
    ∀ conversion ∈ template.fields.conversions, DrawsOn types conversion := by
  intro conversion hconversion
  obtain ⟨⟨pattern, fields⟩, hpattern, h⟩ := bind_eq_ok.mp h
  have hfields : template.fields = fields := by
    dsimp only at h
    split at h <;> cases h
    rfl
  rw [hfields] at hconversion
  exact (mem_conversions_of_patternOf hpattern hconversion).resolve_left nofun

/-! ## Matching -/

/-- Where the expression of a template matches a whole text. -/
def found? (template : Template) (text : String) : Option Regex.MatchState :=
  template.compiled.node.matchWhole? text.toList.toArray

/-- The text of a group of a match. -/
def groupText? (text : String) (found : Regex.MatchState) (index : Nat) : Option String :=
  (found.capture? (index + 1)).map fun (first, last) =>
    Regex.slice text.toList.toArray first last

/-- The text of a group with a name. -/
def namedText? (template : Template) (text : String) (found : Regex.MatchState) (name : String) :
    Option String :=
  ((template.compiled.names.find? (·.1 == name)).map (·.2)).bind fun number =>
    groupText? text found (number - 1)

/-- Some field has the conversion, and this is what its groups captured. -/
inductive Captures (template : Template) (text : String) (found : Regex.MatchState) :
    Conversion → Option String → (Nat → Option String) → Prop where
  | plain {field : PlainField} : field ∈ template.fields.plain →
      Captures template text found field.conversion (groupText? text found field.index)
        fun i => groupText? text found (field.index + i)
  | named {field : NamedField} : field ∈ template.fields.named →
      Captures template text found field.conversion (namedText? template text found field.group)
        fun i => groupText? text found (field.index + i)

namespace Captures

variable {template : Template} {text : String} {found : Regex.MatchState}
  {conversion : Conversion} {captured : Option String} {group : Nat → Option String}

private theorem mem_conversions (h : template.Captures text found conversion captured group) :
    conversion ∈ template.fields.conversions := by
  cases h with
  | plain hfield => exact List.mem_append_left _ (List.mem_map_of_mem hfield)
  | named hfield => exact List.mem_append_right _ (List.mem_map_of_mem hfield)

end Captures

/-- A captured text stands for no value of the field's built-in type. -/
def IsUnconvertible (template : Template) (text : String) (found : Regex.MatchState)
    (fault : ConversionFault) : Prop :=
  ∃ conversion captured group, template.Captures text found conversion captured group ∧
    conversion.isTyped = true ∧ conversion.apply captured group = .error fault

private theorem match?_failsOnly {template : Template} {text : String} {found : Regex.MatchState}
    (htotal : ∀ converter, .custom converter ∈ template.fields.conversions → converter.Total)
    (hfound : template.found? text = some found) :
    FailsOnly (fun fault =>
      fault.isAboutTemplate = true ∨ template.IsUnconvertible text found fault)
      (template.match? text) := by
  have happly {conversion : Conversion} {captured : Option String} {group : Nat → Option String}
      (hcaptures : template.Captures text found conversion captured group) :
      FailsOnly (fun fault =>
        fault.isAboutTemplate = true ∨ template.IsUnconvertible text found fault)
        (conversion.apply captured group) := by
    intro fault hfault
    have hcustom : ∀ converter, conversion = .custom converter → converter.Total := by
      rintro converter rfl
      exact htotal converter hcaptures.mem_conversions
    exact (Conversion.apply_eq_error hcustom hfault).imp_right
      fun htyped => ⟨_, _, _, hcaptures, htyped, hfault⟩
  unfold found? at hfound
  unfold match?
  simp only [hfound]
  refine .bind (.mapM fun field hfield => ?_) fun args _ =>
    .bind (.mapM fun field hfield => ?_) fun values _ =>
      .bind (.foldlM (fun value _ fields => ?_) []) fun kwargs _ => .ok _
  · split
    · exact happly (.plain hfield)
    · exact .error (.inl rfl)
  · exact (happly (.named hfield)).bind fun _ _ => .ok _
  · exact (setPath_failsOnly _ _ _).imp fun _ => .inl

/-- A text without values is matched by the template's expression. -/
theorem match?_eq_error {template : Template} {text : String} {fault : ConversionFault}
    (htotal : ∀ converter, .custom converter ∈ template.fields.conversions → converter.Total)
    (h : template.match? text = .error fault) :
    ∃ found, template.found? text = some found ∧
      (fault.isAboutTemplate = true ∨ template.IsUnconvertible text found fault) := by
  cases hfound : template.found? text with
  | none =>
      unfold found? at hfound
      unfold match? at h
      simp only [hfound] at h
      cases h
  | some found => exact ⟨found, rfl, match?_failsOnly htotal hfound fault h⟩

end Template

end FeatureSuite

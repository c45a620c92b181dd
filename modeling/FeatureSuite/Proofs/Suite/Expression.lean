import FeatureSuite.Proofs.Suite.Literals
import FeatureSuite.Text.Blank

/-!
# Calls of generated modules

A reader for calls: the name of a function, then arguments in order and under names, each a literal
or a name. A call that is written with these is read as it was, and stands on one line.
-/

namespace FeatureSuite

namespace Expression

open Literal

/-! ## Names -/

def isNameChar (c : Char) : Bool := Text.isIdentifierStart c || Text.isIdentifierRest c

/-- Reads a name that is no reserved word. -/
def readName? (cs : List Char) : Option (String × List Char) :=
  let name := String.ofList (cs.takeWhile isNameChar)
  if Text.isParameterName name then some (name, cs.dropWhile isNameChar) else none

theorem isNameChar_of_isIdentifier {s : String} (h : Text.isIdentifier s = true) :
    ∀ c ∈ s.toList, isNameChar c = true := by
  unfold Text.isIdentifier at h
  intro c hc
  cases hs : s.toList with
  | nil => exact absurd (hs ▸ hc) List.not_mem_nil
  | cons first rest =>
      rw [hs] at hc h
      obtain ⟨hfirst, hrest⟩ := Bool.and_eq_true_iff.mp h
      rcases List.mem_cons.mp hc with rfl | hc
      · exact Bool.or_eq_true_iff.mpr (.inl hfirst)
      · exact Bool.or_eq_true_iff.mpr (.inr (List.all_eq_true.mp hrest c hc))

theorem isNameChar_of_isParameterName {s : String} (h : Text.isParameterName s = true) :
    ∀ c ∈ s.toList, isNameChar c = true :=
  isNameChar_of_isIdentifier (Text.isIdentifier_of_isParameterName h)

theorem takeWhile_name {s : String} (h : ∀ c ∈ s.toList, isNameChar c = true) {c : Char}
    (hc : isNameChar c = false) (rest : List Char) :
    (s.toList ++ c :: rest).takeWhile isNameChar = s.toList ∧
      (s.toList ++ c :: rest).dropWhile isNameChar = c :: rest := by
  constructor
  · rw [List.takeWhile_append_of_pos h, List.takeWhile_cons_of_neg (by simp [hc]), List.append_nil]
  · rw [List.dropWhile_append_of_pos h, List.dropWhile_cons_of_neg (by simp [hc])]

theorem readName?_append {s : String} (h : Text.isParameterName s = true) {c : Char}
    (hc : isNameChar c = false) (rest : List Char) :
    readName? (s.toList ++ c :: rest) = some (s, c :: rest) := by
  obtain ⟨htake, hdrop⟩ := takeWhile_name (isNameChar_of_isParameterName h) hc rest
  simp [readName?, htake, hdrop, h]

private theorem readName?_of_not_isNameChar {c : Char} (hc : isNameChar c = false)
    (cs : List Char) :
    readName? (c :: cs) = none := by
  have hempty : Text.isParameterName "" = false := by decide
  simp [readName?, List.takeWhile_cons_of_neg, hc, hempty]

/-! ## Arguments -/

/-- What is passed to a function. -/
inductive Operand where
  | literal (value : Json)
  | name (name : String)

/-- The depth up to which brackets may stand inside others. -/
def maxDepth : Nat := 200

/-- Reads a name or a literal in some brackets. -/
def readOperand? (depth : Nat) (cs : List Char) : Option (Operand × List Char) :=
  match readName? cs with
  | some (name, rest) => some (.name name, rest)
  | none => (readLiteral? (maxDepth - depth) cs).map fun (value, rest) => (.literal value, rest)

/-- Reads an argument of a call, with the name it is passed under. -/
def readArgument? (cs : List Char) : Option ((Option String × Operand) × List Char) :=
  match (readName? cs).map fun (name, rest) => (name, skipSpaces rest) with
  | some (_, '=' :: '=' :: _) => none
  | some (name, '=' :: rest) =>
      (readOperand? 1 (skipSpaces rest)).map fun (operand, rest) => ((some name, operand), rest)
  | _ => (readOperand? 1 cs).map fun (operand, rest) => ((none, operand), rest)

/-- A call of a function, which may stand in modules inside others. -/
structure Call where
  callee : List String
  positional : List Operand
  keywords : List (String × Operand) := []

/-- Arguments in order go before those under names, and no name is given twice. -/
def arrange? (arguments : List (Option String × Operand)) :
    Option (List Operand × List (String × Operand)) := do
  let positional := arguments.takeWhile (·.1.isNone)
  let keywords ← (arguments.dropWhile (·.1.isNone)).mapM fun (name, operand) =>
    name.map (·, operand)
  if (keywords.map (·.1)).Nodup then some (positional.map (·.2), keywords) else none

/-- Reads a line that is a call. -/
def readCall? (line : String) : Option Call := do
  let cs := line.toList
  let callee := (Text.splitOnChar '.' (cs.takeWhile (· ≠ '('))).map String.ofList
  let (arguments, rest) ← readAll? readArgument? ')' ((cs.dropWhile (· ≠ '(')).drop 1)
  let (positional, keywords) ← arrange? arguments
  if callee.all Text.isParameterName && rest.isEmpty then some { callee, positional, keywords }
  else none

/-- Reads a name with a literal at the start of some lines, and what stands behind it. -/
def readAssignment? (text : String) : Option ((String × Json) × String) := do
  let (name, cs) ← readName? text.toList
  match cs.dropWhile (· = ' ') with
  | '=' :: cs => do
      let (value, rest) ← readLiteral? maxDepth (cs.dropWhile (· = ' '))
      if rest.head?.all isLineBreak then some ((name, value), String.ofList rest) else none
  | _ => none

/-! ## Written calls -/

/-- A literal that may be passed to a function, or a name. -/
inductive Operand.IsPlain : Operand → Prop where
  | literal {value : Json} : Literal.IsPlain (maxDepth - 1) value → IsPlain (.literal value)
  | name {name : String} : Text.isParameterName name = true → IsPlain (.name name)

def Operand.write : Operand → List Char
  | literal value => value.render.toList
  | name text => text.toList

def writeArgument (argument : Option String × Operand) : List Char :=
  match argument.1 with
  | some name => name.toList ++ '=' :: argument.2.write
  | none => argument.2.write

/-- Arguments in order, then those under names. -/
def Call.arguments (call : Call) : List (Option String × Operand) :=
  call.positional.map (none, ·) ++ call.keywords.map fun (name, operand) => (some name, operand)

def Call.write (call : Call) : String :=
  ".".intercalate call.callee ++
    String.ofList ('(' :: ([',', ' '].intercalate (call.arguments.map writeArgument) ++ [')']))

/-- All names of a call may be used, and its literals can be read. -/
structure Call.IsPlain (call : Call) : Prop where
  callee_ne_nil : call.callee ≠ []
  callee : ∀ name ∈ call.callee, Text.isParameterName name = true
  positional : ∀ operand ∈ call.positional, operand.IsPlain
  keywords : ∀ entry ∈ call.keywords, Text.isParameterName entry.1 = true ∧ entry.2.IsPlain

theorem isNameChar_of_mem :
    ∀ c ∈ ['.', ',', '=', '(', ')', '[', '\x7b', '"', ' ', '\t', '\x0c', '\n', '\r'],
      isNameChar c = false := by
  simp only [List.forall_mem_cons, List.not_mem_nil, false_implies, implies_true]
  decide +kernel

theorem isSpace_of_isNameChar {c : Char} (h : isNameChar c = true) : isSpace c = false := by
  rw [Bool.eq_false_iff]
  intro hspace
  simp only [isSpace, isLineBreak, Bool.or_eq_true, decide_eq_true_eq] at hspace
  rcases hspace with ((rfl | rfl) | rfl) | rfl | rfl <;>
    exact absurd (h.symm.trans (isNameChar_of_mem _ (by decide))) (by decide)

theorem isNameChar_of_opens :
    ∀ c ∈ ['"', '[', '\x7b'], isNameChar c = false ∧ isSpace c = false ∧ c ≠ ')' ∧ c ≠ '=' := by
  simp only [List.forall_mem_cons, List.not_mem_nil, false_implies, implies_true]
  decide +kernel

theorem isNameChar_of_ends {c : Char} (hc : c = ',' ∨ c = ')') :
    isNameChar c = false ∧ isSpace c = false ∧ c ≠ '=' := by
  rcases hc with rfl | rfl <;> decide +kernel

theorem opens_of_isPlain {depth : Nat} {value : Json} (h : Literal.IsPlain depth value) :
    ∃ c cs, value.render.toList = c :: cs ∧ c ∈ ['"', '[', '\x7b'] := by
  cases h with
  | text s => exact ⟨'"', _, toList_quote s, by simp⟩
  | list _ => exact ⟨'[', _, toList_renderArray _, by simp⟩
  | table _ _ => exact ⟨'\x7b', _, toList_renderObject _, by simp⟩

theorem opens_of_isIdentifier {s : String} (h : Text.isIdentifier s = true) :
    ∃ c cs, s.toList = c :: cs ∧ isNameChar c = true := by
  have hchars := isNameChar_of_isIdentifier h
  cases hs : s.toList with
  | nil =>
      rw [String.toList_eq_nil_iff.mp hs] at h
      exact absurd h (by decide)
  | cons c cs => exact ⟨c, cs, rfl, hchars c (hs ▸ List.mem_cons_self)⟩

private theorem opens_of_isParameterName {s : String} (h : Text.isParameterName s = true) :
    ∃ c cs, s.toList = c :: cs ∧ isNameChar c = true :=
  opens_of_isIdentifier (Text.isIdentifier_of_isParameterName h)

namespace Operand.IsPlain

variable {operand : Operand}

private theorem opens (h : operand.IsPlain) : ∃ c cs, operand.write = c :: cs ∧
    isSpace c = false ∧ c ≠ ')' ∧ c ≠ '=' := by
  cases h with
  | literal hvalue =>
      obtain ⟨c, cs, hwrite, hc⟩ := opens_of_isPlain hvalue
      exact ⟨c, cs, hwrite, (isNameChar_of_opens c hc).2⟩
  | name hname =>
      obtain ⟨c, cs, hwrite, hc⟩ := opens_of_isParameterName hname
      have hne {sign : Char} (hsign : isNameChar sign = false) : c ≠ sign := by
        rintro rfl
        exact nomatch hc.symm.trans hsign
      exact ⟨c, cs, hwrite, isSpace_of_isNameChar hc, hne (isNameChar_of_mem _ (by decide)),
        hne (isNameChar_of_mem _ (by decide))⟩

private theorem reads (h : operand.IsPlain) {c : Char} (hc : c = ',' ∨ c = ')') (rest : List Char) :
    readOperand? 1 (operand.write ++ c :: rest) = some (operand, c :: rest) := by
  cases h with
  | literal hvalue =>
      have hread := (hvalue.readsBack ')' (by simp)).reads c rest hc
      obtain ⟨opening, cs, hwrite, hopening⟩ := opens_of_isPlain hvalue
      have hname : isNameChar opening = false := (isNameChar_of_opens opening hopening).1
      rw [hwrite, List.cons_append] at hread
      simp [readOperand?, write, hwrite, readName?_of_not_isNameChar hname, hread]
  | name hname =>
      simp [readOperand?, write, readName?_append hname (isNameChar_of_ends hc).1]

end Operand.IsPlain

private theorem readArgument?_operand {operand : Operand} (h : operand.IsPlain) {c : Char}
    (hc : c = ',' ∨ c = ')') (rest : List Char) :
    readArgument? (operand.write ++ c :: rest) = some ((none, operand), c :: rest) := by
  have hread := h.reads hc rest
  cases h with
  | literal hvalue =>
      obtain ⟨opening, cs, hwrite, hopening⟩ := opens_of_isPlain hvalue
      have hname : isNameChar opening = false := (isNameChar_of_opens opening hopening).1
      simp only [Operand.write, hwrite, List.cons_append] at hread ⊢
      simp [readArgument?, readName?_of_not_isNameChar hname, hread]
  | @name text hname =>
      obtain ⟨hnot, hspace, hequals⟩ := isNameChar_of_ends hc
      simp only [Operand.write] at hread ⊢
      simp [readArgument?, readName?_append hname hnot, skipSpaces_cons hspace, hequals, hread]

private theorem readArgument?_keyword {name : String} (hname : Text.isParameterName name = true)
    {operand : Operand} (h : operand.IsPlain) {c : Char} (hc : c = ',' ∨ c = ')')
    (rest : List Char) :
    readArgument? (name.toList ++ '=' :: operand.write ++ c :: rest) =
      some ((some name, operand), c :: rest) := by
  have hread := h.reads hc rest
  obtain ⟨first, cs, hwrite, hspace, _, hequals⟩ := h.opens
  have hsign : isNameChar '=' = false := isNameChar_of_mem _ (by decide)
  have hequalsSpace : isSpace '=' = false := by decide
  rw [hwrite, List.cons_append] at hread
  rw [List.append_assoc, hwrite]
  simp [readArgument?, readName?_append hname hsign, skipSpaces_cons hequalsSpace,
    skipSpaces_cons hspace, hequals, hread]

private theorem readsBack_argument {argument : Option String × Operand}
    (hname : ∀ name ∈ argument.1, Text.isParameterName name = true)
    (hoperand : argument.2.IsPlain) : ReadsBack readArgument? ')' writeArgument argument := by
  obtain ⟨name, operand⟩ := argument
  cases name with
  | none =>
      obtain ⟨first, cs, hwrite, hspace, hclose, _⟩ := hoperand.opens
      exact ⟨fun c rest hc => readArgument?_operand hoperand hc rest, first, cs, hwrite, hspace,
        hclose⟩
  | some name =>
      have hname := hname name rfl
      obtain ⟨first, cs, hopens, hchar⟩ := opens_of_isParameterName hname
      have hclose : first ≠ ')' := by
        rintro rfl
        exact nomatch hchar.symm.trans (isNameChar_of_mem _ (by decide))
      have hwrite : writeArgument (some name, operand) =
          first :: (cs ++ '=' :: operand.write) := by
        change name.toList ++ '=' :: operand.write = _
        rw [hopens, List.cons_append]
      exact ⟨fun c rest hc => readArgument?_keyword hname hoperand hc rest, first, _, hwrite,
        isSpace_of_isNameChar hchar, hclose⟩

private theorem arrange?_arguments (call : Call) :
    arrange? call.arguments =
      if (call.keywords.map (·.1)).Nodup then some (call.positional, call.keywords) else none := by
  have hpositional : ∀ argument ∈ call.positional.map ((none : Option String), ·),
      argument.1.isNone = true := by simp
  have hkeywords : (call.keywords.map fun (name, operand) => (some name, operand)).takeWhile
      (·.1.isNone) = [] := by
    cases call.keywords <;> rfl
  have hrest : (call.keywords.map fun (name, operand) => (some name, operand)).dropWhile
      (·.1.isNone) = call.keywords.map fun (name, operand) => (some name, operand) := by
    cases call.keywords <;> rfl
  have hnamed : (call.keywords.map fun (name, operand) => (some name, operand)).mapM
      (fun (name, operand) => name.map (·, operand)) = some call.keywords := by
    induction call.keywords with
    | nil => rfl
    | cons entry entries ih => simp [List.mapM_cons, ih]
  unfold arrange? Call.arguments
  rw [List.takeWhile_append_of_pos hpositional, List.dropWhile_append_of_pos hpositional,
    hkeywords, hrest, hnamed]
  simp [Function.comp_def]

private theorem not_mem_of_isParameterName {sign : Char} (hsign : isNameChar sign = false)
    {name : String} (h : Text.isParameterName name = true) : sign ∉ name.toList := fun hmem =>
  nomatch (isNameChar_of_isParameterName h sign hmem).symm.trans hsign

private theorem splitOnChar_callee {names : List String} (hne : names ≠ [])
    (h : ∀ name ∈ names, Text.isParameterName name = true) :
    (Text.splitOnChar '.' (['.'].intercalate (names.map String.toList))).map String.ofList =
      names := by
  have hdot {name : String} (hname : Text.isParameterName name = true) : '.' ∉ name.toList :=
    not_mem_of_isParameterName (isNameChar_of_mem '.' (by decide)) hname
  induction names with
  | nil => exact absurd rfl hne
  | cons name names ih =>
      obtain ⟨hname, hrest⟩ := List.forall_mem_cons.mp h
      cases names with
      | nil =>
          rw [List.map_singleton, List.intercalate_singleton,
            Text.splitOnChar_of_notMem (hdot hname), List.map_singleton, String.ofList_toList]
      | cons next names =>
          rw [List.map_cons, List.map_cons, List.intercalate_cons_cons, List.append_assoc,
            List.singleton_append, Text.splitOnChar_append (hdot hname), ← List.map_cons,
            List.map_cons, String.ofList_toList, ih (List.cons_ne_nil _ _) hrest]

private theorem not_mem_callee {names : List String}
    (h : ∀ name ∈ names, Text.isParameterName name = true) :
    '(' ∉ ['.'].intercalate (names.map String.toList) := by
  have hbracket {name : String} (hname : Text.isParameterName name = true) : '(' ∉ name.toList :=
    not_mem_of_isParameterName (isNameChar_of_mem '(' (by decide)) hname
  induction names with
  | nil => exact List.not_mem_nil
  | cons name names ih =>
      obtain ⟨hname, hrest⟩ := List.forall_mem_cons.mp h
      cases names with
      | nil => simpa using hbracket hname
      | cons next names =>
          have hnext := ih hrest
          rw [List.map_cons] at hnext
          rw [List.map_cons, List.map_cons, List.intercalate_cons_cons]
          simp [hbracket hname, hnext]

/-- A written call is read as the call, if it gives no name twice. -/
theorem readCall?_write {call : Call} (h : call.IsPlain) :
    readCall? call.write = if (call.keywords.map (·.1)).Nodup then some call else none := by
  have hwrite : call.write.toList = ['.'].intercalate (call.callee.map String.toList) ++
      '(' :: ([',', ' '].intercalate (call.arguments.map writeArgument) ++ [')']) := by
    simp [Call.write]
  have hbefore : ∀ c ∈ ['.'].intercalate (call.callee.map String.toList),
      decide (c ≠ '(') = true := fun c hc =>
    decide_eq_true fun heq => not_mem_callee h.callee (heq ▸ hc)
  have harguments : ∀ argument ∈ call.arguments,
      ReadsBack readArgument? ')' writeArgument argument := by
    intro argument hargument
    rcases List.mem_append.mp hargument with hargument | hargument
    · obtain ⟨operand, hoperand, rfl⟩ := List.mem_map.mp hargument
      exact readsBack_argument nofun (h.positional operand hoperand)
    · obtain ⟨⟨name, operand⟩, hentry, rfl⟩ := List.mem_map.mp hargument
      obtain ⟨hname, hoperand⟩ := h.keywords _ hentry
      exact readsBack_argument (by simpa using hname) hoperand
  have hread := readAll?_intercalate (by decide) (by decide) harguments []
  have hall : call.callee.all Text.isParameterName = true := List.all_eq_true.mpr h.callee
  have hcallee : call.write.toList.takeWhile (· ≠ '(') =
      ['.'].intercalate (call.callee.map String.toList) := by
    rw [hwrite, List.takeWhile_append_of_pos hbefore]
    simp
  have hbehind : (call.write.toList.dropWhile (· ≠ '(')).drop 1 =
      [',', ' '].intercalate (call.arguments.map writeArgument) ++ [')'] := by
    rw [hwrite, List.dropWhile_append_of_pos hbefore]
    simp
  unfold readCall?
  simp only [hcallee, hbehind, hread, splitOnChar_callee h.callee_ne_nil h.callee,
    arrange?_arguments, hall, Option.bind_eq_bind, Option.bind_some, List.isEmpty_nil,
    Bool.and_self, if_true]
  split <;> rfl

theorem readCall?_write_eq_some {call : Call} (h : call.IsPlain) :
    readCall? call.write = some call ↔ (call.keywords.map (·.1)).Nodup := by
  rw [readCall?_write h]
  split <;> simp [*]

/-! ## Lines -/

theorem isUnbroken_of_isParameterName {s : String} (h : Text.isParameterName s = true) :
    IsUnbroken s.toList := by
  intro c hc
  have hspace : isSpace c = false := isSpace_of_isNameChar (isNameChar_of_isParameterName h c hc)
  exact (Bool.or_eq_false_iff.mp hspace).2

private theorem Operand.IsPlain.isUnbroken {operand : Operand} (h : operand.IsPlain) :
    IsUnbroken operand.write := by
  cases h with
  | literal hvalue => exact hvalue.isUnbroken
  | name hname => exact isUnbroken_of_isParameterName hname

/-- A written call stands on one line if its names and what it passes do. -/
theorem Call.isUnbroken {call : Call} (hcallee : ∀ name ∈ call.callee, IsUnbroken name.toList)
    (hpositional : ∀ operand ∈ call.positional, IsUnbroken operand.write)
    (hkeywords : ∀ entry ∈ call.keywords,
      IsUnbroken entry.1.toList ∧ IsUnbroken entry.2.write) : IsUnbroken call.write.toList := by
  have harguments : ∀ argument ∈ call.arguments, IsUnbroken (writeArgument argument) := by
    intro argument hargument
    rcases List.mem_append.mp hargument with hargument | hargument
    · obtain ⟨operand, hoperand, rfl⟩ := List.mem_map.mp hargument
      exact hpositional operand hoperand
    · obtain ⟨⟨name, operand⟩, hentry, rfl⟩ := List.mem_map.mp hargument
      obtain ⟨hname, hoperand⟩ := hkeywords _ hentry
      have hequals : IsUnbroken ['='] := by decide
      exact hname.append (hequals.append hoperand)
  have hdot : IsUnbroken ['.'] := by decide
  have hopen : IsUnbroken ['('] := by decide
  have hcomma : IsUnbroken [',', ' '] := by decide
  have hclose : IsUnbroken [')'] := by decide
  have hpath := hdot.intercalate (List.forall_mem_map.mpr hcallee)
  have hinside := hcomma.intercalate (List.forall_mem_map.mpr harguments)
  simpa [Call.write] using hpath.append ((hopen.append hinside).append hclose)

theorem Call.IsPlain.isUnbroken {call : Call} (h : call.IsPlain) :
    IsUnbroken call.write.toList := by
  refine Call.isUnbroken (fun name hname => isUnbroken_of_isParameterName (h.callee name hname))
    (fun operand hoperand => (h.positional operand hoperand).isUnbroken) fun entry hentry => ?_
  obtain ⟨hname, hoperand⟩ := h.keywords entry hentry
  exact ⟨isUnbroken_of_isParameterName hname, hoperand.isUnbroken⟩

end Expression

end FeatureSuite

import FeatureSuite.Proofs.Suite.Build
import FeatureSuite.Proofs.Suite.Literals

/-!
# Snippets as text

A snippet shows the template of a step twice, in single quotes: for the decorator, and behind the
name of the decorator in the message of the error. Both are literals on one line that stand for the
template, except that a line break or a null character outside the quoted texts of the step is
copied into them as it is.
-/

namespace FeatureSuite

/-! ## Texts in quotes of either kind -/

namespace Literal

/-- Reads the rest of a text up to the closing one of its marks. Some characters in front have been
read already. -/
def readMarked? (mark : Char) : Nat → List Char → Option (List Char × List Char)
  | _, [] => none
  | skip + 1, _ :: cs => readMarked? mark skip cs
  | 0, c :: cs =>
      if c = mark then some ([], cs)
      else if c = '\\' then do
        let (chars, length) ← escape? cs
        let (text, rest) ← readMarked? mark length cs
        some (chars ++ text, rest)
      else if isLineBreak c || c = '\x00' then none
      else do
        let (text, rest) ← readMarked? mark 0 cs
        some (c :: text, rest)

/-- Reads a text in single or in double quotes. Three of them open a literal of another kind. -/
def readQuoted? : List Char → Option (String × List Char)
  | [] => none
  | mark :: cs =>
      if mark ≠ '\'' ∧ mark ≠ '"' then none
      else if cs.take 2 = [mark, mark] then none
      else (readMarked? mark 0 cs).map fun (text, rest) => (String.ofList text, rest)

/-- A character that may stand in a literal as it is, or behind a backslash. -/
def IsWritable (c : Char) : Prop := isLineBreak c = false ∧ c ≠ '\x00'

instance (c : Char) : Decidable (IsWritable c) := inferInstanceAs (Decidable (_ ∧ _))

theorem isWritable_of_all {cs : List Char} (h : cs.all (decide <| IsWritable ·) = true) :
    ∀ c ∈ cs, IsWritable c :=
  fun c hc => of_decide_eq_true (List.all_eq_true.mp h c hc)

end Literal

namespace Snippet

open Literal (IsUnbroken IsWritable isLineBreak isWritable_of_all readMarked? readQuoted?)

/-! ## Templates in single quotes -/

/-- One character of a template inside single quotes. -/
def literalChar (c : Char) : List Char :=
  if c = '\\' then ['\\', '\\'] else if c = '\'' then ['\\', '\''] else [c]

@[simp] theorem toList_literal (template : String) :
    (literal template).toList = template.toList.flatMap literalChar := String.toList_ofList

@[simp] private theorem literal_append (a b : String) :
    literal (a ++ b) = literal a ++ literal b := by
  rw [← String.toList_inj, String.toList_append, toList_literal, toList_literal, toList_literal,
    String.toList_append, List.flatMap_append]

/-- A template between single quotes. -/
def quoted (template : String) : List Char := '\'' :: ((literal template).toList ++ ['\''])

private theorem readMarked?_escape {letter : Char}
    (h : ∀ rest, Literal.escape? (letter :: rest) = some ([letter], 1)) (cs : List Char) :
    readMarked? '\'' 0 ('\\' :: letter :: cs) =
      (readMarked? '\'' 0 cs).map fun (text, rest) => (letter :: text, rest) := by
  rw [readMarked?, if_neg (by decide), if_pos rfl, h, Option.bind_eq_bind, Option.bind_some]
  dsimp only
  rw [readMarked?]
  cases readMarked? '\'' 0 cs <;> rfl

private theorem readMarked?_literalChar (c : Char) (cs : List Char) :
    readMarked? '\'' 0 (literalChar c ++ cs) =
      if IsWritable c then (readMarked? '\'' 0 cs).map fun (text, rest) => (c :: text, rest)
      else none := by
  unfold literalChar
  split
  · subst c
    exact readMarked?_escape (fun _ => rfl) cs
  · split
    · subst c
      exact readMarked?_escape (fun _ => rfl) cs
    · rename_i hbackslash hquote
      rw [List.singleton_append, readMarked?, if_neg hquote, if_neg hbackslash]
      by_cases hc : IsWritable c
      · rw [if_pos hc, if_neg (by simp [hc.1, hc.2])]
        cases readMarked? '\'' 0 cs <;> rfl
      · have hbroken : (isLineBreak c || decide (c = '\x00')) = true := by
          by_contra hfalse
          rw [Bool.not_eq_true, Bool.or_eq_false_iff, decide_eq_false_iff_not] at hfalse
          exact hc hfalse
        rw [if_neg hc, if_pos (by simpa using hbroken)]

private theorem readMarked?_template (template rest : List Char) :
    readMarked? '\'' 0 (template.flatMap literalChar ++ '\'' :: rest) =
      if template.all (decide <| IsWritable ·) then some (template, rest) else none := by
  induction template with
  | nil => simp [readMarked?]
  | cons c template ih =>
      rw [List.flatMap_cons, List.append_assoc, readMarked?_literalChar, ih]
      rw [List.all_cons]
      by_cases hc : IsWritable c
      · rw [if_pos hc, decide_eq_true hc, Bool.true_and]
        split <;> rfl
      · rw [if_neg hc, decide_eq_false hc, Bool.false_and]
        rfl

theorem head?_literalChar (c : Char) (cs : List Char) :
    (literalChar c ++ cs).head? ≠ some '\'' := by
  unfold literalChar
  split
  · simp
  · split
    · simp
    · rename_i _ hquote
      simpa using hquote

private theorem readQuoted?_quoted (template : String) {rest : List Char}
    (hrest : rest.head? ≠ some '\'') :
    readQuoted? (quoted template ++ rest) =
      if template.toList.all (decide <| IsWritable ·) then some (template, rest) else none := by
  have hquoted : quoted template ++ rest =
      '\'' :: (template.toList.flatMap literalChar ++ '\'' :: rest) := by
    simp [quoted, toList_literal]
  have hopening : (template.toList.flatMap literalChar ++ '\'' :: rest).take 2 ≠ ['\'', '\''] := by
    cases template.toList with
    | nil =>
        cases rest with
        | nil => simp
        | cons c rest => simpa using hrest
    | cons c cs =>
        intro htake
        have hhead := congrArg List.head? htake
        rw [List.head?_take, if_neg (by decide), List.flatMap_cons, List.append_assoc] at hhead
        exact head?_literalChar c _ hhead
  rw [hquoted, readQuoted?, if_neg (by decide), if_neg hopening, readMarked?_template]
  split <;> simp

private theorem isUnbroken_quoted {template : String} (h : ∀ c ∈ template.toList, IsWritable c) :
    IsUnbroken (quoted template) := by
  have hmark : IsUnbroken ['\''] := by decide
  have hliteral : IsUnbroken (template.toList.flatMap literalChar) := by
    refine .flatMap fun c hc => ?_
    unfold literalChar
    split
    · decide
    · split
      · decide
      · exact List.forall_mem_singleton.mpr (h c hc).1
  rw [quoted, toList_literal]
  exact hmark.append (hliteral.append hmark)

/-! ## Snippets -/

/-- The names of the parameters that a snippet lists. -/
def parameters (text : String) : List String :=
  (List.range (pattern text).2).map fun i => s!"arg{i + 1}"

/-- What the error of a snippet says. -/
def errorMessage (role : Role) (template : String) : String := role.decorator ++ ": " ++ template

/-- What stands between the two literals of a snippet. -/
def between (text : String) : List Char :=
  (")\ndef step_impl(" ++ ", ".intercalate (parameters text) ++ "):\n" ++
    "    raise NotImplementedError(").toList

private theorem literal_errorMessage (role : Role) (template : String) :
    literal (errorMessage role template) = role.decorator ++ ": " ++ literal template := by
  have hdecorator : literal (role.decorator ++ ": ") = role.decorator ++ ": " := by
    cases role <;> decide +kernel
  rw [errorMessage, literal_append, hdecorator]

theorem build_eq (role : Role) (text : String) :
    build role text =
      "@" ++ role.decorator ++ "('" ++ literal (pattern text).1 ++ "')" ++ "\n" ++
        ("def step_impl(" ++ ", ".intercalate (parameters text) ++ "):") ++ "\n" ++
        ("    raise NotImplementedError('" ++ role.decorator ++ ": " ++
          literal (pattern text).1 ++ "')") := rfl

/-- What stands behind the literal of the decorator. -/
def behindDecorator (role : Role) (text : String) : List Char :=
  between text ++ (quoted (errorMessage role (pattern text).1) ++ [')'])

theorem toList_build (role : Role) (text : String) :
    (build role text).toList =
      ('@' :: role.decorator.toList ++ ['(']) ++
        (quoted (pattern text).1 ++ behindDecorator role text) := by
  simp only [build_eq, quoted, behindDecorator, between, literal_errorMessage,
    String.toList_append]
  simp

@[simp] theorem toList_pattern (text : String) :
    (pattern text).1.toList = (pieces text).flatMap Piece.template := String.toList_ofList

theorem template_char (c : Char) :
    (Piece.char c).template =
      if c = '\x7b' then ['\x7b', '\x7b'] else if c = '\x7d' then ['\x7d', '\x7d'] else [c] := rfl

@[simp] private theorem mem_template_char {c d : Char} : d ∈ (Piece.char c).template ↔ d = c := by
  rw [template_char]
  split
  · simp_all
  · split <;> simp_all

private theorem writable_pattern_iff (text : String) :
    (∀ c ∈ (pattern text).1.toList, IsWritable c) ↔
      ∀ c, Piece.char c ∈ pieces text → IsWritable c := by
  rw [toList_pattern]
  constructor
  · intro h c hc
    exact h c (List.mem_flatMap.mpr ⟨_, hc, mem_template_char.mpr rfl⟩)
  · intro h d hd
    obtain ⟨piece, hpiece, hd⟩ := List.mem_flatMap.mp hd
    have hquoted : ∀ d ∈ ['"', '\x7b', '\x7d', '"'], IsWritable d := isWritable_of_all rfl
    have hnumber : ∀ d ∈ ['\x7b', ':', 'd', '\x7d'], IsWritable d := isWritable_of_all rfl
    cases piece with
    | char c => exact mem_template_char.mp hd ▸ h c hpiece
    | quoted _ => exact hquoted d hd
    | number _ => exact hnumber d hd

private theorem writable_errorMessage_iff (role : Role) (template : String) :
    (∀ c ∈ (errorMessage role template).toList, IsWritable c) ↔
      ∀ c ∈ template.toList, IsWritable c := by
  have hdecorator : ∀ c ∈ (role.decorator ++ ": ").toList, IsWritable c :=
    isWritable_of_all (by cases role <;> decide +kernel)
  rw [errorMessage, String.toList_append, List.forall_mem_append]
  exact and_iff_right hdecorator

/-- Both literals of a snippet are on one line and read back as the template, the second one behind
the name of the decorator, exactly if the step has no line break and no null character outside its
quoted texts. -/
theorem literals_read_back_iff (role : Role) (text : String) :
    (build role text).toList =
        ('@' :: role.decorator.toList ++ ['(']) ++
          (quoted (pattern text).1 ++ behindDecorator role text) ∧
      (IsUnbroken (quoted (pattern text).1) ∧
          readQuoted? (quoted (pattern text).1 ++ behindDecorator role text) =
            some ((pattern text).1, behindDecorator role text) ↔
        ∀ c, Piece.char c ∈ pieces text → IsWritable c) ∧
      behindDecorator role text =
        between text ++ (quoted (errorMessage role (pattern text).1) ++ [')']) ∧
      (IsUnbroken (quoted (errorMessage role (pattern text).1)) ∧
          readQuoted? (quoted (errorMessage role (pattern text).1) ++ [')']) =
            some (errorMessage role (pattern text).1, [')']) ↔
        ∀ c, Piece.char c ∈ pieces text → IsWritable c) := by
  have hread (template : String) {rest : List Char} (hrest : rest.head? ≠ some '\'') :
      IsUnbroken (quoted template) ∧
          readQuoted? (quoted template ++ rest) = some (template, rest) ↔
        ∀ c ∈ template.toList, IsWritable c := by
    rw [readQuoted?_quoted template hrest]
    constructor
    · rintro ⟨_, hwritten⟩
      refine isWritable_of_all ?_
      by_contra hbroken
      rw [if_neg hbroken] at hwritten
      cases hwritten
    · intro h
      exact ⟨isUnbroken_quoted h, if_pos (List.all_eq_true.mpr fun c hc => decide_eq_true (h c hc))⟩
  have hbehind : (behindDecorator role text).head? ≠ some '\'' := by
    simp [behindDecorator, between, String.toList_append]
  refine ⟨toList_build role text, ?_, rfl, ?_⟩
  · rw [hread _ hbehind, writable_pattern_iff]
  · rw [hread _ (by decide), writable_errorMessage_iff, writable_pattern_iff]

end Snippet

namespace FeatureFile

/-- A cell of examples with an escape for a line feed. -/
def tornCellText : String :=
  "Feature: F\n  Scenario Outline: S\n    Given I see <a>\n    Examples:\n" ++
    "      | a |\n      | x\\ny |\n"

/-- A line feed of a cell gets into a step and from there into its snippet, whose literals end in
the middle of a line. -/
theorem exists_snippet_torn :
    ∃ file built, load tornCellText "features/sample.feature" {} = .ok file ∧
      file.build = .ok built ∧
      built.undefined.map (fun step => (step.role, step.text)) = [(.context, "I see x\ny")] ∧
      built.snippets = ["@given('I see x\ny')\ndef step_impl():\n" ++
        "    raise NotImplementedError('given: I see x\ny')"] ∧
      Literal.readQuoted? (Snippet.quoted (Snippet.pattern "I see x\ny").1 ++
        Snippet.behindDecorator .context "I see x\ny") = none := by
  have hcheck : (load tornCellText "features/sample.feature" {}).toOption.any (fun file =>
      file.build.toOption.any fun built =>
        decide (built.undefined.map (fun step => (step.role, step.text)) =
            [(.context, "I see x\ny")] ∧
          built.snippets = ["@given('I see x\ny')\ndef step_impl():\n" ++
            "    raise NotImplementedError('given: I see x\ny')"])) = true := by
    decide +kernel
  have hread : Literal.readQuoted? (Snippet.quoted (Snippet.pattern "I see x\ny").1 ++
      Snippet.behindDecorator .context "I see x\ny") = none := by
    decide +kernel
  obtain ⟨file, hload, hcheck⟩ := exists_ok_of_any hcheck
  obtain ⟨built, hbuild, hbuilt⟩ := exists_ok_of_any hcheck
  obtain ⟨hundefined, hsnippets⟩ := of_decide_eq_true hbuilt
  exact ⟨file, built, hload, hbuild, hundefined, hsnippets, hread⟩

end FeatureFile

end FeatureSuite

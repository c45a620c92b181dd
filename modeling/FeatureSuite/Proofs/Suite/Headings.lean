import FeatureSuite.Proofs.Aligned
import FeatureSuite.Proofs.Suite.Body
import FeatureSuite.Proofs.Suite.Build

/-!
# Headings of modules

Modules are read line by line, with nothing known of what wrote them: every group of four blanks in
front of a line is a level, the lines of classes and methods are headings, and the lines of code
behind a heading belong to it. Blank lines and decorators are passed over.
-/

namespace FeatureSuite

/-! ## Reading lines -/

/-- A line without its indentation. -/
structure Row where
  level : Nat
  text : List Char
  deriving DecidableEq, Repr

namespace Row

/-- Splits groups of four blanks off. -/
def split : List Char → Nat × List Char
  | ' ' :: ' ' :: ' ' :: ' ' :: rest => (split rest).map (· + 1) id
  | cs => (0, cs)

def ofLine (line : String) : Row :=
  let (level, text) := split line.toList
  ⟨level, text⟩

/-- A line that starts at a level. -/
def startingAt (level : Nat) (line : String) : Row := ⟨level, line.toList⟩

def deeper (row : Row) : Row := { row with level := row.level + 1 }

/-- Whether a line is neither blank nor a decorator. -/
def isShown (row : Row) : Bool := row.text != [] && row.text.head? != some '@'

def isHeading (row : Row) : Bool :=
  (Text.afterStart? "class ".toList row.text).isSome ||
    (Text.afterStart? "def ".toList row.text).isSome

end Row

def readRows (lines : List String) : List Row := (lines.map Row.ofLine).filter Row.isShown

/-- A heading with the lines of code that follow it. -/
structure Heading where
  row : Row
  code : List Row
  deriving DecidableEq, Repr

/-- The lines of code in front of all headings, and the headings. -/
def readHeadings : List Row → List Row × List Heading
  | [] => ([], [])
  | row :: rest =>
      let (code, headings) := readHeadings rest
      if row.isHeading then ([], ⟨row, code⟩ :: headings) else (row :: code, headings)

namespace Heading

def deeper (heading : Heading) : Heading := ⟨heading.row.deeper, heading.code.map Row.deeper⟩

end Heading

private theorem Row.ofLine_indentation (line : String) :
    ofLine (Layout.indentation ++ line) = (ofLine line).deeper := by
  have hsplit : split (Layout.indentation ++ line).toList =
      ((split line.toList).1 + 1, (split line.toList).2) := by
    rw [String.toList_append]
    rfl
  rw [ofLine, hsplit]
  rfl

theorem readRows_indent (lines : List String) :
    readRows (Layout.indent lines) = (readRows lines).map Row.deeper := by
  induction lines with
  | nil => rfl
  | cons line lines ih =>
      by_cases hline : line = ""
      · subst hline
        exact ih
      · have hcons : Layout.indent (line :: lines) =
            (Layout.indentation ++ line) :: Layout.indent lines := by
          rw [Layout.indent, List.map_cons, if_neg hline]
          rfl
        rw [readRows, readRows] at ih
        rw [hcons, readRows, readRows, List.map_cons, List.map_cons, List.filter_cons,
          List.filter_cons, ih, Row.ofLine_indentation]
        split <;> rename_i hshown
        · rw [if_pos (show (Row.ofLine line).isShown = true from hshown)]
          rfl
        · rw [if_neg (show ¬ (Row.ofLine line).isShown = true from hshown)]

@[simp] theorem readRows_append (lines more : List String) :
    readRows (lines ++ more) = readRows lines ++ readRows more := by
  rw [readRows, List.map_append, List.filter_append]
  rfl

theorem readHeadings_cons_of_pos {row : Row} {rest : List Row} (h : row.isHeading = true) :
    readHeadings (row :: rest) =
      ([], ⟨row, (readHeadings rest).1⟩ :: (readHeadings rest).2) := by
  rw [readHeadings]
  exact if_pos h

theorem readHeadings_cons_of_neg {row : Row} {rest : List Row} (h : ¬ row.isHeading = true) :
    readHeadings (row :: rest) = (row :: (readHeadings rest).1, (readHeadings rest).2) := by
  rw [readHeadings]
  exact if_neg h

private theorem readHeadings_append {rows more : List Row} (h : (readHeadings more).1 = []) :
    readHeadings (rows ++ more) =
      ((readHeadings rows).1, (readHeadings rows).2 ++ (readHeadings more).2) := by
  induction rows with
  | nil =>
      rw [List.nil_append, readHeadings, List.nil_append]
      exact Prod.ext h rfl
  | cons row rows ih =>
      rw [List.cons_append]
      by_cases hrow : row.isHeading = true
      · rw [readHeadings_cons_of_pos hrow, readHeadings_cons_of_pos hrow, ih]
        rfl
      · rw [readHeadings_cons_of_neg hrow, readHeadings_cons_of_neg hrow, ih]

private theorem readHeadings_deeper (rows : List Row) :
    readHeadings (rows.map Row.deeper) =
      ((readHeadings rows).1.map Row.deeper, (readHeadings rows).2.map Heading.deeper) := by
  induction rows with
  | nil => rfl
  | cons row rows ih =>
      rw [List.map_cons]
      have hdeeper : row.deeper.isHeading = row.isHeading := rfl
      by_cases hrow : row.isHeading = true
      · rw [readHeadings_cons_of_pos (hdeeper.trans hrow), readHeadings_cons_of_pos hrow, ih]
        rfl
      · rw [readHeadings_cons_of_neg (hdeeper ▸ hrow), readHeadings_cons_of_neg hrow, ih]
        rfl

/-- What only headings show is read off the headings of lines. -/
theorem filterMap_readHeadings {α : Type} {show? : Row → Option α}
    (h : ∀ row, row.isHeading = false → show? row = none) (rows : List Row) :
    rows.filterMap show? = (readHeadings rows).2.filterMap (show? ·.row) := by
  induction rows with
  | nil => rfl
  | cons row rows ih =>
      by_cases hrow : row.isHeading = true
      · rw [readHeadings_cons_of_pos hrow, List.filterMap_cons, List.filterMap_cons, ih]
      · have hnone := h row (Bool.eq_false_iff.mpr hrow)
        rw [readHeadings_cons_of_neg hrow, List.filterMap_cons_none hnone, ih]

/-! ## Kinds of lines -/

theorem Row.ofLine_of_head {line : String} (h : line.toList.head? ≠ some ' ') :
    ofLine line = startingAt 0 line := by
  have hsplit : split line.toList = (0, line.toList) := by
    unfold split
    split
    · rename_i hline
      exact absurd (congrArg List.head? hline) h
    · rfl
  rw [ofLine, hsplit]
  rfl

namespace Layout

/-- How lines of code start: with a keyword, a failure or a word that does nothing. -/
private def codeStarts : List Char := ['G', 'W', 'T', 'A', 'B', 'p']

def IsCode (line : String) : Prop := ∃ c ∈ codeStarts, line.toList.head? = some c

namespace IsCode

variable {line : String}

private theorem append (h : IsCode line) (more : String) : IsCode (line ++ more) := by
  obtain ⟨c, hc, hhead⟩ := h
  refine ⟨c, hc, ?_⟩
  rw [String.toList_append, List.head?_append, hhead]
  rfl

private theorem ofLine (h : IsCode line) : Row.ofLine line = .startingAt 0 line := by
  obtain ⟨c, hc, hhead⟩ := h
  have hne : ∀ c ∈ codeStarts, c ≠ ' ' := by simp [codeStarts]
  exact Row.ofLine_of_head fun hblank => hne c hc (Option.some.inj (hhead.symm.trans hblank))

private theorem isShown (h : IsCode line) (level : Nat) :
    (Row.startingAt level line).isShown = true := by
  obtain ⟨c, hc, hhead⟩ := h
  have hne : ∀ c ∈ codeStarts, c ≠ '@' := by simp [codeStarts]
  have hnil : line.toList ≠ [] := fun hnil => by
    rw [hnil] at hhead
    cases hhead
  rw [Row.isShown, Row.startingAt, hhead]
  simp [hnil, hne c hc]

private theorem isHeading (h : IsCode line) (level : Nat) :
    (Row.startingAt level line).isHeading = false := by
  obtain ⟨c, hc, hhead⟩ := h
  obtain ⟨rest, hline⟩ := List.head?_eq_some_iff.mp hhead
  have hne : ∀ c ∈ codeStarts, 'c' ≠ c ∧ 'd' ≠ c := by simp [codeStarts]
  have hclass : Text.afterStart? "class ".toList line.toList = none := by
    rw [hline]
    exact if_neg (hne c hc).1
  have hdef : Text.afterStart? "def ".toList line.toList = none := by
    rw [hline]
    exact if_neg (hne c hc).2
  rw [Row.isHeading, Row.startingAt, hclass, hdef]
  rfl

end IsCode

theorem readRows_code {lines : List String} (h : ∀ line ∈ lines, IsCode line) :
    readRows lines = lines.map (Row.startingAt 0) := by
  induction lines with
  | nil => rfl
  | cons line lines ih =>
      obtain ⟨hline, hlines⟩ := List.forall_mem_cons.mp h
      have hrows := ih hlines
      rw [readRows] at hrows ⊢
      rw [List.map_cons, hline.ofLine, List.filter_cons, if_pos (hline.isShown 0), hrows]
      rfl

private theorem readHeadings_code {lines : List String} (h : ∀ line ∈ lines, IsCode line) :
    readHeadings (lines.map (Row.startingAt 0)) = (lines.map (Row.startingAt 0), []) := by
  induction lines with
  | nil => rfl
  | cons line lines ih =>
      obtain ⟨hline, hlines⟩ := List.forall_mem_cons.mp h
      rw [List.map_cons, readHeadings_cons_of_neg (by simp [hline.isHeading]), ih hlines]

private theorem isCode_bodyOrPass {body : List String} (h : ∀ line ∈ body, IsCode line) :
    ∀ line ∈ bodyOrPass body, IsCode line := by
  unfold bodyOrPass
  split
  · exact fun line hline => List.mem_singleton.mp hline ▸ ⟨'p', by decide, rfl⟩
  · exact h

theorem readRows_decorators {lines : List String}
    (h : ∀ line ∈ lines, line.toList.head? = some '@') : readRows lines = [] := by
  refine List.filter_eq_nil_iff.mpr fun row hrow => ?_
  obtain ⟨line, hline, rfl⟩ := List.mem_map.mp hrow
  have hhead := h line hline
  rw [Row.ofLine_of_head (by rw [hhead]; decide)]
  rw [Row.isShown, Row.startingAt, hhead]
  simp

theorem head_markers {title : String} {flags : Flags} :
    ∀ line ∈ markers title flags, line.toList.head? = some '@' := by
  intro line hline
  rcases List.mem_cons.mp hline with rfl | hline
  · rw [String.toList_append, String.toList_append, List.head?_append]
    rfl
  · obtain ⟨⟨on, flagged⟩, hmem, hsome⟩ := List.mem_filterMap.mp hline
    obtain ⟨_, rfl⟩ : on = true ∧ flagged = line := by simpa using hsome
    simp only [List.mem_cons, Prod.mk.injEq, List.not_mem_nil, or_false] at hmem
    rcases hmem with ⟨_, rfl⟩ | ⟨_, rfl⟩ | ⟨_, rfl⟩ | ⟨_, rfl⟩ | ⟨_, rfl⟩ <;> rfl

private theorem readHeadings_unit {decorators inner : List String} {head : String}
    (hdecorators : ∀ line ∈ decorators, line.toList.head? = some '@')
    (hblank : head.toList.head? ≠ some ' ') (hshown : (Row.startingAt 0 head).isShown = true)
    (hhead : (Row.startingAt 0 head).isHeading = true) :
    readHeadings (readRows (decorators ++ head :: indent inner ++ [""])) =
      ([], ⟨.startingAt 0 head, (readHeadings (readRows inner)).1.map Row.deeper⟩ ::
        (readHeadings (readRows inner)).2.map Heading.deeper) := by
  have hrows : readRows (decorators ++ head :: indent inner ++ [""]) =
      .startingAt 0 head :: (readRows inner).map Row.deeper := by
    have hcons : readRows (head :: indent inner) =
        .startingAt 0 head :: readRows (indent inner) := by
      rw [readRows, List.map_cons, Row.ofLine_of_head hblank, List.filter_cons, if_pos hshown]
      rfl
    rw [readRows_append, readRows_append, readRows_decorators hdecorators, hcons, readRows_indent]
    exact List.append_nil _
  rw [hrows, readHeadings_cons_of_pos hhead, readHeadings_deeper]

private theorem isHeading_of_start {start : String} (h : start = "class " ∨ start = "def ")
    (rest : String) :
    (start ++ rest).toList.head? ≠ some ' ' ∧
      (Row.startingAt 0 (start ++ rest)).isShown = true ∧
        (Row.startingAt 0 (start ++ rest)).isHeading = true := by
  have hstart : (Text.afterStart? start.toList (start ++ rest).toList).isSome = true := by
    rw [String.toList_append, Text.afterStart?_append]
    rfl
  rcases h with rfl | rfl
  · exact ⟨by simp, by simp [Row.isShown, Row.startingAt],
      by rw [Row.isHeading, Row.startingAt, hstart, Bool.true_or]⟩
  · exact ⟨by simp, by simp [Row.isShown, Row.startingAt],
      by rw [Row.isHeading, Row.startingAt, hstart, Bool.or_true]⟩

theorem methodLine_eq (name : String) (parameters : List String) :
    ∃ rest, methodLine name parameters = "def " ++ (name ++ ("(" ++ rest)) := by
  refine ⟨", ".intercalate ("self" :: parameters) ++ "):", ?_⟩
  rw [← String.append_assoc, ← String.append_assoc, ← String.append_assoc]
  rfl

theorem classLine_eq (name : String) : classLine name = "class " ++ (name ++ ":") := by
  rw [← String.append_assoc]
  rfl

end Layout

/-! ## Lines around the suites -/

private theorem Row.head_ofLine {start : String} {c : Char} (h : start.toList.head? = some c)
    (hblank : c ≠ ' ') (rest : String) : (Row.ofLine (start ++ rest)).text.head? = some c := by
  have hhead : (start ++ rest).toList.head? = some c := by
    rw [String.toList_append, List.head?_append, h]
    rfl
  rw [Row.ofLine_of_head fun hc => hblank (Option.some.inj (hhead.symm.trans hc))]
  exact hhead

namespace Layout

/-- A line is blank or starts with one of some characters, behind its indentation. -/
def StartsIn (starts : List Char) (line : String) : Prop :=
  (Row.ofLine line).text.head?.all starts.contains = true

instance (starts : List Char) : DecidablePred (StartsIn starts) := fun line =>
  inferInstanceAs (Decidable ((Row.ofLine line).text.head?.all starts.contains = true))

theorem StartsIn.of_start {starts : List Char} {start : String} {c : Char} (hc : c ∈ starts)
    (h : start.toList.head? = some c) (hblank : c ≠ ' ') (rest : String) :
    StartsIn starts (start ++ rest) := by
  rw [StartsIn, Row.head_ofLine h hblank, Option.all_some]
  exact List.contains_iff_mem.mpr hc

theorem StartsIn.head_ne {starts : List Char} {line : String} (h : StartsIn starts line) {c : Char}
    (hc : c ∉ starts) : (Row.ofLine line).text.head? ≠ some c := by
  intro hhead
  rw [StartsIn, hhead, Option.all_some] at h
  exact hc (List.contains_iff_mem.mp h)

/-- Lines that start like no heading hold none. -/
theorem not_isHeading_of_startsIn {starts : List Char} {lines : List String}
    (h : ∀ line ∈ lines, StartsIn starts line) (hc : 'c' ∉ starts) (hd : 'd' ∉ starts) :
    ∀ row ∈ readRows lines, row.isHeading = false := by
  intro row hrow
  obtain ⟨line, hline, rfl⟩ := List.mem_map.mp (List.mem_of_mem_filter hrow)
  have hother {c : Char} (start : List Char) (hc : c ∉ starts) :
      Text.afterStart? (c :: start) (Row.ofLine line).text = none := by
    have hhead := (h line hline).head_ne hc
    cases htext : (Row.ofLine line).text with
    | nil => rfl
    | cons first rest =>
        rw [htext] at hhead
        exact if_neg fun heq => hhead (congrArg some heq.symm)
  have hclass := hother "lass ".toList hc
  have hdef := hother "ef ".toList hd
  exact Bool.or_eq_false_iff.mpr
    ⟨Option.isSome_eq_false_iff.mpr (Option.isNone_iff_eq_none.mpr hclass),
      Option.isSome_eq_false_iff.mpr (Option.isNone_iff_eq_none.mpr hdef)⟩

private theorem StartsIn.indented {starts : List Char} {line : String} (h : StartsIn starts line) :
    StartsIn starts (indentation ++ line) := by
  unfold StartsIn at h ⊢
  rw [Row.ofLine_indentation]
  exact h

theorem startsIn_header (uri : String) (imports : List String) :
    ∀ line ∈ header uri imports, StartsIn ['#', 'i', 'f'] line := by
  have hgenerated : StartsIn ['#', 'i', 'f'] ("# Generated from: " ++ uri) :=
    .of_start (by decide) rfl (by decide) _
  have himport (name : String) :
      StartsIn ['#', 'i', 'f'] ("from " ++ name ++ " import *  # noqa: F401,F403") := by
    rw [String.append_assoc]
    exact .of_start (by decide) rfl (by decide) _
  unfold header
  refine List.forall_mem_append.mpr ⟨List.forall_mem_append.mpr ⟨?_, ?_⟩, by decide⟩
  · exact List.forall_mem_cons.mpr ⟨hgenerated, by decide⟩
  · split
    · exact List.forall_mem_nil _
    · refine List.forall_mem_cons.mpr ⟨by decide, fun line hline => ?_⟩
      obtain ⟨name, _, rfl⟩ := List.mem_map.mp hline
      exact himport name

theorem tagsFixture_eq (entries : List (String × List String)) :
    ∃ table, tagsFixture entries = table ++ (tagsFixture []).tail ∧
      ∀ line ∈ table, StartsIn ['B', '"', '\x7d'] line := by
  have hentry (key tags : String) : StartsIn ['B', '"', '\x7d']
      (indentation ++ Text.quote key ++ ": [" ++ tags ++ "],") := by
    have hquote : (Text.quote key).toList.head? = some '"' := by
      rw [Text.quote, String.toList_ofList]
      rfl
    rw [String.append_assoc, String.append_assoc, String.append_assoc]
    exact (StartsIn.of_start (by decide) hquote (by decide) _).indented
  refine ⟨_, rfl, ?_⟩
  split
  · decide
  · refine List.forall_mem_append.mpr ⟨?_, by decide⟩
    refine List.forall_mem_cons.mpr ⟨by decide, fun line hline => ?_⟩
    obtain ⟨⟨key, tags⟩, _, rfl⟩ := List.mem_map.mp hline
    exact hentry key (", ".intercalate (tags.map Text.quote))

end Layout

/-! ## Headings of plans -/

/-- The name of the method for a site. -/
def Origin.methodName : Origin → String
  | background unit => Layout.hookName unit.location.line
  | scenario unit => Layout.testName unit.name unit.location.line
  | row _ entry => Layout.testName entry.title entry.row.location.line

namespace Heading

def ofMethod (level : Nat) (name : String) (body : Body) : Heading where
  row := .startingAt level (Layout.methodLine name body.fixtures)
  code := (Layout.bodyOrPass body.lines).map (Row.startingAt (level + 1))

def ofSuite (level : Nat) (title : String) (line : Int) (childless : Bool) : Heading where
  row := .startingAt level (Layout.classLine (Layout.suiteName title line))
  code := if childless then [.startingAt (level + 1) "pass"] else []

@[simp] private theorem deeper_ofMethod (level : Nat) (name : String) (body : Body) :
    (ofMethod level name body).deeper = ofMethod (level + 1) name body := by
  simp [ofMethod, deeper, Row.deeper, Row.startingAt]

@[simp] private theorem deeper_ofSuite (level : Nat) (title : String) (line : Int)
    (childless : Bool) :
    (ofSuite level title line childless).deeper = ofSuite (level + 1) title line childless := by
  cases childless <;> simp [ofSuite, deeper, Row.deeper, Row.startingAt]

end Heading

namespace SuiteUnit

mutual

/-- The headings of a unit that stands at a level. -/
def headings (level : Nat) : SuiteUnit → List Heading
  | hook line body => [.ofMethod level (Layout.hookName line) body]
  | test title line _ _ _ body => [.ofMethod level (Layout.testName title line) body]
  | suite title line _ units =>
      .ofSuite level title line units.isEmpty :: headingsOfAll (level + 1) units

def headingsOfAll (level : Nat) : List SuiteUnit → List Heading
  | [] => []
  | unit :: rest => unit.headings level ++ headingsOfAll level rest

end

theorem headingsOfAll_eq_flatMap (level : Nat) (units : List SuiteUnit) :
    headingsOfAll level units = units.flatMap (·.headings level) := by
  induction units with
  | nil => rfl
  | cons unit units ih => rw [headingsOfAll, ih, List.flatMap_cons]

mutual

theorem deeper_headings (level : Nat) (unit : SuiteUnit) :
    (unit.headings level).map Heading.deeper = unit.headings (level + 1) := by
  cases unit with
  | hook line body => exact congrArg ([·]) (Heading.deeper_ofMethod ..)
  | test title line flags key tags body => exact congrArg ([·]) (Heading.deeper_ofMethod ..)
  | suite title line flags units =>
      rw [headings, headings, List.map_cons, Heading.deeper_ofSuite, deeper_headingsOfAll]

private theorem deeper_headingsOfAll (level : Nat) (units : List SuiteUnit) :
    (headingsOfAll level units).map Heading.deeper = headingsOfAll (level + 1) units := by
  cases units with
  | nil => rfl
  | cons unit rest =>
      rw [headingsOfAll, headingsOfAll, List.map_append, deeper_headings, deeper_headingsOfAll]

end

/-- The lines of the bodies in a plan are code. -/
def IsCoded (placed : List Placed) : Prop :=
  ∀ entry ∈ placed, ∀ line ∈ entry.unit.body.lines, Layout.IsCode line

private theorem readHeadings_method (decorators : List String) {name : String} {body : Body}
    (hdecorators : ∀ line ∈ decorators, line.toList.head? = some '@')
    (hbody : ∀ line ∈ body.lines, Layout.IsCode line) :
    readHeadings (readRows (decorators ++ Layout.methodLine name body.fixtures ::
      Layout.indent (Layout.bodyOrPass body.lines) ++ [""])) = ([], [.ofMethod 0 name body]) := by
  obtain ⟨rest, hline⟩ := Layout.methodLine_eq name body.fixtures
  obtain ⟨hblank, hshown, hheading⟩ := Layout.isHeading_of_start (.inr rfl) (name ++ ("(" ++ rest))
  have hcode := Layout.isCode_bodyOrPass hbody
  rw [Heading.ofMethod, hline, Layout.readHeadings_unit hdecorators hblank hshown hheading,
    Layout.readRows_code hcode, Layout.readHeadings_code hcode, List.map_map]
  rfl

mutual

/-- The lines of a unit are read as its headings. -/
theorem readHeadings_lines (unit : SuiteUnit) (titles : List String) (hooks : List Body)
    (h : IsCoded (unit.placed titles hooks)) :
    readHeadings (readRows unit.lines) = ([], unit.headings 0) := by
  cases unit with
  | hook line body =>
      exact readHeadings_method ["@pytest.fixture(autouse=True)"] (by simp)
        (h _ List.mem_cons_self)
  | test title line flags key tags body =>
      exact readHeadings_method _ Layout.head_markers (h _ List.mem_cons_self)
  | suite title line flags units =>
      obtain ⟨hblank, hshown, hheading⟩ :=
        Layout.isHeading_of_start (.inl rfl) (Layout.suiteName title line ++ ":")
      rw [lines, Layout.suite, headings, Heading.ofSuite, Layout.classLine_eq,
        Layout.readHeadings_unit Layout.head_markers hblank hshown hheading]
      -- A class without children holds one line, and other classes hold no code of their own.
      cases units with
      | nil => rfl
      | cons unit others =>
          rw [bodyOrPass_linesOfAll, readHeadings_linesOfAll _ _ _ h, deeper_headingsOfAll]
          rfl

theorem readHeadings_linesOfAll (units : List SuiteUnit) (titles : List String)
    (hooks : List Body) (h : IsCoded (placedAll titles hooks units)) :
    readHeadings (readRows (linesOfAll units)) = ([], headingsOfAll 0 units) := by
  cases units with
  | nil => rfl
  | cons unit rest =>
      rw [placedAll] at h
      have hunit := readHeadings_lines unit titles hooks fun entry hentry =>
        h entry (List.mem_append_left _ hentry)
      have hrest := readHeadings_linesOfAll rest titles hooks fun entry hentry =>
        h entry (List.mem_append_right _ hentry)
      rw [linesOfAll, readRows_append, readHeadings_append (by rw [hrest]), hunit, hrest]
      rfl

end

end SuiteUnit

/-! ## Lines of steps -/

private theorem Keyword.isCode_label (keyword : Keyword) : Layout.IsCode keyword.label := by
  cases keyword with
  | given => exact ⟨'G', by decide, rfl⟩
  | when => exact ⟨'W', by decide, rfl⟩
  | outcome => exact ⟨'T', by decide, rfl⟩
  | and => exact ⟨'A', by decide, rfl⟩
  | but => exact ⟨'B', by decide, rfl⟩

theorem Occurrence.isCode_line (used : UsedPages) (graph : PageGraph) (occurrence : Occurrence) :
    Layout.IsCode (occurrence.line used graph) := by
  unfold line
  split
  · have hstart : Layout.IsCode "pytest.fail(" := ⟨'p', by decide, rfl⟩
    exact (hstart.append _).append ")"
  · exact ((occurrence.keyword.isCode_label.append "(").append _).append ")"

namespace FeatureFile

variable {file built : FeatureFile} {keywords : KeywordTable} {uri : String} {root : SuiteUnit}

theorem isCoded_of_plan (h : file.plan = .ok (keywords, uri, root)) :
    SuiteUnit.IsCoded (root.placed [] []) := by
  intro entry hentry line hline
  obtain ⟨site, _, hsite⟩ := exists_of_mem_right (plan_realizes h) hentry
  rw [(Planner.composes_of_body hsite.body_eq).lines_eq] at hline
  obtain ⟨occurrence, _, rfl⟩ := List.mem_map.mp hline
  exact occurrence.isCode_line ..

end FeatureFile

end FeatureSuite

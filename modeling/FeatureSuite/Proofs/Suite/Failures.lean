import FeatureSuite.Proofs.Suite.Declared

/-!
# Lines that fail

Modules are read line by line for the lines that make a test fail. They are those of the steps that
no handler accepts, one for each step and in the order of the steps: no other line of a module, be
it in front of the suites, in them or behind them, is read as one.
-/

namespace FeatureSuite

/-! ## Reading lines that fail -/

def Row.isFailure (row : Row) : Bool := (Text.afterStart? "pytest.fail(".toList row.text).isSome

/-- The lines that fail, without their indentation. -/
def readFailures (lines : List String) : List String :=
  ((readRows lines).filter Row.isFailure).map fun row => String.ofList row.text

theorem readFailures_append (lines more : List String) :
    readFailures (lines ++ more) = readFailures lines ++ readFailures more := by
  rw [readFailures, readRows_append, List.filter_append, List.map_append]
  rfl

private theorem readFailures_indent (lines : List String) :
    readFailures (Layout.indent lines) = readFailures lines := by
  rw [readFailures, readRows_indent, List.filter_map, List.map_map]
  rfl

private theorem Row.isFailure_of_head {row : Row} (h : row.text.head? ≠ some 'p') :
    row.isFailure = false := by
  unfold isFailure
  cases htext : row.text with
  | nil => rfl
  | cons c cs =>
      have hne : 'p' ≠ c := fun hc => h (by rw [htext, ← hc]; rfl)
      have hnone : Text.afterStart? "pytest.fail(".toList (c :: cs) = none := if_neg hne
      rw [hnone]
      rfl

namespace Layout

/-- A line that is read as none that fails. -/
def IsQuiet (line : String) : Prop := (Row.ofLine line).isFailure = false

instance : DecidablePred IsQuiet := fun line =>
  inferInstanceAs (Decidable ((Row.ofLine line).isFailure = false))

theorem IsQuiet.of_startsIn {starts : List Char} {line : String} (h : StartsIn starts line)
    (hp : 'p' ∉ starts) : IsQuiet line :=
  Row.isFailure_of_head (h.head_ne hp)

theorem IsQuiet.of_start {start : String} {c : Char} (h : start.toList.head? = some c)
    (hblank : c ≠ ' ') (hp : c ≠ 'p') (rest : String) : IsQuiet (start ++ rest) :=
  .of_startsIn (.of_start (List.mem_singleton_self c) h hblank rest) (by simpa using hp.symm)

theorem readFailures_quiet {lines : List String} (h : ∀ line ∈ lines, IsQuiet line) :
    readFailures lines = [] := by
  have hnone : (readRows lines).filter Row.isFailure = [] := by
    refine List.filter_eq_nil_iff.mpr fun row hrow => ?_
    obtain ⟨line, hline, rfl⟩ := List.mem_map.mp (List.mem_of_mem_filter hrow)
    simpa [IsQuiet] using h line hline
  rw [readFailures, hnone]
  rfl

theorem isQuiet_header (uri : String) (imports : List String) :
    ∀ line ∈ header uri imports, IsQuiet line :=
  fun line hline => .of_startsIn (startsIn_header uri imports line hline) (by decide)

theorem isQuiet_tagsFixture (entries : List (String × List String)) :
    ∀ line ∈ tagsFixture entries, IsQuiet line := by
  obtain ⟨table, heq, htable⟩ := tagsFixture_eq entries
  rw [heq]
  refine List.forall_mem_append.mpr ⟨fun line hline => ?_, by decide⟩
  exact .of_startsIn (htable line hline) (by decide)

private theorem readFailures_unit {decorators inner : List String} {head : String}
    (hdecorators : ∀ line ∈ decorators, line.toList.head? = some '@') (hhead : IsQuiet head) :
    readFailures (decorators ++ head :: indent inner ++ [""]) = readFailures inner := by
  have hfront : readFailures decorators = [] := by
    rw [readFailures, readRows_decorators hdecorators]
    rfl
  have hcons : readFailures (head :: indent inner) = readFailures inner := by
    have hsingle : readFailures [head] = [] :=
      readFailures_quiet fun line hline => List.mem_singleton.mp hline ▸ hhead
    rw [← List.singleton_append, readFailures_append, hsingle, readFailures_indent]
    rfl
  rw [readFailures_append, readFailures_append, hfront, hcons]
  exact List.append_nil _

private theorem readFailures_bodyOrPass (body : List String) :
    readFailures (bodyOrPass body) = readFailures body := by
  cases body <;> rfl

private theorem readFailures_method (decorators : List String) (name : String)
    (fixtures body : List String)
    (hdecorators : ∀ line ∈ decorators, line.toList.head? = some '@') :
    readFailures (decorators ++ methodLine name fixtures :: indent (bodyOrPass body) ++ [""]) =
      readFailures body := by
  obtain ⟨rest, hline⟩ := methodLine_eq name fixtures
  have hhead : IsQuiet (methodLine name fixtures) := by
    rw [hline]
    exact .of_start rfl (by decide) (by decide) _
  rw [readFailures_unit hdecorators hhead, readFailures_bodyOrPass]

private theorem readFailures_hook (line : Int) (fixtures body : List String) :
    readFailures (hook line fixtures body) = readFailures body :=
  readFailures_method ["@pytest.fixture(autouse=True)"] (hookName line) fixtures body (by simp)

private theorem readFailures_test (title : String) (line : Int) (fixtures body : List String)
    (flags : Flags) : readFailures (test title line fixtures body flags) = readFailures body :=
  readFailures_method (markers title flags) (testName title line) fixtures body head_markers

private theorem readFailures_suite (title : String) (line : Int) (body : List String)
    (flags : Flags) :
    readFailures (suite title line body flags) = readFailures body := by
  have hhead : IsQuiet (classLine (suiteName title line)) := by
    rw [classLine_eq]
    exact .of_start rfl (by decide) (by decide) _
  rw [suite, readFailures_unit head_markers hhead, readFailures_bodyOrPass]

end Layout

/-! ## Lines of steps -/

namespace Occurrence

/-- The line for the step if no handler accepts it. -/
def missingLine (occurrence : Occurrence) : String :=
  Layout.missingStep occurrence.keyword.label occurrence.pickleStep.text

private theorem readFailures_line (used : UsedPages) (graph : PageGraph) (occurrence : Occurrence) :
    readFailures [occurrence.line used graph] =
      if occurrence.found.isNone then [occurrence.missingLine] else [] := by
  have hcode : ∀ line ∈ [occurrence.line used graph], Layout.IsCode line := by
    intro line hline
    rw [List.mem_singleton.mp hline]
    exact occurrence.isCode_line used graph
  cases hfound : occurrence.found with
  | none =>
      have hline : occurrence.line used graph = occurrence.missingLine := by
        rw [line, hfound]
        rfl
      have hfails : (Row.startingAt 0 occurrence.missingLine).isFailure = true := by
        change (Row.startingAt 0 ("pytest.fail(" ++ Text.quote _ ++ ")")).isFailure = true
        rw [Row.isFailure, Row.startingAt, String.append_assoc, String.toList_append]
        rfl
      rw [readFailures, Layout.readRows_code hcode, hline, List.map_singleton,
        List.filter_singleton, hfails]
      simp [Row.startingAt]
  | some found =>
      refine Layout.readFailures_quiet fun line hline => ?_
      rw [List.mem_singleton.mp hline, Occurrence.line, hfound]
      change Layout.IsQuiet (occurrence.keyword.label ++ "(" ++ _ ++ ")")
      rw [String.append_assoc, String.append_assoc]
      cases occurrence.keyword <;> exact .of_start rfl (by decide) (by decide) _

private theorem readFailures_lines (used : UsedPages) (graph : PageGraph)
    (occurrences : List Occurrence) :
    readFailures (occurrences.map (·.line used graph)) =
      (occurrences.filter (·.found.isNone)).map missingLine := by
  induction occurrences with
  | nil => rfl
  | cons occurrence occurrences ih =>
      rw [List.map_cons, ← List.singleton_append, readFailures_append, readFailures_line, ih,
        List.filter_cons]
      split <;> simp

end Occurrence

def Body.Written (body : Body) : Prop :=
  ∃ used graph, body.lines = body.occurrences.map (·.line used graph)

private theorem Body.Written.readFailures_eq {body : Body} (h : body.Written) :
    readFailures body.lines = (body.occurrences.filter (·.found.isNone)).map (·.missingLine) := by
  obtain ⟨used, graph, hlines⟩ := h
  rw [hlines, Occurrence.readFailures_lines]

namespace SuiteUnit

mutual

/-- The lines of a unit fail for the steps without a handler, one by one. -/
theorem readFailures_eq (unit : SuiteUnit) (titles : List String) (hooks : List Body)
    (h : ∀ entry ∈ unit.placed titles hooks, entry.unit.body.Written) :
    readFailures unit.lines =
      (unit.occurrences.filter (·.found.isNone)).map (·.missingLine) := by
  cases unit with
  | hook line body =>
      have hbody : body.Written := h _ List.mem_cons_self
      rw [lines, Layout.readFailures_hook, hbody.readFailures_eq, occurrences]
  | test title line flags key tags body =>
      have hbody : body.Written := h _ List.mem_cons_self
      rw [lines, Layout.readFailures_test, hbody.readFailures_eq, occurrences]
  | suite title line flags units =>
      rw [lines, Layout.readFailures_suite, occurrences]
      exact readFailures_all units _ _ h

theorem readFailures_all (units : List SuiteUnit) (titles : List String) (hooks : List Body)
    (h : ∀ entry ∈ placedAll titles hooks units, entry.unit.body.Written) :
    readFailures (linesOfAll units) =
      ((occurrencesOfAll units).filter (·.found.isNone)).map (·.missingLine) := by
  cases units with
  | nil => rfl
  | cons unit rest =>
      rw [placedAll, List.forall_mem_append] at h
      rw [linesOfAll, readFailures_append, readFailures_eq unit titles hooks h.1,
        readFailures_all rest titles hooks h.2, occurrencesOfAll, List.filter_append,
        List.map_append]

end

mutual

theorem occurrences_eq (unit : SuiteUnit) (titles : List String) (hooks : List Body) :
    unit.occurrences = (unit.placed titles hooks).flatMap (·.unit.body.occurrences) := by
  cases unit with
  | hook line body => exact (List.append_nil _).symm
  | test title line flags key tags body => exact (List.append_nil _).symm
  | suite title line flags units => exact occurrencesOfAll_eq units _ _

theorem occurrencesOfAll_eq (units : List SuiteUnit) (titles : List String) (hooks : List Body) :
    occurrencesOfAll units =
      (placedAll titles hooks units).flatMap (·.unit.body.occurrences) := by
  cases units with
  | nil => rfl
  | cons unit rest =>
      rw [occurrencesOfAll, placedAll, List.flatMap_append, ← occurrences_eq unit titles hooks,
        ← occurrencesOfAll_eq rest titles hooks]

end

end SuiteUnit

end FeatureSuite

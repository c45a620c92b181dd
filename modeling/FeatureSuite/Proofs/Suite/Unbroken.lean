import FeatureSuite.Proofs.Suite.Failures
import FeatureSuite.Proofs.Suite.Parameters
import FeatureSuite.Proofs.Suite.Passing

/-!
# One line each

Texts of a document get into a module through titles, which are cut down to words, and through
literals, which escape line breaks; fixtures and modules are named without any. Only the name of the
document stands in the first line as it is. So a line of a module is broken if and only if the name
of its document is.
-/

namespace FeatureSuite

open Expression Literal

/-- Names with dots between them are made of these characters. -/
def IsDotted (name : String) : Prop := ∀ c ∈ name.toList, isNameChar c = true ∨ c = '.'

instance : DecidablePred IsDotted := fun name =>
  decidable_of_iff (name.toList.all (fun c => isNameChar c || c = '.') = true) (by simp [IsDotted])

private theorem IsDotted.isUnbroken {name : String}
    (h : IsDotted name) : IsUnbroken name.toList := by
  intro c hc
  rcases h c hc with hname | rfl
  · exact (Bool.or_eq_false_iff.mp (isSpace_of_isNameChar hname)).2
  · decide

namespace Layout

/-! ## Names and headings -/

private theorem isUnbroken_slugify (title : String) : IsUnbroken (slugify title).toList := by
  refine isUnbroken_iff.mpr ⟨fun hmem => ?_, fun hmem => ?_⟩
  · exact absurd (isWord_of_mem_slugify hmem (by decide)) (by decide)
  · exact absurd (isWord_of_mem_slugify hmem (by decide)) (by decide)

private theorem isUnbroken_toString (line : Int) : IsUnbroken (toString line).toList := by
  refine isUnbroken_iff.mpr ⟨fun hmem => ?_, fun hmem => ?_⟩
  · exact absurd (Numeral.isDigit_of_mem_toString hmem) (by decide)
  · exact absurd (Numeral.isDigit_of_mem_toString hmem) (by decide)

private theorem isUnbroken_titled {start : String} (hstart : IsUnbroken start.toList)
    (title : String) (line : Int) : IsUnbroken
    (start ++ slugify title ++ "_L" ++ toString line).toList := by
  have hmiddle : IsUnbroken "_L".toList := by decide
  simp only [String.toList_append]
  exact ((hstart.append (isUnbroken_slugify title)).append hmiddle).append
    (isUnbroken_toString line)

private theorem isUnbroken_methodLine {name : String} (hname : IsUnbroken name.toList)
    {parameters : List String} (h : ∀ parameter ∈ parameters, IsUnbroken parameter.toList) :
    IsUnbroken (methodLine name parameters).toList := by
  have hdef : IsUnbroken "def ".toList := by decide
  have hopen : IsUnbroken "(".toList := by decide
  have hcomma : IsUnbroken ", ".toList := by decide
  have hclose : IsUnbroken "):".toList := by decide
  have hself : IsUnbroken "self".toList := by decide
  have hparameters := hcomma.intercalate
    (List.forall_mem_map.mpr (List.forall_mem_cons.mpr ⟨hself, h⟩))
  change IsUnbroken
    ("def " ++ name ++ "(" ++ ", ".intercalate ("self" :: parameters) ++ "):").toList
  simp only [String.toList_append, String.toList_intercalate]
  exact (((hdef.append hname).append hopen).append hparameters).append hclose

private theorem isUnbroken_classLine {name : String} (hname : IsUnbroken name.toList) :
    IsUnbroken (classLine name).toList := by
  have hclass : IsUnbroken "class ".toList := by decide
  have hcolon : IsUnbroken ":".toList := by decide
  rw [classLine_eq, String.toList_append, String.toList_append]
  exact hclass.append (hname.append hcolon)

/-! ## Blocks -/

private theorem isUnbroken_indent {lines : List String}
    (h : ∀ line ∈ lines, IsUnbroken line.toList) :
    ∀ line ∈ indent lines, IsUnbroken line.toList := by
  have hindentation : IsUnbroken indentation.toList := by decide
  refine List.forall_mem_map.mpr fun line hline => ?_
  split
  · decide
  · rw [String.toList_append]
    exact hindentation.append (h line hline)

private theorem isUnbroken_unit {decorators body : List String} {head : String}
    (hdecorators : ∀ line ∈ decorators, IsUnbroken line.toList) (hhead : IsUnbroken head.toList)
    (hbody : ∀ line ∈ body, IsUnbroken line.toList) :
    ∀ line ∈ decorators ++ head :: indent (bodyOrPass body) ++ [""],
      IsUnbroken line.toList := by
  have hinside : ∀ line ∈ bodyOrPass body, IsUnbroken line.toList := by
    unfold bodyOrPass
    split
    · decide
    · exact hbody
  have hblock : ∀ line ∈ head :: indent (bodyOrPass body), IsUnbroken line.toList :=
    List.forall_mem_cons.mpr ⟨hhead, isUnbroken_indent hinside⟩
  exact List.forall_mem_append.mpr ⟨List.forall_mem_append.mpr ⟨hdecorators, hblock⟩, by decide⟩

private theorem isUnbroken_header (uri : String) {imports : List String}
    (h : ∀ name ∈ imports, IsUnbroken name.toList) :
    ∃ behind, header uri imports = ("# Generated from: " ++ uri) :: behind ∧
      ∀ line ∈ behind, IsUnbroken line.toList := by
  have himport : ∀ name ∈ imports,
      IsUnbroken ("from " ++ name ++ " import *  # noqa: F401,F403").toList := by
    intro name hname
    have hfrom : IsUnbroken "from ".toList := by decide
    have hbehind : IsUnbroken " import *  # noqa: F401,F403".toList := by decide
    rw [String.toList_append, String.toList_append]
    exact (hfrom.append (h name hname)).append hbehind
  refine ⟨_, rfl, ?_⟩
  refine List.forall_mem_append.mpr ⟨List.forall_mem_append.mpr ⟨by decide, ?_⟩, by decide⟩
  split
  · exact List.forall_mem_nil _
  · exact List.forall_mem_cons.mpr ⟨by decide, List.forall_mem_map.mpr himport⟩

end Layout

/-! ## Lines of a plan -/

namespace Occurrence

variable {used : UsedPages} {graph : PageGraph} {occurrence : Occurrence}

private theorem isUnbroken_line
    (h : ∀ name ∈ occurrence.passed used graph, IsUnbroken name.toList) :
    IsUnbroken (occurrence.line used graph).toList := by
  rw [line_eq_write, call]
  split
  · exact (Layout.isPlain_missingCall _ _).isUnbroken
  · have hkeyword := isUnbroken_of_isParameterName
      (Layout.isParameterName_label occurrence.keyword)
    refine Call.isUnbroken (List.forall_mem_singleton.mpr hkeyword)
      (List.forall_mem_singleton.mpr (isUnbroken_quote _)) fun entry hentry => ?_
    rcases List.mem_append.mp hentry with hentry | hentry
    · obtain ⟨given, _, rfl⟩ := Option.map_eq_some_iff.mp (Option.mem_toList.mp hentry)
      have hname := Layout.isParameterName_of_mem "argument" (by simp)
      exact ⟨isUnbroken_of_isParameterName hname, (isPlain_argument given).isUnbroken⟩
    · obtain ⟨name, hname, rfl⟩ := List.mem_map.mp hentry
      exact ⟨h name hname, h name hname⟩

end Occurrence

namespace SuiteUnit

/-- The fixtures and the lines of the hooks and tests of a plan stand on one line each. -/
def IsUnbroken (placed : List Placed) : Prop :=
  ∀ entry ∈ placed, (∀ name ∈ entry.unit.body.fixtures, Literal.IsUnbroken name.toList) ∧
    ∀ line ∈ entry.unit.body.lines, Literal.IsUnbroken line.toList

mutual

private theorem isUnbroken_lines (unit : SuiteUnit) (titles : List String) (hooks : List Body)
    (h : IsUnbroken (unit.placed titles hooks)) :
    ∀ line ∈ unit.lines, Literal.IsUnbroken line.toList := by
  cases unit with
  | hook line body =>
      obtain ⟨hfixtures, hbody⟩ := h _ List.mem_cons_self
      have hstart : Literal.IsUnbroken "before_each_L".toList := by decide
      have hname : Literal.IsUnbroken (Layout.hookName line).toList := by
        change Literal.IsUnbroken ("before_each_L" ++ toString line).toList
        rw [String.toList_append]
        exact hstart.append (Layout.isUnbroken_toString line)
      have hdecorator : ∀ line ∈ ["@pytest.fixture(autouse=True)"],
          Literal.IsUnbroken line.toList := by
        decide
      exact Layout.isUnbroken_unit hdecorator (Layout.isUnbroken_methodLine hname hfixtures) hbody
  | test title line flags key tags body =>
      obtain ⟨hfixtures, hbody⟩ := h _ List.mem_cons_self
      have hname : Literal.IsUnbroken (Layout.testName title line).toList :=
        Layout.isUnbroken_titled (by decide) title line
      exact Layout.isUnbroken_unit (Layout.isUnbroken_markers title flags)
        (Layout.isUnbroken_methodLine hname hfixtures) hbody
  | suite title line flags units =>
      have hname : Literal.IsUnbroken (Layout.suiteName title line).toList :=
        Layout.isUnbroken_titled (by decide) title line
      exact Layout.isUnbroken_unit (Layout.isUnbroken_markers title flags)
        (Layout.isUnbroken_classLine hname) (isUnbroken_linesOfAll units _ _ h)

theorem isUnbroken_linesOfAll (units : List SuiteUnit) (titles : List String) (hooks : List Body)
    (h : IsUnbroken (placedAll titles hooks units)) :
    ∀ line ∈ linesOfAll units, Literal.IsUnbroken line.toList := by
  cases units with
  | nil => exact List.forall_mem_nil _
  | cons unit rest =>
      rw [placedAll] at h
      obtain ⟨hunit, hrest⟩ := List.forall_mem_append.mp h
      exact List.forall_mem_append.mpr ⟨isUnbroken_lines unit titles hooks hunit,
        isUnbroken_linesOfAll rest titles hooks hrest⟩

end

end SuiteUnit

namespace FeatureFile

variable {file built : FeatureFile}

private theorem isUnbroken_of_plan {keywords : KeywordTable} {uri : String} {root : SuiteUnit}
    (hregistry : ∀ name ∈ file.registry.fixtures, IsUnbroken name.toList)
    (h : file.plan = .ok (keywords, uri, root)) : SuiteUnit.IsUnbroken (root.placed [] []) := by
  have hfixtures := fixtures_of_plan (fun _ hname => isUnbroken_of_isParameterName hname)
    hregistry h
  intro placed hplaced
  refine ⟨hfixtures placed hplaced, fun line hline => ?_⟩
  obtain ⟨site, _, hrealizes⟩ := exists_of_mem_right (plan_realizes h) hplaced
  have hcomposes := Planner.composes_of_body hrealizes.body_eq
  rw [hcomposes.lines_eq] at hline
  obtain ⟨occurrence, hoccurrence, rfl⟩ := List.mem_map.mp hline
  have hpassed := (hcomposes.mem_fixtures hoccurrence).2
  exact Occurrence.isUnbroken_line fun name hname =>
    hfixtures placed hplaced name (hpassed name hname)

private theorem exists_runner_of_build (h : file.build = .ok built) :
    ∀ name ∈ built.runnerModules, ∃ binding ∈ file.registry.bindings,
      binding.runner = some name := by
  obtain ⟨⟨keywords, uri, root⟩, hplan, h⟩ := bind_eq_ok.mp h
  cases h
  intro name hname
  obtain ⟨occurrence, hmem, hrunner⟩ := List.mem_filterMap.mp (mem_distinct.mp hname)
  rw [root.occurrences_eq [] []] at hmem
  obtain ⟨placed, hplaced, hmem⟩ := List.mem_flatMap.mp hmem
  obtain ⟨site, _, hrealizes⟩ := exists_of_mem_right (plan_realizes hplan) hplaced
  have hcomposes := Planner.composes_of_body hrealizes.body_eq
  obtain ⟨found, hfound, hrunner⟩ :=
    Option.bind_eq_some_iff.mp (Option.filter_eq_some_iff.mp hrunner).1
  exact ⟨found.binding, hcomposes.mem_bindings hmem hfound, hrunner⟩

/-- All lines of a module but the first one stand on one line each. -/
theorem isUnbroken_of_build
    (himports : ∀ name ∈ file.settings.importFixturesFrom, IsDotted name)
    (hrunners : ∀ binding ∈ file.registry.bindings, ∀ name ∈ binding.runner, IsDotted name)
    (hfixtures : ∀ name ∈ file.registry.fixtures, IsDotted name) (h : file.build = .ok built) :
    ∃ uri behind, file.sourceFile = .ok uri ∧
      built.lines = ("# Generated from: " ++ uri) :: behind ∧
        ∀ line ∈ behind, IsUnbroken line.toList := by
  obtain ⟨keywords, uri, root, hplan, hsource, _, hlines⟩ := text_of_build h
  have hnamed : ∀ name ∈ imports file.settings built.runnerModules, IsUnbroken name.toList := by
    intro name hname
    rcases List.mem_append.mp (mem_distinct.mp hname) with hname | hname
    · have hsetting := (Option.filter_eq_some_iff.mp (Option.mem_toList.mp hname)).1
      exact (himports name hsetting).isUnbroken
    · obtain ⟨binding, hbinding, hrunner⟩ := exists_runner_of_build h name hname
      exact (hrunners binding hbinding name hrunner).isUnbroken
  have hplaced := isUnbroken_of_plan (fun name hname => (hfixtures name hname).isUnbroken) hplan
  have hroot := root.isUnbroken_lines [] [] hplaced
  have htable := Layout.isUnbroken_tagsFixture built.tags.entries
  obtain ⟨behind, hheader, hbehind⟩ := Layout.isUnbroken_header uri hnamed
  refine ⟨uri, behind ++ root.lines ++ "" :: Layout.tagsFixture built.tags.entries, hsource, ?_, ?_⟩
  · rw [hlines, hheader]
    rfl
  · exact List.forall_mem_append.mpr ⟨List.forall_mem_append.mpr ⟨hbehind, hroot⟩,
      List.forall_mem_cons.mpr ⟨by decide, htable⟩⟩

/-- If the fixtures and the modules that the registry and the settings name have dotted names, all
lines of a module stand on one line each exactly if the name of the document does, and the text of
the module is cut into its lines at line feeds exactly if this name has none. -/
theorem lines_unbroken_iff_of_build
    (himports : ∀ name ∈ file.settings.importFixturesFrom, IsDotted name)
    (hrunners : ∀ binding ∈ file.registry.bindings, ∀ name ∈ binding.runner, IsDotted name)
    (hfixtures : ∀ name ∈ file.registry.fixtures, IsDotted name) (h : file.build = .ok built) :
    ∃ uri, file.sourceFile = .ok uri ∧
      ((∀ line ∈ built.lines, IsUnbroken line.toList) ↔ IsUnbroken uri.toList) ∧
      (Text.lines built.content = built.lines ++ [""] ↔ '\n' ∉ uri.toList) := by
  obtain ⟨uri, behind, hsource, hlines, hbehind⟩ :=
    isUnbroken_of_build himports hrunners hfixtures h
  have hfirst (c : Char) (hc : c ∉ "# Generated from: ".toList) :
      c ∈ ("# Generated from: " ++ uri).toList ↔ c ∈ uri.toList := by
    rw [String.toList_append, List.mem_append, or_iff_right hc]
  have hfeed := hfirst '\n' (by decide)
  refine ⟨uri, hsource, ?_, ?_⟩
  · rw [hlines, List.forall_mem_cons, and_iff_left hbehind, isUnbroken_iff, isUnbroken_iff, hfeed,
      hfirst '\r' (by decide)]
  · have hne : built.lines ≠ [] := hlines ▸ List.cons_ne_nil _ _
    have hrest : ∀ line ∈ behind, '\n' ∉ line.toList := fun line hline =>
      (isUnbroken_iff.mp (hbehind line hline)).1
    rw [content, Text.lines_join hne, hlines, List.forall_mem_cons, and_iff_left hrest, hfeed]

/-- A handler that is called through a module of its own. -/
def remote : Registry :=
  let user : Handler := { signature := some [{ name := "browser", kind := .keywordOnly }] }
  let scope : Scope := { runner := some "app.steps" }
  let store := (Store.add {} scope .context (.template "a user") user none none).toOption.getD {}
  store.build.1

/-- A table with a line feed in a cell, and a doc string that goes over two lines. -/
def tornText : String :=
  "Feature: F\n  Scenario: say \"hi\"\n    Given a user\n      | a\\nb |\n    Given a user\n" ++
    "      \"\"\"\n      x\n      y\n      \"\"\"\n"

def tornLines : List String :=
  ["Given(\"a user\", argument=\x7b\"dataTable\": \x7b\"rows\": [\x7b\"cells\": " ++
      "[\x7b\"value\": \"a\\nb\"\x7d]\x7d]\x7d\x7d, browser=browser)",
    "Given(\"a user\", argument=\x7b\"docString\": \x7b\"content\": \"x\\ny\"\x7d\x7d, " ++
      "browser=browser)"]

theorem lines_unbroken_of_torn :
    ∃ loaded file built, load tornText "features/a b.feature" remote = .ok loaded ∧
      file = { loaded with settings := { importFixturesFrom := some "app.fixtures" } } ∧
      (∀ name ∈ file.settings.importFixturesFrom, IsDotted name) ∧
      (∀ binding ∈ file.registry.bindings, ∀ name ∈ binding.runner, IsDotted name) ∧
      (∀ name ∈ file.registry.fixtures, IsDotted name) ∧ file.build = .ok built ∧
      (∀ line ∈ tornLines, Layout.indentation ++ (Layout.indentation ++ line) ∈ built.lines) ∧
      (∀ line ∈ built.lines, IsUnbroken line.toList) ∧
      Text.lines built.content = built.lines ++ [""] := by
  have hcheck : (load tornText "features/a b.feature" remote).toOption.any (fun loaded =>
      let file : FeatureFile :=
        { loaded with settings := { importFixturesFrom := some "app.fixtures" } }
      file.build.toOption.any fun built => decide (file.sourceFile.toOption =
          some "features/a b.feature" ∧
        ∀ line ∈ tornLines, Layout.indentation ++ (Layout.indentation ++ line) ∈ built.lines)) =
          true := by
    decide +kernel
  have hmodules : IsDotted "app.fixtures" := by decide +kernel
  have hremote : (∀ binding ∈ remote.bindings, ∀ name ∈ binding.runner, IsDotted name) ∧
      ∀ name ∈ remote.fixtures, IsDotted name := by
    decide +kernel
  obtain ⟨loaded, hload, hcheck⟩ := exists_ok_of_any hcheck
  obtain ⟨built, hbuild, hcheck⟩ := exists_ok_of_any hcheck
  obtain ⟨hname, htorn⟩ := of_decide_eq_true hcheck
  rw [← registry_of_load hload] at hremote
  have himports : ∀ name ∈ some "app.fixtures", IsDotted name := by simpa using hmodules
  obtain ⟨uri, hsource, hlines, htext⟩ :=
    @lines_unbroken_iff_of_build
      { loaded with settings := { importFixturesFrom := some "app.fixtures" } } built himports
      hremote.1 hremote.2 hbuild
  have huri : uri = "features/a b.feature" := by
    rw [hsource] at hname
    exact Option.some.inj hname
  have hunbroken : IsUnbroken uri.toList := by
    rw [huri]
    decide
  exact ⟨loaded, _, built, hload, rfl, himports, hremote.1, hremote.2, hbuild, htorn,
    hlines.mpr hunbroken, htext.mpr (isUnbroken_iff.mp hunbroken).1⟩

/-- The name of a document may hold a line feed, and what stands behind it becomes a line of
code. -/
theorem exists_line_torn :
    ∃ file built, load "Feature: F\n" "features/a\nb.feature" {} = .ok file ∧
      file.build = .ok built ∧ built.lines.head? = some "# Generated from: features/a\nb.feature" ∧
      Text.lines built.content ≠ built.lines ++ [""] := by
  have hcheck : (load "Feature: F\n" "features/a\nb.feature" {}).toOption.any (fun file =>
      file.build.toOption.any fun built =>
        built.lines.head? = some "# Generated from: features/a\nb.feature") = true := by
    decide +kernel
  obtain ⟨file, hload, hcheck⟩ := exists_ok_of_any hcheck
  obtain ⟨built, hbuild, hhead⟩ := exists_ok_of_any hcheck
  have hhead := of_decide_eq_true hhead
  obtain ⟨behind, hlines⟩ := List.head?_eq_some_iff.mp hhead
  refine ⟨file, built, hload, hbuild, hhead, fun hcut => ?_⟩
  have hne : built.lines ≠ [] := hlines ▸ List.cons_ne_nil _ _
  have hfeed := (Text.lines_join hne).mp hcut _ (hlines ▸ List.mem_cons_self)
  exact absurd hfeed (by decide)

end FeatureFile

end FeatureSuite

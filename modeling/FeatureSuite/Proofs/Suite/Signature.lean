import FeatureSuite.Proofs.Suite.Calls
import FeatureSuite.Proofs.Suite.Headings

/-!
# Parameters of methods

The parameters of a method are collected while its steps are resolved, and its lines are written
afterwards. Both follow from the steps: whatever a line calls or passes is a parameter.
-/

namespace FeatureSuite

open Expression (Call Operand)

/-! ## Calls of steps -/

namespace Occurrence

variable (used : UsedPages) (graph : PageGraph) (occurrence : Occurrence)

/-- The call in the line of a step. A step without a handler is not called. -/
def call : Call :=
  match occurrence.found with
  | none => Layout.missingCall occurrence.keyword.label occurrence.pickleStep.text
  | some _ =>
      Layout.stepCall occurrence.keyword.label occurrence.pickleStep.text
        occurrence.pickleStep.argument (occurrence.passed used graph)

theorem line_eq_write : occurrence.line used graph = (occurrence.call used graph).write := by
  unfold line call
  cases occurrence.found with
  | none => exact Layout.missingStep_eq _ _
  | some found => exact Layout.step_eq _ _ _ _

private theorem callee_call :
    (occurrence.call used graph).callee = ["pytest", "fail"] ∨
      (occurrence.call used graph).callee = [occurrence.keyword.label] := by
  unfold call
  cases occurrence.found with
  | none => exact .inl rfl
  | some found => exact .inr rfl

private theorem mem_passed_of_call {keyword name : String}
    (h : (keyword, Operand.name name) ∈ (occurrence.call used graph).keywords) :
    name ∈ occurrence.passed used graph := by
  unfold call at h
  cases hfound : occurrence.found with
  | none =>
      rw [hfound] at h
      exact absurd h List.not_mem_nil
  | some found =>
      rw [hfound] at h
      rcases List.mem_append.mp h with h | h
      · obtain ⟨given, _, hgiven⟩ := Option.map_eq_some_iff.mp (Option.mem_toList.mp h)
        cases hgiven
      · obtain ⟨fixture, hfixture, heq⟩ := List.mem_map.mp h
        cases heq
        exact hfixture

end Occurrence

theorem Planner.Composes.lines_eq_write {planner : Planner} {steps : List Gherkin.Step}
    {tags : List String} {row : Option String} {body : Body}
    (h : planner.Composes steps tags row body) :
    body.lines = body.occurrences.map fun occurrence =>
      (occurrence.call (planner.usedPages tags body) planner.registry.pages).write := by
  rw [h.lines_eq]
  exact List.map_congr_left fun occurrence _ => Occurrence.line_eq_write ..

/-! ## Methods of plans -/

/-- Whether a line is the first one of a function. -/
def Row.isFunction (row : Row) : Bool := (Text.afterStart? "def ".toList row.text).isSome

namespace Heading

def isMethod (heading : Heading) : Bool := heading.row.isFunction

@[simp] theorem isMethod_ofMethod (level : Nat) (name : String) (body : Body) :
    (ofMethod level name body).isMethod = true := by
  obtain ⟨rest, hline⟩ := Layout.methodLine_eq name body.fixtures
  rw [isMethod, Row.isFunction, ofMethod, hline, Row.startingAt, String.toList_append,
    Text.afterStart?_append]
  rfl

@[simp] theorem isMethod_ofSuite (level : Nat) (title : String) (line : Int) (childless : Bool) :
    (ofSuite level title line childless).isMethod = false := by
  rw [isMethod, Row.isFunction, ofSuite, Row.startingAt, Layout.classLine_eq, String.toList_append]
  rfl

end Heading

namespace SuiteUnit

/-- The name of the method or the class for a unit. -/
def name : SuiteUnit → String
  | hook line _ => Layout.hookName line
  | test title line _ _ _ _ => Layout.testName title line
  | suite title line _ _ => Layout.suiteName title line

end SuiteUnit

/-- The line of a method takes the fixtures of a hook or a test behind what all methods take, and
the lines of its steps follow, or one that does nothing. -/
structure Placed.WrittenAs (placed : Placed) (heading : Heading) : Prop where
  row_eq : heading.row = .startingAt placed.titles.length
    ("def " ++ placed.unit.name ++ "(" ++
      ", ".intercalate ("self" :: placed.unit.body.fixtures) ++ "):")
  code_eq : heading.code =
    (if placed.unit.body.lines.isEmpty then ["pass"] else placed.unit.body.lines).map
      (Row.startingAt (placed.titles.length + 1))

namespace SuiteUnit

mutual

/-- The methods among the headings of a unit are its hooks and tests. -/
theorem methods_headings (unit : SuiteUnit) (titles : List String) (hooks : List Body) :
    List.Forall₂ Placed.WrittenAs (unit.placed titles hooks)
      ((unit.headings titles.length).filter Heading.isMethod) := by
  cases unit with
  | hook line body =>
      rw [headings, List.filter_singleton, Heading.isMethod_ofMethod]
      exact .cons ⟨rfl, rfl⟩ .nil
  | test title line flags key tags body =>
      rw [headings, List.filter_singleton, Heading.isMethod_ofMethod]
      exact .cons ⟨rfl, rfl⟩ .nil
  | suite title line flags units =>
      have hunits := methods_headingsOfAll units (titles ++ [title])
        (hooks ++ units.filterMap hook?)
      rw [List.length_append, List.length_singleton] at hunits
      rw [headings, List.filter_cons_of_neg (by simp)]
      exact hunits

theorem methods_headingsOfAll (units : List SuiteUnit) (titles : List String)
    (hooks : List Body) :
    List.Forall₂ Placed.WrittenAs (placedAll titles hooks units)
      ((headingsOfAll titles.length units).filter Heading.isMethod) := by
  cases units with
  | nil => exact .nil
  | cons unit rest =>
      rw [placedAll, headingsOfAll, List.filter_append]
      exact List.rel_append (methods_headings unit titles hooks)
        (methods_headingsOfAll rest titles hooks)

end

end SuiteUnit

private theorem Planner.Realizes.heading_eq {planner : Planner} {site : Site} {placed : Placed}
    (h : planner.Realizes site placed) :
    placed.titles.length = site.around.length ∧ placed.unit.name = site.origin.methodName := by
  refine ⟨?_, ?_⟩
  · rw [h.surrounds.titles_eq, List.length_map]
  · rw [h.unit_eq]
    unfold Site.unit
    cases site.origin <;> rfl

namespace FeatureFile

/-- The methods that are read in a module, between what is written in front of and behind all
suites, are the hooks and the tests of its plan. -/
theorem methods_of_build {file built : FeatureFile} (h : file.build = .ok built) :
    ∃ keywords uri root headings, file.plan = .ok (keywords, uri, root) ∧
      built.lines = Layout.header uri (imports file.settings built.runnerModules) ++ root.lines ++
        "" :: Layout.tagsFixture built.tags.entries ∧
      readHeadings (readRows root.lines) = ([], headings) ∧
      List.Forall₂ Placed.WrittenAs (root.placed [] []) (headings.filter Heading.isMethod) := by
  obtain ⟨keywords, uri, root, hplan, _, _, hlines⟩ := text_of_build h
  exact ⟨keywords, uri, root, root.headings 0, hplan, hlines,
    root.readHeadings_lines [] [] (isCoded_of_plan hplan), root.methods_headings [] []⟩

/-- The module has a method for every site of the document and no others. Its parameters are, behind
the one that all methods have, each once and in the order of first occurrence, the keywords and the
fixtures of its steps, the fixtures that its tags choose and those that run its page object steps;
its lines are the calls of its steps, and every keyword that these call and every fixture that they
pass is a parameter. -/
theorem method_parameters_of_build {file built : FeatureFile} (h : file.build = .ok built) :
    ∃ keywords uri root headings, file.plan = .ok (keywords, uri, root) ∧
      built.lines = Layout.header uri (imports file.settings built.runnerModules) ++ root.lines ++
        "" :: Layout.tagsFixture built.tags.entries ∧
      readHeadings (readRows root.lines) = ([], headings) ∧
      List.Forall₂ (fun site heading => ∃ body : Body,
          let planner := file.planner keywords uri
          let used := planner.usedPages site.tags body
          let level := site.around.length
          heading.row = .startingAt level ("def " ++ site.origin.methodName ++ "(" ++
            ", ".intercalate ("self" :: body.fixtures) ++ "):") ∧
          heading.code = (if body.lines.isEmpty then ["pass"] else body.lines).map
            (Row.startingAt (level + 1)) ∧
          planner.Composes site.origin.steps site.tags site.origin.row? body ∧
          body.fixtures = distinct
            (body.occurrences.flatMap (fun occurrence =>
                occurrence.keyword.label :: occurrence.fixtures) ++
              site.tags.filterMap fixtureOfTag? ++
              body.occurrences.flatMap (·.winners used file.registry.pages)) ∧
          body.lines = body.occurrences.map
            (fun occurrence => (occurrence.call used file.registry.pages).write) ∧
          ∀ occurrence ∈ body.occurrences,
            let call := occurrence.call used file.registry.pages
            (call.callee = ["pytest", "fail"] ∨ call.callee = [occurrence.keyword.label]) ∧
            occurrence.keyword.label ∈ body.fixtures ∧
            (∀ name ∈ occurrence.passed used file.registry.pages, name ∈ body.fixtures) ∧
            ∀ keyword name, (keyword, .name name) ∈ call.keywords → name ∈ body.fixtures)
        file.sites (headings.filter Heading.isMethod) := by
  obtain ⟨keywords, uri, root, headings, hplan, hlines, hread, hmethods⟩ := methods_of_build h
  refine ⟨keywords, uri, root, headings, hplan, hlines, hread, ?_⟩
  refine (forall₂_trans (plan_realizes hplan) hmethods).imp fun site heading hpair => ?_
  obtain ⟨placed, _, hsite, hwritten⟩ := hpair
  obtain ⟨hlevel, hname⟩ := hsite.heading_eq
  have hcomposes := Planner.composes_of_body hsite.body_eq
  have hrow := hwritten.row_eq
  have hcode := hwritten.code_eq
  rw [hlevel, hname] at hrow
  rw [hlevel] at hcode
  refine ⟨placed.unit.body, hrow, hcode, hcomposes, hcomposes.fixtures_eq,
    hcomposes.lines_eq_write, fun occurrence hmem => ?_⟩
  obtain ⟨hkeyword, hpassed⟩ := hcomposes.mem_fixtures hmem
  exact ⟨occurrence.callee_call _ _, hkeyword, hpassed, fun keyword name hcall =>
    hpassed name (occurrence.mem_passed_of_call _ _ hcall)⟩

/-- A handler that asks for a fixture, and a page object with a step. -/
def shop : Registry :=
  let user : Handler := { signature := some [{ name := "db", kind := .keywordOnly }] }
  let cart : PageClass :=
    { number := 0, name := "Cart", order := [0]
      methods := [{ name := "buy", marks := [{ role := .action, pattern := .template "I buy" }] }] }
  let store := (Store.add {} {} .context (.template "a user") user none none).toOption.getD {}
  (store.addPage {} cart "cart" none).1.build.1

/-- A hook with the handler, and a test with a step of the page object and one without a handler. -/
def shopText : String :=
  "Feature: F\n  Background:\n    Given a user\n  @fixture:cart\n  Scenario: S\n" ++
    "    When I buy\n    Then I pay\n"

/-- The methods for this text. -/
def shopMethods : List Heading :=
  [⟨.startingAt 1 "def before_each_L2(self, Given, db):",
      [.startingAt 2 "Given(\"a user\", db=db)"]⟩,
    ⟨.startingAt 1 "def test_s_L5(self, When, Then, cart):",
      [.startingAt 2 "When(\"I buy\", cart=cart)",
        .startingAt 2 "pytest.fail(\"Missing step: Then I pay\")"]⟩]

theorem method_parameters_of_shop :
    ∃ file built root headings, load shopText "f.feature" shop = .ok file ∧
      file.build = .ok built ∧ readHeadings (readRows root.lines) = ([], headings) ∧
      headings.filter Heading.isMethod = shopMethods ∧
      ∃ keywords uri, file.plan = .ok (keywords, uri, root) ∧
        List.Forall₂ (fun site heading => ∃ body : Body,
            heading.row = .startingAt 1 ("def " ++ site.origin.methodName ++ "(" ++
              ", ".intercalate ("self" :: body.fixtures) ++ "):") ∧
            (file.planner keywords uri).Composes site.origin.steps site.tags site.origin.row? body ∧
            ∀ occurrence ∈ body.occurrences, occurrence.keyword.label ∈ body.fixtures)
          file.sites shopMethods := by
  have hcompile : (compile shopText "f.feature" shop).toOption.any (fun (file, _, root) =>
      decide ((readHeadings (readRows root.lines)).2.filter Heading.isMethod = shopMethods ∧
        ∀ site ∈ file.sites, site.around.length = 1)) = true := by
    decide +kernel
  obtain ⟨⟨file, built, root⟩, hcompile, hcheck⟩ := exists_ok_of_any hcompile
  obtain ⟨hload, hbuild, keywords, uri, hplan⟩ := compile_eq_ok hcompile
  obtain ⟨hfilter, hlevel⟩ := of_decide_eq_true hcheck
  obtain ⟨_, _, _, headings, hplan', _, hread, hmethods⟩ := method_parameters_of_build hbuild
  rw [hplan] at hplan'
  cases hplan'
  rw [hread] at hfilter
  rw [hfilter] at hmethods
  refine ⟨file, built, root, headings, hload, hbuild, hread, hfilter, keywords, uri, hplan, ?_⟩
  refine (forall₂_mem hmethods).imp fun site heading hpair => ?_
  obtain ⟨hsite, _, body, hrow, _, hcomposes, _, _, hcalls⟩ := hpair
  rw [hlevel site hsite] at hrow
  exact ⟨body, hrow, hcomposes, fun occurrence hmem => (hcalls occurrence hmem).2.1⟩

end FeatureFile

end FeatureSuite

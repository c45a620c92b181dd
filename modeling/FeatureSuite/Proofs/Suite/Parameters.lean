import FeatureSuite.Proofs.Suite.Expression
import FeatureSuite.Proofs.Suite.Fixtures
import FeatureSuite.Proofs.Suite.Names
import FeatureSuite.Proofs.Suite.Signature

/-!
# Repeated parameters

The parameters of methods are read back from the lines of a module. The fixtures of a body differ,
but they may repeat the name that every method has in front of them: no tag is refused for it. So
the parameters of a method differ unless its steps see the tag for a fixture of this name.
-/

namespace FeatureSuite

open Expression Literal
open Gherkin (Step)

/-! ## Reading parameters -/

/-- Reads the name of a parameter. Reserved words are names, too. -/
def readParameter? (cs : List Char) : Option (String × List Char) :=
  let name := String.ofList (cs.takeWhile isNameChar)
  if Text.isIdentifier name then some (name, cs.dropWhile isNameChar) else none

/-- The parameters in the heading of a function. -/
def Row.parameters? (row : Row) : Option (List String) := do
  let rest ← Text.afterStart? "def ".toList row.text
  let (parameters, rest) ← readAll? readParameter? ')' ((rest.dropWhile (· ≠ '(')).drop 1)
  if rest = [':'] then some parameters else none

/-- The parameters of a function as far as they can be read; other lines have none. -/
def Row.signature? (row : Row) : Option (Option (List String)) :=
  if (Text.afterStart? "def ".toList row.text).isSome then some row.parameters? else none

def readSignatures (lines : List String) : List (Option (List String)) :=
  (readRows lines).filterMap Row.signature?

/-- The parameters of all functions. -/
def readParameters (lines : List String) : List (List String) :=
  (readRows lines).filterMap Row.parameters?

private theorem Row.signature?_of_not_isHeading {row : Row} (h : row.isHeading = false) :
    row.signature? = none := by
  obtain ⟨_, hdef⟩ := Bool.or_eq_false_iff.mp h
  rw [signature?, hdef]
  rfl

private theorem Row.parameters?_eq_bind (row : Row) : row.parameters? = row.signature?.bind id := by
  unfold signature?
  split
  · rfl
  · rename_i hdef
    rw [parameters?, Option.not_isSome_iff_eq_none.mp hdef]
    rfl

private theorem readParameters_eq (lines : List String) :
    readParameters lines = (readSignatures lines).filterMap id := by
  rw [readParameters, readSignatures, List.filterMap_filterMap]
  exact congrArg (List.filterMap · _) (funext Row.parameters?_eq_bind)

private theorem readsBack_parameter {name : String} (h : Text.isIdentifier name = true) :
    ReadsBack readParameter? ')' String.toList name := by
  obtain ⟨first, cs, hopens, hfirst⟩ := opens_of_isIdentifier h
  have hclose : first ≠ ')' := by
    rintro rfl
    exact nomatch hfirst.symm.trans (isNameChar_of_mem _ (by decide))
  refine ⟨fun c rest hc => ?_, first, cs, hopens, isSpace_of_isNameChar hfirst, hclose⟩
  obtain ⟨htake, hdrop⟩ :=
    takeWhile_name (isNameChar_of_isIdentifier h) (isNameChar_of_ends hc).1 rest
  simp [readParameter?, htake, hdrop, h]

private theorem Row.parameters?_methodLine (level : Nat) {name : String} (hname : Text.IsPlain name)
    {parameters : List String} (h : ∀ parameter ∈ parameters, Text.isIdentifier parameter = true) :
    (Row.startingAt level (Layout.methodLine name parameters)).parameters? =
      some ("self" :: parameters) := by
  have hwrite : (Layout.methodLine name parameters).toList =
      "def ".toList ++ (name.toList ++
        '(' :: ([',', ' '].intercalate (("self" :: parameters).map String.toList) ++
          ')' :: [':'])) := by
    change ("def " ++ name ++ "(" ++ ", ".intercalate ("self" :: parameters) ++ "):").toList = _
    simp only [String.toList_append, String.toList_intercalate, List.append_assoc]
    rfl
  have hplain : ∀ c ∈ name.toList, decide (c ≠ '(') = true := by
    intro c hc
    refine decide_eq_true fun hbracket => ?_
    have hdelimiter := List.all_eq_true.mp hname c hc
    rw [hbracket] at hdelimiter
    exact absurd hdelimiter (by decide)
  have hself : Text.isIdentifier "self" = true := by decide +kernel
  have hparameters : ∀ parameter ∈ "self" :: parameters,
      ReadsBack readParameter? ')' String.toList parameter :=
    List.forall_mem_cons.mpr
      ⟨readsBack_parameter hself, fun parameter hmem => readsBack_parameter (h parameter hmem)⟩
  have hread := readAll?_intercalate (by decide) (by decide) hparameters [':']
  rw [parameters?, startingAt, hwrite, Text.afterStart?_append, Option.bind_eq_bind,
    Option.bind_some, List.dropWhile_append_of_pos hplain, List.dropWhile_cons_of_neg (by decide),
    List.drop_one, List.tail_cons, hread]
  rfl

/-! ## Fixtures of bodies -/

/-- A name for fixtures. Reserved words are not excluded. -/
def IsFixtureName (name : String) : Prop := Text.isIdentifier name = true ∧ name ≠ "self"

instance : DecidablePred IsFixtureName := fun name =>
  inferInstanceAs (Decidable (Text.isIdentifier name = true ∧ name ≠ "self"))

/-- The fixtures that handlers ask for and that provide page objects have names for fixtures. -/
structure Registry.NamesFixtures (registry : Registry) : Prop where
  handlers : ∀ binding ∈ registry.bindings, ∀ name ∈ binding.fixtureNames, IsFixtureName name
  pages : ∀ node ∈ registry.pages.nodes, node.fixture ≠ "" → IsFixtureName node.fixture

private theorem Keyword.isFixtureName_label (keyword : Keyword) : IsFixtureName keyword.label := by
  cases keyword <;> decide +kernel

private theorem Registry.NamesFixtures.isFixtureName {registry : Registry}
    (h : registry.NamesFixtures) {name : String}
    (hname : name ∈ registry.fixtures) : IsFixtureName name := by
  rcases List.mem_append.mp hname with hname | hname
  · obtain ⟨binding, hbinding, hname⟩ := List.mem_flatMap.mp hname
    exact h.handlers binding hbinding name hname
  · obtain ⟨hname, hne⟩ := List.mem_filter.mp hname
    obtain ⟨node, hnode, rfl⟩ := List.mem_map.mp hname
    exact h.pages node hnode (of_decide_eq_true hne)

namespace Planner

variable {planner : Planner} {steps : List Step} {tags : List String} {row : Option String}
  {body : Body}

private theorem Composes.isFixtureName_or_chosen (h : planner.Composes steps tags row body)
    (hregistry : planner.registry.NamesFixtures) {name : String} (hname : name ∈ body.fixtures) :
    IsFixtureName name ∨ name ∈ tags.filterMap fixtureOfTag? := by
  rcases h.mem_fixtures_cases hname with ⟨keyword, rfl⟩ | hchosen | hnamed
  · exact .inl keyword.isFixtureName_label
  · exact .inr hchosen
  · exact .inl (hregistry.isFixtureName hnamed)

private theorem Composes.self_mem_fixtures_iff (h : planner.Composes steps tags row body)
    (hregistry : planner.registry.NamesFixtures) :
    "self" ∈ body.fixtures ↔ fixtureTag "self" ∈ tags := by
  constructor
  · intro hself
    rcases h.isFixtureName_or_chosen hregistry hself with hname | hchosen
    · exact absurd rfl hname.2
    · obtain ⟨tag, hmem, htag⟩ := List.mem_filterMap.mp hchosen
      exact (fixtureOfTag?_eq_some.mp htag).1 ▸ hmem
  · intro hmem
    have hchosen : "self" ∈ tags.filterMap fixtureOfTag? :=
      List.mem_filterMap.mpr ⟨_, hmem, fixtureOfTag?_fixtureTag (by decide)⟩
    rw [h.fixtures_eq, mem_distinct]
    exact List.mem_append_left _ (List.mem_append_right _ hchosen)

private theorem Composes.nodup_parameters_iff (h : planner.Composes steps tags row body)
    (hregistry : planner.registry.NamesFixtures) :
    ("self" :: body.fixtures).Nodup ↔ fixtureTag "self" ∉ tags := by
  have hnodup : body.fixtures.Nodup := h.fixtures_eq ▸ nodup_distinct _
  rw [List.nodup_cons, h.self_mem_fixtures_iff hregistry, and_iff_left hnodup]

end Planner

/-! ## Parameters of plans -/

private theorem Layout.isPlain_hookName (line : Int) : Text.IsPlain (hookName line) := by
  have hstart : Text.IsPlain "before_each_L" := by decide
  exact hstart.append (isPlain_toString line)

private theorem Layout.isPlain_testName (title : String) (line : Int) :
    Text.IsPlain (testName title line) := by
  have hstart : Text.IsPlain "test_" := by decide
  have hmiddle : Text.IsPlain "_L" := by decide
  exact ((hstart.append (isPlain_slugify title)).append hmiddle).append (isPlain_toString line)

namespace Heading

def signature? (heading : Heading) : Option (Option (List String)) := heading.row.signature?

private theorem signature?_ofMethod (level : Nat) {name : String} (hname : Text.IsPlain name)
    {body : Body} (h : ∀ fixture ∈ body.fixtures, Text.isIdentifier fixture = true) :
    (ofMethod level name body).signature? = some (some ("self" :: body.fixtures)) := by
  have hdef :
      (Text.afterStart? "def ".toList (ofMethod level name body).row.text).isSome = true :=
    isMethod_ofMethod level name body
  rw [signature?, Row.signature?, if_pos hdef]
  exact congrArg some (Row.parameters?_methodLine level hname h)

private theorem signature?_ofSuite (level : Nat) (title : String) (line : Int) (childless : Bool) :
    (ofSuite level title line childless).signature? = none := by
  have hdef : (Text.afterStart? "def ".toList
      (ofSuite level title line childless).row.text).isSome = false :=
    isMethod_ofSuite level title line childless
  rw [signature?, Row.signature?, hdef]
  rfl

end Heading

namespace SuiteUnit

/-- The fixtures of the hooks and the tests of a plan are identifiers. -/
def IsNamed (placed : List Placed) : Prop :=
  ∀ entry ∈ placed, ∀ name ∈ entry.unit.body.fixtures, Text.isIdentifier name = true

mutual

/-- The signatures in the headings of a unit are those of its hooks and tests. -/
theorem signatures_headings (level : Nat) (unit : SuiteUnit) (titles : List String)
    (hooks : List Body) (h : IsNamed (unit.placed titles hooks)) :
    (unit.headings level).filterMap Heading.signature? =
      (unit.placed titles hooks).map fun entry => some ("self" :: entry.unit.body.fixtures) := by
  cases unit with
  | hook line body =>
      have hread := Heading.signature?_ofMethod level (Layout.isPlain_hookName line)
        (h _ List.mem_cons_self)
      exact List.filterMap_cons_some hread
  | test title line flags key tags body =>
      have hread := Heading.signature?_ofMethod level (Layout.isPlain_testName title line)
        (h _ List.mem_cons_self)
      exact List.filterMap_cons_some hread
  | suite title line flags units =>
      rw [headings, List.filterMap_cons_none (Heading.signature?_ofSuite ..)]
      exact signatures_headingsOfAll (level + 1) units _ _ h

theorem signatures_headingsOfAll (level : Nat) (units : List SuiteUnit) (titles : List String)
    (hooks : List Body) (h : IsNamed (placedAll titles hooks units)) :
    (headingsOfAll level units).filterMap Heading.signature? =
      (placedAll titles hooks units).map fun entry =>
        some ("self" :: entry.unit.body.fixtures) := by
  cases units with
  | nil => rfl
  | cons unit rest =>
      rw [placedAll] at h ⊢
      obtain ⟨hunit, hrest⟩ := List.forall_mem_append.mp h
      rw [headingsOfAll, List.filterMap_append, List.map_append,
        signatures_headings level unit titles hooks hunit,
        signatures_headingsOfAll level rest titles hooks hrest]

end

end SuiteUnit

namespace FeatureFile

variable {file built : FeatureFile}

private theorem isNamed_of_plan {keywords : KeywordTable} {uri : String} {root : SuiteUnit}
    (hregistry : ∀ name ∈ file.registry.fixtures, Text.isIdentifier name = true)
    (h : file.plan = .ok (keywords, uri, root)) : SuiteUnit.IsNamed (root.placed [] []) :=
  fixtures_of_plan (fun _ hname => Text.isIdentifier_of_isParameterName hname) hregistry h

/-- The functions of a module are a method for every site and the fixture behind them. -/
theorem readSignatures_of_build
    (hregistry : ∀ name ∈ file.registry.fixtures, Text.isIdentifier name = true)
    (h : file.build = .ok built) :
    ∃ keywords uri root, file.plan = .ok (keywords, uri, root) ∧
      readSignatures built.lines =
        ((root.placed [] []).map fun entry => some ("self" :: entry.unit.body.fixtures)) ++
          [some ["request"]] := by
  obtain ⟨keywords, uri, root, hplan, hread⟩ :=
    filterMap_rows_of_build (fun _ => Row.signature?_of_not_isHeading) h
  have hmethods := root.signatures_headings 0 [] [] (isNamed_of_plan hregistry hplan)
  have hfixture : readSignatures (Layout.tagsFixture []).tail = [some ["request"]] := by
    decide +kernel
  refine ⟨keywords, uri, root, hplan, ?_⟩
  rw [readSignatures, hread, ← hfixture, ← hmethods]
  rfl

private theorem readParameters_of_build (hregistry : file.registry.NamesFixtures)
    (h : file.build = .ok built) :
    ∃ keywords uri root, file.plan = .ok (keywords, uri, root) ∧
      readParameters built.lines =
        ((root.placed [] []).map fun entry => "self" :: entry.unit.body.fixtures) ++
          [["request"]] := by
  obtain ⟨keywords, uri, root, hplan, hread⟩ :=
    readSignatures_of_build (fun _ hname => (hregistry.isFixtureName hname).1) h
  refine ⟨keywords, uri, root, hplan, ?_⟩
  have hmethods (placed : List Placed) :
      (placed.map fun entry => some ("self" :: entry.unit.body.fixtures)).filterMap id =
        placed.map fun entry => "self" :: entry.unit.body.fixtures := by
    rw [List.filterMap_map]
    exact congrFun List.filterMap_eq_map placed
  rw [readParameters_eq, hread, List.filterMap_append, hmethods]
  rfl

/-- The parameters of a hook or a test differ exactly if its steps do not see the tag that chooses a
fixture of the name that all methods have in front. -/
theorem nodup_parameters_iff_of_build (hregistry : file.registry.NamesFixtures)
    (h : file.build = .ok built) :
    ∃ methods, readParameters built.lines = methods ++ [["request"]] ∧
      List.Forall₂ (fun site parameters => parameters.head? = some "self" ∧
        (parameters.Nodup ↔ fixtureTag "self" ∉ site.tags)) file.sites methods := by
  obtain ⟨keywords, uri, root, hplan, hread⟩ := readParameters_of_build hregistry h
  refine ⟨_, hread, List.forall₂_map_right_iff.mpr ?_⟩
  exact (plan_realizes hplan).imp fun site placed hsite =>
    ⟨rfl, (Planner.composes_of_body hsite.body_eq).nodup_parameters_iff hregistry⟩

/-- A background and a scenario whose steps ask for fixtures, and one that takes a fixture of the
name that its method has in front. -/
def takenNameText : String :=
  "Feature: F\n  Background:\n    Given a user\n  @fixture:cart\n  Scenario: S\n" ++
    "    When I buy\n  @fixture:self\n  Scenario: T\n"

theorem nodup_parameters_iff_of_taken_name :
    ∃ file built methods, load takenNameText "f.feature" shop = .ok file ∧
      file.registry.NamesFixtures ∧ file.build = .ok built ∧
      methods = [["self", "Given", "db"], ["self", "When", "cart"], ["self", "self"]] ∧
      readParameters built.lines = methods ++ [["request"]] ∧
      List.Forall₂ (fun site parameters => parameters.head? = some "self" ∧
        (parameters.Nodup ↔ fixtureTag "self" ∉ site.tags)) file.sites methods := by
  have hcompile : (compile takenNameText "f.feature" shop).toOption.any (fun (_, _, root) =>
      decide ((root.placed [] []).map (·.unit.body.fixtures) =
        [["Given", "db"], ["When", "cart"], ["self"]])) = true := by
    decide +kernel
  obtain ⟨⟨file, built, root⟩, hcompile, hfixtures⟩ := exists_ok_of_any hcompile
  obtain ⟨hload, hbuild, keywords, uri, hplan⟩ := compile_eq_ok hcompile
  have hnames : shop.NamesFixtures := ⟨by decide +kernel, by decide +kernel⟩
  have hregistry : file.registry.NamesFixtures := registry_of_load hload ▸ hnames
  obtain ⟨methods, hread, hmethods⟩ := nodup_parameters_iff_of_build hregistry hbuild
  obtain ⟨_, _, _, hplan', hplaced⟩ := readParameters_of_build hregistry hbuild
  rw [hplan] at hplan'
  cases hplan'
  have hsame : methods = ((root.placed [] []).map (·.unit.body.fixtures)).map ("self" :: ·) := by
    rw [List.map_map]
    exact List.append_cancel_right (hread.symm.trans hplaced)
  rw [of_decide_eq_true hfixtures] at hsame
  exact ⟨file, built, methods, hload, hregistry, hbuild, hsame, hread, hmethods⟩

/-- A scenario that takes a fixture of the name that its method has in front. -/
def selfText : String := "Feature: F\n  @fixture:self\n  Scenario: S\n"

theorem exists_parameter_repeated :
    ∃ file built, load selfText "features/sample.feature" {} = .ok file ∧
      file.registry.NamesFixtures ∧ file.build = .ok built ∧
      readParameters built.lines = [["self", "self"], ["request"]] ∧
      ¬ ∀ parameters ∈ readParameters built.lines, parameters.Nodup := by
  have hcheck : (load selfText "features/sample.feature" {}).toOption.any (fun file =>
      file.build.toOption.any fun built =>
        decide (readParameters built.lines = [["self", "self"], ["request"]])) = true := by
    decide +kernel
  obtain ⟨file, hload, hcheck⟩ := exists_ok_of_any hcheck
  obtain ⟨built, hbuild, hread⟩ := exists_ok_of_any hcheck
  have hread := of_decide_eq_true hread
  have hregistry : file.registry.NamesFixtures := by
    rw [registry_of_load hload]
    exact ⟨List.forall_mem_nil _, List.forall_mem_nil _⟩
  refine ⟨file, built, hload, hregistry, hbuild, hread, fun hall => ?_⟩
  rw [hread] at hall
  exact absurd (hall ["self", "self"] List.mem_cons_self) (by decide)

end FeatureFile

end FeatureSuite

import FeatureSuite.Proofs.Gherkin.UnitLines
import FeatureSuite.Proofs.Suite.Declared
import FeatureSuite.Proofs.Suite.Lookup

/-!
# Names of classes and methods

Names are read back from the lines of a module: a name goes from "class" or "def" to the first colon
or bracket. A title is cut down to words, so it ends no name early, and whatever it is, the line at
the end of a name is found behind the last capital L. So the names of a module differ if the lines
of what they stand for do.
-/

namespace FeatureSuite

open Gherkin (Background Feature FeatureChild Rule RuleChild Scenario)

/-! ## Titles in names -/

namespace Text

/-- Characters in front of all letters, without the one that stands for codes of no character. -/
def IsLow (c : Char) : Prop := 0 < c.toNat ∧ c.toNat < 'A'.toNat

instance : DecidablePred IsLow := fun c =>
  inferInstanceAs (Decidable (0 < c.toNat ∧ c.toNat < 'A'.toNat))

private theorem not_isLow_ofNat {code : Nat} (h : 'A'.toNat ≤ code) :
    ¬ IsLow (Char.ofNat code) := by
  intro hlow
  by_cases hvalid : code.isValidChar
  · rw [IsLow, toNat_ofNat hvalid] at hlow
    exact Nat.not_lt.mpr h hlow.2
  · have hzero : Char.ofNat code = '\x00' := dif_neg hvalid
    rw [hzero] at hlow
    exact absurd hlow (by decide)

private theorem eq_of_lowerChar {c : Char} (h : IsLow (lowerChar c)) : lowerChar c = c := by
  have hascii : ∀ n < 128, IsLow (Char.ofNat n).toLower →
      (Char.ofNat n).toLower = Char.ofNat n := by
    decide
  have hruns : ∀ run ∈ lowerRuns.toList, 'A'.toNat ≤ run.2.2.2 := by decide +kernel
  unfold lowerChar at h ⊢
  split at h
  · rw [if_pos ‹_›]
    obtain ⟨n, hn, rfl⟩ := exists_code_lt ‹_›
    exact hascii n hn h
  · rw [if_neg ‹_›]
    unfold mapByRuns at h ⊢
    split at h
    · rename_i image himage
      obtain ⟨run, hrun, k, _, _, _, rfl⟩ := exists_run_of_searchRuns himage
      exact absurd h (not_isLow_ofNat (Nat.le_trans (hruns run hrun) (Nat.le_add_right ..)))
    · rfl

private theorem eq_of_expand {c d : Char} (h : d ∈ expand lowerExpansions lowerChar c)
    (hd : IsLow d) :
    d = c := by
  have hcodes : ∀ entry ∈ lowerExpansions, ∀ code ∈ entry.2, 'A'.toNat ≤ code := by
    decide +kernel
  have hsimple (h : d ∈ [lowerChar c]) : d = c := by
    have hlower := List.mem_singleton.mp h
    rw [hlower] at hd ⊢
    exact eq_of_lowerChar hd
  unfold expand at h
  split at h
  · exact hsimple h
  · split at h
    · rename_i codes hfound
      obtain ⟨code, hcode, rfl⟩ := List.mem_map.mp h
      have hle := hcodes _ (Array.mem_of_find?_eq_some hfound) code hcode
      exact absurd hd (not_isLow_ofNat hle)
    · exact hsimple h

private theorem mem_of_lower {s : String} {c : Char} (h : c ∈ (lower s).toList) (hc : IsLow c) :
    c ∈ s.toList := by
  obtain ⟨d, hd, hexpand | hsigma⟩ := mem_lower h
  · exact eq_of_expand hexpand hc ▸ hd
  · have hsigmas : sigmas.all (¬ IsLow ·) = true := by decide
    exact absurd hc (of_decide_eq_true (List.all_eq_true.mp hsigmas c hsigma))

/-- The characters that end a name in a heading. -/
def isDelimiter (c : Char) : Bool := c == ':' || c == '('

def IsPlain (s : String) : Prop := s.toList.all (!isDelimiter ·) = true

instance : DecidablePred IsPlain := fun s =>
  inferInstanceAs (Decidable (s.toList.all (!isDelimiter ·) = true))

theorem IsPlain.append {s t : String} (hs : IsPlain s) (ht : IsPlain t) : IsPlain (s ++ t) := by
  unfold IsPlain at *
  rw [String.toList_append, List.all_append, hs, ht]
  rfl

theorem isDelimiter_iff {c : Char} : isDelimiter c = true ↔ c = ':' ∨ c = '(' := by
  rw [isDelimiter, Bool.or_eq_true, beq_iff_eq, beq_iff_eq]

private theorem IsLow.of_isDelimiter {c : Char} (h : isDelimiter c = true) : IsLow c := by
  rcases isDelimiter_iff.mp h with rfl | rfl <;> decide

end Text

theorem Layout.isWord_of_mem_slugify {title : String} {c : Char}
    (h : c ∈ (slugify title).toList) (hc : Text.IsLow c) : Text.isWord c = true := by
  unfold slugify at h
  dsimp only at h
  split at h
  · have hnone : "untitled".toList.all (¬ Text.IsLow ·) = true := by decide
    exact absurd hc (of_decide_eq_true (List.all_eq_true.mp hnone c h))
  · exact Text.isWord_of_slugWords (Text.mem_of_lower h hc)

theorem Layout.isPlain_slugify (title : String) : Text.IsPlain (slugify title) := by
  refine List.all_eq_true.mpr fun c hc => ?_
  rw [Bool.not_eq_true', Bool.eq_false_iff]
  intro hdelimiter
  have hword := isWord_of_mem_slugify hc (.of_isDelimiter hdelimiter)
  rcases Text.isDelimiter_iff.mp hdelimiter with rfl | rfl <;> exact absurd hword (by decide)

/-! ## Lines in names -/

namespace Layout

open Numeral (isDigit_of_mem_repr isDigit_of_mem_toString)

def numberOf? (digits : List Char) : Option Nat :=
  if digits.all Char.isDigit then some (Nat.ofDigitChars 10 digits 0) else none

/-- The line at the end of a name: the number behind the last capital L. -/
def lineOf? (name : String) : Option Int :=
  match (name.toList.reverse.takeWhile (· ≠ 'L')).reverse with
  | '-' :: digits => (numberOf? digits).map fun (n : Nat) => -(n : Int)
  | digits => (numberOf? digits).map fun (n : Nat) => (n : Int)

@[simp] private theorem numberOf?_repr (n : Nat) : numberOf? n.repr.toList = some n := by
  have hdigits : n.repr.toList.all Char.isDigit = true :=
    List.all_eq_true.mpr fun c hc => isDigit_of_mem_repr hc
  rw [numberOf?, if_pos hdigits, Nat.repr, String.toList_ofList]
  exact congrArg some (Nat.ofDigitChars_toDigits (by decide) (by decide))

private theorem lineOf?_of_eq_toString {name : String} {line : Int}
    (h : (name.toList.reverse.takeWhile (· ≠ 'L')).reverse = (toString line).toList) :
    lineOf? name = some line := by
  rw [lineOf?, h]
  cases line with
  | ofNat n =>
      have hnumber : (toString (Int.ofNat n)).toList = n.repr.toList := rfl
      rw [hnumber]
      split
      · rename_i digits hminus
        have hdigit : '-' ∈ n.repr.toList := hminus ▸ List.mem_cons_self
        exact absurd (isDigit_of_mem_repr hdigit) (by decide)
      · rw [numberOf?_repr]
        rfl
  | negSucc n =>
      have hnumber : (toString (Int.negSucc n)).toList = '-' :: (n + 1).repr.toList := by
        change ("-" ++ (n + 1).repr).toList = _
        rw [String.toList_append]
        rfl
      rw [hnumber]
      exact congrArg (Option.map fun n : Nat => -(n : Int)) (numberOf?_repr (n + 1))

private theorem lineOf?_append (start : String) (line : Int) :
    lineOf? (start ++ "_L" ++ toString line) = some line := by
  have hdigits : ∀ c ∈ (toString line).toList.reverse, decide (c ≠ 'L') = true := by
    intro c hc
    refine decide_eq_true fun hL => ?_
    rw [hL, List.mem_reverse] at hc
    rcases isDigit_of_mem_toString hc with hdigit | hminus
    · exact absurd hdigit (by decide)
    · exact absurd hminus (by decide)
  -- The capital L in front of the line is the last one, for a line is written without letters.
  have htake : (start ++ "_L" ++ toString line).toList.reverse.takeWhile (· ≠ 'L') =
      (toString line).toList.reverse := by
    rw [String.toList_append, String.toList_append, List.reverse_append, List.reverse_append,
      List.takeWhile_append_of_pos hdigits]
    exact List.append_nil _
  exact lineOf?_of_eq_toString (by rw [htake, List.reverse_reverse])

theorem isPlain_toString (line : Int) : Text.IsPlain (toString line) := by
  refine List.all_eq_true.mpr fun c hc => ?_
  rw [Bool.not_eq_true', Bool.eq_false_iff]
  intro hdelimiter
  rcases Text.isDelimiter_iff.mp hdelimiter with rfl | rfl <;>
    rcases isDigit_of_mem_toString hc with hc | hc <;> exact absurd hc (by decide)

end Layout

def Origin.line : Origin → Int
  | background unit => unit.location.line
  | scenario unit => unit.location.line
  | row _ entry => entry.row.location.line

namespace Declared

def name : Declared → String
  | suite title line _ => Layout.suiteName title line
  | method origin _ => origin.methodName

def line : Declared → Int
  | suite _ line _ => line
  | method origin _ => origin.line

private theorem name_eq (declared : Declared) :
    ∃ start, declared.name = start ++ "_L" ++ toString declared.line ∧ Text.IsPlain start := by
  have htitled (start title : String) (hstart : Text.IsPlain start) :
      Text.IsPlain (start ++ Layout.slugify title) := hstart.append (Layout.isPlain_slugify title)
  cases declared with
  | suite title line childless => exact ⟨_, rfl, htitled "Test_" title (by decide)⟩
  | method origin tags =>
      cases origin with
      | background unit => exact ⟨"before_each", rfl, by decide⟩
      | scenario unit => exact ⟨_, rfl, htitled "test_" unit.name (by decide)⟩
      | row outline entry => exact ⟨_, rfl, htitled "test_" entry.title (by decide)⟩

@[simp] private theorem lineOf?_name (declared : Declared) :
    Layout.lineOf? declared.name = some declared.line := by
  obtain ⟨start, hname, _⟩ := declared.name_eq
  rw [hname]
  exact Layout.lineOf?_append start declared.line

private theorem isPlain_name (declared : Declared) : Text.IsPlain declared.name := by
  obtain ⟨start, hname, hstart⟩ := declared.name_eq
  rw [hname]
  exact (hstart.append (by decide)).append (Layout.isPlain_toString declared.line)

end Declared

/-! ## Reading names -/

/-- The name in a heading: what stands behind "class" or "def" up to the first delimiter. -/
def Row.name? (row : Row) : Option String :=
  ((Text.afterStart? "class ".toList row.text).or (Text.afterStart? "def ".toList row.text)).map
    fun rest => String.ofList (rest.takeWhile (!Text.isDelimiter ·))

/-- The names of all classes and methods. -/
def readNames (lines : List String) : List String := (readRows lines).filterMap Row.name?

@[simp] private theorem Row.isSome_name? (row : Row) : row.name?.isSome = row.isHeading := by
  rw [name?, Option.isSome_map, Option.isSome_or, isHeading]

private theorem Row.name?_startingAt (level : Nat) {start name rest : String} {d : Char}
    (hstart : start = "class " ∨ start = "def ") (hname : Text.IsPlain name)
    (hrest : rest.toList.head? = some d) (hd : Text.isDelimiter d = true) :
    (Row.startingAt level (start ++ (name ++ rest))).name? = some name := by
  have htake : (name.toList ++ rest.toList).takeWhile (!Text.isDelimiter ·) = name.toList := by
    obtain ⟨cs, hcs⟩ := List.head?_eq_some_iff.mp hrest
    rw [List.takeWhile_append_of_pos (List.all_eq_true.mp hname), hcs,
      List.takeWhile_cons_of_neg (by simp [hd]), List.append_nil]
  have hbehind : (Text.afterStart? "class ".toList (start ++ (name ++ rest)).toList).or
      (Text.afterStart? "def ".toList (start ++ (name ++ rest)).toList) =
        some (name.toList ++ rest.toList) := by
    rw [String.toList_append, String.toList_append]
    rcases hstart with rfl | rfl
    · rw [Text.afterStart?_append]
      rfl
    · rw [Text.afterStart?_append "def ".toList]
      rfl
  rw [name?, startingAt, hbehind, Option.map_some, htake, String.ofList_toList]

private theorem Row.name?_of_not_isHeading {row : Row}
    (h : row.isHeading = false) : row.name? = none := by
  rw [← Row.isSome_name?, Option.isSome_eq_false_iff, Option.isNone_iff_eq_none] at h
  exact h

/-! ## Names of a module -/

private theorem Planner.Declares.name? {planner : Planner} {entry : Nat × Declared}
    {heading : Heading}
    (h : planner.Declares entry heading) : heading.row.name? = some entry.2.name := by
  cases h with
  | suite level title line childless =>
      have hplain := (Declared.suite title line childless).isPlain_name
      rw [Heading.ofSuite, Layout.classLine_eq]
      exact Row.name?_startingAt level (.inl rfl) hplain rfl rfl
  | @method level origin tags body _ =>
      have hplain := (Declared.method origin tags).isPlain_name
      obtain ⟨rest, hline⟩ := Layout.methodLine_eq origin.methodName body.fixtures
      have hbracket : ("(" ++ rest).toList.head? = some '(' := by
        rw [String.toList_append]
        rfl
      rw [Heading.ofMethod, hline]
      exact Row.name?_startingAt level (.inr rfl) hplain hbracket rfl

section

variable {rows : Scenario → List ExampleRow} (hrows : ListsRows rows) {level : Nat}
  {around : List Ancestor}

def declaredLines (declared : List (Nat × Declared)) : List Int := declared.map (·.2.line)

private theorem declaredLines_flatMap {α : Type} {declared : α → List (Nat × Declared)}
    {lines : α → List Int} {items : List α}
    (h : ∀ item ∈ items, (declaredLines (declared item)).Sublist (lines item)) :
    (declaredLines (items.flatMap declared)).Sublist (items.flatMap lines) := by
  rw [declaredLines, List.map_flatMap]
  exact List.Sublist.flatMap_right items h

include hrows

private theorem scenarioDeclared_lines (scenario : Scenario) :
    (declaredLines (scenarioDeclared rows level around scenario)).Sublist scenario.unitLines := by
  have hlines : (rows scenario).map (·.row.location.line) =
      scenario.examples.flatMap fun block => block.tableBody.map (·.location.line) := by
    have hplaces := congrArg (List.map fun place => place.2.location.line) (hrows scenario)
    simpa [List.map_flatMap, Function.comp_def] using hplaces
  unfold scenarioDeclared
  split
  · refine .cons_cons _ ?_
    rw [← hlines, List.map_map]
    exact .refl _
  · exact .cons_cons _ (List.nil_sublist _)

private theorem partDeclared_lines (background : Option Background) (scenario : Option Scenario) :
    (declaredLines (partDeclared rows level around background scenario)).Sublist
      (background.toList.flatMap (fun background => [background.location.line]) ++
        scenario.toList.flatMap Scenario.unitLines) := by
  cases background with
  | some background => exact .cons_cons _ (List.nil_sublist _)
  | none =>
      cases scenario with
      | some scenario =>
          rw [Option.toList_none, Option.toList_some, List.flatMap_singleton]
          exact scenarioDeclared_lines hrows scenario
      | none => exact .slnil

private theorem ruleDeclared_lines (rule : Rule) :
    (declaredLines (ruleDeclared rows level around rule)).Sublist rule.unitLines :=
  .cons_cons _ (declaredLines_flatMap fun _ _ => partDeclared_lines hrows _ _)

private theorem featurePartDeclared_lines (child : FeatureChild) :
    (declaredLines (featurePartDeclared rows level around child)).Sublist child.unitLines := by
  unfold featurePartDeclared
  unfold FeatureChild.unitLines
  split
  · rename_i rule hrule
    rw [hrule, Option.toList_some, List.flatMap_singleton]
    exact (ruleDeclared_lines hrows rule).trans (List.sublist_append_right _ _)
  · exact (partDeclared_lines hrows _ _).trans (List.sublist_append_left _ _)

private theorem featureDeclared_lines (feature : Feature) :
    (declaredLines (featureDeclared rows feature)).Sublist feature.unitLines :=
  .cons_cons _ (declaredLines_flatMap fun child _ => featurePartDeclared_lines hrows child)

end

namespace FeatureFile

variable {file built : FeatureFile} {feature : Feature}

/-- The names in a module are those of what its document declares, and that of the fixture behind
them. -/
theorem readNames_of_build (hfeature : file.document.feature = some feature)
    (hbuild : file.build = .ok built) :
    readNames built.lines =
      (featureDeclared file.rows feature).map (·.2.name) ++ ["bdd_tags"] := by
  obtain ⟨keywords, uri, root, hplan, hread⟩ :=
    filterMap_rows_of_build (fun _ => Row.name?_of_not_isHeading) hbuild
  obtain ⟨feature', hfeature', hroot⟩ := plan_eq_ok hplan
  obtain rfl : feature = feature' := Option.some.inj (hfeature.symm.trans hfeature')
  have hdeclares := Planner.feature_declares hroot
  have hnames : (root.headings 0).filterMap (·.row.name?) =
      (featureDeclared file.rows feature).map (·.2.name) := by
    rw [← List.filterMap_eq_map]
    exact (filterMap_eq_filterMap (hdeclares.imp fun _ _ hheading => hheading.name?.symm)).symm
  have hfixture : readNames (Layout.tagsFixture []).tail = ["bdd_tags"] := by decide +kernel
  rw [readNames, hread, hnames]
  exact congrArg _ hfixture

/-- The names in a module differ if the parts of its document stand on different lines, whatever
their titles are. -/
theorem nodup_names_of_build (hfeature : file.document.feature = some feature)
    (hlines : feature.unitLines.Nodup) (hbuild : file.build = .ok built) :
    readNames built.lines =
        (featureDeclared file.rows feature).map (·.2.name) ++ ["bdd_tags"] ∧
      (readNames built.lines).Nodup := by
  have hnames := readNames_of_build hfeature hbuild
  -- The fixture at the end of a module is the only name without a line.
  refine ⟨hnames, .of_map Layout.lineOf? ?_⟩
  have hfixture : Layout.lineOf? "bdd_tags" = none := by decide
  have hread : (readNames built.lines).map Layout.lineOf? =
      (declaredLines (featureDeclared file.rows feature)).map some ++ [none] := by
    rw [hnames, List.map_append, List.map_map, declaredLines, List.map_map, List.map_singleton,
      hfixture]
    exact congrArg (· ++ [none]) (List.map_congr_left fun entry _ => entry.2.lineOf?_name)
  have hrows : ListsRows file.rows := expandOutline_listsRows _ _
  have hdeclared := (featureDeclared_lines hrows feature).nodup hlines
  rw [hread]
  refine (hdeclared.map fun _ _ => Option.some.inj).append (List.nodup_singleton none) ?_
  simp

private theorem nodup_unitLines_of_load {text uri : String} {registry : Registry}
    (hload : load text uri registry = .ok file) (hfeature : file.document.feature = some feature) :
    feature.unitLines.Nodup := by
  obtain ⟨document, hparse, hsource, _⟩ := document_of_parse (parse_of_load hload)
  exact Gherkin.unitLines_nodup_of_parse hparse (hsource.symm.trans hfeature)

/-- One title for everything, but for a scenario whose title ends like the name of another. -/
def sameTitleText : String :=
  "Feature: S\n  Background:\n  Scenario: S_L9\n  Scenario Outline: S\n" ++
    "    # title-format: S\n    Examples:\n      | n |\n      | 1 |\n      | 2 |\n  Rule: S\n"

theorem nodup_names_of_same_title :
    ∃ file built feature, load sameTitleText "f.feature" {} = .ok file ∧
      file.document.feature = some feature ∧ feature.unitLines.Nodup ∧ file.build = .ok built ∧
      readNames built.lines = ["Test_s_L1", "before_each_L2", "test_s_l9_L3", "Test_s_L4",
        "test_s_L8", "test_s_L9", "Test_s_L10", "bdd_tags"] ∧
      (readNames built.lines).Nodup := by
  have hcheck : (load sameTitleText "f.feature" {}).toOption.any (fun file =>
      file.build.toOption.any fun _ => file.document.feature.any fun feature =>
        decide ((featureDeclared file.rows feature).map (·.2.name) =
          ["Test_s_L1", "before_each_L2", "test_s_l9_L3", "Test_s_L4", "test_s_L8", "test_s_L9",
            "Test_s_L10"])) = true := by
    decide +kernel
  obtain ⟨file, hload, hcheck⟩ := exists_ok_of_any hcheck
  obtain ⟨built, hbuild, hcheck⟩ := exists_ok_of_any hcheck
  obtain ⟨feature, hfeature, hdeclared⟩ := (Option.any_eq_true ..).mp hcheck
  have hlines := nodup_unitLines_of_load hload hfeature
  obtain ⟨hnames, hnodup⟩ := nodup_names_of_build hfeature hlines hbuild
  rw [of_decide_eq_true hdeclared] at hnames
  exact ⟨file, built, feature, hload, hfeature, hlines, hbuild, hnames, hnodup⟩

end FeatureFile

end FeatureSuite

import FeatureSuite.Proofs.Aligned
import FeatureSuite.Proofs.Suite.Body
import FeatureSuite.Proofs.Suite.Build
import Mathlib.Data.List.Nodup

/-!
# The map from tests to tags

Tests are entered one after the other, and under every key the tags of the first test that has some
are kept. When no warning is left behind, this is what all tests with tags find.
-/

namespace FeatureSuite

namespace FileTags

variable {map : FileTags} {key other : String} {tags : List String}

private theorem find?_enter :
    (map.enter key tags).find? other =
      (map.find? other).or (if key = other ∧ tags ≠ [] then some tags else none) := by
  unfold enter
  by_cases hempty : tags = []
  · simp [hempty]
  rw [if_neg (by simpa using hempty)]
  cases hfind : map.find? key with
  | none =>
      unfold find? at hfind ⊢
      rw [List.find?_append, List.find?_singleton]
      by_cases hkey : key = other
      · subst hkey
        simp [Option.map_eq_none_iff.mp hfind, hempty]
      · simp [hkey]
  | some entered =>
      have hsame : (if entered = tags then map
          else { map with warnings := map.warnings ++ [key] }).find? other = map.find? other := by
        split <;> rfl
      dsimp only
      rw [hsame]
      by_cases hkey : key = other
      · rw [← hkey, hfind, Option.some_or]
      · simp [hkey]

private theorem find?_of_warnings_enter (h : (map.enter key tags).warnings = []) :
    map.warnings = [] ∧ (tags = [] ∨ (map.enter key tags).find? key = some tags) := by
  by_cases hempty : tags = []
  · rw [enter, if_pos (by simpa using hempty)] at h
    exact ⟨h, .inl hempty⟩
  rw [find?_enter, if_pos ⟨rfl, hempty⟩]
  rw [enter, if_neg (by simpa using hempty)] at h
  cases hfind : map.find? key with
  | none =>
      rw [hfind] at h
      exact ⟨h, .inr rfl⟩
  | some entered =>
      rw [hfind] at h
      dsimp only at h
      split at h
      · rename_i hsame
        exact ⟨h, .inr (by rw [Option.some_or, hsame])⟩
      · simp at h

private theorem find?_eq_none : map.find? key = none ↔ key ∉ map.entries.map Prod.fst := by
  rw [find?, Option.map_eq_none_iff, List.find?_eq_none, List.mem_map]
  constructor
  · rintro h ⟨entry, hentry, rfl⟩
    exact h entry hentry (beq_self_eq_true entry.1)
  · intro h entry hentry hkey
    exact h ⟨entry, hentry, beq_iff_eq.mp hkey⟩

private theorem keys_enter (h : (map.entries.map Prod.fst).Nodup) :
    (map.enter key tags).entries.map Prod.fst =
      distinct (map.entries.map Prod.fst ++ if tags = [] then [] else [key]) := by
  unfold enter
  by_cases hempty : tags = []
  · simp [hempty, distinct_of_nodup h]
  rw [if_neg (by simpa using hempty), if_neg hempty]
  cases hfound : map.find? key with
  | none =>
      rw [distinct_append_singleton (find?_eq_none.mp hfound), distinct_of_nodup h]
      exact List.map_append
  | some entered =>
      have hmem : key ∈ map.entries.map Prod.fst := by
        by_contra hnot
        rw [find?_eq_none.mpr hnot] at hfound
        cases hfound
      rw [distinct_append_cons_of_mem hmem, List.append_nil, distinct_of_nodup h]
      dsimp only
      split <;> rfl

private theorem nodup_keys_enter (h : (map.entries.map Prod.fst).Nodup) :
    ((map.enter key tags).entries.map Prod.fst).Nodup := by
  rw [keys_enter h]
  exact nodup_distinct _

/-! ## Files of tests -/

def enterAll (map : FileTags) (tests : List (String × List String)) : FileTags :=
  tests.foldl (fun map (key, tags) => map.enter key tags) map

def firstTags? (tests : List (String × List String)) (key : String) : Option (List String) :=
  tests.findSome? fun test => if test.1 = key ∧ test.2 ≠ [] then some test.2 else none

private theorem firstTags?_cons (test : String × List String)
    (tests : List (String × List String)) :
    firstTags? (test :: tests) key =
      (if test.1 = key ∧ test.2 ≠ [] then some test.2 else none).or (firstTags? tests key) := by
  rw [firstTags?, List.findSome?_cons]
  split
  · rename_i hsome
    rw [hsome, Option.some_or]
  · rename_i hnone
    rw [hnone, Option.none_or]
    rfl

theorem find?_enterAll (tests : List (String × List String)) :
    (map.enterAll tests).find? key = (map.find? key).or (firstTags? tests key) := by
  induction tests generalizing map with
  | nil => simp [enterAll, firstTags?]
  | cons test tests ih =>
      change ((map.enter test.1 test.2).enterAll tests).find? key = _
      rw [ih, find?_enter, Option.or_assoc, firstTags?_cons]

private theorem getD_find?_enterAll_eq_nil {tests : List (String × List String)} :
    ((enterAll {} tests).find? key).getD [] = [] ↔
      ∀ test ∈ tests, test.1 = key → test.2 = [] := by
  rw [find?_enterAll]
  change (firstTags? tests key).getD [] = [] ↔ _
  cases hfirst : firstTags? tests key with
  | none => simpa [firstTags?, List.findSome?_eq_none_iff] using hfirst
  | some tags =>
      obtain ⟨test, hmem, htest⟩ := List.exists_of_findSome?_eq_some hfirst
      split at htest
      · rename_i hkey
        cases htest
        exact iff_of_false hkey.2 fun h => hkey.2 (h test hmem hkey.1)
      · cases htest

/-- Without a warning every test with tags finds its own. -/
theorem find?_of_warnings_eq_nil {tests : List (String × List String)}
    (h : (map.enterAll tests).warnings = []) :
    map.warnings = [] ∧
      ∀ test ∈ tests, test.2 = [] ∨ (map.enterAll tests).find? test.1 = some test.2 := by
  induction tests generalizing map with
  | nil => exact ⟨h, fun test hmem => nomatch hmem⟩
  | cons test tests ih =>
      have hlast : ((map.enter test.1 test.2).enterAll tests).warnings = [] := h
      obtain ⟨hwarnings, hrest⟩ := ih hlast
      obtain ⟨hwarnings, hfirst⟩ := find?_of_warnings_enter hwarnings
      refine ⟨hwarnings, List.forall_mem_cons.mpr ⟨?_, hrest⟩⟩
      refine hfirst.imp_right fun hfound => ?_
      change ((map.enter test.1 test.2).enterAll tests).find? test.1 = _
      rw [find?_enterAll, hfound, Option.some_or]

/-- The keys are those of the tests with tags, in the order of the first of these. -/
theorem keys_enterAll {tests : List (String × List String)}
    (h : (map.entries.map Prod.fst).Nodup) :
    (map.enterAll tests).entries.map Prod.fst =
      distinct (map.entries.map Prod.fst ++ (tests.filter (·.2 ≠ [])).map Prod.fst) := by
  induction tests generalizing map with
  | nil => simp [enterAll, distinct_of_nodup h]
  | cons test tests ih =>
      have hkeys : (if test.2 = [] then [] else [test.1]) ++
          (tests.filter (·.2 ≠ [])).map Prod.fst =
            ((test :: tests).filter (·.2 ≠ [])).map Prod.fst := by
        by_cases hempty : test.2 = [] <;> simp [hempty]
      change ((map.enter test.1 test.2).enterAll tests).entries.map Prod.fst = _
      rw [ih (nodup_keys_enter h), keys_enter h, distinct_distinct_append, List.append_assoc, hkeys]

theorem nodup_keys_enterAll (tests : List (String × List String))
    (h : (map.entries.map Prod.fst).Nodup) :
    ((map.enterAll tests).entries.map Prod.fst).Nodup := by
  rw [keys_enterAll h]
  exact nodup_distinct _

end FileTags

/-! ## Tests of a plan -/

namespace SuiteUnit

def title : SuiteUnit → String
  | test title .. | suite title .. => title
  | hook .. => ""

def tags : SuiteUnit → List String
  | test _ _ _ _ tags _ => tags
  | _ => []

def entry? : SuiteUnit → Option (String × List String)
  | test _ _ _ key tags _ => some (key, tags)
  | _ => none

mutual

private theorem taggedTests_eq (unit : SuiteUnit) (titles : List String) (hooks : List Body) :
    unit.taggedTests = (unit.placed titles hooks).filterMap (·.unit.entry?) := by
  cases unit with
  | hook line body => rfl
  | test title line flags key tags body => rfl
  | suite title line flags units => exact taggedTestsOfAll_eq units _ _

theorem taggedTestsOfAll_eq (units : List SuiteUnit) (titles : List String) (hooks : List Body) :
    taggedTestsOfAll units = (placedAll titles hooks units).filterMap (·.unit.entry?) := by
  cases units with
  | nil => rfl
  | cons unit rest =>
      rw [taggedTestsOfAll, placedAll, List.filterMap_append, ← taggedTests_eq unit titles hooks,
        ← taggedTestsOfAll_eq rest titles hooks]

end

theorem taggedTests_eq_tests (root : SuiteUnit) :
    root.taggedTests = root.tests.filterMap (·.unit.entry?) := by
  rw [taggedTests_eq root [] [], tests, List.filterMap_filter]
  refine List.filterMap_congr fun placed _ => ?_
  cases placed.unit <;> rfl

end SuiteUnit

/-- The titles from the outermost suite down to a test, joined. -/
def Placed.key (placed : Placed) : String :=
  Text.join keySeparator (placed.titles ++ [placed.unit.title])

theorem Planner.Realizes.entry {planner : Planner} {site : Site} {placed : Placed}
    (h : planner.Realizes site placed) (htest : placed.unit.isTest) :
    placed.unit.tags = site.tags ∧
      placed.unit.entry? = some (placed.key, placed.unit.tags) := by
  have htitles := h.surrounds.titles_eq
  have hunit := h.unit_eq
  unfold Site.unit at hunit
  unfold Placed.key
  split at hunit <;> rw [hunit] at htest ⊢
  · cases htest
  · exact ⟨rfl, by rw [htitles]; rfl⟩
  · exact ⟨rfl, by rw [htitles]; rfl⟩

namespace FeatureFile

variable {file built : FeatureFile}

/-- A test looks its tags up under the titles that lead to it. If no warning was left, a test with
tags finds the tags that its steps were matched with. A test without tags finds none exactly if no
test under the same titles has some. -/
theorem tags_lookup_of_build (h : file.build = .ok built) (hwarnings : built.tags.warnings = []) :
    ∃ keywords uri root, file.plan = .ok (keywords, uri, root) ∧
      Layout.tagsFixture built.tags.entries <:+ built.lines ∧
      (built.tags.entries.map Prod.fst).Nodup ∧
      List.Forall₂ (fun site placed =>
          placed.unit.tags = site.tags ∧
            List.Forall₂ ((file.planner keywords uri).Resolves site.tags site.origin.row?)
              site.origin.steps placed.unit.body.occurrences)
        file.testSites root.tests ∧
      ∀ placed ∈ root.tests,
        (built.tags.find? placed.key).getD [] = placed.unit.tags ↔
          placed.unit.tags ≠ [] ∨
            ∀ other ∈ root.tests, other.key = placed.key → other.unit.tags = [] := by
  obtain ⟨keywords, uri, root, header, hplan, htags, hlines⟩ := plan_of_build h
  have hrealize := tests_realize hplan
  have hentry : ∀ placed ∈ root.tests,
      placed.unit.entry? = some (placed.key, placed.unit.tags) := by
    intro placed hmem
    obtain ⟨site, _, hsite⟩ := exists_of_mem_right hrealize hmem
    exact (hsite.entry (List.mem_filter.mp hmem).2).2
  let tests := root.tests.map fun placed => (placed.key, placed.unit.tags)
  have htests : root.taggedTests = tests := by
    rw [SuiteUnit.taggedTests_eq_tests, List.filterMap_congr hentry, List.filterMap_eq_map']
  have hfile : built.tags = FileTags.enterAll {} tests := htests ▸ htags
  refine ⟨keywords, uri, root, hplan, ?_, ?_, ?_, fun placed hmem => ?_⟩
  · exact hlines ▸ (List.suffix_cons _ _).trans (List.suffix_append _ _)
  · exact hfile ▸ FileTags.nodup_keys_enterAll _ List.nodup_nil
  · refine (forall₂_mem hrealize).imp fun site placed hplaced => ?_
    obtain ⟨_, hmem, hsite⟩ := hplaced
    have htags := (hsite.entry (List.mem_filter.mp hmem).2).1
    exact ⟨htags, (Planner.composes_of_body hsite.body_eq).resolves⟩
  · by_cases htags : placed.unit.tags = []
    · rw [htags, hfile, FileTags.getD_find?_enterAll_eq_nil]
      simp only [tests, List.forall_mem_map, ne_eq, not_true_eq_false, false_or]
    · have hfound := (FileTags.find?_of_warnings_eq_nil (hfile ▸ hwarnings)).2
      rcases hfound _ (List.mem_map_of_mem hmem) with hnone | hsome
      · exact absurd hnone htags
      · rw [hfile, hsome]
        exact iff_of_true rfl (.inl htags)

/-- Tests with different titles find their own tags. -/
theorem tags_lookup_of_titles_apart :
    ∃ file built root, load "Feature: F\n  @x\n  Scenario: S\n  Scenario: T\n" "f.feature" {} =
        .ok file ∧ file.build = .ok built ∧ built.tags.warnings = [] ∧
      ∃ keywords uri, file.plan = .ok (keywords, uri, root) ∧ root.tests.length = 2 ∧
        ∀ placed ∈ root.tests,
          (built.tags.find? placed.key).getD [] = placed.unit.tags ↔
            placed.unit.tags ≠ [] ∨
              ∀ other ∈ root.tests, other.key = placed.key → other.unit.tags = [] := by
  have hcompile : (compile "Feature: F\n  @x\n  Scenario: S\n  Scenario: T\n" "f.feature"
      {}).toOption.any (fun (_, built, root) =>
        decide (built.tags.warnings = [] ∧ root.tests.length = 2)) = true := by
    decide +kernel
  obtain ⟨⟨file, built, root⟩, hcompile, hcheck⟩ := exists_ok_of_any hcompile
  obtain ⟨hload, hbuild, keywords, uri, hplan⟩ := compile_eq_ok hcompile
  obtain ⟨hwarnings, hlength⟩ := of_decide_eq_true hcheck
  obtain ⟨_, _, root', hplan', _, _, _, hlookup⟩ := tags_lookup_of_build hbuild hwarnings
  rw [hplan] at hplan'
  cases hplan'
  exact ⟨file, built, root, hload, hbuild, hwarnings, keywords, uri, hplan, hlength, hlookup⟩

/-- Behind a test with tags, a test without any under the same titles finds the tags of the other
one, and no warning is left. -/
theorem exists_test_with_other_tags :
    ∃ file built root, load "Feature: F\n  @x\n  Scenario: S\n  Scenario: S\n" "f.feature" {} =
        .ok file ∧ file.build = .ok built ∧ built.tags.warnings = [] ∧
      ∃ keywords uri, file.plan = .ok (keywords, uri, root) ∧
        ∃ placed ∈ root.tests, (built.tags.find? placed.key).getD [] ≠ placed.unit.tags := by
  have hcompile : (compile "Feature: F\n  @x\n  Scenario: S\n  Scenario: S\n" "f.feature"
      {}).toOption.any (fun (_, built, root) =>
        decide (built.tags.warnings = [] ∧
          ∃ placed ∈ root.tests, (built.tags.find? placed.key).getD [] ≠ placed.unit.tags)) =
      true := by
    decide +kernel
  obtain ⟨⟨file, built, root⟩, hcompile, hcheck⟩ := exists_ok_of_any hcompile
  obtain ⟨hload, hbuild, keywords, uri, hplan⟩ := compile_eq_ok hcompile
  obtain ⟨hwarnings, hother⟩ := of_decide_eq_true hcheck
  exact ⟨file, built, root, hload, hbuild, hwarnings, keywords, uri, hplan, hother⟩

end FeatureFile

end FeatureSuite

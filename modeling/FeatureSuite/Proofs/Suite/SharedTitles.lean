import FeatureSuite.Proofs.Suite.TagMap

/-!
# Tests under the same titles

Tests are registered one after the other. Each of them is answered its own tags. The map keeps under
every key the tags of the first test that has some, and a later test that has others is warned of.
-/

namespace FeatureSuite

open Gherkin (Tag)

/-- What a test is registered with: the units around it, its title and its own tags. -/
structure TestTitle where
  around : List Ancestor
  title : String
  own : List Tag

namespace TestTitle

def key (test : TestTitle) : String := testKey test.around test.title

/-- All tags of a test from the outermost unit inwards, as often as they are written. -/
def written (test : TestTitle) : List String := test.around.flatMap (·.tags) ++ tagNames test.own

def tags (test : TestTitle) : List String := visibleTags test.around (tagNames test.own)

end TestTitle

namespace FileTags

variable {map : FileTags} {key : String} {tags : List String}

/-! ## Entries -/

private theorem find?_of_mem (h : (map.entries.map Prod.fst).Nodup) {entry : String × List String}
    (hentry : entry ∈ map.entries) : map.find? entry.1 = some entry.2 := by
  cases hfound : map.entries.find? (·.1 == entry.1) with
  | none => exact absurd (beq_self_eq_true entry.1) (List.find?_eq_none.mp hfound entry hentry)
  | some found =>
      have hkey : found.1 = entry.1 := by simpa using List.find?_some hfound
      have hsame := List.inj_on_of_nodup_map h (List.mem_of_find?_eq_some hfound) hentry hkey
      rw [find?, hfound, hsame]
      rfl

/-! ## Warnings -/

/-- The warnings in the order in which they are given. -/
def log (map : FileTags) : List String := map.warnings.map warningText

private theorem log_enter :
    (map.enter key tags).log = map.log ++
      if tags ≠ [] ∧ ∃ kept ∈ map.find? key, kept ≠ tags then [warningText key] else [] := by
  unfold enter log
  by_cases hempty : tags = []
  · simp [hempty]
  rw [if_neg (by simpa using hempty)]
  cases map.find? key with
  | none => simp
  | some kept => by_cases hsame : kept = tags <;> simp [hsame, hempty]

/-! ## Runs -/

/-- Registers tests one after the other. -/
def registerAll (map : FileTags) (tests : List TestTitle) : FileTags :=
  tests.foldl (fun map test => (map.register test.around test.title test.own).2) map

private theorem registerAll_eq_enterAll (tests : List TestTitle) :
    map.registerAll tests = map.enterAll (tests.map fun test => (test.key, test.tags)) := by
  rw [registerAll, enterAll, List.foldl_map]
  rfl

private theorem registerAll_append_singleton {tests : List TestTitle} {test : TestTitle} :
    map.registerAll (tests ++ [test]) =
      ((map.registerAll tests).register test.around test.title test.own).2 := by
  rw [registerAll, List.foldl_append]
  rfl

private theorem firstTags?_map (tests : List TestTitle) :
    firstTags? (tests.map fun test => (test.key, test.tags)) key =
      (tests.find? fun test => test.key = key ∧ test.tags ≠ []).map (·.tags) := by
  rw [firstTags?, List.findSome?_map]
  induction tests with
  | nil => rfl
  | cons test tests ih =>
      rw [List.findSome?_cons, List.find?_cons]
      by_cases hfirst : test.key = key ∧ test.tags ≠ []
      · simp [hfirst]
      · simpa [hfirst] using ih

/-- The tests that are registered with a new map are answered one by one: each its own tags, those
of the units around it first and none of them twice; and each is warned of exactly if it has tags
and other ones are kept under its key by then. In the end every key of a test with tags is there
once, in the order of the first such test, with the tags of this one. -/
theorem registered_in_turn (tests : List TestTitle) :
    (∀ (i : Nat) (test : TestTitle), tests[i]? = some test →
      let before := registerAll {} (tests.take i)
      let answer := (before.register test.around test.title test.own).1
      let after := (before.register test.around test.title test.own).2
      after = registerAll {} (tests.take (i + 1)) ∧
      answer.Nodup ∧ (∀ tag, tag ∈ answer ↔ tag ∈ test.written) ∧
      answer.Pairwise (fun tag later => test.written.idxOf tag < test.written.idxOf later) ∧
      after.log = before.log ++
        if answer ≠ [] ∧ ∃ kept ∈ before.find? test.key, kept ≠ answer then
          ["Tests share the title path " ++ Text.literal test.key ++
            ", bdd_tags keeps the tags of the first one"]
        else []) ∧
    let last := registerAll {} tests
    last.entries.map Prod.fst = distinct ((tests.filter (·.tags ≠ [])).map (·.key)) ∧
      ∀ entry ∈ last.entries, ∃ first,
        tests.find? (fun test => test.key = entry.1 ∧ test.tags ≠ []) = some first ∧
          entry.2 = first.tags := by
  have hnew : (({} : FileTags).entries.map Prod.fst).Nodup := List.nodup_nil
  refine ⟨fun i test htest => ?_, ?_, fun entry hentry => ?_⟩
  · dsimp only
    refine ⟨?_, nodup_distinct _, fun tag => mem_distinct, pairwise_idxOf_distinct _, log_enter⟩
    rw [List.take_add_one, htest]
    exact registerAll_append_singleton.symm
  · rw [registerAll_eq_enterAll, keys_enterAll hnew, List.filter_map, List.map_map]
    rfl
  · rw [registerAll_eq_enterAll] at hentry
    have hfound := find?_of_mem (nodup_keys_enterAll _ hnew) hentry
    rw [find?_enterAll, firstTags?_map] at hfound
    obtain ⟨first, hfirst, htags⟩ := Option.map_eq_some_iff.mp hfound
    exact ⟨first, hfirst, htags.symm⟩

end FileTags

end FeatureSuite

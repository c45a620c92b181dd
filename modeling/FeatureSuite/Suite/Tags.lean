import FeatureSuite.Distinct
import FeatureSuite.Suite.Fault
import FeatureSuite.Text.Identifier

/-!
# Tags of tests

The tags that a test has and inherits, the fixtures and flags that they choose, and the map from the
titles of all tests of a file to their tags.
-/

namespace FeatureSuite

open Gherkin (Tag)

def tagNames (tags : List Tag) : List String := tags.map (·.name)

/-! ## Fixture tags -/

def fixtureTagStart : String := "@fixture:"

def fixtureTag (fixture : String) : String := fixtureTagStart ++ fixture

def fixtureOfTag? (tag : String) : Option String :=
  (Text.dropStart? fixtureTagStart tag).filter (· ≠ "")

theorem fixtureOfTag?_fixtureTag {fixture : String} (h : fixture ≠ "") :
    fixtureOfTag? (fixtureTag fixture) = some fixture := by
  rw [fixtureOfTag?, fixtureTag, Text.dropStart?_append]
  simp [h]

theorem fixtureOfTag?_eq_some {tag fixture : String} :
    fixtureOfTag? tag = some fixture ↔ tag = fixtureTag fixture ∧ fixture ≠ "" := by
  rw [fixtureOfTag?, Option.filter_eq_some_iff, Text.dropStart?_eq_some, fixtureTag,
    decide_eq_true_iff]

def tagFixtures (tags : List String) : List String := distinct (tags.filterMap fixtureOfTag?)

/-- Refuses the first tag that chooses what cannot be a parameter. -/
def checkFixtureTags (uri : String) : List Tag → Except DocumentFault Unit
  | [] => .ok ()
  | tag :: rest =>
      match fixtureOfTag? tag.name with
      | none => checkFixtureTags uri rest
      | some fixture =>
          if Text.isParameterName fixture then checkFixtureTags uri rest
          else .error (.fixtureTag tag.name uri (tag.location.map (·.line)) fixture)

/-! ## Flags -/

/-- What tags say about how a test is run. -/
structure Flags where
  only : Bool := false
  skip : Bool := false
  fixme : Bool := false
  slow : Bool := false
  serial : Bool := false
  deriving DecidableEq, Repr

def Flags.ofTags (tags : List Tag) : Flags :=
  let names := tagNames tags
  { only := names.contains "@only"
    skip := names.contains "@skip"
    fixme := names.contains "@fixme"
    slow := names.contains "@slow"
    serial := names.contains "@serial" || names.contains "@mode:serial" }

def Flags.names (flags : Flags) : List String :=
  [(flags.only, "only"), (flags.skip, "skip"), (flags.fixme, "fixme"), (flags.slow, "slow"),
    (flags.serial, "serial")].filterMap fun (on, name) => if on then some name else none

/-! ## Inherited tags -/

/-- The title and the tags of a unit around a test. -/
structure Ancestor where
  name : String
  tags : List String := []
  deriving DecidableEq, Repr

/-- The tags of all units around a test, then its own, each once. -/
def visibleTags (ancestors : List Ancestor) (own : List String) : List String :=
  distinct (ancestors.flatMap (·.tags) ++ own)

/-- What stands between the titles in the key of a test. -/
def keySeparator : String := "|"

/-- The titles of the units around a test and its own title, joined. -/
def testKey (ancestors : List Ancestor) (title : String) : String :=
  Text.join keySeparator (ancestors.map (·.name) ++ [title])

/-! ## Tags of a file -/

/-- The tags of the tests of a file under their keys, and the keys that tests with different tags
share. -/
structure FileTags where
  entries : List (String × List String) := []
  warnings : List String := []
  deriving DecidableEq, Repr

namespace FileTags

def find? (map : FileTags) (key : String) : Option (List String) :=
  (map.entries.find? (·.1 == key)).map (·.2)

/-- Enters the tags of a test. A test without tags is not entered, and of tests that share a key the
first one is. -/
def enter (map : FileTags) (key : String) (tags : List String) : FileTags :=
  if tags.isEmpty then map
  else
    match map.find? key with
    | none => { map with entries := map.entries ++ [(key, tags)] }
    | some entered =>
        if entered = tags then map else { map with warnings := map.warnings ++ [key] }

/-- Enters a test and answers its tags. -/
def register (map : FileTags) (ancestors : List Ancestor) (title : String) (own : List Tag) :
    List String × FileTags :=
  let tags := visibleTags ancestors (tagNames own)
  (tags, map.enter (testKey ancestors title) tags)

def warningText (key : String) : String :=
  s!"Tests share the title path {Text.literal key}, bdd_tags keeps the tags of the first one"

end FileTags

end FeatureSuite

import FeatureSuite.Distinct
import FeatureSuite.Text.Quoted

/-!
# Sets of fixtures

Names of fixtures in the order in which they were first seen, each once. The empty text names no
fixture.
-/

namespace FeatureSuite

/-- Names in first-seen order. -/
structure FixtureSet where
  names : List String := []
  nodup : names.Nodup := by simp
  named : "" ∉ names := by simp

namespace FixtureSet

instance : Inhabited FixtureSet := ⟨{}⟩

def contains (set : FixtureSet) (name : String) : Bool := set.names.contains name

/-- Adds a name behind the others, unless it is there or empty. -/
def add (set : FixtureSet) (name : String) : FixtureSet :=
  if h : name = "" ∨ name ∈ set.names then set
  else
    { names := set.names ++ [name]
      nodup := by
        have ⟨_, hn⟩ := not_or.1 h
        exact List.nodup_append.2 ⟨set.nodup, by simp, by
          intro a ha b hb
          rw [List.mem_singleton.1 hb]
          exact fun hab => hn (hab ▸ ha)⟩
      named := by
        have ⟨he, _⟩ := not_or.1 h
        simpa [set.named] using Ne.symm he }

def update (set : FixtureSet) (names : List String) : FixtureSet := names.foldl add set

def ofList (names : List String) : FixtureSet := update {} names

theorem names_add_of_mem {set : FixtureSet} {name : String} (h : name = "" ∨ name ∈ set.names) :
    (set.add name).names = set.names := by
  rw [add, dif_pos h]

theorem names_add_of_not_mem {set : FixtureSet} {name : String}
    (h : ¬(name = "" ∨ name ∈ set.names)) : (set.add name).names = set.names ++ [name] := by
  rw [add, dif_neg h]

theorem names_update (set : FixtureSet) (names : List String) :
    (set.update names).names = distinct (set.names ++ names.filter (· ≠ "")) := by
  induction names generalizing set with
  | nil =>
      rw [List.filter_nil, List.append_nil]
      exact (distinct_of_nodup set.nodup).symm
  | cons name names ih =>
      change ((set.add name).update names).names = _
      rw [ih]
      by_cases hname : name = ""
      · rw [names_add_of_mem (.inl hname), List.filter_cons_of_neg (by simp [hname])]
      rw [List.filter_cons_of_pos (by simpa using hname)]
      by_cases hmem : name ∈ set.names
      · rw [names_add_of_mem (.inr hmem), distinct_append_cons_of_mem hmem]
      · rw [names_add_of_not_mem (not_or.2 ⟨hname, hmem⟩), List.append_assoc, List.singleton_append]

theorem names_ofList (names : List String) :
    (ofList names).names = distinct (names.filter (· ≠ "")) := names_update {} names

def shown (set : FixtureSet) : String := s!"FixtureSet({Text.literalList set.names})"

end FixtureSet

end FeatureSuite

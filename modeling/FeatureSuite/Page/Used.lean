import FeatureSuite.Page.Graph
import FeatureSuite.Suite.Tags

/-!
# Page objects of a test

The page objects that a test uses, and which of them its tags chose. A step of a page object can be
run by every used page object that inherits it; chosen ones go first, and derived ones before those
they derive from.
-/

namespace FeatureSuite

/-- The used page objects in the order of first use, each with whether a tag chose it. -/
structure UsedPages where
  entries : List (Nat × Bool) := []
  deriving DecidableEq, Repr

namespace UsedPages

def use (used : UsedPages) (page : Nat) (byTag : Bool) : UsedPages :=
  if used.entries.any (·.1 == page) then
    { entries := used.entries.map fun (other, chosen) =>
        if other = page then (other, chosen || byTag) else (other, chosen) }
  else { entries := used.entries ++ [(page, byTag)] }

def useFixture (used : UsedPages) (graph : PageGraph) (fixture : String) (byTag : Bool) :
    UsedPages :=
  match graph.byFixture? fixture with
  | some page => used.use page byTag
  | none => used

def useTag (used : UsedPages) (graph : PageGraph) (tag : String) : UsedPages :=
  match fixtureOfTag? tag with
  | some fixture => used.useFixture graph fixture true
  | none => used

/-- The used page objects with a fixture that have or inherit the steps of a page object. -/
def qualified (used : UsedPages) (graph : PageGraph) (page : Nat) : List (Nat × Bool) :=
  used.entries.filter fun (other, _) =>
    graph.fixture other ≠ "" && (graph.lineage other).contains page

/-- The chosen ones of some page objects, or all if none is chosen. -/
def preferred (entries : List (Nat × Bool)) : List Nat :=
  let chosen := entries.filter (·.2)
  (if chosen.isEmpty then entries else chosen).map (·.1)

/-- The page objects that are no ancestors of others among them. -/
def mostDerived (graph : PageGraph) (pages : List Nat) : List Nat :=
  pages.filter fun page => !pages.any fun other => graph.isAncestorOf page other

/-- The page objects that can run a step of a page object. -/
def candidates (used : UsedPages) (graph : PageGraph) (page : Nat) : List Nat :=
  mostDerived graph (preferred (used.qualified graph page))

/-- The fixtures that can run a step of a page object. -/
def candidateFixtures (used : UsedPages) (graph : PageGraph) (page : Nat) : List String :=
  distinct ((used.candidates graph page).map graph.fixture)

end UsedPages

def PageGraph.reachableFixtures (graph : PageGraph) (page : Nat) : List String :=
  distinct (((page :: graph.descendants page).map graph.fixture).filter (· ≠ ""))

end FeatureSuite

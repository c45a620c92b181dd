/-!
# The graph of page objects

Every registered page class is a node. A node hangs below the nearest registered class that its
class inherits from, so the nodes form trees. Nodes are numbered in the order of registration.
-/

namespace FeatureSuite

/-- A registered page class. -/
structure PageNode where
  className : String
  /-- The fixture that provides an instance; empty for classes that are only inherited from. -/
  fixture : String := ""
  parent : Option Nat := none
  children : List Nat := []
  deriving DecidableEq, Repr

/-- The registered page classes, in the order of registration. -/
structure PageGraph where
  nodes : List PageNode := []
  deriving DecidableEq, Repr

namespace PageGraph

def node? (graph : PageGraph) (i : Nat) : Option PageNode := graph.nodes[i]?

def fixture (graph : PageGraph) (i : Nat) : String := ((graph.node? i).map (·.fixture)).getD ""

def parent? (graph : PageGraph) (i : Nat) : Option Nat := (graph.node? i).bind (·.parent)

def children (graph : PageGraph) (i : Nat) : List Nat := ((graph.node? i).map (·.children)).getD []

/-- A node and its ancestors up to a number of nodes. -/
def lineageFrom (graph : PageGraph) : (fuel : Nat) → Nat → List Nat
  | 0, _ => []
  | fuel + 1, i =>
      match graph.parent? i with
      | none => [i]
      | some parent => i :: graph.lineageFrom fuel parent

/-- A node, then each ancestor up to the root. -/
def lineage (graph : PageGraph) (i : Nat) : List Nat := graph.lineageFrom graph.nodes.length i

/-- The nodes below a node down to a number of levels, depth first. -/
def descendantsFrom (graph : PageGraph) : (fuel : Nat) → Nat → List Nat
  | 0, _ => []
  | fuel + 1, i => (graph.children i).flatMap fun child => child :: graph.descendantsFrom fuel child

/-- The nodes below a node, depth first. -/
def descendants (graph : PageGraph) (i : Nat) : List Nat :=
  graph.descendantsFrom graph.nodes.length i

/-- Whether a node is an ancestor of another one. -/
def isAncestorOf (graph : PageGraph) (i j : Nat) : Bool := j != i && (graph.lineage j).contains i

/-- The first node that provides a fixture. -/
def byFixture? (graph : PageGraph) (name : String) : Option Nat :=
  if name = "" then none else graph.nodes.findIdx? (·.fixture == name)

def addChild (nodes : List PageNode) (parent child : Nat) : List PageNode :=
  nodes.modify parent fun node => { node with children := node.children ++ [child] }

def add (graph : PageGraph) (className fixture : String) (parent : Option Nat) : PageGraph :=
  let nodes := match parent with
    | none => graph.nodes
    | some parent => addChild graph.nodes parent graph.nodes.length
  { nodes := nodes ++ [{ className, fixture, parent }] }

end PageGraph

end FeatureSuite

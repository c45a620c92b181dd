/-!
# Linearization of inheritance

The order in which a class and the classes that it inherits from are searched: every class comes in
front of its bases, and the bases of a class keep their order. Hierarchies that allow no such order
are refused.
-/

namespace FeatureSuite

/-- Whether a class is behind the first place of one of the lists. -/
def isDelayed (lists : List (List Nat)) (i : Nat) : Bool :=
  lists.any fun list => (list.drop 1).contains i

/-- Takes a class from the start of every list that starts with it. -/
def takeFirst (i : Nat) (lists : List (List Nat)) : List (List Nat) :=
  (lists.map fun list => if list.head? = some i then list.drop 1 else list).filter (!·.isEmpty)

/-- Merges lists into one in which everything keeps its order: again and again the first class at
the start of a list that is delayed by no other list. -/
def mergeOrders : (fuel : Nat) → List (List Nat) → Option (List Nat)
  | _, [] => some []
  | 0, _ => none
  | fuel + 1, lists => do
      let i ← (lists.filterMap (·.head?)).find? fun i => !isDelayed lists i
      let rest ← mergeOrders fuel (takeFirst i lists)
      return i :: rest

/-- The order of a new class, given its bases and their orders. -/
def linearize (i : Nat) (bases : List Nat) (orders : List (List Nat)) : Option (List Nat) :=
  if !bases.Nodup then none
  else
    let lists := (orders ++ [bases]).filter (!·.isEmpty)
    (mergeOrders (lists.flatten.length + 1) lists).map (i :: ·)

end FeatureSuite

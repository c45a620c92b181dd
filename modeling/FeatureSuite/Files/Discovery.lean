import FeatureSuite.Files.Ignore
import FeatureSuite.Files.Tree

/-!
# Discovery

Which files below a directory are feature files: those with the right ending that no ignore pattern
leaves out, ordered name by name. The search goes through all directories, in the order in which the
tree lists them, also through those that are left out or named like a feature file.
-/

namespace FeatureSuite

def featureEnding : String := ".feature"

/-- Whether a name ends like that of a feature file. -/
def isFeatureName (name : String) : Bool :=
  (Text.afterStart? featureEnding.toList.reverse name.toList.reverse).isSome

/-- Whether names below the root are like those of a feature file that is not left out. -/
def isFeature (patterns : List IgnorePattern) (names : List String) : Bool :=
  match names.getLast? with
  | none => false
  | some name => isFeatureName name && !isIgnored patterns (Path.joinParts names)

namespace FileTree

/-- The name that leads from a directory to a place in it. -/
def nameAfter? (place other : Place) : Option String :=
  match Path.partsAfter? place other with
  | some [name] => some name
  | _ => none

/-- The names in a directory, in the order in which the tree lists them. -/
def namesIn (tree : FileTree) (place : Place) : List String :=
  (tree.entries.map Prod.fst).filterMap (nameAfter? place)

/-- The names on the way from a directory to all that is below it, down to a depth: what is in it
first, then what is below the directories in it. -/
def below (tree : FileTree) : (depth : Nat) → Place → List (List String)
  | 0, _ => []
  | depth + 1, place =>
      if tree.get? place = some .directory then
        let names := tree.namesIn place
        names.map ([·]) ++
          names.flatMap fun name => (below tree depth (place ++ [name])).map (name :: ·)
      else []

/-- The number of names that lead to the deepest place. -/
def depth (tree : FileTree) : Nat := (tree.entries.map (·.1.length)).foldr max 0

def isFile (tree : FileTree) (place : Place) : Bool :=
  match tree.get? place with
  | some (.file _) => true
  | _ => false

end FileTree

/-- Whether names come first or are equal, name by name. -/
def namesUpTo (a b : List String) : Bool := !Path.before ⟨"", b⟩ ⟨"", a⟩

/-- The feature files below a directory, seen from there. -/
def discoverNames (tree : FileTree) (root : Path) (patterns : List IgnorePattern) :
    List (List String) :=
  match tree.locate root with
  | .error _ => []
  | .ok place =>
      let found := (tree.below tree.depth place).filter fun names =>
        isFeature patterns names && tree.isFile (place ++ names)
      found.mergeSort namesUpTo

/-- The paths of the feature files below a directory. -/
def discover (tree : FileTree) (root : Path) (ignore : List String) :
    Except IgnoreFault (List Path) := do
  let patterns ← IgnorePattern.ofLines ignore
  return (discoverNames tree root patterns).map fun names =>
    { root with parts := root.parts ++ names }

end FeatureSuite

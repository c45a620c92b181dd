import FeatureSuite.Text.Blank

/-!
# Paths

Paths of files. Repeated slashes and single dots mean nothing and are dropped; double dots stay.
-/

namespace FeatureSuite

/-- A path: what it starts from, and the names on the way. The start is empty for a relative path.
-/
structure Path where
  root : String := ""
  parts : List String := []
  deriving DecidableEq, Repr, Inhabited

namespace Path

/-- Drops all leading slashes; two of them are a start of their own. -/
private def splitRoot (cs : List Char) : String × List Char :=
  let slashes := cs.takeWhile (· = '/')
  let root := if slashes.isEmpty then "" else if slashes.length = 2 then "//" else "/"
  (root, cs.dropWhile (· = '/'))

def ofText (text : String) : Path :=
  let (root, rest) := splitRoot text.toList
  let parts := (Text.splitOnChar '/' rest).map String.ofList
  { root, parts := parts.filter fun part => part ≠ "" && part ≠ "." }

theorem ofText_of_relative {text : String} (h : text.toList.head? ≠ some '/') :
    ofText text =
      { parts := ((Text.splitOnChar '/' text.toList).map String.ofList).filter
          fun part => part ≠ "" && part ≠ "." } := by
  have hsplit : splitRoot text.toList = ("", text.toList) := by
    cases htext : text.toList with
    | nil => rfl
    | cons c rest =>
        have hc : c ≠ '/' := fun heq => h (by rw [htext, heq, List.head?_cons])
        simp [splitRoot, hc]
  rw [ofText, hsplit]

/-- Names joined by slashes. -/
def joinParts (parts : List String) : String := Text.join "/" parts

def toText (path : Path) : String :=
  if path.root = "" && path.parts.isEmpty then "." else path.root ++ joinParts path.parts

def name (path : Path) : String := path.parts.getLast?.getD ""

def parent (path : Path) : Path := { path with parts := path.parts.dropLast }

def isAbsolute (path : Path) : Bool := path.root ≠ ""

/-- A path seen from another one. -/
def join (base path : Path) : Path :=
  if path.isAbsolute then path else { base with parts := base.parts ++ path.parts }

def child (path : Path) (name : String) : Path := { path with parts := path.parts ++ [name] }

/-- The last name without its last suffix. A dot at the start or the end of a name makes no
suffix. -/
def stem (path : Path) : String :=
  let cs := path.name.toList
  let suffix := cs.reverse.takeWhile (· ≠ '.')
  let before := cs.take (cs.length - (suffix.length + 1))
  if suffix.length = cs.length || suffix.isEmpty || before.isEmpty then path.name
  else String.ofList before

/-- What follows a list at the start of another one. -/
def partsAfter? : List String → List String → Option (List String)
  | [], parts => some parts
  | _ :: _, [] => none
  | a :: rest, b :: parts => if a = b then partsAfter? rest parts else none

/-- A path below another one, seen from there. -/
def relativeTo? (path base : Path) : Option Path :=
  if path.root = base.root then (partsAfter? base.parts path.parts).map fun parts => { parts }
  else none

/-- The order of paths: by start, then name by name. -/
def before (a b : Path) : Bool :=
  let rec go : List String → List String → Bool
    | [], [] => false
    | [], _ :: _ => true
    | _ :: _, [] => false
    | x :: xs, y :: ys => if x = y then go xs ys else decide (x < y)
  if a.root = b.root then go a.parts b.parts else decide (a.root < b.root)

/-- A path without dots, seen from a directory. Double dots at the root mean nothing. -/
def resolve (path directory : Path) : Path :=
  let whole := directory.join path
  { root := "/"
    parts := whole.parts.foldl
      (fun parts part => if part = ".." then parts.dropLast else parts ++ [part]) [] }

end Path

end FeatureSuite

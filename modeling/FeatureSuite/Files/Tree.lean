import FeatureSuite.Files.Path
import FeatureSuite.Text.Quoted

/-!
# File trees

Directories and files as plain data, and what reading, making directories and writing do to them.
Every place is named by the names on the way from the root. There are no links, so double dots lead
to the directory above.
-/

namespace FeatureSuite

/-- What can go wrong with files. -/
inductive FileFaultKind where
  | notFound
  | isDirectory
  | notDirectory
  | taken
  deriving DecidableEq, Repr

/-- A path that something went wrong with. -/
structure FileFault where
  kind : FileFaultKind
  path : Path
  deriving DecidableEq, Repr

def FileFaultKind.label : FileFaultKind → String
  | notFound => "FileNotFoundError"
  | isDirectory => "IsADirectoryError"
  | notDirectory => "NotADirectoryError"
  | taken => "FileExistsError"

/-- What went wrong, in words. -/
def FileFault.message (fault : FileFault) : String :=
  let what := match fault.kind with
    | .notFound => "[Errno 2] No such file or directory"
    | .isDirectory => "[Errno 21] Is a directory"
    | .notDirectory => "[Errno 20] Not a directory"
    | .taken => "[Errno 17] File exists"
  s!"{what}: {Text.literal fault.path.toText}"

/-- The names on the way from the root to a place. -/
abbrev Place := List String

/-- What is at a place. -/
inductive FileEntry where
  | file (bytes : List Nat)
  | directory
  deriving DecidableEq, Repr

/-- Replaces or appends what is at a place. -/
def setEntry (place : Place) (entry : FileEntry) :
    List (Place × FileEntry) → List (Place × FileEntry)
  | [] => [(place, entry)]
  | (other, old) :: rest =>
      if other = place then (place, entry) :: rest else (other, old) :: setEntry place entry rest

theorem mem_places_setEntry {place other : Place} {entry : FileEntry}
    {entries : List (Place × FileEntry)} (h : other ∈ (setEntry place entry entries).map Prod.fst) :
    other = place ∨ other ∈ entries.map Prod.fst := by
  induction entries with
  | nil => simpa [setEntry] using h
  | cons head rest ih =>
    obtain ⟨first, old⟩ := head
    by_cases hf : first = place
    · simp only [setEntry, hf, if_true, List.map_cons, List.mem_cons] at h ⊢
      rcases h with h | h
      · exact Or.inl h
      · exact Or.inr (Or.inr h)
    · simp only [setEntry, hf, if_false, List.map_cons, List.mem_cons] at h ⊢
      rcases h with h | h
      · exact Or.inr (Or.inl h)
      · rcases ih h with h | h
        · exact Or.inl h
        · exact Or.inr (Or.inr h)

theorem nodup_places_setEntry {place : Place} {entry : FileEntry}
    {entries : List (Place × FileEntry)} (h : (entries.map Prod.fst).Nodup) :
    ((setEntry place entry entries).map Prod.fst).Nodup := by
  induction entries with
  | nil => simp [setEntry]
  | cons head rest ih =>
    obtain ⟨first, old⟩ := head
    simp only [List.map_cons, List.nodup_cons] at h
    by_cases hf : first = place
    · subst hf
      simpa [setEntry] using h
    · simp only [setEntry, hf, if_false, List.map_cons, List.nodup_cons]
      refine ⟨fun hm => ?_, ih h.2⟩
      rcases mem_places_setEntry hm with hp | hp
      · exact hf hp
      · exact h.1 hp

/-- Files and directories, at most one entry a place. The root is a directory and has no entry. -/
structure FileTree where
  entries : List (Place × FileEntry) := []
  nodup : (entries.map Prod.fst).Nodup := by simp

namespace FileTree

/-- The root alone. -/
def empty : FileTree := ⟨[], List.nodup_nil⟩

def get? (tree : FileTree) (place : Place) : Option FileEntry :=
  if place.isEmpty then some .directory else (tree.entries.find? (·.1 == place)).map (·.2)

def set (tree : FileTree) (place : Place) (entry : FileEntry) : FileTree where
  entries := setEntry place entry tree.entries
  nodup := nodup_places_setEntry tree.nodup

def step (here : Place) (name : String) : Place :=
  if name = ".." then here.dropLast else here ++ [name]

/-- The place that names lead to. All places on the way have to be directories. -/
def walk (tree : FileTree) (here : Place) : List String → Except FileFaultKind Place
  | [] => .ok here
  | name :: rest =>
      match tree.get? here with
      | none => .error .notFound
      | some (.file _) => .error .notDirectory
      | some .directory => walk tree (step here name) rest

/-- The place that a path leads to, seen from the root. -/
def locate (tree : FileTree) (path : Path) : Except FileFaultKind Place := tree.walk [] path.parts

def at? (tree : FileTree) (path : Path) : Option FileEntry :=
  match tree.locate path with
  | .ok place => tree.get? place
  | .error _ => none

def isDirectory (tree : FileTree) (path : Path) : Bool := tree.at? path == some .directory

def read (tree : FileTree) (path : Path) : Except FileFault (List Nat) :=
  match tree.locate path with
  | .error kind => .error ⟨kind, path⟩
  | .ok place =>
      match tree.get? place with
      | none => .error ⟨.notFound, path⟩
      | some .directory => .error ⟨.isDirectory, path⟩
      | some (.file bytes) => .ok bytes

def makeDirectory (tree : FileTree) (path : Path) : Except FileFaultKind FileTree :=
  match tree.locate path with
  | .error kind => .error kind
  | .ok place =>
      match tree.get? place with
      | some _ => .error .taken
      | none => .ok (tree.set place .directory)

/-- Makes a directory whose parent is there, unless it is there itself. -/
def ensureDirectory (tree : FileTree) (path : Path) : FileTree × Option FileFault :=
  match tree.makeDirectory path with
  | .ok tree => (tree, none)
  | .error kind => if tree.isDirectory path then (tree, none) else (tree, some ⟨kind, path⟩)

/-- Makes the directory of names, given from the last one to the first, and those above it that are
missing. Directories that are made stay when one below them cannot be made. -/
def makeDirectoriesFrom (tree : FileTree) (root : String) :
    List String → FileTree × Option FileFault
  | [] => (tree, none)
  | name :: above =>
      let path : Path := ⟨root, (name :: above).reverse⟩
      match tree.makeDirectory path with
      | .ok tree => (tree, none)
      | .error .notFound =>
          match makeDirectoriesFrom tree root above with
          | (tree, some fault) => (tree, some fault)
          | (tree, none) => tree.ensureDirectory path
      | .error _ => tree.ensureDirectory path

/-- Makes a directory and those above it that are missing. -/
def makeDirectories (tree : FileTree) (path : Path) : FileTree × Option FileFault :=
  tree.makeDirectoriesFrom path.root path.parts.reverse

def write (tree : FileTree) (path : Path) (bytes : List Nat) : Except FileFault FileTree :=
  match tree.locate path with
  | .error kind => .error ⟨kind, path⟩
  | .ok place =>
      match tree.get? place with
      | some .directory => .error ⟨.isDirectory, path⟩
      | _ => .ok (tree.set place (.file bytes))

/-- Writes a file; the directories above it are made. -/
def save (tree : FileTree) (path : Path) (bytes : List Nat) : FileTree × Option FileFault :=
  match tree.makeDirectories path.parent with
  | (tree, some fault) => (tree, some fault)
  | (tree, none) =>
      match tree.write path bytes with
      | .ok tree => (tree, none)
      | .error fault => (tree, some fault)

def plant (tree : FileTree) (above : Place) (entry : FileEntry) : Place → FileTree
  | [] => tree
  | [name] => tree.set (above ++ [name]) entry
  | name :: rest =>
      let here := above ++ [name]
      let tree := if (tree.get? here).isSome then tree else tree.set here .directory
      plant tree here entry rest

def files (tree : FileTree) : List (Place × List Nat) :=
  tree.entries.filterMap fun (place, entry) =>
    match entry with
    | .file bytes => some (place, bytes)
    | .directory => none

/-- The files that are new or different in a later tree. -/
def changedFiles (before after : FileTree) : List (Place × List Nat) :=
  after.files.filter fun (place, bytes) => before.get? place ≠ some (.file bytes)

/-- The directories that are new in a later tree, those above first. -/
def newDirectories (before after : FileTree) : List Place :=
  (after.entries.filter fun (place, entry) =>
    entry = .directory && (before.get? place).isNone).map Prod.fst

end FileTree

end FeatureSuite

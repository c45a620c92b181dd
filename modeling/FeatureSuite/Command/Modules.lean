import FeatureSuite.Files.Tree
import FeatureSuite.Files.Utf8
import FeatureSuite.Json.Reader
import FeatureSuite.Step.ScriptReader

/-!
# Step modules

Modules that register handlers. A module is loaded once, however often it is named. A package is a
module that others are named below; it registers nothing. In a directory, a file of the name
`a/b.json` holds the module `a.b`.
-/

namespace FeatureSuite

/-- A step module: what it registers, or why it cannot be imported. -/
inductive StepModule where
  | script (operations : List Operation)
  | broken (reason : String)

/-- Why a step module cannot be loaded. -/
inductive ModuleFault where
  | notImported (name reason : String)
  | emptyName
  | relativeName
  | script (fault : ScriptFault)
  deriving DecidableEq

namespace StepModule

/-! ## Reading -/

/-- Reads a module: a list of what it registers, or an object that says why it cannot be imported.
-/
def read : Json → StepModule
  | .array operations => .script (operations.map Script.operation)
  | other => .broken (Script.textOr other "import_error" "")

/-- The ending of the names of files that hold modules. -/
def fileEnding : String := ".json"

/-- The module that a file holds, by its path below a directory. -/
def ofFile? (path : Path) (bytes : List Nat) : Option (String × StepModule) :=
  if path.name.endsWith fileEnding then
    let name := Text.join "." (path.parent.parts ++ [path.stem])
    let json? := match Utf8.decode bytes with
      | .ok text => Json.parse? text
      | .error _ => none
    some (name, (json?.map read).getD (.broken "it does not hold JSON"))
  else none

def ofTree (tree : FileTree) (directory : Path) : List (String × StepModule) :=
  tree.files.filterMap fun (place, bytes) =>
    (Path.partsAfter? directory.parts place).bind fun parts => ofFile? { parts } bytes

/-! ## Loading -/

def packages (name : String) : List String :=
  let parts := (Text.splitOnChar '.' name.toList).map String.ofList
  (List.range (parts.length - 1)).map fun i => Text.join "." (parts.take (i + 1))

/-- Whether a module is named below a package. -/
def isPackage (modules : List (String × StepModule)) (name : String) : Bool :=
  modules.any fun (other, _) => other.startsWith (name ++ ".")

/-- The module that is missing when one cannot be found: it, or a package that it is in. -/
def missing (modules : List (String × StepModule)) (name : String) : String :=
  ((packages name).find? fun package => !isPackage modules package).getD name

def find (modules : List (String × StepModule)) (name : String) :
    Except ModuleFault (List Operation) :=
  match modules.lookup name with
  | some (.script operations) => .ok operations
  | some (.broken reason) => .error (.notImported name reason)
  | none =>
      if name = "" then .error .emptyName
      else if name.startsWith "." then .error .relativeName
      else if isPackage modules name then .ok []
      else
        let missing := Text.literal (missing modules name)
        .error (.notImported name s!"No module named {missing}")

/-- Loads modules one after the other, up to the first that cannot be loaded. -/
def load (modules : List (String × StepModule)) (session : Session) (loaded : List String) :
    List String → Except ModuleFault Session
  | [] => .ok session
  | name :: rest =>
      if loaded.contains name then load modules session loaded rest
      else
        match find modules name with
        | .error fault => .error fault
        | .ok operations =>
            match session.runAll operations with
            | (session, none) => load modules session (name :: loaded) rest
            | (_, some fault) => .error (.script fault)

end StepModule

end FeatureSuite

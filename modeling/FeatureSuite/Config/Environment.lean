import FeatureSuite.Config.Assignments
import FeatureSuite.Config.Settings
import FeatureSuite.Files.Utf8
import FeatureSuite.Json.Reader
import FeatureSuite.Text.Case

/-!
# Settings from the environment

Every setting has a variable of its own. A setting that is given explicitly comes first, then one of
the environment, then one of a file of assignments, then the default. The variables of lists hold
JSON; of those a null counts as not set.
-/

namespace FeatureSuite

/-- Variables with their values. -/
abbrev Environment := List (String × String)

/-- Why settings cannot be made. -/
inductive SettingsFault where
  /-- The variable of a list does not hold JSON. -/
  | notJson (setting : String)
  | invalid (faults : List Json.Fault)
  deriving DecidableEq

namespace Settings

def variableStart : String := "featuregen_"

def plainNames : List String :=
  ["features_dir", "output_dir", "import_fixtures_from", "examples_title_format", "concurrency"]

def listNames : List String := ["steps", "ignore_globs"]

/-- The last value of a variable; capitals in its name do not matter. -/
def valueOf? (environment : Environment) (setting : String) : Option String :=
  (environment.reverse.find? fun (name, _) => Text.lower name == variableStart ++ setting).map (·.2)

def ofVariables (environment : Environment) : Except SettingsFault Json.Fields := do
  let plain := plainNames.filterMap fun name => (valueOf? environment name).map (name, .string ·)
  let lists ← listNames.filterMapM fun name =>
    match valueOf? environment name with
    | none => .ok none
    | some text =>
        match Json.parse? text with
        | none => .error (.notJson name)
        | some .null => .ok none
        | some value => .ok (some (name, value))
  return plain ++ lists

/-- The variables of a file of assignments, whose line ends all count as line feeds. The last one of
a name counts, even if it has no value. -/
def fileVariables (environment : Environment) (text : String) : Environment :=
  let plain := String.ofList (Utf8.plainLineEnds text.toList)
  let assignments := Assignments.resolve environment (Assignments.read plain)
  let lowered := assignments.foldl
    (fun known (name, value) => Assignments.put (Text.lower name) value known) []
  lowered.filterMap fun (name, value) => value.map (name, ·)

def load (given : Json.Fields) (environment : Environment) (file : Option String) :
    Except SettingsFault Settings := do
  let outer ← ofVariables environment
  let inner ← match file with
    | some text => ofVariables (fileVariables environment text)
    | none => .ok []
  match read (given ++ outer ++ inner) with
  | .valid settings => .ok settings
  | .invalid faults => .error (.invalid faults)

/-- Settings that are chosen for one run. What is empty or zero is not chosen. -/
structure Choices where
  featuresDir : String := ""
  outputDir : String := ""
  steps : List String := []
  importFixturesFrom : String := ""
  titleFormat : String := ""
  concurrency : Int := 0
  deriving DecidableEq, Repr

/-- Settings with those that are chosen for one run. -/
def choose (settings : Settings) (choices : Choices) : Settings :=
  let text (chosen default : String) := if chosen = "" then default else chosen
  { settings with
    featuresDir := text choices.featuresDir settings.featuresDir
    outputDir := text choices.outputDir settings.outputDir
    steps := if choices.steps.isEmpty then settings.steps else choices.steps
    importFixturesFrom :=
      if choices.importFixturesFrom = "" then settings.importFixturesFrom
      else some choices.importFixturesFrom
    examplesTitleFormat := text choices.titleFormat settings.examplesTitleFormat
    concurrency := if choices.concurrency = 0 then settings.concurrency else choices.concurrency }

end Settings

end FeatureSuite

import FeatureSuite.Batch.Compilation
import FeatureSuite.Command.Arguments
import FeatureSuite.Command.Modules
import FeatureSuite.Console.Table
import FeatureSuite.Files.Discovery

/-!
# Running a command

What a command prints and what becomes of the files around it, as a function of its arguments, the
files, the environment and the step modules. What is printed stays when a command fails later.
-/

namespace FeatureSuite

/-- What a command finds around it. -/
structure Surroundings where
  tree : FileTree
  /-- The directory that relative paths start from. -/
  directory : Path
  environment : Environment := []
  modules : List (String × StepModule) := []
  /-- How wide the terminal is. -/
  width : Nat := 80

/-- Why a command cannot be run as it is asked for. -/
inductive Misuse where
  | arguments (fault : ArgumentFault)
  | noFeaturesDir (path : Path)
  | noStepModule (name reason : String)
  deriving DecidableEq

/-- The name of a kind of misuse. -/
def Misuse.label : Misuse → String
  | arguments fault => fault.label
  | noFeaturesDir _ | noStepModule .. => "BadParameter"

/-- What is wrong, in words. -/
def Misuse.message : Misuse → String
  | arguments fault => fault.message
  | noFeaturesDir path => s!"Features directory not found: {path.toText}"
  | noStepModule name reason => s!"Cannot import step module {name}: {reason}"

/-- Why a command breaks off. -/
inductive CommandFault where
  | settings (fault : SettingsFault)
  | undecodableAssignments
  | step (fault : ScriptFault)
  | ignore (fault : IgnoreFault)
  | markup (fault : Markup.Fault)
  | emptyModuleName
  | relativeModuleName
  deriving DecidableEq

/-- The name of a kind of fault. -/
def CommandFault.label : CommandFault → String
  | settings (.notJson _) => "SettingsError"
  | settings (.invalid _) => "ValidationError"
  | undecodableAssignments => "UnicodeDecodeError"
  | step fault => fault.label
  | ignore fault => fault.label
  | markup _ => "MarkupError"
  | emptyModuleName => "ValueError"
  | relativeModuleName => "TypeError"

/-- Why a command breaks off, in words. -/
def CommandFault.message : CommandFault → String
  | settings (.notJson name) => s!"error parsing value for field \"{name}\""
  | settings (.invalid _) => "invalid settings"
  | undecodableAssignments => "the file of assignments is not UTF-8"
  | step fault => fault.message
  | ignore fault => fault.message
  | markup fault => fault.message
  | emptyModuleName => "Empty module name"
  | relativeModuleName => "a relative module name needs a package"

inductive Ending where
  | exit (code : Nat)
  | misuse (what : Misuse)
  | failed (fault : CommandFault)
  deriving DecidableEq

/-- What a command has done so far. -/
structure Progress where
  tree : FileTree
  /-- The lines that are printed, the last one first. -/
  printed : List String := []

abbrev Run := ExceptT Ending (StateM Progress)

namespace Run

def printLines (lines : List String) : Run Unit :=
  modify fun progress => { progress with printed := lines.reverse ++ progress.printed }

def printPlain (width : Nat) (text : String) : Run Unit :=
  printLines (Wrapping.wrap width .fold .ragged (Markup.unmarked text))

/-- A value, unless a text cannot be shown. -/
def shown {α : Type} : Except Markup.Fault α → Run α
  | .ok a => return a
  | .error fault => throw (.failed (.markup fault))

def printMarkup (width : Nat) (text : String) : Run Unit := do
  let text ← shown (Markup.plainText text)
  printLines (Wrapping.wrap width .fold .ragged text)

def printTable (width : Nat) (table : Table) : Run Unit := printLines (table.lines width)

end Run

namespace Surroundings

/-- The name of the file of assignments in the working directory. -/
def assignmentsName : String := ".env"

/-- The text of the file of assignments, if it is there. -/
def assignments? (around : Surroundings) : Run (Option String) :=
  match around.tree.read (around.directory.child assignmentsName) with
  | .error _ => return none
  | .ok bytes =>
      match Utf8.decode bytes with
      | .ok text => return some text
      | .error _ => throw (.failed .undecodableAssignments)

def settings (around : Surroundings) (choices : Settings.Choices) : Run Settings := do
  match Settings.load [] around.environment (← around.assignments?) with
  | .ok settings => return settings.choose choices
  | .error fault => throw (.failed (.settings fault))

/-- The handlers of step modules. -/
def registry (around : Surroundings) (steps : List String) : Run Registry :=
  match StepModule.load around.modules {} [] steps with
  | .ok session => return session.store.build.1
  | .error (.notImported name reason) => throw (.misuse (.noStepModule name reason))
  | .error .emptyName => throw (.failed .emptyModuleName)
  | .error .relativeName => throw (.failed .relativeModuleName)
  | .error (.script fault) => throw (.failed (.step fault))

end Surroundings

namespace Command

/-! ## Listing handlers -/

def bindingTable (registry : Registry) : Except Markup.Fault Table := do
  let bindings := registry.bindings
  let fixture (binding : Binding) : String :=
    ((binding.page.bind fun page => registry.pages.nodes[page]?).map (·.fixture)).getD ""
  let columns ← [("Role", fun b : Binding => b.role.label), ("Pattern", fun b => b.pattern.text),
      ("Fixture", fixture), ("Location", fun b => b.handler.location)].mapM
    fun (header, text) => Column.ofMarkup header (bindings.map text) .left
  return { title := "Step Definitions", columns, rows := bindings.length }

/-- Lists the registered handlers. -/
def list (around : Surroundings) (choices : Settings.Choices) : Run Unit := do
  let settings ← around.settings choices
  let registry ← around.registry settings.steps
  Run.printTable around.width (← Run.shown (bindingTable registry))
  Run.printMarkup around.width s!"[bold]{registry.bindings.length}[/bold] step definitions"

/-! ## Compiling feature files -/

/-- The line for a document that is done, the `i`th of a batch. -/
def completionLine (total i : Nat) (result : CompileResult) : String :=
  let progress := s!"[dim]{i}/{total} ({i * 100 / max 1 total}%)[/dim]"
  match result.failure?, result.outputPath with
  | some _, _ => s!"[red]Failed[/red] {result.uri}  {progress}"
  | none, some path => s!"[green]Created[/green] {path}  {progress}"
  | none, none => s!"[green]Created[/green] None  {progress}"

def resultTable (results : List CompileResult) : Except Markup.Fault Table := do
  let feature ← Column.ofMarkup "Feature" (results.map (·.uri)) .left
  let file ← Column.ofMarkup "File" (results.map fun result =>
    (result.outputPath.filter (· ≠ "")).getD "-") .left
  let undefined ← Column.ofMarkup "Undefined"
    (results.map fun result => toString result.undefined.length) .right
  return { title := "Generated Tests", columns := [feature, file, undefined]
           rows := results.length }

/-- The line for a step without a handler. -/
def undefinedLine (step : UndefinedStep) : String :=
  s!"  {step.uri}:{step.line}  [dim]{step.role.label}[/dim]  {step.text}"

/-- Prints the steps without a handler, and snippets for them. -/
def printUndefined (width : Nat) (undefined : List UndefinedStep) : Run Unit := do
  if undefined.isEmpty then return
  Run.printMarkup width
    s!"\n[bold red]Missing step definitions:[/bold red] {undefined.length}\n"
  for step in undefined do
    Run.printMarkup width (undefinedLine step)
  Run.printMarkup width "\n[bold]Use these snippets or adjust your step patterns:[/bold]\n"
  for snippet in Snippet.buildAll (undefined.map fun step => (step.role, step.text)) do
    Run.printPlain width snippet
    Run.printLines [""]

/-- The line for a document that failed. -/
def errorLine (uri error : String) : String := s!"[bold red]Error[/bold red] {uri}: {error}"

/-- Prints what has come of a batch, and ends with the code that tells whether all is well. -/
def report (width : Nat) (results : List CompileResult) : Run Unit := do
  Run.printTable width (← Run.shown (resultTable results))
  printUndefined width (results.flatMap (·.undefined))
  for result in results do
    if let some error := result.failure? then
      Run.printMarkup width (errorLine result.uri error)
  if results.any fun result => result.failure?.isSome || !result.undefined.isEmpty then
    throw (.exit 1)

/-- The feature files below a directory. -/
def features (tree : FileTree) (root : Path) (ignore : List String) : Run (List Path) :=
  match discover tree root ignore with
  | .ok paths => return paths
  | .error fault => throw (.failed (.ignore fault))

/-- Compiles feature files into modules. -/
def generate (around : Surroundings) (choices : Settings.Choices) : Run Unit := do
  let settings ← around.settings choices
  let root := (Path.ofText settings.featuresDir).resolve around.directory
  if (around.tree.at? root).isNone then throw (.misuse (.noFeaturesDir root))
  let registry ← around.registry settings.steps
  Run.printMarkup around.width s!"Loaded [bold]{registry.bindings.length}[/bold] step definitions"
  let paths ← features around.tree root settings.ignoreGlobs
  if paths.isEmpty then
    Run.printMarkup around.width "[yellow]No feature files found[/yellow]"
    throw (.exit 0)
  let outDir := (Path.ofText settings.outputDir).resolve around.directory
  let batch : Batch := { registry, settings, root, outDir }
  let (tree, completions) := batch.run around.tree paths
  modify fun progress => { progress with tree }
  for (i, completion) in Batch.counted completions do
    Run.printMarkup around.width (completionLine paths.length i completion.result)
  report around.width (Batch.results paths.length completions)

/-- Does what is asked for. -/
def perform (around : Surroundings) : Request → Run Unit
  | .generate choices => generate around choices
  | .list choices => list around choices

end Command

structure Outcome where
  ending : Ending
  /-- The lines that it prints. -/
  printed : List String
  tree : FileTree

def runCommand (around : Surroundings) (arguments : List String) : Outcome :=
  match Arguments.read arguments with
  | .error fault =>
      { ending := .misuse (.arguments fault), printed := [], tree := around.tree }
  | .ok request =>
      let (result, progress) := ((Command.perform around request).run).run { tree := around.tree }
      let ending := match result with
        | .ok _ => .exit 0
        | .error ending => ending
      { ending, printed := progress.printed.reverse, tree := progress.tree }

end FeatureSuite

import FeatureSuite.Files.Path
import FeatureSuite.Gherkin.Pickling
import FeatureSuite.Suite.Plan
import FeatureSuite.Suite.Snippet

/-!
# Feature files

A document on its way to a module: what it is compiled with, and what has come of it.
-/

namespace FeatureSuite

open Gherkin (Document Pickle PickleStep Step)

/-- The text of a feature file as a document and its pickles. -/
structure LoadedDocument where
  document : Document
  pickles : List Pickle
  deriving DecidableEq

def parseDocument (text uri : String) : Except Failure LoadedDocument :=
  match Gherkin.parse text with
  | .error faults => .error (.document (.unparsable uri faults))
  | .ok document =>
      let document := { document with uri := some uri }
      match document.pickles with
      | .error bad => .error (.pattern bad)
      | .ok pickles => .ok { document, pickles }

/-- A step that no handler accepts. -/
structure UndefinedStep where
  role : Role
  step : Step
  pickleStep : PickleStep
  uri : String
  deriving DecidableEq, Repr

namespace UndefinedStep

def text (undefined : UndefinedStep) : String := undefined.pickleStep.text

def line (undefined : UndefinedStep) : Int := undefined.step.location.line

end UndefinedStep

/-- A document with what it is compiled with, and the module as far as it is built. -/
structure FeatureFile where
  document : Document
  pickles : List Pickle
  registry : Registry
  settings : Settings := {}
  outputPath : Option Path := none
  keywords : Option KeywordTable := none
  lines : List String := []
  tags : FileTags := {}
  runnerModules : List String := []
  undefined : List UndefinedStep := []

namespace FeatureFile

def sourceFile (file : FeatureFile) : Except DocumentFault String :=
  match file.document.uri with
  | some uri => if uri = "" then .error .noUri else .ok uri
  | none => .error .noUri

def language (file : FeatureFile) : String :=
  (file.document.feature.map (·.language)).getD "en"

/-- The words of the language, once the module is built. -/
def keywordTable (file : FeatureFile) : Except Failure KeywordTable :=
  match file.keywords with
  | some keywords => .ok keywords
  | none => .error .notBuilt

def content (file : FeatureFile) : String := Text.join "\n" file.lines ++ "\n"

/-- Where the module goes, and its text. -/
def save (file : FeatureFile) : Except Failure (Path × String) :=
  match file.outputPath with
  | some path => .ok (path, file.content)
  | none => do throw (.noOutputPath (← documentResult file.sourceFile))

/-- Whether a handler is called through keywords of its own. -/
def hasRunner (file : FeatureFile) : Bool := !file.runnerModules.isEmpty

/-- The plan of the module, and the words of its language. -/
def plan (file : FeatureFile) : Except Failure (KeywordTable × String × SuiteUnit) := do
  match file.document.feature with
  | none => throw (.document (.noFeature (← documentResult file.sourceFile)))
  | some feature =>
      let keywords ← documentResult (KeywordTable.find file.language)
      let uri ← documentResult file.sourceFile
      let planner : Planner :=
        { uri, document := file.document, pickleSteps := file.pickles.flatMap (·.steps)
          registry := file.registry, keywords, titleFormat := file.settings.examplesTitleFormat }
      return (keywords, uri, ← planner.feature feature)

def imports (settings : Settings) (runnerModules : List String) : List String :=
  distinct ((settings.importFixturesFrom.filter (· ≠ "")).toList ++ runnerModules)

/-- The steps of a plan that no handler accepts. -/
def undefinedSteps (uri : String) (occurrences : List Occurrence) : List UndefinedStep :=
  (occurrences.filter (·.found.isNone)).map fun occurrence =>
    { role := occurrence.role, step := occurrence.step, pickleStep := occurrence.pickleStep, uri }

/-- Enters the tests of a plan. -/
def fileTags (tests : List (String × List String)) : FileTags :=
  tests.foldl (fun map (key, tags) => map.enter key tags) {}

/-- Builds the module. Building again gives the same. -/
def build (file : FeatureFile) : Except Failure FeatureFile := do
  let (keywords, uri, root) ← file.plan
  let runnerModules := distinct (root.occurrences.filterMap (·.runner?))
  let tags := fileTags root.taggedTests
  return { file with
    keywords := some keywords
    tags, runnerModules
    undefined := undefinedSteps uri root.occurrences
    lines := Layout.header uri (imports file.settings runnerModules) ++ root.lines ++ "" ::
      Layout.tagsFixture tags.entries }

/-- The snippets for the steps without a handler. -/
def snippets (file : FeatureFile) : List String :=
  Snippet.buildAll (file.undefined.map fun undefined => (undefined.role, undefined.text))

end FeatureFile

end FeatureSuite

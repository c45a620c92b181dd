import FeatureSuite.Json.Shape

/-!
# Settings

What a run is told: where features are, where modules go, and how they are made.
-/

namespace FeatureSuite

open Json (Checked Fields readText readList readNullable)

structure Settings where
  featuresDir : String := "features"
  outputDir : String := ".features-gen"
  steps : List String := []
  /-- The module that every generated module imports its fixtures from. -/
  importFixturesFrom : Option String := none
  /-- How the rows of outlines are named unless a block says otherwise. -/
  examplesTitleFormat : String := "Example #<_index_>"
  /-- How many documents are compiled at a time. -/
  concurrency : Int := 4
  /-- Which files below the directory of features are none. -/
  ignoreGlobs : List String :=
    ["**/.git/**", "**/.venv/**", "**/node_modules/**", "**/.features-gen/**"]
  deriving DecidableEq, Repr

namespace Settings

/-- Reads settings from named values; what is not named has its default. -/
def read (fields : Fields) : Checked Settings :=
  let default : Settings := {}
  Settings.mk <$> fields.defaulted "features_dir" default.featuresDir readText
    <*> fields.defaulted "output_dir" default.outputDir readText
    <*> fields.defaulted "steps" default.steps (readList readText)
    <*> fields.defaulted "import_fixtures_from" default.importFixturesFrom (readNullable readText)
    <*> fields.defaulted "examples_title_format" default.examplesTitleFormat readText
    <*> fields.defaulted "concurrency" default.concurrency Json.readInt
    <*> fields.defaulted "ignore_globs" default.ignoreGlobs (readList readText)

/-- Settings as named values. -/
def dump (settings : Settings) : Json :=
  .object [("features_dir", .string settings.featuresDir),
    ("output_dir", .string settings.outputDir),
    ("steps", .ofTexts settings.steps),
    ("import_fixtures_from", (settings.importFixturesFrom.map Json.string).getD .null),
    ("examples_title_format", .string settings.examplesTitleFormat),
    ("concurrency", .int settings.concurrency), ("ignore_globs", .ofTexts settings.ignoreGlobs)]

end Settings

end FeatureSuite

import FeatureSuite.Gherkin.Wire
import FeatureSuite.Suite.Keyword
import FeatureSuite.Suite.Tags
import FeatureSuite.Text.Case
import FeatureSuite.Text.Quoted
import FeatureSuite.Text.Word

/-!
# Lines of generated modules

Suites are test classes, tests are methods, backgrounds are fixtures that every test of a class
uses. A unit is named after its title and its line, so names differ inside one file.
-/

namespace FeatureSuite.Layout

open Gherkin (PickleStepArgument)

def indentation : String := "    "

/-- Indents lines; empty ones stay empty. -/
def indent (lines : List String) : List String :=
  lines.map fun line => if line = "" then "" else indentation ++ line

/-- A title as a part of a name. -/
def slugify (title : String) : String :=
  let slug := Text.lower (Text.slugWords title)
  if slug = "" then "untitled" else slug

def markers (title : String) (flags : Flags) : List String :=
  let flagged := [(flags.only, "@pytest.mark.only"), (flags.skip, "@pytest.mark.skip"),
    (flags.fixme, "@pytest.mark.skip(reason=\"fixme\")"), (flags.slow, "@pytest.mark.slow"),
    (flags.serial, "@pytest.mark.serial")]
  s!"@pytest.mark.bdd_title({Text.quote title})" ::
    flagged.filterMap fun (on, line) => if on then some line else none

def suiteName (title : String) (line : Int) : String := s!"Test_{slugify title}_L{line}"

def testName (title : String) (line : Int) : String := s!"test_{slugify title}_L{line}"

/-- The name of the fixture for a background. -/
def hookName (line : Int) : String := s!"before_each_L{line}"

def classLine (name : String) : String := s!"class {name}:"

def methodLine (name : String) (parameters : List String) : String :=
  let parameters := ", ".intercalate ("self" :: parameters)
  s!"def {name}({parameters}):"

/-- The lines of a body; one that does nothing, if there are none. -/
def bodyOrPass (body : List String) : List String := if body.isEmpty then ["pass"] else body

/-- The lines in front of all suites. -/
def header (uri : String) (imports : List String) : List String :=
  let importLines :=
    if imports.isEmpty then []
    else "" :: imports.map fun name => s!"from {name} import *  # noqa: F401,F403"
  [s!"# Generated from: {uri}", "# Do not edit, regenerate with \x60featuregen gen\x60.",
    "import pytest"] ++ importLines ++ ["", ""]

/-- A test class. -/
def suite (title : String) (line : Int) (body : List String) (flags : Flags) : List String :=
  markers title flags ++ classLine (suiteName title line) :: indent (bodyOrPass body) ++ [""]

def test (title : String) (line : Int) (fixtures body : List String) (flags : Flags) :
    List String :=
  markers title flags ++ methodLine (testName title line) fixtures :: indent (bodyOrPass body) ++
    [""]

/-- A fixture for the steps of a background. -/
def hook (line : Int) (fixtures body : List String) : List String :=
  "@pytest.fixture(autouse=True)" :: methodLine (hookName line) fixtures ::
    indent (bodyOrPass body) ++ [""]

def step (keyword text : String) (argument : Option PickleStepArgument) (fixtures : List String) :
    String :=
  let arguments := match argument with
    | none => []
    | some argument => [s!"argument={argument.dump.render}"]
  let passed := fixtures.map fun name => s!"{name}={name}"
  let arguments := ", ".intercalate (Text.quote text :: arguments ++ passed)
  s!"{keyword}({arguments})"

/-- The line for a step without a handler. -/
def missingStep (keyword text : String) : String :=
  let message := s!"Missing step: {keyword} {text}"
  s!"pytest.fail({Text.quote message})"

/-- The map from tests to tags, and the fixture that looks it up. -/
def tagsFixture (entries : List (String × List String)) : List String :=
  let table :=
    if entries.isEmpty then ["BDD_TAGS = \x7b\x7d"]
    else
      "BDD_TAGS = \x7b" :: (entries.map fun (key, tags) =>
        let tags := ", ".intercalate (tags.map Text.quote)
        s!"{indentation}{Text.quote key}: [{tags}],") ++ ["\x7d"]
  table ++ ["", "", "@pytest.fixture", "def bdd_tags(request):",
    indentation ++
      "titles = [marker.args[0] for marker in request.node.iter_markers(\"bdd_title\")]",
    indentation ++
      s!"return BDD_TAGS.get({Text.quote keySeparator}.join(reversed(titles)), [])"]

end FeatureSuite.Layout

import FeatureSuite.Files.Utf8
import FeatureSuite.Gherkin.Parser
import FeatureSuite.Text.Quoted

/-!
# Faults of documents

Why a feature document cannot be compiled. A step without a handler is no fault.
-/

namespace FeatureSuite

/-- Why a document cannot be compiled. -/
inductive DocumentFault where
  | unreadable (uri : String) (fault : Utf8.Fault)
  | unparsable (uri : String) (faults : List Gherkin.ParseFault)
  | noUri
  | noFeature (uri : String)
  /-- A part of a rule or else of a feature that holds nothing. -/
  | emptyChild (uri : String) (inRule : Bool)
  | fixtureTag (tag : String) (uri : String) (line : Option Int) (fixture : String)
  /-- No test runs the step. -/
  | noPickleStep (text id : String)
  | unknownLanguage (language : String)
  | unknownKeyword (keyword language : String)
  /-- A page object step with no or several candidate fixtures. -/
  | pageFixture (text uri : String) (line : Int) (candidates suggestedTags : List String)
  deriving DecidableEq

/-- A part that holds nothing, as messages show it. -/
def emptyChildText (inRule : Bool) : String :=
  if inRule then "RuleChild(background=None, scenario=None)"
  else "FeatureChild(rule=None, background=None, scenario=None)"

def placeText (uri : String) (line : Int) : String := if line = 0 then uri else s!"{uri}:{line}"

/-- Why a document cannot be compiled, in words. -/
def DocumentFault.message : DocumentFault → String
  | unreadable uri fault => s!"Cannot read {uri}: {fault.message}"
  | unparsable uri faults => s!"Cannot parse {uri}: {Gherkin.faultsText faults}"
  | noUri => "Document without uri"
  | noFeature uri => s!"Document without feature: {uri}"
  | emptyChild uri inRule => s!"Empty child in {uri}: {emptyChildText inRule}"
  | fixtureTag tag uri line fixture =>
      let place := match line with
        | some line => s!"{uri}:{line}"
        | none => uri
      s!"Invalid fixture tag {tag} in {place}: {Text.literal fixture} is not an identifier"
  | noPickleStep text _ => s!"Pickle step not found for step: {text}"
  | unknownLanguage language => s!"Unsupported feature language: {language}"
  | unknownKeyword keyword language => s!"Keyword not found: {keyword} (language: {language})"
  | pageFixture text uri line _ suggestedTags =>
      let advice :=
        if suggestedTags.isEmpty then
          " No page object with a fixture name can run it, refactor your Page Object classes."
        else
          let tags := ", ".intercalate suggestedTags
          s!" Please set one of the following tags ({tags}) or refactor your Page Object classes."
      s!"Can't guess fixture for decorator step \"{text}\" in file: {placeText uri line}." ++ advice

end FeatureSuite

import FeatureSuite.Proofs.Outcome
import FeatureSuite.Suite.FeatureFile

/-!
# Sites of a document

Every hook and every test of a module is generated for one place of the document, its site: a
background, a scenario or a row of an outline. The sites of a feature are listed depth first in
document order, and a plan holds exactly one unit for each of them, in this order.
-/

namespace FeatureSuite

open Gherkin (Background Feature FeatureChild Rule RuleChild Scenario Step Tag)

/-- What a hook or a test is generated for. -/
inductive Origin where
  | background (background : Background)
  | scenario (scenario : Scenario)
  | row (outline : Scenario) (entry : ExampleRow)

namespace Origin

def steps : Origin → List Step
  | background unit => unit.steps
  | scenario unit => unit.steps
  | row outline _ => outline.steps

/-- The identifier of the row that is filled into the steps. -/
def row? : Origin → Option String
  | row _ entry => some entry.row.id
  | _ => none

/-- The tags that stand in front of it. -/
def ownTags : Origin → List Tag
  | background _ => []
  | scenario unit => unit.tags
  | row _ entry => entry.block.tags

/-- Whether it is run as a test. -/
def isTest : Origin → Bool
  | background _ => false
  | _ => true

/-- The identifiers by which pickles refer to it. -/
def nodeIds : Origin → List String
  | background _ => []
  | scenario unit => [unit.id]
  | row outline entry => [outline.id, entry.row.id]

end Origin

/-- A place that a hook or a test is generated for, with the units around it and their backgrounds,
outermost first. -/
structure Site where
  around : List Ancestor
  backgrounds : List Background
  origin : Origin

namespace Site

def tags (site : Site) : List String := visibleTags site.around (tagNames site.origin.ownTags)

/-- The hook or the test for a site. -/
def unit (site : Site) (body : Body) : SuiteUnit :=
  match site.origin with
  | .background background => .hook background.location.line body
  | .scenario scenario =>
      .test scenario.name scenario.location.line (.ofTags scenario.tags)
        (testKey site.around scenario.name) site.tags body
  | .row _ entry =>
      .test entry.title entry.row.location.line (.ofTags entry.block.tags)
        (testKey site.around entry.title) site.tags body

end Site

/-! ## The walk through a document -/

section

variable (rows : Scenario → List ExampleRow) (around : List Ancestor)
  (backgrounds : List Background)

def scenarioSites (scenario : Scenario) : List Site :=
  if scenario.isOutline then
    (rows scenario).map fun entry =>
      ⟨around ++ [Planner.scenarioAncestor scenario], backgrounds, .row scenario entry⟩
  else [⟨around, backgrounds, .scenario scenario⟩]

def partSites (background : Option Background) (scenario : Option Scenario) : List Site :=
  match background, scenario with
  | some background, _ => [⟨around, backgrounds, .background background⟩]
  | none, some scenario => scenarioSites rows around backgrounds scenario
  | none, none => []

def ruleSites (rule : Rule) : List Site :=
  rule.children.flatMap fun child =>
    partSites rows (around ++ [⟨rule.name, tagNames rule.tags⟩])
      (backgrounds ++ rule.children.filterMap (·.background)) child.background child.scenario

def featurePartSites (child : FeatureChild) : List Site :=
  match child.rule with
  | some rule => ruleSites rows around backgrounds rule
  | none => partSites rows around backgrounds child.background child.scenario

end

def Gherkin.FeatureChild.hook? (child : FeatureChild) : Option Background :=
  match child.rule with
  | some _ => none
  | none => child.background

def featureSites (rows : Scenario → List ExampleRow) (feature : Feature) : List Site :=
  feature.children.flatMap <|
    featurePartSites rows [⟨feature.name, tagNames feature.tags⟩]
      (feature.children.filterMap FeatureChild.hook?)

/-! ## The walk through a plan -/

/-- A hook or a test of a plan with the titles and the hooks of the suites around it, outermost
first. -/
structure Placed where
  titles : List String
  hooks : List Body
  unit : SuiteUnit

namespace SuiteUnit

def hook? : SuiteUnit → Option Body
  | hook _ body => some body
  | _ => none

/-- The steps of a hook or a test. A suite has none of its own. -/
def body : SuiteUnit → Body
  | hook _ body | test _ _ _ _ _ body => body
  | suite .. => ⟨[], [], []⟩

def isTest : SuiteUnit → Bool
  | test .. => true
  | _ => false

mutual

/-- The hooks and the tests of a unit in the order of the module, given what is around the unit. -/
def placed (titles : List String) (hooks : List Body) : SuiteUnit → List Placed
  | hook line body => [⟨titles, hooks, hook line body⟩]
  | test title line flags key tags body => [⟨titles, hooks, test title line flags key tags body⟩]
  | suite title _ _ units => placedAll (titles ++ [title]) (hooks ++ units.filterMap hook?) units

def placedAll (titles : List String) (hooks : List Body) : List SuiteUnit → List Placed
  | [] => []
  | unit :: rest => unit.placed titles hooks ++ placedAll titles hooks rest

end

/-- The tests of a plan in the order of the module. -/
def tests (root : SuiteUnit) : List Placed := (root.placed [] []).filter (·.unit.isTest)

end SuiteUnit

end FeatureSuite

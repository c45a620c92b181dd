import FeatureSuite.Page.Used
import FeatureSuite.Suite.FixtureSet
import FeatureSuite.Suite.Layout

/-!
# Filling page object steps

A step of a page object does not say which fixture runs it. That is known when all steps and tags of
a test are known: steps are prepared first, those of page objects as holes, and the holes are filled
afterwards.
-/

namespace FeatureSuite

open Gherkin (PickleStepArgument)

/-- A step that is ready to be written, or a hole. -/
structure PreparedStep where
  keyword : String
  text : String
  argument : Option PickleStepArgument := none
  /-- The line of the step in the document. -/
  line : Int
  /-- The line that is written, if it is known. -/
  code : Option String := none
  /-- The page object that the step is attached to. -/
  page : Option Nat := none
  deriving DecidableEq, Repr

namespace PreparedStep

def hole? (step : PreparedStep) : Option Nat := if step.code.isNone then step.page else none

/-- The page objects that a test uses: those of its holes, of its fixtures and of its tags. -/
def usedPages (steps : List PreparedStep) (fixtures tags : List String) (graph : PageGraph) :
    UsedPages :=
  let used := (steps.filterMap hole?).foldl (fun used page => used.use page false) {}
  let used := fixtures.foldl (fun used fixture => used.useFixture graph fixture false) used
  tags.foldl (fun used tag => used.useTag graph tag) used

/-- The fixture that runs a hole. -/
def winner (step : PreparedStep) (used : UsedPages) (graph : PageGraph) (uri : String)
    (page : Nat) : Except DocumentFault String :=
  match used.candidateFixtures graph page with
  | [fixture] => .ok fixture
  | candidates =>
      let reachable :=
        if candidates.isEmpty then graph.reachableFixtures page else candidates
      .error (.pageFixture step.text uri step.line candidates (reachable.map fixtureTag))

/-- The lines of steps, and the fixtures with those that run holes. -/
def fillAll (used : UsedPages) (graph : PageGraph) (uri : String) :
    FixtureSet → List PreparedStep → Except DocumentFault (List String × FixtureSet)
  | fixtures, [] => .ok ([], fixtures)
  | fixtures, step :: rest =>
      match step.hole? with
      | none => do
          let (lines, fixtures) ← fillAll used graph uri fixtures rest
          return (step.code.getD "" :: lines, fixtures)
      | some page => do
          let fixture ← step.winner used graph uri page
          let (lines, fixtures) ← fillAll used graph uri (fixtures.add fixture) rest
          return (Layout.step step.keyword step.text step.argument [fixture] :: lines, fixtures)

/-- Fills the holes of a test. -/
def fill (steps : List PreparedStep) (fixtures : FixtureSet) (tags : List String)
    (graph : PageGraph) (uri : String) : Except DocumentFault (List String × FixtureSet) :=
  fillAll (usedPages steps fixtures.names tags graph) graph uri fixtures steps

end PreparedStep

end FeatureSuite

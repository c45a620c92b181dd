import FeatureSuite.Gherkin.Line

/-!
# The grammar of feature files

The grammar as an automaton over lines. A spot says what was read last; its arcs say which kinds of
lines may follow, in the order in which a line is tried as them, and where each leads. Tag lines
lead to different spots depending on the title line that follows the tags, so their arcs look ahead.
-/

namespace FeatureSuite.Gherkin

/-- Whose steps are being read. -/
inductive StepOwner where
  | background
  | scenario
  deriving DecidableEq, Repr

/-- What has been read of a step: its line, then a table and a text block in either order. -/
inductive StepPart where
  | line
  | table
  | tableDoc
  | tableDocClosed
  | doc
  | docClosed
  | docTable
  deriving DecidableEq, Repr

/-- What a title line opens. -/
inductive Unit where
  | feature
  | rule
  | background
  | scenario
  | examples
  deriving DecidableEq, Repr

/-- What was read last. Inside a rule the parts of the rule are apart from those of the feature. -/
inductive Spot where
  /-- Nothing but blank lines and comments. -/
  | start
  | language
  | featureTags
  | ruleTags
  | scenarioTags (inRule : Bool)
  | examplesTags (inRule : Bool)
  /-- A title line. -/
  | title (unit : Unit) (inRule : Bool)
  /-- A line of the description below a title. -/
  | description (unit : Unit) (inRule : Bool)
  | step (owner : StepOwner) (part : StepPart) (inRule : Bool)
  | examplesTable (inRule : Bool)
  | finished
  deriving DecidableEq, Repr

/-- The title line that has to follow the tags for an arc to be taken. -/
inductive Lookahead where
  | any
  | scenario
  | examples
  deriving DecidableEq, Repr

/-- A kind of line that may follow, and the spot behind it. -/
structure Arc where
  kind : LineKind
  target : Spot
  ahead : Lookahead := .any

/-- The arcs to the units that may follow a finished background, scenario or title. -/
def unitArcs (inRule withExamples : Bool) : List Arc :=
  (if withExamples then [⟨.tags, .examplesTags inRule, .examples⟩] else []) ++
    [⟨.tags, .scenarioTags inRule, .scenario⟩, ⟨.tags, .ruleTags, .any⟩] ++
    (if withExamples then [⟨.examples, .title .examples inRule, .any⟩] else []) ++
    [⟨.scenario, .title .scenario inRule, .any⟩, ⟨.rule, .title .rule true, .any⟩]

/-- The arcs to what a unit consists of besides its description, and to the units behind it. -/
def bodyArcs (unit : Unit) (inRule : Bool) : List Arc :=
  match unit with
  | .feature | .rule =>
      ⟨.background, .title .background inRule, .any⟩ :: unitArcs inRule false
  | .background => ⟨.step, .step .background .line inRule, .any⟩ :: unitArcs inRule false
  | .scenario => ⟨.step, .step .scenario .line inRule, .any⟩ :: unitArcs inRule true
  | .examples => ⟨.tableRow, .examplesTable inRule, .any⟩ :: unitArcs inRule true

/-- The arcs that stay at a spot over comments and blank lines. -/
def idleArcs (spot : Spot) : List Arc := [⟨.comment, spot, .any⟩, ⟨.empty, spot, .any⟩]

def tagArcs (spot : Spot) (line : LineKind) (title : Spot) : List Arc :=
  [⟨.tags, spot, .any⟩, ⟨line, title, .any⟩] ++ idleArcs spot

def stepArcs (owner : StepOwner) (part : StepPart) (inRule : Bool) (more : List Arc) : List Arc :=
  [⟨.endOfFile, .finished, .any⟩] ++ more ++ [⟨.step, .step owner .line inRule, .any⟩] ++
    unitArcs inRule (owner = .scenario) ++ idleArcs (.step owner part inRule)

/-- The arcs of a spot, in the order in which a line is tried as their kinds. -/
def Spot.arcs : Spot → List Arc
  | .start =>
      [⟨.endOfFile, .finished, .any⟩, ⟨.language, .language, .any⟩, ⟨.tags, .featureTags, .any⟩,
        ⟨.feature, .title .feature false, .any⟩] ++ idleArcs .start
  | .language =>
      [⟨.tags, .featureTags, .any⟩, ⟨.feature, .title .feature false, .any⟩] ++ idleArcs .language
  | .featureTags => tagArcs .featureTags .feature (.title .feature false)
  | .ruleTags => tagArcs .ruleTags .rule (.title .rule true)
  | .scenarioTags inRule => tagArcs (.scenarioTags inRule) .scenario (.title .scenario inRule)
  | .examplesTags inRule => tagArcs (.examplesTags inRule) .examples (.title .examples inRule)
  | .title unit inRule =>
      [⟨.endOfFile, .finished, .any⟩, ⟨.empty, .title unit inRule, .any⟩,
        ⟨.comment, .description unit inRule, .any⟩] ++ bodyArcs unit inRule ++
        [⟨.other, .description unit inRule, .any⟩]
  | .description unit inRule =>
      [⟨.endOfFile, .finished, .any⟩, ⟨.comment, .description unit inRule, .any⟩] ++
        bodyArcs unit inRule ++ [⟨.other, .description unit inRule, .any⟩]
  | .step owner .line inRule =>
      stepArcs owner .line inRule
        [⟨.tableRow, .step owner .table inRule, .any⟩,
          ⟨.docDelimiter, .step owner .doc inRule, .any⟩]
  | .step owner .table inRule =>
      stepArcs owner .table inRule
        [⟨.tableRow, .step owner .table inRule, .any⟩,
          ⟨.docDelimiter, .step owner .tableDoc inRule, .any⟩]
  | .step owner .docClosed inRule =>
      stepArcs owner .docClosed inRule [⟨.tableRow, .step owner .docTable inRule, .any⟩]
  | .step owner .docTable inRule =>
      stepArcs owner .docTable inRule [⟨.tableRow, .step owner .docTable inRule, .any⟩]
  | .step owner .tableDocClosed inRule => stepArcs owner .tableDocClosed inRule []
  | .step owner .doc inRule =>
      [⟨.docDelimiter, .step owner .docClosed inRule, .any⟩,
        ⟨.other, .step owner .doc inRule, .any⟩]
  | .step owner .tableDoc inRule =>
      [⟨.docDelimiter, .step owner .tableDocClosed inRule, .any⟩,
        ⟨.other, .step owner .tableDoc inRule, .any⟩]
  | .examplesTable inRule =>
      [⟨.endOfFile, .finished, .any⟩, ⟨.tableRow, .examplesTable inRule, .any⟩] ++
        unitArcs inRule true ++ idleArcs (.examplesTable inRule)
  | .finished => []

def Spot.expected (spot : Spot) : List LineKind :=
  (spot.arcs.map (·.kind)).foldl
    (fun kinds kind => if kind ∈ kinds then kinds else kinds ++ [kind]) []

/-- Whether the rows of a table are being read. -/
def Spot.isTable : Spot → Bool
  | .step _ .table _ | .step _ .docTable _ | .examplesTable _ => true
  | _ => false

/-- Whether the lines of a text block are being read. -/
def Spot.isDoc : Spot → Bool
  | .step _ .doc _ | .step _ .tableDoc _ => true
  | _ => false

end FeatureSuite.Gherkin

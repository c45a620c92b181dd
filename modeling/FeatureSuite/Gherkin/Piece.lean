import FeatureSuite.Gherkin.Line

/-!
# Pieces of a feature file

The lines of a well-formed feature file as a flat list of pieces, and the document that the pieces
make up. A title piece opens a unit, which reaches to the next title that is no part of it.
-/

namespace FeatureSuite.Gherkin

/-- A title line with the tags in front of it. -/
structure Title where
  location : Location
  keyword : String
  name : String
  tags : List Tag

/-- A line that has a part in the document. -/
inductive Piece where
  | feature (language : String) (title : Title)
  | rule (title : Title)
  | background (title : Title)
  | scenario (title : Title)
  | examples (title : Title)
  | description (text : String)
  | step (location : Location) (keyword : String) (type : StepType) (text : String)
  | row (location : Location) (cells : List TableCell)
  | docStart (location : Location) (delimiter mediaType : String)
  | docLine (text : String)

/-- Cuts a list in front of every head: what stands before the first one, then each head with what
follows it. -/
def sections {α β : Type} (head? : α → Option β) : List α → List α × List (β × List α)
  | [] => ([], [])
  | a :: rest =>
      let (lead, groups) := sections head? rest
      match head? a with
      | some head => ([], (head, lead) :: groups)
      | none => (a :: lead, groups)

namespace Piece

def rule? : Piece → Option Title
  | .rule title => some title
  | _ => none

def examples? : Piece → Option Title
  | .examples title => some title
  | _ => none

def unit? : Piece → Option (Bool × Title)
  | .background title => some (true, title)
  | .scenario title => some (false, title)
  | _ => none

def step? : Piece → Option (Location × String × StepType × String)
  | .step location keyword type text => some (location, keyword, type, text)
  | _ => none

/-- The lines of the description among pieces, without blank ones at the end. -/
def descriptionOf (pieces : List Piece) : String :=
  let texts := pieces.filterMap fun
    | .description text => some text
    | _ => none
  let kept := (texts.reverse.dropWhile fun text => text.toList.all Text.isBlank).reverse
  "\n".intercalate kept

def rowsOf (pieces : List Piece) : List TableRow :=
  pieces.filterMap fun
    | .row location cells => some ⟨"", location, cells⟩
    | _ => none

/-- The table that the rows among pieces make up. -/
def tableOf (pieces : List Piece) : Option DataTable :=
  match rowsOf pieces with
  | [] => none
  | first :: rest => some ⟨some first.location, first :: rest⟩

/-- The text block among pieces. -/
def docOf (pieces : List Piece) : Option DocString :=
  let content := pieces.filterMap fun
    | .docLine text => some text
    | _ => none
  pieces.findSome? fun
    | .docStart location delimiter mediaType =>
        some ⟨"\n".intercalate content, some location, delimiter,
          if mediaType = "" then none else some mediaType⟩
    | _ => none

def stepsOf (groups : List ((Location × String × StepType × String) × List Piece)) : List Step :=
  groups.map fun ((location, keyword, type, text), body) =>
    ⟨"", location, keyword, text, some type.label, docOf body, tableOf body⟩

def examplesOf (title : Title) (body : List Piece) : Examples :=
  let rows := rowsOf body
  ⟨"", title.location, title.keyword, title.name, descriptionOf body, title.tags, rows.head?,
    rows.drop 1⟩

def backgroundOf (title : Title) (body : List Piece) : Background :=
  let (lead, steps) := sections step? body
  ⟨"", title.location, title.keyword, title.name, descriptionOf lead, stepsOf steps⟩

def scenarioOf (title : Title) (body : List Piece) : Scenario :=
  let (front, blocks) := sections examples? body
  let (lead, steps) := sections step? front
  ⟨"", title.location, title.keyword, title.name, descriptionOf lead, title.tags, stepsOf steps,
    blocks.map fun (title, body) => examplesOf title body⟩

def ruleChildOf (isBackground : Bool) (title : Title) (body : List Piece) : RuleChild :=
  if isBackground then { background := some (backgroundOf title body) }
  else { scenario := some (scenarioOf title body) }

/-- A part of a feature that is no rule. -/
def featureChildOf (isBackground : Bool) (title : Title) (body : List Piece) : FeatureChild :=
  if isBackground then { background := some (backgroundOf title body) }
  else { scenario := some (scenarioOf title body) }

def ruleOf (title : Title) (body : List Piece) : Rule :=
  let (lead, units) := sections unit? body
  ⟨"", title.location, title.keyword, title.name, descriptionOf lead, title.tags,
    units.map fun ((isBackground, title), body) => ruleChildOf isBackground title body⟩

def featureOf (language : String) (title : Title) (body : List Piece) : Feature :=
  let (front, rules) := sections rule? body
  let (lead, units) := sections unit? front
  ⟨title.location, language, title.keyword, title.name, descriptionOf lead, title.tags,
    (units.map fun ((isBackground, title), body) => featureChildOf isBackground title body) ++
      rules.map fun (title, body) => { rule := some (ruleOf title body) }⟩

/-- The feature that pieces make up, its nodes not numbered yet. -/
def assemble : List Piece → Option Feature
  | .feature language title :: body => some (featureOf language title body)
  | _ => none

end Piece

end FeatureSuite.Gherkin

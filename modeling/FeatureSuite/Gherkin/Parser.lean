import FeatureSuite.Gherkin.Grammar
import FeatureSuite.Gherkin.Numbering
import FeatureSuite.Gherkin.Piece

/-!
# Parsing feature files

Every line is tried as the kinds that the grammar expects where it stands. A line that is none of
them is a fault, and reading goes on at the same spot; after the eleventh fault reading stops. A
text without faults is a document.
-/

namespace FeatureSuite.Gherkin

/-- What is wrong with a feature file. -/
inductive FaultCause where
  | unexpectedLine (expected : List LineKind) (line : String)
  | unexpectedEnd (expected : List LineKind)
  | tagWithBlank
  | unknownLanguage (name : String)
  | unevenTable
  deriving DecidableEq

/-- What is wrong, and where. -/
structure ParseFault where
  line : Int
  column : Int
  cause : FaultCause
  deriving DecidableEq

/-- The names of the kinds of lines that were expected. -/
def expectedText (kinds : List LineKind) : String := ", ".intercalate (kinds.map LineKind.label)

def FaultCause.message : FaultCause → String
  | .unexpectedLine expected line => s!"expected: {expectedText expected}, got '{line}'"
  | .unexpectedEnd expected => s!"unexpected end of file, expected: {expectedText expected}"
  | .tagWithBlank => "A tag may not contain whitespace"
  | .unknownLanguage name => s!"Language not supported: {name}"
  | .unevenTable => "inconsistent cell count within the table"

/-- A fault with its place, in words. -/
def ParseFault.message (fault : ParseFault) : String :=
  s!"({fault.line}:{fault.column}): {fault.cause.message}"

/-- How far the reading of a feature file has come. Pieces, comments and faults are listed
backwards. -/
structure Progress where
  spot : Spot := .start
  mode : ReadingMode
  tags : List Tag := []
  /-- The number of cells of the open table and the first row with another number. -/
  table : Option (Nat × Option Location) := none
  pieces : List Piece := []
  comments : List Comment := []
  faults : List ParseFault := []

namespace Progress

/-- Reading stops when there are more faults than this. -/
def faultLimit : Nat := 10

/-- Whether there are too many faults to go on. -/
def stopped (progress : Progress) : Bool := progress.faults.length > faultLimit

/-- Notes a fault, unless it is known already or reading has stopped. -/
def note (progress : Progress) (fault : ParseFault) : Progress :=
  if progress.stopped || progress.faults.any (·.message == fault.message) then progress
  else { progress with faults := fault :: progress.faults }

/-- Notes why a line could not be read as a kind. -/
def noteLine (progress : Progress) (line : Line) : LineFault → Progress
  | .tagWithBlank column => progress.note ⟨line.number, column, .tagWithBlank⟩
  | .unknownLanguage name =>
      progress.note ⟨line.number, line.indent + 1, .unknownLanguage name⟩

def read (progress : Progress) (line : Line) (kind : LineKind) : Progress × Option Token :=
  match line.read progress.mode kind with
  | .ok token => (progress, token)
  | .error fault => (progress.noteLine line fault, none)

/-- Whether the first line that is neither blank nor comment nor tags is a title of the given
kind. -/
def looksAhead (target : LineKind) : Progress → List Line → Progress × Bool
  | progress, [] => (progress, false)
  | progress, line :: rest =>
      let (progress, title) := progress.read line target
      if title.isSome then (progress, true)
      else
        let (progress, empty) := progress.read line .empty
        let (progress, comment) := progress.read line .comment
        if empty.isSome || comment.isSome then looksAhead target progress rest
        else
          let (progress, tags) := progress.read line .tags
          if tags.isSome then looksAhead target progress rest else (progress, false)

/-- Whether the lines that follow allow an arc. -/
def allows (progress : Progress) (rest : List Line) : Lookahead → Progress × Bool
  | .any => (progress, true)
  | .scenario => looksAhead .scenario progress rest
  | .examples => looksAhead .examples progress rest

/-- The first arc that a line can take, and what the line holds. -/
def choose (line : Line) (rest : List Line) : Progress → List Arc → Progress × Option (Arc × Token)
  | progress, [] => (progress, none)
  | progress, arc :: arcs =>
      match progress.read line arc.kind with
      | (progress, none) => choose line rest progress arcs
      | (progress, some token) =>
          match progress.allows rest arc.ahead with
          | (progress, true) => (progress, some (arc, token))
          | (progress, false) => choose line rest progress arcs

/-- Ends the open table, if the next spot is not in it, and notes the first uneven row. -/
def closeTable (progress : Progress) (target : Spot) : Progress :=
  if progress.spot.isTable && target = progress.spot then progress
  else
    let closed := { progress with table := none }
    match progress.table with
    | some (_, some place) => closed.note ⟨place.line, place.column.getD 0, .unevenTable⟩
    | _ => closed

/-- Counts the cells of a row of the open table. -/
def countCells (progress : Progress) (place : Location) (cells : Nat) : Progress :=
  match progress.table with
  | none => { progress with table := some (cells, none) }
  | some (count, uneven) =>
      let uneven := if uneven.isNone && cells ≠ count then some place else uneven
      { progress with table := some (count, uneven) }

def add (progress : Progress) (piece : Piece) : Progress :=
  { progress with pieces := piece :: progress.pieces }

def addTitle (progress : Progress) (make : Title → Piece) (line : Line) (keyword name : String) :
    Progress :=
  { progress with
    pieces := make ⟨line.start, keyword, name, progress.tags⟩ :: progress.pieces
    tags := [] }

/-- Takes over what a line holds. -/
def take (progress : Progress) (line : Line) (kind : LineKind) (token : Token) : Progress :=
  match kind, token with
  | .language, .language name =>
      match Dialect.find? name with
      | some dialect => { progress with mode := { progress.mode with dialect } }
      | none => progress
  | .tags, .tags tags => { progress with tags := progress.tags ++ tags }
  | .feature, .title keyword name =>
      progress.addTitle (.feature progress.mode.dialect.name) line keyword name
  | .rule, .title keyword name => progress.addTitle .rule line keyword name
  | .background, .title keyword name => progress.addTitle .background line keyword name
  | .scenario, .title keyword name => progress.addTitle .scenario line keyword name
  | .examples, .title keyword name => progress.addTitle .examples line keyword name
  | .step, .step keyword type text => progress.add (.step line.start keyword type text)
  | .tableRow, .cells cells =>
      (progress.countCells line.start cells.length).add (.row line.start cells)
  | .docDelimiter, .docDelimiter delimiter mediaType =>
      match progress.mode.doc with
      | none =>
          { progress.add (.docStart line.start delimiter mediaType) with
            mode := { progress.mode with doc := some ⟨delimiter, line.indent⟩ } }
      | some _ => { progress with mode := { progress.mode with doc := none } }
  | .comment, .text content =>
      { progress with comments := ⟨line.origin, content⟩ :: progress.comments }
  | .other, .text content =>
      progress.add (if progress.spot.isDoc then .docLine content else .description content)
  | _, _ => progress

/-- Reads one line, knowing the lines that follow. -/
def step (progress : Progress) (line : Line) (rest : List Line) : Progress :=
  if progress.stopped then progress
  else
    match choose line rest progress progress.spot.arcs with
    | (progress, some (arc, token)) =>
        { (progress.closeTable arc.target).take line arc.kind token with spot := arc.target }
    | (progress, none) =>
        progress.note ⟨line.number, line.indent + 1,
          .unexpectedLine progress.spot.expected (String.ofList (Text.trim line.trimmed))⟩

/-- Reads all lines. -/
def run : Progress → List Line → Progress
  | progress, [] => progress
  | progress, line :: rest => run (progress.step line rest) rest

/-- Reads the end of the file, which stands on a line of its own behind the last one. -/
def finish (progress : Progress) (lineCount : Nat) : Progress :=
  if progress.stopped then progress
  else if progress.spot.arcs.any (·.kind = .endOfFile) then
    { progress.closeTable .finished with spot := .finished }
  else progress.note ⟨lineCount + 1, 0, .unexpectedEnd progress.spot.expected⟩

end Progress

/-- The language of files that do not name one. -/
def defaultLanguage : String := "en"

/-- The document that a text holds, or its faults in the order in which they were met. -/
def parse (text : String) : Except (List ParseFault) Document :=
  match Dialect.find? defaultLanguage with
  | none => .error []
  | some dialect =>
      let lines := Line.ofText text
      let start : Progress := { mode := { dialect } }
      let final := (start.run lines).finish lines.length
      if final.faults.isEmpty then
        .ok { feature := (Piece.assemble final.pieces.reverse).map Feature.numbered
              comments := final.comments.reverse }
      else .error final.faults.reverse

def faultsText (faults : List ParseFault) : String :=
  "Parser errors:\n" ++ "\n".intercalate (faults.map ParseFault.message)

end FeatureSuite.Gherkin

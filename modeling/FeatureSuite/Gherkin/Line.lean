import FeatureSuite.Gherkin.Dialect.Words
import FeatureSuite.Gherkin.Document
import FeatureSuite.Text.Blank

/-!
# Lines of a feature file

A feature file is read line by line. What a line is depends on how it starts, on the words of the
language and on whether it stands inside a text block.
-/

namespace FeatureSuite.Gherkin

/-- A line with its number and, unless it is the last one, its line feed. -/
structure Line where
  number : Nat
  text : List Char

/-- The lines of a text, cut behind every line feed. -/
def Line.cut : Nat → List Char → List Char → List Line
  | _, [], [] => []
  | n, acc, [] => [⟨n, acc.reverse⟩]
  | n, acc, c :: rest =>
      if c = '\n' then ⟨n, (c :: acc).reverse⟩ :: cut (n + 1) [] rest else cut n (c :: acc) rest

/-- The lines of a text, numbered from 1. -/
def Line.ofText (text : String) : List Line := cut 1 [] text.toList

namespace Line

/-- The line without its leading blanks. -/
def trimmed (line : Line) : List Char := Text.trimStart line.text

/-- The number of leading blanks. -/
def indent (line : Line) : Nat := line.text.length - line.trimmed.length

/-- The place of the first character that is no blank. -/
def start (line : Line) : Location := ⟨line.number, some (line.indent + 1)⟩

/-- The place of the first character. -/
def origin (line : Line) : Location := ⟨line.number, some 1⟩

end Line

/-- The kinds of lines that the grammar tells apart. -/
inductive LineKind where
  | endOfFile
  | language
  | tags
  | feature
  | rule
  | background
  | scenario
  | examples
  | step
  | tableRow
  | docDelimiter
  | comment
  | empty
  | other
  deriving DecidableEq, Repr

/-- The name of a kind in messages. -/
def LineKind.label : LineKind → String
  | endOfFile => "#EOF"
  | language => "#Language"
  | tags => "#TagLine"
  | feature => "#FeatureLine"
  | rule => "#RuleLine"
  | background => "#BackgroundLine"
  | scenario => "#ScenarioLine"
  | examples => "#ExamplesLine"
  | step => "#StepLine"
  | tableRow => "#TableRow"
  | docDelimiter => "#DocStringSeparator"
  | comment => "#Comment"
  | empty => "#Empty"
  | other => "#Other"

/-- The text block that is open: its delimiter, and the indent that its lines lose. -/
structure OpenDoc where
  delimiter : String
  indent : Nat

structure ReadingMode where
  dialect : Dialect
  doc : Option OpenDoc := none

/-- What a line of a known kind holds. -/
inductive Token where
  | endOfFile
  | language (name : String)
  | tags (tags : List Tag)
  | title (keyword name : String)
  | step (keyword : String) (type : StepType) (text : String)
  | cells (cells : List TableCell)
  | docDelimiter (delimiter mediaType : String)
  | text (content : String)
  | blank

/-! ## Leaves -/

/-- The rest of a line behind a title word and its colon. -/
def afterTitle? (word : String) (trimmed : List Char) : Option (List Char) :=
  Text.afterStart? (word.toList ++ [':']) trimmed

def title? (words : List String) (line : Line) : Option Token :=
  words.findSome? fun word =>
    (afterTitle? word line.trimmed).map fun rest =>
      .title word (String.ofList (Text.trim rest))

/-- The first of the step words that a line starts with, and the text of the step. -/
def step? (dialect : Dialect) (line : Line) : Option Token :=
  dialect.stepWords.findSome? fun word =>
    (Text.afterStart? word.toList line.trimmed).map fun rest =>
      .step word (dialect.stepType word) (String.ofList (Text.trim rest))

def isLanguageLetter (c : Char) : Bool := c.isAlpha || c = '-' || c = '_'

def languageCode? (trimmed : List Char) : Option String := do
  let rest ← Text.afterStart? ['#'] trimmed
  let rest ← Text.afterStart? "language".toList (Text.trimStart rest)
  let rest ← Text.afterStart? [':'] (Text.trimStart rest)
  let code := Text.trimStart rest
  let letters := code.takeWhile isLanguageLetter
  if letters.isEmpty || !(code.dropWhile isLanguageLetter).all Text.isBlank then none
  else some (String.ofList letters)

def dropLineEnd (cs : List Char) : List Char :=
  Text.dropEndWhile (fun c => c = '\r' || c = '\n') cs

/-- The part of a tag line in front of a comment, which starts with a blank and a number sign. -/
def beforeTagComment : List Char → List Char
  | [] => []
  | [c] => [c]
  | c :: d :: rest =>
      if Text.isBlank c && d = '#' then [] else c :: beforeTagComment (d :: rest)

/-- The tags of pieces that each follow an at sign, or the column of the first that holds a blank.
-/
def tagsOfPieces (line : Nat) : Nat → List (List Char) → Except Nat (List Tag)
  | _, [] => .ok []
  | column, piece :: rest =>
      let name := '@' :: Text.trimEnd piece
      if name.any Text.isBlank then .error column
      else do
        let more ← tagsOfPieces line (column + piece.length + 1) rest
        .ok (⟨String.ofList name, "", some ⟨line, some column⟩⟩ :: more)

/-- The tags of a line that starts with an at sign, or the column of a tag that holds a blank. -/
def tagsOfLine (line : Line) : Except Nat (List Tag) :=
  let content := Text.trim (beforeTagComment (Text.trimEnd line.trimmed))
  tagsOfPieces line.number (line.indent + 1) ((Text.splitOnChar '@' content).drop 1)

/-- The cells of a row, each with the offset of its first character. An escaped separator is part of
the cell; what stands in front of the first separator and behind the last is dropped. -/
def cutCells : (opened : Bool) → (offset start : Nat) → (cell : List Char) → List Char →
    List (List Char × Nat)
  | _, _, _, _, [] => []
  | opened, offset, start, cell, '|' :: rest =>
      let more := cutCells true (offset + 1) (offset + 1) [] rest
      if opened then (cell.reverse, start) :: more else more
  | opened, offset, start, cell, '\\' :: c :: rest =>
      let cell := match c with
        | 'n' => '\n' :: cell
        | '|' => '|' :: cell
        | '\\' => '\\' :: cell
        | c => c :: '\\' :: cell
      cutCells opened (offset + 2) start cell rest
  | opened, offset, start, cell, c :: rest => cutCells opened (offset + 1) start (c :: cell) rest

/-- Drops blanks other than line feeds from the end of a cell, also in front of a last line feed. -/
def trimCellEnd (cs : List Char) : List Char :=
  match cs.getLast? with
  | some '\n' => Text.dropEndWhile Text.isInlineBlank cs.dropLast ++ ['\n']
  | _ => Text.dropEndWhile Text.isInlineBlank cs

def cellsOfLine (line : Line) : List TableCell :=
  (cutCells false 0 0 [] (Text.trimEnd line.trimmed)).map fun (cell, start) =>
    let kept := cell.dropWhile Text.isInlineBlank
    let column := line.indent + start + (cell.length - kept.length) + 1
    ⟨String.ofList (trimCellEnd kept), some ⟨line.number, some column⟩⟩

/-- The line without the given indent, or without any blanks in front if it is indented less. -/
def Line.withoutIndent (line : Line) (indent : Nat) : List Char :=
  if line.indent < indent then line.trimmed else line.text.drop indent

/-- Replaces the escaped delimiter by the delimiter, where it first occurs or everywhere. -/
def unescapeDelimiter (escaped plain : List Char) : Nat → List Char → List Char
  | 0, cs => cs
  | _, [] => []
  | fuel + 1, c :: rest =>
      match Text.afterStart? escaped (c :: rest) with
      | some more => plain ++ unescapeDelimiter escaped plain fuel more
      | none => c :: unescapeDelimiter escaped plain fuel rest

/-- The delimiter as written inside a text block that it encloses. -/
def escapedDelimiter (delimiter : String) : List Char :=
  delimiter.toList.flatMap fun c => ['\\', c]

/-- The text of a line inside a text block or a description. -/
def plainText (doc : Option OpenDoc) (line : Line) : String :=
  match doc with
  | none => String.ofList (dropLineEnd line.text)
  | some doc =>
      let content := dropLineEnd (line.withoutIndent doc.indent)
      String.ofList
        (unescapeDelimiter (escapedDelimiter doc.delimiter) doc.delimiter.toList content.length
          content)

/-- The delimiters of text blocks. -/
def docDelimiters : List String := ["\"\"\"", "\x60\x60\x60"]

/-- The delimiter that a line starts with: any if no block is open, else the one that closes it. -/
def docDelimiter? (doc : Option OpenDoc) (line : Line) : Option Token :=
  match doc with
  | none =>
      docDelimiters.findSome? fun delimiter =>
        (Text.afterStart? delimiter.toList line.trimmed).map fun rest =>
          .docDelimiter delimiter (String.ofList (Text.trim rest))
  | some doc =>
      (Text.afterStart? doc.delimiter.toList line.trimmed).map fun _ =>
        .docDelimiter doc.delimiter ""

/-! ## Reading a line as a kind -/

/-- Why a line that looks like a kind is none. -/
inductive LineFault where
  | tagWithBlank (column : Nat)
  | unknownLanguage (name : String)

def Line.read (mode : ReadingMode) (line : Line) : LineKind → Except LineFault (Option Token)
  | .endOfFile => .ok none
  | .language =>
      match languageCode? line.trimmed with
      | none => .ok none
      | some name =>
          if (Dialect.find? name).isSome then .ok (some (.language name))
          else .error (.unknownLanguage name)
  | .tags =>
      if line.trimmed.head? = some '@' then
        match tagsOfLine line with
        | .ok tags => .ok (some (.tags tags))
        | .error column => .error (.tagWithBlank column)
      else .ok none
  | .feature => .ok (title? mode.dialect.feature line)
  | .rule => .ok (title? mode.dialect.rule line)
  | .background => .ok (title? mode.dialect.background line)
  | .scenario => .ok (title? (mode.dialect.scenario ++ mode.dialect.outline) line)
  | .examples => .ok (title? mode.dialect.examples line)
  | .step => .ok (step? mode.dialect line)
  | .tableRow =>
      .ok (if line.trimmed.head? = some '|' then some (.cells (cellsOfLine line)) else none)
  | .docDelimiter => .ok (docDelimiter? mode.doc line)
  | .comment =>
      .ok (if line.trimmed.head? = some '#' then
        some (.text (String.ofList (dropLineEnd line.text))) else none)
  | .empty => .ok (if line.trimmed.isEmpty then some .blank else none)
  | .other => .ok (some (.text (plainText mode.doc line)))

end FeatureSuite.Gherkin

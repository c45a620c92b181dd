import FeatureSuite.Text.Blank
import FeatureSuite.Text.Width

/-!
# Wrapped text

Text broken into lines that fit a number of cells, between words where that is possible.
-/

namespace FeatureSuite.Wrapping

/-- What becomes of a word that fits no line. -/
inductive Overflow where
  /-- It goes on on the next line. -/
  | fold
  /-- It is cut, with an ellipsis at the end. -/
  | ellipsis
  deriving DecidableEq, Repr

/-- Where the text of a line stands. -/
inductive Justification where
  /-- At the left, without blanks behind it. -/
  | ragged
  | left
  | center
  | right
  deriving DecidableEq, Repr

/-! ## Tabs -/

def tabDistance : Nat := 8

/-- Fills tabs with blanks up to the next stop. `done` is what stands in front, cut at tabs. -/
def expandTabsFrom (cells : Nat) (part : List Char) : List Char → List Char
  | [] => part.reverse
  | c :: rest =>
      if c = '\t' then
        let here := cells + Text.cellsOfChars part.reverse
        let next := (here / tabDistance + 1) * tabDistance
        part.reverse ++ List.replicate (next - here) ' ' ++ expandTabsFrom next [] rest
      else expandTabsFrom cells (c :: part) rest

/-- Fills tabs with blanks up to the next stop. -/
def expandTabs (cs : List Char) : List Char := expandTabsFrom 0 [] cs

/-! ## Breaks -/

/-- Words with the blanks behind them; the first one with those in front, too. `hasText` tells
whether the present word has begun, `gap` whether blanks are being read. -/
def wordsFrom (word : List Char) (hasText gap : Bool) : List Char → List (List Char)
  | [] => if hasText then [word.reverse] else []
  | c :: rest =>
      if Text.isBlank c then wordsFrom (c :: word) hasText true rest
      else if hasText && gap then word.reverse :: wordsFrom [c] true false rest
      else wordsFrom (c :: word) true false rest

/-- The words of a line with the blanks around them. A blank line has none. -/
def words (cs : List Char) : List (List Char) := wordsFrom [] false true cs

/-- Cuts a word into parts that fit. `part` is what is read of the present one, backwards, and
`used` the number of its cells. -/
def chopFrom (width used : Nat) (part : List Char) : List Char → List (List Char)
  | [] => [part.reverse]
  | c :: rest =>
      let n := Text.cellsOfChar c
      if used + n > width then part.reverse :: chopFrom width n [c] rest
      else chopFrom width (used + n) (c :: part) rest

/-- Cuts a word into parts that fit. -/
def chop (width : Nat) (word : List Char) : List (List Char) := chopFrom width 0 [] word

/-- The places where parts begin that stand one behind the other. -/
def starts (place : Nat) : List (List Char) → List Nat
  | [] => []
  | part :: rest => place :: starts (place + part.length) rest

/-- The places where a line is broken. `place` is the place of the next word, and `used` the number
of cells on its line so far. -/
def breaksFrom (width : Nat) (overflow : Overflow) (place used : Nat) :
    List (List Char) → List Nat
  | [] => []
  | word :: rest =>
      let next := place + word.length
      let shown := Text.cellsOfChars (Text.trimEnd word)
      let whole := Text.cellsOfChars word
      if used + shown ≤ width then breaksFrom width overflow next (used + whole) rest
      else if shown > width then
        match overflow with
        | .fold =>
            let parts := chop width word
            let last := Text.cellsOfChars (parts.getLast?.getD [])
            (starts place parts).filter (· ≠ 0) ++ breaksFrom width overflow next last rest
        | .ellipsis => [place].filter (· ≠ 0) ++ breaksFrom width overflow next whole rest
      else place :: breaksFrom width overflow next whole rest

def cutAt (place : Nat) : List Nat → List Char → List (List Char)
  | [], cs => [cs]
  | cut :: rest, cs => cs.take (cut - place) :: cutAt cut rest (cs.drop (cut - place))

/-! ## Lines -/

/-- Drops blanks at the end that stand beyond a width. -/
def dropOverhang (width : Nat) (line : List Char) : List Char :=
  let blanks := line.length - (Text.trimEnd line).length
  line.take (line.length - min blanks (line.length - width))

/-- The characters that fit a width, and the marks on the last one. -/
def fitting (width : Nat) : List Char → List Char
  | [] => []
  | c :: rest =>
      let n := Text.cellsOfChar c
      if n ≤ width then c :: fitting (width - n) rest else []

def padEnd (width : Nat) (line : List Char) : List Char :=
  line ++ List.replicate (width - Text.cellsOfChars line) ' '

/-- A line that fills a width: what does not fit is cut. -/
def fill (width : Nat) (line : List Char) : List Char :=
  if width = 0 then [] else padEnd width (fitting width line)

def truncate (width : Nat) (overflow : Overflow) (line : List Char) : List Char :=
  if Text.cellsOfChars line ≤ width then line
  else
    match overflow with
    | .fold => fill width line
    | .ellipsis => fill (width - 1) line ++ ['…']

/-- Moves the text of a line to its place. -/
def align (width : Nat) (overflow : Overflow) (alignment : Justification) (line : List Char) :
    List Char :=
  match alignment with
  | .ragged => truncate width overflow line
  | .left => padEnd width (truncate width overflow line)
  | .center =>
      let line := truncate width overflow (Text.trimEnd line)
      padEnd width (List.replicate ((width - Text.cellsOfChars line) / 2) ' ' ++ line)
  | .right =>
      let line := truncate width overflow (Text.trimEnd line)
      List.replicate (width - Text.cellsOfChars line) ' ' ++ line

def wrapLine (width : Nat) (overflow : Overflow) (alignment : Justification) (line : List Char) :
    List (List Char) :=
  let line := expandTabs line
  let lines := cutAt 0 (breaksFrom width overflow 0 0 (words line)) line
  lines.map fun line => align width overflow alignment (dropOverhang width line)

/-- Breaks a text of any number of lines. -/
def wrap (width : Nat) (overflow : Overflow) (alignment : Justification) (text : String) :
    List String :=
  (Text.splitOnChar '\n' text.toList).flatMap fun line =>
    (wrapLine width overflow alignment line).map String.ofList

end FeatureSuite.Wrapping

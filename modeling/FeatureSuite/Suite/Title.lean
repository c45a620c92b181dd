import FeatureSuite.Text.Blank

/-!
# Titles of example rows

A format holds placeholders: a name in angle brackets, or the word for the index outside brackets. A
placeholder with a value is replaced by it, others stay as they are, and values are not read again.
-/

namespace FeatureSuite

/-- The placeholder for the index of a row. -/
def indexName : String := "_index_"

inductive TitleValue where
  | index (n : Nat)
  | text (s : String)
  deriving DecidableEq, Repr

def TitleValue.shown : TitleValue → String
  | index n => toString n
  | text s => s

inductive TitlePiece where
  | literal (c : Char)
  /-- A placeholder: its name, and how it is written. -/
  | hole (name written : String)
  deriving DecidableEq, Repr

/-- A name in brackets behind the opening one: one character or more other than brackets. -/
def bracketed? (cs : List Char) : Option (List Char × List Char) :=
  let name := cs.takeWhile fun c => c ≠ '<' && c ≠ '>'
  match cs.dropWhile fun c => c ≠ '<' && c ≠ '>' with
  | '>' :: rest => if name.isEmpty then none else some (name, rest)
  | _ => none

/-- Cuts a format into pieces, from left to right. -/
def titlePieces : (fuel : Nat) → List Char → List TitlePiece
  | 0, _ => []
  | _, [] => []
  | fuel + 1, c :: rest =>
      let bracket := if c = '<' then bracketed? rest else none
      match bracket, Text.afterStart? indexName.toList (c :: rest) with
      | some (name, after), _ =>
          .hole (.ofList name) (.ofList ('<' :: name ++ ['>'])) :: titlePieces fuel after
      | none, some after => .hole indexName indexName :: titlePieces fuel after
      | none, none => .literal c :: titlePieces fuel rest

def TitlePiece.fill (values : String → Option String) : TitlePiece → String
  | literal c => String.singleton c
  | hole name written => (values name).getD written

def renderTitle (format : String) (values : String → Option String) : String :=
  String.join ((titlePieces format.length format.toList).map (·.fill values))

end FeatureSuite

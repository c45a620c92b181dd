import FeatureSuite.Text.Word

/-!
# Pieces of a template

A template is step text with fields in braces; doubled braces are text. What is no field by its form
stays text, so a lone brace stands for itself.
-/

namespace FeatureSuite.Template

inductive Piece where
  | openBrace
  | closeBrace
  /-- A field, without its braces. -/
  | field (inner : List Char)
  | literal (text : List Char)
  deriving DecidableEq, Repr

/-- The characters of field names. -/
def isNameChar (c : Char) : Bool := Text.isWord c || c = '-'

def spanName (cs : List Char) : List Char × List Char :=
  (cs.takeWhile isNameChar, cs.dropWhile isNameChar)

/-- Names behind points and in brackets, which follow the name of a field, and the rest. -/
def spanSubnames : (fuel : Nat) → List Char → List Char × List Char
  | 0, cs => ([], cs)
  | fuel + 1, cs =>
      match cs with
      | '.' :: rest =>
          let (name, rest') := spanName rest
          if name.isEmpty then ([], cs)
          else
            let (more, last) := spanSubnames fuel rest'
            ('.' :: name ++ more, last)
      | '[' :: rest =>
          let name := rest.takeWhile (· != ']')
          match rest.dropWhile (· != ']') with
          | ']' :: rest' =>
              if name.isEmpty then ([], cs)
              else
                let (more, last) := spanSubnames fuel rest'
                ('[' :: name ++ ']' :: more, last)
          | _ => ([], cs)
      | _ => ([], cs)

/-- A field behind its opening brace: what is inside, and what follows the closing brace. -/
def fieldAt? (cs : List Char) : Option (List Char × List Char) :=
  let (name, rest) := spanName cs
  let (subnames, rest) := spanSubnames rest.length rest
  let inner := name ++ subnames
  match rest with
  | '\x7d' :: rest => some (inner, rest)
  | ':' :: rest =>
      let format := rest.takeWhile (· != '\x7d')
      match rest.dropWhile (· != '\x7d') with
      | _ :: rest => if format.isEmpty then none else some (inner ++ ':' :: format, rest)
      | [] => none
  | _ => none

/-- Text between two other pieces. Text from an opening to a closing brace is a field of an unusual
name. -/
def textPiece (text : List Char) : List Piece :=
  match text with
  | [] => []
  | '\x7b' :: rest =>
      if rest.getLast? = some '\x7d' then [.field rest.dropLast] else [.literal text]
  | _ => [.literal text]

/-- Cuts a template into pieces. `before` holds the text in front, backwards. -/
def piecesFrom : (fuel : Nat) → (before : List Char) → List Char → List Piece
  | 0, before, _ => textPiece before.reverse
  | _, before, [] => textPiece before.reverse
  | fuel + 1, before, '\x7b' :: rest =>
      match rest with
      | '\x7b' :: rest => textPiece before.reverse ++ .openBrace :: piecesFrom fuel [] rest
      | _ =>
          match fieldAt? rest with
          | some (inner, rest) =>
              textPiece before.reverse ++ .field inner :: piecesFrom fuel [] rest
          | none => piecesFrom fuel ('\x7b' :: before) rest
  | fuel + 1, before, '\x7d' :: '\x7d' :: rest =>
      textPiece before.reverse ++ .closeBrace :: piecesFrom fuel [] rest
  | fuel + 1, before, c :: rest => piecesFrom fuel (c :: before) rest

def pieces (template : String) : List Piece :=
  piecesFrom template.length [] template.toList

end FeatureSuite.Template

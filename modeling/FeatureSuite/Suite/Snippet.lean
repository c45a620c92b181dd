import FeatureSuite.Distinct
import FeatureSuite.Step.Role
import FeatureSuite.Text.Word

/-!
# Snippets for missing steps

A snippet is a handler to start from. Its template has a field for every quoted text and every whole
number of the step, and braces of the step are doubled.
-/

namespace FeatureSuite.Snippet

/-- A piece of step text. -/
inductive Piece where
  | char (c : Char)
  /-- A text in quotes, without them. -/
  | quoted (text : List Char)
  | number (text : List Char)
  deriving DecidableEq, Repr

/-- Whether characters side by side differ in being word characters. -/
def isEdge (before after : Option Char) : Bool := before.any Text.isWord != after.any Text.isWord

/-- Splits a number in front of the end of a word off. Digits may be given back until what follows
is no word character, which is only so when all digits are taken. -/
def digitsAt? (cs : List Char) : Option (List Char × List Char) :=
  let digits := cs.takeWhile Text.isDecimal
  let rest := cs.dropWhile Text.isDecimal
  if digits.isEmpty || rest.head?.any Text.isWord then none else some (digits, rest)

/-- Splits a number off that starts at a word edge: digits with a sign or without. -/
def numberAt? (before : Option Char) (cs : List Char) : Option (List Char × List Char) :=
  if isEdge before cs.head? then
    match cs with
    | '-' :: rest => (digitsAt? rest).map fun (digits, rest) => ('-' :: digits, rest)
    | _ => digitsAt? cs
  else none

/-- Splits a quoted text off. -/
def quotedAt? : List Char → Option (List Char × List Char)
  | '"' :: rest =>
      match rest.dropWhile (· ≠ '"') with
      | _ :: after => some (rest.takeWhile (· ≠ '"'), after)
      | [] => none
  | _ => none

/-- Cuts step text into pieces; `before` is the character in front. -/
def piecesFrom : (fuel : Nat) → (before : Option Char) → List Char → List Piece
  | 0, _, _ => []
  | _, _, [] => []
  | fuel + 1, before, c :: rest =>
      match quotedAt? (c :: rest), numberAt? before (c :: rest) with
      | some (text, after), _ => .quoted text :: piecesFrom fuel (some '"') after
      | none, some (text, after) => .number text :: piecesFrom fuel text.getLast? after
      | none, none => .char c :: piecesFrom fuel (some c) rest

def pieces (text : String) : List Piece := piecesFrom text.length none text.toList

def Piece.template : Piece → List Char
  | char c => if c = '\x7b' then ['\x7b', '\x7b'] else if c = '\x7d' then ['\x7d', '\x7d'] else [c]
  | quoted _ => ['"', '\x7b', '\x7d', '"']
  | number _ => ['\x7b', ':', 'd', '\x7d']

def Piece.isField : Piece → Bool
  | char _ => false
  | quoted _ | number _ => true

/-- The template for step text, and the number of its fields. -/
def pattern (text : String) : String × Nat :=
  let pieces := pieces text
  (String.ofList (pieces.flatMap Piece.template), pieces.countP Piece.isField)

/-- A template inside single quotes. -/
def literal (template : String) : String :=
  String.ofList <| template.toList.flatMap fun c =>
    if c = '\\' then ['\\', '\\'] else if c = '\'' then ['\\', '\''] else [c]

def build (role : Role) (text : String) : String :=
  let (template, count) := pattern text
  let parameters := (List.range count).map fun i => s!"arg{i + 1}"
  let parameters := ", ".intercalate parameters
  let literal := literal template
  "\n".intercalate
    [s!"@{role.decorator}('{literal}')",
      s!"def step_impl({parameters}):",
      s!"    raise NotImplementedError('{role.decorator}: {literal}')"]

/-- Snippets for steps: one for every role and template, in the order of the first step of each. -/
def buildFrom (seen : List (Role × String)) : List (Role × String) → List String
  | [] => []
  | (role, text) :: rest =>
      let key := (role, (pattern text).1)
      if seen.contains key then buildFrom seen rest
      else build role text :: buildFrom (key :: seen) rest

def buildAll (steps : List (Role × String)) : List String := buildFrom [] steps

end FeatureSuite.Snippet

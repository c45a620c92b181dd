import FeatureSuite.Text.Blank
import FeatureSuite.Text.Case
import FeatureSuite.Text.Word

/-!
# Regular expressions

The tree of a regular expression with captures, back references, assertions and three kinds of
repetition, and the texts that its parts can take up at most and at least.
-/

namespace FeatureSuite

inductive CharClass where
  | decimal
  | blank
  | word
  deriving DecidableEq, Repr

/-- Whether a character is in a class, or in its part among the first 128 characters. -/
def CharClass.contains (cls : CharClass) (asciiOnly : Bool) (c : Char) : Bool :=
  if asciiOnly then
    match cls with
    | .decimal => c.isDigit
    | .blank => c = ' ' || (9 ≤ c.toNat && c.toNat ≤ 13)
    | .word => c.isAlphanum || c = '_'
  else
    match cls with
    | .decimal => Text.isDecimal c
    | .blank => Text.isBlank c
    | .word => Text.isWord c

/-- A part of a set of characters. -/
inductive SetItem where
  | range (first last : Char)
  | cls (kind : CharClass) (negated asciiOnly : Bool)
  deriving DecidableEq, Repr

def SetItem.contains : SetItem → Char → Bool
  | range first last, c => first ≤ c && c ≤ last
  | cls kind negated asciiOnly, c => kind.contains asciiOnly c != negated

/-- Places between characters. -/
inductive Anchor where
  | textStart
  | textEnd
  /-- The end, or in front of a line feed that ends the text. -/
  | lastLineEnd
  | lineStart
  | lineEnd
  | wordEdge (asciiOnly : Bool)
  | noWordEdge (asciiOnly : Bool)
  deriving DecidableEq, Repr

/-- Whether the characters at both sides of a place differ in being word characters. -/
def isWordEdge (text : Array Char) (asciiOnly : Bool) (place : Nat) : Bool :=
  let word (c : Option Char) := match c with
    | some c => CharClass.word.contains asciiOnly c
    | none => false
  word (if place = 0 then none else text[place - 1]?) != word text[place]?

/-- Whether a place is one of an anchor. An empty text has neither a word edge nor a place that is
none. -/
def Anchor.holds (text : Array Char) (place : Nat) : Anchor → Bool
  | .textStart => place = 0
  | .textEnd => place = text.size
  | .lastLineEnd => place = text.size || (place + 1 = text.size && text[place]? = some '\n')
  | .lineStart => place = 0 || text[place - 1]? = some '\n'
  | .lineEnd => place = text.size || text[place]? = some '\n'
  | .wordEdge asciiOnly => isWordEdge text asciiOnly place
  | .noWordEdge asciiOnly => !text.isEmpty && !isWordEdge text asciiOnly place

/-- How a repetition takes up text. -/
inductive Greed where
  /-- As much as possible, giving back what the rest needs. -/
  | greedy
  /-- As little as possible. -/
  | lazy
  /-- As much as possible, giving nothing back. -/
  | possessive
  deriving DecidableEq, Repr

/-- Which characters count as the same letter. -/
inductive Folding where
  /-- Every character is a letter of its own. -/
  | exact
  /-- Letters that differ in case are the same. -/
  | letters
  /-- Letters among the first 128 characters that differ in case are the same. -/
  | asciiLetters
  deriving DecidableEq, Repr

/-- The character that stands for all characters that count as the same. -/
def Folding.lower : Folding → Char → Char
  | exact, c => c
  | letters, c => Text.lowerChar c
  | asciiLetters, c => c.toLower

/-- Whether two characters count as the same. -/
def Folding.same : Folding → Char → Char → Bool
  | exact, a, b => a == b
  | letters, a, b => Text.sameLetter a b
  | asciiLetters, a, b => a.toLower == b.toLower

def Folding.variants : Folding → Char → List Char
  | exact, c => [c]
  | letters, c => Text.caseVariants c
  | asciiLetters, c => [c.toLower, c.toUpper]

/-- A regular expression. -/
inductive Regex where
  | empty
  | char (c : Char) (folding : Folding)
  | set (negated : Bool) (items : List SetItem) (folding : Folding)
  | any (lineFeed : Bool)
  | anchor (anchor : Anchor)
  | cat (first second : Regex)
  | alt (first second : Regex)
  | capture (index : Nat) (body : Regex)
  | repeat (least : Nat) (most : Option Nat) (greed : Greed) (body : Regex)
  | backref (index : Nat) (folding : Folding)
  | lookAhead (negated : Bool) (body : Regex)
  /-- What stands in front of a place, of a length between the bounds. -/
  | lookBehind (negated : Bool) (least : Nat) (most : Option Nat) (body : Regex)
  | atomic (body : Regex)
  | ifCaptured (index : Nat) (yes no : Regex)
  deriving Repr, Inhabited, DecidableEq

namespace Regex

/-- One after the other. -/
def seq : List Regex → Regex
  | [] => .empty
  | [r] => r
  | r :: rest => .cat r (seq rest)

/-- One of several, tried in order. -/
def choice : List Regex → Regex
  | [] => .empty
  | [r] => r
  | r :: rest => .alt r (choice rest)

/-- The least and the greatest length of a text; the latter is absent if there is none. -/
abbrev Width := Nat × Option Nat

/-- The width of two texts, one after the other. -/
def Width.add (a b : Width) : Width :=
  (a.1 + b.1, match a.2, b.2 with
    | some m, some n => some (m + n)
    | _, _ => none)

/-- The width of one of two texts. -/
def Width.max (a b : Width) : Width :=
  (min a.1 b.1, match a.2, b.2 with
    | some m, some n => some (Max.max m n)
    | _, _ => none)

/-- The width of the texts that a regular expression matches, given the widths of the captures. -/
def width (captures : Nat → Width) : Regex → Width
  | .empty | .anchor _ | .lookAhead .. | .lookBehind .. => (0, some 0)
  | .char .. | .set .. | .any _ => (1, some 1)
  | .cat a b => (a.width captures).add (b.width captures)
  | .alt a b => (a.width captures).max (b.width captures)
  | .capture _ r | .atomic r => r.width captures
  | .repeat least most _ r =>
      let (lo, hi) := r.width captures
      (lo * least, match hi, most with
        | some 0, _ => some 0
        | some n, some m => some (n * m)
        | _, some 0 => some 0
        | _, _ => none)
  | .backref i _ => captures i
  | .ifCaptured _ yes no => (yes.width captures).max (no.width captures)

/-- Whether all texts to look back at have one length. -/
def lookBehindsFixed : Regex → Bool
  | .lookBehind _ least most r => most = some least && r.lookBehindsFixed
  | .cat a b | .alt a b | .ifCaptured _ a b => a.lookBehindsFixed && b.lookBehindsFixed
  | .capture _ r | .atomic r | .repeat _ _ _ r | .lookAhead _ r => r.lookBehindsFixed
  | _ => true

end Regex

end FeatureSuite

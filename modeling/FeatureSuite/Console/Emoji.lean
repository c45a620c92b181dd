import FeatureSuite.Text.Blank
import FeatureSuite.Text.Case
import FeatureSuite.Text.Table.Emoji

/-!
# Emoji by name

A name between two colons stands for an emoji; one of two endings chooses how it is shown. What is
no name stays as it is.
-/

namespace FeatureSuite.Emoji

/-- Splits an entry at its equals sign. -/
def entry (cs : List Char) : String × String :=
  (String.ofList (cs.takeWhile (· ≠ '=')), String.ofList ((cs.dropWhile (· ≠ '=')).drop 1))

def ofName? (name : String) : Option String :=
  Text.emojiEntries.findSome? fun line =>
    ((Text.splitOnChar ' ' line.toList).map entry).lookup name

def endings : List (String × Char) := [("-emoji", '\ufe0f'), ("-text", '\ufe0e')]

def ofNameWithEnding? (name : List Char) : Option (List Char) :=
  let ending? := endings.findSome? fun (ending, mark) =>
    (Text.afterStart? ending.toList.reverse name.reverse).map fun rest => (rest.reverse, [mark])
  let (name, mark) := ending?.getD (name, [])
  (ofName? (Text.lower (String.ofList name))).map fun emoji => emoji.toList ++ mark

/-- The name behind a colon, and what follows the colon that ends it. -/
def nameText? (cs : List Char) : Option (List Char × List Char) :=
  let inName (c : Char) : Bool := c != ':' && !Text.isBlank c
  match cs.dropWhile inName with
  | ':' :: after => some (cs.takeWhile inName, after)
  | _ => none

/-- Puts emoji in the place of their names, in at most `fuel` steps. -/
def replaceFrom : (fuel : Nat) → List Char → List Char
  | 0, _ => []
  | _, [] => []
  | fuel + 1, c :: rest =>
      match (if c = ':' then nameText? rest else none) with
      | none => c :: replaceFrom fuel rest
      | some (name, after) =>
          (ofNameWithEnding? name).getD (':' :: name ++ [':']) ++ replaceFrom fuel after

/-- Puts emoji in the place of their names. -/
def replace (cs : List Char) : List Char := replaceFrom cs.length cs

end FeatureSuite.Emoji

import FeatureSuite.Regex.Basic
import FeatureSuite.Regex.Fault

/-!
# Reading expressions by tokens

What a regular expression is read with, and the steps that all parts of the reader share. A token is
a character, or a backslash with the character behind it, so a backslash at the very end is found as
soon as the token in front of it is taken.
-/

namespace FeatureSuite.Regex

/-- What a regular expression is read with. -/
structure Flags where
  ignoreCase : Bool := false
  multiline : Bool := false
  dotAll : Bool := false
  verbose : Bool := false
  ascii : Bool := false
  deriving DecidableEq, Repr

/-- What counts as the same letter under flags. -/
def Flags.folding (flags : Flags) : Folding :=
  if !flags.ignoreCase then .exact else if flags.ascii then .asciiLetters else .letters

/-- A token of a regular expression. -/
inductive Token where
  | plain (c : Char)
  | escaped (c : Char)
  deriving DecidableEq

def Token.text : Token → String
  | plain c => String.singleton c
  | escaped c => String.ofList ['\\', c]

/-- How far reading has come. `groups` holds the width of every group met so far, absent while the
group is open; the whole expression is group 0. -/
structure ReaderState where
  rest : List Char
  place : Nat := 0
  flags : Flags
  groups : List (Option Width) := [none]
  names : List (String × Nat) := []
  /-- The number of groups at the start of the outermost look-behind. -/
  lookBehindGroups : Option Nat := none
  /-- Groups that conditions name by number, with the place of the first mention. -/
  conditions : List (Nat × Nat) := []

abbrev Read (α : Type) := StateT ReaderState (Except Fault) α

/-- Refuses the expression at a place. -/
def failAt {α : Type} (place : Nat) (cause : FaultCause) : Read α :=
  throw ⟨cause, some place⟩

/-- The place in front of the next token. -/
def place : Read Nat := return (← get).place

def peek : Read (Option Token) := do
  return match (← get).rest with
    | [] => none
    | '\\' :: c :: _ => some (.escaped c)
    | c :: _ => some (.plain c)

/-- Refuses a backslash at the very end. -/
def checkEnd : Read Unit := do
  let state ← get
  if state.rest = ['\\'] then failAt state.place .badEscapeAtEnd

/-- Goes on by a number of characters. -/
def advance (count : Nat) : Read Unit := do
  modify fun state => { state with rest := state.rest.drop count, place := state.place + count }
  checkEnd

def next : Read (Option Token) := do
  let token ← peek
  match token with
  | none => return none
  | some (.plain c) => advance 1; return some (.plain c)
  | some (.escaped c) => advance 2; return some (.escaped c)

/-- Takes a character, if it comes next. -/
def accept (c : Char) : Read Bool := do
  if (← peek) = some (.plain c) then advance 1; return true
  else return false

/-- Takes at most `count` characters of a kind. -/
def takeSome (accepts : Char → Bool) : Nat → Read (List Char)
  | 0 => return []
  | count + 1 => do
      match ← peek with
      | some (.plain c) =>
          if accepts c then
            advance 1
            return c :: (← takeSome accepts count)
          else return []
      | _ => return []

def takeName (mark : Char) (what : String) : (fuel : Nat) → String → Read String
  | 0, _ => failAt 0 (.missingName what)
  | fuel + 1, name => do
      match ← next with
      | none =>
          if name = "" then failAt (← place) (.missingName what)
          else failAt ((← place) - name.length) (.unterminatedName (String.singleton mark) what)
      | some token =>
          if token = .plain mark then
            if name = "" then failAt ((← place) - 1) (.missingName what)
            else return name
          else takeName mark what fuel (name ++ token.text)

/-- Takes a name up to its mark; the message says what is named. -/
def nameUpTo (mark : Char) (what : String) : Read String := do
  takeName mark what ((← get).rest.length + 1) ""

end FeatureSuite.Regex

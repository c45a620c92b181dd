import FeatureSuite.Text.Quoted

/-!
# Faults of regular expressions

Why a text is no regular expression, where, and in which words.
-/

namespace FeatureSuite.Regex

/-- Why a text is no regular expression. -/
inductive FaultCause where
  | badEscape (escape : String)
  | badEscapeAtEnd
  | incompleteEscape (escape : String)
  | octalTooLarge (escape : String)
  | missingBrace
  | missingName (what : String)
  | unterminatedName (mark what : String)
  | undefinedCharacter (name : String)
  | unterminatedSet
  | badRange (first last : String)
  | largestBelowLeast
  | countTooLarge
  | nothingToRepeat
  | multipleRepeat
  | unexpectedEnd
  | badGroupName (name : String)
  | unknownGroupName (name : String)
  | openGroup
  | groupOfSameLookBehind
  | unknownExtension (text : String)
  | unterminatedComment
  | unterminatedGroup
  | badGroupNumber
  | invalidGroup (index : Nat)
  | threeBranches
  | lateGlobalFlags
  | redefinedName (name : String) (index earlier : Nat)
  | byteFlag
  | incompatibleFlags
  | missingAfterFlags (what : String)
  | unknownFlag
  | typeFlagOff
  | flagOnAndOff
  | unbalancedParenthesis
  | lookBehindWidth
  deriving DecidableEq

def FaultCause.message : FaultCause → String
  | badEscape escape => s!"bad escape {escape}"
  | badEscapeAtEnd => "bad escape (end of pattern)"
  | incompleteEscape escape => s!"incomplete escape {escape}"
  | octalTooLarge escape => s!"octal escape value {escape} outside of range 0-0o377"
  | missingBrace => "missing \x7b"
  | missingName what => s!"missing {what}"
  | unterminatedName mark _ => s!"missing {mark}, unterminated name"
  | undefinedCharacter name => s!"undefined character name {Text.literal name}"
  | unterminatedSet => "unterminated character set"
  | badRange first last => s!"bad character range {first}-{last}"
  | largestBelowLeast => "min repeat greater than max repeat"
  | countTooLarge => "the repetition number is too large"
  | nothingToRepeat => "nothing to repeat"
  | multipleRepeat => "multiple repeat"
  | unexpectedEnd => "unexpected end of pattern"
  | badGroupName name => s!"bad character in group name {Text.literal name}"
  | unknownGroupName name => s!"unknown group name {Text.literal name}"
  | openGroup => "cannot refer to an open group"
  | groupOfSameLookBehind => "cannot refer to group defined in the same lookbehind subpattern"
  | unknownExtension text => s!"unknown extension ?{text}"
  | unterminatedComment => "missing ), unterminated comment"
  | unterminatedGroup => "missing ), unterminated subpattern"
  | badGroupNumber => "bad group number"
  | invalidGroup index => s!"invalid group reference {index}"
  | threeBranches => "conditional backref with more than two branches"
  | lateGlobalFlags => "global flags not at the start of the expression"
  | redefinedName name index earlier =>
      s!"redefinition of group name {Text.literal name} as group {index}; was group {earlier}"
  | byteFlag => "bad inline flags: cannot use 'L' flag with a str pattern"
  | incompatibleFlags => "bad inline flags: flags 'a', 'u' and 'L' are incompatible"
  | missingAfterFlags what => s!"missing {what}"
  | unknownFlag => "unknown flag"
  | typeFlagOff => "bad inline flags: cannot turn off flags 'a', 'u' and 'L'"
  | flagOnAndOff => "bad inline flags: flag turned on and off"
  | unbalancedParenthesis => "unbalanced parenthesis"
  | lookBehindWidth => "look-behind requires fixed-width pattern"

/-- Why a text is no regular expression, and where the fault was met. -/
structure Fault where
  cause : FaultCause
  place : Option Nat
  deriving DecidableEq

def lineAndColumn (pattern : List Char) (place : Nat) : Nat × Nat :=
  let before := pattern.take place
  (before.count '\n' + 1, (before.reverse.takeWhile (· != '\n')).length + 1)

/-- The words for a fault of a pattern. The line and the column are named if there are several
lines. -/
def Fault.message (fault : Fault) (pattern : String) : String :=
  match fault.place with
  | none => fault.cause.message
  | some place =>
      let text := s!"{fault.cause.message} at position {place}"
      if pattern.toList.contains '\n' then
        let (line, column) := lineAndColumn pattern.toList place
        s!"{text} (line {line}, column {column})"
      else text

/-- A text that is no regular expression. -/
structure BadPattern where
  pattern : String
  fault : Fault
  deriving DecidableEq

/-- The name of the kind of fault: a count beyond the limit is apart. -/
def BadPattern.label (bad : BadPattern) : String :=
  if bad.fault.cause = .countTooLarge then "OverflowError" else "error"

/-- Why a text is no regular expression, in words. -/
def BadPattern.message (bad : BadPattern) : String := bad.fault.message bad.pattern

end FeatureSuite.Regex

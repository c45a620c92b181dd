import FeatureSuite.Text.Table.Identifier

/-!
# Identifiers

The names that parameters may have: a start character, then any number of further ones,
and not one of the reserved words.
-/

namespace FeatureSuite.Text

def isIdentifierStart (c : Char) : Bool := identifierStartRanges.contains c

def isIdentifierRest (c : Char) : Bool := identifierRestRanges.contains c

/-- Whether a text has the form of an identifier. Reserved words have it too. -/
def isIdentifier (s : String) : Bool :=
  match s.toList with
  | [] => false
  | c :: rest => isIdentifierStart c && rest.all isIdentifierRest

theorem isIdentifier_append {s : String} (h : isIdentifier s = true) (t : String) :
    isIdentifier (s ++ t) = t.toList.all isIdentifierRest := by
  unfold isIdentifier at *
  rw [String.toList_append]
  cases hs : s.toList with
  | nil => simp [hs] at h
  | cons c rest =>
      rw [hs] at h
      obtain ⟨hstart, hrest⟩ := Bool.and_eq_true_iff.mp h
      simp [hstart, hrest]

/-- Words that are reserved everywhere. Those that are reserved in some places only are not among
them. -/
def reservedWords : List String :=
  ["False", "None", "True", "and", "as", "assert", "async", "await", "break", "class", "continue",
    "def", "del", "elif", "else", "except", "finally", "for", "from", "global", "if", "import",
    "in", "is", "lambda", "nonlocal", "not", "or", "pass", "raise", "return", "try", "while",
    "with", "yield"]

def isParameterName (s : String) : Bool := isIdentifier s && !reservedWords.contains s

theorem isIdentifier_of_isParameterName {s : String} (h : isParameterName s = true) :
    isIdentifier s = true :=
  (Bool.and_eq_true_iff.mp h).1

end FeatureSuite.Text

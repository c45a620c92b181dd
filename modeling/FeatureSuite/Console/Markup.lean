import FeatureSuite.Console.Emoji
import FeatureSuite.Console.Parameters
import FeatureSuite.Console.Style

/-!
# Marked-up text

Text with tags in square brackets that open and close styles. Without styles only the text between
the tags is left. A bracket that no tag can start with stands for itself, and so does a tag behind
an odd number of backslashes.
-/

namespace FeatureSuite.Markup

/-- A part of a text: plain, or what stands inside the brackets of a tag with its place. -/
inductive Piece where
  | plain (text : List Char)
  | tag (place : Nat) (text : List Char)
  deriving DecidableEq, Repr

/-- Why a text cannot be shown. -/
inductive Fault where
  /-- A tag closes a style that is not open. -/
  | notOpen (tag : String) (place : Nat)
  /-- A tag closes the last style, but none is open. -/
  | nothingOpen (place : Nat)
  /-- A tag closes one whose parameters stand for nothing. -/
  | badParameters (parameters : String)
  deriving DecidableEq, Repr

/-- Why a text cannot be shown, in words. What is wrong with parameters is not told. -/
def Fault.message : Fault → String
  | notOpen tag place => s!"closing tag '[{tag}]' at position {place} doesn't match any open tag"
  | nothingOpen place => s!"closing tag '[/]' at position {place} has nothing to close"
  | badParameters parameters => s!"error parsing {Text.literal parameters}"

def startsTag (c : Char) : Bool := ('a' ≤ c && c ≤ 'z') || c = '#' || c = '/' || c = '@'

/-- Whether a character can go on a tag. -/
def inTag (c : Char) : Bool := c != '[' && c != ']'

/-- The text of a tag whose bracket is open, and what follows its closing bracket. -/
def tagText? (cs : List Char) : Option (List Char × List Char) :=
  match cs with
  | [] => none
  | c :: rest =>
      if startsTag c then
        match rest.dropWhile inTag with
        | ']' :: after => some (c :: rest.takeWhile inTag, after)
        | _ => none
      else none

theorem length_tagText?_lt {cs text after : List Char} (h : tagText? cs = some (text, after)) :
    after.length < cs.length := by
  unfold tagText? at h
  split at h
  · simp at h
  · rename_i c rest
    split at h
    · split at h
      · rename_i hd
        have := Text.length_dropWhile_le inTag rest
        simp only [Option.some.injEq, Prod.mk.injEq] at h
        rw [hd] at this
        simp only [List.length_cons] at this ⊢
        rw [← h.2]
        omega
      · simp at h
    · simp at h

/-- The tag behind any number of backslashes: their number, the text of the tag, and what follows.
-/
def escapedTag? (cs : List Char) : Option (Nat × List Char × List Char) :=
  match cs.dropWhile (· = '\\') with
  | '[' :: rest =>
      (tagText? rest).map fun (text, after) => ((cs.takeWhile (· = '\\')).length, text, after)
  | _ => none

theorem length_escapedTag?_lt {cs text after : List Char} {n : Nat}
    (h : escapedTag? cs = some (n, text, after)) : after.length < cs.length := by
  unfold escapedTag? at h
  split at h
  · rename_i rest hd
    obtain ⟨⟨found, tail⟩, hf, he⟩ := Option.map_eq_some_iff.1 h
    simp only [Prod.mk.injEq] at he
    have hl := length_tagText?_lt hf
    have := Text.length_dropWhile_le (· = '\\') cs
    rw [hd] at this
    simp only [List.length_cons] at this
    rw [← he.2.2]
    omega
  · simp at h

def plainPiece (text : List Char) : List Piece := if text.isEmpty then [] else [.plain text]

/-- Two backslashes in front of a tag stand for one; one that is left takes the tag for text. -/
def tagPieces (place backslashes : Nat) (text : List Char) : List Piece :=
  plainPiece (List.replicate (backslashes / 2) '\\') ++
    if backslashes % 2 = 1 then [.plain ('[' :: text ++ [']'])]
    else [.tag (place + backslashes) text]

/-- Cuts a text into its pieces. `plain` is the plain text so far, backwards. -/
def piecesFrom (place : Nat) (plain : List Char) : List Char → List Piece
  | [] => plainPiece plain.reverse
  | c :: rest =>
      match _found : escapedTag? (c :: rest) with
      | some (backslashes, text, after) =>
          plainPiece plain.reverse ++ tagPieces place backslashes text ++
            piecesFrom (place + backslashes + text.length + 2) [] after
      | none => piecesFrom (place + 1) (c :: plain) rest
termination_by cs => cs.length
decreasing_by
  · exact length_escapedTag?_lt _found
  · simp

def pieces (text : String) : List Piece := piecesFrom 0 [] text.toList

/-- A backslash in front of a bracket in plain text is left out. -/
def unescape : List Char → List Char
  | '\\' :: '[' :: rest => '[' :: unescape rest
  | c :: rest => c :: unescape rest
  | [] => []

/-- What a tag stands for: its name, without the parameters behind an equals sign. -/
def tagName (text : List Char) : List Char := text.takeWhile (· ≠ '=')

def tagParameters (text : List Char) : List Char := (text.dropWhile (· ≠ '=')).drop 1

/-- A style that is open, with the parameters of its tag. -/
structure OpenStyle where
  name : String
  parameters : List Char := []
  deriving DecidableEq, Repr

/-- Whether a style may be closed: the parameters of a tag with an at sign have to stand for
something. -/
def OpenStyle.isSound (style : OpenStyle) : Bool :=
  !style.name.startsWith "@" || style.parameters.isEmpty || Parameters.isSound style.parameters

/-- Takes a style out of those that are open: the last one of a name, or without a name the last one.
-/
def takeStyle? (name : String) (stack : List OpenStyle) : Option (OpenStyle × List OpenStyle) :=
  if name = "" then
    match stack with
    | [] => none
    | style :: stack => some (style, stack)
  else
    let isMeant (style : OpenStyle) : Bool := style.name == Style.name name
    (stack.find? isMeant).map fun style => (style, stack.eraseP isMeant)

/-- The styles that are open behind a tag, the last one first. -/
def stackBehind (stack : List OpenStyle) (place : Nat) (text : List Char) :
    Except Fault (List OpenStyle) :=
  match tagName text with
  | '/' :: closed =>
      let closed := Text.strip (String.ofList closed)
      match takeStyle? closed stack with
      | none =>
          if closed = "" then .error (.nothingOpen place)
          else .error (.notOpen (String.ofList text) place)
      | some (style, stack) =>
          if style.isSound then .ok stack
          else .error (.badParameters (String.ofList style.parameters))
  | opened => .ok (⟨Style.name (String.ofList opened), tagParameters text⟩ :: stack)

/-- The text of pieces, given the styles that are open. -/
def render (stack : List OpenStyle) : List Piece → Except Fault (List Char)
  | [] => .ok []
  | .plain text :: rest => (render stack rest).map (Emoji.replace (unescape text) ++ ·)
  | .tag place text :: rest => do render (← stackBehind stack place text) rest

/-- The controls that would move the cursor: they are not shown. -/
def cursorControls : List Char := ['\x07', '\x08', '\x0b', '\x0c', '\x0d']

def dropControls (cs : List Char) : List Char := cs.filter fun c => !cursorControls.contains c

/-- What a text without tags shows as. -/
def unmarked (text : String) : String :=
  String.ofList (dropControls (Emoji.replace text.toList))

/-- What a text with tags shows as. -/
def plainText (text : String) : Except Fault String :=
  (render [] (pieces text)).map fun cs => String.ofList (dropControls cs)

end FeatureSuite.Markup

import FeatureSuite.Text.Blank

/-!
# Files of assignments

A text that gives values to names, one assignment a line: the word `export` may stand in front,
values may be quoted, and a number sign starts a comment. Values refer to others by a name in braces
behind a dollar sign, with a default behind a colon and a minus sign if wanted. What cannot be read
is skipped up to the end of its line.
-/

namespace FeatureSuite.Assignments

/-- A name and its value; a name without an equals sign has none. -/
abbrev Assignment := String × Option String

/-! ## Reading -/

def endsLine (c : Char) : Bool := c = '\n' || c = '\r'

def isGap (c : Char) : Bool := Text.isBlank c && !endsLine c

/-- Drops blanks inside a line. -/
def dropGap (cs : List Char) : List Char := cs.dropWhile isGap

/-- Drops the word that may stand in front of an assignment. -/
def dropExport (cs : List Char) : List Char :=
  match Text.afterStart? "export".toList cs with
  | some (c :: rest) => if isGap c then dropGap rest else cs
  | _ => cs

/-- The characters before the first quote that no backslash stands in front of, and what follows
that quote. Where there is no such quote, the last quote counts. -/
def closeQuote? (quote : Char) : List Char → Option (List Char × List Char)
  | [] => none
  | '\\' :: c :: rest =>
      if c = quote then
        match closeQuote? quote rest with
        | some (inner, after) => some ('\\' :: c :: inner, after)
        | none => some (['\\'], rest)
      else (closeQuote? quote (c :: rest)).map fun (inner, after) => ('\\' :: inner, after)
  | c :: rest =>
      if c = quote then some ([], rest)
      else (closeQuote? quote rest).map fun (inner, after) => (c :: inner, after)

/-- Replaces the escapes of a table. -/
def unescape (escapes : List (Char × Char)) : List Char → List Char
  | '\\' :: c :: rest =>
      match escapes.lookup c with
      | some d => d :: unescape escapes rest
      | none => '\\' :: unescape escapes (c :: rest)
  | c :: rest => c :: unescape escapes rest
  | [] => []

def singleEscapes : List (Char × Char) := [('\\', '\\'), ('\'', '\'')]

def doubleEscapes : List (Char × Char) :=
  singleEscapes ++ [('"', '"'), ('a', '\x07'), ('b', '\x08'), ('f', '\x0c'), ('n', '\n'),
    ('r', '\r'), ('t', '\t'), ('v', '\x0b')]

def cutComment (blanks : List Char) : List Char → List Char
  | [] => blanks.reverse
  | c :: rest =>
      if Text.isBlank c then cutComment (c :: blanks) rest
      else if c = '#' && !blanks.isEmpty then []
      else blanks.reverse ++ c :: cutComment [] rest

/-- Reads the value behind an equals sign. -/
def readValue? (cs : List Char) : Option (List Char × List Char) :=
  match cs with
  | '\'' :: rest => (closeQuote? '\'' rest).map fun (inner, after) =>
      (unescape singleEscapes inner, after)
  | '"' :: rest => (closeQuote? '"' rest).map fun (inner, after) =>
      (unescape doubleEscapes inner, after)
  | _ =>
      let line := cs.takeWhile fun c => !endsLine c
      some (Text.trimEnd (cutComment [] line), cs.dropWhile fun c => !endsLine c)

/-- Reads a name, which single quotes may stand around. A comment has none. -/
def readName? (cs : List Char) : Except (List Char) (Option String × List Char) :=
  match cs with
  | '#' :: _ => .ok (none, cs)
  | '\'' :: rest =>
      let name := rest.takeWhile (· ≠ '\'')
      match rest.dropWhile (· ≠ '\'') with
      | _ :: after => if name.isEmpty then .error cs else .ok (some (String.ofList name), after)
      | [] => .error cs
  | _ =>
      let inName := fun c => c ≠ '=' && c ≠ '#' && !Text.isBlank c
      let name := cs.takeWhile inName
      if name.isEmpty then .error cs else .ok (some (String.ofList name), cs.dropWhile inName)

/-- Reads the rest of a line, which may only hold a comment. -/
def readLineEnd? (cs : List Char) : Except (List Char) (List Char) :=
  let cs := match dropGap cs with
    | '#' :: rest => rest.dropWhile fun c => !endsLine c
    | _ => cs
  match dropGap cs with
  | [] => .ok []
  | '\r' :: '\n' :: rest | '\n' :: rest | '\r' :: rest => .ok rest
  | _ => .error cs

/-- Reads an assignment, or tells where a line cannot be read. -/
def readAssignment? (cs : List Char) : Except (List Char) (Option Assignment × List Char) := do
  let (name, rest) ← readName? (dropExport cs)
  match dropGap rest with
  | '=' :: value =>
      let start := dropGap value
      match readValue? start with
      | none => .error start
      | some (value, rest) =>
          let rest ← readLineEnd? rest
          return (name.map (·, some (String.ofList value)), rest)
  | rest =>
      let rest ← readLineEnd? rest
      return (name.map (·, none), rest)

def dropLine (cs : List Char) : List Char :=
  match cs.dropWhile fun c => !endsLine c with
  | _ :: rest => rest
  | [] => []

def readFrom : (fuel : Nat) → List Char → List Assignment
  | 0, _ => []
  | fuel + 1, cs =>
      match Text.trimStart cs with
      | [] => []
      | cs =>
          match readAssignment? cs with
          | .ok (assignment, rest) => assignment.toList ++ readFrom fuel rest
          | .error rest => readFrom fuel (dropLine rest)

/-- The assignments of a text. Every one takes a character at least. -/
def read (text : String) : List Assignment := readFrom (text.length + 1) text.toList

/-! ## References -/

/-- A reference behind a dollar sign: its name and its default. -/
def reference? (cs : List Char) : Option (List Char × List Char × List Char) :=
  match cs with
  | '\x7b' :: rest =>
      let inName := fun c => c ≠ '\x7d' && c ≠ ':'
      let name := rest.takeWhile inName
      match rest.dropWhile inName with
      | '\x7d' :: after => some (name, [], after)
      | ':' :: '-' :: rest =>
          match rest.dropWhile (· ≠ '\x7d') with
          | _ :: after => some (name, rest.takeWhile (· ≠ '\x7d'), after)
          | [] => none
      | _ => none
  | _ => none

/-- Puts values in the place of references, in at most `fuel` steps. -/
def resolveFrom (valueOf : String → Option (Option String)) : (fuel : Nat) → List Char → List Char
  | 0, _ => []
  | _, [] => []
  | fuel + 1, c :: rest =>
      match (if c = '$' then reference? rest else none) with
      | none => c :: resolveFrom valueOf fuel rest
      | some (name, default, after) =>
          let value := match valueOf (String.ofList name) with
            | some (some value) => value.toList
            | some none => []
            | none => default
          value ++ resolveFrom valueOf fuel after

def put (name : String) (value : Option String) : List Assignment → List Assignment
  | [] => [(name, value)]
  | (other, old) :: rest =>
      if other = name then (name, value) :: rest else (other, old) :: put name value rest

/-- Resolves the references of assignments: to assignments in front, then to given outer. -/
def resolve (outer : List (String × String)) (assignments : List Assignment) :
    List Assignment :=
  assignments.foldl (fun known (name, value) =>
    let valueOf := fun name =>
      match known.lookup name with
      | some value => some value
      | none => (outer.lookup name).map some
    put name (value.map fun value =>
      String.ofList (resolveFrom valueOf (value.length + 1) value.toList)) known) []

end FeatureSuite.Assignments

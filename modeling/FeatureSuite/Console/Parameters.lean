import FeatureSuite.Files.Utf8
import FeatureSuite.Text.Blank
import FeatureSuite.Text.Identifier
import FeatureSuite.Text.Word

/-!
# Parameters of tags

A tag whose name starts with an at sign may have parameters: the name of a handler, a value in
parentheses, both, or a value alone. A value is written as a literal: a number, a text, one of the
named constants, or a tuple, a set or a dictionary of literals. Brackets of lists cannot stand in a
tag. What the value is does not matter for the text that is shown, only whether there is one.
-/

namespace FeatureSuite.Parameters

/-- What is known of a literal that has been read. -/
inductive Kind where
  /-- A number without a sign. -/
  | real
  | imaginary
  /-- A real number with a sign. -/
  | signed
  /-- Another value, and whether it can be a member of a set or a key. -/
  | value (hashable : Bool)
  /-- The name that makes an empty set when it is called. -/
  | setName
  deriving DecidableEq, Repr

def Kind.isHashable : Kind → Bool
  | value hashable => hashable
  | setName => false
  | _ => true

/-! ## Space -/

/-- Drops what stands between two tokens in one line. A backslash joins the next line to it. -/
def skipBlanks : List Char → List Char
  | '\\' :: '\n' :: rest => skipBlanks rest
  | c :: rest => if c = ' ' || c = '\t' || c = '\x0c' then skipBlanks rest else c :: rest
  | [] => []

/-- Drops what stands between two tokens in brackets, where lines may end. -/
def skipSpace (inComment : Bool) : List Char → List Char
  | '\\' :: '\n' :: rest => skipSpace false rest
  | c :: rest =>
      if c = '\n' then skipSpace false rest
      else if inComment || c = '#' then skipSpace true rest
      else if c = ' ' || c = '\t' || c = '\x0c' then skipSpace false rest
      else c :: rest
  | [] => []

/-! ## Numbers -/

/-- Digits with single underscores between them, without these, and what follows. -/
def digitPart (accepts : Char → Bool) : List Char → List Char × List Char
  | c :: '_' :: d :: rest =>
      if accepts c then
        if accepts d then
          let (digits, after) := digitPart accepts (d :: rest)
          (c :: digits, after)
        else ([c], '_' :: d :: rest)
      else ([], c :: '_' :: d :: rest)
  | c :: rest =>
      if accepts c then
        let (digits, after) := digitPart accepts rest
        (c :: digits, after)
      else ([], c :: rest)
  | [] => ([], [])

def isHexadecimal (c : Char) : Bool :=
  c.isDigit || ('a' ≤ c && c ≤ 'f') || ('A' ≤ c && c ≤ 'F')

/-- The digits of the base that a letter behind a zero stands for. -/
def baseDigits? : Char → Option (Char → Bool)
  | 'x' | 'X' => some isHexadecimal
  | 'o' | 'O' => some fun c => '0' ≤ c && c ≤ '7'
  | 'b' | 'B' => some fun c => c = '0' || c = '1'
  | _ => none

/-- What follows an exponent, if there is one. -/
def afterExponent? : List Char → Option (List Char)
  | mark :: rest =>
      if mark = 'e' || mark = 'E' then
        let unsigned := match rest with
          | '+' :: rest | '-' :: rest => rest
          | rest => rest
        match digitPart Char.isDigit unsigned with
        | ([], _) => none
        | (_, after) => some after
      else none
  | [] => none

/-- Reads a number in our digits. A whole number has no zeros in front of other digits. -/
def decimal? (cs : List Char) : Option (Kind × List Char) :=
  let (whole, rest) := digitPart Char.isDigit cs
  let (fraction, isPointed, rest) := match rest with
    | '.' :: rest =>
        let (fraction, rest) := digitPart Char.isDigit rest
        (fraction, true, rest)
    | rest => ([], false, rest)
  let exponent? := afterExponent? rest
  if whole.isEmpty && fraction.isEmpty then none
  else
    match exponent?.getD rest with
    | 'j' :: rest | 'J' :: rest => some (.imaginary, rest)
    | rest =>
        let isWhole := !isPointed && exponent?.isNone
        if isWhole && whole.head? = some '0' && whole.any (· ≠ '0') then none
        else some (.real, rest)

def number? (cs : List Char) : Option (Kind × List Char) :=
  match cs with
  | '0' :: mark :: rest =>
      match baseDigits? mark with
      | none => decimal? cs
      | some accepts =>
          let digits := match rest with
            | '_' :: rest => rest
            | rest => rest
          match digitPart accepts digits with
          | ([], _) => none
          | (_, after) => some (.real, after)
  | _ => decimal? cs

/-! ## Texts -/

/-- How a text is written. -/
structure TextForm where
  /-- It is made of bytes, not of characters. -/
  isBytes : Bool := false
  /-- Backslashes stand for themselves. -/
  isRaw : Bool := false

def textForm? (letters : List Char) : Option TextForm :=
  match String.ofList (letters.map Char.toLower) with
  | "" | "u" => some {}
  | "r" => some { isRaw := true }
  | "b" => some { isBytes := true }
  | "br" | "rb" => some { isBytes := true, isRaw := true }
  | _ => none

/-- The length of an escape without its backslash. Characters are not looked up by their names. -/
def escapeLength? (form : TextForm) (cs : List Char) : Option Nat :=
  let numbered (width : Nat) : Option Nat :=
    let digits := (cs.drop 1).take width
    if digits.length = width && digits.all isHexadecimal then some (width + 1) else none
  match cs, form.isRaw, form.isBytes with
  | [], _, _ => none
  | _ :: _, true, _ => some 1
  | 'x' :: _, _, _ => numbered 2
  | 'u' :: _, _, false => numbered 4
  | 'U' :: '0' :: '0' :: '0' :: _, _, false => numbered 8
  | 'U' :: '0' :: '0' :: '1' :: '0' :: _, _, false => numbered 8
  | 'U' :: _, _, false | 'N' :: _, _, false => none
  | _ :: _, _, _ => some 1

/-- What follows the closing marks of a text. Some characters in front have been read already. -/
def afterText? (form : TextForm) (mark : Char) (isTriple : Bool) : Nat → List Char →
    Option (List Char)
  | _, [] => none
  | skip, c :: cs =>
      if form.isBytes && 128 ≤ c.toNat then none
      else
        match skip with
        | skip + 1 => afterText? form mark isTriple skip cs
        | 0 =>
            if c = '\\' then
              match escapeLength? form cs with
              | none => none
              | some length => afterText? form mark isTriple length cs
            else if c = mark && isTriple then
              if cs.take 2 = [mark, mark] then some (cs.drop 2)
              else afterText? form mark isTriple 0 cs
            else if c = mark then some cs
            else if c = '\n' && !isTriple then none
            else afterText? form mark isTriple 0 cs

/-- Reads a text with the letters in front of it: whether it is made of bytes, and what follows. -/
def text? (cs : List Char) : Option (Bool × List Char) := do
  let form ← textForm? (cs.takeWhile Char.isAlpha)
  match cs.dropWhile Char.isAlpha with
  | mark :: rest =>
      if mark = '\'' || mark = '"' then
        let isTriple := rest.take 2 = [mark, mark]
        let inside := if isTriple then rest.drop 2 else rest
        return (form.isBytes, ← afterText? form mark isTriple 0 inside)
      else none
  | [] => none

/-- What follows texts that are written one behind the other, which make one text. -/
def afterTexts? (skip : List Char → List Char) (isBytes : Bool) : (fuel : Nat) → List Char →
    Option (List Char)
  | 0, cs => some cs
  | fuel + 1, cs =>
      match text? cs with
      | none => some cs
      | some (more, rest) =>
          if more = isBytes then afterTexts? skip isBytes fuel (skip rest) else none

/-! ## Values -/

/-- Reads things with commas between them up to a place that `ends` finds. Whether a comma stands
behind one of them is told with them. -/
def separated? {α : Type} (read : List Char → Option (α × List Char))
    (skip : List Char → List Char) (ends : List Char → Option (List Char)) :
    (fuel : Nat) → List Char → Option (List α × Bool × List Char)
  | 0, _ => none
  | fuel + 1, cs => do
      let (item, cs) ← read cs
      match ends cs, cs with
      | some rest, _ => some ([item], false, rest)
      | none, ',' :: cs =>
          let cs := skip cs
          match ends cs with
          | some rest => some ([item], true, rest)
          | none => do
              let (items, _, rest) ← separated? read skip ends fuel cs
              some (item :: items, true, rest)
      | none, _ => none

/-- What follows a closing bracket. -/
def afterBracket? (close : Char) : List Char → Option (List Char)
  | c :: rest => if c = close then some rest else none
  | [] => none

/-- What values with commas between them make: without a comma, nothing but the value itself. -/
def tupleOf (kinds : List Kind) (hasComma : Bool) : Option Kind :=
  match kinds, hasComma with
  | [kind], false => some kind
  | kinds, _ => if kinds.contains .setName then none else some (.value (kinds.all Kind.isHashable))

/-- What the entries of a set or a dictionary make. -/
def collectionOf (entries : List (Kind × Option Kind)) : Option Kind :=
  let isSet := entries.all (·.2.isNone)
  let isTable := entries.all (·.2.any (· ≠ .setName))
  if (isSet || isTable) && entries.all (·.1.isHashable) then some (.value false) else none

/-- Reads a value after `atom`, with a sign in front of a number, or an imaginary number added to a
real one. -/
def sum? (atom : List Char → Option (Kind × List Char)) (skip : List Char → List Char)
    (cs : List Char) : Option (Kind × List Char) := do
  let isSign (c : Char) : Bool := c = '+' || c = '-'
  let (first, cs) ← match cs with
    | c :: rest =>
        if isSign c then do
          let (kind, cs) ← atom (skip rest)
          match kind with
          | .real => some (Kind.signed, cs)
          | .imaginary => some (.value true, cs)
          | _ => none
        else atom cs
    | [] => none
  match cs with
  | c :: rest =>
      if isSign c then do
        let (second, cs) ← atom (skip rest)
        if (first = .real || first = .signed) && second = .imaginary then some (.value true, cs)
        else none
      else some (first, cs)
  | [] => some (first, cs)

/-- An entry of a set, or a key of a dictionary with its value. -/
def member? (value : List Char → Option (Kind × List Char)) (cs : List Char) :
    Option ((Kind × Option Kind) × List Char) := do
  let (key, cs) ← value cs
  match cs with
  | ':' :: cs => do
      let (kind, cs) ← value (skipSpace false cs)
      some ((key, some kind), cs)
  | cs => some ((key, none), cs)

/-- A constant by its name. -/
def constant? (name : String) : Option Kind :=
  if name = "set" then some .setName
  else if ["True", "False", "None"].contains name then some (.value true)
  else none

/-- Reads a value without a sign, with at most `depth` brackets inside each other, and drops the
space behind it. -/
def atom? (depth : Nat) (skip : List Char → List Char) (cs : List Char) :
    Option (Kind × List Char) := do
  let (kind, rest) ← match depth, cs with
    | _, '.' :: '.' :: '.' :: rest => some (Kind.value true, rest)
    | depth + 1, '(' :: rest =>
        let inside := skipSpace false rest
        match afterBracket? ')' inside with
        | some rest => some (.value true, rest)
        | none => do
            let value := sum? (atom? depth (skipSpace false)) (skipSpace false)
            let (kinds, hasComma, rest) ←
              separated? value (skipSpace false) (afterBracket? ')') rest.length inside
            some (← tupleOf kinds hasComma, rest)
    | depth + 1, '\x7b' :: rest =>
        let inside := skipSpace false rest
        match afterBracket? '\x7d' inside with
        | some rest => some (.value false, rest)
        | none => do
            let value := sum? (atom? depth (skipSpace false)) (skipSpace false)
            let (entries, _, rest) ← separated? (member? value) (skipSpace false)
              (afterBracket? '\x7d') rest.length inside
            some (← collectionOf entries, rest)
    | _, cs =>
        match text? cs with
        | some (isBytes, rest) => do
            let rest ← afterTexts? skip isBytes rest.length (skip rest)
            some (.value true, rest)
        | none =>
            let name := cs.takeWhile Text.isIdentifierRest
            match constant? (String.ofList name) with
            | some kind => some (kind, cs.dropWhile Text.isIdentifierRest)
            | none => number? cs
  let rest := skip rest
  match kind, rest with
  | .setName, '(' :: inside => do
      let rest ← afterBracket? ')' (skipSpace false inside)
      some (.value false, skip rest)
  | _, _ => some (kind, rest)

/-- How many brackets may be open at once. -/
def mostBrackets : Nat := 200

/-- Whether a text is a literal, perhaps with comments and blank lines around it. Behind a comment it
starts with its line; a form feed starts the line anew. -/
def isLiteral (text : List Char) : Bool :=
  let lines := (Utf8.plainLineEnds text).dropWhile fun c => c = ' ' || c = '\t'
  let cs := if lines.head?.any fun c => c = '#' || c = '\\' then skipSpace false lines else lines
  let last? := (lines.take (lines.length - cs.length)).getLast?
  let isIndented := last?.any fun c => c ≠ '\n' && c ≠ '\x0c'
  let atEnd (rest : List Char) : Option (List Char) :=
    if (skipSpace false rest).isEmpty then some [] else none
  let read := separated? (sum? (atom? mostBrackets skipBlanks) skipBlanks) skipBlanks atEnd
    (cs.length + 1) cs
  !lines.contains '\x00' && !isIndented &&
    read.any fun (kinds, hasComma, _) => (tupleOf kinds hasComma).any (· ≠ .setName)

/-- Whether parameters stand for something: the name of a handler with a literal in parentheses or
without, or a literal. -/
def isSound (parameters : List Char) : Bool :=
  let text := Text.trim parameters
  let behind := text.dropWhile fun c => Text.isWord c || c = '.'
  match behind with
  | [] => true
  | first :: rest =>
      if first = '(' && rest.getLast? = some ')' && !rest.contains '\n' then isLiteral behind
      else isLiteral text

end FeatureSuite.Parameters

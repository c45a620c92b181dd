import FeatureSuite.Regex.Reading

/-!
# Escapes and sets

What a backslash with a character means, outside of sets and inside, and what stands in brackets.
-/

namespace FeatureSuite.Regex

/-! ## Escapes -/

/-- The digits of base eight. -/
def isOctal (c : Char) : Bool := '0' ≤ c && c ≤ '7'

/-- The digits of base sixteen. -/
def isHex (c : Char) : Bool :=
  c.isDigit || ('a' ≤ c && c ≤ 'f') || ('A' ≤ c && c ≤ 'F')

def digitOf (c : Char) : Nat :=
  if c.isDigit then c.toNat - 48 else if c.toNat < 97 then c.toNat - 55 else c.toNat - 87

def number (base : Nat) (digits : List Char) : Nat :=
  digits.foldl (fun n c => n * base + digitOf c) 0

def controlEscape? : Char → Option Char
  | 'a' => some '\x07'
  | 'f' => some '\x0c'
  | 'n' => some '\n'
  | 'r' => some '\r'
  | 't' => some '\t'
  | 'v' => some '\x0b'
  | '\\' => some '\\'
  | _ => none

def classEscape? (asciiOnly : Bool) : Char → Option SetItem
  | 'd' => some (.cls .decimal false asciiOnly)
  | 'D' => some (.cls .decimal true asciiOnly)
  | 's' => some (.cls .blank false asciiOnly)
  | 'S' => some (.cls .blank true asciiOnly)
  | 'w' => some (.cls .word false asciiOnly)
  | 'W' => some (.cls .word true asciiOnly)
  | _ => none

/-- The character of an escape that names its code point by a given number of digits. -/
def codeEscape (start : Nat) (c : Char) (width : Nat) : Read Char := do
  let digits ← takeSome isHex width
  if digits.length = width then return Char.ofNat (number 16 digits)
  else failAt start (.incompleteEscape (String.ofList ('\\' :: c :: digits)))

/-- The escapes that mean the same inside a set and outside; absent for others. The names of
characters are not known here: an escape by name is refused as if no character had the name. -/
def commonEscape (start : Nat) (c : Char) : Read (Option Char) := do
  if c = 'x' then return some (← codeEscape start c 2)
  else if c = 'u' then return some (← codeEscape start c 4)
  else if c = 'U' then
    let digits ← takeSome isHex 8
    let escape := String.ofList ('\\' :: c :: digits)
    if digits.length ≠ 8 then failAt start (.incompleteEscape escape)
    else if number 16 digits > 0x10FFFF then failAt start (.badEscape escape)
    else return some (Char.ofNat (number 16 digits))
  else if c = 'N' then
    if ← accept '\x7b' then
      let name ← nameUpTo '\x7d' "character name"
      failAt start (.undefinedCharacter name)
    else failAt (← place) .missingBrace
  else return none

def octalOf (start : Nat) (digits : List Char) : Read Char :=
  let n := number 8 digits
  if n > 0o377 then failAt start (.octalTooLarge (String.ofList ('\\' :: digits)))
  else return Char.ofNat n

/-- Any other escaped character. Letters are kept for escapes to come. -/
def plainEscape (start : Nat) (c : Char) : Read Char :=
  if c.isAlpha then failAt start (.badEscape (String.ofList ['\\', c])) else return c

def setEscape (flags : Flags) (start : Nat) (c : Char) : Read (Char ⊕ SetItem) := do
  if c = 'b' then return .inl '\x08'
  else
    match controlEscape? c, classEscape? flags.ascii c with
    | some d, _ => return .inl d
    | none, some item => return .inr item
    | none, none =>
        match ← commonEscape start c with
        | some d => return .inl d
        | none =>
            if isOctal c then
              let more ← takeSome isOctal 2
              return .inl (← octalOf start (c :: more))
            else if c.isDigit then failAt start (.badEscape (String.ofList ['\\', c]))
            else return .inl (← plainEscape start c)

/-- Whether a group is complete. -/
def isClosed (index : Nat) : Read Bool := do
  return match (← get).groups[index]? with
    | some (some _) => true
    | _ => false

/-- A look-behind may refer to groups in front of it only. -/
def checkLookBehind (index : Nat) : Read Unit := do
  match (← get).lookBehindGroups with
  | none => return ()
  | some count =>
      if !(← isClosed index) then failAt (← place) .openGroup
      else if index ≥ count then failAt (← place) .groupOfSameLookBehind

/-- The text of a group again. -/
def backrefTo (flags : Flags) (start index : Nat) : Read Regex := do
  if index < (← get).groups.length then
    if !(← isClosed index) then failAt start .openGroup
    else
      checkLookBehind index
      return .backref index flags.folding
  else failAt (start + 1) (.invalidGroup index)

/-- An escape that starts with a digit: three octal digits are a character, else it is the number of
a group. -/
def digitEscape (flags : Flags) (start : Nat) (c : Char) : Read Regex := do
  if c = '0' then
    let more ← takeSome isOctal 2
    return .char (Char.ofNat (number 8 (c :: more))) flags.folding
  else
    match ← takeSome Char.isDigit 1 with
    | [d] =>
        if isOctal c && isOctal d then
          match ← takeSome isOctal 1 with
          | [e] => return .char (← octalOf start [c, d, e]) flags.folding
          | _ => backrefTo flags start (number 10 [c, d])
        else backrefTo flags start (number 10 [c, d])
    | _ => backrefTo flags start (number 10 [c])

/-- An escape outside sets. -/
def escape (flags : Flags) (start : Nat) (c : Char) : Read Regex := do
  if c = 'A' then return .anchor .textStart
  else if c = 'Z' then return .anchor .textEnd
  else if c = 'b' then return .anchor (.wordEdge flags.ascii)
  else if c = 'B' then return .anchor (.noWordEdge flags.ascii)
  else
    match classEscape? flags.ascii c, controlEscape? c with
    | some item, _ => return .set false [item] flags.folding
    | none, some d => return .char d flags.folding
    | none, none =>
        match ← commonEscape start c with
        | some d => return .char d flags.folding
        | none =>
            if c.isDigit then digitEscape flags start c
            else return .char (← plainEscape start c) flags.folding

/-! ## Sets -/

def itemOf : Char ⊕ SetItem → SetItem
  | .inl c => .range c c
  | .inr item => item

def setMember (flags : Flags) (start : Nat) : Token → Read (Char ⊕ SetItem)
  | .plain c => return .inl c
  | .escaped c => setEscape flags start c

/-- Reads the members of a set up to its closing bracket. -/
def setItems (flags : Flags) (opening : Nat) : (fuel : Nat) → List SetItem →
    Read (List SetItem)
  | 0, _ => failAt opening .unterminatedSet
  | fuel + 1, items => do
      let start ← place
      match ← next with
      | none => failAt opening .unterminatedSet
      | some token =>
          if token = .plain ']' && !items.isEmpty then return items.reverse
          else
            let member ← setMember flags start token
            if ← accept '-' then
              let second ← place
              match ← next with
              | none => failAt opening .unterminatedSet
              | some (.plain ']') => return (.range '-' '-' :: itemOf member :: items).reverse
              | some last =>
                  let lastMember ← setMember flags second last
                  let fault := FaultCause.badRange token.text last.text
                  let faultPlace := (← place) - (token.text.length + 1 + last.text.length)
                  match member, lastMember with
                  | .inl a, .inl b =>
                      if b < a then failAt faultPlace fault
                      else setItems flags opening fuel (.range a b :: items)
                  | _, _ => failAt faultPlace fault
            else setItems flags opening fuel (itemOf member :: items)

def setAt (flags : Flags) (opening : Nat) : Read Regex := do
  let negated ← accept '^'
  let items ← setItems flags opening ((← get).rest.length + 1) []
  return .set negated items flags.folding

end FeatureSuite.Regex

import FeatureSuite.Json.Basic

/-!
# Reading JSON

A reader over a list of characters. Every step hands on what is left of the text, and the depth of
the recursion is bounded by twice the length of the text, because of two steps one takes a
character.
-/

namespace FeatureSuite.Json

private def skipBlanks (cs : List Char) : List Char :=
  cs.dropWhile fun c => c = ' ' || c = '\t' || c = '\n' || c = '\r'

private def hexValue? (c : Char) : Option Nat :=
  if '0' ≤ c ∧ c ≤ '9' then some (c.toNat - 48)
  else if 'a' ≤ c ∧ c ≤ 'f' then some (c.toNat - 87)
  else if 'A' ≤ c ∧ c ≤ 'F' then some (c.toNat - 55)
  else none

private def readUnit? : List Char → Option (Nat × List Char)
  | a :: b :: c :: d :: rest => do
      let a ← hexValue? a
      let b ← hexValue? b
      let c ← hexValue? c
      let d ← hexValue? d
      some (((a * 16 + b) * 16 + c) * 16 + d, rest)
  | _ => none

/-- The character of one `u` escape, or of two that form a surrogate pair. -/
private def readEscaped? (cs : List Char) : Option (Char × List Char) := do
  let (high, rest) ← readUnit? cs
  if 0xD800 ≤ high ∧ high < 0xDC00 then
    match rest with
    | '\\' :: 'u' :: more =>
        let (low, rest') ← readUnit? more
        if 0xDC00 ≤ low ∧ low < 0xE000 then
          some (Char.ofNat (0x10000 + (high - 0xD800) * 1024 + (low - 0xDC00)), rest')
        else some ('\uFFFD', rest)
    | _ => some ('\uFFFD', rest)
  else if 0xDC00 ≤ high ∧ high < 0xE000 then some ('\uFFFD', rest)
  else some (Char.ofNat high, rest)

/-- Reads the rest of a text up to its closing quote. -/
private def readText? : Nat → List Char → List Char → Option (String × List Char)
  | 0, _, _ => none
  | fuel + 1, acc, cs =>
      match cs with
      | [] => none
      | '"' :: rest => some (String.ofList acc.reverse, rest)
      | '\\' :: 'u' :: rest => do
          let (c, rest) ← readEscaped? rest
          readText? fuel (c :: acc) rest
      | '\\' :: c :: rest =>
          let plain := match c with
            | '"' => some '"' | '\\' => some '\\' | '/' => some '/' | 'b' => some '\x08'
            | 'f' => some '\x0c' | 'n' => some '\n' | 'r' => some '\r' | 't' => some '\t'
            | _ => none
          plain.bind fun d => readText? fuel (d :: acc) rest
      | c :: rest => if c.toNat < 32 then none else readText? fuel (c :: acc) rest

private def digitsToNat (cs : List Char) : Nat :=
  cs.foldl (fun n c => n * 10 + (c.toNat - 48)) 0

private def signed (negative : Bool) (n : Nat) : Int := if negative then -(n : Int) else n

/-- Reads the exponent after its letter, if it is well formed. -/
private def readExponent? : List Char → Option (Int × List Char)
  | c :: rest =>
      let (negative, rest) :=
        if c = '-' then (true, rest) else if c = '+' then (false, rest) else (false, c :: rest)
      let digits := rest.takeWhile Char.isDigit
      if digits.isEmpty then none
      else some (signed negative (digitsToNat digits), rest.dropWhile Char.isDigit)
  | [] => none

private def readNumber? (cs : List Char) : Option (Json × List Char) :=
  let (negative, cs) := match cs with
    | '-' :: rest => (true, rest)
    | _ => (false, cs)
  let whole := cs.takeWhile Char.isDigit
  let whole := if whole.head? = some '0' then ['0'] else whole
  if whole.isEmpty then none
  else
    let rest := cs.drop whole.length
    let (fraction, rest) := match rest with
      | '.' :: more =>
          let digits := more.takeWhile Char.isDigit
          if digits.isEmpty then ([], rest) else (digits, more.dropWhile Char.isDigit)
      | _ => ([], rest)
    let exponent := match rest with
      | c :: more => if c = 'e' || c = 'E' then readExponent? more else none
      | [] => none
    let mantissa := digitsToNat (whole ++ fraction)
    let places : Int := fraction.length
    match fraction, exponent with
    | [], none => some (.int (signed negative mantissa), rest)
    | _, none => some (.real (Double.ofDecimal negative mantissa (-places)), rest)
    | _, some (e, rest) => some (.real (Double.ofDecimal negative mantissa (e - places)), rest)

private def readWord? (word : String) (value : Json) (cs : List Char) : Option (Json × List Char) :=
  if word.toList.isPrefixOf cs then some (value, cs.drop word.length) else none

/-- Puts a field at the end, or in the place of an earlier one of the same name. -/
private def putField (fields : List (String × Json)) (name : String) (value : Json) :
    List (String × Json) :=
  if fields.any (·.1 == name) then
    fields.map fun f => if f.1 == name then (name, value) else f
  else fields ++ [(name, value)]

mutual

private def readValue? : Nat → List Char → Option (Json × List Char)
  | 0, _ => none
  | fuel + 1, cs =>
      match skipBlanks cs with
      | '"' :: rest => (readText? fuel [] rest).map fun (s, rest) => (.string s, rest)
      | '[' :: rest =>
          match skipBlanks rest with
          | ']' :: rest => some (.array [], rest)
          | rest => readItems? fuel [] rest
      | '\x7b' :: rest =>
          match skipBlanks rest with
          | '\x7d' :: rest => some (.object [], rest)
          | rest => readFields? fuel [] rest
      | cs =>
          readWord? "null" .null cs <|> readWord? "true" (.bool true) cs <|>
            readWord? "false" (.bool false) cs <|> readWord? "NaN" (.real .nan) cs <|>
            readWord? "Infinity" (.real (.infinite false)) cs <|>
            readWord? "-Infinity" (.real (.infinite true)) cs <|> readNumber? cs

private def readItems? : Nat → List Json → List Char → Option (Json × List Char)
  | 0, _, _ => none
  | fuel + 1, acc, cs =>
      match readValue? fuel cs with
      | none => none
      | some (item, rest) =>
          match skipBlanks rest with
          | ',' :: rest => readItems? fuel (item :: acc) rest
          | ']' :: rest => some (.array (item :: acc).reverse, rest)
          | _ => none

private def readFields? : Nat → List (String × Json) → List Char → Option (Json × List Char)
  | 0, _, _ => none
  | fuel + 1, acc, cs =>
      match skipBlanks cs with
      | '"' :: rest =>
          match readText? fuel [] rest with
          | none => none
          | some (name, rest) =>
              match skipBlanks rest with
              | ':' :: rest =>
                  match readValue? fuel rest with
                  | none => none
                  | some (value, rest) =>
                      match skipBlanks rest with
                      | ',' :: rest => readFields? fuel (putField acc name value) rest
                      | '\x7d' :: rest => some (.object (putField acc name value), rest)
                      | _ => none
              | _ => none
      | _ => none

end

/-- The value that a text holds; nothing but blanks may stand around it. -/
def parse? (s : String) : Option Json :=
  let cs := s.toList
  match readValue? (2 * cs.length + 2) cs with
  | some (value, rest) => if (skipBlanks rest).isEmpty then some value else none
  | none => none

end FeatureSuite.Json

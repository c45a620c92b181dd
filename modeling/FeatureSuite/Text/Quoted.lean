import FeatureSuite.Text.Table.Printable

/-!
# Quoted texts

Files hold a text between double quotes, with an escape for the quote, the backslash and every
control character below the space. A quoted text therefore has no line break in it. Messages show a
text as a literal: between single quotes unless only double ones spare an escape, and with escapes
for what is not printable.
-/

namespace FeatureSuite.Text

/-! ## Texts in files -/

/-- A hexadecimal digit in lower case. -/
def hexDigit (n : Nat) : Char :=
  if n < 10 then Char.ofNat (48 + n) else Char.ofNat (87 + n)

def hexDigits : Nat → Nat → List Char
  | 0, _ => []
  | width + 1, n => hexDigits width (n / 16) ++ [hexDigit (n % 16)]

/-- The written form of one character inside quotes. -/
def quoteChar (c : Char) : List Char :=
  if c = '"' then ['\\', '"']
  else if c = '\\' then ['\\', '\\']
  else if c = '\n' then ['\\', 'n']
  else if c = '\r' then ['\\', 'r']
  else if c = '\t' then ['\\', 't']
  else if c = '\x0c' then ['\\', 'f']
  else if c = '\x08' then ['\\', 'b']
  else if c.toNat < 32 then ['\\', 'u'] ++ hexDigits 4 c.toNat
  else [c]

/-- The written form of a text: quotes around the written forms of its characters. -/
def quoteChars (cs : List Char) : List Char := '"' :: cs.flatMap quoteChar ++ ['"']

def quote (s : String) : String := String.ofList (quoteChars s.toList)

/-! ## Texts in messages -/

def isPrintable (c : Char) : Bool := printableRanges.contains c

/-- One character of a literal between the given quotes. -/
def literalChar (mark c : Char) : List Char :=
  if c = mark || c = '\\' then ['\\', c]
  else if c = '\n' then ['\\', 'n']
  else if c = '\r' then ['\\', 'r']
  else if c = '\t' then ['\\', 't']
  else if isPrintable c then [c]
  else if c.toNat < 0x100 then ['\\', 'x'] ++ hexDigits 2 c.toNat
  else if c.toNat < 0x10000 then ['\\', 'u'] ++ hexDigits 4 c.toNat
  else ['\\', 'U'] ++ hexDigits 8 c.toNat

/-- A text as a literal. Double quotes are used when it holds a single quote and no double one. -/
def literal (s : String) : String :=
  let cs := s.toList
  let mark := if cs.contains '\'' && !cs.contains '"' then '"' else '\''
  String.ofList (mark :: cs.flatMap (literalChar mark) ++ [mark])

def literalList (items : List String) : String :=
  "[" ++ ", ".intercalate (items.map literal) ++ "]"

end FeatureSuite.Text

import FeatureSuite.Text.Blank

/-!
# Formats of template fields

What a field says behind its colon: how the value is padded, how wide it is and what type it has.
-/

namespace FeatureSuite.Template

/-- Where a value stands in its padding. -/
inductive Align where
  | left
  | right
  /-- Padding between the sign and the digits. -/
  | digits
  | center
  deriving DecidableEq, Repr

def Align.ofChar? : Char → Option Align
  | '<' => some left
  | '>' => some right
  | '=' => some digits
  | '^' => some center
  | _ => none

structure Format where
  fill : Option Char := none
  align : Option Align := none
  width : List Char := []
  grouping : Option Char := none
  precision : List Char := []
  type : List Char := []
  deriving DecidableEq, Repr

def splitAlign : List Char → Option Char × Option Align × List Char
  | [] => (none, none, [])
  | c :: rest =>
      match Align.ofChar? c, rest with
      | some align, _ => (none, some align, rest)
      | none, d :: tail =>
          match Align.ofChar? d with
          | some align => (some c, some align, tail)
          | none => (none, none, c :: rest)
      | none, [] => (none, none, [c])

def dropOne (accepts : Char → Bool) : List Char → List Char
  | [] => []
  | c :: rest => if accepts c then rest else c :: rest

/-- Reads a format: padding and alignment, sign, a zero, width, grouping, precision, type. -/
def Format.read (text : List Char) : Format :=
  let (fill, align, rest) := splitAlign text
  let rest := dropOne (fun c => c = '+' || c = '-' || c = ' ') rest
  let rest := dropOne (· = '0') rest
  let width := rest.takeWhile Char.isDigit
  let rest := rest.dropWhile Char.isDigit
  let (grouping, rest) := match rest with
    | ',' :: rest => (some ',', rest)
    | '_' :: rest => (some '_', rest)
    | rest => (none, rest)
  let (precision, rest) := match rest with
    | '.' :: rest => (rest.takeWhile Char.isDigit, rest.dropWhile Char.isDigit)
    | rest => ([], rest)
  { fill, align, width, grouping, precision, type := rest }

end FeatureSuite.Template

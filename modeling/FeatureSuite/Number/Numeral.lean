import FeatureSuite.Number.Double
import FeatureSuite.Text.Blank
import FeatureSuite.Text.Word

/-!
# Reading numbers

Whole and floating point numbers from text. Blanks around a number are allowed, digits may be those
of any script, and single underscores may stand between digits.
-/

namespace FeatureSuite.Numeral

/-- A digit of any script as a digit of ours, other characters as they are. -/
def plainDigit (c : Char) : Char :=
  match Text.digitValue? c with
  | some n => Char.ofNat (48 + n)
  | none => c

/-- Drops the underscores that stand between two digits. -/
def dropUnderscores : List Char → List Char
  | a :: '_' :: b :: rest =>
      if a.isDigit && b.isDigit then a :: dropUnderscores (b :: rest)
      else a :: '_' :: dropUnderscores (b :: rest)
  | c :: rest => c :: dropUnderscores rest
  | [] => []

/-- A numeral without the blanks around it, in our digits and without underscores. -/
def normalize (s : String) : List Char :=
  dropUnderscores ((Text.trim s.toList).map plainDigit)

def splitSign : List Char → Bool × List Char
  | '-' :: rest => (true, rest)
  | '+' :: rest => (false, rest)
  | cs => (false, cs)

def digitsValue (cs : List Char) : Nat := cs.foldl (fun n c => n * 10 + (c.toNat - 48)) 0

def digits? (cs : List Char) : Option Nat :=
  if cs.isEmpty || !cs.all Char.isDigit then none else some (digitsValue cs)

/-- Reads a whole number. -/
def int? (s : String) : Option Int :=
  let (negative, cs) := splitSign (normalize s)
  (digits? cs).map fun n => if negative then -(n : Int) else n

/-- Reads an exponent behind its letter. -/
def exponent? (cs : List Char) : Option Int :=
  let (negative, cs) := splitSign cs
  (digits? cs).map fun n => if negative then -(n : Int) else n

/-- Reads digits with a point and an exponent: the digits as one number, and the power of ten to
multiply it by. -/
def scientific? (cs : List Char) : Option (Nat × Int) :=
  let whole := cs.takeWhile Char.isDigit
  let rest := cs.dropWhile Char.isDigit
  let (fraction, rest) := match rest with
    | '.' :: rest => (rest.takeWhile Char.isDigit, rest.dropWhile Char.isDigit)
    | rest => ([], rest)
  let places := whole ++ fraction
  if places.isEmpty then none
  else
    let value := digitsValue places
    match rest with
    | [] => some (value, -(fraction.length : Int))
    | c :: rest =>
        if c = 'e' || c = 'E' then
          (exponent? rest).map fun e => (value, e - fraction.length)
        else none

/-- Reads a floating point number; infinity and the value that is no number have names. -/
def double? (s : String) : Option Double :=
  let (negative, cs) := splitSign (normalize s)
  let name := String.ofList (cs.map Char.toLower)
  if name = "inf" || name = "infinity" then some (.infinite negative)
  else if name = "nan" then some .nan
  else (scientific? cs).map fun (digits, exponent) => .ofDecimal negative digits exponent

/-! ## Written numbers -/

theorem isDigit_of_mem_repr {n : Nat} {c : Char} (h : c ∈ n.repr.toList) : c.isDigit = true := by
  rw [Nat.repr, String.toList_ofList] at h
  exact Nat.isDigit_of_mem_toDigits (by decide) (by decide) h

theorem isDigit_of_mem_toString {n : Int} {c : Char} (h : c ∈ (toString n).toList) :
    c.isDigit = true ∨ c = '-' := by
  cases n with
  | ofNat n => exact .inl (isDigit_of_mem_repr h)
  | negSucc n =>
      have hmem : c ∈ ("-" ++ (n + 1).repr).toList := h
      rw [String.toList_append, List.mem_append] at hmem
      rcases hmem with hmem | hmem
      · exact .inr (by simpa using hmem)
      · exact .inl (isDigit_of_mem_repr hmem)

end FeatureSuite.Numeral

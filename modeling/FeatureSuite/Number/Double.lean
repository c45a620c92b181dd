/-!
# Binary floating point numbers

Numbers with 53 binary digits and a bounded exponent, as exact values: no operation of the machine
is involved. A ratio is rounded to the nearest number, and of two equally near ones to the one with
an even last digit.
-/

namespace FeatureSuite

/-- A floating point number. The finite ones are `mantissa * 2 ^ exponent` with a sign; the mantissa
is below `2 ^ 53` and the exponent at least -1074. -/
inductive Double where
  | nan
  | infinite (negative : Bool)
  | finite (negative : Bool) (mantissa : Nat) (exponent : Int)
  deriving DecidableEq, Repr

namespace Double

def leastExponent : Int := -1074

def greatestExponent : Int := 971

/-- The number of binary digits. -/
def precision : Nat := 53

/-- The whole number nearest to a ratio; of two, the even one. -/
def roundRatio (num den : Nat) : Nat :=
  let q := num / den
  let twice := 2 * (num % den)
  if twice > den || (twice = den && q % 2 = 1) then q + 1 else q

/-- The ratio divided by a power of two, as a ratio. -/
def scale (num den : Nat) (exponent : Int) : Nat × Nat :=
  if 0 ≤ exponent then (num, den * Nat.pow 2 exponent.toNat)
  else (num * Nat.pow 2 (-exponent).toNat, den)

/-- The floating point number nearest to a ratio of positive numbers. -/
def ofRatio (negative : Bool) (num den : Nat) : Double :=
  if num = 0 || den = 0 then finite negative 0 leastExponent
  else
    let estimate : Int := (num.log2 : Int) - den.log2 - precision
    let (n, d) := scale num den estimate
    let exponent := if n / d < Nat.pow 2 precision then estimate else estimate + 1
    let exponent := max exponent leastExponent
    let (n, d) := scale num den exponent
    let mantissa := roundRatio n d
    let (mantissa, exponent) :=
      if mantissa = Nat.pow 2 precision then (Nat.pow 2 (precision - 1), exponent + 1)
      else (mantissa, exponent)
    if exponent > greatestExponent then infinite negative else finite negative mantissa exponent

/-- The floating point number nearest to `digits * 10 ^ exponent`. Beyond the range of all floating
point numbers the exponent is not computed with. -/
def ofDecimal (negative : Bool) (digits : Nat) (exponent : Int) : Double :=
  let size : Int := (Nat.toDigits 10 digits).length + exponent
  if digits = 0 then finite negative 0 leastExponent
  else if size > 400 then infinite negative
  else if size < -400 then finite negative 0 leastExponent
  else if 0 ≤ exponent then ofRatio negative (digits * Nat.pow 10 exponent.toNat) 1
  else ofRatio negative digits (Nat.pow 10 (-exponent).toNat)

/-- A finite magnitude as a ratio. -/
def ratio (mantissa : Nat) (exponent : Int) : Nat × Nat :=
  if 0 ≤ exponent then (mantissa * Nat.pow 2 exponent.toNat, 1)
  else (mantissa, Nat.pow 2 (-exponent).toNat)

def whole? : Double → Option Int
  | finite negative mantissa exponent =>
      let (num, den) := ratio mantissa exponent
      if num % den = 0 then
        let n : Int := (num / den : Nat)
        some (if negative then -n else n)
      else none
  | _ => none

def hundredth : Double → Double
  | finite negative mantissa exponent =>
      let (num, den) := ratio mantissa exponent
      ofRatio negative num (den * 100)
  | other => other

/-- A number times a whole number, rounded, without its fraction and its sign. -/
def timesTruncated (factor : Nat) : Double → Nat
  | finite _ mantissa exponent =>
      let (num, den) := ratio mantissa exponent
      match ofRatio false (num * factor) den with
      | finite _ mantissa exponent =>
          let (num, den) := ratio mantissa exponent
          num / den
      | _ => 0
  | _ => 0

end Double

end FeatureSuite

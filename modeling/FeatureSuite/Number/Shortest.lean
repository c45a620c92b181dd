import FeatureSuite.Number.Double

/-!
# Shortest text of a floating point number

A number is written with the fewest decimal digits that read back as the number, and of those with
the nearest ones. The text is positional from `0.0001` up to but without `10 ^ 16`, and has an
exponent of at least two digits beyond.
-/

namespace FeatureSuite.Double

/-- How many decimal digits a ratio has in front of its point; negative or zero if its first digit
stands behind. -/
def decimalPoint (num den : Nat) : Int :=
  if den ≤ num then (Nat.toDigits 10 (num / den)).length
  else leadingZeros 400 num 0
where
  /-- The number of zeros behind the point, counted down. -/
  leadingZeros : Nat → Nat → Int → Int
    | 0, _, point => point
    | fuel + 1, num, point =>
        if den ≤ num * 10 then point else leadingZeros fuel (num * 10) (point - 1)

/-- The digits of a positive magnitude on the grid of the given step, if one of the two neighbours
on the grid reads back as the magnitude; the nearer one if both do, and the even one if both are
near. -/
def onGrid? (mantissa : Nat) (exponent : Int) (step : Int) : Option Nat :=
  let (num, den) := ratio mantissa exponent
  let (num, den) :=
    if 0 ≤ step then (num, den * Nat.pow 10 step.toNat) else (num * Nat.pow 10 (-step).toNat, den)
  let low := num / den
  let readsBack (digits : Nat) : Bool :=
    digits != 0 && ofDecimal false digits step == finite false mantissa exponent
  match readsBack low, readsBack (low + 1) with
  | true, true => some (roundRatio num den)
  | true, false => some low
  | false, true => some (low + 1)
  | false, false => none

/-- The fewest digits of a positive magnitude and the step of their grid, tried from a number of
digits on. -/
def shortestFrom (mantissa : Nat) (exponent point : Int) : (fuel count : Nat) → Nat × Int
  | 0, _ => (0, 0)
  | fuel + 1, count =>
      let step := point - count
      match onGrid? mantissa exponent step with
      | some digits => (digits, step)
      | none => shortestFrom mantissa exponent point fuel (count + 1)

/-- Positional text from the digits and the place of the point among them. -/
def positional (digits : List Char) (point : Int) : List Char :=
  if point ≤ 0 then '0' :: '.' :: List.replicate (-point).toNat '0' ++ digits
  else
    let whole := point.toNat
    if digits.length ≤ whole then
      digits ++ List.replicate (whole - digits.length) '0' ++ ['.', '0']
    else digits.take whole ++ '.' :: digits.drop whole

/-- Text with an exponent from the digits and the place of the point among them. -/
def scientific (digits : List Char) (point : Int) : List Char :=
  let exponent := point - 1
  let places := Nat.toDigits 10 exponent.natAbs
  let places := if places.length < 2 then '0' :: places else places
  let fraction := match digits.drop 1 with
    | [] => []
    | rest => '.' :: rest
  digits.take 1 ++ fraction ++ 'e' :: (if exponent < 0 then '-' else '+') :: places

def toText : Double → String
  | nan => "nan"
  | infinite negative => if negative then "-inf" else "inf"
  | finite negative mantissa exponent =>
      let sign := if negative then "-" else ""
      if mantissa = 0 then sign ++ "0.0"
      else
        let (num, den) := ratio mantissa exponent
        let (shortest, step) := shortestFrom mantissa exponent (decimalPoint num den) 18 1
        let digits := Nat.toDigits 10 shortest
        let point := step + digits.length
        let digits := (digits.reverse.dropWhile (· == '0')).reverse
        sign ++ String.ofList
          (if -4 < point && point ≤ 16 then positional digits point else scientific digits point)

end FeatureSuite.Double

import FeatureSuite.Number.Numeral

/-!
# Decimal numbers

Decimal numbers that keep the digits they were written with.
-/

namespace FeatureSuite

/-- A decimal number: digits with a power of ten, or one of the names. -/
inductive Decimal where
  | finite (negative : Bool) (digits : Nat) (exponent : Int)
  | infinite (negative : Bool)
  | nan (negative : Bool)
  deriving DecidableEq, Repr

namespace Decimal

def read? (s : String) : Option Decimal :=
  let cs := (Text.trim s.toList).filter (· != '_') |>.map Numeral.plainDigit
  let (negative, cs) := Numeral.splitSign cs
  let name := String.ofList (cs.map Char.toLower)
  if name = "inf" || name = "infinity" then some (infinite negative)
  else if name = "nan" then some (nan negative)
  else (Numeral.scientific? cs).map fun (digits, exponent) => finite negative digits exponent

def withPoint (digits : List Char) (places : Nat) : List Char :=
  if places = 0 then digits
  else
    let padded := List.replicate (places + 1 - digits.length) '0' ++ digits
    let whole := padded.length - places
    padded.take whole ++ '.' :: padded.drop whole

/-- The text of a decimal number. It has an exponent if the digits do not reach the unit, or if more
than six places lie between the point and the first digit. -/
def toText : Decimal → String
  | nan negative => if negative then "-NaN" else "NaN"
  | infinite negative => if negative then "-Infinity" else "Infinity"
  | finite negative digits exponent =>
      let cs := Nat.toDigits 10 digits
      let leading : Int := exponent + cs.length - 1
      let text :=
        if exponent ≤ 0 && -6 ≤ leading then withPoint cs (-exponent).toNat
        else
          let fraction := match cs.drop 1 with
            | [] => []
            | rest => '.' :: rest
          cs.take 1 ++ fraction ++ 'E' :: (if leading < 0 then '-' else '+') ::
            Nat.toDigits 10 leading.natAbs
      String.ofList (if negative then '-' :: text else text)

end Decimal

end FeatureSuite

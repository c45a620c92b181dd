import FeatureSuite.Calendar.Moment
import FeatureSuite.Regex.Matcher
import FeatureSuite.Regex.Parser

/-!
# Reading dates and times by a template

A template is text with directives, a percent sign and a letter, that stand for the parts of a date
or a time. Letters may be of either case, and runs of blanks stand for each other.
-/

namespace FeatureSuite.Calendar

open Regex (BadPattern)

/-- The year of a date that is written without one. -/
def presentYear : Nat := 2026

/-- Why a text is no date or time. -/
inductive MomentFault where
  | range (fault : RangeFault)
  | strayPercent (template : String)
  | unknownDirective (directive template : String)
  | badTemplate (bad : BadPattern)
  | mismatch (text template : String)
  | unread (rest : String)
  | unevenOffset (text : String)
  deriving DecidableEq

/-- Why a text is no date or time, in words. -/
def MomentFault.message : MomentFault → String
  | range fault => fault.message
  | strayPercent template => s!"stray % in format '{template}'"
  | unknownDirective directive template =>
      s!"'{directive}' is a bad directive in format '{template}'"
  | badTemplate bad => bad.message
  | mismatch text template =>
      s!"time data {Text.literal text} does not match format {Text.literal template}"
  | unread rest => s!"unconverted data remains: {rest}"
  | unevenOffset text => s!"Inconsistent use of : in {text}"

private def oneOf (names : List String) : String := "|".intercalate names

def directivePattern? : Char → Option String
  | 'a' => some (oneOf (dayNames.map shortName))
  | 'A' => some (oneOf dayNames)
  | 'b' => some (oneOf (monthNames.map shortName))
  | 'B' => some (oneOf monthNames)
  | 'd' => some "3[0-1]|[1-2]\\d|0[1-9]|[1-9]| [1-9]"
  | 'H' => some "2[0-3]|[0-1]\\d|\\d"
  | 'I' => some "1[0-2]|0[1-9]|[1-9]"
  | 'j' => some "36[0-6]|3[0-5]\\d|[1-2]\\d\\d|0[1-9]\\d|00[1-9]|[1-9]\\d|0[1-9]|[1-9]"
  | 'm' => some "1[0-2]|0[1-9]|[1-9]"
  | 'M' => some "[0-5]\\d|\\d"
  | 'p' => some "am|pm"
  | 'S' => some "6[0-1]|[0-5]\\d|\\d"
  | 'U' | 'W' => some "5[0-3]|[0-4]\\d|\\d"
  | 'w' => some "[0-6]"
  | 'y' => some "\\d\\d"
  | 'Y' => some "\\d\\d\\d\\d"
  | 'f' => some "[0-9]\x7b1,6\x7d"
  | 'z' => some "[+-]\\d\\d:?[0-5]\\d(:?[0-5]\\d(\\.\\d\x7b1,6\x7d)?)?|(?-i:Z)"
  | _ => none

/-- The regular expression for a template: directives become groups of their names. -/
def templatePattern (template : String) : List Char → Except MomentFault (List Char)
  | [] => return []
  | ['%'] => throw (.strayPercent template)
  | '%' :: '%' :: rest => return '%' :: (← templatePattern template rest)
  | '%' :: c :: rest => do
      match directivePattern? c with
      | none => throw (.unknownDirective (String.singleton c) template)
      | some pattern =>
          return s!"(?P<{c}>{pattern})".toList ++ (← templatePattern template rest)
  | c :: rest => do
      let tail ← templatePattern template rest
      if Text.isBlank c then
        return match rest with
          | d :: _ => if Text.isBlank d then tail else "\\s+".toList ++ tail
          | [] => "\\s+".toList ++ tail
      else if "\\.^$*+?()\x7b\x7d[]|".toList.contains c then return '\\' :: c :: tail
      else return c :: tail

/-- The day of the week of the first day of a year, counted from Monday. -/
def firstWeekday (year : Nat) : Nat :=
  let y := year - 1
  (365 * y + y / 4 - y / 100 + y / 400) % 7

def daysInYear (year : Nat) : Nat := if isLeapYear year then 366 else 365

def monthAndDay (year : Nat) : (fuel month day : Nat) → Nat × Nat
  | 0, month, day => (month, day)
  | fuel + 1, month, day =>
      if day ≤ daysInMonth year month then (month, day)
      else monthAndDay year fuel (month + 1) (day - daysInMonth year month)

/-- The date of a day of a year, counted from 1; earlier and later years are reached beyond the
ends. -/
def dateOfDay (year : Nat) (day : Int) : Nat × Nat × Nat :=
  let (year, day) :=
    if day ≤ 0 then (year - 1, (day + daysInYear (year - 1)).toNat) else (year, day.toNat)
  let (year, day) :=
    if day > daysInYear year then (year + 1, day - daysInYear year) else (year, day)
  (year, monthAndDay year 11 1 day)

def dayOfWeek (year week weekday : Nat) (fromMonday : Bool) : Int :=
  let first := firstWeekday year
  let (first, weekday) :=
    if fromMonday then (first, weekday) else ((first + 1) % 7, (weekday + 1) % 7)
  if week = 0 then 1 + weekday - first
  else 1 + ((7 - first) % 7 + 7 * (week - 1)) + weekday

/-- The digits of a numeral. -/
private def numberOf (text : String) : Nat :=
  text.toList.foldl (fun n c => n * 10 + (Text.digitValue? c).getD 0) 0

def hourOfHalf (hour : Nat) (afternoon : Bool) : Nat :=
  if afternoon then (if hour = 12 then 12 else hour + 12) else (if hour = 12 then 0 else hour)

/-- The distance from universal time in seconds. -/
def readOffset (text : String) : Except MomentFault Int :=
  match text.toList with
  | sign :: a :: b :: ':' :: c :: d :: rest =>
      match rest with
      | [] => return signed sign (parts a b c d [])
      | ':' :: rest => return signed sign (parts a b c d rest)
      | _ => throw (.unevenOffset text)
  | sign :: a :: b :: c :: d :: rest => return signed sign (parts a b c d rest)
  | _ => return 0
where
  /-- The seconds of hours, minutes and seconds. -/
  parts (a b c d : Char) (rest : List Char) : Nat :=
    let two (a b : Char) : Nat := numberOf (String.ofList [a, b])
    two a b * 3600 + two c d * 60 + match rest with
      | e :: f :: _ => two e f
      | _ => 0
  /-- A distance to the east or to the west. -/
  signed (sign : Char) (seconds : Nat) : Int := if sign = '-' then -(seconds : Int) else seconds

private def nameIndex (names : List String) (name : String) : Nat :=
  (names.findIdx? fun other => Text.lower other == Text.lower name).getD 0

/-- Reads a date and a time by a template. What the template does not name is the start of the year
1900. -/
def readMoment (template text : String) : Except MomentFault (Date × Time) := do
  let pattern := String.ofList (← templatePattern template template.toList)
  let compiled ← match Regex.compile pattern { ignoreCase := true } with
    | .ok compiled => pure compiled
    | .error bad => throw (.badTemplate bad)
  let chars := text.toList.toArray
  match compiled.node.matcher chars { place := 0 } some with
  | none => throw (.mismatch text template)
  | some found =>
      if found.place ≠ chars.size then throw (.unread (Regex.slice chars found.place chars.size))
      else
        let part? (c : Char) : Option String := do
          let (_, index) ← compiled.names.find? (·.1 == String.singleton c)
          let (first, last) ← found.capture? index
          return Regex.slice chars first last
        let number? (c : Char) : Option Nat := (part? c).map fun s => numberOf (Text.strip s)
        let year? : Option Nat :=
          match number? 'Y', number? 'y' with
          | some y, _ => some y
          | none, some y => some (if y ≤ 68 then y + 2000 else y + 1900)
          | none, none => none
        let month : Nat :=
          match number? 'm', part? 'B', part? 'b' with
          | some m, _, _ => m
          | none, some name, _ => nameIndex monthNames name + 1
          | none, none, some name => nameIndex (monthNames.map shortName) name + 1
          | none, none, none => 1
        let day := (number? 'd').getD 1
        let hour : Nat :=
          match number? 'H', number? 'I' with
          | some h, _ => h
          | none, some h => hourOfHalf h ((part? 'p').any fun half => Text.lower half == "pm")
          | none, none => 0
        let weekday? : Option Nat :=
          match part? 'A', part? 'a', number? 'w' with
          | some name, _, _ => some (nameIndex dayNames name)
          | none, some name, _ => some (nameIndex (dayNames.map shortName) name)
          | none, none, some w => some (if w = 0 then 6 else w - 1)
          | none, none, none => none
        let leapDay := year?.isNone && month = 2 && day = 29
        let year := year?.getD (if leapDay then 1904 else 1900)
        let dayOfYear? : Option Int :=
          match number? 'j', weekday?, number? 'U', number? 'W' with
          | some j, _, _, _ => some j
          | none, some weekday, some week, _ => some (dayOfWeek year week weekday false)
          | none, some weekday, none, some week => some (dayOfWeek year week weekday true)
          | _, _, _, _ => none
        let (year, month, day) :=
          match dayOfYear? with
          | some n => dateOfDay year n
          | none => (year, month, day)
        let offset ← match part? 'z' with
          | none => pure none
          | some offset => some <$> readOffset offset
        let microsecond := match part? 'f' with
          | none => 0
          | some fraction => numberOf fraction * Nat.pow 10 (6 - fraction.length)
        let named := (template.toList.zip (template.toList.drop 1)).any fun (a, b) =>
          a = '%' && (b = 'y' || b = 'Y')
        let check : Except RangeFault (Date × Time) := do
          let date ← Date.check year month day
          let time ← Time.check
            { hour, minute := (number? 'M').getD 0, second := (number? 'S').getD 0, microsecond
              offset }
          let date ← if named then pure date else Date.check presentYear date.month date.day
          return (date, time)
        match check with
        | .ok moment => return moment
        | .error fault => throw (.range fault)

end FeatureSuite.Calendar

/-!
# Dates and times

Dates of the Gregorian calendar, times of the day with microseconds, and the text of both.
-/

namespace FeatureSuite.Calendar

structure Date where
  year : Nat
  month : Nat
  day : Nat
  deriving DecidableEq, Repr

/-- A time of the day, with the distance from universal time in seconds if it is known. -/
structure Time where
  hour : Nat
  minute : Nat
  second : Nat
  microsecond : Nat
  offset : Option Int := none
  deriving DecidableEq, Repr

/-- Why numbers make no date or time. -/
inductive RangeFault where
  | year (year : Nat)
  | month
  | day
  | hour
  | minute
  | second
  deriving DecidableEq, Repr

def RangeFault.message : RangeFault → String
  | year n => s!"year {n} is out of range"
  | month => "month must be in 1..12"
  | day => "day is out of range for month"
  | hour => "hour must be in 0..23"
  | minute => "minute must be in 0..59"
  | second => "second must be in 0..59"

def isLeapYear (year : Nat) : Bool := year % 4 = 0 && (year % 100 ≠ 0 || year % 400 = 0)

def daysInMonth (year month : Nat) : Nat :=
  if month = 2 then (if isLeapYear year then 29 else 28)
  else if month = 4 || month = 6 || month = 9 || month = 11 then 30
  else 31

/-- A date of the given numbers, or the first number that is out of range. -/
def Date.check (year month day : Nat) : Except RangeFault Date :=
  if year = 0 || 9999 < year then throw (.year year)
  else if month = 0 || 12 < month then throw .month
  else if day = 0 || daysInMonth year month < day then throw .day
  else return ⟨year, month, day⟩

/-- A time, or the first number that is out of range. -/
def Time.check (time : Time) : Except RangeFault Time :=
  if 23 < time.hour then throw .hour
  else if 59 < time.minute then throw .minute
  else if 59 < time.second then throw .second
  else return time

/-- A number in at least `width` digits. -/
def padded (width n : Nat) : String :=
  let digits := Nat.toDigits 10 n
  String.ofList (List.replicate (width - digits.length) '0' ++ digits)

def Date.toText (date : Date) : String :=
  s!"{padded 4 date.year}-{padded 2 date.month}-{padded 2 date.day}"

/-- The text of a distance from universal time; the seconds are left out if there are none. -/
def offsetText (offset : Int) : String :=
  let sign := if offset < 0 then "-" else "+"
  let n := offset.natAbs
  let minutes := s!"{sign}{padded 2 (n / 3600)}:{padded 2 (n / 60 % 60)}"
  if n % 60 = 0 then minutes else s!"{minutes}:{padded 2 (n % 60)}"

/-- The text of a time; the microseconds are left out if there are none. -/
def Time.toText (time : Time) : String :=
  let clock := s!"{padded 2 time.hour}:{padded 2 time.minute}:{padded 2 time.second}"
  let fraction := if time.microsecond = 0 then "" else s!".{padded 6 time.microsecond}"
  clock ++ fraction ++ (time.offset.map offsetText).getD ""

def monthNames : List String :=
  ["January", "February", "March", "April", "May", "June", "July", "August", "September", "October",
    "November", "December"]

def dayNames : List String :=
  ["Monday", "Tuesday", "Wednesday", "Thursday", "Friday", "Saturday", "Sunday"]

/-- The first three letters of a name. -/
def shortName (name : String) : String := String.ofList (name.toList.take 3)

def monthNumber? (name : String) : Option Nat :=
  (monthNames.findIdx? fun month => month == name || shortName month == name).map (· + 1)

end FeatureSuite.Calendar

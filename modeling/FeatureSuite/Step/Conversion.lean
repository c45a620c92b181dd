import FeatureSuite.Calendar.Template
import FeatureSuite.Number.Decimal
import FeatureSuite.Number.Shortest

/-!
# Converting captured texts

A field of a step pattern turns the text that it captured into a value, which the handler of the
step is given. The text fits the field's pattern, but it may still stand for no value.
-/

namespace FeatureSuite

open Calendar (Date Time MomentFault RangeFault)

/-- What the handler of a step is given. -/
inductive Value where
  /-- A part of the pattern that took no part in the match. -/
  | absent
  | text (s : String)
  | int (n : Int)
  | double (d : Double)
  | decimal (d : Decimal)
  | date (d : Calendar.Date)
  | time (t : Calendar.Time)
  | moment (d : Calendar.Date) (t : Calendar.Time)
  /-- Values under names. -/
  | group (fields : List (String × Value))
  deriving Repr, Inhabited

def Value.kindName : Value → String
  | absent => "NoneType"
  | text _ => "str"
  | int _ => "int"
  | double _ => "float"
  | decimal _ => "decimal.Decimal"
  | date _ => "datetime.date"
  | time _ => "datetime.time"
  | moment _ _ => "datetime.datetime"
  | group _ => "dict"

/-- Why a captured text stands for no value. -/
inductive ConversionFault where
  | notWhole (base : Nat) (text : String)
  /-- More decimal digits than a whole number may have. -/
  | tooManyDigits (count : Nat)
  | notDouble (text : String)
  | notDecimal
  | moment (fault : MomentFault)
  /-- A date of fewer or more than three parts. -/
  | dateParts (count : Nat)
  /-- The field has no group of its own. -/
  | noGroup
  /-- The group took no part in the match. -/
  | unmatched
  /-- A name inside a value of a kind that holds no others. -/
  | notNested (kindName : String)
  /-- Names one inside the other in such a value. -/
  | notDeeplyNested (kindName : String)
  /-- An error of a kind and with a message of its own, raised by what a project converts with. -/
  | raised (label message : String)
  deriving DecidableEq

/-- The number of decimal digits that a whole number may have. -/
def mostDigits : Nat := 4300

def ConversionFault.label : ConversionFault → String
  | notWhole .. | tooManyDigits _ | notDouble _ | dateParts _ => "ValueError"
  | notDecimal => "InvalidOperation"
  | moment (.badTemplate bad) => bad.label
  | moment _ => "ValueError"
  | noGroup => "IndexError"
  | unmatched | notNested _ => "TypeError"
  | notDeeplyNested _ => "AttributeError"
  | raised label _ => label

/-- Why a captured text stands for no value, in words. -/
def ConversionFault.message : ConversionFault → String
  | notWhole base text => s!"invalid literal for int() with base {base}: {Text.literal text}"
  | tooManyDigits count =>
      s!"Exceeds the limit ({mostDigits} digits) for integer string conversion: " ++
        s!"value has {count} digits; use sys.set_int_max_str_digits() to increase the limit"
  | notDouble text => s!"could not convert string to float: {Text.literal text}"
  | notDecimal => "[<class 'decimal.ConversionSyntax'>]"
  | moment fault => fault.message
  | dateParts count =>
      if count < 3 then s!"not enough values to unpack (expected 3, got {count})"
      else "too many values to unpack (expected 3)"
  | noGroup => "list index out of range"
  | unmatched => "'NoneType' object is not subscriptable"
  | notNested kindName => s!"'{kindName}' object does not support item assignment"
  | notDeeplyNested kindName => s!"'{kindName}' object has no attribute 'setdefault'"
  | raised _ message => message

/-- What a project does with the texts that a type of its own captures. -/
abbrev Converter := String → Except ConversionFault Value

inductive DateOrder where
  | yearMonthDay
  | monthDayYear
  | dayMonthYear
  deriving DecidableEq, Repr

inductive DatePlace where
  /-- One group holds all parts. -/
  | joined (order : DateOrder) (group : Nat)
  /-- Every part has a group. -/
  | apart (day month year : Nat)
  /-- The year is not written. -/
  | yearless (month day : Nat)
  deriving DecidableEq, Repr

/-- Where the parts of a date and a time are captured, counted from the group of the field. -/
structure MomentPlaces where
  date : Option DatePlace := none
  time : Nat
  half : Option Nat := none
  zone : Option Nat := none
  deriving DecidableEq, Repr

/-- What is done with a captured text. -/
inductive Conversion where
  | text
  /-- A whole number; without a base it is read from the start of the text. -/
  | int (base : Option Nat)
  | percentage
  | double
  | decimal
  | moment (places : MomentPlaces)
  | template (directives : String)
  | custom (converter : Converter)

def namedBase (digits : List Char) : Nat :=
  match digits with
  | '0' :: mark :: _ :: _ =>
      if mark = 'b' || mark = 'B' then 2
      else if mark = 'o' || mark = 'O' then 8
      else if mark = 'x' || mark = 'X' then 16
      else 10
  | _ => 10

def digitOf (c : Char) : Nat := if c.isDigit then c.toNat - 48 else c.toNat - 87

/-- Reads a whole number with a sign. Characters that are no digits of the base are left out. -/
def wholeNumber (base : Option Nat) (s : String) : Except ConversionFault Value := do
  let (negative, digits) := Numeral.splitSign s.toList
  let base := base.getD (namedBase digits)
  let isDigit (c : Char) : Bool :=
    (c.isDigit || ('a' ≤ c && c ≤ 'z')) && digitOf c < base
  match (Text.lower s).toList.filter isDigit with
  | [] => throw (.notWhole base "")
  | digits =>
      if base = 10 ∧ mostDigits < digits.length then throw (.tooManyDigits digits.length)
      else
        let n : Nat := digits.foldl (fun n c => n * base + digitOf c) 0
        return .int (if negative then -(n : Int) else n)

/-- Reads a percentage as a part of one. -/
def percentageOf (s : String) : Except ConversionFault Value :=
  let number := String.ofList (s.toList.take (s.length - 1))
  match Numeral.double? number with
  | some d => return .double d.hundredth
  | none => throw (.notDouble number)

/-- Cuts a date at slashes, dashes and blanks. -/
def dateParts (s : String) : List String :=
  (cut s.toList).map String.ofList
where
  /-- Cuts a list at separators. -/
  cut : List Char → List (List Char)
    | [] => [[]]
    | c :: rest =>
        if c = '/' || c = '-' || Text.isBlank c then [] :: cut rest
        else
          match cut rest with
          | [] => [[c]]
          | part :: parts => (c :: part) :: parts

/-- Reads a number that the pattern has made sure of. -/
def plainNumber (s : String) : Except ConversionFault Nat :=
  match Numeral.int? s with
  | some n => return n.toNat
  | none => throw (.notWhole 10 s)

/-- Reads a month as a number or a name. -/
def monthOf (s : String) : Except ConversionFault Nat :=
  match Calendar.monthNumber? s with
  | some n => return n
  | none => plainNumber s

/-- Reads a time of the day: hours, minutes, seconds and microseconds. -/
def clockOf (s : String) : Except ConversionFault Time := do
  match Text.splitOnChar ':' s.toList with
  | [hour, minute] =>
      return ⟨← plainNumber (.ofList hour), ← plainNumber (.ofList minute), 0, 0, none⟩
  | hour :: minute :: second :: _ =>
      let fraction := second.dropWhile (· != '.')
      let microsecond :=
        match Numeral.double? (String.ofList fraction) with
        | some d => d.timesTruncated 1000000
        | none => 0
      let second ← plainNumber (.ofList (second.takeWhile (· != '.')))
      let hour ← plainNumber (.ofList hour)
      let minute ← plainNumber (.ofList minute)
      return ⟨hour, minute, second, microsecond, none⟩
  | _ => return ⟨0, 0, 0, 0, none⟩

/-- The hour of the day on a clock of twelve hours. -/
def hourInHalf (hour : Nat) (half : String) : Nat :=
  if half = "AM" && hour = 12 then 0
  else if half = "PM" && hour ≠ 12 then hour + 12
  else hour

/-- The distance from universal time in seconds. -/
def zoneOffset (s : String) : Except ConversionFault Int := do
  if s = "Z" then return 0
  else
    let zone := Text.trim s.toList
    let digits := zone.drop 1
    let (hours, minutes) :=
      if zone.contains ':' then
        (digits.takeWhile (· != ':'), (digits.dropWhile (· != ':')).drop 1)
      else if zone.length = 4 then (digits.take 1, digits.drop 1)
      else (digits.take 2, (digits.drop 2).take 2)
    let seconds : Nat :=
      ((← plainNumber (.ofList hours)) * 60 + (← plainNumber (.ofList minutes))) * 60
    return if zone.head? = some '-' then -(seconds : Int) else seconds

/-- Reads a date and a time whose parts have been captured. -/
def momentOf (places : MomentPlaces) (group : Nat → Option String) :
    Except ConversionFault Value := do
  let part (i : Nat) : Except ConversionFault String :=
    match group i with
    | some s => return s
    | none => throw .unmatched
  let date? : Option (String × String × String) ← match places.date with
    | none => pure none
    | some (.joined order i) => do
        match order, dateParts (← part i) with
        | .yearMonthDay, [y, m, d] => pure (some (y, m, d))
        | .monthDayYear, [m, d, y] => pure (some (y, m, d))
        | .dayMonthYear, [d, m, y] => pure (some (y, m, d))
        | _, parts => throw (.dateParts parts.length)
    | some (.apart d m y) => do pure (some (← part y, ← part m, ← part d))
    | some (.yearless m d) => do pure (some (toString Calendar.presentYear, ← part m, ← part d))
  let clock ← match group places.time with
    | none => pure ⟨0, 0, 0, 0, none⟩
    | some s => clockOf s
  let half := (places.half.bind group).map Text.strip
  let clock := { clock with hour := hourInHalf clock.hour (half.getD "") }
  let zone := places.zone.bind group
  let offset ← match zone with
    | none => pure none
    | some zone => if zone = "" then pure none else some <$> zoneOffset zone
  let clock := { clock with offset }
  let checked {α : Type} (result : Except RangeFault α) : Except ConversionFault α :=
    match result with
    | .ok a => return a
    | .error fault => throw (.moment (.range fault))
  match date? with
  | none => return .time (← checked (Time.check clock))
  | some (y, m, d) => do
      let date ← checked (Date.check (← plainNumber y) (← monthOf m) (← plainNumber d))
      return .moment date (← checked (Time.check clock))

def hasDirective (template : String) (directives : String) : Bool :=
  (template.toList.zip (template.toList.drop 1)).any fun (a, b) =>
    a = '%' && directives.toList.contains b

/-- Reads a date, a time or both by a template. -/
def templateValue (template s : String) : Except ConversionFault Value :=
  match Calendar.readMoment template s with
  | .error fault => throw (.moment fault)
  | .ok (date, time) =>
      match hasDirective template "aAwdbBmyYjUW", hasDirective template "HIpMSfz" with
      | true, true => return .moment date time
      | true, false => return .date date
      | false, true => return .time { time with offset := none }
      | false, false => return .absent

/-- Converts the text of a field. `group` gives the texts of the groups counted from the group of
the field. -/
def Conversion.apply (conversion : Conversion) (captured : Option String)
    (group : Nat → Option String) : Except ConversionFault Value :=
  match conversion, captured with
  | .text, none => return .absent
  | .text, some s => return .text s
  | .moment places, _ => momentOf places group
  | _, none => throw .unmatched
  | .int base, some s => wholeNumber base s
  | .percentage, some s => percentageOf s
  | .double, some s =>
      match Numeral.double? s with
      | some d => return .double d
      | none => throw (.notDouble s)
  | .decimal, some s =>
      match Decimal.read? s with
      | some d => return .decimal d
      | none => throw .notDecimal
  | .template directives, some s => templateValue directives s
  | .custom converter, some s => converter s

end FeatureSuite

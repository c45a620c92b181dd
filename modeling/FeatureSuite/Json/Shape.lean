import FeatureSuite.Json.Basic
import FeatureSuite.Text.Blank

/-!
# Reading typed values from JSON

A reader turns a JSON value into a typed one or lists everything that is wrong with it, each fault
with the path to its place. Fields are looked up by their name on the wire, which joins words by
capitals, and else by the same words joined by underscores; other fields are ignored.
-/

namespace FeatureSuite.Json

/-- What can be wrong with a value. -/
inductive FaultKind where
  | missing
  | stringType
  | listType
  | modelType
  | intType
  | intParsing
  | intParsingSize
  | intFromFloat
  | finiteNumber
  deriving DecidableEq

def FaultKind.label : FaultKind → String
  | .missing => "missing"
  | .stringType => "string_type"
  | .listType => "list_type"
  | .modelType => "model_type"
  | .intType => "int_type"
  | .intParsing => "int_parsing"
  | .intParsingSize => "int_parsing_size"
  | .intFromFloat => "int_from_float"
  | .finiteNumber => "finite_number"

/-- A fault and the names and indexes that lead to it. -/
structure Fault where
  kind : FaultKind
  path : List String
  deriving DecidableEq

/-- A fault seen from one level further out. -/
def Fault.under (step : String) (fault : Fault) : Fault := { fault with path := step :: fault.path }

/-- A value, or all faults of the input in the order of the fields. -/
inductive Checked (α : Type) where
  | valid (value : α)
  | invalid (faults : List Fault)

namespace Checked

variable {α β : Type}

/-- Applies a function to a valid value. -/
def map (f : α → β) : Checked α → Checked β
  | valid a => valid (f a)
  | invalid faults => invalid faults

/-- Combines two results; the faults of both are kept. -/
def app : Checked (α → β) → Checked α → Checked β
  | valid f, valid a => valid (f a)
  | valid _, invalid faults => invalid faults
  | invalid faults, valid _ => invalid faults
  | invalid faults, invalid more => invalid (faults ++ more)

instance : Applicative Checked where
  pure := valid
  map := map
  seq f x := app f (x ())

/-- Moves the faults of a part under the name of the part. -/
def under (step : String) : Checked α → Checked α
  | valid a => valid a
  | invalid faults => invalid (faults.map (Fault.under step))

/-- One fault at this place. -/
def fail (kind : FaultKind) : Checked α := invalid [⟨kind, []⟩]

end Checked

/-- Reads a typed value. -/
abbrev Reader (α : Type) := Json → Checked α

def readText : Reader String
  | .string s => .valid s
  | _ => .fail .stringType

/-- The number written in decimal digits, with single underscores allowed between them. -/
def numeral? : List Char → Option Nat
  | [] => none
  | cs => go none cs
where
  /-- `before` is the value so far, absent where a digit has to follow. -/
  go : Option Nat → List Char → Option Nat
    | before, [] => before
    | none, c :: rest => if c.isDigit then go (some (c.toNat - 48)) rest else none
    | some n, '_' :: c :: rest =>
        if c.isDigit then go (some (n * 10 + (c.toNat - 48))) rest else none
    | some n, c :: rest => if c.isDigit then go (some (n * 10 + (c.toNat - 48))) rest else none

/-- The whole number that a text shows: blanks around it, a sign, and a fraction of zeros are
allowed. -/
def wholeNumber? (s : String) : Option Int :=
  let cs := Text.trim s.toList
  let (negative, cs) := match cs with
    | '-' :: rest => (true, rest)
    | '+' :: rest => (false, rest)
    | _ => (false, cs)
  let whole := cs.takeWhile (· != '.')
  if (cs.drop (whole.length + 1)).all (· == '0') then
    (numeral? whole).map fun n => if negative then -(n : Int) else n
  else none

/-- The length of the longest text that is read as a whole number. -/
def longestNumeral : Nat := 4300

/-- Reads a whole number. A truth value counts as 0 or 1, a text has to show a whole number. -/
def readInt : Reader Int
  | .int n => .valid n
  | .bool b => .valid (if b then 1 else 0)
  | .real .nan | .real (.infinite _) => .fail .finiteNumber
  | .real number =>
      match number.whole? with
      | none => .fail .intFromFloat
      | some n => if n.natAbs < Nat.pow 2 63 then .valid n else .fail .intParsingSize
  | .string s =>
      if s.length > longestNumeral then .fail .intParsingSize
      else
        match wholeNumber? s with
        | some n => .valid n
        | none => .fail .intParsing
  | _ => .fail .intType

def readNullable {α : Type} (read : Reader α) : Reader (Option α)
  | .null => .valid none
  | value => (read value).map some

/-- Reads the items of an array, from a given index on. -/
def readItemsFrom {α : Type} (read : Reader α) : Nat → List Json → Checked (List α)
  | _, [] => .valid []
  | i, item :: rest =>
      List.cons <$> (read item).under (toString i) <*> readItemsFrom read (i + 1) rest

def readList {α : Type} (read : Reader α) : Reader (List α)
  | .array items => readItemsFrom read 0 items
  | _ => .fail .listType

abbrev Fields := List (String × Json)

/-- Words joined by capitals, joined by underscores. -/
def snakeCase (wire : String) : String :=
  String.ofList (wire.toList.flatMap fun c => if c.isUpper then ['_', c.toLower] else [c])

/-- The value of a field by its name on the wire, else by its name with underscores. -/
def Fields.get? (fields : Fields) (wire : String) : Option Json :=
  match fields.find? (·.1 == wire) with
  | some (_, value) => some value
  | none => (fields.find? (·.1 == snakeCase wire)).map (·.2)

def Fields.required {α : Type} (fields : Fields) (wire : String) (read : Reader α) : Checked α :=
  match fields.get? wire with
  | some value => (read value).under wire
  | none => (Checked.fail .missing).under wire

def Fields.defaulted {α : Type} (fields : Fields) (wire : String) (default : α) (read : Reader α) :
    Checked α :=
  match fields.get? wire with
  | some value => (read value).under wire
  | none => .valid default

/-- Reads a field that may be null or absent. -/
def Fields.optional {α : Type} (fields : Fields) (wire : String) (read : Reader α) :
    Checked (Option α) :=
  fields.defaulted wire none (readNullable read)

def Fields.list {α : Type} (fields : Fields) (wire : String) (read : Reader α) :
    Checked (List α) :=
  fields.defaulted wire [] (readList read)

def readModel {α : Type} (read : Fields → Checked α) : Reader α
  | .object fields => read fields
  | _ => .fail .modelType

end FeatureSuite.Json

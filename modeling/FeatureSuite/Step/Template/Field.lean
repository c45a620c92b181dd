import FeatureSuite.Step.Conversion
import FeatureSuite.Step.Template.Format

/-!
# Types of template fields

The regular expression that a field of a type stands for, the groups inside it, and what is done
with the captured text. Projects may add types of their own, which go before the built-in ones.
-/

namespace FeatureSuite.Template

/-- A type that a project adds. -/
structure CustomType where
  pattern : String := ".+?"
  converter : Converter
  /-- The number of groups in the pattern, as far as it is told. -/
  groups : Nat := 0

abbrev CustomTypes := List (String × CustomType)

def CustomTypes.find? (types : CustomTypes) (name : String) : Option CustomType :=
  (List.find? (·.1 == name) types).map (·.2)

structure FieldType where
  pattern : String
  groups : Nat
  conversion : Conversion

/-! ## Dates and times -/

def directivePatterns : List (Char × String) :=
  [('a', "(?:Sun|Mon|Tue|Wed|Thu|Fri|Sat)"),
    ('A', "(?:Sunday|Monday|Tuesday|Wednesday|Thursday|Friday|Saturday)"),
    ('w', "[0-6]"),
    ('d', "[0-9]\x7b1,2\x7d"),
    ('b', "(?:Jan|Feb|Mar|Apr|May|Jun|Jul|Aug|Sep|Oct|Nov|Dec)"),
    ('B', "(?:January|February|March|April|May|June|July|August|September|October|November|" ++
      "December)"),
    ('m', "[0-9]\x7b1,2\x7d"),
    ('y', "[0-9]\x7b2\x7d"),
    ('Y', "[0-9]\x7b4\x7d"),
    ('H', "[0-9]\x7b1,2\x7d"),
    ('I', "[0-9]\x7b1,2\x7d"),
    ('p', "(?:AM|PM)"),
    ('M', "[0-9]\x7b2\x7d"),
    ('S', "[0-9]\x7b2\x7d"),
    ('f', "[0-9]\x7b1,6\x7d"),
    ('z', "[+|-][0-9]\x7b2\x7d(:?[0-9]\x7b2\x7d)?(:?[0-9]\x7b2\x7d)?"),
    ('j', "[0-9]\x7b1,3\x7d"),
    ('U', "[0-9]\x7b1,2\x7d"),
    ('W', "[0-9]\x7b1,2\x7d")]

def directivePattern? (c : Char) : Option String :=
  (directivePatterns.find? (·.1 == c)).map (·.2)

/-- Whether a type is a date template: it holds a directive. -/
def hasDirectives : List Char → Bool
  | '%' :: c :: rest => (directivePattern? c).isSome || hasDirectives (c :: rest)
  | _ :: rest => hasDirectives rest
  | [] => false

def expandDirectives : List Char → List Char
  | '%' :: c :: rest =>
      match directivePattern? c with
      | some pattern => pattern.toList ++ expandDirectives rest
      | none => '%' :: expandDirectives (c :: rest)
  | c :: rest => c :: expandDirectives rest
  | [] => []

private def dayPattern : String := "(Mon|Tue|Wed|Thu|Fri|Sat|Sun)"

private def monthPattern : String := "(Jan|Feb|Mar|Apr|May|Jun|Jul|Aug|Sep|Oct|Nov|Dec)"

private def anyMonthPattern : String :=
  let both (name : String) : List String :=
    if Calendar.shortName name = name then [name] else [Calendar.shortName name, name]
  "(" ++ "|".intercalate (Calendar.monthNames.flatMap both) ++ ")"

private def clockPattern : String := "(\\d\x7b1,2\x7d:\\d\x7b1,2\x7d(:\\d\x7b1,2\x7d(\\.\\d+)?)?)"

private def halfPattern : String := "(\\s+[AP]M)"

private def zonePattern : String := "(\\s+[-+]\\d\\d?:?\\d\\d)"

/-- The built-in types of dates and times. -/
def momentType? (type : String) : Option FieldType :=
  match type with
  | "ti" => some
      { pattern := "(\\d\x7b4\x7d-\\d\\d-\\d\\d)((\\s+|T)" ++ clockPattern ++
          ")?(Z|\\s*[-+]\\d\\d:?\\d\\d)?"
        groups := 7
        conversion := .moment
          { date := some (.joined .yearMonthDay 1), time := 4, zone := some 7 } }
  | "tg" => some
      { pattern := "(\\d\x7b1,2\x7d[-/](\\d\x7b1,2\x7d|" ++ anyMonthPattern ++
          ")[-/]\\d\x7b4\x7d)(\\s+" ++ clockPattern ++ ")?" ++ halfPattern ++ "?" ++
          zonePattern ++ "?"
        groups := 9
        conversion := .moment
          { date := some (.joined .dayMonthYear 1), time := 5, half := some 8, zone := some 9 } }
  | "ta" => some
      { pattern := "((\\d\x7b1,2\x7d|" ++ anyMonthPattern ++
          ")[-/]\\d\x7b1,2\x7d[-/]\\d\x7b4\x7d)(\\s+" ++ clockPattern ++ ")?" ++
          halfPattern ++ "?" ++ zonePattern ++ "?"
        groups := 9
        conversion := .moment
          { date := some (.joined .monthDayYear 1), time := 5, half := some 8, zone := some 9 } }
  | "te" => some
      { pattern := "(" ++ dayPattern ++ ",\\s+)?(\\d\x7b1,2\x7d\\s+" ++ monthPattern ++
          "\\s+\\d\x7b4\x7d)\\s+" ++ clockPattern ++ zonePattern
        groups := 8
        conversion := .moment
          { date := some (.joined .dayMonthYear 3), time := 5, zone := some 8 } }
  | "th" => some
      { pattern := "(\\d\x7b1,2\x7d[-/]" ++ monthPattern ++ "[-/]\\d\x7b4\x7d):" ++
          clockPattern ++ zonePattern
        groups := 6
        conversion := .moment
          { date := some (.joined .dayMonthYear 1), time := 3, zone := some 6 } }
  | "tc" => some
      { pattern := "(" ++ dayPattern ++ ")\\s+" ++ monthPattern ++
          "\\s+(\\d\x7b1,2\x7d)\\s+" ++ clockPattern ++ "\\s+(\\d\x7b4\x7d)"
        groups := 8
        conversion := .moment { date := some (.apart 4 3 8), time := 5 } }
  | "tt" => some
      { pattern := clockPattern ++ "?" ++ halfPattern ++ "?" ++ zonePattern ++ "?"
        groups := 5
        conversion := .moment { time := 1, half := some 4, zone := some 5 } }
  | "ts" => some
      { pattern := monthPattern ++ "(\\s+)(\\d+)(\\s+)" ++
          "(\\d\x7b1,2\x7d:\\d\x7b1,2\x7d:\\d\x7b1,2\x7d)?"
        groups := 5
        conversion := .moment { date := some (.yearless 1 3), time := 5 } }
  | _ => none

/-! ## Numbers and words -/

/-- Digits of all bases that a whole number may be written in. -/
def integerPattern (width : List Char) (grouping : Option Char) : String :=
  let count :=
    if width.isEmpty then "+" else "\x7b1," ++ toString (Numeral.digitsValue width) ++ "\x7d"
  let mark := (grouping.map String.singleton).getD ""
  s!"[-+ ]?[0-9{mark}]{count}|[-+ ]?0[xX][0-9a-fA-F{mark}]{count}|[-+ ]?0[bB][01{mark}]{count}|" ++
    s!"[-+ ]?0[oO][0-7{mark}]{count}"

def namedType? (format : Format) (types : CustomTypes) : Option FieldType :=
  let type := String.ofList format.type
  match types.find? type with
  | some custom => some ⟨custom.pattern, custom.groups, .custom custom.converter⟩
  | none =>
      match type with
      | "n" => some ⟨"\\d\x7b1,3\x7d([,.]\\d\x7b3\x7d)*", 1, .int (some 10)⟩
      | "b" => some ⟨"(0[bB])?[01]+", 1, .int (some 2)⟩
      | "o" => some ⟨"(0[oO])?[0-7]+", 1, .int (some 8)⟩
      | "x" | "X" => some ⟨"(0[xX])?[0-9a-fA-F]+", 1, .int (some 16)⟩
      | "%" => some ⟨"\\d+(\\.\\d+)?%", 1, .percentage⟩
      | "f" | "F" =>
          let digits := if format.precision = ['0'] then "\\d+" else "\\d*\\.\\d+"
          some ⟨s!"(?:{digits}|nan|NAN|inf|INF)", 0, if type = "f" then .double else .decimal⟩
      | "e" | "E" => some ⟨"\\d*\\.\\d+[eE][-+]?\\d+|nan|NAN|[-+]?inf|[-+]?INF", 0, .double⟩
      | "g" | "G" =>
          some ⟨"\\d+(\\.\\d+)?([eE][-+]?\\d+)?|nan|NAN|[-+]?inf|[-+]?INF", 2, .double⟩
      | "d" => some ⟨integerPattern format.width format.grouping, 0, .int none⟩
      | "l" => some ⟨"[A-Za-z]+", 0, .text⟩
      | "w" | "W" | "D" | "s" | "S" => some ⟨s!"\\{type}+", 0, .text⟩
      | _ =>
          if hasDirectives format.type then
            some ⟨String.ofList (expandDirectives format.type), 0, .template type⟩
          else momentType? type

/-- The text that a field without a type takes. -/
def untyped (format : Format) : FieldType :=
  let width := String.ofList format.width
  let precision := String.ofList format.precision
  let pattern :=
    if precision ≠ "" then
      let least := if width ≠ "" then width else "1"
      ".\x7b" ++ least ++ "," ++ precision ++ "\x7d?"
    else if width ≠ "" then ".\x7b" ++ width ++ ",\x7d?"
    else ".+?"
  ⟨pattern, 0, .text⟩

/-- What the format of a field stands for; absent for an unknown type. -/
def fieldType? (format : Format) (types : CustomTypes) : Option FieldType :=
  if format.type.isEmpty then some (untyped format) else namedType? format types

/-- Whether a type is a number, which may have a sign and padding behind it. -/
def isNumeric (format : Format) : Bool :=
  match format.type with
  | [c] => "nbox%fegdFEGX".toList.contains c
  | _ => false

/-- The regular expression of a value, with sign and padding inside. -/
def signed (format : Format) (pattern : String) : String :=
  if isNumeric format then
    let padding :=
      if format.align = some .digits then String.singleton (format.fill.getD '0') ++ "*" else ""
    "[-+ ]?" ++ padding ++ pattern
  else pattern

/-- A group with the padding around it. A value of some width is padded at its left. -/
def padded (format : Format) (group : String) : String :=
  let default := if format.align = some .digits && isNumeric format then '0' else ' '
  let fill := format.fill.getD default
  let fill := if ".\\+?*[]()\x7b\x7d^$".toList.contains fill then s!"\\{fill}" else s!"{fill}"
  let align := if format.align.isNone && !format.width.isEmpty then some .right else format.align
  match align with
  | some .left => s!"{group}{fill}*"
  | some .right => s!"{fill}*{group}"
  | some .center => s!"{fill}*{group}{fill}*"
  | _ => group

end FeatureSuite.Template

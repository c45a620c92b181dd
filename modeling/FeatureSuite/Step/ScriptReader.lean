import FeatureSuite.Step.Script

/-!
# Reading registration scripts

Scripts are lists of JSON objects. What is not said has a default, and a handler is described by its
parameters.
-/

namespace FeatureSuite.Script

def text? (value : Json) (name : String) : Option String :=
  match value.field? name with
  | some (.string s) => some s
  | _ => none

def textOr (value : Json) (name default : String) : String := (text? value name).getD default

def numberOr (value : Json) (name : String) (default : Int) : Int :=
  match value.field? name with
  | some (.int n) => n
  | _ => default

def items (value : Json) (name : String) : List Json :=
  match value.field? name with
  | some (.array items) => items
  | _ => []

def texts (value : Json) (name : String) : List String :=
  (items value name).filterMap fun
    | .string s => some s
    | _ => none

def parameterName (text : String) : String := String.ofList (text.toList.takeWhile (· ≠ '='))

def parameter? (kind : ParameterKind) (name : String) : Option Parameter :=
  if named : name = "" then none else some { name, kind, named }

/-- A parameter that is only passed by name. -/
def namedParameter? (text : String) : Option Parameter :=
  parameter? .keywordOnly (parameterName text)

/-- The parameters of a description: those by position, one that gathers arguments, those that are
only passed by name, and one that gathers those. -/
def parameters (value : Json) : List Parameter :=
  let gathers (text : String) := text.startsWith "*"
  let names := (texts value "params").filter (· ≠ "/")
  let positional := (names.takeWhile (!gathers ·)).filterMap fun text =>
    parameter? .positional (parameterName text)
  let named := match names.dropWhile (!gathers ·) with
    | [] => []
    | gathered :: behind =>
        (parameter? .gathered gathered).toList ++ behind.filterMap namedParameter?
  let fixtures := (texts value "fixtures").filterMap namedParameter?
  let rest : List Parameter :=
    if value.field? "varkw" matches some (.bool true) then
      [{ name := "**kwargs", kind := .gathered }]
    else []
  positional ++ named ++ fixtures ++ rest

/-- Reads a handler that is defined in a file unless said otherwise. Only functions and methods tell
where they are defined, and some handlers do not tell their parameters. -/
def handler (value : Json) (defaultFile : String) : Handler :=
  let file := textOr value "file" defaultFile
  let line := numberOr value "line" 1
  let place := s!"{file}:{line}"
  match textOr value "handler" "function" with
  | "function" | "method" => { signature := some (parameters value), location := place }
  | "callable_object" | "class" => { signature := some (parameters value) }
  | _ => {}

def flags (names : String) : Regex.Flags :=
  { ignoreCase := names.contains 'i', multiline := names.contains 'm', dotAll := names.contains 's'
    verbose := names.contains 'x', ascii := names.contains 'a' }

/-- Reads a pattern: a template as text, or a regular expression. -/
def pattern (value : Json) : PatternSource :=
  match value.field? "pattern" with
  | some (.string s) => .template s
  | some other => .regex (textOr other "regex" "") (flags (textOr other "flags" ""))
  | none => .template ""

/-- Reads the role of a handler by its decorator or by its name. -/
def role (value : Json) : Role :=
  match text? value "keyword", text? value "role" with
  | some decorator, _ => (Role.ofDecorator? decorator).getD .unknown
  | none, some label => (Role.ofLabel? label).getD .unknown
  | none, none => .unknown

/-- The functions that a script can name as converters. -/
def converter (name : String) : Converter :=
  match name with
  | "int" => fun s =>
      match Numeral.int? s with
      | some n => return .int n
      | none => throw (.notWhole 10 s)
  | "float" => fun s =>
      match Numeral.double? s with
      | some d => return .double d
      | none => throw (.notDouble s)
  | "upper" => fun s => return .text (Text.upper s)
  | "len" => fun s => return .int s.length
  | _ => fun s => return .text s

def customTypes (value : Json) : Template.CustomTypes :=
  match value.field? "extra_types" with
  | some (.object fields) => fields.map fun (name, type) =>
      (name, { pattern := textOr type "pattern" ".+?"
               converter := converter (textOr type "convert" "str")
               groups := (numberOr type "groups" 0).toNat })
  | _ => []

def scope (value : Json) : Scope :=
  { tags := text? value "tags", runner := text? value "runner_module", types := customTypes value }

def method (value : Json) : MethodSource :=
  { name := textOr value "name" ""
    handler := handler value "pages.py"
    marks := (items value "marks").map fun mark =>
      { role := role mark, pattern := pattern mark, tags := text? mark "tags" } }

def classSource (value : Json) : ClassSource :=
  { name := textOr value "class" "", bases := texts value "bases"
    methods := (items value "methods").map method }

def operation (value : Json) : Operation :=
  let builder := textOr value "builder" ""
  match textOr value "do" "add" with
  | "scope" => .openScope builder (textOr value "id" "") (scope value)
  | "class" => .define (classSource value)
  | "page_object" =>
      .definePage builder (classSource value) (textOr value "fixture" "") (text? value "tags")
  | "register" =>
      .register builder (textOr value "class" "") (textOr value "fixture" "") (text? value "tags")
  | "build" => .build
  | _ => .add builder (role value) (pattern value) (handler value "steps.py") (text? value "tags")

end FeatureSuite.Script

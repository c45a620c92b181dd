import FeatureSuite.Regex.Matcher
import FeatureSuite.Regex.Parser
import FeatureSuite.Step.Template.Field
import FeatureSuite.Step.Template.Piece

/-!
# Templates as patterns

A template becomes a regular expression for the whole text, in which a dot stands for every
character. A field whose name starts with a letter is captured under its name; a name that occurs
again stands for the same text. Other fields are captured in order.
-/

namespace FeatureSuite

namespace Template

open Regex (BadPattern)

/-- Why a text is no template. -/
inductive TemplateFault where
  | unknownType (type : String)
  /-- A name occurs with two formats. -/
  | repeatedName (name format earlier : String)
  /-- Two names that become one name of a group. -/
  | sameGroupName (name : String)
  /-- The regular expression of the template is none. -/
  | badPattern (bad : BadPattern)
  deriving DecidableEq

def TemplateFault.message : TemplateFault → String
  | unknownType type => s!"format spec {Text.literal type} not recognised"
  | repeatedName name format earlier =>
      s!"field type {Text.literal format} for field \"{name}\" " ++
        s!"does not match previous seen type {Text.literal earlier}"
  | sameGroupName name => Text.literal s!"duplicated group name {Text.literal name}"
  | badPattern bad => bad.message

structure NamedField where
  name : String
  group : String
  format : String
  /-- The number of groups in front of the field. -/
  index : Nat
  conversion : Conversion

/-- A field without a name. -/
structure PlainField where
  index : Nat
  conversion : Conversion

/-- The fields met so far, and the number of their groups. -/
structure Fields where
  named : List NamedField := []
  plain : List PlainField := []
  groups : Nat := 0

/-- The characters of literal text that mean something in regular expressions and are escaped. -/
def escapedChars : List Char := "?\\.[]()*+^$!|".toList

def escapeLiteral (text : List Char) : List Char :=
  text.flatMap fun c => if escapedChars.contains c then ['\\', c] else [c]

def underscored (sep : Char) (count : Nat) (name : List Char) : List Char :=
  name.flatMap fun c => if c = sep then List.replicate count '_' else [c]

/-- A name of a group that is not taken: more and more underscores in place of a separator. -/
def freeGroupName (taken : List String) (name : List Char) : (fuel count : Nat) → Option String
  | 0, _ => none
  | fuel + 1, count =>
      let sep? := ['.', '_', '-'].find? name.contains
      match sep? with
      | none => none
      | some sep =>
          let group := String.ofList (underscored sep count name)
          if taken.contains group then freeGroupName taken name fuel (count + 1) else some group

def groupName? (taken : List String) (name : List Char) : Option String :=
  let group := String.ofList (name.map fun c => if ".[]-".toList.contains c then '_' else c)
  if taken.contains group then freeGroupName taken name (taken.length + 2) 2 else some group

/-- The regular expression of a field and the fields including it. -/
def Fields.add (fields : Fields) (types : CustomTypes) (inner : List Char) :
    Except TemplateFault (String × Fields) := do
  let name := inner.takeWhile (· != ':')
  let formatText := (inner.dropWhile (· != ':')).drop 1
  let format := String.ofList formatText
  let named := match name with
    | c :: _ => Text.isLetter c
    | [] => false
  let known := fields.named.find? (·.name == String.ofList name)
  match named, known with
  | true, some field =>
      if field.format ≠ format then throw (.repeatedName field.name format field.format)
      else return (s!"(?P={field.group})", fields)
  | _, _ =>
      let group ←
        if named then
          match groupName? (fields.named.map (·.group)) name with
          | some group => pure group
          | none => throw (.sameGroupName (.ofList name))
        else pure ""
      let spec := Format.read formatText
      let type ←
        if formatText.isEmpty then pure ⟨".+?", 0, .text⟩
        else
          match fieldType? spec types with
          | some type => pure type
          | none => throw (.unknownType (.ofList spec.type))
      let opening := if named then s!"(?P<{group}>" else "("
      let value := if formatText.isEmpty then type.pattern else signed spec type.pattern
      let captured := opening ++ value ++ ")"
      let text := if formatText.isEmpty then captured else padded spec captured
      let index := fields.groups
      let groups := index + type.groups + 1
      let added :=
        if named then
          let field : NamedField := ⟨.ofList name, group, format, index, type.conversion⟩
          { fields with named := fields.named ++ [field], groups }
        else { fields with plain := fields.plain ++ [⟨index, type.conversion⟩], groups }
      return (text, added)

def patternOf (types : CustomTypes) : Fields → List Piece → Except TemplateFault (String × Fields)
  | fields, [] => return ("", fields)
  | fields, .openBrace :: rest => do
      let (text, fields) ← patternOf types fields rest
      return ("\\\x7b" ++ text, fields)
  | fields, .closeBrace :: rest => do
      let (text, fields) ← patternOf types fields rest
      return ("\\\x7d" ++ text, fields)
  | fields, .literal literal :: rest => do
      let (text, fields) ← patternOf types fields rest
      return (String.ofList (escapeLiteral literal) ++ text, fields)
  | fields, .field inner :: rest => do
      let (field, fields) ← fields.add types inner
      let (text, fields) ← patternOf types fields rest
      return (field ++ text, fields)

end Template

/-- A template that is ready to match. -/
structure Template where
  compiled : Regex.Compiled
  fields : Template.Fields

namespace Template

def compile (template : String) (types : CustomTypes) : Except TemplateFault Template := do
  let (pattern, fields) ← patternOf types {} (pieces template)
  match Regex.compile s!"\\A{pattern}\\Z" { dotAll := true } with
  | .ok compiled => return ⟨compiled, fields⟩
  | .error bad => throw (.badPattern bad)

/-- The parts of a name: in front of the brackets, and in every pair of them. -/
def nameParts (name : String) : List String :=
  let cs := name.toList
  let base := cs.takeWhile (· != '[')
  String.ofList base :: subnames cs.length (cs.dropWhile (· != '['))
where
  /-- The names in brackets. -/
  subnames : Nat → List Char → List String
    | 0, _ => []
    | _, [] => []
    | fuel + 1, '[' :: rest =>
        let name := rest.takeWhile (· != ']')
        if name.isEmpty then subnames fuel rest
        else String.ofList name :: subnames fuel ((rest.dropWhile (· != ']')).drop 1)
    | fuel + 1, _ :: rest => subnames fuel rest

def setField (name : String) (value : Value) : List (String × Value) → List (String × Value)
  | [] => [(name, value)]
  | (other, old) :: rest =>
      if other = name then (name, value) :: rest else (other, old) :: setField name value rest

/-- Puts a value under a path of names; values on the way have to be groups. -/
def setPath : List String → Value → List (String × Value) →
    Except ConversionFault (List (String × Value))
  | [], _, fields => return fields
  | [name], value, fields => return setField name value fields
  | name :: path, value, fields => do
      match (fields.find? (·.1 == name)).map (·.2) with
      | none => return setField name (Value.group (← setPath path value [])) fields
      | some (Value.group inner) =>
          return setField name (Value.group (← setPath path value inner)) fields
      | some other =>
          throw (if path.length = 1 then .notNested other.kindName
            else .notDeeplyNested other.kindName)

/-- What a match captured: values in order, and values under names. -/
structure Captured where
  args : List Value := []
  kwargs : List (String × Value) := []

/-- The values of a whole text; absent if it does not match. -/
def match? (template : Template) (text : String) : Except ConversionFault (Option Captured) := do
  let chars := text.toList.toArray
  match template.compiled.node.matchWhole? chars with
  | none => return none
  | some found =>
      let group (i : Nat) : Option String :=
        (found.capture? (i + 1)).map fun (first, last) => Regex.slice chars first last
      let args ← template.fields.plain.mapM fun field =>
        if field.index < template.compiled.groups then
          field.conversion.apply (group field.index) fun i => group (field.index + i)
        else throw .noGroup
      let values ← template.fields.named.mapM fun field => do
        let number? := (template.compiled.names.find? (·.1 == field.group)).map (·.2)
        let captured := number?.bind fun n => group (n - 1)
        return (field.name, ← field.conversion.apply captured fun i => group (field.index + i))
      let kwargs ← values.foldlM
        (fun fields (name, value) => setPath (nameParts name) value fields) []
      return some { args, kwargs }

end Template

end FeatureSuite

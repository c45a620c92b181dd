import FeatureSuite.Number.Shortest
import FeatureSuite.Text.Quoted

/-!
# JSON values

Values as they are exchanged with other programs. The fields of an object keep their order. Whole
numbers are apart from numbers written with a fraction or an exponent, because some readers accept
only the former.
-/

namespace FeatureSuite

inductive Json where
  | null
  | bool (value : Bool)
  | int (value : Int)
  | real (value : Double)
  | string (value : String)
  | array (items : List Json)
  | object (fields : List (String × Json))
  deriving Inhabited

namespace Json

/-- The value of a field; the first one, if a name occurs twice. -/
def field? (name : String) : Json → Option Json
  | .object fields => (fields.find? (·.1 == name)).map (·.2)
  | _ => none

/-- An object of the fields that have a value. -/
def ofFields (fields : List (String × Option Json)) : Json :=
  .object (fields.filterMap fun (name, value) => value.map (name, ·))

/-- The written form of a number with a fraction; those that are none have words. -/
def renderReal : Double → String
  | .nan => "NaN"
  | .infinite negative => if negative then "-Infinity" else "Infinity"
  | number => number.toText

def ofTexts (texts : List String) : Json := .array (texts.map .string)

mutual

/-- The written form: a comma and a blank between neighbours, a colon and a blank after a name. -/
def render : Json → String
  | .null => "null"
  | .bool true => "true"
  | .bool false => "false"
  | .int n => toString n
  | .real number => renderReal number
  | .string s => Text.quote s
  | .array items => "[" ++ renderItems items ++ "]"
  | .object fields => "\x7b" ++ renderFields fields ++ "\x7d"

/-- The items of an array, without the brackets. -/
def renderItems : List Json → String
  | [] => ""
  | [item] => render item
  | item :: rest => render item ++ ", " ++ renderItems rest

/-- The fields of an object, without the braces. -/
def renderFields : List (String × Json) → String
  | [] => ""
  | [(name, value)] => Text.quote name ++ ": " ++ render value
  | (name, value) :: rest => Text.quote name ++ ": " ++ render value ++ ", " ++ renderFields rest

end

end Json

end FeatureSuite

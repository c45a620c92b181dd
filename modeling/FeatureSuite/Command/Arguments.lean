import FeatureSuite.Config.Environment
import FeatureSuite.Number.Numeral
import FeatureSuite.Text.Quoted

/-!
# Command line arguments

A command and its options. Options may stand anywhere behind the command; their values follow behind
an equals sign or as the next argument, and of a repeated option the last value counts. Everything
behind two minus signs is no option.
-/

namespace FeatureSuite

/-- What is asked for. -/
inductive Request where
  /-- Compile feature files into modules. -/
  | generate (choices : Settings.Choices)
  /-- List the registered handlers. -/
  | list (choices : Settings.Choices)
  deriving DecidableEq, Repr

/-- Why arguments ask for nothing. -/
inductive ArgumentFault where
  | noCommand
  | unknownCommand (name : String)
  | unknownOption (name : String)
  | missingValue (option : String)
  | needlessValue (option : String)
  | extraArguments (arguments : List String)
  | notWhole (text : String)
  deriving DecidableEq, Repr

namespace ArgumentFault

/-- The name of a kind of fault. -/
def label : ArgumentFault → String
  | noCommand | unknownCommand _ | extraArguments _ => "UsageError"
  | unknownOption _ => "NoSuchOption"
  | missingValue _ | needlessValue _ => "BadOptionUsage"
  | notWhole _ => "BadParameter"

/-- What is wrong, in words. -/
def message : ArgumentFault → String
  | noCommand => "Missing command."
  | unknownCommand name => s!"No such command {Text.literal name}."
  | unknownOption name => s!"No such option: {name}"
  | missingValue option => s!"Option {Text.literal option} requires an argument."
  | needlessValue option => s!"Option {Text.literal option} does not take a value."
  | extraArguments [argument] => s!"Got unexpected extra argument ({argument})"
  | extraArguments arguments =>
      let all := Text.join " " arguments
      s!"Got unexpected extra arguments ({all})"
  | notWhole text => s!"{Text.literal text} is not a valid integer."

end ArgumentFault

namespace Arguments

/-- The options of a command: those that take a value, and those that do not. -/
structure Options where
  valued : List String
  flags : List String

/-- Options with their values, and the other arguments. -/
structure Parsed where
  values : List (String × String) := []
  others : List String := []

def Parsed.withValue (parsed : Parsed) (option value : String) : Parsed :=
  { parsed with values := (option, value) :: parsed.values }

def unknownShort? (options : Options) (group : List Char) : Option String :=
  (group.map fun c => s!"-{c}").find? fun name => !options.flags.contains name

def parse (options : Options) : List String → Except ArgumentFault Parsed
  | [] => .ok {}
  | argument :: rest =>
      let cs := argument.toList
      let name := String.ofList (cs.takeWhile (· ≠ '='))
      let attached? := match cs.dropWhile (· ≠ '=') with
        | _ :: value => some (String.ofList value)
        | [] => none
      if argument = "--" then .ok { others := rest }
      else if cs.head? ≠ some '-' || cs.length < 2 then do
        let parsed ← parse options rest
        return { parsed with others := argument :: parsed.others }
      else if options.flags.contains name then
        if attached?.isSome then .error (.needlessValue name) else parse options rest
      else if options.valued.contains name then
        match attached? with
        | some value => (parse options rest).map (·.withValue name value)
        | none =>
            match rest with
            | value :: rest => (parse options rest).map (·.withValue name value)
            | [] => .error (.missingValue name)
      else if cs.take 2 = ['-', '-'] then .error (.unknownOption name)
      else
        match unknownShort? options (cs.drop 1) with
        | some name => .error (.unknownOption name)
        | none => parse options rest

def Parsed.value? (parsed : Parsed) (option : String) : Option String :=
  parsed.values.reverse.lookup option

def Parsed.all (parsed : Parsed) (option : String) : List String :=
  parsed.values.filterMap fun (name, value) => if name = option then some value else none

/-- The options that say more about what happens. -/
def verboseFlags : List String := ["--verbose", "-v"]

def generateOptions : Options where
  valued := ["--out-dir", "--steps", "--import-fixtures-from", "--title-format", "--concurrency"]
  flags := verboseFlags

def listOptions : Options where
  valued := ["--steps"]
  flags := verboseFlags

/-- Reads the number of documents that are compiled at a time. -/
def concurrency (parsed : Parsed) : Except ArgumentFault Int :=
  match parsed.value? "--concurrency" with
  | none => .ok 0
  | some text =>
      match Numeral.int? text with
      | some n => .ok n
      | none => .error (.notWhole text)

def generate (arguments : List String) : Except ArgumentFault Request := do
  let parsed ← parse generateOptions arguments
  let concurrency ← concurrency parsed
  match parsed.others with
  | _ :: extra :: more => throw (.extraArguments (extra :: more))
  | others =>
      return .generate
        { featuresDir := others.head?.getD "", outputDir := (parsed.value? "--out-dir").getD ""
          steps := parsed.all "--steps"
          importFixturesFrom := (parsed.value? "--import-fixtures-from").getD ""
          titleFormat := (parsed.value? "--title-format").getD "", concurrency }

def list (arguments : List String) : Except ArgumentFault Request := do
  let parsed ← parse listOptions arguments
  if parsed.others.isEmpty then return .list { steps := parsed.all "--steps" }
  throw (.extraArguments parsed.others)

def read : List String → Except ArgumentFault Request
  | [] => .error .noCommand
  | "gen" :: rest => generate rest
  | "export" :: rest => list rest
  | name :: _ =>
      if name.startsWith "-" && name.length > 1 then .error (.unknownOption name)
      else .error (.unknownCommand name)

end Arguments

end FeatureSuite

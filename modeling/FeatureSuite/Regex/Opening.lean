import FeatureSuite.Number.Numeral
import FeatureSuite.Regex.Escape
import FeatureSuite.Text.Identifier

/-!
# Openings of groups

What a group is, as its opening says: a capture, a condition, an assertion, flags or a comment.
-/

namespace FeatureSuite.Regex

/-! ## Flags -/

/-- What a group of flags is for: the whole expression, or the rest of the group. -/
inductive FlagSet where
  | global (flags : Flags)
  | scoped (flags : Flags)

def isFlag (c : Char) : Bool := "iLmsxatu".toList.contains c

/-- The flags that exclude each other. -/
def isTypeFlag (c : Char) : Bool := c = 'a' || c = 'u' || c = 'L'

/-- Turns a flag on or off. -/
def setFlag (flags : Flags) (value : Bool) : Char → Flags
  | 'i' => { flags with ignoreCase := value }
  | 'm' => { flags with multiline := value }
  | 's' => { flags with dotAll := value }
  | 'x' => { flags with verbose := value }
  | 'a' => { flags with ascii := value }
  | 'u' => { flags with ascii := !value }
  | _ => flags

/-- Refuses what stands behind flags. -/
def flagFault (what : String) : Option Token → Read Unit
  | none => do failAt (← place) (.missingAfterFlags what)
  | some token => do
      let start := (← place) - token.text.length
      match token with
      | .plain c =>
          if Text.isAlphanumeric c && !Text.isDecimal c then failAt start .unknownFlag
          else failAt start (.missingAfterFlags what)
      | .escaped _ => failAt start (.missingAfterFlags what)

/-- Reads the flags that are turned on, up to the mark behind them. -/
def flagsOn : (fuel : Nat) → Char → List Char → Read (List Char × Char)
  | 0, c, seen => return (seen, c)
  | fuel + 1, c, seen => do
      if c = 'L' then failAt (← place) .byteFlag
      else if isTypeFlag c && seen.any (fun d => isTypeFlag d && d ≠ c) then
        failAt (← place) .incompatibleFlags
      else
        let token ← next
        match token with
        | some (.plain d) =>
            if d = ')' || d = '-' || d = ':' then return (c :: seen, d)
            else if isFlag d then flagsOn fuel d (c :: seen)
            else flagFault "-, : or )" token; return (seen, d)
        | _ => flagFault "-, : or )" token; return (seen, c)

def flagsOff : (fuel : Nat) → Char → List Char → Read (List Char)
  | 0, _, seen => return seen
  | fuel + 1, c, seen => do
      if isTypeFlag c then failAt (← place) .typeFlagOff
      else
        let token ← next
        match token with
        | some (.plain ':') => return c :: seen
        | some (.plain d) =>
            if isFlag d then flagsOff fuel d (c :: seen)
            else flagFault ":" token; return seen
        | _ => flagFault ":" token; return seen

def groupFlags (flags : Flags) (first : Char) : Read FlagSet := do
  let fuel := (← get).rest.length + 1
  let (on, mark) ← if first = '-' then pure ([], '-') else flagsOn fuel first []
  let turnedOn := on.foldl (fun flags c => setFlag flags true c) flags
  if mark = ')' then return .global turnedOn
  else if mark = ':' then return .scoped turnedOn
  else
    let token ← next
    match token with
    | some (.plain c) =>
        if isFlag c then
          let off ← flagsOff fuel c []
          if off.any on.contains then failAt ((← place) - 1) .flagOnAndOff
          else return .scoped (off.foldl (fun flags c => setFlag flags false c) turnedOn)
        else flagFault "flag" token; return .scoped turnedOn
    | _ => flagFault "flag" token; return .scoped turnedOn

/-! ## Groups -/

def openGroup (name : Option String) : Read Nat := do
  let state ← get
  let index := state.groups.length
  match name with
  | none => modify fun _ => { state with groups := state.groups ++ [none] }
  | some name =>
      match state.names.find? (·.1 == name) with
      | some (_, earlier) =>
          failAt (state.place - (name.length + 1)) (.redefinedName name index earlier)
      | none =>
          modify fun _ =>
            { state with groups := state.groups ++ [none], names := state.names ++ [(name, index)] }
  return index

/-- The width of an expression, given the groups read so far. -/
def widthOf (node : Regex) : Read Width := do
  let groups := (← get).groups
  return node.width fun i => ((groups[i]?).join).getD (0, some 0)

def closeGroup (index : Nat) (node : Regex) : Read Unit := do
  let width ← widthOf node
  modify fun state => { state with groups := state.groups.set index (some width) }

/-- Refuses a name that is no identifier. Its mark has been taken. -/
def checkName (name : String) : Read Unit := do
  if !Text.isIdentifier name then failAt ((← place) - (name.length + 1)) (.badGroupName name)

def groupNamed (name : String) : Read Nat := do
  checkName name
  match (← get).names.find? (·.1 == name) with
  | some (_, index) => return index
  | none => failAt ((← place) - (name.length + 1)) (.unknownGroupName name)

/-- The text of a named group again. -/
def namedBackref (flags : Flags) : Read Regex := do
  let name ← nameUpTo ')' "group name"
  let index ← groupNamed name
  if !(← isClosed index) then failAt ((← place) - (name.length + 1)) .openGroup
  else
    checkLookBehind index
    return .backref index flags.folding

/-- The number of groups that an expression cannot reach. -/
def groupLimit : Nat := 1073741823

/-- The group that a condition asks for, by name or by number. The number is written as any whole
number may be. -/
def conditionGroup : Read Nat := do
  let name ← nameUpTo ')' "group name"
  let start := (← place) - (name.length + 1)
  let index ←
    if Text.isIdentifier name then groupNamed name
    else
      match (Numeral.int? name).bind Int.toNat? with
      | none => failAt start (.badGroupName name)
      | some 0 => failAt start .badGroupNumber
      | some index =>
          if groupLimit ≤ index then failAt start (.invalidGroup index)
          else
            modify fun state =>
              if state.conditions.any (·.1 == index) then state
              else { state with conditions := state.conditions ++ [(index, start)] }
            pure index
  checkLookBehind index
  return index

/-- Drops a comment up to its closing parenthesis. -/
def skipComment (opening : Nat) : (fuel : Nat) → Read Unit
  | 0 => failAt opening .unterminatedComment
  | fuel + 1 => do
      match ← next with
      | none => failAt opening .unterminatedComment
      | some token => if token = .plain ')' then return () else skipComment opening fuel

/-- Drops the rest of a line. -/
def skipLine : (fuel : Nat) → Read Unit
  | 0 => return ()
  | fuel + 1 => do
      match ← next with
      | none => return ()
      | some token => if token = .plain '\n' then return () else skipLine fuel

/-- Takes the closing parenthesis of a group. -/
def closing (opening : Nat) : Read Unit := do
  if !(← accept ')') then failAt opening .unterminatedGroup

/-- The blanks that mean nothing in a verbose expression. -/
def isVerboseBlank (c : Char) : Bool :=
  c = ' ' || (9 ≤ c.toNat && c.toNat ≤ 13)

/-- What a group turns out to be once its opening has been read. -/
inductive Opening where
  | capturing (name : Option String)
  | plain (flags : Flags)
  | atomic
  | lookAhead (negated : Bool)
  | lookBehind (negated : Bool)
  | condition (index : Nat)
  | done (node : Option Regex)
  | globalFlags (flags : Flags)

def groupOpening (flags : Flags) (opening : Nat) : Read Opening := do
  if !(← accept '?') then return .capturing none
  else
    match ← next with
    | none => failAt (← place) .unexpectedEnd
    | some (.escaped c) =>
        failAt ((← place) - 3) (.unknownExtension (String.ofList ['\\', c]))
    | some (.plain 'P') =>
        match ← next with
        | none => failAt (← place) .unexpectedEnd
        | some (.plain '<') =>
            let name ← nameUpTo '>' "group name"
            checkName name
            return .capturing (some name)
        | some (.plain '=') => return .done (some (← namedBackref flags))
        | some token =>
            failAt ((← place) - (token.text.length + 2)) (.unknownExtension ("P" ++ token.text))
    | some (.plain ':') => return .plain flags
    | some (.plain '#') =>
        skipComment opening ((← get).rest.length + 1)
        return .done none
    | some (.plain '=') => return .lookAhead false
    | some (.plain '!') => return .lookAhead true
    | some (.plain '<') =>
        match ← next with
        | none => failAt (← place) .unexpectedEnd
        | some (.plain '=') => return .lookBehind false
        | some (.plain '!') => return .lookBehind true
        | some token =>
            failAt ((← place) - (token.text.length + 2)) (.unknownExtension ("<" ++ token.text))
    | some (.plain '(') => return .condition (← conditionGroup)
    | some (.plain '>') => return .atomic
    | some (.plain c) =>
        if isFlag c || c = '-' then
          match ← groupFlags flags c with
          | .global flags => return .globalFlags flags
          | .scoped flags => return .plain flags
        else failAt ((← place) - 2) (.unknownExtension (String.singleton c))

end FeatureSuite.Regex

import FeatureSuite.Regex.Opening

/-!
# Reading regular expressions

A reader by recursive descent: alternatives of sequences of repeated parts. The depth of the
recursion is bounded by the length of the text.
-/

namespace FeatureSuite.Regex

/-! ## Repetitions -/

/-- A part of a sequence. -/
structure Item where
  node : Regex
  /-- Whether it is a repetition as written. -/
  repeated : Bool := false
  /-- Whether it is an anchor as written. -/
  anchored : Bool := false

/-- A part of a sequence as it is written. -/
def itemAs (node : Regex) : Item :=
  match node with
  | .anchor _ => { node, anchored := true }
  | _ => { node }

/-- Bounds of repetitions are below this number. -/
def countLimit : Nat := Nat.pow 2 32 - 1

/-- The bounds in braces, if they are well formed; the opening brace has been taken. -/
def bounds? (opening : Nat) : Read (Option (Nat × Option Nat)) := do
  let saved ← get
  let least ← takeSome Char.isDigit saved.rest.length
  let comma ← accept ','
  let most ← if comma then takeSome Char.isDigit saved.rest.length else pure least
  if ← accept '\x7d' then
    let lo := number 10 least
    let hi := if most.isEmpty then none else some (number 10 most)
    if lo ≥ countLimit || hi.any (· ≥ countLimit) then throw ⟨.countTooLarge, none⟩
    else if hi.any (· < lo) then failAt opening .largestBelowLeast
    else return some (lo, hi)
  else
    modify fun _ => saved
    return none

def greedMark : Read Greed := do
  match ← peek with
  | some (.plain '?') => advance 1; return .lazy
  | some (.plain '+') => advance 1; return .possessive
  | _ => return .greedy

/-- Applies a repetition to the last part of a sequence. -/
def applyRepeat (start : Nat) (least : Nat) (most : Option Nat) :
    List Item → Read (List Item)
  | [] => failAt start .nothingToRepeat
  | item :: before => do
      if item.anchored then failAt start .nothingToRepeat
      else if item.repeated then failAt start .multipleRepeat
      else
        let greed ← greedMark
        return { node := .repeat least most greed item.node, repeated := true } :: before

mutual

/-- Reads alternatives. At the top level flags for the whole expression may stand at the start. -/
def alternatives : (fuel : Nat) → Flags → (top : Bool) → List Regex → Read (Regex × Flags)
  | 0, flags, _, _ => return (.empty, flags)
  | fuel + 1, flags, top, before => do
      let (node, flags') ← sequence fuel flags (top && before.isEmpty) []
      let flags := if top then flags' else flags
      if ← accept '|' then alternatives fuel flags top (node :: before)
      else return (choice (node :: before).reverse, flags)

/-- Reads a sequence up to a bar, a closing parenthesis or the end. -/
def sequence : (fuel : Nat) → Flags → (first : Bool) → List Item → Read (Regex × Flags)
  | 0, flags, _, items => return (seq (items.reverse.map (·.node)), flags)
  | fuel + 1, flags, first, items => do
      let start ← place
      match ← peek with
      | none => return (seq (items.reverse.map (·.node)), flags)
      | some (.plain '|') => return (seq (items.reverse.map (·.node)), flags)
      | some (.plain ')') => return (seq (items.reverse.map (·.node)), flags)
      | some (.escaped c) =>
          advance 2
          if flags.verbose && isVerboseBlank '\\' then sequence fuel flags first items
          else
            let node ← escape flags start c
            sequence fuel flags first (itemAs node :: items)
      | some (.plain c) =>
          advance 1
          if flags.verbose && isVerboseBlank c then sequence fuel flags first items
          else if flags.verbose && c = '#' then
            skipLine ((← get).rest.length + 1)
            sequence fuel flags first items
          else if c = '[' then
            let node ← setAt flags start
            sequence fuel flags first (itemAs node :: items)
          else if c = '.' then sequence fuel flags first (itemAs (.any flags.dotAll) :: items)
          else if c = '^' then
            let anchor := if flags.multiline then Anchor.lineStart else .textStart
            sequence fuel flags first (itemAs (.anchor anchor) :: items)
          else if c = '$' then
            let anchor := if flags.multiline then Anchor.lineEnd else .lastLineEnd
            sequence fuel flags first (itemAs (.anchor anchor) :: items)
          else if c = '?' then
            let items ← applyRepeat start 0 (some 1) items
            sequence fuel flags first items
          else if c = '*' then
            let items ← applyRepeat start 0 none items
            sequence fuel flags first items
          else if c = '+' then
            let items ← applyRepeat start 1 none items
            sequence fuel flags first items
          else if c = '\x7b' then
            let literal := itemAs (.char c flags.folding) :: items
            if (← peek) = some (.plain '\x7d') then sequence fuel flags first literal
            else
              match ← bounds? (start + 1) with
              | some (least, most) =>
                  let items ← applyRepeat start least most items
                  sequence fuel flags first items
              | none => sequence fuel flags first literal
          else if c = '(' then
            match ← groupOpening flags start with
            | .globalFlags flags =>
                if first && items.isEmpty then
                  modify fun state => { state with flags }
                  sequence fuel flags first items
                else failAt start .lateGlobalFlags
            | .done none => sequence fuel flags first items
            | .done (some node) => sequence fuel flags first (itemAs node :: items)
            | .capturing name =>
                let index ← openGroup name
                let (body, _) ← alternatives fuel flags false []
                closing start
                closeGroup index body
                sequence fuel flags first ({ node := .capture index body } :: items)
            | .plain inner =>
                let (body, _) ← alternatives fuel inner false []
                closing start
                sequence fuel flags first ({ node := body } :: items)
            | .atomic =>
                let (body, _) ← alternatives fuel flags false []
                closing start
                sequence fuel flags first ({ node := .atomic body } :: items)
            | .lookAhead negated =>
                let (body, _) ← alternatives fuel flags false []
                closing start
                sequence fuel flags first ({ node := .lookAhead negated body } :: items)
            | .lookBehind negated =>
                let outer := (← get).lookBehindGroups
                modify fun state =>
                  { state with lookBehindGroups := some (outer.getD state.groups.length) }
                let (body, _) ← alternatives fuel flags false []
                modify fun state => { state with lookBehindGroups := outer }
                closing start
                let (least, most) ← widthOf body
                sequence fuel flags first ({ node := .lookBehind negated least most body } :: items)
            | .condition index =>
                let (yes, _) ← sequence fuel flags false []
                let no ←
                  if ← accept '|' then
                    let (no, _) ← sequence fuel flags false []
                    if (← peek) = some (.plain '|') then failAt (← place) .threeBranches
                    else pure no
                  else pure .empty
                closing start
                sequence fuel flags first ({ node := .ifCaptured index yes no } :: items)
          else sequence fuel flags first (itemAs (.char c flags.folding) :: items)

end

/-- A regular expression that has been read: its text, the flags that hold for all of it, its tree,
and the number and the names of its captures. -/
structure Compiled where
  pattern : String
  flags : Flags
  node : Regex
  groups : Nat
  names : List (String × Nat)
  deriving DecidableEq, Repr

def whole (pattern : String) (flags : Flags) : Read Compiled := do
  checkEnd
  let (node, _) ← alternatives (2 * (← get).rest.length + 3) flags true []
  if (← peek).isSome then failAt (← place) .unbalancedParenthesis
  else
    let state ← get
    match state.conditions.find? fun (index, _) => index ≥ state.groups.length with
    | some (index, start) => failAt start (.invalidGroup index)
    | none =>
        if node.lookBehindsFixed then
          return ⟨pattern, state.flags, node, state.groups.length - 1, state.names⟩
        else throw ⟨.lookBehindWidth, none⟩

/-- Reads a regular expression. -/
def compile (pattern : String) (flags : Flags) : Except BadPattern Compiled :=
  match (whole pattern flags).run { rest := pattern.toList, flags } with
  | .ok (compiled, _) => .ok compiled
  | .error fault => .error ⟨pattern, fault⟩

/-- The flags that hold for all of an expression, by name. -/
def Flags.names (flags : Flags) : List String :=
  [(flags.ignoreCase, "re.IGNORECASE"), (flags.multiline, "re.MULTILINE"),
    (flags.dotAll, "re.DOTALL"), (flags.verbose, "re.VERBOSE"), (flags.ascii, "re.ASCII")].filterMap
    fun (on, name) => if on then some name else none

/-- A regular expression as messages show it; a long one is cut. -/
def Compiled.shown (compiled : Compiled) : String :=
  let text := String.ofList ((Text.literal compiled.pattern).toList.take 200)
  let names := "|".intercalate compiled.flags.names
  if names.isEmpty then s!"re.compile({text})" else s!"re.compile({text}, {names})"

end FeatureSuite.Regex

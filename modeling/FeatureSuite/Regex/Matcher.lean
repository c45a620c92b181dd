import FeatureSuite.Regex.Basic

/-!
# Matching regular expressions

Matching by backtracking. A part of an expression is matched at a place and hands every way to match
it to the rest of the expression, in the order of preference, until the rest succeeds. A repetition
that has its least number of rounds makes no further round at the place where the last one started.
-/

namespace FeatureSuite.Regex

/-- Where a match has come to, and what its captures hold: the places of their ends. -/
structure MatchState where
  place : Nat
  captures : List (Nat × Nat × Nat) := []
  deriving DecidableEq, Repr

def MatchState.capture? (state : MatchState) (index : Nat) : Option (Nat × Nat) :=
  (state.captures.find? (·.1 == index)).map (·.2)

/-- What follows a part of an expression. -/
abbrev Rest := MatchState → Option MatchState

/-- A part of an expression: finds the first way to match it with which the rest succeeds. -/
abbrev Matcher := MatchState → Rest → Option MatchState

/-- Whether a character is in a part of a set: a range has to hold a character that counts as the
same, a class the one that stands for it. -/
def itemContains (folding : Folding) (c : Char) : SetItem → Bool
  | .range first last => (folding.variants c).any fun d => first ≤ d && d ≤ last
  | .cls kind negated asciiOnly => (SetItem.cls kind negated asciiOnly).contains (folding.lower c)

def setContains (items : List SetItem) (folding : Folding) (c : Char) : Bool :=
  items.any (itemContains folding c)

/-- Takes one character of a class. -/
def matchChar (text : Array Char) (accepts : Char → Bool) : Matcher := fun state rest =>
  match text[state.place]? with
  | some c => if accepts c then rest { state with place := state.place + 1 } else none
  | none => none

/-- Takes a part of the text a second time. -/
def matchAgain (text : Array Char) (same : Char → Char → Bool) (first last : Nat) : Matcher :=
  fun state rest =>
    let length := last - first
    let equal := (List.range length).all fun i =>
      match text[first + i]?, text[state.place + i]? with
      | some a, some b => same a b
      | _, _ => false
    if equal then rest { state with place := state.place + length } else none

/-- Rounds of a repetition that takes up as much as possible. `left` bounds the number of rounds,
`last` is where the last round started that could have been left out. -/
def greedyRounds (round : Matcher) (least : Nat) (most : Option Nat) (rest : Rest) :
    (left count : Nat) → (last : Option Nat) → MatchState → Option MatchState
  | 0, count, _, state => if least ≤ count then rest state else none
  | left + 1, count, last, state =>
      if count < least then
        round state fun state => greedyRounds round least most rest left (count + 1) last state
      else
        let further :=
          if most.all (count < ·) && last ≠ some state.place then
            round state fun next =>
              greedyRounds round least most rest left (count + 1) (some state.place) next
          else none
        match further with
        | some final => some final
        | none => rest state

/-- Rounds of a repetition that takes up as little as possible. -/
def lazyRounds (round : Matcher) (least : Nat) (most : Option Nat) (rest : Rest) :
    (left count : Nat) → (last : Option Nat) → MatchState → Option MatchState
  | 0, count, _, state => if least ≤ count then rest state else none
  | left + 1, count, last, state =>
      if count < least then
        round state fun state => lazyRounds round least most rest left (count + 1) last state
      else
        match rest state with
        | some final => some final
        | none =>
            if most.all (count < ·) && last ≠ some state.place then
              round state fun next =>
                lazyRounds round least most rest left (count + 1) (some state.place) next
            else none

def matcher (text : Array Char) : Regex → Matcher
  | .empty => fun state rest => rest state
  | .char c folding => matchChar text (folding.same c)
  | .set negated items folding => matchChar text fun c => setContains items folding c != negated
  | .any lineFeed => matchChar text fun c => lineFeed || c != '\n'
  | .anchor kind => fun state rest => if kind.holds text state.place then rest state else none
  | .cat a b => fun state rest => a.matcher text state fun state => b.matcher text state rest
  | .alt a b => fun state rest =>
      match a.matcher text state rest with
      | some final => some final
      | none => b.matcher text state rest
  | .capture index r => fun state rest =>
      r.matcher text state fun next =>
        rest { next with captures := (index, state.place, next.place) :: next.captures }
  | .repeat least most .greedy r => fun state rest =>
      greedyRounds (r.matcher text) least most rest (least + (text.size - state.place) + 1) 0 none
        state
  | .repeat least most .lazy r => fun state rest =>
      let fuel := least + (text.size - state.place) + 1
      lazyRounds (r.matcher text) least most rest fuel 0 none state
  | .repeat least most .possessive r => fun state rest =>
      (greedyRounds (r.matcher text) least most some (least + (text.size - state.place) + 1) 0 none
        state).bind rest
  | .backref index folding => fun state rest =>
      match state.capture? index with
      | none => none
      | some (first, last) =>
          matchAgain text (fun a b => folding.lower a == folding.lower b) first last state rest
  | .lookAhead negated r => fun state rest =>
      match r.matcher text state some with
      | some seen =>
          if negated then none else rest { place := state.place, captures := seen.captures }
      | none => if negated then rest state else none
  | .lookBehind negated least _ r => fun state rest =>
      let seen :=
        if least ≤ state.place then
          r.matcher text { state with place := state.place - least } fun next =>
            if next.place = state.place then some next else none
        else none
      match seen with
      | some seen =>
          if negated then none else rest { place := state.place, captures := seen.captures }
      | none => if negated then rest state else none
  | .atomic r => fun state rest => (r.matcher text state some).bind rest
  | .ifCaptured index yes no => fun state rest =>
      if (state.capture? index).isSome then yes.matcher text state rest
      else no.matcher text state rest

def matchWhole? (r : Regex) (text : Array Char) : Option MatchState :=
  r.matcher text { place := 0 } fun state => if state.place = text.size then some state else none

/-- Whether some part of a text matches. -/
def occursIn (r : Regex) (text : Array Char) : Bool :=
  (List.range (text.size + 1)).any fun place => (r.matcher text { place } some).isSome

def slice (text : Array Char) (first last : Nat) : String :=
  String.ofList ((text.toList.take last).drop first)

/-- Replaces the matches from a place on, in at most `fuel` steps. After an empty match the next one
at the same place must not be empty. -/
def replaceFrom (r : Regex) (replacement : List Char) (text : Array Char) :
    (fuel place : Nat) → (afterEmpty : Bool) → List Char
  | 0, _, _ => []
  | fuel + 1, place, afterEmpty =>
      let found := r.matcher text { place } fun final =>
        if afterEmpty && final.place = place then none else some final
      match found with
      | some final =>
          replacement ++ replaceFrom r replacement text fuel final.place (final.place = place)
      | none =>
          match text[place]? with
          | some c => c :: replaceFrom r replacement text fuel (place + 1) false
          | none => []

/-- Replaces every match by a fixed text, from left to right; replacements are not read again. -/
def replaceAll (r : Regex) (replacement text : String) : String :=
  let chars := text.toList.toArray
  String.ofList (replaceFrom r replacement.toList chars (2 * chars.size + 2) 0 false)

end FeatureSuite.Regex

import FeatureSuite.Regex.Matcher
import FeatureSuite.Regex.Parser
import FeatureSuite.Text.Blank
import FeatureSuite.Text.Quoted

/-!
# Ignore patterns

Lines that say which files are left out. Every line becomes a regular expression for paths below the
root; the last line that a path matches decides, and a line with an exclamation mark keeps the path.
-/

namespace FeatureSuite

/-- A line that says something about paths. -/
structure IgnorePattern where
  /-- Whether the paths that match are kept. -/
  keeps : Bool
  regex : Regex
  deriving DecidableEq

/-- Why lines are no ignore patterns. -/
inductive IgnoreFault where
  | invalid (line : String)
  | badPattern (bad : Regex.BadPattern)
  deriving DecidableEq

namespace IgnoreFault

/-- The name of a kind of fault. -/
def label : IgnoreFault → String
  | invalid _ => "GitIgnorePatternError"
  | badPattern bad => bad.label

/-- What is wrong, in words. -/
def message : IgnoreFault → String
  | invalid line => s!"Invalid git pattern: {Text.literal line}"
  | badPattern bad => bad.message

end IgnoreFault

namespace IgnorePattern

/-! ## One name -/

/-- What is wrong with a name in a pattern. -/
inductive NameFault where
  /-- A backslash with nothing behind it. -/
  | danglingEscape
  /-- A bracket that is not closed, which makes a line say nothing. -/
  | openBracket
  deriving DecidableEq, Repr

/-- A character as a regular expression. -/
def escaped (c : Char) : List Char :=
  if "()[]\x7b\x7d?*+-|^$\\.&~# \t\n\r\x0b\x0c".toList.contains c then ['\\', c] else [c]

/-- Splits at the bracket that closes a set of characters. A closing bracket that comes first is a
member of the set. -/
def closeSet? (cs : List Char) : Option (List Char × List Char) :=
  match cs with
  | ']' :: rest =>
      match rest.dropWhile (· ≠ ']') with
      | [] => none
      | _ :: after => some (']' :: rest.takeWhile (· ≠ ']'), after)
  | _ =>
      match cs.dropWhile (· ≠ ']') with
      | [] => none
      | _ :: after => some (cs.takeWhile (· ≠ ']'), after)

theorem length_closeSet?_lt {cs body after : List Char} (h : closeSet? cs = some (body, after)) :
    after.length < cs.length := by
  unfold closeSet? at h
  split at h
  · rename_i rest
    split at h
    · simp at h
    · rename_i hd
      have := Text.length_dropWhile_le (· ≠ ']') rest
      simp only [Option.some.injEq, Prod.mk.injEq] at h
      rw [hd] at this
      simp only [List.length_cons] at this ⊢
      rw [← h.2]
      omega
  · split at h
    · simp at h
    · rename_i hd
      have := Text.length_dropWhile_le (· ≠ ']') cs
      simp only [Option.some.injEq, Prod.mk.injEq] at h
      rw [hd] at this
      simp only [List.length_cons] at this
      rw [← h.2]
      omega

/-- Drops the sign that turns a set around. -/
def dropNegation : List Char → Bool × List Char
  | '!' :: rest | '^' :: rest => (true, rest)
  | cs => (false, cs)

theorem length_dropNegation_le (cs : List Char) : (dropNegation cs).2.length ≤ cs.length := by
  unfold dropNegation
  split <;> simp

/-- A set of characters as a regular expression. Backslashes inside mean themselves. -/
def setPattern (negated : Bool) (body : List Char) : List Char :=
  let members := body.flatMap fun c => if c = '\\' then ['\\', '\\'] else [c]
  '[' :: (if negated then '^' :: members else members) ++ [']']

/-- A name as a regular expression: a star stands for any text, a question mark for one character
and brackets for one of a set. None of them stands for a slash. -/
def namePattern : List Char → Except NameFault (List Char)
  | [] => .ok []
  | ['\\'] => .error .danglingEscape
  | '\\' :: c :: rest => (namePattern rest).map (escaped c ++ ·)
  | '*' :: rest => (namePattern rest).map ("[^/]*".toList ++ ·)
  | '?' :: rest => (namePattern rest).map ("[^/]".toList ++ ·)
  | '[' :: rest =>
      match _closed : closeSet? (dropNegation rest).2 with
      | none => .error .openBracket
      | some (body, after) =>
          (namePattern after).map (setPattern (dropNegation rest).1 body ++ ·)
  | c :: rest => (namePattern rest).map (escaped c ++ ·)
termination_by cs => cs.length
decreasing_by
  all_goals simp only [List.length_cons]
  all_goals try omega
  have := length_closeSet?_lt _closed
  have := length_dropNegation_le rest
  omega

/-! ## Lines -/

def anyDirectories : String := "**"

/-- Collapses neighbours that both stand for any directories. -/
def collapse : List String → List String
  | [] => []
  | name :: rest =>
      let rest := collapse rest
      if name = anyDirectories && rest.head? == some anyDirectories then rest else name :: rest

/-- Anchors the names of a line. A single name may stand anywhere below the root. -/
def anchored : List String → List String
  | "" :: rest => rest
  | [name] => if name = anyDirectories then [name] else [anyDirectories, name]
  | [name, ""] => if name = anyDirectories then [name, ""] else [anyDirectories, name, ""]
  | names => names

/-- An empty last name stands for all that is below a directory. -/
def opened (names : List String) : List String :=
  if names.getLast? = some "" then names.dropLast ++ [anyDirectories] else names

/-- Names as a regular expression. `first` tells whether nothing stands in front, and `slash`
whether a name in front has to be left. -/
def pathPattern (first slash : Bool) : List String → Except NameFault (List Char)
  | [] => .ok []
  | name :: rest =>
      if name = anyDirectories then
        if first then (pathPattern false false rest).map ("^(?:.+/)?".toList ++ ·)
        else if rest.isEmpty then .ok ['/']
        else (pathPattern false true rest).map ("(?:/.+)?".toList ++ ·)
      else do
        let start := if first then ['^'] else []
        let slash := if slash then ['/'] else []
        let body ← if name = "*" then .ok "[^/]+".toList else namePattern name.toList
        if rest.isEmpty then return start ++ slash ++ body ++ "(?:/|$)".toList
        return start ++ slash ++ body ++ (← pathPattern false true rest)

/-- The regular expression for a line without a mark in front. Nothing is left of some lines. -/
def linePattern? (line : String) : Option (Except NameFault (List Char)) :=
  let names := (Text.splitOnChar '/' line.toList).map String.ofList
  let below := names.getLast? = some ""
  let names := collapse (opened (anchored names))
  match names with
  | [] => none
  | ["**"] => some (.ok (if below then ['/'] else []))
  | ["**", "*"] => some (.ok ['.'])
  | ["**", "*", "**"] => some (.ok ['/'])
  | _ => some (pathPattern true false names)

/-- Drops blanks at the end of a line, unless the last one is escaped. -/
def trimLine (line : List Char) : List Char :=
  if line.reverse.take 2 = [' ', '\\'] then line else Text.trimEnd line

/-- Compiles a line. Blank lines, comments and a single slash say nothing. -/
def ofLine (line : String) : Except IgnoreFault (Option IgnorePattern) :=
  match trimLine line.toList with
  | [] | '#' :: _ | ['/'] => .ok none
  | cs =>
      let (keeps, body) := match cs with
        | '!' :: rest => (true, rest)
        | _ => (false, cs)
      match linePattern? (String.ofList body) with
      | none | some (.error .danglingEscape) => .error (.invalid line)
      | some (.error .openBracket) => .ok none
      | some (.ok pattern) =>
          match Regex.compile (String.ofList pattern) {} with
          | .ok compiled => .ok (some { keeps, regex := compiled.node })
          | .error bad => .error (.badPattern bad)

def ofLines : List String → Except IgnoreFault (List IgnorePattern)
  | [] => .ok []
  | line :: rest => do
      let pattern ← ofLine line
      return pattern.toList ++ (← ofLines rest)

end IgnorePattern

/-- Whether a path below the root is left out: what the last line says that it matches. -/
def isIgnored (patterns : List IgnorePattern) (path : String) : Bool :=
  let text := path.toList.toArray
  match patterns.reverse.find? fun pattern => pattern.regex.occursIn text with
  | some pattern => !pattern.keeps
  | none => false

end FeatureSuite

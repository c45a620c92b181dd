import FeatureSuite.Text.Blank

/-!
# Tag expressions

Conditions on the tags of a test: `not` binds more tightly than `and`, and `and` more tightly than
`or`; both join to the left. Blanks, parentheses and backslashes in tags are escaped by a backslash.
An expression of no tokens always holds.
-/

namespace FeatureSuite

inductive TagExpression where
  | always
  | tag (name : String)
  | and (left right : TagExpression)
  | or (left right : TagExpression)
  | not (inner : TagExpression)
  deriving DecidableEq, Repr

namespace TagExpression

def holds (tags : List String) : TagExpression → Bool
  | always => true
  | tag name => tags.contains name
  | and left right => left.holds tags && right.holds tags
  | or left right => left.holds tags || right.holds tags
  | not inner => !inner.holds tags

/-- A condition as messages show it. -/
def termText : TagExpression → String
  | always => "True_()"
  | tag name => s!"Literal('{name}')"
  | and left right => s!"And({left.termText}, {right.termText})"
  | or left right => s!"Or({left.termText}, {right.termText})"
  | not inner => s!"Not({inner.termText})"

inductive Fault where
  | illegalEscape (text : String) (escaped : Char)
  /-- An operand or an operator was expected behind the tokens in front. -/
  | unexpected (operand : Bool) (before after : List String)
  | unopened (text : String) (before after : List String)
  | unclosed (text : String)
  | missingOperand (operator : String) (operands : List TagExpression)
  deriving DecidableEq

def markedTokens (before after : List String) : String :=
  let indent := 12 + (" ".intercalate before).length + 1
  let tokens := " ".intercalate (before ++ after)
  let underline := String.ofList (List.replicate indent '_')
  s!"\nExpression: {tokens}\n{underline}^ (HERE)"

def Fault.message : Fault → String
  | illegalEscape text escaped =>
      s!"Tag expression \"{text}\" could not be parsed because of syntax error: " ++
        s!"Illegal escape before \"{escaped}\"."
  | unexpected operand before after =>
      let what := if operand then "operand" else "operator"
      let last := before.getLast?.getD "BEGIN"
      s!"Syntax error. Expected {what} after {last}" ++ markedTokens before after
  | unopened text before after =>
      s!"Missing '(': Too few open-parens in: {text}" ++ markedTokens before after
  | unclosed text => s!"Unclosed '(': Too many open-parens in: {text}"
  | missingOperand operator operands =>
      let terms := ", ".intercalate (operands.map TagExpression.termText)
      s!"{operator}: Too few operands (expressions=[{terms}])"

/-! ## Tokens -/

/-- Ends the token that is being read, which is held backwards. -/
def closeToken (current : List Char) : List String :=
  if current.isEmpty then [] else [String.ofList current.reverse]

/-- Cuts a text into tokens. Parentheses are tokens, and so are blanks other than the space. A
backslash at the end is dropped. -/
def tokensFrom (text : String) : (current : List Char) → List Char → Except Fault (List String)
  | current, [] => return closeToken current
  | current, ['\\'] => return closeToken current
  | current, '\\' :: c :: rest =>
      if c = '(' || c = ')' || c = '\\' || Text.isBlank c then tokensFrom text (c :: current) rest
      else throw (.illegalEscape text c)
  | current, c :: rest => do
      if c = '(' || c = ')' || Text.isBlank c then
        let own := if c = ' ' then [] else [String.singleton c]
        return closeToken current ++ own ++ (← tokensFrom text [] rest)
      else tokensFrom text (c :: current) rest

def tokens (text : String) : Except Fault (List String) := tokensFrom text [] text.toList

/-! ## Expressions -/

/-- What waits for its operands while an expression is read. -/
inductive Operator where
  | opening
  | not
  | and
  | or
  deriving DecidableEq, Repr

/-- How tightly an operator binds. -/
def Operator.rank : Operator → Nat
  | not => 2
  | and => 1
  | or => 0
  | opening => 0

/-- How far reading has come. Both stacks have their top first. -/
structure Stacks where
  operators : List Operator := []
  operands : List TagExpression := []

def Stacks.apply (operator : Operator) (operands : List TagExpression) :
    Except Fault (List TagExpression) :=
  match operator, operands with
  | .not, a :: rest => return .not a :: rest
  | .and, b :: a :: rest => return .and a b :: rest
  | .or, b :: a :: rest => return .or a b :: rest
  | .not, operands => throw (.missingOperand "not" operands.reverse)
  | .and, operands => throw (.missingOperand "and" operands.reverse)
  | .or, operands => throw (.missingOperand "or" operands.reverse)
  | .opening, operands => return operands

/-- Applies the topmost operators that bind at least as tightly as a given rank. -/
def Stacks.reduce (rank : Nat) : List Operator → List TagExpression →
    Except Fault Stacks
  | operator :: operators, operands =>
      if operator ≠ .opening && rank ≤ operator.rank then do
        Stacks.reduce rank operators (← Stacks.apply operator operands)
      else return ⟨operator :: operators, operands⟩
  | [], operands => return ⟨[], operands⟩

/-- Reads one token; `operand` tells whether an operand is expected, and so does the answer for the
next token. -/
def Stacks.step (text : String) (reading : Stacks) (operand : Bool) (before : List String)
    (token : String) (after : List String) : Except Fault (Stacks × Bool) :=
  let unexpected : Except Fault (Stacks × Bool) :=
    throw (.unexpected operand before (token :: after))
  let join (operator : Operator) : Except Fault (Stacks × Bool) := do
    if operand then unexpected
    else
      let reduced ← Stacks.reduce operator.rank reading.operators reading.operands
      return ({ reduced with operators := operator :: reduced.operators }, true)
  match token with
  | "not" =>
      if operand then return ({ reading with operators := .not :: reading.operators }, true)
      else unexpected
  | "and" => join .and
  | "or" => join .or
  | "(" =>
      if operand then return ({ reading with operators := .opening :: reading.operators }, true)
      else unexpected
  | ")" => do
      if operand then unexpected
      else
        let reduced ← Stacks.reduce 0 reading.operators reading.operands
        match reduced.operators with
        | _ :: operators => return (⟨operators, reduced.operands⟩, false)
        | [] => throw (.unopened text before (token :: after))
  | name =>
      if operand then return ({ reading with operands := .tag name :: reading.operands }, false)
      else unexpected

def Stacks.run (text : String) : Stacks → Bool → List String → List String → Except Fault Stacks
  | reading, _, _, [] => return reading
  | reading, operand, before, token :: after => do
      let (reading, operand) ← reading.step text operand before token after
      Stacks.run text reading operand (before ++ [token]) after

def Stacks.finish (text : String) : List Operator → List TagExpression → Except Fault TagExpression
  | .opening :: _, _ => throw (.unclosed text)
  | operator :: operators, operands => do
      Stacks.finish text operators (← Stacks.apply operator operands)
  | [], operands => return operands.head?.getD .always

def parse (text : String) : Except Fault TagExpression := do
  let tokens ← tokens text
  if tokens.isEmpty then return .always
  else
    let reading ← Stacks.run text {} true [] tokens
    Stacks.finish text reading.operators reading.operands

end TagExpression

end FeatureSuite

/-!
# Dialects

The words that open the lines of a feature file in one language.
-/

namespace FeatureSuite.Gherkin

/-- The words of a language. Words that open a title are followed by a colon in the file; step words
are followed by the text of the step. -/
structure Dialect where
  name : String
  feature : List String
  rule : List String
  background : List String
  scenario : List String
  outline : List String
  examples : List String
  given : List String
  when : List String
  outcome : List String
  and : List String
  but : List String

/-- What a step word says about a step, before conjunctions are resolved. -/
inductive StepType where
  | context
  | action
  | outcome
  | conjunction
  | unknown
  deriving DecidableEq, Repr

def StepType.label : StepType → String
  | .context => "Context"
  | .action => "Action"
  | .outcome => "Outcome"
  | .conjunction => "Conjunction"
  | .unknown => "Unknown"

/-- Every step word with its type, in the order of the lists; a word of several lists occurs several
times. -/
def Dialect.typedStepWords (dialect : Dialect) : List (String × StepType) :=
  dialect.given.map (·, .context) ++ dialect.when.map (·, .action) ++
    dialect.outcome.map (·, .outcome) ++ dialect.and.map (·, .conjunction) ++
    dialect.but.map (·, .conjunction)

/-- The type of a step word: unknown if it occurs more than once. -/
def Dialect.stepType (dialect : Dialect) (word : String) : StepType :=
  match dialect.typedStepWords.filter (·.1 == word) with
  | [(_, type)] => type
  | _ => .unknown

/-- Inserts a word before the first shorter one. -/
private def insertByLength (word : String) : List String → List String
  | [] => [word]
  | other :: rest =>
      if other.length < word.length then word :: other :: rest
      else other :: insertByLength word rest

/-- The step words, longest first; words of one length keep their order. -/
def Dialect.stepWords (dialect : Dialect) : List String :=
  dialect.typedStepWords.foldl (fun sorted (word, _) => insertByLength word sorted) []

private theorem mem_insertByLength {word other : String} {sorted : List String}
    (h : other ∈ insertByLength word sorted) : other = word ∨ other ∈ sorted := by
  induction sorted with
  | nil => exact .inl (List.mem_singleton.mp h)
  | cons first sorted ih =>
      rw [insertByLength] at h
      split at h
      · exact List.mem_cons.mp h
      · rcases List.mem_cons.mp h with rfl | h
        · exact .inr List.mem_cons_self
        · exact (ih h).imp_right (List.mem_cons_of_mem first)

theorem Dialect.mem_typedStepWords {dialect : Dialect} {word : String}
    (h : word ∈ dialect.stepWords) : ∃ type, (word, type) ∈ dialect.typedStepWords := by
  have hfold (typed : List (String × StepType)) (sorted : List String)
      (h : word ∈ typed.foldl (fun sorted (word, _) => insertByLength word sorted) sorted) :
      (∃ type, (word, type) ∈ typed) ∨ word ∈ sorted := by
    induction typed generalizing sorted with
    | nil => exact .inr h
    | cons entry typed ih =>
        rcases ih _ h with ⟨type, hmem⟩ | hmem
        · exact .inl ⟨type, List.mem_cons_of_mem _ hmem⟩
        · rcases mem_insertByLength hmem with rfl | hmem
          · exact .inl ⟨entry.2, List.mem_cons_self⟩
          · exact .inr hmem
  exact (hfold _ [] h).resolve_right List.not_mem_nil

end FeatureSuite.Gherkin

import FeatureSuite.Gherkin.Dialect.Words
import FeatureSuite.Step.Role
import FeatureSuite.Suite.Fault
import FeatureSuite.Text.Blank

/-!
# Step keywords

The step words of a language and the English keywords that they stand for. A word that opens a group
of steps in one place and goes on with it in another counts as the former.
-/

namespace FeatureSuite

/-- The English step keywords. -/
inductive Keyword where
  | given
  | when
  | outcome
  | and
  | but
  deriving DecidableEq, Repr

namespace Keyword

def label : Keyword → String
  | given => "Given"
  | when => "When"
  | outcome => "Then"
  | and => "And"
  | but => "But"

/-- The role that a keyword gives; conjunctions give none. -/
def role? : Keyword → Option Role
  | given => some .context
  | when => some .action
  | outcome => some .outcome
  | and | but => none

end Keyword

/-- The sign that stands for any step word. -/
def bullet : String := "*"

/-- The step words of a language, without blanks around them. -/
structure KeywordTable where
  language : String
  words : List (String × Keyword)
  deriving DecidableEq, Repr

namespace KeywordTable

/-- Adds words that stand for a keyword. Words that are there already and the bullet are left out.
-/
def addWords (keyword : Keyword) (table : List (String × Keyword)) (words : List String) :
    List (String × Keyword) :=
  words.foldl (fun table word =>
    let word := Text.strip word
    if word = bullet || table.any (·.1 == word) then table else table ++ [(word, keyword)]) table

def ofDialect (dialect : Gherkin.Dialect) : KeywordTable where
  language := dialect.name
  words :=
    let table := addWords .given [] dialect.given
    let table := addWords .when table dialect.when
    let table := addWords .outcome table dialect.outcome
    let table := addWords .and table dialect.and
    addWords .but table dialect.but

def find (language : String) : Except DocumentFault KeywordTable :=
  match Gherkin.Dialect.find? language with
  | some dialect => .ok (ofDialect dialect)
  | none => .error (.unknownLanguage language)

/-- The keyword that a step word stands for. The bullet goes on with the group of steps. -/
def canonical (table : KeywordTable) (word : String) : Except DocumentFault Keyword :=
  let word := Text.strip word
  if word = bullet then .ok .and
  else
    match table.words.find? (·.1 == word) with
    | some (_, keyword) => .ok keyword
    | none => .error (.unknownKeyword word table.language)

/-- The role of a step behind a step of a given role. -/
def classify (table : KeywordTable) (word : String) (previous : Option Role) :
    Except DocumentFault Role :=
  (table.canonical word).map fun keyword => keyword.role?.getD (previous.getD .unknown)

end KeywordTable

end FeatureSuite

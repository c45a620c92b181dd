import FeatureSuite.Proofs.Suite.Undefined

/-!
# Roles of steps

A role is handed from step to step through a hook or a test. It is that of the last keyword that
gives one, and nothing is handed over from one hook or test to another.
-/

namespace FeatureSuite

/-- The role that the last of some keywords gives which gives one at all. -/
def lastRole? (keywords : List Keyword) : Option Role := (keywords.filterMap Keyword.role?).getLast?

private theorem lastRole?_cons (keyword : Keyword) (keywords : List Keyword) :
    lastRole? (keyword :: keywords) = (lastRole? keywords).or keyword.role? := by
  unfold lastRole?
  cases hrole : keyword.role? with
  | none => rw [List.filterMap_cons_none hrole, Option.or_none]
  | some role =>
      rw [List.filterMap_cons_some hrole, List.getLast?_cons]
      cases (keywords.filterMap Keyword.role?).getLast? <;> rfl

/-! ## One step -/

private theorem KeywordTable.role_of_classify {table : KeywordTable} {word : String}
    {previous : Option Role} {keyword : Keyword} {role : Role}
    (hrole : table.classify word previous = .ok role)
    (hkeyword : table.canonical word = .ok keyword) :
    role = (keyword.role?.or previous).getD .unknown := by
  rw [classify, hkeyword] at hrole
  cases hrole
  exact Option.getD_or.symm

/-! ## All steps of a hook or a test -/

namespace Planner.Uses

variable {planner : Planner} {row other : Option String} {previous : Option Role}
  {steps : List Gherkin.Step} {uses others : List StepUse}

/-- Behind the role of a step in front of all steps, a step has the role of the last keyword up to
its own that gives one. -/
theorem role_eq (h : planner.Uses row previous steps uses) {i : Nat} {use : StepUse}
    (huse : uses[i]? = some use) :
    use.role = ((lastRole? ((uses.take (i + 1)).map (·.keyword))).or previous).getD .unknown := by
  induction h generalizing i with
  | nil previous => cases huse
  | @cons previous step pickleStep keyword role steps uses _ hrole hkeyword _ ih =>
      have hfirst := KeywordTable.role_of_classify hrole hkeyword
      cases i with
      | zero =>
          cases huse
          simpa [lastRole?_cons, lastRole?] using hfirst
      | succ i =>
          rw [ih huse, List.take_succ_cons, List.map_cons, lastRole?_cons, Option.or_assoc]
          cases lastRole? ((uses.take (i + 1)).map (·.keyword)) with
          | none => exact hfirst
          | some last => rfl

private theorem roles_eq (h : planner.Uses row previous steps uses)
    (h' : planner.Uses other previous steps others) :
    uses.map (·.role) = others.map (·.role) := by
  induction h generalizing others with
  | nil => cases h'; rfl
  | cons _ hrole _ _ ih =>
      cases h' with
      | cons _ hrole' _ hrest =>
          obtain rfl := Except.ok.inj (hrole.symm.trans hrole')
          rw [List.map_cons, List.map_cons, ih hrest]

end Planner.Uses

namespace Occurrence

@[simp] private theorem map_keyword_use (occurrences : List Occurrence) :
    (occurrences.map Occurrence.use).map (·.keyword) = occurrences.map (·.keyword) := by
  rw [List.map_map]
  rfl

@[simp] private theorem map_role_use (occurrences : List Occurrence) :
    (occurrences.map Occurrence.use).map (·.role) = occurrences.map (·.role) := by
  rw [List.map_map]
  rfl

end Occurrence

namespace Planner.Realizes

variable {planner : Planner} {site : Site} {placed : Placed}

private theorem role_eq (h : planner.Realizes site placed) {i : Nat} {occurrence : Occurrence}
    (hoccurrence : placed.unit.body.occurrences[i]? = some occurrence) :
    occurrence.role = (lastRole?
      ((placed.unit.body.occurrences.take (i + 1)).map (·.keyword))).getD .unknown := by
  have huse : (placed.unit.body.occurrences.map Occurrence.use)[i]? = some occurrence.use := by
    rw [List.getElem?_map, hoccurrence]
    rfl
  have hrole := h.uses.role_eq huse
  rw [← List.map_take, Occurrence.map_keyword_use, Option.or_none] at hrole
  exact hrole

end Planner.Realizes

/-! ## Modules -/

namespace FeatureFile

variable {file built : FeatureFile}

/-- Every hook and every test runs the steps of its background, scenario or outline. A step is
matched under the role of the last step up to it, among these steps, whose keyword opens a group of
steps, or under the unknown role if there is none; and in all rows of an outline the roles are the
same. -/
theorem roles_of_build (h : file.build = .ok built) :
    ∃ keywords uri root, ∃ pairs : List (Site × Placed),
      KeywordTable.find file.language = .ok keywords ∧ file.plan = .ok (keywords, uri, root) ∧
      pairs.map Prod.fst = file.sites ∧ pairs.map Prod.snd = root.placed [] [] ∧
      (∀ pair ∈ pairs,
        let occurrences := pair.2.unit.body.occurrences
        occurrences.map (·.step) = pair.1.origin.steps ∧
        ∀ (i : Nat) (occurrence : Occurrence), occurrences[i]? = some occurrence →
          keywords.canonical occurrence.step.keyword = .ok occurrence.keyword ∧
          occurrence.role =
            (lastRole? ((occurrences.take (i + 1)).map (·.keyword))).getD .unknown ∧
          file.registry.find occurrence.pickleStep.text (some occurrence.role) pair.1.tags =
            .ok occurrence.found) ∧
      ∀ pair ∈ pairs, ∀ other ∈ pairs, ∀ outline entry otherEntry,
        pair.1.origin = .row outline entry → other.1.origin = .row outline otherEntry →
          pair.2.unit.body.occurrences.map (·.role) =
            other.2.unit.body.occurrences.map (·.role) := by
  obtain ⟨keywords, uri, root, _, hplan, _⟩ := plan_of_build h
  obtain ⟨pairs, hsites, hplaced, hpairs⟩ := exists_pairs (plan_realizes hplan)
  refine ⟨keywords, uri, root, pairs, words_of_plan hplan, hplan, hsites, hplaced, ?_, ?_⟩
  · intro pair hpair
    have hresolves := (Planner.composes_of_body (hpairs pair hpair).body_eq).resolves
    refine ⟨?_, fun i occurrence hoccurrence => ?_⟩
    · have hsteps := map_eq_map (f := id) (g := (·.step))
        (hresolves.imp fun step occurrence hstep => hstep.step_eq.symm)
      rw [← hsteps, List.map_id]
    · obtain ⟨step, _, hstep⟩ := exists_of_mem_right hresolves (List.mem_of_getElem? hoccurrence)
      refine ⟨?_, (hpairs pair hpair).role_eq hoccurrence, hstep.found_eq⟩
      rw [hstep.step_eq]
      exact hstep.keyword_eq
  · intro pair hpair other hother outline entry otherEntry hrow hotherRow
    have huses := (hpairs pair hpair).uses
    have hothers := (hpairs other hother).uses
    rw [hrow] at huses
    rw [hotherRow] at hothers
    simpa only [Occurrence.map_role_use] using huses.roles_eq hothers

/-- A step that no keyword in front gives a role, behind a background with one. -/
def leaderlessText : String :=
  "Feature: F\n Background:\n  Given a user\n Scenario Outline: O\n  * a user\n" ++
    "  Then I see <n>\n  And a user\n  Examples:\n   | n |\n   | 1 |\n   | 2 |\n"

/-- The roles of the steps of every hook and test, with whether they have a handler. -/
def rolesFound (root : SuiteUnit) : List (List (Role × Bool)) :=
  (root.placed [] []).map (·.unit.body.occurrences.map fun occurrence =>
    (occurrence.role, occurrence.found.isSome))

/-- The handler for a user is found while no role is known, and is not for an outcome. -/
theorem roles_of_leaderless :
    ∃ file built root, load leaderlessText "f.feature" shop = .ok file ∧
      file.build = .ok built ∧
      rolesFound root = [[(.context, true)],
        [(.unknown, true), (.outcome, false), (.outcome, false)],
        [(.unknown, true), (.outcome, false), (.outcome, false)]] ∧
      ∃ keywords uri, ∃ pairs : List (Site × Placed),
        file.plan = .ok (keywords, uri, root) ∧ pairs.map Prod.snd = root.placed [] [] ∧
        ∀ pair ∈ pairs, ∀ (i : Nat) (occurrence : Occurrence),
          pair.2.unit.body.occurrences[i]? = some occurrence →
            occurrence.role = (lastRole? ((pair.2.unit.body.occurrences.take (i + 1)).map
              (·.keyword))).getD .unknown := by
  have hcompile : (compile leaderlessText "f.feature" shop).toOption.any (fun (_, _, root) =>
      decide (rolesFound root = [[(.context, true)],
        [(.unknown, true), (.outcome, false), (.outcome, false)],
        [(.unknown, true), (.outcome, false), (.outcome, false)]])) = true := by
    decide +kernel
  obtain ⟨⟨file, built, root⟩, hcompile, hcheck⟩ := exists_ok_of_any hcompile
  obtain ⟨hload, hbuild, keywords, uri, hplan⟩ := compile_eq_ok hcompile
  obtain ⟨_, _, root', pairs, _, hplan', _, hplaced, hroles, _⟩ := roles_of_build hbuild
  rw [hplan] at hplan'
  cases hplan'
  refine ⟨file, built, root, hload, hbuild, of_decide_eq_true hcheck, keywords, uri, pairs, hplan,
    hplaced, ?_⟩
  intro pair hpair i occurrence hoccurrence
  exact ((hroles pair hpair).2 i occurrence hoccurrence).2.1

end FeatureFile

end FeatureSuite

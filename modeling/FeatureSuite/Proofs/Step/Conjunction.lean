import FeatureSuite.Proofs.Step.Bracketing
import FeatureSuite.Proofs.Step.Scoping

/-!
# Conditions of scopes, page objects and handlers

A handler is registered under the conditions of all scopes around it, of its page object and of its
own. They are joined as texts, two at a time and each in brackets. The text means that all of them
hold, if each can be put in brackets; otherwise it cannot be read.
-/

namespace FeatureSuite

namespace TagExpression

/-- Whether tags meet a condition, if it can be read. -/
def meets (tags : List String) (condition : String) : Bool :=
  (parse condition).toOption.any (·.holds tags)

private theorem meets_of_parse {condition : String} {read : TagExpression}
    (h : parse condition = .ok read) (tags : List String) :
    meets tags condition = read.holds tags := by
  rw [meets, h]
  rfl

/-- Whether conditions can be joined. A single one stays as it is. -/
def Joinable (conditions : List String) : Prop :=
  conditions.length ≤ 1 ∨ ∀ condition ∈ conditions, Bracketable condition

instance (conditions : List String) : Decidable (Joinable conditions) :=
  inferInstanceAs (Decidable (_ ∨ _))

/-- Two conditions as one text. -/
def joined (left right : String) : String := "(" ++ left ++ ") and (" ++ right ++ ")"

/-! ## Brackets around what cannot be read -/

private theorem count_and (ws vs : List String) {token : String} (hand : "and" ≠ token) :
    (ws ++ "and" :: vs).count token = ws.count token + vs.count token := by
  rw [List.count_append, List.count_cons_of_ne hand]

private theorem count_bracketed (ws : List String) :
    ("(" :: ws ++ [")"]).count "(" = ws.count "(" + 1 ∧
      ("(" :: ws ++ [")"]).count ")" = ws.count ")" + 1 := by
  simp [List.count_append]

private theorem Unreadable.and {ws vs : List String} (h : Unreadable ws ∨ Unreadable vs)
    (hws : ws.count ")" ≤ ws.count "(") (hvs : vs.count ")" ≤ vs.count "(") :
    Unreadable (ws ++ "and" :: vs) := by
  have hopen := count_and ws vs (show "and" ≠ "(" by decide)
  have hclose := count_and ws vs (show "and" ≠ ")" by decide)
  rcases h with (hempty | hless) | (hempty | hless)
  · exact .inl (hempty.trans (List.infix_append' [] ws _))
  · exact .inr (by omega)
  · exact .inl (hempty.trans ⟨ws ++ ["and"], [], by simp⟩)
  · exact .inr (by omega)

private theorem Unreadable.bracketed {ws : List String} (h : Unreadable ws) :
    Unreadable ("(" :: ws ++ [")"]) := by
  rcases h with hempty | hless
  · exact .inl (hempty.trans ⟨["("], [")"], rfl⟩)
  · have hcount := count_bracketed ws
    exact .inr (by omega)

private theorem Unreadable.ne_nil {ws : List String} (h : Unreadable ws) : ws ≠ [] := by
  rintro rfl
  rcases h with hempty | hless
  · cases List.eq_nil_of_infix_nil hempty
  · exact Nat.lt_irrefl 0 hless

/-! ## Texts that conditions are joined to -/

/-- A text is cut into tokens that mean, when they are read in some way, that all conditions hold.
If not all of them can be put in brackets, the tokens are not read in any way. -/
structure Means (reads : List String → TagExpression → Prop) (conditions : List String)
    (cs : List Char) (ws : List String) : Prop where
  lexes : Lexes cs ws
  count_le : ws.count ")" ≤ ws.count "("
  read : (∀ condition ∈ conditions, Bracketable condition) →
    ∃ c, reads ws c ∧ ∀ tags, c.holds tags = conditions.all (meets tags)
  unreadable : (¬∀ condition ∈ conditions, Bracketable condition) → Unreadable ws

namespace Means

variable {conditions lefts rights : List String} {cs ds : List Char} {ws vs : List String}

private theorem and (hleft : Means IsOperand lefts cs ws) (hright : Means IsOperand rights ds vs) :
    Means Accepts (lefts ++ rights) (cs ++ " and ".toList ++ ds) (ws ++ "and" :: vs) where
  lexes := hleft.lexes.and hright.lexes
  count_le := by
    rw [count_and _ _ (by decide), count_and _ _ (by decide)]
    exact Nat.add_le_add hleft.count_le hright.count_le
  read hall := by
    rw [List.forall_mem_append] at hall
    obtain ⟨a, ha, haholds⟩ := hleft.read hall.1
    obtain ⟨b, hb, hbholds⟩ := hright.read hall.2
    refine ⟨.and a b, ha.and hb, fun tags => ?_⟩
    rw [holds, haholds, hbholds, List.all_append]
  unreadable hnot := by
    rw [List.forall_mem_append, not_and_or] at hnot
    exact .and (hnot.imp hleft.unreadable hright.unreadable) hleft.count_le hright.count_le

private theorem bracketed (h : Means Accepts conditions cs ws) :
    Means IsOperand conditions ('(' :: cs ++ [')']) ("(" :: ws ++ [")"]) where
  lexes := h.lexes.bracketed
  count_le := by
    have hcount := count_bracketed ws
    rw [hcount.1, hcount.2]
    exact Nat.succ_le_succ h.count_le
  read hall := by
    obtain ⟨c, haccepts, hholds⟩ := h.read hall
    exact ⟨c, haccepts.bracketed, hholds⟩
  unreadable hnot := (h.unreadable hnot).bracketed

private theorem of_parse {condition : String} {c : TagExpression} (h : parse condition = .ok c) :
    ∃ ws, Means IsOperand [condition] ('(' :: condition.toList ++ [')']) ws := by
  obtain ⟨ws, hlexes, hcount, hoperand, hunreadable⟩ := bracket_of_parse h
  refine ⟨ws, hlexes, hcount, fun hall => ⟨c, hoperand (hall condition (by simp)), ?_⟩, ?_⟩
  · intro tags
    rw [List.all_cons, List.all_nil, Bool.and_true, meets_of_parse h]
  · exact fun hnot => hunreadable fun hall => hnot (by simpa using hall)

private theorem parse_iff {text : String} (h : Means Accepts conditions text.toList ws) :
    ((∃ c, parse text = .ok c) ↔ ∀ condition ∈ conditions, Bracketable condition) ∧
      ∀ c, parse text = .ok c → ∀ tags, c.holds tags = conditions.all (meets tags) := by
  have htokens : tokens text = .ok ws := h.lexes.tokens
  by_cases hall : ∀ condition ∈ conditions, Bracketable condition
  · obtain ⟨read, haccepts, hholds⟩ := h.read hall
    have hparse : parse text = .ok read := parse_eq_ok.mpr ⟨ws, htokens, .inr haccepts⟩
    refine ⟨iff_of_true ⟨read, hparse⟩ hall, fun c hc => ?_⟩
    cases hparse.symm.trans hc
    exact hholds
  · have hunreadable := h.unreadable hall
    -- A text without tokens would be read, but one that cannot be read has tokens.
    have hrefused (c : TagExpression) : parse text ≠ .ok c := by
      intro hc
      obtain ⟨us, hus, hread⟩ := parse_eq_ok.mp hc
      cases htokens.symm.trans hus
      exact hread.elim (fun hnil => hunreadable.ne_nil hnil.1) hunreadable.not_accepts
    exact ⟨iff_of_false (fun ⟨c, hc⟩ => hrefused c hc) hall, fun c hc => absurd hc (hrefused c)⟩

end Means

/-- A text that conditions are joined to, two at a time. -/
inductive Joins : List String → String → Prop where
  | single {condition : String} : condition ≠ "" → Joins [condition] condition
  | and {lefts rights : List String} {left right : String} :
      Joins lefts left → Joins rights right → Joins (lefts ++ rights) (joined left right)

namespace Joins

variable {conditions : List String} {text : String}

private theorem ne_empty (h : Joins conditions text) : text ≠ "" := by
  cases h with
  | single hne => exact hne
  | and => simp [joined]

private theorem ne_nil (h : Joins conditions text) : conditions ≠ [] := by
  induction h with
  | single => simp
  | and _ _ ihleft _ => simp [ihleft]

private theorem toList_joined (left right : String) :
    (joined left right).toList =
      ('(' :: left.toList ++ [')']) ++ " and ".toList ++ ('(' :: right.toList ++ [')']) := by
  simp [joined, String.toList_append]

private theorem means (h : Joins conditions text)
    (hreads : ∀ condition ∈ conditions, ∃ c, parse condition = .ok c) :
    ∃ ws, Means IsOperand conditions ('(' :: text.toList ++ [')']) ws := by
  induction h with
  | @single condition _ =>
      obtain ⟨c, hc⟩ := hreads condition (by simp)
      exact Means.of_parse hc
  | @and lefts rights left right _ _ ihleft ihright =>
      rw [List.forall_mem_append] at hreads
      -- Both halves are operands, and their conjunction is one in brackets of its own.
      obtain ⟨ws, hleft⟩ := ihleft hreads.1
      obtain ⟨vs, hright⟩ := ihright hreads.2
      rw [toList_joined]
      exact ⟨_, (hleft.and hright).bracketed⟩

/-- The joined text is read if the conditions can be joined, and then means that all of them
hold. -/
theorem parse_iff (h : Joins conditions text)
    (hreads : ∀ condition ∈ conditions, ∃ c, parse condition = .ok c) :
    ((∃ c, parse text = .ok c) ↔ Joinable conditions) ∧
      ∀ c, parse text = .ok c → ∀ tags, c.holds tags = conditions.all (meets tags) := by
  cases h with
  | single _ =>
      refine ⟨iff_of_true (hreads text (by simp)) (.inl (Nat.le_refl 1)), fun c hc tags => ?_⟩
      rw [List.all_cons, List.all_nil, Bool.and_true, meets_of_parse hc]
  | @and lefts rights left right hleft hright =>
      rw [List.forall_mem_append] at hreads
      obtain ⟨ws, hwsmeans⟩ := hleft.means hreads.1
      obtain ⟨vs, hvsmeans⟩ := hright.means hreads.2
      have hmeans := hwsmeans.and hvsmeans
      rw [← toList_joined] at hmeans
      have hlong : ¬(lefts ++ rights).length ≤ 1 := by
        have hlefts := List.length_pos_of_ne_nil hleft.ne_nil
        have hrights := List.length_pos_of_ne_nil hright.ne_nil
        rw [List.length_append]
        omega
      obtain ⟨hparse, hholds⟩ := hmeans.parse_iff
      exact ⟨hparse.trans (or_iff_right hlong).symm, hholds⟩

end Joins

end TagExpression

open TagExpression (Joins Joinable joined meets)

/-- The conditions that are there and not empty. -/
def presentConditions (conditions : List (Option String)) : List String :=
  conditions.filterMap fun condition => condition.filter (· ≠ "")

@[simp] private theorem presentConditions_append (outer inner : List (Option String)) :
    presentConditions (outer ++ inner) = presentConditions outer ++ presentConditions inner :=
  List.filterMap_append

private theorem combineTags_pair (left right : Option String) :
    combineTags [left, right] =
      match left.filter (· ≠ ""), right.filter (· ≠ "") with
      | some left, some right => some (joined left right)
      | some left, none => some left
      | none, right => right := by
  unfold combineTags
  rw [List.filterMap_cons, List.filterMap_cons, List.filterMap_nil]
  cases left.filter (· ≠ "") with
  | none => cases right.filter (· ≠ "") <;> rfl
  | some left =>
      cases right.filter (· ≠ "") with
      | none => rfl
      | some right =>
          refine congrArg some ?_
          change "(" ++ left ++ ")" ++ " and " ++ ("(" ++ right ++ ")") = joined left right
          have hbetween : ")" ++ (" and " ++ "(") = ") and (" := by decide
          rw [joined, ← hbetween]
          simp only [String.append_assoc]

/-- What a list of conditions is joined to. -/
def Gathers (conditions : List String) (tags : Option String) : Prop :=
  match tags.filter (· ≠ "") with
  | none => conditions = []
  | some text => Joins conditions text

namespace Gathers

variable {conditions lefts rights : List String} {tags left right : Option String}

private theorem own (tags : Option String) : Gathers (presentConditions [tags]) tags := by
  unfold Gathers presentConditions
  rw [List.filterMap_cons, List.filterMap_nil]
  cases hown : tags.filter (· ≠ "") with
  | none => rfl
  | some text => exact .single (by simpa using (Option.filter_eq_some_iff.mp hown).2)

private theorem of_joins {text : String} (h : Joins conditions text) :
    Gathers conditions (some text) := by
  unfold Gathers
  rw [Option.filter_some, if_pos (by simpa using h.ne_empty)]
  exact h

private theorem combine (hleft : Gathers lefts left) (hright : Gathers rights right) :
    Gathers (lefts ++ rights) (combineTags [left, right]) := by
  rw [combineTags_pair]
  unfold Gathers at hleft hright
  cases hl : left.filter (· ≠ "") with
  | none =>
      rw [hl] at hleft
      have hnone : lefts = [] := hleft
      rw [hnone, List.nil_append]
      cases hr : right.filter (· ≠ "") with
      | none =>
          rw [hr] at hright
          exact hright
      | some b =>
          rw [hr] at hright
          exact of_joins hright
  | some a =>
      rw [hl] at hleft
      cases hr : right.filter (· ≠ "") with
      | none =>
          rw [hr] at hright
          have hnone : rights = [] := hright
          rw [hnone, List.append_nil]
          exact of_joins hleft
      | some b =>
          rw [hr] at hright
          exact of_joins (hleft.and hright)

private theorem scopes (outermost : Scope) (chain : List Scope) :
    Gathers (presentConditions ((chain ++ [outermost]).reverse.map (·.tags)))
      (outermost.inside chain).tags := by
  induction chain with
  | nil => exact own outermost.tags
  | cons scope chain ih =>
      have hsplit : presentConditions (((scope :: chain) ++ [outermost]).reverse.map (·.tags)) =
          presentConditions ((chain ++ [outermost]).reverse.map (·.tags)) ++
            presentConditions [scope.tags] := by
        rw [List.cons_append, List.reverse_cons, List.map_append, presentConditions_append]
        rfl
      rw [hsplit]
      exact ih.combine (own scope.tags)

end Gathers

/-- The conditions that a handler is registered under, the outermost one first. -/
def conditionsOf (defaults : Scope) (chain : List Scope) (own : List (Option String)) :
    List String :=
  presentConditions ((chain ++ [defaults]).reverse.map (·.tags) ++ own)

/-- A handler runs the steps of a test if its tags meet all conditions. -/
def Binding.Requires (binding : Binding) (conditions : List String) : Prop :=
  ∀ tags, binding.acceptsTags tags = conditions.all (meets tags)

namespace Store

variable {store after : Store} {defaults : Scope} {chain : List Scope}

private theorem readsTags_iff {conditions : List String} {tags : Option String}
    (h : Gathers conditions tags)
    (hreads : ∀ condition ∈ conditions, ∃ read, TagExpression.parse condition = .ok read) :
    ((∃ condition, ReadsTags tags condition) ↔ Joinable conditions) ∧
      ∀ condition, ReadsTags tags condition →
        ∀ on, condition.all (·.holds on) = conditions.all (meets on) := by
  unfold Gathers at h
  unfold ReadsTags
  cases htags : tags.filter (· ≠ "") with
  | none =>
      rw [htags] at h
      have hnone : conditions = [] := h
      subst hnone
      refine ⟨iff_of_true ⟨none, rfl⟩ (.inl (Nat.zero_le 1)), fun condition hnone on => ?_⟩
      subst hnone
      rfl
  | some text =>
      rw [htags] at h
      obtain ⟨hparse, hholds⟩ := Joins.parse_iff h hreads
      refine ⟨⟨?_, fun hjoinable => ?_⟩, ?_⟩
      · rintro ⟨condition, read, hread, -⟩
        exact hparse.mp ⟨read, hread⟩
      · obtain ⟨read, hread⟩ := hparse.mpr hjoinable
        exact ⟨some read, read, hread, rfl⟩
      · rintro condition ⟨read, hread, rfl⟩ on
        exact hholds read hread on

/-- A handler whose pattern can be read, and each of its conditions on its own. -/
structure Readable (scope : Scope) (pattern : StepPattern) (conditions : List String) : Prop where
  pattern_ok : ∃ matcher, pattern.matcher scope.types = .ok matcher
  conditions_ok : ∀ condition ∈ conditions, ∃ read, TagExpression.parse condition = .ok read

instance (scope : Scope) (pattern : StepPattern) (conditions : List String) :
    Decidable (Readable scope pattern conditions) :=
  decidable_of_iff ((pattern.matcher scope.types).toOption.isSome = true ∧
      ∀ condition ∈ conditions, (TagExpression.parse condition).toOption.isSome = true) <| by
    simp only [← exists_ok_iff]
    exact ⟨fun ⟨hpattern, hconditions⟩ => ⟨hpattern, hconditions⟩,
      fun ⟨hpattern, hconditions⟩ => ⟨hpattern, hconditions⟩⟩

/-- Such a handler is registered if its conditions can be joined. -/
theorem add_iff_joinable {pattern : StepPattern} {tags : Option String} {scope : Scope}
    {conditions : List String} (hopen : store.frozen = false)
    (hreadable : Readable scope pattern conditions)
    (htags : Gathers conditions (combineTags [scope.tags, tags])) (role : Role) (handler : Handler)
    (page : Option Nat) :
    ((∃ after, store.add scope role pattern handler tags page = .ok after) ↔
        Joinable conditions) ∧
      ∀ after, store.add scope role pattern handler tags page = .ok after →
        ∃ binding : Binding, binding.Requires conditions ∧
          after = { store with bindings := store.bindings ++ [binding] } := by
  obtain ⟨hjoinable, hholds⟩ := readsTags_iff htags hreadable.conditions_ok
  simp only [add_eq_ok_iff]
  refine ⟨⟨?_, fun h => ?_⟩, ?_⟩
  · rintro ⟨_, _, _, condition, _, hcondition, _⟩
    exact hjoinable.mp ⟨condition, hcondition⟩
  · obtain ⟨matcher, hmatcher⟩ := hreadable.pattern_ok
    obtain ⟨condition, hcondition⟩ := hjoinable.mpr h
    exact ⟨_, hopen, matcher, condition, hmatcher, hcondition, rfl⟩
  · rintro after ⟨_, matcher, condition, _, hcondition, rfl⟩
    refine ⟨_, ?_, rfl⟩
    exact hholds condition hcondition

private theorem addMarks_joinable {scope : Scope} {pageTags : Option String} {page : Nat}
    {conditions : PageMark × Handler → List String} {marks : List (PageMark × Handler)}
    (hopen : store.frozen = false)
    (hreadable : ∀ mark ∈ marks, Readable scope mark.1.pattern (conditions mark))
    (htags : ∀ mark ∈ marks,
      Gathers (conditions mark) (combineTags [scope.tags, combineTags [pageTags, mark.1.tags]])) :
    let result := store.addMarks scope pageTags page marks
    (result.2 = none ↔ ∀ mark ∈ marks, Joinable (conditions mark)) ∧
      ∃ added, result.1.bindings = store.bindings ++ added ∧
        List.Forall₂ (fun mark binding => Binding.Requires binding (conditions mark))
          (marks.takeWhile fun mark => Joinable (conditions mark)) added := by
  induction marks generalizing store with
  | nil => exact ⟨by simp [addMarks], [], (List.append_nil _).symm, .nil⟩
  | cons mark marks ih =>
      obtain ⟨hjoinable, hadded⟩ := add_iff_joinable hopen (hreadable mark List.mem_cons_self)
        (htags mark List.mem_cons_self) mark.1.role mark.2 (some page)
      rw [List.forall_mem_cons, List.takeWhile_cons, addMarks]
      cases hadd : store.add scope mark.1.role mark.1.pattern mark.2
          (combineTags [pageTags, mark.1.tags]) (some page) with
      | ok after =>
          obtain ⟨binding, hrequires, rfl⟩ := hadded after hadd
          have hmark : Joinable (conditions mark) := hjoinable.mp ⟨_, hadd⟩
          obtain ⟨hall, added, hbindings, hforall⟩ :=
            @ih { store with bindings := store.bindings ++ [binding] } hopen
              (fun other h => hreadable other (List.mem_cons_of_mem _ h))
              (fun other h => htags other (List.mem_cons_of_mem _ h))
          rw [if_pos (decide_eq_true hmark)]
          refine ⟨hall.trans (and_iff_right hmark).symm, binding :: added, ?_,
            .cons hrequires hforall⟩
          exact hbindings.trans (List.append_assoc _ _ _)
      | error fault =>
          -- The first method that is refused ends the registration, whatever stands behind it.
          have hmark : ¬Joinable (conditions mark) := by
            intro h
            obtain ⟨after, hafter⟩ := hjoinable.mpr h
            cases hadd.symm.trans hafter
          rw [if_neg (by simpa using hmark)]
          refine ⟨iff_of_false (Option.some_ne_none _) fun h => hmark h.1, [], ?_, .nil⟩
          exact (List.append_nil _).symm

/-- Under conditions of scopes, of a page object and of its own, each of which can be read on its
own, a handler is registered exactly if the conditions can be joined: there is at most one, or each
of them has a token and does not end with a backslash inside a token. It then runs in tests that
meet all the conditions. -/
theorem registered_iff_joinable {store : Store} (hopen : store.frozen = false) (defaults : Scope)
    (chain : List Scope) :
    (∀ role pattern handler own,
      Readable (defaults.inside chain) pattern (conditionsOf defaults chain [own]) →
        ((∃ after, store.add (defaults.inside chain) role pattern handler own none = .ok after) ↔
            Joinable (conditionsOf defaults chain [own])) ∧
          ∀ after, store.add (defaults.inside chain) role pattern handler own none = .ok after →
            ∃ binding : Binding, binding.Requires (conditionsOf defaults chain [own]) ∧
              after = { store with bindings := store.bindings ++ [binding] }) ∧
      ∀ cls fixture pageTags,
        let conditions (mark : PageMark × Handler) :=
          conditionsOf defaults chain [pageTags, mark.1.tags]
        let result := store.addPage (defaults.inside chain) cls fixture pageTags
        (∀ mark ∈ cls.marked, Readable (defaults.inside chain) mark.1.pattern (conditions mark)) →
          (result.2 = none ↔ ∀ mark ∈ cls.marked, Joinable (conditions mark)) ∧
            ∃ added, result.1.bindings = store.bindings ++ added ∧
              List.Forall₂ (fun mark binding => Binding.Requires binding (conditions mark))
                (cls.marked.takeWhile fun mark => Joinable (conditions mark)) added := by
  have hgathers {own : List (Option String)} {tags : Option String}
      (h : Gathers (presentConditions own) tags) :
      Gathers (conditionsOf defaults chain own)
        (combineTags [(defaults.inside chain).tags, tags]) := by
    rw [conditionsOf, presentConditions_append]
    exact (Gathers.scopes defaults chain).combine h
  refine ⟨fun role pattern handler own hreadable => ?_, fun cls fixture pageTags => ?_⟩
  · exact add_iff_joinable hopen hreadable (hgathers (.own own)) role handler none
  · intro conditions result hreadable
    have hpage (mark : PageMark × Handler) :
        Gathers (presentConditions [pageTags, mark.1.tags])
          (combineTags [pageTags, mark.1.tags]) := by
      rw [show [pageTags, mark.1.tags] = [pageTags] ++ [mark.1.tags] from rfl,
        presentConditions_append]
      exact (Gathers.own pageTags).combine (.own mark.1.tags)
    dsimp only [result]
    rw [addPage, if_neg (by simp [hopen])]
    exact addMarks_joinable hopen hreadable fun mark _ => hgathers (hpage mark)

/-- A scope for slow tests inside one without a condition. -/
def slowScopes : List Scope := [{ tags := some "@slow or @deep" }, {}]

/-- A page object with one step, which is not for unfinished tests. -/
def loginPage : PageClass where
  number := 0
  name := "Login"
  order := [0]
  methods := [{ name := "visit", marks := [⟨.context, .template "a page", some "not @wip"⟩] }]

theorem registered_in_slowScopes :
    (∃ binding : Binding, binding.acceptsTags ["@web", "@slow"] = true ∧
      binding.acceptsTags ["@web"] = false ∧
      ({} : Store).add (Scope.inside { tags := some "@web" } slowScopes) .action
        (.template "I click") {} none none = .ok { bindings := [binding] }) ∧
    ∃ binding : Binding, binding.acceptsTags ["@web", "@deep"] = true ∧
      binding.acceptsTags ["@web", "@deep", "@wip"] = false ∧
      (({} : Store).addPage (Scope.inside { tags := some "@web" } slowScopes) loginPage "login"
        (some "@deep")).1.bindings = [binding] := by
  obtain ⟨hplain, hpage⟩ := @registered_iff_joinable {} rfl { tags := some "@web" } slowScopes
  constructor
  · obtain ⟨hjoinable, hadded⟩ := hplain .action (.template "I click") {} none
      (by decide +kernel)
    obtain ⟨after, hafter⟩ := hjoinable.mpr (by decide)
    obtain ⟨binding, hrequires, rfl⟩ := hadded after hafter
    exact ⟨binding, by rw [hrequires]; decide +kernel, by rw [hrequires]; decide +kernel, hafter⟩
  · obtain ⟨_, added, hbindings, hadded⟩ :=
      hpage loginPage "login" (some "@deep") (by decide +kernel)
    cases hadded with
    | cons hrequires hrest =>
        cases hrest
        exact ⟨_, by rw [hrequires]; decide +kernel, by rw [hrequires]; decide +kernel, hbindings⟩

/-- A blank condition holds in every test when it stands alone. In brackets it cannot be read: the
handler is refused. -/
theorem refused_of_blank_condition :
    Readable (Scope.inside {} [{ tags := some " " }]) (.template "a user")
        (conditionsOf {} [{ tags := some " " }] [some "@a"]) ∧
      ¬∃ after, ({} : Store).add (Scope.inside {} [{ tags := some " " }]) .context
        (.template "a user") {} (some "@a") none = .ok after := by
  rw [exists_ok_iff]
  decide +kernel

end Store

end FeatureSuite

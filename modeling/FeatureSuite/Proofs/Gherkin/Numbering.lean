import FeatureSuite.Gherkin.Numbering
import Mathlib.Data.List.Forall2
import Mathlib.Data.List.Nodup

/-!
# Numbers of nodes are distinct

The nodes that tests refer to are the steps of backgrounds and scenarios and the rows of examples.
Numbering draws from one counter, so in a numbered feature no two of them share a number.
-/

namespace FeatureSuite.Gherkin

/-! ## Nodes -/

/-- A node that tests refer to, with the unit it stands in. -/
inductive Node where
  | backgroundStep (background : Background) (step : Step)
  | scenarioStep (scenario : Scenario) (step : Step)
  | row (block : Examples) (row : TableRow)

def Background.nodes (background : Background) : List (String × Node) :=
  background.steps.map fun step => (step.id, .backgroundStep background step)

/-- The rows of a block of examples under their identifiers. -/
def Examples.nodes (block : Examples) : List (String × Node) :=
  block.tableBody.map fun row => (row.id, .row block row)

def Scenario.nodes (scenario : Scenario) : List (String × Node) :=
  scenario.steps.map (fun step => (step.id, .scenarioStep scenario step)) ++
    scenario.examples.flatMap Examples.nodes

/-- The nodes of a part of a rule under their identifiers. -/
def RuleChild.nodes (child : RuleChild) : List (String × Node) :=
  child.background.toList.flatMap Background.nodes ++ child.scenario.toList.flatMap Scenario.nodes

def Rule.nodes (rule : Rule) : List (String × Node) := rule.children.flatMap RuleChild.nodes

/-- The nodes of a part of a feature under their identifiers. -/
def FeatureChild.nodes (child : FeatureChild) : List (String × Node) :=
  child.background.toList.flatMap Background.nodes ++
    child.scenario.toList.flatMap Scenario.nodes ++ child.rule.toList.flatMap Rule.nodes

def Feature.nodes (feature : Feature) : List (String × Node) :=
  feature.children.flatMap FeatureChild.nodes

def nodeIds (nodes : List (String × Node)) : List String := nodes.map Prod.fst

@[simp] theorem nodeIds_append (nodes more : List (String × Node)) :
    nodeIds (nodes ++ more) = nodeIds nodes ++ nodeIds more := List.map_append

@[simp] theorem nodeIds_flatMap {α : Type} (nodes : α → List (String × Node)) (items : List α) :
    nodeIds (items.flatMap nodes) = items.flatMap fun item => nodeIds (nodes item) :=
  List.map_flatMap

/-! ## Numbered lists -/

theorem forall₂_mapM_run {α β : Type} (number : α → Numbered β) (items : List α) (n : Nat) :
    List.Forall₂ (fun a b => ∃ k, b = ((number a).run k).1) items
      ((items.mapM number).run n).1 := by
  induction items generalizing n with
  | nil => exact .nil
  | cons a items ih =>
      rw [List.mapM_cons]
      exact .cons ⟨n, rfl⟩ (ih _)

theorem flatMap_mapM_run {α γ : Type} (number : α → Numbered α) (f : α → List γ)
    (h : ∀ a n, f ((number a).run n).1 = f a) (items : List α) (n : Nat) :
    ((items.mapM number).run n).1.flatMap f = items.flatMap f := by
  induction items generalizing n with
  | nil => rfl
  | cons a items ih =>
      rw [List.mapM_cons, List.flatMap_cons, ← h a n, ← ih ((number a).run n).2]
      rfl

theorem flatMap_numberOption_run {α γ : Type} (number : α → Numbered α)
    (f : α → List γ) (h : ∀ a n, f ((number a).run n).1 = f a) (item? : Option α) (n : Nat) :
    ((numberOption number item?).run n).1.toList.flatMap f = item?.toList.flatMap f := by
  cases item? with
  | none => rfl
  | some item =>
      change [((number item).run n).1].flatMap f = [item].flatMap f
      rw [List.flatMap_singleton, List.flatMap_singleton, h]

/-! ## Drawn numbers -/

/-- Identifiers that are numbers from `n` up to and without `m`, in ascending order. -/
def Drawn (n m : Nat) (ids : List String) : Prop :=
  n ≤ m ∧ ids.Sublist ((List.range' n (m - n)).map toString)

namespace Drawn

variable {n m k : Nat} {ids more : List String}

theorem refl (n : Nat) : Drawn n n [] := ⟨Nat.le_refl n, List.nil_sublist _⟩

theorem append (h : Drawn n m ids) (h' : Drawn m k more) : Drawn n k (ids ++ more) := by
  have hnm : n ≤ m := h.1
  have hmk : m ≤ k := h'.1
  have hrange : List.range' n (k - n) = List.range' n (m - n) ++ List.range' m (k - m) := by
    have hlength : k - n = (m - n) + (k - m) := by omega
    have hstart : n + (m - n) = m := by omega
    rw [hlength, ← List.range'_append_1, hstart]
  refine ⟨Nat.le_trans hnm hmk, ?_⟩
  rw [hrange, List.map_append]
  exact h.2.append h'.2

/-- Numbers may be drawn for other nodes. -/
theorem skip (h : Drawn n m ids) : Drawn n m [] := ⟨h.1, List.nil_sublist _⟩

theorem next (n : Nat) : Drawn n (n + 1) [toString n] := by
  refine ⟨Nat.le_succ n, ?_⟩
  rw [Nat.add_sub_cancel_left]
  exact List.Sublist.refl _

private theorem toString_injective : Function.Injective (toString : Nat → String) := by
  intro i j h
  have hi := Nat.ofDigitChars_toDigits (b := 10) (n := i) (by decide) (by decide)
  have hj := Nat.ofDigitChars_toDigits (b := 10) (n := j) (by decide) (by decide)
  have hdigits : Nat.toDigits 10 i = Nat.toDigits 10 j := String.ofList_injective h
  rw [← hi, hdigits, hj]

private theorem nodup (h : Drawn n m ids) : ids.Nodup :=
  ((List.nodup_range' (s := n) (n := m - n)).map toString_injective).sublist h.2

end Drawn

/-- A computation draws the numbers of the identifiers in what it returns, in their order. -/
def Draws {α : Type} (ids : α → List String) (draw : Numbered α) : Prop :=
  ∀ n, Drawn n (draw.run n).2 (ids (draw.run n).1)

theorem Draws.at {α : Type} {ids : α → List String} {draw : Numbered α} (h : Draws ids draw)
    (n : Nat) : Drawn n (draw.run n).2 (ids (draw.run n).1) := h n

theorem Draws.mapM {α β : Type} {ids : β → List String} {number : α → Numbered β}
    (h : ∀ a, Draws ids (number a)) (items : List α) :
    Draws (fun numbered => numbered.flatMap ids) (items.mapM number) := by
  induction items with
  | nil => exact Drawn.refl
  | cons a items ih =>
      intro n
      rw [List.mapM_cons]
      exact (h a n).append (ih ((number a).run n).2)

theorem Draws.option {α : Type} {ids : α → List String} {number : α → Numbered α}
    (h : ∀ a, Draws ids (number a)) (a? : Option α) :
    Draws (fun numbered => numbered.toList.flatMap ids) (numberOption number a?) := by
  cases a? with
  | none => exact Drawn.refl
  | some a => exact fun n => (h a n).append (Drawn.refl ((number a).run n).2)

/-! ## The numbers of a feature -/

private theorem numberRows_draws (rows : List TableRow) :
    Draws (fun numbered => numbered.map (·.id)) (numberRows rows) := by
  simp only [List.map_eq_flatMap]
  apply Draws.mapM
  exact fun _ n => Drawn.next n

private theorem numberTags_draws (tags : List Tag) : Draws (fun _ => []) (numberTags tags) := by
  have h : Draws (fun numbered : List Tag => numbered.flatMap fun tag => [tag.id])
      (numberTags tags) := by
    apply Draws.mapM
    exact fun _ n => Drawn.next n
  exact fun n => (h n).skip

private theorem numberTable_draws (table : Option DataTable) :
    Draws (fun _ => []) (numberTable table) := by
  cases table with
  | none => exact Drawn.refl
  | some table => exact fun n => ((numberRows_draws table.rows).at n).skip

private theorem Step.number_draws (step : Step) : Draws (fun step => [step.id]) step.number :=
  fun n => ((numberTable_draws step.dataTable).at n).append (Drawn.next _)

private theorem numberSteps_draws (steps : List Step) :
    Draws (fun numbered => numbered.map (·.id)) (steps.mapM Step.number) := by
  simp only [List.map_eq_flatMap]
  exact Draws.mapM Step.number_draws steps

private theorem Examples.number_draws (block : Examples) :
    Draws (fun block => nodeIds block.nodes) block.number := by
  intro n
  let afterHeader := ((numberRows block.tableHeader.toList).run n).2
  let afterRows := ((numberRows block.tableBody).run afterHeader).2
  let afterTags := ((numberTags block.tags).run afterRows).2
  have header := ((numberRows_draws block.tableHeader.toList).at n).skip
  have rows := (numberRows_draws block.tableBody).at afterHeader
  have tags := (numberTags_draws block.tags).at afterRows
  have h := header.append (rows.append (tags.append (Drawn.next afterTags).skip))
  simp only [List.nil_append, List.append_nil] at h
  simp only [nodeIds, Examples.nodes, List.map_map, Function.comp_def]
  exact h

private theorem Background.number_draws (background : Background) :
    Draws (fun background => nodeIds background.nodes) background.number := by
  intro n
  let afterSteps := ((background.steps.mapM Step.number).run n).2
  have steps := (numberSteps_draws background.steps).at n
  have h := steps.append (Drawn.next afterSteps).skip
  simp only [List.append_nil] at h
  simp only [nodeIds, Background.nodes, List.map_map, Function.comp_def]
  exact h

private theorem Scenario.number_draws (scenario : Scenario) :
    Draws (fun scenario => nodeIds scenario.nodes) scenario.number := by
  intro n
  let afterSteps := ((scenario.steps.mapM Step.number).run n).2
  let afterBlocks := ((scenario.examples.mapM Examples.number).run afterSteps).2
  let afterTags := ((numberTags scenario.tags).run afterBlocks).2
  have steps := (numberSteps_draws scenario.steps).at n
  have blocks := (Draws.mapM Examples.number_draws scenario.examples).at afterSteps
  have tags := (numberTags_draws scenario.tags).at afterBlocks
  have h := steps.append (blocks.append (tags.append (Drawn.next afterTags).skip))
  simp only [List.append_nil] at h
  simp only [nodeIds, Scenario.nodes, List.map_append, List.map_map, List.map_flatMap,
    Function.comp_def]
  exact h

private theorem RuleChild.number_draws (child : RuleChild) :
    Draws (fun child => nodeIds child.nodes) child.number := by
  intro n
  let afterBackground := ((numberOption Background.number child.background).run n).2
  have background := (Draws.option Background.number_draws child.background).at n
  have scenario := (Draws.option Scenario.number_draws child.scenario).at afterBackground
  have h := background.append scenario
  simp only [RuleChild.nodes, nodeIds_append, nodeIds_flatMap]
  exact h

private theorem Rule.number_draws (rule : Rule) :
    Draws (fun rule => nodeIds rule.nodes) rule.number := by
  intro n
  let afterChildren := ((rule.children.mapM RuleChild.number).run n).2
  let afterTags := ((numberTags rule.tags).run afterChildren).2
  have children := (Draws.mapM RuleChild.number_draws rule.children).at n
  have tags := (numberTags_draws rule.tags).at afterChildren
  have h := children.append (tags.append (Drawn.next afterTags).skip)
  simp only [List.append_nil] at h
  simp only [Rule.nodes, nodeIds_flatMap]
  exact h

private theorem FeatureChild.number_draws (child : FeatureChild) :
    Draws (fun child => nodeIds child.nodes) child.number := by
  intro n
  let afterBackground := ((numberOption Background.number child.background).run n).2
  let afterScenario := ((numberOption Scenario.number child.scenario).run afterBackground).2
  have background := (Draws.option Background.number_draws child.background).at n
  have scenario := (Draws.option Scenario.number_draws child.scenario).at afterBackground
  have rule := (Draws.option Rule.number_draws child.rule).at afterScenario
  have h := (background.append scenario).append rule
  simp only [FeatureChild.nodes, nodeIds_append, nodeIds_flatMap]
  exact h

/-- In a numbered feature no two nodes that tests refer to share an identifier. -/
theorem Feature.nodup_nodeIds_numbered (feature : Feature) :
    (nodeIds feature.numbered.nodes).Nodup := by
  have children := (Draws.mapM FeatureChild.number_draws feature.children).at 0
  simp only [← nodeIds_flatMap] at children
  exact children.nodup

theorem node_unique {nodes : List (String × Node)} (h : (nodeIds nodes).Nodup) {id : String}
    {node other : Node} (hn : (id, node) ∈ nodes) (ho : (id, other) ∈ nodes) : node = other :=
  congrArg Prod.snd (List.inj_on_of_nodup_map h hn ho rfl)

end FeatureSuite.Gherkin

import FeatureSuite.Proofs.Aligned
import FeatureSuite.Proofs.Gherkin.Numbering
import FeatureSuite.Proofs.Gherkin.PieceOrder

/-!
# Regular features

What the parser promises about a feature: every part holds one thing, a background comes first in
its feature or rule, and a block of examples without a header has no rows.
-/

namespace FeatureSuite.Gherkin

def Examples.Headed (block : Examples) : Prop := block.tableHeader = none → block.tableBody = []

def Scenario.Headed (scenario : Scenario) : Prop := ∀ block ∈ scenario.examples, block.Headed

/-- A part of a rule holds a background or a scenario. -/
def RuleChild.Regular (child : RuleChild) : Prop :=
  (∃ background, child = { background := some background }) ∨
    ∃ scenario, scenario.Headed ∧ child = { scenario := some scenario }

/-- The parts of a rule are regular, and only the first one may be a background. -/
def Rule.Regular (rule : Rule) : Prop :=
  (∀ child ∈ rule.children, child.Regular) ∧
    ∀ child ∈ rule.children.tail, child.background = none

/-- A part of a feature holds a background, a scenario or a rule. -/
def FeatureChild.Regular (child : FeatureChild) : Prop :=
  (∃ background, child = { background := some background }) ∨
    (∃ scenario, scenario.Headed ∧ child = { scenario := some scenario }) ∨
      ∃ rule, rule.Regular ∧ child = { rule := some rule }

/-- The parts of a feature are regular, and only the first one may be a background. -/
def Feature.Regular (feature : Feature) : Prop :=
  (∀ child ∈ feature.children, child.Regular) ∧
    ∀ child ∈ feature.children.tail, child.background = none

/-! ## Assembled features -/

namespace Piece

theorem sections_cons {α β : Type} (head? : α → Option β) (a : α) (rest : List α) :
    sections head? (a :: rest) =
      match head? a with
      | some head => ([], (head, (sections head? rest).1) :: (sections head? rest).2)
      | none => (a :: (sections head? rest).1, (sections head? rest).2) := rfl

private theorem sections_rule {isOpen : Bool} {pieces : List Piece} (h : Orderly isOpen pieces) :
    Orderly isOpen (sections rule? pieces).1 ∧
      (∀ piece ∈ (sections rule? pieces).1, piece.kind ≠ .rule) ∧
        ∀ group ∈ (sections rule? pieces).2,
          Orderly true group.2 ∧ ∀ piece ∈ group.2, piece.kind ≠ .rule := by
  induction pieces generalizing isOpen with
  | nil => simp [sections, Orderly]
  | cons piece pieces ih =>
      obtain ⟨hpiece, hrest⟩ := h
      obtain ⟨horder, hlead, hgroups⟩ := ih hrest
      rw [sections_cons]
      cases piece with
      | rule title =>
          dsimp only [rule?]
          refine ⟨trivial, by simp, fun group hmem => ?_⟩
          rcases List.mem_cons.mp hmem with rfl | hmem
          · exact ⟨horder, hlead⟩
          · exact hgroups group hmem
      | _ => exact ⟨⟨hpiece, horder⟩, List.forall_mem_cons.mpr ⟨by simp [kind], hlead⟩, hgroups⟩

private theorem sections_unit {isOpen : Bool} {pieces : List Piece} (h : Orderly isOpen pieces)
    (hrule : ∀ piece ∈ pieces, piece.kind ≠ .rule) :
    (∀ group ∈ (sections unit? pieces).2.tail, group.1.1 = false) ∧
      (isOpen = false → ∀ group ∈ (sections unit? pieces).2, group.1.1 = false) := by
  induction pieces generalizing isOpen with
  | nil => simp [sections]
  | cons piece pieces ih =>
      obtain ⟨hpiece, hrest⟩ := h
      obtain ⟨hne, hrule⟩ := List.forall_mem_cons.mp hrule
      obtain ⟨htail, hall⟩ := ih hrest hrule
      rw [sections_cons]
      cases piece with
      | rule title => exact absurd rfl hne
      | background title =>
          refine ⟨hall rfl, fun hclosed => ?_⟩
          rw [hpiece rfl] at hclosed
          cases hclosed
      | scenario title =>
          exact ⟨hall rfl, fun _ => List.forall_mem_cons.mpr ⟨rfl, hall rfl⟩⟩
      | _ => exact ⟨htail, hall⟩

private theorem examplesOf_headed (title : Title) (body : List Piece) :
    (examplesOf title body).Headed := by
  intro h
  have hrows : rowsOf body = [] := List.head?_eq_none_iff.mp h
  simp [examplesOf, hrows]

private theorem scenarioOf_headed (title : Title) (body : List Piece) :
    (scenarioOf title body).Headed := by
  intro block hblock
  obtain ⟨group, _, rfl⟩ := List.mem_map.mp hblock
  exact examplesOf_headed group.1 group.2

private theorem ruleChildOf_regular (isBackground : Bool) (title : Title) (body : List Piece) :
    (ruleChildOf isBackground title body).Regular := by
  cases isBackground with
  | true => exact .inl ⟨backgroundOf title body, rfl⟩
  | false => exact .inr ⟨scenarioOf title body, scenarioOf_headed title body, rfl⟩

private theorem featureChildOf_regular (isBackground : Bool) (title : Title) (body : List Piece) :
    (featureChildOf isBackground title body).Regular := by
  cases isBackground with
  | true => exact .inl ⟨backgroundOf title body, rfl⟩
  | false => exact .inr (.inl ⟨scenarioOf title body, scenarioOf_headed title body, rfl⟩)

private theorem ruleOf_regular (title : Title) {body : List Piece} (h : Orderly true body)
    (hrule : ∀ piece ∈ body, piece.kind ≠ .rule) : (ruleOf title body).Regular := by
  have hunits := (sections_unit h hrule).1
  refine ⟨fun child hchild => ?_, fun child hchild => ?_⟩
  · obtain ⟨⟨⟨isBackground, title⟩, body⟩, _, rfl⟩ := List.mem_map.mp hchild
    exact ruleChildOf_regular isBackground title body
  · simp only [ruleOf, ← List.map_tail] at hchild
    obtain ⟨⟨⟨isBackground, title⟩, body⟩, hmem, rfl⟩ := List.mem_map.mp hchild
    have hfalse : isBackground = false := hunits ((isBackground, title), body) hmem
    rw [hfalse]
    rfl

private theorem mem_tail_append {α : Type} {a : α} {as bs : List α} (h : a ∈ (as ++ bs).tail) :
    a ∈ as.tail ∨ a ∈ bs := by
  cases as with
  | nil => exact .inr (List.mem_of_mem_tail h)
  | cons first as => exact List.mem_append.mp h

private theorem featureOf_regular (language : String) (title : Title) {body : List Piece}
    (h : Orderly true body) : (featureOf language title body).Regular := by
  obtain ⟨hfront, hfree, hrules⟩ := sections_rule h
  have hunits := (sections_unit hfront hfree).1
  refine ⟨fun child hchild => ?_, fun child hchild => ?_⟩
  · rcases List.mem_append.mp hchild with hchild | hchild
    · obtain ⟨⟨⟨isBackground, title⟩, body⟩, _, rfl⟩ := List.mem_map.mp hchild
      exact featureChildOf_regular isBackground title body
    · obtain ⟨⟨title, body⟩, hmem, rfl⟩ := List.mem_map.mp hchild
      obtain ⟨horder, hno⟩ := hrules _ hmem
      exact .inr (.inr ⟨ruleOf title body, ruleOf_regular title horder hno, rfl⟩)
  · rcases mem_tail_append hchild with hmem | hmem
    · rw [← List.map_tail] at hmem
      obtain ⟨⟨⟨isBackground, title⟩, body⟩, hunit, rfl⟩ := List.mem_map.mp hmem
      have hfalse : isBackground = false := hunits ((isBackground, title), body) hunit
      rw [hfalse]
      rfl
    · obtain ⟨⟨title, body⟩, _, rfl⟩ := List.mem_map.mp hmem
      rfl

private theorem assemble_regular {pieces : List Piece} {feature : Feature} (h : Orderly true pieces)
    (hfeature : assemble pieces = some feature) : feature.Regular := by
  unfold assemble at hfeature
  split at hfeature
  · cases hfeature
    exact featureOf_regular _ _ h.2
  · cases hfeature

end Piece

/-! ## Numbered features -/

theorem mem_mapM_run {α β : Type} {number : α → Numbered β} {items : List α} {n : Nat}
    {b : β} (h : b ∈ ((items.mapM number).run n).1) :
    ∃ a ∈ items, ∃ k, b = ((number a).run k).1 :=
  exists_of_mem_right (forall₂_mapM_run number items n) h

private theorem mem_tail_mapM_run {α β : Type} {number : α → Numbered β} {items : List α} {n : Nat}
    {b : β} (h : b ∈ ((items.mapM number).run n).1.tail) :
    ∃ a ∈ items.tail, ∃ k, b = ((number a).run k).1 := by
  cases items with
  | nil => cases h
  | cons a items =>
      rw [List.mapM_cons] at h
      exact mem_mapM_run h

private theorem Examples.Headed.number {block : Examples} (h : block.Headed) (n : Nat) :
    (block.number.run n).1.Headed := by
  intro hnone
  cases hheader : block.tableHeader with
  | none =>
      have hrows : ((numberRows block.tableBody).run
          ((numberRows block.tableHeader.toList).run n).2).1 = [] := by
        rw [h hheader]
        rfl
      exact hrows
  | some header =>
      have hhead : ((numberRows block.tableHeader.toList).run n).1.head? = none := hnone
      rw [hheader] at hhead
      cases hhead

private theorem Scenario.Headed.number {scenario : Scenario} (h : scenario.Headed) (n : Nat) :
    (scenario.number.run n).1.Headed := by
  intro block hblock
  obtain ⟨original, hmem, k, rfl⟩ := mem_mapM_run hblock
  exact (h original hmem).number k

private theorem RuleChild.Regular.number {child : RuleChild} (h : child.Regular) (n : Nat) :
    (child.number.run n).1.Regular := by
  rcases h with ⟨background, rfl⟩ | ⟨scenario, hheaded, rfl⟩
  · exact .inl ⟨_, rfl⟩
  · exact .inr ⟨_, hheaded.number n, rfl⟩

private theorem Rule.Regular.number {rule : Rule} (h : rule.Regular) (n : Nat) :
    (rule.number.run n).1.Regular := by
  refine ⟨fun child hchild => ?_, fun child hchild => ?_⟩
  · obtain ⟨original, hmem, k, rfl⟩ := mem_mapM_run hchild
    exact (h.1 original hmem).number k
  · obtain ⟨original, hmem, k, rfl⟩ := mem_tail_mapM_run hchild
    have hnone := h.2 original hmem
    rcases h.1 original (List.mem_of_mem_tail hmem) with ⟨background, rfl⟩ | ⟨scenario, _, rfl⟩
    · cases hnone
    · rfl

private theorem FeatureChild.Regular.number {child : FeatureChild} (h : child.Regular) (n : Nat) :
    (child.number.run n).1.Regular := by
  rcases h with ⟨background, rfl⟩ | ⟨scenario, hheaded, rfl⟩ | ⟨rule, hrule, rfl⟩
  · exact .inl ⟨_, rfl⟩
  · exact .inr (.inl ⟨_, hheaded.number n, rfl⟩)
  · exact .inr (.inr ⟨_, hrule.number n, rfl⟩)

private theorem Feature.Regular.numbered {feature : Feature} (h : feature.Regular) :
    feature.numbered.Regular := by
  refine ⟨fun child hchild => ?_, fun child hchild => ?_⟩
  · obtain ⟨original, hmem, k, rfl⟩ := mem_mapM_run hchild
    exact (h.1 original hmem).number k
  · obtain ⟨original, hmem, k, rfl⟩ := mem_tail_mapM_run hchild
    have hnone := h.2 original hmem
    rcases h.1 original (List.mem_of_mem_tail hmem) with
      ⟨background, rfl⟩ | ⟨scenario, _, rfl⟩ | ⟨rule, _, rfl⟩
    · cases hnone
    · rfl
    · rfl

/-! ## Parsed features -/

/-- The feature of a parsed text is regular, and no two of its nodes share an identifier. -/
theorem regular_of_parse {text : String} {document : Document} {feature : Feature}
    (h : parse text = .ok document) (hfeature : document.feature = some feature) :
    feature.Regular ∧ (nodeIds feature.nodes).Nodup := by
  obtain ⟨final, hfinal, hassembled⟩ :=
    Progress.kept_inOrder.of_parse (fun dialect _ => ⟨trivial, fun _ => rfl⟩) h
  rw [hassembled] at hfeature
  obtain ⟨assembled, hassembled, rfl⟩ := Option.map_eq_some_iff.mp hfeature
  have hregular := Piece.assemble_regular hfinal.1 hassembled
  exact ⟨hregular.numbered, Feature.nodup_nodeIds_numbered assembled⟩

end FeatureSuite.Gherkin

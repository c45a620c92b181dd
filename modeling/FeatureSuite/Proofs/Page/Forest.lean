import FeatureSuite.Page.Graph
import Mathlib.Data.List.Nodup
import Mathlib.Logic.Relation

/-!
# Page objects form a forest

Nodes are only ever added behind the others and hung below one that is there. So parents come first,
the way up from a node ends at a root, and the way down from a node reaches what lies below it
exactly once.
-/

namespace FeatureSuite.PageGraph

open Relation (ReflTransGen TransGen)

variable {graph : PageGraph} {i j parent : Nat}

/-! ## Adding a node -/

/-- The nodes that are there when a child is hung below one of them. -/
private def hang (graph : PageGraph) (above : Option Nat) : List PageNode :=
  match above with
  | none => graph.nodes
  | some above => addChild graph.nodes above graph.nodes.length

@[simp] private theorem length_hang (above : Option Nat) :
    (graph.hang above).length = graph.nodes.length := by
  cases above <;> simp [hang, addChild]

private theorem getElem?_hang (above : Option Nat) :
    (graph.hang above)[i]? = (graph.node? i).map fun node =>
      if above = some i then { node with children := node.children ++ [graph.nodes.length] }
      else node := by
  cases above with
  | none => simp [hang, node?]
  | some above =>
      rw [hang, addChild, List.getElem?_modify, node?]
      by_cases habove : above = i <;> simp [habove]

private theorem node?_add (className fixture : String) (above : Option Nat) :
    (graph.add className fixture above).node? i =
      if i = graph.nodes.length then some { className, fixture, parent := above }
      else (graph.node? i).map fun node =>
        if above = some i then { node with children := node.children ++ [graph.nodes.length] }
        else node := by
  change (graph.hang above ++ [{ className, fixture, parent := above }])[i]? = _
  rw [List.getElem?_append, length_hang, getElem?_hang, List.getElem?_singleton]
  rcases Nat.lt_trichotomy i graph.nodes.length with hi | hi | hi
  · rw [if_pos hi, if_neg (Nat.ne_of_lt hi)]
  · simp [hi]
  · have hnone : graph.node? i = none := List.getElem?_eq_none (Nat.le_of_lt hi)
    rw [if_neg (Nat.not_lt_of_gt hi), if_neg (by omega), if_neg (Nat.ne_of_gt hi), hnone]
    rfl

@[simp] theorem length_add (className fixture : String) (above : Option Nat) :
    (graph.add className fixture above).nodes.length = graph.nodes.length + 1 := by
  change (graph.hang above ++ [_]).length = _
  rw [List.length_append, length_hang, List.length_singleton]

theorem parent?_add (className fixture : String) (above : Option Nat) :
    (graph.add className fixture above).parent? i =
      if i = graph.nodes.length then above else graph.parent? i := by
  unfold parent?
  rw [node?_add]
  split
  · rfl
  · cases graph.node? i with
    | none => rfl
    | some node =>
        simp only [Option.map_some, Option.bind_some]
        split <;> rfl

private theorem children_add (className fixture : String) (above : Option Nat) :
    (graph.add className fixture above).children i =
      if i < graph.nodes.length then
        graph.children i ++ if above = some i then [graph.nodes.length] else []
      else [] := by
  unfold children
  rw [node?_add]
  by_cases hi : i < graph.nodes.length
  · rw [if_neg (Nat.ne_of_lt hi), if_pos hi]
    have hnode : graph.node? i = some graph.nodes[i] := List.getElem?_eq_getElem hi
    rw [hnode]
    simp only [Option.map_some, Option.getD_some]
    split <;> simp
  · have hnone : graph.node? i = none := List.getElem?_eq_none (Nat.le_of_not_lt hi)
    rw [if_neg hi, hnone]
    split <;> rfl

theorem lt_of_parent? (h : graph.parent? i = some parent) : i < graph.nodes.length := by
  by_contra hi
  have hnone : graph.node? i = none := List.getElem?_eq_none (Nat.le_of_not_lt hi)
  rw [parent?, hnone] at h
  cases h

/-! ## Parents and children -/

/-- Parents come first, and the children of a node are, in order, the nodes that it is the parent
of. -/
structure Ordered (graph : PageGraph) : Prop where
  parent_lt : ∀ {i parent : Nat}, graph.parent? i = some parent → parent < i
  children_eq : ∀ i : Nat, graph.children i =
    (List.range graph.nodes.length).filter fun j => graph.parent? j = some i

namespace Ordered

theorem empty : Ordered {} where
  parent_lt h := by cases h
  children_eq _ := rfl

theorem add (h : graph.Ordered) (className fixture : String) {above : Option Nat}
    (habove : ∀ parent, above = some parent → parent < graph.nodes.length) :
    (graph.add className fixture above).Ordered where
  parent_lt := by
    intro i parent hparent
    rw [parent?_add] at hparent
    split at hparent
    · rename_i hi
      exact hi ▸ habove parent hparent
    · exact h.parent_lt hparent
  children_eq := by
    intro i
    have hold : (List.range graph.nodes.length).filter (fun j =>
        (graph.add className fixture above).parent? j = some i) = graph.children i := by
      rw [h.children_eq]
      refine List.filter_congr fun j hj => ?_
      rw [parent?_add, if_neg (Nat.ne_of_lt (List.mem_range.mp hj))]
    rw [length_add, List.range_succ, List.filter_append, hold, List.filter_singleton, parent?_add,
      if_pos rfl, children_add]
    by_cases hi : i < graph.nodes.length
    · simp [hi]
    · have hnone : graph.node? i = none := List.getElem?_eq_none (Nat.le_of_not_lt hi)
      have hnot : above ≠ some i := fun hsome => hi (habove i hsome)
      simp [hi, hnot, children, hnone]

theorem mem_children (h : graph.Ordered) : j ∈ graph.children i ↔ graph.parent? j = some i := by
  rw [h.children_eq, List.mem_filter, List.mem_range, decide_eq_true_eq]
  exact ⟨And.right, fun hparent => ⟨lt_of_parent? hparent, hparent⟩⟩

private theorem nodup_children (h : graph.Ordered) : (graph.children i).Nodup := by
  rw [h.children_eq]
  exact List.nodup_range.filter _

end Ordered

/-! ## The way up -/

/-- A node hangs below another one. -/
def Below (graph : PageGraph) (i parent : Nat) : Prop := graph.parent? i = some parent

/-- The way up from a node: from parent to parent, until there is none. -/
inductive Climbs (graph : PageGraph) : Nat → List Nat → Prop where
  | root {i : Nat} : graph.parent? i = none → Climbs graph i [i]
  | next {i parent : Nat} {above : List Nat} :
      graph.parent? i = some parent → Climbs graph parent above → Climbs graph i (i :: above)

theorem rightUnique_below (graph : PageGraph) : Relator.RightUnique graph.Below := by
  intro i parent parent' h h'
  exact Option.some.inj (h.symm.trans h')

theorem Climbs.mem_iff {above : List Nat} (h : graph.Climbs i above) :
    j ∈ above ↔ ReflTransGen graph.Below i j := by
  induction h with
  | @root i hroot =>
      rw [List.mem_singleton, ReflTransGen.cases_head_iff]
      constructor
      · exact fun hj => .inl hj.symm
      · rintro (hj | ⟨parent, hparent, _⟩)
        · exact hj.symm
        · cases hroot.symm.trans hparent
  | @next i parent above hparent _ ih =>
      rw [List.mem_cons, ih, ReflTransGen.cases_head_iff (a := i)]
      constructor
      · rintro (hj | hj)
        · exact .inl hj.symm
        · exact .inr ⟨parent, hparent, hj⟩
      · rintro (hj | ⟨parent', hparent', hj⟩)
        · exact .inl hj.symm
        · cases graph.rightUnique_below hparent hparent'
          exact .inr hj

namespace Ordered

theorem lt_of_transGen (h : graph.Ordered) (hij : TransGen graph.Below i j) : j < i := by
  induction hij with
  | single hparent => exact h.parent_lt hparent
  | tail _ hparent ih => exact Nat.lt_trans (h.parent_lt hparent) ih

private theorem le_of_reflTransGen (h : graph.Ordered)
    (hij : ReflTransGen graph.Below i j) : j ≤ i := by
  rcases Relation.reflTransGen_iff_eq_or_transGen.mp hij with rfl | hij
  · exact Nat.le_refl j
  · exact Nat.le_of_lt (h.lt_of_transGen hij)

/-- The fuel of the way up is not used up, since the numbers fall. -/
theorem climbs_lineageFrom (h : graph.Ordered) {fuel : Nat} (hi : i < fuel) :
    graph.Climbs i (graph.lineageFrom fuel i) := by
  induction fuel generalizing i with
  | zero => cases hi
  | succ fuel ih =>
      rw [lineageFrom]
      cases hparent : graph.parent? i with
      | none => exact .root hparent
      | some parent =>
          have hlt : parent < i := h.parent_lt hparent
          exact .next hparent (ih (by omega))

theorem climbs_lineage (h : graph.Ordered) (hi : i < graph.nodes.length) :
    graph.Climbs i (graph.lineage i) := h.climbs_lineageFrom hi

private theorem nodup_of_climbs (h : graph.Ordered) {above : List Nat}
    (hclimbs : graph.Climbs i above) :
    above.Nodup := by
  induction hclimbs with
  | @root i _ => exact List.nodup_singleton i
  | @next i parent above hparent hclimbs ih =>
      refine List.nodup_cons.mpr ⟨fun hmem => ?_, ih⟩
      have hle : i ≤ parent := h.le_of_reflTransGen (hclimbs.mem_iff.mp hmem)
      exact Nat.not_lt_of_le hle (h.parent_lt hparent)

/-- Ancestors are the nodes on the way up, but for the node itself. -/
theorem isAncestorOf_iff (h : graph.Ordered) :
    graph.isAncestorOf i j = true ↔ TransGen graph.Below j i := by
  have hdef : graph.isAncestorOf i j = true ↔ j ≠ i ∧ i ∈ graph.lineage j := by
    simp [isAncestorOf]
  rw [hdef]
  by_cases hj : j < graph.nodes.length
  · rw [(h.climbs_lineage hj).mem_iff, Relation.reflTransGen_iff_eq_or_transGen]
    constructor
    · rintro ⟨hne, hij | hij⟩
      · exact absurd hij.symm hne
      · exact hij
    · exact fun hij => ⟨Nat.ne_of_gt (h.lt_of_transGen hij), .inr hij⟩
  · constructor
    · rintro ⟨hne, hmem⟩
      -- Behind the last node there is nothing above.
      have hroot : graph.parent? j = none := by
        cases hparent : graph.parent? j with
        | none => rfl
        | some parent => exact absurd (lt_of_parent? hparent) hj
      have hij : i = j := by
        rw [lineage] at hmem
        cases hfuel : graph.nodes.length with
        | zero =>
            rw [hfuel, lineageFrom] at hmem
            cases hmem
        | succ fuel =>
            rw [hfuel, lineageFrom, hroot] at hmem
            exact List.mem_singleton.mp hmem
      exact absurd hij.symm hne
    · intro hij
      obtain ⟨parent, hparent, _⟩ := TransGen.head'_iff.mp hij
      exact absurd (lt_of_parent? hparent) hj

/-! ## The way down -/

/-- What lies below a node is below one of its children, or is one. -/
theorem transGen_iff_children (h : graph.Ordered) :
    TransGen graph.Below j i ↔
      ∃ child ∈ graph.children i, j = child ∨ TransGen graph.Below j child := by
  rw [TransGen.tail'_iff]
  constructor
  · rintro ⟨child, hj, hchild⟩
    refine ⟨child, h.mem_children.mpr hchild, ?_⟩
    exact (Relation.reflTransGen_iff_eq_or_transGen.mp hj).imp_left Eq.symm
  · rintro ⟨child, hchild, hj⟩
    refine ⟨child, ?_, h.mem_children.mp hchild⟩
    exact Relation.reflTransGen_iff_eq_or_transGen.mpr (hj.imp_left Eq.symm)

/-- The fuel of the way down is not used up, since the numbers rise and none is beyond the last
node. -/
theorem mem_descendantsFrom (h : graph.Ordered) {fuel : Nat}
    (hfuel : graph.nodes.length ≤ fuel + i) :
    j ∈ graph.descendantsFrom fuel i ↔ TransGen graph.Below j i := by
  rw [h.transGen_iff_children]
  induction fuel generalizing i with
  | zero =>
      simp only [descendantsFrom, List.not_mem_nil, false_iff]
      rintro ⟨child, hchild, _⟩
      have hparent := h.mem_children.mp hchild
      have hlt : i < child := h.parent_lt hparent
      have hlast : child < graph.nodes.length := lt_of_parent? hparent
      omega
  | succ fuel ih =>
      simp only [descendantsFrom, List.mem_flatMap, List.mem_cons]
      refine exists_congr fun child => and_congr_right fun hchild => or_congr_right ?_
      have hlt : i < child := h.parent_lt (h.mem_children.mp hchild)
      rw [ih (by omega), h.transGen_iff_children]

/-- Nothing is below two nodes with the same parent: the way up leads through one of them only. -/
theorem eq_of_siblings (h : graph.Ordered) {child sibling : Nat}
    (hchild : graph.Below child i) (hsibling : graph.Below sibling i)
    (hj : ReflTransGen graph.Below j child) (hj' : ReflTransGen graph.Below j sibling) :
    child = sibling := by
  have honly {a b : Nat} (ha : graph.Below a i) (hb : graph.Below b i)
      (hab : ReflTransGen graph.Below a b) : a = b := by
    rcases ReflTransGen.cases_head_iff.mp hab with hab | ⟨parent, hparent, hup⟩
    · exact hab
    · cases graph.rightUnique_below ha hparent
      have hle : b ≤ i := h.le_of_reflTransGen hup
      exact absurd (h.parent_lt hb) (Nat.not_lt_of_le hle)
  rcases ReflTransGen.total_of_right_unique graph.rightUnique_below hj hj' with hup | hup
  · exact honly hchild hsibling hup
  · exact (honly hsibling hchild hup).symm

private theorem nodup_descendantsFrom (h : graph.Ordered) {fuel : Nat}
    (hfuel : graph.nodes.length ≤ fuel + i) : (graph.descendantsFrom fuel i).Nodup := by
  induction fuel generalizing i with
  | zero => exact List.nodup_nil
  | succ fuel ih =>
      have hchildren : ∀ child ∈ graph.children i,
          graph.Below child i ∧ graph.nodes.length ≤ fuel + child := by
        intro child hchild
        have hparent := h.mem_children.mp hchild
        have hlt : i < child := h.parent_lt hparent
        exact ⟨hparent, by omega⟩
      have hup : ∀ child ∈ graph.children i,
          ∀ j ∈ child :: graph.descendantsFrom fuel child, ReflTransGen graph.Below j child := by
        intro child hchild j hj
        rw [List.mem_cons, h.mem_descendantsFrom (hchildren child hchild).2] at hj
        exact Relation.reflTransGen_iff_eq_or_transGen.mpr (hj.imp_left Eq.symm)
      rw [descendantsFrom, List.nodup_flatMap]
      constructor
      · intro child hchild
        refine List.nodup_cons.mpr ⟨fun hmem => ?_, ih (hchildren child hchild).2⟩
        rw [h.mem_descendantsFrom (hchildren child hchild).2] at hmem
        exact Nat.lt_irrefl child (h.lt_of_transGen hmem)
      · refine h.nodup_children.imp_of_mem fun {child sibling} hchild hsibling hne => ?_
        intro j hj hj'
        exact hne (h.eq_of_siblings (hchildren child hchild).1 (hchildren sibling hsibling).1
          (hup child hchild j hj) (hup sibling hsibling j hj'))

end Ordered

/-! ## Forests -/

/-- What holds of the nodes of a graph in terms of what can be asked of it. -/
structure IsForest (graph : PageGraph) : Prop where
  /-- A parent is registered before its children. -/
  parent_lt : ∀ i parent, graph.parent? i = some parent → parent < i
  /-- A node is once among the children of its parent and not among those of others. -/
  count_children : ∀ i parent,
    (graph.children parent).count i = if graph.parent? i = some parent then 1 else 0
  /-- Children stand in the order of registration. -/
  sorted_children : ∀ parent, (graph.children parent).Pairwise (· < ·)
  /-- A lineage ends at a node without a parent. -/
  climbs_lineage : ∀ i < graph.nodes.length, graph.Climbs i (graph.lineage i)
  nodup_lineage : ∀ i < graph.nodes.length, (graph.lineage i).Nodup
  irrefl : ∀ i, graph.isAncestorOf i i = false
  trans : ∀ i j k, graph.isAncestorOf i j = true → graph.isAncestorOf j k = true →
    graph.isAncestorOf i k = true
  nodup_descendants : ∀ i, (graph.descendants i).Nodup
  mem_descendants : ∀ i j, j ∈ graph.descendants i ↔ graph.isAncestorOf i j = true

theorem Ordered.isForest (h : graph.Ordered) : graph.IsForest where
  parent_lt _ _ := h.parent_lt
  count_children i parent := by
    rw [List.Nodup.count h.nodup_children]
    simp only [h.mem_children]
  sorted_children parent := by
    rw [h.children_eq]
    exact List.pairwise_lt_range.filter _
  climbs_lineage _ := h.climbs_lineage
  nodup_lineage _ hi := h.nodup_of_climbs (h.climbs_lineage hi)
  irrefl i := by simp [isAncestorOf]
  trans i j k hij hjk := by
    rw [h.isAncestorOf_iff] at hij hjk ⊢
    exact hjk.trans hij
  nodup_descendants i := h.nodup_descendantsFrom (Nat.le_add_right _ i)
  mem_descendants i j := by
    rw [h.isAncestorOf_iff]
    exact h.mem_descendantsFrom (Nat.le_add_right _ i)

end FeatureSuite.PageGraph

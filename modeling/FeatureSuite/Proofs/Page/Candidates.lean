import FeatureSuite.Proofs.Page.Used
import FeatureSuite.Proofs.Step.Registration

/-!
# Candidates among page objects

The page objects that can run a step are the used ones with a fixture at or below the one that the
step is attached to. Chosen ones go first, and of these the most derived ones are the candidates.
Since page objects form a forest, none of them being a candidate means that none qualifies.
-/

namespace FeatureSuite

open Relation (ReflTransGen TransGen)

namespace PageGraph

variable {graph : PageGraph} {uses : List (Nat × Bool)} {page other : Nat}

/-- A page object that is used, has a fixture and is a page object or lies below it. -/
def Qualifies (graph : PageGraph) (uses : List (Nat × Bool)) (page other : Nat) : Prop :=
  (∃ byTag, (other, byTag) ∈ uses) ∧ graph.fixture other ≠ "" ∧
    (other = page ∨ other ∈ graph.descendants page)

/-- One of those that tags chose, or of all of them if tags chose none. -/
def Prefers (graph : PageGraph) (uses : List (Nat × Bool)) (page other : Nat) : Prop :=
  graph.Qualifies uses page other ∧
    ((other, true) ∈ uses ∨ ∀ third, graph.Qualifies uses page third → (third, true) ∉ uses)

namespace Ordered

/-- On the way up from a page object with a fixture stand itself and what it lies below. -/
theorem mem_lineage (h : graph.Ordered) (hfixture : graph.fixture other ≠ "") :
    page ∈ graph.lineage other ↔ other = page ∨ other ∈ graph.descendants page := by
  have hclimbs := h.climbs_lineage (lt_of_fixture_ne_empty hfixture)
  rw [hclimbs.mem_iff, Relation.reflTransGen_iff_eq_or_transGen, h.isForest.mem_descendants,
    h.isAncestorOf_iff, eq_comm]

private theorem mem_qualified (h : graph.Ordered) {chosen : Bool} :
    (other, chosen) ∈ (({} : UsedPages).useAll uses).qualified graph page ↔
      graph.Qualifies uses page other ∧ (chosen = true ↔ (other, true) ∈ uses) := by
  rw [UsedPages.mem_qualified, UsedPages.mem_entries_useAll]
  constructor
  · rintro ⟨⟨hused, hchosen⟩, hfixture, hlineage⟩
    exact ⟨⟨hused, hfixture, (h.mem_lineage hfixture).mp hlineage⟩, hchosen⟩
  · rintro ⟨⟨hused, hfixture, hbelow⟩, hchosen⟩
    exact ⟨⟨hused, hchosen⟩, hfixture, (h.mem_lineage hfixture).mpr hbelow⟩

private theorem mem_preferred (h : graph.Ordered) :
    other ∈ UsedPages.preferred ((({} : UsedPages).useAll uses).qualified graph page) ↔
      graph.Prefers uses page other := by
  have hnone : (∀ entry ∈ (({} : UsedPages).useAll uses).qualified graph page, entry.2 = false) ↔
      ∀ third, graph.Qualifies uses page third → (third, true) ∉ uses := by
    constructor
    · intro hall third hthird hchosen
      have hentry := h.mem_qualified.mpr ⟨hthird, iff_of_true rfl hchosen⟩
      exact Bool.noConfusion (hall _ hentry)
    · rintro hall ⟨third, chosen⟩ hentry
      obtain ⟨hthird, hchosen⟩ := h.mem_qualified.mp hentry
      exact Bool.eq_false_iff.mpr fun hmark => hall third hthird (hchosen.mp hmark)
  rw [UsedPages.mem_preferred, hnone]
  constructor
  · rintro ⟨chosen, hentry, hmark⟩
    obtain ⟨hqualifies, hchosen⟩ := h.mem_qualified.mp hentry
    exact ⟨hqualifies, hmark.imp_left hchosen.mp⟩
  · rintro ⟨hqualifies, hmark⟩
    by_cases hchosen : (other, true) ∈ uses
    · exact ⟨true, h.mem_qualified.mpr ⟨hqualifies, iff_of_true rfl hchosen⟩, .inl rfl⟩
    · exact ⟨false, h.mem_qualified.mpr ⟨hqualifies, iff_of_false Bool.false_ne_true hchosen⟩,
        .inr (hmark.resolve_left hchosen)⟩

private theorem mem_candidates (h : graph.Ordered) :
    other ∈ (({} : UsedPages).useAll uses).candidates graph page ↔
      graph.Prefers uses page other ∧
        ∀ third, graph.Prefers uses page third → graph.isAncestorOf other third = false := by
  simp only [UsedPages.mem_candidates, h.mem_preferred]

private theorem lt_of_isAncestorOf (h : graph.Ordered)
    (hij : graph.isAncestorOf page other = true) :
    page < other := h.lt_of_transGen (h.isAncestorOf_iff.mp hij)

private theorem exists_most_derived (h : graph.Ordered) {pages : List Nat} (hpages : pages ≠ []) :
    ∃ last ∈ pages, ∀ other ∈ pages, graph.isAncestorOf last other = false := by
  obtain ⟨last, hlast⟩ := Option.isSome_iff_exists.mp (List.isSome_max?_of_ne_nil hpages)
  obtain ⟨hmem, hmax⟩ := List.max?_eq_some_iff.mp hlast
  refine ⟨last, hmem, fun other hother => ?_⟩
  by_contra habove
  have hlt : last < other := h.lt_of_isAncestorOf (Bool.not_eq_false _ ▸ habove)
  have hle : other ≤ last := hmax other hother
  omega

/-- Where a page object qualifies, there is a candidate: a most derived one of those that go
first. -/
theorem candidates_ne_nil (h : graph.Ordered) {used : UsedPages} {entry : Nat × Bool}
    (hentry : entry ∈ used.qualified graph page) : used.candidates graph page ≠ [] := by
  have hpreferred : UsedPages.preferred (used.qualified graph page) ≠ [] := by
    by_cases hchosen : ∃ third ∈ used.qualified graph page, third.2 = true
    · obtain ⟨third, hthird, hmark⟩ := hchosen
      exact List.ne_nil_of_mem (UsedPages.mem_preferred.mpr ⟨third.2, hthird, .inl hmark⟩)
    · push Not at hchosen
      have hnone : ∀ third ∈ used.qualified graph page, third.2 = false :=
        fun third hthird => Bool.eq_false_iff.mpr (hchosen third hthird)
      exact List.ne_nil_of_mem (UsedPages.mem_preferred.mpr ⟨entry.2, hentry, .inr hnone⟩)
  obtain ⟨last, hlast, hderived⟩ := h.exists_most_derived hpreferred
  exact List.ne_nil_of_mem (UsedPages.mem_candidates.mpr ⟨hlast, hderived⟩)

private theorem candidates_eq_nil_iff (h : graph.Ordered) :
    (({} : UsedPages).useAll uses).candidates graph page = [] ↔
      ∀ other, ¬ graph.Qualifies uses page other := by
  constructor
  · intro hnil other hother
    have hentry : (other, decide ((other, true) ∈ uses)) ∈
        (({} : UsedPages).useAll uses).qualified graph page :=
      h.mem_qualified.mpr ⟨hother, decide_eq_true_iff⟩
    exact h.candidates_ne_nil hentry hnil
  · intro hnone
    apply List.eq_nil_iff_forall_not_mem.mpr
    intro other hother
    exact hnone other (h.mem_candidates.mp hother).1.1

end Ordered

end PageGraph

/-- Of the used page objects with a fixture at or below a page object, take those that tags chose,
or all if tags chose none. The candidates are those of them that are no ancestors of others, in the
order of first use. If none is left, none qualified; and one that alone is chosen is the only
candidate. (What a tag chooses has a fixture.) -/
theorem Session.candidates_of_runEach (defaults : Scope) (operations : List Operation)
    (uses : List (Nat × Bool)) (page : Nat) :
    let graph := ((start defaults).runEach operations).store.graph
    let candidates := (({} : UsedPages).useAll uses).candidates graph page
    (∀ other, other ∈ candidates ↔ graph.Prefers uses page other ∧
        ∀ third, graph.Prefers uses page third → graph.isAncestorOf other third = false) ∧
      candidates.Nodup ∧ candidates.Sublist (distinct (uses.map Prod.fst)) ∧
      (∀ one ∈ candidates, ∀ other ∈ candidates, graph.isAncestorOf one other = false) ∧
      (candidates = [] ↔ ∀ other, ¬ graph.Qualifies uses page other) ∧
      (∀ chosen, graph.Qualifies uses page chosen → (chosen, true) ∈ uses →
        (∀ other, graph.Qualifies uses page other → (other, true) ∈ uses → other = chosen) →
          candidates = [chosen]) ∧
      ∀ tag other, graph.chosenBy? tag = some other → graph.fixture other ≠ "" := by
  intro graph candidates
  have hordered : graph.Ordered :=
    (Store.Sound.empty.growsAll ((start defaults).grows_runEach operations)).ordered
  have hmem (other : Nat) : other ∈ candidates ↔ graph.Prefers uses page other ∧
      ∀ third, graph.Prefers uses page third → graph.isAncestorOf other third = false :=
    hordered.mem_candidates
  have hsublist : candidates.Sublist (distinct (uses.map Prod.fst)) := by
    have hentries : (({} : UsedPages).useAll uses).entries.map Prod.fst =
        distinct (uses.map Prod.fst) := by
      simp [UsedPages.entries_useAll, Function.comp_def]
    exact hentries ▸ UsedPages.candidates_sublist
  have hnodup : candidates.Nodup := (nodup_distinct _).sublist hsublist
  refine ⟨hmem, hnodup, hsublist, ?_, hordered.candidates_eq_nil_iff, ?_, ?_⟩
  · intro one hone other hother
    exact ((hmem one).mp hone).2 other ((hmem other).mp hother).1
  · intro chosen hqualifies hchosen honly
    have hprefers (other : Nat) : graph.Prefers uses page other ↔ other = chosen := by
      constructor
      · rintro ⟨hother, hmark | hnone⟩
        · exact honly other hother hmark
        · exact absurd hchosen (hnone chosen hqualifies)
      · rintro rfl
        exact ⟨hqualifies, .inl hchosen⟩
    apply eq_singleton_of_nodup hnodup
    intro other
    apply UsedPages.mem_candidates_of_alone
    intro third
    rw [hordered.mem_preferred, hprefers]
  · intro tag other htag
    obtain ⟨fixture, _, hfound⟩ := PageGraph.chosenBy?_eq_some.mp htag
    obtain ⟨hfixture, hne⟩ := PageGraph.fixture_of_byFixture? hfound
    exact hfixture ▸ hne

/-- Two branches below a page object without a fixture. -/
def branchedPages : List Operation :=
  [.definePage "" { name := "Page" } "" none,
    .definePage "" { name := "Todo", bases := ["Page"] } "todo" none,
    .definePage "" { name := "Admin", bases := ["Todo"] } "admin" none,
    .definePage "" { name := "Other", bases := ["Page"] } "other" none]

/-- A chosen page object is the only candidate, although one below it and one of the other branch
are used as well. -/
theorem Session.candidates_of_branchedPages :
    let graph := ((start {}).runEach branchedPages).store.graph
    let uses := [(0, false), (3, false), (2, false), (1, false), (1, true)]
    graph.Qualifies uses 0 1 ∧ (1, true) ∈ uses ∧
      (∀ other, graph.Qualifies uses 0 other → (other, true) ∈ uses → other = 1) ∧
      (({} : UsedPages).useAll uses).candidates graph 0 = [1] := by
  intro graph uses
  have hqualifies : graph.Qualifies uses 0 1 :=
    ⟨⟨true, by decide⟩, by decide +kernel, .inr (by decide +kernel)⟩
  have honly : ∀ other, graph.Qualifies uses 0 other → (other, true) ∈ uses → other = 1 := by
    intro other _ hchosen
    simpa [uses] using hchosen
  obtain ⟨_, _, _, _, _, hchosen, _⟩ := candidates_of_runEach {} branchedPages uses 0
  exact ⟨hqualifies, by decide, honly, hchosen 1 hqualifies (by decide) honly⟩

end FeatureSuite

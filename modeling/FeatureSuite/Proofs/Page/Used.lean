import FeatureSuite.Page.Used
import Mathlib.Data.List.Induction
import Mathlib.Data.List.Nodup
import Mathlib.Data.List.Perm.Basic

/-!
# Used page objects

Page objects are used one after the other, by steps, by fixtures or by tags. What is kept of that is
which ones are used, in the order of first use, and which of them a tag chose; so the candidates for
a step are the same whatever the order.
-/

namespace FeatureSuite

theorem eq_singleton_of_nodup {α : Type} {items : List α} {a : α} (hnodup : items.Nodup)
    (h : ∀ b, b ∈ items ↔ b = a) : items = [a] := by
  apply List.perm_singleton.mp
  apply (List.perm_ext_iff_of_nodup hnodup (List.nodup_singleton a)).mpr
  intro b
  rw [h, List.mem_singleton]

/-! ## Fixtures of page objects -/

namespace PageGraph

variable {graph : PageGraph} {page : Nat} {name tag : String}

/-- The page object that a tag chooses. -/
def chosenBy? (graph : PageGraph) (tag : String) : Option Nat :=
  (fixtureOfTag? tag).bind graph.byFixture?

theorem lt_of_fixture_ne_empty (h : graph.fixture page ≠ "") : page < graph.nodes.length := by
  by_contra hbeyond
  have hnone : graph.node? page = none := List.getElem?_eq_none (Nat.le_of_not_lt hbeyond)
  apply h
  simp [fixture, hnone]

theorem fixture_eq (h : page < graph.nodes.length) :
    graph.fixture page = graph.nodes[page].fixture := by
  simp [fixture, node?, h]

theorem fixture_of_byFixture? (h : graph.byFixture? name = some page) :
    graph.fixture page = name ∧ name ≠ "" := by
  unfold byFixture? at h
  by_cases hname : name = ""
  · simp [hname] at h
  · rw [if_neg hname, List.findIdx?_eq_some_iff_getElem] at h
    obtain ⟨hpage, hfixture, _⟩ := h
    rw [fixture_eq hpage]
    exact ⟨by simpa using hfixture, hname⟩

theorem chosenBy?_eq_some :
    graph.chosenBy? tag = some page ↔
      ∃ fixture, fixtureOfTag? tag = some fixture ∧ graph.byFixture? fixture = some page :=
  Option.bind_eq_some_iff

theorem chosenBy?_fixtureTag (graph : PageGraph) (name : String) :
    graph.chosenBy? (fixtureTag name) = graph.byFixture? name := by
  unfold chosenBy?
  by_cases hname : name = ""
  · subst hname
    rfl
  · rw [fixtureOfTag?_fixtureTag hname, Option.bind_some]

end PageGraph

namespace UsedPages

variable {used used' : UsedPages} {graph : PageGraph} {uses : List (Nat × Bool)}
  {entries : List (Nat × Bool)} {page other only : Nat} {chosen : Bool} {name : String}

/-! ## One use after the other -/

/-- Uses page objects one after the other. Of each it is told whether a tag chooses it. -/
def useAll (used : UsedPages) (uses : List (Nat × Bool)) : UsedPages :=
  uses.foldl (fun used use => used.use use.1 use.2) used

theorem useFixture_eq (used : UsedPages) (graph : PageGraph) (fixture : String) (byTag : Bool) :
    used.useFixture graph fixture byTag =
      used.useAll ((graph.byFixture? fixture).toList.map fun page => (page, byTag)) := by
  unfold useFixture
  cases graph.byFixture? fixture <;> rfl

theorem useTag_eq (used : UsedPages) (graph : PageGraph) (tag : String) :
    used.useTag graph tag =
      used.useAll ((graph.chosenBy? tag).toList.map fun page => (page, true)) := by
  unfold useTag PageGraph.chosenBy?
  cases fixtureOfTag? tag with
  | none => rfl
  | some fixture => exact useFixture_eq used graph fixture true

private theorem entries_use (used : UsedPages) (page : Nat) (byTag : Bool) :
    (used.use page byTag).entries =
      if page ∈ used.entries.map Prod.fst then
        used.entries.map fun entry => (entry.1, entry.2 || (entry.1 == page && byTag))
      else used.entries ++ [(page, byTag)] := by
  have hused : used.entries.any (·.1 == page) = true ↔ page ∈ used.entries.map Prod.fst := by
    simp [List.any_eq_true]
  unfold use
  by_cases hpage : page ∈ used.entries.map Prod.fst
  · rw [if_pos hpage, if_pos (hused.mpr hpage)]
    apply List.map_congr_left
    rintro ⟨other, chosen⟩ _
    by_cases hother : other = page <;> simp [hother]
  · rw [if_neg hpage, if_neg (mt hused.mp hpage)]

/-- Every page object stands at its first use, and is chosen if one of its uses chooses it. -/
theorem entries_useAll (uses : List (Nat × Bool)) :
    (({} : UsedPages).useAll uses).entries =
      (distinct (uses.map Prod.fst)).map fun page => (page, uses.contains (page, true)) := by
  induction uses using List.reverseRecOn with
  | nil => rfl
  | append_singleton uses last ih =>
      obtain ⟨page, byTag⟩ := last
      have hlast : ({} : UsedPages).useAll (uses ++ [(page, byTag)]) =
          (({} : UsedPages).useAll uses).use page byTag := by
        rw [useAll, List.foldl_append]
        rfl
      have hpages : (({} : UsedPages).useAll uses).entries.map Prod.fst =
          distinct (uses.map Prod.fst) := by
        simp [ih, Function.comp_def]
      rw [hlast, entries_use, hpages, List.map_append, List.map_singleton]
      by_cases hpage : page ∈ uses.map Prod.fst
      · rw [if_pos (mem_distinct.mpr hpage), distinct_append_cons_of_mem hpage, List.append_nil, ih,
          List.map_map]
        apply List.map_congr_left
        intro other _
        by_cases hother : other = page <;> cases byTag <;> simp [hother]
      · have hnew : (page, true) ∉ uses := by
          intro h
          exact hpage (List.mem_map_of_mem h)
        rw [if_neg (mt mem_distinct.mp hpage), distinct_append_singleton hpage, List.map_append, ih]
        congr 1
        · apply List.map_congr_left
          intro other hother
          have hne : other ≠ page := by
            rintro rfl
            exact hpage (mem_distinct.mp hother)
          simp [hne]
        · cases byTag <;> simp [hnew]

theorem mem_entries_useAll :
    (other, chosen) ∈ (({} : UsedPages).useAll uses).entries ↔
      (∃ byTag, (other, byTag) ∈ uses) ∧ (chosen = true ↔ (other, true) ∈ uses) := by
  have hmark : (uses.contains (other, true) = chosen) ↔ (chosen = true ↔ (other, true) ∈ uses) := by
    rw [← List.contains_iff_mem]
    cases chosen <;> simp
  simp only [entries_useAll, List.mem_map, mem_distinct, Prod.mk.injEq]
  constructor
  · rintro ⟨page, ⟨use, huse, rfl⟩, rfl, hchosen⟩
    exact ⟨⟨use.2, huse⟩, hmark.mp hchosen⟩
  · rintro ⟨⟨byTag, huse⟩, hchosen⟩
    exact ⟨other, ⟨(other, byTag), huse, rfl⟩, rfl, hmark.mpr hchosen⟩

/-! ## Candidates -/

theorem mem_qualified :
    (other, chosen) ∈ used.qualified graph page ↔
      (other, chosen) ∈ used.entries ∧ graph.fixture other ≠ "" ∧ page ∈ graph.lineage other := by
  simp [qualified]

theorem mem_preferred :
    other ∈ preferred entries ↔
      ∃ chosen, (other, chosen) ∈ entries ∧
        (chosen = true ∨ ∀ entry ∈ entries, entry.2 = false) := by
  unfold preferred
  dsimp only
  by_cases hnone : ∀ entry ∈ entries, entry.2 = false
  · have hempty : (entries.filter (·.2)).isEmpty = true := by simpa using hnone
    rw [if_pos hempty]
    constructor
    · intro h
      obtain ⟨entry, hentry, rfl⟩ := List.mem_map.mp h
      exact ⟨entry.2, hentry, .inr hnone⟩
    · rintro ⟨chosen, hentry, _⟩
      exact List.mem_map_of_mem hentry
  · have hsome : ¬ (entries.filter (·.2)).isEmpty = true := by simpa using hnone
    rw [if_neg hsome]
    constructor
    · intro h
      obtain ⟨entry, hentry, rfl⟩ := List.mem_map.mp h
      have hchosen := List.mem_filter.mp hentry
      exact ⟨entry.2, hchosen.1, .inl hchosen.2⟩
    · rintro ⟨chosen, hentry, hchosen | hall⟩
      · exact List.mem_map_of_mem (List.mem_filter.mpr ⟨hentry, hchosen⟩)
      · exact absurd hall hnone

theorem preferred_sublist (entries : List (Nat × Bool)) :
    (preferred entries).Sublist (entries.map Prod.fst) := by
  unfold preferred
  dsimp only
  split
  · exact List.Sublist.refl _
  · exact List.filter_sublist.map Prod.fst

theorem mem_candidates :
    other ∈ used.candidates graph page ↔
      other ∈ preferred (used.qualified graph page) ∧
        ∀ third ∈ preferred (used.qualified graph page), graph.isAncestorOf other third = false := by
  simp [candidates, mostDerived]

theorem mem_candidates_of_alone
    (h : ∀ other, other ∈ preferred (used.qualified graph page) ↔ other = only) :
    other ∈ used.candidates graph page ↔ other = only := by
  have hself : graph.isAncestorOf only only = false := by simp [PageGraph.isAncestorOf]
  simp only [mem_candidates, h, forall_eq]
  apply and_iff_left_of_imp
  rintro rfl
  exact hself

theorem candidates_sublist :
    (used.candidates graph page).Sublist (used.entries.map Prod.fst) := by
  have hpreferred : (used.candidates graph page).Sublist
      (preferred (used.qualified graph page)) := List.filter_sublist
  have hqualified : (used.qualified graph page).Sublist used.entries := List.filter_sublist
  exact hpreferred.trans ((preferred_sublist _).trans (hqualified.map Prod.fst))

/-- A candidate is a used page object with a fixture that has or inherits the step. -/
theorem exists_of_mem_candidates (h : other ∈ used.candidates graph page) :
    ∃ chosen, (other, chosen) ∈ used.entries ∧ graph.fixture other ≠ "" ∧
      page ∈ graph.lineage other := by
  obtain ⟨chosen, hqualified, _⟩ := mem_preferred.mp (mem_candidates.mp h).1
  exact ⟨chosen, mem_qualified.mp hqualified⟩

@[simp] theorem mem_candidateFixtures :
    name ∈ used.candidateFixtures graph page ↔
      ∃ other ∈ used.candidates graph page, graph.fixture other = name := by
  simp [candidateFixtures, mem_distinct]

theorem ne_empty_of_mem_candidateFixtures (h : name ∈ used.candidateFixtures graph page) :
    name ≠ "" := by
  obtain ⟨other, hother, rfl⟩ := mem_candidateFixtures.mp h
  obtain ⟨_, _, hfixture, _⟩ := exists_of_mem_candidates hother
  exact hfixture

theorem candidateFixtures_of_alone
    (h : ∀ other, other ∈ preferred (used.qualified graph page) ↔ other = only) :
    used.candidateFixtures graph page = [graph.fixture only] := by
  apply eq_singleton_of_nodup (nodup_distinct _)
  intro name
  change name ∈ used.candidateFixtures graph page ↔ _
  simp [mem_candidateFixtures, mem_candidates_of_alone h, eq_comm]

/-! ## The order of uses -/

private theorem mem_candidates_congr
    (h : ∀ entry, entry ∈ used.qualified graph page ↔ entry ∈ used'.qualified graph page) :
    other ∈ used.candidates graph page ↔ other ∈ used'.candidates graph page := by
  simp only [mem_candidates, mem_preferred, h]

/-- The fixtures that can run a step do not depend on the order in which those that qualify are
used. -/
theorem candidateFixtures_perm
    (h : ∀ entry, entry ∈ used.qualified graph page ↔ entry ∈ used'.qualified graph page) :
    (used.candidateFixtures graph page).Perm (used'.candidateFixtures graph page) := by
  apply (List.perm_ext_iff_of_nodup (nodup_distinct _) (nodup_distinct _)).mpr
  intro name
  change name ∈ used.candidateFixtures graph page ↔ name ∈ used'.candidateFixtures graph page
  simp only [mem_candidateFixtures, mem_candidates_congr h]

end UsedPages

end FeatureSuite

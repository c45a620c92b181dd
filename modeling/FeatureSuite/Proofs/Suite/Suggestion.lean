import FeatureSuite.Proofs.Page.Candidates
import FeatureSuite.Proofs.Suite.Filling

/-!
# Suggested tags

A hole that several fixtures can run is refused, and tags for these fixtures are suggested. One of
them decides the hole if the test has not chosen a page object for it yet and the tag chooses one.
Otherwise it changes nothing: what can run the hole is chosen already, or the tag chooses a page
object elsewhere that has the same fixture.
-/

namespace FeatureSuite

namespace PreparedStep

variable {steps : List PreparedStep} {fixtures fixtures' tags tags' : List String}
  {graph : PageGraph} {page other : Nat} {fixture : String}

/-- A tag for a fixture decides the steps of a page object: none of the tags of the test chooses a
page object at or below it, and the first page object with the fixture is one of these. -/
def Decides (graph : PageGraph) (tags : List String) (page : Nat) (fixture : String) : Prop :=
  (∀ tag ∈ tags, ∀ other, graph.chosenBy? tag = some other → page ∉ graph.lineage other) ∧
    ∃ first, graph.byFixture? fixture = some first ∧ page ∈ graph.lineage first

/-- Tags and fixtures are those of a test and a further tag, whose fixture may have joined the
fixtures of the test. -/
structure Joins (fixture : String) (fixtures tags fixtures' tags' : List String) : Prop where
  subset : fixtures ⊆ fixtures'
  added : ∀ name ∈ fixtures', name = fixture ∨ name ∈ fixtures
  tags : ∀ tag, tag ∈ tags' ↔ tag = fixtureTag fixture ∨ tag ∈ tags

namespace Joins

theorem chosen_iff (h : Joins fixture fixtures tags fixtures' tags') :
    (∃ tag ∈ tags', graph.chosenBy? tag = some other) ↔
      graph.byFixture? fixture = some other ∨ ∃ tag ∈ tags, graph.chosenBy? tag = some other := by
  simp only [h.tags, or_and_right, exists_or, exists_eq_left, PageGraph.chosenBy?_fixtureTag]

theorem uses_iff (h : Joins fixture fixtures tags fixtures' tags') :
    Uses steps fixtures' tags' graph other ↔
      graph.byFixture? fixture = some other ∨ Uses steps fixtures tags graph other := by
  unfold Uses
  rw [h.chosen_iff]
  constructor
  · rintro (hstep | ⟨name, hname, hfound⟩ | htag)
    · exact .inr (.inl hstep)
    · rcases h.added name hname with rfl | hname
      · exact .inl hfound
      · exact .inr (.inr (.inl ⟨name, hname, hfound⟩))
    · exact htag.imp_right fun htag => .inr (.inr htag)
  · rintro (hfound | hstep | ⟨name, hname, hfound⟩ | htag)
    · exact .inr (.inr (.inl hfound))
    · exact .inl hstep
    · exact .inr (.inl ⟨name, h.subset hname, hfound⟩)
    · exact .inr (.inr (.inr htag))

/-- If the tag decides, the page object that it chooses is the only one that is chosen. -/
theorem candidateFixtures_of_decides (h : Joins fixture fixtures tags fixtures' tags')
    (hdecides : Decides graph tags page fixture) :
    (usedPages steps fixtures' tags' graph).candidateFixtures graph page = [fixture] := by
  obtain ⟨hunchosen, first, hfirst, hlineage⟩ := hdecides
  obtain ⟨hname, hfixture⟩ := PageGraph.fixture_of_byFixture? hfirst
  have hchosen : (first, true) ∈ (usedPages steps fixtures' tags' graph).qualified graph page := by
    rw [UsedPages.mem_qualified, mem_usedPages, h.uses_iff, h.chosen_iff]
    exact ⟨⟨.inl hfirst, iff_of_true rfl (.inl hfirst)⟩, hname ▸ hfixture, hlineage⟩
  have halone (other : Nat) :
      other ∈ UsedPages.preferred ((usedPages steps fixtures' tags' graph).qualified graph page) ↔
        other = first := by
    rw [UsedPages.mem_preferred]
    constructor
    · rintro ⟨chosen, hother, rfl | hnone⟩
      · rw [UsedPages.mem_qualified, mem_usedPages, h.chosen_iff] at hother
        obtain ⟨⟨_, hmark⟩, _, hother⟩ := hother
        rcases hmark.mp rfl with hfound | ⟨tag, htag, hfound⟩
        · exact Option.some.inj (hfound.symm.trans hfirst)
        · exact absurd hother (hunchosen tag htag other hfound)
      · exact Bool.noConfusion (hnone _ hchosen)
    · rintro rfl
      exact ⟨true, hchosen, .inl rfl⟩
  rw [UsedPages.candidateFixtures_of_alone halone, hname]

private theorem chosen_of_mem_candidates
    (h : other ∈ (usedPages steps fixtures tags graph).candidates graph page) {tag : String}
    {rival : Nat} (htag : tag ∈ tags) (hrival : graph.chosenBy? tag = some rival)
    (hlineage : page ∈ graph.lineage rival) :
    ∃ tag ∈ tags, graph.chosenBy? tag = some other := by
  obtain ⟨chosen, hother, hmark⟩ :=
    UsedPages.mem_preferred.mp (UsedPages.mem_candidates.mp h).1
  obtain ⟨_, _, hfound⟩ := PageGraph.chosenBy?_eq_some.mp hrival
  obtain ⟨hname, hne⟩ := PageGraph.fixture_of_byFixture? hfound
  have hchosen : (rival, true) ∈ (usedPages steps fixtures tags graph).qualified graph page := by
    rw [UsedPages.mem_qualified, mem_usedPages]
    exact ⟨⟨.inr (.inr ⟨tag, htag, hrival⟩), iff_of_true rfl ⟨tag, htag, hrival⟩⟩, hname ▸ hne,
      hlineage⟩
  rcases hmark with rfl | hnone
  · exact (mem_usedPages.mp (UsedPages.mem_qualified.mp hother).1).2.mp rfl
  · exact Bool.noConfusion (hnone _ hchosen)

private theorem candidateFixtures_perm (h : Joins fixture fixtures tags fixtures' tags')
    (hcandidate : fixture ∈ (usedPages steps fixtures tags graph).candidateFixtures graph page)
    (hnot : ¬ Decides graph tags page fixture) :
    ((usedPages steps fixtures' tags' graph).candidateFixtures graph page).Perm
      ((usedPages steps fixtures tags graph).candidateFixtures graph page) := by
  obtain ⟨candidate, hmem, hname⟩ := UsedPages.mem_candidateFixtures.mp hcandidate
  -- What the tag chooses for the step is chosen already.
  have halready (other : Nat) (hlineage : page ∈ graph.lineage other)
      (hfound : graph.byFixture? fixture = some other) :
      ∃ tag ∈ tags, graph.chosenBy? tag = some other := by
    have hrival : ∃ tag ∈ tags, ∃ rival, graph.chosenBy? tag = some rival ∧
        page ∈ graph.lineage rival := by
      by_contra hnone
      push Not at hnone
      exact hnot ⟨hnone, other, hfound, hlineage⟩
    obtain ⟨tag, htag, rival, hrival, hbelow⟩ := hrival
    obtain ⟨tag', htag', hchosen⟩ := chosen_of_mem_candidates hmem htag hrival hbelow
    obtain ⟨name, _, hfirst⟩ := PageGraph.chosenBy?_eq_some.mp hchosen
    have hsame : name = fixture :=
      (PageGraph.fixture_of_byFixture? hfirst).1.symm.trans hname
    rw [hsame, hfound] at hfirst
    exact ⟨tag', htag', hfirst ▸ hchosen⟩
  apply UsedPages.candidateFixtures_perm
  rintro ⟨other, chosen⟩
  simp only [UsedPages.mem_qualified, mem_usedPages, h.uses_iff, h.chosen_iff]
  apply and_congr_left
  rintro ⟨_, hlineage⟩
  have hchosen : (graph.byFixture? fixture = some other ∨
      ∃ tag ∈ tags, graph.chosenBy? tag = some other) ↔
        ∃ tag ∈ tags, graph.chosenBy? tag = some other :=
    or_iff_right_of_imp (halready other hlineage)
  have huses : (graph.byFixture? fixture = some other ∨ Uses steps fixtures tags graph other) ↔
      Uses steps fixtures tags graph other :=
    or_iff_right_of_imp fun hfound => .inr (.inr (halready other hlineage hfound))
  rw [hchosen, huses]

end Joins

/-- If a test is refused at a hole that several fixtures can run, the suggested tags are those for
these fixtures. With one of them the fixture that it names is left alone exactly if the tag decides
the hole; else the test has the same candidates as before. -/
theorem suggestions_of_fill {set : FixtureSet} {uri text place : String} {line : Int}
    {candidates suggested : List String}
    (h : fill steps set tags graph uri =
      .error (.pageFixture text place line candidates suggested))
    (hmany : 2 ≤ candidates.length) :
    ∃ front step back page, steps = front ++ step :: back ∧
      (∀ other ∈ front, other.Settled (usedPages steps set.names tags graph) graph) ∧
      step.hole? = some page ∧ text = step.text ∧ line = step.line ∧
      candidates = (usedPages steps set.names tags graph).candidateFixtures graph page ∧
      suggested = candidates.map fixtureTag ∧
      ∀ fixture ∈ candidates, ∀ fixtures' tags', Joins fixture set.names tags fixtures' tags' →
        ((usedPages steps fixtures' tags' graph).candidateFixtures graph page = [fixture] ↔
          Decides graph tags page fixture) ∧
        (¬ Decides graph tags page fixture →
          ((usedPages steps fixtures' tags' graph).candidateFixtures graph page).Perm
            candidates) := by
  obtain ⟨front, step, back, page, hsplit, hfront, hhole, _, hfault⟩ := fillAll_eq_error.mp h
  unfold holeFault at hfault
  injection hfault with htext _ hline hcandidates hsuggested
  have hsome : ((usedPages steps set.names tags graph).candidateFixtures graph page).isEmpty =
      false := by
    rw [← hcandidates, List.isEmpty_eq_false_iff]
    rintro rfl
    simp at hmany
  rw [hsome] at hsuggested
  refine ⟨front, step, back, page, hsplit, hfront, hhole, htext, hline, hcandidates,
    hcandidates ▸ hsuggested, ?_⟩
  intro fixture hfixture fixtures' tags' hjoins
  have hstay (hnot : ¬ Decides graph tags page fixture) :
      ((usedPages steps fixtures' tags' graph).candidateFixtures graph page).Perm candidates :=
    hcandidates ▸ hjoins.candidateFixtures_perm (hcandidates ▸ hfixture) hnot
  refine ⟨⟨?_, hjoins.candidateFixtures_of_decides⟩, hstay⟩
  intro hone
  by_contra hnot
  have hlength := (hstay hnot).length_eq
  rw [hone, List.length_singleton] at hlength
  omega

/-- A test that passes the fixtures of both branches and has chosen none is decided by a tag. -/
theorem suggestions_of_open_choice :
    let graph := ((Session.start {}).runEach branchedPages).store.graph
    let fixtures := FixtureSet.ofList ["todo", "other"]
    fill [openStep] fixtures [] graph "a.feature" =
        .error (.pageFixture "I open the page" "a.feature" 3 ["todo", "other"]
          ["@fixture:todo", "@fixture:other"]) ∧
      2 ≤ ["todo", "other"].length ∧
      (usedPages [openStep] fixtures.names ["@fixture:todo"] graph).candidateFixtures graph 0 =
        ["todo"] := by
  intro graph fixtures
  have hrefused : fill [openStep] fixtures [] graph "a.feature" =
      .error (.pageFixture "I open the page" "a.feature" 3 ["todo", "other"]
        ["@fixture:todo", "@fixture:other"]) :=
    fillAll_eq_error.mpr ⟨[], openStep, [], 0, rfl, by decide +kernel, rfl, by decide +kernel,
      by decide +kernel⟩
  have hmany : 2 ≤ ["todo", "other"].length := by decide
  have hjoins : Joins "todo" fixtures.names [] fixtures.names ["@fixture:todo"] :=
    ⟨List.Subset.refl _, fun _ hname => .inr hname, by
      intro tag
      simp [fixtureTag, fixtureTagStart]⟩
  have hdecides : Decides graph [] 0 "todo" :=
    ⟨by simp, 1, by decide +kernel, by decide +kernel⟩
  obtain ⟨front, step, back, page, hsplit, _, hhole, _, _, _, _, hall⟩ :=
    suggestions_of_fill hrefused hmany
  obtain ⟨rfl, hrest⟩ | ⟨_, _, hrest⟩ := List.cons_eq_append_iff.mp hsplit
  · cases hrest
    cases hhole
    exact ⟨hrefused, hmany, (hall "todo" (by simp) _ _ hjoins).1.mpr hdecides⟩
  · simp at hrest

/-- The tags of a test that has chosen both branches are suggested again, and setting one of them
once more leaves both. -/
theorem exists_suggestion_in_vain :
    let graph := ((Session.start {}).runEach branchedPages).store.graph
    let tags := ["@fixture:todo", "@fixture:other"]
    let fault := DocumentFault.pageFixture "I open the page" "a.feature" 3 ["todo", "other"]
      ["@fixture:todo", "@fixture:other"]
    fill [openStep] {} tags graph "a.feature" = .error fault ∧
      (usedPages [openStep] [] (tags ++ ["@fixture:todo"]) graph).candidateFixtures graph 0 =
        ["todo", "other"] ∧
      fill [openStep] {} (tags ++ ["@fixture:todo"]) graph "a.feature" = .error fault := by
  intro graph tags fault
  have hfill (tags : List String)
      (hopen : ¬ openStep.Settled (usedPages [openStep] [] tags graph) graph)
      (hfault : fault = openStep.holeFault (usedPages [openStep] [] tags graph) graph "a.feature" 0) :
      fill [openStep] {} tags graph "a.feature" = .error fault :=
    fillAll_eq_error.mpr ⟨[], openStep, [], 0, rfl, by simp, rfl, hopen, hfault⟩
  refine ⟨hfill _ ?_ ?_, ?_, hfill _ ?_ ?_⟩
  · decide +kernel
  · decide +kernel
  · decide +kernel
  · decide +kernel
  · decide +kernel

end PreparedStep

end FeatureSuite

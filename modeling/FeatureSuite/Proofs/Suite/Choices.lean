import FeatureSuite.Proofs.Suite.Suggestion

/-!
# Holes that nothing runs

If no used page object can run a hole, tags for all fixtures at or below its page object are
suggested. The suggestions come from the way down in the graph, and what a tag chooses is found by
its fixture and looks for the hole on its way up. As long as no two page objects share a fixture,
both agree: the suggested tags are those that have the hole run, each by the fixture that it names.
-/

namespace FeatureSuite

namespace PageGraph

variable {graph : PageGraph} {page other : Nat} {name : String}

/-- No two page objects have the same fixture. -/
def NamesApart (graph : PageGraph) : Prop :=
  ∀ page other, graph.fixture page = graph.fixture other → graph.fixture page ≠ "" → page = other

instance (graph : PageGraph) : Decidable graph.NamesApart :=
  decidable_of_iff
    (∀ page < graph.nodes.length, ∀ other < graph.nodes.length,
      graph.fixture page = graph.fixture other → graph.fixture page ≠ "" → page = other) <| by
    constructor
    · intro h page other hsame hne
      exact h page (lt_of_fixture_ne_empty hne) other (lt_of_fixture_ne_empty (hsame ▸ hne)) hsame
        hne
    · exact fun h page _ other _ => h page other

private theorem NamesApart.byFixture? (h : graph.NamesApart) (hne : graph.fixture page ≠ "") :
    graph.byFixture? (graph.fixture page) = some page := by
  have hlt := lt_of_fixture_ne_empty hne
  have hsome : (graph.byFixture? (graph.fixture page)).isSome = true := by
    rw [PageGraph.byFixture?, if_neg hne, List.findIdx?_isSome, List.any_eq_true]
    exact ⟨graph.nodes[page], List.getElem_mem hlt, by rw [fixture_eq hlt, beq_self_eq_true]⟩
  obtain ⟨first, hfirst⟩ := Option.isSome_iff_exists.mp hsome
  have hsame := (fixture_of_byFixture? hfirst).1
  rw [hfirst, h first page hsame (hsame ▸ hne)]

/-- The fixtures on the way down are those of the page objects whose way up leads back. -/
theorem Ordered.mem_reachableFixtures (h : graph.Ordered) :
    name ∈ graph.reachableFixtures page ↔
      name ≠ "" ∧ ∃ other, graph.fixture other = name ∧ page ∈ graph.lineage other := by
  unfold reachableFixtures
  simp only [mem_distinct, List.mem_filter, List.mem_map, List.mem_cons, decide_eq_true_eq]
  rw [and_comm]
  refine and_congr_right fun hne => exists_congr fun other => ?_
  rw [and_comm]
  refine and_congr_right fun hname => ?_
  rw [h.mem_lineage (hname ▸ hne)]

end PageGraph

private theorem fixtureTag_injective : Function.Injective fixtureTag := by
  intro fixture other h
  have htags := Text.dropStart?_append fixtureTagStart fixture
  change Text.dropStart? fixtureTagStart (fixtureTag fixture) = _ at htags
  rw [h, fixtureTag, Text.dropStart?_append] at htags
  exact (Option.some.inj htags).symm

namespace PreparedStep

variable {steps : List PreparedStep} {fixtures fixtures' tags tags' suggested : List String}
  {graph : PageGraph} {page other : Nat} {fixture winner uri : String} {step : PreparedStep}

private theorem Joins.concat (fixture : String) (fixtures tags : List String) :
    Joins fixture fixtures tags fixtures (tags ++ [fixtureTag fixture]) where
  subset := List.Subset.refl _
  added _ hname := .inr hname
  tags tag := by rw [List.mem_append, List.mem_singleton, or_comm]

private theorem winner_eq_ok {used : UsedPages} :
    step.winner used graph uri page = .ok winner ↔
      used.candidateFixtures graph page = [winner] := by
  refine ⟨fun h => ?_, winner_of_settled⟩
  by_cases hsettled : ∃ winner, used.candidateFixtures graph page = [winner]
  · obtain ⟨other, hother⟩ := hsettled
    rw [winner_of_settled hother] at h
    rw [hother, Except.ok.inj h]
  · rw [winner_of_unsettled hsettled] at h
    cases h

private theorem not_mem_lineage_of_uses (hordered : graph.Ordered)
    (hnone : (usedPages steps fixtures tags graph).candidateFixtures graph page = [])
    (huses : Uses steps fixtures tags graph other) (hfixture : graph.fixture other ≠ "") :
    page ∉ graph.lineage other := by
  intro hlineage
  obtain ⟨⟨_, chosen⟩, hentry, rfl⟩ := List.mem_map.mp (mem_pages_usedPages.mpr huses)
  have hqualified := UsedPages.mem_qualified.mpr ⟨hentry, hfixture, hlineage⟩
  obtain ⟨candidate, hcandidate⟩ :=
    List.exists_mem_of_ne_nil _ (hordered.candidates_ne_nil hqualified)
  have hmem := UsedPages.mem_candidateFixtures.mpr ⟨candidate, hcandidate, rfl⟩
  rw [hnone] at hmem
  cases hmem

private theorem Joins.candidateFixtures_iff (h : Joins fixture fixtures tags fixtures' tags')
    (hordered : graph.Ordered) (hapart : graph.NamesApart)
    (hnone : (usedPages steps fixtures tags graph).candidateFixtures graph page = []) :
    (usedPages steps fixtures' tags' graph).candidateFixtures graph page = [winner] ↔
      winner = fixture ∧ fixture ∈ graph.reachableFixtures page := by
  constructor
  · intro hwinner
    have hmem : winner ∈ (usedPages steps fixtures' tags' graph).candidateFixtures graph page := by
      rw [hwinner]
      exact List.mem_singleton_self winner
    obtain ⟨other, hother, rfl⟩ := UsedPages.mem_candidateFixtures.mp hmem
    obtain ⟨_, hused, hfixture, hlineage⟩ := UsedPages.exists_of_mem_candidates hother
    rcases h.uses_iff.mp (mem_usedPages.mp hused).1 with hfound | huses
    · obtain ⟨hname, hne⟩ := PageGraph.fixture_of_byFixture? hfound
      exact ⟨hname, hordered.mem_reachableFixtures.mpr ⟨hne, other, hname, hlineage⟩⟩
    · exact absurd hlineage (not_mem_lineage_of_uses hordered hnone huses hfixture)
  · rintro ⟨rfl, hreachable⟩
    obtain ⟨hne, other, rfl, hlineage⟩ := hordered.mem_reachableFixtures.mp hreachable
    refine h.candidateFixtures_of_decides ⟨fun tag htag rival hrival => ?_, other,
      hapart.byFixture? hne, hlineage⟩
    obtain ⟨_, _, hfound⟩ := PageGraph.chosenBy?_eq_some.mp hrival
    obtain ⟨hname, hnamed⟩ := PageGraph.fixture_of_byFixture? hfound
    exact not_mem_lineage_of_uses hordered hnone (.inr (.inr ⟨tag, htag, hrival⟩)) (hname ▸ hnamed)

/-- If no two page objects have the same fixture and nothing can run a hole, a tag for a fixture has
it run exactly if the tag is suggested, and then by this fixture. So there is no suggestion exactly
if no tag for a fixture helps. -/
theorem resolves_iff_suggested (defaults : Scope) (operations : List Operation) :
    let graph := ((Session.start defaults).runEach operations).store.graph
    graph.NamesApart → ∀ (steps : List PreparedStep) (set : FixtureSet) (tags : List String)
      (uri : String) (step : PreparedStep) (page : Nat), step.hole? = some page →
      (usedPages steps set.names tags graph).candidateFixtures graph page = [] →
      ∃ suggested,
        step.winner (usedPages steps set.names tags graph) graph uri page =
          .error (.pageFixture step.text uri step.line [] suggested) ∧
        (∀ front back, steps = front ++ step :: back →
          (∀ other ∈ front, other.Settled (usedPages steps set.names tags graph) graph) →
            fill steps set tags graph uri =
              .error (.pageFixture step.text uri step.line [] suggested)) ∧
        (∀ fixture fixtures' tags', Joins fixture set.names tags fixtures' tags' →
          ((∃ winner, step.winner (usedPages steps fixtures' tags' graph) graph uri page =
              .ok winner) ↔ fixtureTag fixture ∈ suggested) ∧
          ∀ winner, step.winner (usedPages steps fixtures' tags' graph) graph uri page =
            .ok winner → winner = fixture) ∧
        (suggested = [] ↔ ∀ fixture fixtures' tags', Joins fixture set.names tags fixtures' tags' →
          ∀ winner, step.winner (usedPages steps fixtures' tags' graph) graph uri page ≠
            .ok winner) := by
  intro graph hapart steps set tags uri step page hhole hnone
  have hordered : graph.Ordered := (Store.Sound.empty.growsAll
    ((Session.start defaults).grows_runEach operations)).ordered
  have hunsettled : ¬ ∃ winner,
      (usedPages steps set.names tags graph).candidateFixtures graph page = [winner] := by
    rw [hnone]
    simp
  have hfault : step.holeFault (usedPages steps set.names tags graph) graph uri page =
      .pageFixture step.text uri step.line [] ((graph.reachableFixtures page).map fixtureTag) := by
    rw [holeFault, hnone]
    rfl
  have hresolves {fixture : String} {fixtures' tags' : List String}
      (hjoins : Joins fixture set.names tags fixtures' tags') (winner : String) :
      step.winner (usedPages steps fixtures' tags' graph) graph uri page = .ok winner ↔
        winner = fixture ∧ fixture ∈ graph.reachableFixtures page := by
    rw [winner_eq_ok, hjoins.candidateFixtures_iff hordered hapart hnone]
  refine ⟨(graph.reachableFixtures page).map fixtureTag, ?_, ?_, ?_, ?_⟩
  · rw [winner_of_unsettled hunsettled, hfault]
  · intro front back hsplit hfront
    refine fillAll_eq_error.mpr ⟨front, step, back, page, hsplit, hfront, hhole, ?_, hfault.symm⟩
    rwa [settled_iff hhole]
  · intro fixture fixtures' tags' hjoins
    refine ⟨?_, fun winner hwinner => ((hresolves hjoins winner).mp hwinner).1⟩
    simp only [hresolves hjoins, exists_eq_left, List.mem_map_of_injective fixtureTag_injective]
  · rw [List.map_eq_nil_iff, List.eq_nil_iff_forall_not_mem]
    constructor
    · intro hempty fixture fixtures' tags' hjoins winner hwinner
      exact hempty fixture ((hresolves hjoins winner).mp hwinner).2
    · intro hvain fixture hreachable
      have hjoins : Joins fixture set.names tags set.names (tags ++ [fixtureTag fixture]) :=
        .concat fixture set.names tags
      exact hvain fixture _ _ hjoins fixture ((hresolves hjoins fixture).mpr ⟨rfl, hreachable⟩)

/-- Nothing can run a step of the page object that the others derive from. All of them are
suggested, and a tag for one of them has the step run by its fixture. -/
theorem resolves_of_suggested_admin :
    let graph := ((Session.start {}).runEach branchedPages).store.graph
    let tags := ["@slow"] ++ [fixtureTag "admin"]
    graph.NamesApart ∧ openStep.hole? = some 0 ∧
      (usedPages [openStep] [] ["@slow"] graph).candidateFixtures graph 0 = [] ∧
      openStep.winner (usedPages [openStep] [] ["@slow"] graph) graph "a.feature" 0 =
        .error (.pageFixture "I open the page" "a.feature" 3 []
          ["@fixture:todo", "@fixture:admin", "@fixture:other"]) ∧
      openStep.winner (usedPages [openStep] [] tags graph) graph "a.feature" 0 = .ok "admin" ∧
      ∀ winner, openStep.winner (usedPages [openStep] [] (["@slow"] ++ [fixtureTag "nobody"]) graph)
        graph "a.feature" 0 ≠ .ok winner := by
  intro graph tags
  have hapart : graph.NamesApart := by decide +kernel
  have hnone : (usedPages [openStep] [] ["@slow"] graph).candidateFixtures graph 0 = [] := by
    decide +kernel
  have hfault : openStep.winner (usedPages [openStep] [] ["@slow"] graph) graph "a.feature" 0 =
      .error (.pageFixture "I open the page" "a.feature" 3 []
        ["@fixture:todo", "@fixture:admin", "@fixture:other"]) := by
    rw [winner_of_unsettled (by rw [hnone]; simp)]
    decide +kernel
  obtain ⟨suggested, hsuggested, _, hresolves, _⟩ :=
    resolves_iff_suggested {} branchedPages hapart [openStep] {} ["@slow"] "a.feature" openStep 0
      rfl hnone
  rw [hfault] at hsuggested
  cases hsuggested
  have hadmin := hresolves "admin" _ _ (.concat "admin" [] ["@slow"])
  have hnobody := hresolves "nobody" _ _ (.concat "nobody" [] ["@slow"])
  obtain ⟨winner, hwinner⟩ := hadmin.1.mpr (by decide)
  refine ⟨hapart, rfl, hnone, hfault, ?_, fun winner hwinner => ?_⟩
  · rw [hwinner, hadmin.2 winner hwinner]
  · exact absurd (hnobody.1.mp ⟨winner, hwinner⟩) (by decide)

end PreparedStep

end FeatureSuite

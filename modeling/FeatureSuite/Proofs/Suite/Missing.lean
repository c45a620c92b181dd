import FeatureSuite.Proofs.Suite.Faults
import FeatureSuite.Proofs.Suite.Lookup

/-!
# Steps without a step of a pickle

A test has all steps of its scenario or its row in its pickle. The steps of a background are in the
pickles of the tests around which it stands, but only if these have steps of their own. So the one
way to miss a step is a background that is for no test with steps.
-/

namespace FeatureSuite

open Gherkin

/-! ## Other failures -/

/-- A failure that is not about a step without a step of a pickle. -/
def Failure.FindsSteps (failure : Failure) : Prop :=
  ∀ text id, failure ≠ .document (.noPickleStep text id)

private theorem Failure.coversContent_findsSteps : Failure.CoversContent Failure.FindsSteps where
  conversion _ _ _ := nofun
  fixtureTag _ _ _ _ _ _ := nofun
  pageFixture _ _ _ _ _ _ _ := nofun

/-- Every step of a site has a step of a pickle. -/
def Planner.Finds (planner : Planner) (site : Site) : Prop :=
  ∀ step ∈ site.origin.steps, (planner.pickleStep? step site.origin.row?).isSome

private theorem Planner.Finds.coversSteps {planner : Planner} {site : Site}
    (h : planner.Finds site) :
    planner.CoversSteps Failure.FindsSteps site := by
  refine fun step hstep => ⟨fun hnone => ?_, fun fault herror text id heq => ?_⟩
  · have hsome := h step hstep
    rw [hnone] at hsome
    cases hsome
  · cases KeywordTable.canonical_eq_error herror
    cases heq

namespace FeatureFile

variable {file : FeatureFile} {nodes : List (String × Node)} {keywords : KeywordTable}
  {uri : String}

/-- A background stands around a test that has steps of its own. -/
def Covers (file : FeatureFile) (background : Background) : Prop :=
  ∃ test ∈ file.testSites, background ∈ test.backgrounds ∧ test.origin.steps ≠ []

namespace Faithful

private theorem finds_test (h : file.Faithful nodes) {site : Site} (hsite : site ∈ file.testSites) :
    (file.planner keywords uri).Finds site := by
  intro step hstep
  have hwithin := h.within site (List.mem_of_mem_filter hsite)
  obtain ⟨pickle, _, hpickle⟩ := exists_of_mem_left h.pickled hsite
  obtain ⟨fillings, hfills, _⟩ := hpickle.yields
  refine (h.isSome_pickleStep? (hwithin.runs_own hfills hstep) rfl).mpr
    ⟨site, hsite, fillings, hfills, ?_⟩
  exact Site.mem_sources.mpr ⟨List.ne_nil_of_mem hstep, .inr ⟨step, hstep, rfl⟩⟩

/-- A step of a background has a step of a pickle exactly if some test with steps runs it. -/
theorem isSome_background (h : file.Faithful nodes) {site : Site} (hsite : site ∈ file.sites)
    {background : Background} (horigin : site.origin = .background background) {step : Step}
    (hstep : step ∈ background.steps) :
    ((file.planner keywords uri).pickleStep? step none).isSome ↔ file.Covers background := by
  have hbackground : background.nodes ⊆ nodes := by
    have hwithin := (h.within site hsite).origin_within
    rw [horigin] at hwithin
    exact hwithin
  have hnode : (step.id, Node.backgroundStep background step) ∈ nodes :=
    hbackground (List.mem_map_of_mem hstep)
  refine (h.isSome_pickleStep? (.background hnode) rfl).trans ⟨?_, ?_⟩
  · rintro ⟨test, htest, fillings, hfills, hmem⟩
    obtain ⟨hsteps, hsource⟩ := Site.mem_sources.mp hmem
    have hwithin := h.within test (List.mem_of_mem_filter htest)
    rcases hsource with ⟨other, hother, step', hstep', heq⟩ | ⟨step', hstep', heq⟩
    · cases heq
      have hnode' : (step.id, Node.backgroundStep other step) ∈ nodes :=
        hwithin.backgrounds_within other hother (List.mem_map_of_mem hstep')
      cases node_unique h.nodup hnode hnode'
      exact ⟨test, htest, hother, hsteps⟩
    · have hsame : step' = step := congrArg Prod.fst heq
      obtain ⟨scenario, hnode'⟩ := hwithin.scenario_node (List.mem_filter.mp htest).2 hstep'
      cases node_unique h.nodup hnode (hsame ▸ hnode')
  · rintro ⟨test, htest, hbackgrounds, hsteps⟩
    obtain ⟨pickle, _, hpickle⟩ := exists_of_mem_left h.pickled htest
    obtain ⟨fillings, hfills, _⟩ := hpickle.yields
    exact ⟨test, htest, fillings, hfills,
      Site.mem_sources.mpr ⟨hsteps, .inl ⟨background, hbackgrounds, step, hstep, rfl⟩⟩⟩

end Faithful

/-- Every background with steps stands around a test that has steps of its own. -/
def Covered (file : FeatureFile) : Prop :=
  ∀ site ∈ file.sites, ∀ background, site.origin = .background background →
    background.steps ≠ [] → file.Covers background

/-- A file whose steps all have a step of a pickle fails for other reasons only. -/
theorem build_finds (h : ∀ keywords uri, ∀ site ∈ file.sites,
      (file.planner keywords uri).Finds site) : FailsOnly Failure.FindsSteps file.build := by
  refine build_failsOnly Failure.coversContent_findsSteps nofun (fun _ => nofun)
    (fun _ fault herror text id heq => ?_) (fun _ _ _ _ _ => nofun)
    fun keywords uri _ site hsite => (h keywords uri site hsite).coversSteps
  cases KeywordTable.find_eq_error herror
  cases heq

/-- In a file that is parsed the steps of all scenarios and rows have steps of pickles, and those of
a background have some exactly if it stands around a test with steps. If this holds of all
backgrounds, building fails for other reasons only, and else the file cannot be built. -/
theorem missing_steps_of_parse {text : String}
    (hparse : parseDocument text uri = .ok ⟨file.document, file.pickles⟩) :
    (∀ keywords name, ∀ site ∈ file.testSites, (file.planner keywords name).Finds site) ∧
      (∀ keywords name, ∀ site ∈ file.sites, ∀ background, site.origin = .background background →
        ∀ step ∈ background.steps,
          ((file.planner keywords name).pickleStep? step none).isSome ↔ file.Covers background) ∧
      (file.Covered → ∀ text id, file.build ≠ .error (.document (.noPickleStep text id))) ∧
      (¬file.Covered → ∀ built, file.build ≠ .ok built) := by
  obtain ⟨nodes, hfaithful⟩ := faithful_of_parse hparse
  refine ⟨fun _ _ _ => hfaithful.finds_test, fun _ _ _ hsite _ horigin _ hstep =>
    hfaithful.isSome_background hsite horigin hstep, fun hcovered text id herror => ?_,
    fun huncovered built hbuild => huncovered fun site hsite background horigin hsteps => ?_⟩
  · refine build_finds (fun keywords name site hsite step hstep => ?_) _ herror text id rfl
    cases horigin : site.origin with
    | background background =>
        rw [horigin] at hstep
        have hsteps : background.steps ≠ [] := List.ne_nil_of_mem hstep
        exact (hfaithful.isSome_background hsite horigin hstep).mpr
          (hcovered site hsite background horigin hsteps)
    | scenario scenario =>
        have htest : site ∈ file.testSites :=
          List.mem_filter.mpr ⟨hsite, by rw [horigin]; rfl⟩
        exact horigin ▸ hfaithful.finds_test htest step hstep
    | row outline entry =>
        have htest : site ∈ file.testSites :=
          List.mem_filter.mpr ⟨hsite, by rw [horigin]; rfl⟩
        exact horigin ▸ hfaithful.finds_test htest step hstep
  · obtain ⟨keywords, name, root, _, hplan, _, _⟩ := plan_of_build hbuild
    obtain ⟨placed, _, hplaced⟩ := exists_of_mem_left (plan_realizes hplan) hsite
    obtain ⟨step, hstep⟩ := List.exists_mem_of_ne_nil _ hsteps
    have hresolves := (Planner.composes_of_body hplaced.body_eq).resolves
    rw [horigin] at hresolves
    obtain ⟨occurrence, _, hfound⟩ := exists_of_mem_left hresolves hstep
    exact (hfaithful.isSome_background hsite horigin hstep).mp
      (Option.isSome_iff_exists.mpr ⟨_, hfound.pickleStep_eq⟩)

/-- A background around a scenario without steps and one with steps. -/
def mixedText : String :=
  "Feature: F\n Background:\n  Given a user\n Scenario: S\n Scenario: T\n  When I buy\n"

theorem missing_steps_of_mixed :
    ∃ file, load mixedText "f.feature" {} = .ok file ∧
      file.testSites.map (·.origin.steps.length) = [0, 1] ∧
      ∀ keywords name, ∀ site ∈ file.testSites, (file.planner keywords name).Finds site := by
  have hload : (load mixedText "f.feature" {}).toOption.any (fun file =>
      decide (file.testSites.map (·.origin.steps.length) = [0, 1])) = true := by
    decide +kernel
  obtain ⟨file, hload, hcheck⟩ := exists_ok_of_any hload
  obtain ⟨hfinds, _⟩ := missing_steps_of_parse (parse_of_load hload)
  exact ⟨file, hload, of_decide_eq_true hcheck, hfinds⟩

/-- A background alone has no tests, so its steps have no steps of pickles. -/
theorem exists_missing_step :
    ∃ file, load "Feature: F\n  Background:\n    Given a user\n" "f.feature" {} = .ok file ∧
      file.build = .error (.document (.noPickleStep "a user" "0")) := by
  have hload : (load "Feature: F\n  Background:\n    Given a user\n" "f.feature" {}).toOption.any
      (fun file => match file.build with
        | .ok _ => false
        | .error failure => decide (failure = .document (.noPickleStep "a user" "0"))) = true := by
    decide +kernel
  obtain ⟨file, hload, hcheck⟩ := exists_ok_of_any hload
  refine ⟨file, hload, ?_⟩
  cases hbuild : file.build with
  | ok built =>
      rw [hbuild] at hcheck
      cases hcheck
  | error failure =>
      rw [hbuild] at hcheck
      rw [of_decide_eq_true hcheck]

end FeatureFile

end FeatureSuite

import FeatureSuite.Proofs.Suite.Fixtures
import FeatureSuite.Proofs.Suite.Signature

/-!
# What calls pass

The call of a step passes the doc string or the table of the step under a name of its own, and the
fixtures of its handler under theirs. Fixtures of one call differ, but one of them may have the name
that is taken by the argument: no registry is refused for it. So a call passes two values under one
name exactly if its step has an argument and its handler asks for a fixture of this name.
-/

namespace FeatureSuite

open Expression

namespace Occurrence

variable {used : UsedPages} {graph : PageGraph} {occurrence : Occurrence}

private theorem passed_of_missing (h : occurrence.found = none) :
    occurrence.passed used graph = [] := by
  rw [passed, fixtures, winners, page?, h]
  rfl

private theorem nodup_passed (hsettled : occurrence.Settled used graph)
    (hfixtures : occurrence.fixtures.Nodup) : (occurrence.passed used graph).Nodup := by
  cases hpage : occurrence.page? with
  | none =>
      have hwinners : occurrence.winners used graph = [] := by
        rw [winners, hpage]
        rfl
      rw [passed, hwinners, List.append_nil]
      exact hfixtures
  | some page =>
      obtain ⟨winner, hwinner⟩ := hsettled page hpage
      have hwinners : occurrence.winners used graph = [winner] := by
        rw [winners, hpage]
        exact (List.flatMap_singleton ..).trans hwinner
      rw [passed, fixtures_of_page hpage, hwinners]
      exact List.nodup_singleton winner

/-- The names under which a call passes something differ unless the step has an argument and a
fixture is named like it. -/
theorem nodup_keywords_iff (h : (occurrence.passed used graph).Nodup) :
    ((occurrence.call used graph).keywords.map (·.1)).Nodup ↔
      ¬ (occurrence.pickleStep.argument.isSome = true ∧
        "argument" ∈ occurrence.passed used graph) := by
  cases hfound : occurrence.found with
  | none =>
      rw [call, hfound, passed_of_missing hfound]
      simp [Layout.missingCall]
  | some found =>
      rw [call, hfound]
      exact Layout.nodup_stepCall h _ _ _

private theorem isPlain_call
    (h : ∀ name ∈ occurrence.passed used graph, Text.isParameterName name = true) :
    (occurrence.call used graph).IsPlain := by
  unfold call
  split
  · exact Layout.isPlain_missingCall _ _
  · exact Layout.isPlain_stepCall (Layout.isParameterName_label _) _ _ h

end Occurrence

private theorem Planner.Composes.nodup_fixtures {planner : Planner} {steps : List Gherkin.Step}
    {tags : List String} {row : Option String} {body : Body}
    (h : planner.Composes steps tags row body)
    (hregistry : ∀ binding ∈ planner.registry.bindings, binding.fixtureNames.Nodup)
    {occurrence : Occurrence} (hmem : occurrence ∈ body.occurrences) :
    occurrence.fixtures.Nodup := by
  unfold Occurrence.fixtures
  split
  · exact List.nodup_nil
  · rename_i found hfound
    exact hregistry _ (h.mem_bindings hmem hfound)

namespace FeatureFile

variable {file built : FeatureFile}

/-- Hooks and tests are the methods that are read in a module, and their lines are calls. If no
handler asks for a fixture twice, the names under which a call passes something differ exactly if
its step has no doc string and no table, or none of its fixtures has the name that these are passed
under; and exactly then the call is read back from its line, if the registry names parameters
only. -/
theorem nodup_keywords_of_build
    (hregistry : ∀ binding ∈ file.registry.bindings, binding.fixtureNames.Nodup)
    (h : file.build = .ok built) :
    ∃ keywords uri root headings, file.plan = .ok (keywords, uri, root) ∧
      built.lines = Layout.header uri (imports file.settings built.runnerModules) ++ root.lines ++
        "" :: Layout.tagsFixture built.tags.entries ∧
      readHeadings (readRows root.lines) = ([], headings) ∧
      List.Forall₂ Placed.WrittenAs (root.placed [] []) (headings.filter Heading.isMethod) ∧
      List.Forall₂ (fun site placed =>
          let planner := file.planner keywords uri
          let body := placed.unit.body
          let used := planner.usedPages site.tags body
          let graph := file.registry.pages
          planner.Composes site.origin.steps site.tags site.origin.row? body ∧
          body.lines = body.occurrences.map (fun occurrence => (occurrence.call used graph).write) ∧
          ∀ occurrence ∈ body.occurrences,
            let call := occurrence.call used graph
            ((call.keywords.map (·.1)).Nodup ↔
              ¬ (occurrence.pickleStep.argument.isSome = true ∧
                "argument" ∈ occurrence.passed used graph)) ∧
            ((∀ name ∈ file.registry.fixtures, Text.isParameterName name = true) →
              (readCall? call.write = some call ↔ (call.keywords.map (·.1)).Nodup)))
        file.sites (root.placed [] []) := by
  obtain ⟨keywords, uri, root, headings, hplan, hlines, hread, hmethods⟩ := methods_of_build h
  refine ⟨keywords, uri, root, headings, hplan, hlines, hread, hmethods, ?_⟩
  refine (forall₂_mem (plan_realizes hplan)).imp fun site placed hplaced => ?_
  obtain ⟨_, hmem, hrealizes⟩ := hplaced
  have hcomposes := Planner.composes_of_body hrealizes.body_eq
  refine ⟨hcomposes, hcomposes.lines_eq_write, fun occurrence hoccurrence => ⟨?_, ?_⟩⟩
  · have hfixtures := hcomposes.nodup_fixtures hregistry hoccurrence
    have hsettled := hcomposes.settled occurrence hoccurrence
    exact Occurrence.nodup_keywords_iff (Occurrence.nodup_passed hsettled hfixtures)
  · intro hnames
    have hparameters := fixtures_of_plan (fun _ hname => hname) hnames hplan placed hmem
    have hpassed := (hcomposes.mem_fixtures hoccurrence).2
    exact readCall?_write_eq_some (Occurrence.isPlain_call fun name hname =>
      hparameters name (hpassed name hname))

/-- A hook with a table for the handler, and a test with a step of the page object. -/
def userTableText : String :=
  "Feature: F\n  Background:\n    Given a user\n      | Ann |\n  @fixture:cart\n" ++
    "  Scenario: S\n    When I buy\n"

theorem nodup_keywords_of_user_table :
    ∃ file built root, load userTableText "f.feature" shop = .ok file ∧
      (∀ binding ∈ file.registry.bindings, binding.fixtureNames.Nodup) ∧
      file.build = .ok built ∧
      (root.placed [] []).map (·.unit.body.lines) =
        [["Given(\"a user\", argument=\x7b\"dataTable\": \x7b\"rows\": [\x7b\"cells\": " ++
            "[\x7b\"value\": \"Ann\"\x7d]\x7d]\x7d\x7d, db=db)"],
          ["When(\"I buy\", cart=cart)"]] ∧
      ∃ keywords uri, file.plan = .ok (keywords, uri, root) ∧
        List.Forall₂ (fun site placed => ∀ occurrence ∈ placed.unit.body.occurrences,
            ((occurrence.call ((file.planner keywords uri).usedPages site.tags placed.unit.body)
              file.registry.pages).keywords.map (·.1)).Nodup)
          file.sites (root.placed [] []) := by
  have hcompile : (compile userTableText "f.feature" shop).toOption.any (fun (_, _, root) =>
      decide ((root.placed [] []).map (·.unit.body.lines) =
        [["Given(\"a user\", argument=\x7b\"dataTable\": \x7b\"rows\": [\x7b\"cells\": " ++
            "[\x7b\"value\": \"Ann\"\x7d]\x7d]\x7d\x7d, db=db)"],
          ["When(\"I buy\", cart=cart)"]] ∧
        ∀ placed ∈ root.placed [] [], "argument" ∉ placed.unit.body.fixtures)) = true := by
    decide +kernel
  have hshop : ∀ binding ∈ shop.bindings, binding.fixtureNames.Nodup := by decide +kernel
  obtain ⟨⟨file, built, root⟩, hcompile, hcheck⟩ := exists_ok_of_any hcompile
  obtain ⟨hload, hbuild, keywords, uri, hplan⟩ := compile_eq_ok hcompile
  obtain ⟨hlines, hnone⟩ := of_decide_eq_true hcheck
  have hregistry : ∀ binding ∈ file.registry.bindings, binding.fixtureNames.Nodup :=
    registry_of_load hload ▸ hshop
  obtain ⟨_, _, _, _, hplan', _, _, _, hcalls⟩ := nodup_keywords_of_build hregistry hbuild
  rw [hplan] at hplan'
  cases hplan'
  refine ⟨file, built, root, hload, hregistry, hbuild, hlines, keywords, uri, hplan, ?_⟩
  refine (forall₂_mem hcalls).imp fun site placed hplaced occurrence hoccurrence => ?_
  obtain ⟨_, hmem, hcomposes, _, hnodup⟩ := hplaced
  refine (hnodup occurrence hoccurrence).1.mpr fun hboth => ?_
  exact hnone placed hmem ((hcomposes.mem_fixtures hoccurrence).2 "argument" hboth.2)

/-- A handler that asks for a fixture of the name that arguments are passed under. -/
def notes : Registry :=
  let note : Handler := { signature := some [{ name := "argument", kind := .keywordOnly }] }
  let store := (Store.add {} {} .context (.template "a note") note none none).toOption.getD {}
  store.build.1

/-- A step of this handler with a doc string. -/
def noteText : String :=
  "Feature: F\n  Scenario: S\n    Given a note\n      \"\"\"\n      x\n      \"\"\"\n"

/-- The call in the line of this step. -/
def noteCall : Call :=
  Layout.stepCall "Given" "a note" (some { docString := some { content := "x" } }) ["argument"]

theorem exists_call_with_repeated_keyword :
    ∃ file built, load noteText "features/sample.feature" notes = .ok file ∧
      (∀ binding ∈ file.registry.bindings, binding.fixtureNames.Nodup) ∧
      file.build = .ok built ∧
      noteCall.write =
        "Given(\"a note\", argument=\x7b\"docString\": \x7b\"content\": \"x\"\x7d\x7d, " ++
          "argument=argument)" ∧
      Layout.indentation ++ (Layout.indentation ++ noteCall.write) ∈ built.lines ∧
      noteCall.keywords.map (·.1) = ["argument", "argument"] ∧
      readCall? noteCall.write = none := by
  have hcheck : (load noteText "features/sample.feature" notes).toOption.any (fun file =>
      file.build.toOption.any fun built => decide
        (Layout.indentation ++ (Layout.indentation ++ noteCall.write) ∈ built.lines)) = true := by
    decide +kernel
  have hnotes : ∀ binding ∈ notes.bindings, binding.fixtureNames.Nodup := by decide +kernel
  have hwrite : noteCall.write =
      "Given(\"a note\", argument=\x7b\"docString\": \x7b\"content\": \"x\"\x7d\x7d, " ++
        "argument=argument)" := by
    decide +kernel
  have hread : readCall? noteCall.write = none := by
    rw [hwrite]
    decide +kernel
  obtain ⟨file, hload, hcheck⟩ := exists_ok_of_any hcheck
  obtain ⟨built, hbuild, hline⟩ := exists_ok_of_any hcheck
  exact ⟨file, built, hload, registry_of_load hload ▸ hnotes, hbuild, hwrite,
    of_decide_eq_true hline, rfl, hread⟩

end FeatureFile

end FeatureSuite

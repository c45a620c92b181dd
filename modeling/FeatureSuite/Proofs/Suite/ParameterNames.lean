import FeatureSuite.Proofs.Suite.Parameters

/-!
# Names of parameters

No text of a tag gets into a module as a parameter unless it can be one. Where every part of a
feature and of its rules holds one thing, the planner comes by every tag and checks it, also those
of blocks of examples without rows, so a document with any other tag for a fixture is not built.
-/

namespace FeatureSuite

open Gherkin (Feature Tag)

/-! ## Tags of a feature -/

namespace Gherkin

/-- A part of a rule holds one thing. -/
def RuleChild.HoldsOne (child : RuleChild) : Prop :=
  [child.background.isSome, child.scenario.isSome].count true = 1

/-- A part of a feature holds one thing, and so do its parts if this is a rule. -/
def FeatureChild.HoldsOne (child : FeatureChild) : Prop :=
  [child.rule.isSome, child.background.isSome, child.scenario.isSome].count true = 1 ∧
    ∀ rule, child.rule = some rule → ∀ part ∈ rule.children, part.HoldsOne

/-- A tag stands at a feature, at one of its rules, at a scenario or an outline, or at a block of
examples. -/
inductive Feature.Carries (feature : Feature) (tag : Tag) : Prop where
  | feature : tag ∈ feature.tags → feature.Carries tag
  | rule (child : FeatureChild) (rule : Rule) : child ∈ feature.children →
      child.rule = some rule → tag ∈ rule.tags → feature.Carries tag
  | scenario (scenario : Scenario) : scenario ∈ feature.scenarios → tag ∈ scenario.tags →
      feature.Carries tag
  | examples (scenario : Scenario) (block : Examples) : scenario ∈ feature.scenarios →
      block ∈ scenario.examples → tag ∈ block.tags → feature.Carries tag

private theorem RuleChild.Regular.holdsOne {child : RuleChild}
    (h : child.Regular) : child.HoldsOne := by
  rcases h with ⟨background, rfl⟩ | ⟨scenario, _, rfl⟩ <;> rfl

private theorem Feature.Regular.holdsOne {feature : Feature} (h : feature.Regular) :
    ∀ child ∈ feature.children, child.HoldsOne := by
  intro child hchild
  rcases h.1 child hchild with ⟨background, rfl⟩ | ⟨scenario, _, rfl⟩ | ⟨rule, hrule, rfl⟩
  · exact ⟨rfl, fun rule hrule => nomatch hrule⟩
  · exact ⟨rfl, fun rule hrule => nomatch hrule⟩
  · refine ⟨rfl, fun rule hsome part hpart => ?_⟩
    cases hsome
    exact (hrule.1 part hpart).holdsOne

variable {feature : Feature} {scenario : Scenario} {tag : Tag}

private theorem RuleChild.HoldsOne.partTags_eq {child : RuleChild} (h : child.HoldsOne)
    (hscenario : child.scenario = some scenario) :
    partTags child.background child.scenario = scenario.allTags := by
  have hcount : ∀ background, [background, true].count true = 1 → background = false := by decide
  have hbackground : child.background = none := by
    rw [HoldsOne, hscenario] at h
    exact Option.isNone_iff_eq_none.mp (Option.isSome_eq_false_iff.mp (hcount _ h))
  rw [hbackground, hscenario]
  rfl

private theorem FeatureChild.HoldsOne.allTags_eq {child : FeatureChild} (h : child.HoldsOne)
    (hscenario : child.scenario = some scenario) : child.allTags = scenario.allTags := by
  have hcount : ∀ rule background, [rule, background, true].count true = 1 →
      rule = false ∧ background = false := by
    decide
  have hone := h.1
  rw [hscenario] at hone
  obtain ⟨hrule, hbackground⟩ := hcount _ _ hone
  rw [Option.isSome_eq_false_iff, Option.isNone_iff_eq_none] at hrule hbackground
  rw [FeatureChild.allTags, hrule, hbackground, hscenario]
  rfl

private theorem Feature.allTags_of_scenario (h : ∀ child ∈ feature.children, child.HoldsOne)
    (hscenario : scenario ∈ feature.scenarios) : scenario.allTags ⊆ feature.allTags := by
  intro tag htag
  refine List.mem_append_right _ (List.mem_flatMap.mpr ?_)
  rcases List.mem_append.mp hscenario with hown | hinside
  · obtain ⟨child, hchild, hsome⟩ := List.mem_filterMap.mp hown
    exact ⟨child, hchild, (h child hchild).allTags_eq hsome ▸ htag⟩
  · obtain ⟨rule, hrule, hinside⟩ := List.mem_flatMap.mp hinside
    obtain ⟨child, hchild, hrule⟩ := List.mem_filterMap.mp hrule
    obtain ⟨part, hpart, hsome⟩ := List.mem_filterMap.mp hinside
    have htags := ((h child hchild).2 rule hrule part hpart).partTags_eq hsome
    refine ⟨child, hchild, ?_⟩
    rw [FeatureChild.allTags, hrule]
    exact List.mem_append_right _ (List.mem_flatMap.mpr ⟨part, hpart, htags ▸ htag⟩)

private theorem Feature.Carries.mem_allTags (h : feature.Carries tag)
    (hone : ∀ child ∈ feature.children, child.HoldsOne) : tag ∈ feature.allTags := by
  cases h with
  | feature htag => exact List.mem_append_left _ htag
  | rule child rule hchild hrule htag =>
      refine List.mem_append_right _ (List.mem_flatMap.mpr ⟨child, hchild, ?_⟩)
      rw [FeatureChild.allTags, hrule]
      exact List.mem_append_left _ htag
  | scenario scenario hscenario htag =>
      exact allTags_of_scenario hone hscenario (List.mem_append_left _ htag)
  | examples scenario block hscenario hblock htag =>
      refine allTags_of_scenario hone hscenario (List.mem_append_right _ ?_)
      exact List.mem_flatMap.mpr ⟨block, hblock, htag⟩

end Gherkin

namespace FeatureFile

variable {file built : FeatureFile}

/-- A document is not built if one of its tags chooses what cannot be a parameter. -/
theorem build_eq_error_of_tag {feature : Feature} (hfeature : file.document.feature = some feature)
    (hone : ∀ child ∈ feature.children, child.HoldsOne) {tag : Tag} (htag : feature.Carries tag)
    (hchooses : ¬ ChoosesParameter tag.name) : ∃ failure, file.build = .error failure := by
  cases hbuild : file.build with
  | error failure => exact ⟨failure, rfl⟩
  | ok built =>
      obtain ⟨keywords, uri, root, hplan, _⟩ := text_of_build hbuild
      obtain ⟨feature', hfeature', hroot⟩ := plan_eq_ok hplan
      rw [hfeature] at hfeature'
      cases hfeature'
      exact absurd (Planner.feature_checked hroot tag (htag.mem_allTags hone)) hchooses

/-- All parameters of a module have names for parameters if the registry names no other fixtures. -/
theorem isParameterName_of_build
    (hregistry : ∀ name ∈ file.registry.fixtures, Text.isParameterName name = true)
    (h : file.build = .ok built) :
    ∀ signature ∈ readSignatures built.lines, ∃ parameters, signature = some parameters ∧
      ∀ name ∈ parameters, Text.isParameterName name = true := by
  have hself : Text.isParameterName "self" = true := by decide +kernel
  have hrequest : Text.isParameterName "request" = true := by decide +kernel
  obtain ⟨keywords, uri, root, hplan, hread⟩ := readSignatures_of_build
    (fun name hname => Text.isIdentifier_of_isParameterName (hregistry name hname)) h
  have hfixtures := fixtures_of_plan (fun _ hname => hname) hregistry hplan
  intro signature hsignature
  rw [hread] at hsignature
  rcases List.mem_append.mp hsignature with hmethod | hbehind
  · obtain ⟨placed, hplaced, rfl⟩ := List.mem_map.mp hmethod
    exact ⟨_, rfl, List.forall_mem_cons.mpr ⟨hself, hfixtures placed hplaced⟩⟩
  · exact ⟨_, List.mem_singleton.mp hbehind, List.forall_mem_singleton.mpr hrequest⟩

/-- A document with a tag that chooses what cannot be a parameter is not built; and if the fixtures
that the registry names can be parameters, so can all names that stand as parameters in the
functions of a module. -/
theorem parameters_checked (file : FeatureFile) :
    (∀ feature, file.document.feature = some feature →
        (∀ child ∈ feature.children, child.HoldsOne) →
      ∀ tag name, feature.Carries tag → tag.name = fixtureTag name → name ≠ "" →
        Text.isParameterName name = false → ∃ failure, file.build = .error failure) ∧
      ((∀ name ∈ file.registry.fixtures, Text.isParameterName name = true) →
        ∀ built, file.build = .ok built → ∀ signature ∈ readSignatures built.lines,
          ∃ parameters, signature = some parameters ∧
            ∀ name ∈ parameters, Text.isParameterName name = true) := by
  refine ⟨fun feature hfeature hone tag name htag hname hne hrefused => ?_,
    fun hregistry built h => isParameterName_of_build hregistry h⟩
  refine build_eq_error_of_tag hfeature hone htag fun hchooses => ?_
  rw [hname] at hchooses
  exact Bool.false_ne_true (hrefused.symm.trans (hchooses name (fixtureOfTag?_fixtureTag hne)))

private theorem holdsOne_of_load {text uri : String} {registry : Registry} {feature : Feature}
    (h : load text uri registry = .ok file) (hfeature : file.document.feature = some feature) :
    ∀ child ∈ feature.children, child.HoldsOne := by
  obtain ⟨document, hparse, hsource, _⟩ := document_of_parse (parse_of_load h)
  exact (Gherkin.regular_of_parse hparse (hsource.symm.trans hfeature)).1.holdsOne

/-- An outline in a rule with a block of examples that has a tag, but no rows. -/
def reservedTagText : String :=
  "Feature: F\n  Rule: R\n    Scenario Outline: O\n      Given <n>\n      @fixture:class\n" ++
    "      Examples:\n"

theorem parameters_checked_of_reserved :
    (∃ file feature, load reservedTagText "f.feature" {} = .ok file ∧
      file.document.feature = some feature ∧ (∀ child ∈ feature.children, child.HoldsOne) ∧
      (∃ tag, feature.Carries tag ∧ tag.name = fixtureTag "class") ∧
      Text.isParameterName "class" = false ∧ ∃ failure, file.build = .error failure) ∧
    ∃ file built, load shopText "f.feature" shop = .ok file ∧
      (∀ name ∈ file.registry.fixtures, Text.isParameterName name = true) ∧
      file.build = .ok built ∧
      readSignatures built.lines =
        [some ["self", "Given", "db"], some ["self", "When", "Then", "cart"], some ["request"]] ∧
      ∀ signature ∈ readSignatures built.lines, ∃ parameters, signature = some parameters ∧
        ∀ name ∈ parameters, Text.isParameterName name = true := by
  constructor
  · have hload : (load reservedTagText "f.feature" {}).toOption.any (fun file =>
        file.document.feature.any fun feature => feature.scenarios.any fun scenario =>
          scenario.examples.any fun block => block.tableBody.isEmpty &&
            block.tags.any (·.name = fixtureTag "class")) = true := by
      decide +kernel
    obtain ⟨file, hload, hcheck⟩ := exists_ok_of_any hload
    obtain ⟨feature, hfeature, hcheck⟩ := (Option.any_eq_true ..).mp hcheck
    obtain ⟨scenario, hscenario, hcheck⟩ := List.any_eq_true.mp hcheck
    obtain ⟨block, hblock, hcheck⟩ := List.any_eq_true.mp hcheck
    obtain ⟨_, hcheck⟩ := Bool.and_eq_true_iff.mp hcheck
    obtain ⟨tag, htag, hname⟩ := List.any_eq_true.mp hcheck
    have hname := of_decide_eq_true hname
    have hone := holdsOne_of_load hload hfeature
    have hcarries : feature.Carries tag := .examples scenario block hscenario hblock htag
    have hreserved : Text.isParameterName "class" = false := by decide +kernel
    exact ⟨file, feature, hload, hfeature, hone, ⟨tag, hcarries, hname⟩, hreserved,
      (parameters_checked file).1 feature hfeature hone tag "class" hcarries hname (by decide)
        hreserved⟩
  · have hcompile : (compile shopText "f.feature" shop).toOption.any (fun (_, _, root) =>
        decide ((root.placed [] []).map (·.unit.body.fixtures) =
          [["Given", "db"], ["When", "Then", "cart"]])) = true := by
      decide +kernel
    have hshop : ∀ name ∈ shop.fixtures, Text.isParameterName name = true := by decide +kernel
    obtain ⟨⟨file, built, root⟩, hcompile, hfixtures⟩ := exists_ok_of_any hcompile
    obtain ⟨hload, hbuild, keywords, uri, hplan⟩ := compile_eq_ok hcompile
    have hregistry : ∀ name ∈ file.registry.fixtures, Text.isParameterName name = true :=
      registry_of_load hload ▸ hshop
    obtain ⟨_, _, _, hplan', hread⟩ := readSignatures_of_build
      (fun name hname => Text.isIdentifier_of_isParameterName (hregistry name hname)) hbuild
    rw [hplan] at hplan'
    cases hplan'
    have hmethods := congrArg (List.map fun fixtures => some ("self" :: fixtures))
      (of_decide_eq_true hfixtures)
    rw [List.map_map] at hmethods
    have hsignatures := hread.trans (congrArg (· ++ [some ["request"]]) hmethods)
    exact ⟨file, built, hload, hregistry, hbuild, hsignatures,
      (parameters_checked file).2 hregistry built hbuild⟩

end FeatureFile

end FeatureSuite

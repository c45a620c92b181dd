import FeatureSuite.Proofs.Aligned
import FeatureSuite.Proofs.Suite.Planning

/-!
# Plans of two documents side by side

Two planners with the same handlers make the same lines of two nodes that are alike: titles, lines,
tags and rows are the same, and corresponding steps have the same keyword, and the same text and
argument in the pickles. Nothing else about the documents has any effect, neither the words of the
language nor anything that stands beside the nodes.
-/

namespace FeatureSuite

open Gherkin (Background Feature FeatureChild PickleStep PickleStepArgument Rule RuleChild Scenario
  Step)
open List (Forall₂)

/-! ## Steps -/

/-- What a handler is given of a step. -/
def Gherkin.PickleStep.content (step : PickleStep) : String × Option PickleStepArgument :=
  (step.text, step.argument)

/-- Two steps are run in the same way. -/
structure Occurrence.Alike (occurrence other : Occurrence) : Prop where
  content_eq : occurrence.pickleStep.content = other.pickleStep.content
  line_eq : occurrence.step.location.line = other.step.location.line
  keyword_eq : occurrence.keyword = other.keyword
  role_eq : occurrence.role = other.role
  found_eq : occurrence.found = other.found

namespace Occurrence.Alike

variable {occurrence other : Occurrence} (h : occurrence.Alike other)

include h

theorem text_eq : occurrence.pickleStep.text = other.pickleStep.text :=
  congrArg Prod.fst h.content_eq

private theorem fixtures_eq : occurrence.fixtures = other.fixtures := by
  rw [fixtures, fixtures, h.found_eq]

theorem runner?_eq : occurrence.runner? = other.runner? := by
  rw [runner?, runner?, h.found_eq]

private theorem prepared_eq : occurrence.prepared = other.prepared := by
  have hargument : occurrence.pickleStep.argument = other.pickleStep.argument :=
    congrArg Prod.snd h.content_eq
  rw [prepared, prepared, h.keyword_eq, h.text_eq, hargument, h.line_eq, h.found_eq, h.fixtures_eq]

end Occurrence.Alike

/-! ## Bodies and units -/

/-- Two bodies are the same in what is written of them, and run their steps in the same way. -/
structure Body.Alike (body other : Body) : Prop where
  fixtures_eq : body.fixtures = other.fixtures
  lines_eq : body.lines = other.lines
  occurrences : Forall₂ Occurrence.Alike body.occurrences other.occurrences

/-- Two units are the same in what is written of them, and run their steps in the same way. -/
structure SuiteUnit.Alike (unit other : SuiteUnit) : Prop where
  lines_eq : unit.lines = other.lines
  taggedTests_eq : unit.taggedTests = other.taggedTests
  occurrences : Forall₂ Occurrence.Alike unit.occurrences other.occurrences

namespace SuiteUnit

private theorem Alike.hook {body other : Body} (h : body.Alike other) (line : Int) :
    (hook line body).Alike (hook line other) where
  lines_eq := by rw [lines, lines, h.fixtures_eq, h.lines_eq]
  taggedTests_eq := rfl
  occurrences := h.occurrences

private theorem Alike.test {body other : Body} (h : body.Alike other) (title : String) (line : Int)
    (flags : Flags) (key : String) (tags : List String) :
    (test title line flags key tags body).Alike (test title line flags key tags other) where
  lines_eq := by rw [lines, lines, h.fixtures_eq, h.lines_eq]
  taggedTests_eq := rfl
  occurrences := h.occurrences

theorem Alike.suite {units others : List SuiteUnit} (h : Forall₂ Alike units others)
    (title : String) (line : Int) (flags : Flags) :
    (suite title line flags units).Alike (suite title line flags others) := by
  suffices hall : linesOfAll units = linesOfAll others ∧
      taggedTestsOfAll units = taggedTestsOfAll others ∧
        Forall₂ Occurrence.Alike (occurrencesOfAll units) (occurrencesOfAll others) by
    obtain ⟨hlines, htests, hoccurrences⟩ := hall
    exact ⟨by rw [lines, lines, hlines], htests, hoccurrences⟩
  induction h with
  | nil => exact ⟨rfl, rfl, .nil⟩
  | cons hunit _ ih =>
      obtain ⟨hlines, htests, hoccurrences⟩ := ih
      refine ⟨?_, ?_, List.rel_append hunit.occurrences hoccurrences⟩
      · rw [linesOfAll, linesOfAll, hunit.lines_eq, hlines]
      · rw [taggedTestsOfAll, taggedTestsOfAll, hunit.taggedTests_eq, htests]

end SuiteUnit

/-! ## Nodes -/

/-- The titles of rows depend on a document by the comments above the blocks only. -/
theorem expandBlocks_congr {document other : Gherkin.Document} (default : String)
    {blocks : List Gherkin.Examples}
    (h : ∀ block ∈ blocks, document.commentAt? (block.location.line - 1) =
      other.commentAt? (block.location.line - 1)) (before : Nat) :
    expandBlocks document default before blocks = expandBlocks other default before blocks := by
  induction blocks generalizing before with
  | nil => rfl
  | cons block blocks ih =>
      obtain ⟨hblock, hblocks⟩ := List.forall_mem_cons.mp h
      have hformat : titleFormat document block default = titleFormat other block default := by
        rw [titleFormat, titleFormat, hblock]
      rw [expandBlocks, expandBlocks, hformat, ih hblocks]

namespace Planner

/-- Two planners resolve steps for the same module with the same handlers. -/
structure Fellow (planner other : Planner) : Prop where
  uri_eq : planner.uri = other.uri
  registry_eq : planner.registry = other.registry

section

variable (planner other : Planner)

/-- Two steps stand for the same keyword, and the pickles have the same content for them. -/
structure AlikeStep (row : Option String) (step step' : Step) : Prop where
  id_eq : step.id = step'.id
  text_eq : step.text = step'.text
  line_eq : step.location.line = step'.location.line
  keyword_eq : planner.keywords.canonical step.keyword = other.keywords.canonical step'.keyword
  content_eq : (planner.pickleStep? step row).map PickleStep.content =
    (other.pickleStep? step' row).map PickleStep.content

structure AlikeBackground (background background' : Background) : Prop where
  line_eq : background.location.line = background'.location.line
  steps : Forall₂ (planner.AlikeStep other none) background.steps background'.steps

/-- Two scenarios are alike in every test that is generated for them. -/
structure AlikeScenario (scenario scenario' : Scenario) : Prop where
  name_eq : scenario.name = scenario'.name
  line_eq : scenario.location.line = scenario'.location.line
  tags_eq : scenario.tags = scenario'.tags
  examples_eq : scenario.examples = scenario'.examples
  rows_eq : planner.rows scenario = other.rows scenario'
  steps : scenario.isOutline = false →
    Forall₂ (planner.AlikeStep other none) scenario.steps scenario'.steps
  row_steps : ∀ entry ∈ planner.rows scenario,
    Forall₂ (planner.AlikeStep other (some entry.row.id)) scenario.steps scenario'.steps

structure AlikeRuleChild (child child' : RuleChild) : Prop where
  background : Option.Rel (planner.AlikeBackground other) child.background child'.background
  scenario : Option.Rel (planner.AlikeScenario other) child.scenario child'.scenario

structure AlikeRule (rule rule' : Rule) : Prop where
  name_eq : rule.name = rule'.name
  line_eq : rule.location.line = rule'.location.line
  tags_eq : rule.tags = rule'.tags
  children : Forall₂ (planner.AlikeRuleChild other) rule.children rule'.children

structure AlikeFeatureChild (child child' : FeatureChild) : Prop where
  rule : Option.Rel (planner.AlikeRule other) child.rule child'.rule
  background : Option.Rel (planner.AlikeBackground other) child.background child'.background
  scenario : Option.Rel (planner.AlikeScenario other) child.scenario child'.scenario

structure AlikeFeature (feature feature' : Feature) : Prop where
  name_eq : feature.name = feature'.name
  line_eq : feature.location.line = feature'.location.line
  tags_eq : feature.tags = feature'.tags
  children : Forall₂ (planner.AlikeFeatureChild other) feature.children feature'.children

end

/-! ## Plans of nodes -/

variable {planner other : Planner} {around : List Ancestor}

private theorem AlikeStep.occurrence (hfellow : planner.Fellow other) {row : Option String}
    {step step' : Step} (h : planner.AlikeStep other row step step') (tags : List String)
    (previous : Option Role) :
    Paired Occurrence.Alike (planner.occurrence tags row previous step)
      (other.occurrence tags row previous step') := by
  have hclassify : planner.keywords.classify step.keyword previous =
      other.keywords.classify step'.keyword previous := by
    rw [KeywordTable.classify, KeywordTable.classify, h.keyword_eq]
  have hcontent := h.content_eq
  unfold Planner.occurrence
  rw [hclassify, h.keyword_eq, hfellow.registry_eq]
  cases hstep : planner.pickleStep? step row with
  | none =>
      rw [hstep, eq_comm, Option.map_none, Option.map_eq_none_iff] at hcontent
      rw [hcontent, h.text_eq, h.id_eq]
      exact .error _
  | some pickleStep =>
      rw [hstep, eq_comm, Option.map_some, Option.map_eq_some_iff] at hcontent
      -- The words of the two steps have no effect from here on.
      obtain ⟨pickleStep', hstep', hsame⟩ := hcontent
      have htext : pickleStep'.text = pickleStep.text := congrArg Prod.fst hsame
      rw [hstep']
      refine .bind_eq rfl fun role => .bind_eq rfl fun keyword => ?_
      refine .bind_eq (by rw [htext]) fun found => .ok ?_
      exact ⟨hsame.symm, h.line_eq, rfl, rfl, rfl⟩

private theorem occurrences_alike (hfellow : planner.Fellow other) {row : Option String}
    {steps steps' : List Step} (h : Forall₂ (planner.AlikeStep other row) steps steps')
    (tags : List String) (previous : Option Role) :
    Paired (Forall₂ Occurrence.Alike) (planner.occurrences tags row previous steps)
      (other.occurrences tags row previous steps') := by
  induction h generalizing previous with
  | nil => exact .ok .nil
  | cons hstep _ ih =>
      rw [occurrences, occurrences]
      refine (hstep.occurrence hfellow tags previous).bind fun occurrence occurrence' hfirst => ?_
      rw [hfirst.role_eq]
      exact (ih _).bind fun rest rest' hrest => .ok (.cons hfirst hrest)

theorem body_alike (hfellow : planner.Fellow other) {row : Option String}
    {steps steps' : List Step} (h : Forall₂ (planner.AlikeStep other row) steps steps')
    (tags : List String) :
    Paired Body.Alike (planner.body steps tags row) (other.body steps' tags row) := by
  refine (occurrences_alike hfellow h tags none).bind fun occurrences occurrences' hall => ?_
  have hprepared : occurrences.map (·.prepared) = occurrences'.map (·.prepared) :=
    map_eq_map (hall.imp fun _ _ hsame => hsame.prepared_eq)
  have hasked : (occurrences.flatMap fun occurrence =>
      occurrence.keyword.label :: occurrence.fixtures) =
      occurrences'.flatMap fun occurrence => occurrence.keyword.label :: occurrence.fixtures :=
    flatMap_eq_flatMap (hall.imp fun _ _ hsame => by rw [hsame.keyword_eq, hsame.fixtures_eq])
  have hfixtures : bodyFixtures occurrences tags = bodyFixtures occurrences' tags := by
    rw [bodyFixtures, bodyFixtures, hasked]
  rw [hprepared, hfixtures, hfellow.registry_eq, hfellow.uri_eq]
  exact .bind_eq rfl fun (lines, fixtures) => .ok ⟨rfl, rfl, hall⟩

theorem Fellow.checkTags_eq (h : planner.Fellow other) : planner.checkTags = other.checkTags := by
  funext tags
  rw [checkTags, checkTags, h.uri_eq]

private theorem background_alike (hfellow : planner.Fellow other)
    {background background' : Background}
    (h : planner.AlikeBackground other background background') :
    Paired SuiteUnit.Alike (planner.background around background)
      (other.background around background') := by
  refine (body_alike hfellow h.steps (visibleTags around [])).bind fun body body' hbody => .ok ?_
  rw [h.line_eq]
  exact .hook hbody _

private theorem test_alike (hfellow : planner.Fellow other) {scenario scenario' : Scenario}
    (h : planner.AlikeScenario other scenario scenario') (hplain : scenario.isOutline = false) :
    Paired SuiteUnit.Alike (planner.test around scenario) (other.test around scenario') := by
  unfold Planner.test
  rw [← hfellow.checkTags_eq, ← h.name_eq, ← h.line_eq, ← h.tags_eq]
  refine .bind_eq rfl fun _ => ?_
  exact (body_alike hfellow (h.steps hplain) _).bind fun _ _ hbody => .ok (.test hbody ..)

private theorem outline_alike (hfellow : planner.Fellow other) {outline outline' : Scenario}
    (h : planner.AlikeScenario other outline outline') :
    Paired SuiteUnit.Alike (planner.outline around outline) (other.outline around outline') := by
  have hancestor : scenarioAncestor outline = scenarioAncestor outline' := by
    rw [scenarioAncestor, scenarioAncestor, h.name_eq, h.tags_eq]
  have hrows : expandOutline planner.document outline planner.titleFormat =
      expandOutline other.document outline' other.titleFormat := h.rows_eq
  unfold Planner.outline
  rw [← hfellow.checkTags_eq, ← h.name_eq, ← h.line_eq, ← h.tags_eq, ← h.examples_eq,
    ← hancestor, ← hrows]
  refine .bind_eq rfl fun _ => .bind_eq rfl fun _ => ?_
  refine .bind (.mapM (List.forall₂_same.mpr fun entry hentry => ?_)) fun _ _ hunits =>
    .ok (.suite hunits ..)
  exact (body_alike hfellow (h.row_steps entry hentry) _).bind fun _ _ hbody =>
    .ok (.test hbody ..)

private theorem scenario_alike (hfellow : planner.Fellow other) {scenario scenario' : Scenario}
    (h : planner.AlikeScenario other scenario scenario') :
    Paired SuiteUnit.Alike (planner.scenario around scenario)
      (other.scenario around scenario') := by
  have hkind : scenario.isOutline = scenario'.isOutline := by
    rw [Scenario.isOutline, Scenario.isOutline, h.examples_eq]
  unfold Planner.scenario
  rw [← hkind]
  cases houtline : scenario.isOutline with
  | true => exact outline_alike hfellow h
  | false => exact test_alike hfellow h houtline

private theorem part_alike (hfellow : planner.Fellow other) {inRule : Bool}
    {background background' : Option Background} {scenario scenario' : Option Scenario}
    (hbackground : Option.Rel (planner.AlikeBackground other) background background')
    (hscenario : Option.Rel (planner.AlikeScenario other) scenario scenario') :
    Paired SuiteUnit.Alike (planner.part around inRule background scenario)
      (other.part around inRule background' scenario') := by
  cases hbackground with
  | some hbackground => exact background_alike hfellow hbackground
  | none =>
      cases hscenario with
      | some hscenario => exact scenario_alike hfellow hscenario
      | none =>
          rw [part, part, hfellow.uri_eq]
          exact .error _

private theorem rule_alike (hfellow : planner.Fellow other) {rule rule' : Rule}
    (h : planner.AlikeRule other rule rule') :
    Paired SuiteUnit.Alike (planner.rule around rule) (other.rule around rule') := by
  unfold Planner.rule
  rw [← hfellow.checkTags_eq, ← h.name_eq, ← h.line_eq, ← h.tags_eq]
  refine .bind_eq rfl fun _ => ?_
  refine .bind (.mapM (h.children.imp fun child child' hchild => ?_)) fun _ _ hunits =>
    .ok (.suite hunits ..)
  exact part_alike hfellow hchild.background hchild.scenario

theorem featurePart_alike (hfellow : planner.Fellow other) {child child' : FeatureChild}
    (h : planner.AlikeFeatureChild other child child') :
    Paired SuiteUnit.Alike (planner.featurePart around child)
      (other.featurePart around child') := by
  have hrule := h.rule
  unfold Planner.featurePart
  generalize child.rule = rule at hrule ⊢
  generalize child'.rule = rule' at hrule ⊢
  cases hrule with
  | some hrule => exact rule_alike hfellow hrule
  | none => exact part_alike hfellow h.background h.scenario

/-- Features that are alike are planned alike, or fail for the same reason. -/
theorem feature_alike (hfellow : planner.Fellow other) {feature feature' : Feature}
    (h : planner.AlikeFeature other feature feature') :
    Paired SuiteUnit.Alike (planner.feature feature) (other.feature feature') := by
  unfold Planner.feature
  rw [← hfellow.checkTags_eq, ← h.name_eq, ← h.line_eq, ← h.tags_eq]
  refine .bind_eq rfl fun _ => ?_
  refine .bind (.mapM (h.children.imp fun child child' hchild => ?_)) fun _ _ hunits =>
    .ok (.suite hunits ..)
  exact featurePart_alike hfellow hchild

end Planner

end FeatureSuite

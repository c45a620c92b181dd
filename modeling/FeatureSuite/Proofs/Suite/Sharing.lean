import FeatureSuite.Proofs.Suite.Alike
import FeatureSuite.Proofs.Suite.Extension
import FeatureSuite.Proofs.Suite.Pickled

/-!
# Parts that features share

The lines of a module inside the class of its feature come in one block for each part of the
feature. The block of a part depends on the part, on the pickle steps that its own steps are run as
and on the comments above its blocks of examples. So two features that differ in their parts only
have the same block for every part that they share, wherever it stands and whatever is around it.
-/

namespace FeatureSuite

open Gherkin (Background Document Examples Feature FeatureChild PickleStep Rule RuleChild Scenario
  Step)
open List (Forall₂)

/-! ## What a part is made of -/

namespace Gherkin

def Background.runs (background : Background) : List (Option String × Step) :=
  background.steps.map (none, ·)

/-- The steps of a scenario with the rows that they are run for. -/
def Scenario.runs (scenario : Scenario) : List (Option String × Step) :=
  if scenario.isOutline then
    (scenario.examples.flatMap (·.tableBody)).flatMap fun row =>
      scenario.steps.map (some row.id, ·)
  else scenario.steps.map (none, ·)

def RuleChild.runs (child : RuleChild) : List (Option String × Step) :=
  child.background.toList.flatMap Background.runs ++ child.scenario.toList.flatMap Scenario.runs

/-- The steps of a part of a feature with the rows that they are run for. -/
def FeatureChild.runs (child : FeatureChild) : List (Option String × Step) :=
  child.background.toList.flatMap Background.runs ++
    child.scenario.toList.flatMap Scenario.runs ++
      child.rule.toList.flatMap fun rule => rule.children.flatMap RuleChild.runs

def FeatureChild.blocks (child : FeatureChild) : List Examples :=
  child.scenario.toList.flatMap (·.examples) ++
    child.rule.toList.flatMap fun rule => rule.children.flatMap fun child =>
      child.scenario.toList.flatMap (·.examples)

end Gherkin

namespace FeatureFile

/-- The step of the pickles that a step is run as. -/
def pickleStep? (file : FeatureFile) (row : Option String) (step : Step) : Option PickleStep :=
  (file.pickles.flatMap (·.steps)).find? fun pickleStep =>
    pickleStep.astNodeIds.contains step.id && row.all pickleStep.astNodeIds.contains

/-- Two files have the same pickle steps for the steps of a part, and the same comments above its
blocks of examples. -/
structure Shares (file other : FeatureFile) (child : FeatureChild) : Prop where
  content_eq : ∀ run ∈ child.runs, (file.pickleStep? run.1 run.2).map PickleStep.content =
    (other.pickleStep? run.1 run.2).map PickleStep.content
  comment_eq : ∀ block ∈ child.blocks, file.document.commentAt? (block.location.line - 1) =
    other.document.commentAt? (block.location.line - 1)

/-- Two files are compiled with the same handlers and settings, and their features differ in their
parts only. -/
structure SameFrame (file other : FeatureFile) (feature feature' : Feature) : Prop where
  uri_eq : file.document.uri = other.document.uri
  registry_eq : file.registry = other.registry
  settings_eq : file.settings = other.settings
  feature_eq : file.document.feature = some feature
  feature_eq' : other.document.feature = some feature'
  name_eq : feature.name = feature'.name
  tags_eq : tagNames feature.tags = tagNames feature'.tags
  language_eq : feature.language = feature'.language
  location_eq : feature.location = feature'.location

end FeatureFile

/-! ## Plans of a shared part -/

namespace Planner

/-- Two planners differ in their documents and in the steps of the pickles only. -/
structure Peer (planner other : Planner) : Prop extends planner.Fellow other where
  keywords_eq : planner.keywords = other.keywords
  titleFormat_eq : planner.titleFormat = other.titleFormat

def SameContent (planner other : Planner) (run : Option String × Step) : Prop :=
  (planner.pickleStep? run.2 run.1).map PickleStep.content =
    (other.pickleStep? run.2 run.1).map PickleStep.content

def SameComment (planner other : Planner) (block : Examples) : Prop :=
  planner.document.commentAt? (block.location.line - 1) =
    other.document.commentAt? (block.location.line - 1)

namespace Peer

variable {planner other : Planner} (h : planner.Peer other)

include h

private theorem steps {row : Option String} {steps : List Step}
    (hsteps : ∀ step ∈ steps, planner.SameContent other (row, step)) :
    Forall₂ (planner.AlikeStep other row) steps steps :=
  List.forall₂_same.mpr fun step hstep =>
    ⟨rfl, rfl, rfl, by rw [h.keywords_eq], hsteps step hstep⟩

private theorem background {background : Background}
    (hruns : ∀ run ∈ background.runs, planner.SameContent other run) :
    planner.AlikeBackground other background background where
  line_eq := rfl
  steps := h.steps fun _ hstep => hruns _ (List.mem_map_of_mem hstep)

private theorem scenario {scenario : Scenario}
    (hruns : ∀ run ∈ scenario.runs, planner.SameContent other run)
    (hblocks : ∀ block ∈ scenario.examples, planner.SameComment other block) :
    planner.AlikeScenario other scenario scenario := by
  have hrows : planner.rows scenario = other.rows scenario := by
    rw [rows, rows, expandOutline, expandOutline, h.titleFormat_eq]
    exact expandBlocks_congr _ hblocks 0
  refine ⟨rfl, rfl, rfl, rfl, hrows, fun hplain => ?_, fun entry hentry => ?_⟩
  · refine h.steps fun step hstep => hruns (none, step) ?_
    rw [Scenario.runs, if_neg (by simp [hplain])]
    exact List.mem_map_of_mem hstep
  · have hlists : ListsRows planner.rows := expandOutline_listsRows _ _
    obtain ⟨hblock, hrow⟩ := hlists.mem hentry
    -- Only an outline has rows, so the scenario is run for these and in no other way.
    have houtline : scenario.isOutline = true := by
      simpa [Scenario.isOutline] using List.ne_nil_of_mem hblock
    refine h.steps fun step hstep => hruns (some entry.row.id, step) ?_
    rw [Scenario.runs, if_pos houtline]
    exact List.mem_flatMap.mpr
      ⟨entry.row, List.mem_flatMap.mpr ⟨_, hblock, hrow⟩, List.mem_map_of_mem hstep⟩

private theorem ruleChild {child : RuleChild}
    (hruns : ∀ run ∈ child.runs, planner.SameContent other run)
    (hblocks : ∀ scenario ∈ child.scenario, ∀ block ∈ scenario.examples,
      planner.SameComment other block) :
    planner.AlikeRuleChild other child child where
  background := optionRel_same fun background hbackground => h.background fun run hrun =>
    hruns run (by simp_all [RuleChild.runs])
  scenario := optionRel_same fun scenario hscenario => h.scenario
    (fun run hrun => hruns run (by simp_all [RuleChild.runs])) (hblocks scenario hscenario)

private theorem featureChild {child : FeatureChild}
    (hruns : ∀ run ∈ child.runs, planner.SameContent other run)
    (hblocks : ∀ block ∈ child.blocks, planner.SameComment other block) :
    planner.AlikeFeatureChild other child child where
  rule := optionRel_same fun rule hrule =>
    { name_eq := rfl
      line_eq := rfl
      tags_eq := rfl
      children := List.forall₂_same.mpr fun child hchild => h.ruleChild
        (fun run hrun => hruns run (by
          simp only [FeatureChild.runs, List.mem_append, List.mem_flatMap, Option.mem_toList]
          exact .inr ⟨rule, hrule, child, hchild, hrun⟩))
        fun scenario hscenario block hblock => hblocks block (by
          simp only [FeatureChild.blocks, List.mem_append, List.mem_flatMap, Option.mem_toList]
          exact .inr ⟨rule, hrule, child, hchild, scenario, hscenario, hblock⟩) }
  background := optionRel_same fun background hbackground => h.background fun run hrun =>
    hruns run (by simp_all [FeatureChild.runs])
  scenario := optionRel_same fun scenario hscenario => h.scenario
    (fun run hrun => hruns run (by simp_all [FeatureChild.runs]))
    fun block hblock => hblocks block (by simp_all [FeatureChild.blocks])

end Peer

end Planner

/-! ## Modules -/

namespace FeatureFile

variable {file other built built' : FeatureFile} {feature feature' : Feature}

/-- The lines inside the class of a feature that are generated for a part of it. -/
def childLines (file : FeatureFile) (feature : Feature) (child : FeatureChild) :
    Except Failure (List String) := do
  let keywords ← documentResult (KeywordTable.find file.language)
  let uri ← documentResult file.sourceFile
  let unit ← (file.planner keywords uri).featurePart [⟨feature.name, tagNames feature.tags⟩] child
  return unit.lines

/-- A module is written around the lines that are generated for the parts of its feature. -/
structure Frames (file built : FeatureFile) (feature : Feature) (uri : String)
    (blocks : List (List String)) : Prop where
  blocks_eq : feature.children.mapM (file.childLines feature) = .ok blocks
  lines_eq : built.lines = Layout.header uri (imports file.settings built.runnerModules) ++
    Layout.suite feature.name feature.location.line blocks.flatten (.ofTags feature.tags) ++
      "" :: Layout.tagsFixture built.tags.entries

private theorem frames_of_build (hfeature : file.document.feature = some feature)
    (h : file.build = .ok built) :
    ∃ uri blocks, file.sourceFile = .ok uri ∧ file.Frames built feature uri blocks := by
  obtain ⟨⟨keywords, uri, root⟩, hplan, h⟩ := bind_eq_ok.mp h
  cases h
  have hsource := source_of_plan hplan
  unfold plan at hplan
  rw [hfeature] at hplan
  obtain ⟨words, hwords, hplan⟩ := bind_eq_ok.mp hplan
  obtain ⟨name, hname, hplan⟩ := bind_eq_ok.mp hplan
  obtain ⟨suite, hsuite, hplan⟩ := bind_eq_ok.mp hplan
  cases hplan
  obtain ⟨units, hunits, rfl⟩ := Planner.feature_eq_ok hsuite
  refine ⟨uri, units.map (·.lines), hsource, ?_, ?_⟩
  · rw [mapM_eq_ok, List.forall₂_map_right_iff]
    refine (mapM_eq_ok.mp hunits).imp fun child unit hunit => ?_
    exact bind_eq_ok.mpr ⟨keywords, hwords, bind_eq_ok.mpr ⟨uri, hname,
      bind_eq_ok.mpr ⟨unit, hunit, rfl⟩⟩⟩
  · dsimp only
    rw [SuiteUnit.lines, SuiteUnit.linesOfAll_eq_flatten]

private theorem SameFrame.flags_eq (h : file.SameFrame other feature feature') :
    Flags.ofTags feature.tags = Flags.ofTags feature'.tags := by
  rw [Flags.ofTags, Flags.ofTags, h.tags_eq]

private theorem SameFrame.childLines_eq (h : file.SameFrame other feature feature') :
    other.childLines feature' = other.childLines feature := by
  funext child
  unfold childLines
  rw [h.name_eq, h.tags_eq]

/-- A part that is shared has the same lines in both modules, if it has lines in both. -/
theorem childLines_of_shares (h : file.SameFrame other feature feature') {child : FeatureChild}
    (hchild : file.Shares other child) {block block' : List String}
    (hblock : file.childLines feature child = .ok block)
    (hblock' : other.childLines feature child = .ok block') : block = block' := by
  have hlanguage : file.language = other.language := by
    simp [language, h.feature_eq, h.feature_eq', h.language_eq]
  have hsource : file.sourceFile = other.sourceFile := by rw [sourceFile, sourceFile, h.uri_eq]
  have hpaired : Paired (· = ·) (file.childLines feature child)
      (other.childLines feature child) := by
    unfold childLines
    rw [hlanguage, hsource]
    refine .bind_eq rfl fun keywords => .bind_eq rfl fun uri => ?_
    have hpeer : (file.planner keywords uri).Peer (other.planner keywords uri) :=
      { uri_eq := rfl
        registry_eq := h.registry_eq
        keywords_eq := rfl
        titleFormat_eq := congrArg Settings.examplesTitleFormat h.settings_eq }
    have halike := hpeer.featureChild hchild.content_eq hchild.comment_eq
    exact (Planner.featurePart_alike hpeer.toFellow halike).bind fun _ _ hunit =>
      .ok hunit.lines_eq
  rw [hblock, hblock'] at hpaired
  exact hpaired.of_ok

/-- Features that differ in their parts only have the same lines for every part that they share,
and around the lines of the parts only the imports and the map of tags differ. -/
theorem blocks_of_shared (hframe : file.SameFrame other feature feature')
    (hbuild : file.build = .ok built) (hother : other.build = .ok built') :
    ∃ uri blocks blocks', file.Frames built feature uri blocks ∧
      other.Frames built' { feature with children := feature'.children } uri blocks' ∧
        ∀ (i j : Nat) (child : FeatureChild), feature.children[i]? = some child →
          feature'.children[j]? = some child → file.Shares other child →
            ∃ block, blocks[i]? = some block ∧ blocks'[j]? = some block := by
  obtain ⟨uri, blocks, hsource, hframes⟩ := frames_of_build hframe.feature_eq hbuild
  obtain ⟨uri', blocks', hsource', hframes'⟩ := frames_of_build hframe.feature_eq' hother
  have huri : uri' = uri := by
    rw [sourceFile, ← hframe.uri_eq] at hsource'
    exact Except.ok.inj (hsource'.symm.trans hsource)
  subst huri
  refine ⟨uri', blocks, blocks', hframes, ⟨?_, ?_⟩, fun i j child hi hj hchild => ?_⟩
  · exact (congrArg feature'.children.mapM hframe.childLines_eq).symm.trans hframes'.blocks_eq
  · rw [hframes'.lines_eq, ← hframe.name_eq, ← hframe.location_eq, ← hframe.flags_eq]
  · obtain ⟨block, hblock, hlines⟩ := exists_of_getElem? (mapM_eq_ok.mp hframes.blocks_eq) hi
    obtain ⟨block', hblock', hlines'⟩ := exists_of_getElem? (mapM_eq_ok.mp hframes'.blocks_eq) hj
    rw [hframe.childLines_eq] at hlines'
    obtain rfl := childLines_of_shares hframe hchild hlines hlines'
    exact ⟨block, hblock, hblock'⟩

/-- The file without the first part of its feature, and with the other parts the other way round. -/
def turned (file : FeatureFile) : Except Failure FeatureFile :=
  let turn (feature : Feature) : Feature :=
    { feature with children := feature.children.tail.reverse }
  let document := { file.document with feature := file.document.feature.map turn }
  match document.pickles with
  | .error bad => .error (.pattern bad)
  | .ok pickles => .ok { file with document, pickles }

private theorem turned_eq_ok (h : file.turned = .ok other)
    (hfeature : file.document.feature = some feature) :
    file.SameFrame other feature { feature with children := feature.children.tail.reverse } := by
  unfold turned at h
  dsimp only at h
  split at h
  · cases h
  · cases h
    exact ⟨rfl, rfl, rfl, hfeature, by rw [hfeature]; rfl, rfl, rfl, rfl, rfl⟩

/-- A background, a tagged scenario, and a rule with an outline whose rows have a format. -/
def marketText : String :=
  "Feature: F\n  Background:\n    Given a user\n  @x\n  Scenario: S\n    When I buy\n  Rule: R\n" ++
    "    Scenario Outline: O\n      When I buy\n      * <n> coins\n" ++
    "      # title-format: <n> coins\n      Examples:\n        | n |\n        | 2 |\n"

def marketBlock : List String :=
  ["@pytest.mark.bdd_title(\"R\")", "class Test_r_L7:",
    "    @pytest.mark.bdd_title(\"O\")", "    class Test_o_L8:",
    "        @pytest.mark.bdd_title(\"2 coins\")",
    "        def test_2_coins_L14(self, When, And, cart):",
    "            When(\"I buy\", cart=cart)",
    "            pytest.fail(\"Missing step: And 2 coins\")", "", "", ""]

/-- The rule comes last in one module and first in the other. -/
theorem blocks_of_shared_of_turned :
    ∃ file other built built' feature child uri blocks blocks',
      load marketText "f.feature" stall.build.1 = .ok file ∧ file.turned = .ok other ∧
      file.SameFrame other feature { feature with children := feature.children.tail.reverse } ∧
      file.build = .ok built ∧ other.build = .ok built' ∧ built.lines ≠ built'.lines ∧
      feature.children[2]? = some child ∧ feature.children.tail.reverse[0]? = some child ∧
      file.Shares other child ∧ file.Frames built feature uri blocks ∧
      other.Frames built' { feature with children := feature.children.tail.reverse } uri blocks' ∧
      blocks[2]? = some marketBlock ∧ blocks'[0]? = some marketBlock := by
  have hcheck : (load marketText "f.feature" stall.build.1).toOption.any (fun file =>
      file.turned.toOption.any fun other => file.build.toOption.any fun built =>
        other.build.toOption.any fun built' => file.document.feature.any fun feature =>
          feature.children[2]?.any fun child => decide
            ((feature.children.tail.reverse[0]? = some child ∧ built.lines ≠ built'.lines) ∧
              (∀ run ∈ child.runs, (file.pickleStep? run.1 run.2).map PickleStep.content =
                (other.pickleStep? run.1 run.2).map PickleStep.content) ∧
              (∀ block ∈ child.blocks, file.document.commentAt? (block.location.line - 1) =
                other.document.commentAt? (block.location.line - 1)) ∧
              (file.childLines feature child).toOption = some marketBlock)) = true := by
    decide +kernel
  obtain ⟨file, hload, hcheck⟩ := exists_ok_of_any hcheck
  obtain ⟨other, hturned, hcheck⟩ := exists_ok_of_any hcheck
  obtain ⟨built, hbuild, hcheck⟩ := exists_ok_of_any hcheck
  obtain ⟨built', hbuild', hcheck⟩ := exists_ok_of_any hcheck
  obtain ⟨feature, hfeature, hcheck⟩ := (Option.any_eq_true ..).mp hcheck
  obtain ⟨child, hchild, hcheck⟩ := (Option.any_eq_true ..).mp hcheck
  obtain ⟨⟨hturnedChild, hlines⟩, hcontent, hcomment, hblock⟩ := of_decide_eq_true hcheck
  have hframe := turned_eq_ok hturned hfeature
  have hshares : file.Shares other child := ⟨hcontent, hcomment⟩
  obtain ⟨uri, blocks, blocks', hframes, hframes', hsame⟩ :=
    blocks_of_shared hframe hbuild hbuild'
  obtain ⟨block, hi, hj⟩ := hsame 2 0 child hchild hturnedChild hshares
  obtain ⟨block', hi', hmade⟩ := exists_of_getElem? (mapM_eq_ok.mp hframes.blocks_eq) hchild
  rw [hi] at hi'
  cases hi'
  rw [hmade] at hblock
  cases hblock
  exact ⟨file, other, built, built', feature, child, uri, blocks, blocks', hload, hturned, hframe,
    hbuild, hbuild', hlines, hchild, hturnedChild, hshares, hframes, hframes', hi, hj⟩

end FeatureFile

end FeatureSuite

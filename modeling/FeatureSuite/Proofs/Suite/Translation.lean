import FeatureSuite.Proofs.Suite.Alike
import FeatureSuite.Proofs.Suite.Build

/-!
# Documents in other languages

A document that is written with the step words of another language, every word for the same keyword,
gives the same module: the same lines, tags, imports and undefined steps, or the same failure. The
language and the words have no other way into a module than the keyword that a word stands for.
-/

namespace FeatureSuite

open Gherkin (Background Document Feature FeatureChild Rule RuleChild Scenario Step)
open List (Forall₂)

/-! ## Reworded documents -/

namespace Gherkin

variable (same : String → String → Prop)

/-- Two steps differ in their words only, and these belong together. -/
structure Step.Reworded (step other : Step) : Prop where
  words : same step.keyword other.keyword
  rest_eq : other = { step with keyword := other.keyword }

structure Background.Reworded (background other : Background) : Prop where
  steps : Forall₂ (Step.Reworded same) background.steps other.steps
  rest_eq : other = { background with steps := other.steps }

/-- Two scenarios differ in the words of their steps only. -/
structure Scenario.Reworded (scenario other : Scenario) : Prop where
  steps : Forall₂ (Step.Reworded same) scenario.steps other.steps
  rest_eq : other = { scenario with steps := other.steps }

structure RuleChild.Reworded (child other : RuleChild) : Prop where
  background : Option.Rel (Background.Reworded same) child.background other.background
  scenario : Option.Rel (Scenario.Reworded same) child.scenario other.scenario

structure Rule.Reworded (rule other : Rule) : Prop where
  children : Forall₂ (RuleChild.Reworded same) rule.children other.children
  rest_eq : other = { rule with children := other.children }

structure FeatureChild.Reworded (child other : FeatureChild) : Prop where
  rule : Option.Rel (Rule.Reworded same) child.rule other.rule
  background : Option.Rel (Background.Reworded same) child.background other.background
  scenario : Option.Rel (Scenario.Reworded same) child.scenario other.scenario

/-- Two features differ in their language and in the words of their steps only. -/
structure Feature.Reworded (feature other : Feature) : Prop where
  children : Forall₂ (FeatureChild.Reworded same) feature.children other.children
  rest_eq : other = { feature with language := other.language, children := other.children }

structure Document.Reworded (document other : Document) : Prop where
  feature : Option.Rel (Feature.Reworded same) document.feature other.feature
  rest_eq : other = { document with feature := other.feature }

end Gherkin

/-- Two words stand for the same keyword, each in its language. -/
def KeywordTable.SameKeyword (words others : KeywordTable) (word other : String) : Prop :=
  ∃ keyword, words.canonical word = .ok keyword ∧ others.canonical other = .ok keyword

/-! ## Plans of reworded documents -/

namespace Planner

/-- Two planners differ in the features of their documents and in the words of the language only. -/
structure Rewords (planner other : Planner) : Prop extends planner.Fellow other where
  comments_eq : planner.document.comments = other.document.comments
  pickleSteps_eq : planner.pickleSteps = other.pickleSteps
  titleFormat_eq : planner.titleFormat = other.titleFormat

namespace Rewords

variable {planner other : Planner} (h : planner.Rewords other)

include h

private theorem step {step step' : Step}
    (hstep : step.Reworded (planner.keywords.SameKeyword other.keywords) step')
    (row : Option String) : planner.AlikeStep other row step step' := by
  obtain ⟨⟨keyword, hkeyword, hkeyword'⟩, hrest⟩ := hstep
  have hid : step.id = step'.id := by rw [hrest]
  exact
    { id_eq := hid
      text_eq := by rw [hrest]
      line_eq := by rw [hrest]
      keyword_eq := hkeyword.trans hkeyword'.symm
      content_eq := by rw [pickleStep?, pickleStep?, h.pickleSteps_eq, hid] }

private theorem steps {steps steps' : List Step}
    (hsteps : Forall₂ (Step.Reworded (planner.keywords.SameKeyword other.keywords)) steps steps')
    (row : Option String) : Forall₂ (planner.AlikeStep other row) steps steps' :=
  hsteps.imp fun _ _ hstep => h.step hstep row

private theorem background {background background' : Background}
    (hbackground : background.Reworded (planner.keywords.SameKeyword other.keywords) background') :
    planner.AlikeBackground other background background' where
  line_eq := by rw [hbackground.rest_eq]
  steps := h.steps hbackground.steps none

private theorem scenario {scenario scenario' : Scenario}
    (hscenario : scenario.Reworded (planner.keywords.SameKeyword other.keywords) scenario') :
    planner.AlikeScenario other scenario scenario' := by
  have hexamples : scenario.examples = scenario'.examples := by rw [hscenario.rest_eq]
  have hrows : planner.rows scenario = other.rows scenario' := by
    rw [rows, rows, expandOutline, expandOutline, hexamples, h.titleFormat_eq]
    refine expandBlocks_congr _ (fun block _ => ?_) 0
    rw [Document.commentAt?, Document.commentAt?, h.comments_eq]
  exact
    { name_eq := by rw [hscenario.rest_eq]
      line_eq := by rw [hscenario.rest_eq]
      tags_eq := by rw [hscenario.rest_eq]
      examples_eq := hexamples
      rows_eq := hrows
      steps := fun _ => h.steps hscenario.steps none
      row_steps := fun entry _ => h.steps hscenario.steps (some entry.row.id) }

private theorem ruleChild {child child' : RuleChild}
    (hchild : child.Reworded (planner.keywords.SameKeyword other.keywords) child') :
    planner.AlikeRuleChild other child child' where
  background := optionRel_imp (fun _ _ => h.background) hchild.background
  scenario := optionRel_imp (fun _ _ => h.scenario) hchild.scenario

private theorem rule {rule rule' : Rule}
    (hrule : rule.Reworded (planner.keywords.SameKeyword other.keywords) rule') :
    planner.AlikeRule other rule rule' where
  name_eq := by rw [hrule.rest_eq]
  line_eq := by rw [hrule.rest_eq]
  tags_eq := by rw [hrule.rest_eq]
  children := hrule.children.imp fun _ _ => h.ruleChild

private theorem featureChild {child child' : FeatureChild}
    (hchild : child.Reworded (planner.keywords.SameKeyword other.keywords) child') :
    planner.AlikeFeatureChild other child child' where
  rule := optionRel_imp (fun _ _ => h.rule) hchild.rule
  background := optionRel_imp (fun _ _ => h.background) hchild.background
  scenario := optionRel_imp (fun _ _ => h.scenario) hchild.scenario

private theorem feature {feature feature' : Feature}
    (hfeature : feature.Reworded (planner.keywords.SameKeyword other.keywords) feature') :
    planner.AlikeFeature other feature feature' where
  name_eq := by rw [hfeature.rest_eq]
  line_eq := by rw [hfeature.rest_eq]
  tags_eq := by rw [hfeature.rest_eq]
  children := hfeature.children.imp fun _ _ => h.featureChild

end Rewords

end Planner

/-! ## Modules -/

namespace FeatureFile

/-- Two modules are the same in their lines, tags and imports, and in the texts and roles of the
steps that no handler accepts. -/
structure SameModule (built other : FeatureFile) : Prop where
  lines_eq : built.lines = other.lines
  tags_eq : built.tags = other.tags
  runnerModules_eq : built.runnerModules = other.runnerModules
  undefined_eq : built.undefined.map (fun undefined => (undefined.role, undefined.text)) =
    other.undefined.map fun undefined => (undefined.role, undefined.text)

private theorem undefinedSteps_alike {occurrences others : List Occurrence} (uri : String)
    (h : Forall₂ Occurrence.Alike occurrences others) :
    (undefinedSteps uri occurrences).map (fun undefined => (undefined.role, undefined.text)) =
      (undefinedSteps uri others).map fun undefined => (undefined.role, undefined.text) := by
  have hkept : Forall₂ Occurrence.Alike (occurrences.filter (·.found.isNone))
      (others.filter (·.found.isNone)) :=
    List.rel_filter (fun _ _ hsame => by simp [hsame.found_eq]) h
  rw [undefinedSteps, undefinedSteps, List.map_map, List.map_map]
  exact map_eq_map (hkept.imp fun _ _ hsame => Prod.ext hsame.role_eq hsame.text_eq)

private theorem plan_of_reworded {file : FeatureFile} {document : Document}
    {words others : KeywordTable} (hwords : KeywordTable.find file.language = .ok words)
    (hothers : KeywordTable.find ({ file with document } : FeatureFile).language = .ok others)
    (hdocument : file.document.Reworded (words.SameKeyword others) document) :
    Paired (fun plan other => plan.2.1 = other.2.1 ∧ plan.2.2.Alike other.2.2)
      file.plan ({ file with document } : FeatureFile).plan := by
  have hcomments : file.document.comments = document.comments := by rw [hdocument.rest_eq]
  have hsource : file.sourceFile = ({ file with document } : FeatureFile).sourceFile := by
    rw [sourceFile, sourceFile, hdocument.rest_eq]
  have hfeature := hdocument.feature
  unfold plan
  rw [hwords, hothers, ← hsource]
  dsimp only
  generalize file.document.feature = feature at hfeature ⊢
  generalize document.feature = feature' at hfeature ⊢
  cases hfeature with
  | none => exact .bind_eq rfl fun _ => .error _
  | some hfeature =>
      -- The tables are not the same, so what follows is related for these two tables only.
      refine .bind (R := fun a b => words = a ∧ others = b) (.ok ⟨rfl, rfl⟩) ?_
      rintro _ _ ⟨rfl, rfl⟩
      refine .bind_eq rfl fun uri => ?_
      have hplanner : (file.planner words uri).Rewords
          (({ file with document } : FeatureFile).planner others uri) :=
        { uri_eq := rfl
          registry_eq := rfl
          comments_eq := hcomments
          pickleSteps_eq := rfl
          titleFormat_eq := rfl }
      have hroot := Planner.feature_alike hplanner.toFellow (hplanner.feature hfeature)
      exact hroot.bind fun _ _ halike => .ok ⟨rfl, halike⟩

/-- A document in other words is built to the same module, or fails for the same reason. -/
theorem build_of_reworded {file : FeatureFile} {document : Document} {words others : KeywordTable}
    (hwords : KeywordTable.find file.language = .ok words)
    (hothers : KeywordTable.find ({ file with document } : FeatureFile).language = .ok others)
    (hdocument : file.document.Reworded (words.SameKeyword others) document) :
    Paired SameModule file.build ({ file with document } : FeatureFile).build := by
  refine (plan_of_reworded hwords hothers hdocument).bind ?_
  rintro ⟨_, uri, root⟩ ⟨_, uri', root'⟩ ⟨huri, hroot⟩
  have huri : uri = uri' := huri
  have hrunners : root.occurrences.filterMap (·.runner?) =
      root'.occurrences.filterMap (·.runner?) :=
    filterMap_eq_filterMap (hroot.occurrences.imp fun _ _ hsame => hsame.runner?_eq)
  refine .ok ⟨?_, ?_, ?_, ?_⟩
  · dsimp only
    rw [hroot.lines_eq, hrunners, huri, hroot.taggedTests_eq]
  · dsimp only
    rw [hroot.taggedTests_eq]
  · dsimp only
    rw [hrunners]
  · rw [huri]
    exact undefinedSteps_alike uri' hroot.occurrences

/-- A background, and an outline whose second step goes on with the group of the first. -/
def orderDocument (language given when next : String) : Document :=
  let step (id : String) (line : Int) (keyword text : String) : Step :=
    { id, location := { line }, keyword, text }
  let background : Background :=
    { id := "4", location := { line := 2 }, steps := [step "0" 3 given "a user"] }
  let block : Gherkin.Examples :=
    { id := "5", location := { line := 7 }
      tableHeader := some
        { id := "6", location := { line := 8 }, cells := [{ value := "n" }] }
      tableBody := [{ id := "3", location := { line := 9 }, cells := [{ value := "2" }] }] }
  let outline : Scenario :=
    { id := "7", location := { line := 4 }, name := "Order", examples := [block]
      steps := [step "1" 5 when "I buy <n>", step "2" 6 next "I pay"] }
  let feature : Feature :=
    { location := { line := 1 }, language, name := "Shop"
      children := [{ background := some background }, { scenario := some outline }] }
  { uri := some "shop.feature", feature := some feature }

def orderPickles : List Gherkin.Pickle :=
  [{ id := "11"
     steps := [{ id := "8", text := "a user", astNodeIds := ["0"] },
      { id := "9", text := "I buy 2", astNodeIds := ["1", "3"] },
      { id := "10", text := "I pay", astNodeIds := ["2", "3"] }] }]

/-- A bullet in one language and a conjunction in the other go on alike. -/
theorem build_of_reworded_order :
    ∃ english german,
      build { document := orderDocument "en" "Given " "When " "* ", pickles := orderPickles,
              registry := {} } = .ok english ∧
      build { document := orderDocument "de" "Angenommen " "Wenn " "Und ", pickles := orderPickles,
              registry := {} } = .ok german ∧
      SameModule english german ∧
      english.undefined.map (fun undefined => (undefined.role, undefined.text)) =
        [(.context, "a user"), (.action, "I buy 2"), (.action, "I pay")] := by
  let document := orderDocument "de" "Angenommen " "Wenn " "Und "
  let file : FeatureFile :=
    { document := orderDocument "en" "Given " "When " "* ", pickles := orderPickles
      registry := {} }
  have hkeywords : (KeywordTable.find file.language).toOption.any (fun words =>
      (KeywordTable.find ({ file with document } : FeatureFile).language).toOption.any
        fun others => decide
          ((words.canonical "Given " = .ok .given ∧ others.canonical "Angenommen " = .ok .given) ∧
            (words.canonical "When " = .ok .when ∧ others.canonical "Wenn " = .ok .when) ∧
              words.canonical "* " = .ok .and ∧ others.canonical "Und " = .ok .and)) = true := by
    decide +kernel
  obtain ⟨words, hwords, hkeywords⟩ := exists_ok_of_any hkeywords
  obtain ⟨others, hothers, hsame⟩ := exists_ok_of_any hkeywords
  obtain ⟨hgiven, hwhen, hnext⟩ := of_decide_eq_true hsame
  have hbuild : file.build.toOption.any (fun built => decide
      (built.undefined.map (fun undefined => (undefined.role, undefined.text)) =
        [(.context, "a user"), (.action, "I buy 2"), (.action, "I pay")])) = true := by
    decide +kernel
  obtain ⟨english, hbuild, hundefined⟩ := exists_ok_of_any hbuild
  have hreworded : file.document.Reworded (words.SameKeyword others) document :=
    { feature := .some
        { children := .cons
            { rule := .none
              background := .some { steps := .cons ⟨⟨_, hgiven⟩, rfl⟩ .nil, rest_eq := rfl }
              scenario := .none }
            (.cons
              { rule := .none
                background := .none
                scenario := .some
                  { steps := .cons ⟨⟨_, hwhen⟩, rfl⟩ (.cons ⟨⟨_, hnext⟩, rfl⟩ .nil)
                    rest_eq := rfl } }
              .nil)
          rest_eq := rfl }
      rest_eq := rfl }
  have hpaired := build_of_reworded hwords hothers hreworded
  rw [hbuild] at hpaired
  change ∃ english german, file.build = .ok english ∧
    ({ file with document } : FeatureFile).build = .ok german ∧ _
  cases hpaired with
  | ok hmodule => exact ⟨english, _, hbuild, rfl, hmodule, of_decide_eq_true hundefined⟩

end FeatureFile

end FeatureSuite

import FeatureSuite.Proofs.Suite.Failures
import FeatureSuite.Proofs.Suite.Signature

/-!
# Steps without a handler

A step of the document is run once for every background, scenario or row that it is generated for.
What is told of the steps that no handler accepts, the list of undefined steps and the lines that
fail, is compared here with all steps as they are run, in the order of the document.
-/

namespace FeatureSuite

open Gherkin (PickleStep Step)

/-! ## Handlers that accept a step -/

/-- Whether a handler takes the text of a step of a role, in a test with some tags. -/
def Binding.accepts (binding : Binding) (text : String) (role : Role) (tags : List String) : Bool :=
  binding.acceptsRole (some role) && binding.acceptsTags tags &&
    (binding.match? text).toOption.any Option.isSome

def Registry.accepts (registry : Registry) (text : String) (role : Role) (tags : List String) :
    Bool :=
  registry.bindings.any (·.accepts text role tags)

namespace Registry

variable {text : String} {role : Role} {tags : List String} {found : Option StepMatch}

private theorem binding_findIn {numbered : List (Binding × Nat)}
    (h : findIn text (some role) tags numbered = .ok found) :
    found.map (·.binding) = (numbered.map Prod.fst).find? (·.accepts text role tags) := by
  induction numbered with
  | nil =>
      cases h
      rfl
  | cons entry numbered ih =>
      obtain ⟨binding, index⟩ := entry
      rw [findIn] at h
      rw [List.map_cons, List.find?_cons, Binding.accepts]
      by_cases hfits : (binding.acceptsRole (some role) && binding.acceptsTags tags) = true
      · rw [if_pos hfits] at h
        obtain ⟨captured, hmatch, h⟩ := bind_eq_ok.mp h
        rw [hfits, hmatch, Bool.true_and]
        cases captured with
        | some captured =>
            cases h
            rfl
        | none => exact ih h
      · rw [if_neg hfits] at h
        rw [Bool.not_eq_true] at hfits
        rw [hfits, Bool.false_and]
        exact ih h

theorem binding_find {registry : Registry} (h : registry.find text (some role) tags = .ok found) :
    found.map (·.binding) = registry.bindings.find? (·.accepts text role tags) := by
  rw [binding_findIn h, List.zipIdx_map_fst]

private theorem isSome_find {registry : Registry}
    (h : registry.find text (some role) tags = .ok found) :
    found.isSome = registry.accepts text role tags := by
  rw [← Option.isSome_map, binding_find h, accepts, List.isSome_find?]

end Registry

/-! ## Steps as they are run -/

structure StepUse where
  step : Step
  pickleStep : PickleStep
  keyword : Keyword
  role : Role

namespace StepUse

/-- What is told of the step if no handler accepts it. -/
def undefined (uri : String) (use : StepUse) : UndefinedStep :=
  { role := use.role, step := use.step, pickleStep := use.pickleStep, uri }

end StepUse

def Occurrence.use (occurrence : Occurrence) : StepUse where
  step := occurrence.step
  pickleStep := occurrence.pickleStep
  keyword := occurrence.keyword
  role := occurrence.role

/-- The steps of a test with some tags that no handler accepts. -/
def Registry.unhandled (registry : Registry) (tags : List String) (uses : List StepUse) :
    List StepUse :=
  uses.filter fun use => !registry.accepts use.pickleStep.text use.role tags

namespace Planner

/-- The steps of a test or a hook are run one after the other, each with the first step of the
pickles that stems from it and the role that it has behind the step in front. -/
inductive Uses (planner : Planner) (row : Option String) :
    Option Role → List Step → List StepUse → Prop where
  | nil (previous : Option Role) : Uses planner row previous [] []
  | cons {previous : Option Role} {step : Step} {pickleStep : PickleStep} {keyword : Keyword}
      {role : Role} {steps : List Step} {uses : List StepUse} :
      planner.pickleStep? step row = some pickleStep →
      planner.keywords.classify step.keyword previous = .ok role →
      planner.keywords.canonical step.keyword = .ok keyword →
      Uses planner row (some role) steps uses →
      Uses planner row previous (step :: steps) (⟨step, pickleStep, keyword, role⟩ :: uses)

variable {planner : Planner} {tags : List String} {row : Option String}

private theorem uses_of_occurrences {previous : Option Role} {steps : List Step}
    {occurrences : List Occurrence}
    (h : planner.occurrences tags row previous steps = .ok occurrences) :
    planner.Uses row previous steps (occurrences.map Occurrence.use) := by
  induction steps generalizing previous occurrences with
  | nil =>
      cases h
      exact .nil previous
  | cons step steps ih =>
      obtain ⟨occurrence, hstep, h⟩ := bind_eq_ok.mp h
      obtain ⟨rest, hrest, h⟩ := bind_eq_ok.mp h
      cases h
      unfold Planner.occurrence at hstep
      split at hstep
      · cases hstep
      · rename_i pickleStep hpickle
        obtain ⟨role, hrole, hstep⟩ := bind_eq_ok.mp hstep
        obtain ⟨keyword, hkeyword, hstep⟩ := bind_eq_ok.mp hstep
        obtain ⟨found, _, hstep⟩ := bind_eq_ok.mp hstep
        cases hstep
        rw [documentResult_eq_ok] at hrole hkeyword
        exact .cons hpickle hrole hkeyword (ih hrest)

end Planner

/-! ## Modules -/

namespace FeatureFile

variable {file built : FeatureFile} {keywords : KeywordTable} {uri : String} {root : SuiteUnit}

theorem words_of_plan (h : file.plan = .ok (keywords, uri, root)) :
    KeywordTable.find file.language = .ok keywords := by
  unfold plan at h
  split at h
  · obtain ⟨_, _, h⟩ := bind_eq_ok.mp h
    cases h
  · obtain ⟨words, hwords, h⟩ := bind_eq_ok.mp h
    obtain ⟨name, _, h⟩ := bind_eq_ok.mp h
    obtain ⟨suite, _, h⟩ := bind_eq_ok.mp h
    cases h
    exact documentResult_eq_ok.mp hwords

end FeatureFile

namespace Planner.Realizes

variable {planner : Planner} {site : Site} {placed : Placed}

theorem uses (h : planner.Realizes site placed) :
    planner.Uses site.origin.row? none site.origin.steps
      (placed.unit.body.occurrences.map Occurrence.use) := by
  obtain ⟨occurrences, hoccurrences, hbody⟩ := bind_eq_ok.mp h.body_eq
  obtain ⟨⟨lines, fixtures⟩, _, hbody⟩ := bind_eq_ok.mp hbody
  have hbody : placed.unit.body = ⟨occurrences, fixtures.names, lines⟩ :=
    (pure_eq_ok.mp hbody).symm
  rw [hbody]
  exact uses_of_occurrences hoccurrences

private theorem unhandled_eq (h : planner.Realizes site placed) :
    (placed.unit.body.occurrences.filter (·.found.isNone)).map Occurrence.use =
      planner.registry.unhandled site.tags
        (placed.unit.body.occurrences.map Occurrence.use) := by
  rw [Registry.unhandled, List.filter_map]
  refine congrArg _ (List.filter_congr fun occurrence hmem => ?_)
  have hresolves := (composes_of_body h.body_eq).resolves
  obtain ⟨step, _, hstep⟩ := exists_of_mem_right hresolves hmem
  have hfound := Registry.isSome_find hstep.found_eq
  rw [← Option.not_isSome, hfound]
  rfl

end Planner.Realizes

namespace FeatureFile

variable {file built : FeatureFile} {keywords : KeywordTable} {uri : String} {root : SuiteUnit}

private theorem written_of_plan (h : file.plan = .ok (keywords, uri, root)) :
    ∀ placed ∈ root.placed [] [], placed.unit.body.Written := by
  intro placed hmem
  obtain ⟨site, _, hsite⟩ := exists_of_mem_right (plan_realizes h) hmem
  exact ⟨_, _, (Planner.composes_of_body hsite.body_eq).lines_eq⟩

private theorem canonical_of_plan (h : file.plan = .ok (keywords, uri, root)) :
    ∀ occurrence ∈ root.occurrences,
      keywords.canonical occurrence.step.keyword = .ok occurrence.keyword := by
  intro occurrence hmem
  rw [root.occurrences_eq [] []] at hmem
  obtain ⟨placed, hplaced, hmem⟩ := List.mem_flatMap.mp hmem
  obtain ⟨site, _, hsite⟩ := exists_of_mem_right (plan_realizes h) hplaced
  have hresolves := (Planner.composes_of_body hsite.body_eq).resolves
  obtain ⟨step, _, hstep⟩ := exists_of_mem_right hresolves hmem
  rw [hstep.step_eq]
  exact hstep.keyword_eq

/-- What is written around the suites does not fail. -/
theorem readFailures_of_build (h : file.build = .ok built) :
    ∃ keywords uri root, file.plan = .ok (keywords, uri, root) ∧
      built.undefined = undefinedSteps uri root.occurrences ∧
      readFailures built.lines =
        (root.occurrences.filter (·.found.isNone)).map (·.missingLine) := by
  obtain ⟨⟨keywords, uri, root⟩, hplan, h⟩ := bind_eq_ok.mp h
  cases h
  refine ⟨keywords, uri, root, hplan, rfl, ?_⟩
  have hheader := Layout.readFailures_quiet (Layout.isQuiet_header uri (imports file.settings
    (distinct (root.occurrences.filterMap (·.runner?)))))
  have hfooter : readFailures ("" :: Layout.tagsFixture (fileTags root.taggedTests).entries) = [] :=
    Layout.readFailures_quiet
      (List.forall_mem_cons.mpr ⟨by decide, Layout.isQuiet_tagsFixture _⟩)
  have hroot := root.readFailures_eq [] [] (written_of_plan hplan)
  rw [readFailures_append, readFailures_append, hheader, hfooter, hroot]
  exact List.append_nil _

/-- The steps of a plan are those of its hooks and tests, each of which is made for a site. -/
theorem exists_realized (h : file.plan = .ok (keywords, uri, root)) :
    ∃ pairs : List (Site × Placed), pairs.map Prod.fst = file.sites ∧
      root.occurrences = pairs.flatMap (·.2.unit.body.occurrences) ∧
      ∀ pair ∈ pairs, (file.planner keywords uri).Realizes pair.1 pair.2 := by
  obtain ⟨pairs, hsites, hplaced, hpairs⟩ := exists_pairs (plan_realizes h)
  refine ⟨pairs, hsites, ?_, hpairs⟩
  rw [root.occurrences_eq [] [], ← hplaced, List.flatMap_map]

/-- The undefined steps of a module are, in the order of the document, the steps that no handler
accepts, each as often as it is run; and for each of them, in the same order, one line of the module
fails with its keyword and its text, and no other line does. The lines are those that are generated:
a line feed in the name of the document does not end the line with this name. -/
theorem undefined_of_build (h : file.build = .ok built) :
    ∃ keywords uri, ∃ uses : List (Site × List StepUse),
      KeywordTable.find file.language = .ok keywords ∧ file.sourceFile = .ok uri ∧
      uses.map Prod.fst = file.sites ∧
      (∀ entry ∈ uses, (file.planner keywords uri).Uses entry.1.origin.row? none
        entry.1.origin.steps entry.2) ∧
      built.undefined = (uses.flatMap fun (site, uses) =>
        file.registry.unhandled site.tags uses).map (·.undefined uri) ∧
      List.Forall₂ (fun line undefined => ∃ keyword,
          keywords.canonical undefined.step.keyword = .ok keyword ∧
            line = Layout.missingStep keyword.label undefined.text)
        (readFailures built.lines) built.undefined := by
  obtain ⟨keywords, uri, root, hplan, hundefined, hfailures⟩ := readFailures_of_build h
  obtain ⟨pairs, hsites, hoccurrences, hpairs⟩ := exists_realized hplan
  let uses := pairs.map fun (site, placed) =>
    (site, placed.unit.body.occurrences.map Occurrence.use)
  have huses : ∀ entry ∈ uses, (file.planner keywords uri).Uses entry.1.origin.row? none
      entry.1.origin.steps entry.2 := by
    intro entry hentry
    obtain ⟨pair, hpair, rfl⟩ := List.mem_map.mp hentry
    exact (hpairs pair hpair).uses
  -- The occurrences without a handler are those of the pairs, site by site.
  have hunhandled : (root.occurrences.filter (·.found.isNone)).map Occurrence.use =
      uses.flatMap fun (site, uses) => file.registry.unhandled site.tags uses := by
    rw [hoccurrences, List.filter_flatMap, List.map_flatMap, List.flatMap_map]
    refine List.flatMap_congr fun pair hpair => ?_
    exact (hpairs pair hpair).unhandled_eq
  refine ⟨keywords, uri, uses, words_of_plan hplan, source_of_plan hplan, ?_, huses, ?_, ?_⟩
  · rw [← hsites, List.map_map]
    rfl
  · rw [hundefined, ← hunhandled, List.map_map]
    rfl
  · rw [hfailures, hundefined, undefinedSteps, List.forall₂_map_left_iff,
      List.forall₂_map_right_iff, List.forall₂_same]
    intro occurrence hmem
    have hkeyword := canonical_of_plan hplan occurrence (List.mem_of_mem_filter hmem)
    exact ⟨occurrence.keyword, hkeyword, rfl⟩

/-- A background without a handler, and a step that no row has one for. -/
def strayText : String :=
  "Feature: F\n Background:\n  Given a cat\n Scenario Outline: O\n  Given a user\n" ++
    "  And I feed <n>\n  Examples:\n   | n |\n   | 1 |\n   | 2 |\n"

/-- The role, the text and the keyword of an undefined step. -/
def toldOf (file : FeatureFile) (undefined : UndefinedStep) : Role × String × Option Keyword :=
  let keyword := (KeywordTable.find file.language).bind fun keywords =>
    keywords.canonical undefined.step.keyword
  (undefined.role, undefined.text, keyword.toOption)

private theorem toldOf_eq {undefined : UndefinedStep} {keyword : Keyword}
    (hwords : KeywordTable.find file.language = .ok keywords)
    (hkeyword : keywords.canonical undefined.step.keyword = .ok keyword) :
    file.toldOf undefined = (undefined.role, undefined.text, some keyword) := by
  simp only [toldOf, hwords, hkeyword, Except.bind, Except.toOption]

theorem undefined_of_stray :
    ∃ file built, load strayText "f.feature" shop = .ok file ∧ file.build = .ok built ∧
      readFailures built.lines = ["pytest.fail(\"Missing step: Given a cat\")",
        "pytest.fail(\"Missing step: And I feed 1\")",
        "pytest.fail(\"Missing step: And I feed 2\")"] ∧
      built.undefined.map (fun undefined => (undefined.role, undefined.text)) =
        [(.context, "a cat"), (.context, "I feed 1"), (.context, "I feed 2")] ∧
      ∃ keywords uri, ∃ uses : List (Site × List StepUse),
        (∀ entry ∈ uses, (file.planner keywords uri).Uses entry.1.origin.row? none
          entry.1.origin.steps entry.2) ∧
        built.undefined = (uses.flatMap fun (site, uses) =>
          file.registry.unhandled site.tags uses).map (·.undefined uri) := by
  have hcompile : (compile strayText "f.feature" shop).toOption.any (fun (file, built, _) =>
      decide (built.undefined.map file.toldOf =
        [(.context, "a cat", some .given), (.context, "I feed 1", some .and),
          (.context, "I feed 2", some .and)])) = true := by
    decide +kernel
  obtain ⟨⟨file, built, root⟩, hcompile, hcheck⟩ := exists_ok_of_any hcompile
  obtain ⟨hload, hbuild, _⟩ := compile_eq_ok hcompile
  have htold := of_decide_eq_true hcheck
  obtain ⟨keywords, uri, uses, hwords, _, _, huses, hundefined, hlines⟩ :=
    undefined_of_build hbuild
  have hread : (readFailures built.lines).map some =
      (built.undefined.map file.toldOf).map fun (_, text, keyword) =>
        keyword.map fun keyword => Layout.missingStep keyword.label text := by
    rw [List.map_map, ← List.forall₂_eq_eq_eq, List.forall₂_map_left_iff,
      List.forall₂_map_right_iff]
    refine hlines.imp fun line undefined hline => ?_
    obtain ⟨keyword, hkeyword, rfl⟩ := hline
    rw [Function.comp_apply, toldOf_eq hwords hkeyword]
    rfl
  have hfailures : readFailures built.lines = ["pytest.fail(\"Missing step: Given a cat\")",
      "pytest.fail(\"Missing step: And I feed 1\")",
      "pytest.fail(\"Missing step: And I feed 2\")"] := by
    rw [htold] at hread
    have hinjective : Function.Injective (some : String → Option String) :=
      fun _ _ => Option.some.inj
    exact List.map_injective_iff.mpr hinjective (hread.trans (by decide +kernel))
  refine ⟨file, built, hload, hbuild, hfailures, ?_, keywords, uri, uses, huses, hundefined⟩
  have hpairs := congrArg (List.map fun told => (told.1, told.2.1)) htold
  rwa [List.map_map] at hpairs

end FeatureFile

end FeatureSuite

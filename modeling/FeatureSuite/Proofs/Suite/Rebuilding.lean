import FeatureSuite.Proofs.Suite.Undefined
import FeatureSuite.Suite.Building

/-!
# Building again

Building in place comes to what is built without a file: the walk gathers in the file what the plan
holds, and a failure leaves the lines and all that the module is made from. So every call that
builds one file comes to the same as the first.
-/

namespace FeatureSuite

open Gherkin (Background Document Feature FeatureChild Pickle Rule RuleChild Scenario Step Tag)

/-! ## What a walk finds -/

/-- The tests and the steps that a walk comes across. -/
structure Findings where
  tests : List (String × List String) := []
  occurrences : List Occurrence := []

namespace Findings

instance : Append Findings := ⟨fun findings more =>
  ⟨findings.tests ++ more.tests, findings.occurrences ++ more.occurrences⟩⟩

@[simp] private theorem append_empty (findings : Findings) : findings ++ {} = findings :=
  congrArg₂ mk (List.append_nil _) (List.append_nil _)

def ofUnit (unit : SuiteUnit) : Findings := ⟨unit.taggedTests, unit.occurrences⟩

def ofUnits (units : List SuiteUnit) : Findings :=
  ⟨SuiteUnit.taggedTestsOfAll units, SuiteUnit.occurrencesOfAll units⟩

end Findings

/-- Adds a module that handlers are called through, unless it is there. -/
def addRunner (runners : List String) (runner : String) : List String :=
  if runners.contains runner then runners else runners ++ [runner]

private theorem foldl_addRunner {runners : List String} (h : runners.Nodup) (more : List String) :
    more.foldl addRunner runners = distinct (runners ++ more) := by
  induction more generalizing runners with
  | nil => rw [List.append_nil, distinct_of_nodup h, List.foldl_nil]
  | cons runner more ih =>
      rw [List.foldl_cons, addRunner]
      by_cases hmem : runner ∈ runners
      · rw [if_pos (by simpa using hmem), ih h, distinct_append_cons_of_mem hmem]
      · rw [if_neg (by simpa using hmem), ih (List.nodup_append.mpr ⟨h, by simp, by
          intro a ha b hb hab
          rw [List.mem_singleton.mp hb] at hab
          exact hmem (hab ▸ ha)⟩), List.append_assoc, List.singleton_append]

namespace FeatureFile

/-- The file once a walk has come across some tests and steps. -/
def gather (uri : String) (findings : Findings) (file : FeatureFile) : FeatureFile :=
  { file with
    tags := findings.tests.foldl (fun map (key, tags) => map.enter key tags) file.tags
    runnerModules :=
      (findings.occurrences.filterMap (·.runner?)).foldl addRunner file.runnerModules
    undefined := file.undefined ++ undefinedSteps uri findings.occurrences }

variable {uri : String}

@[simp] theorem gather_empty (file : FeatureFile) : file.gather uri {} = file := by
  simp [gather, undefinedSteps]

private theorem gather_gather (findings more : Findings) (file : FeatureFile) :
    (file.gather uri findings).gather uri more = file.gather uri (findings ++ more) := by
  change _ =
    file.gather uri ⟨findings.tests ++ more.tests, findings.occurrences ++ more.occurrences⟩
  simp [gather, undefinedSteps, List.foldl_append, List.filterMap_append]

private theorem enterTags_eq (key : String) (tags : List String) (file : FeatureFile) :
    file.enterTags key tags = file.gather uri ⟨[(key, tags)], []⟩ := by
  simp [gather, enterTags, undefinedSteps]

private theorem note_eq (occurrence : Occurrence) (file : FeatureFile) :
    file.note uri occurrence = file.gather uri ⟨[], [occurrence]⟩ := by
  unfold note gather undefinedSteps
  cases hfound : occurrence.found with
  | none => simp [Occurrence.runner?, hfound]
  | some found =>
      cases hrunner : occurrence.runner? with
      | none => simp [hfound, hrunner]
      | some runner =>
          simp only [List.filterMap_cons, hrunner, List.filterMap_nil, List.foldl_cons,
            List.foldl_nil, addRunner]
          split <;> simp [hfound]

end FeatureFile

namespace Building

/-! ## Walks -/

variable {α β : Type} {uri : String}

@[simp] theorem run_ofResult (result : Except Failure α) (file : FeatureFile) :
    (ofResult result).run.run file = (result, file) := by
  cases result <;> rfl

private theorem run_ofResult_ok {result : Except Failure α} {next : α → Building β} {a : α}
    {file : FeatureFile} (h : result = .ok a) :
    (ofResult result >>= next).run.run file = (next a).run.run file :=
  run_bind_ok (by rw [run_ofResult, h])

private theorem run_ofResult_error {result : Except Failure α} {next : α → Building β}
    {failure : Failure} {file : FeatureFile} (h : result = .error failure) :
    (ofResult result >>= next).run.run file = (.error failure, file) :=
  run_bind_error (by rw [run_ofResult, h])

private theorem run_modify_bind (change : FeatureFile → FeatureFile) (next : Unit → Building α)
    (file : FeatureFile) :
    (modify change >>= next).run.run file = (next ()).run.run (change file) :=
  run_bind_ok rfl

/-- A walk in place comes to a result that is computed without a file, and gathers in the file what
it comes across. If it succeeds, its result tells what that is. -/
def Follows (uri : String) (walk : Building α) (result : Except Failure α)
    (findings : α → Findings) : Prop :=
  ∀ file, ∃ found, walk.run.run file = (result, file.gather uri found) ∧
    ∀ a, result = .ok a → found = findings a

namespace Follows

theorem pure {a : α} {findings : α → Findings} (h : findings a = {}) :
    Follows uri (pure a) (pure a) findings := by
  refine fun file => ⟨{}, by rw [file.gather_empty]; rfl, fun b hb => ?_⟩
  rw [← pure_eq_ok.mp hb, h]

theorem ofResult (result : Except Failure α) :
    Follows uri (ofResult result) result fun _ => {} := by
  refine fun file => ⟨{}, ?_, fun _ _ => rfl⟩
  rw [file.gather_empty, run_ofResult]

private theorem modify {change : FeatureFile → FeatureFile} {found : Findings}
    (h : ∀ file, change file = file.gather uri found) :
    Follows uri (modify change) (.ok ()) fun _ => found :=
  fun file => ⟨found, by rw [← h]; rfl, fun _ _ => rfl⟩

theorem bind {walk : Building α} {result : Except Failure α} {next : α → Building β}
    {nextResult : α → Except Failure β} {first : α → Findings} {second : α → β → Findings}
    {findings : β → Findings} (h : Follows uri walk result first)
    (hnext : ∀ a, Follows uri (next a) (nextResult a) (second a))
    (htogether : ∀ a b, result = .ok a → nextResult a = .ok b →
      first a ++ second a b = findings b) :
    Follows uri (walk >>= next) (result >>= nextResult) findings := by
  intro file
  obtain ⟨found, hrun, hfound⟩ := h file
  cases result with
  | error failure => exact ⟨found, run_bind_error hrun, nofun⟩
  | ok a =>
      obtain ⟨more, hmore, hsecond⟩ := hnext a (file.gather uri found)
      refine ⟨found ++ more, ?_, fun b hb => ?_⟩
      · rw [run_bind_ok hrun, hmore, FeatureFile.gather_gather]
        rfl
      · rw [hfound a rfl, hsecond b hb, htogether a b rfl hb]

theorem map {walk : Building α} {result : Except Failure α} {first : α → Findings} {make : α → β}
    {findings : β → Findings} (h : Follows uri walk result first)
    (hfirst : ∀ a, result = .ok a → first a = findings (make a)) :
    Follows uri (do let a ← walk; return make a) (do let a ← result; return make a) findings := by
  have hmake (a : α) : Follows uri (Pure.pure (make a)) (Pure.pure (make a)) fun _ => {} := pure rfl
  refine h.bind hmake fun a b ha hb => ?_
  rw [Findings.append_empty, hfirst a ha, pure_eq_ok.mp hb]

private theorem finishing (result : Except Failure α) (make : α → β) :
    Follows uri (do let a ← Building.ofResult result; return make a)
      (do let a ← result; return make a) fun _ => {} :=
  (ofResult result).map fun _ _ => rfl

private theorem changing (more : α → Findings) {change : FeatureFile → FeatureFile}
    {found : Findings} {walk : Building α} {result : Except Failure α} {findings : α → Findings}
    (hchange : ∀ file, change file = file.gather uri found) (h : Follows uri walk result more)
    (htogether : ∀ a, result = .ok a → found ++ more a = findings a) :
    Follows uri (do MonadState.modifyGet fun file => ((), change file); walk) result findings :=
  (modify hchange).bind (fun _ => h) fun _ a _ ha => htogether a ha

theorem checking {check : Except Failure Unit} {walk : Building α} {result : Except Failure α}
    {findings : α → Findings} (h : Follows uri walk result findings) :
    Follows uri (do Building.ofResult check; walk) (do check; result) findings :=
  (ofResult check).bind (fun _ => h) fun _ _ _ _ => rfl

private theorem checkingAll {check : α → Except Failure Unit} {items : List α} {walk : Building β}
    {result : Except Failure β} {findings : β → Findings} (h : Follows uri walk result findings) :
    Follows uri (do items.forM fun a => Building.ofResult (check a); walk)
      (do items.forM check; result) findings := by
  induction items with
  | nil => exact h
  | cons a items ih =>
      rw [List.forM, List.forM, bind_assoc, bind_assoc]
      exact checking ih

theorem mapM {walk : α → Building SuiteUnit} {result : α → Except Failure SuiteUnit}
    {items : List α} (h : ∀ a, Follows uri (walk a) (result a) Findings.ofUnit) :
    Follows uri (items.mapM walk) (items.mapM result) Findings.ofUnits := by
  induction items with
  | nil => exact pure rfl
  | cons a items ih =>
      rw [List.mapM_cons, List.mapM_cons]
      have hrest (unit : SuiteUnit) : Follows uri
          (do let units ← items.mapM walk; return unit :: units)
          (do let units ← items.mapM result; return unit :: units)
          fun units => Findings.ofUnits units.tail := ih.map fun _ _ => rfl
      refine (h a).bind hrest fun unit units _ hunits => ?_
      obtain ⟨rest, _, hunits⟩ := bind_eq_ok.mp hunits
      cases hunits
      rfl

end Follows

variable {planner : Planner}

private theorem follows_occurrences (tags : List String) (row : Option String)
    (previous : Option Role) (steps : List Step) :
    Follows planner.uri (occurrences planner tags row previous steps)
      (planner.occurrences tags row previous steps) fun found => ⟨[], found⟩ := by
  induction steps generalizing previous with
  | nil => exact .pure rfl
  | cons step steps ih =>
      have hrest (occurrence : Occurrence) : Follows planner.uri
          (do modify (·.note planner.uri occurrence)
              return occurrence :: (← occurrences planner tags row (some occurrence.role) steps))
          (do return occurrence :: (← planner.occurrences tags row (some occurrence.role) steps))
          fun found => ⟨[], found⟩ := by
        have hfound : Follows planner.uri
            (do return occurrence :: (← occurrences planner tags row (some occurrence.role) steps))
            (do return occurrence :: (← planner.occurrences tags row (some occurrence.role) steps))
            fun found => ⟨[], found.tail⟩ := (ih (some occurrence.role)).map fun _ _ => rfl
        refine Follows.changing _ (FeatureFile.note_eq occurrence) hfound fun found hfound => ?_
        obtain ⟨rest, _, hfound⟩ := bind_eq_ok.mp hfound
        cases hfound
        rfl
      exact (Follows.ofResult _).bind hrest fun _ _ _ _ => rfl

private theorem follows_body (steps : List Step) (tags : List String) (row : Option String) :
    Follows planner.uri (body planner steps tags row) (planner.body steps tags row)
      fun body => ⟨[], body.occurrences⟩ := by
  refine (follows_occurrences tags row none steps).bind (fun found =>
    Follows.finishing _ _) fun found made _ hmade => ?_
  obtain ⟨⟨lines, fixtures⟩, _, hmade⟩ := bind_eq_ok.mp hmade
  cases hmade
  exact Findings.append_empty _

/-- A unit in place follows the unit that is planned. -/
abbrev FollowsUnit (planner : Planner) (walk : Building SuiteUnit)
    (result : Except Failure SuiteUnit) : Prop :=
  Follows planner.uri walk result Findings.ofUnit

private theorem follows_background (around : List Ancestor) (given : Background) :
    FollowsUnit planner (background planner around given) (planner.background around given) :=
  (follows_body given.steps _ none).map fun _ _ => rfl

private theorem follows_entered (key : String) (tags : List String) (steps : List Step)
    (row : Option String) {make : Body → SuiteUnit}
    (hmake : ∀ body, Findings.ofUnit (make body) = ⟨[(key, tags)], body.occurrences⟩) :
    FollowsUnit planner
      (do modify (·.enterTags key tags); let body ← body planner steps tags row; return make body)
      (do let body ← planner.body steps tags row; return make body) := by
  have hoccurrences (body : Body) : (make body).occurrences = body.occurrences :=
    congrArg Findings.occurrences (hmake body)
  have hbody : Follows planner.uri
      (do let body ← body planner steps tags row; return make body)
      (do let body ← planner.body steps tags row; return make body)
      fun unit => ⟨[], unit.occurrences⟩ :=
    (follows_body steps tags row).map fun body _ => by rw [hoccurrences]
  refine Follows.changing _ (FeatureFile.enterTags_eq key tags) hbody fun unit hunit => ?_
  obtain ⟨made, _, hunit⟩ := bind_eq_ok.mp hunit
  cases hunit
  rw [hmake, hoccurrences]
  rfl

private theorem follows_test (around : List Ancestor) (given : Scenario) :
    FollowsUnit planner (test planner around given) (planner.test around given) :=
  Follows.checking (follows_entered _ _ given.steps none fun _ => rfl)

private theorem follows_row (around : List Ancestor) (given : Scenario) (entry : ExampleRow) :
    FollowsUnit planner (row planner around given entry) (planner.row around given entry) :=
  follows_entered _ _ given.steps (some entry.row.id) fun _ => rfl

private theorem follows_outline (around : List Ancestor) (given : Scenario) :
    FollowsUnit planner (outline planner around given) (planner.outline around given) :=
  Follows.checking (Follows.checkingAll
    ((Follows.mapM (follows_row (around ++ [Planner.scenarioAncestor given]) given)).map
      fun _ _ => rfl))

private theorem follows_scenario (around : List Ancestor) (given : Scenario) :
    FollowsUnit planner (scenario planner around given) (planner.scenario around given) := by
  unfold scenario Planner.scenario
  split
  · exact follows_outline around given
  · exact follows_test around given

private theorem follows_part (around : List Ancestor) (inRule : Bool)
    (background? : Option Background) (scenario? : Option Scenario) :
    FollowsUnit planner (part planner around inRule background? scenario?)
      (planner.part around inRule background? scenario?) := by
  cases background? with
  | some given => exact follows_background around given
  | none =>
      cases scenario? with
      | some given => exact follows_scenario around given
      | none => exact fun file => ⟨{}, by rw [file.gather_empty]; rfl, nofun⟩

private theorem follows_rulePart (around : List Ancestor) (child : RuleChild) :
    FollowsUnit planner (rulePart planner around child) (planner.rulePart around child) :=
  follows_part around true child.background child.scenario

private theorem follows_rule (around : List Ancestor) (given : Rule) :
    FollowsUnit planner (rule planner around given) (planner.rule around given) :=
  Follows.checking ((Follows.mapM (follows_rulePart _)).map fun _ _ => rfl)

private theorem follows_featurePart (around : List Ancestor) (child : FeatureChild) :
    FollowsUnit planner (featurePart planner around child) (planner.featurePart around child) := by
  unfold featurePart Planner.featurePart
  cases child.rule with
  | some given => exact follows_rule around given
  | none => exact follows_part around false child.background child.scenario

/-- The walk over a feature in place comes to its plan. -/
theorem follows_feature (given : Feature) :
    FollowsUnit planner (feature planner given) (planner.feature given) :=
  Follows.checking ((Follows.mapM (follows_featurePart _)).map fun _ _ => rfl)

end Building

/-! ## Calls -/

namespace FeatureFile

variable {file other built : FeatureFile}

/-- Two files are made from the same. -/
structure SameSource (file other : FeatureFile) : Prop where
  document : other.document = file.document
  pickles : other.pickles = file.pickles
  registry : other.registry = file.registry
  settings : other.settings = file.settings
  outputPath : other.outputPath = file.outputPath

theorem SameSource.build_eq (h : SameSource file other) : other.build = file.build := by
  obtain ⟨document, pickles, registry, settings, outputPath, _, _, _, _, _⟩ := file
  obtain ⟨_, _, _, _, _, _, _, _, _, _⟩ := other
  obtain ⟨rfl, rfl, rfl, rfl, rfl⟩ := h
  rfl

private theorem sameSource_of_build (h : file.build = .ok built) : SameSource file built := by
  obtain ⟨⟨keywords, uri, root⟩, _, h⟩ := bind_eq_ok.mp h
  cases h
  exact ⟨rfl, rfl, rfl, rfl, rfl⟩

/-- What a call leaves behind: the module if it is built, and else the lines as they were. -/
structure Leaves (file after : FeatureFile) : Prop where
  sameSource : SameSource file after
  built : ∀ built, file.build = .ok built → after = built
  lines : ∀ failure, file.build = .error failure → after.lines = file.lines

/-- The file once its plan is found. -/
def planned (file : FeatureFile) (keywords : KeywordTable) (uri : String) (root : SuiteUnit) :
    FeatureFile :=
  { file with
    keywords := some keywords
    tags := fileTags root.taggedTests
    runnerModules := distinct (root.occurrences.filterMap (·.runner?))
    undefined := undefinedSteps uri root.occurrences }

/-- The file with the text of its plan. -/
def completed (file : FeatureFile) (keywords : KeywordTable) (uri : String) (root : SuiteUnit) :
    FeatureFile :=
  let planned := file.planned keywords uri root
  { planned with
    lines := Layout.header uri (imports planned.settings planned.runnerModules) ++
      root.lines ++ "" :: Layout.tagsFixture planned.tags.entries }

private theorem gather_reset (file : FeatureFile) (keywords : KeywordTable) (uri : String)
    (root : SuiteUnit) :
    ({ file.reset with keywords := some keywords } : FeatureFile).gather uri (.ofUnit root) =
      file.planned keywords uri root := by
  rw [Findings.ofUnit, gather, foldl_addRunner (by exact List.nodup_nil)]
  rfl

private theorem run_build_of_error {after : FeatureFile} {failure : Failure}
    (hplan : file.plan = .error failure) (hrun : file.buildInPlace = (.error failure, after))
    (hsource : SameSource file after) (hlines : after.lines = file.lines) :
    ∃ after, file.buildInPlace = (file.build.map fun _ => (), after) ∧ Leaves file after := by
  have hbuild : file.build = .error failure := by
    rw [build, hplan]
    rfl
  refine ⟨after, ?_, hsource, fun _ hbuilt => (nomatch hbuild.symm.trans hbuilt), fun _ _ => hlines⟩
  rw [hrun, hbuild]
  rfl

private theorem run_build_of_ok {keywords : KeywordTable} {uri : String} {root : SuiteUnit}
    (hplan : file.plan = .ok (keywords, uri, root))
    (hrun : file.buildInPlace = (.ok (), file.completed keywords uri root)) :
    ∃ after, file.buildInPlace = (file.build.map fun _ => (), after) ∧ Leaves file after := by
  have hbuild : file.build = .ok (file.completed keywords uri root) := by
    rw [build, hplan]
    rfl
  refine ⟨file.completed keywords uri root, ?_, sameSource_of_build hbuild, ?_, ?_⟩
  · rw [hrun, hbuild]
    rfl
  · exact fun built hbuilt => Except.ok.inj (hbuild.symm.trans hbuilt)
  · exact fun failure hfailure => (nomatch hbuild.symm.trans hfailure)

@[simp] private theorem run_get :
    (get : Building FeatureFile).run.run file = (.ok file, file) := rfl

private theorem run_build_of_none (hnone : file.document.feature = none) : ∃ after,
    file.buildInPlace = (file.build.map fun _ => (), after) ∧ Leaves file after := by
  have hplan : file.plan =
      (documentResult file.sourceFile >>= fun uri => .error (.document (.noFeature uri))) := by
    rw [plan, hnone]
    rfl
  have hrun : file.buildInPlace = (Building.ofResult (documentResult file.sourceFile) >>= fun uri =>
      (throw (.document (.noFeature uri)) : Building Unit)).run.run file := by
    rw [buildInPlace, Building.build, run_bind_ok run_get, hnone]
  cases huri : documentResult file.sourceFile with
  | error failure =>
      rw [huri] at hplan
      exact run_build_of_error hplan (hrun.trans (Building.run_ofResult_error huri))
        ⟨rfl, rfl, rfl, rfl, rfl⟩ rfl
  | ok uri =>
      rw [huri] at hplan
      exact run_build_of_error hplan (hrun.trans (Building.run_ofResult_ok huri))
        ⟨rfl, rfl, rfl, rfl, rfl⟩ rfl

private theorem run_build_of_feature {given : Feature}
    (hfeature : file.document.feature = some given) :
    ∃ after, file.buildInPlace = (file.build.map fun _ => (), after) ∧ Leaves file after := by
  have hplan : file.plan = (do
      let keywords ← documentResult (KeywordTable.find file.language)
      let uri ← documentResult file.sourceFile
      let root ← (file.planner keywords uri).feature given
      return (keywords, uri, root)) := by
    rw [plan, hfeature]
    rfl
  have hrun : file.buildInPlace = (do
      let keywords ← Building.ofResult (documentResult (KeywordTable.find file.language))
      modify fun file => { file.reset with keywords := some keywords }
      let uri ← Building.ofResult (documentResult file.sourceFile)
      let root ← Building.feature (file.planner keywords uri) given
      modify fun file =>
        { file with
          lines := Layout.header uri (imports file.settings file.runnerModules) ++
            root.lines ++ "" :: Layout.tagsFixture file.tags.entries } : Building Unit).run.run
      file := by
    rw [buildInPlace, Building.build, run_bind_ok run_get, hfeature]
    rfl
  cases hkeywords : documentResult (KeywordTable.find file.language) with
  | error failure =>
      rw [hkeywords] at hplan
      exact run_build_of_error hplan (hrun.trans (Building.run_ofResult_error hkeywords))
        ⟨rfl, rfl, rfl, rfl, rfl⟩ rfl
  | ok keywords =>
      rw [hkeywords] at hplan
      rw [Building.run_ofResult_ok hkeywords, Building.run_modify_bind] at hrun
      cases huri : documentResult file.sourceFile with
      | error failure =>
          rw [huri] at hplan
          exact run_build_of_error hplan (hrun.trans (Building.run_ofResult_error huri))
            ⟨rfl, rfl, rfl, rfl, rfl⟩ rfl
      | ok uri =>
          replace hplan : file.plan = ((file.planner keywords uri).feature given >>= fun root =>
              .ok (keywords, uri, root)) := by
            rw [hplan, huri]
            rfl
          rw [Building.run_ofResult_ok huri] at hrun
          have hfollows : Building.FollowsUnit (file.planner keywords uri) _ _ :=
            Building.follows_feature given
          obtain ⟨found, hwalk, hfound⟩ := hfollows { file.reset with keywords := some keywords }
          cases hroot : (file.planner keywords uri).feature given with
          | error failure =>
              rw [hroot] at hplan hwalk
              exact run_build_of_error hplan (hrun.trans (run_bind_error hwalk))
                ⟨rfl, rfl, rfl, rfl, rfl⟩ rfl
          | ok root =>
              have hgather := file.gather_reset keywords uri root
              rw [← hfound root hroot] at hgather
              rw [hroot] at hplan
              replace hwalk := hwalk.trans (congrArg₂ Prod.mk hroot hgather)
              exact run_build_of_ok hplan (hrun.trans (run_bind_ok hwalk))

/-- A call comes to what is built without a file. -/
theorem run_build (file : FeatureFile) : ∃ after,
    file.buildInPlace = (file.build.map fun _ => (), after) ∧ Leaves file after := by
  cases hfeature : file.document.feature with
  | none => exact run_build_of_none hfeature
  | some given => exact run_build_of_feature hfeature

theorem buildTimes_succ (calls : Nat) (file : FeatureFile) :
    file.buildTimes (calls + 1) = file.buildInPlace :: file.buildInPlace.2.buildTimes calls := rfl

/-- A file that can be built is built by every call, and is the same behind each of them. -/
theorem buildTimes_of_ok (calls : Nat) (h : file.build = .ok built) :
    file.buildTimes calls = List.replicate calls (.ok (), built) := by
  induction calls generalizing file with
  | zero => rfl
  | succ calls ih =>
      obtain ⟨after, hrun, hleaves⟩ := run_build file
      obtain rfl := hleaves.built built h
      rw [buildTimes_succ, hrun, ih (hleaves.sameSource.build_eq.trans h), h]
      rfl

/-- A file that cannot be built fails at every call in the same way, and has the lines it had. -/
theorem buildTimes_of_error {failure : Failure} (calls : Nat) (h : file.build = .error failure) :
    ∀ call ∈ file.buildTimes calls, call.1 = .error failure ∧ call.2.lines = file.lines := by
  induction calls generalizing file with
  | zero => exact List.forall_mem_nil _
  | succ calls ih =>
      obtain ⟨after, hrun, hleaves⟩ := run_build file
      have hlines := hleaves.lines failure h
      rw [buildTimes_succ, hrun, h, ← hlines]
      exact List.forall_mem_cons.mpr ⟨⟨rfl, rfl⟩, ih (hleaves.sameSource.build_eq.trans h)⟩

@[simp] private theorem length_buildTimes (calls : Nat) (file : FeatureFile) :
    (file.buildTimes calls).length = calls := by
  induction calls generalizing file with
  | zero => rfl
  | succ calls ih => rw [buildTimes_succ, List.length_cons, ih]

/-- Whatever a file is made from, its first call comes to what is built without a file, and the
later ones come to the same: to the same file in every part if it succeeds, and else to the same
failure, with no lines. -/
theorem buildTimes_agree (document : Document) (pickles : List Pickle) (registry : Registry)
    (settings : Settings) (outputPath : Option Path) (calls : Nat) :
    ∃ first later,
      ({ document, pickles, registry, settings, outputPath } : FeatureFile).buildTimes (calls + 1) =
        first :: later ∧
      later.length = calls ∧
      ({ document, pickles, registry, settings, outputPath } : FeatureFile).build =
        first.1.map (fun _ => first.2) ∧
      (first.1 = .ok () → ∀ call ∈ later, call = first) ∧
      (∀ failure, first.1 = .error failure → first.2.lines = [] ∧
        ∀ call ∈ later, call.1 = .error failure ∧ call.2.lines = []) := by
  set file : FeatureFile := { document, pickles, registry, settings, outputPath }
  refine ⟨_, _, buildTimes_succ calls file, length_buildTimes calls _, ?_⟩
  obtain ⟨after, hrun, hleaves⟩ := run_build file
  rw [hrun]
  cases hbuild : file.build with
  | error failure =>
      have hlines : after.lines = [] := hleaves.lines failure hbuild
      refine ⟨rfl, nofun, fun other hother => ⟨hlines, ?_⟩⟩
      cases hother
      rw [← hlines]
      exact buildTimes_of_error calls (hleaves.sameSource.build_eq.trans hbuild)
  | ok built =>
      obtain rfl := hleaves.built built hbuild
      refine ⟨rfl, fun _ call hcall => ?_, nofun⟩
      rw [buildTimes_of_ok calls (hleaves.sameSource.build_eq.trans hbuild)] at hcall
      exact List.eq_of_mem_replicate hcall

/-- A test, and behind it one that asks for what cannot be a parameter. -/
def brokenText : String :=
  "Feature: F\n Scenario: A\n  Given a cat\n @fixture:a-b\n Scenario: B\n  Given a user\n"

/-- Steps without a handler are noted once, and what a call that breaks off has noted does not make
the next one go on. -/
theorem buildTimes_of_broken :
    (∃ loaded first, parseDocument strayText "f.feature" = .ok loaded ∧
      ({ loaded with registry := shop } : FeatureFile).buildTimes 3 = [first, first, first] ∧
        first.1 = .ok () ∧ first.2.undefined.length = 3) ∧
      ∃ loaded failure, parseDocument brokenText "f.feature" = .ok loaded ∧
        (({ loaded with registry := shop } : FeatureFile).buildTimes 3).length = 3 ∧
        ∀ call ∈ ({ loaded with registry := shop } : FeatureFile).buildTimes 3,
          call.1 = .error failure ∧ call.2.lines = [] := by
  obtain ⟨hstray, hbroken⟩ :
      (parseDocument strayText "f.feature").toOption.any (fun loaded =>
        let file : FeatureFile := { loaded with registry := shop }
        file.build.toOption.any (·.undefined.length == 3)) = true ∧
      (parseDocument brokenText "f.feature").toOption.any (fun loaded =>
        let file : FeatureFile := { loaded with registry := shop }
        (fault? file.build).isSome) = true := by
    decide +kernel
  obtain ⟨stray, hstray, hbuilds⟩ := exists_ok_of_any hstray
  obtain ⟨built, hbuilt, hcount⟩ := exists_ok_of_any hbuilds
  obtain ⟨broken, hbroken, hfails⟩ := exists_ok_of_any hbroken
  obtain ⟨failure, hfailure⟩ := Option.isSome_iff_exists.mp hfails
  refine ⟨?_, broken, failure, hbroken, length_buildTimes 3 _, ?_⟩
  · obtain ⟨first, later, htimes, hlength, hfirst, hlater, _⟩ :=
      buildTimes_agree stray.document stray.pickles shop {} none 2
    obtain ⟨file, hok, rfl⟩ := map_eq_ok.mp (hfirst.symm.trans hbuilt)
    have hlater : later = [first, first] :=
      List.eq_replicate_iff.mpr ⟨hlength, hlater hok⟩
    refine ⟨stray, first, hstray, ?_, hok, beq_iff_eq.mp hcount⟩
    rw [htimes, hlater]
  · obtain ⟨first, later, htimes, _, hfirst, _, hlater⟩ :=
      buildTimes_agree broken.document broken.pickles shop {} none 2
    have herror := map_eq_error.mp (hfirst.symm.trans (fault?_eq_some.mp hfailure))
    obtain ⟨hlines, hlater⟩ := hlater failure herror
    rw [htimes]
    exact List.forall_mem_cons.mpr ⟨⟨herror, hlines⟩, hlater⟩

end FeatureFile

end FeatureSuite

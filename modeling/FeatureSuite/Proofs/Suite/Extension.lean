import FeatureSuite.Proofs.Aligned
import FeatureSuite.Proofs.Step.Registration
import FeatureSuite.Proofs.Suite.Build

/-!
# Handlers behind the others

A step is run by the first handler that accepts it. So a module in which every step has a handler
stays as it is, whatever handlers are registered behind those it was built with: nothing on the way
from the steps to the lines, the imports and the tags looks at any other handler.
-/

namespace FeatureSuite

open Gherkin (Background Feature FeatureChild Rule RuleChild Scenario Step)
open Relation (ReflTransGen)

/-! ## Registries -/

namespace Registry

def extend (registry : Registry) (more : List Binding) : Registry :=
  { registry with bindings := registry.bindings ++ more }

variable {text : String} {role : Option Role} {tags : List String} {found : StepMatch}

private theorem findIn_append {numbered : List (Binding × Nat)} (more : List (Binding × Nat))
    (h : findIn text role tags numbered = .ok (some found)) :
    findIn text role tags (numbered ++ more) = .ok (some found) := by
  induction numbered with
  | nil => cases h
  | cons entry numbered ih =>
      obtain ⟨binding, index⟩ := entry
      rw [findIn] at h
      rw [List.cons_append, findIn]
      by_cases haccepts : (binding.acceptsRole role && binding.acceptsTags tags) = true
      · rw [if_pos haccepts] at h ⊢
        obtain ⟨captured, hcaptured, h⟩ := bind_eq_ok.mp h
        refine bind_eq_ok.mpr ⟨captured, hcaptured, ?_⟩
        cases captured with
        | some captured => exact h
        | none => exact ih h
      · rw [if_neg haccepts] at h ⊢
        exact ih h

private theorem find_extend {registry : Registry} (more : List Binding)
    (h : registry.find text role tags = .ok (some found)) :
    (registry.extend more).find text role tags = .ok (some found) := by
  unfold find at h ⊢
  rw [extend, List.zipIdx_append]
  exact findIn_append _ h

end Registry

/-! ## Plans -/

/-- Every step of a unit has a handler. -/
def SuiteUnit.Handled (unit : SuiteUnit) : Prop :=
  ∀ occurrence ∈ unit.occurrences, occurrence.found.isSome

theorem SuiteUnit.Handled.of_mem {title : String} {line : Int} {flags : Flags}
    {units : List SuiteUnit} (h : (suite title line flags units).Handled) {unit : SuiteUnit}
    (hmem : unit ∈ units) : unit.Handled := by
  intro occurrence hoccurrence
  refine h occurrence ?_
  rw [occurrences, occurrencesOfAll_eq_flatMap]
  exact List.mem_flatMap.mpr ⟨unit, hmem, hoccurrence⟩

namespace Planner

def extend (planner : Planner) (more : List Binding) : Planner :=
  { planner with registry := planner.registry.extend more }

variable {planner : Planner} (more : List Binding) {around : List Ancestor} {unit : SuiteUnit}

private theorem occurrence_extend {tags : List String} {row : Option String}
    {previous : Option Role} {step : Step} {occurrence : Occurrence}
    (h : planner.occurrence tags row previous step = .ok occurrence)
    (hfound : occurrence.found.isSome) :
    (planner.extend more).occurrence tags row previous step = .ok occurrence := by
  unfold Planner.occurrence at h ⊢
  have hpickles : (planner.extend more).pickleStep? step row = planner.pickleStep? step row := rfl
  rw [hpickles]
  cases hpickle : planner.pickleStep? step row with
  | none =>
      rw [hpickle] at h
      cases h
  | some pickleStep =>
      rw [hpickle] at h
      obtain ⟨role, hrole, h⟩ := bind_eq_ok.mp h
      obtain ⟨keyword, hkeyword, h⟩ := bind_eq_ok.mp h
      obtain ⟨found, hfind, h⟩ := bind_eq_ok.mp h
      cases h
      obtain ⟨accepted, rfl⟩ := Option.isSome_iff_exists.mp hfound
      rw [conversionResult_eq_ok] at hfind
      have hfind' := Registry.find_extend more hfind
      refine bind_eq_ok.mpr ⟨role, hrole, bind_eq_ok.mpr ⟨keyword, hkeyword, ?_⟩⟩
      exact bind_eq_ok.mpr ⟨_, conversionResult_eq_ok.mpr hfind', rfl⟩

private theorem occurrences_extend {tags : List String} {row : Option String}
    {previous : Option Role} {steps : List Step} {occurrences : List Occurrence}
    (h : planner.occurrences tags row previous steps = .ok occurrences)
    (hfound : ∀ occurrence ∈ occurrences, occurrence.found.isSome) :
    (planner.extend more).occurrences tags row previous steps = .ok occurrences := by
  induction steps generalizing previous occurrences with
  | nil => exact h
  | cons step steps ih =>
      obtain ⟨occurrence, hstep, h⟩ := bind_eq_ok.mp h
      obtain ⟨rest, hrest, h⟩ := bind_eq_ok.mp h
      cases h
      obtain ⟨hfirst, hothers⟩ := List.forall_mem_cons.mp hfound
      refine bind_eq_ok.mpr ⟨occurrence, occurrence_extend more hstep hfirst, ?_⟩
      exact bind_eq_ok.mpr ⟨rest, ih hrest hothers, rfl⟩

/-- The steps are resolved as before, and holes are filled from the same page objects. -/
theorem body_extend {steps : List Step} {tags : List String} {row : Option String} {body : Body}
    (h : planner.body steps tags row = .ok body)
    (hfound : ∀ occurrence ∈ body.occurrences, occurrence.found.isSome) :
    (planner.extend more).body steps tags row = .ok body := by
  obtain ⟨occurrences, hoccurrences, h⟩ := bind_eq_ok.mp h
  obtain ⟨⟨lines, fixtures⟩, hfill, h⟩ := bind_eq_ok.mp h
  cases h
  refine bind_eq_ok.mpr ⟨occurrences, occurrences_extend more hoccurrences hfound, ?_⟩
  exact bind_eq_ok.mpr ⟨(lines, fixtures), hfill, rfl⟩

private theorem mapM_extend {α : Type} {make make' : α → Except Failure SuiteUnit}
    {items : List α} {units : List SuiteUnit} (h : items.mapM make = .ok units)
    (hitem : ∀ item unit, unit ∈ units → make item = .ok unit → make' item = .ok unit) :
    items.mapM make' = .ok units := by
  rw [mapM_eq_ok] at h ⊢
  refine (forall₂_mem h).imp fun item unit hunit => ?_
  obtain ⟨_, hmem, hmade⟩ := hunit
  exact hitem item unit hmem hmade

private theorem background_extend {background : Background}
    (h : planner.background around background = .ok unit) (hunit : unit.Handled) :
    (planner.extend more).background around background = .ok unit := by
  obtain ⟨body, hbody, h⟩ := bind_eq_ok.mp h
  cases h
  exact bind_eq_ok.mpr ⟨body, body_extend more hbody hunit, rfl⟩

private theorem test_extend {scenario : Scenario} (h : planner.test around scenario = .ok unit)
    (hunit : unit.Handled) : (planner.extend more).test around scenario = .ok unit := by
  obtain ⟨_, htags, h⟩ := bind_eq_ok.mp h
  obtain ⟨body, hbody, h⟩ := bind_eq_ok.mp h
  cases h
  refine bind_eq_ok.mpr ⟨_, htags, ?_⟩
  exact bind_eq_ok.mpr ⟨body, body_extend more hbody hunit, rfl⟩

private theorem row_extend {outline : Scenario} {entry : ExampleRow}
    (h : planner.row around outline entry = .ok unit) (hunit : unit.Handled) :
    (planner.extend more).row around outline entry = .ok unit := by
  obtain ⟨body, hbody, h⟩ := bind_eq_ok.mp h
  cases h
  exact bind_eq_ok.mpr ⟨body, body_extend more hbody hunit, rfl⟩

private theorem outline_extend {outline : Scenario} (h : planner.outline around outline = .ok unit)
    (hunit : unit.Handled) : (planner.extend more).outline around outline = .ok unit := by
  obtain ⟨_, htags, h⟩ := bind_eq_ok.mp h
  obtain ⟨_, hblocks, h⟩ := bind_eq_ok.mp h
  obtain ⟨units, hunits, h⟩ := bind_eq_ok.mp h
  cases h
  refine bind_eq_ok.mpr ⟨_, htags, bind_eq_ok.mpr ⟨_, hblocks, bind_eq_ok.mpr ⟨units, ?_, rfl⟩⟩⟩
  exact mapM_extend hunits fun entry unit hmem hrow => row_extend more hrow (hunit.of_mem hmem)

private theorem part_extend {inRule : Bool} {background : Option Background}
    {scenario : Option Scenario} (h : planner.part around inRule background scenario = .ok unit)
    (hunit : unit.Handled) :
    (planner.extend more).part around inRule background scenario = .ok unit := by
  cases background with
  | some background => exact background_extend more h hunit
  | none =>
      cases scenario with
      | none => cases h
      | some scenario =>
          change planner.scenario around scenario = .ok unit at h
          change (planner.extend more).scenario around scenario = .ok unit
          unfold Planner.scenario at h ⊢
          split at h
          · rw [if_pos ‹_›]
            exact outline_extend more h hunit
          · rw [if_neg ‹_›]
            exact test_extend more h hunit

private theorem rule_extend {rule : Rule} (h : planner.rule around rule = .ok unit)
    (hunit : unit.Handled) : (planner.extend more).rule around rule = .ok unit := by
  obtain ⟨_, htags, h⟩ := bind_eq_ok.mp h
  obtain ⟨units, hunits, h⟩ := bind_eq_ok.mp h
  cases h
  refine bind_eq_ok.mpr ⟨_, htags, bind_eq_ok.mpr ⟨units, ?_, rfl⟩⟩
  exact mapM_extend hunits fun child unit hmem hpart => part_extend more hpart (hunit.of_mem hmem)

private theorem featurePart_extend {child : FeatureChild}
    (h : planner.featurePart around child = .ok unit) (hunit : unit.Handled) :
    (planner.extend more).featurePart around child = .ok unit := by
  unfold featurePart at h ⊢
  cases hrule : child.rule with
  | some rule =>
      rw [hrule] at h
      exact rule_extend more h hunit
  | none =>
      rw [hrule] at h
      exact part_extend more h hunit

private theorem feature_extend {feature : Feature} (h : planner.feature feature = .ok unit)
    (hunit : unit.Handled) : (planner.extend more).feature feature = .ok unit := by
  obtain ⟨_, htags, h⟩ := bind_eq_ok.mp h
  obtain ⟨units, hunits, h⟩ := bind_eq_ok.mp h
  cases h
  refine bind_eq_ok.mpr ⟨_, htags, bind_eq_ok.mpr ⟨units, ?_, rfl⟩⟩
  exact mapM_extend hunits fun child unit hmem hpart =>
    featurePart_extend more hpart (hunit.of_mem hmem)

end Planner

/-! ## Modules -/

namespace FeatureFile

variable {file built : FeatureFile}

private theorem plan_extend {keywords : KeywordTable} {uri : String} {root : SuiteUnit}
    (more : List Binding) (h : file.plan = .ok (keywords, uri, root)) (hroot : root.Handled) :
    ({ file with registry := file.registry.extend more } : FeatureFile).plan =
      .ok (keywords, uri, root) := by
  unfold plan at h ⊢
  dsimp only
  cases hfeature : file.document.feature with
  | none =>
      rw [hfeature] at h
      obtain ⟨_, _, h⟩ := bind_eq_ok.mp h
      cases h
  | some feature =>
      rw [hfeature] at h
      obtain ⟨words, hwords, h⟩ := bind_eq_ok.mp h
      obtain ⟨name, hname, h⟩ := bind_eq_ok.mp h
      obtain ⟨suite, hsuite, h⟩ := bind_eq_ok.mp h
      cases h
      refine bind_eq_ok.mpr ⟨keywords, hwords, bind_eq_ok.mpr ⟨uri, hname, ?_⟩⟩
      exact bind_eq_ok.mpr ⟨root, Planner.feature_extend more hsuite hroot, rfl⟩

private theorem handled_of_undefinedSteps {uri : String} {root : SuiteUnit}
    (h : undefinedSteps uri root.occurrences = []) : root.Handled := by
  intro occurrence hmem
  have hnone := List.filter_eq_nil_iff.mp (List.map_eq_nil_iff.mp h) occurrence hmem
  simpa [Option.isSome_iff_ne_none] using hnone

private theorem build_extend (more : List Binding) (hbuild : file.build = .ok built)
    (hundefined : built.undefined = []) :
    ({ file with registry := file.registry.extend more } : FeatureFile).build =
      .ok { built with registry := file.registry.extend more } := by
  obtain ⟨⟨keywords, uri, root⟩, hplan, h⟩ := bind_eq_ok.mp hbuild
  cases h
  have hroot : root.Handled := handled_of_undefinedSteps hundefined
  exact bind_eq_ok.mpr ⟨(keywords, uri, root), plan_extend more hplan hroot, rfl⟩

end FeatureFile

/-! ## Registration -/

def Store.Adds (store after : Store) : Prop :=
  ∃ scope role pattern handler tags, store.add scope role pattern handler tags none = .ok after

private theorem Store.registry_of_adds {store after : Store}
    (h : ReflTransGen Store.Adds store after) :
    ∃ more, after.build.1 = store.build.1.extend more := by
  induction h with
  | refl => exact ⟨[], by simp [build, Registry.extend]⟩
  | tail _ hadds ih =>
      obtain ⟨more, hmore⟩ := ih
      obtain ⟨scope, role, pattern, handler, tags, hadds⟩ := hadds
      obtain ⟨_, binding, _, rfl⟩ := add_eq_ok hadds
      refine ⟨more ++ [binding], ?_⟩
      simp only [build, Registry.extend, Registry.mk.injEq] at hmore ⊢
      rw [hmore.1, List.append_assoc]
      exact ⟨rfl, hmore.2⟩

/-- A file that is built without undefined steps is built to the same module if any handlers are
registered behind the others first. -/
theorem FeatureFile.build_of_adds {store after : Store} {file built : FeatureFile}
    (hadds : ReflTransGen Store.Adds store after) (hregistry : file.registry = store.build.1)
    (hbuild : file.build = .ok built) (hundefined : built.undefined = []) :
    ({ file with registry := after.build.1 } : FeatureFile).build =
      .ok { built with registry := after.build.1 } := by
  obtain ⟨more, hmore⟩ := Store.registry_of_adds hadds
  rw [hmore, ← hregistry]
  exact build_extend more hbuild hundefined

/-- A handler with a fixture, and a page object with a step. -/
def stall : Store :=
  let user : Handler := { signature := some [{ name := "users", kind := .keywordOnly }] }
  let cart : PageClass :=
    { number := 0, name := "Cart", order := [0]
      methods := [{ name := "buy", marks := [{ role := .action, pattern := .template "I buy" }] }] }
  let store := (Store.add {} {} .context (.template "a user") user none none).toOption.getD {}
  (store.addPage {} cart "cart" none).1

/-- A handler of any step, with a fixture and a runner module of its own. -/
def addGreedy (store : Store) : Except RegistrationFault Store :=
  store.add { runner := some "late" } .unknown (.template "\x7btext\x7d")
    { signature := some [{ name := "page", kind := .keywordOnly }] } none none

/-- A tagged test with a step of each. -/
def stallText : String := "Feature: F\n @x\n Scenario: S\n  Given a user\n  When I buy\n"

theorem FeatureFile.build_of_adds_of_greedy :
    ∃ after file built, addGreedy stall = .ok after ∧ after.bindings.length = 3 ∧
      load stallText "f.feature" stall.build.1 = .ok file ∧
      file.build = .ok built ∧ built.undefined = [] ∧
      ({ file with registry := after.build.1 } : FeatureFile).build =
        .ok { built with registry := after.build.1 } := by
  have hgreedy : (addGreedy stall).toOption.any (fun after =>
      decide (after.bindings.length = 3)) = true := by
    decide +kernel
  obtain ⟨after, hadd, hlength⟩ := exists_ok_of_any hgreedy
  have hcompile : (compile stallText "f.feature" stall.build.1).toOption.any
      (fun (_, built, _) => decide (built.undefined = [])) = true := by
    decide +kernel
  obtain ⟨⟨file, built, root⟩, hcompile, hundefined⟩ := exists_ok_of_any hcompile
  obtain ⟨hload, hbuild, _⟩ := compile_eq_ok hcompile
  have hregistry : file.registry = stall.build.1 := by
    obtain ⟨loaded, _, h⟩ := bind_eq_ok.mp hload
    cases h
    rfl
  have hadds : ReflTransGen Store.Adds stall after := .single ⟨_, _, _, _, _, hadd⟩
  exact ⟨after, file, built, hadd, of_decide_eq_true hlength, hload, hbuild,
    of_decide_eq_true hundefined,
    build_of_adds hadds hregistry hbuild (of_decide_eq_true hundefined)⟩

end FeatureSuite

import FeatureSuite.Command.Run
import FeatureSuite.Proofs.Console.Tagged

/-!
# Listed handlers

The list of handlers has a row for each of them, in the order of registration. The texts of a row
are read as markup: handlers whose patterns, fixtures and locations have none are listed with these
texts as they are, and the command ends well. A text with at most one colon is listed as it is only
then.
-/

namespace FeatureSuite

/-! ## Steps of a run -/

namespace Run

private theorem run_printLines (lines : List String) (progress : Progress) :
    (printLines lines).run.run progress =
      (.ok (), { progress with printed := lines.reverse ++ progress.printed }) := rfl

private theorem run_printMarkup {width : Nat} {text shown : String}
    (h : Markup.plainText text = .ok shown) (progress : Progress) :
    (printMarkup width text).run.run progress =
      (printLines (Wrapping.wrap width .fold .ragged shown)).run.run progress := by
  have hshown : (Run.shown (Markup.plainText text)).run.run progress = (.ok shown, progress) := by
    rw [h]
    rfl
  exact run_bind_ok hshown

end Run

/-! ## The number of handlers -/

namespace Markup

private theorem plainText_count (n : Nat) :
    plainText s!"[bold]{n}[/bold] step definitions" = .ok s!"{n} step definitions" := by
  have hline : s!"[bold]{n}[/bold] step definitions" = String.ofList
      (tagged [] "bold".toList n.repr.toList " step definitions".toList) := by
    simp [← String.toList_inj, tagged, toString]
  have hshown : s!"{n} step definitions" = String.ofList
      ([] ++ n.repr.toList ++ " step definitions".toList) := by
    simp [← String.toList_inj, toString]
  rw [hline, hshown]
  exact plainText_tagged_of_verbatim (by decide) rfl (by simp)
    (isVerbatim_of_isPlain isPlain_of_mem_repr) (getLast?_ne_of_isPlain isPlain_of_mem_repr)
    (by decide)

end Markup

/-! ## Rows -/

namespace Registry

/-- The fixture of the page object that a handler is a method of; empty if there is none. -/
def fixtureOf (registry : Registry) (binding : Binding) : String :=
  ((binding.page.bind fun page => registry.pages.nodes[page]?).map (·.fixture)).getD ""

/-- The texts that the row of a handler shows, behind its role. -/
def rowTexts (registry : Registry) (binding : Binding) : List String :=
  [binding.pattern.text, registry.fixtureOf binding, binding.handler.location]

end Registry

namespace Command

open Markup (plainText isVerbatim)

/-- The list of handlers with all texts as they are. -/
def verbatimTable (registry : Registry) : Table where
  title := "Step Definitions"
  columns :=
    [{ header := "Role", cells := registry.bindings.map (·.role.label) },
      { header := "Pattern", cells := registry.bindings.map (·.pattern.text) },
      { header := "Fixture", cells := registry.bindings.map registry.fixtureOf },
      { header := "Location", cells := registry.bindings.map (·.handler.location) }]
  rows := registry.bindings.length

theorem ofMarkup_eq_self_iff {header : String} {cells : List String}
    {alignment : Wrapping.Justification} :
    Column.ofMarkup header cells alignment = .ok { header, cells, alignment } ↔
      ∀ cell ∈ cells, plainText cell = .ok cell := by
  have hcells : Column.ofMarkup header cells alignment = .ok { header, cells, alignment } ↔
      cells.mapM plainText = .ok cells := by
    constructor
    · intro h
      obtain ⟨shown, hshown, h⟩ := bind_eq_ok.mp h
      cases pure_eq_ok.mp h
      exact hshown
    · intro h
      rw [Column.ofMarkup, h]
      rfl
  rw [hcells, mapM_eq_ok, List.forall₂_same]

private theorem bindingTable_eq_verbatimTable_iff (registry : Registry) :
    bindingTable registry = .ok (verbatimTable registry) ↔
      ∀ binding ∈ registry.bindings, ∀ text ∈ registry.rowTexts binding,
        plainText text = .ok text := by
  have hrole (role : Role) : plainText role.label = .ok role.label := by
    cases role <;> exact Markup.plainText_of_isVerbatim (by decide)
  have hcolumns : bindingTable registry = .ok (verbatimTable registry) ↔
      List.Forall₂ (fun (column : String × (Binding → String)) shown =>
          Column.ofMarkup column.1 (registry.bindings.map column.2) .left = .ok shown)
        [("Role", fun b : Binding => b.role.label), ("Pattern", fun b => b.pattern.text),
          ("Fixture", registry.fixtureOf), ("Location", fun b => b.handler.location)]
        (verbatimTable registry).columns := by
    rw [← mapM_eq_ok]
    constructor
    · intro h
      obtain ⟨columns, hcolumns, h⟩ := bind_eq_ok.mp h
      cases pure_eq_ok.mp h
      exact hcolumns
    · intro h
      exact bind_eq_ok.mpr ⟨_, h, rfl⟩
  rw [hcolumns, verbatimTable]
  simp only [List.forall₂_cons, List.forall₂_nil_left_iff, and_true, ofMarkup_eq_self_iff,
    List.forall_mem_map, Registry.rowTexts, List.forall_mem_cons]
  constructor
  · rintro ⟨-, hpattern, hfixture, hlocation⟩ binding hb
    exact ⟨hpattern binding hb, hfixture binding hb, hlocation binding hb, by simp⟩
  · intro h
    exact ⟨fun binding _ => hrole binding.role, fun binding hb => (h binding hb).1,
      fun binding hb => (h binding hb).2.1, fun binding hb => (h binding hb).2.2.1⟩

/-! ## Runs -/

/-- What comes of a command that lists handlers. -/
def listing (around : Surroundings) (registry : Registry) : Outcome :=
  match bindingTable registry with
  | .ok table =>
      { ending := .exit 0
        printed := table.lines around.width ++
          Wrapping.wrap around.width .fold .ragged
            s!"{registry.bindings.length} step definitions"
        tree := around.tree }
  | .error fault => { ending := .failed (.markup fault), printed := [], tree := around.tree }

variable {around : Surroundings} {choices : Settings.Choices} {settings : Settings}
  {session : Session} {arguments : List String}

private theorem run_list (hsettings : (around.settings choices).run.run { tree := around.tree } =
      (.ok settings, { tree := around.tree }))
    (hload : StepModule.load around.modules {} [] settings.steps = .ok session) :
    (list around choices).run.run { tree := around.tree } =
      match bindingTable session.store.build.1 with
      | .ok table =>
          (.ok (), { tree := around.tree, printed := (table.lines around.width ++
            Wrapping.wrap around.width .fold .ragged
              s!"{session.store.build.1.bindings.length} step definitions").reverse })
      | .error fault => (.error (.failed (.markup fault)), { tree := around.tree }) := by
  have hregistry : (around.registry settings.steps).run.run { tree := around.tree } =
      (.ok session.store.build.1, { tree := around.tree }) := by
    rw [Surroundings.registry, hload]
    rfl
  rw [list, run_bind_ok hsettings, run_bind_ok hregistry]
  cases bindingTable session.store.build.1 with
  | error fault => rfl
  | ok table =>
      have htable (lines : List String) (progress : Progress) (rest : Run Unit) :
          (Run.printLines lines >>= fun _ => rest).run.run progress =
            rest.run.run { progress with printed := lines.reverse ++ progress.printed } :=
        run_bind_ok (Run.run_printLines lines progress)
      have hshown : (Run.shown (.ok table)).run.run { tree := around.tree } =
          (.ok table, { tree := around.tree }) := rfl
      rw [run_bind_ok hshown, Run.printTable, htable,
        Run.run_printMarkup (Markup.plainText_count _), Run.run_printLines]
      simp

private theorem runCommand_list (hread : Arguments.read arguments = .ok (.list choices))
    (hsettings : (around.settings choices).run.run { tree := around.tree } =
      (.ok settings, { tree := around.tree }))
    (hload : StepModule.load around.modules {} [] settings.steps = .ok session) :
    runCommand around arguments = listing around session.store.build.1 := by
  have hrun : (perform around (.list choices)).run.run { tree := around.tree } = _ :=
    run_list hsettings hload
  rw [runCommand, hread]
  dsimp only
  rw [hrun, listing]
  cases bindingTable session.store.build.1 <;> simp

/-- The command lists handlers and ends well unless a text of a row closes a tag that is not open.
Rows whose texts have no markup show them as they are, and if no text has two colons only these do.
-/
theorem runCommand_list_verbatim (hread : Arguments.read arguments = .ok (.list choices))
    (hsettings : (around.settings choices).run.run { tree := around.tree } =
      (.ok settings, { tree := around.tree }))
    (hload : StepModule.load around.modules {} [] settings.steps = .ok session) :
    let registry := session.store.build.1
    let texts := registry.bindings.flatMap registry.rowTexts
    runCommand around arguments = listing around registry ∧
      ((∀ text ∈ texts, isVerbatim text.toList = true) →
        bindingTable registry = .ok (verbatimTable registry)) ∧
      ((∀ text ∈ texts, text.toList.count ':' ≤ 1) →
        bindingTable registry = .ok (verbatimTable registry) →
          ∀ text ∈ texts, isVerbatim text.toList = true) := by
  intro registry texts
  have htexts (holds : String → Prop) : (∀ text ∈ texts, holds text) ↔
      ∀ binding ∈ registry.bindings, ∀ text ∈ registry.rowTexts binding, holds text := by
    simp only [texts, List.forall_mem_flatMap]
  have htable : bindingTable registry = .ok (verbatimTable registry) ↔
      ∀ text ∈ texts, plainText text = .ok text := by
    rw [bindingTable_eq_verbatimTable_iff, htexts]
  refine ⟨runCommand_list hread hsettings hload, fun hverbatim => ?_, fun hcount h text ht => ?_⟩
  · exact htable.mpr fun text ht => Markup.plainText_of_isVerbatim (hverbatim text ht)
  · exact (Markup.plainText_eq_self_iff (hcount text ht)).mp (htable.mp h text ht)

/-- A module with brackets in a regular expression and in a method of a page object. -/
def orderSteps : List Operation :=
  [.add "" .action (.regex "I order [0-9]+ (?:apples|pears)" {}) { location := "steps.py:3" } none,
    .definePage ""
      { name := "Cart", bases := []
        methods := [{ name := "pay", handler := { location := "steps.py:9" }
                      marks := [{ role := .outcome, pattern := .template "I pay [{sum:d}]" }] }] }
      "cart" none]

def orderSurroundings : Surroundings where
  tree := .empty
  directory := { parts := [] }
  modules := [("steps", .script orderSteps)]

theorem runCommand_list_orders : ∃ session,
    StepModule.load orderSurroundings.modules {} [] ["steps"] = .ok session ∧
      session.store.build.1.bindings.length = 2 ∧
      runCommand orderSurroundings ["export", "--steps", "steps"] =
        listing orderSurroundings session.store.build.1 ∧
      bindingTable session.store.build.1 = .ok (verbatimTable session.store.build.1) := by
  obtain ⟨session, hload, hshown⟩ := exists_ok_of_any
    (x := StepModule.load orderSurroundings.modules {} [] ["steps"])
    (p := fun session =>
      let registry := session.store.build.1
      registry.bindings.length = 2 &&
        (registry.bindings.flatMap registry.rowTexts).all fun text => isVerbatim text.toList)
    (by decide +kernel)
  obtain ⟨hlength, hverbatim⟩ := (Bool.and_eq_true _ _).mp hshown
  obtain ⟨hrun, htable, _⟩ := runCommand_list_verbatim
    (show Arguments.read ["export", "--steps", "steps"] = .ok (.list { steps := ["steps"] }) by
      decide +kernel)
    (show (orderSurroundings.settings { steps := ["steps"] }).run.run _ = (.ok { steps := ["steps"] }, _)
      from rfl) hload
  exact ⟨session, hload, of_decide_eq_true hlength, hrun, htable (List.all_eq_true.mp hverbatim)⟩

/-- A module with a regular expression that has letters in brackets. -/
def letterSteps : List Operation :=
  [.add "" .action (.regex "I add [a-z]+ items" {}) {} none]

/-- A module with a template that ends with a slash in brackets. -/
def slashSteps : List Operation := [.add "" .action (.template "I add items[/s]") {} none]

/-- Letters in brackets are left out, and a slash in brackets ends the command. -/
theorem exists_pattern_lost :
    ((StepModule.load [("steps", .script letterSteps)] {} [] ["steps"]).toOption.any fun session =>
        (bindingTable session.store.build.1).toOption.any fun table =>
          (table.columns.map (·.cells)) == [["action"], ["I add + items"], [""], [""]]) = true ∧
      (runCommand { orderSurroundings with modules := [("steps", .script slashSteps)] }
        ["export", "--steps", "steps"]).ending =
          .failed (.markup (.notOpen "/s" 11)) := by
  decide +kernel

end Command

end FeatureSuite

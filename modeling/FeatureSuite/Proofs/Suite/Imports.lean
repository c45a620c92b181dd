import FeatureSuite.Proofs.Suite.Undefined

/-!
# Modules that are imported

Modules are read line by line for the modules that they import everything of. These are the one of
the settings and those that the handlers of the steps are called through, each once and in the order
in which the steps first lead to them.
-/

namespace FeatureSuite

/-! ## Reading imports -/

/-- The module that a line imports everything of. -/
def importOf? (line : String) : Option String := do
  let rest ← Text.afterStart? "from ".toList line.toList
  let name ← Text.afterStart? " import *  # noqa: F401,F403".toList.reverse rest.reverse
  return String.ofList name.reverse

def readImports (lines : List String) : List String := lines.filterMap importOf?

private theorem importOf?_import (name : String) :
    importOf? ("from " ++ name ++ " import *  # noqa: F401,F403") = some name := by
  rw [importOf?, String.append_assoc, String.toList_append, Text.afterStart?_append,
    Option.bind_eq_bind, Option.bind_some, String.toList_append, List.reverse_append,
    Text.afterStart?_append, Option.bind_some, List.reverse_reverse, String.ofList_toList]
  rfl

theorem importOf?_of_head {line : String} (h : line.toList.head? ≠ some 'f') :
    importOf? line = none := by
  unfold importOf?
  cases hline : line.toList with
  | nil => rfl
  | cons c cs =>
      have hne : 'f' ≠ c := fun hc => h (by rw [hline, ← hc]; rfl)
      have hnone : Text.afterStart? "from ".toList (c :: cs) = none := if_neg hne
      rw [hnone]
      rfl

theorem importOf?_of_start {start : String} {c : Char} (h : start.toList.head? = some c)
    (hne : c ≠ 'f') (rest : String) : importOf? (start ++ rest) = none := by
  refine importOf?_of_head ?_
  rw [String.toList_append, List.head?_append, h]
  exact fun heq => hne (Option.some.inj heq)

theorem readImports_eq_nil {lines : List String}
    (h : ∀ line ∈ lines, importOf? line = none) : readImports lines = [] :=
  List.filterMap_eq_nil_iff.mpr h

@[simp] private theorem readImports_append (lines more : List String) :
    readImports (lines ++ more) = readImports lines ++ readImports more :=
  List.filterMap_append

private theorem readImports_imports (names : List String) :
    readImports (names.map fun name => "from " ++ name ++ " import *  # noqa: F401,F403") =
      names := by
  rw [readImports, List.filterMap_map, Function.comp_def, funext importOf?_import,
    List.filterMap_some]

namespace Layout

private theorem readImports_header (uri : String) (imports : List String) :
    readImports (header uri imports) = imports := by
  have hfront : readImports ["# Generated from: " ++ uri,
      "# Do not edit, regenerate with \x60featuregen gen\x60.", "import pytest"] = [] :=
    readImports_eq_nil (List.forall_mem_cons.mpr
      ⟨importOf?_of_start rfl (by decide) uri, by decide⟩)
  have himports : readImports (if imports.isEmpty then [] else
      "" :: imports.map fun name => "from " ++ name ++ " import *  # noqa: F401,F403") =
        imports := by
    split
    · rename_i hempty
      exact (List.isEmpty_iff.mp hempty).symm
    · exact (readImports_append [""] _).trans (readImports_imports imports)
  have hblanks : readImports ["", ""] = [] := by decide
  rw [header, readImports_append, readImports_append, hblanks, List.append_nil]
  exact congrArg₂ _ hfront himports

private theorem readImports_tagsFixture (entries : List (String × List String)) :
    readImports ("" :: tagsFixture entries) = [] := by
  obtain ⟨table, heq, htable⟩ := tagsFixture_eq entries
  rw [heq]
  refine readImports_eq_nil (List.forall_mem_cons.mpr ⟨by decide, ?_⟩)
  refine List.forall_mem_append.mpr ⟨fun line hline => importOf?_of_head fun hhead => ?_, by decide⟩
  have hne := (htable line hline).head_ne (c := 'f') (by decide)
  rw [Row.ofLine_of_head (by rw [hhead]; decide)] at hne
  exact hne hhead

private theorem readImports_unit {decorators inner : List String} {head : String}
    (hdecorators : ∀ line ∈ decorators, line.toList.head? = some '@')
    (hhead : importOf? head = none) :
    readImports (decorators ++ head :: indent inner ++ [""]) = [] := by
  have hindent : ∀ line ∈ indent inner, importOf? line = none := by
    intro line hline
    obtain ⟨given, _, rfl⟩ := List.mem_map.mp hline
    split
    · decide
    · exact importOf?_of_start rfl (by decide) given
  refine readImports_eq_nil (List.forall_mem_append.mpr ⟨List.forall_mem_append.mpr ⟨?_,
    List.forall_mem_cons.mpr ⟨hhead, hindent⟩⟩, by decide⟩)
  intro line hline
  refine importOf?_of_head ?_
  rw [hdecorators line hline]
  decide

private theorem importOf?_methodLine (name : String) (parameters : List String) :
    importOf? (methodLine name parameters) = none := by
  obtain ⟨rest, hline⟩ := methodLine_eq name parameters
  rw [hline]
  exact importOf?_of_start rfl (by decide) _

end Layout

private theorem SuiteUnit.readImports_lines (unit : SuiteUnit) : readImports unit.lines = [] := by
  cases unit with
  | hook line body =>
      have hdecorators : ∀ line ∈ ["@pytest.fixture(autouse=True)"],
          line.toList.head? = some '@' := by simp
      exact Layout.readImports_unit hdecorators (Layout.importOf?_methodLine _ _)
  | test title line flags key tags body =>
      exact Layout.readImports_unit Layout.head_markers (Layout.importOf?_methodLine _ _)
  | suite title line flags units =>
      refine Layout.readImports_unit Layout.head_markers ?_
      rw [Layout.classLine_eq]
      exact importOf?_of_start rfl (by decide) _

/-! ## Handlers of steps -/

/-- The module that a handler is called through. -/
def Binding.runner? (binding : Binding) : Option String := binding.runner.filter (· ≠ "")

namespace Registry

/-- The first handler in the order of registration that takes a step. -/
def handler? (registry : Registry) (tags : List String) (use : StepUse) : Option Binding :=
  registry.bindings.find? (·.accepts use.pickleStep.text use.role tags)

/-- The modules that the handlers of the steps of a test with some tags are called through. -/
def runners (registry : Registry) (tags : List String) (uses : List StepUse) : List String :=
  uses.filterMap fun use => (registry.handler? tags use).bind (·.runner?)

private theorem mem_runners {registry : Registry} {tags : List String} {uses : List StepUse}
    {name : String} : name ∈ registry.runners tags uses ↔ name ≠ "" ∧ ∃ use ∈ uses, ∃ binding,
      registry.handler? tags use = some binding ∧ binding.runner = some name := by
  rw [runners, List.mem_filterMap]
  constructor
  · rintro ⟨use, huse, hrunner⟩
    obtain ⟨binding, hbinding, hrunner⟩ := Option.bind_eq_some_iff.mp hrunner
    obtain ⟨hrunner, hname⟩ := Option.filter_eq_some_iff.mp hrunner
    exact ⟨of_decide_eq_true hname, use, huse, binding, hbinding, hrunner⟩
  · rintro ⟨hname, use, huse, binding, hbinding, hrunner⟩
    refine ⟨use, huse, Option.bind_eq_some_iff.mpr ⟨binding, hbinding, ?_⟩⟩
    exact Option.filter_eq_some_iff.mpr ⟨hrunner, decide_eq_true hname⟩

end Registry

private theorem Planner.Realizes.runners_eq {planner : Planner} {site : Site} {placed : Placed}
    (h : planner.Realizes site placed) :
    placed.unit.body.occurrences.filterMap (·.runner?) =
      planner.registry.runners site.tags (placed.unit.body.occurrences.map Occurrence.use) := by
  rw [Registry.runners, List.filterMap_map]
  refine List.filterMap_congr fun occurrence hmem => ?_
  have hresolves := (composes_of_body h.body_eq).resolves
  obtain ⟨step, _, hstep⟩ := exists_of_mem_right hresolves hmem
  have hhandler : planner.registry.handler? site.tags occurrence.use =
      occurrence.found.map (·.binding) := (Registry.binding_find hstep.found_eq).symm
  rw [Function.comp_apply, hhandler, Option.bind_map]
  cases hfound : occurrence.found <;> simp [Occurrence.runner?, Binding.runner?, hfound]

/-! ## Modules -/

namespace FeatureFile

variable {file built : FeatureFile}

private theorem runnerModules_of_build (h : file.build = .ok built) :
    ∃ keywords uri root, file.plan = .ok (keywords, uri, root) ∧
      built.runnerModules = distinct (root.occurrences.filterMap (·.runner?)) := by
  obtain ⟨⟨keywords, uri, root⟩, hplan, h⟩ := bind_eq_ok.mp h
  cases h
  exact ⟨keywords, uri, root, hplan, rfl⟩

private theorem readImports_of_build (h : file.build = .ok built) :
    readImports built.lines = imports file.settings built.runnerModules ∧
      ∃ uri, file.sourceFile = .ok uri ∧
        Layout.header uri (readImports built.lines) <+: built.lines := by
  obtain ⟨_, uri, root, _, hsource, _, hlines⟩ := text_of_build h
  have hread : readImports built.lines = imports file.settings built.runnerModules := by
    rw [hlines, readImports_append, readImports_append, Layout.readImports_header,
      root.readImports_lines, Layout.readImports_tagsFixture, List.append_nil, List.append_nil]
  refine ⟨hread, uri, hsource, ?_⟩
  rw [hread, hlines, List.append_assoc]
  exact List.prefix_append _ _

/-- The modules that the settings and the steps lead to, as often as they do. -/
def leads (file : FeatureFile) (uses : List (Site × List StepUse)) : List String :=
  (file.settings.importFixturesFrom.filter (· ≠ "")).toList ++
    uses.flatMap fun (site, uses) => file.registry.runners site.tags uses

private theorem mem_leads {uses : List (Site × List StepUse)} {name : String} :
    name ∈ file.leads uses ↔ name ≠ "" ∧ (file.settings.importFixturesFrom = some name ∨
      ∃ entry ∈ uses, ∃ use ∈ entry.2, ∃ binding,
        file.registry.handler? entry.1.tags use = some binding ∧ binding.runner = some name) := by
  have hsettings : name ∈ (file.settings.importFixturesFrom.filter (· ≠ "")).toList ↔
      name ≠ "" ∧ file.settings.importFixturesFrom = some name := by
    simp [Option.filter_eq_some_iff, and_comm]
  have hsteps : (name ∈ uses.flatMap fun (site, uses) => file.registry.runners site.tags uses) ↔
      name ≠ "" ∧ ∃ entry ∈ uses, ∃ use ∈ entry.2, ∃ binding,
        file.registry.handler? entry.1.tags use = some binding ∧ binding.runner = some name := by
    simp only [List.mem_flatMap, Registry.mem_runners]
    exact ⟨fun ⟨entry, hentry, hname, hled⟩ => ⟨hname, entry, hentry, hled⟩,
      fun ⟨hname, entry, hentry, hled⟩ => ⟨entry, hentry, hname, hled⟩⟩
  rw [leads, List.mem_append, hsettings, hsteps, and_or_left]

/-- A module imports, in the lines in front of the suites and nowhere else, the module of the
settings and those that the first handlers for the steps are called through, once each and in the
order in which the steps, as they are run in the order of the document, first lead to them. The
lines are those that are generated: a line feed in the name of the document does not end the line
with this name. -/
theorem imports_of_build (h : file.build = .ok built) :
    ∃ keywords uri, ∃ uses : List (Site × List StepUse),
      KeywordTable.find file.language = .ok keywords ∧ file.sourceFile = .ok uri ∧
      uses.map Prod.fst = file.sites ∧
      (∀ entry ∈ uses, (file.planner keywords uri).Uses entry.1.origin.row? none
        entry.1.origin.steps entry.2) ∧
      Layout.header uri (readImports built.lines) <+: built.lines ∧
      (readImports built.lines).Nodup ∧
      (readImports built.lines).Pairwise (fun name later =>
        (file.leads uses).idxOf name < (file.leads uses).idxOf later) ∧
      ∀ name, name ∈ readImports built.lines ↔
        name ≠ "" ∧ (file.settings.importFixturesFrom = some name ∨
          ∃ entry ∈ uses, ∃ use ∈ entry.2, ∃ binding,
            file.registry.handler? entry.1.tags use = some binding ∧
              binding.runner = some name) := by
  obtain ⟨hread, uri, hsource, hheader⟩ := readImports_of_build h
  obtain ⟨keywords, name, root, hplan, hmodules⟩ := runnerModules_of_build h
  obtain rfl : uri = name := Except.ok.inj (hsource.symm.trans (source_of_plan hplan))
  obtain ⟨pairs, hsites, hoccurrences, hpairs⟩ := exists_realized hplan
  let uses := pairs.map fun (site, placed) =>
    (site, placed.unit.body.occurrences.map Occurrence.use)
  have hrunners : root.occurrences.filterMap (·.runner?) =
      uses.flatMap fun (site, uses) => file.registry.runners site.tags uses := by
    rw [hoccurrences, List.filterMap_flatMap, List.flatMap_map]
    exact List.flatMap_congr fun pair hpair => (hpairs pair hpair).runners_eq
  rw [imports, hmodules, distinct_append_distinct, hrunners, ← leads] at hread
  refine ⟨keywords, uri, uses, words_of_plan hplan, hsource, ?_, ?_, hheader, ?_⟩
  · rw [← hsites, List.map_map]
    rfl
  · exact List.forall_mem_map.mpr fun pair hpair => (hpairs pair hpair).uses
  · rw [hread]
    exact ⟨nodup_distinct _, pairwise_idxOf_distinct _, fun name => mem_distinct.trans mem_leads⟩

/-- Handlers that are called through keywords of their own: one for a page object, and one that no
step is for. -/
def keyworded : Registry :=
  let cart : PageClass :=
    { number := 0, name := "Cart", order := [0]
      methods := [{ name := "buy", marks := [{ role := .action, pattern := .template "I buy" }] }] }
  let add (store : Store) (runner text : String) : Store :=
    let scope : Scope := { runner := some runner }
    (store.add scope .context (.template text) {} none none).toOption.getD {}
  let store := add (add {} "app.users" "a user") "app.guests" "a guest"
  (store.addPage { runner := some "app.pages" } cart "cart" none).1.build.1

/-- The step of the page object comes first, and again behind the other one. -/
def keywordedText : String :=
  "Feature: F\n  @fixture:cart\n  Scenario: S\n    When I buy\n    Given a user\n    When I buy\n"

theorem imports_of_keyworded :
    ∃ loaded file built, load keywordedText "f.feature" keyworded = .ok loaded ∧
      file = { loaded with settings := { importFixturesFrom := some "app.fixtures" } } ∧
      file.build = .ok built ∧
      readImports built.lines = ["app.fixtures", "app.pages", "app.users"] ∧
      ∃ uses : List (Site × List StepUse), uses.map Prod.fst = file.sites ∧
        ∃ entry ∈ uses, ∃ use ∈ entry.2, ∃ binding,
          file.registry.handler? entry.1.tags use = some binding ∧
            binding.runner = some "app.pages" := by
  have hcheck : (load keywordedText "f.feature" keyworded).toOption.any (fun loaded =>
      let file : FeatureFile :=
        { loaded with settings := { importFixturesFrom := some "app.fixtures" } }
      file.build.toOption.any fun built =>
        decide (built.runnerModules = ["app.pages", "app.users"])) = true := by
    decide +kernel
  obtain ⟨loaded, hload, hcheck⟩ := exists_ok_of_any hcheck
  obtain ⟨built, hbuild, hrunners⟩ := exists_ok_of_any hcheck
  have hread : readImports built.lines = ["app.fixtures", "app.pages", "app.users"] := by
    rw [(readImports_of_build hbuild).1, of_decide_eq_true hrunners]
    rfl
  obtain ⟨_, _, uses, _, _, hsites, _, _, _, _, hmem⟩ := imports_of_build hbuild
  have hpages : "app.pages" ∈ readImports built.lines := by
    rw [hread]
    decide
  -- The settings name another module, so a step has led to this one.
  obtain ⟨_, hsettings | hsteps⟩ := (hmem "app.pages").mp hpages
  · exact absurd (Option.some.inj hsettings) (by decide)
  · exact ⟨loaded, _, built, hload, rfl, hbuild, hread, uses, hsites, hsteps⟩

end FeatureFile

end FeatureSuite

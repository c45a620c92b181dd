import FeatureSuite.Proofs.Suite.Expression
import FeatureSuite.Suite.Layout

/-!
# Written calls and tables

The lines for steps, titles and tags of a generated module are read after the rules of its language.
They give back what they were written for, on one line each, whatever texts they hold.
-/

namespace FeatureSuite

namespace Expression

open Literal

/-! ## Data of steps -/

private theorem names_ofFields_sublist (fields : List (String × Option Json)) :
    ((fields.filterMap fun (name, value) => value.map (name, ·)).map (·.1)).Sublist
      (fields.map (·.1)) := by
  induction fields with
  | nil => exact .slnil
  | cons field fields ih =>
      obtain ⟨name, value⟩ := field
      cases value with
      | none => exact ih.cons name
      | some value => exact ih.cons_cons name

theorem isPlain_ofFields {depth : Nat} {fields : List (String × Option Json)}
    (hnames : (fields.map (·.1)).Nodup)
    (h : ∀ field ∈ fields, ∀ value ∈ field.2, Literal.IsPlain depth value) :
    Literal.IsPlain (depth + 1) (Json.ofFields fields) := by
  refine .table (hnames.sublist (names_ofFields_sublist fields)) fun field hfield => ?_
  obtain ⟨⟨name, value⟩, hmem, hvalue⟩ := List.mem_filterMap.mp hfield
  obtain ⟨value, rfl, rfl⟩ := Option.map_eq_some_iff.mp hvalue
  exact h _ hmem value rfl

private theorem isPlain_docString {depth : Nat} (doc : Gherkin.PickleDocString) :
    Literal.IsPlain (depth + 1) doc.dump := by
  refine isPlain_ofFields (by simp) fun field hfield value hvalue => ?_
  simp only [List.mem_cons, List.not_mem_nil, or_false] at hfield
  rcases hfield with rfl | rfl
  · cases hvalue
    exact .text _
  · obtain ⟨text, _, rfl⟩ := Option.map_eq_some_iff.mp hvalue
    exact .text text

private theorem isPlain_table {depth : Nat} (table : Gherkin.PickleTable) :
    Literal.IsPlain (depth + 5) table.dump := by
  have hcell (cell : Gherkin.PickleTableCell) : Literal.IsPlain (depth + 1) cell.dump := by
    refine isPlain_ofFields (by simp) fun field hfield value hvalue => ?_
    rw [List.mem_singleton.mp hfield] at hvalue
    cases hvalue
    exact .text _
  have hrow (row : Gherkin.PickleTableRow) : Literal.IsPlain (depth + 3) row.dump := by
    refine isPlain_ofFields (by simp) fun field hfield value hvalue => ?_
    rw [List.mem_singleton.mp hfield] at hvalue
    cases hvalue
    refine .list fun item hitem => ?_
    obtain ⟨cell, _, rfl⟩ := List.mem_map.mp hitem
    exact hcell cell
  refine isPlain_ofFields (by simp) fun field hfield value hvalue => ?_
  rw [List.mem_singleton.mp hfield] at hvalue
  cases hvalue
  refine .list fun item hitem => ?_
  obtain ⟨row, _, rfl⟩ := List.mem_map.mp hitem
  exact hrow row

theorem isPlain_argument (argument : Gherkin.PickleStepArgument) :
    Literal.IsPlain (maxDepth - 1) argument.dump := by
  refine isPlain_ofFields (by simp) fun field hfield value hvalue => ?_
  simp only [List.mem_cons, List.not_mem_nil, or_false] at hfield
  rcases hfield with rfl | rfl
  · obtain ⟨doc, _, rfl⟩ := Option.map_eq_some_iff.mp hvalue
    exact isPlain_docString doc
  · obtain ⟨table, _, rfl⟩ := Option.map_eq_some_iff.mp hvalue
    exact isPlain_table table

end Expression

namespace Layout

open Expression Literal

@[simp] theorem isParameterName_label (keyword : Keyword) :
    Text.isParameterName keyword.label = true := by
  cases keyword <;> decide +kernel

theorem isParameterName_of_mem : ∀ name ∈ ["argument", "pytest", "fail", "mark", "bdd_title",
    "BDD_TAGS"], Text.isParameterName name = true := by
  decide +kernel

/-- The call that runs a step. -/
def stepCall (keyword text : String) (argument : Option Gherkin.PickleStepArgument)
    (fixtures : List String) : Call where
  callee := [keyword]
  positional := [.literal (.string text)]
  keywords := (argument.map fun argument => ("argument", .literal argument.dump)).toList ++
    fixtures.map fun name => (name, .name name)

theorem isPlain_stepCall {keyword : String} (hkeyword : Text.isParameterName keyword = true)
    (text : String) (argument : Option Gherkin.PickleStepArgument) {fixtures : List String}
    (hfixtures : ∀ name ∈ fixtures, Text.isParameterName name = true) :
    (stepCall keyword text argument fixtures).IsPlain where
  callee_ne_nil := List.cons_ne_nil _ _
  callee := List.forall_mem_singleton.mpr hkeyword
  positional := List.forall_mem_singleton.mpr (.literal (.text text))
  keywords entry hentry := by
    rcases List.mem_append.mp hentry with hentry | hentry
    · obtain ⟨given, _, rfl⟩ := Option.map_eq_some_iff.mp (Option.mem_toList.mp hentry)
      exact ⟨isParameterName_of_mem _ (by simp), .literal (isPlain_argument given)⟩
    · obtain ⟨name, hname, rfl⟩ := List.mem_map.mp hentry
      exact ⟨hfixtures name hname, .name (hfixtures name hname)⟩

private theorem names_stepCall (keyword text : String)
    (argument : Option Gherkin.PickleStepArgument) (fixtures : List String) :
    (stepCall keyword text argument fixtures).keywords.map (·.1) =
      (argument.map fun _ => "argument").toList ++ fixtures := by
  cases argument <;> simp [stepCall, Function.comp_def]

theorem nodup_stepCall {fixtures : List String} (h : fixtures.Nodup) (keyword text : String)
    (argument : Option Gherkin.PickleStepArgument) :
    ((stepCall keyword text argument fixtures).keywords.map (·.1)).Nodup ↔
      ¬ (argument.isSome = true ∧ "argument" ∈ fixtures) := by
  rw [names_stepCall]
  cases argument <;> simp [h]

theorem write_eq {call : Call} {arguments : List String}
    (h : arguments.map String.toList = call.arguments.map writeArgument) :
    call.write = ".".intercalate call.callee ++ "(" ++ ", ".intercalate arguments ++ ")" := by
  rw [← String.toList_inj]
  simp [Call.write, ← h]

theorem step_eq (keyword text : String) (argument : Option Gherkin.PickleStepArgument)
    (fixtures : List String) :
    step keyword text argument fixtures = (stepCall keyword text argument fixtures).write := by
  have hpassed : (fixtures.map fun name => s!"{name}={name}").map String.toList =
      fixtures.map fun name => writeArgument (some name, .name name) := by
    rw [List.map_map]
    refine List.map_congr_left fun name _ => ?_
    simp [writeArgument, Operand.write]
    rfl
  cases argument with
  | none =>
      have harguments : (Text.quote text :: fixtures.map fun name => s!"{name}={name}").map
          String.toList = (stepCall keyword text none fixtures).arguments.map writeArgument := by
        rw [List.map_cons, hpassed]
        simp [stepCall, Call.arguments]
        rfl
      rw [write_eq harguments]
      rfl
  | some argument =>
      have harguments : (Text.quote text :: s!"argument={argument.dump.render}" ::
          fixtures.map fun name => s!"{name}={name}").map String.toList =
            (stepCall keyword text (some argument) fixtures).arguments.map writeArgument := by
        rw [List.map_cons, List.map_cons, hpassed]
        simp [stepCall, Call.arguments, writeArgument, Operand.write]
        exact ⟨rfl, rfl⟩
      rw [write_eq harguments]
      rfl

/-- The call that gives a test its title. -/
def titleCall (title : String) : Call where
  callee := ["pytest", "mark", "bdd_title"]
  positional := [.literal (.string title)]

/-- The call that ends a test at a step without a handler. -/
def missingCall (keyword text : String) : Call where
  callee := ["pytest", "fail"]
  positional := [.literal (.string s!"Missing step: {keyword} {text}")]

private theorem isPlain_titleCall (title : String) : (titleCall title).IsPlain where
  callee_ne_nil := List.cons_ne_nil _ _
  callee name hname := isParameterName_of_mem name (by simp [titleCall] at hname ⊢; tauto)
  positional := List.forall_mem_singleton.mpr (.literal (.text title))
  keywords _ hentry := absurd hentry List.not_mem_nil

theorem isPlain_missingCall (keyword text : String) : (missingCall keyword text).IsPlain where
  callee_ne_nil := List.cons_ne_nil _ _
  callee name hname := isParameterName_of_mem name (by simp [missingCall] at hname ⊢; tauto)
  positional := List.forall_mem_singleton.mpr (.literal (.text _))
  keywords _ hentry := absurd hentry List.not_mem_nil

theorem missingStep_eq (keyword text : String) :
    missingStep keyword text = (missingCall keyword text).write := by
  rw [write_eq (rfl : [Text.quote s!"Missing step: {keyword} {text}"].map String.toList = _)]
  rfl

private theorem markers_eq (title : String) (flags : Flags) :
    (markers title flags).head? = some ("@" ++ (titleCall title).write) := by
  rw [write_eq (rfl : [Text.quote title].map String.toList = _)]
  rfl

/-! ## The table of tags -/

theorem isUnbroken_markers (title : String) (flags : Flags) :
    ∀ line ∈ markers title flags, IsUnbroken line.toList := by
  have hat : IsUnbroken "@".toList := by decide
  have hflags : ∀ line ∈ ["@pytest.mark.only", "@pytest.mark.skip",
      "@pytest.mark.skip(reason=\"fixme\")", "@pytest.mark.slow", "@pytest.mark.serial"],
      IsUnbroken line.toList := by decide +kernel
  have htitle := markers_eq title flags
  intro line hline
  rcases List.mem_cons.mp hline with rfl | hline
  · have hfirst := Option.some.inj htitle
    rw [hfirst, String.toList_append]
    exact hat.append (isPlain_titleCall title).isUnbroken
  · obtain ⟨⟨on, text⟩, hflag, hon⟩ := List.mem_filterMap.mp hline
    have hmem : Prod.snd (on, text) ∈ List.map Prod.snd _ := List.mem_map_of_mem hflag
    have hline : text = line := by
      cases on with
      | false => cases hon
      | true => exact Option.some.inj hon
    exact hflags line (hline ▸ hmem)

theorem isUnbroken_tagsFixture (entries : List (String × List String)) :
    ∀ line ∈ tagsFixture entries, IsUnbroken line.toList := by
  have hentry (key : String) (tags : List String) : IsUnbroken (indentation ++ Text.quote key ++
      ": [" ++ ", ".intercalate (tags.map Text.quote) ++ "],").toList := by
    have hindentation : IsUnbroken indentation.toList := by decide
    have hopen : IsUnbroken ": [".toList := by decide
    have hclose : IsUnbroken "],".toList := by decide
    have hcomma : IsUnbroken [',', ' '] := by decide
    have htags : IsUnbroken
        ([',', ' '].intercalate (tags.map fun tag => (Text.quote tag).toList)) :=
      hcomma.intercalate (List.forall_mem_map.mpr fun tag _ => isUnbroken_quote tag)
    simp only [String.toList_append, String.toList_intercalate, List.map_map]
    exact (((hindentation.append (isUnbroken_quote key)).append hopen).append htags).append hclose
  unfold tagsFixture
  refine List.forall_mem_append.mpr ⟨?_, by decide +kernel⟩
  dsimp only
  split
  · decide
  · refine List.forall_mem_append.mpr ⟨?_, by decide⟩
    refine List.forall_mem_cons.mpr ⟨by decide, fun line hline => ?_⟩
    obtain ⟨⟨key, tags⟩, _, rfl⟩ := List.mem_map.mp hline
    exact hentry key tags

end Layout

end FeatureSuite

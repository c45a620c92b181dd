import FeatureSuite.Proofs.Command.Listing

/-!
# Reports on batches

A report shows a table, the steps without a handler with snippets for them, and the faults of
documents, and ends with 1 if there are any of these. Its lines are read as markup: it breaks off at
the first text that cannot be shown. Where uris, steps and faults have no markup, every text is
shown as it is, and a step or a fault with at most one colon is shown as it is only then.
-/

namespace FeatureSuite

open Markup (plainText isVerbatim unmarked)

/-! ## Printed parts -/

namespace Run

/-- Lines that are printed together, or why they cannot be shown. -/
abbrev Part := Except Markup.Fault (List String)

/-- What comes of printing parts in front of an ending: nothing is printed behind the first part
that cannot be shown. -/
def tell (ending : Except Ending Unit) : List Part → Progress → Except Ending Unit × Progress
  | [], progress => (ending, progress)
  | .error fault :: _, progress => (.error (.failed (.markup fault)), progress)
  | .ok lines :: rest, progress =>
      tell ending rest { progress with printed := lines.reverse ++ progress.printed }

/-- A run prints parts, and does nothing else. -/
def Tells (run : Run Unit) (parts : List Part) : Prop :=
  ∀ progress, run.run.run progress = tell (.ok ()) parts progress

variable {ending : Except Ending Unit} {parts more : List Part} {progress after : Progress}

private theorem tell_append_of_ok (h : tell (.ok ()) parts progress = (.ok (), after)) :
    tell ending (parts ++ more) progress = tell ending more after := by
  induction parts generalizing progress with
  | nil =>
      cases h
      rfl
  | cons part parts ih =>
      cases part with
      | error fault => cases h
      | ok lines => exact ih h

private theorem tell_append_of_error {other : Ending}
    (h : tell (.ok ()) parts progress = (.error other, after)) :
    tell ending (parts ++ more) progress = (.error other, after) := by
  induction parts generalizing progress with
  | nil => cases h
  | cons part parts ih =>
      cases part with
      | error fault => exact h
      | ok lines => exact ih h

private theorem tell_ok (ending : Except Ending Unit) (parts : List (List String))
    (progress : Progress) :
    tell ending (parts.map .ok) progress =
      (ending, { progress with printed := parts.flatten.reverse ++ progress.printed }) := by
  induction parts generalizing progress with
  | nil => rfl
  | cons lines parts ih =>
      rw [List.map_cons, tell, ih, List.flatten_cons, List.reverse_append, List.append_assoc]

namespace Tells

variable {run : Run Unit}

private theorem run_bind {next : Unit → Run Unit} (h : Tells run parts)
    (hnext : ∀ progress, (next ()).run.run progress = tell ending more progress)
    (progress : Progress) :
    (run >>= next).run.run progress = tell ending (parts ++ more) progress := by
  have hrun := h progress
  rcases htell : tell (.ok ()) parts progress with ⟨result, after⟩
  rw [htell] at hrun
  cases result with
  | ok value => rw [run_bind_ok hrun, tell_append_of_ok htell, hnext]
  | error other => rw [run_bind_error hrun, tell_append_of_error htell]

theorem bind {next : Unit → Run Unit} (h : Tells run parts) (hnext : Tells (next ()) more) :
    Tells (run >>= next) (parts ++ more) := h.run_bind hnext

theorem nothing : Tells (pure ()) [] := fun _ => rfl

theorem loop {α : Type} {body : α → PUnit → Run (ForInStep PUnit)} {parts : α → List Part}
    {items : List α}
    (h : ∀ a ∈ items, ∃ print : Run Unit, Tells print (parts a) ∧
      body a PUnit.unit = do print; return ForInStep.yield PUnit.unit) :
    Tells (forIn items PUnit.unit body) (items.flatMap parts) := by
  induction items with
  | nil => exact nothing
  | cons a items ih =>
      obtain ⟨⟨print, hprint, hbody⟩, hitems⟩ := List.forall_mem_cons.mp h
      rw [List.forIn_cons, hbody, bind_assoc, List.flatMap_cons]
      exact hprint.bind (ih hitems)

end Tells

private theorem tells_printLines (lines : List String) : Tells (printLines lines) [.ok lines] :=
  fun _ => rfl

/-- The lines of a text with tags. -/
def marked (width : Nat) (text : String) : Part :=
  (plainText text).map (Wrapping.wrap width .fold .ragged)

private theorem tells_printMarkup (width : Nat) (text : String) :
    Tells (printMarkup width text) [marked width text] := by
  intro progress
  rw [marked, printMarkup]
  cases plainText text <;> rfl

end Run

/-! ## Texts without markup -/

/-- The place of a step without a handler, as its line begins. -/
def UndefinedStep.place (step : UndefinedStep) : String := s!"  {step.uri}:{step.line}  "

/-- Nothing that is told of a document is read as markup. -/
structure CompileResult.IsVerbatim (result : CompileResult) : Prop where
  uri : isVerbatim result.uri.toList = true
  outputPath : ∀ path ∈ result.outputPath, isVerbatim path.toList = true
  place : ∀ step ∈ result.undefined, isVerbatim step.place.toList = true
  text : ∀ step ∈ result.undefined, isVerbatim step.text.toList = true
  error : ∀ error ∈ result.failure?, isVerbatim s!" {result.uri}: {error}".toList = true

/-! ## Reports -/

namespace Command

open Run (Part Tells marked tell)

/-- The lines for a snippet, which is no markup. -/
def snippetParts (width : Nat) (snippet : String) : List Part :=
  [.ok (Wrapping.wrap width .fold .ragged (unmarked snippet)), .ok [""]]

/-- The lines for steps without a handler. -/
def undefinedParts (width : Nat) (undefined : List UndefinedStep) : List Part :=
  if undefined.isEmpty then []
  else
    let snippets := Snippet.buildAll (undefined.map fun step => (step.role, step.text))
    marked width s!"\n[bold red]Missing step definitions:[/bold red] {undefined.length}\n" ::
      undefined.map (fun step => marked width (undefinedLine step)) ++
      marked width "\n[bold]Use these snippets or adjust your step patterns:[/bold]\n" ::
      snippets.flatMap (snippetParts width)

/-- The lines of a report. -/
def reportParts (width : Nat) (results : List CompileResult) : List Part :=
  (resultTable results).map (·.lines width) ::
    undefinedParts width (results.flatMap (·.undefined)) ++
    results.flatMap fun result =>
      (result.failure?.map fun error => marked width (errorLine result.uri error)).toList

/-- How a report ends: with 1 if a document failed or has steps without a handler. -/
def verdict (results : List CompileResult) : Except Ending Unit :=
  if results.any fun result => result.failure?.isSome || !result.undefined.isEmpty then
    .error (.exit 1)
  else .ok ()

variable {width : Nat} {results : List CompileResult}

private theorem tells_printSnippets (width : Nat) (snippets : List String) :
    Tells (forIn snippets PUnit.unit fun snippet _ => do
        Run.printPlain width snippet
        Run.printLines [""]
        return ForInStep.yield PUnit.unit)
      (snippets.flatMap (snippetParts width)) := by
  refine Tells.loop fun snippet _ => ?_
  have hround : Tells (do Run.printPlain width snippet; Run.printLines [""])
      (snippetParts width snippet) := (Run.tells_printLines _).bind (Run.tells_printLines [""])
  exact ⟨_, hround, (bind_assoc ..).symm⟩

private theorem tells_printUndefined (width : Nat) (undefined : List UndefinedStep) :
    Tells (printUndefined width undefined) (undefinedParts width undefined) := by
  unfold printUndefined undefinedParts
  split
  · exact Tells.nothing
  rw [List.map_eq_flatMap (f := fun step => marked width (undefinedLine step))]
  refine (Run.tells_printMarkup width _).bind (Tells.bind (Tells.loop fun step _ => ?_)
    ((Run.tells_printMarkup width _).bind ?_))
  · exact ⟨_, Run.tells_printMarkup width (undefinedLine step), rfl⟩
  · have hsnippets := (tells_printSnippets width
      (Snippet.buildAll (undefined.map fun step => (step.role, step.text)))).bind Tells.nothing
    rwa [List.append_nil] at hsnippets

/-- The report prints its parts up to the first that cannot be shown. -/
theorem run_report (width : Nat) (results : List CompileResult) (progress : Progress) :
    (report width results).run.run progress =
      tell (verdict results) (reportParts width results) progress := by
  unfold report reportParts
  cases resultTable results with
  | error fault => rfl
  | ok table =>
      have hshown : (Run.shown (.ok table)).run.run progress = (.ok table, progress) := rfl
      rw [run_bind_ok hshown]
      refine (Run.tells_printLines _).run_bind (fun progress => ?_) progress
      refine (tells_printUndefined width _).run_bind (fun progress => ?_) progress
      rw [← List.append_nil (List.flatMap _ _)]
      refine (Tells.loop fun result _ => ?_).run_bind (fun progress => ?_) progress
      · cases result.failure? with
        | none => exact ⟨_, Tells.nothing, (pure_bind _ _).symm⟩
        | some error =>
            exact ⟨_, Run.tells_printMarkup width (errorLine result.uri error), rfl⟩
      · rw [verdict]
        split <;> rfl

/-! ## Lines that show their texts -/

/-- What the line for a step without a handler is to show. -/
def undefinedText (step : UndefinedStep) : String :=
  s!"  {step.uri}:{step.line}  {step.role.label}  {step.text}"

/-- What the line for a document that failed is to show. -/
def errorText (uri error : String) : String := s!"Error {uri}: {error}"

private theorem plainText_undefinedLine {step : UndefinedStep}
    (h : isVerbatim step.place.toList = true) :
    plainText (undefinedLine step) =
      ((plainText s!"  {step.text}").mapError (Markup.Fault.shift (Markup.taggedLength
        step.place.toList "dim".toList step.role.label.toList))).map
          (s!"{step.place}{step.role.label}" ++ ·) := by
  have hline : undefinedLine step = String.ofList (Markup.tagged step.place.toList
      "dim".toList step.role.label.toList s!"  {step.text}".toList) := by
    simp [← String.toList_inj, undefinedLine, UndefinedStep.place, Markup.tagged, toString]
  have hplain : ∀ c ∈ step.role.label.toList, Markup.isPlain c = true :=
    List.all_eq_true.mp (by cases step.role <;> rfl)
  have hplace : step.place.toList = s!"  {step.uri}:{step.line} ".toList ++ [' '] := by
    simp [UndefinedStep.place, toString]
  have hend : step.place.toList.getLast? ≠ some '\\' := by
    rw [hplace, List.getLast?_concat]
    decide
  rw [hline, Markup.plainText_tagged (by decide) h hend (Markup.isVerbatim_of_isPlain hplain)
    (Markup.getLast?_ne_of_isPlain hplain), String.ofList_toList]
  simp [String.ofList_append, toString]

private theorem plainText_errorLine (uri error : String) :
    plainText (errorLine uri error) =
      ((plainText s!" {uri}: {error}").mapError (Markup.Fault.shift (Markup.taggedLength
        [] "bold red".toList "Error".toList))).map ("Error" ++ ·) := by
  have hline : errorLine uri error = String.ofList (Markup.tagged [] "bold red".toList
      "Error".toList s!" {uri}: {error}".toList) := by
    change s!"[bold red]Error[/bold red] {uri}: {error}" = _
    simp [← String.toList_inj, Markup.tagged, toString]
  rw [hline, Markup.plainText_tagged (by decide) (by decide) (by decide) (by decide)
    (by decide), String.ofList_toList, List.nil_append, String.ofList_toList]

private theorem map_mapError_eq_ok_iff {x : Except Markup.Fault String} {distance : Nat}
    {front text : String} :
    (x.mapError (Markup.Fault.shift distance)).map (front ++ ·) = .ok (front ++ text) ↔
      x = .ok text := by
  cases x with
  | error fault => simp [Except.map, Except.mapError]
  | ok shown => simp [Except.map, Except.mapError]

private theorem isVerbatim_behind_blanks (text : String) :
    isVerbatim s!"  {text}".toList = isVerbatim text.toList := by
  have htext : s!"  {text}".toList = ' ' :: ' ' :: text.toList := by simp [toString]
  rw [htext, Markup.isVerbatim_cons_of_isPlain (by decide),
    Markup.isVerbatim_cons_of_isPlain (by decide)]

private theorem undefinedLine_shown_iff {step : UndefinedStep}
    (h : isVerbatim step.place.toList = true) :
    plainText (undefinedLine step) = .ok (undefinedText step) ↔
      plainText s!"  {step.text}" = .ok s!"  {step.text}" := by
  have htext : undefinedText step = s!"{step.place}{step.role.label}" ++ s!"  {step.text}" := by
    simp [← String.toList_inj, undefinedText, UndefinedStep.place, toString]
  rw [plainText_undefinedLine h, htext, map_mapError_eq_ok_iff]

private theorem errorLine_shown_iff (uri error : String) :
    plainText (errorLine uri error) = .ok (errorText uri error) ↔
      plainText s!" {uri}: {error}" = .ok s!" {uri}: {error}" := by
  have htext : errorText uri error = "Error" ++ s!" {uri}: {error}" := by
    simp [← String.toList_inj, errorText, toString]
  rw [plainText_errorLine, htext, map_mapError_eq_ok_iff]

private theorem plainText_missingCount (n : Nat) :
    plainText s!"\n[bold red]Missing step definitions:[/bold red] {n}\n" =
      .ok s!"\nMissing step definitions: {n}\n" := by
  have hline : s!"\n[bold red]Missing step definitions:[/bold red] {n}\n" =
      String.ofList (Markup.tagged ['\n'] "bold red".toList "Missing step definitions:".toList
        (' ' :: (n.repr.toList ++ ['\n']))) := by
    simp [← String.toList_inj, Markup.tagged, toString]
  have hshown : s!"\nMissing step definitions: {n}\n" = String.ofList
      (['\n'] ++ "Missing step definitions:".toList ++ ' ' :: (n.repr.toList ++ ['\n'])) := by
    simp [← String.toList_inj, toString]
  have hplain : ∀ c ∈ ' ' :: (n.repr.toList ++ ['\n']), Markup.isPlain c = true := by
    simp only [List.forall_mem_cons, List.forall_mem_append]
    exact ⟨by decide, Markup.isPlain_of_mem_repr, by decide, by simp⟩
  rw [hline, hshown]
  exact Markup.plainText_tagged_of_verbatim (by decide) (by decide) (by decide) (by decide)
    (by decide) (Markup.isVerbatim_of_isPlain hplain)

private theorem plainText_snippetsHint :
    plainText "\n[bold]Use these snippets or adjust your step patterns:[/bold]\n" =
      .ok "\nUse these snippets or adjust your step patterns:\n" := by
  have hline : "\n[bold]Use these snippets or adjust your step patterns:[/bold]\n" =
      String.ofList (Markup.tagged ['\n'] "bold".toList
        "Use these snippets or adjust your step patterns:".toList ['\n']) := by
    simp [Markup.tagged]
  have hshown : "\nUse these snippets or adjust your step patterns:\n" = String.ofList
      (['\n'] ++ "Use these snippets or adjust your step patterns:".toList ++ ['\n']) := by
    simp
  rw [hline, hshown]
  exact Markup.plainText_tagged_of_verbatim (by decide) (by decide) (by decide) (by decide)
    (by decide) (by decide)

/-! ## Reports that show their texts -/

/-- The table of a report with all texts as they are. -/
def verbatimResults (results : List CompileResult) : Table where
  title := "Generated Tests"
  columns :=
    [{ header := "Feature", cells := results.map (·.uri) },
      { header := "File", cells := results.map fun result =>
          (result.outputPath.filter (· ≠ "")).getD "-" },
      { header := "Undefined", cells := results.map fun result => toString result.undefined.length
        alignment := .right }]
  rows := results.length

/-- What is shown of steps without a handler, before it is wrapped. -/
def undefinedTexts (undefined : List UndefinedStep) : List String :=
  if undefined.isEmpty then []
  else
    let snippets := Snippet.buildAll (undefined.map fun step => (step.role, step.text))
    s!"\nMissing step definitions: {undefined.length}\n" :: undefined.map undefinedText ++
      "\nUse these snippets or adjust your step patterns:\n" ::
      snippets.flatMap fun snippet => [unmarked snippet, ""]

/-- What a report shows below its table, before it is wrapped. -/
def reportTexts (results : List CompileResult) : List String :=
  undefinedTexts (results.flatMap (·.undefined)) ++
    results.flatMap fun result => (result.failure?.map (errorText result.uri)).toList

private theorem resultTable_of_verbatim
    (huri : ∀ result ∈ results, isVerbatim result.uri.toList = true)
    (hpath : ∀ result ∈ results, ∀ path ∈ result.outputPath, isVerbatim path.toList = true) :
    resultTable results = .ok (verbatimResults results) := by
  have hcolumn {header : String} {alignment : Wrapping.Justification}
      {cell : CompileResult → String}
      (hcell : ∀ result ∈ results, isVerbatim (cell result).toList = true) :
      Column.ofMarkup header (results.map cell) alignment =
        .ok { header, cells := results.map cell, alignment } :=
    ofMarkup_eq_self_iff.mpr (List.forall_mem_map.mpr fun result hr =>
      Markup.plainText_of_isVerbatim (hcell result hr))
  have hfile : ∀ result ∈ results,
      isVerbatim ((result.outputPath.filter (· ≠ "")).getD "-").toList = true := by
    intro result hr
    cases hfilter : result.outputPath.filter (· ≠ "") with
    | none => decide
    | some path =>
        exact hpath result hr path (Option.filter_eq_some_iff.mp hfilter).1
  have hcount : ∀ result ∈ results,
      isVerbatim (toString result.undefined.length).toList = true :=
    fun result _ => Markup.isVerbatim_of_isPlain Markup.isPlain_of_mem_repr
  rw [resultTable, hcolumn huri]
  change (Column.ofMarkup "File" _ .left >>= _) = _
  rw [hcolumn hfile]
  change (Column.ofMarkup "Undefined" _ .right >>= _) = _
  rw [hcolumn hcount]
  rfl

private theorem wrap_empty (width : Nat) : Wrapping.wrap width .fold .ragged "" = [""] := by
  have hcells : Text.cellsOfChars [] = 0 := rfl
  simp [Wrapping.wrap, Wrapping.wrapLine, Text.splitOnChar, Wrapping.expandTabs,
    Wrapping.expandTabsFrom, Wrapping.words, Wrapping.wordsFrom, Wrapping.breaksFrom,
    Wrapping.cutAt, Wrapping.dropOverhang, Wrapping.align, Wrapping.truncate, hcells]

/-- The lines of a text, which can be shown. -/
def shownPart (width : Nat) (text : String) : Part := .ok (Wrapping.wrap width .fold .ragged text)

theorem marked_eq {text shown : String} (h : plainText text = .ok shown) :
    marked width text = shownPart width shown := by
  rw [marked, h]
  rfl

private theorem undefinedParts_of_verbatim {undefined : List UndefinedStep}
    (hplace : ∀ step ∈ undefined, isVerbatim step.place.toList = true)
    (htext : ∀ step ∈ undefined, isVerbatim step.text.toList = true) :
    undefinedParts width undefined = (undefinedTexts undefined).map (shownPart width) := by
  unfold undefinedParts undefinedTexts
  split
  · rfl
  have hsteps : undefined.map (fun step => marked width (undefinedLine step)) =
      (undefined.map undefinedText).map (shownPart width) := by
    rw [List.map_map]
    refine List.map_congr_left fun step hstep => marked_eq ?_
    rw [undefinedLine_shown_iff (hplace step hstep)]
    exact Markup.plainText_of_isVerbatim
      ((isVerbatim_behind_blanks step.text).trans (htext step hstep))
  have hsnippets (snippets : List String) : snippets.flatMap (snippetParts width) =
      (snippets.flatMap fun snippet => [unmarked snippet, ""]).map (shownPart width) := by
    rw [List.map_flatMap]
    refine List.flatMap_congr fun snippet _ => ?_
    rw [snippetParts, List.map_cons, List.map_singleton, shownPart, shownPart, wrap_empty]
  simp only [marked_eq (plainText_missingCount _), marked_eq plainText_snippetsHint, hsteps,
    hsnippets, List.map_cons, List.map_append]

private theorem errorParts_of_verbatim {result : CompileResult} (h : result.IsVerbatim) :
    (result.failure?.map fun error => marked width (errorLine result.uri error)).toList =
      (result.failure?.map (errorText result.uri)).toList.map (shownPart width) := by
  cases herror : result.failure? with
  | none => rfl
  | some error =>
      have hshown := Markup.plainText_of_isVerbatim (h.error error herror)
      rw [Option.map_some, marked_eq ((errorLine_shown_iff _ _).mpr hshown)]
      rfl

private theorem reportParts_of_verbatim (h : ∀ result ∈ results, result.IsVerbatim) :
    reportParts width results = ((verbatimResults results).lines width ::
      (reportTexts results).map (Wrapping.wrap width .fold .ragged)).map .ok := by
  have hundefined : undefinedParts width (results.flatMap (·.undefined)) = _ :=
    undefinedParts_of_verbatim (List.forall_mem_flatMap.mpr fun result hr => (h result hr).place)
      (List.forall_mem_flatMap.mpr fun result hr => (h result hr).text)
  have herrors : (results.flatMap fun result =>
      (result.failure?.map fun error => marked width (errorLine result.uri error)).toList) = _ :=
    List.flatMap_congr fun result hr => errorParts_of_verbatim (h result hr)
  have htable := resultTable_of_verbatim (fun result hr => (h result hr).uri)
    fun result hr => (h result hr).outputPath
  rw [reportParts, htable, hundefined, herrors, ← List.map_flatMap,
    List.cons_append, ← List.map_append, List.map_cons, List.map_map]
  rfl

/-- The report breaks off at the first text that cannot be shown, and ends with 1 exactly if a
document failed or has steps without a handler. If no text is read as markup, all are shown as they
are, in order; and a step or a fault with at most one colon is shown as it is only then. -/
theorem run_report_verbatim (width : Nat) (results : List CompileResult) (progress : Progress) :
    (report width results).run.run progress =
        tell (verdict results) (reportParts width results) progress ∧
      ((∀ result ∈ results, result.IsVerbatim) →
        (report width results).run.run progress = (verdict results,
          { progress with printed := ((verbatimResults results).lines width ++
            (reportTexts results).flatMap (Wrapping.wrap width .fold .ragged)).reverse ++
              progress.printed })) ∧
      (∀ step : UndefinedStep, isVerbatim step.place.toList = true →
        step.text.toList.count ':' ≤ 1 →
          (plainText (undefinedLine step) = .ok (undefinedText step) ↔
            isVerbatim step.text.toList = true)) ∧
      ∀ uri error : String, s!" {uri}: {error}".toList.count ':' ≤ 1 →
        (plainText (errorLine uri error) = .ok (errorText uri error) ↔
          isVerbatim s!" {uri}: {error}".toList = true) := by
  refine ⟨run_report width results progress, fun h => ?_, fun step hplace hcount => ?_,
    fun uri error hcount => ?_⟩
  · rw [run_report, reportParts_of_verbatim h, Run.tell_ok, List.flatten_cons, List.flatMap_def]
  · have hcount : s!"  {step.text}".toList.count ':' ≤ 1 := by simpa [toString] using hcount
    rw [undefinedLine_shown_iff hplace, Markup.plainText_eq_self_iff hcount,
      isVerbatim_behind_blanks]
  · rw [errorLine_shown_iff, Markup.plainText_eq_self_iff hcount]

/-- A step that no handler accepts. -/
def undefinedOf (text : String) : UndefinedStep where
  role := .action
  step := { id := "0", location := { line := 3 }, keyword := "When ", text }
  pickleStep := { id := "2", text }
  uri := "shop.feature"

/-- A document whose only step has no handler. -/
def resultOf (text : String) : CompileResult where
  uri := "shop.feature"
  outputPath := some "out/test_shop.py"
  undefined := [undefinedOf text]

/-- A document that failed. -/
def unreadable : CompileResult where
  uri := "cart.feature"
  error := some "Cannot read cart.feature"

theorem run_report_of_brackets :
    reportTexts [resultOf "I order [3] apples", unreadable] =
        ["\nMissing step definitions: 1\n", "  shop.feature:3  action  I order [3] apples",
          "\nUse these snippets or adjust your step patterns:\n",
          unmarked (Snippet.build .action "I order [3] apples"), "",
          "Error cart.feature: Cannot read cart.feature"] ∧
      (report 80 [resultOf "I order [3] apples", unreadable]).run.run { tree := .empty } =
        (.error (.exit 1), { tree := .empty, printed :=
          ((verbatimResults [resultOf "I order [3] apples", unreadable]).lines 80 ++
            (reportTexts [resultOf "I order [3] apples", unreadable]).flatMap
              (Wrapping.wrap 80 .fold .ragged)).reverse }) := by
  have hordered : (resultOf "I order [3] apples").IsVerbatim :=
    ⟨by decide, by decide, by decide, by decide, by decide⟩
  have hfailed : unreadable.IsVerbatim := ⟨by decide, by decide, by decide, by decide, by decide⟩
  obtain ⟨_, hverbatim, _⟩ := run_report_verbatim 80
    [resultOf "I order [3] apples", unreadable] { tree := .empty }
  have hrun := hverbatim (List.forall_mem_cons.mpr ⟨hordered, by simpa using hfailed⟩)
  rw [List.append_nil] at hrun
  exact ⟨rfl, hrun⟩

/-- Letters in brackets are left out of the line for a step, and a slash in brackets ends the
report. -/
theorem exists_step_lost :
    plainText (undefinedLine (undefinedOf "I see [red] apples")) =
        .ok "  shop.feature:3  action  I see  apples" ∧
      ((report 80 [resultOf "I see [/x]"]).run.run { tree := .empty }).1 =
        .error (.failed (.markup (.notOpen "/x" 43))) := by
  obtain ⟨hleft, hbroken⟩ : plainText (undefinedLine (undefinedOf "I see [red] apples")) =
        .ok "  shop.feature:3  action  I see  apples" ∧
      plainText (undefinedLine (undefinedOf "I see [/x]")) = .error (.notOpen "/x" 43) := by
    decide +kernel
  have htable : resultTable [resultOf "I see [/x]"] = _ :=
    resultTable_of_verbatim (by decide) (by decide)
  have hparts : undefinedParts 80 [undefinedOf "I see [/x]"] =
      marked 80 _ :: marked 80 (undefinedLine (undefinedOf "I see [/x]")) :: _ := rfl
  refine ⟨hleft, ?_⟩
  rw [run_report, reportParts, htable]
  change (tell _ (.ok _ :: (undefinedParts 80 [undefinedOf "I see [/x]"] ++ [])) _).1 = _
  rw [hparts, marked_eq (plainText_missingCount [undefinedOf "I see [/x]"].length), marked, hbroken]
  rfl

end Command

end FeatureSuite

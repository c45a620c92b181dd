import FeatureSuite.Proofs.Suite.Pickled
import FeatureSuite.Proofs.Suite.Placeholders

/-!
# Rows of outlines

An outline is expanded block by block. Its rows are numbered through all blocks, and the title of a
row is made by the format of its block from the number and the cells of the row.
-/

namespace FeatureSuite

open Gherkin (Comment Document Examples Scenario TableCell TableRow)

/-! ## Formats of blocks -/

/-- The first comment on a line notes a format, behind the start of such comments. -/
def Gherkin.Document.NotesFormat (document : Document) (line : Int) (format : String) : Prop :=
  ∃ before comment after rest, document.comments = before ++ comment :: after ∧
    (∀ other ∈ before, other.location.line ≠ line) ∧ comment.location.line = line ∧
    Text.strip comment.text = titleFormatStart ++ rest ∧ format = Text.strip rest

theorem Gherkin.Document.notesFormat_iff {document : Document} {line : Int} {format : String} :
    document.NotesFormat line format ↔ ∃ comment rest,
      document.commentAt? line = some comment ∧
        Text.strip comment.text = titleFormatStart ++ rest ∧ format = Text.strip rest := by
  simp only [NotesFormat, commentAt?, List.find?_eq_some_iff_append, decide_eq_true_eq,
    Bool.not_eq_true', decide_eq_false_iff_not]
  constructor
  · rintro ⟨before, comment, after, rest, hcomments, hbefore, hline, htext, hformat⟩
    exact ⟨comment, rest, ⟨hline, before, after, hcomments, hbefore⟩, htext, hformat⟩
  · rintro ⟨comment, rest, ⟨hline, before, after, hcomments, hbefore⟩, htext, hformat⟩
    exact ⟨before, comment, after, rest, hcomments, hbefore, hline, htext, hformat⟩

/-- The format of a block is noted on the line above it, or the default is taken. -/
theorem titleFormat_notes (document : Document) (block : Examples) (default : String) :
    document.NotesFormat (block.location.line - 1) (titleFormat document block default) ∨
      (∀ format, ¬ document.NotesFormat (block.location.line - 1) format) ∧
        titleFormat document block default = default := by
  simp only [Document.notesFormat_iff]
  unfold titleFormat
  cases hcomment : document.commentAt? (block.location.line - 1) with
  | none =>
      refine .inr ⟨?_, rfl⟩
      rintro format ⟨comment, rest, hsome, _⟩
      cases hsome
  | some comment =>
      dsimp only
      cases hstart : Text.dropStart? titleFormatStart (Text.strip comment.text) with
      | some rest => exact .inl ⟨comment, rest, rfl, Text.dropStart?_eq_some.mp hstart, rfl⟩
      | none =>
          refine .inr ⟨?_, rfl⟩
          rintro format ⟨other, rest, hsome, htext, _⟩
          cases hsome
          rw [htext, Text.dropStart?_append] at hstart
          cases hstart

/-! ## Values of rows -/

/-- What a name is bound to in the end. -/
def lastBinding? (bindings : List (String × String)) (name : String) : Option String :=
  (bindings.reverse.find? (·.1 = name)).map (·.2)

private theorem lastBinding?_cons (binding : String × String) (bindings : List (String × String))
    (name : String) :
    lastBinding? (binding :: bindings) name =
      (lastBinding? bindings name).or (if binding.1 = name then some binding.2 else none) := by
  rw [lastBinding?, List.reverse_cons, List.find?_append, Option.map_or, List.find?_singleton,
    lastBinding?]
  by_cases h : binding.1 = name <;> simp [h]

/-- What a row binds: the word for the index to its number, then its columns to its cells. -/
def ExampleRow.bindings (entry : ExampleRow) : List (String × String) :=
  (indexName, toString entry.index) ::
    (entry.block.columnNames.zip entry.row.cells).map fun cell => (cell.1, cell.2.value)

private theorem valueOf?_setValue (name other : String) (value : TitleValue)
    (values : List (String × TitleValue)) :
    valueOf? (setValue name value values) other =
      if name = other then some value.shown else valueOf? values other := by
  unfold valueOf?
  induction values with
  | nil => by_cases h : name = other <;> simp [setValue, h]
  | cons entry values ih =>
      rw [setValue]
      by_cases hname : entry.1 = name
      · by_cases h : name = other <;> simp [hname, h]
      · rw [if_neg hname]
        by_cases hother : entry.1 = other
        · have hne : name ≠ other := fun h => hname (hother.trans h.symm)
          simp [hother, hne]
        · simpa [hother] using ih

private theorem valueOf?_foldl (cells : List (String × TableCell))
    (values : List (String × TitleValue)) {name : String} (hname : name ≠ "") :
    valueOf? (cells.foldl (fun values (column, cell) =>
        if column = "" then values else setValue column (.text cell.value) values) values) name =
      (lastBinding? (cells.map fun cell => (cell.1, cell.2.value)) name).or
        (valueOf? values name) := by
  induction cells generalizing values with
  | nil => rfl
  | cons cell cells ih =>
      rw [List.foldl_cons, ih, List.map_cons, lastBinding?_cons, Option.or_assoc]
      congr 1
      dsimp only
      by_cases hempty : cell.1 = ""
      · have hne : cell.1 ≠ name := fun h => hname (h.symm.trans hempty)
        simp [hempty, hname.symm]
      · rw [if_neg hempty, valueOf?_setValue]
        by_cases hcell : cell.1 = name <;> simp [hcell, TitleValue.shown]

private theorem valueOf?_rowValues (entry : ExampleRow) {name : String} (hname : name ≠ "") :
    valueOf? (rowValues entry.block entry.row entry.index) name =
      lastBinding? entry.bindings name := by
  rw [rowValues, valueOf?_foldl _ _ hname, ExampleRow.bindings, lastBinding?_cons]
  congr 1
  by_cases hindex : indexName = name <;> simp [valueOf?, hindex, TitleValue.shown]

/-! ## Rows -/

private theorem index_mapIdx {f : Nat → TableRow → ExampleRow} {first : Nat}
    (h : ∀ i row, (f i row).index = first + i) (rows : List TableRow) :
    (rows.mapIdx f).map (·.index) = List.range' first rows.length := by
  refine List.ext_getElem (by simp) fun i _ _ => ?_
  simp [h]

/-- Rows are numbered through all blocks, behind so many rows in front. -/
theorem index_expandBlocks (document : Document) (default : String) (before : Nat)
    (blocks : List Examples) :
    (expandBlocks document default before blocks).map (·.index) =
      List.range' (before + 1) (expandBlocks document default before blocks).length := by
  induction blocks generalizing before with
  | nil => rfl
  | cons block blocks ih =>
      rw [expandBlocks, List.map_append, ih, List.length_append, List.length_mapIdx,
        ← List.range'_append_1, Nat.add_right_comm]
      refine congrArg (· ++ _) (index_mapIdx (fun i row => ?_) block.tableBody)
      exact Nat.add_right_comm before i 1

private theorem title_of_expandBlocks {document : Document} {default : String} {before : Nat}
    {blocks : List Examples} {entry : ExampleRow}
    (h : entry ∈ expandBlocks document default before blocks) :
    entry.title = renderTitle (titleFormat document entry.block default)
      (valueOf? (rowValues entry.block entry.row entry.index)) := by
  induction blocks generalizing before with
  | nil => cases h
  | cons block blocks ih =>
      rcases List.mem_append.mp h with hfirst | hrest
      · obtain ⟨i, hi, rfl⟩ := List.mem_mapIdx.mp hfirst
        rfl
      · exact ih hrest

/-- An outline has one row for each row of its blocks, in the order of the document, numbered from 1
on through all blocks. A row has the format that the first comment on the line above its block
notes, or the default if it notes none; and its title is the one cut of this format, filled with the
number of the row and with its cells under the names of their columns, the last of them where names
agree. -/
theorem rows_of_outline (document : Document) (outline : Scenario) (default : String) :
    let rows := expandOutline document outline default
    rows.map (fun entry => (entry.block, entry.row)) =
        outline.examples.flatMap (fun block => block.tableBody.map (block, ·)) ∧
      rows.map (·.index) = List.range' 1 rows.length ∧
      ∀ entry ∈ rows, ∃ format pieces,
        (document.NotesFormat (entry.block.location.line - 1) format ∨
          (∀ other, ¬ document.NotesFormat (entry.block.location.line - 1) other) ∧
            format = default) ∧
        Cut format.toList pieces ∧ (∀ others, Cut format.toList others → others = pieces) ∧
          entry.title.toList = pieces.flatMap (·.fill (lastBinding? entry.bindings)) := by
  refine ⟨expandOutline_listsRows document default outline, index_expandBlocks _ _ 0 _,
    fun entry hentry => ?_⟩
  have hnotes := titleFormat_notes document entry.block default
  generalize hformat : titleFormat document entry.block default = format at hnotes
  obtain ⟨pieces, hcut, hfill⟩ := toList_renderTitle format
  refine ⟨format, pieces, hnotes, hcut, fun others hothers => hothers.unique hcut, ?_⟩
  rw [title_of_expandBlocks hentry, hformat, ← hfill]
  exact congrArg String.toList (renderTitle_congr fun name hname => valueOf?_rowValues entry hname)

end FeatureSuite

import FeatureSuite.Proofs.Batch.Completion
import FeatureSuite.Proofs.Batch.Content
import Mathlib.Data.List.Nodup

/-!
# Modules of batches

What is left of the modules that a batch writes. A module can be read as long as no other one is
written to the same path, so every document of a batch keeps its module exactly if no two documents
that compile are named alike in one directory.
-/

namespace FeatureSuite.Batch

open FileTree (Widens placeOf)

variable {batch : Batch} {tree after : FileTree} {paths : List Path} {order : List Nat}
  {path : Path} {result : CompileResult} {bytes : List Nat}

/-! ## One document -/

/-- What writing a document does: its module is written behind directories that are made for it, or
there is an error and at most directories are made. -/
inductive Writes (batch : Batch) (path : Path) (before : FileTree) :
    FileTree → CompileResult → Prop where
  | failed {after : FileTree} {result : CompileResult} :
      result.error ≠ none → Widens before after → Writes batch path before after result
  | written {widened after : FileTree} {file : FeatureFile} :
      batch.compile before path = .ok file → Widens before widened →
        widened.write (batch.target path) (Utf8.encode file.content) = .ok after →
          Writes batch path before after (file.result (documentUri path batch.root))

theorem error_of_caught {uri : String} {failure : Failure} (h : caught uri failure = .ok result) :
    result.error ≠ none := by
  cases failure with
  | document fault =>
      cases h
      exact Option.some_ne_none _
  | _ => cases h

private theorem error_told_caught (failure : Failure) :
    (batch.told path (caught (documentUri path batch.root) failure)).error ≠ none := by
  cases failure <;> exact Option.some_ne_none _

theorem generate_of_error {failure : Failure} (h : batch.compile tree path = .error failure) :
    batch.generate tree path = (tree, caught (documentUri path batch.root) failure) := by
  unfold generate
  dsimp only
  rw [h]

theorem generate_with_writing {file : FeatureFile} (hwrite : batch.write = true)
    (h : batch.compile tree path = .ok file) :
    (∃ after fault, batch.generate tree path = (after, .error (.file fault)) ∧
      Widens tree after) ∨
      ∃ widened after, batch.generate tree path =
          (after, .ok (file.result (documentUri path batch.root))) ∧
        FileTree.WidensAt (FileTree.OnWay (batch.target path).parent.parts) tree widened ∧
          widened.write (batch.target path) (Utf8.encode file.content) = .ok after := by
  have hsave : file.save = .ok (batch.target path, file.content) := by
    rw [FeatureFile.save, (text_of_compile h).1]
  unfold generate
  dsimp only
  rw [h]
  dsimp only
  rw [if_pos hwrite, hsave]
  dsimp only
  rcases tree.save_cases (batch.target path) (Utf8.encode file.content) with
    ⟨fault, after, hsaved, hwidens⟩ | ⟨widened, after, hsaved, hwidens, hwritten⟩
  · exact .inl ⟨after, fault, by rw [hsaved], hwidens⟩
  · exact .inr ⟨widened, after, by rw [hsaved], hwidens, hwritten⟩

private theorem generate_writes (hwrite : batch.write = true) (tree : FileTree) (path : Path) :
    Writes batch path tree (batch.generate tree path).1
      (batch.told path (batch.generate tree path).2) := by
  cases hcompile : batch.compile tree path with
  | error failure =>
      rw [generate_of_error hcompile]
      exact .failed (error_told_caught failure) (.refl tree)
  | ok file =>
      rcases generate_with_writing hwrite hcompile with
        ⟨after, fault, hgenerate, hwidens⟩ | ⟨widened, after, hgenerate, hwidens, hwritten⟩
      · rw [hgenerate]
        exact .failed (Option.some_ne_none _) hwidens
      · rw [hgenerate]
        exact .written hcompile hwidens.widens hwritten

namespace Writes

variable {source : Path} {before : FileTree}

private theorem read (h : Writes batch source before after result)
    (hread : before.read path = .ok bytes) :
    after.read path = .ok bytes ∨
      result.error = none ∧ placeOf (batch.target source).parts = placeOf path.parts ∧
        after.read path = .ok (Utf8.encode result.content) := by
  cases h with
  | failed _ hwidens => exact .inl (hwidens.read_eq_ok hread)
  | @written widened _ file _ hwidens hwritten =>
      have hnow := FileTree.read_of_write_of_read hwritten (hwidens.read_eq_ok hread)
      by_cases hplace : placeOf path.parts = placeOf (batch.target source).parts
      · rw [if_pos hplace] at hnow
        exact .inr ⟨rfl, hplace.symm, hnow⟩
      · rw [if_neg hplace] at hnow
        exact .inl hnow

private theorem found (h : Writes batch source before after result) (herror : result.error = none) :
    result.outputPath = some (batch.target source).toText ∧
      (∃ file, batch.compile before source = .ok file ∧ result.content = file.content) ∧
        after.read (batch.target source) = .ok (Utf8.encode result.content) := by
  cases h with
  | failed hfailed _ => exact absurd herror hfailed
  | @written widened _ file hfile _ hwritten =>
      refine ⟨?_, ⟨file, hfile, rfl⟩, FileTree.read_of_write hwritten⟩
      rw [FeatureFile.result, (text_of_compile hfile).1]
      rfl

end Writes

/-! ## All documents -/

structure Compiled (batch : Batch) (completion : Completion) : Prop where
  outputPath : completion.result.outputPath = some (batch.target completion.path).toText
  text : ∃ tree file, batch.compile tree completion.path = .ok file ∧
    completion.result.content = file.content

/-- A path holds the module of a document. -/
structure WrittenTo (batch : Batch) (done : List Completion) (after : FileTree) (path : Path)
    (written : Completion) : Prop where
  mem : written ∈ done
  error : written.result.error = none
  place : placeOf (batch.target written.path).parts = placeOf path.parts
  read : after.read path = .ok (Utf8.encode written.result.content)

private theorem WrittenTo.cons {done : List Completion} {written : Completion}
    (h : WrittenTo batch done after path written) (first : Completion) :
    WrittenTo batch (first :: done) after path written :=
  { h with mem := List.mem_cons_of_mem first h.mem }

/-- What can be read before a batch is there after it, unless a module has been written over it. -/
theorem read_of_complete (hwrite : batch.write = true) (hread : tree.read path = .ok bytes) :
    (batch.complete paths tree order).1.read path = .ok bytes ∨
      ∃ written, WrittenTo batch (batch.complete paths tree order).2
        (batch.complete paths tree order).1 path written := by
  induction order generalizing tree bytes with
  | nil => exact .inl hread
  | cons index order ih =>
      cases hpath : paths[index]? with
      | none =>
          rw [complete, hpath]
          exact ih hread
      | some source =>
          rw [complete_cons hpath]
          rcases (generate_writes hwrite tree source).read hread with
            hkept | ⟨herror, hplace, hnow⟩
          · rcases ih hkept with hlast | ⟨written, h⟩
            · exact .inl hlast
            · exact .inr ⟨written, h.cons _⟩
          · rcases ih hnow with hlast | ⟨written, h⟩
            · exact .inr ⟨_, List.mem_cons_self, herror, hplace, hlast⟩
            · exact .inr ⟨written, h.cons _⟩

/-- Where a document is compiled to, a module is found after the batch. -/
theorem writtenTo_of_complete (hwrite : batch.write = true) {completion : Completion}
    (hdone : completion ∈ (batch.complete paths tree order).2)
    (herror : completion.result.error = none) :
    Compiled batch completion ∧
      ∃ written, WrittenTo batch (batch.complete paths tree order).2
        (batch.complete paths tree order).1 (batch.target completion.path) written := by
  induction order generalizing tree with
  | nil => cases hdone
  | cons index order ih =>
      cases hpath : paths[index]? with
      | none =>
          rw [complete, hpath] at hdone ⊢
          exact ih hdone
      | some source =>
          rw [complete_cons hpath] at hdone ⊢
          rcases List.mem_cons.mp hdone with rfl | hlater
          · obtain ⟨houtput, ⟨file, hfile, hcontent⟩, hread⟩ :=
              (generate_writes hwrite tree source).found herror
            refine ⟨⟨houtput, tree, file, hfile, hcontent⟩, ?_⟩
            -- The module may be written over by one of the documents that follow.
            rcases read_of_complete hwrite hread with hlast | ⟨written, h⟩
            · exact ⟨_, List.mem_cons_self, herror, rfl, hlast⟩
            · exact ⟨written, h.cons _⟩
          · obtain ⟨hcompiled, written, h⟩ := ih hlater
            exact ⟨hcompiled, written, h.cons _⟩

/-! ## Results -/

/-- The documents of a batch, each with its result. -/
def outcomes (paths : List Path) (done : List Completion) : List (Path × CompileResult) :=
  paths.zip (results paths.length done)

variable {done : List Completion}

theorem fst_outcomes (hdone : (done.map (·.index)).Perm (List.range paths.length)) :
    (outcomes paths done).map Prod.fst = paths := by
  rw [outcomes, List.map_fst_zip (Nat.le_of_eq (length_results hdone).symm)]

private theorem mem_outcomes (hdone : (done.map (·.index)).Perm (List.range paths.length))
    (hpaths : ∀ completion ∈ done, paths[completion.index]? = some completion.path) :
    (path, result) ∈ outcomes paths done ↔
      ∃ completion ∈ done, completion.path = path ∧ completion.result = result := by
  rw [List.mem_iff_getElem?]
  constructor
  · rintro ⟨index, hindex⟩
    obtain ⟨hpath, hresult⟩ := List.getElem?_zip_eq_some.mp hindex
    obtain ⟨completion, hmem, rfl⟩ := List.mem_map.mp (hdone.mem_iff.mpr (List.mem_range.mpr
      (List.getElem?_eq_some_iff.mp hpath).1))
    refine ⟨completion, hmem, ?_, ?_⟩
    · exact Option.some.inj ((hpaths completion hmem).symm.trans hpath)
    · exact Option.some.inj ((getElem?_results hdone hmem).symm.trans hresult)
  · rintro ⟨completion, hmem, rfl, rfl⟩
    exact ⟨completion.index, List.getElem?_zip_eq_some.mpr
      ⟨hpaths completion hmem, getElem?_results hdone hmem⟩⟩

/-- A batch keeps the module of a document if it can be read after it. -/
def Keeps (batch : Batch) (after : FileTree) (document : Path × CompileResult) : Prop :=
  after.read (batch.target document.1) = .ok (Utf8.encode document.2.content)

instance (after : FileTree) (document : Path × CompileResult) :
    Decidable (batch.Keeps after document) := inferInstanceAs (Decidable (_ = _))

/-- No two documents without an error are named alike in one directory. -/
def NamedApart (documents : List (Path × CompileResult)) : Prop :=
  ∀ document ∈ documents, ∀ other ∈ documents,
    document.2.error = none → other.2.error = none →
      document.1.parent = other.1.parent → document.1.moduleName = other.1.moduleName →
        document.1 = other.1

instance (documents : List (Path × CompileResult)) : Decidable (NamedApart documents) :=
  inferInstanceAs (Decidable (∀ document ∈ documents, ∀ other ∈ documents, _ → _))

/-- A batch that has written its modules. -/
structure Finished (batch : Batch) (paths : List Path) (after : FileTree)
    (done : List Completion) : Prop where
  perm : (done.map (·.index)).Perm (List.range paths.length)
  path : ∀ completion ∈ done, paths[completion.index]? = some completion.path
  written : ∀ completion ∈ done, completion.result.error = none → Compiled batch completion ∧
    ∃ written, WrittenTo batch done after (batch.target completion.path) written

private theorem finished_of_complete (hwrite : batch.write = true)
    (horder : order.Perm (List.range paths.length)) :
    Finished batch paths (batch.complete paths tree order).1
      (batch.complete paths tree order).2 where
  perm := by
    rwa [index_complete fun index hindex => List.mem_range.mp (horder.mem_iff.mp hindex)]
  path _ := path_of_complete
  written _ := writtenTo_of_complete hwrite

namespace Finished

variable {document other : Path × CompileResult}

private theorem mem_iff (h : Finished batch paths after done) :
    document ∈ outcomes paths done ↔
      ∃ completion ∈ done, completion.path = document.1 ∧ completion.result = document.2 :=
  mem_outcomes h.perm h.path

theorem mem_paths (h : Finished batch paths after done)
    (hdocument : document ∈ outcomes paths done) : document.1 ∈ paths := by
  rw [← fst_outcomes h.perm]
  exact List.mem_map_of_mem hdocument

private theorem eq_of_path_eq (h : Finished batch paths after done) (hpaths : paths.Nodup)
    (hdocument : document ∈ outcomes paths done) (hother : other ∈ outcomes paths done)
    (hpath : document.1 = other.1) : document = other := by
  have hnodup : ((outcomes paths done).map Prod.fst).Nodup := by
    rw [fst_outcomes h.perm]
    exact hpaths
  exact List.inj_on_of_nodup_map hnodup hdocument hother hpath

theorem compiled (h : Finished batch paths after done)
    (hdocument : document ∈ outcomes paths done) (herror : document.2.error = none) :
    document.2.outputPath = some (batch.target document.1).toText ∧
      ∃ tree file, batch.compile tree document.1 = .ok file ∧
        document.2.content = file.content := by
  obtain ⟨completion, hmem, hpath, hresult⟩ := h.mem_iff.mp hdocument
  rw [← hresult] at herror
  rw [← hpath, ← hresult]
  exact ⟨(h.written completion hmem herror).1.outputPath, (h.written completion hmem herror).1.text⟩

variable (hbelow : ∀ path ∈ paths, ∃ above name, Path.Below batch.root path above name)
include hbelow

private theorem same_iff (h : Finished batch paths after done)
    (hdocument : document ∈ outcomes paths done) (hother : other ∈ outcomes paths done) :
    batch.target document.1 = batch.target other.1 ↔
      document.1.parent = other.1.parent ∧ document.1.moduleName = other.1.moduleName := by
  obtain ⟨above, name, hdocument⟩ := hbelow _ (h.mem_paths hdocument)
  obtain ⟨aside, second, hother⟩ := hbelow _ (h.mem_paths hother)
  exact target_eq_iff hdocument hother

private theorem found (h : Finished batch paths after done)
    (hdocument : document ∈ outcomes paths done) (herror : document.2.error = none) :
    ∃ written ∈ outcomes paths done, written.2.error = none ∧
      batch.target written.1 = batch.target document.1 ∧
        after.read (batch.target document.1) = .ok (Utf8.encode written.2.content) := by
  have hmem := h.mem_paths hdocument
  obtain ⟨completion, hcompletion, hpath, hresult⟩ := h.mem_iff.mp hdocument
  rw [← hresult] at herror
  obtain ⟨_, written, hwritten⟩ := h.written completion hcompletion herror
  rw [hpath] at hwritten
  have hfound : (written.path, written.result) ∈ outcomes paths done :=
    h.mem_iff.mpr ⟨written, hwritten.mem, rfl, rfl⟩
  obtain ⟨above, name, hbelowDocument⟩ := hbelow _ hmem
  obtain ⟨aside, second, hbelowWritten⟩ := hbelow _ (h.mem_paths hfound)
  exact ⟨_, hfound, hwritten.error,
    target_eq_of_place hbelowWritten hbelowDocument hwritten.place, hwritten.read⟩

private theorem not_keeps (h : Finished batch paths after done)
    (hdocument : document ∈ outcomes paths done) (hother : other ∈ outcomes paths done)
    (herror : document.2.error = none) (hothers : other.2.error = none)
    (hne : document.1 ≠ other.1) (htarget : batch.target document.1 = batch.target other.1)
    (hkeeps : batch.Keeps after document) : ¬ batch.Keeps after other := by
  intro hkept
  obtain ⟨above, name, hbelowDocument⟩ := hbelow _ (h.mem_paths hdocument)
  obtain ⟨aside, second, hbelowOther⟩ := hbelow _ (h.mem_paths hother)
  obtain ⟨_, _, file, hfile, hcontent⟩ := h.compiled hdocument herror
  obtain ⟨_, _, compiled, hcompiled, hcontents⟩ := h.compiled hother hothers
  rw [Keeps, htarget] at hkeeps
  have hsame := Utf8.encode_injective (Except.ok.inj (hkeeps.symm.trans hkept))
  rw [hcontent, hcontents] at hsame
  exact content_ne hbelowDocument hbelowOther hne htarget hfile hcompiled hsame

private theorem keeps_iff (h : Finished batch paths after done) (hpaths : paths.Nodup) :
    (∀ document ∈ outcomes paths done, document.2.error = none → batch.Keeps after document) ↔
      NamedApart (outcomes paths done) := by
  constructor
  · intro hkeeps document hdocument other hother herror hothers hparent hmodule
    by_contra hne
    have htarget := (h.same_iff hbelow hdocument hother).mpr ⟨hparent, hmodule⟩
    exact h.not_keeps hbelow hdocument hother herror hothers hne htarget
      (hkeeps document hdocument herror) (hkeeps other hother hothers)
  · intro hapart document hdocument herror
    obtain ⟨written, hwritten, hwrittenError, htarget, hread⟩ := h.found hbelow hdocument herror
    obtain ⟨hparent, hmodule⟩ := (h.same_iff hbelow hwritten hdocument).mp htarget
    have hpath := hapart written hwritten document hdocument hwrittenError herror hparent hmodule
    rw [h.eq_of_path_eq hpaths hwritten hdocument hpath] at hread
    exact hread

end Finished

/-- Every document that compiles finds a module where its own has been written to, and it is always
its own exactly if no two documents that compile are named alike in one directory. -/
theorem modules_of_complete (batch : Batch) (tree : FileTree) (paths : List Path)
    (order : List Nat) (hwrite : batch.write = true)
    (hbelow : ∀ path ∈ paths, ∃ above name, Path.Below batch.root path above name)
    (hpaths : paths.Nodup) (horder : order.Perm (List.range paths.length)) :
    ∃ after done, batch.complete paths tree order = (after, done) ∧
      (outcomes paths done).map Prod.fst = paths ∧
      (∀ document ∈ outcomes paths done, document.2.error = none →
        document.2.outputPath = some (batch.target document.1).toText ∧
          ∃ written ∈ outcomes paths done, written.2.error = none ∧
            batch.target written.1 = batch.target document.1 ∧
              after.read (batch.target document.1) = .ok (Utf8.encode written.2.content)) ∧
      ((∀ document ∈ outcomes paths done, document.2.error = none → batch.Keeps after document) ↔
        NamedApart (outcomes paths done)) := by
  have hfinished : Finished batch paths (batch.complete paths tree order).1
      (batch.complete paths tree order).2 := finished_of_complete hwrite horder
  refine ⟨_, _, rfl, fst_outcomes hfinished.perm, fun document hdocument herror => ?_,
    hfinished.keeps_iff hbelow hpaths⟩
  exact ⟨(hfinished.compiled hdocument herror).1, hfinished.found hbelow hdocument herror⟩

/-- A batch that writes modules. -/
def writing : Batch := { registry := {}, root := .ofText "in", outDir := .ofText "out" }

/-- Files with a feature below the root, and the output directory. -/
def filesNamed (names : List String) : FileTree :=
  names.foldl (fun tree name =>
    tree.plant [] (.file (Utf8.encode "Feature: F\n")) ["in", name])
    (FileTree.empty.plant [] .directory ["out"])

theorem modules_of_apart :
    let names := ["a.feature", "b.feature"]
    let paths := names.map writing.root.child
    ∃ after done, writing.complete paths (filesNamed names) [1, 0] = (after, done) ∧
      (outcomes paths done).map (·.2.error) = [none, none] ∧
      ∀ document ∈ outcomes paths done, document.2.error = none → writing.Keeps after document := by
  intro names paths
  obtain ⟨after, done, hcomplete, _, _, hkeeps⟩ :=
    modules_of_complete writing (filesNamed names) paths [1, 0] rfl
      (Path.Below.children (by decide)) (by decide) (by decide)
  have hdone : done = (writing.complete paths (filesNamed names) [1, 0]).2 := by rw [hcomplete]
  refine ⟨after, done, hcomplete, ?_, hkeeps.mpr ?_⟩
  · rw [hdone]
    decide +kernel
  · rw [hdone]
    decide +kernel

/-- Two documents may be named so alike that one module is written over the other. -/
theorem exists_overwritten_module :
    let names := ["a-b.feature", "a_b.feature"]
    let paths := names.map writing.root.child
    (∀ path ∈ paths, ∃ above name, Path.Below writing.root path above name) ∧ paths.Nodup ∧
      ∃ after done, writing.complete paths (filesNamed names) [0, 1] = (after, done) ∧
        ∃ document ∈ outcomes paths done, document.2.error = none ∧
          document.2.outputPath = some (writing.target document.1).toText ∧
            ¬ writing.Keeps after document := by
  intro names paths
  have hbelow : ∀ path ∈ paths, ∃ above name, Path.Below writing.root path above name :=
    Path.Below.children (by decide)
  have hpaths : paths.Nodup := by decide
  have hfinished : Finished writing paths (writing.complete paths (filesNamed names) [0, 1]).1
      (writing.complete paths (filesNamed names) [0, 1]).2 := finished_of_complete rfl (by decide)
  -- Only the names are evaluated: the bytes of the modules are long.
  have halike :
      ¬ NamedApart (outcomes paths (writing.complete paths (filesNamed names) [0, 1]).2) := by
    decide +kernel
  have hlost := mt (hfinished.keeps_iff hbelow hpaths).mp halike
  push Not at hlost
  obtain ⟨document, hdocument, herror, hnot⟩ := hlost
  exact ⟨hbelow, hpaths, _, _, rfl, document, hdocument, herror,
    (hfinished.compiled hdocument herror).1, hnot⟩

end FeatureSuite.Batch

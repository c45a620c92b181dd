import FeatureSuite.Batch.Compilation
import Mathlib.Data.List.Perm.Basic

/-!
# Completion of batches

The order in which the documents of a batch are done decides in which order they are counted, and
nothing else: as long as no modules are written, every document has the result that it has alone.
-/

namespace FeatureSuite.Batch

variable {batch : Batch} {tree : FileTree} {paths : List Path} {order : List Nat} {total : Nat}
  {done : List Completion} {completion : Completion}

/-! ## Done documents -/

theorem complete_cons {index : Nat} {path : Path} (hpath : paths[index]? = some path) :
    batch.complete paths tree (index :: order) =
      ((batch.complete paths (batch.generate tree path).1 order).1,
        ⟨index, path, batch.told path (batch.generate tree path).2⟩ ::
          (batch.complete paths (batch.generate tree path).1 order).2) := by
  rw [complete, hpath]

theorem index_complete (hin : ∀ index ∈ order, index < paths.length) :
    (batch.complete paths tree order).2.map (·.index) = order := by
  induction order generalizing tree with
  | nil => rfl
  | cons index order ih =>
      obtain ⟨hindex, horder⟩ := List.forall_mem_cons.mp hin
      rw [complete_cons (List.getElem?_eq_getElem hindex), List.map_cons, ih horder]

theorem path_of_complete (hdone : completion ∈ (batch.complete paths tree order).2) :
    paths[completion.index]? = some completion.path := by
  induction order generalizing tree with
  | nil => cases hdone
  | cons index order ih =>
      cases hpath : paths[index]? with
      | none =>
          rw [complete, hpath] at hdone
          exact ih hdone
      | some path =>
          rw [complete_cons hpath] at hdone
          rcases List.mem_cons.mp hdone with rfl | hdone
          · exact hpath
          · exact ih hdone

/-! ## Results in order -/

private theorem map_some_filterMap {α β : Type} {f : α → Option β} {as : List α}
    (h : ∀ a ∈ as, (f a).isSome) : (as.filterMap f).map some = as.map f := by
  induction as with
  | nil => rfl
  | cons a as ih =>
      obtain ⟨ha, has⟩ := List.forall_mem_cons.mp h
      obtain ⟨b, hb⟩ := Option.isSome_iff_exists.mp ha
      rw [List.filterMap_cons_some hb, List.map_cons, List.map_cons, ih has, hb]

private theorem find?_index (hnodup : (done.map (·.index)).Nodup) (hdone : completion ∈ done) :
    done.find? (fun other => other.index = completion.index) = some completion := by
  induction done with
  | nil => cases hdone
  | cons first done ih =>
      rw [List.map_cons, List.nodup_cons] at hnodup
      rcases List.mem_cons.mp hdone with rfl | hdone
      · exact List.find?_cons_of_pos (by simp)
      · have hne : first.index ≠ completion.index := fun heq =>
          hnodup.1 (heq ▸ List.mem_map_of_mem hdone)
        rw [List.find?_cons_of_neg (by simpa using hne)]
        exact ih hnodup.2 hdone

/-- When every index is done once, every index has a result, and it is that of its document. -/
theorem map_some_results (hdone : (done.map (·.index)).Perm (List.range total)) :
    (results total done).map some = (List.range total).map fun index =>
      (done.find? fun completion => completion.index = index).map (·.result) := by
  refine map_some_filterMap fun index hindex => ?_
  obtain ⟨completion, hcompletion, hindex⟩ := List.mem_map.mp (hdone.mem_iff.mpr hindex)
  rw [← hindex, find?_index (hdone.nodup_iff.mpr List.nodup_range) hcompletion]
  rfl

theorem length_results (hdone : (done.map (·.index)).Perm (List.range total)) :
    (results total done).length = total := by
  rw [← List.length_map (f := some), map_some_results hdone, List.length_map, List.length_range]

theorem getElem?_results (hdone : (done.map (·.index)).Perm (List.range total))
    (hcompletion : completion ∈ done) :
    (results total done)[completion.index]? = some completion.result := by
  have hindex : completion.index < total :=
    List.mem_range.mp (hdone.mem_iff.mp (List.mem_map_of_mem hcompletion))
  have hresult := congrArg (·[completion.index]?) (map_some_results hdone)
  simp only [List.getElem?_map, List.getElem?_range hindex, Option.map_some,
    find?_index (hdone.nodup_iff.mpr List.nodup_range) hcompletion] at hresult
  obtain ⟨result, hresult, hsome⟩ := Option.map_eq_some_iff.mp hresult
  rw [hresult, hsome]

/-! ## Batches that write nothing -/

private theorem generate_readOnly (hwrite : batch.write = false) (path : Path) :
    (batch.generate tree path).1 = tree := by
  simp only [generate, hwrite]
  split <;> rfl

private theorem complete_readOnly (hwrite : batch.write = false) :
    (batch.complete paths tree order).1 = tree ∧
      ∀ completion ∈ (batch.complete paths tree order).2,
        completion.result = batch.told completion.path (batch.generate tree completion.path).2 := by
  induction order with
  | nil => exact ⟨rfl, fun completion hdone => by cases hdone⟩
  | cons index order ih =>
      cases hpath : paths[index]? with
      | none =>
          rw [complete, hpath]
          exact ih
      | some path =>
          rw [complete_cons hpath, generate_readOnly hwrite]
          exact ⟨ih.1, List.forall_mem_cons.mpr ⟨rfl, ih.2⟩⟩

@[simp] private theorem fst_counted (done : List Completion) :
    (counted done).map Prod.fst = (List.range done.length).map (· + 1) := by
  exact List.ext_getElem (by simp [counted]) fun i hi hi' => by simp [counted]

@[simp] private theorem snd_counted (done : List Completion) :
    (counted done).map Prod.snd = done := by
  exact List.ext_getElem (by simp [counted]) fun i hi hi' => by simp [counted]

/-- Whatever the order in which documents are done, each has the result that it has alone, the
results stand in the order of the paths, and every document is counted once, from one up to all. -/
theorem results_of_readOnly (batch : Batch) (tree : FileTree) (paths : List Path)
    (order : List Nat) (hwrite : batch.write = false)
    (horder : order.Perm (List.range paths.length)) :
    ∃ done, batch.complete paths tree order = (tree, done) ∧
      results paths.length done =
        paths.map (fun path => batch.told path (batch.generate tree path).2) ∧
      (counted done).map Prod.fst = (List.range paths.length).map (· + 1) ∧
      (counted done).map (·.2.index) = order ∧
      ∀ call ∈ counted done, paths[call.2.index]? = some call.2.path ∧
        (results paths.length done)[call.2.index]? = some call.2.result := by
  have hindex : (batch.complete paths tree order).2.map (·.index) = order :=
    index_complete fun index hmem => List.mem_range.mp (horder.mem_iff.mp hmem)
  obtain ⟨htree, hresult⟩ := complete_readOnly hwrite
  generalize hdone : (batch.complete paths tree order).2 = done at hindex hresult
  have hperm : (done.map (·.index)).Perm (List.range paths.length) := hindex ▸ horder
  have hpath : ∀ completion ∈ done, paths[completion.index]? = some completion.path :=
    fun completion hmem => path_of_complete (hdone ▸ hmem)
  have hlength : done.length = paths.length := by
    rw [← List.length_map (·.index), hperm.length_eq, List.length_range]
  refine ⟨done, Prod.ext htree hdone, ?_, ?_, ?_, ?_⟩
  · refine List.ext_getElem? fun index => ?_
    by_cases hlt : index < paths.length
    · obtain ⟨completion, hmem, rfl⟩ :=
        List.mem_map.mp (hperm.mem_iff.mpr (List.mem_range.mpr hlt))
      rw [getElem?_results hperm hmem, List.getElem?_map, hpath completion hmem,
        hresult completion hmem, Option.map_some]
    · rw [List.getElem?_eq_none (by simpa [length_results hperm] using hlt),
        List.getElem?_eq_none (by simpa using hlt)]
  · rw [fst_counted, hlength]
  · rw [← hindex, ← snd_counted done, List.map_map, snd_counted]
    rfl
  · intro call hcall
    have hmem : call.2 ∈ done := snd_counted done ▸ List.mem_map_of_mem hcall
    exact ⟨hpath call.2 hmem, getElem?_results hperm hmem⟩

/-- A batch that writes nothing. -/
def readOnly : Batch :=
  { registry := {}, root := .ofText "in", outDir := .ofText "out", write := false }

/-- A document that compiles, one that is not there, and one without a feature. -/
def mixedPaths : List Path :=
  [.ofText "in/a.feature", .ofText "in/b.feature", .ofText "in/c.feature"]

def mixedTree : FileTree :=
  let tree := FileTree.empty.plant [] (.file (Utf8.encode "Feature: A\n")) ["in", "a.feature"]
  tree.plant [] (.file []) ["in", "c.feature"]

theorem results_of_mixed :
    ∃ done, readOnly.complete mixedPaths mixedTree [2, 0, 1] = (mixedTree, done) ∧
      (results mixedPaths.length done).map (fun result => (result.uri, result.error)) =
        [("a.feature", none),
          ("b.feature",
            some "FileNotFoundError: [Errno 2] No such file or directory: 'in/b.feature'"),
          ("c.feature", some "Document without feature: c.feature")] ∧
      (counted done).map Prod.fst = [1, 2, 3] ∧ (counted done).map (·.2.index) = [2, 0, 1] := by
  obtain ⟨done, hdone, hresults, hnumbers, hindexes, _⟩ :=
    results_of_readOnly readOnly mixedTree mixedPaths [2, 0, 1] rfl (by decide)
  refine ⟨done, hdone, ?_, hnumbers, hindexes⟩
  rw [hresults]
  decide +kernel

end FeatureSuite.Batch

import FeatureSuite.Proofs.Batch.Modules

/-!
# What compiling a document changes

A document is compiled before anything is written. So the files stay as they are whenever it cannot
be compiled, and also when modules are not written. Otherwise its module is the only file that
changes, and the directories above it that were missing are the only ones that are made.
-/

namespace FeatureSuite.Batch

open FileTree (SavedAt)

variable {batch : Batch} {tree : FileTree} {path : Path} {file : FeatureFile}

private theorem generate_without_writing (hwrite : batch.write = false)
    (h : batch.compile tree path = .ok file) :
    batch.generate tree path = (tree, .ok (file.result (documentUri path batch.root))) := by
  unfold generate
  dsimp only
  rw [h, hwrite]
  rfl

/-- Nothing changes unless modules are written and the document compiles, in particular not if its
result has an error. If its result has none, its module is written as it is, the directories above
it are there, and everything else is as it was. -/
theorem generate_footprint (batch : Batch) (tree : FileTree) (path : Path) :
    (batch.write = false → (batch.generate tree path).1 = tree) ∧
      (∀ failure, batch.compile tree path = .error failure →
        (batch.generate tree path).1 = tree) ∧
      (∀ result, (batch.generate tree path).2 = .ok result → result.error ≠ none →
        (batch.generate tree path).1 = tree) ∧
      ∀ result, (batch.generate tree path).2 = .ok result → result.error = none →
        batch.write = true →
          result.outputPath = some (batch.target path).toText ∧
            SavedAt (batch.target path) (Utf8.encode result.content) tree
              (batch.generate tree path).1 := by
  cases hcompile : batch.compile tree path with
  | error failure =>
      rw [generate_of_error hcompile]
      refine ⟨fun _ => rfl, fun _ _ => rfl, fun _ _ _ => rfl, fun result hresult herror => ?_⟩
      exact absurd herror (error_of_caught hresult)
  | ok file =>
      have hpath : (file.result (documentUri path batch.root)).outputPath =
          some (batch.target path).toText := by
        rw [FeatureFile.result, (text_of_compile hcompile).1]
        rfl
      cases hwrite : batch.write with
      | false =>
          rw [generate_without_writing hwrite hcompile]
          exact ⟨fun _ => rfl, fun _ _ => rfl, fun _ _ _ => rfl, fun _ _ _ h => Bool.noConfusion h⟩
      | true =>
          rcases generate_with_writing hwrite hcompile with
            ⟨after, fault, hgenerate, _⟩ | ⟨widened, after, hgenerate, hwidens, hwritten⟩
          · rw [hgenerate]
            refine ⟨fun h => ?_, fun _ h => ?_, fun _ h => ?_, fun _ h => ?_⟩ <;> cases h
          · rw [hgenerate]
            refine ⟨fun h => ?_, fun _ h => ?_, fun result hresult herror => ?_,
              fun result hresult _ _ => ?_⟩
            · cases h
            · cases h
            · cases hresult
              exact absurd rfl herror
            · cases hresult
              exact ⟨hpath, FileTree.savedAt_of_write hwidens hwritten⟩

/-- A feature in a directory, and beside the directory a file that is no feature. -/
def nestedFiles : FileTree :=
  let feature : FileEntry := .file (Utf8.encode "Feature: F\n")
  (FileTree.empty.plant [] feature ["in", "shop", "a.feature"]).plant []
    (.file (Utf8.encode "F\n")) ["in", "b.feature"]

/-- No output directory is there at first, and a file that is no feature makes none. -/
theorem footprint_of_nested :
    (∃ result, (writing.generate nestedFiles (.ofText "in/shop/a.feature")).2 = .ok result ∧
        result.error = none ∧ result.outputPath = some "out/shop/test_a.py" ∧
        SavedAt (writing.target (.ofText "in/shop/a.feature")) (Utf8.encode result.content)
          nestedFiles (writing.generate nestedFiles (.ofText "in/shop/a.feature")).1) ∧
      ∃ result, (writing.generate nestedFiles (.ofText "in/b.feature")).2 = .ok result ∧
        result.error ≠ none ∧
          (writing.generate nestedFiles (.ofText "in/b.feature")).1 = nestedFiles := by
  obtain ⟨hwritten, hfailed⟩ :
      (writing.generate nestedFiles (.ofText "in/shop/a.feature")).2.toOption.any (fun result =>
        decide (result.error = none ∧ result.outputPath = some "out/shop/test_a.py")) = true ∧
      (writing.generate nestedFiles (.ofText "in/b.feature")).2.toOption.any (fun result =>
        decide (result.error ≠ none)) = true := by
    decide +kernel
  obtain ⟨written, hresult, hwritten⟩ := exists_ok_of_any hwritten
  obtain ⟨herror, hpath⟩ := of_decide_eq_true hwritten
  obtain ⟨_, _, _, hsaved⟩ := generate_footprint writing nestedFiles (.ofText "in/shop/a.feature")
  obtain ⟨failed, hbroken, hfailed⟩ := exists_ok_of_any hfailed
  obtain ⟨_, _, hkept, _⟩ := generate_footprint writing nestedFiles (.ofText "in/b.feature")
  exact ⟨⟨written, hresult, herror, hpath, (hsaved written hresult herror rfl).2⟩,
    failed, hbroken, of_decide_eq_true hfailed, hkept failed hbroken (of_decide_eq_true hfailed)⟩

end FeatureSuite.Batch

import FeatureSuite.Proofs.Batch.Naming
import FeatureSuite.Proofs.Suite.Build

/-!
# Contents of modules

The text of a module starts with the name of its document. So two documents of one directory can
only have the same text if the name of one goes on with the line that follows in the text of the
other; this line has so many letters that their modules are named differently. Modules at one path
therefore differ.
-/

namespace FeatureSuite

namespace Path

open Text (letters)

variable {path other : Path}

private theorem length_takeWhile_append_le {p : Char → Bool} {c : Char} (hc : p c = false)
    (cs ds : List Char) : ((cs ++ c :: ds).takeWhile p).length ≤ cs.length := by
  induction cs with
  | nil => simp [hc]
  | cons d cs ih =>
      rw [List.cons_append, List.takeWhile_cons]
      split
      · exact Nat.succ_le_succ ih
      · exact Nat.zero_le _

private theorem stem_isPrefix (path : Path) : path.stem.toList <+: path.name.toList := by
  rw [stem]
  split
  · exact List.prefix_refl _
  · rw [String.toList_ofList]
    exact List.take_prefix ..

private theorem isPrefix_stem {before after : List Char}
    (h : path.name.toList = before ++ '.' :: after) :
    before <+: path.stem.toList := by
  rw [stem]
  split
  · rw [h]
    exact List.prefix_append ..
  · have hsuffix := length_takeWhile_append_le (p := (· ≠ '.')) (c := '.') rfl after.reverse
      before.reverse
    rw [String.toList_ofList, h, List.reverse_append, List.reverse_cons, List.append_assoc,
      List.singleton_append]
    rw [List.length_reverse] at hsuffix
    have hlength : before.length ≤ (before ++ '.' :: after).length -
        (((after.reverse ++ '.' :: before.reverse).takeWhile (· ≠ '.')).length + 1) := by
      rw [List.length_append, List.length_cons]
      omega
    have hprefix : (before ++ '.' :: after).take before.length <+: _ :=
      List.take_prefix_take_left hlength
    rwa [List.take_left] at hprefix

private theorem letters_words (path : Path) :
    Text.slugWords path.stem = "" ∧ path.words = "feature" ∨
      letters path.words.toList = letters path.stem.toList := by
  rw [words]
  split
  · rename_i hnone
    exact .inl ⟨hnone, rfl⟩
  · exact .inr (Text.letters_slugWords path.stem)

/-- A name that goes on with more letters than stand in for no words gives another module. -/
theorem moduleName_ne {between after : List Char}
    (h : other.name.toList = path.name.toList ++ between ++ '.' :: after)
    (hmany : "feature".length < (letters between).length) :
    path.moduleName ≠ other.moduleName := by
  intro heq
  have hstem : (letters path.stem.toList).length + (letters between).length ≤
      (letters other.stem.toList).length := by
    have hown := (path.stem_isPrefix.filter Text.isAlphanumeric).length_le
    have hother := ((isPrefix_stem h).filter Text.isAlphanumeric).length_le
    rw [List.filter_append, List.length_append] at hother
    exact Nat.le_trans (Nat.add_le_add_right hown _) hother
  -- The longer name has letters, so its words are not the ones that stand in for none.
  have hother : letters other.words.toList = letters other.stem.toList := by
    refine (letters_words other).resolve_left fun hnone => ?_
    have hletters := Text.letters_slugWords other.stem
    rw [hnone.1] at hletters
    have hzero : (letters "".toList).length = 0 := rfl
    rw [← hletters, hzero] at hstem
    omega
  rw [← hother, ← words_eq_of_moduleName heq] at hstem
  rcases letters_words path with hnone | hwords
  · have hfeature : (letters "feature".toList).length = "feature".length := by decide
    rw [hnone.2, hfeature] at hstem
    omega
  · rw [hwords] at hstem
    omega

end Path

/-! ## Texts of modules -/

/-- The second line of a module. -/
private def notice : String := "# Do not edit, regenerate with \x60featuregen gen\x60."

private theorem Layout.content_of_header (uri : String) (imports lines : List String) :
    ∃ rest, (Text.join "\n" (header uri imports ++ lines) ++ "\n").toList =
      "# Generated from: ".toList ++ (uri.toList ++ '\n' :: (notice.toList ++ '\n' :: rest)) := by
  obtain ⟨first, more, hmore⟩ : ∃ first more,
      header uri imports ++ lines = ("# Generated from: " ++ uri) :: notice :: first :: more :=
    ⟨_, _, rfl⟩
  refine ⟨(Text.join "\n" (first :: more) ++ "\n").toList, ?_⟩
  have htext : Text.join "\n" (header uri imports ++ lines) ++ "\n" =
      "# Generated from: " ++ (uri ++ ("\n" ++ (notice ++ ("\n" ++
        (Text.join "\n" (first :: more) ++ "\n"))))) := by
    rw [hmore, Text.join_cons (by simp), Text.join_cons (by simp)]
    simp only [String.append_assoc]
  rw [htext, String.toList_append, String.toList_append, String.toList_append, String.toList_append,
    String.toList_append]
  rfl

section

variable {cs ds mark rest more : List Char}

private theorem starts_with_line (hmark : '\n' ∉ mark)
    (h : mark ++ '\n' :: rest = cs ++ '\n' :: more) : ∃ after, cs = mark ++ after := by
  rcases List.append_eq_append_iff.mp h with ⟨after, hcs, _⟩ | ⟨missing, hmissing, hrest⟩
  · exact ⟨after, hcs⟩
  · cases missing with
    | nil => exact ⟨[], by simpa using hmissing.symm⟩
    | cons c missing =>
        cases (List.cons.inj hrest).1
        exact absurd (hmissing ▸ List.mem_append_right _ List.mem_cons_self) hmark

private theorem goes_on_with_line {added : List Char} (hmark : '\n' ∉ mark)
    (hds : ds = cs ++ added)
    (h : '\n' :: (mark ++ '\n' :: rest) = added ++ '\n' :: (mark ++ '\n' :: more)) :
    cs = ds ∨ ∃ after, ds = cs ++ '\n' :: (mark ++ after) := by
  cases added with
  | nil => exact .inl (by simpa using hds.symm)
  -- What is added starts with the line feed, and there is no other one inside the line.
  | cons c added =>
      rw [List.cons_append] at h
      obtain ⟨hc, hrest⟩ := List.cons.inj h
      subst hc
      obtain ⟨after, rfl⟩ := starts_with_line hmark hrest
      exact .inr ⟨after, hds⟩

private theorem eq_or_goes_on (hmark : '\n' ∉ mark)
    (h : cs ++ '\n' :: (mark ++ '\n' :: rest) = ds ++ '\n' :: (mark ++ '\n' :: more)) :
    cs = ds ∨ (∃ after, ds = cs ++ '\n' :: (mark ++ after)) ∨
      ∃ after, cs = ds ++ '\n' :: (mark ++ after) := by
  rcases List.append_eq_append_iff.mp h with ⟨added, hds, hrest⟩ | ⟨added, hcs, hrest⟩
  · exact (goes_on_with_line hmark hds hrest).imp id .inl
  · exact (goes_on_with_line hmark hcs hrest).imp Eq.symm .inr

end

variable {batch : Batch} {tree later : FileTree} {path other : Path} {file second : FeatureFile}
  {above aside : List String} {name : String}

private theorem uri_of_load {root : Path} {loaded : LoadedDocument}
    (h : loadDocument tree path root = .ok loaded) :
    loaded.document.uri = some (documentUri path root) := by
  obtain ⟨bytes, _, h⟩ := bind_eq_ok.mp h
  split at h
  · cases h
  · unfold parseDocument at h
    split at h
    · cases h
    · dsimp only at h
      split at h
      · cases h
      · cases h
        rfl

namespace Batch

/-- A module that is compiled knows where it goes, and its text starts with the name of the
document. -/
theorem text_of_compile (h : batch.compile tree path = .ok file) :
    file.outputPath = some (batch.target path) ∧
      ∃ rest, file.content.toList = "# Generated from: ".toList ++
        ((documentUri path batch.root).toList ++ '\n' :: (notice.toList ++ '\n' :: rest)) := by
  obtain ⟨loaded, hloaded, h⟩ := bind_eq_ok.mp h
  obtain ⟨keywords, uri, root, _, hsource, hpath, hlines⟩ := FeatureFile.text_of_build h
  rw [FeatureFile.sourceFile, uri_of_load hloaded] at hsource
  dsimp only at hsource
  split at hsource
  · cases hsource
  · cases hsource
    refine ⟨hpath, ?_⟩
    rw [FeatureFile.content, hlines, List.append_assoc]
    exact Layout.content_of_header ..

private theorem moduleName_ne_of_goes_on {second : String} {after : List Char}
    (hpath : Path.Below batch.root path above name)
    (hother : Path.Below batch.root other above second)
    (h : (Path.joinParts (above ++ [second])).toList =
      (Path.joinParts (above ++ [name])).toList ++ '\n' :: (notice.toList ++ after)) :
    path.moduleName ≠ other.moduleName := by
  rw [Path.toList_joinParts_concat, Path.toList_joinParts_concat, List.append_assoc] at h
  have hdot : notice.toList = notice.toList.dropLast ++ ['.'] := by decide
  have hname : other.name.toList =
      path.name.toList ++ '\n' :: notice.toList.dropLast ++ '.' :: after := by
    rw [hpath.name_eq, hother.name_eq, List.append_cancel_left h]
    conv_lhs => rw [hdot]
    simp
  exact Path.moduleName_ne hname (by decide)

/-- Modules of different documents at one path differ. -/
theorem content_ne {second : String} {compiled : FeatureFile}
    (hpath : Path.Below batch.root path above name)
    (hother : Path.Below batch.root other aside second) (hne : path ≠ other)
    (htarget : batch.target path = batch.target other)
    (hfile : batch.compile tree path = .ok file)
    (hcompiled : batch.compile later other = .ok compiled) : file.content ≠ compiled.content := by
  intro heq
  obtain ⟨hparent, hmodule⟩ := (target_eq_iff hpath hother).mp htarget
  obtain rfl := (hpath.parent_eq_iff hother).mp hparent
  obtain ⟨_, rest, hrest⟩ := text_of_compile hfile
  obtain ⟨_, more, hmore⟩ := text_of_compile hcompiled
  rw [heq, hmore, hpath.uri, hother.uri] at hrest
  rcases eq_or_goes_on (by decide) (List.append_cancel_left hrest) with
    hsame | ⟨after, hafter⟩ | ⟨after, hafter⟩
  · rw [Path.toList_joinParts_concat, Path.toList_joinParts_concat] at hsame
    have hname : second = name := String.toList_inj.mp (List.append_cancel_left hsame)
    exact hne (by rw [hpath.eq, hother.eq, hname])
  · exact moduleName_ne_of_goes_on hother hpath hafter hmodule.symm
  · exact moduleName_ne_of_goes_on hpath hother hafter hmodule

end Batch

end FeatureSuite

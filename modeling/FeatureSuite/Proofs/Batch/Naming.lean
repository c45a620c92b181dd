import FeatureSuite.Batch.Compilation
import FeatureSuite.Proofs.Files.Writing

/-!
# Names of modules

A document that is found below the root is named by the names on the way, and these can be read back
from its name. So its module goes to the same directory below the output directory, and two modules
go to the same place exactly if their documents are in one directory and the words of their names
agree.
-/

namespace FeatureSuite

namespace Path

/-- What names an entry of a directory. -/
structure IsName (name : String) : Prop where
  nonempty : name ≠ ""
  notHere : name ≠ "."
  notAbove : name ≠ ".."
  noSlash : '/' ∉ name.toList

instance (name : String) : Decidable (IsName name) :=
  decidable_of_iff (name ≠ "" ∧ name ≠ "." ∧ name ≠ ".." ∧ '/' ∉ name.toList)
    ⟨fun ⟨h, hhere, habove, hslash⟩ => ⟨h, hhere, habove, hslash⟩,
      fun h => ⟨h.nonempty, h.notHere, h.notAbove, h.noSlash⟩⟩

variable {names : List String} {path other root : Path}

theorem toList_joinParts {first : String} {rest : List String} (h : rest ≠ []) :
    (joinParts (first :: rest)).toList = first.toList ++ '/' :: (joinParts rest).toList := by
  rw [joinParts, Text.join_cons h, String.toList_append, String.toList_append, List.append_assoc]
  rfl

theorem toList_joinParts_concat (above : List String) (name : String) :
    (joinParts (above ++ [name])).toList =
      above.flatMap (fun part => part.toList ++ ['/']) ++ name.toList := by
  induction above with
  | nil => rfl
  | cons part above ih =>
      rw [List.cons_append, toList_joinParts (by simp), ih, List.flatMap_cons, List.append_assoc,
        List.append_assoc, List.singleton_append]

private theorem splitOnChar_joinParts (hne : names ≠ []) (hnames : ∀ name ∈ names, IsName name) :
    (Text.splitOnChar '/' (joinParts names).toList).map String.ofList = names := by
  induction names with
  | nil => exact absurd rfl hne
  | cons name names ih =>
      obtain ⟨hname, hrest⟩ := List.forall_mem_cons.mp hnames
      by_cases hnil : names = []
      · subst hnil
        rw [joinParts, Text.join, Text.splitOnChar_of_notMem hname.noSlash]
        simp
      · rw [toList_joinParts hnil, Text.splitOnChar_append hname.noSlash, List.map_cons,
          ih hnil hrest, String.ofList_toList]

private theorem head?_joinParts (hnames : ∀ name ∈ names, IsName name) :
    (joinParts names).toList.head? ≠ some '/' := by
  intro h
  cases names with
  | nil => cases h
  | cons name names =>
      have hname := hnames name List.mem_cons_self
      have hhead : name.toList.head? = some '/' := by
        have hne : name.toList ≠ [] := fun hnil => hname.nonempty (String.toList_eq_nil_iff.mp hnil)
        by_cases hnil : names = []
        · subst hnil
          exact h
        · rwa [toList_joinParts hnil, List.head?_append, List.head?_eq_some_head hne,
            Option.some_or, ← List.head?_eq_some_head hne] at h
      exact hname.noSlash (List.mem_of_mem_head? hhead)

private theorem ofText_joinParts (hne : names ≠ []) (hnames : ∀ name ∈ names, IsName name) :
    ofText (joinParts names) = { parts := names } := by
  have hkept : names.filter (fun part => part ≠ "" && part ≠ ".") = names :=
    List.filter_eq_self.mpr fun name hname => by
      simp [(hnames name hname).nonempty, (hnames name hname).notHere]
  rw [ofText_of_relative (head?_joinParts hnames), splitOnChar_joinParts hne hnames, hkept]

@[simp] theorem partsAfter?_append (before after : List String) :
    partsAfter? before (before ++ after) = some after := by
  induction before with
  | nil => rfl
  | cons name before ih => rw [List.cons_append, partsAfter?, if_pos rfl, ih]

/-- A path that leads to a name below another one, through directories. -/
structure Below (root path : Path) (above : List String) (name : String) : Prop where
  isName : ∀ part ∈ above ++ [name], IsName part
  eq : path = { root with parts := root.parts ++ (above ++ [name]) }

/-! ## Modules -/

theorem words_eq_of_moduleName (h : path.moduleName = other.moduleName) :
    path.words = other.words := by
  have hlist : ("test_" ++ path.words ++ ".py").toList = ("test_" ++ other.words ++ ".py").toList :=
    congrArg String.toList h
  simp only [String.toList_append] at hlist
  exact String.toList_inj.mp (List.append_cancel_left (List.append_cancel_right hlist))

private theorem moduleName_ne_above (path : Path) : path.moduleName ≠ ".." := by
  intro h
  have hhead := congrArg (·.toList.head?) h
  rw [moduleName, String.toList_append, String.toList_append, List.head?_append] at hhead
  cases hhead

namespace Below

variable {above aside : List String} {name second : String}

theorem children (hnames : ∀ name ∈ names, IsName name) :
    ∀ path ∈ names.map root.child, ∃ above name, Below root path above name := by
  rw [List.forall_mem_map]
  exact fun name hname => ⟨[], name, by simpa using hnames name hname, rfl⟩

theorem uri (h : Below root path above name) :
    documentUri path root = joinParts (above ++ [name]) := by
  simp [documentUri, relativeTo?, h.eq, partsAfter?_append, toText]

private theorem parent (h : Below root path above name) :
    path.parent = { root with parts := root.parts ++ above } := by
  rw [Path.parent, h.eq, ← List.append_assoc, List.dropLast_concat]

theorem parent_eq_iff (hpath : Below root path above name)
    (hother : Below root other aside second) : path.parent = other.parent ↔ above = aside := by
  rw [hpath.parent, hother.parent]
  simp

theorem name_eq (h : Below root path above name) : path.name = name := by
  rw [Path.name, h.eq, ← List.append_assoc, List.getLast?_concat]
  rfl

private theorem moduleName_eq (h : Below root path above name) :
    path.moduleName = moduleName { parts := above ++ [name] } := by
  have hname : path.name = Path.name { parts := above ++ [name] } := by
    rw [h.name_eq, Path.name, List.getLast?_concat]
    rfl
  rw [moduleName, moduleName, words, words, stem, stem, hname]

private theorem ofText_uri (h : Below root path above name) :
    ofText (documentUri path root) = { parts := above ++ [name] } := by
  rw [h.uri]
  exact ofText_joinParts (by simp) h.isName

end Below

end Path

private theorem FileTree.placeOf_append {above names : List String} (h : ".." ∉ names) :
    placeOf (above ++ names) = placeOf above ++ names := by
  induction names generalizing above with
  | nil => simp
  | cons name names ih =>
      obtain ⟨hname, hnames⟩ := not_or.mp (mt List.mem_cons.mpr h)
      rw [List.append_cons, ih hnames, placeOf, placeOf, List.foldl_append, List.foldl_cons,
        List.foldl_nil, step, if_neg (Ne.symm hname), List.append_assoc, List.singleton_append]

namespace Batch

/-- Where the module for a document goes. -/
def target (batch : Batch) (path : Path) : Path :=
  outputPath (documentUri path batch.root) batch.outDir

variable {batch : Batch} {above aside : List String} {name second : String} {path other : Path}

private theorem target_of_below (h : Path.Below batch.root path above name) :
    batch.target path =
      { batch.outDir with parts := batch.outDir.parts ++ (above ++ [path.moduleName]) } := by
  have hparent : Path.parent { parts := above ++ [name] } = { parts := above } := by
    rw [Path.parent, List.dropLast_concat]
  rw [target, outputPath, h.ofText_uri, hparent, ← List.append_assoc, h.moduleName_eq]
  rfl

/-- Modules go to one path exactly if their documents are in one directory and their names agree. -/
theorem target_eq_iff (hpath : Path.Below batch.root path above name)
    (hother : Path.Below batch.root other aside second) :
    batch.target path = batch.target other ↔
      path.parent = other.parent ∧ path.moduleName = other.moduleName := by
  rw [target_of_below hpath, target_of_below hother, hpath.parent_eq_iff hother]
  constructor
  · intro h
    have hparts := List.append_cancel_left (congrArg Path.parts h)
    obtain ⟨habove, hmodule⟩ := List.append_inj' hparts (by simp)
    exact ⟨habove, List.singleton_inj.mp hmodule⟩
  · rintro ⟨rfl, hmodule⟩
    rw [hmodule]

theorem target_eq_of_place (hpath : Path.Below batch.root path above name)
    (hother : Path.Below batch.root other aside second)
    (h : FileTree.placeOf (batch.target path).parts = FileTree.placeOf (batch.target other).parts) :
    batch.target path = batch.target other := by
  have hnone {path : Path} {above : List String} {name : String}
      (hpath : Path.Below batch.root path above name) : ".." ∉ above ++ [path.moduleName] := by
    intro hmem
    rcases List.mem_append.mp hmem with hmem | hmem
    · exact (hpath.isName _ (List.mem_append_left _ hmem)).notAbove rfl
    · exact path.moduleName_ne_above (List.mem_singleton.mp hmem).symm
  rw [target_of_below hpath, target_of_below hother] at h ⊢
  rw [FileTree.placeOf_append (hnone hpath), FileTree.placeOf_append (hnone hother)] at h
  rw [List.append_cancel_left h]

end Batch

end FeatureSuite

import FeatureSuite.Files.Discovery
import FeatureSuite.Proofs.Batch.Naming
import FeatureSuite.Proofs.Outcome
import Mathlib.Data.List.MinMax
import Mathlib.Data.List.Sort
import Mathlib.Data.String.Basic
import Mathlib.Order.Nat

/-!
# Found files

The search for feature files finds each regular file below the root that has the right name and that
no ignore pattern leaves out, once. The paths are strictly ascending, name by name, so the order in
which the directories list their names makes no difference.
-/

namespace FeatureSuite

/-! ## The order of paths -/

private theorem Path.go_iff (a b : List String) : Path.before.go a b = true ↔ a < b := by
  induction a generalizing b with
  | nil => cases b <;> simp [Path.before.go]
  | cons x a ih =>
      cases b with
      | nil => simp [Path.before.go]
      | cons y b =>
          rw [Path.before.go, List.cons_lt_cons_iff]
          split
          · rename_i heq
            subst heq
            rw [ih]
            simp
          · rename_i hne
            simp [hne]

private theorem namesUpTo_iff {a b : List String} : namesUpTo a b = true ↔ a ≤ b := by
  have hgo : namesUpTo a b = !Path.before.go b a := by simp [namesUpTo, Path.before]
  rw [hgo, Bool.not_eq_true', ← Bool.not_eq_true, Path.go_iff, not_lt]

private theorem pairwise_mergeSort_namesUpTo {found : List (List String)} (h : found.Nodup) :
    (found.mergeSort namesUpTo).Pairwise (· < ·) := by
  have hsorted : (found.mergeSort namesUpTo).Pairwise (· ≤ ·) := by
    refine (@List.pairwise_mergeSort _ namesUpTo ?_ ?_ found).imp namesUpTo_iff.mp
    · intro a b c hab hbc
      exact namesUpTo_iff.mpr ((namesUpTo_iff.mp hab).trans (namesUpTo_iff.mp hbc))
    · intro a b
      rw [Bool.or_eq_true, namesUpTo_iff, namesUpTo_iff]
      exact le_total a b
  have hnodup : (found.mergeSort namesUpTo).Nodup := (List.mergeSort_perm _ _).nodup_iff.mpr h
  exact (hsorted.and hnodup).imp fun ⟨hle, hne⟩ => lt_of_le_of_ne hle hne

/-! ## Names -/

private theorem isFeatureName_iff {name : String} :
    isFeatureName name = true ↔ featureEnding.toList <:+ name.toList := by
  rw [isFeatureName, Option.isSome_iff_exists, ← List.reverse_prefix]
  constructor
  · rintro ⟨rest, h⟩
    exact ⟨rest, (Text.eq_append_of_afterStart? h).symm⟩
  · rintro ⟨rest, h⟩
    exact ⟨rest, h ▸ Text.afterStart?_append _ rest⟩

def IgnorePattern.Matches (pattern : IgnorePattern) (path : String) : Prop :=
  pattern.regex.occursIn path.toList.toArray = true

/-- A path is left out if the last of the patterns that it matches does not keep it. -/
def IsIgnored (patterns : List IgnorePattern) (path : String) : Prop :=
  ∃ front pattern back, patterns = front ++ pattern :: back ∧ pattern.Matches path ∧
    pattern.keeps = false ∧ ∀ later ∈ back, ¬later.Matches path

private theorem find?_reverse_eq_some {α : Type} {p : α → Bool} {items : List α} {found : α} :
    items.reverse.find? p = some found ↔
      ∃ front back, items = front ++ found :: back ∧ p found = true ∧
        ∀ later ∈ back, ¬p later = true := by
  rw [List.find?_eq_some_iff_append]
  constructor
  · rintro ⟨hfound, back, front, hitems, hback⟩
    refine ⟨front.reverse, back.reverse, ?_, hfound, fun later hlater => ?_⟩
    · rw [← List.reverse_reverse items, hitems]
      simp
    · simpa using hback later (List.mem_reverse.mp hlater)
  · rintro ⟨front, back, rfl, hfound, hback⟩
    refine ⟨hfound, back.reverse, front.reverse, by simp, fun later hlater => ?_⟩
    simpa using hback later (List.mem_reverse.mp hlater)

private theorem isIgnored_iff {patterns : List IgnorePattern} {path : String} :
    isIgnored patterns path = true ↔ IsIgnored patterns path := by
  rw [isIgnored, IsIgnored]
  constructor
  · intro h
    split at h
    · rename_i pattern hfind
      obtain ⟨front, back, heq, hmatches, hback⟩ := find?_reverse_eq_some.mp hfind
      exact ⟨front, pattern, back, heq, hmatches, by simpa using h, hback⟩
    · cases h
  · rintro ⟨front, pattern, back, heq, hmatches, hkeeps, hback⟩
    have hfind : patterns.reverse.find? (fun pattern =>
        pattern.regex.occursIn path.toList.toArray) = some pattern :=
      find?_reverse_eq_some.mpr ⟨front, back, heq, hmatches, hback⟩
    rw [hfind]
    simp [hkeeps]

/-! ## What is below a directory -/

private theorem Path.partsAfter?_eq_some {before parts after : List String} :
    Path.partsAfter? before parts = some after ↔ parts = before ++ after := by
  constructor
  · intro h
    induction before generalizing parts with
    | nil => exact Option.some.inj h
    | cons name before ih =>
        cases parts with
        | nil => cases h
        | cons part parts =>
            rw [Path.partsAfter?] at h
            split at h
            · rename_i heq
              rw [List.cons_append, ih h, heq]
            · cases h
  · rintro rfl
    exact Path.partsAfter?_append before after

namespace FileTree

variable {tree other : FileTree} {place : Place} {names : List String} {name : String} {depth : Nat}

private theorem mem_places_of_get? (hne : place ≠ []) (h : (tree.get? place).isSome = true) :
    place ∈ tree.entries.map Prod.fst := by
  rw [get?, if_neg (by simpa using hne), Option.isSome_map, List.find?_isSome] at h
  obtain ⟨entry, hentry, heq⟩ := h
  exact List.mem_map.mpr ⟨entry, hentry, by simpa using heq⟩

private theorem get?_of_mem_places (h : place ∈ tree.entries.map Prod.fst) :
    (tree.get? place).isSome = true := by
  rw [get?]
  split
  · rfl
  · obtain ⟨entry, hentry, heq⟩ := List.mem_map.mp h
    rw [Option.isSome_map, List.find?_isSome]
    exact ⟨entry, hentry, by simpa using heq⟩

private theorem nameAfter?_eq_some {other : Place} :
    nameAfter? place other = some name ↔ other = place ++ [name] := by
  rw [← Path.partsAfter?_eq_some, nameAfter?]
  constructor
  · intro h
    split at h
    · rename_i hparts
      rw [hparts, Option.some.inj h]
    · cases h
  · intro h
    rw [h]

private theorem mem_namesIn :
    name ∈ tree.namesIn place ↔ (tree.get? (place ++ [name])).isSome = true := by
  rw [namesIn, List.mem_filterMap]
  constructor
  · rintro ⟨other, hother, hname⟩
    exact get?_of_mem_places (nameAfter?_eq_some.mp hname ▸ hother)
  · intro h
    exact ⟨_, mem_places_of_get? (by simp) h, nameAfter?_eq_some.mpr rfl⟩

private theorem nodup_namesIn : (tree.namesIn place).Nodup := by
  rw [namesIn]
  refine tree.nodup.filterMap fun a b name ha hb => ?_
  rw [nameAfter?_eq_some.mp ha, nameAfter?_eq_some.mp hb]

/-- There are directories on the way that names lead from a place. -/
def Reaches (tree : FileTree) (place : Place) (names : List String) : Prop :=
  ∀ front, front <+: names → front ≠ names → tree.get? (place ++ front) = some .directory

private theorem reaches_nil : tree.Reaches place [] :=
  fun _ hfront hne => absurd (List.prefix_nil.mp hfront) hne

private theorem Reaches.directory (h : tree.Reaches place names) (hne : names ≠ []) :
    tree.get? place = some .directory := by
  have hplace := h [] List.nil_prefix hne.symm
  rwa [List.append_nil] at hplace

private theorem reaches_cons :
    tree.Reaches place (name :: names) ↔
      tree.get? place = some .directory ∧ tree.Reaches (place ++ [name]) names := by
  constructor
  · intro h
    refine ⟨h.directory (List.cons_ne_nil _ _), fun front hfront hne => ?_⟩
    have hbehind := h (name :: front) (List.cons_prefix_cons.mpr ⟨rfl, hfront⟩)
      fun heq => hne (List.cons.inj heq).2
    rwa [List.append_cons place name front] at hbehind
  · rintro ⟨hplace, h⟩ front hfront hne
    rcases List.prefix_cons_iff.mp hfront with rfl | ⟨rest, rfl, hrest⟩
    · rwa [List.append_nil]
    · rw [List.append_cons place name rest]
      exact h rest hrest fun heq => hne (congrArg _ heq)

private theorem mem_below_succ (hplace : tree.get? place = some .directory) :
    name :: names ∈ tree.below (depth + 1) place ↔
      name ∈ tree.namesIn place ∧ (names = [] ∨ names ∈ tree.below depth (place ++ [name])) := by
  rw [below, if_pos hplace]
  simp only [List.mem_append, List.mem_map, List.mem_flatMap, List.cons.injEq]
  constructor
  · rintro (⟨_, hname, rfl, rfl⟩ | ⟨_, hname, _, hrest, rfl, rfl⟩)
    · exact ⟨hname, .inl rfl⟩
    · exact ⟨hname, .inr hrest⟩
  · rintro ⟨hname, rfl | hrest⟩
    · exact .inl ⟨name, hname, rfl, rfl⟩
    · exact .inr ⟨name, hname, names, hrest, rfl, rfl⟩

private theorem nil_notMem_below : [] ∉ tree.below depth place := by
  cases depth with
  | zero => exact List.not_mem_nil
  | succ depth =>
      rw [below]
      split <;> simp

/-- The search goes to every place that directories lead to, as deep as it may. -/
theorem mem_below :
    names ∈ tree.below depth place ↔ names ≠ [] ∧ names.length ≤ depth ∧
      tree.Reaches place names ∧ (tree.get? (place ++ names)).isSome = true := by
  induction names generalizing depth place with
  | nil => simp [nil_notMem_below]
  | cons name names ih =>
      cases depth with
      | zero => simp [below]
      | succ depth =>
          by_cases hplace : tree.get? place = some .directory
          · rw [mem_below_succ hplace, mem_namesIn, ih, reaches_cons,
              List.append_cons place name names]
            by_cases hnil : names = []
            · simp [hnil, hplace, reaches_nil]
            · have hname (h : tree.Reaches (place ++ [name]) names) :
                  (tree.get? (place ++ [name])).isSome = true := by
                rw [h.directory hnil]
                rfl
              simp only [hnil, hplace, false_or, true_and, ne_eq, not_false_eq_true, reduceCtorEq,
                List.length_cons, Nat.add_le_add_iff_right]
              exact ⟨And.right, fun h => ⟨hname h.2.1, h⟩⟩
          · rw [below, if_neg hplace, reaches_cons]
            simp [hplace]

/-- Nothing is found twice. -/
theorem nodup_below : (tree.below depth place).Nodup := by
  induction depth generalizing place with
  | zero => exact List.nodup_nil
  | succ depth ih =>
      rw [below]
      split
      · have hinside (name : String) :
            ((tree.below depth (place ++ [name])).map (name :: ·)).Nodup :=
          ih.map fun _ _ h => (List.cons.inj h).2
        refine List.nodup_append.mpr ⟨?_, ?_, ?_⟩
        · exact nodup_namesIn.map fun _ _ h => (List.cons.inj h).1
        · refine List.nodup_flatMap.mpr ⟨fun name _ => hinside name, ?_⟩
          refine nodup_namesIn.imp fun hne names hleft hright => ?_
          obtain ⟨left, _, rfl⟩ := List.mem_map.mp hleft
          obtain ⟨right, _, h⟩ := List.mem_map.mp hright
          exact hne (List.cons.inj h).1.symm
        · -- What is in the directory has one name, what is further below has more.
          rintro _ hhere _ hfurther rfl
          obtain ⟨name, _, rfl⟩ := List.mem_map.mp hhere
          obtain ⟨above, _, hbelow⟩ := List.mem_flatMap.mp hfurther
          obtain ⟨rest, hrest, h⟩ := List.mem_map.mp hbelow
          rw [(List.cons.inj h).2] at hrest
          exact nil_notMem_below hrest
      · exact List.nodup_nil

private theorem length_le_depth (hne : place ≠ []) (h : (tree.get? place).isSome = true) :
    place.length ≤ tree.depth := by
  have hlength : place.length ∈ tree.entries.map (·.1.length) := by
    have hplace := List.mem_map_of_mem (f := List.length) (mem_places_of_get? hne h)
    rwa [List.map_map] at hplace
  exact List.le_max_of_le hlength (Nat.le_refl _)

private theorem mem_below_depth :
    names ∈ tree.below tree.depth place ↔
      names ≠ [] ∧ tree.Reaches place names ∧ (tree.get? (place ++ names)).isSome = true := by
  rw [mem_below]
  refine ⟨fun ⟨hne, _, h⟩ => ⟨hne, h⟩, fun ⟨hne, h⟩ => ⟨hne, ?_, h⟩⟩
  have hdepth := length_le_depth (List.append_ne_nil_of_right_ne_nil place hne) h.2
  rw [List.length_append] at hdepth
  omega

private theorem walk_congr (h : ∀ place, other.get? place = tree.get? place) :
    other.walk place names = tree.walk place names := by
  induction names generalizing place with
  | nil => rfl
  | cons name names ih =>
      rw [walk, walk, h]
      split
      · rfl
      · rfl
      · exact ih

private theorem isFile_iff :
    tree.isFile place = true ↔ ∃ bytes, tree.get? place = some (.file bytes) := by
  unfold isFile
  split
  · rename_i bytes h
    simp [h]
  · rename_i h
    simpa using h

end FileTree

/-! ## What is found -/

/-- Names lead from a place to a feature file that no ignore pattern leaves out. -/
structure IsFeatureAt (tree : FileTree) (patterns : List IgnorePattern) (place : Place)
    (names : List String) : Prop where
  reaches : tree.Reaches place names
  file : ∃ bytes, tree.get? (place ++ names) = some (.file bytes)
  ending : ∃ above name, names = above ++ [name] ∧ featureEnding.toList <:+ name.toList
  kept : ¬IsIgnored patterns (Path.joinParts names)

private theorem isFeature_iff {patterns : List IgnorePattern} {names : List String} :
    isFeature patterns names = true ↔
      (∃ above name, names = above ++ [name] ∧ featureEnding.toList <:+ name.toList) ∧
        ¬IsIgnored patterns (Path.joinParts names) := by
  rw [← isIgnored_iff, Bool.not_eq_true, isFeature]
  constructor
  · intro h
    split at h
    · cases h
    · rename_i name hname
      obtain ⟨above, rfl⟩ := List.getLast?_eq_some_iff.mp hname
      rw [Bool.and_eq_true, Bool.not_eq_true', isFeatureName_iff] at h
      exact ⟨⟨above, name, rfl, h.1⟩, h.2⟩
  · rintro ⟨⟨above, name, rfl, hname⟩, hkept⟩
    rw [List.getLast?_concat]
    dsimp only
    rw [Bool.and_eq_true, Bool.not_eq_true', isFeatureName_iff]
    exact ⟨hname, hkept⟩

section Found

variable {tree other : FileTree} {root : Path} {patterns : List IgnorePattern} {place : Place}
  {names : List String}

private theorem mem_discoverNames :
    names ∈ discoverNames tree root patterns ↔
      ∃ place, tree.locate root = .ok place ∧ IsFeatureAt tree patterns place names := by
  unfold discoverNames
  split
  · rename_i fault hroot
    simp [hroot]
  · rename_i place hroot
    rw [hroot]
    simp only [Except.ok.injEq, exists_eq_left']
    rw [(List.mergeSort_perm _ _).mem_iff, List.mem_filter, FileTree.mem_below_depth,
      Bool.and_eq_true, isFeature_iff, FileTree.isFile_iff]
    constructor
    · rintro ⟨⟨_, hreaches, _⟩, ⟨hending, hkept⟩, hfile⟩
      exact ⟨hreaches, hfile, hending, hkept⟩
    · rintro ⟨hreaches, ⟨bytes, hfile⟩, hending, hkept⟩
      have hne : names ≠ [] := by
        obtain ⟨above, name, rfl, _⟩ := hending
        simp
      exact ⟨⟨hne, hreaches, by rw [hfile]; rfl⟩, ⟨hending, hkept⟩, bytes, hfile⟩

private theorem pairwise_discoverNames : (discoverNames tree root patterns).Pairwise (· < ·) := by
  unfold discoverNames
  split
  · exact List.Pairwise.nil
  · exact pairwise_mergeSort_namesUpTo (FileTree.nodup_below.filter _)

private theorem IsFeatureAt.congr (h : ∀ place, other.get? place = tree.get? place)
    (hfeature : IsFeatureAt tree patterns place names) :
    IsFeatureAt other patterns place names where
  reaches front hfront hne := (h _).trans (hfeature.reaches front hfront hne)
  file := hfeature.file.imp fun _ hfile => (h _).trans hfile
  ending := hfeature.ending
  kept := hfeature.kept

/-- Trees with the same at every place are searched alike, however they list it. -/
theorem discoverNames_congr (h : ∀ place, other.get? place = tree.get? place) :
    discoverNames other root patterns = discoverNames tree root patterns := by
  have hroot : other.locate root = tree.locate root := FileTree.walk_congr h
  -- Strictly ascending lists are equal if they have the same members.
  refine pairwise_discoverNames.eq_of_mem_iff pairwise_discoverNames fun names => ?_
  rw [mem_discoverNames, mem_discoverNames, hroot]
  constructor
  · rintro ⟨place, hplace, hfeature⟩
    exact ⟨place, hplace, hfeature.congr fun place => (h place).symm⟩
  · rintro ⟨place, hplace, hfeature⟩
    exact ⟨place, hplace, hfeature.congr h⟩

end Found

/-- The search succeeds unless a line is no ignore pattern. Its paths are strictly ascending, name by
name, so each is found once, and they lead to the feature files below the root that no pattern
leaves out. They are the same in whatever order the directories list their names. -/
theorem features_of_discover (tree : FileTree) (root : Path) (ignore : List String) :
    match IgnorePattern.ofLines ignore with
    | .error fault => discover tree root ignore = .error fault
    | .ok patterns =>
        ∃ paths, discover tree root ignore = .ok paths ∧
          paths.Pairwise (fun a b => a.parts < b.parts) ∧
          (∀ path, path ∈ paths ↔ ∃ place names, tree.locate root = .ok place ∧
            IsFeatureAt tree patterns place names ∧
              path = { root with parts := root.parts ++ names }) ∧
          ∀ other : FileTree, (∀ place, other.get? place = tree.get? place) →
            discover other root ignore = .ok paths := by
  cases hpatterns : IgnorePattern.ofLines ignore with
  | error fault =>
      dsimp only
      rw [discover, hpatterns]
      rfl
  | ok patterns =>
      have hdiscover (tree : FileTree) : discover tree root ignore =
          .ok ((discoverNames tree root patterns).map fun names =>
            { root with parts := root.parts ++ names }) := by
        rw [discover, hpatterns]
        rfl
      refine ⟨_, hdiscover tree, ?_, fun path => ?_, fun other hother => ?_⟩
      · rw [List.pairwise_map]
        exact pairwise_discoverNames.imp fun hlt => List.Lex.append_left (· < ·) hlt root.parts
      · simp only [List.mem_map, mem_discoverNames]
        constructor
        · rintro ⟨names, ⟨place, hroot, hfeature⟩, rfl⟩
          exact ⟨place, names, hroot, hfeature, rfl⟩
        · rintro ⟨place, names, hroot, hfeature, rfl⟩
          exact ⟨names, ⟨place, hroot, hfeature⟩, rfl⟩
      · rw [hdiscover other, discoverNames_congr hother]

/-- A directory that is named like a feature file, and one that is left out but for one file. -/
def draftedFiles : FileTree :=
  let feature : FileEntry := .file (Utf8.encode "Feature: F\n")
  [["work", "x.feature", "inner.feature"], ["work", "notes.txt"], ["work", "drafts", "wip.feature"],
    ["work", "b.feature"], ["work", "drafts", "kept.feature"]].foldl
      (fun tree place => tree.plant [] feature place) FileTree.empty

/-- The file that is kept is found below the directory that is left out, whatever the order. -/
theorem features_of_drafted :
    ∃ paths, discover draftedFiles (.ofText "work") ["drafts/", "!kept.feature"] = .ok paths ∧
      paths.map Path.parts =
        [["work", "b.feature"], ["work", "drafts", "kept.feature"],
          ["work", "x.feature", "inner.feature"]] ∧
      ∀ other : FileTree, (∀ place, other.get? place = draftedFiles.get? place) →
        discover other (.ofText "work") ["drafts/", "!kept.feature"] = .ok paths := by
  have hcheck : (IgnorePattern.ofLines ["drafts/", "!kept.feature"]).toOption.any (fun patterns =>
      decide ((draftedFiles.below draftedFiles.depth ["work"]).filter (fun names =>
          isFeature patterns names && draftedFiles.isFile (["work"] ++ names)) =
        [["b.feature"], ["x.feature", "inner.feature"], ["drafts", "kept.feature"]])) = true := by
    decide +kernel
  obtain ⟨patterns, hpatterns, hfound⟩ := exists_ok_of_any hcheck
  have hroot : draftedFiles.locate (.ofText "work") = .ok ["work"] := by decide +kernel
  have hsorted : discoverNames draftedFiles (.ofText "work") patterns =
      [["b.feature"], ["drafts", "kept.feature"], ["x.feature", "inner.feature"]] := by
    have hfirst : namesUpTo ["b.feature"] ["x.feature", "inner.feature"] = true := by decide +kernel
    have hsecond : namesUpTo ["b.feature"] ["drafts", "kept.feature"] = true := by decide +kernel
    have hthird : namesUpTo ["x.feature", "inner.feature"] ["drafts", "kept.feature"] = false := by
      decide +kernel
    rw [discoverNames, hroot]
    dsimp only
    rw [of_decide_eq_true hfound]
    simp [List.mergeSort, List.MergeSort.Internal.splitInTwo, hfirst, hsecond, hthird]
  have h := features_of_discover draftedFiles (.ofText "work") ["drafts/", "!kept.feature"]
  rw [hpatterns] at h
  obtain ⟨paths, hpaths, _, _, hother⟩ := h
  refine ⟨paths, hpaths, ?_, hother⟩
  rw [discover, hpatterns] at hpaths
  cases hpaths
  rw [hsorted]
  decide +kernel

end FeatureSuite

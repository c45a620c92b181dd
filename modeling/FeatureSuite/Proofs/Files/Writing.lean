import FeatureSuite.Files.Tree

/-!
# Writing files

What making directories and writing files do to a tree, place by place. Directories are only made
where nothing was, a file is only written where no directory is, and nothing is ever removed. So
what is written can be read until the same place is written again.
-/

namespace FeatureSuite

private theorem find?_setEntry {place other : Place} {entry : FileEntry}
    {entries : List (Place × FileEntry)} :
    ((setEntry place entry entries).find? (·.1 == other)).map Prod.snd =
      if other = place then some entry else (entries.find? (·.1 == other)).map Prod.snd := by
  induction entries with
  | nil =>
      rw [setEntry, List.find?_singleton]
      by_cases h : place = other
      · simp [h]
      · simp [h, Ne.symm h]
  | cons head rest ih =>
      obtain ⟨first, old⟩ := head
      rw [setEntry]
      by_cases hfirst : first = place
      · subst hfirst
        rw [if_pos rfl]
        by_cases h : first = other
        · subst h
          rw [List.find?_cons_of_pos (by simp), if_pos rfl]
          rfl
        · rw [List.find?_cons_of_neg (by simpa using h), List.find?_cons_of_neg (by simpa using h),
            if_neg (Ne.symm h)]
      · rw [if_neg hfirst]
        by_cases h : first = other
        · subst h
          rw [List.find?_cons_of_pos (by simp), List.find?_cons_of_pos (by simp), if_neg hfirst]
        · rw [List.find?_cons_of_neg (by simpa using h), List.find?_cons_of_neg (by simpa using h),
            ih]

namespace FileTree

variable {tree before after later : FileTree} {path target : Path} {place other : Place}
  {bytes : List Nat}

private theorem get?_set {entry : FileEntry} (hplace : place ≠ []) :
    (tree.set place entry).get? other = if other = place then some entry else tree.get? other := by
  by_cases hother : other = []
  · rw [hother, if_neg (Ne.symm hplace)]
    rfl
  · have hkept (tree : FileTree) :
        tree.get? other = (tree.entries.find? (·.1 == other)).map Prod.snd := by
      rw [get?, if_neg (by simpa using hother)]
    rw [hkept, hkept]
    exact find?_setEntry

@[simp] theorem get?_nil (tree : FileTree) : tree.get? [] = some .directory := rfl

/-! ## Places -/

/-- The place that names lead to, if there are directories all the way. -/
def placeOf (names : List String) : Place := names.foldl step []

private theorem walk_eq_ok {here : Place} {names : List String}
    (h : tree.walk here names = .ok place) :
    place = names.foldl step here := by
  induction names generalizing here with
  | nil => exact (Except.ok.inj h).symm
  | cons name names ih =>
      rw [walk] at h
      split at h
      · cases h
      · cases h
      · exact ih h

theorem locate_eq_ok (h : tree.locate path = .ok place) : place = placeOf path.parts :=
  walk_eq_ok h

theorem walk_of_directories {here : Place} {names : List String}
    (hstay : ∀ other, before.get? other = some .directory → after.get? other = some .directory)
    (h : before.walk here names = .ok place) : after.walk here names = .ok place := by
  induction names generalizing here with
  | nil => exact h
  | cons name names ih =>
      rw [walk] at h ⊢
      split at h
      · cases h
      · cases h
      · rename_i hdirectory
        rw [hstay here hdirectory]
        exact ih h

private theorem directory_of_walk {here : Place} {names front : List String}
    (h : tree.walk here names = .ok place) (hfront : front <+: names) (hne : front ≠ names) :
    tree.get? (front.foldl step here) = some .directory := by
  induction names generalizing here front with
  | nil => exact absurd (List.prefix_nil.mp hfront) hne
  | cons name names ih =>
      rw [walk] at h
      split at h
      · cases h
      · cases h
      · rename_i hdirectory
        cases front with
        | nil => exact hdirectory
        | cons first front =>
            obtain ⟨rfl, hrest⟩ := List.cons_prefix_cons.mp hfront
            rw [List.foldl_cons]
            exact ih h hrest fun heq => hne (congrArg _ heq)

theorem read_eq_ok : tree.read path = .ok bytes ↔
    tree.locate path = .ok (placeOf path.parts) ∧
      tree.get? (placeOf path.parts) = some (.file bytes) := by
  unfold read
  constructor
  · intro h
    split at h
    · cases h
    · rename_i place hplace
      split at h
      · cases h
      · cases h
      · rename_i found hfound
        cases h
        rw [← locate_eq_ok hplace]
        exact ⟨hplace, hfound⟩
  · rintro ⟨hplace, hfound⟩
    rw [hplace]
    dsimp only
    rw [hfound]

/-! ## Making directories -/

/-- Directories are made where nothing was, and nothing else changes. -/
def Widens (before after : FileTree) : Prop :=
  ∀ place, after.get? place = before.get? place ∨
    before.get? place = none ∧ after.get? place = some .directory

namespace Widens

theorem refl (tree : FileTree) : Widens tree tree := fun _ => .inl rfl

private theorem get?_eq (h : Widens before after) {entry : FileEntry}
    (hentry : before.get? place = some entry) : after.get? place = some entry := by
  rcases h place with hsame | ⟨hnone, _⟩
  · exact hsame.trans hentry
  · cases hnone.symm.trans hentry

theorem read_eq_ok (h : Widens before after) (hread : before.read path = .ok bytes) :
    after.read path = .ok bytes := by
  rw [FileTree.read_eq_ok] at hread ⊢
  exact ⟨walk_of_directories (fun other hother => h.get?_eq hother) hread.1, h.get?_eq hread.2⟩

end Widens

/-- A place on the way that names lead. -/
def OnWay (names : List String) (place : Place) : Prop :=
  ∃ front, front <+: names ∧ placeOf front = place

private theorem OnWay.mono {names more : List String} (hmore : names <+: more)
    (h : OnWay names place) :
    OnWay more place := by
  obtain ⟨front, hfront, rfl⟩ := h
  exact ⟨front, hfront.trans hmore, rfl⟩

/-- Directories are made at places of a kind where nothing was, and nothing else changes. -/
def WidensAt (here : Place → Prop) (before after : FileTree) : Prop :=
  ∀ place, after.get? place = before.get? place ∨
    here place ∧ before.get? place = none ∧ after.get? place = some .directory

namespace WidensAt

variable {here there : Place → Prop}

private theorem refl (here : Place → Prop)
    (tree : FileTree) : WidensAt here tree tree := fun _ => .inl rfl

private theorem mono (h : WidensAt here before after) (hmore : ∀ place, here place → there place) :
    WidensAt there before after :=
  fun place => (h place).imp_right fun ⟨hhere, hmade⟩ => ⟨hmore place hhere, hmade⟩

private theorem trans (h : WidensAt here before after) (h' : WidensAt here after later) :
    WidensAt here before later := by
  intro place
  rcases h place with hsame | ⟨hhere, hnone, hmade⟩
  · rcases h' place with hsame' | ⟨hhere', hnone', hmade'⟩
    · exact .inl (hsame'.trans hsame)
    · exact .inr ⟨hhere', hsame ▸ hnone', hmade'⟩
  · rcases h' place with hsame' | ⟨_, hnone', _⟩
    · exact .inr ⟨hhere, hnone, hsame'.trans hmade⟩
    · cases hmade.symm.trans hnone'

theorem widens (h : WidensAt here before after) : Widens before after :=
  fun place => (h place).imp_right And.right

end WidensAt

private theorem widensAt_makeDirectory (h : before.makeDirectory path = .ok after) :
    WidensAt (OnWay path.parts) before after := by
  unfold makeDirectory at h
  split at h
  · cases h
  · rename_i place hplace
    split at h
    · cases h
    · rename_i hnone
      cases h
      have hne : place ≠ [] := fun hnil => by
        rw [hnil, get?_nil] at hnone
        cases hnone
      intro other
      rw [get?_set hne]
      by_cases hother : other = place
      · subst hother
        exact .inr ⟨⟨path.parts, List.prefix_refl _, (locate_eq_ok hplace).symm⟩, hnone, if_pos rfl⟩
      · exact .inl (if_neg hother)

private theorem widensAt_ensureDirectory (tree : FileTree) (path : Path) :
    WidensAt (OnWay path.parts) tree (tree.ensureDirectory path).1 := by
  unfold ensureDirectory
  split
  · rename_i made hmade
    exact widensAt_makeDirectory hmade
  · split <;> exact .refl _ tree

private theorem widensAt_makeDirectoriesFrom (tree : FileTree) (root : String)
    (names : List String) :
    WidensAt (OnWay names.reverse) tree (tree.makeDirectoriesFrom root names).1 := by
  induction names with
  | nil => exact .refl _ tree
  | cons name above ih =>
      have habove : above.reverse <+: (name :: above).reverse :=
        ⟨[name], List.reverse_cons.symm⟩
      have ih := ih.mono fun place => OnWay.mono habove
      simp only [makeDirectoriesFrom]
      split
      · rename_i made hmade
        exact widensAt_makeDirectory hmade
      · split
        · rename_i made fault hmade
          rw [hmade] at ih
          exact ih
        · rename_i made hmade
          rw [hmade] at ih
          exact ih.trans (made.widensAt_ensureDirectory _)
      · exact tree.widensAt_ensureDirectory _

/-! ## Writing -/

theorem write_eq_ok (h : before.write path bytes = .ok after) :
    before.locate path = .ok (placeOf path.parts) ∧
      before.get? (placeOf path.parts) ≠ some .directory ∧
        after = before.set (placeOf path.parts) (.file bytes) := by
  unfold write at h
  split at h
  · cases h
  · rename_i place hplace
    split at h
    · cases h
    · rename_i hfree
      cases h
      rw [← locate_eq_ok hplace]
      exact ⟨hplace, hfree, rfl⟩

/-- A file is written behind the directories that are made on the way to it. A failure leaves
these. -/
theorem save_cases (tree : FileTree) (path : Path) (bytes : List Nat) :
    (∃ fault after, tree.save path bytes = (after, some fault) ∧ Widens tree after) ∨
      ∃ widened after, tree.save path bytes = (after, none) ∧
        WidensAt (OnWay path.parent.parts) tree widened ∧ widened.write path bytes = .ok after := by
  have hwidens := tree.widensAt_makeDirectoriesFrom path.parent.root path.parent.parts.reverse
  rw [List.reverse_reverse] at hwidens
  unfold save makeDirectories
  cases hmade : tree.makeDirectoriesFrom path.parent.root path.parent.parts.reverse with
  | mk widened fault? =>
      rw [hmade] at hwidens
      cases fault? with
      | some fault => exact .inl ⟨fault, widened, rfl, hwidens.widens⟩
      | none =>
          dsimp only
          cases hwrite : widened.write path bytes with
          | ok after => exact .inr ⟨widened, after, rfl, hwidens, hwrite⟩
          | error fault => exact .inl ⟨fault, widened, rfl, hwidens.widens⟩

/-- Writing changes one place, and no directory. -/
theorem get?_of_write (h : before.write path bytes = .ok after) (place : Place) :
    after.get? place =
      if place = placeOf path.parts then some (.file bytes) else before.get? place := by
  obtain ⟨_, hfree, rfl⟩ := write_eq_ok h
  exact get?_set fun hnil => hfree (by rw [hnil, get?_nil])

theorem directory_of_write (h : before.write path bytes = .ok after)
    (hplace : before.get? place = some .directory) : after.get? place = some .directory := by
  rw [get?_of_write h, if_neg, hplace]
  intro heq
  exact (write_eq_ok h).2.1 (heq ▸ hplace)

theorem read_of_write (h : before.write path bytes = .ok after) : after.read path = .ok bytes := by
  rw [read_eq_ok, get?_of_write h, if_pos rfl]
  exact ⟨walk_of_directories (fun _ => directory_of_write h) (write_eq_ok h).1, rfl⟩

/-- What saving a file at a path comes to: the file holds the bytes, the directories on the way to it
are there, and nothing else has changed. -/
structure SavedAt (path : Path) (bytes : List Nat) (before after : FileTree) : Prop where
  read : after.read path = .ok bytes
  file : after.get? (placeOf path.parts) = some (.file bytes)
  parents : ∀ place, OnWay path.parent.parts place → after.get? place = some .directory
  others : ∀ place, place ≠ placeOf path.parts → after.get? place = before.get? place ∨
    OnWay path.parent.parts place ∧ before.get? place = none ∧ after.get? place = some .directory

theorem savedAt_of_write {widened : FileTree}
    (hwidens : WidensAt (OnWay path.parent.parts) before widened)
    (h : widened.write path bytes = .ok after) : SavedAt path bytes before after where
  read := read_of_write h
  file := by rw [get?_of_write h, if_pos rfl]
  parents := by
    rintro _ ⟨front, hfront, rfl⟩
    refine directory_of_write h ?_
    by_cases hparts : path.parts = []
    · have hparent : path.parent.parts = [] := congrArg List.dropLast hparts
      rw [hparent] at hfront
      rw [List.prefix_nil.mp hfront]
      exact get?_nil widened
    · have hdropLast : path.parent.parts <+: path.parts := List.dropLast_prefix path.parts
      refine directory_of_walk (write_eq_ok h).1 (hfront.trans hdropLast) fun heq => ?_
      have hlength := (heq ▸ hfront).length_le
      have hshorter : path.parent.parts.length = path.parts.length - 1 := List.length_dropLast
      have hpositive := List.length_pos_iff.mpr hparts
      omega
  others := by
    intro place hplace
    rw [get?_of_write h, if_neg hplace]
    exact hwidens place

/-- What can be read is the same after a file is written, unless the file is at the same place. -/
theorem read_of_write_of_read (h : before.write target bytes = .ok after) {old : List Nat}
    (hread : before.read path = .ok old) :
    after.read path = .ok (if placeOf path.parts = placeOf target.parts then bytes else old) := by
  rw [read_eq_ok] at hread ⊢
  refine ⟨walk_of_directories (fun _ => directory_of_write h) hread.1, ?_⟩
  rw [get?_of_write h, hread.2]
  split <;> rfl

end FileTree

end FeatureSuite

import FeatureSuite.Proofs.Console.Verbatim
import Mathlib.Data.List.TakeWhile

/-!
# Text with one styled part

Lines for the console put a part of their text between a tag and the tag that closes it. Where the
front and that part have no markup, the line shows both as they are, and what stands behind them
shows as it would alone; a fault in it is told with its place in the line.
-/

namespace FeatureSuite.Markup

/-! ## Plain characters -/

/-- Whether a character takes no part in markup. -/
def isPlain (c : Char) : Bool :=
  c != '[' && c != '\\' && c != ':' && !cursorControls.contains c

private theorem isPlain_of_isDigit {c : Char} (h : c.isDigit = true) : isPlain c = true := by
  have hne : ∀ d, d.isDigit = false → c ≠ d := fun d hd heq => by simp [heq, hd] at h
  simp [isPlain, cursorControls, hne]

theorem isVerbatim_cons_of_isPlain {c : Char} (h : isPlain c = true) (rest : List Char) :
    isVerbatim (c :: rest) = isVerbatim rest := by
  simp only [isPlain, Bool.and_eq_true, bne_iff_ne, Bool.not_eq_true'] at h
  obtain ⟨⟨⟨hbracket, hslash⟩, hcolon⟩, hcontrol⟩ := h
  rw [isVerbatim, beginsMarkup, hcontrol]
  simp [hbracket, hslash, hcolon]

theorem isVerbatim_of_isPlain {cs : List Char} (h : ∀ c ∈ cs, isPlain c = true) :
    isVerbatim cs = true := by
  induction cs with
  | nil => rfl
  | cons c rest ih =>
      obtain ⟨hc, hrest⟩ := List.forall_mem_cons.mp h
      rw [isVerbatim_cons_of_isPlain hc, ih hrest]

theorem getLast?_ne_of_isPlain {cs : List Char} (h : ∀ c ∈ cs, isPlain c = true) :
    cs.getLast? ≠ some '\\' := by
  intro hlast
  exact absurd (h _ (List.mem_of_getLast? hlast)) (by decide)

theorem isPlain_of_mem_repr {n : Nat} : ∀ c ∈ n.repr.toList, isPlain c = true :=
  fun _ hc => isPlain_of_isDigit (Numeral.isDigit_of_mem_repr hc)

/-! ## Names of tags -/

/-- The name of a style as a tag has it: it has no parameters and closes nothing. -/
structure IsTagName (name : List Char) : Prop where
  opens : name.head?.any (fun c => startsTag c && c != '/') = true
  inside : name.all (fun c => inTag c && c != '=') = true
  stripped : Text.strip (String.ofList name) = String.ofList name

instance (name : List Char) : Decidable (IsTagName name) :=
  decidable_of_iff (name.head?.any (fun c => startsTag c && c != '/') = true ∧
      name.all (fun c => inTag c && c != '=') = true ∧
      Text.strip (String.ofList name) = String.ofList name)
    ⟨fun ⟨opens, inside, stripped⟩ => ⟨opens, inside, stripped⟩,
      fun h => ⟨h.opens, h.inside, h.stripped⟩⟩

private theorem tagText?_append {rest : List Char} (h : tagText? rest = none) (behind : List Char) :
    tagText? (rest ++ '[' :: behind) = none := by
  cases rest with
  | nil => rfl
  | cons c rest =>
      rw [tagText?] at h
      rw [List.cons_append, tagText?]
      split at h
      · rename_i hstart
        rw [if_pos hstart, List.dropWhile_append]
        cases hdrop : rest.dropWhile inTag with
        | nil => rfl
        | cons d after =>
            rw [hdrop] at h
            rw [if_neg (by simp), List.cons_append]
            split
            · rename_i heq
              obtain ⟨rfl, -⟩ := List.cons.inj heq
              cases h
            · rfl
      · rename_i hstart
        rw [if_neg hstart]

private theorem tagText?_of_inTag {c : Char} {rest : List Char} (hstart : startsTag c = true)
    (hrest : ∀ d ∈ rest, inTag d = true) (after : List Char) :
    tagText? (c :: rest ++ ']' :: after) = some (c :: rest, after) := by
  have hclose : inTag ']' = false := rfl
  have hdrop : (rest ++ ']' :: after).dropWhile inTag = ']' :: after := by
    rw [List.dropWhile_append_of_pos hrest, List.dropWhile_cons_of_neg (by simp [hclose])]
  have htake : (rest ++ ']' :: after).takeWhile inTag = rest := by
    rw [List.takeWhile_append_of_pos hrest, List.takeWhile_cons_of_neg (by simp [hclose]),
      List.append_nil]
  rw [List.cons_append, tagText?, if_pos hstart, hdrop, htake]
  rfl

namespace IsTagName

variable {name : List Char}

theorem exists_eq_cons (h : IsTagName name) :
    ∃ c rest, name = c :: rest ∧ startsTag c = true ∧ c ≠ '/' ∧ ∀ d ∈ rest, inTag d = true := by
  obtain ⟨c, hc, hopens⟩ := Option.any_eq_true .. |>.mp h.opens
  obtain ⟨rest, rfl⟩ := List.head?_eq_some_iff.mp hc
  obtain ⟨hstart, hslash⟩ := (Bool.and_eq_true _ _).mp hopens
  have hinside := List.all_eq_true.mp h.inside
  exact ⟨c, rest, rfl, hstart, by simpa using hslash, fun d hd =>
    ((Bool.and_eq_true _ _).mp (hinside d (List.mem_cons_of_mem c hd))).1⟩

private theorem inTag_of_mem (h : IsTagName name) : ∀ d ∈ name, inTag d = true := fun d hd =>
  ((Bool.and_eq_true _ _).mp (List.all_eq_true.mp h.inside d hd)).1

private theorem tagText? (h : IsTagName name) (after : List Char) :
    Markup.tagText? (name ++ ']' :: after) = some (name, after) := by
  obtain ⟨c, rest, rfl, hstart, -, hrest⟩ := h.exists_eq_cons
  exact tagText?_of_inTag hstart hrest after

private theorem tagText?_closing (h : IsTagName name) (after : List Char) :
    Markup.tagText? ('/' :: name ++ ']' :: after) = some ('/' :: name, after) :=
  tagText?_of_inTag rfl h.inTag_of_mem after

private theorem tagName (h : IsTagName name) : tagName name = name := by
  refine List.takeWhile_eq_self_iff.mpr fun d hd => ?_
  simpa using ((Bool.and_eq_true _ _).mp (List.all_eq_true.mp h.inside d hd)).2

private theorem tagParameters (h : IsTagName name) : tagParameters name = [] := by
  rw [Markup.tagParameters, List.dropWhile_eq_nil_iff.mpr fun d hd => ?_, List.drop_nil]
  simpa using ((Bool.and_eq_true _ _).mp (List.all_eq_true.mp h.inside d hd)).2

private theorem tagName_closing (h : IsTagName name) :
    Markup.tagName ('/' :: name) = '/' :: name := by
  rw [Markup.tagName, List.takeWhile_cons_of_pos (by simp)]
  exact congrArg _ h.tagName

end IsTagName

/-! ## Pieces -/

private theorem piecesFrom_append {front : List Char} (htags : HasNoTag front)
    (hend : front.getLast? ≠ some '\\') (place : Nat) (plain behind : List Char) :
    piecesFrom place plain (front ++ '[' :: behind) =
      piecesFrom (place + front.length) (front.reverse ++ plain) ('[' :: behind) := by
  induction front generalizing place plain with
  | nil => rfl
  | cons c front ih =>
      have hnone : escapedTag? (c :: (front ++ '[' :: behind)) = none := by
        rw [← List.cons_append, escapedTag?, List.dropWhile_append]
        have hrest : ((c :: front).dropWhile (· = '\\')).isEmpty = false := by
          rw [Bool.eq_false_iff]
          intro hempty
          have hslash := List.dropWhile_eq_nil_iff.mp (List.isEmpty_iff.mp hempty)
          rw [List.getLast?_eq_some_getLast (List.cons_ne_nil c front)] at hend
          exact hend (congrArg some (by simpa using hslash _ (List.getLast_mem _)))
        rw [hrest, if_neg Bool.false_ne_true]
        split
        · rename_i rest heq
          cases hdrop : (c :: front).dropWhile (· = '\\') with
          | nil => rw [hdrop] at hrest; cases hrest
          | cons d after =>
              rw [hdrop] at heq
              obtain ⟨rfl, rfl⟩ := List.cons.inj ((List.cons_append ..).symm.trans heq)
              have hsuffix : '[' :: after <:+ c :: front := hdrop ▸ List.dropWhile_suffix _
              have htag : tagText? (after ++ '[' :: behind) = none :=
                tagText?_append (htags after hsuffix) behind
              exact congrArg _ htag
        · rfl
      have hlast : front.getLast? ≠ some '\\' := by
        cases front with
        | nil => simp
        | cons d front => rwa [List.getLast?_cons_cons] at hend
      rw [List.cons_append, piecesFrom]
      split
      · rename_i hfound
        rw [hnone] at hfound
        cases hfound
      · rw [ih htags.tail hlast, List.length_cons, List.reverse_cons, List.append_assoc,
          List.singleton_append, Nat.add_assoc, Nat.add_comm 1]

private theorem piecesFrom_tag {text after : List Char}
    (h : tagText? (text ++ ']' :: after) = some (text, after)) (place : Nat) (plain : List Char) :
    piecesFrom place plain ('[' :: (text ++ ']' :: after)) =
      plainPiece plain.reverse ++ .tag place text ::
        piecesFrom (place + text.length + 2) [] after := by
  have hfound : escapedTag? ('[' :: (text ++ ']' :: after)) = some (0, text, after) := by
    change (tagText? (text ++ ']' :: after)).map _ = _
    rw [h]
    rfl
  rw [piecesFrom]
  split
  · rename_i heq
    rw [hfound] at heq
    cases heq
    simp [tagPieces, plainPiece]
  · rename_i heq
    rw [hfound] at heq
    cases heq

/-- A text with a part of it between a tag and the tag that closes it. -/
def tagged (front name text after : List Char) : List Char :=
  front ++ '[' :: (name ++ ']' :: (text ++ '[' :: ('/' :: name ++ ']' :: after)))

/-- The number of characters in front of what follows the closing tag. -/
def taggedLength (front name text : List Char) : Nat :=
  front.length + name.length + text.length + name.length + 5

variable {front name text : List Char}

private theorem pieces_tagged (hname : IsTagName name) (hfront : HasNoTag front)
    (hfrontEnd : front.getLast? ≠ some '\\') (htext : HasNoTag text)
    (htextEnd : text.getLast? ≠ some '\\') (after : List Char) : ∃ first second,
    piecesFrom 0 [] (tagged front name text after) =
      plainPiece front ++ .tag first name :: (plainPiece text ++ .tag second ('/' :: name) ::
        piecesFrom (taggedLength front name text) [] after) := by
  rw [tagged, piecesFrom_append hfront hfrontEnd, piecesFrom_tag (hname.tagText? _),
    piecesFrom_append htext htextEnd, piecesFrom_tag (hname.tagText?_closing _)]
  simp only [List.append_nil, List.reverse_reverse, List.length_cons, Nat.zero_add]
  refine ⟨_, _, congrArg _ (congrArg _ (congrArg _ (congrArg _ ?_)))⟩
  rw [taggedLength]
  congr 1
  omega

/-! ## Rendered tags -/

private theorem stackBehind_opening (h : IsTagName name) (stack : List OpenStyle) (place : Nat) :
    stackBehind stack place name = .ok (⟨Style.name (String.ofList name), []⟩ :: stack) := by
  obtain ⟨c, rest, rfl, -, hslash, -⟩ := h.exists_eq_cons
  unfold stackBehind
  rw [h.tagName, h.tagParameters]
  split
  · rename_i closed hclosed
    exact absurd (List.cons.inj hclosed).1 hslash
  · rfl

private theorem stackBehind_closing (h : IsTagName name) (stack : List OpenStyle) (place : Nat) :
    stackBehind (⟨Style.name (String.ofList name), []⟩ :: stack) place ('/' :: name) =
      .ok stack := by
  have hnonempty : String.ofList name ≠ "" := by
    obtain ⟨c, rest, rfl, -⟩ := h.exists_eq_cons
    simp
  unfold stackBehind
  rw [h.tagName_closing]
  simp [h.stripped, takeStyle?, hnonempty, OpenStyle.isSound]

private theorem render_plainPiece {text : List Char} (h : isVerbatim text = true)
    (stack : List OpenStyle) (rest : List Piece) :
    render stack (plainPiece text ++ rest) = (render stack rest).map (text ++ ·) := by
  unfold plainPiece
  split
  · rename_i hempty
    rw [List.isEmpty_iff.mp hempty, List.nil_append]
    cases render stack rest <;> rfl
  · rw [List.singleton_append, render, unescape_of_isVerbatim h, Emoji.replace,
      replaceFrom_of_isVerbatim h (Nat.le_refl _)]

private theorem render_tagged (hname : IsTagName name) (hfront : isVerbatim front = true)
    (htext : isVerbatim text = true) (first second : Nat) (rest : List Piece) :
    render [] (plainPiece front ++ .tag first name :: (plainPiece text ++
        .tag second ('/' :: name) :: rest)) = (render [] rest).map (front ++ text ++ ·) := by
  rw [render_plainPiece hfront, render, stackBehind_opening hname]
  change (render _ _).map _ = _
  rw [render_plainPiece htext, render, stackBehind_closing hname]
  change ((render [] rest).map _).map _ = _
  cases render [] rest with
  | error fault => rfl
  | ok shown => simp [Except.map]

/-! ## Places -/

/-- A piece of a text that stands further behind. -/
def Piece.shift (distance : Nat) : Piece → Piece
  | plain text => plain text
  | tag place text => tag (place + distance) text

/-- A fault of a text that stands further behind. -/
def Fault.shift (distance : Nat) : Fault → Fault
  | notOpen tag place => notOpen tag (place + distance)
  | nothingOpen place => nothingOpen (place + distance)
  | badParameters parameters => badParameters parameters

@[simp] private theorem map_shift_plainPiece (distance : Nat) (text : List Char) :
    (plainPiece text).map (Piece.shift distance) = plainPiece text := by
  unfold plainPiece
  split <;> rfl

private theorem map_shift_tagPieces (distance place slashes : Nat) (text : List Char) :
    (tagPieces place slashes text).map (Piece.shift distance) =
      tagPieces (place + distance) slashes text := by
  unfold tagPieces
  rw [List.map_append, map_shift_plainPiece, Nat.add_right_comm]
  split <;> rfl

private theorem piecesFrom_shift (distance place : Nat) (plain cs : List Char) :
    piecesFrom (place + distance) plain cs =
      (piecesFrom place plain cs).map (Piece.shift distance) := by
  fun_induction piecesFrom place plain cs with
  | case1 place plain => rw [piecesFrom, map_shift_plainPiece]
  | case2 place plain c rest slashes text after hfound ih =>
      rw [piecesFrom]
      split
      · rename_i heq
        cases hfound.symm.trans heq
        rw [List.map_append, List.map_append, map_shift_plainPiece, map_shift_tagPieces, ← ih]
        congr 2
        omega
      · rename_i heq
        cases hfound.symm.trans heq
  | case3 place plain c rest hnone ih =>
      rw [piecesFrom]
      split
      · rename_i heq
        cases hnone.symm.trans heq
      · rw [← ih, Nat.add_right_comm]

private theorem stackBehind_shift (distance : Nat) (stack : List OpenStyle) (place : Nat)
    (text : List Char) :
    stackBehind stack (place + distance) text =
      (stackBehind stack place text).mapError (Fault.shift distance) := by
  unfold stackBehind
  split
  · dsimp only
    split
    · split <;> rfl
    · split <;> rfl
  · rfl

private theorem render_shift (distance : Nat) (stack : List OpenStyle) (pieces : List Piece) :
    render stack (pieces.map (Piece.shift distance)) =
      (render stack pieces).mapError (Fault.shift distance) := by
  induction pieces generalizing stack with
  | nil => rfl
  | cons piece rest ih =>
      cases piece with
      | plain text =>
          rw [List.map_cons, Piece.shift, render, render, ih]
          cases render stack rest <;> rfl
      | tag place text =>
          rw [List.map_cons, Piece.shift, render, render, stackBehind_shift]
          cases stackBehind stack place text with
          | error fault => rfl
          | ok behind => exact ih behind

@[simp] private theorem dropControls_append (cs ds : List Char) :
    dropControls (cs ++ ds) = dropControls cs ++ dropControls ds := List.filter_append cs ds

/-- The front and the styled part of a line are shown as they are if they have no markup, and what
follows is shown as it is alone. -/
theorem plainText_tagged (hname : IsTagName name) (hfront : isVerbatim front = true)
    (hfrontEnd : front.getLast? ≠ some '\\') (htext : isVerbatim text = true)
    (htextEnd : text.getLast? ≠ some '\\') (after : List Char) :
    plainText (String.ofList (tagged front name text after)) =
      ((plainText (String.ofList after)).mapError (Fault.shift (taggedLength front name text))).map
        (String.ofList (front ++ text) ++ ·) := by
  obtain ⟨first, second, hpieces⟩ := pieces_tagged hname (hasNoTag_of_isVerbatim hfront) hfrontEnd
    (hasNoTag_of_isVerbatim htext) htextEnd after
  have hshift := piecesFrom_shift (taggedLength front name text) 0 [] after
  rw [Nat.zero_add] at hshift
  rw [plainText, pieces, String.toList_ofList, hpieces, render_tagged hname hfront htext, hshift,
    render_shift, plainText, pieces, String.toList_ofList]
  cases render [] (piecesFrom 0 [] after) with
  | error fault => rfl
  | ok shown =>
      simp only [Except.map, Except.mapError]
      rw [dropControls_append, dropControls_append, dropControls_of_isVerbatim hfront,
        dropControls_of_isVerbatim htext, String.ofList_append]

theorem plainText_tagged_of_verbatim (hname : IsTagName name) (hfront : isVerbatim front = true)
    (hfrontEnd : front.getLast? ≠ some '\\') (htext : isVerbatim text = true)
    (htextEnd : text.getLast? ≠ some '\\') {after : List Char} (hafter : isVerbatim after = true) :
    plainText (String.ofList (tagged front name text after)) =
      .ok (String.ofList (front ++ text ++ after)) := by
  have hshown : plainText (String.ofList after) = .ok (String.ofList after) :=
    plainText_of_isVerbatim (by rwa [String.toList_ofList])
  rw [plainText_tagged hname hfront hfrontEnd htext htextEnd, hshown]
  exact congrArg Except.ok String.ofList_append.symm

end FeatureSuite.Markup

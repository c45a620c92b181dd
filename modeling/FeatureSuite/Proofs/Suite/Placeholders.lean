import FeatureSuite.Suite.Title
import Mathlib.Data.List.Basic
import Mathlib.Data.List.TakeWhile

/-!
# Placeholders of titles

A format is text with placeholders in it. Reading from the left, there is one way to cut it: the
text up to the first placeholder, this placeholder, and what is cut of the rest. A title is the
pieces of this cut one behind the other, with the values in place of the placeholders that have one.
-/

namespace FeatureSuite

/-- How a placeholder is written: a name in angle brackets, or the word for the index. -/
inductive Placeholder : (name written : List Char) → Prop where
  | bracketed {name : List Char} :
      name ≠ [] → '<' ∉ name → '>' ∉ name → Placeholder name ('<' :: name ++ ['>'])
  | index : Placeholder indexName.toList indexName.toList

namespace Placeholder

variable {name other written more back rest : List Char}

private theorem name_ne_nil (h : Placeholder name written) : name ≠ [] := by
  cases h with
  | bracketed hname => exact hname
  | index => decide

theorem written_ne_nil (h : Placeholder name written) : written ≠ [] := by
  cases h with
  | bracketed => simp
  | index => decide

private theorem unique (h : Placeholder name written) (h' : Placeholder other more)
    (heq : written ++ back = more ++ rest) : name = other ∧ written = more ∧ back = rest := by
  cases h with
  | bracketed _ _ hclose =>
      cases h' with
      | bracketed _ _ hclose' =>
          simp only [List.cons_append, List.append_assoc, List.nil_append, List.cons.injEq,
            true_and] at heq
          have hcut := congrArg (Text.splitOnChar '>') heq
          rw [Text.splitOnChar_append hclose, Text.splitOnChar_append hclose'] at hcut
          obtain rfl := (List.cons.inj hcut).1
          exact ⟨rfl, rfl, (List.cons.inj (List.append_cancel_left heq)).2⟩
      | index => simp [indexName] at heq
  | index =>
      cases h' with
      | bracketed => simp [indexName] at heq
      | index => exact ⟨rfl, rfl, List.append_cancel_left heq⟩

end Placeholder

/-! ## Cuts -/

/-- A piece of a format: text that stays as it is, or a placeholder. -/
inductive FormatPiece where
  | text (cs : List Char)
  | hole (name written : List Char)

def FormatPiece.fill (values : String → Option String) : FormatPiece → List Char
  | text cs => cs
  | hole name written => (values (.ofList name)).elim written String.toList

/-- No placeholder begins in a format behind fewer characters than these. -/
def NoneBefore (length : Nat) (format : List Char) : Prop :=
  ∀ front name written back, Placeholder name written → format = front ++ written ++ back →
    length ≤ front.length

/-- A format is cut from left to right: text up to the first placeholder, the placeholder, and a cut
of what stands behind it; or nothing but text if there is no placeholder. -/
inductive Cut : List Char → List FormatPiece → Prop where
  | text {cs : List Char} :
      (∀ front name written back, Placeholder name written → cs ≠ front ++ written ++ back) →
      Cut cs [.text cs]
  | hole {front name written back : List Char} {pieces : List FormatPiece} :
      Placeholder name written → NoneBefore front.length (front ++ written ++ back) →
      Cut back pieces → Cut (front ++ written ++ back) (.text front :: .hole name written :: pieces)

namespace Cut

variable {cs : List Char} {pieces others : List FormatPiece}

theorem unique (h : Cut cs pieces) (h' : Cut cs others) : pieces = others := by
  induction h generalizing others with
  | text hnone =>
      cases h' with
      | text => rfl
      | hole hplaceholder => exact absurd rfl (hnone _ _ _ _ hplaceholder)
  | @hole front name written back pieces hplaceholder hfirst _ ih =>
      generalize hformat : front ++ written ++ back = format at h' hfirst
      cases h' with
      | text hnone => exact absurd hformat.symm (hnone _ _ _ _ hplaceholder)
      | @hole front' name' written' back' others hplaceholder' hfirst' hrest =>
          -- Neither of the two first placeholders begins in front of the other.
          have hle : front.length ≤ front'.length := hfirst _ _ _ _ hplaceholder' rfl
          have hge : front'.length ≤ front.length := hfirst' _ _ _ _ hplaceholder hformat.symm
          rw [List.append_assoc, List.append_assoc] at hformat
          obtain ⟨rfl, hbehind⟩ := List.append_inj hformat (Nat.le_antisymm hle hge)
          obtain ⟨rfl, rfl, rfl⟩ := hplaceholder.unique hplaceholder' hbehind
          rw [ih hrest]

private theorem name_ne_nil (h : Cut cs pieces) {name written : List Char}
    (hpiece : .hole name written ∈ pieces) : name ≠ [] := by
  induction h with
  | text => simp at hpiece
  | hole hplaceholder _ _ ih =>
      simp only [List.mem_cons, reduceCtorEq, false_or] at hpiece
      rcases hpiece with hfirst | hrest
      · obtain ⟨rfl, rfl⟩ := FormatPiece.hole.inj hfirst
        exact hplaceholder.name_ne_nil
      · exact ih hrest

private theorem cons {c : Char} (h : Cut cs pieces)
    (hnone : ∀ name written back, Placeholder name written → c :: cs ≠ written ++ back) :
    ∃ others, Cut (c :: cs) others ∧
      ∀ values, others.flatMap (·.fill values) = c :: pieces.flatMap (·.fill values) := by
  cases h with
  | text hrest =>
      refine ⟨[.text (c :: cs)], .text fun front name written back hplaceholder heq => ?_,
        fun values => rfl⟩
      cases front with
      | nil => exact hnone _ _ _ hplaceholder heq
      | cons d front => exact hrest _ _ _ _ hplaceholder (List.cons.inj heq).2
  | @hole front name written back pieces hplaceholder hfirst hback =>
      have hbefore : NoneBefore (c :: front).length (c :: (front ++ written ++ back)) := by
        intro front' name' written' back' hplaceholder' heq
        cases front' with
        | nil => exact absurd heq (hnone _ _ _ hplaceholder')
        | cons d front' =>
            exact Nat.succ_le_succ (hfirst _ _ _ _ hplaceholder' (List.cons.inj heq).2)
      exact ⟨.text (c :: front) :: .hole name written :: pieces, .hole hplaceholder hbefore hback,
        fun values => rfl⟩

end Cut

/-! ## Reading placeholders -/

private theorem bracketed?_eq_some {cs name back : List Char} :
    bracketed? cs = some (name, back) ↔
      cs = name ++ '>' :: back ∧ name ≠ [] ∧ '<' ∉ name ∧ '>' ∉ name := by
  unfold bracketed?
  constructor
  · intro h
    have hcs := List.takeWhile_append_dropWhile (p := fun c => c ≠ '<' && c ≠ '>') (l := cs)
    dsimp only at h
    split at h
    · rename_i rest hrest
      split at h
      · cases h
      · rename_i hname
        cases h
        rw [hrest] at hcs
        refine ⟨hcs.symm, by simpa using hname, fun hmem => ?_, fun hmem => ?_⟩
        · simpa using List.mem_takeWhile_imp hmem
        · simpa using List.mem_takeWhile_imp hmem
    · cases h
  · rintro ⟨rfl, hname, hopen, hclose⟩
    have hplain : ∀ c ∈ name, (c ≠ '<' && c ≠ '>') = true := by
      intro c hc
      have hc1 : c ≠ '<' := fun h => hopen (h ▸ hc)
      have hc2 : c ≠ '>' := fun h => hclose (h ▸ hc)
      simp [hc1, hc2]
    rw [List.takeWhile_append_of_pos hplain, List.dropWhile_append_of_pos hplain]
    simp [hname]

private theorem titlePieces_cons (fuel : Nat) (c : Char) (rest : List Char) :
    (∃ name written back, Placeholder name written ∧ c :: rest = written ++ back ∧
      titlePieces (fuel + 1) (c :: rest) =
        .hole (.ofList name) (.ofList written) :: titlePieces fuel back) ∨
    ((∀ name written back, Placeholder name written → c :: rest ≠ written ++ back) ∧
      titlePieces (fuel + 1) (c :: rest) = .literal c :: titlePieces fuel rest) := by
  rw [titlePieces]
  split
  · rename_i name after hbracket
    split at hbracket
    · rename_i hc
      subst hc
      obtain ⟨rfl, hname, hopen, hclose⟩ := bracketed?_eq_some.mp hbracket
      exact .inl ⟨name, _, after, .bracketed hname hopen hclose, by simp, rfl⟩
    · cases hbracket
  · rename_i after hnone hindex
    refine .inl ⟨_, _, after, .index, Text.eq_append_of_afterStart? hindex, ?_⟩
    rw [String.ofList_toList]
  · rename_i hbracket hindex
    refine .inr ⟨fun name written back hplaceholder heq => ?_, rfl⟩
    cases hplaceholder with
    | bracketed hname hopen hclose =>
        obtain ⟨rfl, hrest⟩ := List.cons.inj heq
        have hsome := bracketed?_eq_some.mpr ⟨by simpa using hrest, hname, hopen, hclose⟩
        rw [if_pos rfl, hsome] at hbracket
        cases hbracket
    | index =>
        rw [heq, Text.afterStart?_append] at hindex
        cases hindex

private theorem exists_cut_nil (fuel : Nat) :
    ∃ pieces, Cut [] pieces ∧ ∀ values,
      (titlePieces fuel []).flatMap (fun piece => (piece.fill values).toList) =
        pieces.flatMap (·.fill values) := by
  refine ⟨[.text []], .text fun front name written back hplaceholder heq => ?_, fun values => ?_⟩
  · have hnil := List.append_eq_nil_iff.mp heq.symm
    exact hplaceholder.written_ne_nil (List.append_eq_nil_iff.mp hnil.1).2
  · cases fuel <;> rfl

/-- A format has a cut, and its pieces are read along it. -/
theorem exists_cut {fuel : Nat} {cs : List Char} (h : cs.length ≤ fuel) :
    ∃ pieces, Cut cs pieces ∧ ∀ values,
      (titlePieces fuel cs).flatMap (fun piece => (piece.fill values).toList) =
        pieces.flatMap (·.fill values) := by
  induction fuel generalizing cs with
  | zero =>
      obtain rfl := List.length_eq_zero_iff.mp (Nat.le_zero.mp h)
      exact exists_cut_nil 0
  | succ fuel ih =>
      cases cs with
      | nil => exact exists_cut_nil (fuel + 1)
      | cons c rest =>
          obtain hhole | hliteral := titlePieces_cons fuel c rest
          · obtain ⟨name, written, back, hplaceholder, heq, hread⟩ := hhole
            have hshorter : back.length ≤ fuel := by
              have hlength := congrArg List.length heq
              have hwritten := List.length_pos_iff.mpr hplaceholder.written_ne_nil
              simp only [List.length_cons, List.length_append] at hlength h
              omega
            obtain ⟨pieces, hcut, hfill⟩ := ih hshorter
            have hfirst : NoneBefore ([] : List Char).length ([] ++ written ++ back) :=
              fun _ _ _ _ _ _ => Nat.zero_le _
            have hcut' := Cut.hole hplaceholder hfirst hcut
            rw [List.nil_append, ← heq] at hcut'
            refine ⟨_, hcut', fun values => ?_⟩
            rw [hread, List.flatMap_cons, hfill]
            cases hvalue : values (.ofList name) <;>
              simp [FormatPiece.fill, TitlePiece.fill, hvalue]
          · obtain ⟨hnone, hread⟩ := hliteral
            obtain ⟨pieces, hcut, hfill⟩ := ih (Nat.le_of_succ_le_succ h)
            obtain ⟨others, hothers, hjoined⟩ := hcut.cons hnone
            refine ⟨others, hothers, fun values => ?_⟩
            rw [hread, List.flatMap_cons, hfill, hjoined]
            simp [TitlePiece.fill]

/-- A title is made of the pieces of a cut, with a value in place of every placeholder that has one.
-/
theorem toList_renderTitle (format : String) :
    ∃ pieces, Cut format.toList pieces ∧
      ∀ values, (renderTitle format values).toList = pieces.flatMap (·.fill values) := by
  obtain ⟨pieces, hcut, hfill⟩ := exists_cut (Nat.le_of_eq format.length_toList)
  refine ⟨pieces, hcut, fun values => ?_⟩
  rw [← hfill, renderTitle, String.toList_join, List.flatMap_map]

/-- A format has one cut, and a title is made of its pieces: text and placeholders without a value
as they are written, and the values of the others, which are not read again. -/
theorem renderTitle_of_cut (format : String) :
    ∃ pieces, Cut format.toList pieces ∧
      (∀ others, Cut format.toList others → others = pieces) ∧
      ∀ values : String → Option String,
        (renderTitle format values).toList = pieces.flatMap (·.fill values) := by
  obtain ⟨pieces, hcut, hfill⟩ := toList_renderTitle format
  exact ⟨pieces, hcut, fun others hothers => hothers.unique hcut, hfill⟩

/-- Brackets that do not match stay, and so does what a value brings in. -/
example : renderTitle "<<a>>_index_<"
    (fun name => if name = "a" then some "<_index_>" else some "1") = "<<_index_>>1<" := by
  decide +kernel

/-- Titles depend on the values of names only, and no name is empty. -/
theorem renderTitle_congr {format : String} {values others : String → Option String}
    (h : ∀ name, name ≠ "" → values name = others name) :
    renderTitle format values = renderTitle format others := by
  obtain ⟨pieces, hcut, hfill⟩ := toList_renderTitle format
  rw [← String.toList_inj, hfill, hfill]
  refine List.flatMap_congr fun piece hpiece => ?_
  cases piece with
  | text cs => rfl
  | hole name written =>
      have hname : String.ofList name ≠ "" := by
        intro hempty
        exact hcut.name_ne_nil hpiece (String.ofList_eq_empty_iff.mp hempty)
      rw [FormatPiece.fill, FormatPiece.fill, h _ hname]

end FeatureSuite

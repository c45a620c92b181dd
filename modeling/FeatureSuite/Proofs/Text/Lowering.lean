import FeatureSuite.Text.Case
import FeatureSuite.Text.Identifier
import FeatureSuite.Text.Word
import Mathlib.Data.List.Chain

/-!
# Lower case in identifiers

Lower casing changes nothing about whether the word characters of a text may go on with an
identifier. The mappings come in runs, and a run is looked up as a whole: most go from characters of
one identifier range to characters of one range, in the order of the table. What is found in a range
of the table is found by halving, because the ranges ascend.
-/

namespace FeatureSuite.Text

/-! ## Searching ranges -/

namespace RangeTable

variable {table : RangeTable} {code : Nat}

/-- Neither range is empty, and one ends before the other starts. -/
def Precedes (before after : Nat × Nat) : Prop :=
  before.1 ≤ before.2 ∧ before.2 < after.1 ∧ after.1 ≤ after.2

instance : DecidableRel Precedes := fun before after =>
  inferInstanceAs (Decidable (before.1 ≤ before.2 ∧ before.2 < after.1 ∧ after.1 ≤ after.2))

instance : Trans Precedes Precedes Precedes where
  trans := by
    intro first second third h h'
    unfold Precedes at *
    omega

/-- Every range precedes the next one. -/
def Ascends (table : RangeTable) : Prop := table.toList.IsChain Precedes

instance : DecidablePred Ascends := fun table =>
  inferInstanceAs (Decidable (table.toList.IsChain Precedes))

private theorem Ascends.precedes (h : table.Ascends) {i j : Nat} {before after : Nat × Nat}
    (hij : i < j) (hi : table[i]? = some before)
    (hj : table[j]? = some after) : Precedes before after := by
  have hpairwise : table.toList.Pairwise Precedes := List.isChain_iff_pairwise.mp h
  obtain ⟨hi', rfl⟩ := Array.getElem?_eq_some_iff.mp hi
  obtain ⟨hj', rfl⟩ := Array.getElem?_eq_some_iff.mp hj
  exact List.pairwise_iff_getElem.mp hpairwise i j hi' hj' hij

private theorem Ascends.search_eq_true (h : table.Ascends) {i lo hi : Nat} {range : Nat × Nat}
    (hrange : table[i]? = some range) (hfirst : range.1 ≤ code) (hlast : code ≤ range.2)
    (hlo : lo ≤ i) (hhi : i < hi) (hsize : hi ≤ table.size) :
    table.search code lo hi = true := by
  fun_induction search table code lo hi with
  | case1 lo hi hlt mid hnone =>
      have hmid := Array.getElem?_eq_none_iff.mp hnone
      omega
  | case2 lo hi hlt mid first last hsome hbefore ih =>
      refine ih hlo (Nat.lt_of_not_le fun hle => ?_) (by omega)
      rcases Nat.eq_or_lt_of_le hle with heq | hlt
      · rw [← heq, hsome] at hrange
        cases hrange
        omega
      · have hprecedes := h.precedes hlt hsome hrange
        unfold Precedes at hprecedes
        omega
  | case3 lo hi hlt mid first last hsome hbefore hafter ih =>
      refine ih (Nat.lt_of_not_le fun hle => ?_) hhi hsize
      rcases Nat.eq_or_lt_of_le hle with heq | hlt
      · rw [heq, hsome] at hrange
        cases hrange
        omega
      · have hprecedes := h.precedes hlt hrange hsome
        unfold Precedes at hprecedes
        omega
  | case4 => rfl
  | case5 lo hi hlt => omega

private theorem Ascends.contains_of_mem (h : table.Ascends) {c : Char} {range : Nat × Nat}
    (hmem : range ∈ table.toList) (hfirst : range.1 ≤ c.toNat) (hlast : c.toNat ≤ range.2) :
    table.contains c = true := by
  obtain ⟨i, hi⟩ := List.mem_iff_getElem?.mp hmem
  rw [Array.getElem?_toList] at hi
  have hsize := (Array.getElem?_eq_some_iff.mp hi).1
  exact h.search_eq_true hi hfirst hlast (Nat.zero_le i) hsize (Nat.le_refl _)

end RangeTable

private theorem identifierRestRanges_sound : identifierRestRanges.Ascends ∧
    ∀ range ∈ identifierRestRanges.toList,
      range.2 < 0xD800 ∨ 0xDFFF < range.1 ∧ range.2 < 0x110000 := by
  decide +kernel

private theorem isIdentifierRest_ofNat {range : Nat × Nat}
    (hmem : range ∈ identifierRestRanges.toList) {code : Nat} (hfirst : range.1 ≤ code)
    (hlast : code ≤ range.2) :
    isIdentifierRest (Char.ofNat code) = true := by
  obtain ⟨hascends, hvalid⟩ := identifierRestRanges_sound
  have hcode : code.isValidChar := (hvalid range hmem).imp (by omega) (by omega)
  have hsame : (Char.ofNat code).toNat = code := toNat_ofNat hcode
  exact hascends.contains_of_mem hmem (by omega) (by omega)

/-! ## Runs of lower case mappings -/

/-- Whether every entry of the second list goes with an entry of the first, both gone through once:
an entry of the first list is left at the first one that does not go with it. -/
def sweep {α β : Type} (goes : α → β → Bool) : List α → List β → Bool
  | [], bs => bs.isEmpty
  | a :: as, bs => sweep goes as (bs.dropWhile (goes a))

private theorem exists_of_sweep {α β : Type} {goes : α → β → Bool} {as : List α} {bs : List β}
    (h : sweep goes as bs = true) : ∀ b ∈ bs, ∃ a ∈ as, goes a b = true := by
  induction as generalizing bs with
  | nil =>
      intro b hb
      rw [List.isEmpty_iff.mp h] at hb
      cases hb
  | cons a as ih =>
      intro b hb
      rw [← List.takeWhile_append_dropWhile (p := goes a) (l := bs), List.mem_append] at hb
      rcases hb with hb | hb
      · exact ⟨a, List.mem_cons_self, List.all_eq_true.mp List.all_takeWhile b hb⟩
      · obtain ⟨a', ha, hgoes⟩ := ih h b hb
        exact ⟨a', List.mem_cons_of_mem a ha, hgoes⟩

/-- Whether a range has all codes from the first to the last. -/
def spans (range : Nat × Nat) (first last : Nat) : Bool := range.1.ble first && last.ble range.2

private theorem spans_eq_true {range : Nat × Nat} {first last : Nat} :
    spans range first last = true ↔ range.1 ≤ first ∧ last ≤ range.2 := by
  rw [spans, Bool.and_eq_true, Nat.ble_eq, Nat.ble_eq]

/-- Whether a range has all characters of a run, and that range or another one all their images. -/
def spansRun (range : Nat × Nat) : Nat × Nat × Nat × Nat → Bool
  | (first, last, _, image) =>
      spans range first last &&
        (spans range image (image + (last - first)) ||
          identifierRestRanges.toList.any (spans · image (image + (last - first))))

/-- Where the runs start that have characters outside all identifier ranges: one leaves such
characters out, and the other one is about signs that no word is made of. -/
def mixedRuns : List Nat := [0x1F59, 0x24B6]

private theorem spans_runs :
    sweep spansRun identifierRestRanges.toList
      (lowerRuns.toList.filter fun run => !mixedRuns.contains run.1) = true := by
  decide +kernel

private theorem rest_mixedRuns :
    ∀ run ∈ lowerRuns.toList, mixedRuns.contains run.1 = true →
      ∀ k < run.2.1 - run.1 + 1, k % run.2.2.1 = 0 → isWord (Char.ofNat (run.1 + k)) = true →
        isIdentifierRest (Char.ofNat (run.1 + k)) = true ∧
          isIdentifierRest (Char.ofNat (run.2.2.2 + k)) = true := by
  decide +kernel

/-! ## Lower casing words -/

private theorem rest_of_run {run : Nat × Nat × Nat × Nat} (hrun : run ∈ lowerRuns.toList)
    (hmixed : mixedRuns.contains run.1 = false) {k : Nat} (hlast : run.1 + k ≤ run.2.1) :
    isIdentifierRest (Char.ofNat (run.1 + k)) = true ∧
      isIdentifierRest (Char.ofNat (run.2.2.2 + k)) = true := by
  have hkept : (!mixedRuns.contains run.1) = true := by rw [hmixed, Bool.not_false]
  have hmem : run ∈ lowerRuns.toList.filter fun run => !mixedRuns.contains run.1 :=
    List.mem_filter.mpr ⟨hrun, hkept⟩
  obtain ⟨range, hrange, hspans⟩ := exists_of_sweep spans_runs run hmem
  obtain ⟨first, last, step, image⟩ := run
  obtain ⟨hsource, himage⟩ := Bool.and_eq_true_iff.mp hspans
  have hranges : ∃ range ∈ identifierRestRanges.toList,
      spans range image (image + (last - first)) = true :=
    (Bool.or_eq_true_iff.mp himage).elim (fun h => ⟨range, hrange, h⟩) List.any_eq_true.mp
  obtain ⟨range', hrange', himage⟩ := hranges
  have hsource := spans_eq_true.mp hsource
  have himage := spans_eq_true.mp himage
  dsimp only at hlast ⊢
  exact ⟨isIdentifierRest_ofNat hrange (by omega) (by omega),
    isIdentifierRest_ofNat hrange' (by omega) (by omega)⟩

private theorem isIdentifierRest_mapByRuns {c : Char} (hword : isWord c = true) :
    isIdentifierRest (mapByRuns lowerRuns c) = isIdentifierRest c := by
  unfold mapByRuns
  split
  · rename_i image himage
    obtain ⟨run, hrun, k, hlast, hstep, hcode, rfl⟩ := exists_run_of_searchRuns himage
    have hc : Char.ofNat (run.1 + k) = c := by rw [← hcode, Char.ofNat_toNat]
    have hboth : isIdentifierRest (Char.ofNat (run.1 + k)) = true ∧
        isIdentifierRest (Char.ofNat (run.2.2.2 + k)) = true := by
      cases hmixed : mixedRuns.contains run.1 with
      | false => exact rest_of_run hrun hmixed hlast
      | true => exact rest_mixedRuns run hrun hmixed k (by omega) hstep (hc ▸ hword)
    rw [hboth.2, ← hc, hboth.1]
  · rfl

private theorem ascii_words : ∀ n < 128, isWord (Char.ofNat n) = true →
    isIdentifierRest (Char.ofNat n) = true ∧
      (Char.ofNat n).toLower.toNat < 128 ∧ isWord (Char.ofNat n).toLower = true := by
  decide +kernel

theorem isIdentifierRest_of_ascii {c : Char} (hascii : c.toNat < 128) (hword : isWord c = true) :
    isIdentifierRest c = true := by
  obtain ⟨n, hn, rfl⟩ := exists_code_lt hascii
  exact (ascii_words n hn hword).1

private theorem isIdentifierRest_lowerChar {c : Char} (hword : isWord c = true) :
    isIdentifierRest (lowerChar c) = isIdentifierRest c := by
  unfold lowerChar
  split
  · rename_i hascii
    obtain ⟨n, hn, rfl⟩ := exists_code_lt hascii
    obtain ⟨hrest, hsmall, hkept⟩ := ascii_words n hn hword
    rw [isIdentifierRest_of_ascii hsmall hkept, hrest]
  · exact isIdentifierRest_mapByRuns hword

private theorem rest_expansions :
    (∀ entry ∈ lowerExpansions, isIdentifierRest (Char.ofNat entry.1) = true ∧
      ∀ code ∈ entry.2, isIdentifierRest (Char.ofNat code) = true) ∧
    ('Σ' :: sigmas).all isIdentifierRest = true := by
  decide +kernel

private theorem isIdentifierRest_of_expand {c d : Char} (hword : isWord c = true)
    (hd : d ∈ expand lowerExpansions lowerChar c) : isIdentifierRest d = isIdentifierRest c := by
  unfold expand at hd
  split at hd
  · rw [List.mem_singleton.mp hd, isIdentifierRest_lowerChar hword]
  · split at hd
    · rename_i source codes hfound
      obtain ⟨code, hcode, rfl⟩ := List.mem_map.mp hd
      obtain ⟨hsource, hcodes⟩ := rest_expansions.1 _ (Array.mem_of_find?_eq_some hfound)
      have hfinds := Array.find?_some hfound
      have hc : source = c.toNat := eq_of_beq hfinds
      rw [hc, Char.ofNat_toNat] at hsource
      rw [hsource, hcodes code hcode]
    · rw [List.mem_singleton.mp hd, isIdentifierRest_lowerChar hword]

private theorem exists_mem_expand (c : Char) : ∃ d, d ∈ expand lowerExpansions lowerChar c := by
  have hexpansions : ∀ entry ∈ lowerExpansions, entry.2 ≠ [] := by decide
  unfold expand
  split
  · exact ⟨_, List.mem_singleton_self _⟩
  · split
    · rename_i source codes hfound
      obtain ⟨code, hcode⟩ :=
        List.exists_mem_of_ne_nil codes (hexpansions _ (Array.mem_of_find?_eq_some hfound))
      exact ⟨_, List.mem_map_of_mem hcode⟩
    · exact ⟨_, List.mem_singleton_self _⟩

/-- The lower case form of words goes on with an identifier exactly if the words do. -/
theorem all_isIdentifierRest_lower {s : String} (hwords : ∀ c ∈ s.toList, isWord c = true) :
    (lower s).toList.all isIdentifierRest = true ↔ ∀ c ∈ s.toList, isIdentifierRest c = true := by
  have hsigmas := List.all_eq_true.mp rest_expansions.2
  rw [List.all_eq_true]
  constructor
  · intro h c hc
    by_cases hsigma : c = 'Σ'
    · exact hsigmas c (hsigma ▸ List.mem_cons_self)
    · obtain ⟨d, hd⟩ := exists_mem_expand c
      rw [← isIdentifierRest_of_expand (hwords c hc) hd]
      exact h d (mem_lower_of_mem hc hsigma hd)
  · intro h d hd
    obtain ⟨c, hc, hexpand | hsigma⟩ := mem_lower hd
    · rw [isIdentifierRest_of_expand (hwords c hc) hexpand]
      exact h c hc
    · exact hsigmas d (List.mem_cons_of_mem 'Σ' hsigma)

end FeatureSuite.Text

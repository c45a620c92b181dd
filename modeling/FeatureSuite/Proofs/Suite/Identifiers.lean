import FeatureSuite.Proofs.Suite.Names
import FeatureSuite.Proofs.Text.Lowering

/-!
# Identifiers as names

The names of classes and tests are cut down to the words of a title, in lower case. All that stands
around the title in such a name may stand in an identifier. But words have numeric signs and
ligatures that no identifier has, and they stay in the name: a name is an identifier exactly if its
title has none of them.
-/

namespace FeatureSuite

namespace Text

private theorem isIdentifierRest_of_isDigit {c : Char} (h : c.isDigit = true) :
    isIdentifierRest c = true := by
  have hascii : c.toNat < 128 := by
    have hlast := (Bool.and_eq_true_iff.mp h).2
    have hle : c.toNat ≤ '9'.toNat := of_decide_eq_true hlast
    exact Nat.lt_of_le_of_lt hle (by decide)
  have hword : isWord c = true := by
    simp [isWord, isAlphanumeric, hascii, Char.isAlphanum, h]
  exact isIdentifierRest_of_ascii hascii hword

private theorem forall_slugWords {p : Char → Bool} (hunderscore : p '_' = true) (s : String) :
    (∀ c ∈ (slugWords s).toList, p c = true) ↔
      ∀ c ∈ s.toList, isWord c = true → p c = true := by
  have hkept (c : Char) (hc : isAlphanumeric c = true) :
      c ∈ (slugWords s).toList ↔ c ∈ s.toList := by
    have hletters := congrArg (c ∈ ·) (letters_slugWords s)
    simpa [letters, hc] using hletters
  have hsplit (c : Char) (hword : isWord c = true) : c = '_' ∨ isAlphanumeric c = true :=
    (Bool.or_eq_true_iff.mp hword).imp_left eq_of_beq
  constructor
  · intro h c hc hword
    rcases hsplit c hword with rfl | hletter
    · exact hunderscore
    · exact h c ((hkept c hletter).mpr hc)
  · intro h c hc
    have hword := isWord_of_slugWords hc
    rcases hsplit c hword with rfl | hletter
    · exact hunderscore
    · exact h c ((hkept c hletter).mp hc) hword

end Text

namespace Layout

open Text (isIdentifier isIdentifierRest isWord)

private theorem all_isIdentifierRest_slugify (title : String) :
    (slugify title).toList.all isIdentifierRest = true ↔
      ∀ c ∈ title.toList, isWord c = true → isIdentifierRest c = true := by
  have hunderscore : isIdentifierRest '_' = true := by decide +kernel
  have hlower := (Text.all_isIdentifierRest_lower (s := Text.slugWords title)
    fun c => Text.isWord_of_slugWords).trans (Text.forall_slugWords hunderscore title)
  rw [← hlower]
  unfold slugify
  dsimp only
  split
  · rename_i hnone
    have huntitled : "untitled".toList.all isIdentifierRest = true := by decide +kernel
    rw [hnone]
    exact iff_of_true huntitled rfl
  · exact Iff.rfl

private theorem all_isIdentifierRest_toString {line : Int} (h : 0 < line) :
    (toString line).toList.all isIdentifierRest = true := by
  obtain ⟨n, rfl⟩ := Int.eq_ofNat_of_zero_le (Int.le_of_lt h)
  exact List.all_eq_true.mpr fun c hc =>
    Text.isIdentifierRest_of_isDigit (Numeral.isDigit_of_mem_repr hc)

private theorem isIdentifier_titled {start : String} (hstart : isIdentifier start = true)
    (title : String) {line : Int} (h : 0 < line) :
    isIdentifier (start ++ slugify title ++ "_L" ++ toString line) = true ↔
      ∀ c ∈ title.toList, isWord c = true → isIdentifierRest c = true := by
  have hmiddle : "_L".toList.all isIdentifierRest = true := by decide +kernel
  rw [String.append_assoc, String.append_assoc, Text.isIdentifier_append hstart,
    String.toList_append, String.toList_append, List.all_append, List.all_append, hmiddle,
    all_isIdentifierRest_toString h, Bool.and_true, Bool.and_true, all_isIdentifierRest_slugify]

/-- The names for a title are identifiers exactly if each word character of the title may go on with
an identifier. -/
theorem isIdentifier_names_iff (title : String) {line : Int} (h : 0 < line) :
    (isIdentifier (suiteName title line) = true ↔
        ∀ c ∈ title.toList, isWord c = true → isIdentifierRest c = true) ∧
      (isIdentifier (testName title line) = true ↔
        ∀ c ∈ title.toList, isWord c = true → isIdentifierRest c = true) := by
  have hsuite : isIdentifier "Test_" = true := by decide +kernel
  have htest : isIdentifier "test_" = true := by decide +kernel
  exact ⟨isIdentifier_titled hsuite title h, isIdentifier_titled htest title h⟩

theorem isIdentifier_names_of_accented :
    0 < (3 : Int) ∧ suiteName "Über 10 €: 'naïve' ΣΑΣ" 3 = "Test_über_10_naïve_σας_L3" ∧
      isIdentifier (suiteName "Über 10 €: 'naïve' ΣΑΣ" 3) = true ∧
      isIdentifier (testName "Über 10 €: 'naïve' ΣΑΣ" 3) = true := by
  have hchecked : "Über 10 €: 'naïve' ΣΑΣ".toList.all
      (fun c => isWord c = true → isIdentifierRest c = true) = true := by
    decide +kernel
  have hwords : ∀ c ∈ "Über 10 €: 'naïve' ΣΑΣ".toList,
      isWord c = true → isIdentifierRest c = true := fun c hc =>
    of_decide_eq_true (List.all_eq_true.mp hchecked c hc)
  have hpositive : 0 < (3 : Int) := by decide
  have hnames := isIdentifier_names_iff "Über 10 €: 'naïve' ΣΑΣ" hpositive
  exact ⟨hpositive, by decide +kernel, hnames.1.mpr hwords, hnames.2.mpr hwords⟩

/-- A superscript is a word character, so it gets into names, but it is none of an identifier. -/
theorem exists_names_without_identifier :
    ∃ title, ∃ line : Int, 0 < line ∧ suiteName title line = "Test_area_in_m²_L1" ∧
      testName title line = "test_area_in_m²_L1" ∧
      isIdentifier (suiteName title line) = false ∧ isIdentifier (testName title line) = false :=
  ⟨"Area in m²", 1, by decide, by decide +kernel, by decide +kernel, by decide +kernel,
    by decide +kernel⟩

end Layout

end FeatureSuite

/-!
# Tables of character ranges

A character class of a standard is a table of disjoint ranges in ascending order, searched by
halving.
-/

namespace FeatureSuite.Text

/-- Disjoint ranges of code points, first and last included, in ascending order. -/
abbrev RangeTable := Array (Nat × Nat)

/-- Whether the code point lies in one of the ranges with index from `lo` up to and without `hi`. -/
def RangeTable.search (table : RangeTable) (code lo hi : Nat) : Bool :=
  if lo < hi then
    let mid := (lo + hi) / 2
    match table[mid]? with
    | none => false
    | some (first, last) =>
        if code < first then table.search code lo mid
        else if last < code then table.search code (mid + 1) hi
        else true
  else false
termination_by hi - lo

def RangeTable.contains (table : RangeTable) (c : Char) : Bool :=
  table.search c.toNat 0 table.size

theorem toNat_ofNat {code : Nat} (h : code.isValidChar) : (Char.ofNat code).toNat = code := by
  rw [Char.ofNat, dif_pos h]
  rfl

theorem exists_code_lt {bound : Nat} {c : Char} (h : c.toNat < bound) :
    ∃ n < bound, Char.ofNat n = c :=
  ⟨c.toNat, h, Char.ofNat_toNat c⟩

end FeatureSuite.Text

import FeatureSuite.Text.Table.Alphanumeric

/-!
# Words

Word characters are the letters and numeric characters of all scripts and the underscore.
-/

namespace FeatureSuite.Text

/-- Letters and numeric characters of all scripts. -/
def isAlphanumeric (c : Char) : Bool :=
  if c.toNat < 128 then c.isAlphanum else alphanumericRanges.contains c

def isLetter (c : Char) : Bool :=
  if c.toNat < 128 then c.isAlpha else isAlphanumeric c && !numericRanges.contains c

def isWord (c : Char) : Bool := c == '_' || isAlphanumeric c

/-- The zero of the script's digits that a decimal digit belongs to, searched from `lo` to `hi`. -/
def zeroBelow? (code lo hi : Nat) : Option Nat :=
  if lo < hi then
    let mid := (lo + hi) / 2
    match decimalZeros[mid]? with
    | none => none
    | some low =>
        if code < low then zeroBelow? code lo mid
        else if low + 9 < code then zeroBelow? code (mid + 1) hi
        else some low
  else none
termination_by hi - lo

/-- The value of a decimal digit of any script. -/
def digitValue? (c : Char) : Option Nat :=
  (zeroBelow? c.toNat 0 decimalZeros.size).map (c.toNat - ·)

def isDecimal (c : Char) : Bool := (digitValue? c).isSome

/-- Replaces every longest run of characters outside words by one underscore. -/
def underscoreRuns : List Char → List Char
  | [] => []
  | c :: rest =>
      if isWord c then c :: underscoreRuns rest
      else
        match rest with
        | [] => ['_']
        | d :: _ => if isWord d then '_' :: underscoreRuns rest else underscoreRuns rest

/-- The text with runs outside words made underscores and none of them left at either end. -/
def slugWords (s : String) : String :=
  String.ofList (dropUnderscores (underscoreRuns s.toList))
where
  /-- Drops underscores at both ends. -/
  dropUnderscores (cs : List Char) : List Char :=
    ((cs.dropWhile (· == '_')).reverse.dropWhile (· == '_')).reverse

theorem isWord_of_underscoreRuns {cs : List Char} {c : Char} (h : c ∈ underscoreRuns cs) :
    isWord c = true := by
  fun_induction underscoreRuns cs with
  | case1 => cases h
  | case2 d rest hd ih =>
      rcases List.mem_cons.mp h with rfl | h
      · exact hd
      · exact ih h
  | case3 d hd =>
      rw [List.mem_singleton.mp h]
      decide
  | case4 d hd e rest he ih =>
      rcases List.mem_cons.mp h with rfl | h
      · decide
      · exact ih h
  | case5 d hd e rest he ih => exact ih h

theorem isWord_of_slugWords {s : String} {c : Char} (h : c ∈ (slugWords s).toList) :
    isWord c = true := by
  rw [slugWords, String.toList_ofList, slugWords.dropUnderscores, List.mem_reverse] at h
  have hinner := List.mem_reverse.mp ((List.dropWhile_sublist _).subset h)
  exact isWord_of_underscoreRuns ((List.dropWhile_sublist _).subset hinner)

/-- The characters of a text that are letters or numeric. -/
def letters (cs : List Char) : List Char := cs.filter isAlphanumeric

@[simp] theorem letters_cons_underscore (cs : List Char) : letters ('_' :: cs) = letters cs :=
  List.filter_cons_of_neg (by decide)

theorem letters_cons_of_not_isWord {c : Char} (h : isWord c = false) (cs : List Char) :
    letters (c :: cs) = letters cs := by
  refine List.filter_cons_of_neg ?_
  rw [isWord, Bool.or_eq_false_iff] at h
  simp [h.2]

theorem letters_cons_congr {c : Char} {cs ds : List Char} (h : letters cs = letters ds) :
    letters (c :: cs) = letters (c :: ds) := by
  rw [letters, letters] at h
  rw [letters, letters, List.filter_cons, List.filter_cons, h]

theorem letters_underscoreRuns (cs : List Char) : letters (underscoreRuns cs) = letters cs := by
  fun_induction underscoreRuns cs with
  | case1 => rfl
  | case2 c rest hword ih => exact letters_cons_congr ih
  | case3 c hword =>
      rw [letters_cons_underscore, letters_cons_of_not_isWord (by simpa using hword)]
  | case4 c hword d rest hnext ih =>
      rw [letters_cons_underscore, letters_cons_of_not_isWord (by simpa using hword), ih]
  | case5 c hword d rest hnext ih =>
      rw [letters_cons_of_not_isWord (by simpa using hword), ih]

theorem letters_dropWhile (cs : List Char) : letters (cs.dropWhile (· == '_')) = letters cs := by
  induction cs with
  | nil => rfl
  | cons c rest ih =>
      rw [List.dropWhile_cons]
      split
      · rename_i hc
        rw [ih, eq_of_beq hc, letters_cons_underscore]
      · rfl

@[simp] theorem letters_reverse (cs : List Char) : letters cs.reverse = (letters cs).reverse :=
  List.filter_reverse ..

/-- Cutting a text down to words keeps all its letters. -/
@[simp] theorem letters_slugWords (s : String) :
    letters (slugWords s).toList = letters s.toList := by
  rw [slugWords, String.toList_ofList, slugWords.dropUnderscores, letters_reverse,
    letters_dropWhile, letters_reverse, List.reverse_reverse, letters_dropWhile,
    letters_underscoreRuns]

end FeatureSuite.Text

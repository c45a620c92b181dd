import FeatureSuite.Text.Table.Case

/-!
# Letter case

Full lower and upper case of a text. One character may become several, and a sigma that ends a word
takes its final form.
-/

namespace FeatureSuite.Text

/-- Looks a code point up in runs of regular mappings, from index `lo` up to and without `hi`. -/
def searchRuns (runs : Array (Nat × Nat × Nat × Nat)) (code lo hi : Nat) : Option Nat :=
  if lo < hi then
    let mid := (lo + hi) / 2
    match runs[mid]? with
    | none => none
    | some (first, last, step, image) =>
        if code < first then searchRuns runs code lo mid
        else if last < code then searchRuns runs code (mid + 1) hi
        else if (code - first) % step = 0 then some (image + (code - first))
        else none
  else none
termination_by hi - lo

theorem exists_run_of_searchRuns {runs : Array (Nat × Nat × Nat × Nat)} {code lo hi image : Nat}
    (h : searchRuns runs code lo hi = some image) :
    ∃ run ∈ runs.toList, ∃ k, run.1 + k ≤ run.2.1 ∧ k % run.2.2.1 = 0 ∧ code = run.1 + k ∧
      image = run.2.2.2 + k := by
  fun_induction searchRuns runs code lo hi with
  | case1 | case5 | case6 => cases h
  | case2 lo hi hlt mid first last step start hrun hfirst ih => exact ih h
  | case3 lo hi hlt mid first last step start hrun hfirst hlast ih => exact ih h
  | case4 lo hi hlt mid first last step start hrun hfirst hlast hstep =>
      cases h
      have hmem : (first, last, step, start) ∈ runs := Array.mem_of_getElem? hrun
      have hcode : code = first + (code - first) := by omega
      have hle : first + (code - first) ≤ last := by omega
      exact ⟨_, Array.mem_toList_iff.mpr hmem, code - first, hle, hstep, hcode, rfl⟩

/-- The one-character mapping of a character; one without a mapping stays. -/
def mapByRuns (runs : Array (Nat × Nat × Nat × Nat)) (c : Char) : Char :=
  match searchRuns runs c.toNat 0 runs.size with
  | some image => Char.ofNat image
  | none => c

def lowerChar (c : Char) : Char :=
  if c.toNat < 128 then c.toLower else mapByRuns lowerRuns c

def upperChar (c : Char) : Char :=
  if c.toNat < 128 then c.toUpper else mapByRuns upperRuns c

/-- The mapping of a character that has several characters, else the one-character mapping. -/
def expand (table : Array (Nat × List Nat)) (simple : Char → Char) (c : Char) : List Char :=
  if c.toNat < 128 then [simple c]
  else
    match table.find? (·.1 == c.toNat) with
    | some (_, codes) => codes.map Char.ofNat
    | none => [simple c]

private def skipIgnorable (cs : List Char) : List Char :=
  cs.dropWhile caseIgnorableRanges.contains

private def startsCased (cs : List Char) : Bool :=
  match skipIgnorable cs with
  | [] => false
  | c :: _ => casedRanges.contains c

private def lowerFrom : List Char → List Char → List Char
  | _, [] => []
  | before, c :: rest =>
      let mapped :=
        if c = 'Σ' then
          [if startsCased before && !startsCased rest then 'ς' else 'σ']
        else expand lowerExpansions lowerChar c
      mapped ++ lowerFrom (c :: before) rest

/-- The lower case forms of the sigma. -/
def sigmas : List Char := ['ς', 'σ']

/-- The lower case form of a text. A sigma after a cased character and before none is final. -/
def lower (s : String) : String := String.ofList (lowerFrom [] s.toList)

private theorem mem_lowerFrom {before cs : List Char} {c : Char} (h : c ∈ lowerFrom before cs) :
    ∃ d ∈ cs, c ∈ expand lowerExpansions lowerChar d ∨ c ∈ sigmas := by
  induction cs generalizing before with
  | nil => cases h
  | cons d rest ih =>
      rw [lowerFrom] at h
      rcases List.mem_append.mp h with h | h
      · refine ⟨d, List.mem_cons_self, ?_⟩
        split at h
        · refine .inr ?_
          split at h <;> simp_all [sigmas]
        · exact .inl h
      · obtain ⟨d', hd, hc⟩ := ih h
        exact ⟨d', List.mem_cons_of_mem d hd, hc⟩

theorem mem_lower {s : String} {c : Char} (h : c ∈ (lower s).toList) :
    ∃ d ∈ s.toList, c ∈ expand lowerExpansions lowerChar d ∨ c ∈ sigmas := by
  rw [lower, String.toList_ofList] at h
  exact mem_lowerFrom h

private theorem mem_lowerFrom_of_mem {before cs : List Char} {c d : Char} (hc : c ∈ cs)
    (hsigma : c ≠ 'Σ') (hd : d ∈ expand lowerExpansions lowerChar c) : d ∈ lowerFrom before cs := by
  induction cs generalizing before with
  | nil => cases hc
  | cons first rest ih =>
      rw [lowerFrom]
      rcases List.mem_cons.mp hc with rfl | hc
      · rw [if_neg hsigma]
        exact List.mem_append_left _ hd
      · exact List.mem_append_right _ (ih hc)

theorem mem_lower_of_mem {s : String} {c d : Char} (hc : c ∈ s.toList) (hsigma : c ≠ 'Σ')
    (hd : d ∈ expand lowerExpansions lowerChar c) : d ∈ (lower s).toList := by
  rw [lower, String.toList_ofList]
  exact mem_lowerFrom_of_mem hc hsigma hd

private theorem lowerFrom_eq_self {before cs : List Char}
    (h : ∀ c ∈ cs, c.toNat < 128 ∧ c.toLower = c) : lowerFrom before cs = cs := by
  induction cs generalizing before with
  | nil => rfl
  | cons c rest ih =>
      obtain ⟨⟨hascii, hlower⟩, hrest⟩ := List.forall_mem_cons.mp h
      have hsigma : c ≠ 'Σ' := by
        rintro rfl
        exact absurd hascii (by decide)
      rw [lowerFrom, if_neg hsigma, expand, if_pos hascii, lowerChar, if_pos hascii, hlower, ih hrest]
      rfl

theorem lower_eq_self {s : String} (h : ∀ c ∈ s.toList, c.toNat < 128 ∧ c.toLower = c) :
    lower s = s := by
  rw [lower, lowerFrom_eq_self h, String.ofList_toList]

def upper (s : String) : String :=
  String.ofList (s.toList.flatMap (expand upperExpansions upperChar))

/-- The lower case letters that share their upper case form with a lower case letter, itself
included. -/
def sharedUpper (c : Char) : List Char :=
  match sharedUpperGroups.find? (·.contains c.toNat) with
  | some group => group.map Char.ofNat
  | none => [c]

def lowerSources (base : Char) : List Char :=
  base :: lowerRuns.toList.filterMap fun (first, last, step, image) =>
    let steps := base.toNat - image
    if image ≤ base.toNat ∧ first + steps ≤ last ∧ steps % step = 0 then
      some (Char.ofNat (first + steps))
    else none

/-- Whether two characters differ at most in case. -/
def sameLetter (a b : Char) : Bool :=
  let a := lowerChar a
  let b := lowerChar b
  a == b || (sharedUpper a).contains b

def caseVariants (c : Char) : List Char := (sharedUpper (lowerChar c)).flatMap lowerSources

end FeatureSuite.Text

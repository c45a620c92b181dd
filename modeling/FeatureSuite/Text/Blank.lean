/-!
# Blank characters

White space in all scripts, and the functions that trim it. Lines end at the line feed alone, so a
carriage return is an ordinary blank.
-/

namespace FeatureSuite.Text

/-- The separators of all scripts and the controls that act as white space. The zero width space and
the byte order mark are not among them. -/
def isBlank (c : Char) : Bool :=
  let n := c.toNat
  (9 ≤ n && n ≤ 13) || (28 ≤ n && n ≤ 32) || n == 0x85 || n == 0xA0 || n == 0x1680 ||
    (0x2000 ≤ n && n ≤ 0x200A) || n == 0x2028 || n == 0x2029 || n == 0x202F || n == 0x205F ||
    n == 0x3000

/-- A blank other than the line feed. -/
def isInlineBlank (c : Char) : Bool := isBlank c && c != '\n'

def dropEndWhile (p : Char → Bool) : List Char → List Char
  | [] => []
  | c :: rest =>
      match dropEndWhile p rest with
      | [] => if p c then [] else [c]
      | kept => c :: kept

def trimStart (cs : List Char) : List Char := cs.dropWhile isBlank

def trimEnd (cs : List Char) : List Char := dropEndWhile isBlank cs

def trim (cs : List Char) : List Char := trimEnd (trimStart cs)

/-- Drops blanks at both ends of a text. -/
def strip (s : String) : String := String.ofList (trim s.toList)

/-- Cuts a list at every occurrence of a character, which is left out; there is one piece more than
occurrences. -/
def splitOnChar (sep : Char) : List Char → List (List Char)
  | [] => [[]]
  | c :: rest =>
      if c = sep then [] :: splitOnChar sep rest
      else
        match splitOnChar sep rest with
        | [] => [[c]]
        | piece :: pieces => (c :: piece) :: pieces

theorem splitOnChar_of_notMem {sep : Char} {cs : List Char} (h : sep ∉ cs) :
    splitOnChar sep cs = [cs] := by
  induction cs with
  | nil => rfl
  | cons c cs ih =>
      obtain ⟨hc, hcs⟩ := not_or.mp (mt List.mem_cons.mpr h)
      rw [splitOnChar, if_neg (Ne.symm hc), ih hcs]

theorem splitOnChar_append {sep : Char} {cs rest : List Char} (h : sep ∉ cs) :
    splitOnChar sep (cs ++ sep :: rest) = cs :: splitOnChar sep rest := by
  induction cs with
  | nil => rw [List.nil_append, splitOnChar, if_pos rfl]
  | cons c cs ih =>
      obtain ⟨hc, hcs⟩ := not_or.mp (mt List.mem_cons.mpr h)
      rw [List.cons_append, splitOnChar, if_neg (Ne.symm hc), ih hcs]

theorem notMem_of_mem_splitOnChar {sep : Char} {cs piece : List Char}
    (h : piece ∈ splitOnChar sep cs) : sep ∉ piece := by
  fun_induction splitOnChar sep cs generalizing piece with
  | case1 => simp_all
  | case2 rest ih =>
      rcases List.mem_cons.mp h with rfl | h
      · exact List.not_mem_nil
      · exact ih h
  | case3 c rest hc hnil ih => simp_all [Ne.symm hc]
  | case4 c rest hc first pieces hpieces ih =>
      rw [hpieces] at ih
      rcases List.mem_cons.mp h with rfl | h
      · exact List.not_mem_cons_of_ne_of_not_mem (Ne.symm hc) (ih List.mem_cons_self)
      · exact ih (List.mem_cons_of_mem _ h)

/-- The words between blanks. `word` is what is read of the present one, backwards. -/
def splitBlanksFrom (word : List Char) : List Char → List (List Char)
  | [] => if word.isEmpty then [] else [word.reverse]
  | c :: rest =>
      if isBlank c then
        if word.isEmpty then splitBlanksFrom [] rest else word.reverse :: splitBlanksFrom [] rest
      else splitBlanksFrom (c :: word) rest

/-- The words of a text, without the blanks between them. -/
def splitBlanks (cs : List Char) : List (List Char) := splitBlanksFrom [] cs

theorem length_dropWhile_le (p : Char → Bool) (cs : List Char) :
    (cs.dropWhile p).length ≤ cs.length := (List.dropWhile_sublist p).length_le

/-- The lines of a text, cut at line feeds; a text that ends with a line feed has an empty last
line. -/
def lines (s : String) : List String := (splitOnChar '\n' s.toList).map String.ofList

/-- Whether a list starts with another one, and what follows it. -/
def afterStart? : List Char → List Char → Option (List Char)
  | [], cs => some cs
  | _ :: _, [] => none
  | p :: ps, c :: cs => if p = c then afterStart? ps cs else none

/-- Removes a given start, if it is there. -/
def dropStart? (start s : String) : Option String :=
  (afterStart? start.toList s.toList).map String.ofList

@[simp] theorem afterStart?_append (start cs : List Char) :
    afterStart? start (start ++ cs) = some cs := by
  induction start with
  | nil => rfl
  | cons c start ih => rw [List.cons_append, afterStart?, if_pos rfl, ih]

theorem eq_append_of_afterStart? {start cs rest : List Char}
    (h : afterStart? start cs = some rest) : cs = start ++ rest := by
  induction start generalizing cs with
  | nil => exact Option.some.inj h
  | cons p start ih =>
      cases cs with
      | nil => cases h
      | cons c cs =>
          rw [afterStart?] at h
          split at h
          · rename_i hfirst
            rw [List.cons_append, ← ih h, hfirst]
          · cases h

@[simp] theorem dropStart?_append (start s : String) : dropStart? start (start ++ s) = some s := by
  rw [dropStart?, String.toList_append, afterStart?_append, Option.map_some, String.ofList_toList]

theorem dropStart?_eq_some {start s rest : String} :
    dropStart? start s = some rest ↔ s = start ++ rest := by
  constructor
  · intro h
    obtain ⟨cs, hcs, rfl⟩ := Option.map_eq_some_iff.mp h
    rw [← String.toList_inj, eq_append_of_afterStart? hcs, String.toList_append,
      String.toList_ofList]
  · rintro rfl
    exact dropStart?_append start rest

/-- Joins texts with a separator between neighbours. -/
def join (sep : String) : List String → String
  | [] => ""
  | [s] => s
  | s :: rest => s ++ sep ++ join sep rest

theorem join_cons {sep first : String} {rest : List String} (h : rest ≠ []) :
    join sep (first :: rest) = first ++ sep ++ join sep rest := by
  cases rest with
  | nil => exact absurd rfl h
  | cons second rest => rfl

/-- Texts that are joined to lines are the lines exactly if none of them goes over lines itself. -/
theorem lines_join {parts : List String} (hne : parts ≠ []) :
    lines (join "\n" parts ++ "\n") = parts ++ [""] ↔ ∀ part ∈ parts, '\n' ∉ part.toList := by
  constructor
  · intro h part hpart
    have hmem : part ∈ lines (join "\n" parts ++ "\n") := h ▸ List.mem_append_left _ hpart
    obtain ⟨piece, hpiece, rfl⟩ := List.mem_map.mp hmem
    rw [String.toList_ofList]
    exact notMem_of_mem_splitOnChar hpiece
  · intro h
    induction parts with
    | nil => exact absurd rfl hne
    | cons part parts ih =>
        obtain ⟨hpart, hparts⟩ := List.forall_mem_cons.mp h
        cases parts with
        | nil =>
            have htext : (part ++ "\n").toList = part.toList ++ '\n' :: [] :=
              String.toList_append ..
            rw [join, lines, htext, splitOnChar_append hpart]
            simp [splitOnChar]
        | cons next parts =>
            have htext : (join "\n" (part :: next :: parts) ++ "\n").toList =
                part.toList ++ '\n' :: (join "\n" (next :: parts) ++ "\n").toList := by
              simp [join_cons, String.toList_append]
            have hrest := ih (List.cons_ne_nil _ _) hparts
            rw [lines] at hrest
            rw [lines, htext, splitOnChar_append hpart, List.map_cons, hrest, String.ofList_toList]
            rfl

end FeatureSuite.Text

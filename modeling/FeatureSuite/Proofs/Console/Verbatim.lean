import FeatureSuite.Console.Markup
import FeatureSuite.Proofs.Outcome

/-!
# Text that is shown as it is

Text for the console is read for tags, for backslashes in front of brackets and for names of emoji,
and characters that move the cursor are left out. A text without any of these is shown as it is. A
text with at most one colon has room for no name of an emoji, and is shown as it is only then: all
that is read in it makes it shorter.
-/

namespace FeatureSuite

/-! ## Names of emoji -/

namespace Emoji

/-- Whether a colon is followed by the name of an emoji. -/
def opensName (rest : List Char) : Bool :=
  (nameText? rest).any fun (name, _) => (ofNameWithEnding? name).isSome

private theorem nameText?_eq_some {cs name after : List Char}
    (h : nameText? cs = some (name, after)) :
    cs = name ++ ':' :: after := by
  unfold nameText? at h
  dsimp only at h
  split at h
  · rename_i hdrop
    cases h
    rw [← hdrop, List.takeWhile_append_dropWhile]
  · cases h

private theorem nameText?_of_count {cs : List Char}
    (h : cs.count ':' = 0) : nameText? cs = none := by
  cases hname : nameText? cs with
  | none => rfl
  | some found =>
      obtain ⟨name, after⟩ := found
      rw [nameText?_eq_some hname, List.count_append, List.count_cons_self] at h
      omega

private theorem replaceFrom_of_count {cs : List Char} (h : cs.count ':' ≤ 1) {fuel : Nat}
    (hfuel : cs.length ≤ fuel) : replaceFrom fuel cs = cs := by
  induction cs generalizing fuel with
  | nil => cases fuel <;> rfl
  | cons c rest ih =>
      obtain ⟨fuel, rfl⟩ := Nat.exists_eq_add_one_of_ne_zero (Nat.ne_zero_of_lt hfuel)
      have hname : (if c = ':' then nameText? rest else none) = none := by
        split
        · subst c
          rw [List.count_cons_self] at h
          exact nameText?_of_count (by omega)
        · rfl
      have hrest : rest.count ':' ≤ 1 := Nat.le_trans List.count_le_count_cons h
      rw [replaceFrom, hname]
      dsimp only
      rw [ih hrest (by simpa using hfuel)]

private theorem replace_of_count {cs : List Char} (h : cs.count ':' ≤ 1) : replace cs = cs :=
  replaceFrom_of_count h (Nat.le_refl _)

end Emoji

namespace Markup

/-! ## Markup -/

/-- Whether a character begins something that is not shown as it is, given what follows it. -/
def beginsMarkup (c : Char) (rest : List Char) : Bool :=
  cursorControls.contains c || (c = '[' && (tagText? rest).isSome) ||
    (c = '\\' && rest.head? = some '[') || (c = ':' && Emoji.opensName rest)

/-- Whether nothing in a text is read as markup. -/
def isVerbatim : List Char → Bool
  | [] => true
  | c :: rest => !beginsMarkup c rest && isVerbatim rest

theorem isVerbatim_of_suffix {cs rest : List Char} (h : isVerbatim cs = true)
    (hrest : rest <:+ cs) : isVerbatim rest = true := by
  obtain ⟨front, rfl⟩ := hrest
  induction front with
  | nil => exact h
  | cons c front ih =>
      rw [List.cons_append, isVerbatim, Bool.and_eq_true] at h
      exact ih h.2

theorem not_beginsMarkup_of_suffix {cs rest : List Char} {c : Char} (h : isVerbatim cs = true)
    (hrest : c :: rest <:+ cs) : beginsMarkup c rest = false := by
  have hsuffix := isVerbatim_of_suffix h hrest
  rw [isVerbatim, Bool.and_eq_true, Bool.not_eq_true'] at hsuffix
  exact hsuffix.1

/-! ## Tags -/

/-- No bracket in a text opens a tag. -/
def HasNoTag (cs : List Char) : Prop := ∀ rest, '[' :: rest <:+ cs → tagText? rest = none

theorem HasNoTag.tail {c : Char} {rest : List Char} (h : HasNoTag (c :: rest)) : HasNoTag rest :=
  fun _ hsuffix => h _ (hsuffix.trans (List.suffix_cons c rest))

private theorem hasNoTag_cons {c : Char} {rest : List Char} (h : HasNoTag rest)
    (hfirst : escapedTag? (c :: rest) = none) : HasNoTag (c :: rest) := by
  intro behind hsuffix
  rcases List.suffix_cons_iff.mp hsuffix with heq | hsuffix
  · obtain ⟨rfl, rfl⟩ := List.cons.inj heq
    simpa [escapedTag?] using hfirst
  · exact h behind hsuffix

private theorem HasNoTag.escapedTag? {cs : List Char}
    (h : HasNoTag cs) : escapedTag? cs = none := by
  unfold Markup.escapedTag?
  split
  · rename_i rest hdrop
    rw [h rest (hdrop ▸ List.dropWhile_suffix _), Option.map_none]
  · rfl

private theorem HasNoTag.piecesFrom {cs : List Char} (h : HasNoTag cs) (place : Nat)
    (plain : List Char) :
    piecesFrom place plain cs = plainPiece (plain.reverse ++ cs) := by
  induction cs generalizing place plain with
  | nil => rw [Markup.piecesFrom, List.append_nil]
  | cons c rest ih =>
      rw [Markup.piecesFrom]
      split
      · rename_i hfound
        rw [h.escapedTag?] at hfound
        cases hfound
      · rw [ih h.tail]
        simp

theorem hasNoTag_of_isVerbatim {cs : List Char} (h : isVerbatim cs = true) : HasNoTag cs := by
  intro rest hrest
  have hmarkup := not_beginsMarkup_of_suffix h hrest
  simp only [beginsMarkup, Bool.or_eq_false_iff, decide_true, Bool.true_and] at hmarkup
  simpa using hmarkup.1.1.2

/-! ## Shown text -/

theorem unescape_of_isVerbatim {cs : List Char} (h : isVerbatim cs = true) :
    unescape cs = cs := by
  fun_induction unescape cs with
  | case1 rest ih =>
      have hmarkup := not_beginsMarkup_of_suffix h (List.suffix_refl _)
      simp [beginsMarkup] at hmarkup
  | case2 c rest _ ih => rw [ih (isVerbatim_of_suffix h (List.suffix_cons c rest))]
  | case3 => rfl

theorem replaceFrom_of_isVerbatim {cs : List Char} (h : isVerbatim cs = true) {fuel : Nat}
    (hfuel : cs.length ≤ fuel) : Emoji.replaceFrom fuel cs = cs := by
  induction fuel generalizing cs with
  | zero => rw [List.length_eq_zero_iff.mp (Nat.le_zero.mp hfuel), Emoji.replaceFrom]
  | succ fuel ih =>
      cases cs with
      | nil => rfl
      | cons c rest =>
          have hlength : rest.length ≤ fuel := by simpa using hfuel
          have hrest := isVerbatim_of_suffix h (List.suffix_cons c rest)
          rw [Emoji.replaceFrom]
          split
          · rw [ih hrest hlength]
          · rename_i name after hname
            split at hname
            · subst c
              have hmarkup := not_beginsMarkup_of_suffix h (List.suffix_refl _)
              have hnone : Emoji.ofNameWithEnding? name = none := by
                simp only [beginsMarkup, Bool.or_eq_false_iff, decide_true, Bool.true_and] at hmarkup
                simpa [Emoji.opensName, hname] using hmarkup.2
              obtain rfl := Emoji.nameText?_eq_some hname
              have hafter : isVerbatim after = true :=
                isVerbatim_of_suffix hrest ⟨name ++ [':'], by simp⟩
              rw [hnone, ih hafter (by simp at hlength; omega)]
              simp
            · cases hname

theorem dropControls_of_isVerbatim {cs : List Char} (h : isVerbatim cs = true) :
    dropControls cs = cs := by
  refine List.filter_eq_self.mpr fun c hc => ?_
  obtain ⟨front, rest, rfl⟩ := List.append_of_mem hc
  have hmarkup := not_beginsMarkup_of_suffix h ⟨front, rfl⟩
  simp only [beginsMarkup, Bool.or_eq_false_iff] at hmarkup
  simpa using hmarkup.1.1.1

/-- A text without markup is shown as it is. -/
theorem plainText_of_isVerbatim {text : String} (h : isVerbatim text.toList = true) :
    plainText text = .ok text := by
  have hpieces : pieces text = plainPiece text.toList := by
    rw [pieces, (hasNoTag_of_isVerbatim h).piecesFrom]
    rfl
  have hrender : render [] (plainPiece text.toList) = .ok text.toList := by
    unfold plainPiece
    split
    · rename_i hempty
      rw [List.isEmpty_iff.mp hempty, render]
    · rw [render, render, unescape_of_isVerbatim h, Emoji.replace,
        replaceFrom_of_isVerbatim h (Nat.le_refl _)]
      simp [Except.map]
  rw [plainText, hpieces, hrender]
  simp [Except.map, dropControls_of_isVerbatim h]

/-! ## Markup makes a text shorter -/

/-- The number of characters of a piece that can be shown. -/
def Piece.size : Piece → Nat
  | plain text => text.length
  | tag _ _ => 0

/-- The number of characters of pieces that can be shown. -/
def sizeOfPieces : List Piece → Nat
  | [] => 0
  | piece :: rest => piece.size + sizeOfPieces rest

@[simp] private theorem sizeOfPieces_append (ps qs : List Piece) :
    sizeOfPieces (ps ++ qs) = sizeOfPieces ps + sizeOfPieces qs := by
  induction ps with
  | nil => exact (Nat.zero_add _).symm
  | cons piece rest ih => rw [List.cons_append, sizeOfPieces, sizeOfPieces, ih, Nat.add_assoc]

@[simp] private theorem sizeOfPieces_plainPiece (text : List Char) :
    sizeOfPieces (plainPiece text) = text.length := by
  unfold plainPiece
  split
  · rename_i hempty
    rw [List.isEmpty_iff.mp hempty]
    rfl
  · simp [sizeOfPieces, Piece.size]

private theorem escapedTag?_eq_some {cs text after : List Char} {n : Nat}
    (h : escapedTag? cs = some (n, text, after)) :
    cs = List.replicate n '\\' ++ '[' :: (text ++ ']' :: after) := by
  unfold escapedTag? at h
  split at h
  · rename_i rest hdrop
    obtain ⟨⟨found, behind⟩, hfound, heq⟩ := Option.map_eq_some_iff.mp h
    cases heq
    have hslashes : cs.takeWhile (· = '\\') =
        List.replicate (cs.takeWhile (· = '\\')).length '\\' := by
      refine List.eq_replicate_iff.mpr ⟨rfl, fun c hc => ?_⟩
      simpa using List.all_eq_true.mp List.all_takeWhile c hc
    have hrest : rest = text ++ ']' :: after := by
      unfold tagText? at hfound
      split at hfound
      · cases hfound
      · split at hfound
        · split at hfound
          · rename_i hclose
            cases hfound
            rw [List.cons_append, ← hclose, List.takeWhile_append_dropWhile]
          · cases hfound
        · cases hfound
    rw [← hslashes, ← hrest, ← hdrop, List.takeWhile_append_dropWhile]
  · cases h

private theorem sizeOfPieces_tagPieces_lt (place n : Nat) (text : List Char) :
    sizeOfPieces (tagPieces place n text) < n + text.length + 2 := by
  unfold tagPieces
  rw [sizeOfPieces_append, sizeOfPieces_plainPiece, List.length_replicate]
  split
  · simp only [sizeOfPieces, Piece.size, List.length_cons, List.length_append, List.length_nil]
    omega
  · simp only [sizeOfPieces, Piece.size]
    omega

private theorem hasNoTag_or_sizeOfPieces_lt (place : Nat) (plain cs : List Char) :
    HasNoTag cs ∧ sizeOfPieces (piecesFrom place plain cs) = plain.length + cs.length ∨
      sizeOfPieces (piecesFrom place plain cs) < plain.length + cs.length := by
  fun_induction piecesFrom place plain cs with
  | case1 place plain =>
      refine .inl ⟨fun rest hrest => ?_, by simp [sizeOfPieces_plainPiece]⟩
      exact absurd (List.suffix_nil.mp hrest) (List.cons_ne_nil _ _)
  | case2 place plain c rest n text after hfound ih =>
      right
      have hle : sizeOfPieces (piecesFrom (place + n + text.length + 2) [] after) ≤ after.length := by
        rcases ih with ⟨_, heq⟩ | hlt
        · simp [heq]
        · simpa using Nat.le_of_lt hlt
      have htag := sizeOfPieces_tagPieces_lt place n text
      rw [escapedTag?_eq_some hfound, sizeOfPieces_append, sizeOfPieces_append,
        sizeOfPieces_plainPiece]
      simp only [List.length_append, List.length_cons, List.length_reverse, List.length_replicate]
      omega
  | case3 place plain c rest hnone ih =>
      rcases ih with ⟨htags, heq⟩ | hlt
      · refine .inl ⟨hasNoTag_cons htags hnone, ?_⟩
        rw [heq, List.length_cons, List.length_cons]
        omega
      · rw [List.length_cons] at hlt
        right
        rw [List.length_cons]
        omega

private theorem length_unescape_le (cs : List Char) : (unescape cs).length ≤ cs.length := by
  fun_induction unescape cs with
  | case1 rest ih => simp only [List.length_cons]; omega
  | case2 c rest _ ih => simpa using ih
  | case3 => exact Nat.le_refl _

@[simp] private theorem count_unescape (cs : List Char) :
    (unescape cs).count ':' = cs.count ':' := by
  fun_induction unescape cs with
  | case1 rest ih => simpa using ih
  | case2 c rest _ ih => rw [List.count_cons, List.count_cons, ih]
  | case3 => rfl

private theorem count_of_mem_piecesFrom {place : Nat} {plain cs text : List Char}
    (h : Piece.plain text ∈ piecesFrom place plain cs) :
    text.count ':' ≤ plain.count ':' + cs.count ':' := by
  have hpiece {part : List Char} (h : Piece.plain text ∈ plainPiece part) : text = part := by
    unfold plainPiece at h
    split at h
    · cases h
    · simpa using h
  fun_induction piecesFrom place plain cs with
  | case1 place plain => simp [hpiece h]
  | case2 place plain c rest n tag after hfound ih =>
      rw [escapedTag?_eq_some hfound, List.count_append, List.count_cons_of_ne (by decide),
        List.count_append, List.count_cons_of_ne (by decide)]
      rcases List.mem_append.mp h with h | h
      · rcases List.mem_append.mp h with h | h
        · rw [hpiece h, List.count_reverse]
          omega
        · unfold tagPieces at h
          rcases List.mem_append.mp h with h | h
          · rw [hpiece h, List.count_eq_zero_of_not_mem (by simp)]
            omega
          · split at h
            · obtain rfl : text = '[' :: tag ++ [']'] := by simpa using h
              simp
              omega
            · simp at h
      · have hle := ih h
        rw [List.count_nil] at hle
        omega
  | case3 place plain c rest hnone ih =>
      have hle := ih h
      rw [List.count_cons] at hle
      rw [List.count_cons]
      omega

private theorem length_render_le {stack : List OpenStyle} {pieces : List Piece} {shown : List Char}
    (hcount : ∀ text, Piece.plain text ∈ pieces → text.count ':' ≤ 1)
    (h : render stack pieces = .ok shown) : shown.length ≤ sizeOfPieces pieces := by
  have hsize (piece : Piece) (rest : List Piece) :
      sizeOfPieces (piece :: rest) = piece.size + sizeOfPieces rest := rfl
  fun_induction render stack pieces generalizing shown with
  | case1 =>
      cases h
      exact Nat.zero_le _
  | case2 stack text rest ih =>
      obtain ⟨hfirst, hrest⟩ : text.count ':' ≤ 1 ∧
          ∀ text, Piece.plain text ∈ rest → text.count ':' ≤ 1 :=
        ⟨hcount text List.mem_cons_self, fun _ h => hcount _ (List.mem_cons_of_mem _ h)⟩
      obtain ⟨behind, hbehind, rfl⟩ := map_eq_ok.mp h
      have hle := ih hrest hbehind
      have hfirstLe := length_unescape_le text
      rw [Emoji.replace_of_count (count_unescape text ▸ hfirst), List.length_append, hsize, Piece.size]
      omega
  | case3 stack place text rest ih =>
      obtain ⟨behind, _, hrest⟩ := bind_eq_ok.mp h
      exact Nat.le_add_left_of_le
        (ih behind (fun _ h => hcount _ (List.mem_cons_of_mem _ h)) hrest)

private theorem isVerbatim_of_unchanged {cs : List Char} (htags : HasNoTag cs)
    (hescapes : unescape cs = cs) (hcontrols : dropControls cs = cs)
    (hcount : cs.count ':' ≤ 1) : isVerbatim cs = true := by
  induction cs with
  | nil => rfl
  | cons c rest ih =>
      have hcontrols := List.filter_eq_self.mp hcontrols
      have hslash : ¬(c = '\\' ∧ rest.head? = some '[') := by
        rintro ⟨rfl, hhead⟩
        obtain ⟨behind, rfl⟩ := List.head?_eq_some_iff.mp hhead
        simp [unescape] at hescapes
      have hunescape : unescape (c :: rest) = c :: unescape rest := by
        rw [unescape]
        rintro behind rfl rfl
        exact hslash ⟨rfl, rfl⟩
      have hname : c = ':' → Emoji.opensName rest = false := by
        rintro rfl
        rw [List.count_cons_self] at hcount
        rw [Emoji.opensName, Emoji.nameText?_of_count (by omega)]
        rfl
      have hrest : isVerbatim rest = true :=
        ih htags.tail (List.cons.inj (hunescape ▸ hescapes)).2
          (List.filter_eq_self.mpr fun d hd => hcontrols d (List.mem_cons_of_mem _ hd))
          (Nat.le_trans List.count_le_count_cons hcount)
      have hfirst := hcontrols c List.mem_cons_self
      have htag : c = '[' → tagText? rest = none := by
        rintro rfl
        exact htags rest (List.suffix_refl _)
      simp only [isVerbatim, beginsMarkup, hrest, Bool.and_true, Bool.not_eq_true',
        Bool.or_eq_false_iff, Bool.and_eq_false_iff, decide_eq_false_iff_not]
      refine ⟨⟨⟨by simpa using hfirst, ?_⟩, ?_⟩, ?_⟩
      · by_cases hc : c = '['
        · exact .inr (by simp [htag hc])
        · exact .inl hc
      · exact not_and_or.mp hslash
      · by_cases hc : c = ':'
        · exact .inr (hname hc)
        · exact .inl hc

/-- A text with at most one colon is shown as it is exactly if it has no markup. -/
theorem plainText_eq_self_iff {text : String} (hcount : text.toList.count ':' ≤ 1) :
    plainText text = .ok text ↔ isVerbatim text.toList = true := by
  refine ⟨fun h => ?_, plainText_of_isVerbatim⟩
  obtain ⟨shown, hrender, hshown⟩ := map_eq_ok.mp h
  have hdrop : dropControls shown = text.toList := by
    rw [← hshown, String.toList_ofList]
  have hdropLe : (dropControls shown).length ≤ shown.length := List.length_filter_le _ _
  have hrenderLe : shown.length ≤ sizeOfPieces (pieces text) := by
    refine length_render_le (fun part hpart => ?_) hrender
    have hle := count_of_mem_piecesFrom hpart
    rw [List.count_nil] at hle
    omega
  rcases hasNoTag_or_sizeOfPieces_lt 0 [] text.toList with ⟨htags, _⟩ | hlt
  · have hplain : render [] (plainPiece text.toList) = .ok shown := by
      have hpieces := htags.piecesFrom 0 []
      rw [List.reverse_nil, List.nil_append] at hpieces
      rwa [← hpieces]
    have hunescape : shown = unescape text.toList := by
      unfold plainPiece at hplain
      split at hplain
      · rename_i hempty
        rw [List.isEmpty_iff.mp hempty]
        cases hplain
        rfl
      · have hcolons : (unescape text.toList).count ':' ≤ 1 := by rwa [count_unescape]
        rw [render, render, Emoji.replace_of_count hcolons] at hplain
        cases hplain
        exact List.append_nil _
    have hle := length_unescape_le text.toList
    have hkept : dropControls shown = shown := by
      refine List.Sublist.eq_of_length_le List.filter_sublist ?_
      rw [hdrop, hunescape]
      exact hle
    have hescapes : unescape text.toList = text.toList := by rw [← hunescape, ← hkept, hdrop]
    refine isVerbatim_of_unchanged htags hescapes ?_ hcount
    rw [← hescapes, ← hunescape, hkept]
  · rw [hdrop] at hdropLe
    rw [List.length_nil, Nat.zero_add] at hlt
    exact absurd (Nat.le_trans hdropLe hrenderLe) (Nat.not_le.mpr hlt)

end Markup

end FeatureSuite

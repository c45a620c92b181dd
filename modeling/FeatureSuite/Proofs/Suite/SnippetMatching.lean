import FeatureSuite.Proofs.Aligned
import FeatureSuite.Proofs.Suite.SnippetPattern
import FeatureSuite.Proofs.Suite.SnippetText
import FeatureSuite.Step.Registry

/-!
# Snippets and their steps

Whether the handler that a snippet makes takes the step it was made for. Its template has a field for
every quoted text and every whole number, but a field takes no empty text, reads only the digits of
ASCII, and a number has a greatest length. These are all exceptions.
-/

namespace FeatureSuite

namespace Snippet

open Regex (MatchState Prefers Leads)
open Template (numberField textField)

/-! ## Pieces of a text -/

/-- The text that a piece was cut from. -/
def Piece.source : Piece → List Char
  | char c => [c]
  | quoted text => '"' :: (text ++ ['"'])
  | number text => text

/-- Digits of any script, with a minus sign or without. -/
structure IsNumber (text sign digits : List Char) : Prop where
  eq : text = sign ++ digits
  sign : sign = [] ∨ sign = ['-']
  ne_nil : digits ≠ []
  digits : ∀ c ∈ digits, Text.isDecimal c = true

/-- Pieces as they are cut from a text. -/
def IsCut : List Piece → Prop
  | [] => True
  | .char _ :: rest => IsCut rest
  | .quoted text :: rest => '"' ∉ text ∧ IsCut rest
  | .number text :: rest =>
      (∃ sign digits, IsNumber text sign digits) ∧
        (rest.flatMap Piece.source).head?.any Text.isWord = false ∧ IsCut rest

private theorem quotedAt?_eq_some {cs text after : List Char}
    (h : quotedAt? cs = some (text, after)) :
    cs = '"' :: (text ++ '"' :: after) ∧ '"' ∉ text := by
  unfold quotedAt? at h
  split at h
  · rename_i rest
    split at h
    · rename_i c after' hdrop
      cases h
      have hquote : c = '"' := by
        have hhead := List.head?_dropWhile_not (· ≠ '"') rest
        rw [hdrop] at hhead
        simpa using hhead
      subst hquote
      refine ⟨by rw [← hdrop, List.takeWhile_append_dropWhile], fun hmem => ?_⟩
      simpa using List.all_eq_true.mp List.all_takeWhile '"' hmem
    · cases h
  · cases h

private theorem digitsAt?_eq_some {cs digits after : List Char}
    (h : digitsAt? cs = some (digits, after)) :
    cs = digits ++ after ∧ digits ≠ [] ∧ (∀ c ∈ digits, Text.isDecimal c = true) ∧
      after.head?.any Text.isWord = false := by
  unfold digitsAt? at h
  dsimp only at h
  split at h
  · cases h
  · rename_i hstop
    cases h
    rw [Bool.not_eq_true, Bool.or_eq_false_iff] at hstop
    refine ⟨List.takeWhile_append_dropWhile.symm, by simpa using hstop.1,
      fun c hc => List.all_eq_true.mp List.all_takeWhile c hc, hstop.2⟩

private theorem numberAt?_eq_some {before : Option Char} {cs text after : List Char}
    (h : numberAt? before cs = some (text, after)) :
    cs = text ++ after ∧ (∃ sign digits, IsNumber text sign digits) ∧
      after.head?.any Text.isWord = false := by
  unfold numberAt? at h
  split at h
  · split at h
    · rename_i rest
      obtain ⟨⟨digits, after'⟩, hdigits, heq⟩ := Option.map_eq_some_iff.mp h
      cases heq
      obtain ⟨rfl, hne, hall, hafter⟩ := digitsAt?_eq_some hdigits
      exact ⟨rfl, ⟨['-'], digits, rfl, .inr rfl, hne, hall⟩, hafter⟩
    · obtain ⟨heq, hne, hall, hafter⟩ := digitsAt?_eq_some h
      exact ⟨heq, ⟨[], text, rfl, .inl rfl, hne, hall⟩, hafter⟩
  · cases h

private theorem source_piecesFrom {fuel : Nat} {before : Option Char} {cs : List Char}
    (hfuel : cs.length ≤ fuel) :
    (piecesFrom fuel before cs).flatMap Piece.source = cs ∧ IsCut (piecesFrom fuel before cs) := by
  induction fuel generalizing before cs with
  | zero =>
      obtain rfl := List.length_eq_zero_iff.mp (Nat.le_zero.mp hfuel)
      exact ⟨rfl, trivial⟩
  | succ fuel ih =>
      cases cs with
      | nil => exact ⟨rfl, trivial⟩
      | cons c rest =>
          rw [piecesFrom]
          split
          · rename_i text after hquoted
            obtain ⟨heq, hfree⟩ := quotedAt?_eq_some hquoted
            have hlength : after.length ≤ fuel := by
              rw [heq] at hfuel
              simp at hfuel
              omega
            obtain ⟨hsource, hcut⟩ := ih hlength
            exact ⟨by rw [List.flatMap_cons, hsource, heq, Piece.source]; simp, hfree, hcut⟩
          · rename_i text after hquoted hnumber
            obtain ⟨heq, hdigits, hafter⟩ := numberAt?_eq_some hnumber
            have hlength : after.length ≤ fuel := by
              obtain ⟨sign, digits, hform⟩ := hdigits
              have hpos := List.length_pos_iff.mpr hform.ne_nil
              rw [heq, hform.eq] at hfuel
              simp at hfuel
              omega
            obtain ⟨hsource, hcut⟩ := ih hlength
            exact ⟨by rw [List.flatMap_cons, hsource, heq, Piece.source], hdigits,
              by rw [hsource]; exact hafter, hcut⟩
          · obtain ⟨hsource, hcut⟩ := ih (Nat.le_of_succ_le_succ hfuel)
            exact ⟨by rw [List.flatMap_cons, hsource, Piece.source, List.singleton_append], hcut⟩

theorem source_pieces (text : String) :
    (pieces text).flatMap Piece.source = text.toList ∧ IsCut (pieces text) :=
  source_piecesFrom (Nat.le_of_eq String.length_toList)

/-! ## The match of a step -/

/-- Whether a field takes a piece: text that is not empty, and digits of ASCII. -/
def Piece.Fits : Piece → Prop
  | char _ => True
  | quoted text => text ≠ []
  | number text => ∀ c ∈ text, c.toNat < 128

/-- What the fields of pieces capture, from an index and a place on. -/
def capturesFrom (index place : Nat) : List Piece → List (Nat × Nat × Nat)
  | [] => []
  | .char _ :: rest => capturesFrom index (place + 1) rest
  | .quoted text :: rest =>
      (index, place + 1, place + 1 + text.length) ::
        capturesFrom (index + 1) (place + 1 + text.length + 1) rest
  | .number text :: rest =>
      (index, place, place + text.length) :: capturesFrom (index + 1) (place + text.length) rest

private theorem isDigit_of_isDecimal {c : Char} (hc : c.toNat < 128) (h : Text.isDecimal c = true) :
    c.isDigit = true := by
  have hall : ∀ n < 128, Text.isDecimal (Char.ofNat n) = true → (Char.ofNat n).isDigit = true := by
    decide +kernel
  have hc := hall c.toNat hc
  rw [Char.ofNat_toNat] at hc
  exact hc h

private theorem isWord_of_isDigit {c : Char} (h : c.isDigit = true) : Text.isWord c = true := by
  have hcode := Template.toNat_of_isDigit h
  rw [Text.isWord, Text.isAlphanumeric, if_pos (by omega), Char.isAlphanum, h]
  simp

/-- The state behind pieces. -/
def stateBehind (index : Nat) (state : MatchState) (pieces : List Piece) : MatchState where
  place := state.place + (pieces.flatMap Piece.source).length
  captures := (capturesFrom index state.place pieces).reverse ++ state.captures

theorem add_length_quoted (place : Nat) (text : List Char) :
    place + (Piece.quoted text).source.length = place + 1 + text.length + 1 := by
  simp [Piece.source]
  omega

private theorem capturesFrom_cons (index place : Nat) (piece : Piece) (rest : List Piece) :
    capturesFrom index place (piece :: rest) = capturesFrom index place [piece] ++
      capturesFrom (index + piece.width) (place + piece.source.length) rest := by
  cases piece with
  | char c => rfl
  | quoted text =>
      rw [add_length_quoted]
      rfl
  | number text => rfl

private theorem stateBehind_cons (index : Nat) (state : MatchState) (piece : Piece)
    (rest : List Piece) :
    stateBehind (index + piece.width) (stateBehind index state [piece]) rest =
      stateBehind index state (piece :: rest) := by
  simp [stateBehind, capturesFrom_cons index state.place piece rest, Nat.add_assoc]

section Pieces

variable {text : Array Char} {state : MatchState} {behind : List Char}

private theorem prefers_quoted (index : Nat) {quote : List Char}
    (htext : text.toList.drop state.place = (Piece.quoted quote).source ++ behind)
    (hne : quote ≠ []) (hfree : '"' ∉ quote) :
    Prefers text (.seq ((Piece.quoted quote).nodes index)) state
      (stateBehind index state [.quoted quote]) := by
  have hopen : text.toList.drop state.place = '"' :: (quote ++ '"' :: behind) := by
    rw [htext, Piece.source]
    simp
  have hinside : text.toList.drop (state.past ['"']).place = quote ++ '"' :: behind :=
    (Regex.getElem?_of_drop_eq hopen).2
  have hquote : Prefers text (.seq [.char '"' .exact]) state (state.past ['"']) :=
    Regex.prefers_char hopen
  rw [stateBehind, List.flatMap_singleton, add_length_quoted]
  exact hquote.append (Regex.prefers_lazy index hinside hne hfree)

private theorem head?_all_not_digit (h : behind.head?.any Text.isWord = false) :
    behind.head?.all (·.isDigit = false) = true := by
  cases hhead : behind.head? with
  | none => rfl
  | some c =>
      rw [hhead, Option.any_some] at h
      have hdigit : c.isDigit = false := Bool.eq_false_iff.mpr fun hdigit => by
        rw [isWord_of_isDigit hdigit] at h
        cases h
      simpa using hdigit

private theorem prefers_number (index : Nat) {number sign digits : List Char}
    (htext : text.toList.drop state.place = number ++ behind)
    (hform : IsNumber number sign digits) (hbehind : behind.head?.any Text.isWord = false)
    (hfits : (Piece.number number).Fits) :
    Prefers text (.seq ((Piece.number number).nodes index)) state
      (stateBehind index state [.number number]) := by
  have hdigits : ∀ c ∈ digits, c.isDigit = true := fun c hc =>
    isDigit_of_isDecimal (hfits c (hform.eq ▸ List.mem_append_right _ hc)) (hform.digits c hc)
  have hsource : text.toList.drop state.place = sign ++ (digits ++ behind) := by
    rw [htext, hform.eq, List.append_assoc]
  have hfield := (Template.prefers_numberField hform.sign hform.ne_nil hdigits
    (head?_all_not_digit hbehind) hsource).capture index
  rw [← hform.eq] at hfield
  rw [stateBehind, List.flatMap_singleton]
  exact hfield

end Pieces

private theorem prefers_pieces {text : Array Char} (pieces : List Piece) {index : Nat}
    {state : MatchState} (htext : text.toList.drop state.place = pieces.flatMap Piece.source)
    (hcut : IsCut pieces) (hfits : ∀ piece ∈ pieces, piece.Fits) :
    Prefers text (.seq (nodesFrom index pieces)) state (stateBehind index state pieces) := by
  induction pieces generalizing index state with
  | nil => exact Regex.prefers_nil state
  | cons piece rest ih =>
      obtain ⟨hfirst, hrest⟩ := List.forall_mem_cons.mp hfits
      rw [List.flatMap_cons] at htext
      have htail : text.toList.drop (stateBehind index state [piece]).place =
          rest.flatMap Piece.source := by
        rw [stateBehind, List.flatMap_singleton, ← List.drop_drop, htext, List.drop_left]
      rw [← stateBehind_cons, nodesFrom]
      cases piece with
      | char c =>
          have hchar : Prefers text (.seq ((Piece.char c).nodes index)) state
              (stateBehind index state [.char c]) := Regex.prefers_char htext
          exact hchar.append (ih htail hcut hrest)
      | quoted quote =>
          exact (prefers_quoted index htext hfirst hcut.1).append (ih htail hcut.2 hrest)
      | number number =>
          obtain ⟨⟨sign, digits, hform⟩, hbehind, hcut⟩ := hcut
          exact (prefers_number index htext hform hbehind hfirst).append (ih htail hcut hrest)

private theorem matchWhole?_of_fits {text : Array Char} {pieces : List Piece}
    (htext : text.toList = pieces.flatMap Piece.source) (hcut : IsCut pieces)
    (hfits : ∀ piece ∈ pieces, piece.Fits) :
    (treeOf pieces).matchWhole? text = some (stateBehind 1 { place := 0 } pieces) := by
  let final := stateBehind 1 { place := 0 } pieces
  have hplace : final.place = text.size := by
    rw [← Array.length_toList, htext]
    exact Nat.zero_add _
  have hstart : Prefers text (.seq [.anchor .textStart]) { place := 0 } { place := 0 } :=
    fun _ _ hrest => hrest
  have hend : Prefers text (.seq [.anchor .textEnd]) final final := by
    intro rest last hrest
    change (if Anchor.textEnd.holds text final.place = true then rest final else none) = some last
    rw [if_pos (by rw [Anchor.holds, decide_eq_true_eq, hplace]), hrest]
  have hpieces : Prefers text (.seq (nodesFrom 1 pieces)) { place := 0 } final :=
    prefers_pieces pieces htext hcut hfits
  refine (hstart.append (hpieces.append hend)) _ _ ?_
  rw [if_pos hplace]

/-! ## The values of a step -/

/-- The values of the fields of pieces. -/
def argsOf : List Piece → Except ConversionFault (List Value)
  | [] => return []
  | .char _ :: rest => argsOf rest
  | .quoted text :: rest => return .text (String.ofList text) :: (← argsOf rest)
  | .number text :: rest => return (← wholeNumber none (String.ofList text)) :: (← argsOf rest)

private theorem slice_of_drop_eq {text : Array Char} {first : Nat} {taken tail : List Char}
    (h : text.toList.drop first = taken ++ tail) :
    Regex.slice text first (first + taken.length) = String.ofList taken := by
  rw [Regex.slice, List.drop_take, h, Nat.add_sub_cancel_left, List.take_left]

private theorem le_of_mem_capturesFrom {index place : Nat} {pieces : List Piece}
    {entry : Nat × Nat × Nat} (h : entry ∈ capturesFrom index place pieces) : index ≤ entry.1 := by
  induction pieces generalizing index place with
  | nil => cases h
  | cons piece rest ih =>
      cases piece with
      | char c => exact ih h
      | quoted text =>
          rcases List.mem_cons.mp h with rfl | h
          · exact Nat.le_refl _
          · exact Nat.le_of_succ_le (ih h)
      | number text =>
          rcases List.mem_cons.mp h with rfl | h
          · exact Nat.le_refl _
          · exact Nat.le_of_succ_le (ih h)

private theorem pairwise_capturesFrom (index place : Nat) (pieces : List Piece) :
    (capturesFrom index place pieces).Pairwise fun entry other => entry.1 ≠ other.1 := by
  induction pieces generalizing index place with
  | nil => exact .nil
  | cons piece rest ih =>
      cases piece with
      | char c => exact ih _ _
      | quoted text =>
          exact .cons (fun _ h => Nat.ne_of_lt (le_of_mem_capturesFrom h)) (ih _ _)
      | number text =>
          exact .cons (fun _ h => Nat.ne_of_lt (le_of_mem_capturesFrom h)) (ih _ _)

private theorem capture?_stateBehind {pieces : List Piece} {entry : Nat × Nat × Nat}
    (h : entry ∈ capturesFrom 1 0 pieces) :
    (stateBehind 1 { place := 0 } pieces).capture? entry.1 = some entry.2 := by
  have hfind {entries : List (Nat × Nat × Nat)}
      (hpairwise : entries.Pairwise fun entry other => entry.1 ≠ other.1) (hmem : entry ∈ entries) :
      entries.find? (·.1 == entry.1) = some entry := by
    induction hpairwise with
    | nil => cases hmem
    | cons hfirst _ ih =>
        rcases List.mem_cons.mp hmem with rfl | hmem
        · rw [List.find?_cons_of_pos (by simp)]
        · rw [List.find?_cons_of_neg (by simpa using hfirst entry hmem), ih hmem]
  have hreverse : (capturesFrom 1 0 pieces).reverse.Pairwise fun entry other => entry.1 ≠ other.1 :=
    List.pairwise_reverse.mpr ((pairwise_capturesFrom 1 0 pieces).imp Ne.symm)
  rw [MatchState.capture?, stateBehind, List.append_nil, hfind hreverse (List.mem_reverse.mpr h)]
  rfl

private theorem mapM_fieldsFrom {group : Nat → Option String} {groups : Nat} {text : Array Char}
    (pieces : List Piece) {index place : Nat}
    (hgroup : ∀ entry ∈ capturesFrom (index + 1) place pieces,
      group (entry.1 - 1) = some (Regex.slice text entry.2.1 entry.2.2))
    (hsource : text.toList.drop place = pieces.flatMap Piece.source)
    (hgroups : index + fieldCount pieces ≤ groups) :
    ((fieldsFrom index pieces).mapM fun field =>
      if field.index < groups then
        field.conversion.apply (group field.index) fun i => group (field.index + i)
      else throw .noGroup) = argsOf pieces := by
  induction pieces generalizing index place with
  | nil => rfl
  | cons piece rest ih =>
      rw [fieldCount_cons] at hgroups
      rw [List.flatMap_cons] at hsource
      have htail : text.toList.drop (place + piece.source.length) = rest.flatMap Piece.source := by
        rw [← List.drop_drop, hsource, List.drop_left]
      cases piece with
      | char c => exact ih hgroup htail (by simpa [Piece.width, Piece.isField] using hgroups)
      | quoted quote =>
          have hwidth : (Piece.quoted quote).width = 1 := rfl
          have hopen : text.toList.drop place = '"' :: (quote ++ '"' :: rest.flatMap Piece.source) := by
            rw [hsource, Piece.source]
            simp
          have hfirst : group index = some (String.ofList quote) := by
            rw [← slice_of_drop_eq (Regex.getElem?_of_drop_eq hopen).2]
            exact hgroup _ List.mem_cons_self
          have hbehind : text.toList.drop (place + 1 + quote.length + 1) =
              rest.flatMap Piece.source := by rw [← add_length_quoted, htail]
          have hrest := ih (fun entry h => hgroup entry (List.mem_cons_of_mem _ h)) hbehind
            (show index + 1 + fieldCount rest ≤ groups by omega)
          change (List.mapM _ (_ :: fieldsFrom (index + 1) rest)) = _
          rw [List.mapM_cons, hrest, if_pos (show index < groups by omega), hfirst]
          rfl
      | number number =>
          have hwidth : (Piece.number number).width = 1 := rfl
          have hfirst : group index = some (String.ofList number) := by
            have hslice : Regex.slice text place (place + number.length) = String.ofList number :=
              slice_of_drop_eq hsource
            rw [← hslice]
            exact hgroup _ List.mem_cons_self
          have hrest := ih (fun entry h => hgroup entry (List.mem_cons_of_mem _ h)) htail
            (show index + 1 + fieldCount rest ≤ groups by omega)
          change (List.mapM _ (_ :: fieldsFrom (index + 1) rest)) = _
          rw [List.mapM_cons, hrest, if_pos (show index < groups by omega), hfirst]
          rfl

private theorem match?_of_fits {text : String} (hfits : ∀ piece ∈ pieces text, piece.Fits) :
    (templateOf (pieces text)).match? text = (do
      return some { args := ← argsOf (pieces text) }) := by
  obtain ⟨hsource, hcut⟩ := source_pieces text
  let chars := text.toList.toArray
  have hchars : chars.toList = (pieces text).flatMap Piece.source := hsource.symm
  have hfound : (templateOf (pieces text)).compiled.node.matchWhole? chars =
      some (stateBehind 1 { place := 0 } (pieces text)) := matchWhole?_of_fits hchars hcut hfits
  let group (i : Nat) : Option String :=
    ((stateBehind 1 { place := 0 } (pieces text)).capture? (i + 1)).map
      fun span => Regex.slice chars span.1 span.2
  have hgroup : ∀ entry ∈ capturesFrom (0 + 1) 0 (pieces text),
      group (entry.1 - 1) = some (Regex.slice chars entry.2.1 entry.2.2) := by
    intro entry h
    dsimp only [group]
    rw [Nat.sub_add_cancel (le_of_mem_capturesFrom h), capture?_stateBehind h]
    rfl
  have hargs := mapM_fieldsFrom (pieces text) hgroup (List.drop_zero.trans hchars)
    (Nat.le_of_eq (Nat.zero_add _))
  rw [Template.match?]
  dsimp only
  rw [hfound]
  refine (congrArg (· >>= _) hargs).trans ?_
  cases argsOf (pieces text) <;> rfl

/-! ## All matches of a step -/

/-- What the part of the regular expression for a piece may take. -/
def Piece.Takes : Piece → List Char → Prop
  | char c, taken => taken = [c]
  | quoted _, taken => ∃ inside, inside ≠ [] ∧ taken = '"' :: (inside ++ ['"'])
  | number _, taken => taken ≠ [] ∧ ∀ c ∈ taken, c ≠ '"' ∧ c.toNat < 128

private theorem takes_of_leads_char {text : Array Char} {c : Char} {before after : MatchState}
    (h : (Regex.char c .exact).Leads text before after) : Regex.Takes text before after [c] := by
  obtain ⟨d, hsame, htakes⟩ := Regex.TakesChar.takes h
  rwa [← eq_of_beq hsame] at htakes

private theorem leads_pieces {text : Array Char} (pieces : List Piece) {index : Nat}
    {more : List Regex} {before after : MatchState}
    (h : (Regex.seq (nodesFrom index pieces ++ more)).Leads text before after) :
    ∃ parts between, List.Forall₂ Piece.Takes pieces parts ∧
      Regex.Takes text before between parts.flatten ∧ (Regex.seq more).Leads text between after := by
  induction pieces generalizing index before with
  | nil => exact ⟨[], before, .nil, .nil text rfl, h⟩
  | cons piece rest ih =>
      have hgo {part : List Char} {next : MatchState} (hpiece : piece.Takes part)
          (hpart : Regex.Takes text before next part)
          (h : (Regex.seq (nodesFrom (index + piece.width) rest ++ more)).Leads text next after) :
          ∃ parts between, List.Forall₂ Piece.Takes (piece :: rest) parts ∧
            Regex.Takes text before between parts.flatten ∧
              (Regex.seq more).Leads text between after := by
        obtain ⟨parts, between, hparts, htakes, hmore⟩ := ih h
        exact ⟨part :: parts, between, .cons hpiece hparts, hpart.append htakes, hmore⟩
      rw [nodesFrom, List.append_assoc] at h
      cases piece with
      | char c =>
          obtain ⟨next, hc, h⟩ := Regex.leads_seq_cons.mp h
          exact hgo rfl (takes_of_leads_char hc) h
      | quoted quote =>
          obtain ⟨opened, hopen, h⟩ := Regex.leads_seq_cons.mp h
          obtain ⟨captured, ⟨last, hfield, hcaptured⟩, h⟩ := Regex.leads_seq_cons.mp h
          obtain ⟨closed, hclose, h⟩ := Regex.leads_seq_cons.mp h
          obtain ⟨taken, htaken, _, hlength⟩ := Template.takesSome_textField hfield
          have htaken : Regex.Takes text opened captured taken := by rwa [hcaptured]
          exact hgo ⟨taken, List.length_pos_iff.mp hlength, rfl⟩
            ((takes_of_leads_char hopen).append (htaken.append (takes_of_leads_char hclose))) h
      | number number =>
          obtain ⟨captured, ⟨last, hfield, hcaptured⟩, h⟩ := Regex.leads_seq_cons.mp h
          obtain ⟨taken, htaken, hall, hlength⟩ := Template.takesSome_numberField hfield
          have htaken : Regex.Takes text before captured taken := by rwa [hcaptured]
          exact hgo ⟨List.length_pos_iff.mp hlength, fun c hc => by simpa using hall c hc⟩ htaken h

private theorem exists_parts_of_matchWhole? {text : Array Char} {pieces : List Piece}
    {found : MatchState} (h : (treeOf pieces).matchWhole? text = some found) :
    ∃ parts, List.Forall₂ Piece.Takes pieces parts ∧ parts.flatten = text.toList := by
  obtain ⟨final, hleads, hfinal⟩ := Regex.follows_matcher text (treeOf pieces) _ _ _ h
  obtain ⟨start, ⟨_, rfl⟩, hleads⟩ := Regex.leads_seq_cons.mp hleads
  obtain ⟨parts, between, hparts, ⟨htext, hplace⟩, hend⟩ := leads_pieces pieces hleads
  obtain ⟨hanchor, _⟩ : Anchor.textEnd.holds text between.place = true ∧ final = between := hend
  have hsize : between.place = text.size := by simpa [Anchor.holds] using hanchor
  refine ⟨parts, hparts, ?_⟩
  rw [List.drop_zero, hsize, List.drop_of_length_le (by simp), List.append_nil] at htext
  exact htext.symm

/-! ## Matches and pieces -/

private theorem not_mem_number {text sign digits : List Char} (h : IsNumber text sign digits) :
    '"' ∉ text := by
  intro hmem
  rw [h.eq, List.mem_append] at hmem
  rcases hmem with hmem | hmem
  · rcases h.sign with rfl | rfl
    · cases hmem
    · simp at hmem
  · have hquote : Text.isDecimal '"' = false := by decide +kernel
    rw [h.digits _ hmem] at hquote
    cases hquote

private theorem takes_number_free {number taken : List Char}
    (h : (Piece.number number).Takes taken) :
    '"' ∉ taken := fun hmem => (h.2 _ hmem).1 rfl

private theorem count_source_le {pieces : List Piece} {parts : List (List Char)}
    (hcut : IsCut pieces) (h : List.Forall₂ Piece.Takes pieces parts) :
    (pieces.flatMap Piece.source).count '"' ≤ parts.flatten.count '"' := by
  induction h with
  | nil => exact Nat.le_refl _
  | @cons piece part rest parts hpiece _ ih =>
      rw [List.flatMap_cons, List.flatten_cons, List.count_append, List.count_append]
      cases piece with
      | char c =>
          obtain rfl := hpiece
          exact Nat.add_le_add_left (ih hcut) _
      | quoted quote =>
          obtain ⟨inside, _, rfl⟩ := hpiece
          have hrest := ih hcut.2
          have hquote := List.count_eq_zero_of_not_mem hcut.1
          simp [Piece.source, List.count_append, hquote]
          omega
      | number number =>
          have hrest := ih hcut.2.2
          obtain ⟨sign, digits, hform⟩ := hcut.1
          rw [Piece.source, List.count_eq_zero_of_not_mem (not_mem_number hform)]
          omega

private theorem eq_of_append_quote {front front' behind behind' : List Char} (hfront : '"' ∉ front)
    (hfront' : '"' ∉ front') (h : front ++ '"' :: behind = front' ++ '"' :: behind') :
    front = front' ∧ behind = behind' := by
  have hsplit {front behind : List Char} (hfront : '"' ∉ front) :
      (front ++ '"' :: behind).takeWhile (· ≠ '"') = front := by
    have hall : ∀ c ∈ front, (c ≠ '"' : Bool) = true := by
      rintro c hc
      rw [decide_eq_true_eq]
      rintro rfl
      exact hfront hc
    rw [List.takeWhile_append_of_pos hall, List.takeWhile_cons_of_neg (by simp), List.append_nil]
  have hsame : front = front' := by rw [← hsplit hfront, h, hsplit hfront']
  subst hsame
  exact ⟨rfl, (List.cons.inj (List.append_cancel_left h)).2⟩

/-- What a piece takes if the parts are those of the quotes of the step. -/
def Piece.Aligned : Piece → List Char → Prop
  | char c, taken => taken = [c]
  | quoted text, taken => text ≠ [] ∧ taken = '"' :: (text ++ ['"'])
  | number _, taken => ∀ c ∈ taken, c.toNat < 128

private theorem aligned_of_takes {pieces : List Piece} {parts : List (List Char)}
    (hcut : IsCut pieces) (h : List.Forall₂ Piece.Takes pieces parts) {front front' : List Char}
    (hfront : '"' ∉ front) (hfront' : '"' ∉ front')
    (heq : front ++ pieces.flatMap Piece.source = front' ++ parts.flatten) :
    List.Forall₂ Piece.Aligned pieces parts := by
  induction h generalizing front front' with
  | nil => exact .nil
  | @cons piece part rest parts hpiece hparts ih =>
      rw [List.flatMap_cons, List.flatten_cons] at heq
      cases piece with
      | char c =>
          obtain rfl := hpiece
          by_cases hc : c = '"'
          · subst hc
            have hbehind := (eq_of_append_quote hfront hfront' heq).2
            exact .cons rfl (ih hcut List.not_mem_nil List.not_mem_nil hbehind)
          · have hfree {front : List Char} (h : '"' ∉ front) : '"' ∉ front ++ [c] := by
              simpa using ⟨h, Ne.symm hc⟩
            refine .cons rfl (ih hcut (hfree hfront) (hfree hfront') ?_)
            rwa [List.append_assoc, List.append_assoc]
      | quoted quote =>
          obtain ⟨inside, hne, rfl⟩ := hpiece
          have hsource (text behind : List Char) :
              '"' :: (text ++ ['"']) ++ behind = '"' :: (text ++ '"' :: behind) := by simp
          rw [Piece.source, hsource, hsource] at heq
          have hinside := (eq_of_append_quote hfront hfront' heq).2
          -- The text in quotes has no quote, so what the field takes has none.
          have hfree : '"' ∉ inside := by
            have hcount := congrArg (List.count '"') hinside
            have hle := count_source_le hcut.2 hparts
            have hquote := List.count_eq_zero_of_not_mem hcut.1
            rw [List.count_append, List.count_append, List.count_cons_self, List.count_cons_self] at hcount
            exact List.count_eq_zero.mp (by omega)
          obtain ⟨rfl, hbehind⟩ := eq_of_append_quote hcut.1 hfree hinside
          exact .cons ⟨hne, rfl⟩ (ih hcut.2 List.not_mem_nil List.not_mem_nil hbehind)
      | number number =>
          obtain ⟨⟨sign, digits, hform⟩, _, hcut⟩ := hcut
          have hfront : '"' ∉ front ++ number := by simpa using ⟨hfront, not_mem_number hform⟩
          have hfront' : '"' ∉ front' ++ part := by simpa using ⟨hfront', takes_number_free hpiece⟩
          refine .cons (fun c hc => (hpiece.2 c hc).2) (ih hcut hfront hfront' ?_)
          rwa [List.append_assoc, List.append_assoc]

private theorem not_mem_of_count {pieces : List Piece} {parts : List (List Char)}
    (h : List.Forall₂ Piece.Aligned pieces parts) {c : Char} (hc : 128 ≤ c.toNat) :
    parts.flatten.count c ≤ (pieces.flatMap Piece.source).count c ∧
      ((pieces.flatMap Piece.source).count c ≤ parts.flatten.count c →
        ∀ number, .number number ∈ pieces → c ∉ number) := by
  induction h with
  | nil => exact ⟨Nat.le_refl _, fun _ _ h => nomatch h⟩
  | @cons piece part rest parts hpiece _ ih =>
      obtain ⟨hle, hnone⟩ := ih
      rw [List.flatMap_cons, List.flatten_cons, List.count_append, List.count_append]
      have hsame (hpart : part = piece.source) (hother : ∀ number, piece ≠ .number number) :
          part.count c + parts.flatten.count c ≤
              piece.source.count c + (rest.flatMap Piece.source).count c ∧
            (piece.source.count c + (rest.flatMap Piece.source).count c ≤
                part.count c + parts.flatten.count c →
              ∀ number, .number number ∈ piece :: rest → c ∉ number) := by
        subst hpart
        refine ⟨by omega, fun hcount number hmem => ?_⟩
        rcases List.mem_cons.mp hmem with heq | hmem
        · exact absurd heq.symm (hother number)
        · exact hnone (by omega) number hmem
      cases piece with
      | char d => exact hsame hpiece nofun
      | quoted quote => exact hsame hpiece.2 nofun
      | number number =>
          have hpart : part.count c = 0 :=
            List.count_eq_zero.mpr fun hmem => by
              have hascii := hpiece c hmem
              omega
          rw [Piece.source]
          refine ⟨by omega, fun hcount other hmem => ?_⟩
          rcases List.mem_cons.mp hmem with heq | hmem
          · cases heq
            exact List.count_eq_zero.mp (by omega)
          · exact hnone (by omega) other hmem

private theorem fits_of_takes {pieces : List Piece} {parts : List (List Char)} (hcut : IsCut pieces)
    (h : List.Forall₂ Piece.Takes pieces parts)
    (heq : pieces.flatMap Piece.source = parts.flatten) : ∀ piece ∈ pieces, piece.Fits := by
  have haligned := aligned_of_takes hcut h List.not_mem_nil List.not_mem_nil heq
  intro piece hmem
  cases piece with
  | char c => trivial
  | quoted text =>
      obtain ⟨part, _, hne, _⟩ := exists_of_mem_left haligned hmem
      exact hne
  | number text =>
      intro c hc
      by_contra hascii
      have hcount := not_mem_of_count haligned (Nat.not_lt.mp hascii)
      exact hcount.2 (Nat.le_of_eq (congrArg _ heq)) text hmem hc

private theorem match?_of_none {template : FeatureSuite.Template} {text : String}
    (h : template.compiled.node.matchWhole? text.toList.toArray = none) :
    template.match? text = .ok none := by
  rw [Template.match?]
  dsimp only
  rw [h]
  rfl

private theorem match?_of_not_fits {text : String} (hfits : ¬∀ piece ∈ pieces text, piece.Fits) :
    (templateOf (pieces text)).match? text = .ok none := by
  obtain ⟨hsource, hcut⟩ := source_pieces text
  refine match?_of_none ?_
  cases hfound : (templateOf (pieces text)).compiled.node.matchWhole? text.toList.toArray with
  | none => rfl
  | some found =>
      obtain ⟨parts, htakes, htext⟩ := exists_parts_of_matchWhole? hfound
      exact absurd (fits_of_takes hcut htakes (hsource.trans htext.symm)) hfits

private theorem match?_empty (pieces : List Piece) :
    ∃ captured, (templateOf pieces).match? "" = .ok captured := by
  cases hfound : (templateOf pieces).compiled.node.matchWhole? "".toList.toArray with
  | none => exact ⟨none, match?_of_none hfound⟩
  | some found =>
      obtain ⟨parts, htakes, htext⟩ := exists_parts_of_matchWhole? hfound
      cases htakes with
      | nil => exact ⟨_, rfl⟩
      | @cons piece part rest parts hpiece _ =>
          have hempty : part = [] := (List.append_eq_nil_iff.mp htext).1
          subst hempty
          cases piece with
          | char c => cases hpiece
          | quoted text =>
              obtain ⟨inside, _, heq⟩ := hpiece
              cases heq
          | number text => exact absurd rfl hpiece.1

/-! ## Steps that are taken -/

/-- Whether a field reads a piece: text that is not empty, and digits of ASCII, not too many. -/
def Piece.IsRead : Piece → Prop
  | char _ => True
  | quoted text => text ≠ []
  | number text => (∀ c ∈ text, c.toNat < 128) ∧ text.countP Char.isDigit ≤ mostDigits

private theorem Piece.IsRead.fits {piece : Piece} (h : piece.IsRead) : piece.Fits := by
  cases piece with
  | char c => trivial
  | quoted text => exact h
  | number text => exact h.1

private theorem exists_wholeNumber_iff {number sign digits : List Char}
    (hform : IsNumber number sign digits) (hfits : (Piece.number number).Fits) :
    (∃ value, wholeNumber none (String.ofList number) = .ok value) ↔ (Piece.number number).IsRead := by
  have hdigits : ∀ c ∈ digits, c.isDigit = true := fun c hc =>
    isDigit_of_isDecimal (hfits c (hform.eq ▸ List.mem_append_right _ hc)) (hform.digits c hc)
  have hsign : sign.countP Char.isDigit = 0 := by
    rcases hform.sign with rfl | rfl <;> rfl
  have hcount : number.countP Char.isDigit = digits.length := by
    rw [hform.eq, List.countP_append, hsign, List.countP_eq_length.mpr hdigits, Nat.zero_add]
  rw [Piece.IsRead, hcount, hform.eq, Template.wholeNumber_digits hform.sign hform.ne_nil hdigits,
    ← hform.eq]
  split
  · rename_i hmany
    exact ⟨fun ⟨_, h⟩ => (nomatch h), fun h => absurd h.2 (Nat.not_le.mpr hmany)⟩
  · rename_i hfew
    exact ⟨fun _ => ⟨hfits, Nat.not_lt.mp hfew⟩, fun _ => ⟨_, rfl⟩⟩

private theorem exists_argsOf_iff {pieces : List Piece} (hcut : IsCut pieces)
    (hfits : ∀ piece ∈ pieces, piece.Fits) :
    (∃ args, argsOf pieces = .ok args) ↔ ∀ piece ∈ pieces, piece.IsRead := by
  induction pieces with
  | nil => exact ⟨fun _ => List.forall_mem_nil _, fun _ => ⟨[], rfl⟩⟩
  | cons piece rest ih =>
      obtain ⟨hfirst, hrest⟩ := List.forall_mem_cons.mp hfits
      rw [List.forall_mem_cons]
      cases piece with
      | char c =>
          rw [← ih hcut hrest]
          exact (and_iff_right trivial).symm
      | quoted text =>
          rw [← ih hcut.2 hrest]
          constructor
          · rintro ⟨args, h⟩
            obtain ⟨others, hothers, _⟩ := bind_eq_ok.mp h
            exact ⟨hfirst, others, hothers⟩
          · rintro ⟨_, others, hothers⟩
            exact ⟨_, bind_eq_ok.mpr ⟨others, hothers, rfl⟩⟩
      | number number =>
          obtain ⟨⟨sign, digits, hform⟩, _, hcut⟩ := hcut
          rw [← ih hcut hrest, ← exists_wholeNumber_iff hform hfirst]
          constructor
          · rintro ⟨args, h⟩
            obtain ⟨value, hvalue, h⟩ := bind_eq_ok.mp h
            obtain ⟨others, hothers, _⟩ := bind_eq_ok.mp h
            exact ⟨⟨value, hvalue⟩, others, hothers⟩
          · rintro ⟨⟨value, hvalue⟩, others, hothers⟩
            exact ⟨_, bind_eq_ok.mpr ⟨value, hvalue, bind_eq_ok.mpr ⟨others, hothers, rfl⟩⟩⟩

private theorem length_argsOf {pieces : List Piece} {args : List Value}
    (h : argsOf pieces = .ok args) :
    args.length = fieldCount pieces := by
  induction pieces generalizing args with
  | nil =>
      cases h
      rfl
  | cons piece rest ih =>
      rw [fieldCount_cons]
      cases piece with
      | char c => exact (ih h).trans (Nat.zero_add _).symm
      | quoted text =>
          obtain ⟨others, hothers, h⟩ := bind_eq_ok.mp h
          cases pure_eq_ok.mp h
          rw [List.length_cons, ih hothers, Nat.add_comm]
          rfl
      | number text =>
          obtain ⟨value, _, h⟩ := bind_eq_ok.mp h
          obtain ⟨others, hothers, h⟩ := bind_eq_ok.mp h
          cases pure_eq_ok.mp h
          rw [List.length_cons, ih hothers, Nat.add_comm]
          rfl

/-- A snippet takes its step exactly if its fields read all pieces; there is a value for each. -/
theorem exists_match?_iff (text : String) :
    (∃ captured, (templateOf (pieces text)).match? text = .ok (some captured) ∧
      captured.args.length = (parameters text).length ∧ captured.kwargs = []) ↔
        ∀ piece ∈ pieces text, piece.IsRead := by
  have hcut := (source_pieces text).2
  have hlength : (parameters text).length = fieldCount (pieces text) := by
    rw [parameters, List.length_map, List.length_range]
    rfl
  by_cases hfits : ∀ piece ∈ pieces text, piece.Fits
  · rw [match?_of_fits hfits, ← exists_argsOf_iff hcut hfits, hlength]
    constructor
    · rintro ⟨captured, h, _⟩
      obtain ⟨args, hargs, _⟩ := bind_eq_ok.mp h
      exact ⟨args, hargs⟩
    · rintro ⟨args, hargs⟩
      exact ⟨{ args }, bind_eq_ok.mpr ⟨args, hargs, rfl⟩, length_argsOf hargs, rfl⟩
  · rw [match?_of_not_fits hfits]
    refine ⟨fun ⟨_, h, _⟩ => (nomatch h), fun h => ?_⟩
    exact absurd (fun piece hmem => (h piece hmem).fits) hfits

/-- The handler of a snippet is accepted. It takes the step of the snippet, with a value for every
parameter, exactly if the fields of its template read all pieces of the step. -/
theorem match?_pattern_iff (store : Store) (role : Role) (handler : Handler) (text : String) :
    ∃ binding : Binding, ({ store with frozen := false } : Store).add {} role
          (.template (pattern text).1) handler none none =
        .ok { store with frozen := false, bindings := store.bindings ++ [binding] } ∧
      ((∃ captured, binding.match? text = .ok (some captured) ∧
          captured.args.length = (parameters text).length ∧ captured.kwargs = []) ↔
        ∀ piece ∈ pieces text, piece.IsRead) := by
  obtain ⟨captured, hempty⟩ := match?_empty (pieces text)
  have hmatcher : (StepPattern.template (pattern text).1).matcher [] =
      .ok (.template (templateOf (pieces text))) := by
    rw [StepPattern.matcher]
    simp only [compile_pattern, hempty]
    rfl
  let binding : Binding :=
    { role, pattern := .template (pattern text).1, matcher := .template (templateOf (pieces text))
      handler }
  refine ⟨binding, ?_, exists_match?_iff text⟩
  rw [Store.add, if_neg (by simp)]
  dsimp only
  rw [hmatcher]
  rfl

end Snippet

namespace FeatureFile

/-- A step with an empty text in quotes. -/
def emptyNameText : String := "Feature: F\n  Scenario: S\n    Given the name is \"\"\n"

/-- With the handler of its snippet a step still has none. -/
theorem exists_snippet_in_vain :
    ∃ store file built,
      ({} : Store).add {} .context (.template (Snippet.pattern "the name is \"\"").1) {} none none =
        .ok store ∧
      load emptyNameText "features/sample.feature" store.build.1 = .ok file ∧
      file.build = .ok built ∧
      built.undefined.map (fun step => (step.role, step.text)) =
        [(.context, "the name is \"\"")] := by
  have hcheck : (({} : Store).add {} .context (.template (Snippet.pattern "the name is \"\"").1) {}
      none none).toOption.any (fun store =>
        (load emptyNameText "features/sample.feature" store.build.1).toOption.any fun file =>
          file.build.toOption.any fun built =>
            decide (built.undefined.map (fun step => (step.role, step.text)) =
              [(.context, "the name is \"\"")])) = true := by
    decide +kernel
  obtain ⟨store, hadd, hcheck⟩ := exists_ok_of_any hcheck
  obtain ⟨file, hload, hcheck⟩ := exists_ok_of_any hcheck
  obtain ⟨built, hbuild, hundefined⟩ := exists_ok_of_any hcheck
  exact ⟨store, file, built, hadd, hload, hbuild, of_decide_eq_true hundefined⟩

end FeatureFile

end FeatureSuite

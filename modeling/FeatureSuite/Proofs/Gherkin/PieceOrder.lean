import FeatureSuite.Gherkin.Parser

/-!
# The order of pieces

The grammar allows a background only in front of the scenarios of its feature or rule, and only one.
Reading keeps this up line by line: whether the spot still allows a background is known from the
pieces so far.
-/

namespace FeatureSuite.Gherkin

def Piece.kind : Piece → LineKind
  | .feature .. => .feature
  | .rule .. => .rule
  | .background .. => .background
  | .scenario .. => .scenario
  | .examples .. => .examples
  | .description .. => .other
  | .step .. => .step
  | .row .. => .tableRow
  | .docStart .. => .docDelimiter
  | .docLine .. => .other

/-- Where a piece starts; the lines of descriptions and text blocks have no place. -/
def Piece.place? : Piece → Option Location
  | .feature _ title | .rule title | .background title | .scenario title | .examples title =>
      some title.location
  | .step location .. | .row location _ | .docStart location .. => some location
  | .description _ | .docLine _ => none

/-- Whether a background may still come behind a line of some kind. -/
def openAfter (isOpen : Bool) : LineKind → Bool
  | .rule => true
  | .background | .scenario => false
  | _ => isOpen

/-- Whether a background may still come behind pieces. -/
def openBehind (isOpen : Bool) (pieces : List Piece) : Bool :=
  pieces.foldl (fun isOpen piece => openAfter isOpen piece.kind) isOpen

/-- Every background among pieces stands where one may come. -/
def Orderly : Bool → List Piece → Prop
  | _, [] => True
  | isOpen, piece :: rest =>
      (piece.kind = .background → isOpen = true) ∧ Orderly (openAfter isOpen piece.kind) rest

private theorem orderly_append (isOpen : Bool) (pieces more : List Piece) :
    Orderly isOpen (pieces ++ more) ↔
      Orderly isOpen pieces ∧ Orderly (openBehind isOpen pieces) more := by
  induction pieces generalizing isOpen with
  | nil => simp [Orderly, openBehind]
  | cons piece pieces ih =>
      simp only [List.cons_append, Orderly, ih, openBehind, List.foldl_cons, and_assoc]

/-! ## Spots -/

def Unit.all : List Unit := [.feature, .rule, .background, .scenario, .examples]

def StepPart.all : List StepPart :=
  [.line, .table, .tableDoc, .tableDocClosed, .doc, .docClosed, .docTable]

/-- The spots of the grammar that are told apart by whether they are inside a rule. -/
def Spot.inside (inRule : Bool) : List Spot :=
  [[.scenarioTags inRule, .examplesTags inRule, .examplesTable inRule],
    Unit.all.map (.title · inRule), Unit.all.map (.description · inRule),
    StepPart.all.map (.step .background · inRule),
    StepPart.all.map (.step .scenario · inRule)].flatten

def Spot.all : List Spot :=
  .start :: .language :: .featureTags :: .ruleTags :: .finished :: (inside false ++ inside true)

private theorem Spot.mem_all (spot : Spot) : spot ∈ Spot.all := by
  cases spot with
  | title unit inRule => cases unit <;> cases inRule <;> decide
  | description unit inRule => cases unit <;> cases inRule <;> decide
  | step owner part inRule => cases owner <;> cases part <;> cases inRule <;> decide
  | scenarioTags inRule => cases inRule <;> decide
  | examplesTags inRule => cases inRule <;> decide
  | examplesTable inRule => cases inRule <;> decide
  | _ => decide

theorem Spot.eq_true_of_all {holds : Spot → Bool} (h : Spot.all.all holds = true) (spot : Spot) :
    holds spot = true :=
  List.all_eq_true.mp h spot spot.mem_all

/-- Whether a spot allows a background before anything else. -/
def Spot.isOpen : Spot → Bool
  | .start | .language | .featureTags => true
  | .title unit _ | .description unit _ => unit = .feature ∨ unit = .rule
  | _ => false

/-- What the grammar says about backgrounds at one spot: they are read at open spots only, and an
arc to an open spot starts at one, unless a rule begins. -/
def Spot.keepsOrder (spot : Spot) : Bool :=
  spot.arcs.all fun arc =>
    (arc.kind ≠ .background ∨ spot.isOpen) ∧
      (arc.target.isOpen → openAfter spot.isOpen arc.kind = true)

private theorem Spot.keepsOrder_eq_true (spot : Spot) : spot.keepsOrder = true :=
  eq_true_of_all (by decide +kernel) spot

private theorem Spot.isOpen_of_background {spot : Spot} {arc : Arc} (h : arc ∈ spot.arcs)
    (hkind : arc.kind = .background) : spot.isOpen = true := by
  have harc := of_decide_eq_true (List.all_eq_true.mp spot.keepsOrder_eq_true arc h)
  exact harc.1.resolve_left fun hne => hne hkind

private theorem Spot.openAfter_of_target {spot : Spot} {arc : Arc} (h : arc ∈ spot.arcs)
    (htarget : arc.target.isOpen = true) : openAfter spot.isOpen arc.kind = true := by
  have harc := of_decide_eq_true (List.all_eq_true.mp spot.keepsOrder_eq_true arc h)
  exact harc.2 htarget

/-! ## Reading a line -/

namespace Progress

/-- Two states of reading that differ in faults and the open table at most. -/
def Agrees (progress other : Progress) : Prop :=
  other.pieces = progress.pieces ∧ other.spot = progress.spot ∧ other.mode = progress.mode

theorem Agrees.refl (progress : Progress) : progress.Agrees progress := ⟨rfl, rfl, rfl⟩

theorem Agrees.trans {progress other third : Progress} (h : progress.Agrees other)
    (h' : other.Agrees third) : progress.Agrees third :=
  ⟨h'.1.trans h.1, h'.2.1.trans h.2.1, h'.2.2.trans h.2.2⟩

theorem note_agrees (progress : Progress) (fault : ParseFault) :
    progress.Agrees (progress.note fault) := by
  unfold note
  split
  · exact .refl progress
  · exact ⟨rfl, rfl, rfl⟩

private theorem read_agrees (progress : Progress) (line : Line) (kind : LineKind) :
    progress.Agrees (progress.read line kind).1 := by
  unfold read
  split
  · exact .refl progress
  · rename_i fault _
    cases fault <;> exact note_agrees progress _

private theorem read_token {progress other : Progress} {line : Line} {kind : LineKind}
    {token : Token} (h : progress.read line kind = (other, some token)) :
    line.read progress.mode kind = .ok (some token) := by
  unfold read at h
  split at h
  · rename_i token' heq
    cases h
    exact heq
  · cases h

private theorem looksAhead_agrees (target : LineKind) (progress : Progress) (lines : List Line) :
    progress.Agrees (looksAhead target progress lines).1 := by
  induction lines generalizing progress with
  | nil => exact .refl progress
  | cons line rest ih =>
      have title := read_agrees progress line target
      have empty := read_agrees (progress.read line target).1 line .empty
      have comment := read_agrees ((progress.read line target).1.read line .empty).1 line .comment
      have blank := (title.trans empty).trans comment
      have tags := blank.trans (read_agrees _ line .tags)
      unfold looksAhead
      dsimp only
      split
      · exact title
      · split
        · exact blank.trans (ih _)
        · split
          · exact tags.trans (ih _)
          · exact tags

private theorem allows_agrees (progress : Progress) (rest : List Line) (ahead : Lookahead) :
    progress.Agrees (progress.allows rest ahead).1 := by
  cases ahead with
  | any => exact .refl progress
  | scenario => exact looksAhead_agrees .scenario progress rest
  | examples => exact looksAhead_agrees .examples progress rest

theorem closeTable_agrees (progress : Progress) (target : Spot) :
    progress.Agrees (progress.closeTable target) := by
  unfold closeTable
  split
  · exact .refl progress
  · split
    · exact Agrees.trans ⟨rfl, rfl, rfl⟩ (note_agrees _ _)
    · exact ⟨rfl, rfl, rfl⟩

theorem countCells_agrees (progress : Progress) (place : Location) (cells : Nat) :
    progress.Agrees (progress.countCells place cells) := by
  unfold countCells
  split <;> exact ⟨rfl, rfl, rfl⟩

/-- The arc that a line takes is one of those tried, and the line reads as its kind. -/
theorem choose_agrees (line : Line) (rest : List Line) (progress : Progress) (arcs : List Arc) :
    progress.Agrees (choose line rest progress arcs).1 ∧
      ∀ arc token, (choose line rest progress arcs).2 = some (arc, token) →
        arc ∈ arcs ∧ line.read progress.mode arc.kind = .ok (some token) := by
  induction arcs generalizing progress with
  | nil => exact ⟨.refl progress, fun _ _ h => nomatch h⟩
  | cons arc arcs ih =>
      have hread := read_agrees progress line arc.kind
      have later (other : Progress) (h : progress.Agrees other) :
          progress.Agrees (choose line rest other arcs).1 ∧
            ∀ arc' token, (choose line rest other arcs).2 = some (arc', token) →
              arc' ∈ arc :: arcs ∧ line.read progress.mode arc'.kind = .ok (some token) := by
        obtain ⟨hagrees, hchosen⟩ := ih other
        refine ⟨h.trans hagrees, fun arc' token heq => ?_⟩
        obtain ⟨hmem, hline⟩ := hchosen arc' token heq
        exact ⟨List.mem_cons_of_mem arc hmem, h.2.2 ▸ hline⟩
      unfold choose
      split
      · rename_i other heq
        rw [heq] at hread
        exact later other hread
      · rename_i other token heq
        rw [heq] at hread
        have hallows := hread.trans (allows_agrees other rest arc.ahead)
        split
        · rename_i third hthird
          rw [hthird] at hallows
          refine ⟨hallows, fun arc' token' h => ?_⟩
          cases h
          exact ⟨List.mem_cons_self, read_token heq⟩
        · rename_i third hthird
          rw [hthird] at hallows
          exact later third hallows

theorem read_rule {mode : ReadingMode} {line : Line} {token : Token}
    (h : line.read mode .rule = .ok (some token)) :
    ∃ keyword name, token = .title keyword name := by
  have htitle : title? mode.dialect.rule line = some token := by
    simpa [Line.read] using h
  obtain ⟨word, _, hword⟩ := List.exists_of_findSome?_eq_some htitle
  obtain ⟨rest, _, rfl⟩ := Option.map_eq_some_iff.mp hword
  exact ⟨_, _, rfl⟩

/-- A line adds a piece of its own kind and place or none, and a rule always adds one. -/
theorem take_pieces (progress : Progress) (line : Line) (kind : LineKind) (token : Token)
    (hrule : kind = .rule → ∃ keyword name, token = .title keyword name) :
    ((progress.take line kind token).pieces = progress.pieces ∧ kind ≠ .rule) ∨
      ∃ piece, (progress.take line kind token).pieces = piece :: progress.pieces ∧
        piece.kind = kind ∧ piece.place? ∈ [none, some line.start] := by
  unfold take
  split
  case h_1 => split <;> exact .inl ⟨rfl, by decide⟩
  case h_2 => exact .inl ⟨rfl, by decide⟩
  case h_3 => exact .inr ⟨_, rfl, rfl, by simp [Piece.place?]⟩
  case h_4 => exact .inr ⟨_, rfl, rfl, by simp [Piece.place?]⟩
  case h_5 => exact .inr ⟨_, rfl, rfl, by simp [Piece.place?]⟩
  case h_6 => exact .inr ⟨_, rfl, rfl, by simp [Piece.place?]⟩
  case h_7 => exact .inr ⟨_, rfl, rfl, by simp [Piece.place?]⟩
  case h_8 => exact .inr ⟨_, rfl, rfl, by simp [Piece.place?]⟩
  case h_9 cells =>
    have hpieces := (countCells_agrees progress line.start cells.length).1
    exact .inr ⟨_, congrArg _ hpieces, rfl, by simp [Piece.place?]⟩
  case h_10 =>
    split
    · exact .inr ⟨_, rfl, rfl, by simp [Piece.place?]⟩
    · exact .inl ⟨rfl, by decide⟩
  case h_11 => exact .inl ⟨rfl, by decide⟩
  case h_12 => split <;> exact .inr ⟨_, rfl, rfl, by simp [Piece.place?]⟩
  case h_13 hno =>
    refine .inl ⟨rfl, fun hkind => ?_⟩
    obtain ⟨keyword, name, htoken⟩ := hrule hkind
    simp_all

/-! ## Reading a text -/

/-- What is kept up line by line: it is not about faults or the open table, and stays when a line is
taken over along an arc and at the end. -/
structure Kept (holds : Progress → Prop) : Prop where
  agrees : ∀ {progress other}, progress.Agrees other → holds progress → holds other
  move : ∀ {progress : Progress} {arc line token}, arc ∈ progress.spot.arcs →
    line.read progress.mode arc.kind = .ok (some token) → holds progress →
      holds { progress.take line arc.kind token with spot := arc.target }
  finish : ∀ {progress}, holds progress → holds { progress with spot := .finished }

namespace Kept

variable {holds : Progress → Prop} {progress : Progress}

private theorem step (kept : Kept holds) (h : holds progress) (line : Line) (rest : List Line) :
    holds (progress.step line rest) := by
  have hchoose := choose_agrees line rest progress progress.spot.arcs
  unfold Progress.step
  split
  · exact h
  · split
    · rename_i other arc token heq
      rw [heq] at hchoose
      obtain ⟨hagrees, hchosen⟩ := hchoose
      obtain ⟨harc, hline⟩ := hchosen arc token rfl
      have hclosed := hagrees.trans (closeTable_agrees other arc.target)
      exact kept.move (hclosed.2.1 ▸ harc) (hclosed.2.2 ▸ hline) (kept.agrees hclosed h)
    · rename_i other heq
      rw [heq] at hchoose
      exact kept.agrees (hchoose.1.trans (note_agrees other _)) h

private theorem run (kept : Kept holds) (h : holds progress) (lines : List Line) :
    holds (progress.run lines) := by
  induction lines generalizing progress with
  | nil => exact h
  | cons line rest ih => exact ih (kept.step h line rest)

private theorem finished (kept : Kept holds) (h : holds progress) (lineCount : Nat) :
    holds (progress.finish lineCount) := by
  unfold Progress.finish
  split
  · exact h
  · split
    · exact kept.finish (kept.agrees (closeTable_agrees progress .finished) h)
    · exact kept.agrees (note_agrees progress _) h

/-- The feature of a text is made up of the pieces that reading ends with. -/
theorem of_parse (kept : Kept holds)
    (hstart : ∀ dialect, Dialect.find? defaultLanguage = some dialect →
      holds { mode := { dialect } })
    {text : String} {document : Document} (h : parse text = .ok document) :
    ∃ final, holds final ∧
      document.feature = (Piece.assemble final.pieces.reverse).map Feature.numbered := by
  unfold parse at h
  split at h
  · cases h
  · rename_i dialect hdialect
    dsimp only at h
    split at h
    · cases h
      exact ⟨_, kept.finished (kept.run (hstart dialect hdialect) _) _, rfl⟩
    · cases h

end Kept

/-! ## The order of what is read -/

/-- A background is read where one may come, and open spots allow one. -/
def InOrder (progress : Progress) : Prop :=
  Orderly true progress.pieces.reverse ∧
    (progress.spot.isOpen = true → openBehind true progress.pieces.reverse = true)

private theorem Agrees.inOrder {progress other : Progress} (h : progress.Agrees other)
    (horder : progress.InOrder) : other.InOrder := by
  unfold InOrder
  rw [h.1, h.2.1]
  exact horder

private theorem InOrder.move {progress : Progress} (h : progress.InOrder) {arc : Arc} {line : Line}
    {token : Token} (harc : arc ∈ progress.spot.arcs)
    (hline : line.read progress.mode arc.kind = .ok (some token)) :
    { progress.take line arc.kind token with spot := arc.target }.InOrder := by
  obtain ⟨horder, hopen⟩ := h
  have hrule : arc.kind = .rule → ∃ keyword name, token = .title keyword name :=
    fun hkind => read_rule (hkind ▸ hline)
  rcases take_pieces progress line arc.kind token hrule with
    ⟨hpieces, hkind⟩ | ⟨piece, hpieces, hkind, _⟩
  · unfold InOrder
    rw [hpieces]
    refine ⟨horder, fun htarget => hopen ?_⟩
    have hafter := Spot.openAfter_of_target harc htarget
    cases hk : arc.kind <;> simp_all [openAfter]
  · unfold InOrder
    rw [hpieces, List.reverse_cons, orderly_append]
    refine ⟨⟨horder, fun hbackground => ?_, trivial⟩, fun htarget => ?_⟩
    · exact hopen (Spot.isOpen_of_background harc (hkind ▸ hbackground))
    · have hafter := Spot.openAfter_of_target harc htarget
      rw [openBehind, List.foldl_append, List.foldl_cons, List.foldl_nil, hkind]
      change openAfter (openBehind true progress.pieces.reverse) arc.kind = true
      cases hk : arc.kind <;> simp_all [openAfter]

theorem kept_inOrder : Kept InOrder where
  agrees := Agrees.inOrder
  move harc hline h := h.move harc hline
  finish h := ⟨h.1, fun hopen => nomatch hopen⟩

end Progress

end FeatureSuite.Gherkin

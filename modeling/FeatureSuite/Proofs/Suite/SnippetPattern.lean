import FeatureSuite.Proofs.Step.PlainFields
import FeatureSuite.Suite.Snippet

/-!
# Templates of snippets

The template of a snippet as a regular expression: its characters and fields in the order of the
pieces of the step text.
-/

namespace FeatureSuite

namespace Snippet

open Template (Fields PlainField escapeLiteral patternOf_textPiece textField numberField
  textFieldText numberFieldText lineFlags)

/-! ## Pieces as parts of an expression -/

/-- The part of the regular expression for a piece, as text. -/
def Piece.expression : Piece → List Char
  | char c => if c ∈ Regex.marks then ['\\', c] else [c]
  | quoted _ => ['"', '('] ++ textFieldText.toList ++ [')', '"']
  | number _ => '(' :: (numberFieldText.toList ++ [')'])

/-- The parts of the regular expression for a piece; a field captures as the group of an index. -/
def Piece.nodes (index : Nat) : Piece → List Regex
  | char c => [.char c .exact]
  | quoted _ => [.char '"' .exact, .capture index textField, .char '"' .exact]
  | number _ => [.capture index numberField]

/-- The number of fields of a piece. -/
def Piece.width (piece : Piece) : Nat := if piece.isField then 1 else 0

def Piece.field? (index : Nat) : Piece → Option PlainField
  | char _ => none
  | quoted _ => some ⟨index, .text⟩
  | number _ => some ⟨index, .int none⟩

def nodesFrom (index : Nat) : List Piece → List Regex
  | [] => []
  | piece :: rest => piece.nodes index ++ nodesFrom (index + piece.width) rest

def fieldsFrom (index : Nat) : List Piece → List PlainField
  | [] => []
  | piece :: rest => (piece.field? index).toList ++ fieldsFrom (index + piece.width) rest

def fieldCount (pieces : List Piece) : Nat := pieces.countP Piece.isField

theorem fieldCount_cons (piece : Piece) (rest : List Piece) :
    fieldCount (piece :: rest) = piece.width + fieldCount rest := by
  rw [fieldCount, List.countP_cons, Piece.width, Nat.add_comm]
  rfl

/-! ## The template -/

/-- The fields of a template, behind those in front. -/
def fieldsBehind (fields : Fields) (pieces : List Piece) : Fields :=
  { fields with
    plain := fields.plain ++ fieldsFrom fields.groups pieces
    groups := fields.groups + fieldCount pieces }

@[simp] private theorem fieldsBehind_nil (fields : Fields) : fieldsBehind fields [] = fields := by
  simp [fieldsBehind, fieldsFrom, fieldCount]

@[simp] theorem fieldsBehind_char (fields : Fields) (c : Char) (rest : List Piece) :
    fieldsBehind fields (.char c :: rest) = fieldsBehind fields rest := by
  simp [fieldsBehind, fieldsFrom, fieldCount, Piece.field?, Piece.width, Piece.isField]

private theorem fieldsBehind_cons {fields : Fields} {piece : Piece} {field : PlainField}
    {rest : List Piece} (hfield : piece.field? fields.groups = some field)
    (hwidth : piece.isField = true) :
    fieldsBehind fields (piece :: rest) =
      fieldsBehind { fields with plain := fields.plain ++ [field], groups := fields.groups + 1 } rest := by
  simp [fieldsBehind, fieldsFrom, fieldCount, hfield, Piece.width, hwidth, Nat.add_comm,
    Nat.add_left_comm]

private theorem expression_char {c : Char} (hopen : c ≠ '\x7b') (hclose : c ≠ '\x7d') :
    (Piece.char c).expression = escapeLiteral [c] := by
  have hmarks : c ∈ Regex.marks ↔ c ∈ Template.escapedChars := by
    rw [show Regex.marks = Template.escapedChars ++ ['\x7b', '\x7d'] by decide]
    simp [hopen, hclose]
  simp [Piece.expression, escapeLiteral, hmarks]

@[simp] private theorem escapeLiteral_append (a b : List Char) :
    escapeLiteral (a ++ b) = escapeLiteral a ++ escapeLiteral b := List.flatMap_append

theorem head?_reverse_cons {before : List Char} {c : Char} (hc : c ≠ '\x7b')
    (h : before.reverse.head? ≠ some '\x7b') : (c :: before).reverse.head? ≠ some '\x7b' := by
  rw [List.reverse_cons]
  cases hb : before.reverse with
  | nil => simpa using hc
  | cons d ds => simpa [hb] using h

/-- The pattern and the fields of pieces are those of their template, behind whatever plain text. -/
def ReadsPattern (pieces : List Piece) : Prop :=
  ∀ (fuel : Nat) (before : List Char) (fields : Fields),
    (pieces.flatMap Piece.template).length ≤ fuel → before.reverse.head? ≠ some '\x7b' →
      Template.patternOf [] fields
          (Template.piecesFrom fuel before (pieces.flatMap Piece.template)) =
        .ok (String.ofList (escapeLiteral before.reverse ++ pieces.flatMap Piece.expression),
          fieldsBehind fields pieces)

namespace ReadsPattern

variable {rest : List Piece}

private theorem empty_not_open : ([] : List Char).reverse.head? ≠ some '\x7b' := by simp

private theorem nil : ReadsPattern [] := by
  intro fuel before fields _ hbefore
  have hend : Template.piecesFrom fuel before [] = Template.textPiece before.reverse ++ [] := by
    cases fuel <;> simp [Template.piecesFrom]
  rw [List.flatMap_nil, List.flatMap_nil, hend, fieldsBehind_nil]
  exact patternOf_textPiece hbefore rfl

private theorem plain {c : Char} (hopen : c ≠ '\x7b') (hclose : c ≠ '\x7d')
    (h : ReadsPattern rest) :
    ReadsPattern (.char c :: rest) := by
  intro fuel before fields hfuel hbefore
  have htemplate : (Piece.char c).template = [c] := by
    rw [Piece.template, if_neg hopen, if_neg hclose]
  rw [List.flatMap_cons, htemplate, List.length_append, List.length_singleton] at hfuel
  obtain ⟨fuel, rfl⟩ := Nat.exists_eq_add_of_le' (show 1 ≤ fuel by omega)
  have hrest := h fuel (c :: before) fields (by omega) (head?_reverse_cons hopen hbefore)
  rw [List.flatMap_cons, List.flatMap_cons, fieldsBehind_char, htemplate]
  rw [List.reverse_cons, escapeLiteral_append, List.append_assoc] at hrest
  rw [expression_char hopen hclose, ← hrest]
  exact congrArg _ (Template.piecesFrom_plain hopen hclose ..)

private theorem openBrace (h : ReadsPattern rest) : ReadsPattern (.char '\x7b' :: rest) := by
  intro fuel before fields hfuel hbefore
  have hlength : (Piece.char '\x7b').template.length = 2 := rfl
  rw [List.flatMap_cons, List.length_append] at hfuel
  obtain ⟨fuel, rfl⟩ := Nat.exists_eq_add_of_le' (show 1 ≤ fuel by omega)
  rw [List.flatMap_cons, List.flatMap_cons, fieldsBehind_char]
  exact patternOf_textPiece hbefore (Template.patternOf_openBrace (h _ _ _ (by omega) empty_not_open))

private theorem closeBrace (h : ReadsPattern rest) : ReadsPattern (.char '\x7d' :: rest) := by
  intro fuel before fields hfuel hbefore
  have hlength : (Piece.char '\x7d').template.length = 2 := rfl
  rw [List.flatMap_cons, List.length_append] at hfuel
  obtain ⟨fuel, rfl⟩ := Nat.exists_eq_add_of_le' (show 1 ≤ fuel by omega)
  rw [List.flatMap_cons, List.flatMap_cons, fieldsBehind_char]
  exact patternOf_textPiece hbefore (Template.patternOf_closeBrace (h _ _ _ (by omega) empty_not_open))

private theorem char (c : Char) (h : ReadsPattern rest) : ReadsPattern (.char c :: rest) := by
  by_cases hopen : c = '\x7b'
  · exact hopen ▸ h.openBrace
  · by_cases hclose : c = '\x7d'
    · exact hclose ▸ h.closeBrace
    · exact h.plain hopen hclose

private theorem quoted (text : List Char) (h : ReadsPattern rest) :
    ReadsPattern (.quoted text :: rest) := by
  intro fuel before fields hfuel hbefore
  have hlength : (Piece.quoted text).template.length = 4 := rfl
  rw [List.flatMap_cons, List.length_append] at hfuel
  obtain ⟨fuel, rfl⟩ := Nat.exists_eq_add_of_le' (show 3 ≤ fuel by omega)
  have hquote : ('"' : Char) ≠ '\x7b' := by decide
  have hfree : ['"'].reverse.head? ≠ some '\x7b' := by decide
  have hrest := patternOf_textPiece (head?_reverse_cons hquote hbefore)
    (Template.patternOf_field (Template.add_textField fields)
      (h fuel _ _ (by omega) hfree))
  have hpieces := Template.piecesFrom_quotes fuel before (rest.flatMap Piece.template)
  rw [← hpieces] at hrest
  have hexpression : escapeLiteral ('"' :: before).reverse ++
      ('(' :: (textFieldText.toList ++ [')']) ++
        (escapeLiteral ['"'].reverse ++ rest.flatMap Piece.expression)) =
      escapeLiteral before.reverse ++
        ((Piece.quoted text).expression ++ rest.flatMap Piece.expression) := by
    have hescape : escapeLiteral ['"'] = ['"'] := by decide
    rw [List.reverse_cons, escapeLiteral_append, List.reverse_singleton, hescape,
      Piece.expression]
    simp
  rw [hexpression] at hrest
  rw [List.flatMap_cons, List.flatMap_cons, fieldsBehind_cons rfl rfl]
  exact hrest

private theorem number (text : List Char) (h : ReadsPattern rest) :
    ReadsPattern (.number text :: rest) := by
  intro fuel before fields hfuel hbefore
  have hlength : (Piece.number text).template.length = 4 := rfl
  rw [List.flatMap_cons, List.length_append] at hfuel
  obtain ⟨fuel, rfl⟩ := Nat.exists_eq_add_of_le' (show 1 ≤ fuel by omega)
  have hrest := patternOf_textPiece hbefore
    (Template.patternOf_field (Template.add_numberField fields)
      (h fuel _ _ (by omega) empty_not_open))
  rw [← Template.piecesFrom_number] at hrest
  rw [List.flatMap_cons, List.flatMap_cons, fieldsBehind_cons rfl rfl]
  exact hrest

end ReadsPattern

private theorem readsPattern (pieces : List Piece) : ReadsPattern pieces := by
  induction pieces with
  | nil => exact ReadsPattern.nil
  | cons piece rest ih =>
      cases piece with
      | char c => exact ih.char c
      | quoted text => exact ih.quoted text
      | number text => exact ih.number text

/-! ## The regular expression -/

open Regex (ReaderState Item)

/-- What ends the regular expression of a template. -/
def closingText : List Char := ['\\', 'Z']

private theorem append_closingText_ne (cs : List Char) : cs ++ closingText ≠ ['\\'] := by
  intro h
  have hlength := congrArg List.length h
  simp [closingText] at hlength

private theorem sequence_closing {fuel : Nat} {first : Bool} {items : List Item}
    {state : ReaderState} (hrest : state.rest = closingText) :
    ∃ final, state.Past [] 0 final ∧
      (Regex.sequence (fuel + 2) lineFlags first items).run state =
        .ok ((.seq ((items.reverse.map (·.node)) ++ [.anchor .textEnd]), lineFlags), final) := by
  have hanchor : (Regex.sequence (fuel + 2) lineFlags first items).run state =
      (Regex.sequence (fuel + 1) lineFlags first (Regex.itemAs (.anchor .textEnd) :: items)).run
        (state.at [] 2) :=
    Regex.sequence_escaped rfl hrest nofun fun _ _ => rfl
  refine ⟨state.at [] 2, state.past_at [] 2, ?_⟩
  rw [hanchor, Regex.sequence_nil rfl]
  simp [Regex.itemAs]

/-- Reading a sequence goes on behind a piece, whose parts are then among the items. -/
def ReadsPast (piece : Piece) (behind : List Char) (first : Bool) (fuel : Nat) (items : List Item)
    (state : ReaderState) : Prop :=
  ∃ left items' next, behind.length ≤ left ∧
    items'.reverse.map (·.node) = items.reverse.map (·.node) ++ piece.nodes state.groups.length ∧
    state.Past behind piece.width next ∧
    (Regex.sequence fuel lineFlags first items).run state =
      (Regex.sequence left lineFlags first items').run next

section Pieces

variable {behind : List Char} {first : Bool} {fuel : Nat} {items : List Item} {state : ReaderState}

private theorem readsPast_char {c : Char} (hbehind : behind ≠ ['\\'])
    (hrest : state.rest = (Piece.char c).expression ++ behind) (hfuel : state.rest.length ≤ fuel) :
    ReadsPast (.char c) behind first fuel items state := by
  rw [hrest, List.length_append] at hfuel
  by_cases hc : c ∈ Regex.marks
  · rw [Piece.expression, if_pos hc] at hrest hfuel
    obtain ⟨fuel, rfl⟩ := Nat.exists_eq_add_of_le' (show 1 ≤ fuel by simp at hfuel; omega)
    refine ⟨fuel, _, _, ?_, ?_, state.past_at _ 2,
      Regex.sequence_escaped rfl hrest hbehind fun _ => Regex.run_escape_mark hc⟩
    · simp at hfuel
      omega
    · simp [Regex.itemAs, Piece.nodes]; rfl
  · rw [Piece.expression, if_neg hc] at hrest hfuel
    obtain ⟨fuel, rfl⟩ := Nat.exists_eq_add_of_le' (show 1 ≤ fuel by simp at hfuel; omega)
    refine ⟨fuel, _, _, ?_, ?_, state.past_at _ 1, Regex.sequence_char rfl hc hrest hbehind⟩
    · simp at hfuel
      omega
    · simp [Piece.nodes]; rfl

private theorem readsPast_quoted {text : List Char} (hbehind : behind ≠ ['\\'])
    (hrest : state.rest = (Piece.quoted text).expression ++ behind)
    (hfuel : state.rest.length ≤ fuel) :
    ReadsPast (.quoted text) behind first fuel items state := by
  have hlength : (Piece.quoted text).expression.length = 7 := rfl
  rw [hrest, List.length_append] at hfuel
  obtain ⟨fuel, rfl⟩ := Nat.exists_eq_add_of_le' (show 7 ≤ fuel by omega)
  let inside := '(' :: (textFieldText.toList ++ ')' :: '"' :: behind)
  have hquote : '"' ∉ Regex.marks := by decide
  have hinside : state.rest = '"' :: inside := by rw [hrest]; rfl
  let quote : Item := { node := .char '"' lineFlags.folding }
  let field : Item := { node := .capture state.groups.length textField }
  have hopen : (Regex.sequence (fuel + 7) lineFlags first items).run state =
      (Regex.sequence (fuel + 6) lineFlags first (quote :: items)).run (state.at inside 1) :=
    Regex.sequence_char rfl hquote hinside (by simp [inside])
  have hclosing : '"' :: behind ≠ ['\\'] := by simp
  obtain ⟨next, hpast, hgroup⟩ : ∃ next, (state.at inside 1).Past ('"' :: behind) 1 next ∧
      (Regex.sequence (fuel + 6) lineFlags first (quote :: items)).run (state.at inside 1) =
        (Regex.sequence (fuel + 5) lineFlags first (field :: quote :: items)).run next :=
    Regex.sequence_group rfl rfl hclosing (by decide) fun _ => Template.run_textField
  have hclose : (Regex.sequence (fuel + 5) lineFlags first (field :: quote :: items)).run next =
      (Regex.sequence (fuel + 4) lineFlags first (quote :: field :: quote :: items)).run
        (next.at behind 1) :=
    Regex.sequence_char rfl hquote hpast.rest_eq hbehind
  refine ⟨fuel + 4, _, _, by omega, ?_,
    ((state.past_at inside 1).trans hpast).trans (next.past_at behind 1),
    hopen.trans (hgroup.trans hclose)⟩
  simp only [Piece.nodes, List.reverse_cons, List.map_append, List.append_assoc]
  rfl

private theorem readsPast_number {text : List Char} (hbehind : behind ≠ ['\\'])
    (hrest : state.rest = (Piece.number text).expression ++ behind)
    (hfuel : state.rest.length ≤ fuel) :
    ReadsPast (.number text) behind first fuel items state := by
  have hlength : (Piece.number text).expression.length = 79 := rfl
  rw [hrest, List.length_append] at hfuel
  obtain ⟨fuel, rfl⟩ := Nat.exists_eq_add_of_le' (show 16 ≤ fuel by omega)
  let field : Item := { node := .capture state.groups.length numberField }
  have hgroup : state.rest = '(' :: (numberFieldText.toList ++ ')' :: behind) := by
    rw [hrest]
    simp [Piece.expression]
  obtain ⟨next, hpast, hread⟩ : ∃ next, state.Past behind 1 next ∧
      (Regex.sequence (fuel + 16) lineFlags first items).run state =
        (Regex.sequence (fuel + 15) lineFlags first (field :: items)).run next :=
    Regex.sequence_group rfl hgroup hbehind (by decide) fun _ => Template.run_numberField
  refine ⟨fuel + 15, _, _, by omega, ?_, hpast, hread⟩
  rw [List.reverse_cons, List.map_append]
  rfl

end Pieces

private theorem sequence_pieces (pieces : List Piece) {fuel : Nat} {first : Bool}
    {items : List Item} {state : ReaderState}
    (hrest : state.rest = pieces.flatMap Piece.expression ++ closingText)
    (hfuel : state.rest.length ≤ fuel) :
    ∃ final, state.Past [] (fieldCount pieces) final ∧
      (Regex.sequence fuel lineFlags first items).run state =
        .ok ((.seq ((items.reverse.map (·.node)) ++ nodesFrom state.groups.length pieces ++
          [.anchor .textEnd]), lineFlags), final) := by
  induction pieces generalizing fuel items state with
  | nil =>
      rw [hrest, List.flatMap_nil, List.nil_append] at hfuel
      obtain ⟨fuel, rfl⟩ := Nat.exists_eq_add_of_le' hfuel
      rw [nodesFrom, List.append_nil]
      exact sequence_closing hrest
  | cons piece rest ih =>
      rw [List.flatMap_cons, List.append_assoc] at hrest
      have hbehind := append_closingText_ne (rest.flatMap Piece.expression)
      obtain ⟨left, items', next, hleft, hitems, hpast, hread⟩ :
          ReadsPast piece (rest.flatMap Piece.expression ++ closingText) first fuel items state := by
        cases piece with
        | char c => exact readsPast_char hbehind hrest hfuel
        | quoted text => exact readsPast_quoted hbehind hrest hfuel
        | number text => exact readsPast_number hbehind hrest hfuel
      obtain ⟨final, hfinal, hrun⟩ := ih hpast.rest_eq (hpast.rest_eq ▸ hleft)
      refine ⟨final, fieldCount_cons piece rest ▸ hpast.trans hfinal, ?_⟩
      rw [hread, hrun, hitems, hpast.groups_eq, nodesFrom]
      simp only [List.append_assoc]

/-- The tree of the regular expression of pieces. -/
def treeOf (pieces : List Piece) : Regex :=
  .seq (.anchor .textStart :: (nodesFrom 1 pieces ++ [.anchor .textEnd]))

private theorem lookBehindsFixed_seq {rs : List Regex} (h : ∀ r ∈ rs, r.lookBehindsFixed = true) :
    (Regex.seq rs).lookBehindsFixed = true := by
  induction rs with
  | nil => rfl
  | cons r rs ih =>
      obtain ⟨hr, hrs⟩ := List.forall_mem_cons.mp h
      cases rs with
      | nil => exact hr
      | cons r' rs => exact (Bool.and_eq_true _ _).mpr ⟨hr, ih hrs⟩

private theorem lookBehindsFixed_nodesFrom (index : Nat) (pieces : List Piece) :
    ∀ r ∈ nodesFrom index pieces, r.lookBehindsFixed = true := by
  induction pieces generalizing index with
  | nil => exact List.forall_mem_nil _
  | cons piece rest ih =>
      rw [nodesFrom, List.forall_mem_append]
      refine ⟨?_, ih _⟩
      cases piece <;> simp [Piece.nodes, Regex.lookBehindsFixed] <;> decide

@[simp] private theorem lookBehindsFixed_treeOf (pieces : List Piece) :
    (treeOf pieces).lookBehindsFixed = true := by
  refine lookBehindsFixed_seq (List.forall_mem_cons.mpr ⟨rfl, ?_⟩)
  rw [List.forall_mem_append]
  exact ⟨lookBehindsFixed_nodesFrom 1 pieces, by simp [Regex.lookBehindsFixed]⟩

/-- The regular expression of pieces. -/
def expressionOf (pieces : List Piece) : String :=
  s!"\\A{String.ofList (pieces.flatMap Piece.expression)}\\Z"

private theorem toList_expressionOf (pieces : List Piece) :
    (expressionOf pieces).toList =
      '\\' :: 'A' :: (pieces.flatMap Piece.expression ++ closingText) := by
  simp [expressionOf, closingText, toString]

private theorem compile_expressionOf (pieces : List Piece) :
    Regex.compile (expressionOf pieces) lineFlags =
      .ok ⟨expressionOf pieces, lineFlags, treeOf pieces, fieldCount pieces, []⟩ := by
  let start : ReaderState := { rest := (expressionOf pieces).toList, flags := lineFlags }
  let behind := pieces.flatMap Piece.expression ++ closingText
  have hrest : start.rest = '\\' :: 'A' :: behind := toList_expressionOf pieces
  have hlength : (expressionOf pieces).toList.length = behind.length + 2 := by
    rw [toList_expressionOf]
    rfl
  let fuel := 2 * (expressionOf pieces).toList.length + 1
  have hfuel : (start.at behind 2).rest.length ≤ fuel := show behind.length ≤ _ by omega
  have hopen : (Regex.sequence (fuel + 1) lineFlags true []).run start =
      (Regex.sequence fuel lineFlags true [Regex.itemAs (.anchor .textStart)]).run
        (start.at behind 2) :=
    Regex.sequence_escaped rfl hrest (append_closingText_ne _) fun _ _ => rfl
  obtain ⟨final, hpast, hread⟩ := sequence_pieces pieces rfl hfuel
  have hpattern : (expressionOf pieces).toList ≠ ['\\'] := by
    rw [toList_expressionOf]
    simp
  exact Regex.compile_of_sequence hpattern (hopen.trans hread)
    ((Nat.zero_add (fieldCount pieces)) ▸ (start.past_at behind 2).trans hpast)
    (lookBehindsFixed_treeOf pieces)

/-- The template of pieces, ready to match. -/
def templateOf (pieces : List Piece) : FeatureSuite.Template where
  compiled := ⟨expressionOf pieces, lineFlags, treeOf pieces, fieldCount pieces, []⟩
  fields := { plain := fieldsFrom 0 pieces, groups := fieldCount pieces }

theorem compile_pattern (text : String) :
    Template.compile (pattern text).1 [] = .ok (templateOf (pieces text)) := by
  let template := (pieces text).flatMap Piece.template
  have htemplate : (pattern text).1 = String.ofList template := rfl
  have hpieces : Template.pieces (pattern text).1 = Template.piecesFrom template.length [] template := by
    rw [Template.pieces, htemplate, String.length_ofList, String.toList_ofList]
  have hpattern : Template.patternOf [] {} (Template.pieces (pattern text).1) =
      .ok (String.ofList ((pieces text).flatMap Piece.expression), fieldsBehind {} (pieces text)) := by
    rw [hpieces]
    exact readsPattern (pieces text) _ _ _ (Nat.le_refl _) nofun
  have hfields : fieldsBehind {} (pieces text) = (templateOf (pieces text)).fields := by
    simp [fieldsBehind, templateOf]
  have hcompile : Regex.compile
      s!"\\A{String.ofList ((pieces text).flatMap Piece.expression)}\\Z" { dotAll := true } =
        .ok (templateOf (pieces text)).compiled := compile_expressionOf (pieces text)
  rw [Template.compile, hpattern]
  simp only [bind, Except.bind]
  rw [hcompile, hfields]
  rfl

end Snippet

end FeatureSuite

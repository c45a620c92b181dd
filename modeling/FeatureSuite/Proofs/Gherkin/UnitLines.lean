import FeatureSuite.Proofs.Gherkin.Regular
import Mathlib.Data.List.Flatten

/-!
# The lines of units

The feature, its rules, backgrounds and scenarios and the rows of examples each start on a line.
The parser reads a text line by line and makes at most one piece of a line, so in a parsed feature
no two of them start on the same one.
-/

namespace FeatureSuite.Gherkin

/-! ## Lines of a feature -/

/-- The lines of a scenario and of its rows. -/
def Scenario.unitLines (scenario : Scenario) : List Int :=
  scenario.location.line ::
    scenario.examples.flatMap fun block => block.tableBody.map (·.location.line)

def RuleChild.unitLines (child : RuleChild) : List Int :=
  child.background.toList.flatMap (fun background => [background.location.line]) ++
    child.scenario.toList.flatMap Scenario.unitLines

def Rule.unitLines (rule : Rule) : List Int :=
  rule.location.line :: rule.children.flatMap RuleChild.unitLines

def FeatureChild.unitLines (child : FeatureChild) : List Int :=
  child.background.toList.flatMap (fun background => [background.location.line]) ++
    child.scenario.toList.flatMap Scenario.unitLines ++ child.rule.toList.flatMap Rule.unitLines

/-- The lines on which a feature, its rules, backgrounds, scenarios and rows start. -/
def Feature.unitLines (feature : Feature) : List Int :=
  feature.location.line :: feature.children.flatMap FeatureChild.unitLines

/-! ## Lines of pieces -/

namespace Piece

def startLines (piece : Piece) : List Int := piece.place?.toList.map (·.line)

/-- The lines on which pieces start. -/
def linesOf (pieces : List Piece) : List Int := pieces.flatMap startLines

@[simp] private theorem linesOf_append (pieces more : List Piece) :
    linesOf (pieces ++ more) = linesOf pieces ++ linesOf more := List.flatMap_append

end Piece

namespace Progress

private theorem step_pieces (progress : Progress) (line : Line) (rest : List Line) :
    (progress.step line rest).pieces = progress.pieces ∨
      ∃ piece, (progress.step line rest).pieces = piece :: progress.pieces ∧
        piece.place? ∈ [none, some line.start] := by
  have hchoose := choose_agrees line rest progress progress.spot.arcs
  unfold Progress.step
  split
  · exact .inl rfl
  · split
    · rename_i other arc token heq
      rw [heq] at hchoose
      obtain ⟨hagrees, hchosen⟩ := hchoose
      have hclosed := hagrees.trans (closeTable_agrees other arc.target)
      have hrule : arc.kind = .rule → ∃ keyword name, token = .title keyword name :=
        fun hkind => read_rule (hkind ▸ (hchosen arc token rfl).2)
      rcases take_pieces (other.closeTable arc.target) line arc.kind token hrule with
        ⟨hpieces, _⟩ | ⟨piece, hpieces, _, hplace⟩
      · exact .inl (hpieces.trans hclosed.1)
      · exact .inr ⟨piece, hpieces.trans (congrArg _ hclosed.1), hplace⟩
    · rename_i other heq
      rw [heq] at hchoose
      exact .inl (hchoose.1.trans (note_agrees other _)).1

/-- A line adds at most itself to the lines on which pieces start. -/
theorem step_lines (progress : Progress) (line : Line) (rest : List Line) :
    (Piece.linesOf (progress.step line rest).pieces.reverse).Sublist
      (Piece.linesOf progress.pieces.reverse ++ [(line.number : Int)]) := by
  rcases progress.step_pieces line rest with hpieces | ⟨piece, hpieces, hplace⟩
  · rw [hpieces]
    exact List.sublist_append_left _ _
  · have hstart : piece.startLines.Sublist [(line.number : Int)] := by
      rcases List.mem_pair.mp hplace with hplace | hplace <;>
        simp [Piece.startLines, hplace, Line.start]
    rw [hpieces, List.reverse_cons, Piece.linesOf_append, Piece.linesOf, Piece.linesOf,
      List.flatMap_singleton]
    exact hstart.append_left _

private theorem run_lines (progress : Progress) (lines : List Line) :
    (Piece.linesOf (progress.run lines).pieces.reverse).Sublist
      (Piece.linesOf progress.pieces.reverse ++ lines.map fun line => (line.number : Int)) := by
  induction lines generalizing progress with
  | nil => exact List.sublist_append_left _ _
  | cons line rest ih =>
      have hstep := (progress.step_lines line rest).append_right
        (rest.map fun line => (line.number : Int))
      rw [List.append_assoc, List.singleton_append] at hstep
      exact (ih (progress.step line rest)).trans hstep

private theorem finish_pieces (progress : Progress) (lineCount : Nat) :
    (progress.finish lineCount).pieces = progress.pieces := by
  unfold finish
  split
  · rfl
  · split
    · exact (closeTable_agrees progress .finished).1
    · exact (note_agrees progress _).1

end Progress

private theorem Line.cut_numbers (n : Nat) (acc cs : List Char) :
    (Line.cut n acc cs).map (·.number) = List.range' n (Line.cut n acc cs).length := by
  fun_induction Line.cut n acc cs with
  | case1 => rfl
  | case2 n acc hacc => rfl
  | case3 n acc rest ih =>
      rw [List.map_cons, ih, List.length_cons, List.range'_succ]
  | case4 n acc c rest hc ih => exact ih

private theorem Line.nodup_numbers (text : String) :
    ((Line.ofText text).map fun line => (line.number : Int)).Nodup := by
  have hnumbers : ((Line.ofText text).map (·.number)).Nodup := by
    rw [ofText, cut_numbers]
    exact List.nodup_range'
  have hcast := hnumbers.map (f := fun n : Nat => (n : Int)) fun _ _ => Int.ofNat.inj
  rw [List.map_map] at hcast
  exact hcast

/-! ## Lines of assembled features -/

namespace Piece

private theorem sections_flatMap {α β γ : Type} {head? : α → Option β} {f : α → List γ}
    {g : β → List γ} (h : ∀ a head, head? a = some head → f a = g head) (items : List α) :
    items.flatMap f = (sections head? items).1.flatMap f ++
      (sections head? items).2.flatMap fun group => g group.1 ++ group.2.flatMap f := by
  induction items with
  | nil => rfl
  | cons a rest ih =>
      rw [sections_cons, List.flatMap_cons, ih]
      cases hhead : head? a with
      | none => simp
      | some head => simp [h a head hhead]

private theorem rowsOf_lines (pieces : List Piece) :
    ((rowsOf pieces).map (·.location.line)).Sublist (linesOf pieces) := by
  induction pieces with
  | nil => exact .slnil
  | cons piece pieces ih =>
      cases piece with
      | row location cells => exact .cons_cons _ ih
      | _ => exact ih.trans (List.sublist_append_right _ _)

private theorem examplesOf_lines (title : Title) (body : List Piece) :
    ((examplesOf title body).tableBody.map (·.location.line)).Sublist (linesOf body) :=
  ((List.drop_sublist 1 (rowsOf body)).map _).trans (rowsOf_lines body)

theorem sections_lines {β : Type} {head? : Piece → Option β} {place : β → Int}
    {lines : β → List Piece → List Int}
    (hplace : ∀ piece head, head? piece = some head → piece.startLines = [place head])
    (hlines : ∀ head body, (lines head body).Sublist (place head :: linesOf body))
    (pieces : List Piece) :
    (linesOf (sections head? pieces).1 ++
      (sections head? pieces).2.flatMap fun group => lines group.1 group.2).Sublist
        (linesOf pieces) := by
  have hsections := sections_flatMap (g := fun head => [place head]) hplace pieces
  rw [linesOf, linesOf, hsections]
  refine (List.Sublist.refl _).append (List.Sublist.flatMap_right _ fun group _ => ?_)
  exact hlines group.1 group.2

private theorem scenarioOf_lines (title : Title) (body : List Piece) :
    (scenarioOf title body).unitLines.Sublist (title.location.line :: linesOf body) := by
  have hplace : ∀ piece title, examples? piece = some title →
      piece.startLines = [title.location.line] := by
    intro piece title h
    cases piece <;> cases h
    rfl
  have hblocks := sections_lines hplace
    (fun title body => (examplesOf_lines title body).cons title.location.line) body
  refine .cons_cons _ ?_
  rw [scenarioOf, List.flatMap_map]
  exact (List.sublist_append_right _ _).trans hblocks

private theorem unit?_startLines {piece : Piece} {head : Bool × Title}
    (h : unit? piece = some head) :
    piece.startLines = [head.2.location.line] := by
  cases piece <;> cases h <;> rfl

private theorem ruleChildOf_lines (isBackground : Bool) (title : Title) (body : List Piece) :
    (ruleChildOf isBackground title body).unitLines.Sublist
      (title.location.line :: linesOf body) := by
  cases isBackground with
  | true => exact .cons_cons _ (List.nil_sublist _)
  | false =>
      change ([scenarioOf title body].flatMap Scenario.unitLines).Sublist _
      rw [List.flatMap_singleton]
      exact scenarioOf_lines title body

private theorem featureChildOf_lines (isBackground : Bool) (title : Title) (body : List Piece) :
    (featureChildOf isBackground title body).unitLines.Sublist
      (title.location.line :: linesOf body) := by
  cases isBackground with
  | true => exact .cons_cons _ (List.nil_sublist _)
  | false =>
      change ([scenarioOf title body].flatMap Scenario.unitLines ++ []).Sublist _
      rw [List.flatMap_singleton, List.append_nil]
      exact scenarioOf_lines title body

private theorem ruleOf_lines (title : Title) (body : List Piece) :
    (ruleOf title body).unitLines.Sublist (title.location.line :: linesOf body) := by
  have hunits := sections_lines (fun _ _ => unit?_startLines)
    (fun head body => ruleChildOf_lines head.1 head.2 body) body
  refine .cons_cons _ ?_
  rw [ruleOf, List.flatMap_map]
  exact (List.sublist_append_right _ _).trans hunits

private theorem featureOf_lines (language : String) (title : Title) (body : List Piece) :
    (featureOf language title body).unitLines.Sublist
      (title.location.line :: linesOf body) := by
  have hplace : ∀ piece title, rule? piece = some title →
      piece.startLines = [title.location.line] := by
    intro piece title h
    cases piece <;> cases h
    rfl
  have hunits := sections_lines (fun _ _ => unit?_startLines)
    (fun head body => featureChildOf_lines head.1 head.2 body) (sections rule? body).1
  have hrules := sections_lines hplace (fun title body => ruleOf_lines title body) body
  have hrule (rule : Rule) : FeatureChild.unitLines { rule := some rule } = rule.unitLines :=
    List.append_nil rule.unitLines
  -- The parts in front of the first rule come first, and after them the rules.
  refine .cons_cons _ ?_
  rw [featureOf]
  dsimp only
  rw [List.flatMap_append, List.flatMap_map, List.flatMap_map]
  simp only [hrule]
  exact (((List.sublist_append_right _ _).trans hunits).append_right _).trans hrules

private theorem assemble_lines {pieces : List Piece} {feature : Feature}
    (h : assemble pieces = some feature) : feature.unitLines.Sublist (linesOf pieces) := by
  unfold assemble at h
  split at h
  · cases h
    exact featureOf_lines ..
  · cases h

end Piece

/-! ## Numbered features -/

private theorem Examples.unitLines_number (block : Examples) (n : Nat) :
    (block.number.run n).1.tableBody.map (·.location.line) =
      block.tableBody.map (·.location.line) := by
  rw [List.map_eq_flatMap, List.map_eq_flatMap]
  exact flatMap_mapM_run _ (fun row : TableRow => [row.location.line]) (fun _ _ => rfl)
    block.tableBody _

@[simp] private theorem Scenario.unitLines_number (scenario : Scenario) (n : Nat) :
    (scenario.number.run n).1.unitLines = scenario.unitLines :=
  congrArg (scenario.location.line :: ·)
    (flatMap_mapM_run Examples.number _ Examples.unitLines_number scenario.examples _)

private theorem Background.unitLines_number (background? : Option Background) (n : Nat) :
    ((numberOption Background.number background?).run n).1.toList.flatMap
        (fun background => [background.location.line]) =
      background?.toList.flatMap fun background => [background.location.line] :=
  flatMap_numberOption_run Background.number _ (fun _ _ => rfl) background? n

@[simp] private theorem RuleChild.unitLines_number (child : RuleChild) (n : Nat) :
    (child.number.run n).1.unitLines = child.unitLines :=
  congrArg₂ _ (Background.unitLines_number child.background n)
    (flatMap_numberOption_run Scenario.number _ Scenario.unitLines_number child.scenario _)

@[simp] private theorem Rule.unitLines_number (rule : Rule) (n : Nat) :
    (rule.number.run n).1.unitLines = rule.unitLines :=
  congrArg (rule.location.line :: ·)
    (flatMap_mapM_run RuleChild.number _ RuleChild.unitLines_number rule.children n)

private theorem FeatureChild.unitLines_number (child : FeatureChild) (n : Nat) :
    (child.number.run n).1.unitLines = child.unitLines :=
  congrArg₂ _
    (congrArg₂ _ (Background.unitLines_number child.background n)
      (flatMap_numberOption_run Scenario.number _ Scenario.unitLines_number child.scenario _))
    (flatMap_numberOption_run Rule.number _ Rule.unitLines_number child.rule _)

@[simp] private theorem Feature.unitLines_numbered (feature : Feature) :
    feature.numbered.unitLines = feature.unitLines :=
  congrArg (feature.location.line :: ·)
    (flatMap_mapM_run FeatureChild.number _ FeatureChild.unitLines_number feature.children 0)

/-! ## Parsed features -/

/-- In a parsed feature no two units start on the same line. -/
theorem unitLines_nodup_of_parse {text : String} {document : Document} {feature : Feature}
    (h : parse text = .ok document) (hfeature : document.feature = some feature) :
    feature.unitLines.Nodup := by
  unfold parse at h
  split at h
  · cases h
  · rename_i dialect _
    dsimp only at h
    split at h
    · cases h
      obtain ⟨assembled, hassembled, rfl⟩ := Option.map_eq_some_iff.mp hfeature
      rw [Progress.finish_pieces] at hassembled
      have hread := Progress.run_lines { mode := { dialect } } (Line.ofText text)
      rw [Feature.unitLines_numbered]
      exact (Line.nodup_numbers text).sublist ((Piece.assemble_lines hassembled).trans hread)
    · cases h

end FeatureSuite.Gherkin

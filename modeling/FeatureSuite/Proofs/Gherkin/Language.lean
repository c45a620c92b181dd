import FeatureSuite.Proofs.Gherkin.Regular

/-!
# The language of a feature

A language can only be named before anything else is read. So the words that open the steps of a
feature are all taken from the dialect whose name the feature carries.
-/

namespace FeatureSuite.Gherkin

/-! ## Steps of a feature -/

def RuleChild.steps (child : RuleChild) : List Step :=
  child.background.toList.flatMap (·.steps) ++ child.scenario.toList.flatMap (·.steps)

def Rule.steps (rule : Rule) : List Step := rule.children.flatMap RuleChild.steps

def FeatureChild.steps (child : FeatureChild) : List Step :=
  child.background.toList.flatMap (·.steps) ++ child.scenario.toList.flatMap (·.steps) ++
    child.rule.toList.flatMap Rule.steps

/-- The steps of all backgrounds and scenarios. -/
def Feature.steps (feature : Feature) : List Step := feature.children.flatMap FeatureChild.steps

/-- The step that a node is. -/
def Node.step? : Node → Option Step
  | backgroundStep _ step | scenarioStep _ step => some step
  | row .. => none

def stepsAmong (nodes : List (String × Node)) : List Step := nodes.filterMap (·.2.step?)

@[simp] private theorem stepsAmong_append (nodes more : List (String × Node)) :
    stepsAmong (nodes ++ more) = stepsAmong nodes ++ stepsAmong more := List.filterMap_append

@[simp] private theorem stepsAmong_flatMap {α : Type} (items : List α)
    (nodes : α → List (String × Node)) :
    stepsAmong (items.flatMap nodes) = items.flatMap fun item => stepsAmong (nodes item) :=
  List.filterMap_flatMap

@[simp] private theorem stepsAmong_map {α : Type} (items : List α) (nodes : α → String × Node) :
    stepsAmong (items.map nodes) = items.filterMap fun item => (nodes item).2.step? :=
  List.filterMap_map

@[simp] private theorem Background.stepsAmong_nodes (background : Background) :
    stepsAmong background.nodes = background.steps := by
  simp [Background.nodes, Node.step?]

@[simp] private theorem Examples.stepsAmong_nodes (block : Examples) :
    stepsAmong block.nodes = [] := by
  simp [Examples.nodes, Node.step?]

@[simp] private theorem Scenario.stepsAmong_nodes (scenario : Scenario) :
    stepsAmong scenario.nodes = scenario.steps := by
  simp [Scenario.nodes, Node.step?]

@[simp] private theorem RuleChild.stepsAmong_nodes (child : RuleChild) :
    stepsAmong child.nodes = child.steps := by
  simp [RuleChild.nodes, RuleChild.steps]

@[simp] private theorem Rule.stepsAmong_nodes (rule : Rule) :
    stepsAmong rule.nodes = rule.steps := by
  simp [Rule.nodes, Rule.steps]

@[simp] private theorem FeatureChild.stepsAmong_nodes (child : FeatureChild) :
    stepsAmong child.nodes = child.steps := by
  simp [FeatureChild.nodes, FeatureChild.steps]

/-- The steps among the nodes of a feature are its steps. -/
@[simp] theorem Feature.stepsAmong_nodes (feature : Feature) :
    stepsAmong feature.nodes = feature.steps := by
  simp [Feature.nodes, Feature.steps]

/-! ## What is read -/

/-- The language that a piece names is the one of a dialect, and its step word is one of the
dialect. -/
def Piece.Speaks (dialect : Dialect) : Piece → Prop
  | .feature language _ => language = dialect.name
  | .step _ keyword _ _ => keyword ∈ dialect.stepWords
  | _ => True

/-- What the grammar says about languages at one spot: a language is read at the start only, where
nothing but comments and blank lines lead back to. -/
def Spot.startsOnce (spot : Spot) : Bool :=
  spot.arcs.all fun arc =>
    (arc.kind = .language → spot = .start) ∧
      (arc.target = .start → spot = .start ∧ (arc.kind = .comment ∨ arc.kind = .empty))

private theorem Spot.startsOnce_eq_true (spot : Spot) : spot.startsOnce = true :=
  eq_true_of_all (by decide +kernel) spot

private theorem Dialect.find?_name {language : String} {dialect : Dialect}
    (h : Dialect.find? language = some dialect) : Dialect.find? dialect.name = some dialect := by
  have hname : dialect.name = language := by simpa using List.find?_some h
  rw [hname, h]

private theorem read_step {mode : ReadingMode} {line : Line} {keyword text : String}
    {type : StepType} (h : line.read mode .step = .ok (some (.step keyword type text))) :
    keyword ∈ mode.dialect.stepWords := by
  have hstep : step? mode.dialect line = some (.step keyword type text) := by
    simpa [Line.read] using h
  obtain ⟨word, hword, hrest⟩ := List.exists_of_findSome?_eq_some hstep
  obtain ⟨rest, _, htoken⟩ := Option.map_eq_some_iff.mp hrest
  cases htoken
  exact hword

namespace Progress

/-- All that has been read belongs to one dialect, which is settled when the first piece is read. -/
structure SpeaksOne (progress : Progress) : Prop where
  known : Dialect.find? progress.mode.dialect.name = some progress.mode.dialect
  pieces : ∀ piece ∈ progress.pieces, piece.Speaks progress.mode.dialect
  start : progress.spot = .start → progress.pieces = []

namespace SpeaksOne

variable {progress other : Progress}

private theorem add (h : progress.SpeaksOne) {piece : Piece}
    (hpieces : other.pieces = piece :: progress.pieces)
    (hpiece : piece.Speaks progress.mode.dialect)
    (hdialect : other.mode.dialect = progress.mode.dialect) (hspot : other.spot ≠ .start) :
    other.SpeaksOne where
  known := hdialect ▸ h.known
  pieces := by
    rw [hpieces, hdialect]
    exact List.forall_mem_cons.mpr ⟨hpiece, h.pieces⟩
  start hstart := absurd hstart hspot

private theorem keep (h : progress.SpeaksOne) (hpieces : other.pieces = progress.pieces)
    (hdialect : other.mode.dialect = progress.mode.dialect)
    (hspot : other.spot = .start → progress.spot = .start) : other.SpeaksOne where
  known := hdialect ▸ h.known
  pieces := by
    rw [hpieces, hdialect]
    exact h.pieces
  start hstart := hpieces ▸ h.start (hspot hstart)

private theorem move (h : progress.SpeaksOne) {arc : Arc} {line : Line} {token : Token}
    (harc : arc ∈ progress.spot.arcs)
    (hline : line.read progress.mode arc.kind = .ok (some token)) :
    { progress.take line arc.kind token with spot := arc.target }.SpeaksOne := by
  obtain ⟨hlanguage, hstart⟩ :=
    of_decide_eq_true (List.all_eq_true.mp progress.spot.startsOnce_eq_true arc harc)
  obtain ⟨kind, target, ahead⟩ := arc
  dsimp only at hlanguage hstart hline ⊢
  have hback (htarget : target = .start) : progress.spot = .start := (hstart htarget).1
  have hleave (hkind : kind ≠ .comment ∧ kind ≠ .empty) : target ≠ .start := fun htarget =>
    (hstart htarget).2.elim hkind.1 hkind.2
  unfold take
  split
  case h_1 name =>
    split
    · rename_i dialect hdialect
      -- Nothing has been read yet that a change of the dialect could affect.
      have hnone : progress.pieces = [] := h.start (hlanguage rfl)
      refine ⟨Dialect.find?_name hdialect, fun piece hpiece => ?_, fun _ => hnone⟩
      rw [hnone] at hpiece
      cases hpiece
    · exact h.keep rfl rfl hback
  case h_2 => exact h.keep rfl rfl hback
  case h_3 => exact h.add rfl rfl rfl (hleave (by decide))
  case h_4 => exact h.add rfl trivial rfl (hleave (by decide))
  case h_5 => exact h.add rfl trivial rfl (hleave (by decide))
  case h_6 => exact h.add rfl trivial rfl (hleave (by decide))
  case h_7 => exact h.add rfl trivial rfl (hleave (by decide))
  case h_8 => exact h.add rfl (read_step hline) rfl (hleave (by decide))
  case h_9 cells =>
    have hcells := countCells_agrees progress line.start cells.length
    exact h.add (congrArg _ hcells.1) trivial (congrArg _ hcells.2.2) (hleave (by decide))
  case h_10 =>
    split
    · exact h.add rfl trivial rfl (hleave (by decide))
    · exact h.keep rfl rfl hback
  case h_11 => exact h.keep rfl rfl hback
  case h_12 => split <;> exact h.add rfl trivial rfl (hleave (by decide))
  case h_13 => exact h.keep rfl rfl hback

end SpeaksOne

private theorem kept_speaksOne : Kept SpeaksOne where
  agrees hagrees h := h.keep hagrees.1 (congrArg _ hagrees.2.2) hagrees.2.1.symm.trans
  move harc hline h := h.move harc hline
  finish h := h.keep rfl rfl nofun

end Progress

/-! ## What is assembled -/

/-- A step is opened by the word of a piece. -/
def Step.StemsFrom (pieces : List Piece) (step : Step) : Prop :=
  ∃ location type text, Piece.step location step.keyword type text ∈ pieces

theorem Step.StemsFrom.mono {pieces more : List Piece} {step : Step} (h : step.StemsFrom pieces)
    (hsubset : pieces ⊆ more) : step.StemsFrom more := by
  obtain ⟨location, type, text, hmem⟩ := h
  exact ⟨location, type, text, hsubset hmem⟩

namespace Piece

theorem sections_subset {α β : Type} (head? : α → Option β) (items : List α) :
    (sections head? items).1 ⊆ items ∧
      ∀ group ∈ (sections head? items).2, group.2 ⊆ items ∧
        ∃ item ∈ items, head? item = some group.1 := by
  induction items with
  | nil => simp [sections]
  | cons a rest ih =>
      obtain ⟨hlead, hgroups⟩ := ih
      have hlater : ∀ group ∈ (sections head? rest).2, group.2 ⊆ a :: rest ∧
          ∃ item ∈ a :: rest, head? item = some group.1 := by
        intro group hgroup
        obtain ⟨hbody, item, hitem, hhead⟩ := hgroups group hgroup
        exact ⟨List.subset_cons_of_subset a hbody, item, List.mem_cons_of_mem a hitem, hhead⟩
      rw [sections_cons]
      cases hhead : head? a with
      | none => exact ⟨List.cons_subset_cons a hlead, hlater⟩
      | some head =>
          refine ⟨List.nil_subset _, List.forall_mem_cons.mpr ⟨⟨?_, a, ?_, hhead⟩, hlater⟩⟩
          · exact List.subset_cons_of_subset a hlead
          · exact List.mem_cons_self

variable {body : List Piece} {step : Step}

private theorem stepsOf_stem
    (h : step ∈ stepsOf (sections step? body).2) : step.StemsFrom body := by
  obtain ⟨⟨⟨location, keyword, type, text⟩, lines⟩, hgroup, rfl⟩ := List.mem_map.mp h
  obtain ⟨_, piece, hpiece, hhead⟩ := (sections_subset step? body).2 _ hgroup
  cases piece <;> cases hhead
  exact ⟨_, _, _, hpiece⟩

private theorem backgroundOf_stem (title : Title) (h : step ∈ (backgroundOf title body).steps) :
    step.StemsFrom body := stepsOf_stem h

private theorem scenarioOf_stem (title : Title) (h : step ∈ (scenarioOf title body).steps) :
    step.StemsFrom body :=
  (stepsOf_stem h).mono (sections_subset examples? body).1

private theorem ruleChildOf_stem (isBackground : Bool) (title : Title)
    (h : step ∈ (ruleChildOf isBackground title body).steps) : step.StemsFrom body := by
  cases isBackground with
  | true => exact backgroundOf_stem title (by simpa [ruleChildOf, RuleChild.steps] using h)
  | false => exact scenarioOf_stem title (by simpa [ruleChildOf, RuleChild.steps] using h)

private theorem featureChildOf_stem (isBackground : Bool) (title : Title)
    (h : step ∈ (featureChildOf isBackground title body).steps) : step.StemsFrom body := by
  cases isBackground with
  | true => exact backgroundOf_stem title (by simpa [featureChildOf, FeatureChild.steps] using h)
  | false => exact scenarioOf_stem title (by simpa [featureChildOf, FeatureChild.steps] using h)

private theorem ruleOf_stem (title : Title) (h : step ∈ (ruleOf title body).steps) :
    step.StemsFrom body := by
  obtain ⟨child, hchild, hstep⟩ := List.mem_flatMap.mp h
  obtain ⟨⟨⟨isBackground, heading⟩, lines⟩, hgroup, rfl⟩ := List.mem_map.mp hchild
  exact (ruleChildOf_stem isBackground heading hstep).mono
    ((sections_subset unit? body).2 _ hgroup).1

private theorem featureOf_stem (language : String) (title : Title)
    (h : step ∈ (featureOf language title body).steps) : step.StemsFrom body := by
  obtain ⟨hfront, hrules⟩ := sections_subset rule? body
  obtain ⟨child, hchild, hstep⟩ := List.mem_flatMap.mp h
  rcases List.mem_append.mp hchild with hchild | hchild
  · obtain ⟨⟨⟨isBackground, heading⟩, lines⟩, hgroup, rfl⟩ := List.mem_map.mp hchild
    have hlines := ((sections_subset unit? (sections rule? body).1).2 _ hgroup).1
    exact (featureChildOf_stem isBackground heading hstep).mono (List.Subset.trans hlines hfront)
  · obtain ⟨⟨heading, lines⟩, hgroup, rfl⟩ := List.mem_map.mp hchild
    have hinner : step ∈ (ruleOf heading lines).steps := by
      simpa [FeatureChild.steps] using hstep
    exact (ruleOf_stem heading hinner).mono (hrules _ hgroup).1

end Piece

/-! ## Numbered steps -/

/-- The words that open steps. -/
def keywordsOf (steps : List Step) : List String := steps.map (·.keyword)

@[simp] private theorem keywordsOf_append (steps more : List Step) :
    keywordsOf (steps ++ more) = keywordsOf steps ++ keywordsOf more := List.map_append

@[simp] private theorem keywordsOf_flatMap {α : Type} (items : List α) (steps : α → List Step) :
    keywordsOf (items.flatMap steps) = items.flatMap fun item => keywordsOf (steps item) :=
  List.map_flatMap

@[simp] private theorem keywordsOf_number (steps : List Step) (n : Nat) :
    keywordsOf ((steps.mapM Step.number).run n).1 = keywordsOf steps := by
  unfold keywordsOf
  rw [List.map_eq_flatMap, List.map_eq_flatMap]
  exact flatMap_mapM_run Step.number (fun step => [step.keyword]) (fun _ _ => rfl) steps n

private theorem keywordsOf_background (background? : Option Background) (n : Nat) :
    keywordsOf (((numberOption Background.number background?).run n).1.toList.flatMap (·.steps)) =
      keywordsOf (background?.toList.flatMap (·.steps)) := by
  rw [keywordsOf_flatMap, keywordsOf_flatMap]
  exact flatMap_numberOption_run Background.number (fun background => keywordsOf background.steps)
    (fun background n => keywordsOf_number background.steps n) background? n

private theorem keywordsOf_scenario (scenario? : Option Scenario) (n : Nat) :
    keywordsOf (((numberOption Scenario.number scenario?).run n).1.toList.flatMap (·.steps)) =
      keywordsOf (scenario?.toList.flatMap (·.steps)) := by
  rw [keywordsOf_flatMap, keywordsOf_flatMap]
  exact flatMap_numberOption_run Scenario.number (fun scenario => keywordsOf scenario.steps)
    (fun scenario n => keywordsOf_number scenario.steps n) scenario? n

private theorem RuleChild.keywordsOf_number (child : RuleChild) (n : Nat) :
    keywordsOf (child.number.run n).1.steps = keywordsOf child.steps := by
  unfold RuleChild.steps
  rw [keywordsOf_append, keywordsOf_append]
  exact congrArg₂ _ (keywordsOf_background child.background n)
    (keywordsOf_scenario child.scenario _)

private theorem Rule.keywordsOf_number (rule : Rule) (n : Nat) :
    keywordsOf (rule.number.run n).1.steps = keywordsOf rule.steps := by
  unfold Rule.steps
  rw [keywordsOf_flatMap, keywordsOf_flatMap]
  exact flatMap_mapM_run RuleChild.number (fun child => keywordsOf child.steps)
    RuleChild.keywordsOf_number rule.children n

private theorem FeatureChild.keywordsOf_number (child : FeatureChild) (n : Nat) :
    keywordsOf (child.number.run n).1.steps = keywordsOf child.steps := by
  unfold FeatureChild.steps
  rw [keywordsOf_append, keywordsOf_append, keywordsOf_append, keywordsOf_append,
    keywordsOf_flatMap _ Rule.steps, keywordsOf_flatMap _ Rule.steps]
  have hrule := flatMap_numberOption_run Rule.number (fun rule => keywordsOf rule.steps)
    Rule.keywordsOf_number child.rule
  exact congrArg₂ _ (congrArg₂ _ (keywordsOf_background child.background n)
    (keywordsOf_scenario child.scenario _)) (hrule _)

private theorem Feature.keywordsOf_numbered (feature : Feature) :
    keywordsOf feature.numbered.steps = keywordsOf feature.steps := by
  unfold Feature.steps
  rw [keywordsOf_flatMap, keywordsOf_flatMap]
  exact flatMap_mapM_run FeatureChild.number (fun child => keywordsOf child.steps)
    FeatureChild.keywordsOf_number feature.children 0

/-! ## Parsed features -/

/-- The language of a parsed feature is the one of a dialect, and its steps are opened by step words
of this dialect. -/
theorem language_of_parse {text : String} {document : Document} {feature : Feature}
    (h : parse text = .ok document) (hfeature : document.feature = some feature) :
    ∃ dialect, Dialect.find? feature.language = some dialect ∧
      ∀ step ∈ feature.steps, step.keyword ∈ dialect.stepWords := by
  obtain ⟨final, hfinal, hassembled⟩ := Progress.kept_speaksOne.of_parse
    (fun dialect hdialect => ⟨Dialect.find?_name hdialect, nofun, fun _ => rfl⟩) h
  rw [hassembled] at hfeature
  obtain ⟨assembled, hassembled, rfl⟩ := Option.map_eq_some_iff.mp hfeature
  unfold Piece.assemble at hassembled
  split at hassembled
  · rename_i language title body hpieces
    cases hassembled
    have hread : ∀ piece ∈ .feature language title :: body,
        piece.Speaks final.mode.dialect := by
      intro piece hpiece
      rw [← hpieces] at hpiece
      exact hfinal.pieces piece (List.mem_reverse.mp hpiece)
    obtain ⟨hlanguage, hbody⟩ := List.forall_mem_cons.mp hread
    refine ⟨final.mode.dialect, ?_, fun step hstep => ?_⟩
    · have hsame : language = final.mode.dialect.name := hlanguage
      exact hsame ▸ hfinal.known
    · have hkeyword : step.keyword ∈ keywordsOf (Piece.featureOf language title body).steps :=
        Feature.keywordsOf_numbered _ ▸ List.mem_map_of_mem hstep
      obtain ⟨original, horiginal, hsame⟩ := List.mem_map.mp hkeyword
      obtain ⟨location, type, text, hmem⟩ := Piece.featureOf_stem language title horiginal
      exact hsame ▸ hbody _ hmem
  · cases hassembled

end FeatureSuite.Gherkin

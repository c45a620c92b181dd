import FeatureSuite.Proofs.Suite.SnippetText

/-!
# One snippet for each role and template

The text of a snippet tells its role and its template: the first quote that is not escaped ends the
literal of the template, and a template tells the fields of its step. So steps have one snippet
exactly if they have one role and one template, and what is listed for steps are their snippets
without repetitions, in the order of the steps.
-/

namespace FeatureSuite

namespace Snippet

/-! ## Templates tell their fields -/

/-- A piece without the text that a field stands for. -/
def Piece.erase : Piece → Piece
  | char c => char c
  | quoted _ => quoted []
  | number _ => number []

@[simp] private theorem isField_erase (piece : Piece) : piece.erase.isField = piece.isField := by
  cases piece <;> rfl

private theorem template_ne_field (pieces : List Piece) (rest : List Char) :
    pieces.flatMap Piece.template ≠ '\x7b' :: '\x7d' :: rest := by
  intro h
  cases pieces with
  | nil => cases h
  | cons piece pieces =>
      rw [List.flatMap_cons] at h
      cases piece with
      | char c =>
          rw [template_char] at h
          split at h
          · simp at h
          · split at h <;> simp_all
      | quoted _ => simp [Piece.template] at h
      | number _ => simp [Piece.template] at h

private theorem template_char_append_ne {c : Char} {ps : List Piece} {field : Piece}
    (hfield : field.isField = true) (rest : List Char) :
    (Piece.char c).template ++ ps.flatMap Piece.template ≠ field.template ++ rest := by
  intro h
  rw [template_char] at h
  cases field with
  | char d => cases hfield
  | quoted _ =>
      split at h
      · simp [Piece.template] at h
      · split at h
        · simp [Piece.template] at h
        · simp only [Piece.template, List.cons_append, List.nil_append, List.cons.injEq] at h
          exact template_ne_field ps _ h.2
  | number _ =>
      split at h
      · simp [Piece.template] at h
      · split at h <;> simp_all [Piece.template]

private theorem head?_template_char (c : Char) (rest : List Char) :
    ((Piece.char c).template ++ rest).head? = some c := by
  rw [template_char]
  split
  · simp_all
  · split <;> simp_all

private theorem template_append_inj {p q : Piece} {ps qs : List Piece}
    (h : p.template ++ ps.flatMap Piece.template = q.template ++ qs.flatMap Piece.template) :
    p.erase = q.erase ∧ ps.flatMap Piece.template = qs.flatMap Piece.template := by
  cases p with
  | char c =>
      cases q with
      | char d =>
          have hhead := congrArg List.head? h
          rw [head?_template_char, head?_template_char] at hhead
          obtain rfl : c = d := Option.some.inj hhead
          exact ⟨rfl, List.append_cancel_left h⟩
      | quoted _ => exact absurd h (template_char_append_ne rfl _)
      | number _ => exact absurd h (template_char_append_ne rfl _)
  | quoted _ =>
      cases q with
      | char d => exact absurd h.symm (template_char_append_ne rfl _)
      | quoted _ => exact ⟨rfl, List.append_cancel_left h⟩
      | number _ => simp [Piece.template] at h
  | number _ =>
      cases q with
      | char d => exact absurd h.symm (template_char_append_ne rfl _)
      | quoted _ => simp [Piece.template] at h
      | number _ => exact ⟨rfl, List.append_cancel_left h⟩

private theorem template_ne_nil (piece : Piece) : piece.template ≠ [] := by
  cases piece with
  | char c =>
      rw [template_char]
      split
      · exact List.cons_ne_nil _ _
      · split <;> exact List.cons_ne_nil _ _
  | quoted _ => exact List.cons_ne_nil _ _
  | number _ => exact List.cons_ne_nil _ _

private theorem erase_eq_of_template_eq {ps qs : List Piece}
    (h : ps.flatMap Piece.template = qs.flatMap Piece.template) :
    ps.map Piece.erase = qs.map Piece.erase := by
  induction ps generalizing qs with
  | nil =>
      cases qs with
      | nil => rfl
      | cons q qs => simp [template_ne_nil] at h
  | cons p ps ih =>
      cases qs with
      | nil => simp [template_ne_nil] at h
      | cons q qs =>
          obtain ⟨hfirst, hrest⟩ := template_append_inj h
          rw [List.map_cons, List.map_cons, hfirst, ih hrest]

/-- A template tells how many fields it has. -/
theorem fields_eq_of_pattern_eq {a b : String} (h : (pattern a).1 = (pattern b).1) :
    (pattern a).2 = (pattern b).2 := by
  rw [← String.toList_inj, toList_pattern, toList_pattern] at h
  have hcount (pieces : List Piece) :
      pieces.countP Piece.isField = (pieces.map Piece.erase).countP Piece.isField := by
    rw [List.countP_map]
    exact List.countP_congr fun piece _ => by rw [Function.comp_apply, isField_erase]
  change (pieces a).countP Piece.isField = (pieces b).countP Piece.isField
  rw [hcount (pieces a), hcount (pieces b), erase_eq_of_template_eq h]

/-! ## Snippets tell their role and their template -/

private theorem literalChar_append_inj {a b : Char} {x y : List Char}
    (h : literalChar a ++ x = literalChar b ++ y) : a = b ∧ x = y := by
  unfold literalChar at h
  grind

/-- The first quote that is not escaped ends a literal, whatever follows. -/
theorem quoted_append_inj {a b : String} {x y : List Char} (h : quoted a ++ x = quoted b ++ y) :
    a = b := by
  have hinj (as bs : List Char)
      (h : as.flatMap literalChar ++ '\'' :: x = bs.flatMap literalChar ++ '\'' :: y) : as = bs := by
    induction as generalizing bs with
    | nil =>
        cases bs with
        | nil => rfl
        | cons b bs =>
            rw [List.flatMap_cons, List.append_assoc] at h
            exact absurd (congrArg List.head? h).symm (head?_literalChar b _)
    | cons a as ih =>
        cases bs with
        | nil =>
            rw [List.flatMap_cons, List.append_assoc] at h
            exact absurd (congrArg List.head? h) (head?_literalChar a _)
        | cons b bs =>
            rw [List.flatMap_cons, List.flatMap_cons, List.append_assoc, List.append_assoc] at h
            obtain ⟨hfirst, hrest⟩ := literalChar_append_inj h
            rw [hfirst, ih bs hrest]
  have hlist : a.toList.flatMap literalChar ++ '\'' :: x =
      b.toList.flatMap literalChar ++ '\'' :: y := by
    simpa [quoted, toList_literal] using h
  exact String.toList_inj.mp (hinj a.toList b.toList hlist)

private theorem decorator_append_inj {r s : Role} {x y : List Char}
    (h : r.decorator.toList ++ '(' :: x = s.decorator.toList ++ '(' :: y) : r = s ∧ x = y := by
  cases r <;> cases s <;> simp_all [Role.decorator]

private theorem build_eq_build_iff {r s : Role} {a b : String} :
    build r a = build s b ↔ r = s ∧ (pattern a).1 = (pattern b).1 := by
  constructor
  · intro h
    rw [← String.toList_inj, toList_build, toList_build] at h
    have hopening : r.decorator.toList ++ '(' :: (quoted (pattern a).1 ++ behindDecorator r a) =
        s.decorator.toList ++ '(' :: (quoted (pattern b).1 ++ behindDecorator s b) := by
      simpa using h
    obtain ⟨hrole, hrest⟩ := decorator_append_inj hopening
    exact ⟨hrole, quoted_append_inj hrest⟩
  · rintro ⟨rfl, h⟩
    rw [build_eq, build_eq, parameters, parameters, h, fields_eq_of_pattern_eq h]

/-! ## Snippets for steps -/

/-- The role and the template of a step. -/
def key (step : Role × String) : Role × String := (step.1, (pattern step.2).1)

private theorem mem_keys_iff {role : Role} {text : String} {front : List (Role × String)} :
    (role, (pattern text).1) ∈ front.map key ↔
      build role text ∈ front.map fun step => build step.1 step.2 := by
  simp only [List.mem_map, key, Prod.mk.injEq, build_eq_build_iff]

private theorem buildFrom_eq (front steps : List (Role × String)) :
    buildFrom (front.map key) steps =
      (distinct (steps.map fun step => build step.1 step.2)).filter
        (· ∉ front.map fun step => build step.1 step.2) := by
  induction steps generalizing front with
  | nil => rfl
  | cons step rest ih =>
      obtain ⟨role, text⟩ := step
      rw [List.map_cons, distinct, buildFrom]
      dsimp only
      by_cases hmem : build role text ∈ front.map fun step => build step.1 step.2
      · have hkey : (front.map key).contains (role, (pattern text).1) = true :=
          List.contains_iff_mem.mpr (mem_keys_iff.mpr hmem)
        rw [if_pos hkey, ih, List.filter_cons_of_neg (by simpa using hmem), List.filter_filter]
        refine List.filter_congr fun snippet _ => ?_
        by_cases hsame : snippet = build role text
        · simpa [hsame] using hmem
        · simp [hsame]
      · have hkey : ¬ (front.map key).contains (role, (pattern text).1) = true := fun hkey =>
          hmem (mem_keys_iff.mp (List.contains_iff_mem.mp hkey))
        have hfront := ih ((role, text) :: front)
        rw [List.map_cons, key] at hfront
        rw [if_neg hkey, hfront, List.filter_cons_of_pos (by simpa using hmem), List.filter_filter]
        congr 1
        refine List.filter_congr fun snippet _ => ?_
        rw [List.map_cons]
        by_cases hsame : snippet = build role text <;> simp [hsame]

private theorem buildAll_eq (steps : List (Role × String)) :
    buildAll steps = distinct (steps.map fun step => build step.1 step.2) := by
  rw [buildAll]
  simpa using buildFrom_eq [] steps

end Snippet

namespace UndefinedStep

/-- The snippet for a step. -/
def snippet (step : UndefinedStep) : String := Snippet.build step.role step.text

/-- The snippets for steps. -/
def snippets (steps : List UndefinedStep) : List String :=
  Snippet.buildAll (steps.map fun step => (step.role, step.text))

private theorem snippets_eq (steps : List UndefinedStep) :
    snippets steps = distinct (steps.map snippet) := by
  rw [snippets, Snippet.buildAll_eq, List.map_map]
  rfl

/-- The listed snippets are those of the steps, none of them twice, in the order of the first step
of each; and two steps have one snippet exactly if they have one role and one template. -/
theorem snippets_of_steps (steps : List UndefinedStep) :
    (snippets steps).Nodup ∧
      (∀ snippet, snippet ∈ snippets steps ↔ ∃ step ∈ steps, step.snippet = snippet) ∧
      (∀ first second : UndefinedStep, first.snippet = second.snippet ↔
        first.role = second.role ∧
          (Snippet.pattern first.text).1 = (Snippet.pattern second.text).1) ∧
      (snippets steps).Pairwise fun first second =>
        (steps.map snippet).idxOf first < (steps.map snippet).idxOf second := by
  rw [snippets_eq]
  refine ⟨nodup_distinct _, fun snippet => ?_, fun _ _ => Snippet.build_eq_build_iff,
    pairwise_idxOf_distinct _⟩
  rw [mem_distinct, List.mem_map]

end UndefinedStep

namespace FeatureFile

theorem snippets_eq (file : FeatureFile) : file.snippets = UndefinedStep.snippets file.undefined :=
  rfl

end FeatureFile

end FeatureSuite

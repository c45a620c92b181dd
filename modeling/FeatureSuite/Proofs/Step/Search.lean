import FeatureSuite.Proofs.Aligned
import FeatureSuite.Proofs.Step.Captures
import FeatureSuite.Proofs.Step.Scoping

/-!
# The search for a handler

The handler of a step is the first one that may run it and whose pattern captures its text. The
search asks one handler after the other, so it does not get there if the text of the step stands for
no value of an earlier handler that may run it.
-/

namespace FeatureSuite

namespace Binding

/-- Whether the handler may run steps of a role in tests with some tags. -/
def isEligible (binding : Binding) (role : Option Role) (tags : List String) : Bool :=
  binding.acceptsRole role && binding.acceptsTags tags

/-- What the pattern captures from a whole text; absent if it does not match, or if a captured text
stands for no value. -/
def captures? (binding : Binding) (text : String) : Option Template.Captured :=
  (binding.match? text).toOption.join

variable {binding : Binding} {text : String} {role : Option Role} {tags : List String}

/-- The handler does not run a step. -/
def Declines (binding : Binding) (text : String) (role : Option Role) (tags : List String) : Prop :=
  binding.isEligible role tags = true → binding.captures? text = none

instance : Decidable (binding.Declines text role tags) :=
  inferInstanceAs (Decidable (_ → _ = none))

/-- The handler may run a step, but the step's text cannot be converted. -/
def Breaks (binding : Binding) (text : String) (role : Option Role) (tags : List String)
    (fault : ConversionFault) : Prop :=
  binding.isEligible role tags = true ∧ binding.match? text = .error fault

private theorem captures?_eq_some {captured : Template.Captured} :
    binding.captures? text = some captured ↔ binding.match? text = .ok (some captured) := by
  unfold captures?
  cases binding.match? text with
  | error fault => simp [Except.toOption]
  | ok result => simp [Except.toOption]

private theorem match?_of_declines (h : binding.Declines text role tags)
    (heligible : binding.isEligible role tags = true)
    (hbreaks : ∀ fault, ¬binding.Breaks text role tags fault) : binding.match? text = .ok none := by
  have hnone := h heligible
  cases hmatch : binding.match? text with
  | error fault => exact absurd ⟨heligible, hmatch⟩ (hbreaks fault)
  | ok result =>
      cases result with
      | none => rfl
      | some captured => exact nomatch hnone.symm.trans (captures?_eq_some.mpr hmatch)

end Binding

namespace Registry

variable {text : String} {role : Option Role} {tags : List String}

/-- The handlers in front of the one found, or all of them if none is found. -/
def before (registry : Registry) (answer : Option StepMatch) : List Binding :=
  match answer with
  | some found => registry.bindings.take found.index
  | none => registry.bindings

/-- The first handler that runs a step, with what its pattern captures, or that there is none. -/
structure IsAnswer (registry : Registry) (text : String) (role : Option Role) (tags : List String)
    (answer : Option StepMatch) : Prop where
  declines : ∀ binding ∈ registry.before answer, binding.Declines text role tags
  runs : ∀ found, answer = some found → registry.bindings[found.index]? = some found.binding ∧
    found.binding.isEligible role tags = true ∧
      found.binding.captures? text = some found.captured

/-! ## The answer -/

private theorem exists_answer (registry : Registry) (text : String) (role : Option Role)
    (tags : List String) : ∃ answer, registry.IsAnswer text role tags answer := by
  let runs (binding : Binding) : Bool :=
    binding.isEligible role tags && (binding.captures? text).isSome
  have hdeclines {binding : Binding} (h : runs binding = false) :
      binding.Declines text role tags := by
    intro heligible
    simpa [runs, heligible] using h
  cases hfound : registry.bindings.find? runs with
  | none =>
      refine ⟨none, fun binding hbinding => hdeclines ?_, fun _ h => nomatch h⟩
      simpa using List.find?_eq_none.mp hfound binding hbinding
  | some binding =>
      obtain ⟨hruns, front, back, hbindings, hfront⟩ := List.find?_eq_some_iff_append.mp hfound
      obtain ⟨heligible, hsome⟩ := Bool.and_eq_true_iff.mp hruns
      obtain ⟨captured, hcaptured⟩ := Option.isSome_iff_exists.mp hsome
      refine ⟨some ⟨front.length, binding, captured⟩, fun other hother => hdeclines ?_, ?_⟩
      · rw [before, hbindings, List.take_left] at hother
        simpa using hfront other hother
      · rintro _ ⟨⟩
        refine ⟨?_, heligible, hcaptured⟩
        rw [hbindings]
        simp

private theorem exists_answer_at {registry : Registry} {index : Nat}
    (heligible : ∀ binding ∈ registry.bindings, binding.isEligible role tags = true)
    (hdeclines : ∀ binding ∈ registry.bindings.take index, binding.Declines text role tags)
    (hruns : (registry.bindings[index]?.bind (·.captures? text)).isSome = true) :
    ∃ found, found.index = index ∧ registry.IsAnswer text role tags (some found) := by
  obtain ⟨captured, hruns⟩ := Option.isSome_iff_exists.mp hruns
  obtain ⟨binding, hbinding, hcaptured⟩ := Option.bind_eq_some_iff.mp hruns
  refine ⟨⟨index, binding, captured⟩, rfl, hdeclines, ?_⟩
  rintro _ ⟨⟩
  exact ⟨hbinding, heligible binding (List.mem_of_getElem? hbinding), hcaptured⟩

namespace IsAnswer

variable {registry : Registry} {answer other : Option StepMatch} {found : StepMatch}

private theorem not_mem_before (hfound : registry.IsAnswer text role tags (some found))
    (hother : registry.IsAnswer text role tags other) :
    found.binding ∉ registry.before other := by
  intro hmem
  obtain ⟨_, heligible, hcaptured⟩ := hfound.runs found rfl
  exact nomatch (hother.declines _ hmem heligible).symm.trans hcaptured

private theorem ne_none (hfound : registry.IsAnswer text role tags (some found)) :
    ¬registry.IsAnswer text role tags none := fun hnone =>
  hfound.not_mem_before hnone (List.mem_of_getElem? (hfound.runs found rfl).1)

private theorem index_le {later : StepMatch}
    (hfound : registry.IsAnswer text role tags (some found))
    (hlater : registry.IsAnswer text role tags (some later)) : later.index ≤ found.index := by
  by_contra hlt
  refine hfound.not_mem_before hlater (List.mem_iff_getElem?.mpr ⟨found.index, ?_⟩)
  rw [before, List.getElem?_take_of_lt (by omega)]
  exact (hfound.runs found rfl).1

/-- No two answers fit. -/
theorem unique (hanswer : registry.IsAnswer text role tags answer)
    (hother : registry.IsAnswer text role tags other) : answer = other := by
  cases answer with
  | none =>
      cases other with
      | none => rfl
      | some found => exact absurd hanswer hother.ne_none
  | some found =>
      cases other with
      | none => exact absurd hother hanswer.ne_none
      | some later =>
          obtain ⟨hbinding, _, hcaptured⟩ := hanswer.runs found rfl
          obtain ⟨hbinding', _, hcaptured'⟩ := hother.runs later rfl
          have hindex : found.index = later.index :=
            Nat.le_antisymm (hother.index_le hanswer) (hanswer.index_le hother)
          rw [hindex] at hbinding
          have hsame : found.binding = later.binding :=
            Option.some.inj (hbinding.symm.trans hbinding')
          rw [hsame] at hcaptured
          have hvalues : found.captured = later.captured :=
            Option.some.inj (hcaptured.symm.trans hcaptured')
          obtain ⟨index, binding, captured⟩ := found
          obtain ⟨index', binding', captured'⟩ := later
          subst hindex hsame hvalues
          rfl

end IsAnswer

/-! ## The way to the answer -/

private theorem findIn_append_of_passes {front back : List (Binding × Nat)}
    (h : ∀ entry ∈ front, entry.1.isEligible role tags = true → entry.1.match? text = .ok none) :
    findIn text role tags (front ++ back) = findIn text role tags back := by
  induction front with
  | nil => rfl
  | cons entry front ih =>
      obtain ⟨binding, index⟩ := entry
      have hrest := ih fun entry hentry => h entry (List.mem_cons_of_mem _ hentry)
      rw [List.cons_append, findIn]
      split
      · rename_i heligible
        rw [h _ List.mem_cons_self heligible]
        exact hrest
      · exact hrest

private theorem findIn_cons {binding : Binding} {index : Nat} {back : List (Binding × Nat)}
    (heligible : binding.isEligible role tags = true) :
    findIn text role tags ((binding, index) :: back) = (do
      match ← binding.match? text with
      | some captured => return some { index, binding, captured }
      | none => findIn text role tags back) := by
  rw [findIn]
  exact if_pos heligible

private theorem find_of_bindings {registry : Registry} {front back : List Binding}
    {binding : Binding} (hbindings : registry.bindings = front ++ binding :: back)
    (hpasses : ∀ earlier ∈ front, earlier.isEligible role tags = true →
      earlier.match? text = .ok none)
    (heligible : binding.isEligible role tags = true) :
    registry.find text role tags = (do
      match ← binding.match? text with
      | some captured => return some { index := front.length, binding, captured }
      | none => findIn text role tags (back.zipIdx (front.length + 1))) := by
  unfold find
  rw [hbindings, List.zipIdx_append, List.zipIdx_cons, findIn_append_of_passes,
    findIn_cons heligible]
  · simp
  · intro entry hentry
    exact hpasses _ (List.fst_mem_of_mem_zipIdx hentry)

private theorem exists_append_before (registry : Registry) (answer : Option StepMatch) :
    ∃ back, registry.bindings = registry.before answer ++ back := by
  cases answer with
  | none => exact ⟨[], (List.append_nil _).symm⟩
  | some found => exact ⟨_, (List.take_append_drop found.index registry.bindings).symm⟩

/-- The first handler at which the search ends in a fault. -/
def FirstBreaks (bindings : List Binding) (text : String) (role : Option Role)
    (tags : List String) (fault : ConversionFault) : Prop :=
  ∃ front binding back, bindings = front ++ binding :: back ∧
    (∀ earlier ∈ front, ∀ fault, ¬earlier.Breaks text role tags fault) ∧
      binding.Breaks text role tags fault

theorem exists_firstBreaks {bindings : List Binding} {binding : Binding} {fault : ConversionFault}
    (hbinding : binding ∈ bindings) (hbreaks : binding.Breaks text role tags fault) :
    ∃ fault, FirstBreaks bindings text role tags fault := by
  induction bindings with
  | nil => exact nomatch hbinding
  | cons first bindings ih =>
      by_cases hfirst : ∃ fault, first.Breaks text role tags fault
      · obtain ⟨fault, hfirst⟩ := hfirst
        exact ⟨fault, [], first, bindings, rfl, fun _ h => absurd h List.not_mem_nil, hfirst⟩
      · have hlater : binding ∈ bindings :=
          (List.mem_cons.mp hbinding).resolve_left fun h => hfirst ⟨fault, h ▸ hbreaks⟩
        obtain ⟨fault, front, other, back, rfl, hfront, hother⟩ := ih hlater
        refine ⟨fault, first :: front, other, back, rfl, fun earlier hearlier fault h => ?_, hother⟩
        rcases List.mem_cons.mp hearlier with rfl | hearlier
        · exact hfirst ⟨fault, h⟩
        · exact hfront earlier hearlier fault h

namespace IsAnswer

variable {registry : Registry} {answer : Option StepMatch} {fault : ConversionFault}

private theorem find_eq_error (hanswer : registry.IsAnswer text role tags answer)
    (h : FirstBreaks (registry.before answer) text role tags fault) :
    registry.find text role tags = .error fault := by
  obtain ⟨front, binding, back, hbefore, hfront, heligible, hfault⟩ := h
  obtain ⟨rest, hbindings⟩ := registry.exists_append_before answer
  rw [hbefore, List.append_assoc, List.cons_append] at hbindings
  have hpasses : ∀ earlier ∈ front, earlier.isEligible role tags = true →
      earlier.match? text = .ok none := by
    intro earlier hearlier hmay
    have hdeclines : earlier.Declines text role tags :=
      hanswer.declines earlier (hbefore ▸ List.mem_append_left _ hearlier)
    exact Binding.match?_of_declines hdeclines hmay (hfront earlier hearlier)
  rw [find_of_bindings hbindings hpasses heligible, hfault]
  rfl

private theorem find_eq_ok (hanswer : registry.IsAnswer text role tags answer)
    (h : ∀ binding ∈ registry.before answer, ∀ fault, ¬binding.Breaks text role tags fault) :
    registry.find text role tags = .ok answer := by
  have hpasses : ∀ earlier ∈ registry.before answer, earlier.isEligible role tags = true →
      earlier.match? text = .ok none := fun earlier hearlier heligible =>
    Binding.match?_of_declines (hanswer.declines earlier hearlier) heligible (h earlier hearlier)
  cases answer with
  | none =>
      have hall : findIn text role tags (registry.bindings.zipIdx ++ []) = .ok none :=
        findIn_append_of_passes fun entry hentry =>
          hpasses _ (List.fst_mem_of_mem_zipIdx hentry)
      rw [List.append_nil] at hall
      exact hall
  | some found =>
      obtain ⟨hbinding, heligible, hcaptured⟩ := hanswer.runs found rfl
      obtain ⟨hlt, hget⟩ := List.getElem?_eq_some_iff.mp hbinding
      have hbindings : registry.bindings = registry.bindings.take found.index ++
          found.binding :: registry.bindings.drop (found.index + 1) := by
        rw [← hget, ← List.drop_eq_getElem_cons hlt, List.take_append_drop]
      rw [find_of_bindings hbindings hpasses heligible, Binding.captures?_eq_some.mp hcaptured]
      change Except.ok (some _) = _
      rw [List.length_take, Nat.min_eq_left (Nat.le_of_lt hlt)]

private theorem find_eq_ok_iff (hanswer : registry.IsAnswer text role tags answer) :
    registry.find text role tags = .ok answer ↔
      ∀ binding ∈ registry.before answer, ∀ fault, ¬binding.Breaks text role tags fault := by
  refine ⟨fun hfind binding hbinding fault hbreaks => ?_, hanswer.find_eq_ok⟩
  obtain ⟨first, hfirst⟩ := exists_firstBreaks hbinding hbreaks
  exact nomatch hfind.symm.trans (hanswer.find_eq_error hfirst)

private theorem find_eq_error_iff (hanswer : registry.IsAnswer text role tags answer) :
    registry.find text role tags = .error fault ↔
      FirstBreaks (registry.before answer) text role tags fault := by
  refine ⟨fun hfind => ?_, hanswer.find_eq_error⟩
  by_cases hbreaks : ∃ binding ∈ registry.before answer, ∃ fault,
      binding.Breaks text role tags fault
  · obtain ⟨binding, hbinding, _, hbreaks⟩ := hbreaks
    obtain ⟨first, hfirst⟩ := exists_firstBreaks hbinding hbreaks
    have hsame : first = fault :=
      Except.error.inj ((hanswer.find_eq_error hfirst).symm.trans hfind)
    exact hsame ▸ hfirst
  · have hok : registry.find text role tags = .ok answer :=
      hanswer.find_eq_ok fun binding hbinding fault h => hbreaks ⟨binding, hbinding, fault, h⟩
    exact nomatch hok.symm.trans hfind

end IsAnswer

end Registry

/-! ## Types that projects add -/

namespace Store

variable {store : Store} {scope : Scope}

private theorem types_of_addMarks (tags : Option String) (page : Nat)
    (marks : List (PageMark × Handler)) :
    ∀ binding ∈ (store.addMarks scope tags page marks).1.bindings,
      binding ∈ store.bindings ∨ binding.types = scope.types := by
  induction marks generalizing store with
  | nil => exact fun _ h => .inl h
  | cons mark marks ih =>
      rw [addMarks]
      split
      · rename_i next hnext
        obtain ⟨_, _, _, _, _, rfl⟩ := add_eq_ok_iff.mp hnext
        intro binding hbinding
        rcases ih binding hbinding with hbinding | htypes
        · rcases List.mem_append.mp hbinding with hbinding | hbinding
          · exact .inl hbinding
          · exact .inr (List.mem_singleton.mp hbinding ▸ rfl)
        · exact .inr htypes
      · exact fun _ h => .inl h

private theorem types_of_addPage (cls : PageClass) (fixture : String) (tags : Option String) :
    ∀ binding ∈ (store.addPage scope cls fixture tags).1.bindings,
      binding ∈ store.bindings ∨ binding.types = scope.types := by
  unfold addPage
  split
  · exact fun _ h => .inl h
  · exact types_of_addMarks tags _ _

end Store

namespace Session

variable {session : Session} {allowed : String × Template.CustomType → Prop}

/-- All types that scopes give and handlers are registered with are allowed. -/
structure Draws (session : Session) (allowed : String × Template.CustomType → Prop) : Prop where
  scopes : ∀ entry ∈ session.scopes, ∀ type ∈ entry.2.types, allowed type
  bindings : ∀ binding ∈ session.store.bindings, ∀ type ∈ binding.types, allowed type

private theorem Draws.of_scope {name : String} {scope : Scope} (h : session.Draws allowed)
    (hscope : session.scope name = .ok scope) : ∀ type ∈ scope.types, allowed type := by
  unfold Session.scope at hscope
  split at hscope
  · rename_i found hfound
    cases hscope
    exact h.scopes _ (List.mem_of_find?_eq_some hfound)
  · cases hscope

private theorem Draws.build (h : session.Draws allowed) :
    ∀ binding ∈ session.store.build.1.bindings, ∀ type ∈ binding.types, allowed type :=
  h.bindings

private theorem Draws.registerPage {scope : Scope} (h : session.Draws allowed)
    (hscope : ∀ type ∈ scope.types, allowed type) (cls : PageClass) (fixture : String)
    (tags : Option String) : (session.registerPage scope cls fixture tags).1.Draws allowed where
  scopes := h.scopes
  bindings binding hbinding := by
    rcases Store.types_of_addPage cls fixture tags binding hbinding with hbinding | htypes
    · exact h.bindings binding hbinding
    · exact htypes ▸ hscope

private theorem Ran.draws {operation : Operation} {after : Session} {fault : Option ScriptFault}
    (hran : session.Ran operation after fault) (h : session.Draws allowed)
    (hopened : ∀ outer name own, operation = .openScope outer name own →
      ∀ type ∈ own.types, allowed type) : after.Draws allowed := by
  cases hran with
  | refused => exact h
  | added hscope _ hadd =>
      obtain ⟨_, _, _, _, _, rfl⟩ := Store.add_eq_ok_iff.mp hadd
      refine ⟨h.scopes, fun binding hbinding => ?_⟩
      rcases List.mem_append.mp hbinding with hbinding | hbinding
      · exact h.bindings binding hbinding
      · exact List.mem_singleton.mp hbinding ▸ h.of_scope hscope
  | @opened outer name own scope hscope =>
      refine ⟨List.forall_mem_cons.mpr ⟨fun type htype => ?_, h.scopes⟩, h.bindings⟩
      rcases List.mem_append.mp htype with htype | htype
      · exact h.of_scope hscope type (List.mem_of_mem_filter htype)
      · exact hopened outer name own rfl type htype
  | defined _ => exact ⟨h.scopes, h.bindings⟩
  | stranded _ _ => exact ⟨h.scopes, h.bindings⟩
  | definedPage _ hscope hresult =>
      have hdefined (classes : List (String × PageClass)) :
          Draws { session with classes } allowed := ⟨h.scopes, h.bindings⟩
      rw [hresult]
      exact (hdefined _).registerPage (h.of_scope hscope) _ _ _
  | registeredPage _ hscope hresult => exact hresult ▸ h.registerPage (h.of_scope hscope) _ _ _
  | built => exact ⟨h.scopes, h.bindings⟩

/-- The types of handlers are those of the defaults and of the scopes that are opened. -/
theorem draws_runEach {operations : List Operation} (h : session.Draws allowed)
    (hopened : ∀ outer name own, .openScope outer name own ∈ operations →
      ∀ type ∈ own.types, allowed type) : (session.runEach operations).Draws allowed := by
  induction operations generalizing session with
  | nil => exact h
  | cons operation operations ih =>
      have hfirst : (session.run operation).1.Draws allowed :=
        (session.ran_run operation).draws h fun outer name own heq =>
          hopened outer name own (heq ▸ List.mem_cons_self)
      exact ih hfirst fun outer name own hmem =>
        hopened outer name own (List.mem_cons_of_mem _ hmem)

end Session

/-! ## Faults on the way -/

/-- The template of the handler matches a text that stands for no value. -/
def Binding.Misreads (binding : Binding) (text : String) (fault : ConversionFault) : Prop :=
  ∃ template found, binding.matcher = .template template ∧ template.found? text = some found ∧
    (fault.isAboutTemplate = true ∨ template.IsUnconvertible text found fault)

private theorem Binding.misreads_of_match? {binding : Binding} {text : String}
    {fault : ConversionFault}
    (hmatcher : binding.pattern.matcher binding.types = .ok binding.matcher)
    (htotal : ∀ entry ∈ binding.types, entry.2.converter.Total)
    (h : binding.match? text = .error fault) : binding.Misreads text fault := by
  unfold match? at h
  cases hcompiled : binding.matcher with
  | regex compiled =>
      rw [hcompiled] at h
      cases h
  | template template =>
      rw [hcompiled] at h hmatcher
      have hcompile : ∃ text, Template.compile text binding.types = .ok template := by
        unfold StepPattern.matcher at hmatcher
        split at hmatcher
        · split at hmatcher
          · cases hmatcher
          · rename_i hcompile
            split at hmatcher <;> cases hmatcher
            exact ⟨_, hcompile⟩
        · cases hmatcher
      obtain ⟨_, hcompile⟩ := hcompile
      have hconverters : ∀ converter, .custom converter ∈ template.fields.conversions →
          converter.Total := by
        intro converter hconverter
        obtain ⟨entry, hentry, rfl⟩ :=
          Template.drawsOn_of_compile hcompile _ hconverter converter rfl
        exact htotal entry hentry
      obtain ⟨found, hfound, hfault⟩ := Template.match?_eq_error hconverters h
      exact ⟨template, found, hcompiled, hfound, hfault⟩

namespace Session

private theorem matcher_of_runEach (defaults : Scope) (operations : List Operation) :
    ∀ binding ∈ ((start defaults).runEach operations).store.bindings,
      binding.pattern.matcher binding.types = .ok binding.matcher := by
  induction operations using List.reverseRecOn with
  | nil => exact fun _ h => absurd h List.not_mem_nil
  | append_singleton operations operation ih =>
      obtain ⟨done, added, hbindings, henters⟩ := enters_run defaults operations operation
      rw [runEach_concat, hbindings]
      intro binding hbinding
      rcases List.mem_append.mp hbinding with hbinding | hbinding
      · exact ih binding hbinding
      · obtain ⟨_, _, _, _, hcarries⟩ := exists_of_mem_right henters.carries hbinding
        exact hcarries.matcher_eq

/-- A step has one answer: the first handler that may run it and captures its text, or none. If no
type that a project adds fails, the search gives this answer, unless a handler in front of it may
run the step and has a template that matches the text, but takes from it what stands for no value
of a built-in type, or a field of the template itself is at fault. Then the search fails as the
first such handler does. -/
theorem find_of_runEach (defaults : Scope) (operations : List Operation) :
    let registry := ((start defaults).runEach operations).store.build.1
    (∀ binding ∈ registry.bindings, ∀ entry ∈ binding.types, entry.2.converter.Total) →
      ∀ text role tags, ∃ answer, registry.IsAnswer text role tags answer ∧
        (∀ other, registry.IsAnswer text role tags other → other = answer) ∧
        (registry.find text role tags = .ok answer ↔
          ∀ binding ∈ registry.before answer, ∀ fault, ¬binding.Breaks text role tags fault) ∧
        (∀ fault, registry.find text role tags = .error fault ↔
          Registry.FirstBreaks (registry.before answer) text role tags fault) ∧
        ∀ binding ∈ registry.before answer, ∀ fault,
          binding.Breaks text role tags fault → binding.Misreads text fault := by
  intro registry htotal text role tags
  obtain ⟨answer, hanswer⟩ := registry.exists_answer text role tags
  refine ⟨answer, hanswer, fun other hother => hother.unique hanswer, hanswer.find_eq_ok_iff,
    fun fault => hanswer.find_eq_error_iff, fun binding hbinding fault hbreaks => ?_⟩
  obtain ⟨back, hbindings⟩ := registry.exists_append_before answer
  have hregistered : binding ∈ registry.bindings :=
    hbindings ▸ List.mem_append_left back hbinding
  exact Binding.misreads_of_match? (matcher_of_runEach defaults operations binding hregistered)
    (htotal binding hregistered) hbreaks.2

/-- Two handlers for the day on which an invoice is due, as a date and as it is written. -/
def dueDates : List Operation :=
  [.add "" .context (.template "the invoice is due on \x7bday:ti\x7d") {} none,
    .add "" .context (.template "the invoice is due on \x7bday\x7d") {} none]

/-- A handler with a type that a project adds, behind the others. -/
def paidInvoices : List Operation :=
  dueDates ++ [.add "" .context (.template "\x7bwho:Name\x7d pays the invoice") {} none]

theorem find_of_paidInvoices :
    let defaults : Scope :=
      { types := [("Name", { converter := fun s => .ok (.text (Text.upper s)) })] }
    let registry := ((start defaults).runEach paidInvoices).store.build.1
    (∀ binding ∈ registry.bindings, ∀ entry ∈ binding.types, entry.2.converter.Total) ∧
      ∃ answer, registry.IsAnswer "eva pays the invoice" (some .context) [] answer ∧
        answer.map (·.index) = some 2 ∧
        registry.find "eva pays the invoice" (some .context) [] = .ok answer := by
  intro defaults registry
  have hindex : (registry.find "eva pays the invoice" (some .context) []).toOption.join.map
      (·.index) = some 2 := by decide +kernel
  have hdefaults : (start defaults).Draws (·.2.converter.Total) := by
    refine ⟨List.forall_mem_singleton.mpr (List.forall_mem_singleton.mpr fun s => ⟨_, rfl⟩), ?_⟩
    exact fun _ h => absurd h List.not_mem_nil
  have hnone : ∀ outer name own, .openScope outer name own ∉ paidInvoices := by
    simp [paidInvoices, dueDates]
  have hdraws : ((start defaults).runEach paidInvoices).Draws (·.2.converter.Total) :=
    draws_runEach hdefaults fun outer name own hmem => absurd hmem (hnone outer name own)
  have htotal : ∀ binding ∈ registry.bindings, ∀ entry ∈ binding.types,
      entry.2.converter.Total := hdraws.build
  obtain ⟨answer, hanswer, _, hok, herror, _⟩ := find_of_runEach defaults paidInvoices htotal
    "eva pays the invoice" (some .context) []
  cases hfind : registry.find "eva pays the invoice" (some .context) [] with
  | error fault =>
      rw [hfind] at hindex
      cases hindex
  | ok result =>
      have hresult : registry.find "eva pays the invoice" (some .context) [] = .ok answer := by
        refine hok.mpr fun binding hbinding fault hbreaks => ?_
        obtain ⟨first, hfirst⟩ := Registry.exists_firstBreaks hbinding hbreaks
        exact nomatch hfind.symm.trans ((herror first).mpr hfirst)
      have hsame : result = answer := Except.ok.inj (hfind.symm.trans hresult)
      rw [hfind] at hindex
      exact ⟨htotal, answer, hanswer, hsame ▸ hindex, by rw [hsame]⟩

/-- The second handler takes the day as it is written, but the search ends at the first one, for
which the day is no date. -/
theorem exists_answer_behind_no_date :
    let registry := ((start {}).runEach dueDates).store.build.1
    ((start {}).runAll dueDates).2 = none ∧
      (∀ binding ∈ registry.bindings, ∀ entry ∈ binding.types, entry.2.converter.Total) ∧
      ∃ found, found.index = 1 ∧
        registry.IsAnswer "the invoice is due on 2024-02-30" (some .context) [] (some found) ∧
        registry.find "the invoice is due on 2024-02-30" (some .context) [] =
          .error (.moment (.range .day)) := by
  intro registry
  have hchecks : ((start {}).runAll dueDates).2 = none ∧
      (∀ binding ∈ registry.bindings, binding.types = []) ∧
      (∀ binding ∈ registry.bindings, binding.isEligible (some .context) [] = true) ∧
      (∀ binding ∈ registry.bindings.take 1,
        binding.Declines "the invoice is due on 2024-02-30" (some .context) []) ∧
      (registry.bindings[1]?.bind
        (·.captures? "the invoice is due on 2024-02-30")).isSome = true ∧
      fault? (registry.find "the invoice is due on 2024-02-30" (some .context) []) =
        some (.moment (.range .day)) := by decide +kernel
  obtain ⟨hall, htypes, heligible, hdeclines, hruns, hfault⟩ := hchecks
  obtain ⟨found, hindex, hanswer⟩ := Registry.exists_answer_at heligible hdeclines hruns
  refine ⟨hall, fun binding hbinding entry hentry => ?_, found, hindex, hanswer,
    fault?_eq_some.mp hfault⟩
  rw [htypes binding hbinding] at hentry
  exact absurd hentry List.not_mem_nil

end Session

end FeatureSuite

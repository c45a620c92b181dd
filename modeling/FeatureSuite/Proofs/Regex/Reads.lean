import FeatureSuite.Regex.Parser

/-!
# Reading characters and groups

How the reader goes on in a sequence: past a character that stands for itself, past a mark behind a
backslash, and past a group that captures.
-/

namespace FeatureSuite.Regex

/-- The characters that stand for themselves behind a backslash only. -/
def marks : List Char := "?\\.[]()*+^$!|\x7b\x7d".toList

/-- The state with other text to read, some characters further on. -/
def ReaderState.at (state : ReaderState) (rest : List Char) (count : Nat) : ReaderState :=
  { state with rest, place := state.place + count }

/-- A later state of the reader: what is left to read, and how many groups have been met since. -/
structure ReaderState.Past (state : ReaderState) (rest : List Char) (groups : Nat)
    (next : ReaderState) : Prop where
  rest_eq : next.rest = rest
  groups_eq : next.groups.length = state.groups.length + groups
  names_eq : next.names = state.names
  conditions_eq : next.conditions = state.conditions
  flags_eq : next.flags = state.flags

theorem ReaderState.past_at (state : ReaderState) (rest : List Char) (count : Nat) :
    state.Past rest 0 (state.at rest count) := ⟨rfl, rfl, rfl, rfl, rfl⟩

theorem ReaderState.Past.trans {state next last : ReaderState} {rest rest' : List Char}
    {groups groups' : Nat} (hnext : state.Past rest groups next)
    (hlast : next.Past rest' groups' last) : state.Past rest' (groups + groups') last where
  rest_eq := hlast.rest_eq
  groups_eq := by rw [hlast.groups_eq, hnext.groups_eq, Nat.add_assoc]
  names_eq := hlast.names_eq.trans hnext.names_eq
  conditions_eq := hlast.conditions_eq.trans hnext.conditions_eq
  flags_eq := hlast.flags_eq.trans hnext.flags_eq

variable {fuel : Nat} {first : Bool} {items : List Item} {state : ReaderState} {tail : List Char}

/-! ## Steps -/

theorem run_bind_ok {α β : Type} {x : Read α} {f : α → Read β} {before after : ReaderState} {a : α}
    (h : x.run before = .ok (a, after)) : (x >>= f).run before = (f a).run after := by
  rw [StateT.run_bind, h]
  rfl

theorem run_advance {count : Nat} (hrest : state.rest.drop count = tail) (htail : tail ≠ ['\\']) :
    (advance count).run state = .ok ((), state.at tail count) := by
  subst hrest
  have hmodify (f : ReaderState → ReaderState) : (modify f : Read Unit).run state = .ok ((), f state) := rfl
  rw [advance, run_bind_ok (hmodify _), checkEnd]
  have hget : (get : Read ReaderState).run (state.at (state.rest.drop count) count) =
    .ok (state.at (state.rest.drop count) count, state.at (state.rest.drop count) count) := rfl
  rw [ReaderState.at] at hget ⊢
  rw [run_bind_ok hget, if_neg htail]
  rfl

theorem run_peek_plain {c : Char} (hc : c ≠ '\\') (hrest : state.rest = c :: tail) :
    peek.run state = .ok (some (.plain c), state) := by
  have hget : (get : Read ReaderState).run state = .ok (state, state) := rfl
  rw [peek, run_bind_ok hget, hrest]
  split
  · rename_i h
    cases h
  · rename_i h
    exact absurd (List.cons.inj h).1 hc
  · rename_i h
    cases h
    rfl

private theorem run_peek_escaped {c : Char} (hrest : state.rest = '\\' :: c :: tail) :
    peek.run state = .ok (some (.escaped c), state) := by
  have hget : (get : Read ReaderState).run state = .ok (state, state) := rfl
  rw [peek, run_bind_ok hget, hrest]
  rfl

private theorem run_accept {c : Char} (hc : c ≠ '\\') (hrest : state.rest = c :: tail)
    (htail : tail ≠ ['\\']) :
    (accept c).run state = .ok (true, state.at tail 1) := by
  have hadvance : (advance 1).run state = .ok ((), state.at tail 1) :=
    run_advance (by rw [hrest]; rfl) htail
  rw [accept, run_bind_ok (run_peek_plain hc hrest), if_pos rfl, run_bind_ok hadvance]
  rfl

private theorem run_accept_other {c : Char} (hrest : state.rest.head? ≠ some c) :
    (accept c).run state = .ok (false, state) := by
  have hget : (get : Read ReaderState).run state = .ok (state, state) := rfl
  have hpeek : ∃ token, peek.run state = .ok (token, state) ∧ token ≠ some (.plain c) := by
    rw [peek, run_bind_ok hget]
    split
    · exact ⟨_, rfl, nofun⟩
    · exact ⟨_, rfl, by simp⟩
    · rename_i heq
      refine ⟨_, rfl, fun h => hrest ?_⟩
      cases h
      rw [heq]
      rfl
  obtain ⟨token, hpeek, hne⟩ := hpeek
  rw [accept, run_bind_ok hpeek, if_neg hne]
  rfl

/-! ## Parts of a sequence -/

theorem sequence_char {flags : Flags} (hflags : flags.verbose = false) {c : Char} (hc : c ∉ marks)
    (hrest : state.rest = c :: tail) (htail : tail ≠ ['\\']) :
    (sequence (fuel + 1) flags first items).run state =
      (sequence fuel flags first ({ node := .char c flags.folding } :: items)).run
        (state.at tail 1) := by
  have hne : ∀ mark ∈ marks, c ≠ mark := fun mark hmark h => hc (h ▸ hmark)
  have hplace : place.run state = .ok (state.place, state) := rfl
  have hpeek := run_peek_plain (hne '\\' (by decide)) hrest
  have hadvance : (advance 1).run state = .ok ((), state.at tail 1) :=
    run_advance (by rw [hrest]; rfl) htail
  rw [sequence, run_bind_ok hplace, run_bind_ok hpeek]
  split
  · rename_i h
    cases h
  · rename_i h
    cases h
    exact absurd rfl (hne '|' (by decide))
  · rename_i h
    cases h
    exact absurd rfl (hne ')' (by decide))
  · rename_i h
    cases h
  · rename_i h
    cases h
    rw [run_bind_ok hadvance, hflags, Bool.false_and, Bool.false_and, if_neg Bool.false_ne_true,
      if_neg Bool.false_ne_true, if_neg (hne '[' (by decide)), if_neg (hne '.' (by decide)),
      if_neg (hne '^' (by decide)), if_neg (hne '$' (by decide)), if_neg (hne '?' (by decide)),
      if_neg (hne '*' (by decide)), if_neg (hne '+' (by decide)), if_neg (hne '\x7b' (by decide)),
      if_neg (hne '(' (by decide))]
    rfl

theorem run_escape_mark {flags : Flags} {c : Char} (hc : c ∈ marks) (start : Nat) :
    (escape flags start c).run state = .ok (.char c flags.folding, state) := by
  have hmem : c ∈ ['?', '\\', '.', '[', ']', '(', ')', '*', '+', '^', '$', '!', '|', '\x7b', '\x7d'] := hc
  simp only [List.mem_cons, List.not_mem_nil, or_false] at hmem
  rcases hmem with rfl | rfl | rfl | rfl | rfl | rfl | rfl | rfl | rfl | rfl | rfl | rfl | rfl | rfl |
    rfl <;> rfl

theorem sequence_escaped {flags : Flags} (hflags : flags.verbose = false) {c : Char} {node : Regex}
    (hrest : state.rest = '\\' :: c :: tail) (htail : tail ≠ ['\\'])
    (hescape : ∀ state : ReaderState, ∀ start,
      (escape flags start c).run state = .ok (node, state)) :
    (sequence (fuel + 1) flags first items).run state =
      (sequence fuel flags first (itemAs node :: items)).run (state.at tail 2) := by
  have hplace : place.run state = .ok (state.place, state) := rfl
  have hpeek := run_peek_escaped hrest
  have hadvance : (advance 2).run state = .ok ((), state.at tail 2) :=
    run_advance (by rw [hrest]; rfl) htail
  rw [sequence, run_bind_ok hplace, run_bind_ok hpeek]
  dsimp only
  rw [run_bind_ok hadvance, hflags, Bool.false_and, if_neg Bool.false_ne_true,
    run_bind_ok (hescape _ _)]

theorem sequence_nil {flags : Flags} (hrest : state.rest = []) :
    (sequence (fuel + 1) flags first items).run state =
      .ok ((seq (items.reverse.map (·.node)), flags), state) := by
  obtain ⟨rest, place, flags', groups, names, lookBehindGroups, conditions⟩ := state
  obtain rfl := hrest
  rfl

theorem sequence_group {flags flags' : Flags} (hflags : flags.verbose = false) {body : List Char}
    {node : Regex} (hrest : state.rest = '(' :: (body ++ ')' :: tail)) (htail : tail ≠ ['\\'])
    (hhead : body.head? ≠ some '?')
    (hbody : ∀ state : ReaderState, state.rest = body ++ ')' :: tail →
      (alternatives fuel flags false []).run state =
        .ok ((node, flags'), state.at (')' :: tail) body.length)) :
    ∃ next, state.Past tail 1 next ∧ (sequence (fuel + 1) flags first items).run state =
      (sequence fuel flags first ({ node := .capture state.groups.length node } :: items)).run
        next := by
  have hplace : place.run state = .ok (state.place, state) := rfl
  have hpeek := run_peek_plain (by decide) hrest
  have hinner : body ++ ')' :: tail ≠ ['\\'] := fun h => by
    have hmem : ')' ∈ ['\\'] := h ▸ List.mem_append_right _ List.mem_cons_self
    simp at hmem
  have hadvance : (advance 1).run state = .ok ((), state.at (body ++ ')' :: tail) 1) :=
    run_advance (by rw [hrest]; rfl) hinner
  have hopening : (groupOpening flags state.place).run (state.at (body ++ ')' :: tail) 1) =
      .ok (.capturing none, state.at (body ++ ')' :: tail) 1) := by
    have hother : (state.at (body ++ ')' :: tail) 1).rest.head? ≠ some '?' := by
      cases body with
      | nil => simp [ReaderState.at]
      | cons c body => exact hhead
    rw [groupOpening, run_bind_ok (run_accept_other hother)]
    rfl
  let opened : ReaderState :=
    { state.at (body ++ ')' :: tail) 1 with groups := state.groups ++ [none] }
  have hopen : (openGroup none).run (state.at (body ++ ')' :: tail) 1) =
      .ok (state.groups.length, opened) := rfl
  have hread := hbody opened rfl
  let closed := (opened.at (')' :: tail) body.length).at tail 1
  have hclosing : (closing state.place).run (opened.at (')' :: tail) body.length) =
      .ok ((), closed) := by
    rw [closing, run_bind_ok (run_accept (by decide) rfl htail)]
    rfl
  let width := node.width fun i => ((closed.groups[i]?).join).getD (0, some 0)
  have hclose : (closeGroup state.groups.length node).run closed =
      .ok ((), { closed with groups := closed.groups.set state.groups.length (some width) }) := rfl
  refine ⟨{ closed with groups := closed.groups.set state.groups.length (some width) },
    ⟨rfl, ?_, rfl, rfl, rfl⟩, ?_⟩
  · simp [closed, opened, ReaderState.at]
  · rw [sequence, run_bind_ok hplace, run_bind_ok hpeek]
    split
    · rename_i h
      cases h
    · rename_i h
      exact absurd h (by decide)
    · rename_i h
      exact absurd h (by decide)
    · rename_i h
      cases h
    · rename_i h
      cases h
      rw [run_bind_ok hadvance, hflags, Bool.false_and, Bool.false_and, if_neg Bool.false_ne_true,
        if_neg Bool.false_ne_true]
      simp only [Char.reduceEq, ↓reduceIte]
      rw [run_bind_ok hopening]
      dsimp only
      rw [run_bind_ok hopen, run_bind_ok hread, run_bind_ok hclosing, run_bind_ok hclose]

theorem compile_of_sequence {pattern : String} {flags : Flags} {node : Regex} {groups : Nat}
    {final : ReaderState} (hpattern : pattern.toList ≠ ['\\'])
    (hread : (sequence (2 * pattern.toList.length + 2) flags true []).run
      { rest := pattern.toList, flags } = .ok ((node, flags), final))
    (hpast : ReaderState.Past { rest := pattern.toList, flags } [] groups final)
    (hfixed : node.lookBehindsFixed = true) :
    compile pattern flags = .ok ⟨pattern, flags, node, groups, []⟩ := by
  let start : ReaderState := { rest := pattern.toList, flags }
  have hget (state : ReaderState) : (get : Read ReaderState).run state = .ok (state, state) := rfl
  have hcheck : checkEnd.run start = .ok ((), start) := by
    rw [checkEnd, run_bind_ok (hget start), if_neg hpattern]
    rfl
  have hrest : final.rest.head? ≠ some '|' := by
    rw [hpast.rest_eq]
    nofun
  have halternatives : (alternatives (2 * pattern.toList.length + 3) flags true []).run start =
      .ok ((node, flags), final) := by
    rw [alternatives]
    change (sequence _ flags true [] >>= _).run start = _
    rw [run_bind_ok hread]
    dsimp only
    rw [run_bind_ok (run_accept_other hrest)]
    rfl
  have hpeek : peek.run final = .ok (none, final) := by
    rw [peek, run_bind_ok (hget final), hpast.rest_eq]
    rfl
  have hwhole : (whole pattern flags).run start =
      .ok (⟨pattern, flags, node, groups, []⟩, final) := by
    rw [whole, run_bind_ok hcheck, run_bind_ok (hget start), run_bind_ok halternatives]
    dsimp only
    rw [run_bind_ok hpeek, if_neg (by simp), run_bind_ok (hget final), hpast.conditions_eq]
    dsimp only [List.find?_nil]
    rw [if_pos hfixed, hpast.flags_eq, hpast.names_eq, hpast.groups_eq, List.length_singleton,
      Nat.add_sub_cancel_left]
    rfl
  rw [compile, hwhole]

end FeatureSuite.Regex

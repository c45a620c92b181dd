import FeatureSuite.Json.Basic
import FeatureSuite.Text.Identifier
import Mathlib.Algebra.Group.Nat.Defs
import Mathlib.Data.List.Basic

/-!
# Literals of generated modules

A reader for the literals that generated modules hold, after the rules of the language that the
modules are written in: texts in double quotes, lists, and tables with texts as keys. Quoted texts
and rendered values are written by other rules. The reader gives them back all the same.
-/

namespace FeatureSuite.Literal

/-! ## Escapes -/

def hexValue? (c : Char) : Option Nat :=
  if '0' ≤ c ∧ c ≤ '9' then some (c.toNat - 48)
  else if 'a' ≤ c ∧ c ≤ 'f' then some (c.toNat - 87)
  else if 'A' ≤ c ∧ c ≤ 'F' then some (c.toNat - 55)
  else none

/-- The number that hexadecimal digits stand for. -/
def hexNumber? (digits : List Char) : Option Nat :=
  digits.foldlM (fun n c => (hexValue? c).map (n * 16 + ·)) 0

/-- The character with a number of a fixed count of digits, and the length of the escape. -/
def numbered? (width : Nat) (cs : List Char) : Option (List Char × Nat) := do
  let digits := cs.take width
  if digits.length < width then none
  else
    let n ← hexNumber? digits
    if n.isValidChar then some ([Char.ofNat n], width + 1) else none

def isOctal (c : Char) : Bool := '0' ≤ c && c ≤ '7'

/-- What an escape stands for, and its length. It is given without its backslash. Characters are
not looked up by their names. -/
def escape? : List Char → Option (List Char × Nat)
  | [] | '\x00' :: _ | 'N' :: _ => none
  | '\n' :: _ => some ([], 1)
  | '\r' :: '\n' :: _ => some ([], 2)
  | '\r' :: _ => some ([], 1)
  | 'x' :: rest => numbered? 2 rest
  | 'u' :: rest => numbered? 4 rest
  | 'U' :: rest => numbered? 8 rest
  | c :: rest =>
      if isOctal c then
        let digits := ((c :: rest).take 3).takeWhile isOctal
        some ([Char.ofNat (digits.foldl (fun n c => n * 8 + (c.toNat - 48)) 0)], digits.length)
      else
        let plain := match c with
          | '\\' => ['\\'] | '\'' => ['\''] | '"' => ['"'] | 'a' => ['\x07'] | 'b' => ['\x08']
          | 'f' => ['\x0c'] | 'n' => ['\n'] | 'r' => ['\r'] | 't' => ['\t'] | 'v' => ['\x0b']
          | c => ['\\', c]
        some (plain, 1)

/-! ## Texts -/

/-- Whether a character breaks a line of a module. -/
def isLineBreak (c : Char) : Bool := c = '\n' || c = '\r'

/-- Reads the rest of a text up to its closing quote. Some characters in front have been read
already. -/
def readRest? : Nat → List Char → Option (List Char × List Char)
  | _, [] => none
  | skip + 1, _ :: cs => readRest? skip cs
  | 0, c :: cs =>
      if c = '"' then some ([], cs)
      else if c = '\\' then do
        let (chars, length) ← escape? cs
        let (text, rest) ← readRest? length cs
        some (chars ++ text, rest)
      else if isLineBreak c || c = '\x00' then none
      else do
        let (text, rest) ← readRest? 0 cs
        some (c :: text, rest)

/-- Reads a text in double quotes. Three of them open a literal of another kind. -/
def readText? : List Char → Option (String × List Char)
  | '"' :: cs =>
      if cs.take 2 = ['"', '"'] then none
      else (readRest? 0 cs).map fun (text, rest) => (String.ofList text, rest)
  | _ => none

private theorem hexValue?_hexDigit {n : Nat} (h : n < 16) :
    hexValue? (Text.hexDigit n) = some n := by
  have hall : ∀ n < 16, hexValue? (Text.hexDigit n) = some n := by decide
  exact hall n h

private theorem hexNumber?_hexDigits (width n : Nat) :
    hexNumber? (Text.hexDigits width n) = some (n % 16 ^ width) := by
  unfold hexNumber?
  induction width generalizing n with
  | zero => simp [Text.hexDigits, Nat.mod_one]
  | succ width ih =>
      have hdigit : n % 16 < 16 := Nat.mod_lt n (by decide)
      have hsplit : n / 16 % 16 ^ width * 16 + n % 16 = n % 16 ^ (width + 1) := by
        rw [pow_succ', Nat.mod_mul]
        omega
      rw [Text.hexDigits, List.foldlM_append, ih (n / 16)]
      simp only [Option.bind_eq_bind, Option.bind_some, List.foldlM_cons, List.foldlM_nil,
        hexValue?_hexDigit hdigit, Option.map_some, hsplit]
      rfl

@[simp] private theorem length_hexDigits (width n : Nat) :
    (Text.hexDigits width n).length = width := by
  induction width generalizing n with
  | zero => rfl
  | succ width ih => rw [Text.hexDigits, List.length_append, ih, List.length_singleton]

private theorem numbered?_hexDigits {c : Char} (h : c.toNat < 32) (cs : List Char) :
    numbered? 4 (Text.hexDigits 4 c.toNat ++ cs) = some ([c], 5) := by
  have hlength : (Text.hexDigits 4 c.toNat).length = 4 := length_hexDigits 4 c.toNat
  have htake : (Text.hexDigits 4 c.toNat ++ cs).take 4 = Text.hexDigits 4 c.toNat := by
    rw [List.take_append_of_le_length (by omega), List.take_of_length_le (by omega)]
  have hnumber : hexNumber? (Text.hexDigits 4 c.toNat) = some c.toNat := by
    rw [hexNumber?_hexDigits, Nat.mod_eq_of_lt (by omega)]
  have hvalid : c.toNat.isValidChar := c.valid
  simp [numbered?, htake, hlength, hnumber, hvalid, Char.ofNat_toNat]

private theorem readRest?_skip (front cs : List Char) :
    readRest? front.length (front ++ cs) = readRest? 0 cs := by
  induction front with
  | nil => rfl
  | cons c front ih => simpa [readRest?] using ih

private theorem readRest?_escape {cs chars : List Char} {length : Nat}
    (h : escape? cs = some (chars, length)) :
    readRest? 0 ('\\' :: cs) =
      (readRest? length cs).map fun (text, rest) => (chars ++ text, rest) := by
  rw [readRest?, if_neg (by decide), if_pos rfl, h, Option.bind_eq_bind, Option.bind_some]
  dsimp only
  cases readRest? length cs <;> rfl

/-- The written forms of characters: an escape of one letter, a number, or the character itself. -/
inductive IsWritten (c : Char) : List Char → Prop where
  | short {letter : Char} : isLineBreak letter = false →
      (∀ rest, escape? (letter :: rest) = some ([c], 1)) → IsWritten c ['\\', letter]
  | number : c.toNat < 32 → IsWritten c ('\\' :: 'u' :: Text.hexDigits 4 c.toNat)
  | plain : c ≠ '"' → c ≠ '\\' → isLineBreak c = false → c ≠ '\x00' → IsWritten c [c]

theorem isWritten_quoteChar (c : Char) : IsWritten c (Text.quoteChar c) := by
  unfold Text.quoteChar
  iterate 7
    split
    · subst c
      exact .short (by decide) fun _ => rfl
  split
  · exact .number (by assumption)
  · rename_i hquote hbackslash hfeed hreturn _ _ _ hcontrol
    refine .plain hquote hbackslash (by simp [isLineBreak, hfeed, hreturn]) ?_
    rintro rfl
    exact hcontrol (by decide)

private theorem readRest?_quoteChar (c : Char) (cs : List Char) :
    readRest? 0 (Text.quoteChar c ++ cs) =
      (readRest? 0 cs).map fun (text, rest) => (c :: text, rest) := by
  have hwritten := isWritten_quoteChar c
  generalize Text.quoteChar c = written at hwritten ⊢
  cases hwritten with
  | short _ hescape =>
      change readRest? 0 ('\\' :: _ :: cs) = _
      rw [readRest?_escape (hescape cs), readRest?]
      rfl
  | number hcontrol =>
      have hchar : escape? ('u' :: (Text.hexDigits 4 c.toNat ++ cs)) = some ([c], 5) :=
        numbered?_hexDigits hcontrol cs
      have hskip : readRest? 4 (Text.hexDigits 4 c.toNat ++ cs) = readRest? 0 cs := by
        have hskip := readRest?_skip (Text.hexDigits 4 c.toNat) cs
        rwa [length_hexDigits] at hskip
      change readRest? 0 ('\\' :: 'u' :: (Text.hexDigits 4 c.toNat ++ cs)) = _
      rw [readRest?_escape hchar, readRest?, hskip]
      rfl
  | plain hquote hbackslash hbreak hnull =>
      change readRest? 0 (c :: cs) = _
      rw [readRest?, if_neg hquote, if_neg hbackslash, if_neg (by simp [hbreak, hnull])]
      cases readRest? 0 cs <;> rfl

private theorem readRest?_quoteChars (text rest : List Char) :
    readRest? 0 (text.flatMap Text.quoteChar ++ '"' :: rest) = some (text, rest) := by
  induction text with
  | nil => rfl
  | cons c text ih =>
      rw [List.flatMap_cons, List.append_assoc, readRest?_quoteChar, ih]
      rfl

private theorem head?_quoteChar (c : Char) (cs : List Char) :
    (Text.quoteChar c ++ cs).head? ≠ some '"' := by
  have hwritten := isWritten_quoteChar c
  generalize Text.quoteChar c = written at hwritten ⊢
  cases hwritten with
  | short _ _ => simp
  | number _ => simp
  | plain hquote _ _ _ => simpa using hquote

theorem toList_quote (s : String) :
    (Text.quote s).toList = '"' :: (s.toList.flatMap Text.quoteChar ++ ['"']) := by
  rw [Text.quote, String.toList_ofList]
  rfl

/-- A quoted text is read as the text, whatever is in it. -/
theorem readText?_quote (s : String) {rest : List Char} (hrest : rest.head? ≠ some '"') :
    readText? ((Text.quote s).toList ++ rest) = some (s, rest) := by
  have hread := readRest?_quoteChars s.toList rest
  have hquote : (Text.quote s).toList ++ rest =
      '"' :: (s.toList.flatMap Text.quoteChar ++ '"' :: rest) := by
    simp [toList_quote]
  have hopening : (s.toList.flatMap Text.quoteChar ++ '"' :: rest).take 2 ≠ ['"', '"'] := by
    cases s.toList with
    | nil =>
        cases rest with
        | nil => simp
        | cons c rest => simpa using hrest
    | cons c text =>
        intro htake
        have hhead := congrArg List.head? htake
        rw [List.head?_take, if_neg (by decide), List.flatMap_cons, List.append_assoc] at hhead
        exact head?_quoteChar c _ hhead
  rw [hquote, readText?, if_neg hopening, hread]
  simp

/-! ## Items between brackets -/

/-- Whether a character between brackets only sets others apart. -/
def isSpace (c : Char) : Bool := c = ' ' || c = '\t' || c = '\x0c' || isLineBreak c

def skipSpaces (cs : List Char) : List Char := cs.dropWhile isSpace

/-- Reads items with commas between them, and perhaps one behind the last, up to a bracket. -/
def readItems? {α : Type} (item : List Char → Option (α × List Char)) (close : Char) :
    Nat → List Char → Option (List α × List Char)
  | 0, _ => none
  | fuel + 1, cs =>
      match skipSpaces cs with
      | [] => none
      | c :: cs =>
          if c = close then some ([], cs)
          else do
            let (a, cs) ← item (c :: cs)
            match skipSpaces cs with
            | ',' :: cs => do
                let (as, cs) ← readItems? item close fuel cs
                some (a :: as, cs)
            | c :: cs => if c = close then some ([a], cs) else none
            | [] => none

section Items

variable {α : Type} {item : List Char → Option (α × List Char)} {close : Char}
  {write : α → List Char}

/-- An item is read up to the comma or the bracket behind it, and begins with a character that
neither closes the items nor is a space. -/
structure ReadsBack (item : List Char → Option (α × List Char)) (close : Char)
    (write : α → List Char) (a : α) : Prop where
  reads : ∀ c rest, c = ',' ∨ c = close → item (write a ++ c :: rest) = some (a, c :: rest)
  opens : ∃ c cs, write a = c :: cs ∧ isSpace c = false ∧ c ≠ close

theorem skipSpaces_cons {c : Char} (h : isSpace c = false) (cs : List Char) :
    skipSpaces (c :: cs) = c :: cs := by
  simp [skipSpaces, h]

private theorem readItems?_spaces {front : List Char} (h : ∀ c ∈ front, isSpace c = true)
    (fuel : Nat) (cs : List Char) :
    readItems? item close fuel (front ++ cs) = readItems? item close fuel cs := by
  cases fuel with
  | zero => rfl
  | succ fuel => rw [readItems?, readItems?, skipSpaces, List.dropWhile_append_of_pos h, skipSpaces]

private theorem readItems?_last {a : α} (hclose : isSpace close = false) (hcomma : close ≠ ',')
    (h : ReadsBack item close write a) (fuel : Nat) (rest : List Char) :
    readItems? item close (fuel + 1) (write a ++ close :: rest) = some ([a], rest) := by
  obtain ⟨c, cs, hwrite, hspace, hne⟩ := h.opens
  have hread := h.reads close rest (.inr rfl)
  rw [hwrite] at hread ⊢
  rw [readItems?, List.cons_append, skipSpaces_cons hspace]
  simp only [if_neg hne]
  rw [List.cons_append] at hread
  simp [hread, skipSpaces_cons hclose]

private theorem readItems?_next {a : α} (h : ReadsBack item close write a) (fuel : Nat)
    (more : List Char) :
    readItems? item close (fuel + 1) (write a ++ ',' :: more) =
      (readItems? item close fuel more).map fun (as, rest) => (a :: as, rest) := by
  obtain ⟨c, cs, hwrite, hspace, hne⟩ := h.opens
  have hread := h.reads ',' more (.inl rfl)
  have hcomma : isSpace ',' = false := by decide
  rw [hwrite, List.cons_append] at hread
  rw [readItems?, hwrite, List.cons_append, skipSpaces_cons hspace]
  simp only [if_neg hne, hread, Option.bind_eq_bind, Option.bind_some, skipSpaces_cons hcomma]
  cases readItems? item close fuel more <;> rfl

private theorem readItems?_intercalate (hclose : isSpace close = false) (hcomma : close ≠ ',')
    {as : List α} (h : ∀ a ∈ as, ReadsBack item close write a) {fuel : Nat}
    (hfuel : as.length < fuel) (rest : List Char) :
    readItems? item close fuel ([',', ' '].intercalate (as.map write) ++ close :: rest) =
      some (as, rest) := by
  obtain ⟨fuel, rfl⟩ : ∃ n, fuel = n + 1 := ⟨fuel - 1, by omega⟩
  induction as generalizing fuel with
  | nil => simp [readItems?, skipSpaces_cons hclose]
  | cons a as ih =>
      obtain ⟨ha, has⟩ := List.forall_mem_cons.mp h
      cases as with
      | nil =>
          rw [List.map_singleton, List.intercalate_singleton]
          exact readItems?_last hclose hcomma ha fuel rest
      | cons b as =>
          obtain ⟨fuel, rfl⟩ : ∃ n, fuel = n + 1 := ⟨fuel - 1, by simp at hfuel; omega⟩
          have hblank : ∀ c ∈ [' '], isSpace c = true := List.forall_mem_singleton.mpr rfl
          have hrest := ih has fuel (by simpa using hfuel)
          rw [← readItems?_spaces hblank] at hrest
          rw [List.map_cons, List.map_cons, List.intercalate_cons_cons, List.append_assoc,
            List.append_assoc, List.cons_append, readItems?_next ha]
          rw [List.map_cons] at hrest
          rw [hrest]
          rfl

private theorem length_le_intercalate {as : List α} (h : ∀ a ∈ as, ReadsBack item close write a) :
    as.length ≤ ([',', ' '].intercalate (as.map write)).length := by
  induction as with
  | nil => exact Nat.zero_le _
  | cons a as ih =>
      obtain ⟨ha, has⟩ := List.forall_mem_cons.mp h
      obtain ⟨c, cs, hwrite, _⟩ := ha.opens
      have hrest := ih has
      cases as with
      | nil => simp [hwrite]
      | cons b as =>
          rw [List.map_cons, List.map_cons, List.intercalate_cons_cons, ← List.map_cons]
          simp only [List.length_append, List.length_cons, hwrite] at hrest ⊢
          omega

/-- Reads items up to a bracket. No item is empty, so their number is bounded by the length. -/
def readAll? {α : Type} (item : List Char → Option (α × List Char)) (close : Char)
    (cs : List Char) : Option (List α × List Char) :=
  readItems? item close (cs.length + 1) cs

theorem readAll?_intercalate (hclose : isSpace close = false) (hcomma : close ≠ ',')
    {as : List α} (h : ∀ a ∈ as, ReadsBack item close write a) (rest : List Char) :
    readAll? item close ([',', ' '].intercalate (as.map write) ++ close :: rest) =
      some (as, rest) := by
  refine readItems?_intercalate hclose hcomma h ?_ rest
  have hlength := length_le_intercalate h
  rw [List.length_append]
  omega

end Items

/-! ## Lists and tables -/

/-- Puts the value of a key into a table, in the place of an earlier one. -/
def putField (table : List (String × Json)) (field : String × Json) : List (String × Json) :=
  if table.any (·.1 == field.1) then
    table.map fun other => if other.1 = field.1 then field else other
  else table ++ [field]

/-- Reads a key, a colon and what stands for the value. -/
def readField? (value : List Char → Option (Json × List Char)) (cs : List Char) :
    Option ((String × Json) × List Char) := do
  let (key, cs) ← readText? cs
  match skipSpaces cs with
  | ':' :: cs => do
      let (value, cs) ← value (skipSpaces cs)
      some ((key, value), cs)
  | _ => none

/-- Reads a text, a list or a table, with brackets up to some depth. -/
def readLiteral? : Nat → List Char → Option (Json × List Char)
  | depth + 1, '[' :: cs =>
      (readAll? (readLiteral? depth) ']' cs).map fun (items, rest) => (.array items, rest)
  | depth + 1, '\x7b' :: cs =>
      (readAll? (readField? (readLiteral? depth)) '\x7d' cs).map fun (fields, rest) =>
        (.object (fields.foldl putField []), rest)
  | _, cs => (readText? cs).map fun (text, rest) => (.string text, rest)

/-- A value of texts, lists and tables without repeated keys, with brackets up to some depth. -/
inductive IsPlain : Nat → Json → Prop where
  | text {depth : Nat} (s : String) : IsPlain depth (.string s)
  | list {depth : Nat} {items : List Json} :
      (∀ item ∈ items, IsPlain depth item) → IsPlain (depth + 1) (.array items)
  | table {depth : Nat} {fields : List (String × Json)} : (fields.map (·.1)).Nodup →
      (∀ field ∈ fields, IsPlain depth field.2) → IsPlain (depth + 1) (.object fields)

private theorem renderItems_eq (items : List Json) :
    (Json.renderItems items).toList =
      [',', ' '].intercalate (items.map fun item => item.render.toList) := by
  induction items with
  | nil => rfl
  | cons item items ih =>
      cases items with
      | nil => simp [Json.renderItems]
      | cons next items =>
          simp only [List.map_cons] at ih ⊢
          rw [Json.renderItems, String.toList_append, String.toList_append, ih,
            List.intercalate_cons_cons]
          · rfl
          · exact nofun

theorem toList_renderArray (items : List Json) : (Json.array items).render.toList =
    '[' :: ([',', ' '].intercalate (items.map fun item => item.render.toList) ++ [']']) := by
  rw [Json.render, String.toList_append, String.toList_append, renderItems_eq]
  rfl

/-- The written form of a field. -/
def writeField (field : String × Json) : List Char :=
  (Text.quote field.1).toList ++ [':', ' '] ++ field.2.render.toList

private theorem renderFields_eq (fields : List (String × Json)) :
    (Json.renderFields fields).toList = [',', ' '].intercalate (fields.map writeField) := by
  induction fields with
  | nil => rfl
  | cons field fields ih =>
      cases fields with
      | nil => simp [Json.renderFields, writeField]
      | cons next fields =>
          simp only [List.map_cons] at ih ⊢
          rw [Json.renderFields, String.toList_append, ih, List.intercalate_cons_cons]
          · simp [writeField]
          · exact nofun

theorem toList_renderObject (fields : List (String × Json)) : (Json.object fields).render.toList =
    '\x7b' :: ([',', ' '].intercalate (fields.map writeField) ++ ['\x7d']) := by
  rw [Json.render, String.toList_append, String.toList_append, renderFields_eq]
  rfl

theorem foldl_putField {table fields : List (String × Json)}
    (h : ((table ++ fields).map (·.1)).Nodup) : fields.foldl putField table = table ++ fields := by
  induction fields generalizing table with
  | nil => simp
  | cons field fields ih =>
      have hnew : table.any (·.1 == field.1) = false := by
        rw [List.map_append, List.map_cons] at h
        have hnotMem : field.1 ∉ table.map (·.1) := fun hmem =>
          (List.nodup_append.mp h).2.2 _ hmem _ List.mem_cons_self rfl
        simpa using fun key value hentry hkey => hnotMem (List.mem_map.mpr ⟨_, hentry, hkey⟩)
      have hput : putField table field = table ++ [field] := by
        rw [putField, hnew]
        rfl
      rw [List.foldl_cons, hput, ih (by rwa [List.append_assoc]), List.append_assoc]
      rfl

theorem readsBack_field {value : List Char → Option (Json × List Char)} {field : String × Json}
    (h : ReadsBack value '\x7d' (fun value => value.render.toList) field.2) :
    ReadsBack (readField? value) '\x7d' writeField field where
  reads c rest hc := by
    obtain ⟨first, cs, hwrite, hspace, _⟩ := h.opens
    have hvalue := h.reads c rest hc
    have hkey : readText? (writeField field ++ c :: rest) =
        some (field.1, ':' :: ' ' :: (field.2.render.toList ++ c :: rest)) := by
      have hquote := readText?_quote field.1
        (show (':' :: ' ' :: (field.2.render.toList ++ c :: rest)).head? ≠ some '"' by simp)
      simpa [writeField] using hquote
    have hcolon : isSpace ':' = false := by decide
    have hblank : skipSpaces (' ' :: (field.2.render.toList ++ c :: rest)) =
        field.2.render.toList ++ c :: rest := by
      change skipSpaces (field.2.render.toList ++ c :: rest) = _
      rw [hwrite, List.cons_append, skipSpaces_cons hspace]
    simp [readField?, hkey, skipSpaces_cons hcolon, hblank, hvalue]
  opens := by
    rw [writeField, toList_quote]
    exact ⟨'"', _, rfl, by decide, by decide⟩

private theorem readLiteral?_text {depth : Nat} {cs : List Char} :
    readLiteral? depth ('"' :: cs) =
      (readText? ('"' :: cs)).map fun (text, rest) => (.string text, rest) := by
  rw [readLiteral?]
  · exact nofun
  · exact nofun

/-- A plain value is read back from its written form. -/
theorem IsPlain.readsBack {depth : Nat} {value : Json} (h : IsPlain depth value) :
    ∀ close ∈ [']', '\x7d', ')'],
      ReadsBack (readLiteral? depth) close (fun value => value.render.toList) value := by
  induction h with
  | text s =>
      intro close hclose
      have hnotQuote : close ≠ '"' := by
        rintro rfl
        exact absurd hclose (by decide)
      refine ⟨fun c rest hc => ?_, '"', _, toList_quote s, by decide, Ne.symm hnotQuote⟩
      have hc : (c :: rest).head? ≠ some '"' := by
        rcases hc with rfl | rfl
        · simp
        · simpa using hnotQuote
      have hread := readText?_quote s hc
      rw [toList_quote] at hread
      change readLiteral? _ ((Text.quote s).toList ++ c :: rest) = _
      rw [toList_quote, List.cons_append, readLiteral?_text, ← List.cons_append, hread]
      rfl
  | @list depth items _ ih =>
      intro close hclose
      refine ⟨fun c rest hc => ?_, '[', _, toList_renderArray items, by decide, ?_⟩
      · have hread := readAll?_intercalate (by decide) (by decide)
          (fun item hitem => ih item hitem ']' (by simp)) (c :: rest)
        change readLiteral? _ ((Json.array items).render.toList ++ c :: rest) = _
        rw [toList_renderArray, List.cons_append, List.append_assoc, readLiteral?]
        change (readAll? _ _ (_ ++ ']' :: c :: rest)).map _ = _
        rw [hread]
        rfl
      · rintro rfl
        exact absurd hclose (by decide)
  | @table depth fields hkeys _ ih =>
      intro close hclose
      refine ⟨fun c rest hc => ?_, '\x7b', _, toList_renderObject fields, by decide, ?_⟩
      · have hread := readAll?_intercalate (by decide) (by decide)
          (fun field hfield => readsBack_field (ih field hfield '\x7d' (by simp))) (c :: rest)
        change readLiteral? _ ((Json.object fields).render.toList ++ c :: rest) = _
        rw [toList_renderObject, List.cons_append, List.append_assoc, readLiteral?]
        change (readAll? _ _ (_ ++ '\x7d' :: c :: rest)).map _ = _
        have htable : fields.foldl putField [] = [] ++ fields := foldl_putField hkeys
        rw [hread, Option.map_some]
        dsimp only
        rw [htable, List.nil_append]
      · rintro rfl
        exact absurd hclose (by decide)

/-! ## Lines -/

/-- There is no line break among the characters. -/
def IsUnbroken (cs : List Char) : Prop := ∀ c ∈ cs, isLineBreak c = false

instance (cs : List Char) : Decidable (IsUnbroken cs) :=
  decidable_of_iff (cs.all (!isLineBreak ·) = true) (by simp [IsUnbroken])

theorem isUnbroken_iff {cs : List Char} : IsUnbroken cs ↔ '\n' ∉ cs ∧ '\r' ∉ cs := by
  constructor
  · intro h
    exact ⟨fun hmem => absurd (h _ hmem) (by decide), fun hmem => absurd (h _ hmem) (by decide)⟩
  · rintro ⟨hfeed, hreturn⟩ c hc
    rw [isLineBreak, Bool.or_eq_false_iff, decide_eq_false_iff_not, decide_eq_false_iff_not]
    exact ⟨fun heq => hfeed (heq ▸ hc), fun heq => hreturn (heq ▸ hc)⟩

namespace IsUnbroken

theorem append {cs rest : List Char} (hcs : IsUnbroken cs) (hrest : IsUnbroken rest) :
    IsUnbroken (cs ++ rest) := fun c hc => (List.mem_append.mp hc).elim (hcs c) (hrest c)

theorem flatMap {α : Type} {f : α → List Char} {as : List α} (h : ∀ a ∈ as, IsUnbroken (f a)) :
    IsUnbroken (as.flatMap f) := by
  intro c hc
  obtain ⟨a, ha, hc⟩ := List.mem_flatMap.mp hc
  exact h a ha c hc

theorem intercalate {sep : List Char} (hsep : IsUnbroken sep) {parts : List (List Char)}
    (h : ∀ part ∈ parts, IsUnbroken part) : IsUnbroken (sep.intercalate parts) := by
  induction parts with
  | nil => exact fun c hc => absurd hc List.not_mem_nil
  | cons part parts ih =>
      obtain ⟨hpart, hparts⟩ := List.forall_mem_cons.mp h
      cases parts with
      | nil => simpa using hpart
      | cons next parts =>
          rw [List.intercalate_cons_cons]
          exact (hpart.append hsep).append (ih hparts)

end IsUnbroken

private theorem isUnbroken_hexDigits (width n : Nat) : IsUnbroken (Text.hexDigits width n) := by
  have hdigit : ∀ n < 16, isLineBreak (Text.hexDigit n) = false := by decide
  induction width generalizing n with
  | zero => exact fun c hc => absurd hc List.not_mem_nil
  | succ width ih =>
      refine (ih (n / 16)).append fun c hc => ?_
      rw [List.mem_singleton.mp hc]
      exact hdigit (n % 16) (Nat.mod_lt n (by decide))

private theorem isUnbroken_quoteChar (c : Char) : IsUnbroken (Text.quoteChar c) := by
  have hbackslash : IsUnbroken ['\\'] := by decide
  have hwritten := isWritten_quoteChar c
  generalize Text.quoteChar c = written at hwritten ⊢
  cases hwritten with
  | @short letter hletter _ => exact hbackslash.append (List.forall_mem_singleton.mpr hletter)
  | number _ =>
      have hopen : IsUnbroken ['\\', 'u'] := by decide
      exact hopen.append (isUnbroken_hexDigits 4 c.toNat)
  | plain _ _ hbreak _ => exact List.forall_mem_singleton.mpr hbreak

theorem isUnbroken_quote (s : String) : IsUnbroken (Text.quote s).toList := by
  rw [toList_quote]
  have hopen : IsUnbroken ['"'] := by decide
  exact hopen.append ((IsUnbroken.flatMap fun c _ => isUnbroken_quoteChar c).append hopen)

theorem IsPlain.isUnbroken {depth : Nat} {value : Json} (h : IsPlain depth value) :
    IsUnbroken value.render.toList := by
  induction h with
  | text s => exact isUnbroken_quote s
  | list _ ih =>
      rw [toList_renderArray]
      have hopen : IsUnbroken ['['] := by decide
      have hcomma : IsUnbroken [',', ' '] := by decide
      have hclose : IsUnbroken [']'] := by decide
      exact hopen.append ((hcomma.intercalate (List.forall_mem_map.mpr ih)).append hclose)
  | @table _ fields _ _ ih =>
      rw [toList_renderObject]
      have hopen : IsUnbroken ['\x7b'] := by decide
      have hcomma : IsUnbroken [',', ' '] := by decide
      have hclose : IsUnbroken ['\x7d'] := by decide
      have hcolon : IsUnbroken [':', ' '] := by decide
      have hfields : ∀ field ∈ fields, IsUnbroken (writeField field) := fun field hfield =>
        ((isUnbroken_quote field.1).append hcolon).append (ih field hfield)
      exact hopen.append ((hcomma.intercalate (List.forall_mem_map.mpr hfields)).append hclose)

end FeatureSuite.Literal

import FeatureSuite.Text.Quoted

/-!
# Decoding bytes

Text from bytes in UTF-8. Overlong forms, surrogates and numbers beyond the last character are
refused at the first byte that shows it.
-/

namespace FeatureSuite.Utf8

/-- Why bytes are no text. -/
inductive FaultCause where
  | startByte
  | continuationByte
  | endOfData
  deriving DecidableEq, Repr

/-- The first bytes that are no text: how many bytes stand in front, and the bytes themselves. -/
structure Fault where
  place : Nat
  bytes : List Nat
  cause : FaultCause
  deriving DecidableEq, Repr

/-- Why bytes are no text, in words. -/
def FaultCause.message : FaultCause → String
  | startByte => "invalid start byte"
  | continuationByte => "invalid continuation byte"
  | endOfData => "unexpected end of data"

/-- Why bytes are no text and where, in words. -/
def Fault.message (fault : Fault) : String :=
  let what := match fault.bytes with
    | [byte] => s!"byte 0x{String.ofList (Text.hexDigits 2 byte)} in position {fault.place}"
    | bytes => s!"bytes in position {fault.place}-{fault.place + bytes.length - 1}"
  s!"'utf-8' codec can't decode {what}: {fault.cause.message}"

/-- How many bytes follow a start byte, and between which the first of them lies. -/
def followers? (start : Nat) : Option (Nat × Nat × Nat) :=
  if start < 0xC2 then none
  else if start < 0xE0 then some (1, 0x80, 0xBF)
  else if start = 0xE0 then some (2, 0xA0, 0xBF)
  else if start = 0xED then some (2, 0x80, 0x9F)
  else if start < 0xF0 then some (2, 0x80, 0xBF)
  else if start = 0xF0 then some (3, 0x90, 0xBF)
  else if start < 0xF4 then some (3, 0x80, 0xBF)
  else if start = 0xF4 then some (3, 0x80, 0x8F)
  else none

/-- The bits that a start byte of a character of some more bytes gives. -/
def startBits (start count : Nat) : Nat :=
  if count = 1 then start % 32 else if count = 2 then start % 16 else start % 8

/-- Decodes bytes from a place on. `open` characters are read byte by byte: `seen` holds the bytes
of the character backwards, `value` what they give, and `missing` how many follow. -/
def decodeFrom (place : Nat) (seen : List Nat) (value missing low high : Nat) :
    List Nat → Except Fault (List Char)
  | [] =>
      if missing = 0 then .ok [] else .error ⟨place - seen.length, seen.reverse, .endOfData⟩
  | byte :: rest =>
      if missing = 0 then
        if byte < 0x80 then
          (decodeFrom (place + 1) [] 0 0 0 0 rest).map (Char.ofNat byte :: ·)
        else
          match followers? byte with
          | none => .error ⟨place, [byte], .startByte⟩
          | some (count, low, high) =>
              decodeFrom (place + 1) [byte] (startBits byte count) count low high rest
      else if low ≤ byte && byte ≤ high then
        let value := value * 64 + byte % 64
        if missing = 1 then
          (decodeFrom (place + 1) [] 0 0 0 0 rest).map (Char.ofNat value :: ·)
        else decodeFrom (place + 1) (byte :: seen) value (missing - 1) 0x80 0xBF rest
      else .error ⟨place - seen.length, seen.reverse, .continuationByte⟩

def decode (bytes : List Nat) : Except Fault String :=
  (decodeFrom 0 [] 0 0 0 0 bytes).map String.ofList

/-- The bytes of a text. -/
def encode (s : String) : List Nat := s.toUTF8.toList.map UInt8.toNat

private theorem toList_loop (bytes : ByteArray) (i : Nat) (before : List UInt8) :
    ByteArray.toList.loop bytes i before = before.reverse ++ bytes.data.toList.drop i := by
  fun_induction ByteArray.toList.loop bytes i before with
  | case1 i before h ih =>
      have hlength : i < bytes.data.toList.length := h
      have hget : bytes.get! i = bytes.data.toList[i] := by
        rw [ByteArray.get!, getElem!_pos bytes.data i h, Array.getElem_toList]
      rw [ih, List.drop_eq_getElem_cons hlength, hget, List.reverse_cons, List.append_assoc]
      rfl
  | case2 i before h =>
      rw [List.drop_eq_nil_of_le (Nat.le_of_not_lt h), List.append_nil]

theorem encode_injective {a b : String} (h : encode a = encode b) : a = b := by
  have hlist (s : String) : encode s = s.toByteArray.data.toList.map UInt8.toNat := by
    rw [encode, ByteArray.toList, toList_loop]
    rfl
  rw [hlist, hlist] at h
  have hdata := (List.map_inj_right fun _ _ => UInt8.toNat.inj).mp h
  exact String.toByteArray_inj.mp (ByteArray.ext (Array.toList_inj.mp hdata))

/-- Makes every line end of other systems a line feed. -/
def plainLineEnds : List Char → List Char
  | '\r' :: '\n' :: rest => '\n' :: plainLineEnds rest
  | '\r' :: rest => '\n' :: plainLineEnds rest
  | c :: rest => c :: plainLineEnds rest
  | [] => []

end FeatureSuite.Utf8

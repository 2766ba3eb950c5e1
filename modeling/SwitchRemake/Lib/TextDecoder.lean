/-!
# UTF-8 in both directions

`TextEncoder` and the default `TextDecoder`. The decoder never fails: each longest piece that begins
like a character and is none becomes one replacement character, and a byte order mark in front is
taken off.
-/

namespace SwitchRemake.Lib

/-- `new TextEncoder().encode(text)`. -/
def utf8 (text : String) : List UInt8 := text.toList.flatMap String.utf8EncodeChar

/-- The bytes that continue a character: the first lies between `low` and `high`. -/
def continuations (low high : UInt8) : Nat → List UInt8 → Nat
  | 0, _ => 0
  | _ + 1, [] => 0
  | needed + 1, byte :: rest =>
    if low ≤ byte ∧ byte ≤ high then 1 + continuations 0x80 0xbf needed rest else 0

/-- How many bytes one replacement character stands for. -/
def illFormed (lead : UInt8) (rest : List UInt8) : Nat :=
  1 + if 0xc2 ≤ lead ∧ lead ≤ 0xdf then continuations 0x80 0xbf 1 rest
    else if 0xe0 ≤ lead ∧ lead ≤ 0xef then
      continuations (if lead = 0xe0 then 0xa0 else 0x80) (if lead = 0xed then 0x9f else 0xbf) 2 rest
    else if 0xf0 ≤ lead ∧ lead ≤ 0xf4 then
      continuations (if lead = 0xf0 then 0x90 else 0x80) (if lead = 0xf4 then 0x8f else 0xbf) 3 rest
    else 0

/-- As many rounds as there are bytes are always enough. -/
def decodeChars : Nat → List UInt8 → List Char
  | 0, _ => []
  | _ + 1, [] => []
  | rounds + 1, lead :: rest =>
    match (lead :: rest).toByteArray.utf8DecodeChar? 0 with
    | some c => c :: decodeChars rounds ((lead :: rest).drop c.utf8Size)
    | none => Char.ofNat 0xfffd :: decodeChars rounds ((lead :: rest).drop (illFormed lead rest))

def byteOrderMark : Char := Char.ofNat 0xfeff

def dropMark : List Char → List Char
  | [] => []
  | c :: rest => if c = byteOrderMark then rest else c :: rest

/-- `new TextDecoder().decode(bytes)`. -/
def textDecode (bytes : List UInt8) : String :=
  String.ofList (dropMark (decodeChars bytes.length bytes))

theorem decodeChars_encode (cs : List Char) (rounds : Nat)
    (enough : (cs.flatMap String.utf8EncodeChar).length ≤ rounds) :
    decodeChars rounds (cs.flatMap String.utf8EncodeChar) = cs := by
  induction cs generalizing rounds with
  | nil => cases rounds <;> rfl
  | cons c rest ih =>
    have size := String.length_utf8EncodeChar c
    have positive := c.utf8Size_pos
    rw [List.flatMap_cons] at enough ⊢
    rw [List.length_append, size] at enough
    have reads : (String.utf8EncodeChar c ++ rest.flatMap String.utf8EncodeChar).toByteArray.utf8DecodeChar? 0 =
        some c := by
      rw [List.toByteArray_append]
      exact ByteArray.utf8DecodeChar?_utf8EncodeChar_append
    have skips : (String.utf8EncodeChar c ++ rest.flatMap String.utf8EncodeChar).drop c.utf8Size =
        rest.flatMap String.utf8EncodeChar := by
      rw [← size, List.drop_left]
    have length : (String.utf8EncodeChar c ++ rest.flatMap String.utf8EncodeChar).length ≠ 0 := by
      rw [List.length_append, size]
      omega
    generalize String.utf8EncodeChar c ++ rest.flatMap String.utf8EncodeChar = bytes at *
    cases rounds with
    | zero => omega
    | succ rounds =>
      cases bytes with
      | nil => exact absurd rfl length
      | cons lead tail =>
        rw [decodeChars, reads]
        dsimp only
        rw [skips, ih rounds (by omega)]

/-- A text comes back, but for a byte order mark in front of it. -/
theorem textDecode_utf8 (text : String) :
    textDecode (utf8 text) = String.ofList (dropMark text.toList) := by
  rw [textDecode, utf8, decodeChars_encode _ _ (Nat.le_refl _)]

theorem textDecode_utf8_unmarked {text : String}
    (unmarked : text.toList.head? ≠ some byteOrderMark) : textDecode (utf8 text) = text := by
  have kept : dropMark text.toList = text.toList := by
    cases letters : text.toList with
    | nil => rfl
    | cons c rest =>
      rw [letters] at unmarked
      exact if_neg fun same => unmarked (congrArg some same)
  rw [textDecode_utf8, kept, String.ofList_toList]

end SwitchRemake.Lib

import SwitchRemake.Lib.Regroup
import SwitchRemake.Matching.Database

/-!
# Base32

`encodeBase32` and `decodeBase32` of `mfa/mfa-security.service.ts`, which a TOTP secret is written
and read with. The shifts are those of 32-bit integers.
-/

namespace SwitchRemake.Auth.Mfa
open Lib.Regroup

def base32Alphabet : List Char := "ABCDEFGHIJKLMNOPQRSTUVWXYZ234567".toList

/-- `BASE32_ALPHABET[n]`, for the numbers of five bits. -/
def base32Char (n : BitVec 32) : Char := base32Alphabet.getD n.toNat '?'

/-- The inner loop: characters are written while there are five bits. -/
def drain (value : BitVec 32) : Nat → List Char × Nat
  | bits + 5 =>
    let (later, left) := drain value bits
    (base32Char ((value >>> bits) &&& 31) :: later, left)
  | bits => ([], bits)

structure Encoder where
  bits : Nat
  value : BitVec 32
  output : List Char

def Encoder.next (e : Encoder) (byte : UInt8) : Encoder :=
  let value := (e.value <<< 8) ||| BitVec.ofNat 32 byte.toNat
  let (characters, bits) := drain value (e.bits + 8)
  { bits, value, output := e.output ++ characters }

def encodeBase32 (input : List UInt8) : String :=
  let e := input.foldl Encoder.next ⟨0, 0, []⟩
  String.ofList
    (if 0 < e.bits then e.output ++ [base32Char ((e.value <<< (5 - e.bits)) &&& 31)] else e.output)

/-- `toUpperCase` of a character. Of the letters outside ASCII only these have capitals among the
letters of ASCII, and the others stay as they are here. -/
def toUpperCase (c : Char) : List Char :=
  match c with
  | 'ı' => ['I']
  | 'ſ' => ['S']
  | 'ß' => ['S', 'S']
  | 'ﬀ' => ['F', 'F']
  | 'ﬁ' => ['F', 'I']
  | 'ﬂ' => ['F', 'L']
  | 'ﬃ' => ['F', 'F', 'I']
  | 'ﬄ' => ['F', 'F', 'L']
  | 'ﬅ' => ['S', 'T']
  | 'ﬆ' => ['S', 'T']
  | c => [c.toUpper]

/-- `input.replace(/=+$/g, '')`. -/
def stripPadding (text : List Char) : List Char := (text.reverse.dropWhile (· = '=')).reverse

structure Decoder where
  bits : Nat
  value : BitVec 32
  output : List UInt8

def Decoder.next (d : Decoder) (character : Char) : Except String Decoder :=
  match base32Alphabet.idxOf? character with
  | none => .error "Invalid base32 secret"
  | some index =>
    let value := (d.value <<< 5) ||| BitVec.ofNat 32 index
    let bits := d.bits + 5
    if 8 ≤ bits then
      .ok { bits := bits - 8, value
            output := d.output ++ [UInt8.ofNat ((value >>> (bits - 8)) &&& 255).toNat] }
    else .ok { d with bits, value }

def decodeBase32 (input : String) : Except String (List UInt8) := do
  let d ← ((stripPadding input.toList).flatMap toUpperCase).foldlM Decoder.next ⟨0, 0, []⟩
  return d.output

/-! ## Digits and characters -/

def charOf (digit : Nat) : Char := base32Alphabet.getD digit '?'

theorem idxOf_charOf : ∀ digit < 2 ^ 5, base32Alphabet.idxOf? (charOf digit) = some digit := by
  decide +kernel

theorem toUpperCase_charOf : ∀ digit < 2 ^ 5, toUpperCase (charOf digit) = [charOf digit] ∧
    toUpperCase (charOf digit).toLower = [charOf digit] ∧ charOf digit ≠ '=' ∧
    (charOf digit).toLower ≠ '=' ∧ charOf digit ∈ base32Alphabet := by
  decide +kernel

theorem base32Char_digit (value : BitVec 32) (bits : Nat) :
    base32Char ((value >>> bits) &&& 31) = charOf (value.toNat / 2 ^ bits % 2 ^ 5) := by
  have digit := digit_toNat 5 bits value (by decide)
  exact congrArg charOf digit

/-! ## Encoding -/

theorem drain_holds {pushed out : List Nat} {value : BitVec 32} {bits : Nat}
    (holds : Holds 8 5 pushed out value bits) :
    ∃ digits, (drain value bits).1 = digits.map charOf ∧ (drain value bits).2 < 5 ∧
      Holds 8 5 pushed (out ++ digits) value (drain value bits).2 := by
  fun_induction drain value bits generalizing out with
  | case1 bits later left rest ih =>
    obtain ⟨digits, same, few, holds'⟩ := ih holds.take
    rw [rest] at same few holds'
    refine ⟨value.toNat / 2 ^ bits % 2 ^ 5 :: digits, ?_, few, ?_⟩
    · rw [base32Char_digit, List.map_cons, ← same]
    · rw [List.append_assoc, List.singleton_append] at holds'
      exact holds'
  | case2 bits few =>
    refine ⟨[], rfl, ?_, ?_⟩
    · by_contra many
      exact few (bits - 5) (by omega)
    · rw [List.append_nil]
      exact holds

theorem encoder_holds (input : List UInt8) :
    let e := input.foldl Encoder.next ⟨0, 0, []⟩
    ∃ digits, e.output = digits.map charOf ∧ e.bits < 5 ∧
      Holds 8 5 (input.map UInt8.toNat) digits e.value e.bits := by
  induction input using List.reverseRecOn with
  | nil => exact ⟨[], rfl, by decide, .start 8 5 0⟩
  | append_singleton input byte ih =>
    obtain ⟨digits, same, few, holds⟩ := ih
    rw [List.foldl_append, List.foldl_cons, List.foldl_nil, List.map_append, List.map_singleton]
    generalize input.foldl Encoder.next ⟨0, 0, []⟩ = e at same few holds
    obtain ⟨more, same', few', holds'⟩ := drain_holds (holds.push byte.toNat_lt (by omega))
    refine ⟨digits ++ more, ?_, few', holds'⟩
    rw [List.map_append, ← same, ← same']
    rfl

/-- The characters of a text, by number. They are worth what the bytes are, with zeros behind. -/
theorem encodeBase32_digits (input : List UInt8) :
    ∃ digits pad, encodeBase32 input = String.ofList (digits.map charOf) ∧ pad < 5 ∧
      (∀ digit ∈ digits, digit < 2 ^ 5) ∧ 5 * digits.length = 8 * input.length + pad ∧
      number 5 digits = number 8 (input.map UInt8.toNat) * 2 ^ pad := by
  obtain ⟨digits, same, few, holds⟩ := encoder_holds input
  unfold encodeBase32
  generalize input.foldl Encoder.next ⟨0, 0, []⟩ = e at same few holds
  have count := holds.count
  have total := holds.total
  rw [List.length_map] at count
  dsimp only
  split
  · rename_i left
    obtain ⟨small, worth⟩ := holds.pad few.le
    refine ⟨_, 5 - e.bits, ?_, by omega, small, ?_, worth⟩
    · have last := padded_toNat e.value few.le (by decide)
      rw [List.map_append, List.map_singleton, ← same, ← last]
      rfl
    · rw [List.length_append, List.length_singleton]
      omega
  · rename_i none_
    have zero : e.bits = 0 := by omega
    rw [zero] at count total
    refine ⟨digits, 0, by rw [same], by decide, holds.small, by omega, ?_⟩
    rw [total, Nat.pow_zero, Nat.mod_one, Nat.mul_one, Nat.mul_one, Nat.add_zero]

/-! ## Decoding -/

theorem next_holds {pushed out : List Nat} {d : Decoder} {digit : Nat}
    (holds : Holds 5 8 pushed out d.value d.bits) (written : d.output = out.map UInt8.ofNat)
    (few : d.bits < 8) (small : digit < 2 ^ 5) :
    ∃ d' out', d.next (charOf digit) = .ok d' ∧ d'.output = out'.map UInt8.ofNat ∧ d'.bits < 8 ∧
      Holds 5 8 (pushed ++ [digit]) out' d'.value d'.bits := by
  have pushed' := holds.push small (by omega)
  unfold Decoder.next
  rw [idxOf_charOf digit small]
  dsimp only
  split
  · rename_i full
    obtain ⟨bits, rest⟩ : ∃ bits, d.bits + 5 = bits + 8 := ⟨d.bits + 5 - 8, by omega⟩
    rw [rest] at pushed' ⊢
    refine ⟨_, _, rfl, ?_, by dsimp only; omega, pushed'.take⟩
    have byte := digit_toNat 8 bits (push 5 d.value digit) (by decide)
    rw [written, List.map_append, List.map_singleton, ← byte]
    rfl
  · rename_i short
    exact ⟨_, out, rfl, written, not_le.mp short, pushed'⟩

theorem decoder_holds {digits : List Nat} (small : ∀ digit ∈ digits, digit < 2 ^ 5) :
    ∃ d out, (digits.map charOf).foldlM Decoder.next ⟨0, 0, []⟩ = .ok d ∧
      d.output = out.map UInt8.ofNat ∧ d.bits < 8 ∧ Holds 5 8 digits out d.value d.bits := by
  induction digits using List.reverseRecOn with
  | nil => exact ⟨_, [], rfl, rfl, by decide, .start 5 8 0⟩
  | append_singleton digits digit ih =>
    obtain ⟨d, out, reads, written, few, holds⟩ :=
      ih fun other member => small other (List.mem_append_left _ member)
    obtain ⟨d', out', next, written', few', holds'⟩ := next_holds holds written few
      (small digit (List.mem_append_right _ (List.mem_singleton_self _)))
    refine ⟨d', out', ?_, written', few', holds'⟩
    rw [List.map_append, List.map_singleton, List.foldlM_append, reads]
    change List.foldlM Decoder.next d [charOf digit] = _
    rw [List.foldlM_cons, next]
    rfl

/-- The bytes of a text come back, whatever is above the bits of the register. -/
theorem decodeBase32_digits {input : List UInt8} {digits : List Nat} {pad : Nat} {text : String}
    (short : pad < 5) (small : ∀ digit ∈ digits, digit < 2 ^ 5)
    (count : 5 * digits.length = 8 * input.length + pad)
    (total : number 5 digits = number 8 (input.map UInt8.toNat) * 2 ^ pad)
    (reads : (stripPadding text.toList).flatMap toUpperCase = digits.map charOf) :
    decodeBase32 text = .ok input := by
  obtain ⟨d, out, decodes, written, few, holds⟩ := decoder_holds small
  have bytes : ∀ digit ∈ input.map UInt8.toNat, digit < 2 ^ 8 := by
    intro digit member
    obtain ⟨byte, _, rfl⟩ := List.mem_map.mp member
    exact byte.toNat_lt
  have same : out = input.map UInt8.toNat := holds.inverse bytes (by omega) few
    (by rw [List.length_map]; exact count) total
  have output : d.output = input := by
    rw [written, same, List.map_map]
    exact List.map_id'' (fun byte => UInt8.ofNat_toNat) input
  unfold decodeBase32
  rw [reads, decodes]
  change Except.ok d.output = _
  rw [output]

theorem stripPadding_append {text : List Char} (unpadded : ∀ c ∈ text, c ≠ '=') (padding : Nat) :
    stripPadding (text ++ List.replicate padding '=') = text := by
  have front : text.reverse.dropWhile (· = '=') = text.reverse := by
    cases back : text.reverse with
    | nil => rfl
    | cons c rest =>
      have inside : c ∈ text := List.mem_reverse.mp (back ▸ List.mem_cons_self)
      exact List.dropWhile_cons_of_neg (by simpa using unpadded c inside)
  unfold stripPadding
  rw [List.reverse_append, List.reverse_replicate,
    List.dropWhile_append_of_pos fun c member => decide_eq_true (List.eq_of_mem_replicate member),
    front, List.reverse_reverse]

/-- Any writing of the characters that `toUpperCase` gives back. -/
theorem reads_written {digits : List Nat} {write : Char → Char}
    (small : ∀ digit ∈ digits, digit < 2 ^ 5)
    (back : ∀ digit < 2 ^ 5, toUpperCase (write (charOf digit)) = [charOf digit] ∧
      write (charOf digit) ≠ '=') (padding : Nat) :
    (stripPadding ((digits.map charOf).map write ++ List.replicate padding '=')).flatMap toUpperCase =
      digits.map charOf := by
  have unpadded : ∀ c ∈ (digits.map charOf).map write, c ≠ '=' := by
    intro c member
    rw [List.map_map] at member
    obtain ⟨digit, inside, rfl⟩ := List.mem_map.mp member
    exact (back digit (small digit inside)).2
  rw [stripPadding_append unpadded, List.map_map, List.flatMap_map, ← List.flatMap_pure_eq_map]
  refine List.flatMap_congr fun digit inside => ?_
  exact (back digit (small digit inside)).1

theorem decodeBase32_written (input : List UInt8) {write : Char → Char}
    (back : ∀ digit < 2 ^ 5, toUpperCase (write (charOf digit)) = [charOf digit] ∧
      write (charOf digit) ≠ '=') (padding : Nat) :
    decodeBase32 (String.ofList ((encodeBase32 input).toList.map write) ++
      String.ofList (List.replicate padding '=')) = .ok input := by
  obtain ⟨digits, pad, text, short, small, count, total⟩ := encodeBase32_digits input
  refine decodeBase32_digits short small count total ?_
  rw [text, String.toList_append, String.toList_ofList, String.toList_ofList, String.toList_ofList]
  exact reads_written small back padding

/-- A secret comes back from its text, also from the text in small letters and with any padding. -/
theorem base32_round_trip (input : List UInt8) (padding : Nat) :
    decodeBase32 (encodeBase32 input ++ String.ofList (List.replicate padding '=')) = .ok input ∧
    decodeBase32 (Matching.toLowerCase (encodeBase32 input) ++
      String.ofList (List.replicate padding '=')) = .ok input ∧
    (encodeBase32 input).length = (8 * input.length + 4) / 5 ∧
    (∀ c ∈ (encodeBase32 input).toList, c ∈ base32Alphabet) ∧ Function.Injective encodeBase32 := by
  have plain : ∀ (bytes : List UInt8) (padding : Nat),
      decodeBase32 (encodeBase32 bytes ++ String.ofList (List.replicate padding '=')) = .ok bytes := by
    intro bytes padding
    have decodes : decodeBase32 (String.ofList ((encodeBase32 bytes).toList.map id) ++
        String.ofList (List.replicate padding '=')) = .ok bytes := decodeBase32_written bytes
      (fun digit small => ⟨(toUpperCase_charOf digit small).1, (toUpperCase_charOf digit small).2.2.1⟩)
      padding
    rw [List.map_id, String.ofList_toList] at decodes
    exact decodes
  refine ⟨plain input padding, decodeBase32_written input
    (fun digit small => ⟨(toUpperCase_charOf digit small).2.1,
      (toUpperCase_charOf digit small).2.2.2.1⟩) padding, ?_, ?_, fun first second same => ?_⟩
  · obtain ⟨digits, pad, text, short, _, count, _⟩ := encodeBase32_digits input
    rw [text, String.length_ofList, List.length_map]
    omega
  · obtain ⟨digits, _, text, _, small, _, _⟩ := encodeBase32_digits input
    intro c member
    rw [text, String.toList_ofList] at member
    obtain ⟨digit, inside, rfl⟩ := List.mem_map.mp member
    exact (toUpperCase_charOf digit (small digit inside)).2.2.2.2
  · have decodes := plain first 0
    rw [same, plain second 0] at decodes
    exact (Except.ok.inj decodes).symm

end SwitchRemake.Auth.Mfa

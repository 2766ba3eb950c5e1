import SwitchRemake.Lib.Int32
import SwitchRemake.Lib.Sha256

/-!
# The hash of the human check

`sha256.ts` of the human check, which a browser's worker and the server both run. Its numbers are
cut to 32 bits by the operators, signed or unsigned, and sums are exact before they are cut.
-/

namespace SwitchRemake.Shared.Charge
open Lib Int32
open Sha256 (Word Words)

/-- `K`. -/
def K : List Nat :=
  [0x428a2f98, 0x71374491, 0xb5c0fbcf, 0xe9b5dba5, 0x3956c25b, 0x59f111f1, 0x923f82a4, 0xab1c5ed5,
    0xd807aa98, 0x12835b01, 0x243185be, 0x550c7dc3, 0x72be5d74, 0x80deb1fe, 0x9bdc06a7, 0xc19bf174,
    0xe49b69c1, 0xefbe4786, 0x0fc19dc6, 0x240ca1cc, 0x2de92c6f, 0x4a7484aa, 0x5cb0a9dc, 0x76f988da,
    0x983e5152, 0xa831c66d, 0xb00327c8, 0xbf597fc7, 0xc6e00bf3, 0xd5a79147, 0x06ca6351, 0x14292967,
    0x27b70a85, 0x2e1b2138, 0x4d2c6dfc, 0x53380d13, 0x650a7354, 0x766a0abb, 0x81c2c92e, 0x92722c85,
    0xa2bfe8a1, 0xa81a664b, 0xc24b8b70, 0xc76c51a3, 0xd192e819, 0xd6990624, 0xf40e3585, 0x106aa070,
    0x19a4c116, 0x1e376c08, 0x2748774c, 0x34b0bcb5, 0x391c0cb3, 0x4ed8aa4a, 0x5b9cca4f, 0x682e6ff3,
    0x748f82ee, 0x78a5636f, 0x84c87814, 0x8cc70208, 0x90befffa, 0xa4506ceb, 0xbef9a3f7, 0xc67178f2]

/-- The variables `a` to `h` and `h0` to `h7`. -/
structure Vars where
  a : Int
  b : Int
  c : Int
  d : Int
  e : Int
  f : Int
  g : Int
  h : Int

/-- `view.setUint32`. -/
def setUint32 (bytes : List UInt8) (offset : Nat) (value : Int) : List UInt8 :=
  let v := (word value).toNat
  (((bytes.set offset (UInt8.ofNat (v / 2 ^ 24))).set (offset + 1) (UInt8.ofNat (v / 2 ^ 16))).set
    (offset + 2) (UInt8.ofNat (v / 2 ^ 8))).set (offset + 3) (UInt8.ofNat v)

/-- `view.getUint32`. -/
def getUint32 (bytes : List UInt8) (offset : Nat) : Int :=
  ((bytes.getD offset 0).toNat * 2 ^ 24 + (bytes.getD (offset + 1) 0).toNat * 2 ^ 16 +
    (bytes.getD (offset + 2) 0).toNat * 2 ^ 8 + (bytes.getD (offset + 3) 0).toNat : Nat)

/-- An element of the `Uint32Array` `W`. -/
abbrev read (w : Vector Word 64) (i : Nat) : Int := (w[i]?.getD 0).toNat

/-- What the second loop stores at `i`. -/
def expandWord (w : Vector Word 64) (i : Nat) : Int :=
  let a := read w (i - 15)
  let b := read w (i - 2)
  let s0 := bitXor (bitXor (bitOr (ushr a 7) (shl a 25)) (bitOr (ushr a 18) (shl a 14))) (ushr a 3)
  let s1 := bitXor (bitXor (bitOr (ushr b 17) (shl b 15)) (bitOr (ushr b 19) (shl b 13))) (ushr b 10)
  signed (read w (i - 16) + s0 + read w (i - 7) + s1)

/-- The two loops that fill `W`, which holds what the call before has left there. -/
def fill (padded : List UInt8) (offset : Nat) (w : Vector Word 64) : Vector Word 64 :=
  let w := (List.range 16).foldl
    (fun w i => w.setIfInBounds i (word (getUint32 padded (offset + i * 4)))) w
  (List.range' 16 48).foldl (fun w i => w.setIfInBounds i (word (expandWord w i))) w

def Vars.round (v : Vars) (constant word : Int) : Vars :=
  let S1 := bitXor (bitXor (bitOr (ushr v.e 6) (shl v.e 26)) (bitOr (ushr v.e 11) (shl v.e 21)))
    (bitOr (ushr v.e 25) (shl v.e 7))
  let ch := bitXor (bitAnd v.e v.f) (bitAnd (bitNot v.e) v.g)
  let t1 := signed (v.h + S1 + ch + constant + word)
  let S0 := bitXor (bitXor (bitOr (ushr v.a 2) (shl v.a 30)) (bitOr (ushr v.a 13) (shl v.a 19)))
    (bitOr (ushr v.a 22) (shl v.a 10))
  let maj := bitXor (bitXor (bitAnd v.a v.b) (bitAnd v.a v.c)) (bitAnd v.b v.c)
  let t2 := signed (S0 + maj)
  ⟨signed (t1 + t2), v.a, v.b, v.c, signed (v.d + t1), v.e, v.f, v.g⟩

def Vars.add (x y : Vars) : Vars :=
  ⟨signed (x.a + y.a), signed (x.b + y.b), signed (x.c + y.c), signed (x.d + y.d),
    signed (x.e + y.e), signed (x.f + y.f), signed (x.g + y.g), signed (x.h + y.h)⟩

def Vars.initial : Vars :=
  ⟨0x6a09e667, 0xbb67ae85, 0x3c6ef372, 0xa54ff53a, 0x510e527f, 0x9b05688c, 0x1f83d9ab, 0x5be0cd19⟩

/-- One turn of the loop over the blocks. -/
def block (padded : List UInt8) (state : Vector Word 64 × Vars) (offset : Nat) : Vector Word 64 × Vars :=
  let w := fill padded offset state.1
  (w, state.2.add ((List.range 64).foldl
    (fun v i => v.round (K.getD i 0 : Nat) (read w i)) state.2))

def Vars.toList (v : Vars) : List Int := [v.a, v.b, v.c, v.d, v.e, v.f, v.g, v.h]

/-- `sha256`. A length that is negative as a number of 32 bits, and a message that is longer than its
buffer, throw. -/
def sha256 (w : Vector Word 64) (message : List UInt8) : Option (List UInt8) :=
  let bitLength := message.length * 8
  let size := shl (shr (message.length + 9 + 63) 6) 6
  if size < message.length then none
  else
    let padded := (message ++ List.replicate (size.toNat - message.length) 0).set message.length 0x80
    let padded := setUint32 padded (padded.length - 8) (bitLength / 2 ^ 32 : Nat)
    let padded := setUint32 padded (padded.length - 4) (unsigned bitLength)
    let state := ((List.range ((padded.length + 63) / 64)).map (· * 64)).foldl (block padded)
      (w, .initial)
    some ((state.2.toList.zipIdx).foldl (fun out entry => setUint32 out (entry.2 * 4) (unsigned entry.1))
      (List.replicate 32 0))

/-! ## A block -/

theorem word_rotate (n : Int) {count back : Nat} (turn : count + back = 32) (positive : 0 < back) :
    word (bitOr (ushr n count) (shl n back)) = (word n).rotateRight count := by
  rw [word_or, word_ushr, word_shl, BitVec.rotateRight_def, Nat.mod_eq_of_lt (by omega),
    show 32 - count = back by omega]

theorem word_getUint32 (bytes : List UInt8) (offset : Nat) :
    word (getUint32 bytes offset) = Sha256.wordAt bytes offset := by
  rw [getUint32, word_natCast, Sha256.wordAt]
  simp only [Nat.reducePow]

section
variable {w : Vector Word 64} {block : Nat → Word}

/-- `W` holds the schedule up to a place. -/
def Scheduled (block : Nat → Word) (w : Vector Word 64) (count : Nat) : Prop :=
  ∀ t < count, w[t]? = some (Sha256.schedule block t)

theorem Scheduled.read (scheduled : Scheduled block w count) {t : Nat} (below : t < count) :
    word (read w t) = Sha256.schedule block t := by
  rw [Charge.read, word_toNat, scheduled t below, Option.getD_some]

theorem Scheduled.next {count : Nat} (scheduled : Scheduled block w count) (room : count < 64)
    {value : Int} (next : word value = Sha256.schedule block count) :
    Scheduled block (w.setIfInBounds count (word value)) (count + 1) := by
  intro t below
  by_cases last : count = t
  · subst last
    rw [Vector.getElem?_setIfInBounds_self_of_lt room, next]
  · rw [Vector.getElem?_setIfInBounds_ne last]
    exact scheduled t (by omega)

theorem word_expandWord {count : Nat} (scheduled : Scheduled block w count) (later : 16 ≤ count) :
    word (expandWord w count) = Sha256.schedule block count := by
  have at_ (back : Nat) (positive : 0 < back) : word (read w (count - back)) =
      Sha256.schedule block (count - back) := scheduled.read (by omega)
  rw [Sha256.schedule_of_le later, expandWord]
  simp only [word_signed, word_add, word_xor, word_ushr, word_rotate _ (show 7 + 25 = 32 by rfl),
    word_rotate _ (show 18 + 14 = 32 by rfl), word_rotate _ (show 17 + 15 = 32 by rfl),
    word_rotate _ (show 19 + 13 = 32 by rfl), Nat.reduceLT, at_, Sha256.smallSigma0,
    Sha256.smallSigma1]
  ac_rfl

theorem first_scheduled (padded : List UInt8) (offset : Nat) (w : Vector Word 64) {count : Nat}
    (le : count ≤ 16) : Scheduled (fun t => Sha256.wordAt padded (offset + t * 4))
      ((List.range count).foldl
        (fun w i => w.setIfInBounds i (word (getUint32 padded (offset + i * 4)))) w) count := by
  induction count with
  | zero => exact fun t below => absurd below (Nat.not_lt_zero t)
  | succ count ih =>
    rw [List.range_succ, List.foldl_append]
    refine (ih (by omega)).next (by omega) ?_
    rw [word_getUint32, Sha256.schedule_of_lt (by omega)]

theorem later_scheduled (first : Scheduled block w 16) {count : Nat} (le : count ≤ 48) :
    Scheduled block ((List.range' 16 count).foldl
      (fun w i => w.setIfInBounds i (word (expandWord w i))) w) (16 + count) := by
  induction count with
  | zero => exact first
  | succ count ih =>
    have before := ih (by omega)
    rw [List.range'_concat, Nat.one_mul, List.foldl_append]
    exact before.next (by omega) (word_expandWord before (by omega))

theorem fill_scheduled (padded : List UInt8) (offset : Nat) (w : Vector Word 64) :
    Scheduled (fun t => Sha256.wordAt padded (offset + t * 4)) (fill padded offset w) 64 :=
  later_scheduled (first_scheduled padded offset w (Nat.le_refl 16)) (Nat.le_refl 48)

/-- The words of the variables. -/
def Vars.words (v : Vars) : Words :=
  ⟨word v.a, word v.b, word v.c, word v.d, word v.e, word v.f, word v.g, word v.h⟩

theorem Vars.words_add (x y : Vars) : (x.add y).words = x.words.add y.words := by
  simp only [Vars.words, Vars.add, Words.add, word_signed, word_add]

theorem Vars.words_round (v : Vars) (constant value : Int) :
    (v.round constant value).words = Sha256.round v.words (word constant) (word value) := by
  simp only [Vars.words, Vars.round, Sha256.round, word_signed, word_add, word_xor, word_and,
    word_not, word_rotate _ (show 6 + 26 = 32 by rfl), word_rotate _ (show 11 + 21 = 32 by rfl),
    word_rotate _ (show 25 + 7 = 32 by rfl), word_rotate _ (show 2 + 30 = 32 by rfl),
    word_rotate _ (show 13 + 19 = 32 by rfl), word_rotate _ (show 22 + 10 = 32 by rfl),
    Nat.reduceLT, Sha256.bigSigma0, Sha256.bigSigma1, Sha256.ch, Sha256.maj]

theorem word_constant (t : Nat) : word (K.getD t 0 : Nat) = Sha256.constants.getD t 0 := by
  have same : Sha256.constants = K.map (BitVec.ofNat 32) := by decide
  rw [word_natCast, same, List.getD_eq_getElem?_getD, List.getD_eq_getElem?_getD, List.getElem?_map]
  cases K[t]? <;> rfl

theorem rounds_words (scheduled : Scheduled block w 64) (v : Vars) {count : Nat} (le : count ≤ 64) :
    ((List.range count).foldl (fun v i => v.round (K.getD i 0 : Nat) (read w i)) v).words =
      (List.range count).foldl (fun x t => Sha256.round x (Sha256.constants.getD t 0)
        (Sha256.schedule block t)) v.words := by
  induction count with
  | zero => rfl
  | succ count ih =>
    rw [List.range_succ, List.foldl_append, List.foldl_append, ← ih (by omega)]
    simp only [List.foldl_cons, List.foldl_nil, Vars.words_round, word_constant,
      scheduled.read (show count < 64 by omega)]

theorem block_words (padded : List UInt8) (state : Vector Word 64 × Vars) (offset : Nat) :
    (Charge.block padded state offset).2.words = Sha256.compress state.2.words
      (fun t => Sha256.wordAt padded (offset + t * 4)) := by
  rw [Charge.block, Sha256.compress, Vars.words_add,
    rounds_words (fill_scheduled padded offset state.1) state.2 (Nat.le_refl 64)]

end

/-! ## The bytes -/

theorem ofNat_congr {m n : Nat} (same : m % 256 = n % 256) : UInt8.ofNat m = UInt8.ofNat n :=
  UInt8.toNat_inj.mp (by rw [UInt8.toNat_ofNat', UInt8.toNat_ofNat']; exact same)

theorem setUint32_append {front back : List UInt8} {offset : Nat} (place : front.length = offset)
    (value : Int) : setUint32 (front ++ List.replicate 4 0 ++ back) offset value =
      front ++ Sha256.bigEndian 4 (word value).toNat ++ back := by
  have four : List.replicate 4 (0 : UInt8) = [0, 0, 0, 0] := rfl
  have bytes (n : Nat) : Sha256.bigEndian 4 n = [UInt8.ofNat (n / 2 ^ 24), UInt8.ofNat (n / 2 ^ 16),
      UInt8.ofNat (n / 2 ^ 8), UInt8.ofNat n] := by
    rw [Sha256.bigEndian]
    simp [List.range_succ]
  subst place
  rw [four, bytes, List.append_assoc, List.append_assoc, setUint32]
  simp [List.set_append_right]

theorem bigEndian_eight (n : Nat) : Sha256.bigEndian 8 n =
    Sha256.bigEndian 4 (word ((n / 2 ^ 32 : Nat) : Int)).toNat ++
      Sha256.bigEndian 4 (word (unsigned n)).toNat := by
  rw [word_unsigned, word_natCast, word_natCast, BitVec.toNat_ofNat, BitVec.toNat_ofNat]
  simp only [Sha256.bigEndian, List.range_succ, List.range_zero, List.nil_append,
    List.map_cons, List.map_nil, List.cons_append, List.cons.injEq, and_true]
  refine ⟨?_, ?_, ?_, ?_, ?_, ?_, ?_, ?_⟩ <;> refine ofNat_congr ?_ <;> simp only [Nat.reducePow,
    Nat.reduceSub] <;> omega

/-- The buffer with the bit after the message and the length of the message. -/
theorem pad_eq {message : List UInt8} {size : Nat} (room : size = (message.length + 72) / 64 * 64) :
    setUint32 (setUint32 ((message ++ List.replicate (size - message.length) 0).set message.length 0x80)
      (size - 8) ((message.length * 8 / 2 ^ 32 : Nat) : Int)) (size - 4)
        (unsigned ((message.length * 8 : Nat) : Int)) = Sha256.pad message := by
  have zeros : size - message.length = (119 - message.length % 64) % 64 + 4 + 4 + 1 := by omega
  have marked : (message ++ List.replicate (size - message.length) 0).set message.length 0x80 =
      (message ++ 0x80 :: List.replicate ((119 - message.length % 64) % 64) 0) ++
        List.replicate 4 0 ++ List.replicate 4 0 := by
    rw [zeros, List.replicate_succ, List.set_append_right _ _ (Nat.le_refl _), Nat.sub_self,
      List.set_cons_zero, ← List.replicate_append_replicate,
      show List.replicate 8 (0 : UInt8) = List.replicate 4 0 ++ List.replicate 4 0 from rfl]
    simp only [List.append_assoc, List.cons_append]
  rw [marked, setUint32_append (by simp; omega)]
  have last : (message ++ 0x80 :: List.replicate ((119 - message.length % 64) % 64) 0 ++
      Sha256.bigEndian 4 (word ((message.length * 8 / 2 ^ 32 : Nat) : Int)).toNat).length =
        size - 4 := by
    simp [Sha256.length_bigEndian]
    omega
  have finish := @setUint32_append _ [] _ last (unsigned ((message.length * 8 : Nat) : Int))
  rw [List.append_nil, List.append_nil] at finish
  rw [finish, Sha256.pad, Nat.mul_comm 8, bigEndian_eight, List.append_assoc]

/-- The eight words are written one after the other. -/
theorem out_eq (v : Vars) : (v.toList.zipIdx).foldl
      (fun out entry => setUint32 out (entry.2 * 4) (unsigned entry.1)) (List.replicate 32 0) =
    v.words.toList.flatMap fun word => Sha256.bigEndian 4 word.toNat := by
  have write (written : List (BitVec 32)) (values : List Int) : (values.zipIdx written.length).foldl
      (fun out entry => setUint32 out (entry.2 * 4) (unsigned entry.1))
        (written.flatMap (fun word => Sha256.bigEndian 4 word.toNat) ++
          List.replicate (values.length * 4) 0) =
      (written ++ values.map word).flatMap fun word => Sha256.bigEndian 4 word.toNat := by
    induction values generalizing written with
    | nil => simp
    | cons value rest ih =>
      have place : (written.flatMap fun word => Sha256.bigEndian 4 word.toNat).length =
          written.length * 4 := by
        simp [List.length_flatMap, Sha256.length_bigEndian, List.map_const']
      rw [List.zipIdx_cons, List.foldl_cons, List.length_cons, Nat.succ_mul, Nat.add_comm,
        ← List.replicate_append_replicate, ← List.append_assoc, setUint32_append place, word_unsigned]
      have next := ih (written ++ [word value])
      rw [List.length_append, List.flatMap_append] at next
      simpa [List.append_assoc] using next
  exact write [] v.toList

theorem blocks_words (padded : List UInt8) (count : Nat) (state : Vector Word 64 × Vars) :
    (((List.range count).map (· * 64)).foldl (Charge.block padded) state).2.words =
      ((List.range count).map fun i t => Sha256.wordAt padded (64 * i + 4 * t)).foldl
        Sha256.compress state.2.words := by
  induction count with
  | zero => rfl
  | succ count ih =>
    rw [List.range_succ, List.map_append, List.map_append, List.foldl_append, List.foldl_append, ← ih]
    simp only [List.map_cons, List.map_nil, List.foldl_cons, List.foldl_nil, block_words,
      Nat.mul_comm 64, Nat.mul_comm 4]

/-- A message of a size that numbers of 32 bits can hold is hashed as the standard says, whatever the
call before has left in `W`; a longer one throws. -/
theorem sha256_eq (w : Vector Word 64) (message : List UInt8) : sha256 w message =
    if message.length + 72 < 2 ^ 31 then some (Sha256.hash message) else none := by
  have size : shl (shr ((message.length : Int) + 9 + 63) 6) 6 =
      signed (message.length + 72) / 2 ^ 6 * 2 ^ 6 := by
    rw [shl_shr _ (by decide), show (message.length : Int) + 9 + 63 = message.length + 72 by omega]
  have whole := signed_range (message.length + 72)
  rw [sha256, size]
  by_cases small : message.length + 72 < 2 ^ 31
  · have exact_ : signed ((message.length : Int) + 72) / 2 ^ 6 * 2 ^ 6 =
        (((message.length + 72) / 64 * 64 : Nat) : Int) := by
      rw [signed_of_small (by omega) (by omega)]
      simp
    have room : ¬ (((message.length + 72) / 64 * 64 : Nat) : Int) < message.length := by omega
    have length : ((message ++ List.replicate ((message.length + 72) / 64 * 64 - message.length)
        (0 : UInt8)).set message.length 0x80).length = (message.length + 72) / 64 * 64 := by
      rw [List.length_set, List.length_append, List.length_replicate]
      omega
    have again (bytes : List UInt8) (offset : Nat) (value : Int) :
        (setUint32 bytes offset value).length = bytes.length := by
      simp only [setUint32, List.length_set]
    rw [if_pos small, exact_, if_neg room, Int.toNat_natCast]
    have turns : ((message.length + 72) / 64 * 64 + 63) / 64 = (message.length + 72) / 64 := by omega
    have turns' : (message.length + 72) / 64 * 64 / 64 = (message.length + 72) / 64 := by omega
    simp only [again, length, out_eq, pad_eq rfl, Sha256.length_pad, turns, blocks_words, Sha256.hash,
      Sha256.blocks, turns']
    rfl
  · have wrapped : signed ((message.length : Int) + 72) ≤ message.length + 72 - 2 ^ 32 := by
      rw [signed_eq_bmod, Int.bmod]
      split <;> omega
    rw [if_neg small, if_pos (by omega)]

end SwitchRemake.Shared.Charge

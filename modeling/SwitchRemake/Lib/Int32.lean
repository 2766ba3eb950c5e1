import Mathlib.Algebra.Order.Ring.Int

/-!
# Integers of 32 bits

The bitwise operators of a language whose numbers are wider: the operands are cut to 32 bits and the
result is read as a signed number, or as an unsigned one after `>>>`.
-/

namespace SwitchRemake.Lib.Int32

/-- The 32 bits that are left of a number. -/
abbrev word (n : Int) : BitVec 32 := BitVec.ofInt 32 n

/-- `n | 0`. -/
def signed (n : Int) : Int := (word n).toInt

/-- `n >>> 0`. -/
def unsigned (n : Int) : Int := (word n).toNat

def bitOr (a b : Int) : Int := (word a ||| word b).toInt
def bitXor (a b : Int) : Int := (word a ^^^ word b).toInt
def bitAnd (a b : Int) : Int := (word a &&& word b).toInt
def bitNot (a : Int) : Int := (~~~word a).toInt

/-- `a << count`. -/
def shl (a : Int) (count : Nat) : Int := (word a <<< count).toInt

/-- `a >> count`. -/
def shr (a : Int) (count : Nat) : Int := ((word a).sshiftRight count).toInt

/-- `a >>> count`. -/
def ushr (a : Int) (count : Nat) : Int := (word a >>> count).toNat

theorem word_toNat (w : BitVec 32) : word w.toNat = w := by
  rw [word, BitVec.ofInt_natCast, BitVec.ofNat_toNat, BitVec.setWidth_eq]

theorem word_natCast (n : Nat) : word n = BitVec.ofNat 32 n := BitVec.ofInt_natCast ..

section
variable (a b : Int) (count : Nat)

@[simp] theorem word_add : word (a + b) = word a + word b := BitVec.ofInt_add a b
@[simp] theorem word_signed : word (signed a) = word a := BitVec.ofInt_toInt
@[simp] theorem word_unsigned : word (unsigned a) = word a := word_toNat _
@[simp] theorem word_or : word (bitOr a b) = word a ||| word b := BitVec.ofInt_toInt
@[simp] theorem word_xor : word (bitXor a b) = word a ^^^ word b := BitVec.ofInt_toInt
@[simp] theorem word_and : word (bitAnd a b) = word a &&& word b := BitVec.ofInt_toInt
@[simp] theorem word_not : word (bitNot a) = ~~~word a := BitVec.ofInt_toInt
@[simp] theorem word_shl : word (shl a count) = word a <<< count := BitVec.ofInt_toInt
@[simp] theorem word_ushr : word (ushr a count) = word a >>> count := word_toNat _

end

theorem unsigned_of_word {a b : Int} (same : word a = word b) : unsigned a = unsigned b := by
  rw [unsigned, same, unsigned]

theorem signed_eq_bmod (n : Int) : signed n = n.bmod (2 ^ 32) := BitVec.toInt_ofInt n

theorem signed_shl (a : Int) (count : Nat) : signed (shl a count) = shl a count :=
  congrArg BitVec.toInt (word_shl a count)

theorem signed_of_small {n : Int} (least : -2 ^ 31 ≤ n) (small : n < 2 ^ 31) : signed n = n := by
  rw [signed_eq_bmod, Int.bmod]
  split <;> omega

theorem signed_range (n : Int) : -2 ^ 31 ≤ signed n ∧ signed n < 2 ^ 31 := by
  rw [signed_eq_bmod, Int.bmod]
  constructor <;> split <;> omega

/-- A number that is shifted down and up again is rounded down to a multiple. -/
theorem shl_shr (n : Int) {count : Nat} (le : count ≤ 31) :
    shl (shr n count) count = signed n / 2 ^ count * 2 ^ count := by
  obtain ⟨least, small⟩ := signed_range n
  have positive : (0 : Int) < 2 ^ count := Int.pow_pos (by decide)
  have split_ : (2 : Int) ^ 31 = 2 ^ (31 - count) * 2 ^ count := by
    rw [← Int.pow_add, Nat.sub_add_cancel le]
  have down : shr n count = signed n / 2 ^ count := by
    rw [shr, BitVec.toInt_sshiftRight, Int.shiftRight_eq_div_pow]
    rfl
  have low : -2 ^ 31 ≤ signed n / 2 ^ count * 2 ^ count := by
    have above : -2 ^ (31 - count) ≤ signed n / 2 ^ count := by
      rw [Int.le_ediv_iff_mul_le positive, Int.neg_mul, ← split_]
      exact least
    calc (-2 ^ 31 : Int) = -2 ^ (31 - count) * 2 ^ count := by rw [split_, Int.neg_mul]
      _ ≤ signed n / 2 ^ count * 2 ^ count := Int.mul_le_mul_of_nonneg_right above positive.le
  have high : signed n / 2 ^ count * 2 ^ count < 2 ^ 31 :=
    Int.lt_of_le_of_lt (Int.ediv_mul_le _ positive.ne') small
  have bits : word (shl (shr n count) count) = word (signed n / 2 ^ count * 2 ^ count) := by
    rw [word_shl, down, BitVec.shiftLeft_eq_mul_twoPow, word, word, BitVec.ofInt_mul]
    congr 1
    rw [show ((2 : Int) ^ count) = ((2 ^ count : Nat) : Int) by rw [Int.natCast_pow]; rfl,
      BitVec.ofInt_natCast]
    exact BitVec.eq_of_toNat_eq (by rw [BitVec.toNat_twoPow, BitVec.toNat_ofNat])
  calc shl (shr n count) count = signed (shl (shr n count) count) := (signed_shl _ _).symm
    _ = signed (signed n / 2 ^ count * 2 ^ count) := congrArg BitVec.toInt bits
    _ = signed n / 2 ^ count * 2 ^ count := signed_of_small low high

end SwitchRemake.Lib.Int32

import Mathlib.Data.List.Induction
import Mathlib.Data.Nat.Bitwise
import Mathlib.Tactic.Ring

/-!
# Regrouping bits

A stream of digits of one width is read into a 32-bit register and taken out of it as digits of
another width. The register is never cleared: only its low bits count, and what is above them may be
anything.
-/

namespace SwitchRemake.Lib.Regroup

/-- What the digits are worth, each of `width` bits and the first the highest. -/
def number (width : Nat) (digits : List Nat) : Nat :=
  digits.foldl (fun total digit => total * 2 ^ width + digit) 0

@[simp] theorem number_nil (width : Nat) : number width [] = 0 := rfl

@[simp] theorem number_concat (width : Nat) (digits : List Nat) (digit : Nat) :
    number width (digits ++ [digit]) = number width digits * 2 ^ width + digit := by
  rw [number, List.foldl_append, List.foldl_cons, List.foldl_nil, ← number]

theorem number_lt {width : Nat} {digits : List Nat} (small : ∀ digit ∈ digits, digit < 2 ^ width) :
    number width digits < 2 ^ (width * digits.length) := by
  induction digits using List.reverseRecOn with
  | nil => exact Nat.one_pos
  | append_singleton digits digit ih =>
    have before := ih fun other member => small other (List.mem_append_left _ member)
    have last := small digit (List.mem_append_right _ (List.mem_singleton_self _))
    rw [number_concat, List.length_append, List.length_singleton, Nat.mul_succ, Nat.pow_add]
    calc number width digits * 2 ^ width + digit
        < (number width digits + 1) * 2 ^ width := by
          rw [Nat.succ_mul]
          exact Nat.add_lt_add_left last _
      _ ≤ 2 ^ (width * digits.length) * 2 ^ width := Nat.mul_le_mul_right _ before

/-- As many digits with the same worth are the same. -/
theorem number_injective {width : Nat} {first second : List Nat}
    (small : ∀ digit ∈ first, digit < 2 ^ width) (small' : ∀ digit ∈ second, digit < 2 ^ width)
    (length : first.length = second.length) (same : number width first = number width second) :
    first = second := by
  induction first using List.reverseRecOn generalizing second with
  | nil => exact (List.length_eq_zero_iff.mp length.symm).symm
  | append_singleton first digit ih =>
    rcases List.eq_nil_or_concat second with rfl | ⟨second, digit', rfl⟩
    · simp at length
    rw [List.concat_eq_append] at small' length same ⊢
    have last := small digit (List.mem_append_right _ (List.mem_singleton_self _))
    have last' := small' digit' (List.mem_append_right _ (List.mem_singleton_self _))
    rw [number_concat, number_concat] at same
    have digits : digit = digit' := by
      have rest := congrArg (· % 2 ^ width) same
      simpa [Nat.mul_add_mod', Nat.mod_eq_of_lt last, Nat.mod_eq_of_lt last'] using rest
    have front : number width first = number width second := by
      rw [digits] at same
      exact Nat.eq_of_mul_eq_mul_right (Nat.two_pow_pos width) (Nat.add_right_cancel same)
    rw [digits, ih (fun other member => small other (List.mem_append_left _ member))
      (fun other member => small' other (List.mem_append_left _ member)) (by simpa using length) front]

/-! ## The register -/

/-- The digit `digit` is shifted in from below. -/
def push (width : Nat) (value : BitVec 32) (digit : Nat) : BitVec 32 :=
  (value <<< width) ||| BitVec.ofNat 32 digit

theorem push_toNat {width digit : Nat} {value : BitVec 32} (small : digit < 2 ^ width)
    (fits : width ≤ 32) : (push width value digit).toNat = (value.toNat * 2 ^ width + digit) % 2 ^ 32 := by
  have below : digit < 2 ^ 32 := lt_of_lt_of_le small (Nat.pow_le_pow_right (by decide) fits)
  unfold push
  rw [BitVec.toNat_or, BitVec.toNat_shiftLeft, BitVec.toNat_ofNat, ← Nat.or_mod_two_pow,
    ← Nat.shiftLeft_add_eq_or_of_lt small, Nat.shiftLeft_eq]

theorem push_mod {width bits digit : Nat} {value : BitVec 32} (small : digit < 2 ^ width)
    (fits : bits + width ≤ 32) : (push width value digit).toNat % 2 ^ (bits + width) =
      value.toNat % 2 ^ bits * 2 ^ width + digit := by
  rw [push_toNat small (by omega), Nat.mod_mod_of_dvd _ (Nat.pow_dvd_pow 2 fits), Nat.pow_add,
    Nat.mul_comm (2 ^ bits), Nat.mod_mul, Nat.mul_add_mod', Nat.mod_eq_of_lt small,
    Nat.mul_comm value.toNat, Nat.mul_add_div (Nat.two_pow_pos width), Nat.div_eq_of_lt small,
    Nat.add_zero, Nat.mul_comm (2 ^ width), Nat.add_comm]

/-- The digit above the lowest `bits` bits. -/
theorem digit_toNat (width bits : Nat) (value : BitVec 32) (fits : width ≤ 32) :
    ((value >>> bits) &&& BitVec.ofNat 32 (2 ^ width - 1)).toNat =
      value.toNat / 2 ^ bits % 2 ^ width := by
  have below : 2 ^ width - 1 < 2 ^ 32 := by
    have bound := Nat.pow_le_pow_right (n := 2) (by decide) fits
    have positive := Nat.two_pow_pos width
    omega
  rw [BitVec.toNat_and, BitVec.toNat_ofNat, Nat.mod_eq_of_lt below, Nat.and_two_pow_sub_one_eq_mod,
    BitVec.toNat_ushiftRight, Nat.shiftRight_eq_div_pow]

/-- The lowest `bits` bits with zeros behind them. -/
theorem padded_toNat {width bits : Nat} (value : BitVec 32) (inside : bits ≤ width)
    (fits : width ≤ 32) :
    ((value <<< (width - bits)) &&& BitVec.ofNat 32 (2 ^ width - 1)).toNat =
      value.toNat % 2 ^ bits * 2 ^ (width - bits) := by
  have masked := digit_toNat width 0 (value <<< (width - bits)) fits
  have split : 2 ^ width = 2 ^ bits * 2 ^ (width - bits) := by
    rw [← Nat.pow_add, Nat.add_sub_cancel' inside]
  rw [BitVec.ushiftRight_zero, Nat.pow_zero, Nat.div_one] at masked
  rw [masked, BitVec.toNat_shiftLeft, Nat.shiftLeft_eq,
    Nat.mod_mod_of_dvd _ (Nat.pow_dvd_pow 2 fits), split, Nat.mul_mod_mul_right]

/-! ## The stream -/

/-- What has come in is what has gone out, followed by the lowest `bits` bits of the register. -/
structure Holds (from_ to_ : Nat) (pushed out : List Nat) (value : BitVec 32) (bits : Nat) : Prop where
  count : from_ * pushed.length = to_ * out.length + bits
  total : number from_ pushed = number to_ out * 2 ^ bits + value.toNat % 2 ^ bits
  small : ∀ digit ∈ out, digit < 2 ^ to_

variable {from_ to_ bits : Nat} {pushed out : List Nat} {value : BitVec 32}

theorem Holds.start (from_ to_ : Nat) (value : BitVec 32) : Holds from_ to_ [] [] value 0 where
  count := rfl
  total := by simp [Nat.mod_one]
  small := nofun

theorem Holds.push {digit : Nat} (holds : Holds from_ to_ pushed out value bits)
    (small : digit < 2 ^ from_) (fits : bits + from_ ≤ 32) :
    Holds from_ to_ (pushed ++ [digit]) out (push from_ value digit) (bits + from_) where
  count := by
    have count := holds.count
    rw [List.length_append, List.length_singleton, Nat.mul_succ]
    omega
  total := by
    rw [number_concat, holds.total, push_mod small fits, Nat.pow_add]
    ring
  small := holds.small

theorem Holds.take (holds : Holds from_ to_ pushed out value (bits + to_)) :
    Holds from_ to_ pushed (out ++ [value.toNat / 2 ^ bits % 2 ^ to_]) value bits where
  count := by
    have count := holds.count
    rw [List.length_append, List.length_singleton, Nat.mul_succ]
    omega
  total := by
    rw [holds.total, number_concat, Nat.pow_add, Nat.mod_mul]
    ring
  small digit member := by
    rcases List.mem_append.mp member with before | new
    · exact holds.small digit before
    · rw [List.mem_singleton.mp new]
      exact Nat.mod_lt _ (Nat.two_pow_pos to_)

/-- The last digit is what is left, with zeros behind. -/
theorem Holds.pad (holds : Holds from_ to_ pushed out value bits) (inside : bits ≤ to_) :
    (∀ digit ∈ out ++ [value.toNat % 2 ^ bits * 2 ^ (to_ - bits)], digit < 2 ^ to_) ∧
      number to_ (out ++ [value.toNat % 2 ^ bits * 2 ^ (to_ - bits)]) =
        number from_ pushed * 2 ^ (to_ - bits) := by
  have split : 2 ^ to_ = 2 ^ bits * 2 ^ (to_ - bits) := by
    rw [← Nat.pow_add, Nat.add_sub_cancel' inside]
  refine ⟨fun digit member => ?_, ?_⟩
  · rcases List.mem_append.mp member with before | new
    · exact holds.small digit before
    · rw [List.mem_singleton.mp new, split]
      exact Nat.mul_lt_mul_of_pos_right (Nat.mod_lt _ (Nat.two_pow_pos bits))
        (Nat.two_pow_pos (to_ - bits))
  · rw [number_concat, holds.total, split]
    ring

/-- A stream that is padded to whole digits and regrouped back is what it was. -/
theorem Holds.inverse {pad : Nat} {back digits : List Nat} {value' : BitVec 32} {bits' : Nat}
    (small : ∀ digit ∈ digits, digit < 2 ^ to_) (padding : pad < to_)
    (left : bits' < to_)
    (count : from_ * pushed.length = to_ * digits.length + pad)
    (total : number from_ pushed = number to_ digits * 2 ^ pad)
    (holds : Holds from_ to_ pushed back value' bits') : back = digits := by
  have length : back.length = digits.length ∧ bits' = pad := by
    have counts := holds.count.symm.trans count
    have lengths := congrArg (· / to_) counts
    simp only [Nat.mul_add_div (Nat.zero_lt_of_lt left), Nat.div_eq_of_lt left,
      Nat.div_eq_of_lt padding, Nat.add_zero] at lengths
    rw [lengths] at counts
    exact ⟨lengths, Nat.add_left_cancel counts⟩
  obtain ⟨length, rfl⟩ := length
  have rest : value'.toNat % 2 ^ bits' < 2 ^ bits' := Nat.mod_lt _ (Nat.two_pow_pos bits')
  have same : number to_ back = number to_ digits := by
    have totals := congrArg (· / 2 ^ bits') (holds.total.symm.trans total)
    simpa only [Nat.mul_comm _ (2 ^ bits'), Nat.mul_add_div (Nat.two_pow_pos bits'),
      Nat.div_eq_of_lt rest, Nat.add_zero, Nat.mul_div_cancel_left _ (Nat.two_pow_pos bits')]
      using totals
  exact number_injective holds.small small length same

end SwitchRemake.Lib.Regroup

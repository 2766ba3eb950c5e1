import SwitchRemake.Shared.Sha256

/-!
# Proof of work

`leadingZeroBits` of `sha256.ts`, `pow.ts`, and the loop of `chargeWorker.ts` and `charge.ts` that
looks for a counter step by step.
-/

namespace SwitchRemake.Shared.Charge
open Lib
open Sha256 (Word)

/-- `Math.clz32` of a number of 32 bits. -/
def clz32 (n : Nat) : Nat := if n = 0 then 32 else 31 - n.log2

/-- `leadingZeroBits`, from the byte the loop is at. -/
def countZeroBits (bits : Nat) : List UInt8 → Nat
  | [] => bits
  | byte :: rest =>
    if byte = 0 then countZeroBits (bits + 8) rest else bits + clz32 byte.toNat - 24

def leadingZeroBits (digest : List UInt8) : Nat := countZeroBits 0 digest

/-- `String(counter)` of a safe integer, in the code units of a string. -/
def decimal (counter : Nat) : List UInt16 :=
  (Nat.toDigits 10 counter).map fun c => UInt16.ofNat c.toNat

/-- The code units of `nonce:counter`, each cut to seven bits. -/
def powInput (nonce : List UInt16) (counter : Nat) : List UInt8 :=
  (nonce ++ 58 :: decimal counter).map fun unit => UInt8.ofNat (unit.toNat &&& 0x7f)

/-- `none` is a throw. -/
def powDigestBits (w : Vector Word 64) (nonce : List UInt16) (counter : Nat) : Option Nat :=
  (sha256 w (powInput nonce counter)).map leadingZeroBits

/-- `Number.MAX_SAFE_INTEGER`. -/
def MAX_SAFE_INTEGER : Nat := 2 ^ 53 - 1

def verifyPow (w : Vector Word 64) (nonce : List UInt16) (bits counter : Nat) : Option Bool :=
  if counter ≤ MAX_SAFE_INTEGER then
    (powDigestBits w nonce counter).map fun found => decide (bits ≤ found)
  else some false

/-- The loop of `searchPow`: the first counter that passes, `none` where a try throws. -/
def search (passes : Nat → Option Bool) (start : Nat) : Nat → Option (Option Nat)
  | 0 => some none
  | budget + 1 =>
    match passes start with
    | none => none
    | some true => some (some start)
    | some false => search passes (start + 1) budget

def searchPow (w : Vector Word 64) (nonce : List UInt16) (bits start budget : Nat) :
    Option (Option Nat) :=
  search (fun counter => (powDigestBits w nonce counter).map fun found => decide (bits ≤ found))
    start budget

/-- The loop that tries `step` counters a turn. -/
def inTurns (searchFrom : Nat → Option (Option Nat)) (step start : Nat) : Nat → Option (Option Nat)
  | 0 => some none
  | turns + 1 =>
    match searchFrom start with
    | some none => inTurns searchFrom step (start + step) turns
    | result => result

/-- The loop of the worker, whose step is `STEP`, and that of the main thread. -/
def charge (w : Vector Word 64) (step : Nat) (nonce : List UInt16) (bits turns : Nat) :
    Option (Option Nat) :=
  inTurns (fun start => searchPow w nonce bits start step) step 0 turns

/-! ## The bits of a digest -/

/-- The number that bytes stand for, the most significant first. -/
def number : List UInt8 → Nat
  | [] => 0
  | byte :: rest => byte.toNat * 256 ^ rest.length + number rest

theorem number_lt (bytes : List UInt8) : number bytes < 256 ^ bytes.length := by
  induction bytes with
  | nil => exact Nat.one_pos
  | cons byte rest ih =>
    have small : byte.toNat < 256 := byte.toNat_lt
    calc number (byte :: rest) < byte.toNat * 256 ^ rest.length + 256 ^ rest.length :=
          Nat.add_lt_add_left ih _
      _ = (byte.toNat + 1) * 256 ^ rest.length := (Nat.succ_mul _ _).symm
      _ ≤ 256 * 256 ^ rest.length := Nat.mul_le_mul_right _ small
      _ = 256 ^ (byte :: rest).length := by rw [List.length_cons, Nat.pow_succ, Nat.mul_comm]

theorem countZeroBits_add (bits : Nat) (bytes : List UInt8) :
    countZeroBits bits bytes = bits + leadingZeroBits bytes := by
  induction bytes generalizing bits with
  | nil => rfl
  | cons byte rest ih =>
    rw [leadingZeroBits, countZeroBits, countZeroBits]
    split
    · rw [ih, ih (0 + 8)]
      omega
    · rename_i some_
      have positive : byte.toNat ≠ 0 := fun zero => some_ (UInt8.toNat_inj.mp zero)
      have small : byte.toNat.log2 < 8 := (Nat.log2_lt positive).mpr byte.toNat_lt
      rw [clz32, if_neg positive]
      omega

/-- A digest begins with so many zero bits as it is small. -/
theorem le_leadingZeroBits_iff {bytes : List UInt8} {bits : Nat} (le : bits ≤ 8 * bytes.length) :
    bits ≤ leadingZeroBits bytes ↔ number bytes < 2 ^ (8 * bytes.length - bits) := by
  induction bytes generalizing bits with
  | nil =>
    have none_ : bits = 0 := Nat.le_zero.mp le
    subst none_
    exact iff_of_true (Nat.le_refl 0) Nat.one_pos
  | cons byte rest ih =>
    rw [List.length_cons] at le ⊢
    have power : (256 : Nat) ^ rest.length = 2 ^ (8 * rest.length) := by
      rw [Nat.pow_mul]
    have tail := number_lt rest
    rw [power] at tail
    rw [leadingZeroBits, countZeroBits, number, power]
    split
    · rename_i zero
      rw [zero, countZeroBits_add, UInt8.toNat_zero, Nat.zero_mul, Nat.zero_add, Nat.zero_add]
      by_cases few : bits ≤ 8
      · refine iff_of_true (by omega) (Nat.lt_of_lt_of_le tail ?_)
        exact Nat.pow_le_pow_right (by decide) (by omega)
      · have rest_ := @ih (bits - 8) (by omega)
        rw [show 8 * (rest.length + 1) - bits = 8 * rest.length - (bits - 8) by omega, ← rest_]
        omega
    · rename_i some_
      have positive : byte.toNat ≠ 0 := fun zero => some_ (UInt8.toNat_inj.mp zero)
      have small : byte.toNat.log2 < 8 := (Nat.log2_lt positive).mpr byte.toNat_lt
      have least : 2 ^ (8 * rest.length) ≤ byte.toNat * 2 ^ (8 * rest.length) :=
        Nat.le_mul_of_pos_left _ (Nat.pos_of_ne_zero positive)
      rw [clz32, if_neg positive]
      by_cases few : bits ≤ 8
      · have first : bits ≤ 0 + (31 - byte.toNat.log2) - 24 ↔ byte.toNat < 2 ^ (8 - bits) := by
          rw [← Nat.log2_lt positive]
          omega
        have split_ : 2 ^ (8 * (rest.length + 1) - bits) = 2 ^ (8 - bits) * 2 ^ (8 * rest.length) := by
          rw [← Nat.pow_add]
          congr 1
          omega
        rw [first, split_]
        constructor
        · intro below
          calc byte.toNat * 2 ^ (8 * rest.length) + number rest
              < byte.toNat * 2 ^ (8 * rest.length) + 2 ^ (8 * rest.length) :=
                Nat.add_lt_add_left tail _
            _ = (byte.toNat + 1) * 2 ^ (8 * rest.length) := (Nat.succ_mul _ _).symm
            _ ≤ 2 ^ (8 - bits) * 2 ^ (8 * rest.length) := Nat.mul_le_mul_right _ below
        · intro below
          exact Nat.lt_of_mul_lt_mul_right (Nat.lt_of_le_of_lt (Nat.le_add_right _ _) below)
      · refine iff_of_false (by omega) (Nat.not_lt.mpr ?_)
        calc 2 ^ (8 * (rest.length + 1) - bits) ≤ 2 ^ (8 * rest.length) :=
              Nat.pow_le_pow_right (by decide) (by omega)
          _ ≤ byte.toNat * 2 ^ (8 * rest.length) + number rest :=
              Nat.le_trans least (Nat.le_add_right _ _)

/-! ## The search -/

/-- The digest of the counter is small enough. -/
def Enough (nonce : List UInt16) (bits counter : Nat) : Prop :=
  number (Sha256.hash (powInput nonce counter)) < 2 ^ (256 - bits)

instance (nonce : List UInt16) (bits counter : Nat) : Decidable (Enough nonce bits counter) :=
  inferInstanceAs (Decidable (_ < _))

section
variable {nonce : List UInt16} {bits counter : Nat}

theorem length_powInput (safe : counter ≤ MAX_SAFE_INTEGER) :
    (powInput nonce counter).length ≤ nonce.length + 17 := by
  have digits : (Nat.toDigits 10 counter).length ≤ 16 := by
    rw [Nat.length_toDigits_le_iff (by decide) (by decide)]
    exact Nat.lt_of_le_of_lt safe (by decide)
  simp only [powInput, decimal, List.length_map, List.length_append, List.length_cons]
  omega

/-- Whoever hashes, with whatever is left in `W`, finds the bits of the standard. -/
theorem powDigestBits_iff (w : Vector Word 64) (short : nonce.length + 100 < 2 ^ 31) (le : bits ≤ 256)
    (safe : counter ≤ MAX_SAFE_INTEGER) :
    ∃ found, powDigestBits w nonce counter = some found ∧ (bits ≤ found ↔ Enough nonce bits counter) := by
  have length := @length_powInput nonce _ safe
  refine ⟨leadingZeroBits (Sha256.hash (powInput nonce counter)), ?_, ?_⟩
  · rw [powDigestBits, sha256_eq, if_pos (by omega), Option.map_some]
  · have digest := Sha256.length_hash (powInput nonce counter)
    rw [le_leadingZeroBits_iff (by omega), digest, Enough]

theorem verifyPow_iff (w : Vector Word 64) (short : nonce.length + 100 < 2 ^ 31) (le : bits ≤ 256)
    (safe : counter ≤ MAX_SAFE_INTEGER) :
    verifyPow w nonce bits counter = some (decide (Enough nonce bits counter)) := by
  obtain ⟨found, hashed, enough⟩ := powDigestBits_iff w short le safe
  rw [verifyPow, if_pos safe, hashed, Option.map_some]
  simp only [enough]

/-- The first counter of a range that is enough, if there is one. -/
structure Finds (nonce : List UInt16) (bits start stop : Nat) (result : Option (Option Nat)) : Prop where
  ends : ∃ found, result = some found
  found : ∀ counter, result = some (some counter) → start ≤ counter ∧ counter < stop ∧
    Enough nonce bits counter ∧ ∀ earlier, start ≤ earlier → earlier < counter →
      ¬ Enough nonce bits earlier
  missing : result = some none → ∀ counter, start ≤ counter → counter < stop → ¬ Enough nonce bits counter

theorem Finds.empty (nonce : List UInt16) (bits start : Nat) :
    Finds nonce bits start start (some none) where
  ends := ⟨_, rfl⟩
  found _ got := by cases got
  missing _ _ from_ below := absurd below (Nat.not_lt.mpr from_)

theorem Finds.append {start middle stop : Nat} (ordered : start ≤ middle) (below : middle ≤ stop)
    {first second : Option (Option Nat)} (before : Finds nonce bits start middle first)
    (after : Finds nonce bits middle stop second) :
    Finds nonce bits start stop (if first = some none then second else first) := by
  split
  · rename_i nothing
    refine ⟨after.ends, fun counter got => ?_, fun got counter from_ small => ?_⟩
    · obtain ⟨from_, small, enough, least⟩ := after.found counter got
      refine ⟨Nat.le_trans ordered from_, small, enough, fun earlier start_ less => ?_⟩
      by_cases early : earlier < middle
      · exact before.missing nothing earlier start_ early
      · exact least earlier (Nat.not_lt.mp early) less
    · by_cases early : counter < middle
      · exact before.missing nothing counter from_ early
      · exact after.missing got counter (Nat.not_lt.mp early) small
  · rename_i something
    refine ⟨before.ends, fun counter got => ?_, fun got => absurd got something⟩
    obtain ⟨from_, small, rest⟩ := before.found counter got
    exact ⟨from_, Nat.lt_of_lt_of_le small below, rest⟩

theorem searchPow_finds (w : Vector Word 64) (short : nonce.length + 100 < 2 ^ 31) (le : bits ≤ 256)
    {start budget : Nat} (safe : start + budget ≤ 2 ^ 53) :
    Finds nonce bits start (start + budget) (searchPow w nonce bits start budget) := by
  unfold searchPow
  induction budget generalizing start with
  | zero => exact .empty nonce bits start
  | succ budget ih =>
    obtain ⟨found, hashed, enough⟩ := @powDigestBits_iff _ _ start w short le
      (by rw [MAX_SAFE_INTEGER]; omega)
    have rest := @ih (start + 1) (by omega)
    rw [show start + (budget + 1) = start + 1 + budget by omega, search, hashed, Option.map_some]
    by_cases many : bits ≤ found
    · rw [decide_eq_true many]
      refine ⟨⟨_, rfl⟩, fun counter got => ?_, fun got => by cases got⟩
      have here : start = counter := Option.some.inj (Option.some.inj got)
      subst here
      exact ⟨Nat.le_refl _, by omega, enough.mp many, fun earlier from_ less => by omega⟩
    · rw [decide_eq_false many]
      have here : Finds nonce bits start (start + 1) (some none) := by
        refine ⟨⟨_, rfl⟩, fun _ got => (by cases got), fun _ counter from_ small => ?_⟩
        rw [show counter = start by omega, ← enough]
        exact many
      exact here.append (Nat.le_succ _) (Nat.le_add_right _ _) rest

theorem inTurns_finds (w : Vector Word 64) (step : Nat) (short : nonce.length + 100 < 2 ^ 31)
    (le : bits ≤ 256) {start turns : Nat} (safe : start + turns * step ≤ 2 ^ 53) :
    Finds nonce bits start (start + turns * step)
      (inTurns (fun start => searchPow w nonce bits start step) step start turns) := by
  induction turns generalizing start with
  | zero =>
    rw [Nat.zero_mul]
    exact .empty nonce bits start
  | succ turns ih =>
    rw [Nat.succ_mul] at safe ⊢
    have first := @searchPow_finds _ _ w short le start step (by omega)
    have rest := @ih (start + step) (by omega)
    rw [show start + (turns * step + step) = start + step + turns * step by omega]
    have both := first.append (Nat.le_add_right _ _) (Nat.le_add_right _ _) rest
    obtain ⟨found, ends⟩ := first.ends
    rw [ends] at both
    rw [inTurns, ends]
    cases found with
    | none => exact both
    | some counter => exact both

end

/-- A client that charges in turns of any size comes to the least counter whose digest is small enough,
once it has tried so many, and the server's check accepts that one and none before it. Neither depends
on what is left in `W`. -/
theorem charge_least (w w' : Vector Word 64) {step turns bits : Nat} {nonce : List UInt16}
    (short : nonce.length + 100 < 2 ^ 31) (le : bits ≤ 256) (safe : turns * step ≤ 2 ^ 53)
    (counter : Nat) : charge w step nonce bits turns = some (some counter) ↔
      counter < turns * step ∧ verifyPow w' nonce bits counter = some true ∧
        ∀ earlier < counter, verifyPow w' nonce bits earlier = some false := by
  have finds := @inTurns_finds _ _ w step short le 0 turns (by omega)
  rw [Nat.zero_add, ← charge] at finds
  have check {c : Nat} (below : c < turns * step) :
      verifyPow w' nonce bits c = some (decide (Enough nonce bits c)) :=
    verifyPow_iff w' short le (by rw [MAX_SAFE_INTEGER]; omega)
  constructor
  · intro got
    obtain ⟨-, below, enough, least⟩ := finds.found counter got
    refine ⟨below, ?_, fun earlier less => ?_⟩
    · rw [check below, decide_eq_true enough]
    · rw [check (Nat.lt_trans less below), decide_eq_false (least earlier (Nat.zero_le _) less)]
  · rintro ⟨below, accepted, refused⟩
    rw [check below, Option.some.injEq, decide_eq_true_eq] at accepted
    obtain ⟨found, ends⟩ := finds.ends
    rw [ends]
    cases found with
    | none => exact absurd accepted (finds.missing ends counter (Nat.zero_le _) below)
    | some other =>
      obtain ⟨-, small, enough, least⟩ := finds.found other ends
      rcases Nat.lt_trichotomy other counter with less | same | more
      · have no := refused other less
        rw [check small, decide_eq_true enough] at no
        cases no
      · rw [same]
      · exact absurd accepted (least counter (Nat.zero_le _) more)

/-- Two turns of the worker at the lowest difficulty. -/
theorem charge_least_worker :
    charge (.replicate 64 0) 20_000 [97, 98] 16 2 = some (some 30_000) ↔
      30_000 < 2 * 20_000 ∧ verifyPow (.replicate 64 7) [97, 98] 16 30_000 = some true ∧
        ∀ earlier < 30_000, verifyPow (.replicate 64 7) [97, 98] 16 earlier = some false :=
  charge_least (.replicate 64 0) (.replicate 64 7) (by decide) (by decide) (by decide) 30_000

end SwitchRemake.Shared.Charge

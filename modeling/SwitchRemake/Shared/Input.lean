import SwitchRemake.Simulation.World

/-!
# Input packets

`protocol/input.ts`. The bytes of a packet are left out, but for what they cut off.
-/

namespace SwitchRemake.Shared
open Lib Simulation

structure InputState where
  sequence : Nat
  left : Bool
  right : Bool
  up : Bool
  down : Bool
  heldActions : Nat
deriving DecidableEq

/-- What `decodeInput` reads of what `encodeInput` has written. -/
def wired (state : InputState) : InputState :=
  { state with
    sequence := state.sequence &&& 0xffff
    heldActions := state.heldActions &&& 0xff }

/-- `(((a - b) & 0xffff) << 16) >> 16` on 32-bit integers. -/
def compareSequence (a b : Nat) : Int :=
  (((BitVec.ofInt 32 ((a : Int) - b) &&& 0xffff#32) <<< 16).sshiftRight 16).toInt

def isNewerSequence (a b : Nat) : Bool := 0 < compareSequence a b

def nextSequence (current : Nat) : Nat := (current + 1) &&& 0xffff

section
variable {K : Type} [JsNumber K]

/-- Opposite keys cancel, and a diagonal is normalised. -/
def movementVector (state : InputState) : K × K :=
  let key (held : Bool) : K := if held then 1 else 0
  let x := key state.right - key state.left
  let y := key state.down - key state.up
  if x ≠ 0 ∧ y ≠ 0 then
    let inv : K := JsNumber.sqrt (JsNumber.ofRat (1 / 2))
    (x * inv, y * inv)
  else (x, y)

/-- `resolveInput` of `simulation/movement.ts`. -/
def resolveInput (state : InputState) (playerId : Nat) : ResolvedInput K :=
  let v : K × K := movementVector state
  { playerId
    moveX := v.1
    moveY := v.2
    heldActions := state.heldActions
    lastProcessedSequence := state.sequence }

end

/-! ## The order of the numbers -/

theorem and_ffff (n : Nat) : n &&& 0xffff = n % 65536 := Nat.and_two_pow_sub_one_eq_mod n 16

theorem compareSequence_eq (a b : Nat) : compareSequence a b = Int.bmod ((a : Int) - b) 65536 := by
  have masked : ((BitVec.ofInt 32 ((a : Int) - b) &&& 0xffff#32) <<< 16).toNat =
      (((a : Int) - b) % 65536).toNat * 65536 := by
    have mask : ∀ n : Nat, n &&& 65535 = n % 65536 := and_ffff
    rw [BitVec.toNat_shiftLeft, BitVec.toNat_and, BitVec.toNat_ofInt, BitVec.toNat_ofNat,
      Nat.shiftLeft_eq]
    simp only [Nat.reducePow, Nat.reduceMod, mask]
    omega
  rw [compareSequence, BitVec.toInt_sshiftRight, BitVec.toInt_eq_toNat_cond, masked,
    Int.shiftRight_eq_div_pow]
  simp only [Int.bmod]
  split <;> split <;> omega

/-- Packets numbered one after the other, as the client numbers them. -/
def Sequenced (packet : Nat → InputState) : Prop :=
  ∀ n, (packet (n + 1)).sequence = nextSequence (packet n).sequence

variable {packet : Nat → InputState}

theorem wired_sequence (numbered : Sequenced packet) (n : Nat) :
    (wired (packet n)).sequence = ((packet 0).sequence + n) % 65536 := by
  have apart : (packet n).sequence % 65536 = ((packet 0).sequence + n) % 65536 := by
    induction n with
    | zero => rfl
    | succ n ih =>
      rw [numbered n, nextSequence, and_ffff]
      omega
  rw [wired, and_ffff, apart]

/-- Within half a turn the numbers on the wire are in the order of the packets. -/
theorem isNewerSequence_iff (numbered : Sequenced packet) {n newest : Nat}
    (near : ((n : Int) - newest).natAbs < 32768) :
    isNewerSequence (wired (packet n)).sequence (wired (packet newest)).sequence = true ↔
      newest < n := by
  have turn : Int.bmod (((((packet 0).sequence + n) % 65536 : Nat) : Int) -
      (((packet 0).sequence + newest) % 65536 : Nat)) 65536 = (n : Int) - newest := by
    rw [Int.bmod]
    split <;> omega
  rw [isNewerSequence, compareSequence_eq, wired_sequence numbered, wired_sequence numbered, turn,
    decide_eq_true_iff]
  omega

end SwitchRemake.Shared

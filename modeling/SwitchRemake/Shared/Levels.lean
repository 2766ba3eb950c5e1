import SwitchRemake.Shared.Progression
import Mathlib.Algebra.BigOperators.Group.Finset.Basic
import Mathlib.Tactic.Linarith
import Mathlib.Tactic.NormNum

/-!
# Levels

`levelFromXp` of `shared/protocol/progression.ts`. A level is never stored: it is counted from the
experience each time. The numbers of the loop are doubles, which hold every integer up to 2⁵³ and
round beyond it.
-/

namespace SwitchRemake
open Lib

def levelBaseCost : Nat := 100
def levelCostStep : Nat := 50

/-- Up to here the doubles hold every integer. -/
def safeInteger : Nat := 9007199254740992

/-- The multiple of `unit` nearest to `n`; of two that are as near the even one. -/
def roundTo (unit n : Nat) : Nat :=
  let rest := n % unit
  if 2 * rest < unit ∨ 2 * rest = unit ∧ n / unit % 2 = 0 then n / unit * unit
  else (n / unit + 1) * unit

/-- The double nearest to a natural number: 53 digits are kept. -/
def roundDouble (n : Nat) : Nat := roundTo (2 ^ (n.log2 - 52)) n

structure LevelProgress where
  level : Nat
  xpIntoLevel : Nat
  xpForNextLevel : Nat
  deriving DecidableEq

/-- The loop of `levelFromXp`, none where it has not come to an end in that many rounds. -/
def levelLoop : Nat → Nat → Nat → Nat → Option LevelProgress
  | 0, _, _, _ => none
  | rounds + 1, remaining, level, cost =>
    if cost ≤ remaining then
      levelLoop rounds (roundDouble (remaining - cost)) (roundDouble (level + 1))
        (roundDouble (cost + levelCostStep))
    else some { level, xpIntoLevel := remaining, xpForNextLevel := cost }

/-- The experience is none where it is not a finite number. -/
def levelFromXp {K : Type} [JsNumber K] (rounds : Nat) (xp : Option K) : Option LevelProgress :=
  let remaining := xp.elim 0 fun xp => if 0 < xp then (JsNumber.floor xp).toNat else 0
  levelLoop rounds remaining 1 levelBaseCost

/-! ## Doubles -/

theorem roundTo_one (n : Nat) : roundTo 1 n = n := by
  unfold roundTo
  rw [Nat.mod_one, Nat.div_one, if_pos (.inl Nat.zero_lt_one), Nat.mul_one]

theorem roundTo_le {unit n bound : Nat} (divides : unit ∣ bound) (below : n < bound) :
    roundTo unit n ≤ bound := by
  obtain ⟨count, rfl⟩ := divides
  have next : n / unit + 1 ≤ count := Nat.div_lt_of_lt_mul below
  have up : (n / unit + 1) * unit ≤ unit * count := by
    rw [Nat.mul_comm unit count]
    exact Nat.mul_le_mul_right unit next
  unfold roundTo
  dsimp only
  split
  · exact (Nat.mul_le_mul_right unit (Nat.le_succ _)).trans up
  · exact up

theorem log2_eq {n k : Nat} (low : 2 ^ k ≤ n) (high : n < 2 ^ (k + 1)) : n.log2 = k := by
  have positive : n ≠ 0 := Nat.ne_of_gt (lt_of_lt_of_le (Nat.two_pow_pos k) low)
  have up := (Nat.log2_lt positive).mpr high
  have down := (Nat.le_log2 positive).mpr low
  omega

theorem roundDouble_exact {n : Nat} (safe : n ≤ safeInteger) : roundDouble n = n := by
  rcases Nat.lt_or_eq_of_le safe with less | same
  · have small : n.log2 < 53 := by
      by_cases zero : n = 0
      · rw [zero]
        decide
      · exact (Nat.log2_lt zero).mpr less
    have unit : n.log2 - 52 = 0 := by omega
    unfold roundDouble
    rw [unit]
    exact roundTo_one n
  · rw [same]
    decide +kernel

/-- Numbers of this size are too far apart for the loop to notice what it takes off. -/
theorem roundDouble_large {cost : Nat} (small : cost ≤ 2 ^ 60) :
    roundDouble (2 ^ 200 - cost) = 2 ^ 200 := by
  rcases Nat.eq_zero_or_pos cost with rfl | positive
  · decide +kernel
  · have log : (2 ^ 200 - cost).log2 = 199 := log2_eq (by omega) (by omega)
    have quotient : (2 ^ 200 - cost) / 2 ^ 147 = 2 ^ 53 - 1 := by omega
    have rest : (2 ^ 200 - cost) % 2 ^ 147 = 2 ^ 147 - cost := by omega
    unfold roundDouble roundTo
    rw [log]
    simp only [show 199 - 52 = 147 from rfl, quotient, rest]
    rw [if_neg (by omega)]
    rfl

/-- The cost comes to a stand at a size where 50 is less than half of a step. -/
theorem roundDouble_cost {cost : Nat} (small : cost ≤ 2 ^ 60) :
    roundDouble (cost + levelCostStep) ≤ 2 ^ 60 := by
  unfold levelCostStep
  rcases Nat.lt_or_ge (cost + 50) (2 ^ 60) with below | above
  · have positive : cost + 50 ≠ 0 := Nat.succ_ne_zero _
    have log := (Nat.log2_lt positive).mpr below
    exact roundTo_le (Nat.pow_dvd_pow 2 (by omega)) below
  · have log : (cost + 50).log2 = 60 := log2_eq above (by omega)
    have quotient : (cost + 50) / 2 ^ 8 = 2 ^ 52 := by omega
    have rest : (cost + 50) % 2 ^ 8 = cost + 50 - 2 ^ 60 := by omega
    unfold roundDouble roundTo
    rw [log]
    simp only [show 60 - 52 = 8 from rfl, quotient, rest]
    rw [if_pos (.inl (by omega))]
    decide

/-! ## The loop -/

theorem levelLoop_stuck (rounds level : Nat) {cost : Nat} (small : cost ≤ 2 ^ 60) :
    levelLoop rounds (2 ^ 200) level cost = none := by
  induction rounds generalizing level cost with
  | zero => rfl
  | succ rounds ih =>
    unfold levelLoop
    rw [if_pos (by omega), roundDouble_large small]
    exact ih (roundDouble (level + 1)) (roundDouble_cost small)

theorem levelLoop_more {rounds more remaining level cost : Nat} {p : LevelProgress}
    (ends : levelLoop rounds remaining level cost = some p) (longer : rounds ≤ more) :
    levelLoop more remaining level cost = some p := by
  induction rounds generalizing more remaining level cost with
  | zero => cases ends
  | succ rounds ih =>
    obtain ⟨more, rfl⟩ : ∃ rest, more = rest + 1 := ⟨more - 1, by omega⟩
    unfold levelLoop at ends ⊢
    split
    · rename_i pays
      rw [if_pos pays] at ends
      exact ih ends (Nat.le_of_succ_le_succ longer)
    · rename_i short
      rw [if_neg short] at ends
      exact ends

/-- What it costs to get beyond the level. -/
def levelCost (level : Nat) : Nat := levelBaseCost + (level - 1) * levelCostStep

/-- The experience at which the level begins. -/
def levelStart (level : Nat) : Nat := ((List.range' 1 (level - 1)).map levelCost).sum

theorem levelStart_succ {level : Nat} (first : 1 ≤ level) :
    levelStart (level + 1) = levelStart level + levelCost level := by
  obtain ⟨below, rfl⟩ : ∃ below, level = below + 1 := ⟨level - 1, by omega⟩
  unfold levelStart
  rw [Nat.add_sub_cancel, Nat.add_sub_cancel, List.range'_1_concat, List.map_append,
    List.sum_append, List.map_singleton, List.sum_singleton, Nat.add_comm 1 below]

theorem levelStart_mono {level other : Nat} (first : 1 ≤ level) (before : level ≤ other) :
    levelStart level ≤ levelStart other := by
  induction before with
  | refl => exact le_rfl
  | @step other before ih =>
    rw [levelStart_succ (first.trans before)]
    exact ih.trans (Nat.le_add_right _ _)

theorem levelCost_step {level : Nat} (first : 1 ≤ level) :
    levelCost (level + 1) = levelCost level + levelCostStep := by
  unfold levelCost
  obtain ⟨below, rfl⟩ : ∃ below, level = below + 1 := ⟨level - 1, by omega⟩
  rw [Nat.add_sub_cancel, Nat.add_sub_cancel, Nat.succ_mul, Nat.add_assoc]

theorem levelStart_ge (level : Nat) : levelBaseCost * (level - 1) ≤ levelStart level := by
  unfold levelStart
  have each : ∀ cost ∈ (List.range' 1 (level - 1)).map levelCost, levelBaseCost ≤ cost := by
    intro cost member
    obtain ⟨other, _, rfl⟩ := List.mem_map.mp member
    exact Nat.le_add_right _ _
  have sum := List.card_nsmul_le_sum _ _ each
  rw [List.length_map, List.length_range', smul_eq_mul, Nat.mul_comm] at sum
  exact sum

/-- Where the experience of a number is on the curve. -/
structure OnCurve (xp : Nat) (p : LevelProgress) : Prop where
  first : 1 ≤ p.level
  total : xp = levelStart p.level + p.xpIntoLevel
  into : p.xpIntoLevel < p.xpForNextLevel
  next : p.xpForNextLevel = levelCost p.level

theorem levelLoop_ends {xp remaining level : Nat} (safe : xp ≤ safeInteger) (first : 1 ≤ level)
    (total : xp = levelStart level + remaining) :
    ∃ rounds p, levelLoop rounds remaining level (levelCost level) = some p ∧ OnCurve xp p := by
  induction remaining using Nat.strong_induction_on generalizing level with
  | _ remaining ih =>
    by_cases pays : levelCost level ≤ remaining
    · have positive : 0 < levelCost level := Nat.add_pos_left (by decide) _
      have long := levelStart_ge level
      have paid : levelStart level + levelCost level ≤ safeInteger := by omega
      have low : level + 1 ≤ safeInteger := by
        unfold levelCost levelBaseCost levelCostStep safeInteger at *
        omega
      have cheap : levelCost level + levelCostStep ≤ safeInteger := by
        unfold levelCost levelBaseCost levelCostStep safeInteger at *
        omega
      obtain ⟨rounds, p, ends, on⟩ := ih (remaining - levelCost level) (by omega)
        (Nat.le_succ_of_le first) (by rw [levelStart_succ first]; omega)
      refine ⟨rounds + 1, p, ?_, on⟩
      unfold levelLoop
      rw [if_pos pays, roundDouble_exact (n := remaining - _) (by omega), roundDouble_exact low,
        roundDouble_exact cheap, ← levelCost_step first]
      exact ends
    · exact ⟨1, ⟨level, remaining, levelCost level⟩, if_neg pays, first, total, not_le.mp pays, rfl⟩

theorem OnCurve.le {xp more : Nat} {p q : LevelProgress} (on : OnCurve xp p)
    (further : OnCurve more q) (less : xp ≤ more) :
    p.level < q.level ∨ p.level = q.level ∧ p.xpIntoLevel ≤ q.xpIntoLevel := by
  rcases Nat.lt_trichotomy p.level q.level with below | same | above
  · exact .inl below
  · refine .inr ⟨same, ?_⟩
    have first := on.total
    have second := further.total
    rw [← same] at second
    omega
  · -- the level of `q` is over before that of `p` begins
    have past := levelStart_mono (Nat.le_succ_of_le further.first) above
    rw [levelStart_succ further.first] at past
    have first := on.total
    have second := further.total
    have into := further.into
    rw [further.next] at into
    omega

theorem OnCurve.unique {xp : Nat} {p q : LevelProgress} (on : OnCurve xp p) (also : OnCurve xp q) :
    p = q := by
  have level : p.level = q.level := by
    have first := on.le also le_rfl
    have second := also.le on le_rfl
    omega
  have into : p.xpIntoLevel = q.xpIntoLevel := by
    have first := on.total
    have second := also.total
    rw [level] at first
    omega
  have next : p.xpForNextLevel = q.xpForNextLevel := by
    rw [on.next, also.next, level]
  cases p
  cases q
  simp only at level into next
  rw [level, into, next]

/-! ## The level of an account -/

/-- The loop comes to an end, with this. -/
def Counts (xp : ℝ) (p : LevelProgress) : Prop := ∃ rounds, levelFromXp rounds (some xp) = some p

theorem levelFromXp_floor {xp : ℝ} (positive : 0 ≤ xp) (rounds : Nat) :
    levelFromXp rounds (some xp) = levelLoop rounds ⌊xp⌋.toNat 1 levelBaseCost := by
  change levelLoop rounds (if 0 < xp then ⌊xp⌋.toNat else 0) 1 levelBaseCost = _
  split
  · rfl
  · rename_i zero
    have same : xp = 0 := le_antisymm (not_lt.mp zero) positive
    rw [same, Int.floor_zero]
    rfl

theorem counts_onCurve {xp : ℝ} (positive : 0 ≤ xp) (safe : ⌊xp⌋ ≤ safeInteger) :
    ∃ p, Counts xp p ∧ OnCurve ⌊xp⌋.toNat p ∧ ∀ q, Counts xp q → q = p := by
  obtain ⟨rounds, p, ends, on⟩ : ∃ rounds p,
      levelLoop rounds ⌊xp⌋.toNat 1 (levelCost 1) = some p ∧ OnCurve ⌊xp⌋.toNat p :=
    levelLoop_ends (by omega) le_rfl (Nat.zero_add _).symm
  refine ⟨p, ⟨rounds, (levelFromXp_floor positive rounds).trans ends⟩, on, ?_⟩
  rintro q ⟨others, also⟩
  rw [levelFromXp_floor positive] at also
  have first := levelLoop_more ends (Nat.le_max_left rounds others)
  have second := levelLoop_more also (Nat.le_max_right rounds others)
  exact Option.some.inj (second.symm.trans first)

theorem counts_le {xp more : ℝ} {p q : LevelProgress} (positive : 0 ≤ xp) (less : xp ≤ more)
    (safe : ⌊more⌋ ≤ safeInteger) (counts : Counts xp p) (further : Counts more q) :
    p.level < q.level ∨ p.level = q.level ∧ p.xpIntoLevel ≤ q.xpIntoLevel := by
  have floors := Int.floor_le_floor less
  obtain ⟨_, _, on, same⟩ := counts_onCurve positive (floors.trans safe)
  obtain ⟨_, _, on', same'⟩ := counts_onCurve (positive.trans less) safe
  rw [same p counts, same' q further]
  exact on.le on' (Int.toNat_le_toNat floors)

/-! ## The experience of a match -/

/-- No less of anything. -/
structure MatchXpInput.AtMost (a b : MatchXpInput ℝ) : Prop where
  won : a.won = true → b.won = true
  tagCount : a.tagCount ≤ b.tagCount
  switchSuccess : a.switchSuccess ≤ b.switchSuccess
  survivedMs : ∀ survivedMs, a.survivedMs = some survivedMs →
    ∃ longer, b.survivedMs = some longer ∧ survivedMs ≤ longer

/-- The time that counts. -/
theorem survival_eq (input : MatchXpInput ℝ) : (matchXpBreakdown input).survival =
    ⌊min (JsNumber.ofInt xpSurvivalCapMs : ℝ) (input.survivedMs.elim 0 fun ms => max 0 ms) /
      JsNumber.ofRat 60000 * JsNumber.ofInt xpPerSurvivedMinute⌋ := rfl

theorem matchXp_mono {a b : MatchXpInput ℝ} (less : a.AtMost b) : matchXp a ≤ matchXp b := by
  have win : (matchXpBreakdown a).win ≤ (matchXpBreakdown b).win := by
    change (if a.won then _ else _) ≤ (if b.won then _ else _)
    cases won : a.won with
    | true =>
      rw [less.won won]
    | false =>
      cases b.won <;> decide
  have tags : (matchXpBreakdown a).tags ≤ (matchXpBreakdown b).tags :=
    Int.mul_le_mul_of_nonneg_right (max_le_max le_rfl (Int.floor_le_floor less.tagCount))
      (Int.natCast_nonneg _)
  have switches : (matchXpBreakdown a).switches ≤ (matchXpBreakdown b).switches :=
    Int.mul_le_mul_of_nonneg_right (max_le_max le_rfl (Int.floor_le_floor less.switchSuccess))
      (Int.natCast_nonneg _)
  have survival : (matchXpBreakdown a).survival ≤ (matchXpBreakdown b).survival := by
    have longer : a.survivedMs.elim 0 (fun ms => max 0 ms) ≤
        b.survivedMs.elim 0 (fun ms => max 0 ms) := by
      cases survived : a.survivedMs with
      | none =>
        cases b.survivedMs with
        | none => exact le_rfl
        | some ms => exact le_max_left 0 ms
      | some ms =>
        obtain ⟨more, same, longer⟩ := less.survivedMs ms survived
        rw [same]
        exact max_le_max le_rfl longer
    rw [survival_eq, survival_eq]
    refine Int.floor_le_floor ?_
    simp only [JsNumber.ofInt, JsNumber.ofRat]
    gcongr
  have played : (matchXpBreakdown a).played = (matchXpBreakdown b).played := rfl
  unfold matchXp MatchXpBreakdown.total
  omega

theorem matchXp_nonneg (input : MatchXpInput ℝ) : 0 ≤ matchXp input := by
  have win : 0 ≤ (matchXpBreakdown input).win := by
    change 0 ≤ (if input.won then _ else _)
    split <;> decide
  have tags : 0 ≤ (matchXpBreakdown input).tags :=
    Int.mul_nonneg (le_max_left _ _) (Int.natCast_nonneg _)
  have switches : 0 ≤ (matchXpBreakdown input).switches :=
    Int.mul_nonneg (le_max_left _ _) (Int.natCast_nonneg _)
  have survival : 0 ≤ (matchXpBreakdown input).survival := by
    rw [survival_eq]
    have counted : (0 : ℝ) ≤ min (JsNumber.ofInt xpSurvivalCapMs)
        (input.survivedMs.elim 0 fun ms => max 0 ms) := by
      refine le_min (Rat.cast_nonneg.mpr (by decide)) ?_
      cases input.survivedMs with
      | none => exact le_rfl
      | some ms => exact le_max_left 0 ms
    exact Int.floor_nonneg.mpr (mul_nonneg
      (div_nonneg counted (Rat.cast_nonneg.mpr (by decide))) (Rat.cast_nonneg.mpr (by decide)))
  have played : 0 ≤ (matchXpBreakdown input).played := Int.natCast_nonneg _
  unfold matchXp MatchXpBreakdown.total
  omega

/-! ## The curve -/

theorem level_curve :
    (∀ xp : ℝ, 0 ≤ xp → ⌊xp⌋ ≤ safeInteger →
      ∃ p, Counts xp p ∧ (∀ q, Counts xp q → q = p) ∧
        ⌊xp⌋ = levelStart p.level + p.xpIntoLevel ∧ p.xpIntoLevel < p.xpForNextLevel ∧
        p.xpForNextLevel = levelBaseCost + (p.level - 1) * levelCostStep) ∧
    (∀ (xp more : ℝ) p q, 0 ≤ xp → xp ≤ more → ⌊more⌋ ≤ safeInteger → Counts xp p → Counts more q →
      p.level < q.level ∨ p.level = q.level ∧ p.xpIntoLevel ≤ q.xpIntoLevel) ∧
    (∀ a b : MatchXpInput ℝ, a.AtMost b → matchXp a ≤ matchXp b) ∧
    ∀ (xp : ℝ) (input : MatchXpInput ℝ) p q, 0 ≤ xp → ⌊xp + matchXp input⌋ ≤ safeInteger →
      Counts xp p → Counts (xp + matchXp input) q → p.level ≤ q.level := by
  refine ⟨fun xp positive safe => ?_, fun xp more p q => counts_le, fun a b => matchXp_mono,
    fun xp input p q positive safe counts further => ?_⟩
  · obtain ⟨p, counts, on, only⟩ := counts_onCurve positive safe
    have whole : (⌊xp⌋.toNat : ℤ) = ⌊xp⌋ := Int.toNat_of_nonneg (Int.floor_nonneg.mpr positive)
    refine ⟨p, counts, only, ?_, on.into, on.next⟩
    rw [← whole, on.total]
    push_cast
    rfl
  · have gains : (0 : ℝ) ≤ (matchXp input : ℝ) := Int.cast_nonneg (matchXp_nonneg input)
    have order := counts_le positive (le_add_of_nonneg_right gains) safe counts further
    omega

theorem level_curve_third : ∃ p, Counts 250 p ∧ 250 = levelStart p.level + p.xpIntoLevel ∧
    p.xpIntoLevel < p.xpForNextLevel := by
  have floor : ⌊(250 : ℝ)⌋ = 250 := Int.floor_ofNat 250
  obtain ⟨p, counts, _, total, into, _⟩ := level_curve.1 250 (by norm_num) (by rw [floor]; decide)
  rw [floor] at total
  exact ⟨p, counts, by omega, into⟩

/-- From 2²⁰⁰ nothing is taken off the double, and the cost comes to a stand far below it. -/
theorem huge_xp_never_ends : ¬ ∀ xp : ℝ, 0 ≤ xp → ∃ p, Counts xp p := by
  intro claim
  obtain ⟨p, rounds, ends⟩ := claim ((2 ^ 200 : Nat) : ℝ) (Nat.cast_nonneg _)
  rw [levelFromXp_floor (Nat.cast_nonneg _), Int.floor_natCast, Int.toNat_natCast,
    levelLoop_stuck rounds 1 (by decide)] at ends
  cases ends

end SwitchRemake

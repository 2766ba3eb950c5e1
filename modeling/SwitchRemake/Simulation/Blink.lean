import SwitchRemake.Simulation.Skills

/-!
# Blinks

Exact arithmetic. Where `findFlashLanding` puts a player down, and that `isPositionFree` and
`resolveStatic` agree on what is free.
-/

namespace SwitchRemake.Simulation
open Lib

/-! ## Judge and push -/

variable {map : WorldMap ℝ} {storm : StormRect ℝ} {x y radius : ℝ}

theorem pushOutOfTile_free {tile : Int × Int}
    (free : (!(isSolid map tile && circleOverlapsTile x y radius map.tileSize tile)) = true) :
    pushOutOfTile map radius (x, y) tile = (x, y) := by
  unfold pushOutOfTile
  split
  · rfl
  · rename_i solid
    have clear : circleOverlapsTile x y radius map.tileSize tile = false := by
      simpa [Bool.eq_true_of_not_eq_false solid] using free
    exact if_pos (not_lt.mp (of_decide_eq_false clear))

theorem confineAxis_inside {at_ start extent : ℝ} (low : start ≤ at_ - radius)
    (high : at_ + radius ≤ start + extent) : confineAxis at_ radius start extent = at_ := by
  have crossed : ¬ start + extent - radius < start + radius := by linarith
  unfold confineAxis
  dsimp only
  rw [if_neg crossed, max_eq_left (by linarith), min_eq_left (by linarith)]

theorem resolveWallCollision_free
    (free : ∀ tile ∈ tilesAround map x y radius,
      (!(isSolid map tile && circleOverlapsTile x y radius map.tileSize tile)) = true) :
    resolveWallCollision map x y radius = (x, y) := by
  unfold resolveWallCollision
  generalize tilesAround map x y radius = tiles at free
  induction tiles with
  | nil => rfl
  | cons tile rest ih =>
    rw [List.foldl_cons, pushOutOfTile_free (free tile List.mem_cons_self)]
    exact ih fun other later => free other (List.mem_cons_of_mem tile later)

/-- What the judge lets pass, neither walls nor storm move. -/
theorem resolveStatic_free (free : isPositionFree map x y radius storm = true) :
    resolveStatic map x y radius storm = (x, y) := by
  unfold isPositionFree at free
  split at free
  · cases free
  · rename_i inX
    split at free
    · cases free
    · rename_i inY
      obtain ⟨left, right⟩ := not_or.mp inX
      obtain ⟨top, bottom⟩ := not_or.mp inY
      have stays := resolveWallCollision_free (List.all_eq_true.mp free)
      unfold resolveStatic confineToStorm
      rw [stays]
      exact Prod.ext (confineAxis_inside (not_lt.mp left) (not_lt.mp right))
        (confineAxis_inside (not_lt.mp top) (not_lt.mp bottom))

/-! ## The search -/

/-- The point of a ray after `t`. -/
def along (x y dirX dirY t : ℝ) : ℝ × ℝ := (x + dirX * t, y + dirY * t)

variable {free : ℝ → ℝ → Bool} {dirX dirY step limit : ℝ}

def FreeAt (free : ℝ → ℝ → Bool) (p : ℝ × ℝ) : Prop := free p.1 p.2 = true

/-- A loop that has turns for every sample finds the first free one. -/
theorem probe_finds (free : ℝ → ℝ → Bool) (x y dirX dirY : ℝ) {fuel : Nat} {travelled : ℝ}
    (turns : limit < travelled + fuel * step) (positive : 0 < step) :
    (∃ k : Nat, travelled + k * step ≤ limit ∧
      probe free x y dirX dirY step limit fuel travelled =
        some (along x y dirX dirY (travelled + k * step)) ∧
      FreeAt free (along x y dirX dirY (travelled + k * step)) ∧
      ∀ j < k, ¬ FreeAt free (along x y dirX dirY (travelled + j * step))) ∨
    probe free x y dirX dirY step limit fuel travelled = none ∧
      ∀ k : Nat, travelled + k * step ≤ limit →
        ¬ FreeAt free (along x y dirX dirY (travelled + k * step)) := by
  induction fuel generalizing travelled with
  | zero =>
    refine .inr ⟨rfl, fun k inside => absurd inside (not_le.mpr ?_)⟩
    have ahead : 0 ≤ (k : ℝ) * step := by positivity
    simp only [Nat.cast_zero, zero_mul, add_zero] at turns
    linarith
  | succ fuel ih =>
    by_cases inside : travelled ≤ limit
    · by_cases found : FreeAt free (along x y dirX dirY travelled)
      · refine .inl ⟨0, by simpa using inside, ?_, by simpa using found, by simp⟩
        have first : free (x + dirX * travelled) (y + dirY * travelled) = true := found
        simp [probe, inside, first, along]
      · have blocked : free (x + dirX * travelled) (y + dirY * travelled) = false :=
          Bool.eq_false_of_not_eq_true found
        have next : probe free x y dirX dirY step limit (fuel + 1) travelled =
            probe free x y dirX dirY step limit fuel (travelled + step) := by
          simp [probe, inside, blocked]
        have shift (k : Nat) :
            travelled + step + k * step = travelled + ((k + 1 : Nat) : ℝ) * step := by
          push_cast
          ring
        rw [next]
        have enough : limit < travelled + step + fuel * step := by
          rw [shift]
          exact turns
        rcases ih enough with ⟨k, within, lands, clear, before⟩ | ⟨fails, none_⟩
        · rw [shift k] at within lands clear
          refine .inl ⟨k + 1, within, lands, clear, fun j earlier => ?_⟩
          cases j with
          | zero => simpa using found
          | succ j =>
            rw [← shift j]
            exact before j (Nat.lt_of_succ_lt_succ earlier)
        · refine .inr ⟨fails, fun k within => ?_⟩
          cases k with
          | zero => simpa using found
          | succ k =>
            rw [← shift k] at within ⊢
            exact none_ k within
    · refine .inr ⟨by simp [probe, inside], fun k within => absurd within (not_le.mpr ?_)⟩
      have ahead : 0 ≤ (k : ℝ) * step := by positivity
      linarith

/-- The distance between two samples. -/
noncomputable def stepLen (radius : ℝ) : ℝ := max 1 (radius / JsNumber.ofRat 2)

theorem one_le_stepLen (radius : ℝ) : 1 ≤ stepLen radius := le_max_left _ _

theorem turns_suffice (radius limit : ℝ) :
    limit < stepLen radius + (⌈limit⌉.toNat : Nat) * stepLen radius := by
  have long := one_le_stepLen radius
  have up : limit ≤ (⌈limit⌉.toNat : Nat) :=
    (Int.le_ceil limit).trans (by exact_mod_cast Int.self_le_toNat ⌈limit⌉)
  have more : ((⌈limit⌉.toNat : Nat) : ℝ) ≤ (⌈limit⌉.toNat : Nat) * stepLen radius :=
    le_mul_of_one_le_right (Nat.cast_nonneg _) long
  linarith

/-- Where a search along a ray lands. Samples are `stepLen` apart; the first is one step away from
the target. -/
inductive Landing (free : ℝ → ℝ → Bool) (x y dirX dirY distance overshoot radius : ℝ) :
    ℝ × ℝ → Prop where
  | target (clear : FreeAt free (along x y dirX dirY distance)) :
    Landing free x y dirX dirY distance overshoot radius (along x y dirX dirY distance)
  | beyond (k : Nat) (first : 1 ≤ k) (within : k * stepLen radius ≤ overshoot)
      (blocked : ∀ j : Nat, j < k →
        ¬ FreeAt free (along x y dirX dirY (distance + j * stepLen radius)))
      (clear : FreeAt free (along x y dirX dirY (distance + k * stepLen radius))) :
    Landing free x y dirX dirY distance overshoot radius
      (along x y dirX dirY (distance + k * stepLen radius))
  | back (k : Nat) (first : 1 ≤ k) (within : k * stepLen radius ≤ distance)
      (ahead : ∀ j : Nat, j * stepLen radius ≤ overshoot →
        ¬ FreeAt free (along x y dirX dirY (distance + j * stepLen radius)))
      (blocked : ∀ j : Nat, 1 ≤ j → j < k →
        ¬ FreeAt free (along x y dirX dirY (distance - j * stepLen radius)))
      (clear : FreeAt free (along x y dirX dirY (distance - k * stepLen radius))) :
    Landing free x y dirX dirY distance overshoot radius
      (along x y dirX dirY (distance - k * stepLen radius))
  | stay (ahead : ∀ j : Nat, j * stepLen radius ≤ overshoot →
        ¬ FreeAt free (along x y dirX dirY (distance + j * stepLen radius)))
      (behind : ∀ j : Nat, 1 ≤ j → j * stepLen radius ≤ distance →
        ¬ FreeAt free (along x y dirX dirY (distance - j * stepLen radius))) :
    Landing free x y dirX dirY distance overshoot radius (x, y)

theorem findFlashLanding_lands (free : ℝ → ℝ → Bool)
    (x y dirX dirY distance overshoot radius : ℝ) :
    Landing free x y dirX dirY distance overshoot radius
      (findFlashLanding x y dirX dirY distance overshoot radius free) := by
  have half : max 1 (radius / (JsNumber.ofRat 2 : ℝ)) = stepLen radius := rfl
  have positive : 0 < stepLen radius := one_pos.trans_le (one_le_stepLen radius)
  have beyond (t : ℝ) : along (x + dirX * distance) (y + dirY * distance) dirX dirY t =
      along x y dirX dirY (distance + t) := by
    ext <;> simp only [along] <;> ring
  have back (t : ℝ) : along (x + dirX * distance) (y + dirY * distance) (-dirX) (-dirY) t =
      along x y dirX dirY (distance - t) := by
    ext <;> simp only [along] <;> ring
  have sample (k : Nat) : stepLen radius + k * stepLen radius = (k + 1 : Nat) * stepLen radius := by
    push_cast
    ring
  have forth := probe_finds free (x + dirX * distance) (y + dirY * distance) dirX dirY
    (turns_suffice radius overshoot) positive
  have home := probe_finds free (x + dirX * distance) (y + dirY * distance) (-dirX) (-dirY)
    (turns_suffice radius distance) positive
  simp only [beyond, sample] at forth
  simp only [back, sample] at home
  unfold findFlashLanding
  dsimp only
  rw [half]
  by_cases clear : FreeAt free (along x y dirX dirY distance)
  · have here : free (x + dirX * distance) (y + dirY * distance) = true := clear
    rw [if_pos here]
    exact .target clear
  · have target : ¬ FreeAt free (along x y dirX dirY (distance + (0 : Nat) * stepLen radius)) := by
      simpa using clear
    have blocked : ¬ free (x + dirX * distance) (y + dirY * distance) = true := clear
    rw [if_neg blocked]
    rcases forth with ⟨k, within, lands, found, before⟩ | ⟨fails, none_⟩
    · have first : probe free (x + dirX * distance) (y + dirY * distance) dirX dirY
          (stepLen radius) overshoot (JsNumber.ceil overshoot).toNat (stepLen radius) = _ := lands
      rw [first]
      refine .beyond (k + 1) (Nat.le_add_left 1 k) within (fun j earlier => ?_) found
      cases j with
      | zero => exact target
      | succ j => exact before j (Nat.lt_of_succ_lt_succ earlier)
    · have nothing : probe free (x + dirX * distance) (y + dirY * distance) dirX dirY
          (stepLen radius) overshoot (JsNumber.ceil overshoot).toNat (stepLen radius) = none := fails
      rw [nothing]
      have ahead (j : Nat) (within : j * stepLen radius ≤ overshoot) :
          ¬ FreeAt free (along x y dirX dirY (distance + j * stepLen radius)) := by
        cases j with
        | zero => exact target
        | succ j => exact none_ j within
      rcases home with ⟨k, within, lands, found, before⟩ | ⟨fails, behind⟩
      · have first : probe free (x + dirX * distance) (y + dirY * distance) (-dirX) (-dirY)
            (stepLen radius) distance (JsNumber.ceil distance).toNat (stepLen radius) = _ := lands
        rw [first]
        refine .back (k + 1) (Nat.le_add_left 1 k) within ahead (fun j counted earlier => ?_) found
        cases j with
        | zero => exact absurd counted (Nat.not_succ_le_zero 0)
        | succ j => exact before j (Nat.lt_of_succ_lt_succ earlier)
      · have stays : probe free (x + dirX * distance) (y + dirY * distance) (-dirX) (-dirY)
            (stepLen radius) distance (JsNumber.ceil distance).toNat (stepLen radius) = none := fails
        rw [stays]
        refine .stay ahead fun j counted within => ?_
        cases j with
        | zero => exact absurd counted (Nat.not_succ_le_zero 0)
        | succ j => exact behind j within

variable {distance overshoot : ℝ} {landing : ℝ × ℝ}

theorem Landing.on_ray (lands : Landing free x y dirX dirY distance overshoot radius landing)
    (far : 0 ≤ distance) (forward : 0 ≤ overshoot) :
    ∃ t, 0 ≤ t ∧ t ≤ distance + overshoot ∧ landing = along x y dirX dirY t := by
  have step : 0 ≤ stepLen radius := zero_le_one.trans (one_le_stepLen radius)
  cases lands with
  | target clear => exact ⟨distance, far, by linarith, rfl⟩
  | beyond k first within blocked clear =>
    have ahead : 0 ≤ k * stepLen radius := by positivity
    exact ⟨_, by linarith, by linarith, rfl⟩
  | back k first within ahead blocked clear =>
    have behind : 0 ≤ k * stepLen radius := by positivity
    exact ⟨_, by linarith, by linarith, rfl⟩
  | stay ahead behind => exact ⟨0, le_rfl, by linarith, by simp [along]⟩

theorem Landing.is_free (lands : Landing free x y dirX dirY distance overshoot radius landing) :
    landing = (x, y) ∨ FreeAt free landing := by
  cases lands with
  | target clear => exact .inr clear
  | beyond k first within blocked clear => exact .inr clear
  | back k first within ahead blocked clear => exact .inr clear
  | stay ahead behind => exact .inl rfl

/-- A blink ends on its ray, at the sample that the search prefers, and neither walls nor storm move
the player from there. -/
theorem blink_lands (map : WorldMap ℝ) (storm : StormRect ℝ) (x y dirX dirY : ℝ)
    {distance overshoot : ℝ} (far : 0 ≤ distance) (forward : 0 ≤ overshoot) (radius : ℝ) :
    let free := fun x y => isPositionFree map x y radius storm
    let landing := findFlashLanding x y dirX dirY distance overshoot radius free
    (∃ t, 0 ≤ t ∧ t ≤ distance + overshoot ∧ landing = along x y dirX dirY t) ∧
      (landing ≠ (x, y) → isPositionFree map landing.1 landing.2 radius storm = true) ∧
      Landing free x y dirX dirY distance overshoot radius landing ∧
      ∀ px py, isPositionFree map px py radius storm = true →
        resolveStatic map px py radius storm = (px, py) := by
  intro free landing
  have lands := findFlashLanding_lands free x y dirX dirY distance overshoot radius
  exact ⟨lands.on_ray far forward, fun moved => lands.is_free.resolve_left moved, lands,
    fun px py clear => resolveStatic_free clear⟩

/-- A blink to the right, on any map and in any storm. -/
theorem blink_lands_right :
    let map : WorldMap ℝ :=
      { mapId := "", cols := 20, rows := 20, tileSize := 50, barrierSpeed := 0
        tiles := List.replicate 20 (List.replicate 20 .wall), timeline := fun _ => [] }
    let free := fun x y => isPositionFree map x y 20 ⟨0, 0, 1000, 1000⟩
    let landing := findFlashLanding 500 500 1 0 150 100 20 free
    ∃ t, 0 ≤ t ∧ t ≤ 150 + 100 ∧ landing = along 500 500 1 0 t :=
  (blink_lands _ _ 500 500 1 0 (by norm_num) (by norm_num) 20).1

/-- `useFlash` blinks so. -/
theorem useFlash_lands (w : World ℝ) (caster : PlayerState ℝ)
    (faces : JsNumber.hypot caster.facingX caster.facingY ≠ 0) :
    let storm := stormRect w
    ∃ landing, (useFlash w caster).world = w.update caster.playerId (fun p =>
        startCooldown w { p with x := landing.1, y := landing.2 } .flash
          (JsNumber.ofRat Skills.Flash.cooldownMs)) ∧
      (landing ≠ (caster.x, caster.y) →
        resolveStatic w.map landing.1 landing.2 caster.radius storm = landing) := by
  intro storm
  have lands := findFlashLanding_lands
    (fun x y => isPositionFree w.map x y caster.radius storm) caster.x caster.y
    (caster.facingX / JsNumber.hypot caster.facingX caster.facingY)
    (caster.facingY / JsNumber.hypot caster.facingX caster.facingY)
    (JsNumber.ofRat Skills.Flash.distancePx) (JsNumber.ofRat Skills.Flash.wallExitMaxPx)
    caster.radius
  refine ⟨_, ?_, fun moved => resolveStatic_free (lands.is_free.resolve_left moved)⟩
  unfold useFlash
  dsimp only
  rw [if_neg faces]

end SwitchRemake.Simulation

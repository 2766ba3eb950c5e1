import SwitchRemake.Shared.HumanScene

/-!
# One answer

Exact arithmetic. Every scene of the human check has exactly one right answer, for as long as the
server takes it.
-/

namespace SwitchRemake.HumanScene
open Lib HumanCheck Simulation

/-! ## Draws -/

theorem floorOf_lt (value : UInt32) {n : Nat} (positive : 0 < n) : floorOf value n < n :=
  Nat.div_lt_of_lt_mul (Nat.mul_lt_mul_of_pos_right value.toNat_lt positive)

theorem intBetween_bounds (state : UInt32) {min max : Nat} (ordered : min ≤ max) :
    min ≤ (intBetween state min max).2 ∧ (intBetween state min max).2 ≤ max := by
  have below := floorOf_lt (seededRandom state).2 (by omega : 0 < max - min + 1)
  simp only [intBetween]
  omega

theorem swap_perm {slots : List Nat} {i j : Nat} (first : i < slots.length)
    (second : j < slots.length) : (swap slots i j).Perm slots := by
  rw [swap, List.getD_eq_getElem?_getD, List.getD_eq_getElem?_getD,
    List.getElem?_eq_getElem first, List.getElem?_eq_getElem second]
  exact List.set_set_perm first second

theorem shuffle_perm (state : UInt32) (xs : List Nat) : (shuffle state xs).2.Perm xs := by
  have inside : ∀ i ∈ (List.range (xs.length - 1)).reverse, i + 1 < xs.length := by
    intro i member
    have := List.mem_range.mp (List.mem_reverse.mp member)
    omega
  refine List.foldlRecOn (motive := fun drawn : UInt32 × List Nat => drawn.2.Perm xs) _ _ (.refl xs)
    fun drawn perm i member => ?_
  have here := inside i member
  refine (swap_perm ?_ ?_).trans perm
  · rw [perm.length_eq]
    exact here
  · rw [perm.length_eq]
    exact (floorOf_lt _ (Nat.succ_pos _)).trans_le here

theorem shuffledSlots_perm (state : UInt32) :
    (shuffledSlots state).2.Perm [1, 2, 3, 4, 5, 6, 7, 8] :=
  shuffle_perm state [1, 2, 3, 4, 5, 6, 7, 8]

/-- Eight slots, all different. -/
theorem slots_cases (state : UInt32) : ∃ a b c d e f g h,
    (shuffledSlots state).2 = [a, b, c, d, e, f, g, h] ∧ [a, b, c, d, e, f, g, h].Nodup := by
  have perm := shuffledSlots_perm state
  have eight : (shuffledSlots state).2.length = 8 := perm.length_eq
  have apart : (shuffledSlots state).2.Nodup := perm.nodup_iff.mpr (by decide)
  generalize (shuffledSlots state).2 = slots at eight apart
  match slots, eight with
  | [a, b, c, d, e, f, g, h], _ => exact ⟨a, b, c, d, e, f, g, h, rfl, apart⟩

/-! ## Angles -/

theorem spreadAngles_length {count : Nat} {angles : List Nat} (few : angles.length < count)
    (free : List Nat) : (spreadAngles count angles free).length ≤ count := by
  induction free generalizing angles with
  | nil => exact few.le
  | cons candidate rest ih =>
    unfold spreadAngles
    dsimp only
    generalize taken : (if angles.all fun taken => 60 ≤ angleGap taken candidate then
      angles ++ [candidate] else angles) = next
    have longer : next.length ≤ angles.length + 1 := by
      rw [← taken]
      split <;> simp
    by_cases full : next.length = count
    · rw [if_pos full]
      exact full.le
    · rw [if_neg full]
      exact ih (by omega)

theorem fillAngles_length {count : Nat} {angles free : List Nat} (distinct : free.Nodup)
    (few : angles.length ≤ count)
    (enough : count ≤ angles.length + (free.filter fun a => !angles.contains a).length) :
    (fillAngles count angles free).length = count := by
  induction free generalizing angles with
  | nil => exact few.antisymm (by simpa using enough)
  | cons candidate rest ih =>
    obtain ⟨apart, distinct⟩ := List.nodup_cons.mp distinct
    unfold fillAngles
    by_cases full : angles.length = count
    · rw [if_pos full]
      exact full
    · rw [if_neg full]
      by_cases taken : angles.contains candidate = true
      · rw [if_pos taken]
        rw [List.filter_cons_of_neg (by simpa using taken)] at enough
        exact ih distinct few enough
      · rw [if_neg taken]
        rw [List.filter_cons_of_pos (by simpa using taken)] at enough
        have same : (rest.filter fun a => !(angles ++ [candidate]).contains a) =
            rest.filter fun a => !angles.contains a := by
          refine List.filter_congr fun a member => ?_
          have other : a ≠ candidate := fun equal => apart (equal ▸ member)
          simp [other]
        refine ih distinct ?_ ?_
        · rw [List.length_append]
          exact Nat.lt_of_le_of_ne few full
        · rw [same, List.length_append]
          simp only [List.length_cons, List.length_nil] at enough ⊢
          omega

/-- The free directions suffice: every runner gets an angle. -/
theorem angles_length (state : UInt32) {taggerAngle count : Nat}
    (side : taggerAngle ∈ [180, 0, 270]) (some_ : 0 < count) (runners : count ≤ 9) :
    let free := (shuffle state (freeAngles taggerAngle)).2
    (fillAngles count (spreadAngles count [] free) free).length = count := by
  intro free
  have perm : free.Perm (freeAngles taggerAngle) := shuffle_perm state _
  have nine : ∀ side ∈ [180, 0, 270], (freeAngles side).length = 9 ∧ (freeAngles side).Nodup := by
    decide
  have distinct : free.Nodup := perm.nodup_iff.mpr (nine _ side).2
  have few := spreadAngles_length (show [].length < count from some_) free
  generalize spreadAngles count [] free = angles at few
  refine fillAngles_length distinct few ?_
  have taken : (free.filter fun a => angles.contains a).length ≤ angles.length :=
    (List.Nodup.subperm (distinct.filter _) fun a member => by
      simpa using (List.mem_filter.mp member).2).length_le
  have all := List.length_eq_length_filter_add (l := free) fun a => angles.contains a
  rw [perm.length_eq, (nine _ side).1] at all
  omega

/-! ## Paths -/

structure Fair (timing : Timing) : Prop where
  early : 1900 ≤ timing.openAt
  caught : timing.openAt + 1000 ≤ timing.caughtAt
  ends : timing.endAt = timing.caughtAt + 500

/-- The times of the keys increase from 0 to the end of the round. -/
structure Timed (endAt : Nat) (keys : List RoundKey) : Prop where
  first : keys.head?.map RoundKey.t = some 0
  last : keys.getLast?.map RoundKey.t = some endAt
  increasing : (keys.map RoundKey.t).Pairwise (· < ·)

theorem runnerKeys_timed {timing : Timing} (fair : Fair timing) (a : Int) (index : Nat)
    (state : UInt32) : Timed timing.endAt (runnerKeys timing a index state).2 := by
  obtain ⟨early, caught, ends⟩ := fair
  unfold runnerKeys
  split
  · have enter := intBetween_bounds state (by decide : 300 ≤ 700)
    refine ⟨rfl, rfl, ?_⟩
    simp
    omega
  · split
    · have inAt := intBetween_bounds state (by decide : 400 ≤ 800)
      have outAt := intBetween_bounds (intBetween state 400 800).1 (by decide : 350 ≤ 550)
      refine ⟨rfl, rfl, ?_⟩
      simp
      omega
    · refine ⟨rfl, rfl, ?_⟩
      simp
      omega

variable {t lo hi : ℝ} {prev next : RoundKey} {rest : List RoundKey}

theorem segment_here (before : t ≤ next.t) : segment t prev (next :: rest) = some (prev, next) := by
  rw [segment, if_pos]
  rw [ofInt_real]
  exact_mod_cast before

theorem segment_skip (after : (next.t : ℝ) < t) :
    segment t prev (next :: rest) = segment t next rest := by
  rw [segment, if_neg]
  rw [ofInt_real, not_le]
  exact_mod_cast after

theorem segment_mem {first a b : RoundKey} (found : segment t first rest = some (a, b)) :
    a ∈ first :: rest ∧ b ∈ rest := by
  induction rest generalizing first with
  | nil => cases found
  | cons next rest ih =>
    rw [segment] at found
    split at found
    · cases found
      exact ⟨List.mem_cons_self, List.mem_cons_self⟩
    · obtain ⟨left, right⟩ := ih found
      exact ⟨List.mem_cons_of_mem first left, List.mem_cons_of_mem next right⟩

theorem progress_bounds (t : ℝ) (prev next : RoundKey) :
    0 ≤ progress t prev next ∧ progress t prev next ≤ 1 := by
  unfold progress
  dsimp only
  split
  · exact ⟨zero_le_one, le_rfl⟩
  · exact ⟨le_min zero_le_one (le_max_left _ _), min_le_left _ _⟩

/-- The distance on the way from one key to the next. -/
noncomputable def between (t : ℝ) (prev next : RoundKey) : ℝ :=
  prev.r + (next.r - prev.r) * progress t prev next

theorem between_le (hi : ℝ) (before : (prev.r : ℝ) ≤ hi) (after : (next.r : ℝ) ≤ hi) :
    between t prev next ≤ hi := by
  obtain ⟨low, high⟩ := progress_bounds t prev next
  unfold between
  nlinarith

theorem le_between (before : lo ≤ prev.r) (after : lo ≤ next.r) : lo ≤ between t prev next := by
  obtain ⟨low, high⟩ := progress_bounds t prev next
  unfold between
  nlinarith

variable {cos sin : ℝ → ℝ} {pi : ℝ}

theorem roundPosition_r (first : RoundKey) (keys : List RoundKey) :
    (roundPosition cos sin pi (first :: keys) t).r =
      between t ((segment t first keys).getD (first, (first :: keys).getLastD ⟨0, 0, 0⟩)).1
        ((segment t first keys).getD (first, (first :: keys).getLastD ⟨0, 0, 0⟩)).2 := by
  simp only [roundPosition, between, ofInt_real, List.headD_cons, List.tail_cons, Int.cast_natCast]

/-- A path whose keys are all out of range is always out of range. -/
theorem le_roundPosition {keys : List RoundKey} (some_ : keys ≠ [])
    (outside : ∀ key ∈ keys, lo ≤ key.r) : lo ≤ (roundPosition cos sin pi keys t).r := by
  cases keys with
  | nil => exact absurd rfl some_
  | cons first keys =>
    rw [roundPosition_r]
    cases found : segment t first keys with
    | none =>
      refine le_between (outside first List.mem_cons_self) (outside _ ?_)
      rw [Option.getD_none, List.getLastD_eq_getLast?, List.getLast?_eq_some_getLast some_]
      exact List.getLast_mem some_
    | some pair =>
      obtain ⟨left, right⟩ := segment_mem found
      exact le_between (outside _ left) (outside _ (List.mem_cons_of_mem first right))

variable {timing : Timing} {a : Int} {state : UInt32}

/-- The answer is in range for as long as the server takes it. -/
theorem answer_inside (fair : Fair timing) (after : (timing.openAt : ℝ) - graceMs ≤ t)
    (before : t ≤ (timing.caughtAt : ℝ) + graceMs) :
    (roundPosition cos sin pi (runnerKeys timing a 0 state).2 t).r < range := by
  obtain ⟨early, caught, ends⟩ := fair
  obtain ⟨least, most⟩ := intBetween_bounds state (by decide : 300 ≤ 700)
  simp only [runnerKeys, if_true]
  generalize (intBetween state 300 700).2 = enter at least most ⊢
  have entered : ((timing.openAt - enter : Nat) : ℝ) < t := by
    have earlier : ((timing.openAt - enter : Nat) : ℝ) + 300 ≤ timing.openAt := by
      exact_mod_cast (by omega : timing.openAt - enter + 300 ≤ timing.openAt)
    norm_num [graceMs] at after
    linarith
  have stays : t ≤ ((timing.caughtAt + 300 : Nat) : ℝ) := by
    norm_num [graceMs] at before ⊢
    linarith
  rw [roundPosition_r, segment_skip entered, segment_here stays]
  refine (between_le 17 ?_ ?_).trans_lt ?_ <;> norm_num [range]

/-- Nobody else is. -/
theorem other_outside (fair : Fair timing) {index : Nat} (other : index ≠ 0)
    (after : (timing.openAt : ℝ) - graceMs ≤ t)
    (before : t ≤ (timing.caughtAt : ℝ) + graceMs) :
    range < (roundPosition cos sin pi (runnerKeys timing a index state).2 t).r := by
  obtain ⟨early, caught, ends⟩ := fair
  have limit : (range : ℝ) < 32 := by norm_num [range]
  refine limit.trans_le ?_
  unfold runnerKeys
  rw [if_neg other]
  split
  · obtain ⟨-, latest⟩ := intBetween_bounds state (by decide : 400 ≤ 800)
    obtain ⟨least, most⟩ :=
      intBetween_bounds (intBetween state 400 800).1 (by decide : 350 ≤ 550)
    have rests := (intBetween_bounds (drift (drift (intBetween (intBetween state 400 800).1 350
      550).1).1).1 (by decide : 34 ≤ 40)).1
    dsimp only
    generalize (intBetween state 400 800).2 = inAt at latest ⊢
    generalize (intBetween (intBetween state 400 800).1 350 550).2 = outAt at least most ⊢
    have left : ((timing.openAt - outAt : Nat) : ℝ) < t := by
      have earlier : ((timing.openAt - outAt : Nat) : ℝ) + 350 ≤ timing.openAt := by
        exact_mod_cast (by omega : timing.openAt - outAt + 350 ≤ timing.openAt)
      norm_num [graceMs] at after
      linarith
    have visited : (inAt : ℝ) < t := by
      refine lt_trans ?_ left
      exact_mod_cast (by omega : inAt < timing.openAt - outAt)
    have runs : t ≤ (timing.endAt : ℝ) := by
      rw [ends]
      norm_num [graceMs] at before ⊢
      linarith
    rw [roundPosition_r, segment_skip visited, segment_skip left, segment_here runs]
    refine le_between ?_ ?_
    · norm_num
    · exact_mod_cast le_trans (by decide : 32 ≤ 34) rests
  · have first := (intBetween_bounds state (by decide : 34 ≤ 42)).1
    have middle := (intBetween_bounds (intBetween state 34 42).1 (by decide : 32 ≤ 42)).1
    have last := (intBetween_bounds (drift (intBetween (intBetween state 34 42).1 32 42).1).1
      (by decide : 34 ≤ 42)).1
    refine le_roundPosition (by simp) fun key member => ?_
    have low : 32 ≤ key.r := by
      simp only [List.mem_cons, List.not_mem_nil, or_false] at member
      rcases member with rfl | rfl | rfl <;> dsimp only <;> omega
    exact_mod_cast low

/-- The tagger is within reach from the moment the switch opens until it catches. -/
theorem tagger_inside {openAt caughtAt endAt : Nat} (early : 0 < openAt)
    (after : (openAt : ℝ) ≤ t) (before : t ≤ caughtAt) :
    (roundPosition cos sin pi
      [⟨0, 64, a⟩, ⟨openAt, approach, a⟩, ⟨caughtAt, 8, a⟩, ⟨endAt, 8, a⟩] t).r ≤ approach := by
  rw [roundPosition_r]
  rcases after.eq_or_lt with rfl | later
  · have arrives : progress (openAt : ℝ) ⟨0, 64, a⟩ ⟨openAt, approach, a⟩ = 1 := by
      have span : (0 : ℝ) < openAt := by exact_mod_cast early
      simp [progress, ofInt_real, span.ne', not_le.mpr span]
    have reached : segment (openAt : ℝ) ⟨0, 64, a⟩
        [⟨openAt, approach, a⟩, ⟨caughtAt, 8, a⟩, ⟨endAt, 8, a⟩] =
          some (⟨0, 64, a⟩, ⟨openAt, approach, a⟩) := segment_here le_rfl
    rw [reached]
    simp [between, arrives]
  · rw [segment_skip (by exact_mod_cast later), segment_here before]
    refine between_le _ ?_ ?_ <;> norm_num [approach]

/-! ## The scene -/

theorem drawRunners_slots (timing : Timing) (angles slots : List Nat) (state : UInt32)
    (index : Nat) : (drawRunners timing angles state index slots).map RoundActor.slot = slots := by
  induction slots generalizing state index with
  | nil => rfl
  | cons slot rest ih => exact congrArg (slot :: ·) (ih _ _)

theorem drawRunners_mem {timing : Timing} {angles slots : List Nat} {state : UInt32} {index : Nat}
    {actor : RoundActor} (member : actor ∈ drawRunners timing angles state index slots) :
    actor.slot ∈ slots ∧ ∃ a i s, index ≤ i ∧ actor.keys = (runnerKeys timing a i s).2 := by
  induction slots generalizing state index with
  | nil => cases member
  | cons slot rest ih =>
    rcases List.mem_cons.mp member with rfl | later
    · exact ⟨List.mem_cons_self, _, index, state, le_rfl, rfl⟩
    · obtain ⟨here, a, i, s, after, keys⟩ := ih later
      exact ⟨List.mem_cons_of_mem slot here, a, i, s, Nat.le_of_succ_le after, keys⟩

/-- The scene of the given times, slots and angles. -/
def scene (timing : Timing) (angles : List Nat) (state : UInt32)
    (taggerAngle self tagger target : Nat) (others : List Nat) : SwitchRound where
  version := version
  selfSlot := self
  tagger :=
    ⟨tagger, [⟨0, 64, taggerAngle⟩, ⟨timing.openAt, approach, taggerAngle⟩,
      ⟨timing.caughtAt, 8, taggerAngle⟩, ⟨timing.endAt, 8, taggerAngle⟩]⟩
  runners := sortById RoundActor.slot (drawRunners timing angles state 0 (target :: others))
  openAt := timing.openAt
  caughtAt := timing.caughtAt
  endAt := timing.endAt
  target := target

theorem buildSwitchRound_scene (seed : Nat) :
    ∃ timing angles state taggerAngle self tagger target others, Fair timing ∧
      angles.length = (target :: others).length ∧ (self :: tagger :: target :: others).Nodup ∧
      buildSwitchRound seed =
        scene timing angles state taggerAngle self tagger target others := by
  obtain ⟨a, b, c, d, e, f, g, h, slots, apart⟩ := slots_cases (UInt32.ofNat seed)
  have opens := intBetween_bounds (seededRandom (shuffledSlots (UInt32.ofNat seed)).1).1
    (by decide : 1900 ≤ 2600)
  have catches := intBetween_bounds
    (intBetween (seededRandom (shuffledSlots (UInt32.ofNat seed)).1).1 1900 2600).1
    (by decide : 1000 ≤ 1300)
  have side (state : UInt32) : [180, 0, 270].getD (intBetween state 0 2).2 0 ∈ [180, 0, 270] := by
    have drawn := (intBetween_bounds state (by decide : 0 ≤ 2)).2
    generalize (intBetween state 0 2).2 = i at drawn ⊢
    revert i
    decide
  unfold buildSwitchRound
  dsimp only
  rw [slots]
  split
  · refine ⟨⟨_, _, _, _⟩, _, _, _, a, b, c, [d, e, f], ⟨opens.1, ?_, rfl⟩, ?_, ?_, rfl⟩
    · exact Nat.add_le_add_left catches.1 _
    · exact angles_length _ (side _) (by decide) (by decide)
    · exact apart.sublist (List.sublist_append_left [a, b, c, d, e, f] [g, h])
  · refine ⟨⟨_, _, _, _⟩, _, _, _, a, b, c, [d, e, f, g], ⟨opens.1, ?_, rfl⟩, ?_, ?_, rfl⟩
    · exact Nat.add_le_add_left catches.1 _
    · exact angles_length _ (side _) (by decide) (by decide)
    · exact apart.sublist (List.sublist_append_left [a, b, c, d, e, f, g] [h])

theorem buildRadioRound_target (seed : Nat) :
    (buildRadioRound seed).target = HumanCheck.buildRadioRound seed := by
  rw [HumanCheck.buildRadioRound, buildRadioRound]

/-- The server's own way to the answer leads to the same. -/
theorem buildSwitchRound_judged (seed : Nat) :
    (buildSwitchRound seed).judged = HumanCheck.buildSwitchRound seed := by
  obtain ⟨a, b, c, d, e, f, g, h, slots, -⟩ := slots_cases (UInt32.ofNat seed)
  unfold buildSwitchRound HumanCheck.buildSwitchRound SwitchRound.judged
  dsimp only
  rw [slots]
  split <;> rfl

/-! ## The radio -/

/-- The distance of a runner as far as the turns have told it. -/
def heard (turns : List RadioTurn) (slot : Nat) : Option Nat :=
  turns.foldl (fun known turn =>
    ((turn.moves.find? fun move => move.slot = slot).map RadioMove.distance).or known) none

theorem find_bySlot (moves : List RadioMove) (apart : (moves.map RadioMove.slot).Nodup)
    (slot : Nat) : ((bySlot moves).find? fun move => move.slot = slot) =
      moves.find? fun move => move.slot = slot := by
  have same {move : RadioMove} : move ∈ bySlot moves ↔ move ∈ moves := mem_sortById
  cases found : moves.find? fun move => move.slot = slot with
  | none =>
    refine List.find?_eq_none.mpr fun move member => ?_
    exact List.find?_eq_none.mp found move (same.mp member)
  | some move =>
    have here := List.mem_of_find?_eq_some found
    have own : move.slot = slot := by simpa using List.find?_some found
    cases sorted : (bySlot moves).find? fun move => move.slot = slot with
    | none => exact absurd own (by simpa using List.find?_eq_none.mp sorted move (same.mpr here))
    | some other =>
      have there := same.mp (List.mem_of_find?_eq_some sorted)
      have alike : other.slot = slot := by simpa using List.find?_some sorted
      rw [List.inj_on_of_nodup_map apart there here (alike.trans own.symm)]

/-- The radio's runners, when only some of them are in range. -/
def OnlyInRange (turns : List RadioTurn) (runners : List Nat) (slot : Nat) : Prop :=
  slot ∈ runners ∧ ∀ other ∈ runners, ∃ distance, heard turns other = some distance ∧
    (distance ≤ radioRange ↔ other = slot)

/-- The distances the radio tells of. -/
structure Distances where
  targetStart : Nat
  targetMid : Nat
  targetEnd : Nat
  baitStart : Nat
  baitMid : Nat
  walkerStart : Nat
  walkerEnd : Nat
  idleAt : Nat

structure Distances.Apart (d : Distances) : Prop where
  targetStart : radioRange < d.targetStart
  targetEnd : d.targetEnd ≤ radioRange
  baitStart : d.baitStart ≤ radioRange
  baitMid : radioRange < d.baitMid
  walkerStart : radioRange < d.walkerStart
  walkerEnd : radioRange < d.walkerEnd
  idleAt : radioRange < d.idleAt

/-- The radio round of the given slots and distances. -/
def radio (d : Distances) (self tagger target bait walker idle : Nat) : RadioRound where
  version := version
  selfSlot := self
  taggerSlot := tagger
  runnerSlots := sortById (fun slot => slot) [target, bait, walker, idle]
  turns :=
    [⟨6, bySlot [⟨target, d.targetStart⟩, ⟨bait, d.baitStart⟩, ⟨walker, d.walkerStart⟩,
        ⟨idle, d.idleAt⟩]⟩,
      ⟨4, bySlot [⟨target, d.targetMid⟩, ⟨bait, d.baitMid⟩]⟩,
      ⟨2, bySlot [⟨target, d.targetEnd⟩, ⟨walker, d.walkerEnd⟩]⟩]
  target := target

theorem buildRadioRound_radio (seed : Nat) :
    ∃ d self tagger target bait walker idle, Distances.Apart d ∧
      [self, tagger, target, bait, walker, idle].Nodup ∧
      (shuffledSlots (UInt32.ofNat seed)).2.getD 3 0 = bait ∧
      buildRadioRound seed = radio d self tagger target bait walker idle := by
  obtain ⟨a, b, c, d, e, f, g, h, slots, apart⟩ := slots_cases (UInt32.ofNat seed)
  unfold buildRadioRound
  dsimp only
  rw [slots]
  refine ⟨⟨_, _, _, _, _, _, _, _⟩, a, b, c, d, e, f, ?_, ?_, rfl, rfl⟩
  · have walks := intBetween_bounds (intBetween (intBetween (intBetween (intBetween (intBetween
      (shuffledSlots (UInt32.ofNat seed)).1 4 6).1 3 ((intBetween (shuffledSlots
      (UInt32.ofNat seed)).1 4 6).2 - 1)).1 1 radioRange).1 1 radioRange).1 4 6).1
      (by decide : 5 ≤ 7)
    exact
      { targetStart := Nat.lt_of_lt_of_le (by decide) (intBetween_bounds _ (by decide)).1
        targetEnd := (intBetween_bounds _ (by decide)).2
        baitStart := (intBetween_bounds _ (by decide)).2
        baitMid := Nat.lt_of_lt_of_le (by decide) (intBetween_bounds _ (by decide)).1
        walkerStart := Nat.lt_of_lt_of_le (by decide) walks.1
        walkerEnd := Nat.lt_of_lt_of_le (by decide)
          (intBetween_bounds _ (Nat.le_sub_one_of_lt walks.1)).1
        idleAt := Nat.lt_of_lt_of_le (by decide) (intBetween_bounds _ (by decide)).1 }
  · exact apart.sublist (List.sublist_append_left [a, b, c, d, e, f] [g, h])

section
variable {d : Distances} {self tagger target bait walker idle : Nat}

theorem radio_ranges (apart : d.Apart)
    (distinct : [self, tagger, target, bait, walker, idle].Nodup) :
    let round := radio d self tagger target bait walker idle
    OnlyInRange round.turns round.runnerSlots target ∧
      OnlyInRange (round.turns.take 1) round.runnerSlots bait := by
  intro round
  simp only [List.nodup_cons, List.mem_cons, List.not_mem_nil, or_false, not_or] at distinct
  obtain ⟨-, -, ⟨tb, tw, ti⟩, ⟨bw, bi⟩, wi, -⟩ := distinct
  have runner {slot : Nat} : slot ∈ round.runnerSlots ↔
      slot = target ∨ slot = bait ∨ slot = walker ∨ slot = idle :=
    mem_sortById.trans (by simp)
  have first (slot : Nat) := find_bySlot [⟨target, d.targetStart⟩, ⟨bait, d.baitStart⟩,
    ⟨walker, d.walkerStart⟩, ⟨idle, d.idleAt⟩] (by simp [tb, tw, ti, bw, bi, wi]) slot
  have second (slot : Nat) := find_bySlot [⟨target, d.targetMid⟩, ⟨bait, d.baitMid⟩]
    (by simp [tb]) slot
  have third (slot : Nat) := find_bySlot [⟨target, d.targetEnd⟩, ⟨walker, d.walkerEnd⟩]
    (by simp [tw]) slot
  refine ⟨⟨runner.mpr (.inl rfl), fun other member => ?_⟩,
    ⟨runner.mpr (.inr (.inl rfl)), fun other member => ?_⟩⟩
  · rcases runner.mp member with rfl | rfl | rfl | rfl
    · refine ⟨d.targetEnd, ?_, by simp [apart.targetEnd]⟩
      simp [round, radio, heard, first, second, third]
    · refine ⟨d.baitMid, ?_, by simp [Nat.not_le.mpr apart.baitMid, Ne.symm tb]⟩
      simp [round, radio, heard, first, second, third, tb, Ne.symm bw]
    · refine ⟨d.walkerEnd, ?_, by simp [Nat.not_le.mpr apart.walkerEnd, Ne.symm tw]⟩
      simp [round, radio, heard, first, second, third, tw]
    · refine ⟨d.idleAt, ?_, by simp [Nat.not_le.mpr apart.idleAt, Ne.symm ti]⟩
      simp [round, radio, heard, first, second, third, ti, bi, wi]
  · rcases runner.mp member with rfl | rfl | rfl | rfl
    · refine ⟨d.targetStart, ?_, by simp [Nat.not_le.mpr apart.targetStart, tb]⟩
      simp [round, radio, heard, first]
    · refine ⟨d.baitStart, ?_, by simp [apart.baitStart]⟩
      simp [round, radio, heard, first, tb]
    · refine ⟨d.walkerStart, ?_, by simp [Nat.not_le.mpr apart.walkerStart, Ne.symm bw]⟩
      simp [round, radio, heard, first, tw, bw]
    · refine ⟨d.idleAt, ?_, by simp [Nat.not_le.mpr apart.idleAt, Ne.symm bi]⟩
      simp [round, radio, heard, first, ti, bi, wi]

end

/-! ## Both rounds -/

/-- A scene has one answer: its slots differ, its paths cover the round, and of all runners the
target alone is in range for as long as an answer is taken, while the tagger is close. -/
structure OneAnswer (cos sin : ℝ → ℝ) (pi : ℝ) (round : SwitchRound) : Prop where
  distinct : (round.selfSlot :: round.tagger.slot :: round.runners.map RoundActor.slot).Nodup
  timed : ∀ actor ∈ round.tagger :: round.runners, Timed round.endAt actor.keys
  present : ∃ actor ∈ round.runners, actor.slot = round.target
  inside : ∀ t : ℝ, (round.openAt : ℝ) - graceMs ≤ t → t ≤ (round.caughtAt : ℝ) + graceMs →
    ∀ actor ∈ round.runners, actor.slot = round.target →
      (roundPosition cos sin pi actor.keys t).r < range
  outside : ∀ t : ℝ, (round.openAt : ℝ) - graceMs ≤ t → t ≤ (round.caughtAt : ℝ) + graceMs →
    ∀ actor ∈ round.runners, actor.slot ≠ round.target →
      range < (roundPosition cos sin pi actor.keys t).r
  close : ∀ t : ℝ, (round.openAt : ℝ) ≤ t → t ≤ round.caughtAt →
    (roundPosition cos sin pi round.tagger.keys t).r ≤ approach
  judged : ∀ (slot : Nat) (atMs : Int), checkSwitchAnswer round.judged slot atMs = .ok ↔
    slot = round.target ∧ (round.openAt : Int) - graceMs ≤ atMs ∧
      atMs ≤ (round.caughtAt : Int) + graceMs

theorem scene_oneAnswer {timing : Timing} (fair : Fair timing) {angles : List Nat} {state : UInt32}
    {taggerAngle self tagger target : Nat} {others : List Nat}
    (distinct : (self :: tagger :: target :: others).Nodup) (cos sin : ℝ → ℝ) (pi : ℝ) :
    OneAnswer cos sin pi (scene timing angles state taggerAngle self tagger target others) := by
  have runner {actor : RoundActor} :
      actor ∈ (scene timing angles state taggerAngle self tagger target others).runners ↔
        actor ∈ drawRunners timing angles state 0 (target :: others) := mem_sortById
  have alone : target ∉ others :=
    (List.nodup_cons.mp (List.nodup_cons.mp (List.nodup_cons.mp distinct).2).2).1
  -- The first runner is the target, and every other has a path of another kind.
  have kinds {actor : RoundActor}
      (member : actor ∈ drawRunners timing angles state 0 (target :: others)) :
      ∃ a i s, actor.keys = (runnerKeys timing a i s).2 ∧ (actor.slot = target ↔ i = 0) := by
    rcases List.mem_cons.mp member with rfl | later
    · exact ⟨_, 0, state, rfl, by simp⟩
    · obtain ⟨here, a, i, s, after, keys⟩ := drawRunners_mem later
      refine ⟨a, i, s, keys, ⟨fun same => absurd (same ▸ here) alone, fun zero => by omega⟩⟩
  constructor
  · have perm : ((sortById RoundActor.slot (drawRunners timing angles state 0
        (target :: others))).map RoundActor.slot).Perm (target :: others) := by
      have mapped := (sortById_perm RoundActor.slot
        (drawRunners timing angles state 0 (target :: others))).map RoundActor.slot
      rwa [drawRunners_slots] at mapped
    exact ((perm.cons tagger).cons self).nodup_iff.mpr distinct
  · intro actor member
    rcases List.mem_cons.mp member with rfl | runs
    · obtain ⟨early, caught, ends⟩ := fair
      refine ⟨rfl, rfl, ?_⟩
      simp [scene]
      omega
    · obtain ⟨a, i, s, keys, -⟩ := kinds (runner.mp runs)
      rw [keys]
      exact runnerKeys_timed fair a i s
  · exact ⟨_, runner.mpr List.mem_cons_self, rfl⟩
  · intro t after before actor member answer
    obtain ⟨a, i, s, keys, first⟩ := kinds (runner.mp member)
    rw [keys, first.mp answer]
    exact answer_inside fair after before
  · intro t after before actor member other
    obtain ⟨a, i, s, keys, first⟩ := kinds (runner.mp member)
    rw [keys]
    exact other_outside fair (fun zero => other (first.mpr zero)) after before
  · intro t after before
    exact tagger_inside (Nat.lt_of_lt_of_le (by decide) fair.early) after before
  · exact fun slot atMs => checkSwitchAnswer_ok

/-- Every seed gives a scene and a radio round with one answer. The server finds the same answer
without drawing the paths. -/
theorem round_has_one_answer (seed : Nat) (cos sin : ℝ → ℝ) (pi : ℝ) :
    OneAnswer cos sin pi (buildSwitchRound seed) ∧
      (buildSwitchRound seed).judged = HumanCheck.buildSwitchRound seed ∧
      OnlyInRange (buildRadioRound seed).turns (buildRadioRound seed).runnerSlots
        (buildRadioRound seed).target ∧
      OnlyInRange ((buildRadioRound seed).turns.take 1) (buildRadioRound seed).runnerSlots
        ((shuffledSlots (UInt32.ofNat seed)).2.getD 3 0) := by
  refine ⟨?_, buildSwitchRound_judged seed, ?_⟩
  · obtain ⟨timing, angles, state, taggerAngle, self, tagger, target, others, fair, -, distinct,
      same⟩ := buildSwitchRound_scene seed
    rw [same]
    exact scene_oneAnswer fair distinct cos sin pi
  · obtain ⟨d, self, tagger, target, bait, walker, idle, apart, distinct, fourth, same⟩ :=
      buildRadioRound_radio seed
    rw [same, fourth]
    exact radio_ranges apart distinct

end SwitchRemake.HumanScene

import SwitchRemake.Client.Interpolation
import SwitchRemake.Lib.AffinePaths

/-!
# Smooth motion

What holds of the clock, of the samples and of the places between them in exact arithmetic.
-/

namespace SwitchRemake.Client
open Lib Simulation Wire

/-! ## The clock -/

theorem normalAdvance_nonneg (deltaMs : ℝ) {hz : ℝ} (positive : 0 < hz) : 0 ≤ normalAdvance deltaMs hz := by
  have cap : (0 : ℝ) ≤ JsNumber.ofRat renderTickMaxDeltaMs := by
    norm_num [JsNumber.ofRat, renderTickMaxDeltaMs]
  have scale : (0 : ℝ) ≤ JsNumber.ofRat 1000 := by norm_num [JsNumber.ofRat]
  exact mul_nonneg (div_nonneg (le_min (le_max_left _ _) cap) scale) positive.le

theorem advance_bounds {renderTick latest hz delayMs : ℝ} (deltaMs : ℝ) (positive : 0 < hz)
    (follows : ¬ hardResets renderTick latest hz delayMs) :
    ((19 / 20 : ℚ) : ℝ) * normalAdvance deltaMs hz ≤
        advanceRenderTick (some renderTick) latest deltaMs hz delayMs - renderTick ∧
      advanceRenderTick (some renderTick) latest deltaMs hz delayMs - renderTick ≤
        ((21 / 20 : ℚ) : ℝ) * normalAdvance deltaMs hz := by
  have advance := normalAdvance_nonneg deltaMs positive
  simp only [advanceRenderTick, if_neg follows]
  generalize normalAdvance deltaMs hz = n at advance ⊢
  generalize (targetTick latest hz delayMs - (renderTick + n)) *
    JsNumber.ofRat renderTickConvergencePerSecond *
      seconds (min (max 0 deltaMs) (JsNumber.ofRat renderTickMaxDeltaMs)) = pull
  have rate : (JsNumber.ofRat renderTickMaxRateAdjustment : ℝ) = ((1 / 20 : ℚ) : ℝ) := rfl
  rw [rate]
  push_cast
  have least := le_max_left (-n * (1 / 20 : ℝ)) (min (n * (1 / 20)) pull)
  have most : max (-n * (1 / 20 : ℝ)) (min (n * (1 / 20)) pull) ≤ n * (1 / 20) :=
    max_le (by linarith) (min_le_left _ _)
  constructor <;> linarith

namespace Playback

theorem apply_frame {pacing : Pacing ℝ} {s : Playback ℝ} {event : PlaybackEvent ℝ}
    (positive : 0 < pacing.simulationHz) (orderly : s.Orderly event)
    (follows : ¬ s.Resets pacing event) {before : ℝ} (at_ : s.renderTick = some before) :
    ∃ after, (s.apply pacing event).renderTick = some after ∧ before ≤ after := by
  cases event with
  | snapshot tick players =>
    have lower : s.latestSnapshotTick.any (tick < ·) = false := by
      cases latest : s.latestSnapshotTick with
      | none => rfl
      | some latest' => simpa using orderly latest' latest
    refine ⟨before, ?_, le_rfl⟩
    simp [apply, lower, at_]
  | frame deltaMs =>
    cases latest : s.latestSnapshotTick with
    | none =>
      refine ⟨before, ?_, le_rfl⟩
      simp only [apply, latest, at_]
    | some tick =>
      have leads : ¬ hardResets before tick pacing.simulationHz pacing.delayMs := by
        intro resets
        refine follows ⟨tick, latest, fun renderTick held => ?_⟩
        rw [at_] at held
        cases held
        exact resets
      have steps : (s.apply pacing (.frame deltaMs)).renderTick = some
          (advanceRenderTick (some before) tick deltaMs pacing.simulationHz pacing.delayMs) := by
        simp only [apply, latest, at_]
      refine ⟨_, steps, ?_⟩
      have bounds := (advance_bounds deltaMs positive leads).1
      have advance := normalAdvance_nonneg deltaMs positive
      push_cast at bounds
      linarith

/-- The clock does not go back. -/
theorem reach_forward {pacing : Pacing ℝ} {s t : Playback ℝ} (positive : 0 < pacing.simulationHz)
    (run : Reach (fun s event => s.Orderly event ∧ ¬ s.Resets pacing event) (apply pacing) s t)
    {before : ℝ} (at_ : s.renderTick = some before) :
    ∃ after, t.renderTick = some after ∧ before ≤ after := by
  refine run.invariant (I := fun t => ∃ after, t.renderTick = some after ∧ before ≤ after)
    ⟨before, at_, le_rfl⟩ fun t event ih may => ?_
  obtain ⟨middle, there, sofar⟩ := ih
  obtain ⟨after, next, more⟩ := apply_frame positive may.1 may.2 there
  exact ⟨after, next, sofar.trans more⟩

end Playback

/-! ## The samples -/

theorem samplesOf_buffered {K : Type} [JsNumber K] (maxDistance : K) (previous : PositionBuffers K)
    (tick : K) (forceSnapIds : List K) (players : List (SnapshotPlayer K)) (id : K) :
    samplesOf (bufferEntityPositions maxDistance previous tick forceSnapIds players).1 id =
      (SceneView.entryOf players id).elim []
        fun p => (bufferEntity maxDistance previous tick forceSnapIds p).1 := by
  induction players using List.reverseRecOn with
  | nil => rfl
  | append_singleton players p ih =>
    rw [bufferEntityPositions, List.foldl_append, ← bufferEntityPositions, List.foldl_cons,
      List.foldl_nil, entryOf_append, samplesOf_set]
    by_cases same : p.id = id
    · simp [same]
    · simp only [same, Ne.symm same, if_false, ih]

theorem buffered_listed {K : Type} [JsNumber K] {maxDistance : K} {previous : PositionBuffers K}
    {tick : K} {forceSnapIds : List K} {players : List (SnapshotPlayer K)} {entity : EntityPositions K}
    (held : entity ∈ (bufferEntityPositions maxDistance previous tick forceSnapIds players).1.entries) :
    entity.id ∈ players.map SnapshotPlayer.id := by
  induction players using List.reverseRecOn with
  | nil => cases held
  | append_singleton players p ih =>
    rw [bufferEntityPositions, List.foldl_append, ← bufferEntityPositions, List.foldl_cons,
      List.foldl_nil, KeyedList.mem_set] at held
    rw [List.map_append, List.mem_append]
    rcases held with rfl | older
    · exact .inr (List.mem_singleton_self _)
    · exact .inl (ih older.1)

/-- At most so many samples, one after the other. -/
structure Ordered (samples : List (PositionSample ℝ)) : Prop where
  few : samples.length ≤ maxSamplesPerEntity
  rises : samples.Pairwise (·.tick < ·.tick)

theorem Ordered.single (sample : PositionSample ℝ) : Ordered [sample] :=
  ⟨Nat.succ_le_succ (Nat.zero_le 7), List.pairwise_singleton _ _⟩

theorem Ordered.bufferPosition {existing : List (PositionSample ℝ)} (ordered : Ordered existing)
    (maxDistance : ℝ) (forceSnap : Bool) (next : PositionSample ℝ) :
    Ordered (bufferPosition maxDistance existing forceSnap next).1 := by
  unfold Client.bufferPosition
  split
  · exact .single next
  · rename_i latest ends
    obtain ⟨older, rfl⟩ := List.getLast?_eq_some_iff.mp ends
    obtain ⟨earlier, _, behind⟩ := List.pairwise_append.mp ordered.rises
    have few := ordered.few
    dsimp only
    split
    · exact .single next
    · rename_i follows
      simp only [Bool.or_eq_true, decide_eq_true_eq, not_or, not_lt] at follows
      split
      · rename_i same
        rw [List.dropLast_concat]
        refine ⟨by simpa using few, List.pairwise_append.mpr ⟨earlier, List.pairwise_singleton _ _, ?_⟩⟩
        intro sample inside other last
        rw [List.mem_singleton.mp last, same]
        exact behind sample inside latest (List.mem_singleton_self _)
      · rename_i other
        have later : latest.tick < next.tick := lt_of_le_of_ne follows.2 (Ne.symm other)
        have all : (older ++ [latest] ++ [next]).Pairwise (·.tick < ·.tick) := by
          refine List.pairwise_append.mpr ⟨ordered.rises, List.pairwise_singleton _ _, ?_⟩
          intro sample inside after last
          rw [List.mem_singleton.mp last]
          rcases List.mem_append.mp inside with old | newest
          · exact (behind sample old latest (List.mem_singleton_self _)).trans later
          · rwa [List.mem_singleton.mp newest]
        refine ⟨?_, all.sublist (List.drop_sublist _ _)⟩
        rw [List.length_drop]
        omega

theorem mem_bufferPosition {K : Type} [JsNumber K] {maxDistance : K}
    {existing : List (PositionSample K)} {forceSnap : Bool} {next sample : PositionSample K}
    (kept : sample ∈ (bufferPosition maxDistance existing forceSnap next).1) :
    sample = next ∨
      (bufferPosition maxDistance existing forceSnap next).2 = false ∧ sample ∈ existing := by
  revert kept
  unfold bufferPosition
  split
  · exact fun kept => .inl (List.mem_singleton.mp kept)
  · dsimp only
    split
    · exact fun kept => .inl (List.mem_singleton.mp kept)
    · split
      · intro kept
        rcases List.mem_append.mp kept with older | new
        · exact .inr ⟨rfl, List.mem_of_mem_dropLast older⟩
        · exact .inl (List.mem_singleton.mp new)
      · intro kept
        rcases List.mem_append.mp (List.mem_of_mem_drop kept) with older | new
        · exact .inr ⟨rfl, older⟩
        · exact .inl (List.mem_singleton.mp new)

namespace PlayersSection
variable {K : Type} [JsNumber K]

/-- The sample of a player; the last entry counts. -/
def sampleOf (received : PlayersSection K) (id : K) : Option (PositionSample K) :=
  (SceneView.entryOf received.players id).map fun p => ⟨received.tick, p.x, p.y⟩

def buffer (maxDistance : K) (buffers : PositionBuffers K) (received : PlayersSection K) :
    PositionBuffers K × List K :=
  bufferEntityPositions maxDistance buffers received.tick received.forceSnapIds received.players

/-- The samples of the player begin anew. -/
def Snaps (maxDistance : K) (buffers : PositionBuffers K) (received : PlayersSection K) (id : K) :
    Prop :=
  ∃ p ∈ SceneView.entryOf received.players id,
    (bufferEntity maxDistance buffers received.tick received.forceSnapIds p).2 = true

end PlayersSection

section
variable {K : Type} [JsNumber K]

def bufferSections (maxDistance : K) (sections : List (PlayersSection K)) : PositionBuffers K :=
  sections.foldl (fun buffers received => (received.buffer maxDistance buffers).1) .empty

theorem bufferSections_concat (maxDistance : K) (sections : List (PlayersSection K))
    (received : PlayersSection K) :
    bufferSections maxDistance (sections ++ [received]) =
      (received.buffer maxDistance (bufferSections maxDistance sections)).1 := by
  rw [bufferSections, List.foldl_concat, ← bufferSections]

theorem entryOf_id {players : List (SnapshotPlayer K)} {id : K} {p : SnapshotPlayer K}
    (entry : SceneView.entryOf players id = some p) : p.id = id := by
  have inside := List.mem_of_getLast? entry
  simpa using (List.mem_filter.mp inside).2

/-- A sample of a player is its newest one or stays from before. -/
theorem mem_buffer {maxDistance : K} {buffers : PositionBuffers K} {received : PlayersSection K}
    {id : K} {sample : PositionSample K}
    (kept : sample ∈ samplesOf (received.buffer maxDistance buffers).1 id) :
    received.sampleOf id = some sample ∨
      ¬ received.Snaps maxDistance buffers id ∧ sample ∈ samplesOf buffers id := by
  rw [PlayersSection.buffer, samplesOf_buffered] at kept
  unfold PlayersSection.sampleOf PlayersSection.Snaps
  cases entry : SceneView.entryOf received.players id with
  | none =>
    rw [entry] at kept
    cases kept
  | some p =>
    rw [entry] at kept
    rcases mem_bufferPosition kept with rfl | ⟨follows, older⟩
    · exact .inl rfl
    · rw [entryOf_id entry] at older
      refine .inr ⟨?_, older⟩
      rintro ⟨q, held, snaps⟩
      cases held
      exact absurd (follows.symm.trans snaps) Bool.false_ne_true

/-- Where every player is listed once, the samples that begin anew are those the function reports. -/
theorem snaps_iff {maxDistance : K} {buffers : PositionBuffers K} {received : PlayersSection K} {id : K}
    (once : (received.players.map SnapshotPlayer.id).Nodup) :
    received.Snaps maxDistance buffers id ↔ id ∈ (received.buffer maxDistance buffers).2 := by
  unfold PlayersSection.Snaps PlayersSection.buffer
  generalize received.players = players at once ⊢
  induction players using List.reverseRecOn with
  | nil =>
    constructor
    · rintro ⟨_, held, _⟩
      cases held
    · intro held
      cases held
  | append_singleton players p ih =>
    rw [List.map_append, List.nodup_append] at once
    obtain ⟨others, _, apart⟩ := once
    have seen := ih others
    rw [bufferEntityPositions, List.foldl_append, ← bufferEntityPositions, List.foldl_cons,
      List.foldl_nil, entryOf_append]
    by_cases same : p.id = id
    · have absent : SceneView.entryOf players id = none := by
        refine WorldScene.entryOf_eq_none.mpr fun listed => ?_
        exact apart id listed p.id (by simp) same.symm
      have before : id ∉ (bufferEntityPositions maxDistance buffers received.tick
          received.forceSnapIds players).2 := by
        rw [← seen, absent]
        rintro ⟨_, held, _⟩
        cases held
      simp only [same, if_true]
      split <;> simp_all
    · simp only [same, if_false]
      rw [seen]
      split <;> simp [Ne.symm same]

end

/-- What the samples of a player are after a list of sections. -/
structure Kept (maxDistance : ℝ) (sections : List (PlayersSection ℝ)) (id : ℝ)
    (samples : List (PositionSample ℝ)) : Prop where
  ordered : Ordered samples
  received : ∀ sample ∈ samples, ∃ s ∈ sections, s.sampleOf id = some sample
  sinceSnap : ∀ before s after, sections = before ++ s :: after →
    s.Snaps maxDistance (bufferSections maxDistance before) id →
    ∀ sample ∈ samples, ∃ r ∈ s :: after, r.sampleOf id = some sample

theorem kept_samples (maxDistance : ℝ) (sections : List (PlayersSection ℝ)) (id : ℝ) :
    Kept maxDistance sections id (samplesOf (bufferSections maxDistance sections) id) := by
  induction sections using List.reverseRecOn with
  | nil => exact ⟨⟨Nat.zero_le _, .nil⟩, nofun, fun before _ _ split => by simp at split⟩
  | append_singleton sections latest ih =>
    rw [bufferSections_concat]
    refine ⟨?_, fun sample kept => ?_, fun before s after split snaps sample kept => ?_⟩
    · rw [PlayersSection.buffer, samplesOf_buffered]
      cases entry : SceneView.entryOf latest.players id with
      | none => exact ⟨Nat.zero_le _, .nil⟩
      | some p =>
        have before := ih.ordered
        rw [← entryOf_id entry] at before
        exact before.bufferPosition _ _ _
    · rcases mem_buffer kept with newest | ⟨_, older⟩
      · exact ⟨latest, by simp, newest⟩
      · obtain ⟨s, inside, same⟩ := ih.received sample older
        exact ⟨s, List.mem_append_left _ inside, same⟩
    · rcases List.eq_nil_or_concat after with rfl | ⟨after', last, rfl⟩
      · obtain ⟨rfl, ends⟩ := List.append_inj' split rfl
        cases ends
        rcases mem_buffer kept with newest | ⟨follows, _⟩
        · exact ⟨latest, by simp, newest⟩
        · exact absurd snaps follows
      · rw [List.concat_eq_append, ← List.cons_append, ← List.append_assoc] at split
        obtain ⟨rfl, ends⟩ := List.append_inj' split rfl
        cases ends
        rcases mem_buffer kept with newest | ⟨_, older⟩
        · exact ⟨latest, by simp, newest⟩
        · obtain ⟨r, inside, same⟩ := ih.sinceSnap before s after' rfl snaps sample older
          refine ⟨r, ?_, same⟩
          rw [List.concat_eq_append, ← List.cons_append]
          exact List.mem_append_left _ inside

/-! ## Between the samples -/

def PositionSample.knot (sample : PositionSample ℝ) : Knot (ℝ × ℝ) := (sample.tick, sample.place)

theorem rising_knots {samples : List (PositionSample ℝ)}
    (rises : samples.Pairwise (·.tick < ·.tick)) : Rising (samples.map PositionSample.knot) :=
  List.pairwise_map.mpr rises

theorem getLast?_samples (first : PositionSample ℝ) (later : List (PositionSample ℝ)) :
    (first :: later).getLast? = some (later.getLastD first) := by
  rw [List.getLast?_cons, List.getLastD_eq_getLast?]

theorem getLast?_knots (first : PositionSample ℝ) (later : List (PositionSample ℝ)) :
    (first.knot :: later.map PositionSample.knot).getLast? = some (later.getLastD first).knot := by
  rw [← List.map_cons, List.getLast?_map, getLast?_samples]
  rfl

/-- The loop finds the piece of the polyline. -/
theorem interpolateBetween_eq {renderTick : ℝ} {first last : PositionSample ℝ}
    {later : List (PositionSample ℝ)} (rises : (first :: later).Pairwise (·.tick < ·.tick))
    (ends : (first :: later).getLast? = some last) (since : first.tick ≤ renderTick)
    (til : renderTick < last.tick) :
    interpolateBetween renderTick (first :: later) =
      some (polyline first.knot (later.map PositionSample.knot) renderTick) := by
  induction later generalizing first with
  | nil =>
    cases ends
    exact absurd since til.not_ge
  | cons next later ih =>
    have apart : first.tick < next.tick := List.rel_of_pairwise_cons rises List.mem_cons_self
    rw [List.getLast?_cons_cons] at ends
    rw [interpolateBetween, List.map_cons, polyline]
    by_cases past : next.tick < renderTick
    · have behind : ¬ renderTick ≤ next.knot.1 := not_le.mpr past
      rw [if_pos past, if_neg behind]
      exact ih rises.of_cons ends past.le
    · have long : ¬ next.tick - first.tick ≤ 0 := not_le.mpr (sub_pos.mpr apart)
      have fraction : 0 ≤ (renderTick - first.tick) / (next.tick - first.tick) :=
        div_nonneg (sub_nonneg.mpr since) (sub_nonneg.mpr apart.le)
      have within : renderTick ≤ next.knot.1 := not_lt.mp past
      rw [if_neg past, if_pos within]
      dsimp only [PositionSample.knot]
      rw [if_neg long, max_eq_right fraction, AffineMap.lineMap_apply_module']
      refine congrArg some (Prod.ext ?_ ?_)
      · simp only [PositionSample.place, Prod.fst_add, Prod.smul_fst, Prod.fst_sub, smul_eq_mul]
        ring
      · simp only [PositionSample.place, Prod.snd_add, Prod.smul_snd, Prod.snd_sub, smul_eq_mul]
        ring

theorem interpolate_eq {first : PositionSample ℝ} {later : List (PositionSample ℝ)}
    (rises : (first :: later).Pairwise (·.tick < ·.tick)) (renderTick : ℝ) :
    interpolateEntityPosition (first :: later) renderTick =
      some (polyline first.knot (later.map PositionSample.knot) renderTick) := by
  have knots := rising_knots rises
  have ends := getLast?_samples first later
  have knotEnds := getLast?_knots first later
  unfold interpolateEntityPosition
  dsimp only
  by_cases alone : later = []
  · subst alone
    rw [if_pos (.inl rfl)]
    rfl
  by_cases early : renderTick ≤ first.tick
  · rw [if_pos (.inr early), polyline_before knots early]
    rfl
  · rw [if_neg (not_or.mpr ⟨alone, early⟩)]
    by_cases late : (later.getLastD first).tick ≤ renderTick
    · rw [if_pos late, polyline_after knots knotEnds late]
      rfl
    · rw [if_neg late, interpolateBetween_eq rises ends (not_le.mp early).le (not_le.mp late)]
      rfl

/-- The point is the first or the last sample outside of their ticks, and on the segment of two
neighbours between them. -/
def BetweenSamples (samples : List (PositionSample ℝ)) (renderTick : ℝ) (point : ℝ × ℝ) : Prop :=
  (∃ first ∈ samples.head?, renderTick ≤ first.tick ∧ point = first.place) ∨
    (∃ last ∈ samples.getLast?, last.tick ≤ renderTick ∧ point = last.place) ∨
    ∃ before x y after, samples = before ++ x :: y :: after ∧ x.tick ≤ renderTick ∧
      renderTick ≤ y.tick ∧ point ∈ segment ℝ x.place y.place

theorem polyline_samples {first : PositionSample ℝ} {later : List (PositionSample ℝ)}
    (rises : (first :: later).Pairwise (·.tick < ·.tick)) (renderTick : ℝ) :
    BetweenSamples (first :: later) renderTick
      (polyline first.knot (later.map PositionSample.knot) renderTick) := by
  have knots := rising_knots rises
  have knotEnds := getLast?_knots first later
  by_cases early : renderTick ≤ first.tick
  · exact .inl ⟨first, rfl, early, polyline_before knots early⟩
  by_cases late : (later.getLastD first).tick ≤ renderTick
  · exact .inr (.inl ⟨_, getLast?_samples first later, late, polyline_after knots knotEnds late⟩)
  obtain ⟨before, x, y, after, split, since, til, on⟩ :=
    polyline_between knotEnds (not_le.mp early).le (not_le.mp late)
  rw [← List.map_cons] at split
  obtain ⟨before, tail, whole, rfl, pieces⟩ := List.map_eq_append_iff.mp split
  obtain ⟨x, tail', rfl, rfl, rest⟩ := List.map_eq_cons_iff.mp pieces
  obtain ⟨y, after, rfl, rfl, rfl⟩ := List.map_eq_cons_iff.mp rest
  exact .inr (.inr ⟨before, x, y, after, whole, since, til, on⟩)

/-- A player with samples stands between them, and moves without a jump as the tick goes on. -/
theorem interpolated {samples : List (PositionSample ℝ)} (some_ : samples ≠ [])
    (rises : samples.Pairwise (·.tick < ·.tick)) :
    ∃ point : ℝ → ℝ × ℝ, Continuous point ∧ ∀ renderTick,
      interpolateEntityPosition samples renderTick = some (point renderTick) ∧
        BetweenSamples samples renderTick (point renderTick) := by
  cases samples with
  | nil => exact absurd rfl some_
  | cons first later =>
    exact ⟨_, continuous_polyline (rising_knots rises), fun renderTick =>
      ⟨interpolate_eq rises renderTick, polyline_samples rises renderTick⟩⟩

/-! ## Playing a timeline -/

namespace Playback

/-- The lists of players among the events. -/
def sectionsOf (events : List (PlaybackEvent ℝ)) : List (PlayersSection ℝ) :=
  events.filterMap fun
    | .snapshot tick (some (forceSnapIds, players)) => some ⟨tick, forceSnapIds, players⟩
    | _ => none

theorem buffers_of_events {pacing : Pacing ℝ} {s : Playback ℝ} {events : List (PlaybackEvent ℝ)}
    (orderly : AllowedRun Orderly (apply pacing) s events) :
    (events.foldl (apply pacing) s).buffers = (sectionsOf events).foldl
      (fun buffers received => (received.buffer pacing.maxInterpolationDistance buffers).1)
      s.buffers := by
  induction events generalizing s with
  | nil => rfl
  | cons event events ih =>
    rw [List.foldl_cons, ih orderly.2]
    cases event with
    | snapshot tick players =>
      have lower : s.latestSnapshotTick.any (tick < ·) = false := by
        cases latest : s.latestSnapshotTick with
        | none => rfl
        | some latest' => simpa using orderly.1 latest' latest
      cases players with
      | none => simp [apply, lower, sectionsOf]
      | some listed => simp [apply, lower, sectionsOf, PlayersSection.buffer]
    | frame deltaMs =>
      have same : (s.apply pacing (.frame deltaMs)).buffers = s.buffers := by
        unfold apply
        cases s.latestSnapshotTick <;> rfl
      rw [same]
      rfl

end Playback

/-- Between two resets the clock goes on at nearly the rate of the simulation; the samples of a player
are the newest of those received since it was put somewhere at once; and a player moves along them. -/
theorem smooth_motion {pacing : Pacing ℝ} (positive : 0 < pacing.simulationHz) :
    (∀ (s t : Playback ℝ) (before : ℝ), s.renderTick = some before →
      Reach (fun s event => s.Orderly event ∧ ¬ s.Resets pacing event) (Playback.apply pacing) s t →
      ∃ after, t.renderTick = some after ∧ before ≤ after) ∧
    (∀ renderTick latest deltaMs : ℝ,
      ¬ hardResets renderTick latest pacing.simulationHz pacing.delayMs →
      let advance := advanceRenderTick (some renderTick) latest deltaMs pacing.simulationHz
        pacing.delayMs - renderTick
      ((19 / 20 : ℚ) : ℝ) * normalAdvance deltaMs pacing.simulationHz ≤ advance ∧
        advance ≤ ((21 / 20 : ℚ) : ℝ) * normalAdvance deltaMs pacing.simulationHz) ∧
    (∀ events, AllowedRun Playback.Orderly (Playback.apply pacing) Playback.start events →
      let t := events.foldl (Playback.apply pacing) Playback.start
      (∀ entity ∈ t.buffers.entries, ∃ latest, (Playback.sectionsOf events).getLast? = some latest ∧
        entity.id ∈ latest.players.map SnapshotPlayer.id) ∧
      ∀ id, Kept pacing.maxInterpolationDistance (Playback.sectionsOf events) id
          (samplesOf t.buffers id) ∧
        (samplesOf t.buffers id ≠ [] → ∃ point : ℝ → ℝ × ℝ, Continuous point ∧ ∀ renderTick,
          interpolateEntityPosition (samplesOf t.buffers id) renderTick = some (point renderTick) ∧
            BetweenSamples (samplesOf t.buffers id) renderTick (point renderTick))) ∧
    ∀ (buffers : PositionBuffers ℝ) (received : PlayersSection ℝ) (id : ℝ),
      (received.players.map SnapshotPlayer.id).Nodup →
      (received.Snaps pacing.maxInterpolationDistance buffers id ↔
        id ∈ (received.buffer pacing.maxInterpolationDistance buffers).2) := by
  refine ⟨fun s t before at_ run => Playback.reach_forward positive run at_,
    fun renderTick latest deltaMs follows => advance_bounds deltaMs positive follows,
    fun events orderly => ?_, fun buffers received id once => snaps_iff once⟩
  have same : (events.foldl (Playback.apply pacing) Playback.start).buffers =
      bufferSections pacing.maxInterpolationDistance (Playback.sectionsOf events) :=
    Playback.buffers_of_events orderly
  intro t
  refine ⟨fun entity held => ?_, fun id => ?_⟩
  · rw [show t.buffers = _ from same] at held
    rcases List.eq_nil_or_concat (Playback.sectionsOf events) with none_ | ⟨earlier, latest, split⟩
    · rw [none_] at held
      cases held
    · rw [List.concat_eq_append] at split
      rw [split, bufferSections_concat] at held
      exact ⟨latest, by rw [split, List.getLast?_concat], buffered_listed held⟩
  · have kept := kept_samples pacing.maxInterpolationDistance (Playback.sectionsOf events) id
    rw [← same] at kept
    exact ⟨kept, fun some_ => interpolated some_ kept.ordered.rises⟩

def runnerAt (x : ℝ) : SnapshotPlayer ℝ :=
  { id := 0, x, y := 0, facingX := 0, facingY := 1, colorIndex := 0, obscured := false
    isTagger := false, effects := fun _ => none, emojiId := none }

/-- A player takes a step, and a frame is drawn. -/
def oneStep : List (PlaybackEvent ℝ) :=
  [.snapshot 0 (some ([], [runnerAt 0])), .snapshot 1 (some ([], [runnerAt 1])), .frame 0]

/-- The clock is at a snapshot already. -/
def onTime : Playback ℝ := ⟨some 1, some 1, .empty⟩

theorem smooth_motion_once :
    Kept (pacingAt 1).maxInterpolationDistance (Playback.sectionsOf oneStep) 0
      (samplesOf (oneStep.foldl (Playback.apply (pacingAt 1)) Playback.start).buffers 0) ∧
    ∃ after, (onTime.apply (pacingAt 1) (.frame 0)).renderTick = some after ∧
      1 ≤ after := by
  have positive : 0 < (pacingAt (1 : ℝ)).simulationHz := zero_lt_one
  have orderly : AllowedRun Playback.Orderly (Playback.apply (pacingAt 1)) Playback.start oneStep := by
    refine ⟨nofun, fun latest held => ?_, le_rfl, trivial⟩
    cases held
    exact zero_le_one
  have follows : ¬ onTime.Resets (pacingAt 1) (.frame 0) := by
    rintro ⟨latest, held, resets⟩
    cases held
    have far := resets 1 rfl
    norm_num [hardResets, targetTick, seconds, pacingAt, JsNumber.ofRat, entityInterpolationDelayMs,
      renderTickHardResetMs] at far
  exact ⟨((smooth_motion positive).2.2.1 oneStep orderly).2 0 |>.1,
    (smooth_motion positive).1 onTime _ 1 rfl (.step .refl ⟨le_rfl, follows⟩)⟩

end SwitchRemake.Client

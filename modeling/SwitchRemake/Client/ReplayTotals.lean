import SwitchRemake.Client.ReplayAnalysis
import Mathlib.Data.List.TakeWhile

/-!
# Counters and segments of an analysis

What the totals count, that no counter ever falls, and which frames the segments cover.
-/

namespace SwitchRemake.Analysis
open Lib Simulation Protocol

variable {K F : Type}

/-! ## What the totals count -/

namespace AnalysisEvent

def kills (id : Nat) (e : AnalysisEvent K) : Bool :=
  e.kind = .elimination && e.actorId = id && some e.actorId != e.targetId

def buries (id : Nat) (e : AnalysisEvent K) : Bool :=
  e.kind = .elimination && e.targetId = some id

def tries (id : Nat) (e : AnalysisEvent K) : Bool :=
  (e.kind = .switch || e.kind = .switchMiss) && e.actorId = id

def hits (id : Nat) (e : AnalysisEvent K) : Bool :=
  e.kind = .switch && e.actorId = id

end AnalysisEvent

open AnalysisEvent

/-- What some events add to the totals of a player. -/
structure Credited (id : Nat) (es : List (AnalysisEvent K)) (before after : PlayerTotals K) :
    Prop where
  eliminations : after.eliminations = before.eliminations + es.countP (kills id)
  switchTry : after.switchTry = before.switchTry + es.countP (tries id)
  switchSuccess : after.switchSuccess = before.switchSuccess + es.countP (hits id)
  alive : after.alive = (before.alive && (es.filter (buries id)).isEmpty)
  eliminatedAtTick : after.eliminatedAtTick =
    (((es.filter (buries id)).map AnalysisEvent.tick).getLast?).or before.eliminatedAtTick

theorem Credited.trans {id : Nat} {es later : List (AnalysisEvent K)} {t u v : PlayerTotals K}
    (first : Credited id es t u) (second : Credited id later u v) :
    Credited id (es ++ later) t v := by
  obtain ⟨kills, tries, hits, alive, ends⟩ := first
  obtain ⟨kills', tries', hits', alive', ends'⟩ := second
  refine ⟨?_, ?_, ?_, ?_, ?_⟩
  · rw [kills', kills, List.countP_append, Nat.add_assoc]
  · rw [tries', tries, List.countP_append, Nat.add_assoc]
  · rw [hits', hits, List.countP_append, Nat.add_assoc]
  · rw [alive', alive, List.filter_append, Bool.and_assoc]
    congr 1
    cases es.filter (buries id) <;> rfl
  · rw [ends', ends, List.filter_append, List.map_append, List.getLast?_append, Option.or_assoc]

theorem credit_credited (id : Nat) (t : PlayerTotals K) (e : AnalysisEvent K) :
    Credited id [e] t (Footage.credit id t e) := by
  unfold Footage.credit
  dsimp only
  split <;> rename_i kind
  · have killed : kills id e = decide (e.actorId = id ∧ some e.actorId ≠ e.targetId) :=
      Bool.eq_iff_iff.mpr (by simp [kills, kind])
    split <;> rename_i buried <;> split <;> rename_i credited
    · rw [decide_eq_true credited] at killed
      constructor <;> simp [killed, tries, hits, buries, kind, buried]
    · rw [decide_eq_false credited] at killed
      constructor <;> simp [killed, tries, hits, buries, kind, buried]
    · rw [decide_eq_true credited] at killed
      constructor <;> simp [killed, tries, hits, buries, kind, buried]
    · rw [decide_eq_false credited] at killed
      constructor <;> simp [killed, tries, hits, buries, kind, buried]
  · split <;> rename_i acts <;> constructor <;> simp [kills, tries, hits, buries, kind, acts]
  · split <;> rename_i acts <;> constructor <;> simp [kills, tries, hits, buries, kind, acts]
  · split <;> rename_i acts <;> constructor <;> simp [kills, tries, hits, buries, kind]
  · split <;> rename_i acts <;> constructor <;> simp [kills, tries, hits, buries, kind]
  · split <;> rename_i acts <;> constructor <;> simp [kills, tries, hits, buries, kind]
  · constructor <;> simp [kills, tries, hits, buries, kind]

theorem foldl_credited (id : Nat) (t : PlayerTotals K) (es : List (AnalysisEvent K)) :
    Credited id es t (es.foldl (Footage.credit id) t) := by
  induction es generalizing t with
  | nil => exact ⟨rfl, rfl, rfl, by simp, by simp⟩
  | cons e rest ih => exact (credit_credited id t e).trans (ih _)

/-! ## No counter falls -/

/-- Walking adds to a distance. -/
class MeasuredNumber (K : Type) [JsNumber K] : Prop where
  le_refl (a : K) : a ≤ a
  le_trans {a b c : K} : a ≤ b → b ≤ c → a ≤ c
  le_add_hypot (a x y : K) : a ≤ a + JsNumber.hypot x y

instance : MeasuredNumber ℚ where
  le_refl _ := Rat.le_refl
  le_trans := Rat.le_trans
  le_add_hypot _ x y := by
    have positive : 0 ≤ JsNumber.ratSqrt (x * x + y * y) := by
      unfold JsNumber.ratSqrt
      split
      · exact Rat.le_refl
      · exact Rat.mkRat_nonneg (Int.natCast_nonneg _) _
    exact le_add_of_nonneg_right positive

noncomputable instance : MeasuredNumber ℝ where
  le_refl _ := le_rfl
  le_trans first second := first.trans second
  le_add_hypot _ x y := le_add_of_nonneg_right (Real.sqrt_nonneg (x * x + y * y))

variable [JsNumber K]

/-- Every counter of the totals is at least as large. -/
structure PlayerTotals.Below (t u : PlayerTotals K) : Prop where
  eliminations : t.eliminations ≤ u.eliminations
  switchTry : t.switchTry ≤ u.switchTry
  switchSuccess : t.switchSuccess ≤ u.switchSuccess
  flash : t.flash ≤ u.flash
  dash : t.dash ≤ u.dash
  exhaust : t.exhaust ≤ u.exhaust
  exhaustHits : t.exhaustHits ≤ u.exhaustHits
  taggerTicks : t.taggerTicks ≤ u.taggerTicks
  distancePx : t.distancePx ≤ u.distancePx

section Order
variable [MeasuredNumber K] {t u v : PlayerTotals K}

theorem PlayerTotals.Below.refl (t : PlayerTotals K) : t.Below t :=
  ⟨Nat.le_refl _, Nat.le_refl _, Nat.le_refl _, Nat.le_refl _, Nat.le_refl _, Nat.le_refl _,
    Nat.le_refl _, Int.le_refl _, MeasuredNumber.le_refl _⟩

theorem PlayerTotals.Below.trans (first : t.Below u) (second : u.Below v) : t.Below v where
  eliminations := first.eliminations.trans second.eliminations
  switchTry := first.switchTry.trans second.switchTry
  switchSuccess := first.switchSuccess.trans second.switchSuccess
  flash := first.flash.trans second.flash
  dash := first.dash.trans second.dash
  exhaust := first.exhaust.trans second.exhaust
  exhaustHits := first.exhaustHits.trans second.exhaustHits
  taggerTicks := first.taggerTicks.trans second.taggerTicks
  distancePx := MeasuredNumber.le_trans first.distancePx second.distancePx

theorem credit_below (id : Nat) (t : PlayerTotals K) (e : AnalysisEvent K) :
    t.Below (Footage.credit id t e) := by
  have same := PlayerTotals.Below.refl t
  unfold Footage.credit
  dsimp only
  split
  · split
    · split
      · exact { same with eliminations := Nat.le_succ _ }
      · exact { same with }
    · split
      · exact { same with eliminations := Nat.le_succ _ }
      · exact same
  · split
    · exact { same with switchTry := Nat.le_succ _, switchSuccess := Nat.le_succ _ }
    · exact same
  · split
    · exact { same with switchTry := Nat.le_succ _ }
    · exact same
  · split
    · exact { same with flash := Nat.le_succ _ }
    · exact same
  · split
    · exact { same with dash := Nat.le_succ _ }
    · exact same
  · split
    · exact { same with exhaust := Nat.le_succ _, exhaustHits := Nat.le_add_right _ _ }
    · exact same
  · exact same

theorem foldl_below (id : Nat) (t : PlayerTotals K) (es : List (AnalysisEvent K)) :
    t.Below (es.foldl (Footage.credit id) t) := by
  induction es generalizing t with
  | nil => exact .refl t
  | cons e rest ih => exact (credit_below id t e).trans (ih _)

end Order

namespace Footage
variable {f : Footage K} [MeasuredNumber K]

/-- The events of an earlier tick come first. -/
theorem totalsUpTo_mono (id : Nat) {early late : Nat} (order : early ≤ late) :
    (f.totalsUpTo id early).Below (f.totalsUpTo id late) := by
  have shorter : (f.events.takeWhile fun e => e.tick ≤ early) <+:
      f.events.takeWhile fun e => e.tick ≤ late := by
    have both : (fun e : AnalysisEvent K => decide (e.tick ≤ early) && decide (e.tick ≤ late)) =
        fun e => decide (e.tick ≤ early) := by
      funext e
      by_cases below : e.tick ≤ early
      · simp [below, below.trans order]
      · simp [below]
    have twice := List.takeWhile_takeWhile (fun e : AnalysisEvent K => decide (e.tick ≤ early))
      (fun e => decide (e.tick ≤ late)) f.events
    simp only [Bool.decide_and, Bool.decide_eq_true, both] at twice
    rw [← twice]
    exact List.takeWhile_prefix _
  obtain ⟨more, longer⟩ := shorter
  unfold totalsUpTo
  rw [← longer, List.foldl_append]
  exact foldl_below id _ more

/-- The states come in the order of their ticks. -/
def Ordered (f : Footage K) : Prop := (f.states.map FrameState.tick).Pairwise (· ≤ ·)

omit [JsNumber K] [MeasuredNumber K] in
theorem tickAt_mono (ordered : f.Ordered) {i j : Nat} (order : i ≤ j) (inside : j < f.states.length) :
    f.tickAt i ≤ f.tickAt j := by
  have before : i < f.states.length := lt_of_le_of_lt order inside
  unfold tickAt
  rw [List.getElem?_eq_getElem inside, List.getElem?_eq_getElem before]
  rcases order.lt_or_eq with less | rfl
  · have later := List.pairwise_iff_getElem.mp ordered i j (by simpa using before)
      (by simpa using inside) less
    simpa using later
  · exact Nat.le_refl _

omit [JsNumber K] [MeasuredNumber K] in
theorem taggerTicks_mono (ordered : f.Ordered) (id : Nat) {i j : Nat} (order : i ≤ j)
    (inside : j < f.states.length) : f.taggerTicks id i ≤ f.taggerTicks id j := by
  induction order with
  | refl => exact Int.le_refl _
  | @step j order ih =>
    have step : f.taggerTicks id j ≤ f.taggerTicks id (j + 1) := by
      have ticks : f.tickAt j ≤ f.tickAt (j + 1) := tickAt_mono ordered (Nat.le_succ j) inside
      rw [taggerTicks]
      split
      · omega
      · exact Int.le_refl _
    exact (ih (Nat.lt_of_succ_lt inside)).trans step

theorem distance_mono (id : Nat) {i j : Nat} (order : i ≤ j) :
    f.distance id i ≤ f.distance id j := by
  induction order with
  | refl => exact MeasuredNumber.le_refl _
  | @step j order ih =>
    refine MeasuredNumber.le_trans ih ?_
    rw [distance]
    split
    · split
      · exact MeasuredNumber.le_refl _
      · exact MeasuredNumber.le_add_hypot _ _ _
    · exact MeasuredNumber.le_refl _

/-- No counter falls from a frame to a later one. -/
theorem totalsAt_mono (ordered : f.Ordered) (id : Nat) {i j : Nat} (order : i ≤ j) :
    (f.totalsAt i id).Below (f.totalsAt j id) := by
  have frames : min f.lastFrame i ≤ min f.lastFrame j := by omega
  have last : min f.lastFrame j ≤ f.lastFrame := Nat.min_le_left _ _
  unfold totalsAt
  dsimp only
  generalize min f.lastFrame i = i, min f.lastFrame j = j at frames last
  by_cases shown : f.states.length = 0
  · have first : i = 0 ∧ j = 0 := by
      unfold lastFrame at last
      omega
    rw [first.1, first.2]
    exact .refl _
  · have inside : j < f.states.length := by
      unfold lastFrame at last
      omega
    rw [if_pos inside, if_pos inside, if_pos (lt_of_le_of_lt frames inside),
      if_pos (lt_of_le_of_lt frames inside)]
    have counted := totalsUpTo_mono (f := f) id (tickAt_mono ordered frames inside)
    exact { counted with
      taggerTicks := taggerTicks_mono ordered id frames inside
      distancePx := distance_mono id frames }

end Footage

/-! ## The frames of an input -/

theorem statesFrom_ticks (decode : F → Option (List (SnapshotPlayer K)))
    (carried : List PlayerSample) (frames : List (RecordedFrame F)) :
    (statesFrom decode carried frames).map FrameState.tick = frames.map RecordedFrame.tick := by
  induction frames generalizing carried with
  | nil => rfl
  | cons frame rest ih => rw [statesFrom, List.map_cons, List.map_cons, ih]

theorem footage_ordered (input : AnalysisInput K F) : (footage input).Ordered := by
  have sorted : (sortById RecordedFrame.tick input.frames).Pairwise
      fun a b => a.tick ≤ b.tick := List.pairwise_insertionSort _ _
  show ((statesFrom _ _ _).map FrameState.tick).Pairwise _
  rw [statesFrom_ticks]
  exact List.pairwise_map.mpr sorted

/-! ## The segments -/

/-- Some segment gives the role to a player at a frame. -/
def Covers (segments : List TaggerSegment) (i id : Nat) : Prop :=
  ∃ segment ∈ segments, segment.playerId = id ∧ segment.startFrame ≤ i ∧ i < segment.endFrame

/-- Segments that do not overlap, in the order of their frames, which cover the first `n` frames
where these show a tagger. -/
structure Segmented (states : List FrameState) (n : Nat) (segments : List TaggerSegment) : Prop where
  nonempty : ∀ segment ∈ segments, segment.startFrame < segment.endFrame
  ended : ∀ segment ∈ segments, segment.endFrame ≤ n
  apart : segments.Pairwise fun a b => a.endFrame ≤ b.startFrame
  covers : ∀ i id, Covers segments i id ↔
    i < n ∧ ((states[i]?).bind Footage.taggerIn) = some id

section Segments
variable {states : List FrameState} {n : Nat} {segments : List TaggerSegment} {state : FrameState}

theorem covers_append (segments more : List TaggerSegment) (i id : Nat) :
    Covers (segments ++ more) i id ↔ Covers segments i id ∨ Covers more i id := by
  simp [Covers, or_and_right, exists_or]

theorem covers_singleton (segment : TaggerSegment) (i id : Nat) :
    Covers [segment] i id ↔
      segment.playerId = id ∧ segment.startFrame ≤ i ∧ i < segment.endFrame := by
  simp [Covers]

/-- A frame without a tagger is left out. -/
theorem Segmented.skips (segmented : Segmented states n segments) (here : states[n]? = some state)
    (shows : Footage.taggerIn state = none) : Segmented states (n + 1) segments where
  nonempty := segmented.nonempty
  ended segment member := (segmented.ended segment member).trans (Nat.le_succ n)
  apart := segmented.apart
  covers i id := by
    rw [segmented.covers i id]
    constructor
    · exact fun ⟨inside, shown⟩ => ⟨Nat.lt_succ_of_lt inside, shown⟩
    · rintro ⟨inside, shown⟩
      refine ⟨?_, shown⟩
      rcases (Nat.lt_succ_iff.mp inside).lt_or_eq with less | rfl
      · exact less
      · simp [here, shows] at shown

/-- A tagger at the next frame begins a segment. -/
theorem Segmented.begins (segmented : Segmented states n segments) (here : states[n]? = some state)
    {tagger : Nat} (shows : Footage.taggerIn state = some tagger) (startTick endTick : Nat) :
    Segmented states (n + 1) (segments ++ [⟨tagger, n, n + 1, startTick, endTick⟩]) where
  nonempty segment member := by
    rcases List.mem_append.mp member with before | last
    · exact segmented.nonempty segment before
    · rw [List.mem_singleton.mp last]
      exact Nat.lt_succ_self n
  ended segment member := by
    rcases List.mem_append.mp member with before | last
    · exact (segmented.ended segment before).trans (Nat.le_succ n)
    · rw [List.mem_singleton.mp last]
  apart := by
    refine List.pairwise_append.mpr ⟨segmented.apart, List.pairwise_singleton _ _, ?_⟩
    intro a before b last
    rw [List.mem_singleton.mp last]
    exact segmented.ended a before
  covers i id := by
    rw [covers_append, segmented.covers i id, covers_singleton]
    constructor
    · rintro (⟨inside, shown⟩ | ⟨rfl, low, high⟩)
      · exact ⟨Nat.lt_succ_of_lt inside, shown⟩
      · obtain rfl : i = n := Nat.le_antisymm (Nat.le_of_lt_succ high) low
        exact ⟨high, by simp [here, shows]⟩
    · rintro ⟨inside, shown⟩
      rcases (Nat.lt_succ_iff.mp inside).lt_or_eq with less | rfl
      · exact .inl ⟨less, shown⟩
      · simp only [here, Option.bind_some, shows, Option.some.injEq] at shown
        exact .inr ⟨shown, Nat.le_refl _, inside⟩

/-- The tagger of the last frame carries its segment on. -/
theorem Segmented.extends_ {current : TaggerSegment}
    (segmented : Segmented states n (segments ++ [current])) (here : states[n]? = some state)
    (shows : Footage.taggerIn state = some current.playerId) (open_ : current.endFrame = n)
    (endTick : Nat) :
    Segmented states (n + 1)
      (segments ++ [{ current with endFrame := n + 1, endTick := endTick }]) where
  nonempty segment member := by
    rcases List.mem_append.mp member with before | last
    · exact segmented.nonempty segment (List.mem_append_left _ before)
    · rw [List.mem_singleton.mp last]
      have short := segmented.nonempty current (by simp)
      rw [open_] at short
      exact Nat.lt_succ_of_lt short
  ended segment member := by
    rcases List.mem_append.mp member with before | last
    · exact (segmented.ended segment (List.mem_append_left _ before)).trans (Nat.le_succ n)
    · rw [List.mem_singleton.mp last]
  apart := by
    obtain ⟨among, _, apart⟩ := List.pairwise_append.mp segmented.apart
    refine List.pairwise_append.mpr ⟨among, List.pairwise_singleton _ _, ?_⟩
    intro a before b last
    rw [List.mem_singleton.mp last]
    exact apart a before current (List.mem_singleton_self _)
  covers i id := by
    have covered := segmented.covers i id
    have short := segmented.nonempty current (by simp)
    rw [covers_append, covers_singleton] at covered ⊢
    rw [open_] at covered short
    constructor
    · rintro (before | ⟨rfl, low, high⟩)
      · obtain ⟨inside, shown⟩ := covered.mp (.inl before)
        exact ⟨Nat.lt_succ_of_lt inside, shown⟩
      · rcases (Nat.lt_succ_iff.mp high).lt_or_eq with less | rfl
        · obtain ⟨inside, shown⟩ := covered.mp (.inr ⟨rfl, low, less⟩)
          exact ⟨Nat.lt_succ_of_lt inside, shown⟩
        · exact ⟨high, by simp [here, shows]⟩
    · rintro ⟨inside, shown⟩
      rcases (Nat.lt_succ_iff.mp inside).lt_or_eq with less | rfl
      · rcases covered.mpr ⟨less, shown⟩ with before | ⟨same, low, high⟩
        · exact .inl before
        · exact .inr ⟨same, low, Nat.lt_succ_of_lt high⟩
      · simp only [here, Option.bind_some, shows, Option.some.injEq] at shown
        exact .inr ⟨shown, short.le, inside⟩

end Segments

namespace Footage
variable {f : Footage K}

omit [JsNumber K] in
theorem addFrame_segmented {n : Nat} {segments : List TaggerSegment} {state : FrameState}
    (segmented : Segmented f.states n segments) (here : f.states[n]? = some state) :
    Segmented f.states (n + 1) (f.addFrame segments (state, n)) := by
  unfold addFrame
  dsimp only
  split
  · rename_i current tagger last shows
    split
    · rename_i same
      obtain ⟨before, rfl⟩ := List.getLast?_eq_some_iff.mp last
      rw [List.dropLast_concat]
      exact segmented.extends_ here (same.1 ▸ shows) same.2 _
    · exact segmented.begins here shows _ _
  · rename_i tagger _ shows
    exact segmented.begins here shows _ _
  · rename_i shows
    exact segmented.skips here shows

omit [JsNumber K] in
theorem taggerSegments_segmented (f : Footage K) :
    Segmented f.states f.states.length f.taggerSegments := by
  suffices run : ∀ (rest before : List FrameState) (segments : List TaggerSegment),
      f.states = before ++ rest → Segmented f.states before.length segments →
        Segmented f.states f.states.length
          ((rest.zipIdx before.length).foldl f.addFrame segments) from
    run f.states [] [] rfl ⟨nofun, nofun, .nil, fun i id => by simp [Covers]⟩
  intro rest
  induction rest with
  | nil =>
    intro before segments split segmented
    rw [split, List.append_nil] at segmented ⊢
    exact segmented
  | cons state rest ih =>
    intro before segments split segmented
    have here : f.states[before.length]? = some state := by simp [split]
    have next := addFrame_segmented segmented here
    rw [List.zipIdx_cons, List.foldl_cons]
    have later := ih (before ++ [state]) (f.addFrame segments (state, before.length))
      (by rw [split, List.append_assoc]; rfl)
    rw [List.length_append] at later
    exact later next

end Footage

end SwitchRemake.Analysis

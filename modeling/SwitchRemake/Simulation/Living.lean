import SwitchRemake.Simulation.Tagger

/-!
# Who is alive

The slots of the players that are alive. Nobody comes back to life in a match, and whoever a tick
reports as eliminated is dead after it.
-/

namespace SwitchRemake.Simulation
open Lib

variable {K : Type} {t : Token Nat} {w v : World K}

def living (w : World K) : Set Nat := { id | ∃ p ∈ w.players, p.playerId = id ∧ p.alive = true }

theorem Tracks.live_eq (tracks : Tracks t w) : t.live = living w := Set.ext tracks.shows.live_iff

theorem SameRoles.living (same : SameRoles w v) : living v = Simulation.living w := by
  have shown (u : World K) : Simulation.living u =
      { id | ∃ flags ∈ u.players.map role, flags.1 = id ∧ flags.2.1 = true } := by
    ext id
    simp only [Simulation.living, Set.mem_ofPred_eq, List.mem_map, exists_exists_and_eq_and, role]
  rw [shown, shown, same]

/-- A player whose flag is lowered leaves the living, and nobody else does. -/
theorem update_dead (w : World K) (id : Nat) {f : PlayerState K → PlayerState K}
    (dead : ∀ p, (f p).alive = false) : living (w.update id f) = living w \ {id} := by
  ext other
  simp only [living, World.update, Set.mem_ofPred_eq, Set.mem_sdiff, Set.mem_singleton_iff]
  constructor
  · rintro ⟨q, image, same, alive⟩
    obtain ⟨p, member, rfl⟩ := List.mem_map.mp image
    by_cases hit : p.playerId = id
    · simp [hit, dead] at alive
    · simp only [hit, if_false] at same alive
      exact ⟨⟨p, member, same, alive⟩, fun equal => hit (same.trans equal)⟩
  · rintro ⟨⟨p, member, same, alive⟩, differs⟩
    refine ⟨p, List.mem_map.mpr ⟨p, member, ?_⟩, same, alive⟩
    rw [if_neg fun hit => differs (same.symm.trans hit)]

/-- Flags other than the one for life do not matter. -/
theorem living_map {f : PlayerState K → PlayerState K} {players : List (PlayerState K)}
    (names : ∀ p, (f p).playerId = p.playerId) (lives : ∀ p, (f p).alive = p.alive)
    (before : w.players = players) (after : v.players = players.map f) : living v = living w := by
  ext id
  simp only [living, Set.mem_ofPred_eq, before, after, List.mem_map, exists_exists_and_eq_and, names,
    lives]

/-- Whoever is reported as eliminated is not among the living. -/
def Buried (events : List (WorldEvent K)) (w : World K) : Prop :=
  ∀ victim source, WorldEvent.eliminated victim source ∈ events → victim ∉ living w

variable [JsNumber K]

theorem resolvePair_living (taggerId : Nat) (w : World K) (events : List (WorldEvent K))
    (pair : CollisionPair) :
    resolvePair taggerId (w, events) pair = (w, events) ∨
    ∃ victim, living (resolvePair taggerId (w, events) pair).1 = living w \ {victim} ∧
      (resolvePair taggerId (w, events) pair).2 =
        events ++ [.eliminated victim (some taggerId)] := by
  unfold resolvePair
  dsimp only
  split
  · exact Or.inl rfl
  · rename_i victim _
    refine Or.inr ⟨victim.playerId, ?_, rfl⟩
    let struck : World K := w.update victim.playerId fun p => withStats
      (fun s => { s with taggedCount := s.taggedCount + 1, eliminatedAtTick := some w.tick })
      { p with alive := false }
    have credited : SameRoles struck (struck.update taggerId fun p =>
        extendFrenzyOnTag w (withStats (fun s => { s with tagCount := s.tagCount + 1 }) p)) :=
      update_sameRoles struck taggerId fun p => role_extendFrenzyOnTag w _
    exact credited.living.trans
      (update_dead w victim.playerId fun _ => rfl)

theorem resolvePair_buried {events : List (WorldEvent K)} (buried : Buried events w)
    (taggerId : Nat) (pair : CollisionPair) :
    Buried (resolvePair taggerId (w, events) pair).2 (resolvePair taggerId (w, events) pair).1 := by
  rcases resolvePair_living taggerId w events pair with same | ⟨struck, alive, told⟩
  · rw [same]
    exact buried
  · rw [told]
    intro victim source member
    rw [alive]
    rcases List.mem_append.mp member with old | new
    · exact fun lives => buried victim source old lives.1
    · simp only [List.mem_singleton, WorldEvent.eliminated.injEq] at new
      exact fun lives => lives.2 new.1

theorem resolvePairs_buried {events : List (WorldEvent K)} (buried : Buried events w)
    (taggerId : Nat) (pairs : List CollisionPair) :
    Buried (pairs.foldl (resolvePair taggerId) (w, events)).2
      (pairs.foldl (resolvePair taggerId) (w, events)).1 := by
  induction pairs generalizing w events with
  | nil => exact buried
  | cons pair rest ih => exact ih (resolvePair_buried buried taggerId pair)

theorem living_handTo (w : World K) (picked : Nat) (state : BitVec 32) :
    living (w.handTo picked state) = living w :=
  living_map (f := w.handed picked) (handed_playerId w picked) (handed_alive w picked) rfl
    (handTo_players w picked state)

theorem rotateTaggerIfStale_buried {events : List (WorldEvent K)} (buried : Buried events w) :
    Buried (rotateTaggerIfStale w events).2 (rotateTaggerIfStale w events).1 := by
  rcases rotateTaggerIfStale_eq w events with same | ⟨picked, _, state, same⟩
  · rw [same]
    exact buried
  · rw [same]
    intro victim source member
    rcases List.mem_append.mp member with old | new
    · have clean := buried victim source old
      rwa [← living_handTo w picked.playerId state] at clean
    · simp at new

/-- The dead of a tick are dead when it ends. -/
theorem stepWorld_buried (w : World K) (requests : TickRequests K) :
    Buried (stepWorld w requests).events (stepWorld w requests).world := by
  have tagged : Buried (afterTags w requests).2 (afterTags w requests).1 := by
    have clean : Buried (runSkills (beginTick w) requests.skillRequests).events
        (beforeTags w requests).1 :=
      fun victim source member => absurd member (runSkills_noElimination _ _ victim source)
    unfold afterTags resolveTagging
    split
    · exact clean
    · exact resolvePairs_buried clean _ _
  rw [stepWorld_events, stepWorld_world, afterRotation]
  split
  · exact tagged
  · exact rotateTaggerIfStale_buried tagged

end SwitchRemake.Simulation

import SwitchRemake.Client.WorldScene

/-!
# The name above a sprite

A name reaches the scene in a roster entry and waits there until its player is drawn. What one frame
does to the name of one player, and what is left of it over a run of frames.
-/

namespace SwitchRemake.Client
open Lib Simulation Wire

variable {K : Type} [JsNumber K] {s : WorldScene K} {p : K}

/-- The name on the sprite of a player, and the name that waits for it. -/
structure Naming where
  sprite : Option String
  pending : Option String
  deriving DecidableEq

namespace Naming

def called (n : Naming) (name : String) : Naming :=
  if n.sprite.isSome then { n with sprite := some name } else { n with pending := some name }

def drawn (n : Naming) : Naming :=
  match n.sprite with
  | some _ => n
  | none => ⟨some (n.pending.getD ""), none⟩

def removed (n : Naming) : Naming := { n with sprite := none }

theorem called_called (n : Naming) (first second : String) :
    (n.called first).called second = n.called second := by
  cases n with
  | mk sprite pending => cases sprite <;> rfl

theorem drawn_drawn (n : Naming) : n.drawn.drawn = n.drawn := by
  cases n with
  | mk sprite pending => cases sprite <;> rfl

/-- A frame calls the player, and then draws it, removes it or leaves it. -/
def frame (n : Naming) (entry : Option String) (listed : Option Bool) : Naming :=
  let named := entry.elim n n.called
  match listed with
  | none => named
  | some true => named.drawn
  | some false => named.removed

/-- All a scene knows of a name, when `held` is what it still holds. -/
def holding (held : Option String) (shown : Bool) : Naming :=
  if shown then ⟨some (held.getD ""), none⟩ else ⟨none, held⟩

/-- A name goes with the sprite that carries it. -/
theorem frame_holding (held : Option String) (shown : Bool) (entry : Option String)
    (listed : Option Bool) :
    (holding held shown).frame entry listed =
      holding (if shown ∧ listed = some false then none else entry.or held)
        (listed.getD shown) := by
  cases shown <;> cases entry <;> rcases listed with _ | _ | _ <;> rfl

end Naming

namespace WorldScene

def naming (s : WorldScene K) (p : K) : Naming :=
  ⟨(s.players.get? p).map PlayerSprite.nickname,
    (s.pendingNicknames.get? p).map RosterName.nickname⟩

theorem naming_enterTimeline (tick : K) (simulationHz : Option K) :
    (s.enterTimeline tick simulationHz).naming p = s.naming p := by
  cases simulationHz with
  | none => rfl
  | some hz =>
    simp only [naming, enterTimeline]
    split <;> rfl

theorem naming_applyTiles (snapshot : Snapshot K) : (s.applyTiles snapshot).naming p = s.naming p :=
  rfl

theorem naming_markSelf (id : K) (isSelf : Bool) : (s.markSelf id isSelf).naming p = s.naming p := by
  simp only [naming, markSelf, KeyedList.get?_modify]
  split
  · cases s.players.get? p <;> rfl
  · rfl

theorem naming_setSelf (id : K) : (s.setSelf id).naming p = s.naming p := by
  simp only [setSelf, naming_markSelf]
  cases s.selfId with
  | none => rfl
  | some previous => exact naming_markSelf previous false

theorem naming_applyName (entry : RosterName K) :
    (s.applyName entry).naming p =
      if entry.id = p then (s.naming p).called entry.nickname else s.naming p := by
  have found := KeyedList.has_eq_isSome s.players entry.id
  rw [applyName]
  split
  · rename_i drawn
    rw [drawn] at found
    simp only [naming, Naming.called, KeyedList.get?_modify]
    by_cases same : entry.id = p
    · subst same
      obtain ⟨sprite, here⟩ := Option.isSome_iff_exists.mp found.symm
      simp [here]
    · simp [same, Ne.symm same]
  · rename_i absent
    rw [Bool.eq_false_iff.mpr absent] at found
    simp only [naming, Naming.called, KeyedList.get?_set]
    by_cases same : entry.id = p
    · subst same
      simp [Option.isSome_eq_false_iff.mp found.symm]
    · simp [same, Ne.symm same]

theorem naming_drawPlayer (snaps : K → Bool) (player : SnapshotPlayer K) :
    (s.drawPlayer snaps player).naming p =
      if player.id = p then (s.naming p).drawn else s.naming p := by
  simp only [drawPlayer, KeyedList.has_eq_isSome, naming, Naming.drawn]
  by_cases same : player.id = p
  · subst same
    cases found : s.players.get? player.id with
    | none =>
      cases s.pendingNicknames.get? player.id <;>
        simp [found, spawnPlayer, PlayerSprite.follow, KeyedList.get?_set, KeyedList.get?_modify,
          KeyedList.get?_delete]
    | some sprite => simp [found, PlayerSprite.follow, KeyedList.get?_modify]
  · have other : p ≠ player.id := Ne.symm same
    cases found : s.players.get? player.id with
    | none =>
      simp [found, same, other, spawnPlayer, KeyedList.get?_set, KeyedList.get?_modify,
        KeyedList.get?_delete]
    | some sprite => simp [same, other, KeyedList.get?_modify]

theorem naming_removePlayer (id : K) :
    (s.removePlayer id).naming p = if id = p then (s.naming p).removed else s.naming p := by
  simp only [removePlayer, KeyedList.has_eq_isSome, naming, Naming.removed]
  by_cases same : id = p
  · subst same
    cases found : s.players.get? id <;> simp [found, KeyedList.get?_delete]
  · have other : p ≠ id := Ne.symm same
    cases found : s.players.get? id <;> simp [same, other, KeyedList.get?_delete]

theorem naming_roster (entries : List (RosterName K)) :
    (entries.foldl applyName s).naming p =
      (((entries.filter (·.id = p)).getLast?).map RosterName.nickname).elim (s.naming p)
        (s.naming p).called := by
  induction entries using List.reverseRecOn with
  | nil => rfl
  | append_singleton entries entry ih =>
    rw [List.foldl_append, List.foldl_cons, List.foldl_nil, naming_applyName, ih,
      List.filter_append]
    by_cases same : entry.id = p
    · cases ((entries.filter (·.id = p)).getLast?).map RosterName.nickname with
      | none => simp [same]
      | some name => simp [same, Naming.called_called]
    · simp [same]

theorem naming_drawn (snaps : K → Bool) (players : List (SnapshotPlayer K)) :
    (players.foldl (fun scene player => scene.drawPlayer snaps player) s).naming p =
      if p ∈ players.map SnapshotPlayer.id then (s.naming p).drawn else s.naming p := by
  induction players generalizing s with
  | nil => rfl
  | cons player players ih =>
    rw [List.foldl_cons, ih, naming_drawPlayer]
    by_cases same : player.id = p
    · simp [same, Naming.drawn_drawn]
    · simp [same, Ne.symm same]

theorem naming_removed (ids : List K) :
    (ids.foldl removePlayer s).naming p = if p ∈ ids then (s.naming p).removed else s.naming p := by
  induction ids generalizing s with
  | nil => rfl
  | cons id ids ih =>
    rw [List.foldl_cons, ih, naming_removePlayer]
    by_cases same : id = p
    · simp [same, Naming.removed]
    · simp [same, Ne.symm same]

/-- Everyone drawn who is not on the list goes. -/
theorem naming_unlisted (seen : List K) :
    (((s.players.entries.map PlayerSprite.id).filter (· ∉ seen)).foldl removePlayer s).naming p =
      if p ∈ seen then s.naming p else (s.naming p).removed := by
  rw [naming_removed]
  by_cases listed : p ∈ seen
  · simp [listed]
  · cases found : s.players.get? p with
    | some sprite =>
      obtain ⟨drawn, same⟩ := KeyedList.mem_of_get? found
      simp only [listed, List.mem_filter, List.mem_map]
      rw [if_pos ⟨⟨sprite, drawn, same⟩, by simp⟩, if_neg not_false]
    | none =>
      have none : (s.naming p).removed = s.naming p := by simp [naming, Naming.removed, found]
      simp [none]

theorem naming_applyPlayers (tick : K) (players : List (SnapshotPlayer K)) :
    (s.applyPlayers tick players).naming p =
      if p ∈ players.map SnapshotPlayer.id then (s.naming p).drawn else (s.naming p).removed := by
  have framed (buffers : PositionBuffers K) : ((if s.simulationHz.isSome then
      { s with entityPositionBuffers := buffers } else s : WorldScene K)).naming p = s.naming p := by
    split <;> rfl
  have drawn := naming_unlisted (p := p) (players.map SnapshotPlayer.id) (s := players.foldl
    (fun scene q => scene.drawPlayer (fun id => !s.simulationHz.isSome ||
      id ∈ (bufferEntityPositions (JsNumber.ofRat maxInterpolationDistancePx) s.entityPositionBuffers
        tick s.pendingBlinks players).2) q)
    (if s.simulationHz.isSome then { s with entityPositionBuffers :=
      (bufferEntityPositions (JsNumber.ofRat maxInterpolationDistancePx) s.entityPositionBuffers tick
        s.pendingBlinks players).1 } else s))
  rw [naming_drawn, framed] at drawn
  refine Eq.trans drawn ?_
  split <;> rfl

end WorldScene

/-! ## What a frame says of a player -/

def entryFor (snapshot : Snapshot K) (p : K) : Option String :=
  (((snapshot.roster.getD []).filter (·.id = p)).getLast?).map RosterName.nickname

theorem WorldScene.naming_applySnapshot (snapshot : Snapshot K) (simulationHz : Option K) :
    (s.applySnapshot snapshot simulationHz).naming p =
      (s.naming p).frame (entryFor snapshot p) (listed snapshot p) := by
  have own (tiled : WorldScene K) :
      (snapshot.selfId.elim tiled tiled.setSelf).naming p = tiled.naming p := by
    cases snapshot.selfId with
    | none => rfl
    | some id => exact naming_setSelf id
  have named := naming_roster (p := p) (snapshot.roster.getD []) (s := snapshot.selfId.elim
    ((s.enterTimeline snapshot.tick simulationHz).applyTiles snapshot)
    ((s.enterTimeline snapshot.tick simulationHz).applyTiles snapshot).setSelf)
  rw [own, naming_applyTiles, naming_enterTimeline] at named
  simp only [applySnapshot, Naming.frame, listed]
  cases snapshot.players with
  | none => exact named
  | some players =>
    rw [Option.elim_some, naming_applyPlayers, named, Option.map_some]
    by_cases here : p ∈ players.map SnapshotPlayer.id
    · simp only [here, decide_true, if_true]
      rfl
    · simp only [here, decide_false, if_false]
      rfl

/-! ## Runs of frames -/

def WorldScene.play (frames : List (PacedFrame K)) : WorldScene K :=
  frames.foldl (fun s frame => s.applySnapshot frame.1 frame.2) .fresh

def latestName (frames : List (PacedFrame K)) (p : K) : Option String :=
  (((frames.flatMap fun frame => frame.1.roster.getD []).filter (·.id = p)).getLast?).map
    RosterName.nickname

/-- The player was drawn, then left out of a list, and no roster entry for it came after that list. -/
def Mislaid (frames : List (PacedFrame K)) (p : K) : Prop :=
  ∃ before frame after, frames = before ++ frame :: after ∧ shown before p = true ∧
    listed frame.1 p = some false ∧ ∀ later ∈ after, entryFor later.1 p = none

variable {frames : List (PacedFrame K)} {frame : PacedFrame K}

theorem latestName_append :
    latestName (frames ++ [frame]) p = (entryFor frame.1 p).or (latestName frames p) := by
  simp only [latestName, entryFor, List.flatMap_append, List.flatMap_singleton, List.filter_append,
    List.getLast?_append]
  cases ((frame.1.roster.getD []).filter (·.id = p)).getLast? <;> rfl

theorem shown_append :
    shown (frames ++ [frame]) p = (listed frame.1 p).getD (shown frames p) := by
  simp only [shown, listed, List.filterMap_append]
  cases carried : frame.1.players <;> simp [carried]

theorem mislaid_append : Mislaid (frames ++ [frame]) p ↔
    (shown frames p = true ∧ listed frame.1 p = some false) ∨
      (Mislaid frames p ∧ entryFor frame.1 p = none) := by
  constructor
  · rintro ⟨before, left, after, split, drawn, out, silent⟩
    rcases List.eq_nil_or_concat after with rfl | ⟨rest, last, rfl⟩
    · obtain ⟨rfl, same⟩ := List.append_inj' split rfl
      cases same
      exact .inl ⟨drawn, out⟩
    · rw [List.concat_eq_append, ← List.cons_append, ← List.append_assoc] at split
      obtain ⟨rfl, same⟩ := List.append_inj' split rfl
      cases same
      refine .inr ⟨⟨before, left, rest, rfl, drawn, out, fun later member => ?_⟩, ?_⟩
      · exact silent later (by simp [member])
      · exact silent frame (by simp)
  · rintro (⟨drawn, out⟩ | ⟨⟨before, left, after, rfl, drawn, out, silent⟩, quiet⟩)
    · exact ⟨frames, frame, [], rfl, drawn, out, by simp⟩
    · refine ⟨before, left, after ++ [frame], by simp, drawn, out, fun later member => ?_⟩
      rcases List.mem_append.mp member with old | new
      · exact silent later old
      · rw [List.mem_singleton.mp new]
        exact quiet

/-- What the scene holds of a name after a run. -/
theorem naming_play (frames : List (PacedFrame K)) (p : K) : ∃ held,
    (WorldScene.play frames).naming p = Naming.holding held (shown frames p) ∧
      (Mislaid frames p → held = none) ∧ (¬ Mislaid frames p → held = latestName frames p) := by
  induction frames using List.reverseRecOn with
  | nil =>
    exact ⟨none, rfl, fun _ => rfl, fun _ => rfl⟩
  | append_singleton frames frame ih =>
    obtain ⟨held, holds, lost, kept⟩ := ih
    refine ⟨if shown frames p ∧ listed frame.1 p = some false then none
      else (entryFor frame.1 p).or held, ?_, ?_⟩
    · rw [WorldScene.play, List.foldl_append, ← WorldScene.play, List.foldl_cons, List.foldl_nil,
        WorldScene.naming_applySnapshot, shown_append, ← Naming.frame_holding, holds]
    · rw [mislaid_append, latestName_append]
      by_cases out : shown frames p = true ∧ listed frame.1 p = some false
      · simp [out]
      · by_cases gone : Mislaid frames p
        · cases entry : entryFor frame.1 p <;> simp [out, gone, lost gone]
        · simp [out, gone, kept gone]

/-! ## Names that survive -/

def runner : SnapshotPlayer ℚ :=
  { id := 1, x := 640, y := 640, facingX := 0, facingY := 1, colorIndex := 0, obscured := false
    isTagger := false, effects := fun _ => none, emojiId := none }

def seen (tick : ℚ) (players : List (SnapshotPlayer ℚ)) : Snapshot ℚ :=
  { version := 2, full := false, tick, players := some players }

/-- A full frame names player 1, who hides in the second frame and comes out in the third. -/
def hideAndSeek : List (PacedFrame ℚ) :=
  [({ seen 1 [runner] with full := true, roster := some [⟨1, "술래"⟩] }, some 60),
    (seen 2 [], some 60), (seen 3 [runner], some 60)]

end SwitchRemake.Client

import SwitchRemake.Client.TokenRefresh

/-!
# One refresh at a time

A refresh token is sent again only when its last answer left it in its place, whatever calls and
answers come in between.
-/

namespace SwitchRemake.Client.Api
open Lib

namespace Tab
variable {T : Type}

/-! ## Flights and their tokens -/

section
variable [DecidableEq T] {t : Tab T}

/-- The map holds the flights that have not ended. A token that is held has been sent to be refreshed
as often as it was kept, unless it is on its way now. -/
structure Sound (t : Tab T) : Prop where
  listed : ∀ kind (index : Nat), t.refreshFlights kind = some index →
    ∃ stage, t.flights[index]? = some ⟨kind, stage⟩
  flying : ∀ (index : Nat) flight, t.flights[index]? = some flight → flight.flying →
    t.refreshFlights flight.kind = some index
  bounded : ∀ kind token, t.presented.count (kind, token) ≤ t.kept.count (kind, token) + 1
  held : ∀ kind token, t.holder kind = some token →
    t.presented.count (kind, token) = t.kept.count (kind, token) ∨
      ∃ index : Nat, t.flights[index]? = some ⟨kind, .sent (some token)⟩
  sent : ∀ (index : Nat) kind token, t.flights[index]? = some ⟨kind, .sent (some token)⟩ →
    t.presented.count (kind, token) = t.kept.count (kind, token) + 1
  knownHeld : ∀ kind token, t.holder kind = some token → (kind, token) ∈ t.seen
  knownSent : t.presented ⊆ t.seen
  knownKept : t.kept ⊆ t.seen

namespace Sound

theorem start (cookie guestRefresh : Option T) (activeRoom : Bool) :
    (start cookie guestRefresh activeRoom).Sound where
  listed := nofun
  flying := nofun
  bounded _ _ := Nat.zero_le _
  held _ _ _ := .inl rfl
  sent := nofun
  knownHeld kind token held := by
    cases kind with
    | guest =>
      have same : guestRefresh = some token := held
      simp [Tab.start, same]
    | account =>
      have same : cookie = some token := held
      simp [Tab.start, same]
  knownSent := nofun
  knownKept := nofun

/-- What the refreshes do not look at. -/
theorem frame (sound : t.Sound) (identity : ApiIdentity) (activeRoom : Bool) (tasks : List Task) :
    ({ t with identity, activeRoom, tasks } : Tab T).Sound :=
  ⟨sound.listed, sound.flying, sound.bounded, sound.held, sound.sent, sound.knownHeld,
    sound.knownSent, sound.knownKept⟩

theorem forgetGuest (sound : t.Sound) : t.forgetGuest.Sound :=
  have still {kind : FlightKind} {token : T} (held : t.forgetGuest.holder kind = some token) :
      t.holder kind = some token := by
    cases kind with
    | guest => cases held
    | account => exact held
  ⟨sound.listed, sound.flying, sound.bounded, fun kind token held => sound.held kind token (still held),
    sound.sent, fun kind token held => sound.knownHeld kind token (still held), sound.knownSent,
    sound.knownKept⟩

theorem noCookie (sound : t.Sound) : ({ t with cookie := none } : Tab T).Sound :=
  have still {kind : FlightKind} {token : T}
      (held : ({ t with cookie := none } : Tab T).holder kind = some token) :
      t.holder kind = some token := by
    cases kind with
    | guest => exact held
    | account => cases held
  ⟨sound.listed, sound.flying, sound.bounded, fun kind token held => sound.held kind token (still held),
    sound.sent, fun kind token held => sound.knownHeld kind token (still held), sound.knownSent,
    sound.knownKept⟩

/-- A new token has not been sent. -/
theorem counts_new (sound : t.Sound) {kind : FlightKind} {token : T} (new : (kind, token) ∉ t.seen) :
    t.presented.count (kind, token) = t.kept.count (kind, token) := by
  rw [List.count_eq_zero_of_not_mem fun inside => new (sound.knownSent inside),
    List.count_eq_zero_of_not_mem fun inside => new (sound.knownKept inside)]

theorem newCookie (sound : t.Sound) {token : T} (new : (.account, token) ∉ t.seen) :
    ({ t with cookie := some token, seen := t.seen ++ [(.account, token)] } : Tab T).Sound where
  listed := sound.listed
  flying := sound.flying
  bounded := sound.bounded
  sent := sound.sent
  held kind other held := by
    cases kind with
    | guest => exact sound.held .guest other held
    | account =>
      cases held
      exact .inl (sound.counts_new new)
  knownHeld kind other held := by
    cases kind with
    | guest => exact List.mem_append_left _ (sound.knownHeld .guest other held)
    | account =>
      cases held
      exact List.mem_append_right _ (List.mem_singleton.mpr rfl)
  knownSent := fun _ inside => List.mem_append_left _ (sound.knownSent inside)
  knownKept := fun _ inside => List.mem_append_left _ (sound.knownKept inside)

theorem acceptGuest (sound : t.Sound) {token : T} (new : (.guest, token) ∉ t.seen)
    (accessToken nickname : String) : (t.acceptGuest token accessToken nickname).Sound where
  listed := sound.listed
  flying := sound.flying
  bounded := sound.bounded
  sent := sound.sent
  held kind other held := by
    cases kind with
    | guest =>
      cases held
      exact .inl (sound.counts_new new)
    | account => exact sound.held .account other held
  knownHeld kind other held := by
    cases kind with
    | guest =>
      cases held
      exact List.mem_append_right _ (List.mem_singleton.mpr rfl)
    | account => exact List.mem_append_left _ (sound.knownHeld .account other held)
  knownSent := fun _ inside => List.mem_append_left _ (sound.knownSent inside)
  knownKept := fun _ inside => List.mem_append_left _ (sound.knownKept inside)

/-- There is one flight of a kind. -/
theorem alone (sound : t.Sound) {i j : Nat} {f g : Flight T} (at_i : t.flights[i]? = some f)
    (at_j : t.flights[j]? = some g) (same : f.kind = g.kind) (flies : f.flying) (flies' : g.flying) :
    i = j := by
  have here := sound.flying i f at_i flies
  have there := sound.flying j g at_j flies'
  rw [same, there] at here
  exact (Option.some.inj here).symm

omit [DecidableEq T] in
/-- What is at a place after a flight there has changed its stage. -/
theorem get_set {flights : List (Flight T)} {index place : Nat} {kind : FlightKind}
    {stage stage' : FlightStage T} {flight : Flight T} (there : flights[index]? = some ⟨kind, stage⟩)
    (after : (flights.set index ⟨kind, stage'⟩)[place]? = some flight) :
    place = index ∧ flight = ⟨kind, stage'⟩ ∨ place ≠ index ∧ flights[place]? = some flight := by
  by_cases same : place = index
  · subst same
    rw [List.getElem?_set_self' , there] at after
    exact .inl ⟨rfl, (Option.some.inj after).symm⟩
  · rw [List.getElem?_set_ne (Ne.symm same)] at after
    exact .inr ⟨same, after⟩

theorem flying_set (sound : t.Sound) {index : Nat} {kind : FlightKind} {stage stage' : FlightStage T}
    (there : t.flights[index]? = some ⟨kind, stage⟩) (aloft : ∀ outcome, stage ≠ .settled outcome)
    {place : Nat} {flight : Flight T}
    (after : (t.flights.set index ⟨kind, stage'⟩)[place]? = some flight) (flies : flight.flying) :
    t.refreshFlights flight.kind = some place := by
  rcases get_set there after with ⟨rfl, rfl⟩ | ⟨-, before⟩
  · exact sound.flying place ⟨kind, stage⟩ there aloft
  · exact sound.flying place flight before flies

/-- A token that is sent or kept counts once. -/
theorem count_also (tokens : List (FlightKind × T)) (kind other : FlightKind) (out : Option T)
    (token : T) : (tokens ++ (out.map (kind, ·)).toList).count (other, token) =
      tokens.count (other, token) + if kind = other ∧ out = some token then 1 else 0 := by
  cases out with
  | none => simp
  | some out => simp [List.count_singleton]

theorem listed_set (sound : t.Sound) {index : Nat} {kind : FlightKind} {stage : FlightStage T}
    (there : t.flights[index]? = some ⟨kind, stage⟩) (stage' : FlightStage T) {other : FlightKind}
    {place : Nat} (entry : t.refreshFlights other = some place) :
    ∃ stage, (t.flights.set index ⟨kind, stage'⟩)[place]? = some ⟨other, stage⟩ := by
  obtain ⟨found, at_place⟩ := sound.listed other place entry
  by_cases same : place = index
  · subst same
    rw [there] at at_place
    cases at_place
    exact ⟨stage', by rw [List.getElem?_set_self', there]; rfl⟩
  · exact ⟨found, by rw [List.getElem?_set_ne (Ne.symm same)]; exact at_place⟩

/-- Nothing is on the way while another flight of the kind is in the air. -/
theorem grounded (sound : t.Sound) {index : Nat} {kind : FlightKind} {stage : FlightStage T}
    (there : t.flights[index]? = some ⟨kind, stage⟩) (aloft : ∀ outcome, stage ≠ .settled outcome)
    (silent : ∀ token, stage ≠ .sent (some token)) (place : Nat) (token : T) :
    t.flights[place]? ≠ some ⟨kind, .sent (some token)⟩ := by
  intro sent
  have same := sound.alone there sent rfl aloft (by nofun)
  rw [← same, there] at sent
  exact silent token (congrArg Flight.stage (Option.some.inj sent))

theorem grounded_of_empty (sound : t.Sound) {kind : FlightKind} (empty : t.refreshFlights kind = none)
    (place : Nat) (token : T) : t.flights[place]? ≠ some ⟨kind, .sent (some token)⟩ := by
  intro sent
  have listed := sound.flying place _ sent (by nofun)
  rw [empty] at listed
  cases listed

/-- A held token has been kept after each time it was sent, if it is not on its way. -/
theorem held_kept (sound : t.Sound) {kind : FlightKind} {token : T} (held : t.holder kind = some token)
    (grounded : ∀ (place : Nat) token, t.flights[place]? ≠ some ⟨kind, .sent (some token)⟩) :
    t.presented.count (kind, token) = t.kept.count (kind, token) := by
  rcases sound.held kind token held with equal | ⟨index, there⟩
  · exact equal
  · exact absurd there (grounded index token)

/-- A flight begins, with nothing sent yet. -/
theorem begins (sound : t.Sound) {kind : FlightKind} (empty : t.refreshFlights kind = none)
    (stage : FlightStage T) (silent : ∀ token, stage ≠ .sent token) :
    ({ t with
        flights := t.flights ++ [⟨kind, stage⟩]
        refreshFlights := fun other => if other = kind then some t.flights.length else
          t.refreshFlights other } : Tab T).Sound where
  listed other place entry := by
    dsimp only at entry
    split at entry
    · rename_i same
      cases entry
      exact ⟨stage, by rw [same]; exact List.getElem?_concat_length⟩
    · obtain ⟨found, there⟩ := sound.listed other place entry
      exact ⟨found, by
        rw [List.getElem?_append_left (List.getElem?_eq_some_iff.mp there).1]
        exact there⟩
  flying place flight there flies := by
    rcases Nat.lt_trichotomy place t.flights.length with before | here | after
    · rw [List.getElem?_append_left before] at there
      have entry := sound.flying place flight there flies
      dsimp only
      rw [if_neg]
      · exact entry
      · intro same
        rw [same, empty] at entry
        cases entry
    · subst here
      rw [List.getElem?_concat_length] at there
      cases there
      exact if_pos rfl
    · rw [List.getElem?_eq_none (by simp; omega)] at there
      cases there
  bounded := sound.bounded
  held other token held := (sound.held other token held).imp_right fun ⟨place, there⟩ =>
    ⟨place, by rw [List.getElem?_append_left (List.getElem?_eq_some_iff.mp there).1]; exact there⟩
  sent place other token there := by
    by_cases before : place < t.flights.length
    · rw [List.getElem?_append_left before] at there
      exact sound.sent place other token there
    · rw [List.getElem?_append_right (Nat.le_of_not_lt before)] at there
      obtain ⟨_, same⟩ := List.getElem?_eq_some_iff.mp there
      rw [List.getElem_singleton] at same
      exact absurd (congrArg Flight.stage same) (silent (some token))
  knownHeld := sound.knownHeld
  knownSent := sound.knownSent
  knownKept := sound.knownKept

/-- The request of a flight goes out with the token that is held. -/
theorem sends (sound : t.Sound) {index : Nat} {kind : FlightKind}
    (there : t.flights[index]? = some ⟨kind, .starting⟩) :
    ({ t with
        flights := t.flights.set index ⟨kind, .sent (t.holder kind)⟩
        presented := t.presented ++ ((t.holder kind).map (kind, ·)).toList } : Tab T).Sound := by
  have still := sound.grounded there (by nofun) (by nofun)
  have fresh {token : T} (held : t.holder kind = some token) := sound.held_kept held still
  refine ⟨fun _ _ entry => sound.listed_set there _ entry, fun place flight after flies => ?_,
    fun other token => ?_, fun other token held => ?_, fun place other token after => ?_,
    sound.knownHeld, fun sent inside => ?_, sound.knownKept⟩
  · exact sound.flying_set there (by nofun) after flies
  · show (t.presented ++ _).count _ ≤ _
    rw [count_also]
    split
    · rename_i same
      exact Nat.le_of_eq (by rw [← same.1, fresh same.2])
    · exact sound.bounded other token
  · by_cases same : kind = other
    · have held : t.holder kind = some token := same ▸ held
      refine .inr ⟨index, ?_⟩
      show (t.flights.set index _)[index]? = _
      rw [List.getElem?_set_self', there, held, same]
      rfl
    · show (t.presented ++ _).count _ = _ ∨ _
      rw [count_also, if_neg fun both => same both.1]
      refine (sound.held other token held).imp_right fun ⟨place, sent⟩ => ⟨place, ?_⟩
      show (t.flights.set index _)[place]? = _
      rw [List.getElem?_set_ne]
      · exact sent
      · rintro rfl
        rw [there] at sent
        cases sent
  · show (t.presented ++ _).count _ = _
    rw [count_also]
    rcases get_set there after with ⟨-, same⟩ | ⟨-, before⟩
    · obtain ⟨rfl, sent⟩ := Flight.mk.inj same
      have held : t.holder other = some token := (FlightStage.sent.inj sent).symm
      rw [if_pos ⟨rfl, held⟩, fresh held]
    · rw [if_neg]
      · exact sound.sent place other token before
      · rintro ⟨rfl, -⟩
        exact still place token before
  · rcases List.mem_append.mp inside with old | new
    · exact sound.knownSent old
    · obtain ⟨out, held, rfl⟩ := Option.map_eq_some_iff.mp (Option.mem_toList.mp new)
      exact sound.knownHeld kind out held

/-- A flight lands that leaves nothing of its kind on the way. -/
theorem lands (sound : t.Sound) {index : Nat} {kind : FlightKind} {stage : FlightStage T}
    (there : t.flights[index]? = some ⟨kind, stage⟩) (aloft : ∀ outcome, stage ≠ .settled outcome)
    (kept : ∀ token, t.holder kind = some token →
      t.presented.count (kind, token) = t.kept.count (kind, token)) (outcome : Except Thrown Unit) :
    (t.land index kind outcome).Sound where
  listed _ _ entry := sound.listed_set there _ entry
  flying _ _ after flies := sound.flying_set there aloft after flies
  bounded := sound.bounded
  held other token held := by
    by_cases same : other = kind
    · subst same
      exact .inl (kept token held)
    · refine (sound.held other token held).imp_right fun ⟨place, sent⟩ => ⟨place, ?_⟩
      show (t.flights.set index _)[place]? = _
      rw [List.getElem?_set_ne]
      · exact sent
      · rintro rfl
        rw [there] at sent
        cases sent
        exact same rfl
  sent place other token after := by
    rcases get_set there after with ⟨-, same⟩ | ⟨-, before⟩
    · cases same
    · exact sound.sent place other token before
  knownHeld := sound.knownHeld
  knownSent := sound.knownSent
  knownKept := sound.knownKept

/-- A flight lands, and what it has sent is kept. -/
theorem lands_kept (sound : t.Sound) {index : Nat} {kind : FlightKind} {token : Option T}
    (there : t.flights[index]? = some ⟨kind, .sent token⟩) (outcome : Except Thrown Unit) :
    ((t.keep kind token).land index kind outcome).Sound := by
  cases token with
  | none =>
    have same : t.keep kind none = t := by
      rw [keep, Option.map_none, Option.toList_none, List.append_nil]
    rw [same]
    exact sound.lands there (by nofun) (fun token held => sound.held_kept held
      (sound.grounded there (by nofun) (by nofun))) outcome
  | some out =>
    have sent := sound.sent index kind out there
    refine ⟨fun _ _ entry => sound.listed_set there _ entry, fun place flight after flies => ?_,
      fun other token => ?_, fun other token held => ?_, fun place other token after => ?_,
      sound.knownHeld, sound.knownSent, fun known inside => ?_⟩
    · exact sound.flying_set there (by nofun) after flies
    · show _ ≤ (t.kept ++ _).count _ + 1
      rw [count_also]
      exact Nat.le_trans (sound.bounded other token) (Nat.succ_le_succ (Nat.le_add_right _ _))
    · show _ = (t.kept ++ _).count _ ∨ _
      rw [count_also]
      by_cases same : kind = other ∧ some out = some token
      · obtain ⟨rfl, same⟩ := same
        cases same
        exact .inl (by rw [if_pos ⟨rfl, rfl⟩]; exact sent)
      · rw [if_neg same, Nat.add_zero]
        refine (sound.held other token held).imp_right fun ⟨place, sent⟩ => ⟨place, ?_⟩
        show (t.flights.set index _)[place]? = _
        rw [List.getElem?_set_ne]
        · exact sent
        · rintro rfl
          rw [there] at sent
          cases sent
          exact same ⟨rfl, rfl⟩
    · rcases get_set there after with ⟨-, same⟩ | ⟨apart, before⟩
      · cases same
      · show _ = (t.kept ++ _).count _ + 1
        rw [count_also, if_neg, Nat.add_zero]
        · exact sound.sent place other token before
        · rintro ⟨rfl, -⟩
          exact apart (sound.alone before there rfl (by nofun) (by nofun))
    · rcases List.mem_append.mp inside with old | new
      · exact sound.knownKept old
      · obtain ⟨_, held, rfl⟩ := Option.map_eq_some_iff.mp (Option.mem_toList.mp new)
        cases held
        refine sound.knownSent (List.count_pos_iff.mp ?_)
        rw [sent]
        exact Nat.succ_pos _

theorem settle (sound : t.Sound) (index : Nat) : (t.settle index).Sound := by
  unfold Tab.settle
  split
  · rename_i kind outcome there
    have entry := sound.flying index _ there (by nofun)
    refine ⟨fun other place held => ?_, fun place flight after flies => ?_, sound.bounded,
      fun other token held => ?_, fun place other token after => ?_, sound.knownHeld,
      sound.knownSent, sound.knownKept⟩
    · dsimp only at held
      split at held
      · cases held
      · exact sound.listed_set there _ held
    · rcases get_set there after with ⟨-, rfl⟩ | ⟨apart, before⟩
      · exact absurd rfl (flies outcome)
      · have own := sound.flying place flight before flies
        dsimp only
        rw [if_neg]
        · exact own
        · intro same
          rw [same, entry] at own
          exact apart (Option.some.inj own).symm
    · refine (sound.held other token held).imp_right fun ⟨place, sent⟩ => ⟨place, ?_⟩
      show (t.flights.set index _)[place]? = _
      rw [List.getElem?_set_ne]
      · exact sent
      · rintro rfl
        rw [there] at sent
        cases sent
    · rcases get_set there after with ⟨-, same⟩ | ⟨-, before⟩
      · cases same
      · exact sound.sent place other token before
  · exact sound

/-! ## Every event -/

theorem singleFlight (sound : t.Sound) (kind : FlightKind) : (t.singleFlight kind).2.Sound := by
  unfold Tab.singleFlight
  split
  · exact sound
  · rename_i empty
    cases kind with
    | account =>
      have begun := sound.begins empty .starting (by nofun)
      simpa only [takeOff, List.append_nil] using begun
    | guest =>
      cases held : t.guestRefresh with
      | none =>
        have begun := sound.begins empty .failing (by nofun)
        simpa only [takeOff, held, List.append_nil] using begun
      | some token =>
        have begun := (sound.begins empty .starting (by nofun)).sends
          List.getElem?_concat_length
        simpa only [takeOff, held, Tab.holder, List.set_append_right _ _ (Nat.le_refl _), Nat.sub_self,
          List.set_cons_zero, Option.map_some, Option.toList_some] using begun

theorem setTask (sound : t.Sound) (index : Nat) (task : Task) : (t.setTask index task).Sound :=
  sound.frame t.identity t.activeRoom _

theorem awaitFlight (sound : t.Sound) (index : Nat) (task : Task) (kind : FlightKind) :
    (t.awaitFlight index task kind).Sound :=
  (sound.singleFlight kind).setTask index _

theorem setApiIdentity (sound : t.Sound) (identity : ApiIdentity) : (t.setApiIdentity identity).Sound :=
  sound.frame identity t.activeRoom t.tasks

theorem createGuest (sound : t.Sound) (index : Nat) (task : Task) : (t.createGuest index task).Sound :=
  (sound.forgetGuest.setApiIdentity _).setTask index _

theorem throws (sound : t.Sound) (index : Nat) (task : Task) (error : Thrown) :
    (t.throws index task error).Sound := by
  unfold Tab.throws
  split
  · exact sound.createGuest index task
  · exact sound.setTask index _

theorem returns (sound : t.Sound) (index : Nat) (task : Task) : (t.returns index task).Sound := by
  unfold Tab.returns
  split
  · exact sound.noCookie.createGuest index task
  · exact sound.setTask index _

theorem rejected (sound : t.Sound) (error : Thrown) : (t.rejected error).Sound := by
  unfold Tab.rejected
  split
  · refine setApiIdentity ?_ _
    split
    · exact sound.forgetGuest
    · exact sound
  · exact sound

theorem answered (sound : t.Sound) (index : Nat) (task : Task) (reply : Reply) :
    (t.answered index task reply).Sound := by
  unfold Tab.answered
  split
  · exact sound.returns index task
  · exact sound.returns index task
  · split
    · exact sound.awaitFlight index task _
    · exact sound.throws index task _
  · exact sound.throws index task _
  · exact sound

theorem bootstraps (sound : t.Sound) (index : Nat) (task : Task) (kind : FlightKind)
    (error : Thrown) : (t.bootstraps index task kind error).Sound := by
  cases kind with
  | guest =>
    simp only [Tab.bootstraps]
    split
    · exact sound.setTask index _
    · exact sound.forgetGuest.awaitFlight index task _
  | account => exact sound.setTask index _

theorem resume (sound : t.Sound) (index : Nat) (task : Task) (kind : FlightKind)
    (outcome : Except Thrown Unit) : (t.resume index task kind outcome).Sound := by
  unfold Tab.resume
  split
  case h_3 error _ | h_4 error _ => exact (sound.rejected error).throws index task error
  case h_5 error _ => exact sound.bootstraps index task kind error
  all_goals exact sound.setTask index _

theorem call (sound : t.Sound) (caller : Caller) : (t.call caller).Sound := by
  have more (task : Task) : ({ t with tasks := t.tasks ++ [task] } : Tab T).Sound :=
    sound.frame t.identity t.activeRoom _
  cases caller with
  | apiRequest auth retryAuth => exact more _
  | bootstrapApiIdentity => exact (more _).awaitFlight _ _ _
  | tryRefreshSession => exact (more _).awaitFlight _ _ _
  | logoutAndCreateGuest =>
    simp only [Tab.call]
    split
    · exact (more _).createGuest _ _
    · exact more _
  | abandonSessionAndCreateGuest =>
    exact createGuest (sound.frame t.identity false _) _ _

theorem transmit (sound : t.Sound) (index : Nat) : (t.transmit index).Sound := by
  unfold Tab.transmit
  split
  · rename_i there
    exact sound.sends there
  · exact sound

theorem flightAnswered (sound : t.Sound) (index : Nat) {reply : RefreshReply T}
    (may : t.May (.flightAnswered index reply)) : (t.flightAnswered index reply).Sound := by
  unfold Tab.flightAnswered
  split
  · rename_i token there
    cases reply with
    | ok new body =>
      cases body with
      | none => exact sound.lands_kept there _
      | some body =>
        have new := may.1
        refine (sound.acceptGuest new body.1 body.2).lands there (by nofun) (fun token held => ?_) _
        cases held
        exact sound.counts_new new
    | refused error clears => exact sound.lands_kept there _
    | lost => exact sound.lands_kept there _
  · rename_i token there
    cases reply with
    | ok new body =>
      have fresh := may.2
      have stored := (sound.newCookie fresh).lands there (by nofun) fun token held => by
        cases held
        exact sound.counts_new fresh
      cases body with
      | none => exact stored _
      | some body => exact (stored _).setApiIdentity _
    | refused error clears =>
      cases clears with
      | false => exact sound.lands_kept there _
      | true => exact sound.noCookie.lands there (by nofun) (by nofun) _
    | lost => exact sound.lands_kept there _
  · rename_i kind there
    exact sound.lands there (by nofun) (fun token held => sound.held_kept held
      (sound.grounded there (by nofun) (by nofun))) _
  · exact sound

theorem apply (sound : t.Sound) {event : Event T} (may : t.May event) : (t.apply event).Sound := by
  cases event with
  | call caller => exact sound.call caller
  | transmit flight => exact sound.transmit flight
  | flightAnswered flight reply => exact sound.flightAnswered flight may
  | answered index reply =>
    simp only [Tab.apply]
    split
    · exact sound.answered index _ reply
    · exact sound
  | resume index =>
    simp only [Tab.apply]
    split
    · split
      · exact sound.resume index _ _ _
      · exact sound
    · exact sound
  | guestIssued index guest =>
    simp only [Tab.apply]
    split
    · cases guest with
      | none => exact sound.setTask index _
      | some guest => exact (sound.setTask index _).acceptGuest may _ _
    · exact sound
  | signedIn token body =>
    cases body with
    | none => exact sound.newCookie may
    | some body => exact (sound.newCookie may).forgetGuest.setApiIdentity _
  | cookieCleared => exact sound.noCookie
  | settle flight => exact sound.settle flight
  | activeRoom there => exact sound.frame t.identity there t.tasks

end Sound
end

end Tab

/-! ## What a call sends -/

/-- A call that waits for its request or a refresh has not sent the request again, and one that does
not retry does not wait for a refresh. -/
structure Task.Modest (task : Task) : Prop where
  twice : task.sends ≤ 2
  plain : task.caller.retries = false → task.sends ≤ 1
  asking : task.await = .request → task.sends ≤ 1
  waiting : ∀ flight, task.await = .flight flight → task.sends ≤ 1 ∧
    (task.caller.retries = true ∨ task.caller = .bootstrapApiIdentity ∨
      task.caller = .tryRefreshSession)

namespace Task
variable {task : Task}

/-- The call waits for something else than a request or a refresh. -/
theorem Modest.ends (modest : task.Modest) {await : Await} (asks : await ≠ .request)
    (waits : ∀ flight, await ≠ .flight flight) : Modest { task with await } :=
  ⟨modest.twice, modest.plain, fun same => absurd same asks, fun flight same => absurd same (waits flight)⟩

end Task

namespace Tab
variable {T : Type} {t : Tab T}

def Modest (t : Tab T) : Prop := ∀ task ∈ t.tasks, task.Modest

namespace Modest

theorem setTask (modest : t.Modest) (index : Nat) {task : Task} (new : task.Modest) :
    (t.setTask index task).Modest := fun other inside => by
  rcases List.mem_or_eq_of_mem_set inside with old | rfl
  · exact modest other old
  · exact new

theorem singleFlight_tasks (t : Tab T) (kind : FlightKind) : (t.singleFlight kind).2.tasks = t.tasks := by
  unfold Tab.singleFlight
  split <;> rfl

theorem awaitFlight (modest : t.Modest) (index : Nat) {task : Task} (kind : FlightKind)
    (own : task.Modest) (sends : task.sends ≤ 1) (may : task.caller.retries = true ∨
      task.caller = .bootstrapApiIdentity ∨ task.caller = .tryRefreshSession) :
    (t.awaitFlight index task kind).Modest := by
  have still : (t.singleFlight kind).2.Modest := fun other inside =>
    modest other (singleFlight_tasks t kind ▸ inside)
  exact still.setTask index ⟨own.twice, own.plain, nofun, fun _ _ => ⟨sends, may⟩⟩

theorem createGuest (modest : t.Modest) (index : Nat) {task : Task} (own : task.Modest) :
    (t.createGuest index task).Modest :=
  @setTask _ (t.forgetGuest.setApiIdentity .nobody) modest index _ (own.ends (by nofun) (by nofun))

theorem throws (modest : t.Modest) (index : Nat) {task : Task} (own : task.Modest) (error : Thrown) :
    (t.throws index task error).Modest := by
  unfold Tab.throws
  split
  · exact modest.createGuest index own
  · exact modest.setTask index (own.ends (by nofun) (by nofun))

theorem returns (modest : t.Modest) (index : Nat) {task : Task} (own : task.Modest) :
    (t.returns index task).Modest := by
  unfold Tab.returns
  split
  · exact @createGuest _ { t with cookie := none } modest index _ own
  · exact modest.setTask index (own.ends (by nofun) (by nofun))

theorem answered (modest : t.Modest) (index : Nat) {task : Task} (own : task.Modest) (reply : Reply) :
    (t.answered index task reply).Modest := by
  unfold Tab.answered
  split
  · exact modest.returns index own
  · exact modest.returns index own
  · rename_i error asks
    split
    · rename_i may
      exact modest.awaitFlight index _ own (own.asking asks) (.inl may.1)
    · exact modest.throws index own error
  · exact modest.throws index own _
  · exact modest

theorem bootstraps (modest : t.Modest) (index : Nat) {task : Task} (own : task.Modest)
    (sends : task.sends ≤ 1) (caller : task.caller = .bootstrapApiIdentity) (kind : FlightKind)
    (error : Thrown) : (t.bootstraps index task kind error).Modest := by
  cases kind with
  | guest =>
    simp only [Tab.bootstraps]
    split
    · exact modest.setTask index (own.ends (by nofun) (by nofun))
    · exact @awaitFlight _ t.forgetGuest modest index _ _ own sends (.inr (.inl caller))
  | account =>
    simp only [Tab.bootstraps]
    split <;> exact modest.setTask index (own.ends (by nofun) (by nofun))

theorem rejected_tasks (t : Tab T) (error : Thrown) : (t.rejected error).tasks = t.tasks := by
  unfold Tab.rejected
  split
  · rw [Tab.setApiIdentity]
    split <;> rfl
  · rfl

theorem resume (modest : t.Modest) (index : Nat) {task : Task} (own : task.Modest) {flight : Nat}
    (waits : task.await = .flight flight) (kind : FlightKind) (outcome : Except Thrown Unit) :
    (t.resume index task kind outcome).Modest := by
  obtain ⟨sends, may⟩ := own.waiting flight waits
  have again (retries : task.caller.retries = true) :
      Task.Modest { task with await := .again, sends := task.sends + 1 } :=
    ⟨Nat.succ_le_succ sends, fun plain => (by rw [retries] at plain; cases plain), nofun, nofun⟩
  have still (error : Thrown) : (t.rejected error).Modest := by
    unfold Tab.Modest
    rw [rejected_tasks]
    exact modest
  unfold Tab.resume
  split
  case h_1 caller =>
    refine modest.setTask index (again ?_)
    rw [caller] at may
    rcases may with may | may | may
    · rw [caller]
      exact may
    · cases may
    · cases may
  case h_2 caller => exact modest.setTask index (again (by rw [caller]; rfl))
  case h_3 error _ | h_4 error _ => exact (still error).throws index own error
  case h_5 error caller => exact modest.bootstraps index own sends caller kind error
  all_goals exact modest.setTask index (own.ends (by nofun) (by nofun))

theorem call (modest : t.Modest) (caller : Caller) : (t.call caller).Modest := by
  have more {task : Task} (own : task.Modest) (activeRoom : Bool) :
      ({ t with tasks := t.tasks ++ [task], activeRoom } : Tab T).Modest := fun other inside => by
    rcases List.mem_append.mp inside with old | new
    · exact modest other old
    · rw [List.mem_singleton.mp new]
      exact own
  have idle : (⟨caller, .nothing, 0⟩ : Task).Modest :=
    ⟨Nat.zero_le _, fun _ => Nat.zero_le _, nofun, nofun⟩
  have asking : (⟨caller, .request, 1⟩ : Task).Modest :=
    ⟨Nat.le_succ _, fun _ => Nat.le_refl _, fun _ => Nat.le_refl _, nofun⟩
  cases caller with
  | apiRequest auth retryAuth => exact more asking t.activeRoom
  | bootstrapApiIdentity =>
    exact (more idle t.activeRoom).awaitFlight _ _ idle (Nat.zero_le _) (.inr (.inl rfl))
  | tryRefreshSession =>
    exact (more idle t.activeRoom).awaitFlight _ _ idle (Nat.zero_le _) (.inr (.inr rfl))
  | logoutAndCreateGuest =>
    simp only [Tab.call]
    split
    · exact (more idle t.activeRoom).createGuest _ idle
    · exact more asking t.activeRoom
  | abandonSessionAndCreateGuest => exact (more idle false).createGuest _ idle

theorem apply (modest : t.Modest) (event : Event T) : (t.apply event).Modest := by
  cases event with
  | call caller => exact modest.call caller
  | transmit flight =>
    simp only [Tab.apply, Tab.transmit]
    split <;> exact modest
  | flightAnswered flight reply =>
    simp only [Tab.apply, Tab.flightAnswered]
    split
    · cases reply with
      | ok new body => cases body <;> exact modest
      | refused error clears => exact modest
      | lost => exact modest
    · cases reply with
      | ok new body => cases body <;> exact modest
      | refused error clears => cases clears <;> exact modest
      | lost => exact modest
    · exact modest
    · exact modest
  | answered index reply =>
    simp only [Tab.apply]
    split
    · rename_i task there
      exact modest.answered index (modest task (List.mem_of_getElem? there)) reply
    · exact modest
  | resume index =>
    simp only [Tab.apply]
    split
    · rename_i there
      split
      · exact modest.resume index (modest _ (List.mem_of_getElem? there)) rfl _ _
      · exact modest
    · exact modest
  | guestIssued index guest =>
    simp only [Tab.apply]
    split
    · rename_i there
      have ended : Task.Modest ⟨_, .nothing, _⟩ :=
        (modest _ (List.mem_of_getElem? there)).ends (by nofun) (by nofun)
      have done := modest.setTask index ended
      cases guest <;> exact done
    · exact modest
  | signedIn token body => cases body <;> exact modest
  | cookieCleared => exact modest
  | settle flight =>
    simp only [Tab.apply, Tab.settle]
    split <;> exact modest
  | activeRoom there => exact modest

end Modest

/-- In every run there is one refresh of each kind at a time, a call sends its request twice at most
and once if it may not retry, and a token is sent to be refreshed again only after an answer, or the
lack of one, that left it in its place. -/
theorem one_refresh [DecidableEq T] {cookie guestRefresh : Option T} {activeRoom : Bool}
    (reach : Reach May apply (start cookie guestRefresh activeRoom) t) :
    (∀ (i j : Nat) (f g : Flight T), t.flights[i]? = some f → t.flights[j]? = some g →
      f.kind = g.kind → f.flying → g.flying → i = j) ∧
    (∀ task ∈ t.tasks, task.sends ≤ 2 ∧ (task.caller.retries = false → task.sends ≤ 1)) ∧
    ∀ kind token, t.presented.count (kind, token) ≤ t.kept.count (kind, token) + 1 := by
  have sound : t.Sound := reach.invariant (.start cookie guestRefresh activeRoom)
    fun _ _ sound may => sound.apply may
  have modest : t.Modest := reach.invariant (fun _ inside => by cases inside)
    fun _ event modest _ => modest.apply event
  exact ⟨fun i j f g at_i at_j => sound.alone at_i at_j, fun task inside => ⟨(modest task inside).twice,
    (modest task inside).plain⟩, sound.bounded⟩

/-- Two requests meet a token that has run out and wait for one refresh. Its answer is lost, so a third
request has the same token refreshed again. -/
def expires : List (Event Nat) :=
  [.call .bootstrapApiIdentity, .transmit 0, .flightAnswered 0 (.ok 2 (some ("a", "n"))), .settle 0,
    .resume 0, .call (.apiRequest true true), .call (.apiRequest true true),
    .answered 1 (.error (.api ⟨401, none⟩)), .answered 2 (.error (.api ⟨401, none⟩)), .transmit 1,
    .flightAnswered 1 .lost, .settle 1, .resume 1, .resume 2, .call (.apiRequest true true),
    .answered 3 (.error (.api ⟨401, none⟩)), .transmit 2]

theorem one_refresh_expires :
    (expires.foldl apply (start (some 1) none false)).presented =
      [(.account, 1), (.account, 2), (.account, 2)] ∧
    (expires.foldl apply (start (some 1) none false)).presented.count (.account, 2) ≤
      (expires.foldl apply (start (some 1) none false)).kept.count (.account, 2) + 1 :=
  ⟨by decide +kernel, (one_refresh (Reach.of_list (by decide +kernel))).2.2 .account 2⟩

end Tab
end SwitchRemake.Client.Api

import Mathlib.Data.List.Nodup
import Mathlib.Order.BooleanAlgebra.Set
import Mathlib.Logic.Relation

/-!
# One token among live parties

One party holds a token. Parties leave, and the token is passed to parties that are still live. It
is held as long as its holder stays.
-/

namespace SwitchRemake.Lib

structure Token (ι : Type) where
  live : Set ι
  holder : ι

namespace Token

variable {ι : Type}

def Held (t : Token ι) : Prop := t.holder ∈ t.live

def leave (t : Token ι) (who : ι) : Token ι := ⟨t.live \ {who}, t.holder⟩

def pass (t : Token ι) (next : ι) : Token ι := ⟨t.live, next⟩

@[simp] theorem pass_live (t : Token ι) (next : ι) : (t.pass next).live = t.live := rfl
@[simp] theorem pass_holder (t : Token ι) (next : ι) : (t.pass next).holder = next := rfl
@[simp] theorem leave_live (t : Token ι) (who : ι) : (t.leave who).live = t.live \ {who} := rfl
@[simp] theorem leave_holder (t : Token ι) (who : ι) : (t.leave who).holder = t.holder := rfl

inductive Step : Token ι → Token ι → Prop
  | pass (t : Token ι) (next : ι) (member : next ∈ t.live) : Step t (t.pass next)
  | retire (t : Token ι) (who : ι) (other : t.holder ≠ who) : Step t (t.leave who)

abbrev Steps : Token ι → Token ι → Prop := Relation.ReflTransGen Step

theorem Steps.live_subset {t u : Token ι} (steps : Steps t u) : u.live ⊆ t.live := by
  induction steps with
  | refl => exact subset_rfl
  | tail _ last ih =>
    cases last with
    | pass => exact ih
    | retire => exact Set.sdiff_subset.trans ih

theorem Steps.held {t u : Token ι} (steps : Steps t u) (held : t.Held) : u.Held := by
  induction steps with
  | refl => exact held
  | tail _ last ih =>
    cases last with
    | pass next member => exact member
    | retire who other => exact ⟨ih, other⟩

variable {α : Type}

/-- A list of parties with two flags each shows the token: the live ones are the parties whose
first flag is up, and the second flag is up at the holder alone. -/
structure Shows (id : α → ι) (live holds : α → Bool) (t : Token ι) (parties : List α) : Prop where
  distinct : (parties.map id).Nodup
  live_iff : ∀ i, i ∈ t.live ↔ ∃ p ∈ parties, id p = i ∧ live p = true
  holds_iff : ∀ p ∈ parties, holds p = true ↔ id p = t.holder

section Shows

variable {id : α → ι} {live holds : α → Bool} {t : Token ι} {parties : List α}

theorem Shows.holder (shows : Shows id live holds t parties) (held : t.Held) :
    ∃ p ∈ parties, id p = t.holder ∧ live p = true ∧ holds p = true := by
  obtain ⟨p, member, same, alive⟩ := (shows.live_iff t.holder).mp held
  exact ⟨p, member, same, alive, (shows.holds_iff p member).mpr same⟩

theorem Shows.eq_of_id (shows : Shows id live holds t parties) {p q : α} (hp : p ∈ parties)
    (hq : q ∈ parties) (same : id p = id q) : p = q :=
  List.inj_on_of_nodup_map shows.distinct hp hq same

theorem Shows.live_of_mem (shows : Shows id live holds t parties) {p : α} (member : p ∈ parties) :
    live p = true ↔ id p ∈ t.live := by
  rw [shows.live_iff]
  constructor
  · exact fun alive => ⟨p, member, rfl, alive⟩
  · rintro ⟨q, other, same, alive⟩
    exact shows.eq_of_id other member same ▸ alive

/-- Exactly one party has its flag up, and it is live. -/
theorem Shows.existsUnique (shows : Shows id live holds t parties) (held : t.Held) :
    ∃ p ∈ parties, live p = true ∧ ∀ q ∈ parties, holds q = true ↔ q = p := by
  obtain ⟨p, member, same, alive, _⟩ := shows.holder held
  refine ⟨p, member, alive, fun q other => ?_⟩
  rw [shows.holds_iff q other, ← same]
  exact ⟨shows.eq_of_id other member, congrArg id⟩

/-- The rule for an update: it keeps every name, and its flags are those of the new token. -/
theorem Shows.map (shows : Shows id live holds t parties) {f : α → α} {u : Token ι}
    (names : ∀ p ∈ parties, id (f p) = id p)
    (lives : ∀ p ∈ parties, live (f p) = true ↔ id p ∈ u.live)
    (known : u.live ⊆ t.live)
    (flags : ∀ p ∈ parties, holds (f p) = true ↔ id p = u.holder) :
    Shows id live holds u (parties.map f) := by
  refine ⟨?_, fun i => ?_, ?_⟩
  · rw [List.map_map, List.map_congr_left (f := id ∘ f) (g := id) names]
    exact shows.distinct
  · constructor
    · intro alive
      obtain ⟨p, member, same, _⟩ := (shows.live_iff i).mp (known alive)
      refine ⟨f p, List.mem_map_of_mem member, (names p member).trans same, ?_⟩
      exact (lives p member).mpr (same ▸ alive)
    · rintro ⟨q, image, same, alive⟩
      obtain ⟨p, member, rfl⟩ := List.mem_map.mp image
      rw [names p member] at same
      exact same ▸ (lives p member).mp alive
  · intro q image
    obtain ⟨p, member, rfl⟩ := List.mem_map.mp image
    rw [flags p member, names p member]

/-- The rule for everything that leaves names and flags alone. -/
theorem Shows.congr (shows : Shows id live holds t parties) {others : List α}
    (same : others.map (fun p => (id p, live p, holds p)) =
      parties.map (fun p => (id p, live p, holds p))) :
    Shows id live holds t others := by
  have match_left (q : α) (member : q ∈ others) :
      ∃ p ∈ parties, id p = id q ∧ live p = live q ∧ holds p = holds q := by
    have image := List.mem_map_of_mem (f := fun p => (id p, live p, holds p)) member
    rw [same] at image
    obtain ⟨p, member, equal⟩ := List.mem_map.mp image
    simp only [Prod.mk.injEq] at equal
    exact ⟨p, member, equal⟩
  have match_right (p : α) (member : p ∈ parties) :
      ∃ q ∈ others, id q = id p ∧ live q = live p := by
    have image := List.mem_map_of_mem (f := fun p => (id p, live p, holds p)) member
    rw [← same] at image
    obtain ⟨q, member, equal⟩ := List.mem_map.mp image
    simp only [Prod.mk.injEq] at equal
    exact ⟨q, member, equal.1, equal.2.1⟩
  refine ⟨?_, fun i => ?_, ?_⟩
  · have names := congrArg (List.map Prod.fst) same
    simp only [List.map_map] at names
    exact names ▸ shows.distinct
  · rw [shows.live_iff]
    constructor
    · rintro ⟨p, member, rfl, alive⟩
      obtain ⟨q, other, name, flag⟩ := match_right p member
      exact ⟨q, other, name, flag.trans alive⟩
    · rintro ⟨q, member, rfl, alive⟩
      obtain ⟨p, other, name, flag, _⟩ := match_left q member
      exact ⟨p, other, name, flag.trans alive⟩
  · intro q member
    obtain ⟨p, other, name, _, flag⟩ := match_left q member
    rw [← flag, ← name]
    exact shows.holds_iff p other

end Shows
end Token
end SwitchRemake.Lib

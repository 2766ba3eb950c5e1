import SwitchRemake.Rooms.LobbyState
import SwitchRemake.Config
import Mathlib.Data.Int.Interval
import Mathlib.Algebra.Order.BigOperators.Group.List

/-!
# What joins can lock

The calls of one start lock under a clock that does not go back.
-/

namespace SwitchRemake.Rooms

/-- The numbers a room is built with. -/
structure LockOptions where
  joinLockMs : Nat
  joinBudgetMs : Nat
  joinBudgetWindowMs : Nat
  mapLockMs : Nat

def StartLock.new (o : LockOptions) : StartLock where
  joinLockMs := o.joinLockMs
  joinBudgetMs := o.joinBudgetMs
  joinBudgetWindowMs := o.joinBudgetWindowMs
  mapLockMs := o.mapLockMs
  joinGrants := []
  unlocksAt := 0

/-- What `applyJoin` returns. -/
def StartLock.joinGrant (l : StartLock) (now : Int) : Int :=
  min l.joinLockMs (max 0 (l.joinBudgetMs - ((l.prune now).joinGrants.map LockGrant.durationMs).sum))

theorem StartLock.applyJoin_eq (l : StartLock) (now : Int) : l.applyJoin now =
    if 0 < l.joinGrant now then
      { l.prune now with
        joinGrants := (l.prune now).joinGrants ++ [⟨now, l.joinGrant now⟩]
        unlocksAt := max l.unlocksAt (now + l.joinGrant now) }
    else l.prune now := rfl

inductive LockCall where
  | applyJoin
  | applyMapChange
  | remainingMs
deriving DecidableEq

/-- A lock, and what its joins were granted. -/
structure LockRun where
  lock : StartLock
  returned : List LockGrant

namespace LockRun

def call (s : LockRun) (c : Int × LockCall) : LockRun :=
  match c.2 with
  | .applyJoin => ⟨s.lock.applyJoin c.1, s.returned ++ [⟨c.1, s.lock.joinGrant c.1⟩]⟩
  | .applyMapChange => { s with lock := s.lock.applyMapChange c.1 }
  | .remainingMs => s

def after (o : LockOptions) (calls : List (Int × LockCall)) : LockRun :=
  calls.foldl call ⟨.new o, []⟩

end LockRun

def inWindow (from_ length : Int) (grants : List LockGrant) : List LockGrant :=
  grants.filter fun g => from_ ≤ g.at_ ∧ g.at_ < from_ + length

def totalMs (grants : List LockGrant) : Int := (grants.map LockGrant.durationMs).sum

/-! ## The budget of a window -/

theorem totalMs_append (xs ys : List LockGrant) : totalMs (xs ++ ys) = totalMs xs + totalMs ys := by
  rw [totalMs, List.map_append, List.sum_append]
  rfl

theorem totalMs_filter_le {grants : List LockGrant} (nonneg : ∀ g ∈ grants, 0 ≤ g.durationMs)
    (keep : LockGrant → Bool) : totalMs (grants.filter keep) ≤ totalMs grants := by
  induction grants with
  | nil => rfl
  | cons g rest ih =>
    have tail := ih fun g mem => nonneg g (List.mem_cons_of_mem _ mem)
    have head := nonneg g List.mem_cons_self
    simp only [totalMs, List.filter_cons, List.map_cons, List.sum_cons] at *
    split
    · simpa using tail
    · omega

theorem totalMs_nonneg (grants : List LockGrant) (nonneg : ∀ g ∈ grants, 0 ≤ g.durationMs) :
    0 ≤ totalMs grants := by
  have none_ := totalMs_filter_le nonneg fun _ => false
  simpa [totalMs] using none_

/-- What the lock remembers, against all that was granted until `now`. -/
structure Budgeted (o : LockOptions) (now : Int) (s : LockRun) : Prop where
  joinLockMs : s.lock.joinLockMs = o.joinLockMs
  joinBudgetMs : s.lock.joinBudgetMs = o.joinBudgetMs
  joinBudgetWindowMs : s.lock.joinBudgetWindowMs = o.joinBudgetWindowMs
  nonneg : ∀ g ∈ s.returned, 0 ≤ g.durationMs
  small : ∀ g ∈ s.returned, g.durationMs ≤ o.joinLockMs
  /-- Only empty grants and grants too old to count are forgotten. -/
  kept : ∀ from_, now < from_ + o.joinBudgetWindowMs →
    totalMs (inWindow from_ o.joinBudgetWindowMs s.returned) ≤
      totalMs (inWindow from_ o.joinBudgetWindowMs s.lock.joinGrants)
  grants : ∀ g ∈ s.lock.joinGrants, 0 ≤ g.durationMs
  used : totalMs s.lock.joinGrants ≤ o.joinBudgetMs
  windows : ∀ from_, totalMs (inWindow from_ o.joinBudgetWindowMs s.returned) ≤ o.joinBudgetMs

variable {o : LockOptions} {s : LockRun} {now later : Int}

theorem filter_dropWhile {α : Type} {drop keep : α → Bool} (apart : ∀ x, drop x = true → keep x = false)
    (xs : List α) : (xs.dropWhile drop).filter keep = xs.filter keep := by
  induction xs with
  | nil => rfl
  | cons x rest ih =>
    rw [List.dropWhile_cons]
    split
    · rename_i dropped
      rw [ih, List.filter_cons_of_neg (by simp [apart x dropped])]
    · rfl

theorem inWindow_append (from_ length : Int) (xs ys : List LockGrant) :
    inWindow from_ length (xs ++ ys) = inWindow from_ length xs ++ inWindow from_ length ys :=
  List.filter_append _ _

namespace Budgeted

theorem new (o : LockOptions) (now : Int) : Budgeted o now ⟨.new o, []⟩ where
  joinLockMs := rfl
  joinBudgetMs := rfl
  joinBudgetWindowMs := rfl
  nonneg := by simp
  small := by simp
  kept _ _ := le_rfl
  grants := by simp [StartLock.new]
  used := by simp [StartLock.new, totalMs]
  windows from_ := by simp [inWindow, totalMs]

theorem wait (budgeted : Budgeted o now s) (passes : now ≤ later) : Budgeted o later s :=
  { budgeted with
    kept := fun from_ inside => budgeted.kept from_ (passes.trans_lt inside) }

/-- What is left after the grants that are too old are forgotten. -/
theorem prune (budgeted : Budgeted o now s) : Budgeted o now { s with lock := s.lock.prune now } where
  joinLockMs := budgeted.joinLockMs
  joinBudgetMs := budgeted.joinBudgetMs
  joinBudgetWindowMs := budgeted.joinBudgetWindowMs
  nonneg := budgeted.nonneg
  small := budgeted.small
  kept from_ inside := by
    have same : inWindow from_ o.joinBudgetWindowMs (s.lock.prune now).joinGrants =
        inWindow from_ o.joinBudgetWindowMs s.lock.joinGrants := by
      refine filter_dropWhile (fun g old => ?_) _
      have old : s.lock.joinBudgetWindowMs ≤ now - g.at_ := of_decide_eq_true old
      rw [budgeted.joinBudgetWindowMs] at old
      rw [decide_eq_false_iff_not]
      omega
    rw [same]
    exact budgeted.kept from_ inside
  grants g mem := budgeted.grants g ((List.dropWhile_sublist _).subset mem)
  used := by
    have split_ : totalMs s.lock.joinGrants =
        totalMs (s.lock.joinGrants.takeWhile fun g => s.lock.joinBudgetWindowMs ≤ now - g.at_) +
          totalMs (s.lock.prune now).joinGrants := by
      rw [← totalMs_append]
      exact congrArg totalMs List.takeWhile_append_dropWhile.symm
    have gone := totalMs_nonneg
      (s.lock.joinGrants.takeWhile fun g => s.lock.joinBudgetWindowMs ≤ now - g.at_)
      fun g mem => budgeted.grants g ((List.takeWhile_sublist _).subset mem)
    have used := budgeted.used
    dsimp only
    omega
  windows := budgeted.windows

theorem joinGrant_bounds (budgeted : Budgeted o now s) : 0 ≤ s.lock.joinGrant now ∧
    s.lock.joinGrant now ≤ o.joinLockMs ∧
    totalMs (s.lock.prune now).joinGrants + s.lock.joinGrant now ≤ o.joinBudgetMs := by
  have used := budgeted.prune.used
  have lock := budgeted.joinLockMs
  have budget := budgeted.joinBudgetMs
  simp only [totalMs, StartLock.joinGrant] at *
  omega

/-- The grant of a join is written down and returned. -/
theorem record (budgeted : Budgeted o now s) {grant : Int} (nonneg : 0 ≤ grant)
    (small : grant ≤ o.joinLockMs) (fits : totalMs s.lock.joinGrants + grant ≤ o.joinBudgetMs)
    (unlocksAt : Int) :
    Budgeted o now ⟨{ s.lock with
      joinGrants := s.lock.joinGrants ++ [⟨now, grant⟩], unlocksAt }, s.returned ++ [⟨now, grant⟩]⟩ := by
  have own : ∀ g ∈ [(⟨now, grant⟩ : LockGrant)], 0 ≤ g.durationMs := by simpa using nonneg
  have total : totalMs (s.lock.joinGrants ++ [⟨now, grant⟩]) ≤ o.joinBudgetMs := by
    rw [totalMs_append]
    simpa [totalMs] using fits
  have all : ∀ g ∈ s.lock.joinGrants ++ [⟨now, grant⟩], 0 ≤ g.durationMs := fun g mem =>
    (List.mem_append.mp mem).elim (budgeted.grants g) (own g)
  have kept : ∀ from_, now < from_ + o.joinBudgetWindowMs →
      totalMs (inWindow from_ o.joinBudgetWindowMs (s.returned ++ [⟨now, grant⟩])) ≤
        totalMs (inWindow from_ o.joinBudgetWindowMs (s.lock.joinGrants ++ [⟨now, grant⟩])) := by
    intro from_ inside
    rw [inWindow_append, inWindow_append, totalMs_append, totalMs_append]
    exact Int.add_le_add_right (budgeted.kept from_ inside) _
  exact {
    joinLockMs := budgeted.joinLockMs
    joinBudgetMs := budgeted.joinBudgetMs
    joinBudgetWindowMs := budgeted.joinBudgetWindowMs
    nonneg := fun g mem => (List.mem_append.mp mem).elim (budgeted.nonneg g) (own g)
    small := fun g mem => (List.mem_append.mp mem).elim (budgeted.small g) fun here => by
      rwa [List.mem_singleton.mp here]
    kept := kept
    grants := all
    used := total
    windows := fun from_ => by
      rcases lt_or_ge now (from_ + o.joinBudgetWindowMs) with inside | beyond
      · exact ((kept from_ inside).trans (totalMs_filter_le all _)).trans total
      · have outside : inWindow from_ o.joinBudgetWindowMs [⟨now, grant⟩] = [] := by
          simp [inWindow, beyond]
        rw [inWindow_append, outside, List.append_nil]
        exact budgeted.windows from_ }

theorem join (budgeted : Budgeted o now s) : Budgeted o now (s.call (now, .applyJoin)) := by
  obtain ⟨nonneg, small, fits⟩ := budgeted.joinGrant_bounds
  rw [LockRun.call]
  dsimp only
  rw [StartLock.applyJoin_eq]
  split
  · exact budgeted.prune.record nonneg small fits _
  · -- An empty grant is returned, but not remembered.
    have zero : s.lock.joinGrant now = 0 := by omega
    have pruned := budgeted.prune
    rw [zero]
    have same (from_ : Int) : totalMs (inWindow from_ o.joinBudgetWindowMs (s.returned ++ [⟨now, 0⟩])) =
        totalMs (inWindow from_ o.joinBudgetWindowMs s.returned) := by
      have empty : totalMs (inWindow from_ o.joinBudgetWindowMs [⟨now, 0⟩]) = 0 := by
        rw [inWindow, List.filter_cons]
        split <;> rfl
      rw [inWindow_append, totalMs_append, empty, Int.add_zero]
    exact {
      joinLockMs := budgeted.joinLockMs
      joinBudgetMs := budgeted.joinBudgetMs
      joinBudgetWindowMs := budgeted.joinBudgetWindowMs
      nonneg := fun g mem => (List.mem_append.mp mem).elim (budgeted.nonneg g) fun here => by
        rw [List.mem_singleton.mp here]
      small := fun g mem => (List.mem_append.mp mem).elim (budgeted.small g) fun here => by
        rw [List.mem_singleton.mp here]
        exact Int.natCast_nonneg _
      kept := fun from_ inside => (same from_).trans_le (pruned.kept from_ inside)
      grants := pruned.grants
      used := pruned.used
      windows := fun from_ => (same from_).trans_le (budgeted.windows from_) }

theorem call (budgeted : Budgeted o now s) {c : Int × LockCall} (passes : now ≤ c.1) :
    Budgeted o c.1 (s.call c) := by
  have waited := budgeted.wait passes
  obtain ⟨at_, kind⟩ := c
  cases kind with
  | applyJoin => exact waited.join
  | applyMapChange =>
    exact ⟨waited.joinLockMs, waited.joinBudgetMs, waited.joinBudgetWindowMs, waited.nonneg,
      waited.small, waited.kept, waited.grants, waited.used, waited.windows⟩
  | remainingMs => exact waited

end Budgeted

theorem after_budgeted (o : LockOptions) {calls : List (Int × LockCall)}
    (ordered : calls.Pairwise fun c d => c.1 ≤ d.1) : ∃ now, Budgeted o now (.after o calls) := by
  have follows (s : LockRun) (now : Int) (budgeted : Budgeted o now s)
      (first : ∀ c ∈ calls, now ≤ c.1) : ∃ now, Budgeted o now (calls.foldl LockRun.call s) := by
    induction calls generalizing s now with
    | nil => exact ⟨now, budgeted⟩
    | cons c rest ih =>
      obtain ⟨later, ordered⟩ := List.pairwise_cons.mp ordered
      exact ih ordered (s.call c) c.1 (budgeted.call (first c List.mem_cons_self)) later
  cases calls with
  | nil => exact ⟨0, .new o 0⟩
  | cons c rest =>
    refine follows _ c.1 (.new o c.1) fun d mem => ?_
    rcases List.mem_cons.mp mem with rfl | later
    · exact le_rfl
    · exact (List.pairwise_cons.mp ordered).1 d later

/-! ## How long the lock is closed -/

/-- The calls that have been made when the clock shows `t`. -/
def until_ (calls : List (Int × LockCall)) (t : Int) : List (Int × LockCall) :=
  calls.filter fun c => c.1 ≤ t

/-- A start at `t` finds the lock closed. -/
def closedAt (o : LockOptions) (calls : List (Int × LockCall)) (t : Int) : Prop :=
  0 < (LockRun.after o (until_ calls t)).lock.remainingMs t

instance (o : LockOptions) (calls : List (Int × LockCall)) : DecidablePred (closedAt o calls) :=
  fun _ => inferInstanceAs (Decidable (_ < _))

def LockGrant.Covers (t : Int) (g : LockGrant) : Prop := g.at_ ≤ t ∧ t < g.at_ + g.durationMs

instance (t : Int) : DecidablePred (LockGrant.Covers t) :=
  fun _ => inferInstanceAs (Decidable (_ ∧ _))

theorem until_prefix {calls : List (Int × LockCall)} (ordered : calls.Pairwise fun c d => c.1 ≤ d.1)
    (t : Int) : until_ calls t <+: calls := by
  induction calls with
  | nil => exact List.prefix_rfl
  | cons c rest ih =>
    obtain ⟨later, ordered⟩ := List.pairwise_cons.mp ordered
    rw [until_, List.filter_cons]
    split
    · exact (List.prefix_cons_inj c).mpr (ih ordered)
    · rename_i beyond
      have none_ : rest.filter (fun c => c.1 ≤ t) = [] := by
        rw [List.filter_eq_nil_iff]
        intro d mem
        have after := later d mem
        simp only [decide_eq_true_eq] at beyond ⊢
        omega
      rw [none_]
      exact List.nil_prefix

theorem returned_grows (s : LockRun) (calls : List (Int × LockCall)) :
    s.returned <+: (calls.foldl LockRun.call s).returned := by
  induction calls generalizing s with
  | nil => exact List.prefix_rfl
  | cons c rest ih =>
    refine List.IsPrefix.trans ?_ (ih (s.call c))
    obtain ⟨at_, kind⟩ := c
    cases kind with
    | applyJoin => exact List.prefix_append _ _
    | applyMapChange | remainingMs => exact List.prefix_rfl

/-- The lock stands until the epoch or until the end of a grant. -/
theorem unlocksAt_cases (s : LockRun) (calls : List (Int × LockCall))
    (noMaps : ∀ c ∈ calls, c.2 ≠ .applyMapChange) :
    (calls.foldl LockRun.call s).lock.unlocksAt = s.lock.unlocksAt ∨
      ∃ g ∈ (calls.foldl LockRun.call s).returned, (∃ c ∈ calls, c.1 = g.at_) ∧
        (calls.foldl LockRun.call s).lock.unlocksAt = g.at_ + g.durationMs := by
  induction calls generalizing s with
  | nil => exact .inl rfl
  | cons c rest ih =>
    rcases ih (s.call c) fun d mem => noMaps d (List.mem_cons_of_mem _ mem) with
      kept | ⟨g, mem, ⟨d, made, at_⟩, stands⟩
    · rw [List.foldl_cons, kept]
      obtain ⟨now, kind⟩ := c
      cases kind with
      | applyMapChange => exact absurd rfl (noMaps _ List.mem_cons_self)
      | remainingMs => exact .inl rfl
      | applyJoin =>
        rw [LockRun.call]
        dsimp only
        rw [StartLock.applyJoin_eq]
        split
        · rcases max_choice s.lock.unlocksAt (now + s.lock.joinGrant now) with old | new
          · exact .inl old
          · refine .inr ⟨⟨now, s.lock.joinGrant now⟩, ?_, ⟨_, List.mem_cons_self, rfl⟩, new⟩
            exact (returned_grows _ rest).subset (List.mem_append_right _ (List.mem_singleton.mpr rfl))
        · exact .inl rfl
    · exact .inr ⟨g, mem, ⟨d, List.mem_cons_of_mem _ made, at_⟩, stands⟩

theorem covered_of_closed {calls : List (Int × LockCall)}
    (ordered : calls.Pairwise fun c d => c.1 ≤ d.1) (noMaps : ∀ c ∈ calls, c.2 ≠ .applyMapChange)
    {t : Int} (epoch : 0 ≤ t) (closed : closedAt o calls t) :
    ∃ g ∈ (LockRun.after o calls).returned, g.Covers t := by
  have stands : t < (LockRun.after o (until_ calls t)).lock.unlocksAt := by
    simp only [closedAt, StartLock.remainingMs] at closed
    omega
  obtain ⟨rest, whole⟩ := until_prefix ordered t
  rcases unlocksAt_cases ⟨.new o, []⟩ (until_ calls t)
    fun c mem => noMaps c (List.mem_of_mem_filter mem) with fresh | ⟨g, mem, ⟨c, made, at_⟩, ends⟩
  · have zero : (LockRun.after o (until_ calls t)).lock.unlocksAt = 0 := fresh
    omega
  · refine ⟨g, ?_, ?_, ?_⟩
    · rw [LockRun.after, ← whole, List.foldl_append]
      exact (returned_grows _ rest).subset mem
    · have early : c.1 ≤ t := of_decide_eq_true (List.mem_filter.mp made).2
      omega
    · exact stands.trans_eq ends

theorem card_covered_le (grants : List LockGrant) (nonneg : ∀ g ∈ grants, 0 ≤ g.durationMs)
    (times : Finset Int) :
    ((times.filter fun t => ∃ g ∈ grants, g.Covers t).card : Int) ≤ totalMs grants := by
  induction grants with
  | nil => simp [totalMs]
  | cons g rest ih =>
    have own := nonneg g List.mem_cons_self
    have tail := ih fun g mem => nonneg g (List.mem_cons_of_mem _ mem)
    have covered : (times.filter fun t => ∃ h ∈ g :: rest, h.Covers t) ⊆
        Finset.Ico g.at_ (g.at_ + g.durationMs) ∪
          times.filter fun t => ∃ h ∈ rest, h.Covers t := by
      intro t mem
      obtain ⟨inside, h, there, covers⟩ := Finset.mem_filter.mp mem
      rw [Finset.mem_union, Finset.mem_Ico, Finset.mem_filter]
      rcases List.mem_cons.mp there with rfl | later
      · exact .inl covers
      · exact .inr ⟨inside, h, later, covers⟩
    have bound := (Finset.card_le_card covered).trans (Finset.card_union_le _ _)
    rw [Int.card_Ico] at bound
    simp only [totalMs, List.map_cons, List.sum_cons] at tail ⊢
    omega

/-- Grants of before the window reach into it for one grant at most. -/
theorem closed_le {calls : List (Int × LockCall)} (ordered : calls.Pairwise fun c d => c.1 ≤ d.1)
    (noMaps : ∀ c ∈ calls, c.2 ≠ .applyMapChange) {from_ : Int} (epoch : 0 ≤ from_) :
    (((Finset.Ico from_ (from_ + o.joinBudgetWindowMs)).filter (closedAt o calls)).card : Int) ≤
      o.joinBudgetMs + o.joinLockMs := by
  obtain ⟨now, budgeted⟩ := after_budgeted o ordered
  have covered : (Finset.Ico from_ (from_ + o.joinBudgetWindowMs)).filter (closedAt o calls) ⊆
      Finset.Ico from_ (from_ + o.joinLockMs) ∪
        (Finset.Ico from_ (from_ + o.joinBudgetWindowMs)).filter fun t =>
          ∃ g ∈ inWindow from_ o.joinBudgetWindowMs (LockRun.after o calls).returned,
            g.Covers t := by
    intro t mem
    obtain ⟨inside, closed⟩ := Finset.mem_filter.mp mem
    obtain ⟨low, high⟩ := Finset.mem_Ico.mp inside
    obtain ⟨g, there, covers⟩ := covered_of_closed ordered noMaps (epoch.trans low) closed
    have small := budgeted.small g there
    rw [Finset.mem_union, Finset.mem_Ico, Finset.mem_filter]
    rcases lt_or_ge g.at_ from_ with before | within
    · exact .inl ⟨low, by have ends := covers.2; omega⟩
    · refine .inr ⟨inside, g, List.mem_filter.mpr ⟨there, ?_⟩, covers⟩
      have begins := covers.1
      rw [decide_eq_true_eq]
      omega
  have bound := (Finset.card_le_card covered).trans (Finset.card_union_le _ _)
  rw [Int.card_Ico] at bound
  have spent := card_covered_le (inWindow from_ o.joinBudgetWindowMs
    (LockRun.after o calls).returned) (fun g mem => budgeted.nonneg g (List.mem_of_mem_filter mem))
    (Finset.Ico from_ (from_ + o.joinBudgetWindowMs))
  have window := budgeted.windows from_
  omega

theorem unlocksAt_le_applyJoin (l : StartLock) (now : Int) :
    l.unlocksAt ≤ (l.applyJoin now).unlocksAt := by
  rw [StartLock.applyJoin_eq]
  split
  · exact le_max_left _ _
  · exact le_rfl

/-- The joins of every window share one budget, so that they leave the lock open for some of it. -/
theorem joins_within_budget (o : LockOptions) {calls : List (Int × LockCall)}
    (ordered : calls.Pairwise fun c d => c.1 ≤ d.1) :
    (∀ from_, totalMs (inWindow from_ o.joinBudgetWindowMs (LockRun.after o calls).returned) ≤
      o.joinBudgetMs) ∧
    (∀ g ∈ (LockRun.after o calls).returned, g.durationMs ≤ o.joinLockMs) ∧
    ((∀ c ∈ calls, c.2 ≠ .applyMapChange) → ∀ from_ : Int, 0 ≤ from_ →
      (((Finset.Ico from_ (from_ + o.joinBudgetWindowMs)).filter (closedAt o calls)).card : Int) ≤
        o.joinBudgetMs + o.joinLockMs ∧
      (o.joinBudgetMs + o.joinLockMs < o.joinBudgetWindowMs →
        ∃ t, from_ ≤ t ∧ t < from_ + o.joinBudgetWindowMs ∧ ¬ closedAt o calls t)) ∧
    ∀ now t, (LockRun.after o calls).lock.remainingMs t ≤
      ((LockRun.after o calls).lock.applyJoin now).remainingMs t := by
  obtain ⟨now, budgeted⟩ := after_budgeted o ordered
  refine ⟨budgeted.windows, budgeted.small, fun noMaps from_ epoch => ?_, fun now t => ?_⟩
  · have few := closed_le (o := o) ordered noMaps epoch
    refine ⟨few, fun room => ?_⟩
    by_contra never
    push Not at never
    have all : (Finset.Ico from_ (from_ + o.joinBudgetWindowMs)).filter (closedAt o calls) =
        Finset.Ico from_ (from_ + o.joinBudgetWindowMs) :=
      Finset.filter_true_of_mem fun t mem =>
        never t (Finset.mem_Ico.mp mem).1 (Finset.mem_Ico.mp mem).2
    rw [all, Int.card_Ico] at few
    omega
  · have grows := unlocksAt_le_applyJoin (LockRun.after o calls).lock now
    simp only [StartLock.remainingMs]
    omega

/-- The numbers of `NETWORK`. -/
def networkLock : LockOptions where
  joinLockMs := Network.startLockOnJoinMs
  joinBudgetMs := Network.startLockJoinBudgetMs
  joinBudgetWindowMs := Network.startLockJoinBudgetWindowMs
  mapLockMs := Network.startLockOnMapChangeMs

theorem four_joins_within_budget :
    let calls := [(0, .applyJoin), (1, .applyJoin), (2, .applyJoin), (3, .applyJoin)]
    totalMs (inWindow 0 networkLock.joinBudgetWindowMs
      (LockRun.after networkLock calls).returned) ≤ networkLock.joinBudgetMs ∧
    ∃ t, 0 ≤ t ∧ t < 60000 ∧ ¬ closedAt networkLock calls t := by
  intro calls
  have ordered : calls.Pairwise fun c d => c.1 ≤ d.1 := by decide
  have laws := joins_within_budget networkLock ordered
  exact ⟨laws.1 0, ((laws.2.2.1 (by decide)) 0 le_rfl).2 (by decide)⟩

end SwitchRemake.Rooms

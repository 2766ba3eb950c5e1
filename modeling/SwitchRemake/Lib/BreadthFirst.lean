import Mathlib.Data.List.Count

/-!
# Breadth-first search that remembers the nearest node

A search over a graph that keeps the node nearest to its goal and ends early on the goal itself. Each
found node is entered once with the node it was found from, so the way back to the start can be read
off the entries.
-/

namespace SwitchRemake.Lib

/-- The nodes still to visit, and for each found node the one it was found from, newest first. -/
structure Search (α : Type) where
  queue : List α
  previous : List (α × Option α)
  best : α
  bestDistance : Nat

namespace Search
variable {α : Type} [DecidableEq α] {neighbours : α → List α} {far : α → Nat} {s : Search α}

omit [DecidableEq α] in
def start (far : α → Nat) (node : α) : Search α := ⟨[node], [(node, none)], node, far node⟩

def found (s : Search α) (node : α) : Bool := (s.previous.lookup node).isSome

def discover (current : α) (s : Search α) (next : α) : Search α :=
  if s.found next then s
  else { s with queue := s.queue ++ [next], previous := (next, some current) :: s.previous }

omit [DecidableEq α] in
def visit (far : α → Nat) (current : α) (s : Search α) : Search α :=
  if far current < s.bestDistance then { s with best := current, bestDistance := far current } else s

/-- Each turn takes one node off the queue; the goal ends the search. -/
def run (neighbours : α → List α) (far : α → Nat) : Nat → Search α → Search α
  | 0, s => s
  | fuel + 1, s =>
    match s.queue with
    | [] => s
    | current :: rest =>
      let s := visit far current { s with queue := rest }
      if far current = 0 then { s with best := current }
      else run neighbours far fuel ((neighbours current).foldl (discover current) s)

/-- The entries from the start to `node`, in front of `route`. -/
def traceBack (previous : List (α × Option α)) : Nat → α → List α → List α
  | 0, node, route => node :: route
  | fuel + 1, node, route =>
    match (previous.lookup node).join with
    | none => node :: route
    | some before => traceBack previous fuel before (node :: route)

omit [DecidableEq α] in
theorem visit_previous (far : α → Nat) (current : α) (s : Search α) :
    (visit far current s).previous = s.previous ∧ (visit far current s).queue = s.queue := by
  unfold visit
  split
  · exact ⟨rfl, rfl⟩
  · exact ⟨rfl, rfl⟩

theorem traceBack_ne_nil (previous : List (α × Option α)) (fuel : Nat) (node : α) (route : List α) :
    traceBack previous fuel node route ≠ [] := by
  induction fuel generalizing node route with
  | zero => simp [traceBack]
  | succ fuel ih =>
    rw [traceBack]
    split
    · simp
    · exact ih _ _

/-! ## A search of a finite graph ends -/

omit [DecidableEq α] in
theorem countP_lt {p q : α → Bool} {nodes : List α} {node : α} (inside : node ∈ nodes)
    (weaker : ∀ node, p node → q node) (gained : q node) (lost : ¬ p node) :
    nodes.countP p < nodes.countP q := by
  induction nodes with
  | nil => simp at inside
  | cons first rest ih =>
    have smaller := List.countP_mono_left (l := rest) fun node _ => weaker node
    by_cases here : first = node
    · subst here
      simp only [List.countP_cons, gained, lost]
      simp only [if_true, Bool.false_eq_true, if_false]
      omega
    · have fewer := ih ((List.mem_cons.mp inside).resolve_left (Ne.symm here))
      simp only [List.countP_cons]
      by_cases kept : p first
      · simp [kept, weaker first kept, fewer]
      · simp only [kept]
        simp only [Bool.false_eq_true, if_false]
        omega

/-- The nodes not found yet. -/
def unfound (s : Search α) (nodes : List α) : Nat := nodes.countP fun node => !s.found node

theorem found_cons {node other : α} {source : Option α} {entries : List (α × Option α)} :
    (List.lookup node ((other, source) :: entries)).isSome =
      (decide (node = other) || (entries.lookup node).isSome) := by
  rw [List.lookup_cons]
  by_cases same : node = other
  · simp [same]
  · simp [same, beq_eq_false_iff_ne.mpr same]

theorem discover_turns {nodes : List α} (current : α) {next : α} (inside : next ∈ nodes)
    (s : Search α) :
    (discover current s next).queue.length + (discover current s next).unfound nodes ≤
      s.queue.length + s.unfound nodes := by
  unfold discover
  split
  · exact Nat.le_refl _
  · rename_i unknown
    have fewer : (nodes.countP fun node =>
        !(List.lookup node ((next, some current) :: s.previous)).isSome) <
        nodes.countP fun node => !s.found node := by
      apply countP_lt inside
      · intro node missed
        rw [found_cons] at missed
        simp only [Bool.not_or, Bool.and_eq_true] at missed
        exact missed.2
      · simp [unknown]
      · simp
    simp only [unfound, found, List.length_append, List.length_singleton] at fewer ⊢
    omega

theorem discoverAll_turns {nodes nexts : List α} (current : α)
    (inside : ∀ next ∈ nexts, next ∈ nodes) (s : Search α) :
    (nexts.foldl (discover current) s).queue.length +
      (nexts.foldl (discover current) s).unfound nodes ≤ s.queue.length + s.unfound nodes := by
  induction nexts generalizing s with
  | nil => exact Nat.le_refl _
  | cons next rest ih =>
    have first := discover_turns current (inside next List.mem_cons_self) s
    have others := ih (fun n member => inside n (List.mem_cons_of_mem next member))
    exact Nat.le_trans (others _) first

/-- More turns than nodes to visit and to find change nothing. -/
theorem run_fuel {nodes : List α} (inside : ∀ node, ∀ next ∈ neighbours node, next ∈ nodes)
    {fuel : Nat} {s : Search α} (enough : s.queue.length + s.unfound nodes ≤ fuel) (more : Nat) :
    run neighbours far (fuel + more) s = run neighbours far fuel s := by
  induction fuel generalizing s with
  | zero =>
    have empty : s.queue = [] := List.length_eq_zero_iff.mp (by omega)
    cases more with
    | zero => rfl
    | succ more => simp [run, empty]
  | succ fuel ih =>
    rw [Nat.add_right_comm, run, run]
    split
    · rfl
    · rename_i current rest queued
      obtain ⟨entries, queue⟩ := visit_previous far current { s with queue := rest }
      dsimp only
      split
      · rfl
      · apply ih
        have turns := discoverAll_turns current (inside current)
          (visit far current { s with queue := rest })
        simp only [unfound, found, entries, queue] at turns
        simp only [unfound, found, queued, List.length_cons] at enough turns ⊢
        omega

theorem start_turns {nodes : List α} {node : α} (inside : node ∈ nodes) :
    (start far node).queue.length + (start far node).unfound nodes ≤ nodes.length := by
  have fewer : (start far node).unfound nodes < nodes.length := by
    rw [unfound, List.countP_lt_length_iff]
    exact ⟨node, inside, by simp [start, found]⟩
  simp only [start, List.length_singleton] at fewer ⊢
  omega

/-! ## The way back -/

/-- Every entry is new when it is made, and was found from an older one. -/
def Rooted : List (α × Option α) → Prop
  | [] => True
  | (node, source) :: older =>
    older.lookup node = none ∧ (∀ before, source = some before → (older.lookup before).isSome) ∧
      Rooted older

theorem lookup_older {entry : α × Option α} {older : List (α × Option α)}
    (rooted : Rooted (entry :: older)) {node : α} (known : (older.lookup node).isSome) :
    (entry :: older).lookup node = older.lookup node := by
  obtain ⟨top, source⟩ := entry
  have different : node ≠ top := by
    rintro rfl
    simp [rooted.1] at known
  rw [List.lookup_cons, beq_eq_false_iff_ne.mpr different]

/-- More steps than entries change nothing. -/
theorem traceBack_fuel {entries older : List (α × Option α)} (rooted : Rooted older)
    (agrees : ∀ node, (older.lookup node).isSome → entries.lookup node = older.lookup node)
    {node : α} (known : (older.lookup node).isSome) {fuel : Nat} (enough : older.length ≤ fuel)
    (route : List α) (more : Nat) :
    traceBack entries (fuel + more) node route = traceBack entries fuel node route := by
  induction older generalizing node fuel route with
  | nil => simp at known
  | cons entry older ih =>
    have behind : ∀ node, (older.lookup node).isSome → entries.lookup node = older.lookup node := by
      intro node known
      have same := lookup_older rooted known
      exact (agrees node (same ▸ known)).trans same
    cases fuel with
    | zero => simp at enough
    | succ fuel =>
      replace enough : older.length ≤ fuel := by simpa using enough
      obtain ⟨top, source⟩ := entry
      by_cases here : node = top
      · subst here
        have entered := agrees node known
        rw [List.lookup_cons_self] at entered
        rw [Nat.add_right_comm, traceBack, traceBack, entered]
        cases source with
        | none => rfl
        | some before => exact ih rooted.2.2 behind (rooted.2.1 before rfl) enough _
      · have known : (older.lookup node).isSome := by
          rw [found_cons] at known
          simpa [here] using known
        exact ih rooted.2.2 behind known (Nat.le_succ_of_le enough) route

structure Sound (s : Search α) : Prop where
  rooted : Rooted s.previous
  queued : ∀ node ∈ s.queue, s.found node
  best : s.found s.best

theorem discover_found {current next node : α} (known : s.found node) :
    (discover current s next).found node := by
  unfold discover
  split
  · exact known
  · rw [found, found_cons]
    simp only [found] at known
    simp [known]

theorem discover_sound {current : α} (sound : s.Sound) (known : s.found current) (next : α) :
    (discover current s next).Sound := by
  refine ⟨?_, fun node member => ?_, ?_⟩
  · unfold discover
    split
    · exact sound.rooted
    · rename_i unknown
      refine ⟨by simpa only [found, Option.not_isSome_iff_eq_none] using unknown, fun before same => ?_,
        sound.rooted⟩
      cases same
      exact known
  · by_cases old : node ∈ s.queue
    · exact discover_found (sound.queued node old)
    · by_cases known : s.found next
      · simp only [discover, known, if_true] at member
        exact absurd member old
      · simp only [discover, known] at member ⊢
        have same : node = next := by simpa [old] using member
        simp [same, found]
  · have best : (discover current s next).best = s.best := by
      unfold discover
      split <;> rfl
    rw [best]
    exact discover_found sound.best

theorem discoverAll_sound {current : α} (sound : s.Sound) (known : s.found current)
    (nexts : List α) : (nexts.foldl (discover current) s).Sound := by
  induction nexts generalizing s with
  | nil => exact sound
  | cons next rest ih => exact ih (discover_sound sound known next) (discover_found known)

theorem start_sound (far : α → Nat) (node : α) : (start far node).Sound where
  rooted := ⟨rfl, by simp, trivial⟩
  queued other member := by
    rw [start, List.mem_singleton] at member
    simp [start, found, member]
  best := by simp [start, found]

theorem run_sound (sound : s.Sound) (fuel : Nat) : (run neighbours far fuel s).Sound := by
  induction fuel generalizing s with
  | zero => exact sound
  | succ fuel ih =>
    rw [run]
    split
    · exact sound
    · rename_i current rest queued
      have known : s.found current := sound.queued current (by simp [queued])
      have visited : (visit far current { s with queue := rest }).Sound := by
        unfold visit
        split
        · exact ⟨sound.rooted, fun n member => sound.queued n (by simp [queued, member]), known⟩
        · exact ⟨sound.rooted, fun n member => sound.queued n (by simp [queued, member]), sound.best⟩
      have still : (visit far current { s with queue := rest }).found current := by
        rw [found, (visit_previous far current _).1]
        exact known
      dsimp only
      split
      · exact ⟨visited.rooted, visited.queued, still⟩
      · exact ih (discoverAll_sound visited still (neighbours current))

/-- The way back from the best node of a search is complete. -/
theorem run_traceBack (node : α) (fuel more : Nat) :
    let searched := run neighbours far fuel (start far node)
    traceBack searched.previous (searched.previous.length + more) searched.best [] =
      traceBack searched.previous searched.previous.length searched.best [] := by
  have sound := @run_sound α _ neighbours far _ (start_sound far node) fuel
  exact traceBack_fuel sound.rooted (fun _ _ => rfl) sound.best (Nat.le_refl _) [] more

end Search
end SwitchRemake.Lib

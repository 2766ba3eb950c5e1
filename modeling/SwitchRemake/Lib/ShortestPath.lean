import Mathlib.Data.List.Chain
import Mathlib.Data.List.Induction
import SwitchRemake.Lib.BreadthFirst

/-!
# A breadth-first search finds shortest paths

The depth of a node is the number of entries on its way back. The queue is ordered by depth, and no
found node is more than one level below its head, so the first way found to a node is a shortest one.
-/

namespace SwitchRemake.Lib

/-- `n` steps lead from the first node to the second. -/
def Steps {α : Type} (neighbours : α → List α) (a : α) : Nat → α → Prop
  | 0, b => a = b
  | n + 1, b => ∃ c, Steps neighbours a n c ∧ b ∈ neighbours c

theorem Steps.of_path {α : Type} {neighbours : α → List α} {a b : α} {path : List α}
    (first : path.head? = some a) (last : path.getLast? = some b)
    (chain : path.IsChain fun x y => y ∈ neighbours x) :
    Steps neighbours a (path.length - 1) b := by
  induction path using List.reverseRecOn generalizing b with
  | nil => cases first
  | append_singleton path node ih =>
    have same : node = b := by simpa using last
    subst same
    rcases List.eq_nil_or_concat path with rfl | ⟨front, before, rfl⟩
    · exact (Option.some.inj first).symm
    · rw [List.concat_eq_append] at ih first chain ⊢
      obtain ⟨chain, -, joined⟩ := List.isChain_append.mp chain
      have longer : (front ++ [before] ++ [node]).length - 1 =
          (front ++ [before]).length - 1 + 1 := by simp
      rw [longer]
      refine ⟨before, ih ?_ (by simp) chain, ?_⟩
      · cases front <;> simpa using first
      · exact joined before (by simp) node (by simp)

namespace Search
variable {α : Type} [DecidableEq α] {neighbours : α → List α} {far : α → Nat} {s : Search α}

/-! ## Depth -/

def depth : List (α × Option α) → α → Nat
  | [], _ => 0
  | (top, source) :: older, node =>
    if node = top then source.elim 0 fun before => depth older before + 1 else depth older node

abbrev level (s : Search α) (node : α) : Nat := depth s.previous node

theorem depth_top (node : α) (source : Option α) (older : List (α × Option α)) :
    depth ((node, source) :: older) node = source.elim 0 fun before => depth older before + 1 :=
  if_pos rfl

theorem depth_other {node top : α} (apart : node ≠ top) (source : Option α)
    (older : List (α × Option α)) : depth ((top, source) :: older) node = depth older node :=
  if_neg apart

omit [DecidableEq α] in
/-- Every entry but that of the start is a neighbour of the node it was found from. -/
def Linked (neighbours : α → List α) (start : α) (entries : List (α × Option α)) : Prop :=
  ∀ entry ∈ entries, match entry.2 with
    | none => entry.1 = start
    | some before => entry.1 ∈ neighbours before

/-- The way back is a path from the start, as long as the node is deep. -/
theorem traceBack_path {start : α} {entries older : List (α × Option α)} (rooted : Rooted older)
    (linked : Linked neighbours start older)
    (agrees : ∀ node, (older.lookup node).isSome → entries.lookup node = older.lookup node)
    {node : α} (known : (older.lookup node).isSome) {fuel : Nat} (enough : older.length ≤ fuel)
    (route : List α) :
    ∃ path, traceBack entries fuel node route = path ++ route ∧ path.head? = some start ∧
      path.getLast? = some node ∧ path.length = depth older node + 1 ∧
      path.IsChain fun x y => y ∈ neighbours x := by
  induction older generalizing node fuel route with
  | nil => simp at known
  | cons entry older ih =>
    have behind : ∀ node, (older.lookup node).isSome → entries.lookup node = older.lookup node := by
      intro node known
      have same := lookup_older rooted known
      exact (agrees node (same ▸ known)).trans same
    have linkedBehind : Linked neighbours start older :=
      fun entry member => linked entry (List.mem_cons_of_mem _ member)
    cases fuel with
    | zero => simp at enough
    | succ fuel =>
      replace enough : older.length ≤ fuel := by simpa using enough
      obtain ⟨top, source⟩ := entry
      by_cases here : node = top
      · subst here
        have entered := agrees node known
        rw [List.lookup_cons_self] at entered
        have link := linked (node, source) List.mem_cons_self
        rw [traceBack, entered, depth_top]
        cases source with
        | none => exact ⟨[node], rfl, congrArg some link, rfl, rfl, .singleton node⟩
        | some before =>
          obtain ⟨path, same, first, last, long, chain⟩ :=
            ih rooted.2.2 linkedBehind behind (rooted.2.1 before rfl) enough (node :: route)
          refine ⟨path ++ [node], by simpa using same, ?_, by simp, by simp [long], ?_⟩
          · rw [List.head?_append, first]
            rfl
          · refine List.isChain_append.mpr ⟨chain, .singleton node, fun x ends y begins => ?_⟩
            rw [last] at ends
            cases ends
            cases begins
            exact link
      · have known : (older.lookup node).isSome := by
          rw [found_cons] at known
          simpa [here] using known
        rw [depth_other here]
        exact ih rooted.2.2 linkedBehind behind known (Nat.le_succ_of_le enough) route

/-! ## The invariant of the queue -/

/-- The entries are linked, the queue is ordered by depth and at most one level deep, and whatever
has left the queue has its neighbours found. -/
structure Levelled (neighbours : α → List α) (start : α) (s : Search α) : Prop where
  rooted : Rooted s.previous
  linked : Linked neighbours start s.previous
  started : s.found start
  root : s.level start = 0
  queued : ∀ node ∈ s.queue, s.found node
  ordered : s.queue.Pairwise fun a b => s.level a ≤ s.level b
  width : ∀ node, s.found node → ∀ head ∈ s.queue, s.level node ≤ s.level head + 1
  explored : ∀ node, s.found node → node ∉ s.queue → ∀ next ∈ neighbours node,
    s.found next ∧ s.level next ≤ s.level node + 1

/-- Every node that a path leads to is found at its distance at most, or the path passes the queue
before. -/
theorem Levelled.steps {start : α} (levelled : Levelled neighbours start s) {n : Nat} {node : α}
    (path : Steps neighbours start n node) :
    s.found node ∧ s.level node ≤ n ∨ ∃ head ∈ s.queue, s.level head < n := by
  induction n generalizing node with
  | zero =>
    cases path
    exact .inl ⟨levelled.started, levelled.root.le⟩
  | succ n ih =>
    obtain ⟨before, path, next⟩ := path
    rcases ih path with ⟨known, short⟩ | ⟨head, queued, shorter⟩
    · by_cases waits : before ∈ s.queue
      · exact .inr ⟨before, waits, Nat.lt_succ_of_le short⟩
      · obtain ⟨found, level⟩ := levelled.explored before known waits node next
        exact .inl ⟨found, level.trans (Nat.succ_le_succ short)⟩
    · exact .inr ⟨head, queued, Nat.lt_succ_of_lt shorter⟩

/-- While the neighbours of `current` are entered: as `Levelled`, but for `current` itself. -/
structure Entering (neighbours : α → List α) (start current : α) (s : Search α) : Prop where
  rooted : Rooted s.previous
  linked : Linked neighbours start s.previous
  started : s.found start
  root : s.level start = 0
  known : s.found current
  queued : ∀ node ∈ s.queue, s.found node ∧ s.level current ≤ s.level node
  ordered : s.queue.Pairwise fun a b => s.level a ≤ s.level b
  width : ∀ node, s.found node → s.level node ≤ s.level current + 1
  explored : ∀ node, s.found node → node ∉ s.queue → node ≠ current → ∀ next ∈ neighbours node,
    s.found next ∧ s.level next ≤ s.level node + 1

theorem discover_level {current next node : α} (known : s.found node) :
    (discover current s next).level node = s.level node := by
  unfold discover
  split
  · rfl
  · rename_i unknown
    refine depth_other ?_ _ _
    rintro rfl
    exact unknown known

theorem discover_new (current : α) {next : α} (unknown : ¬ s.found next) :
    (discover current s next).level next = s.level current + 1 := by
  unfold discover
  rw [if_neg unknown]
  exact depth_top _ _ _

theorem discover_found_iff {current next node : α} :
    (discover current s next).found node = true ↔ node = next ∨ s.found node = true := by
  unfold discover
  split
  · rename_i known
    constructor
    · exact .inr
    · rintro (rfl | found)
      · exact known
      · exact found
  · rw [found, found_cons]
    simp [found]

theorem discover_queue {current next node : α} :
    node ∈ (discover current s next).queue ↔
      node ∈ s.queue ∨ node = next ∧ ¬ s.found next = true := by
  unfold discover
  split
  · rename_i known
    simp [known]
  · rename_i unknown
    simp [unknown]

theorem Entering.discover {start current next : α} (entering : Entering neighbours start current s)
    (beside : next ∈ neighbours current) :
    Entering neighbours start current (discover current s next) := by
  by_cases already : s.found next
  · have same : Search.discover current s next = s := if_pos already
    rw [same]
    exact entering
  · have level {node : α} (known : s.found node) :
        (Search.discover current s next).level node = s.level node := discover_level known
    have fresh := discover_new current already
    have new : Search.discover current s next =
        { s with queue := s.queue ++ [next], previous := (next, some current) :: s.previous } :=
      if_neg already
    refine ⟨?_, ?_, discover_found entering.started, ?_, discover_found entering.known, ?_, ?_, ?_,
      ?_⟩
    · rw [new]
      refine ⟨by simpa only [found, Option.not_isSome_iff_eq_none] using already, fun before same => ?_, entering.rooted⟩
      cases same
      exact entering.known
    · rw [new]
      intro entry member
      rcases List.mem_cons.mp member with rfl | older
      · exact beside
      · exact entering.linked entry older
    · rw [level entering.started]
      exact entering.root
    · intro node member
      rw [level entering.known]
      rcases discover_queue.mp member with before | ⟨rfl, -⟩
      · obtain ⟨known, below⟩ := entering.queued node before
        exact ⟨discover_found known, by rwa [level known]⟩
      · exact ⟨discover_found_iff.mpr (.inl rfl), by omega⟩
    · have queue : (Search.discover current s next).queue = s.queue ++ [next] := by rw [new]
      rw [queue]
      refine List.pairwise_append.mpr ⟨?_, List.pairwise_singleton _ _, ?_⟩
      · refine entering.ordered.imp_of_mem fun first second ordered => ?_
        rwa [level (entering.queued _ first).1, level (entering.queued _ second).1]
      · intro node member other last
        rw [List.mem_singleton.mp last, fresh, level (entering.queued node member).1]
        exact entering.width node (entering.queued node member).1
    · intro node known
      rw [level entering.known]
      rcases discover_found_iff.mp known with rfl | before
      · omega
      · rw [level before]
        exact entering.width node before
    · intro node known left apart other adjacent
      have stays : node ∉ s.queue := fun member => left (discover_queue.mpr (.inl member))
      rcases discover_found_iff.mp known with rfl | before
      · exact absurd (discover_queue.mpr (.inr ⟨rfl, already⟩)) left
      · obtain ⟨found, near⟩ := entering.explored node before stays apart other adjacent
        exact ⟨discover_found found, by rwa [level found, level before]⟩

theorem discoverAll_found {current node : α} {nexts : List α} (known : s.found node) :
    (nexts.foldl (discover current) s).found node := by
  induction nexts generalizing s with
  | nil => exact known
  | cons next rest ih => exact ih (discover_found known)

theorem Entering.discoverAll {start current : α} {nexts : List α}
    (entering : Entering neighbours start current s)
    (beside : ∀ next ∈ nexts, next ∈ neighbours current) :
    Entering neighbours start current (nexts.foldl (Search.discover current) s) ∧
      ∀ next ∈ nexts, (nexts.foldl (Search.discover current) s).found next := by
  induction nexts generalizing s with
  | nil => exact ⟨entering, by simp⟩
  | cons next rest ih =>
    obtain ⟨after, found⟩ := ih (entering.discover (beside next List.mem_cons_self))
      fun other member => beside other (List.mem_cons_of_mem next member)
    refine ⟨after, fun other member => ?_⟩
    rcases List.mem_cons.mp member with rfl | later
    · exact discoverAll_found (s := Search.discover current s other)
        (discover_found_iff.mpr (.inl rfl))
    · exact found other later

/-- One turn keeps the levels. -/
theorem Levelled.turn {start current : α} {rest : List α} (levelled : Levelled neighbours start s)
    (queued : s.queue = current :: rest) {t : Search α} (entries : t.previous = s.previous)
    (shorter : t.queue = rest) :
    Levelled neighbours start ((neighbours current).foldl (discover current) t) := by
  have found {node : α} : t.found node = s.found node := by rw [Search.found, entries, Search.found]
  have level {node : α} : t.level node = s.level node := by rw [Search.level, entries]
  obtain ⟨below, ordered⟩ := List.pairwise_cons.mp (queued ▸ levelled.ordered)
  have entering : Entering neighbours start current t := by
    refine ⟨entries ▸ levelled.rooted, entries ▸ levelled.linked, ?_, ?_, ?_, ?_, ?_, ?_, ?_⟩ <;>
      simp only [found, level, shorter]
    · exact levelled.started
    · exact levelled.root
    · exact levelled.queued current (by simp [queued])
    · exact fun node member => ⟨levelled.queued node (by simp [queued, member]), below node member⟩
    · exact ordered
    · exact fun node known => levelled.width node known current (by simp [queued])
    · exact fun node known left apart => levelled.explored node known (by simp [queued, left, apart])
  obtain ⟨after, discovered⟩ := entering.discoverAll fun next member => member
  refine ⟨after.rooted, after.linked, after.started, after.root,
    fun node member => (after.queued node member).1, after.ordered, fun node known head member => ?_,
    fun node known left next adjacent => ?_⟩
  · have deep := after.width node known
    have low := (after.queued head member).2
    omega
  · by_cases here : node = current
    · subst here
      exact ⟨discovered next adjacent, after.width next (discovered next adjacent)⟩
    · exact after.explored node known left here next adjacent

/-! ## The search as a whole -/

/-- The best node so far is the nearest to the goal of those that have left the queue. -/
structure Tracks (far : α → Nat) (s : Search α) : Prop where
  found : s.found s.best
  distance : s.bestDistance = far s.best
  least : ∀ node, s.found node → node ∉ s.queue → s.bestDistance ≤ far node

theorem discoverAll_left {current node : α} {nexts : List α}
    (known : (nexts.foldl (discover current) s).found node)
    (left : node ∉ (nexts.foldl (discover current) s).queue) : s.found node ∧ node ∉ s.queue := by
  induction nexts generalizing s with
  | nil => exact ⟨known, left⟩
  | cons next rest ih =>
    obtain ⟨here, gone⟩ := ih known left
    have before := fun member => gone (discover_queue.mpr (.inl member))
    rcases discover_found_iff.mp here with rfl | already
    · by_cases old : s.found node
      · exact ⟨old, before⟩
      · exact absurd (discover_queue.mpr (.inr ⟨rfl, old⟩)) gone
    · exact ⟨already, before⟩

theorem discoverAll_best (current : α) (nexts : List α) (s : Search α) :
    (nexts.foldl (discover current) s).best = s.best ∧
      (nexts.foldl (discover current) s).bestDistance = s.bestDistance := by
  induction nexts generalizing s with
  | nil => exact ⟨rfl, rfl⟩
  | cons next rest ih =>
    obtain ⟨best, distance⟩ := ih (discover current s next)
    have same : (discover current s next).best = s.best ∧
        (discover current s next).bestDistance = s.bestDistance := by
      unfold discover
      split <;> exact ⟨rfl, rfl⟩
    exact ⟨best.trans same.1, distance.trans same.2⟩

/-- Visiting the head of the queue keeps the best of those that have left it. -/
theorem Tracks.visit {current : α} {rest : List α} (tracks : s.Tracks far)
    (queued : s.queue = current :: rest) (known : s.found current) :
    (Search.visit far current { s with queue := rest }).Tracks far ∧
      (Search.visit far current { s with queue := rest }).bestDistance ≤ far current := by
  unfold Search.visit
  split
  · rename_i nearer
    refine ⟨⟨known, rfl, fun node found left => ?_⟩, le_rfl⟩
    by_cases here : node = current
    · exact here ▸ le_rfl
    · exact nearer.le.trans (tracks.least node found (by simpa [queued, here] using left))
  · rename_i farther
    refine ⟨⟨tracks.found, tracks.distance, fun node found left => ?_⟩, not_lt.mp farther⟩
    by_cases here : node = current
    · exact here ▸ not_lt.mp farther
    · exact tracks.least node found (by simpa [queued, here] using left)

theorem Tracks.discoverAll {current : α} (tracks : s.Tracks far) (nexts : List α) :
    (nexts.foldl (discover current) s).Tracks far := by
  obtain ⟨best, distance⟩ := discoverAll_best current nexts s
  refine ⟨?_, by rw [best, distance, tracks.distance], fun node found left => ?_⟩
  · rw [best]
    exact discoverAll_found tracks.found
  · obtain ⟨known, waits⟩ := discoverAll_left found left
    rw [distance]
    exact tracks.least node known waits

/-- What a search that has come to its end has found: of all nodes that a path from the start leads
to, none is nearer to the goal than the best, and no path to the best is shorter than its depth. -/
structure Optimal (neighbours : α → List α) (far : α → Nat) (start : α) (s : Search α) : Prop where
  rooted : Rooted s.previous
  linked : Linked neighbours start s.previous
  found : s.found s.best
  distance : s.bestDistance = far s.best
  nearest : ∀ n node, Steps neighbours start n node → s.bestDistance ≤ far node
  shortest : ∀ n, Steps neighbours start n s.best → s.level s.best ≤ n

theorem Levelled.optimal {start : α} (levelled : Levelled neighbours start s)
    (tracks : s.Tracks far) (empty : s.queue = []) : Optimal neighbours far start s := by
  have reached {n : Nat} {node : α} (path : Steps neighbours start n node) :
      s.found node ∧ s.level node ≤ n := by
    rcases levelled.steps path with short | ⟨head, queued, -⟩
    · exact short
    · rw [empty] at queued
      cases queued
  refine ⟨levelled.rooted, levelled.linked, tracks.found, tracks.distance, fun n node path => ?_,
    fun n path => (reached path).2⟩
  exact tracks.least node (reached path).1 (by simp [empty])

theorem run_optimal {start : α} {nodes : List α}
    (inside : ∀ node, ∀ next ∈ neighbours node, next ∈ nodes) {fuel : Nat} {s : Search α}
    (levelled : Levelled neighbours start s) (tracks : s.Tracks far)
    (enough : s.queue.length + s.unfound nodes ≤ fuel) :
    Optimal neighbours far start (run neighbours far fuel s) := by
  induction fuel generalizing s with
  | zero =>
    have empty : s.queue = [] := List.length_eq_zero_iff.mp (by omega)
    exact levelled.optimal tracks empty
  | succ fuel ih =>
    rw [run]
    split
    · rename_i empty
      exact levelled.optimal tracks empty
    · rename_i current rest queued
      have known := levelled.queued current (by simp [queued])
      obtain ⟨entries, queue⟩ := visit_previous far current { s with queue := rest }
      obtain ⟨visited, near⟩ := tracks.visit queued known
      dsimp only
      split
      · rename_i goal
        have zero : (visit far current { s with queue := rest }).bestDistance = 0 := by omega
        refine ⟨?_, ?_, ?_, zero.trans goal.symm, fun n node path => zero.le.trans (Nat.zero_le _),
          fun n path => ?_⟩
        · simp only [entries]
          exact levelled.rooted
        · simp only [entries]
          exact levelled.linked
        · simp only [Search.found, entries]
          exact known
        · simp only [level, entries]
          rcases levelled.steps path with ⟨-, short⟩ | ⟨head, waits, shorter⟩
          · exact short
          · have ordered := queued ▸ levelled.ordered
            rw [queued] at waits
            rcases List.mem_cons.mp waits with rfl | later
            · exact shorter.le
            · exact ((List.pairwise_cons.mp ordered).1 head later).trans shorter.le
      · refine ih (levelled.turn queued entries queue) (visited.discoverAll _) ?_
        have turns := discoverAll_turns current (inside current)
          (visit far current { s with queue := rest })
        simp only [unfound, Search.found, entries, queue] at turns
        simp only [unfound, Search.found, queued, List.length_cons] at enough turns ⊢
        omega

theorem start_found {node other : α} (known : (start far node).found other) : other = node := by
  rw [found, start, found_cons] at known
  simpa using known

theorem start_levelled (neighbours : α → List α) (far : α → Nat) (node : α) :
    Levelled neighbours node (start far node) := by
  refine ⟨⟨rfl, by simp, trivial⟩, ?_, by simp [start, found], by simp [start, level, depth], ?_, ?_,
    ?_, ?_⟩
  · intro entry member
    rw [start, List.mem_singleton] at member
    subst member
    rfl
  · intro other member
    rw [start, List.mem_singleton] at member
    simp [start, found, member]
  · simp [start]
  · intro other known head member
    rw [start_found known]
    simp [start, level, depth]
  · intro other known left
    exact absurd (by simp [start, start_found known]) left

theorem start_tracks (far : α → Nat) (node : α) : (start far node).Tracks far := by
  refine ⟨by simp [start, found], rfl, fun other known left => ?_⟩
  exact absurd (by simp [start, start_found known]) left

/-- A search with a turn for each node is optimal. -/
theorem run_start {nodes : List α} {node : α} (here : node ∈ nodes)
    (inside : ∀ node, ∀ next ∈ neighbours node, next ∈ nodes) {fuel : Nat}
    (enough : nodes.length ≤ fuel) :
    Optimal neighbours far node (run neighbours far fuel (start far node)) :=
  run_optimal inside (start_levelled neighbours far node) (start_tracks far node)
    ((start_turns here).trans enough)

end Search
end SwitchRemake.Lib

import SwitchRemake.Client.OutlineEdges

/-!
# Outlines are closed

The walks use every edge once, and each of them comes back to its start.
-/

namespace SwitchRemake.Client
open Lib

section
variable (edges : List Edge)

/-- The edges that no walk has used. -/
def unused (consumed : List Nat) : List Nat := (List.range edges.length).filter (· ∉ consumed)

/-- The points of an edge, by its number. -/
abbrev tailOf (i : Nat) : Point := (edgeAt edges i).start

abbrev headOf (i : Nat) : Point := (edgeAt edges i).goal

end

variable {edges : List Edge} {consumed : List Nat}

theorem map_edgeAt (edges : List Edge) : (List.range edges.length).map (edgeAt edges) = edges := by
  refine List.ext_getElem (by simp) fun i _ short => ?_
  simp [edgeAt, short]

theorem mem_unused {i : Nat} : i ∈ unused edges consumed ↔ i < edges.length ∧ i ∉ consumed := by
  simp [unused]

theorem unused_nodup (edges : List Edge) (consumed : List Nat) : (unused edges consumed).Nodup :=
  List.nodup_range.filter _

theorem unused_take {i : Nat} (free : i ∈ unused edges consumed) :
    (unused edges consumed).Perm (i :: unused edges (consumed ++ [i])) := by
  have taken : i ∉ unused edges (consumed ++ [i]) := by simp [mem_unused]
  refine (List.perm_ext_iff_of_nodup (unused_nodup _ _)
    (List.nodup_cons.mpr ⟨taken, unused_nodup _ _⟩)).mpr fun j => ?_
  rw [List.mem_cons, mem_unused, mem_unused]
  by_cases same : j = i
  · subst same
    simp [mem_unused.mp free]
  · simp [same]

theorem mem_nextEdge {edge : Edge} {i : Nat} (found : nextEdge edges consumed edge = some i) :
    i ∈ unused edges consumed ∧ tailOf edges i = edge.goal := by
  have inside := List.mem_mergeSort.mp (List.mem_of_head? found)
  simp only [edgesByStart, List.mem_filter, List.mem_range, decide_eq_true_eq] at inside
  exact ⟨mem_unused.mpr ⟨inside.1.1, inside.2⟩, inside.1.2⟩

theorem nextEdge_isSome {edge : Edge} {i : Nat} (free : i ∈ unused edges consumed)
    (leaves : tailOf edges i = edge.goal) : ∃ next, nextEdge edges consumed edge = some next := by
  have inside : i ∈ (edgesByStart edges edge.goal).filter (· ∉ consumed) := by
    obtain ⟨short, new⟩ := mem_unused.mp free
    simp [edgesByStart, short, new, leaves]
  unfold nextEdge
  rw [← Option.isSome_iff_exists, List.isSome_head?]
  exact List.ne_nil_of_mem (List.mem_mergeSort.mpr inside)

/-- A walk uses edges that were free and comes back to its start. -/
theorem walk_closes {start : Point} {fuel current : Nat} (loop : List Point)
    (free : current ∈ unused edges consumed)
    (balanced : BalancedBut (tailOf edges) (headOf edges) start (tailOf edges current)
      (unused edges consumed))
    (enough : (unused edges consumed).length ≤ fuel) :
    ∃ trail, walk edges start fuel current consumed loop =
        some ⟨consumed ++ trail, loop ++ trail.map (tailOf edges), true⟩ ∧
      current ∈ trail ∧ Trail (tailOf edges) (headOf edges) (tailOf edges current) trail start ∧
      (unused edges consumed).Perm (trail ++ unused edges (consumed ++ trail)) ∧
      Balanced (tailOf edges) (headOf edges) (unused edges (consumed ++ trail)) := by
  induction fuel generalizing current consumed loop with
  | zero =>
    rw [List.length_eq_zero_iff.mp (Nat.le_zero.mp enough)] at free
    cases free
  | succ fuel ih =>
    have rest := unused_take free
    have further := balanced.step rest
    rw [walk, if_neg (mem_unused.mp free).2]
    dsimp only
    by_cases closes : headOf edges current = start
    · rw [if_pos closes]
      refine ⟨[current], rfl, List.mem_singleton_self _, ⟨rfl, closes⟩, rest, ?_⟩
      rw [closes] at further
      exact further.ends
    · rw [if_neg closes]
      obtain ⟨i, free', leaves⟩ := further.continues closes
      obtain ⟨next, found⟩ := nextEdge_isSome free' leaves
      obtain ⟨nextFree, meets⟩ := mem_nextEdge found
      have joins : tailOf edges next = headOf edges current := meets
      rw [found]
      rw [← joins] at further
      have shorter : (unused edges (consumed ++ [current])).length ≤ fuel := by
        have length := rest.length_eq
        rw [List.length_cons] at length
        omega
      obtain ⟨trail, walks, _, closed, uses, left⟩ :=
        ih (loop ++ [tailOf edges current]) nextFree further shorter
      rw [joins] at closed
      rw [List.append_assoc, List.singleton_append] at walks uses left
      refine ⟨current :: trail, ?_, List.mem_cons_self, ⟨rfl, closed⟩, rest.trans (uses.cons _), left⟩
      rw [List.map_cons]
      simpa using walks

/-! ## All the loops -/

/-- A walk has at least three edges, for no edge leads back along another. -/
theorem three_le_length {tiles : List Point} {v : Point} {chain : List Edge}
    (edge : ∀ e ∈ chain, IsBoundary tiles e) (closed : Trail Edge.start Edge.goal v chain v)
    (some_ : chain ≠ []) : 3 ≤ chain.length := by
  match chain with
  | [] => exact absurd rfl some_
  | [e] =>
    have back : e.goal = e.start := closed.2.trans closed.1.symm
    exact absurd back (edge e (List.mem_singleton_self _)).goal_ne
  | [e, e'] =>
    have there : e'.start = e.goal := closed.2.1
    have back : e'.goal = e.start := closed.2.2.trans closed.1.symm
    exact absurd back ((edge e List.mem_cons_self).one_way (edge e' (by simp)) there)
  | _ :: _ :: _ :: _ => exact Nat.le_add_left 3 _

section
variable (K : Type) [JsNumber K]

/-- What the loops are after some turns: one for each walk, from the edges that are used. -/
structure Outlined (edges : List Edge) (traced : List Nat × List (List Point))
    (trails : List (List Nat)) : Prop where
  uses : traced.1 = trails.flatten
  loops : traced.2 = trails.map fun trail => simplifyCollinear K (trail.map (tailOf edges))
  some_ : ∀ trail ∈ trails, trail ≠ []
  closed : ∀ trail ∈ trails, ∃ v, Trail (tailOf edges) (headOf edges) v trail v
  once : (List.range edges.length).Perm (trails.flatten ++ unused edges traced.1)
  left : Balanced (tailOf edges) (headOf edges) (unused edges traced.1)

end

variable {K : Type} [JsNumber K] {traced : List Nat × List (List Point)} {trails : List (List Nat)}

theorem Outlined.traceFrom {tiles : List Point} {fuel initial : Nat}
    (enough : (edgesOf tiles).length ≤ fuel)
    (outlined : Outlined K (edgesOf tiles) traced trails) (here : initial < (edgesOf tiles).length) :
    ∃ traced' trails', traceFrom K (edgesOf tiles) fuel traced initial = some traced' ∧
      Outlined K (edgesOf tiles) traced' trails' ∧ initial ∈ traced'.1 ∧ traced.1 ⊆ traced'.1 := by
  unfold Client.traceFrom
  by_cases used : initial ∈ traced.1
  · rw [if_pos used]
    exact ⟨traced, trails, rfl, outlined, used, List.Subset.refl _⟩
  rw [if_neg used]
  have fewer : (unused (edgesOf tiles) traced.1).length ≤ fuel := by
    refine le_trans ?_ enough
    have short := List.length_filter_le (· ∉ traced.1) (List.range (edgesOf tiles).length)
    rwa [List.length_range] at short
  obtain ⟨trail, walks, inside, closed, uses, left⟩ :=
    walk_closes [] (mem_unused.mpr ⟨here, used⟩) (outlined.left.starts _) fewer
  have chain : Trail Edge.start Edge.goal (tailOf (edgesOf tiles) initial)
      (trail.map (edgeAt (edgesOf tiles))) (tailOf (edgesOf tiles) initial) := closed.map
  have boundary : ∀ e ∈ trail.map (edgeAt (edgesOf tiles)), IsBoundary tiles e := by
    intro e among
    obtain ⟨i, on, rfl⟩ := List.mem_map.mp among
    have short : i < (edgesOf tiles).length :=
      (mem_unused.mp (uses.mem_iff.mpr (List.mem_append_left _ on))).1
    refine mem_edgesOf.mp ?_
    rw [edgeAt, List.getD_eq_getElem?_getD, List.getElem?_eq_getElem short]
    exact List.getElem_mem short
  have long := three_le_length boundary chain (by simpa using List.ne_nil_of_mem inside)
  rw [List.length_map] at long
  refine ⟨(traced.1 ++ trail, traced.2 ++ [simplifyCollinear K (trail.map (tailOf (edgesOf tiles)))]),
    trails ++ [trail], ?_, ⟨?_, ?_, ?_, ?_, ?_, left⟩, List.mem_append_right _ inside,
    List.subset_append_left _ _⟩
  · rw [walks]
    simp [long]
  · rw [outlined.uses, List.flatten_append]
    simp
  · rw [outlined.loops, List.map_append]
    rfl
  · intro other among
    rcases List.mem_append.mp among with old | new
    · exact outlined.some_ other old
    · rw [List.mem_singleton.mp new]
      exact List.ne_nil_of_mem inside
  · intro other among
    rcases List.mem_append.mp among with old | new
    · exact outlined.closed other old
    · rw [List.mem_singleton.mp new]
      exact ⟨_, closed⟩
  · have split : (trails ++ [trail]).flatten = trails.flatten ++ trail := by simp
    rw [split, List.append_assoc]
    exact outlined.once.trans (uses.append_left _)

theorem Outlined.traceAll {tiles : List Point} {fuel : Nat} (enough : (edgesOf tiles).length ≤ fuel)
    {initials : List Nat} (here : ∀ i ∈ initials, i < (edgesOf tiles).length)
    (outlined : Outlined K (edgesOf tiles) traced trails) :
    ∃ traced' trails', initials.foldlM (Client.traceFrom K (edgesOf tiles) fuel) traced = some traced' ∧
      Outlined K (edgesOf tiles) traced' trails' ∧ traced.1 ⊆ traced'.1 ∧ initials ⊆ traced'.1 := by
  induction initials generalizing traced trails with
  | nil => exact ⟨traced, trails, rfl, outlined, List.Subset.refl _, List.nil_subset _⟩
  | cons initial initials ih =>
    obtain ⟨next, trails₁, turns, outlined₁, used, grows⟩ :=
      outlined.traceFrom enough (here initial List.mem_cons_self)
    obtain ⟨last, trails₂, all, outlined₂, grows', covers⟩ :=
      ih (fun i inside => here i (List.mem_cons_of_mem _ inside)) outlined₁
    refine ⟨last, trails₂, ?_, outlined₂, List.Subset.trans grows grows', List.cons_subset.mpr ⟨grows' used, covers⟩⟩
    rw [List.foldlM_cons, turns]
    exact all

/-- The loops are chains of the edges; together the chains use every edge once. -/
theorem traced_chains (tiles : List Point) {fuel : Nat} (enough : (edgesOf tiles).length ≤ fuel) :
    ∃ chains : List (List Edge),
      traceRegionOutlines K fuel tiles =
        some (chains.map fun chain => simplifyCollinear K (chain.map Edge.start)) ∧
      chains.flatten.Perm (edgesOf tiles) ∧
      ∀ chain ∈ chains, chain ≠ [] ∧ ∃ v, Trail Edge.start Edge.goal v chain v := by
  have numbers : Balanced (tailOf (edgesOf tiles)) (headOf (edgesOf tiles))
      (List.range (edgesOf tiles).length) := by
    refine Balanced.of_map (f := edgeAt (edgesOf tiles)) ?_
    rw [map_edgeAt]
    exact edgesOf_balanced tiles
  have all : unused (edgesOf tiles) [] = List.range (edgesOf tiles).length := by simp [unused]
  have begins : Outlined K (edgesOf tiles) ([], []) [] := by
    refine ⟨rfl, rfl, nofun, nofun, ?_, ?_⟩
    · rw [all]
      exact .refl _
    · rw [all]
      exact numbers
  obtain ⟨traced, trails, traces, outlined, _, covers⟩ :=
    begins.traceAll enough fun i inside => List.mem_range.mp inside
  have none_ : unused (edgesOf tiles) traced.1 = [] := by
    refine List.eq_nil_iff_forall_not_mem.mpr fun i free => ?_
    obtain ⟨short, new⟩ := mem_unused.mp free
    exact new (covers (List.mem_range.mpr short))
  refine ⟨trails.map (List.map (edgeAt (edgesOf tiles))), ?_, ?_, fun chain among => ?_⟩
  · unfold traceRegionOutlines
    dsimp only
    rw [traces, Option.map_some, outlined.loops, List.map_map]
    refine congrArg some (List.map_congr_left fun trail _ => ?_)
    rw [Function.comp_apply, List.map_map]
    rfl
  · have once := outlined.once
    rw [none_, List.append_nil] at once
    have edges := once.symm.map (edgeAt (edgesOf tiles))
    rwa [map_edgeAt, List.map_flatten] at edges
  · obtain ⟨trail, inside, rfl⟩ := List.mem_map.mp among
    obtain ⟨v, closed⟩ := outlined.closed trail inside
    exact ⟨by simpa using outlined.some_ trail inside, v, closed.map⟩

end SwitchRemake.Client

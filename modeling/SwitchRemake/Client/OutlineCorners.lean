import SwitchRemake.Client.OutlineLoops
import Mathlib.Analysis.SpecialFunctions.Pow.Real

/-!
# Corners of an outline

A simplified loop keeps the points where its chain of edges turns, and its sides are made of the edges
of the chain.
-/

namespace SwitchRemake.Client
open Lib

/-! ## Sides -/

def sidesFrom : Point → List Point → List (Point × Point)
  | _, [] => []
  | p, q :: later => (p, q) :: sidesFrom q later

/-- The sides of a polygon, the one from its last point to its first among them. -/
def sidesOf : List Point → List (Point × Point)
  | [] => []
  | first :: later => sidesFrom first (later ++ [first])

def loopEdges (loop : List Point) : List Edge := (sidesOf loop).flatMap segmentEdges

/-- A side goes some steps in one direction. -/
def Straight (side : Point × Point) : Prop := ∃ (d : Fin 4) (n : Nat), side.2 = side.1 + n • unitStep d

theorem stretch_concat (d : Fin 4) (n : Nat) (p : Point) :
    stretch d (n + 1) p = stretch d n p ++ [sideFrom (p + n • unitStep d) d] := by
  induction n generalizing p with
  | zero => simp [stretch]
  | succ n ih =>
    rw [stretch, ih, stretch, List.cons_append, add_assoc, ← succ_nsmul']

theorem segmentEdges_stretch (d : Fin 4) (n : Nat) (p : Point) :
    segmentEdges (p, p + n • unitStep d) = stretch d n p := by
  obtain ⟨x, y⟩ := p
  cases n with
  | zero => simp [segmentEdges, stretch]
  | succ n =>
    fin_cases d
    · simp [segmentEdges, unitStep]
      omega
    · simp [segmentEdges, unitStep]
      rw [if_neg (by omega), if_pos (by omega)]
    · simp [segmentEdges, unitStep]
      omega
    · simp [segmentEdges, unitStep]
      rw [if_neg (by omega), if_neg (by omega)]

/-! ## Straight through -/

theorem dirOf_step (v : Point) (d : Fin 4) :
    dirOf ℝ v (v + unitStep d) = (((unitStep d).1 : ℝ), ((unitStep d).2 : ℝ)) := by
  have unit : ∀ d : Fin 4, (unitStep d).1 * (unitStep d).1 + (unitStep d).2 * (unitStep d).2 = 1 := by
    decide
  have length : (JsNumber.hypot ((unitStep d).1 : ℝ) ((unitStep d).2 : ℝ)) = 1 := by
    have cast : ((unitStep d).1 : ℝ) * (unitStep d).1 + (unitStep d).2 * (unitStep d).2 = 1 := by
      exact_mod_cast unit d
    change Real.sqrt _ = 1
    rw [cast, Real.sqrt_one]
  have first : (JsNumber.ofInt ((v + unitStep d).1 - v.1) : ℝ) = (unitStep d).1 := by
    rw [Prod.fst_add, add_sub_cancel_left]
    exact Rat.cast_intCast _
  have second : (JsNumber.ofInt ((v + unitStep d).2 - v.2) : ℝ) = (unitStep d).2 := by
    rw [Prod.snd_add, add_sub_cancel_left]
    exact Rat.cast_intCast _
  unfold dirOf
  simp only [first, second, length, one_ne_zero, if_false, div_one]

theorem isStraightThrough_steps (v : Point) (d d' : Fin 4) :
    isStraightThrough ℝ v (v + unitStep d) (v + unitStep d + unitStep d') = decide (d = d') := by
  have margin : (0 : ℝ) < JsNumber.ofRat (1 / 1000000000) ∧
      (JsNumber.ofRat (1 / 1000000000) : ℝ) < 1 := by
    constructor <;> norm_num [JsNumber.ofRat]
  simp only [isStraightThrough, dirOf_step]
  generalize (JsNumber.ofRat (1 / 1000000000) : ℝ) = small at margin ⊢
  fin_cases d <;> fin_cases d' <;> simp [unitStep, margin.1, not_lt.mpr margin.2.le]

/-! ## The corners of a chain -/

/-- The points of a chain where it turns, when it comes in a direction. -/
def bends (d : Fin 4) : List Edge → List Point
  | [] => []
  | e :: later => if e.direction = d then bends d later else e.start :: bends e.direction later

/-- The direction in which a chain leaves. -/
def heading (d : Fin 4) (chain : List Edge) : Fin 4 := chain.foldl (fun _ e => e.direction) d

/-- The points where a closed chain turns. -/
def cornersOf (chain : List Edge) : List Point :=
  chain.getLast?.elim [] fun last => bends last.direction chain

/-- Every edge goes one step in its direction. -/
def Stepwise (chain : List Edge) : Prop := ∀ e ∈ chain, e.goal = e.start + unitStep e.direction

theorem edge_eq {e : Edge} (goes : e.goal = e.start + unitStep e.direction) :
    e = sideFrom e.start e.direction := by
  obtain ⟨v, w, d⟩ := e
  exact congrArg (Edge.mk v · d) goes

theorem segmentEdges_edge {e : Edge} (goes : e.goal = e.start + unitStep e.direction) :
    segmentEdges (e.start, e.goal) = [e] := by
  have one := segmentEdges_stretch e.direction 1 e.start
  rw [one_nsmul, ← goes] at one
  rw [one, stretch, stretch, ← edge_eq goes]

theorem bends_append (d : Fin 4) (chain chain' : List Edge) :
    bends d (chain ++ chain') = bends d chain ++ bends (heading d chain) chain' := by
  induction chain generalizing d with
  | nil => rfl
  | cons e chain ih =>
    rw [List.cons_append, bends, bends]
    split
    · rename_i same
      rw [ih, heading, heading, List.foldl_cons, same]
    · rw [ih, List.cons_append]
      rfl

theorem bends_cons {d : Fin 4} {chain : List Edge} {p : Point} {later : List Point}
    (turns : bends d chain = p :: later) : ∃ before e after, chain = before ++ e :: after ∧
      bends d before = [] ∧ e.start = p ∧ bends e.direction after = later := by
  induction chain with
  | nil => cases turns
  | cons e chain ih =>
    rw [bends] at turns
    split at turns
    · rename_i same
      obtain ⟨before, e', after, rfl, straight, here, rest⟩ := ih turns
      exact ⟨e :: before, e', after, rfl, by rw [bends, if_pos same, straight], here, rest⟩
    · obtain ⟨rfl, rfl⟩ := List.cons.inj turns
      exact ⟨[], e, chain, rfl, rfl, rfl, rfl⟩

theorem bends_sublist (d : Fin 4) (chain : List Edge) :
    (bends d chain).Sublist (chain.map Edge.start) := by
  induction chain generalizing d with
  | nil => exact .slnil
  | cons e chain ih =>
    rw [bends, List.map_cons]
    split
    · exact (ih d).cons _
    · exact (ih _).cons_cons _

/-- The loop of the source finds the turns. -/
theorem corners_eq {first : Point} {before : Edge} {chain : List Edge}
    (step : before.goal = before.start + unitStep before.direction) (unit : Stepwise chain)
    (trail : Trail Edge.start Edge.goal before.goal chain first) :
    corners ℝ first before.start (chain.map Edge.start) = bends before.direction chain := by
  induction chain generalizing before with
  | nil => rfl
  | cons e chain ih =>
    have joins : e.start = before.goal := trail.1
    have next : (chain.map Edge.start).headD first = e.goal := by
      cases chain with
      | nil => exact Eq.symm trail.2
      | cons e' chain => exact trail.2.1
    have goes := unit e List.mem_cons_self
    have straight : isStraightThrough ℝ before.start e.start e.goal =
        decide (before.direction = e.direction) := by
      rw [goes, joins, step]
      exact isStraightThrough_steps _ _ _
    rw [List.map_cons, corners, bends, next, straight,
      ih goes (fun e' inside => unit e' (List.mem_cons_of_mem _ inside)) trail.2]
    by_cases same : e.direction = before.direction
    · simp [same]
    · simp [same, Ne.symm same]

/-! ## The sides of a loop -/

/-- The sides between the turns of a chain that comes straight from a point. -/
theorem bends_sides {p : Point} {d : Fin 4} {n : Nat} {chain : List Edge} {last : Point}
    (unit : Stepwise chain) (trail : Trail Edge.start Edge.goal (p + n • unitStep d) chain last) :
    (∀ side ∈ sidesFrom p (bends d chain ++ [last]), Straight side) ∧
      (sidesFrom p (bends d chain ++ [last])).flatMap segmentEdges = stretch d n p ++ chain := by
  induction chain generalizing p d n with
  | nil =>
    obtain rfl : p + n • unitStep d = last := trail
    refine ⟨fun side among => ?_, ?_⟩
    · rw [List.mem_singleton.mp among]
      exact ⟨d, n, rfl⟩
    · rw [bends, List.nil_append, sidesFrom, sidesFrom, List.flatMap_singleton, segmentEdges_stretch,
        List.append_nil]
  | cons e chain ih =>
    have here : e.start = p + n • unitStep d := trail.1
    have goes := unit e List.mem_cons_self
    have rest : Stepwise chain := fun e' inside => unit e' (List.mem_cons_of_mem _ inside)
    have edge := edge_eq goes
    have onward := trail.2
    rw [bends]
    split
    · rename_i same
      have further : e.goal = p + (n + 1) • unitStep d := by
        rw [goes, here, same, succ_nsmul, add_assoc]
      rw [further] at onward
      obtain ⟨straight, edges⟩ := ih rest onward
      refine ⟨straight, ?_⟩
      rw [edges, stretch_concat, List.append_assoc, ← here, ← same, ← edge]
      rfl
    · have further : e.goal = e.start + 1 • unitStep e.direction := by rw [goes, one_nsmul]
      rw [further] at onward
      obtain ⟨straight, edges⟩ := ih rest onward
      refine ⟨fun side among => ?_, ?_⟩
      · rcases List.mem_cons.mp among with rfl | later
        · exact ⟨d, n, here⟩
        · exact straight side later
      · have one : stretch e.direction 1 e.start = [e] := by rw [stretch, stretch, ← edge]
        rw [List.cons_append, sidesFrom, List.flatMap_cons, edges, one, here, segmentEdges_stretch]
        rfl

theorem points_sidesFrom {e : Edge} {chain : List Edge} {last : Point}
    (unit : Stepwise (e :: chain)) (trail : Trail Edge.start Edge.goal e.goal chain last) :
    (∀ side ∈ sidesFrom e.start (chain.map Edge.start ++ [last]), Straight side) ∧
      (sidesFrom e.start (chain.map Edge.start ++ [last])).flatMap segmentEdges = e :: chain := by
  have goes := unit e List.mem_cons_self
  have side : Straight (e.start, e.goal) := ⟨e.direction, 1, by rw [one_nsmul, ← goes]⟩
  induction chain generalizing e with
  | nil =>
    obtain rfl : e.goal = last := trail
    refine ⟨fun s among => ?_, ?_⟩
    · rw [List.mem_singleton.mp among]
      exact side
    · rw [List.map_nil, List.nil_append, sidesFrom, sidesFrom, List.flatMap_singleton,
        segmentEdges_edge goes]
  | cons e' chain ih =>
    have joins : e'.start = e.goal := trail.1
    have rest : Stepwise (e' :: chain) := fun e'' inside => unit e'' (List.mem_cons_of_mem _ inside)
    have goes' := rest e' List.mem_cons_self
    obtain ⟨straight, edges⟩ := ih rest trail.2 goes' ⟨e'.direction, 1, by rw [one_nsmul, ← goes']⟩
    rw [List.map_cons, List.cons_append, sidesFrom, List.flatMap_cons, edges, joins,
      segmentEdges_edge goes]
    refine ⟨fun s among => ?_, rfl⟩
    rcases List.mem_cons.mp among with rfl | later
    · exact side
    · exact straight s (by rwa [joins])

/-- The sides of all the points of a closed chain. -/
theorem points_sides {v : Point} {chain : List Edge} (unit : Stepwise chain)
    (closed : Trail Edge.start Edge.goal v chain v) :
    (∀ side ∈ sidesOf (chain.map Edge.start), Straight side) ∧
      loopEdges (chain.map Edge.start) = chain := by
  cases chain with
  | nil => exact ⟨nofun, rfl⟩
  | cons e chain =>
    have here : e.start = v := closed.1
    have onward := closed.2
    rw [← here] at onward
    exact points_sidesFrom unit onward

/-- The sides between the corners of a closed chain: they begin at the first of them. -/
theorem corners_sides {v : Point} {chain : List Edge} (unit : Stepwise chain)
    (closed : Trail Edge.start Edge.goal v chain v) (turns : cornersOf chain ≠ []) :
    (∀ side ∈ sidesOf (cornersOf chain), Straight side) ∧
      (loopEdges (cornersOf chain)).Perm chain := by
  unfold cornersOf at turns ⊢
  cases ends : chain.getLast? with
  | none =>
    rw [ends] at turns
    exact absurd rfl turns
  | some last =>
    rw [ends] at turns
    simp only [Option.elim_some] at turns ⊢
    cases kept : bends last.direction chain with
    | nil => exact absurd kept turns
    | cons p later =>
      obtain ⟨before, e, after, rfl, straight, rfl, rfl⟩ := bends_cons kept
      have arrives : heading e.direction after = last.direction := by
        rw [List.getLast?_append_cons] at ends
        rcases List.eq_nil_or_concat after with rfl | ⟨init, last', rfl⟩
        · cases ends
          rfl
        · rw [List.concat_eq_append, ← List.cons_append, List.getLast?_concat] at ends
          cases ends
          rw [List.concat_eq_append, heading, List.foldl_concat]
      obtain ⟨w, first, second⟩ := closed.split
      have here : e.start = w := second.1
      have around : Trail Edge.start Edge.goal e.goal (after ++ before) e.start := by
        rw [here]
        exact second.2.append first
      have goes := unit e (by simp)
      have rest : Stepwise (after ++ before) := fun e' inside => unit e' (by
        rcases List.mem_append.mp inside with late | early
        · simp [late]
        · simp [early])
      have further : e.goal = e.start + 1 • unitStep e.direction := by rw [goes, one_nsmul]
      rw [further] at around
      obtain ⟨sides, edges⟩ := bends_sides rest around
      rw [bends_append, arrives, straight, List.append_nil] at sides edges
      refine ⟨sides, ?_⟩
      have one : stretch e.direction 1 e.start = [e] := by rw [stretch, stretch, ← edge_eq goes]
      rw [one] at edges
      unfold loopEdges sidesOf
      rw [edges]
      exact (List.perm_append_comm : List.Perm ((e :: after) ++ before) (before ++ e :: after))

/-! ## A returned loop -/

/-- The loop of a closed chain: it has all the corners of the chain, and its sides are the edges. -/
structure OutlineOf (chain : List Edge) (loop : List Point) : Prop where
  closed : ∃ v, Trail Edge.start Edge.goal v chain v
  corners : (cornersOf chain).Sublist loop
  points : loop.Sublist (chain.map Edge.start)
  straight : ∀ side ∈ sidesOf loop, Straight side
  edges : (loopEdges loop).Perm chain

theorem simplify_cases {v : Point} {chain : List Edge} (unit : Stepwise chain)
    (closed : Trail Edge.start Edge.goal v chain v) (some_ : chain ≠ []) :
    simplifyCollinear ℝ (chain.map Edge.start) = chain.map Edge.start ∨
      simplifyCollinear ℝ (chain.map Edge.start) = cornersOf chain ∧ cornersOf chain ≠ [] := by
  obtain ⟨init, last, split⟩ := (List.eq_nil_or_concat chain).resolve_left some_
  rw [List.concat_eq_append] at split
  have ends : chain.getLast? = some last := by rw [split, List.getLast?_concat]
  have arrives : last.goal = v := by
    rw [split] at closed
    obtain ⟨w, _, final⟩ := closed.split
    exact final.2
  have goes := unit last (by simp [split])
  unfold cornersOf
  rw [ends, Option.elim_some]
  cases chain with
  | nil => exact absurd rfl some_
  | cons e chain =>
    have first : e.start = v := closed.1
    have lastPoint : (chain.map Edge.start).getLastD e.start = last.start := by
      have points : ((e :: chain).map Edge.start).getLast? = some last.start := by
        rw [List.getLast?_map, ends, Option.map_some]
      rw [List.map_cons, List.getLast?_cons] at points
      rw [List.getLastD_eq_getLast?]
      exact Option.some.inj points
    have found : corners ℝ e.start last.start ((e :: chain).map Edge.start) =
        bends last.direction (e :: chain) := by
      refine corners_eq goes unit ?_
      rw [arrives, first]
      exact closed
    rw [List.map_cons] at found ⊢
    unfold simplifyCollinear
    dsimp only
    rw [lastPoint, found]
    split
    · exact .inl rfl
    · split
      · rename_i many
        refine .inr ⟨rfl, fun none_ => ?_⟩
        rw [none_] at many
        exact absurd many (by decide)
      · exact .inl rfl

theorem simplify_outline {v : Point} {chain : List Edge} (unit : Stepwise chain)
    (closed : Trail Edge.start Edge.goal v chain v) (some_ : chain ≠ []) :
    OutlineOf chain (simplifyCollinear ℝ (chain.map Edge.start)) := by
  have fewer : (cornersOf chain).Sublist (chain.map Edge.start) := by
    unfold cornersOf
    cases chain.getLast? with
    | none => exact List.nil_sublist _
    | some last => exact bends_sublist _ _
  rcases simplify_cases unit closed some_ with all | ⟨kept, turns⟩
  · obtain ⟨straight, edges⟩ := points_sides unit closed
    rw [all]
    exact ⟨⟨v, closed⟩, fewer, .refl _, straight, .of_eq edges⟩
  · obtain ⟨straight, edges⟩ := corners_sides unit closed turns
    rw [kept]
    exact ⟨⟨v, closed⟩, .refl _, fewer, straight, edges⟩

end SwitchRemake.Client

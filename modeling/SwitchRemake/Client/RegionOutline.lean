import SwitchRemake.Lib.JsNumber
import SwitchRemake.Lib.KeyedList
import Mathlib.Data.Fin.Basic

/-!
# Outlines of regions

`internal/regionOutline.ts`: the edges between the cells of a set and the cells around it, chained into
loops. The loops only hold the corners; rounding and drawing them is left out.
-/

namespace SwitchRemake.Client
open Lib

abbrev Point := Int × Int

/-- The directions are right, down, left and up. -/
structure Edge where
  start : Point
  goal : Point
  direction : Fin 4
  deriving DecidableEq, Inhabited

def cellsOf (tiles : List Point) : KeyedList (id : Point → Point) :=
  tiles.foldl (fun cells tile => cells.set tile) .empty

/-- The edges of a cell, with the cell on their right. -/
def edgesAround (cells : KeyedList (id : Point → Point)) : Point → List Edge
  | (x, y) =>
    (if !cells.has (x, y - 1) then [⟨(x, y), (x + 1, y), 0⟩] else []) ++
    (if !cells.has (x + 1, y) then [⟨(x + 1, y), (x + 1, y + 1), 1⟩] else []) ++
    (if !cells.has (x, y + 1) then [⟨(x + 1, y + 1), (x, y + 1), 2⟩] else []) ++
    (if !cells.has (x - 1, y) then [⟨(x, y + 1), (x, y), 3⟩] else [])

def edgesOf (tiles : List Point) : List Edge :=
  (cellsOf tiles).entries.flatMap (edgesAround (cellsOf tiles))

/-! ## Chaining -/

/-- Right, straight, left, back. -/
def turnPriority : List (Fin 4) := [1, 0, 3, 2]

section
variable (edges : List Edge)

def edgeAt (i : Nat) : Edge := edges.getD i default

/-- The edges from a point, in their order. -/
def edgesByStart (point : Point) : List Nat :=
  (List.range edges.length).filter fun i => (edgeAt edges i).start = point

def turnRank (edge : Edge) (candidate : Nat) : Nat :=
  turnPriority.idxOf ((edgeAt edges candidate).direction - edge.direction)

def nextEdge (consumed : List Nat) (edge : Edge) : Option Nat :=
  (((edgesByStart edges edge.goal).filter (· ∉ consumed)).mergeSort
    fun a b => turnRank edges edge a ≤ turnRank edges edge b).head?

structure Walk where
  consumed : List Nat
  loop : List Point
  closed : Bool

/-- The `while` loop; `none` when it goes on after so many turns. -/
def walk (start : Point) : Nat → Nat → List Nat → List Point → Option Walk
  | 0, _, _, _ => none
  | fuel + 1, current, consumed, loop =>
    if current ∈ consumed then some ⟨consumed, loop, false⟩
    else
      let consumed := consumed ++ [current]
      let edge := edgeAt edges current
      let loop := loop ++ [edge.start]
      if edge.goal = start then some ⟨consumed, loop, true⟩
      else
        match nextEdge edges consumed edge with
        | none => some ⟨consumed, loop, false⟩
        | some next => walk start fuel next consumed loop

end

/-! ## Corners -/

section
variable (K : Type) [JsNumber K]

def dirOf (a b : Point) : K × K :=
  let dx : K := JsNumber.ofInt (b.1 - a.1)
  let dy : K := JsNumber.ofInt (b.2 - a.2)
  let hypot := JsNumber.hypot dx dy
  let len := if hypot = 0 then 1 else hypot
  (dx / len, dy / len)

def isStraightThrough (prev cur next : Point) : Bool :=
  let d1 := dirOf K prev cur
  let d2 := dirOf K cur next
  let cross := d1.1 * d2.2 - d1.2 * d2.1
  let dot := d1.1 * d2.1 + d1.2 * d2.2
  max cross (-cross) < JsNumber.ofRat (1 / 1000000000) && 0 < dot

/-- The corners of a loop from some vertex on. Behind the last vertex comes `first`. -/
def corners (first prev : Point) : List Point → List Point
  | [] => []
  | cur :: later =>
    let kept := corners first cur later
    if isStraightThrough K prev cur (later.headD first) then kept else cur :: kept

def simplifyCollinear (loop : List Point) : List Point :=
  match loop with
  | [] => loop
  | first :: later =>
    if loop.length < 3 then loop
    else
      let out := corners K first (later.getLastD first) loop
      if 3 ≤ out.length then out else loop

/-- One turn of the `for` loop, with the loops so far. -/
def traceFrom (edges : List Edge) (fuel : Nat) (traced : List Nat × List (List Point)) (initial : Nat) :
    Option (List Nat × List (List Point)) :=
  if initial ∈ traced.1 then some traced
  else do
    let walked ← walk edges (edgeAt edges initial).start fuel initial traced.1 []
    if walked.closed && 3 ≤ walked.loop.length then
      return (walked.consumed, traced.2 ++ [simplifyCollinear K walked.loop])
    else return (walked.consumed, traced.2)

/-- The outlines of a set of cells. No chain has more than `fuel` edges. -/
def traceRegionOutlines (fuel : Nat) (tiles : List Point) : Option (List (List Point)) :=
  let edges := edgesOf tiles
  ((List.range edges.length).foldlM (traceFrom K edges fuel) ([], [])).map Prod.snd

end

/-! ## The edges of a side -/

def unitStep : Fin 4 → Point
  | 0 => (1, 0)
  | 1 => (0, 1)
  | 2 => (-1, 0)
  | 3 => (0, -1)

def sideFrom (v : Point) (d : Fin 4) : Edge := ⟨v, v + unitStep d, d⟩

/-- The edges of a straight side. -/
def stretch (d : Fin 4) : Nat → Point → List Edge
  | 0, _ => []
  | n + 1, p => sideFrom p d :: stretch d n (p + unitStep d)

/-- The edges from a point to another straight right of it, below it, left of it or above it. -/
def segmentEdges (side : Point × Point) : List Edge :=
  let (p, q) := side
  if p.2 = q.2 then
    if p.1 ≤ q.1 then stretch 0 (q.1 - p.1).toNat p else stretch 2 (p.1 - q.1).toNat p
  else if p.1 = q.1 then
    if p.2 ≤ q.2 then stretch 1 (q.2 - p.2).toNat p else stretch 3 (p.2 - q.2).toNat p
  else []

end SwitchRemake.Client

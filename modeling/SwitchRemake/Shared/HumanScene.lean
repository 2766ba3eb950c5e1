import SwitchRemake.Shared.HumanRound
import SwitchRemake.Simulation.Frenzy

/-!
# The scenes of the human check

`humanCheck/round.ts` with everything that is drawn: the paths of the tagger and the runners, and the
turns of the radio.
-/

namespace SwitchRemake.HumanScene
open Lib HumanCheck

def version : Nat := 1
def range : Nat := 22
def approach : Nat := 34

structure RoundKey where
  t : Nat
  r : Nat
  a : Int
deriving DecidableEq

structure RoundActor where
  slot : Nat
  keys : List RoundKey
deriving DecidableEq

structure SwitchRound where
  version : Nat
  selfSlot : Nat
  tagger : RoundActor
  runners : List RoundActor
  openAt : Nat
  caughtAt : Nat
  endAt : Nat
  target : Nat
deriving DecidableEq

/-! ## Draws -/

def angleGap (a b : Nat) : Nat :=
  let diff := ((a : Int) - b).natAbs % 360
  if 180 < diff then 360 - diff else diff

/-- The loop of `shuffledSlots`, over any list. -/
def shuffle (state : UInt32) (xs : List Nat) : UInt32 × List Nat :=
  (List.range (xs.length - 1)).reverse.foldl (fun drawn i =>
    let next := seededRandom drawn.1
    (next.1, swap drawn.2 (i + 1) (floorOf next.2 (i + 2)))) (state, xs)

/-- `intBetween(random, -12, 12)`. -/
def drift (state : UInt32) : UInt32 × Int :=
  let drawn := intBetween state 0 24
  (drawn.1, drawn.2 - 12)

/-- Every thirty degrees, but not within 45 degrees of the tagger. -/
def freeAngles (taggerAngle : Nat) : List Nat :=
  ((List.range 12).map (· * 30)).filter fun a => 45 < angleGap a taggerAngle

def spreadAngles (count : Nat) : List Nat → List Nat → List Nat
  | angles, [] => angles
  | angles, candidate :: rest =>
    let angles :=
      if angles.all fun taken => 60 ≤ angleGap taken candidate then angles ++ [candidate] else angles
    if angles.length = count then angles else spreadAngles count angles rest

def fillAngles (count : Nat) : List Nat → List Nat → List Nat
  | angles, [] => angles
  | angles, candidate :: rest =>
    if angles.length = count then angles
    else fillAngles count (if angles.contains candidate then angles else angles ++ [candidate]) rest

/-- The times of a round that the paths depend on. -/
structure Timing where
  openAt : Nat
  caughtAt : Nat
  endAt : Nat
  runnerCount : Nat

/-- The path of the runner of this index. The first is the answer; the next, and of five runners the
one after it, drop by too early; the others keep out of range. -/
def runnerKeys (timing : Timing) (a : Int) (index : Nat) (state : UInt32) :
    UInt32 × List RoundKey :=
  if index = 0 then
    let enter := intBetween state 300 700
    let near := drift enter.1
    let far := drift near.1
    let away := drift far.1
    (away.1,
      [⟨0, 40, a⟩, ⟨timing.openAt - enter.2, 15, a + near.2⟩,
        ⟨timing.caughtAt + 300, 17, a + far.2⟩, ⟨timing.endAt, 30, a + away.2⟩])
  else if index = 1 ∨ index = 2 ∧ timing.runnerCount = 5 then
    let inAt := intBetween state 400 800
    let outAt := intBetween inAt.1 350 550
    let near := drift outAt.1
    let far := drift near.1
    let rest := intBetween far.1 34 40
    let away := drift rest.1
    (away.1,
      [⟨0, 38, a⟩, ⟨inAt.2, 14, a + near.2⟩, ⟨timing.openAt - outAt.2, 34, a + far.2⟩,
        ⟨timing.endAt, rest.2, a + away.2⟩])
  else
    let first := intBetween state 34 42
    let middle := intBetween first.1 32 42
    let near := drift middle.1
    let last := intBetween near.1 34 42
    let away := drift last.1
    (away.1,
      [⟨0, first.2, a⟩, ⟨timing.endAt / 2, middle.2, a + near.2⟩,
        ⟨timing.endAt, last.2, a + away.2⟩])

def drawRunners (timing : Timing) (angles : List Nat) : UInt32 → Nat → List Nat → List RoundActor
  | _, _, [] => []
  | state, index, slot :: rest =>
    let drawn := runnerKeys timing (angles.getD index 0) index state
    ⟨slot, drawn.2⟩ :: drawRunners timing angles drawn.1 (index + 1) rest

def buildSwitchRound (seed : Nat) : SwitchRound :=
  let slots := shuffledSlots (UInt32.ofNat seed)
  let half := seededRandom slots.1
  let runnerCount := if half.2.toNat < 2 ^ 31 then 4 else 5
  let runnerSlots := (slots.2.drop 2).take runnerCount
  let openAt := intBetween half.1 1900 2600
  let caught := intBetween openAt.1 1000 1300
  let caughtAt := openAt.2 + caught.2
  let endAt := caughtAt + 500
  let side := intBetween caught.1 0 2
  let taggerAngle := [180, 0, 270].getD side.2 0
  let free := shuffle side.1 (freeAngles taggerAngle)
  let angles := fillAngles runnerCount (spreadAngles runnerCount [] free.2) free.2
  let runners := drawRunners ⟨openAt.2, caughtAt, endAt, runnerCount⟩ angles free.1 0 runnerSlots
  { version
    selfSlot := slots.2.getD 0 0
    tagger :=
      { slot := slots.2.getD 1 0
        keys :=
          [⟨0, 64, taggerAngle⟩, ⟨openAt.2, approach, taggerAngle⟩, ⟨caughtAt, 8, taggerAngle⟩,
            ⟨endAt, 8, taggerAngle⟩] }
    runners := Simulation.sortById RoundActor.slot runners
    openAt := openAt.2
    caughtAt
    endAt
    target := (runners.head?.map RoundActor.slot).getD 0 }

/-! ## Positions -/

structure RoundPoint (K : Type) where
  x : K
  y : K
  r : K

section
variable {K : Type} [JsNumber K]

/-- The loop of `roundPosition`: the first key at `t` or later, and the key before it. -/
def segment (t : K) : RoundKey → List RoundKey → Option (RoundKey × RoundKey)
  | _, [] => none
  | prev, next :: rest =>
    if t ≤ JsNumber.ofInt next.t then some (prev, next) else segment t next rest

/-- How far `t` is from one key to the next. -/
def progress (t : K) (prev next : RoundKey) : K :=
  let span : K := JsNumber.ofInt next.t - JsNumber.ofInt prev.t
  if span ≤ 0 then 1 else min 1 (max 0 ((t - JsNumber.ofInt prev.t) / span))

def roundPosition (cos sin : K → K) (pi : K) (keys : List RoundKey) (t : K) : RoundPoint K :=
  let first := keys.headD ⟨0, 0, 0⟩
  let last := keys.getLastD ⟨0, 0, 0⟩
  let (prev, next) := (segment t first keys.tail).getD (first, last)
  let k := progress t prev next
  let r : K := JsNumber.ofInt prev.r + (JsNumber.ofInt next.r - JsNumber.ofInt prev.r) * k
  let a : K := (JsNumber.ofInt prev.a + (JsNumber.ofInt next.a - JsNumber.ofInt prev.a) * k) * pi /
    JsNumber.ofRat 180
  { x := JsNumber.ofRat 80 + cos a * r, y := JsNumber.ofRat 56 + sin a * r, r }

end

/-! ## The radio -/

def radioRange : Nat := 2

structure RadioMove where
  slot : Nat
  distance : Nat
deriving DecidableEq

structure RadioTurn where
  tagger : Nat
  moves : List RadioMove
deriving DecidableEq

structure RadioRound where
  version : Nat
  selfSlot : Nat
  taggerSlot : Nat
  runnerSlots : List Nat
  turns : List RadioTurn
  target : Nat
deriving DecidableEq

def bySlot (moves : List RadioMove) : List RadioMove := Simulation.sortById RadioMove.slot moves

def buildRadioRound (seed : Nat) : RadioRound :=
  let slots := shuffledSlots (UInt32.ofNat seed)
  let target := slots.2.getD 2 0
  let bait := slots.2.getD 3 0
  let walker := slots.2.getD 4 0
  let idle := slots.2.getD 5 0
  let targetStart := intBetween slots.1 4 6
  let targetMid := intBetween targetStart.1 3 (targetStart.2 - 1)
  let targetEnd := intBetween targetMid.1 1 radioRange
  let baitStart := intBetween targetEnd.1 1 radioRange
  let baitMid := intBetween baitStart.1 4 6
  let walkerStart := intBetween baitMid.1 5 7
  let walkerEnd := intBetween walkerStart.1 4 (walkerStart.2 - 1)
  let idleAt := intBetween walkerEnd.1 4 7
  { version
    selfSlot := slots.2.getD 0 0
    taggerSlot := slots.2.getD 1 0
    runnerSlots := Simulation.sortById (fun slot => slot) [target, bait, walker, idle]
    turns :=
      [⟨6, bySlot [⟨target, targetStart.2⟩, ⟨bait, baitStart.2⟩, ⟨walker, walkerStart.2⟩,
          ⟨idle, idleAt.2⟩]⟩,
        ⟨4, bySlot [⟨target, targetMid.2⟩, ⟨bait, baitMid.2⟩]⟩,
        ⟨2, bySlot [⟨target, targetEnd.2⟩, ⟨walker, walkerEnd.2⟩]⟩]
    target }

/-! ## What the server judges -/

/-- The part of a scene that the verdict depends on. -/
def SwitchRound.judged (round : SwitchRound) : HumanCheck.SwitchRound :=
  ⟨round.openAt, round.caughtAt, round.target⟩

end SwitchRemake.HumanScene

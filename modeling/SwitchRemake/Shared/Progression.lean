import SwitchRemake.Lib.JsNumber

/-!
# Experience

`matchXp` of `shared/protocol/progression.ts`.
-/

namespace SwitchRemake
open Lib

def xpPerMatch : Nat := 40
def xpPerWin : Nat := 60
def xpPerTag : Nat := 20
def xpPerSwitchSuccess : Nat := 15
def xpPerSurvivedMinute : Nat := 12
def xpSurvivalCapMs : Nat := 10 * 60 * 1000

/-- The survived time is none where it is left out or not finite. -/
structure MatchXpInput (K : Type) where
  won : Bool
  tagCount : K
  switchSuccess : K
  survivedMs : Option K

structure MatchXpBreakdown where
  played : Int
  win : Int
  tags : Int
  switches : Int
  survival : Int

def MatchXpBreakdown.total (x : MatchXpBreakdown) : Int :=
  x.played + x.win + x.tags + x.switches + x.survival

variable {K : Type} [JsNumber K]

def matchXpBreakdown (input : MatchXpInput K) : MatchXpBreakdown :=
  let survivedMs : K :=
    min (JsNumber.ofInt xpSurvivalCapMs) (input.survivedMs.elim 0 fun survivedMs => max 0 survivedMs)
  { played := xpPerMatch
    win := if input.won then xpPerWin else 0
    tags := max 0 (JsNumber.floor input.tagCount) * xpPerTag
    switches := max 0 (JsNumber.floor input.switchSuccess) * xpPerSwitchSuccess
    survival := JsNumber.floor
      (survivedMs / JsNumber.ofRat 60000 * JsNumber.ofInt xpPerSurvivedMinute) }

def matchXp (input : MatchXpInput K) : Int := (matchXpBreakdown input).total

end SwitchRemake

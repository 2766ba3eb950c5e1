import Mathlib.Analysis.Real.Sqrt
import Mathlib.Data.Rat.Floor

/-!
# Number arithmetic

The operations a program does on its numbers, with no law about them. A function written over
`JsNumber K` can be read over any arithmetic, rounded arithmetic included, so a theorem about it
that mentions no law holds for the doubles of the running program. The instance on `ℝ` is exact
arithmetic; the instance on `ℚ` can be evaluated.
-/

namespace SwitchRemake.Lib

class JsNumber (K : Type) extends
    Zero K, One K, Add K, Sub K, Neg K, Mul K, Div K, LE K, LT K, Max K, Min K where
  decidableEq : DecidableEq K
  decidableLE : DecidableLE K
  decidableLT : DecidableLT K
  sqrt : K → K
  hypot : K → K → K
  floor : K → Int
  ceil : K → Int
  round : K → Int
  ofRat : ℚ → K

namespace JsNumber

variable {K : Type} [JsNumber K]

instance : DecidableEq K := decidableEq
instance : DecidableLE K := decidableLE
instance : DecidableLT K := decidableLT

abbrev ofInt (n : Int) : K := ofRat n

/-- Exact arithmetic. `Math.round` rounds halves up. -/
noncomputable instance : JsNumber ℝ where
  decidableEq := inferInstance
  decidableLE := inferInstance
  decidableLT := inferInstance
  sqrt := Real.sqrt
  hypot x y := Real.sqrt (x * x + y * y)
  floor := Int.floor
  ceil := Int.ceil
  round x := ⌊x + ((1 / 2 : ℚ) : ℝ)⌋
  ofRat q := (q : ℝ)

/-- The square root rounded down to a multiple of `2⁻³²` over the denominator. -/
def ratSqrt (q : ℚ) : ℚ :=
  if q ≤ 0 then 0 else mkRat (Nat.sqrt (q.num.toNat * q.den * 2 ^ 64)) (q.den * 2 ^ 32)

instance : JsNumber ℚ where
  decidableEq := inferInstance
  decidableLE := inferInstance
  decidableLT := inferInstance
  sqrt := ratSqrt
  hypot x y := ratSqrt (x * x + y * y)
  floor := Rat.floor
  ceil := Rat.ceil
  round x := Rat.floor (x + 1 / 2)
  ofRat q := q

end JsNumber
end SwitchRemake.Lib

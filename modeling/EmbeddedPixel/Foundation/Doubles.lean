import EmbeddedPixel.Foundation.Words

/-!
# What stands for a `double`

`Doubles` is what a computation with `double`s uses, so that one text stands for the arithmetic of the
target and for that of the rationals.  `Double` is the `binary64` of Lean's own model: every operation
rounds to nearest, and there are infinities and a value that is not a number.
-/

set_option autoImplicit false

namespace Foundation

/-- The operations of a computation with `double`s. -/
class Doubles (R : Type) extends Zero R, One R, Add R, Mul R, Div R, Neg R, LT R, OfScientific R where
  decidableLT : DecidableLT R
  /-- The conversion of a signed word. -/
  ofInt : Int → R
  /-- The conversion to an integer, towards zero, of what is a number. -/
  toInt : R → Option Int

instance Doubles.instDecidableLT {R : Type} [Doubles R] : DecidableLT R := Doubles.decidableLT

/-- Exact arithmetic. -/
instance : Doubles ℚ where
  decidableLT := inferInstance
  ofInt n := n
  toInt x := some (truncate x)

/-- The `double`s. -/
abbrev Double := Float.Model

instance : Doubles Double where
  zero := .ofNat 0
  one := .ofNat 1
  ofScientific m negative e := .ofScientific m (if negative then -e else e)
  decidableLT := inferInstance
  ofInt := .ofInt
  toInt x := if x.isFinite then some (x.unpack.toInt 0 0) else none

namespace Doubles

@[simp] theorem ofInt_rat (n : Int) : (ofInt n : ℚ) = n := rfl

@[simp] theorem toInt_rat (x : ℚ) : toInt x = some (truncate x) := rfl

end Doubles

end Foundation

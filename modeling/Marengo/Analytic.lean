import Marengo.Scalar
import Mathlib.Analysis.Real.Sqrt
import Mathlib.Analysis.SpecialFunctions.Trigonometric.Basic

/-!
# Analytic operations on numbers

`Analytic F` adds the roots, exponentials and angle functions that the control laws and the gravity
model call. Results about them are stated over the reals, where every operation is exact.
-/

namespace Marengo

/-- The operations of the position law and of the gravity model beyond those of `Scalar`. -/
class Analytic (F : Type) extends Scalar F where
  sqrt : F → F
  exp : F → F
  tanh : F → F
  sin : F → F
  cos : F → F
  pi : F

/-- Exact arithmetic of the reals. -/
noncomputable instance : Analytic ℝ where
  toScalar := Scalar.ofField ℝ
  sqrt := Real.sqrt
  exp := Real.exp
  tanh := Real.tanh
  sin := Real.sin
  cos := Real.cos
  pi := Real.pi

end Marengo

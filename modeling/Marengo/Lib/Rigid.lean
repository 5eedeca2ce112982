import Mathlib.LinearAlgebra.CrossProduct
import Mathlib.LinearAlgebra.Matrix.PosDef
import Mathlib.LinearAlgebra.UnitaryGroup

/-!
# What orthogonal matrices preserve

An orthogonal matrix keeps dot products, and with them the length of a vector and of the cross
product of two vectors (a reflection may turn a cross product round, but does not change its
length). A quadratic form that is carried along with its argument keeps its value.
-/

open Matrix

namespace Rigid

section
variable {n : Type} [Fintype n] [DecidableEq n] {r : Matrix n n ℝ}

omit [DecidableEq n] in
theorem dot_self_nonneg (v : n → ℝ) : 0 ≤ v ⬝ᵥ v := Finset.sum_nonneg fun i _ => mul_self_nonneg (v i)

theorem dot_mulVec_mulVec (h : r ∈ orthogonalGroup n ℝ) (v w : n → ℝ) :
    (r *ᵥ v) ⬝ᵥ (r *ᵥ w) = v ⬝ᵥ w := by
  rw [dotProduct_mulVec, vecMul_mulVec, ← mulVec_transpose, transpose_mul, transpose_transpose,
    (mem_orthogonalGroup_iff' ..).mp h, one_mulVec]

/-- A form that is rotated with its argument. -/
theorem form_mulVec (h : r ∈ orthogonalGroup n ℝ) (s : Matrix n n ℝ) (v : n → ℝ) :
    (r *ᵥ v) ⬝ᵥ ((r * s * rᵀ) *ᵥ (r *ᵥ v)) = v ⬝ᵥ (s *ᵥ v) := by
  have hback : (r * s * rᵀ) *ᵥ (r *ᵥ v) = r *ᵥ (s *ᵥ v) := by
    rw [mulVec_mulVec, Matrix.mul_assoc, (mem_orthogonalGroup_iff' ..).mp h, Matrix.mul_one,
      ← mulVec_mulVec]
  rw [hback, dot_mulVec_mulVec h]

omit [DecidableEq n] in
/-- A form stays nonnegative under a change of basis. -/
theorem form_nonneg {s : Matrix n n ℝ} (hs : s.PosSemidef) (r : Matrix n n ℝ) (v : n → ℝ) :
    0 ≤ v ⬝ᵥ ((r * s * rᵀ) *ᵥ v) := by
  have h := (hs.mul_mul_conjTranspose_same r).dotProduct_mulVec_nonneg v
  simpa [conjTranspose_eq_transpose_of_trivial] using h

end

/-- Turning both factors keeps the length of a cross product. -/
theorem cross_mulVec_mulVec {r : Matrix (Fin 3) (Fin 3) ℝ} (h : r ∈ orthogonalGroup (Fin 3) ℝ)
    (v w : Fin 3 → ℝ) :
    ((r *ᵥ v) ⨯₃ (r *ᵥ w)) ⬝ᵥ ((r *ᵥ v) ⨯₃ (r *ᵥ w)) = (v ⨯₃ w) ⬝ᵥ (v ⨯₃ w) := by
  rw [cross_dot_cross, cross_dot_cross, dot_mulVec_mulVec h, dot_mulVec_mulVec h,
    dot_mulVec_mulVec h, dot_mulVec_mulVec h]

end Rigid

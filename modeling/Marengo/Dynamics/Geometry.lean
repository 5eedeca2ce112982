import Marengo.Analytic
import Marengo.Lib.Rigid
import Marengo.Lib.Sinusoid
import Mathlib.LinearAlgebra.Matrix.Notation

/-!
# Points, rotations and isometries

The part of the linear algebra crate that the gravity model calls. A rotation is the matrix it
stands for, also where the crate keeps it as a unit quaternion: over the reals both are the same
rotation. The second half is about exact arithmetic: the operations are those of `Matrix`, every
rotation is orthogonal, and the entries of a rotation about a fixed axis are sinusoids of its angle.
-/

namespace Marengo

open Matrix

variable {F : Type}

/-- `Vector3<f64>`, and the `[f64; 3]` of a URDF. -/
abbrev Vector3 (F : Type) := Fin 3 → F

/-- `Matrix3<f64>`. -/
abbrev Matrix3 (F : Type) := Matrix (Fin 3) (Fin 3) F

/-- `Isometry3<f64>`: a rotation, then a translation. -/
@[ext]
structure Isometry3 (F : Type) where
  rotation : Matrix3 F
  translation : Vector3 F

namespace Vector3

def x (v : Vector3 F) : F := v 0

def y (v : Vector3 F) : F := v 1

def z (v : Vector3 F) : F := v 2

end Vector3

section
variable [Scalar F]

namespace Vector3

def dot (a b : Vector3 F) : F := a 0 * b 0 + a 1 * b 1 + a 2 * b 2

def cross (a b : Vector3 F) : Vector3 F :=
  ![a 1 * b 2 - a 2 * b 1, a 2 * b 0 - a 0 * b 2, a 0 * b 1 - a 1 * b 0]

def normSquared (a : Vector3 F) : F := dot a a

end Vector3

namespace Matrix3

def identity : Matrix3 F :=
  .of fun i j => if i = j then lit 1 else lit 0

def mulVec (m : Matrix3 F) (v : Vector3 F) : Vector3 F := fun i => Vector3.dot (m i) v

def mul (a b : Matrix3 F) : Matrix3 F := .of fun i j => Vector3.dot (a i) fun k => b k j

end Matrix3

namespace Isometry3

def identity : Isometry3 F := ⟨Matrix3.identity, fun _ => lit 0⟩

def mul (a b : Isometry3 F) : Isometry3 F where
  rotation := Matrix3.mul a.rotation b.rotation
  translation := fun i => a.translation i + Matrix3.mulVec a.rotation b.translation i

def transformPoint (t : Isometry3 F) (p : Vector3 F) : Vector3 F := fun i =>
  Matrix3.mulVec t.rotation p i + t.translation i

end Isometry3

end

section
variable [Analytic F]

/-- `Unit::new_normalize`. -/
def Vector3.normalize (v : Vector3 F) : Vector3 F := fun i =>
  v i / Analytic.sqrt (Vector3.normSquared v)

/-- `Rotation3::from_axis_angle`: the rotation by an angle about a unit vector. -/
def Matrix3.fromAxisAngle (axis : Vector3 F) (angle : F) : Matrix3 F :=
  let s := Analytic.sin angle
  let c := Analytic.cos angle
  let one : F := lit 1
  let x := axis 0
  let y := axis 1
  let z := axis 2
  !![x * x + (one - x * x) * c, x * y * (one - c) - z * s, x * z * (one - c) + y * s;
     x * y * (one - c) + z * s, y * y + (one - y * y) * c, y * z * (one - c) - x * s;
     x * z * (one - c) - y * s, y * z * (one - c) + x * s, z * z + (one - z * z) * c]

/-- `Rotation3::from_euler_angles`: roll about `x`, then pitch about `y`, then yaw about `z`. -/
def Matrix3.fromEulerAngles (roll pitch yaw : F) : Matrix3 F :=
  let sr := Analytic.sin roll
  let cr := Analytic.cos roll
  let sp := Analytic.sin pitch
  let cp := Analytic.cos pitch
  let sy := Analytic.sin yaw
  let cy := Analytic.cos yaw
  !![cy * cp, cy * sp * sr - sy * cr, cy * sp * cr + sy * sr;
     sy * cp, sy * sp * sr + cy * cr, sy * sp * cr - cy * sr;
     -sp, cp * sr, cp * cr]

end

/-! ## Exact arithmetic -/

section

theorem Vector3.dot_eq (a b : Vector3 ℝ) : Vector3.dot a b = a ⬝ᵥ b :=
  (vec3_dotProduct a b).symm

theorem Vector3.cross_eq (a b : Vector3 ℝ) : Vector3.cross a b = a ⨯₃ b := rfl

theorem Vector3.normSquared_eq (a : Vector3 ℝ) : Vector3.normSquared a = a ⬝ᵥ a :=
  Vector3.dot_eq a a

theorem Matrix3.identity_eq : (Matrix3.identity : Matrix3 ℝ) = 1 := by
  ext i j
  rw [Matrix3.identity, of_apply, one_apply, lit_one, lit_zero]

theorem Matrix3.mulVec_eq (m : Matrix3 ℝ) (v : Vector3 ℝ) : Matrix3.mulVec m v = m *ᵥ v :=
  funext fun i => Vector3.dot_eq (m i) v

theorem Matrix3.mul_eq (a b : Matrix3 ℝ) : Matrix3.mul a b = a * b := by
  ext i j
  rw [Matrix3.mul, of_apply, Vector3.dot_eq, mul_apply']

/-- The part of a rotation about `axis` that turns with the sine of its angle. -/
def Matrix3.skew (axis : Vector3 ℝ) : Matrix3 ℝ :=
  !![0, -axis 2, axis 1; axis 2, 0, -axis 0; -axis 1, axis 0, 0]

/-- A rotation about an axis: what is parallel to the axis, and what turns with the sine and with
the cosine of the angle. -/
theorem Matrix3.fromAxisAngle_eq (axis : Vector3 ℝ) (angle : ℝ) :
    Matrix3.fromAxisAngle axis angle = vecMulVec axis axis + Real.sin angle • Matrix3.skew axis +
      Real.cos angle • (1 - vecMulVec axis axis) := by
  have hs : Analytic.sin angle = Real.sin angle := rfl
  have hc : Analytic.cos angle = Real.cos angle := rfl
  ext i j
  simp only [Matrix3.fromAxisAngle, lit_one, hs, hc]
  fin_cases i <;> fin_cases j <;> simp [Matrix3.skew, vecMulVec_apply] <;> ring

/-- A rotation about a unit vector is orthogonal. -/
theorem Matrix3.fromAxisAngle_orthogonal {axis : Vector3 ℝ} (hunit : axis ⬝ᵥ axis = 1)
    (angle : ℝ) : Matrix3.fromAxisAngle axis angle ∈ orthogonalGroup (Fin 3) ℝ := by
  have hone : axis 0 * axis 0 + axis 1 * axis 1 + axis 2 * axis 2 = 1 := by
    rw [← hunit, vec3_dotProduct]
  have hcircle := Real.sin_sq_add_cos_sq angle
  rw [mem_orthogonalGroup_iff', fromAxisAngle_eq]
  ext i j
  simp only [mul_apply, Fin.sum_univ_three, transpose_apply]
  fin_cases i <;> fin_cases j <;> simp [Matrix3.skew, vecMulVec_apply] <;> grind

/-- Roll, pitch and yaw compose to an orthogonal matrix. -/
theorem Matrix3.fromEulerAngles_orthogonal (roll pitch yaw : ℝ) :
    Matrix3.fromEulerAngles roll pitch yaw ∈ orthogonalGroup (Fin 3) ℝ := by
  have hsin : ∀ x : ℝ, Analytic.sin x = Real.sin x := fun _ => rfl
  have hcos : ∀ x : ℝ, Analytic.cos x = Real.cos x := fun _ => rfl
  have hroll := Real.sin_sq_add_cos_sq roll
  have hpitch := Real.sin_sq_add_cos_sq pitch
  have hyaw := Real.sin_sq_add_cos_sq yaw
  rw [mem_orthogonalGroup_iff']
  ext i j
  simp only [Matrix3.fromEulerAngles, mul_apply, Fin.sum_univ_three, transpose_apply, hsin, hcos]
  fin_cases i <;> fin_cases j <;> simp <;> grind

/-- A vector with a length is normalised to a unit vector. -/
theorem Vector3.normalize_unit {v : Vector3 ℝ} (hv : v ⬝ᵥ v ≠ 0) :
    Vector3.normalize v ⬝ᵥ Vector3.normalize v = 1 := by
  have hnorm : Vector3.normalize v = (Real.sqrt (v ⬝ᵥ v))⁻¹ • v := by
    funext i
    rw [Vector3.normalize, Vector3.normSquared_eq, Pi.smul_apply, smul_eq_mul, mul_comm]
    rfl
  rw [hnorm, smul_dotProduct, dotProduct_smul, smul_eq_mul, smul_eq_mul, ← mul_assoc, ← mul_inv,
    Real.mul_self_sqrt (Rigid.dot_self_nonneg v), inv_mul_cancel₀ hv]

namespace Isometry3

theorem mul_rotation (a b : Isometry3 ℝ) : (mul a b).rotation = a.rotation * b.rotation :=
  Matrix3.mul_eq _ _

theorem mul_translation (a b : Isometry3 ℝ) :
    (mul a b).translation = a.translation + a.rotation *ᵥ b.translation := by
  rw [← Matrix3.mulVec_eq]
  rfl

theorem transformPoint_eq (t : Isometry3 ℝ) (p : Vector3 ℝ) :
    t.transformPoint p = t.rotation *ᵥ p + t.translation := by
  rw [← Matrix3.mulVec_eq]
  rfl

theorem mul_assoc (a b c : Isometry3 ℝ) : mul (mul a b) c = mul a (mul b c) := by
  ext1
  · simp only [mul_rotation, Matrix.mul_assoc]
  · simp only [mul_translation, mul_rotation, mulVec_add, mulVec_mulVec, add_assoc]

theorem identity_rotation : (identity : Isometry3 ℝ).rotation = 1 := Matrix3.identity_eq

theorem identity_translation : (identity : Isometry3 ℝ).translation = 0 :=
  funext fun _ => lit_zero

theorem mul_identity (a : Isometry3 ℝ) : mul a identity = a := by
  ext1
  · rw [mul_rotation, identity_rotation, Matrix.mul_one]
  · rw [mul_translation, identity_translation, mulVec_zero, add_zero]

theorem identity_mul (a : Isometry3 ℝ) : mul identity a = a := by
  ext1
  · rw [mul_rotation, identity_rotation, Matrix.one_mul]
  · rw [mul_translation, identity_rotation, identity_translation, one_mulVec, zero_add]

def Rigid (t : Isometry3 ℝ) : Prop := t.rotation ∈ orthogonalGroup (Fin 3) ℝ

theorem rigid_identity : Rigid identity := by
  rw [Rigid, identity_rotation]
  exact one_mem _

theorem Rigid.mul {a b : Isometry3 ℝ} (ha : a.Rigid) (hb : b.Rigid) : (mul a b).Rigid := by
  rw [Rigid, mul_rotation]
  exact mul_mem ha hb

/-- Every entry is a sinusoid of a common angle. -/
structure Turning (t : ℝ → Isometry3 ℝ) : Prop where
  rotation : ∀ i j, (fun x => (t x).rotation i j) ∈ sinusoids
  translation : ∀ i, (fun x => (t x).translation i) ∈ sinusoids

theorem Turning.const (t : Isometry3 ℝ) : Turning fun _ => t :=
  ⟨fun _ _ => Sinusoid.const_mem _, fun _ => Sinusoid.const_mem _⟩

/-- What is attached to a turning frame turns. -/
theorem Turning.mul_const {t : ℝ → Isometry3 ℝ} (ht : Turning t) (s : Isometry3 ℝ) :
    Turning fun x => Isometry3.mul (t x) s where
  rotation i j := by
    simp only [mul_rotation, mul_apply]
    exact Sinusoid.sum_mem fun k _ => Sinusoid.mul_const_mem _ (ht.rotation i k)
  translation i := by
    simp only [mul_translation, Pi.add_apply, mulVec, dotProduct]
    exact Sinusoid.add_mem (ht.translation i)
      (Sinusoid.sum_mem fun k _ => Sinusoid.mul_const_mem _ (ht.rotation i k))

/-- A frame that turns in a fixed frame turns. -/
theorem Turning.const_mul {t : ℝ → Isometry3 ℝ} (ht : Turning t) (s : Isometry3 ℝ) :
    Turning fun x => Isometry3.mul s (t x) where
  rotation i j := by
    simp only [mul_rotation, mul_apply]
    exact Sinusoid.sum_mem fun k _ => Sinusoid.const_mul_mem _ (ht.rotation k j)
  translation i := by
    simp only [mul_translation, Pi.add_apply, mulVec, dotProduct]
    exact Sinusoid.add_mem (Sinusoid.const_mem _)
      (Sinusoid.sum_mem fun k _ => Sinusoid.const_mul_mem _ (ht.translation k))

/-- The coordinates of a point of a turning frame. -/
theorem Turning.transformPoint {t : ℝ → Isometry3 ℝ} (ht : Turning t) (p : Vector3 ℝ)
    (i : Fin 3) : (fun x => (t x).transformPoint p i) ∈ sinusoids := by
  simp only [transformPoint_eq, Pi.add_apply, mulVec, dotProduct]
  exact Sinusoid.add_mem (Sinusoid.sum_mem fun k _ => Sinusoid.mul_const_mem _ (ht.rotation i k))
    (ht.translation i)

end Isometry3

/-- The entries of a rotation about a fixed axis. -/
theorem Matrix3.fromAxisAngle_mem (axis : Vector3 ℝ) (i j : Fin 3) :
    (fun x => Matrix3.fromAxisAngle axis x i j) ∈ sinusoids := by
  refine Sinusoid.mem_iff.mpr ⟨vecMulVec axis axis i j, Matrix3.skew axis i j,
    (1 - vecMulVec axis axis) i j, fun x => ?_⟩
  rw [Matrix3.fromAxisAngle_eq]
  simp only [Matrix.add_apply, Matrix.smul_apply, smul_eq_mul, mul_comm]

end

end Marengo

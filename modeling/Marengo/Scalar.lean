import Mathlib.Algebra.Order.Field.Basic
import Mathlib.Data.Rat.Cast.Order

/-!
# Numbers and time

The crates compute with `f64` and `f32` values. The model is generic over the type `F` of these
numbers: `Scalar F` lists the operations the code uses and states no law about them, so a result
proved over an arbitrary `Scalar` holds for IEEE arithmetic, rounding and NaN included. Results
about the values themselves are stated over an ordered field, where `Scalar` is exact arithmetic
and every value is finite (`Scalar.ofField`).

`Instant` and `Duration` count nanoseconds.
-/

namespace Marengo

/-- The operations on `f64` and `f32` values that the code uses. -/
class Scalar (F : Type) extends Add F, Sub F, Mul F, Div F, Neg F where
  /-- The value of a literal. -/
  lit : ℚ → F
  /-- `x < y`. -/
  blt : F → F → Bool
  /-- `x ≤ y`. -/
  ble : F → F → Bool
  /-- `x == y`. -/
  beq : F → F → Bool
  /-- `x.is_finite()`. -/
  isFinite : F → Bool
  abs : F → F
  max : F → F → F
  min : F → F → F
  signum : F → F
  /-- `x as f32`, read back as an `F`. -/
  narrow : F → F

-- in a field the operations are written as the field's own
attribute [instance(100)] Scalar.toAdd Scalar.toSub Scalar.toMul Scalar.toDiv Scalar.toNeg

namespace Scalar

variable {F : Type} [Scalar F]

/-- `x.clamp(lo, hi)`. -/
def clamp (x lo hi : F) : F := if blt x lo then lo else if blt hi x then hi else x

@[reducible] def ofField (K : Type) [Field K] [LinearOrder K] : Scalar K where
  lit q := q
  blt x y := decide (x < y)
  ble x y := decide (x ≤ y)
  beq x y := decide (x = y)
  isFinite _ := true
  abs x := Max.max x (-x)
  max := Max.max
  min := Min.min
  signum x := if x < 0 then -1 else 1
  narrow x := x

instance : Scalar ℚ := ofField ℚ

/-! ### Exact arithmetic -/

section
variable {K : Type} [Field K] [LinearOrder K]

attribute [local instance] ofField

theorem blt_iff {x y : K} : blt x y = true ↔ x < y := decide_eq_true_iff

theorem ble_iff {x y : K} : ble x y = true ↔ x ≤ y := decide_eq_true_iff

theorem beq_iff {x y : K} : beq x y = true ↔ x = y := decide_eq_true_iff

theorem lit_eq (q : ℚ) : (lit q : K) = q := rfl

theorem lit_zero : (lit 0 : K) = 0 := Rat.cast_zero

theorem lit_one : (lit 1 : K) = 1 := Rat.cast_one

theorem max_eq (x y : K) : Scalar.max x y = Max.max x y := rfl

theorem min_eq (x y : K) : Scalar.min x y = Min.min x y := rfl

theorem abs_eq (x : K) : Scalar.abs x = |x| := rfl

theorem isFinite_eq (x : K) : Scalar.isFinite x = true := rfl

/-- A clamp between ordered bounds. -/
theorem clamp_eq {lo hi : K} (h : lo ≤ hi) (x : K) : clamp x lo hi = Max.max lo (Min.min hi x) := by
  simp only [clamp, blt_iff]
  split
  · rename_i hlt
    rw [min_eq_right (hlt.le.trans h), max_eq_left hlt.le]
  · rename_i hge
    split
    · rename_i hgt
      rw [min_eq_left hgt.le, max_eq_right h]
    · rename_i hle
      rw [min_eq_right (not_lt.mp hle), max_eq_right (not_lt.mp hge)]

end

end Scalar

export Scalar (lit blt ble beq isFinite clamp signum narrow lit_eq lit_zero lit_one blt_iff ble_iff
  beq_iff clamp_eq isFinite_eq)

/-- A reading of the monotonic clock, in nanoseconds. -/
abbrev Instant := ℕ

/-- A span of time, in nanoseconds. -/
abbrev Duration := ℕ

/-- `Duration::from_millis`. -/
def millis (n : ℕ) : Duration := n * 1000000

/-- `Duration::from_secs`. -/
def seconds (n : ℕ) : Duration := n * 1000000000

/-- The longest `Duration`. -/
def maxDuration : Duration := 2 ^ 64 * 1000000000 - 1

/-- `Duration::as_secs_f64`. -/
def secsF64 {F : Type} [Scalar F] (d : Duration) : F := lit ((d : ℚ) / 1000000000)

/-- The largest `Instant` the platform represents: an `i64` count of seconds. -/
def maxInstant : Instant := (2 ^ 63 - 1) * 1000000000 + 999999999

/-- `Instant::checked_add`. -/
def checkedAdd (t : Instant) (d : Duration) : Option Instant :=
  if t + d ≤ maxInstant then some (t + d) else none

/-- The bound of a `u32` counter. -/
def maxU32 : ℕ := 2 ^ 32 - 1

/-- The bound of a `u64` counter. -/
def maxU64 : ℕ := 2 ^ 64 - 1

/-- `u64::saturating_add(1)`. -/
def saturatingSucc (n : ℕ) : ℕ := if n < maxU64 then n + 1 else n

theorem le_saturatingSucc (n : ℕ) : n ≤ saturatingSucc n := by
  unfold saturatingSucc
  split <;> omega

theorem saturatingSucc_ne_zero (n : ℕ) : saturatingSucc n ≠ 0 := by
  unfold saturatingSucc maxU64
  split <;> omega

end Marengo

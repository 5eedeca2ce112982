import Marengo.Berthier.PositionLaw
import Marengo.Lib.Progress
import Mathlib.Tactic.Linarith
import Mathlib.Tactic.LinearCombination

/-!
# The reference reaches its target

The reference generator in exact arithmetic. `ReferenceTick` says what one tick does to the way that
remains to the target and to the velocity: it snaps to the target, brakes at the target, or moves with
a speed that goes towards the braking speed of the remaining way.

The braking speed is chosen so that a reference that moves with it can stop in the way that remains
(`stopWay`). A reference from rest can always stop there, or has passed the target by less than one
tick of acceleration covers and is slower than that (`Settling`). With speed limits that stay away
from zero it gets there: a reference that cannot stop in time first loses speed, one that can comes
closer, and one that has passed the target turns back and is caught by the snap.
-/

namespace Marengo

/-- What a tick of the generator does to the remaining way and the velocity. -/
inductive ReferenceTick (aMax dt cap r v : ℝ) : ℝ → ℝ → Prop
  | snap (slow : |v| ≤ aMax * dt) : ReferenceTick aMax dt cap r v 0 0
  | brake (d : ℝ) (sign : d = 1 ∨ d = -1) (near : |r| ≤ referenceToleranceRad)
      (fast : aMax * dt < d * v) :
      ReferenceTick aMax dt cap r v (r - d * (d * v - aMax * dt) * dt) (d * (d * v - aMax * dt))
  | move (d w : ℝ) (sign : d = 1 ∨ d = -1) (far : referenceToleranceRad < d * r)
      (speed : w = min (max (min cap (brakingSpeed (d * r) (aMax * dt) aMax)) (d * v - aMax * dt))
        (d * v + aMax * dt))
      (before : |v| ≤ aMax * dt → 0 < d * r - w * dt) :
      ReferenceTick aMax dt cap r v (r - d * w * dt) (d * w)

variable {aMax dt cap c r v r' v' : ℝ}

theorem signum_mul (x : ℝ) : signum x * x = |x| := by
  have hsignum : signum x = if x < 0 then -1 else 1 := rfl
  rw [hsignum]
  split
  · rename_i h
    rw [abs_of_neg h]
    ring
  · rename_i h
    rw [abs_of_nonneg (not_lt.mp h)]
    ring

theorem signum_cases (x : ℝ) : signum x = 1 ∨ signum x = -1 := by
  have hsignum : signum x = if x < 0 then -1 else 1 := rfl
  rw [hsignum]
  split
  · exact .inr rfl
  · exact .inl rfl

theorem referenceToleranceRad_pos : (0 : ℝ) < referenceToleranceRad := by
  unfold referenceToleranceRad
  rw [lit_eq]
  norm_num

theorem sign_mul_self {d : ℝ} (h : d = 1 ∨ d = -1) : d * d = 1 := by
  rcases h with rfl | rfl <;> norm_num

theorem abs_sign_mul {d : ℝ} (h : d = 1 ∨ d = -1) (x : ℝ) : |d * x| = |x| := by
  rcases h with rfl | rfl
  · rw [one_mul]
  · rw [neg_one_mul, abs_neg]

theorem sign_unique {d e x : ℝ} (hd : d = 1 ∨ d = -1) (he : e = 1 ∨ e = -1) (hpos : 0 < d * x)
    (hnonneg : 0 ≤ e * x) : e = d := by
  rcases hd with rfl | rfl <;> rcases he with rfl | rfl <;> first | rfl | linarith

/-- The way that remains after a move to a point on the same side. -/
theorem abs_move {d w : ℝ} (hsign : d = 1 ∨ d = -1) (hr : 0 ≤ d * r) (h : 0 ≤ d * r - w * dt) :
    |r - d * w * dt| = |r| - w * dt := by
  have hd := sign_mul_self hsign
  rw [← abs_sign_mul hsign, ← abs_sign_mul hsign r,
    show d * (r - d * w * dt) = d * r - w * dt by linear_combination (-w * dt) * hd,
    abs_of_nonneg h, abs_of_nonneg hr]

/-- The speed of a move is between zero and the desired one, or is lowered by a full tick. -/
theorem move_speed {desired u w : ℝ} (hdv : 0 < aMax * dt) (hdesired : 0 ≤ desired)
    (hw : w = min (max desired (u - aMax * dt)) (u + aMax * dt)) :
    0 ≤ w ∧ w ≤ desired ∨ |w| ≤ |u| - aMax * dt ∧ (w < 0 → u < 0) ∧ (0 ≤ w → w ≤ u - aMax * dt) := by
  rcases le_total (u + aMax * dt) (max desired (u - aMax * dt)) with h | h
  · rw [min_eq_right h] at hw
    grind
  · rw [min_eq_left h] at hw
    grind

/-! ## The braking speed -/

theorem brakingSpeed_eq (dist dv : ℝ) :
    brakingSpeed dist dv aMax = √(dv * dv / 4 + 2 * aMax * dist) - dv / 2 := by
  simp only [brakingSpeed, lit_eq, Rat.cast_ofNat]
  rfl

/-- The way it takes to stop from a speed, losing `aMax * dt` a tick. -/
noncomputable def stopWay (aMax dt v : ℝ) : ℝ := v * (v + aMax * dt) / (2 * aMax)

/-- The least speed of a move, with speed limits from `c` on. -/
noncomputable def leastSpeed (aMax dt c : ℝ) : ℝ :=
  min (min c (brakingSpeed referenceToleranceRad (aMax * dt) aMax)) (aMax * dt)

section
variable (ha : 0 < aMax)
include ha

theorem brakingSpeed_nonneg {dist : ℝ} (dv : ℝ) (hdist : 0 ≤ dist) :
    0 ≤ brakingSpeed dist dv aMax := by
  rw [brakingSpeed_eq, sub_nonneg]
  apply Real.le_sqrt_of_sq_le
  have hway : 0 ≤ 2 * aMax * dist := by positivity
  linarith [show (dv / 2) ^ 2 = dv * dv / 4 by ring]

theorem brakingSpeed_mono {dist dist' dv : ℝ} (h : dist ≤ dist') :
    brakingSpeed dist dv aMax ≤ brakingSpeed dist' dv aMax := by
  rw [brakingSpeed_eq, brakingSpeed_eq]
  gcongr

/-- A way has a positive braking speed. -/
theorem brakingSpeed_pos {dist dv : ℝ} (hdist : 0 < dist) :
    0 < brakingSpeed dist dv aMax := by
  rw [brakingSpeed_eq, sub_pos]
  apply Real.lt_sqrt_of_sq_lt
  have hway : 0 < 2 * aMax * dist := by positivity
  linarith [show (dv / 2) ^ 2 = dv * dv / 4 by ring]

/-- What is left of the way to stop after one tick. -/
theorem stopWay_sub (w : ℝ) :
    stopWay aMax dt (w - aMax * dt) = stopWay aMax dt w - w * dt := by
  unfold stopWay
  field_simp
  ring

/-- The way that a last tick may miss the target by. -/
theorem neg_le_stopWay (dt w : ℝ) : -(aMax * dt ^ 2 / 8) ≤ stopWay aMax dt w := by
  rw [stopWay, le_div_iff₀ (by positivity)]
  linarith [sq_nonneg (w + aMax * dt / 2), show (w + aMax * dt / 2) ^ 2 =
    w * (w + aMax * dt) + aMax * dt ^ 2 / 8 * (2 * aMax) by ring]

/-- A reference that does not move away from the target moves with at least that speed. -/
theorem leastSpeed_le {u w ρ : ℝ} (hc : c ≤ cap) (hu : 0 ≤ u)
    (hfar : referenceToleranceRad < ρ)
    (hw : w = min (max (min cap (brakingSpeed ρ (aMax * dt) aMax)) (u - aMax * dt))
      (u + aMax * dt)) : leastSpeed aMax dt c ≤ w := by
  rw [hw]
  refine le_min ?_ ?_
  · exact (min_le_left _ _).trans
      ((min_le_min hc (brakingSpeed_mono ha hfar.le)).trans (le_max_left _ _))
  · exact (min_le_right _ _).trans (by linarith)

variable (hdt : 0 < dt)
include hdt

/-- A reference that is no faster than the braking speed can stop in time. -/
theorem stopWay_le {dist w : ℝ} (hw : 0 ≤ w)
    (hle : w ≤ brakingSpeed dist (aMax * dt) aMax) : stopWay aMax dt w ≤ dist := by
  rw [brakingSpeed_eq, le_sub_iff_add_le] at hle
  have hdv : 0 < aMax * dt := mul_pos ha hdt
  have hsq := (Real.le_sqrt' (by positivity)).mp hle
  rw [stopWay, div_le_iff₀ (by positivity)]
  linarith [show (w + aMax * dt / 2) ^ 2 =
    w * (w + aMax * dt) + aMax * dt * (aMax * dt) / 4 by ring]

theorem stopWay_mono {w w' : ℝ} (hw : 0 ≤ w) (h : w ≤ w') :
    stopWay aMax dt w ≤ stopWay aMax dt w' := by
  unfold stopWay
  have : 0 ≤ w' := hw.trans h
  gcongr

theorem leastSpeed_pos (hc : 0 < c) : 0 < leastSpeed aMax dt c :=
  lt_min (lt_min hc (brakingSpeed_pos ha referenceToleranceRad_pos)) (mul_pos ha hdt)

end

/-! ## States of the reference -/

/-- The reference moves towards the target and can stop there. -/
def CanStop (aMax dt r v : ℝ) : Prop :=
  ∃ d : ℝ, (d = 1 ∨ d = -1) ∧ 0 ≤ d * r ∧ 0 ≤ d * v ∧ stopWay aMax dt (d * v - aMax * dt) ≤ d * r

/-- The reference is next to the target and slower than one tick of acceleration. -/
def Passing (aMax dt r v : ℝ) : Prop :=
  |r| ≤ aMax * dt ^ 2 / 8 ∧ |v| ≤ aMax * dt

/-- The reference stops at the target, or next to it. -/
def Settling (aMax dt r v : ℝ) : Prop := CanStop aMax dt r v ∨ Passing aMax dt r v

/-- From one side of the target to a point of the same side that is no further away, or next to the
target. -/
def Approaches (aMax dt r r' : ℝ) : Prop :=
  0 ≤ r * r' ∧ |r'| ≤ |r| ∨ |r'| ≤ aMax * dt ^ 2 / 8

/-- A reference that moves and can stop is before the target. -/
theorem CanStop.before {d w : ℝ} (hsign : d = 1 ∨ d = -1) (hw : 0 < w)
    (h : CanStop aMax dt (r - d * w * dt) (d * w)) : 0 ≤ d * r - w * dt := by
  obtain ⟨e, hsign', hr, hv, -⟩ := h
  have hd := sign_mul_self hsign
  have hpos : 0 < d * (d * w) := by
    rw [← mul_assoc, hd, one_mul]
    exact hw
  obtain rfl := sign_unique hsign hsign' hpos hv
  linarith [show e * (r - e * w * dt) = e * r - w * dt by linear_combination (-w * dt) * hd]

theorem approaches_trans {r'' : ℝ} (h : Approaches aMax dt r r')
    (h' : Approaches aMax dt r' r'') : Approaches aMax dt r r'' := by
  rcases h' with ⟨hside', hle'⟩ | hnear'
  · rcases h with ⟨hside, hle⟩ | hnear
    · refine .inl ⟨?_, hle'.trans hle⟩
      rcases eq_or_ne r' 0 with rfl | hne
      · rw [abs_zero, abs_nonpos_iff] at hle'
        rw [hle', mul_zero]
      · have hsq : 0 < r' * r' := mul_self_pos.mpr hne
        refine (mul_nonneg_iff_of_pos_left hsq).mp ?_
        rw [show r' * r' * (r * r'') = r * r' * (r' * r'') by ring]
        exact mul_nonneg hside hside'
    · exact .inr (hle'.trans hnear)
  · exact .inr hnear'

/-! ## One tick -/

theorem ite_cap (hcap : 0 ≤ cap) : (if 0 < cap then cap else 0) = cap := by
  split
  · rfl
  · linarith

section
variable (ha : 0 < aMax) (hdt : 0 < dt)
include ha hdt

theorem referenceStep_tick (hcap : 0 ≤ cap) (q v target : ℝ) :
    ReferenceTick aMax dt cap (target - q) v (target - (referenceStep q v target cap aMax dt).1)
      (referenceStep q v target cap aMax dt).2.1 := by
  have hdv : 0 < aMax * dt := mul_pos ha hdt
  have hblt : blt 0 aMax = true := blt_iff.mpr ha
  simp only [referenceStep, isFinite_eq, Bool.true_and, lit_zero, hblt, Bool.not_true,
    Bool.false_eq_true, if_false, blt_iff, ble_iff, ite_cap hcap, Bool.and_eq_true,
    Bool.or_eq_true, Scalar.abs_eq, Scalar.min_eq, Scalar.max_eq]
  by_cases hnear : |target - q| ≤ referenceToleranceRad
  · by_cases hslow : |v| ≤ aMax * dt
    · rw [if_pos ⟨hnear, hslow⟩, sub_self]
      exact .snap hslow
    · -- the direction is against the motion, and the desired speed is not reached
      rw [if_neg (fun h => hslow h.2), if_neg (fun h => hslow h.2)]
      simp only [if_pos hnear]
      have hbrake : min (max (min cap (brakingSpeed |target - q| (aMax * dt) aMax))
          (v * -signum v - aMax * dt)) (v * -signum v + aMax * dt) =
          -(signum v * v - aMax * dt) := by
        have hdesired := le_min hcap (brakingSpeed_nonneg ha (aMax * dt)
          (abs_nonneg (target - q)))
        have hsignum := signum_mul v
        rw [min_eq_right]
        · ring
        · refine le_trans ?_ (le_max_left _ _)
          linarith
      have hfast : aMax * dt < signum v * v := by
        rw [signum_mul]
        exact not_le.mp hslow
      rw [hbrake, neg_mul_neg, ← sub_sub]
      exact .brake _ (signum_cases v) hnear hfast
  · have hfar := not_le.mp hnear
    rw [if_neg (fun h => hnear h.1)]
    simp only [if_neg hnear, hfar, true_and]
    have hway := signum_mul (target - q)
    rw [← hway, mul_comm v]
    generalize hw : min (max (min cap (brakingSpeed (signum (target - q) * (target - q))
      (aMax * dt) aMax)) (signum (target - q) * v - aMax * dt))
      (signum (target - q) * v + aMax * dt) = w
    have hsign := signum_cases (target - q)
    generalize signum (target - q) = d at hway hw hsign ⊢
    split
    · rename_i harrived
      rw [sub_self]
      exact .snap harrived.2
    · rename_i hopen
      rw [← sub_sub]
      refine .move d w hsign (hway ▸ hfar) hw.symm fun hslow => ?_
      -- a slow reference that has not arrived is still before the target
      have hbefore : 0 < (target - (q + d * w * dt)) * (target - q) := by
        by_contra hpast
        exact hopen ⟨.inl (not_lt.mp hpast), hslow⟩
      have hd := sign_mul_self hsign
      have hprod : (target - (q + d * w * dt)) * (target - q) =
          (d * (target - q) - w * dt) * (d * (target - q)) := by
        linear_combination (-(target - q) * (target - q)) * hd
      rw [hprod] at hbefore
      exact (mul_pos_iff_of_pos_right (hway ▸ referenceToleranceRad_pos.trans hfar)).mp hbefore

/-! ## What a tick changes -/

/-- A tick changes the velocity by at most `aMax * dt`. -/
theorem ReferenceTick.slew (h : ReferenceTick aMax dt cap r v r' v') : |v' - v| ≤ aMax * dt := by
  have hdv : 0 < aMax * dt := mul_pos ha hdt
  cases h with
  | snap slow => rwa [zero_sub, abs_neg]
  | brake d sign near fast =>
    have hd := sign_mul_self sign
    rw [show d * (d * v - aMax * dt) - v = d * -(aMax * dt) by linear_combination v * hd,
      abs_sign_mul sign, abs_neg, abs_of_pos hdv]
  | move d w sign far speed before =>
    have hd := sign_mul_self sign
    rw [show d * w - v = d * (w - d * v) by linear_combination v * hd, abs_sign_mul sign, abs_le,
      speed]
    constructor
    · rw [neg_le_sub_iff_le_add, ← sub_le_iff_le_add]
      exact le_min (le_max_right _ _) (by linarith)
    · linarith [min_le_right (max (min cap (brakingSpeed (d * r) (aMax * dt) aMax))
        (d * v - aMax * dt)) (d * v + aMax * dt)]

/-- The speed along the direction of the target goes towards the desired one. -/
theorem ReferenceTick.speed_le (hcap : 0 ≤ cap)
    (h : ReferenceTick aMax dt cap r v r' v') : |v'| ≤ max |v| cap := by
  have hdv : 0 < aMax * dt := mul_pos ha hdt
  cases h with
  | snap slow => simp
  | brake d sign near fast =>
    rw [abs_sign_mul sign, abs_of_pos (sub_pos.mpr fast), ← abs_sign_mul sign v]
    exact le_max_of_le_left ((sub_le_self _ hdv.le).trans (le_abs_self _))
  | move d w sign far speed before =>
    have hb := brakingSpeed_nonneg ha (aMax * dt)
      (referenceToleranceRad_pos.trans far).le
    rw [abs_sign_mul sign, ← abs_sign_mul sign v, speed]
    grind

/-! ## References that settle -/

theorem passing_zero : Passing aMax dt 0 0 := by
  have hdv := mul_pos ha hdt
  constructor <;> rw [abs_zero] <;> positivity

/-- A tick at a speed from which the reference can stop. -/
theorem settling_of_stopWay {d w : ℝ} (hsign : d = 1 ∨ d = -1) (hr : 0 ≤ d * r)
    (hw : 0 ≤ w) (hstop : stopWay aMax dt w ≤ d * r) :
    Settling aMax dt (r - d * w * dt) (d * w) ∧ Approaches aMax dt r (r - d * w * dt) := by
  have hd := sign_mul_self hsign
  have hway : d * (r - d * w * dt) = d * r - w * dt := by linear_combination (-w * dt) * hd
  have hspeed : d * (d * w) = w := by linear_combination w * hd
  have hleft : stopWay aMax dt (w - aMax * dt) ≤ d * r - w * dt := by
    rw [stopWay_sub ha]
    linarith
  rcases le_or_gt 0 (d * r - w * dt) with h | h
  · refine ⟨.inl ⟨d, hsign, ?_, ?_, ?_⟩, .inl ⟨?_, ?_⟩⟩
    · rwa [hway]
    · rwa [hspeed]
    · rwa [hway, hspeed]
    · rw [show r * (r - d * w * dt) = d * r * (d * r - w * dt) by linear_combination (-r * r) * hd]
      exact mul_nonneg hr h
    · rw [← abs_sign_mul hsign, hway, abs_of_nonneg h, ← abs_sign_mul hsign r, abs_of_nonneg hr]
      exact sub_le_self _ (by positivity)
  · -- past the target: the last tick was slower than `aMax * dt`
    have hslow : w ≤ aMax * dt := by
      by_contra hfast
      have : 0 ≤ stopWay aMax dt (w - aMax * dt) := by
        have := (not_le.mp hfast).le
        have : 0 ≤ w - aMax * dt := by linarith
        unfold stopWay
        positivity
      linarith
    have hnear : |r - d * w * dt| ≤ aMax * dt ^ 2 / 8 := by
      rw [← abs_sign_mul hsign, hway, abs_of_neg h]
      linarith [neg_le_stopWay ha dt (w - aMax * dt)]
    refine ⟨.inr ⟨hnear, ?_⟩, .inr hnear⟩
    rwa [abs_sign_mul hsign, abs_of_nonneg hw]

section
variable {d w : ℝ} (hcap : 0 ≤ cap) (sign : d = 1 ∨ d = -1) (far : referenceToleranceRad < d * r)
  (speed : w = min (max (min cap (brakingSpeed (d * r) (aMax * dt) aMax)) (d * v - aMax * dt))
    (d * v + aMax * dt))
include hcap sign far speed

/-- The reference can stop after a move, or the move lowers its speed by a full tick. -/
theorem move_cases : 0 ≤ w ∧ stopWay aMax dt w ≤ d * r ∨
      |w| ≤ |v| - aMax * dt ∧ (w < 0 → d * v < 0) ∧ (0 ≤ w → w ≤ d * v - aMax * dt) := by
  have hdesired := le_min hcap
    (brakingSpeed_nonneg ha (aMax * dt) (referenceToleranceRad_pos.trans far).le)
  rw [← abs_sign_mul sign v]
  refine (move_speed (mul_pos ha hdt) hdesired speed).imp_left fun ⟨hw, hle⟩ => ⟨hw, ?_⟩
  exact stopWay_le ha hdt hw (hle.trans (min_le_right _ _))

/-- The speed of a slow reference is not lowered by a full tick, but to zero. -/
theorem move_slow (hslow : |v| ≤ aMax * dt) : 0 ≤ w ∧ stopWay aMax dt w ≤ d * r := by
  rcases move_cases ha hdt hcap sign far speed with h | ⟨hle, -⟩
  · exact h
  · have hw : w = 0 := abs_eq_zero.mp (le_antisymm (by linarith) (abs_nonneg w))
    refine ⟨hw.ge, ?_⟩
    rw [hw, stopWay, zero_mul, zero_div]
    exact (referenceToleranceRad_pos.trans far).le

end

/-- A reference that settles goes on to do so, and does not leave its side of the target by more than
the last tick may miss it. -/
theorem Settling.tick (hcap : 0 ≤ cap) (hs : Settling aMax dt r v)
    (h : ReferenceTick aMax dt cap r v r' v') :
    Settling aMax dt r' v' ∧ Approaches aMax dt r r' := by
  cases h with
  | snap slow =>
    have hzero := passing_zero ha hdt
    exact ⟨.inr hzero, .inr hzero.1⟩
  | brake d sign near fast =>
    obtain ⟨e, hsign, hr, hv, hstop⟩ | ⟨-, hslow⟩ := hs
    · obtain rfl := sign_unique sign hsign ((mul_pos ha hdt).trans fast) hv
      exact settling_of_stopWay ha hdt sign hr (sub_pos.mpr fast).le hstop
    · -- a reference that passes the target is not fast
      rw [← abs_sign_mul sign] at hslow
      exact absurd fast (not_lt.mpr ((le_abs_self _).trans hslow))
  | move d w sign far speed before =>
    have hr := referenceToleranceRad_pos.trans far
    have hspeed : 0 ≤ w ∧ stopWay aMax dt w ≤ d * r := by
      obtain ⟨e, hsign, hr', hv, hstop⟩ | ⟨-, hslow⟩ := hs
      · rcases move_cases ha hdt hcap sign far speed with h | ⟨-, hneg, hpos⟩
        · exact h
        · obtain rfl := sign_unique sign hsign hr hr'
          have hw : 0 ≤ w := not_lt.mp fun hlt => absurd (hneg hlt) (not_lt.mpr hv)
          exact ⟨hw, (stopWay_mono ha hdt hw (hpos hw)).trans hstop⟩
      · exact move_slow ha hdt hcap sign far speed hslow
    exact settling_of_stopWay ha hdt sign hr.le hspeed.1 hspeed.2

/-- A reference that does not settle loses speed. -/
theorem ReferenceTick.settles (hcap : 0 ≤ cap) (h : ReferenceTick aMax dt cap r v r' v') :
    Settling aMax dt r' v' ∨ |v'| ≤ |v| - aMax * dt := by
  cases h with
  | snap slow => exact .inl (.inr (passing_zero ha hdt))
  | brake d sign near fast =>
    right
    rw [abs_sign_mul sign, abs_of_pos (sub_pos.mpr fast), ← abs_sign_mul sign v]
    linarith [le_abs_self (d * v)]
  | move d w sign far speed before =>
    rcases move_cases ha hdt hcap sign far speed with ⟨hw, hstop⟩ | ⟨hle, -⟩
    · exact .inl (settling_of_stopWay ha hdt sign (referenceToleranceRad_pos.trans far).le hw hstop).1
    · rw [abs_sign_mul sign]
      exact .inr hle

/-! ## References that arrive -/

/-- From afar the reference comes closer until it is near the target. -/
theorem CanStop.tick_far (hc : 0 < c) (hcap : c ≤ cap) (hs : CanStop aMax dt r v)
    (hfar : referenceToleranceRad < |r|) (h : ReferenceTick aMax dt cap r v r' v') :
    (CanStop aMax dt r' v' ∧ |r'| ≤ referenceToleranceRad ∨ Passing aMax dt r' v') ∨
      (CanStop aMax dt r' v' ∧ referenceToleranceRad < |r'|) ∧
        |r'| ≤ |r| - leastSpeed aMax dt c * dt := by
  have hsettling := (Settling.tick ha hdt (hc.le.trans hcap) (.inl hs) h).1
  rcases hsettling with hcan | hpassing
  · rcases le_or_gt |r'| referenceToleranceRad with hnear | hfar'
    · exact .inl (.inl ⟨hcan, hnear⟩)
    · refine .inr ⟨⟨hcan, hfar'⟩, ?_⟩
      cases h with
      | snap slow =>
        rw [abs_zero] at hfar'
        exact absurd referenceToleranceRad_pos hfar'.not_gt
      | brake d sign near fast => exact absurd hfar near.not_gt
      | move d w sign far speed before =>
        obtain ⟨e, hsign, hr, hv, -⟩ := hs
        obtain rfl := sign_unique sign hsign (referenceToleranceRad_pos.trans far) hr
        have hw := leastSpeed_le ha hcap hv far speed
        have hpos := (leastSpeed_pos ha hdt hc).trans_le hw
        rw [abs_move sign hr (hcan.before sign hpos)]
        gcongr
  · exact .inl (.inr hpassing)

/-- Near the target the reference loses speed until it passes the target or is there. -/
theorem CanStop.tick_near (hcap : 0 ≤ cap) (hs : CanStop aMax dt r v)
    (hnear : |r| ≤ referenceToleranceRad) (h : ReferenceTick aMax dt cap r v r' v') :
    Passing aMax dt r' v' ∨
      (CanStop aMax dt r' v' ∧ |r'| ≤ referenceToleranceRad) ∧ |v'| ≤ |v| - aMax * dt := by
  rcases (Settling.tick ha hdt hcap (.inl hs) h).1 with hcan | hpassing
  · cases h with
    | snap slow => exact .inl (passing_zero ha hdt)
    | brake d sign near fast =>
      obtain ⟨e, hsign, hr, hv, -⟩ := hs
      obtain rfl := sign_unique sign hsign ((mul_pos ha hdt).trans fast) hv
      have hpos := sub_pos.mpr fast
      refine .inr ⟨⟨hcan, ?_⟩, ?_⟩
      · rw [abs_move sign hr (hcan.before sign hpos)]
        exact (sub_le_self _ (by positivity)).trans hnear
      · rw [abs_sign_mul sign, abs_of_pos hpos, ← abs_sign_mul sign v, abs_of_nonneg hv]
    | move d w sign far speed before =>
      rw [← abs_sign_mul sign] at hnear
      exact absurd far ((le_abs_self _).trans hnear).not_gt
  · exact .inl hpassing

/-- A reference that passes the target turns to it, and is caught where it arrives. -/
theorem Passing.tick (hcap : 0 ≤ cap) (hs : Passing aMax dt r v)
    (h : ReferenceTick aMax dt cap r v r' v') :
    (r' = 0 ∧ v' = 0) ∨ ∃ d w : ℝ, (d = 1 ∨ d = -1) ∧ referenceToleranceRad < d * r ∧
      w = min (max (min cap (brakingSpeed (d * r) (aMax * dt) aMax)) (d * v - aMax * dt))
        (d * v + aMax * dt) ∧ 0 ≤ w ∧ Passing aMax dt r' v' ∧ 0 ≤ d * r' ∧ 0 ≤ d * v' ∧
      |r'| = |r| - w * dt := by
  obtain ⟨hnext, hslow⟩ := hs
  cases h with
  | snap slow => exact .inl ⟨rfl, rfl⟩
  | brake d sign near fast =>
    rw [← abs_sign_mul sign] at hslow
    exact absurd fast (not_lt.mpr ((le_abs_self _).trans hslow))
  | move d w sign far speed before =>
    have hd := sign_mul_self sign
    have hr := (referenceToleranceRad_pos.trans far).le
    have hbefore := before hslow
    obtain ⟨hw, hstop⟩ := move_slow ha hdt hcap sign far speed hslow
    have hway := abs_move sign hr hbefore.le
    refine .inr ⟨d, w, sign, far, speed, hw, ⟨?_, ?_⟩, ?_, ?_, hway⟩
    · rw [hway]
      exact (sub_le_self _ (mul_nonneg hw hdt.le)).trans hnext
    · -- the braking speed of so short a way is below `aMax * dt`
      rw [abs_sign_mul sign, abs_of_nonneg hw]
      rw [← abs_of_nonneg hr, abs_sign_mul sign] at hstop
      have hshort := hstop.trans hnext
      rw [stopWay, div_le_iff₀ (by positivity)] at hshort
      by_contra hfast
      nlinarith [not_le.mp hfast, mul_pos ha hdt]
    · linarith [show d * (r - d * w * dt) = d * r - w * dt by linear_combination (-w * dt) * hd]
    · rw [← mul_assoc, hd, one_mul]
      exact hw

/-- The reference passes the target no more, and moves towards it. -/
def Closing (aMax dt r v : ℝ) : Prop :=
  Passing aMax dt r v ∧ ∃ d : ℝ, (d = 1 ∨ d = -1) ∧ 0 ≤ d * r ∧ 0 ≤ d * v

theorem Closing.tick (hc : 0 < c) (hcap : c ≤ cap)
    (hs : Closing aMax dt r v) (h : ReferenceTick aMax dt cap r v r' v') :
    (r' = 0 ∧ v' = 0) ∨ Closing aMax dt r' v' ∧ |r'| ≤ |r| - leastSpeed aMax dt c * dt := by
  obtain ⟨hpassing, e, hsign, hr, hv⟩ := hs
  rcases hpassing.tick ha hdt (hc.le.trans hcap) h with hdone | ⟨d, w, sign, far, speed, -, hpass, hr',
    hv', hway⟩
  · exact .inl hdone
  · obtain rfl := sign_unique sign hsign (referenceToleranceRad_pos.trans far) hr
    refine .inr ⟨⟨hpass, e, sign, hr', hv'⟩, ?_⟩
    have hw := leastSpeed_le ha hcap hv far speed
    rw [hway]
    gcongr

/-- A tick with a speed limit of at least `c`, on pairs of the remaining way and the velocity. -/
def ReferenceTicks (aMax dt c : ℝ) (s s' : ℝ × ℝ) : Prop :=
  ∃ cap, c ≤ cap ∧ ReferenceTick aMax dt cap s.1 s.2 s'.1 s'.2

/-- From every state the reference comes to settle. -/
theorem leads_settling (hc : 0 < c) :
    Leads (ReferenceTicks aMax dt c) (fun _ => True) fun s => Settling aMax dt s.1 s.2 := by
  refine .rank (mul_pos ha hdt) (fun s => |s.2|) (fun s _ => abs_nonneg _) ?_
  rintro s s' - ⟨cap, hcap, h⟩
  rcases h.settles ha hdt (hc.le.trans hcap) with h | h
  · exact .inl h
  · exact .inr ⟨trivial, h⟩

/-- A reference that settles comes next to the target. -/
theorem leads_passing (hc : 0 < c) :
    Leads (ReferenceTicks aMax dt c) (fun s => Settling aMax dt s.1 s.2)
      fun s => Passing aMax dt s.1 s.2 := by
  have hpassing : Leads (ReferenceTicks aMax dt c) (fun s => Passing aMax dt s.1 s.2)
      fun s => Passing aMax dt s.1 s.2 := .of_imp fun _ h => h
  have hnear : Leads (ReferenceTicks aMax dt c)
      (fun s => CanStop aMax dt s.1 s.2 ∧ |s.1| ≤ referenceToleranceRad)
      fun s => Passing aMax dt s.1 s.2 := by
    refine .rank (mul_pos ha hdt) (fun s => |s.2|) (fun s _ => abs_nonneg _) ?_
    rintro s s' ⟨hs, hle⟩ ⟨cap, hcap, h⟩
    exact hs.tick_near ha hdt (hc.le.trans hcap) hle h
  have hfar : Leads (ReferenceTicks aMax dt c)
      (fun s => CanStop aMax dt s.1 s.2 ∧ referenceToleranceRad < |s.1|)
      fun s => Passing aMax dt s.1 s.2 := by
    refine .trans (.rank (mul_pos (leastSpeed_pos ha hdt hc) hdt) (fun s => |s.1|)
      (fun s _ => abs_nonneg _) ?_) (hnear.or hpassing)
    rintro s s' ⟨hs, hlt⟩ ⟨cap, hcap, h⟩
    exact hs.tick_far ha hdt hc hcap hlt h
  refine .trans (.of_imp fun s hs => ?_) ((hfar.or hnear).or hpassing)
  rcases hs with hs | hs
  · rcases le_or_gt |s.1| referenceToleranceRad with hle | hlt
    · exact .inl (.inr ⟨hs, hle⟩)
    · exact .inl (.inl ⟨hs, hlt⟩)
  · exact .inr hs

/-- A reference next to the target arrives. -/
theorem leads_arrived (hc : 0 < c) :
    Leads (ReferenceTicks aMax dt c) (fun s => Passing aMax dt s.1 s.2)
      fun s => s.1 = 0 ∧ s.2 = 0 := by
  have hclosing : Leads (ReferenceTicks aMax dt c) (fun s => Closing aMax dt s.1 s.2)
      fun s => s.1 = 0 ∧ s.2 = 0 := by
    refine .rank (mul_pos (leastSpeed_pos ha hdt hc) hdt) (fun s => |s.1|)
      (fun s _ => abs_nonneg _) ?_
    rintro s s' hs ⟨cap, hcap, h⟩
    exact hs.tick ha hdt hc hcap h
  refine .trans (.next ?_) (Leads.or (.of_imp fun s h => h) hclosing)
  rintro s s' hs ⟨cap, hcap, h⟩
  rcases hs.tick ha hdt (hc.le.trans hcap) h with hdone | ⟨d, w, sign, -, -, -, hpass, hr, hv, -⟩
  · exact .inl hdone
  · exact .inr ⟨hpass, d, sign, hr, hv⟩

/-! ## Runs -/

variable {caps : ℕ → ℝ}

theorem referenceRun_tick (hcaps : ∀ n, 0 ≤ caps n) (targets : ℕ → ℝ) (start : ℝ × ℝ) (n : ℕ) :
    ReferenceTick aMax dt (caps n) (targets n - (referenceRun targets caps aMax dt start n).1)
      (referenceRun targets caps aMax dt start n).2
      (targets n - (referenceRun targets caps aMax dt start (n + 1)).1)
      (referenceRun targets caps aMax dt start (n + 1)).2 :=
  referenceStep_tick ha hdt (hcaps n) _ _ _

/-- What a run from rest to one target keeps. -/
theorem referenceRun_settling (hcaps : ∀ n, 0 ≤ caps n) (q target : ℝ) (n : ℕ) :
    let run := referenceRun (fun _ => target) caps aMax dt (q, 0) n
    Settling aMax dt (target - run.1) run.2 ∧ Approaches aMax dt (target - q) (target - run.1) := by
  induction n with
  | zero =>
    refine ⟨.inl ⟨signum (target - q), signum_cases _, ?_, ?_, ?_⟩, .inl ⟨?_, le_rfl⟩⟩
    · rw [referenceRun, signum_mul]
      exact abs_nonneg _
    · rw [referenceRun, mul_zero]
    · rw [referenceRun, signum_mul, stopWay, mul_zero, zero_sub, neg_add_cancel, mul_zero, zero_div]
      exact abs_nonneg _
    · exact mul_self_nonneg _
  | succ n ih =>
    obtain ⟨hs, happroach⟩ := ih
    obtain ⟨hs', happroach'⟩ := hs.tick ha hdt (hcaps n)
      (referenceRun_tick ha hdt hcaps (fun _ => target) (q, 0) n)
    exact ⟨hs', approaches_trans happroach happroach'⟩

theorem referenceStep_rest (target cap : ℝ) :
    referenceStep target 0 target cap aMax dt = (target, 0, .hold) := by
  have hblt : blt 0 aMax = true := blt_iff.mpr ha
  have hnear : ble (Scalar.abs (target - target)) (referenceToleranceRad : ℝ) = true := by
    rw [ble_iff, Scalar.abs_eq, sub_self, abs_zero]
    exact referenceToleranceRad_pos.le
  have hslow : ble (Scalar.abs (0 : ℝ)) (aMax * dt) = true := by
    rw [ble_iff, Scalar.abs_eq, abs_zero]
    exact (mul_pos ha hdt).le
  simp only [referenceStep, lit_zero, isFinite_eq, hblt, hnear, hslow, Bool.and_self,
    Bool.not_true, Bool.false_eq_true, if_false, if_true]

/-- The speed of a run from rest is at most the largest limit so far. -/
theorem referenceRun_speed (hcaps : ∀ n, 0 ≤ caps n) (targets : ℕ → ℝ) (q : ℝ) (n : ℕ) :
    ∃ k ≤ n, |(referenceRun targets caps aMax dt (q, 0) (n + 1)).2| ≤ caps k := by
  induction n with
  | zero =>
    refine ⟨0, le_rfl, ?_⟩
    have h := (referenceRun_tick ha hdt hcaps targets (q, 0) 0).speed_le ha hdt (hcaps 0)
    have hrest : (referenceRun targets caps aMax dt (q, 0) 0).2 = 0 := rfl
    rwa [hrest, abs_zero, max_eq_right (hcaps 0)] at h
  | succ n ih =>
    obtain ⟨k, hk, hle⟩ := ih
    have h := (referenceRun_tick ha hdt hcaps targets (q, 0) (n + 1)).speed_le ha hdt (hcaps (n + 1))
    rcases le_max_iff.mp h with h | h
    · exact ⟨k, hk.trans n.le_succ, h.trans hle⟩
    · exact ⟨n + 1, le_rfl, h⟩

/-- A run with limits from `c` on arrives, and stays. -/
theorem referenceRun_arrives (hc : 0 < c) (hcaps : ∀ n, c ≤ caps n) (target : ℝ) (start : ℝ × ℝ) :
    ∃ n, ∀ m ≥ n, referenceRun (fun _ => target) caps aMax dt start m = (target, 0) := by
  have hnonneg : ∀ n, 0 ≤ caps n := fun n => hc.le.trans (hcaps n)
  have hleads := ((leads_settling ha hdt hc).trans (leads_passing ha hdt hc)).trans
    (leads_arrived ha hdt hc)
  obtain ⟨n, hway, hspeed⟩ := hleads
    (fun n => (target - (referenceRun (fun _ => target) caps aMax dt start n).1,
      (referenceRun (fun _ => target) caps aMax dt start n).2))
    (fun n => ⟨caps n, hcaps n, referenceRun_tick ha hdt hnonneg (fun _ => target) start n⟩) trivial
  refine ⟨n, fun m hm => ?_⟩
  induction m, hm using Nat.le_induction with
  | base => exact Prod.ext (sub_eq_zero.mp hway).symm hspeed
  | succ m _ ih =>
    rw [referenceRun, ih]
    dsimp only
    rw [referenceStep_rest ha hdt]

end

/-- The reference generator. Its velocity changes by at most `aMax * dt` a tick, for any targets and
speed limits. From rest with one target its speed is at most the largest limit so far, and it passes
the target by at most the tolerance or the way that one tick may miss it by. It stays at the target.
And if the limits stay away from zero it comes there from any state. -/
theorem reference_generator (aMax dt : ℝ) (ha : 0 < aMax) (hdt : 0 < dt) :
    (∀ (targets caps : ℕ → ℝ) (start : ℝ × ℝ), (∀ n, 0 ≤ caps n) → ∀ n,
      |(referenceRun targets caps aMax dt start (n + 1)).2 -
        (referenceRun targets caps aMax dt start n).2| ≤ aMax * dt) ∧
    (∀ (q target : ℝ) (caps : ℕ → ℝ), (∀ n, 0 ≤ caps n) → ∀ n,
      (∃ k ≤ n, |(referenceRun (fun _ => target) caps aMax dt (q, 0) (n + 1)).2| ≤ caps k) ∧
      (q ≤ target → (referenceRun (fun _ => target) caps aMax dt (q, 0) n).1 ≤
        target + max referenceToleranceRad (aMax * dt ^ 2 / 8)) ∧
      (target ≤ q → target - max referenceToleranceRad (aMax * dt ^ 2 / 8) ≤
        (referenceRun (fun _ => target) caps aMax dt (q, 0) n).1)) ∧
    (∀ target cap, referenceStep target 0 target cap aMax dt = (target, 0, .hold)) ∧
    ∀ (target c : ℝ) (caps : ℕ → ℝ) (start : ℝ × ℝ), 0 < c → (∀ n, c ≤ caps n) →
      ∃ n, ∀ m ≥ n, referenceRun (fun _ => target) caps aMax dt start m = (target, 0) := by
  refine ⟨fun targets caps start hcaps n => (referenceRun_tick ha hdt hcaps targets start n).slew ha hdt,
    fun q target caps hcaps n => ⟨referenceRun_speed ha hdt hcaps _ q n, ?_⟩,
    referenceStep_rest ha hdt,
    fun target c caps start hc hcaps => referenceRun_arrives ha hdt hc hcaps target start⟩
  obtain ⟨-, happroach⟩ := referenceRun_settling ha hdt hcaps q target n
  generalize (referenceRun (fun _ => target) caps aMax dt (q, 0) n).1 = q' at happroach ⊢
  have hmiss := le_max_right referenceToleranceRad (aMax * dt ^ 2 / 8)
  rcases happroach with ⟨hside, hle⟩ | hnear
  · have hpos := referenceToleranceRad_pos.trans_le
      (le_max_left referenceToleranceRad (aMax * dt ^ 2 / 8))
    refine ⟨fun h => ?_, fun h => ?_⟩
    · rcases h.eq_or_lt with rfl | h
      · rw [sub_self, abs_zero, abs_nonpos_iff] at hle
        linarith
      · linarith [(mul_nonneg_iff_of_pos_left (sub_pos.mpr h)).mp hside]
    · rcases h.eq_or_lt with rfl | h
      · rw [sub_self, abs_zero, abs_nonpos_iff] at hle
        linarith
      · linarith [nonpos_of_mul_nonneg_right hside (sub_neg.mpr h)]
  · have := abs_le.mp hnear
    exact ⟨fun _ => by linarith, fun _ => by linarith⟩

/-- A reference from zero to one, with a constant limit of one. -/
theorem reference_generator_bench :
    ∃ n, ∀ m ≥ n, referenceRun (fun _ => (1 : ℝ)) (fun _ => 1) 2 (1 / 200) (0, 0) m = (1, 0) :=
  (reference_generator 2 (1 / 200) (by norm_num) (by norm_num)).2.2.2 1 1 (fun _ => 1) (0, 0)
    one_pos fun _ => le_rfl

/-! ## Governed references -/

theorem timeScaleTarget_mem (error e0 e1 : ℝ) :
    0 ≤ timeScaleTarget error e0 e1 ∧ timeScaleTarget error e0 e1 ≤ 1 := by
  simp only [timeScaleTarget, isFinite_eq, Bool.not_true, Bool.false_eq_true, if_false, ble_iff,
    lit_zero, lit_one]
  split
  · split
    · exact ⟨zero_le_one, le_rfl⟩
    · exact ⟨le_rfl, zero_le_one⟩
  · rw [clamp_eq zero_le_one]
    exact ⟨le_max_left _ _, max_le zero_le_one (min_le_left _ _)⟩

theorem governorScale_mem (qRef q target e0 e1 : ℝ) :
    0 ≤ governorScale qRef q target e0 e1 ∧ governorScale qRef q target e0 e1 ≤ 1 := by
  simp only [governorScale, ble_iff, lit_zero, lit_one]
  split
  · exact ⟨zero_le_one, le_rfl⟩
  · exact timeScaleTarget_mem _ e0 e1

end Marengo

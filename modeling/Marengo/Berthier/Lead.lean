import Marengo.Berthier.Trapezoid

/-!
# The lead over a blocked joint

If a joint does not move, the reference runs ahead of it until the time scale stops it. From the
stop band on, the reference only brakes, so its lead is bounded by that band and the way that
braking takes. `coastWay` bounds that way: it is the way of a continuous brake from half a tick of
acceleration below the speed, and a brake in ticks takes no more.

A brake in ticks may take longer than `V * (V + aMax * dt) / (2 * aMax)`, by `aMax * dt ^ 2 / 8` at
most: `blocked_lead` has that term, and `blocked_lead_exceeds` needs a part of it.
-/

namespace Marengo

/-- The reference over a joint that stays at `q`, from rest there, with a speed limit for every
tick. -/
def governedRun {F : Type} [Analytic F] (gains : ScaledPdGains F) (state : ScaledPdState F)
    (q target : F) (caps : ℕ → F) (aMax dt : F) : ℕ → (F × F) × ScaledPdState F
  | 0 => ((q, lit 0), state)
  | n + 1 =>
    let now := governedRun gains state q target caps aMax dt n
    let next := now.2.advanceReference gains now.1.1 now.1.2 q target (caps n) aMax dt
    ((next.1.1, next.1.2.1), next.2)

section
variable {aMax dt cap : ℝ}

/-! ## The way of a brake -/

/-- A bound of the way that a brake from the speed `v` takes. -/
def coastWay {F : Type} [Scalar F] (aMax dt v : F) : F :=
  let speed := Scalar.max (lit 0) (v - aMax * dt / lit 2)
  speed * speed / (lit 2 * aMax)

theorem coastWay_eq (aMax dt v : ℝ) :
    coastWay aMax dt v = max 0 (v - aMax * dt / 2) ^ 2 / (2 * aMax) := by
  simp only [coastWay, Scalar.max_eq, lit_eq, Rat.cast_zero, Rat.cast_ofNat, sq]

theorem coastWay_nonneg (ha : 0 < aMax) (dt v : ℝ) : 0 ≤ coastWay aMax dt v := by
  rw [coastWay_eq]
  positivity

theorem coastWay_of_nonpos {v : ℝ} (ha : 0 < aMax) (hdt : 0 < dt) (hv : v ≤ 0) :
    coastWay aMax dt v = 0 := by
  have hdv : 0 < aMax * dt := mul_pos ha hdt
  rw [coastWay_eq, max_eq_left (by linarith)]
  simp

/-- A tick at a speed and the brake after it. -/
theorem tick_coastWay {w : ℝ} (ha : 0 < aMax) :
    w * dt + coastWay aMax dt w ≤ (w + aMax * dt / 2) ^ 2 / (2 * aMax) := by
  have htick : w * dt = 2 * w * (aMax * dt) / (2 * aMax) := by field_simp
  rw [coastWay_eq, htick, ← add_div]
  gcongr
  rcases le_total 0 (w - aMax * dt / 2) with h | h
  · rw [max_eq_right h]
    nlinarith
  · rw [max_eq_left h]
    nlinarith [sq_nonneg (w - aMax * dt / 2)]

theorem tick_coastWay_le {w v : ℝ} (ha : 0 < aMax) (hdt : 0 < dt) (hv : 0 ≤ v) (h : w ≤ v) :
    w * dt + coastWay aMax dt w ≤ (v + aMax * dt / 2) ^ 2 / (2 * aMax) := by
  have hdv : 0 < aMax * dt := mul_pos ha hdt
  rcases le_total 0 w with hw | hw
  · refine (tick_coastWay ha).trans ?_
    gcongr
  · rw [coastWay_of_nonpos ha hdt hw, add_zero]
    have hback : w * dt ≤ 0 := mul_nonpos_of_nonpos_of_nonneg hw hdt.le
    exact hback.trans (by positivity)

theorem coastWay_brake {w v : ℝ} (ha : 0 < aMax) (hdt : 0 < dt) (h : w ≤ max 0 (v - aMax * dt)) :
    w * dt + coastWay aMax dt w ≤ coastWay aMax dt v := by
  have hdv : 0 < aMax * dt := mul_pos ha hdt
  rcases le_total w 0 with hw | hw
  · rw [coastWay_of_nonpos ha hdt hw, add_zero]
    have hback : w * dt ≤ 0 := mul_nonpos_of_nonpos_of_nonneg hw hdt.le
    exact hback.trans (coastWay_nonneg ha dt v)
  · rcases le_max_iff.mp h with hzero | hslow
    · obtain rfl := le_antisymm hzero hw
      rw [coastWay_of_nonpos ha hdt le_rfl, zero_mul, add_zero]
      exact coastWay_nonneg ha dt v
    · refine (tick_coastWay ha).trans ?_
      have hmax : max 0 (v - aMax * dt / 2) = v - aMax * dt / 2 := max_eq_right (by linarith)
      rw [coastWay_eq, hmax]
      gcongr
      linarith

/-! ## The governed speed limit -/

/-- The reference is at the stop band or past it, on the way to its target: no speed. -/
theorem governorScale_stop {qRef q target e0 e1 : ℝ} (h01 : e0 < e1)
    (htowards : 0 < (qRef - q) * (target - qRef)) (hlead : e1 ≤ |qRef - q|) :
    governorScale qRef q target e0 e1 = 0 := by
  have hband : (1 : ℝ) - (|qRef - q| - e0) / (e1 - e0) ≤ 0 := by
    rw [sub_nonpos, one_le_div (by linarith)]
    linarith
  simp only [governorScale, timeScaleTarget, ble_iff, lit_zero, lit_one,
    if_neg (not_le.mpr htowards), Scalar.abs_eq, isFinite_eq, Bool.not_true, Bool.false_eq_true,
    if_false, if_neg (not_le.mpr h01)]
  rw [clamp_eq zero_le_one, min_eq_right (hband.trans zero_le_one), max_eq_left hband]

/-- A step from afar: the move, or a snap to a target that the move comes to. -/
theorem referenceStep_far {d q v target w : ℝ} (ha : 0 < aMax) (hcap : 0 ≤ cap)
    (hsign : d = 1 ∨ d = -1) (hfar : referenceToleranceRad < d * (target - q))
    (hw : w = min (max (min cap (brakingSpeed (d * (target - q)) (aMax * dt) aMax))
      (d * v - aMax * dt)) (d * v + aMax * dt)) :
    let next := referenceStep q v target cap aMax dt
    (next.1 = q + d * w * dt ∧ next.2.1 = d * w) ∨
      (next.1 = target ∧ next.2.1 = 0 ∧ d * (target - q) ≤ w * dt + referenceToleranceRad) := by
  have hd := sign_mul_self hsign
  have hpos : 0 < d * (target - q) := referenceToleranceRad_pos.trans hfar
  have hdist : |target - q| = d * (target - q) := by rw [← abs_sign_mul hsign, abs_of_pos hpos]
  have hblt : blt 0 aMax = true := blt_iff.mpr ha
  have hnear : ¬d * (target - q) ≤ referenceToleranceRad := not_le.mpr hfar
  have hway : d * (target - (q + d * w * dt)) = d * (target - q) - w * dt := by
    linear_combination (-w * dt) * hd
  simp only [referenceStep, isFinite_eq, Bool.true_and, lit_zero, hblt, Bool.not_true,
    Bool.false_eq_true, if_false, blt_iff, ble_iff, ite_cap hcap, Bool.and_eq_true,
    Bool.or_eq_true, Scalar.abs_eq, Scalar.min_eq, Scalar.max_eq, hdist, hnear, false_and,
    signum_of_pos hsign hpos, mul_comm v d, ← hw, hfar, true_and]
  split
  · rename_i harrived
    refine .inr ⟨rfl, rfl, ?_⟩
    rcases harrived.1 with hpast | hclose
    · -- the move passes the target
      have hprod : (target - (q + d * w * dt)) * (target - q) =
          (d * (target - q) - w * dt) * (d * (target - q)) := by
        linear_combination (-(target - q) * (target - q)) * hd
      rw [hprod] at hpast
      have := nonpos_of_mul_nonpos_left hpast hpos
      linarith [referenceToleranceRad_pos]
    · rw [← abs_sign_mul hsign, hway] at hclose
      linarith [le_abs_self (d * (target - q) - w * dt)]
  · exact .inl ⟨rfl, rfl⟩

/-! ## Bounded leads -/

/-- The bound of the lead, without the tolerance of an arrival. -/
def leadBound {F : Type} [Scalar F] (e1 V aMax dt : F) : F :=
  let speed := V + aMax * dt / lit 2
  e1 + speed * speed / (lit 2 * aMax)

theorem leadBound_eq (e1 V aMax dt : ℝ) :
    leadBound e1 V aMax dt = e1 + (V + aMax * dt / 2) ^ 2 / (2 * aMax) := by
  simp only [leadBound, lit_eq, Rat.cast_ofNat, sq]

/-- The lead `x` in the direction of the target, at the speed `u` in that direction, stays bounded
even if the reference brakes from now on. -/
def LeadBounded (e1 V aMax dt x u : ℝ) : Prop :=
  x + coastWay aMax dt u ≤ leadBound e1 V aMax dt ∧ |u| ≤ V

variable {e0 e1 V : ℝ}

/-- A tick towards the target keeps the lead bounded: below the stop band it may be as fast as `V`,
from there on it brakes. -/
theorem LeadBounded.towards {x u w desired : ℝ} (ha : 0 < aMax) (hdt : 0 < dt)
    (h : LeadBounded e1 V aMax dt x u) (hdesired : desired ≤ V) (hstop : e1 ≤ x → desired ≤ 0)
    (hw : w ≤ max desired (u - aMax * dt)) :
    x + w * dt + coastWay aMax dt w ≤ leadBound e1 V aMax dt := by
  have hdv : 0 < aMax * dt := mul_pos ha hdt
  have hV : 0 ≤ V := (abs_nonneg u).trans h.2
  rcases le_or_gt e1 x with hband | hbelow
  · have hbrake := coastWay_brake ha hdt (hw.trans (max_le_max_right _ (hstop hband)))
    linarith [h.1]
  · have hslow : w ≤ V := hw.trans (max_le hdesired (by linarith [le_abs_self u, h.2]))
    have htick := tick_coastWay_le ha hdt hV hslow
    rw [leadBound_eq]
    linarith

/-- A tick next to the target arrives there, or brakes. -/
theorem ReferenceTick.near {d r v r' v' : ℝ} (ha : 0 < aMax) (hdt : 0 < dt) (hsign : d = 1 ∨ d = -1)
    (hnear : |r| ≤ referenceToleranceRad) (h : ReferenceTick aMax dt cap r v r' v') :
    (r' = 0 ∧ v' = 0) ∨
      d * (r - r') + coastWay aMax dt (d * v') ≤ coastWay aMax dt (d * v) := by
  cases h with
  | snap slow => exact .inl ⟨rfl, rfl⟩
  | brake e sign near fast =>
    right
    have hbrake : d * (e * (e * v - aMax * dt)) ≤ max 0 (d * v - aMax * dt) := by
      rcases eq_or_ne e d with rfl | hne
      · rw [← mul_assoc, sign_mul_self sign, one_mul]
        exact le_max_right _ _
      · -- against the direction of the target, the speed in that direction is negative
        have hopposite : d * e = -1 := by
          rcases hsign with rfl | rfl <;> rcases sign with rfl | rfl <;> simp_all
        rw [← mul_assoc, hopposite]
        exact (by linarith : -1 * (e * v - aMax * dt) ≤ 0).trans (le_max_left _ _)
    have hcoast := coastWay_brake ha hdt hbrake
    linarith [show d * (r - (r - e * (e * v - aMax * dt) * dt)) =
      d * (e * (e * v - aMax * dt)) * dt by ring]
  | move e w sign far speed before =>
    rw [← abs_sign_mul sign] at hnear
    exact absurd far ((le_abs_self _).trans hnear).not_gt

/-- A reference that settles does not move away from the target it is far from. -/
theorem Settling.move_nonneg {e r v w desired : ℝ} (ha : 0 < aMax) (hdt : 0 < dt)
    (hs : Settling aMax dt r v) (hsign : e = 1 ∨ e = -1) (hfar : 0 < e * r) (hdesired : 0 ≤ desired)
    (hw : w = min (max desired (e * v - aMax * dt)) (e * v + aMax * dt)) : 0 ≤ w := by
  have hdv : 0 < aMax * dt := mul_pos ha hdt
  have hspeed : -(aMax * dt) ≤ e * v := by
    rcases hs with ⟨d, hd, hr, hv, -⟩ | ⟨-, hslow⟩
    · obtain rfl := sign_unique hsign hd hfar hr
      linarith
    · rw [← abs_sign_mul hsign] at hslow
      exact neg_le_of_abs_le hslow
  rw [hw]
  exact le_min (hdesired.trans (le_max_left _ _)) (by linarith)

/-- One tick of the governed reference: it arrives within the bound, or its lead stays bounded. -/
theorem LeadBounded.tick {d q qRef v target : ℝ} (ha : 0 < aMax) (hdt : 0 < dt) (h0 : 0 < e0)
    (h01 : e0 < e1) (hsign : d = 1 ∨ d = -1) (hcap : 0 ≤ cap) (hcapV : cap ≤ V)
    (hs : Settling aMax dt (target - qRef) v)
    (h : LeadBounded e1 V aMax dt (d * (qRef - q)) (d * v)) :
    let next := referenceStep qRef v target (governorScale qRef q target e0 e1 * cap) aMax dt
    (next.1 = target ∧ next.2.1 = 0 ∧
        d * (target - q) ≤ leadBound e1 V aMax dt + referenceToleranceRad) ∨
      LeadBounded e1 V aMax dt (d * (next.1 - q)) (d * next.2.1) := by
  intro next
  obtain ⟨hscale, hscale'⟩ := governorScale_mem qRef q target e0 e1
  have hlimit : 0 ≤ governorScale qRef q target e0 e1 * cap := mul_nonneg hscale hcap
  have hlimitV : governorScale qRef q target e0 e1 * cap ≤ V :=
    (mul_le_of_le_one_left hcap hscale').trans hcapV
  have htick : ReferenceTick aMax dt _ (target - qRef) v (target - next.1) next.2.1 :=
    referenceStep_tick ha hdt hlimit qRef v target
  have hspeed : |d * next.2.1| ≤ V := by
    rw [abs_sign_mul hsign]
    refine (htick.speed_le ha hdt hlimit).trans (max_le ?_ hlimitV)
    rw [← abs_sign_mul hsign]
    exact h.2
  have hcoast := coastWay_nonneg ha dt (d * v)
  have hbound := h.1
  rcases le_or_gt |target - qRef| referenceToleranceRad with hnear | hfar
  · rcases htick.near ha hdt hsign hnear with ⟨hway, hrest⟩ | hbrake
    · refine .inl ⟨(sub_eq_zero.mp hway).symm, hrest, ?_⟩
      rw [← abs_sign_mul hsign] at hnear
      linarith [le_abs_self (d * (target - qRef))]
    · exact .inr ⟨by linarith, hspeed⟩
  · -- the direction of the target as seen from the reference
    have he := signum_cases (target - qRef)
    rw [← signum_mul] at hfar
    generalize signum (target - qRef) = e at he hfar
    have hpos := referenceToleranceRad_pos.trans hfar
    have hdesired := le_min hlimit (brakingSpeed_nonneg ha (aMax * dt) hpos.le)
    obtain ⟨w, hw⟩ : ∃ w, w = min (max (min (governorScale qRef q target e0 e1 * cap)
      (brakingSpeed (e * (target - qRef)) (aMax * dt) aMax)) (e * v - aMax * dt))
      (e * v + aMax * dt) := ⟨_, rfl⟩
    have hstep := referenceStep_far ha hlimit he hfar hw
    rcases eq_or_ne e d with rfl | hne
    · -- before the target
      have hlead : e * (qRef - q) + w * dt + coastWay aMax dt w ≤ leadBound e1 V aMax dt := by
        refine h.towards ha hdt ((min_le_left _ _).trans hlimitV) (fun hband => ?_)
          (hw.le.trans (min_le_left _ _))
        have hprod : 0 < (qRef - q) * (target - qRef) := by
          have := mul_pos ((h0.trans h01).trans_le hband) hpos
          rwa [mul_mul_mul_comm, sign_mul_self he, one_mul] at this
        rw [governorScale_stop h01 hprod
          (hband.trans ((le_abs_self _).trans (abs_sign_mul he _).le)), zero_mul]
        exact min_le_left _ _
      rcases hstep with ⟨hnext, hnextV⟩ | ⟨hnext, hrest, hreach⟩
      · refine .inr ⟨?_, hspeed⟩
        have hd := sign_mul_self he
        rw [show next.1 = _ from hnext, show next.2.1 = _ from hnextV,
          show e * (qRef + e * w * dt - q) = e * (qRef - q) + w * dt by
            linear_combination (w * dt) * hd,
          show e * (e * w) = w by linear_combination w * hd]
        exact hlead
      · refine .inl ⟨hnext, hrest, ?_⟩
        linarith [coastWay_nonneg ha dt w]
    · -- past the target: the reference turns back
      have hopposite : e = -d := by
        rcases hsign with rfl | rfl <;> rcases he with rfl | rfl <;> simp_all
      have hwpos := hs.move_nonneg ha hdt he hpos hdesired hw
      rcases hstep with ⟨hnext, hnextV⟩ | ⟨hnext, hrest, -⟩
      · refine .inr ⟨?_, hspeed⟩
        have hd := sign_mul_self hsign
        have hback : d * next.2.1 ≤ 0 := by
          rw [show next.2.1 = _ from hnextV, hopposite]
          linarith [show d * (-d * w) = -w by linear_combination (-w) * hd]
        have hwdt : 0 ≤ w * dt := mul_nonneg hwpos hdt.le
        rw [coastWay_of_nonpos ha hdt hback, show next.1 = _ from hnext, hopposite]
        linarith [show d * (qRef + -d * w * dt - q) = d * (qRef - q) - w * dt by
          linear_combination (-w * dt) * hd]
      · refine .inl ⟨hnext, hrest, ?_⟩
        rw [hopposite] at hpos
        linarith [referenceToleranceRad_pos]

/-! ## Runs -/

section
variable {gains : ScaledPdGains ℝ} {caps : ℕ → ℝ}

/-- A governed run is a run of the reference generator, with the limits that the time scale
leaves. -/
theorem governedRun_eq (gains : ScaledPdGains ℝ) (state : ScaledPdState ℝ) (q target : ℝ)
    (caps : ℕ → ℝ) (aMax dt : ℝ) (n : ℕ) :
    (governedRun gains state q target caps aMax dt n).1 =
      referenceRun (fun _ => target) (fun k => governorScale
        (governedRun gains state q target caps aMax dt k).1.1 q target gains.e0 gains.e1 * caps k)
        aMax dt (q, 0) n := by
  induction n with
  | zero => simp [governedRun, referenceRun, lit_zero]
  | succ n ih => simp only [governedRun, referenceRun, ScaledPdState.advanceReference, ← ih]

theorem governedRun_settling (gains : ScaledPdGains ℝ) (state : ScaledPdState ℝ) (q target : ℝ)
    (ha : 0 < aMax) (hdt : 0 < dt) (hcaps : ∀ n, 0 ≤ caps n) (n : ℕ) :
    let run := (governedRun gains state q target caps aMax dt n).1
    Settling aMax dt (target - run.1) run.2 ∧
      Approaches aMax dt (target - q) (target - run.1) := by
  have hlimits : ∀ k, 0 ≤ governorScale (governedRun gains state q target caps aMax dt k).1.1 q
      target gains.e0 gains.e1 * caps k :=
    fun k => mul_nonneg (governorScale_mem _ _ _ _ _).1 (hcaps k)
  have hrun := referenceRun_settling ha hdt hlimits q target n
  rwa [← governedRun_eq gains state q target caps aMax dt n] at hrun

/-- Over a blocked joint the reference has arrived within the bound, or its lead stays bounded. -/
theorem governedRun_bounded (state : ScaledPdState ℝ) (q target : ℝ) {d : ℝ} (ha : 0 < aMax)
    (hdt : 0 < dt) (h0 : 0 < gains.e0) (h01 : gains.e0 < gains.e1) (hV : 0 ≤ V)
    (hcaps : ∀ n, 0 ≤ caps n ∧ caps n ≤ V) (hsign : d = 1 ∨ d = -1) (n : ℕ) :
    let run := (governedRun gains state q target caps aMax dt n).1
    (run.1 = target ∧ run.2 = 0 ∧
        d * (target - q) ≤ leadBound gains.e1 V aMax dt + referenceToleranceRad) ∨
      LeadBounded gains.e1 V aMax dt (d * (run.1 - q)) (d * run.2) := by
  induction n with
  | zero =>
    right
    have hdv : 0 < aMax * dt := mul_pos ha hdt
    have he1 := h0.trans h01
    refine ⟨?_, ?_⟩
    · simp only [governedRun, lit_zero, sub_self, mul_zero,
        coastWay_of_nonpos ha hdt le_rfl, add_zero, leadBound_eq]
      positivity
    · simpa [governedRun, lit_zero] using hV
  | succ n ih =>
    rcases ih with ⟨hway, hrest, hreach⟩ | hlead
    · left
      refine ⟨?_, ?_, hreach⟩ <;>
        simp only [governedRun, ScaledPdState.advanceReference, hway, hrest,
          referenceStep_rest ha hdt]
    · exact hlead.tick ha hdt h0 h01 hsign (hcaps n).1 (hcaps n).2
        (governedRun_settling gains state q target ha hdt (fun n => (hcaps n).1) n).1

/-- The lead over a blocked joint: at most the stop band, the way of a brake from the largest speed
limit, what a brake in ticks adds to it, and the tolerance of an arrival. -/
theorem blocked_lead (gains : ScaledPdGains ℝ) (state : ScaledPdState ℝ) (q target : ℝ)
    (caps : ℕ → ℝ) (V aMax dt : ℝ) (ha : 0 < aMax) (hdt : 0 < dt) (h0 : 0 < gains.e0)
    (h01 : gains.e0 < gains.e1) (hcaps : ∀ n, 0 ≤ caps n ∧ caps n ≤ V) (n : ℕ) :
    |(governedRun gains state q target caps aMax dt n).1.1 - q| ≤
      gains.e1 + V * (V + aMax * dt) / (2 * aMax) + aMax * dt ^ 2 / 8 + 1 / 10000 := by
  have hV : 0 ≤ V := (hcaps 0).1.trans (hcaps 0).2
  have htolerance : (referenceToleranceRad : ℝ) = 1 / 10000 := by
    rw [referenceToleranceRad, lit_eq]
    norm_num
  have hbound : leadBound gains.e1 V aMax dt =
      gains.e1 + V * (V + aMax * dt) / (2 * aMax) + aMax * dt ^ 2 / 8 := by
    rw [leadBound_eq]
    field_simp
    ring
  have hsign := signum_cases (target - q)
  have hway : 0 ≤ signum (target - q) * (target - q) := by
    rw [signum_mul]
    exact abs_nonneg _
  have hlead := governedRun_bounded state q target ha hdt h0 h01 hV hcaps hsign n
  obtain ⟨-, happroach⟩ := governedRun_settling gains state q target ha hdt (fun n => (hcaps n).1) n
  generalize (governedRun gains state q target caps aMax dt n).1 = run at hlead happroach ⊢
  generalize signum (target - q) = d at hsign hway hlead
  have hd := sign_mul_self hsign
  rw [← hbound, ← htolerance, ← abs_sign_mul hsign, abs_le]
  constructor
  · -- the reference is not behind the joint by more than the last tick may miss the target by
    have hmiss : aMax * dt ^ 2 / 8 ≤ leadBound gains.e1 V aMax dt := by
      have he1 := (h0.trans h01).le
      rw [hbound]
      have : 0 ≤ V * (V + aMax * dt) / (2 * aMax) := by positivity
      linarith
    have hsplit : d * (run.1 - q) = d * (target - q) - d * (target - run.1) := by ring
    have htol := referenceToleranceRad_pos
    rcases happroach with ⟨hside, hle⟩ | hnear
    · rw [← abs_sign_mul hsign, ← abs_sign_mul hsign (target - q), abs_of_nonneg hway] at hle
      have hbound_nonneg : 0 ≤ leadBound gains.e1 V aMax dt := by
        refine le_trans ?_ hmiss
        positivity
      linarith [le_abs_self (d * (target - run.1))]
    · rw [← abs_sign_mul hsign] at hnear
      linarith [le_abs_self (d * (target - run.1))]
  · rcases hlead with ⟨hrun, -, hreach⟩ | hbounded
    · rwa [hrun]
    · linarith [hbounded.1, coastWay_nonneg ha dt (d * run.2), referenceToleranceRad_pos]

/-- Parameters of a blocked joint whose last tick before the stop band is slow. -/
def blockedBench {F : Type} [Scalar F] : ScaledPdGains F where
  kd := lit 0
  e0 := lit (1 / 2)
  e1 := lit (3 / 5)
  integralBand := lit 1
  integralLeakS := lit 1
  integralMode := .targetBand
  integralCapNm := lit 0
  inertia := lit 0
  hostDamping := lit 0
  velocityFilterS := lit 0
  ffStepMaxNm := none
  friction := none

theorem blockedBench_e0 : (blockedBench.e0 : ℝ) = 1 / 2 := by
  simp only [blockedBench, lit_eq]
  norm_num

theorem blockedBench_e1 : (blockedBench.e1 : ℝ) = 3 / 5 := by
  simp only [blockedBench, lit_eq]
  norm_num

/-- A tick of that reference at the speed `1 / 2`, before the stop band. -/
theorem blockedBench_step {x v : ℝ} (hx : 0 ≤ x) (hx' : x ≤ 1 / 2) (hv : 0 ≤ v) (hv' : v ≤ 1 / 2) :
    let next := referenceStep x v 10
      (governorScale x 0 10 blockedBench.e0 blockedBench.e1 * (1 / 2)) 1 1
    next.1 = x + 1 / 2 ∧ next.2.1 = 1 / 2 := by
  have hscale : governorScale x 0 10 blockedBench.e0 blockedBench.e1 = 1 := by
    rw [blockedBench_e0, blockedBench_e1]
    have hband : (1 : ℝ) ≤ 1 - (|x - 0| - 1 / 2) / (3 / 5 - 1 / 2) := by
      rw [sub_zero, abs_of_nonneg hx, le_sub_self_iff]
      exact div_nonpos_of_nonpos_of_nonneg (by linarith) (by norm_num)
    simp only [governorScale, timeScaleTarget, ble_iff, lit_zero, lit_one,
      Scalar.abs_eq, isFinite_eq, Bool.not_true, Bool.false_eq_true, if_false]
    split
    · rfl
    · rw [if_neg (by norm_num), clamp_eq zero_le_one, min_eq_left hband,
        max_eq_right zero_le_one]
  have hbrake : (1 / 2 : ℝ) ≤ brakingSpeed (1 * (10 - x)) (1 * 1) 1 := by
    rw [brakingSpeed_eq, le_sub_iff_add_le]
    apply Real.le_sqrt_of_sq_le
    linarith
  have hfar : (referenceToleranceRad : ℝ) < 1 * (10 - x) := by
    rw [referenceToleranceRad, lit_eq]
    norm_num
    linarith
  have hspeed : (1 / 2 : ℝ) = min (max (min (1 * (1 / 2)) (brakingSpeed (1 * (10 - x)) (1 * 1) 1))
      (1 * v - 1 * 1)) (1 * v + 1 * 1) := by
    rw [one_mul (1 / 2 : ℝ), min_eq_left hbrake, max_eq_left (by linarith),
      min_eq_left (by linarith)]
  rw [hscale]
  rcases referenceStep_far one_pos (by norm_num) (.inl rfl) hfar hspeed with ⟨hq, hv⟩ | ⟨-, -, hreach⟩
  · exact ⟨by rw [hq]; ring, by rw [hv, one_mul]⟩
  · rw [referenceToleranceRad, lit_eq] at hreach
    norm_num at hreach
    linarith

/-- The reference of that joint, towards a far target. -/
def blockedRun {F : Type} [Analytic F] (n : ℕ) : (F × F) × ScaledPdState F :=
  governedRun blockedBench .default (lit 0) (lit 10) (fun _ => lit (1 / 2))
    (lit 1) (lit 1) n

theorem blockedRun_eq (n : ℕ) : (blockedRun n : (ℝ × ℝ) × ScaledPdState ℝ) =
    governedRun blockedBench .default 0 10 (fun _ => 1 / 2) 1 1 n := by
  have hten : (lit 10 : ℝ) = 10 := by
    rw [lit_eq]
    norm_num
  have hhalf : (lit (1 / 2) : ℝ) = 1 / 2 := by
    rw [lit_eq]
    norm_num
  rw [blockedRun, lit_zero, lit_one, hten, hhalf]

/-- With large ticks the lead over a blocked joint exceeds the stop band, the way of a continuous
brake and the tolerance of an arrival. -/
theorem blocked_lead_exceeds :
    (0 : ℝ) < blockedBench.e0 ∧ (blockedBench.e0 : ℝ) < blockedBench.e1 ∧
      blockedBench.e1 + (1 / 2) * (1 / 2 + 1 * 1) / (2 * 1) + 1 / 10000 <
        |(blockedRun 2).1.1 - (0 : ℝ)| := by
  have hfirst : (governedRun blockedBench .default (0 : ℝ) 10 (fun _ => 1 / 2) 1 1 1).1 =
      (1 / 2, 1 / 2) := by
    have h := blockedBench_step (x := 0) (v := 0) le_rfl (by norm_num) le_rfl (by norm_num)
    rw [zero_add] at h
    simp only [governedRun, ScaledPdState.advanceReference, lit_zero]
    exact Prod.ext h.1 h.2
  have hsecond : (blockedRun 2).1.1 = (1 : ℝ) := by
    have h := blockedBench_step (x := 1 / 2) (v := 1 / 2) (by norm_num) le_rfl (by norm_num) le_rfl
    rw [blockedRun_eq, governedRun]
    simp only [ScaledPdState.advanceReference, hfirst, h.1]
    norm_num
  rw [hsecond, blockedBench_e0, blockedBench_e1]
  norm_num

/-- The bound at that joint. -/
theorem blocked_lead_bench : |(blockedRun 2).1.1 - (0 : ℝ)| ≤
    blockedBench.e1 + (1 / 2) * (1 / 2 + 1 * 1) / (2 * 1) + 1 * 1 ^ 2 / 8 + 1 / 10000 := by
  rw [blockedRun_eq]
  exact blocked_lead blockedBench .default 0 10 (fun _ => 1 / 2) (1 / 2) 1 1 one_pos one_pos
    (by norm_num [blockedBench_e0]) (by norm_num [blockedBench_e0, blockedBench_e1])
    (fun _ => by norm_num) 2

end

end

end Marengo

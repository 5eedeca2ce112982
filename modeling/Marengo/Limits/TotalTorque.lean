import Marengo.Davout.Bench
import Mathlib.Algebra.Order.Group.MinMax
import Mathlib.Tactic.Linarith
import Mathlib.Tactic.NormNum
import Mathlib.Tactic.Ring

/-!
# The bound on the total torque

The drive computes `kp·(q_des − q) + kd·(dq_des − dq) + τ_ff`. In exact arithmetic the clamp of this
total is the projection of the requested PD torque on a window around zero that depends only on
`τ_ff`, the cap and the margin of the prediction (`reachableTorque_eq`). What the clamp does to a
command, how far the total can go and how the bounded torque follows the requested one are facts
about that projection.
-/

namespace Marengo

/-! ## The window -/

section
variable {K : Type} [Field K] [LinearOrder K]

/-- The PD torques that the clamp leaves alone. -/
def torqueWindow (torqueFf capNm margin : K) : K × K :=
  if margin ≤ capNm then (min (margin - capNm - torqueFf) 0, max (capNm - margin - torqueFf) 0)
  else (min (-torqueFf) 0, max (-torqueFf) 0)

theorem torqueWindow_contains_zero (torqueFf capNm margin : K) :
    (torqueWindow torqueFf capNm margin).1 ≤ 0 ∧ 0 ≤ (torqueWindow torqueFf capNm margin).2 := by
  unfold torqueWindow
  split
  · exact ⟨min_le_right _ _, le_max_right _ _⟩
  · exact ⟨min_le_right _ _, le_max_right _ _⟩

variable [IsStrictOrderedRing K]

/-- A torque of the window stays within the cap, or within the feedforward where that exceeds it. -/
theorem abs_add_le_of_torqueWindow {x torqueFf capNm margin : K}
    (hlo : (torqueWindow torqueFf capNm margin).1 ≤ x)
    (hhi : x ≤ (torqueWindow torqueFf capNm margin).2) :
    |x + torqueFf| ≤ max (capNm - margin) |torqueFf| := by
  unfold torqueWindow at hlo hhi
  rw [abs_le]
  split at hlo
  · rename_i h
    rw [if_pos h] at hhi
    grind
  · rename_i h
    rw [if_neg h] at hhi
    grind

variable [ExactWorld K]

/-- The reachable torque is the requested one projected on the window. -/
theorem reachableTorque_eq (pd torqueFf capNm margin : K) :
    reachableTorque pd torqueFf capNm margin =
      max (torqueWindow torqueFf capNm margin).1 (min (torqueWindow torqueFf capNm margin).2 pd) := by
  have hle : min pd 0 ≤ max pd 0 := (min_le_left _ _).trans (le_max_left _ _)
  have hwindow : -capNm + margin - torqueFf ≤ capNm - margin - torqueFf ↔ margin ≤ capNm := by
    constructor <;> intro h <;> linarith
  simp only [reachableTorque, torqueWindow, ble_iff, Scalar.min_eq, Scalar.max_eq,
    lit_zero, clamp_eq hle]
  by_cases h : margin ≤ capNm
  · rw [if_pos (hwindow.mpr h), if_pos h, clamp_eq (hwindow.mpr h)]
    grind
  · rw [if_neg (mt hwindow.mp h), if_neg h]
    grind

/-- The reachable torque lies in the window. -/
theorem reachableTorque_mem (pd torqueFf capNm margin : K) :
    (torqueWindow torqueFf capNm margin).1 ≤ reachableTorque pd torqueFf capNm margin ∧
      reachableTorque pd torqueFf capNm margin ≤ (torqueWindow torqueFf capNm margin).2 := by
  have hzero := torqueWindow_contains_zero torqueFf capNm margin
  rw [reachableTorque_eq]
  exact ⟨le_max_left _ _, max_le (hzero.1.trans hzero.2) (min_le_left _ _)⟩

theorem reachableTorque_zero (torqueFf capNm margin : K) :
    reachableTorque 0 torqueFf capNm margin = 0 := by
  have hzero := torqueWindow_contains_zero torqueFf capNm margin
  rw [reachableTorque_eq, min_eq_right hzero.2, max_eq_right hzero.1]

/-- The projection never takes the total further from zero. -/
theorem abs_reachableTorque_add_le (pd torqueFf capNm margin : K) :
    |reachableTorque pd torqueFf capNm margin + torqueFf| ≤ |pd + torqueFf| := by
  rw [reachableTorque_eq, torqueWindow]
  split <;> grind

/-- A prediction within the cap is a torque of the window. -/
theorem reachableTorque_of_le {pd torqueFf capNm margin : K}
    (h : |pd + torqueFf| + margin ≤ capNm) : reachableTorque pd torqueFf capNm margin = pd := by
  have hmargin : margin ≤ capNm := by linarith [abs_nonneg (pd + torqueFf)]
  have hpd := abs_le.mp (le_sub_iff_add_le.mpr h)
  rw [reachableTorque_eq, torqueWindow, if_pos hmargin]
  grind

/-- The bounded torque follows the requested one, and never faster. -/
theorem reachableTorque_follows {pd pd' : K} (torqueFf capNm margin : K) (h : pd ≤ pd') :
    reachableTorque pd torqueFf capNm margin ≤ reachableTorque pd' torqueFf capNm margin ∧
      reachableTorque pd' torqueFf capNm margin - reachableTorque pd torqueFf capNm margin ≤
        pd' - pd := by
  rw [reachableTorque_eq, reachableTorque_eq]
  refine ⟨max_le_max le_rfl (min_le_min le_rfl h), ?_⟩
  generalize torqueWindow torqueFf capNm margin = w
  have hmin : min w.2 pd' - min w.2 pd ≤ pd' - pd := by grind
  exact (max_sub_max_le_max _ _ _ _).trans (max_le (by linarith) hmin)

/-- The reachable torque lies between zero and the requested one. -/
theorem reachableTorque_div_mem (pd torqueFf capNm margin : K) :
    0 ≤ reachableTorque pd torqueFf capNm margin / pd ∧
      reachableTorque pd torqueFf capNm margin / pd ≤ 1 := by
  have hzero := torqueWindow_contains_zero torqueFf capNm margin
  rw [reachableTorque_eq]
  generalize torqueWindow torqueFf capNm margin = w at hzero
  rcases lt_trichotomy pd 0 with h | rfl | h
  · rw [div_nonneg_iff, div_le_one_of_neg h]
    grind
  · simp
  · rw [div_nonneg_iff, div_le_one₀ h]
    grind

end

/-! ## The clamp -/

section
variable {K : Type} [Field K] {cmd : MitJointCommand K} {q dq s capNm horizonS : K}

/-- The command with its errors scaled by `s` towards feedback. -/
def MitJointCommand.towards (cmd : MitJointCommand K) (q dq s : K) : MitJointCommand K :=
  { cmd with
    positionRad := q + s * (cmd.positionRad - q)
    velocityRadS := dq + s * (cmd.velocityRadS - dq) }

theorem MitJointCommand.towards_one : cmd.towards q dq 1 = cmd := by
  simp [MitJointCommand.towards]

variable [LinearOrder K] [ExactWorld K]

/-- Scaling the errors scales the PD torque. -/
theorem pdTorque_towards : pdTorque (cmd.towards q dq s) q dq = s * pdTorque cmd q dq := by
  change cmd.kp * (q + s * (cmd.positionRad - q) - q) +
    cmd.kd * (dq + s * (cmd.velocityRadS - dq) - dq) =
    s * (cmd.kp * (cmd.positionRad - q) + cmd.kd * (cmd.velocityRadS - dq))
  ring

/-- A clamp that succeeds had a cap and a horizon to work with. -/
theorem clampTotalTorque_domain {out : MitJointCommand K} {clamp : Option (TotalTorqueClamp K)}
    (h : clampTotalTorque cmd q dq capNm horizonS = .ok (out, clamp)) : 0 ≤ capNm ∧ 0 < horizonS := by
  simp only [clampTotalTorque, validateFinite, isFinite_eq, bind, Except.bind, Bool.not_true,
    Bool.false_or, Bool.or_false, if_true, Bool.false_eq_true, if_false] at h
  split at h
  · cases h
  · rename_i hdomain
    rw [Bool.or_eq_true, blt_iff, ble_iff, lit_zero, not_or] at hdomain
    exact ⟨not_lt.mp hdomain.1, not_le.mp hdomain.2⟩

variable [IsStrictOrderedRing K]

/-- In exact arithmetic the clamp succeeds: it scales the errors until the PD torque is the reachable
one, and it takes nothing from a command whose PD torque is reachable. -/
theorem clampTotalTorque_ok (cmd : MitJointCommand K) (q dq : K) (hcap : 0 ≤ capNm)
    (hhorizon : 0 < horizonS) :
    ∃ s clamp, clampTotalTorque cmd q dq capNm horizonS = .ok (cmd.towards q dq s, clamp) ∧
      0 ≤ s ∧ s ≤ 1 ∧
      s * pdTorque cmd q dq = reachableTorque (pdTorque cmd q dq) cmd.torqueFfNm capNm
        (marginNm cmd dq horizonS) ∧
      (reachableTorque (pdTorque cmd q dq) cmd.torqueFfNm capNm (marginNm cmd dq horizonS) =
        pdTorque cmd q dq → clamp = none) ∧ (clamp = none → s = 1) := by
  obtain ⟨hscale, hscale'⟩ := reachableTorque_div_mem (pdTorque cmd q dq) cmd.torqueFfNm capNm
    (marginNm cmd dq horizonS)
  have hdomain : ¬(blt capNm (lit 0) || ble horizonS (lit 0)) := by
    rw [Bool.or_eq_true, blt_iff, ble_iff, lit_zero]
    rintro (h | h)
    · exact absurd h (not_lt.mpr hcap)
    · exact absurd h (not_le.mpr hhorizon)
  simp only [clampTotalTorque, validateFinite, isFinite_eq, bind, Except.bind, Bool.not_true,
    Bool.false_or, Bool.or_false, if_true, Bool.false_eq_true, if_false, hdomain]
  have hzero : pdTorque cmd q dq = 0 → reachableTorque (pdTorque cmd q dq) cmd.torqueFfNm capNm
      (marginNm cmd dq horizonS) = 0 := by
    intro h
    rw [h]
    exact reachableTorque_zero ..
  generalize reachableTorque (pdTorque cmd q dq) cmd.torqueFfNm capNm (marginNm cmd dq horizonS) = r
    at hscale hscale' hzero ⊢
  by_cases heq : r = pdTorque cmd q dq
  · refine ⟨1, none, ?_, zero_le_one, le_rfl, by rw [one_mul, heq], fun _ => rfl, fun _ => rfl⟩
    rw [if_pos (beq_iff.mpr heq), MitJointCommand.towards_one]
  · -- at zero the projection would leave the torque alone
    have hpd : pdTorque cmd q dq ≠ 0 := fun h => heq ((hzero h).trans h.symm)
    have hunit : ble (lit 0) (r / pdTorque cmd q dq) &&
        ble (r / pdTorque cmd q dq) (lit 1) := by
      rw [Bool.and_eq_true, ble_iff, ble_iff, lit_zero, lit_one]
      exact ⟨hscale, hscale'⟩
    rw [if_neg (mt beq_iff.mp heq), if_neg (by rw [hunit]; decide)]
    exact ⟨r / pdTorque cmd q dq, _, rfl, hscale, hscale', div_mul_cancel₀ _ hpd,
      fun h => absurd h heq, fun h => absurd h (Option.some_ne_none _)⟩

/-- The bound on the total torque. A command whose prediction is within the cap passes as it is. Any
other has its errors scaled by one common factor; the total it leaves the drive is within the cap less
the margin, or within the feedforward, and no larger than the requested one. For one feedforward, cap
and margin the bounded PD torque is a nondecreasing function of the requested one that never grows
faster. -/
theorem clampTotalTorque_law (cmd : MitJointCommand K) (q dq capNm horizonS : K) (hcap : 0 ≤ capNm)
    (hhorizon : 0 < horizonS) :
    ∃ out clamp, clampTotalTorque cmd q dq capNm horizonS = .ok (out, clamp) ∧
      (predictedTotalTorqueNm cmd q dq horizonS ≤ capNm → out = cmd ∧ clamp = none) ∧
      (∃ s, 0 ≤ s ∧ s ≤ 1 ∧
        out = { cmd with
          positionRad := q + s * (cmd.positionRad - q)
          velocityRadS := dq + s * (cmd.velocityRadS - dq) }) ∧
      |pdTorque out q dq + out.torqueFfNm| ≤
        max (capNm - marginNm cmd dq horizonS) |cmd.torqueFfNm| ∧
      |pdTorque out q dq + out.torqueFfNm| ≤ |pdTorque cmd q dq + cmd.torqueFfNm| ∧
      ∀ (cmd' : MitJointCommand K) (q' dq' horizonS' : K) (out' : MitJointCommand K) (clamp'),
        0 < horizonS' → cmd'.torqueFfNm = cmd.torqueFfNm →
        marginNm cmd' dq' horizonS' = marginNm cmd dq horizonS →
        clampTotalTorque cmd' q' dq' capNm horizonS' = .ok (out', clamp') →
        pdTorque cmd q dq ≤ pdTorque cmd' q' dq' →
        pdTorque out q dq ≤ pdTorque out' q' dq' ∧
          pdTorque out' q' dq' - pdTorque out q dq ≤ pdTorque cmd' q' dq' - pdTorque cmd q dq := by
  obtain ⟨s, clamp, hok, hs, hs', hpd, hnone, hone⟩ :=
    clampTotalTorque_ok cmd q dq hcap hhorizon
  have hreach : pdTorque (cmd.towards q dq s) q dq = reachableTorque (pdTorque cmd q dq)
      cmd.torqueFfNm capNm (marginNm cmd dq horizonS) := pdTorque_towards.trans hpd
  have hmem := reachableTorque_mem (pdTorque cmd q dq) cmd.torqueFfNm capNm
    (marginNm cmd dq horizonS)
  refine ⟨cmd.towards q dq s, clamp, hok, fun hle => ?_, ⟨s, hs, hs', rfl⟩, ?_, ?_, ?_⟩
  · have hclamp := hnone (reachableTorque_of_le hle)
    rw [hone hclamp]
    exact ⟨MitJointCommand.towards_one, hclamp⟩
  · rw [hreach]
    exact abs_add_le_of_torqueWindow hmem.1 hmem.2
  · rw [hreach]
    exact abs_reachableTorque_add_le ..
  · intro cmd' q' dq' horizonS' out' clamp' hhorizon' hff hmargin hok' hle
    obtain ⟨s', _, hok₂, -, -, hpd', -, -⟩ :=
      clampTotalTorque_ok cmd' q' dq' hcap hhorizon'
    obtain ⟨rfl, -⟩ := Prod.mk.inj (Except.ok.inj (hok'.symm.trans hok₂))
    rw [hreach, pdTorque_towards.trans hpd', hff, hmargin]
    exact reachableTorque_follows _ _ _ hle

end

attribute [local instance] Bench.exact

/-- A joint that falls at 2.9 rad/s against a reference of 1.25 rad/s: the total of 16.6 Nm is bounded
by the cap of 5 Nm less the margin. -/
theorem clampTotalTorque_law_falling : ∃ out clamp,
    clampTotalTorque (⟨"elbow", 18, 3, 31 / 50, 5 / 4, 2⟩ : MitJointCommand ℚ) (1 / 2) (-29 / 10) 5
        (1 / 100) = .ok (out, clamp) ∧
      |pdTorque out (1 / 2) (-29 / 10) + out.torqueFfNm| ≤ max (5 - 411 / 500) 2 := by
  obtain ⟨out, clamp, hok, -, -, hbound, -⟩ := clampTotalTorque_law
    (⟨"elbow", 18, 3, 31 / 50, 5 / 4, 2⟩ : MitJointCommand ℚ) (1 / 2) (-29 / 10) 5 (1 / 100)
    (by norm_num) (by norm_num)
  refine ⟨out, clamp, hok, hbound.trans ?_⟩
  decide +kernel

end Marengo

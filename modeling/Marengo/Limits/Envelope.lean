import Marengo.Kinematics.Limits
import Mathlib.Tactic.Linarith
import Mathlib.Tactic.Positivity
import Mathlib.Tactic.GCongr
import Mathlib.Tactic.NormNum

/-!
# The command envelope

In exact arithmetic: the commandable range is never empty, lies in the soft range where that is ordered
inside the hard one, and shrinks with the speed of the motion towards a limit until it collapses
(`rawCommandBounds` is the range before it does). Clamping into it is idempotent, for positions and for
hold targets. The speed cap of an approach vanishes at the margin before the wall and grows with the
distance; a cruise speed that is not positive gives a cap of zero.
-/

namespace Marengo

section
variable {K : Type} [Field K] [LinearOrder K]

attribute [local instance] Scalar.ofField

/-! ## Margins -/

/-- Margin settings that are not negative. -/
structure LimitMarginConfig.Nonneg (m : LimitMarginConfig K) : Prop where
  minRad : 0 ≤ m.minRad
  kVS : 0 ≤ m.kVS
  kStop : 0 ≤ m.kStop
  deadband : 0 ≤ m.velocityDeadbandRadS
  slack : 0 ≤ m.measuredFaultSlackRad
  decel : 0 ≤ m.decelRadS2

def marginSpeed (dqCmd : K) (m : LimitMarginConfig K) : K :=
  if |dqCmd| ≤ m.velocityDeadbandRadS then 0 else |dqCmd|

theorem limitMarginRad_eq (dqCmd : K) (m : LimitMarginConfig K) :
    limitMarginRad dqCmd m = m.minRad + m.kVS * marginSpeed dqCmd m +
      m.kStop * marginSpeed dqCmd m * marginSpeed dqCmd m /
        (((2 : ℚ) : K) * max m.decelRadS2 ((1 / 1000000 : ℚ) : K)) := by
  simp only [limitMarginRad, ble_iff, lit_zero, Scalar.abs_eq, marginSpeed]
  rfl

/-! ## The commandable range -/

structure JointLimitBounds.Ordered (b : JointLimitBounds K) : Prop where
  lower : b.hardLower ≤ b.softLower
  soft : b.softLower ≤ b.softUpper
  upper : b.softUpper ≤ b.hardUpper

/-- The commandable range before it collapses. -/
def rawCommandBounds (policy : JointLimitPolicy K) (dqCmd : K) : K × K :=
  let b := policy.bounds
  let margin := limitMarginRad dqCmd policy.margin
  (max (if dqCmd < -policy.margin.velocityDeadbandRadS then min (b.hardLower + margin) b.hardUpper
      else b.hardLower) b.softLower,
    min (if policy.margin.velocityDeadbandRadS < dqCmd then max (b.hardUpper - margin) b.hardLower
      else b.hardUpper) b.softUpper)

/-- The margins leave nothing of the soft range. -/
def Collapsed (policy : JointLimitPolicy K) (dqCmd : K) : Prop :=
  (rawCommandBounds policy dqCmd).2 < (rawCommandBounds policy dqCmd).1

variable {policy : JointLimitPolicy K} {q q' dq dq' position requested : K}

/-- A collapsed range is the point of the soft range next to the measured position. -/
theorem effectiveCommandBounds_eq (policy : JointLimitPolicy K) (q dqCmd : K) :
    effectiveCommandBounds policy q dqCmd =
      if (rawCommandBounds policy dqCmd).1 ≤ (rawCommandBounds policy dqCmd).2 then
        rawCommandBounds policy dqCmd
      else
        let point := min (max q (min policy.bounds.softLower policy.bounds.softUpper))
          (max policy.bounds.softLower policy.bounds.softUpper)
        (point, point) := by
  simp only [effectiveCommandBounds, ble_iff, blt_iff, Scalar.min_eq, Scalar.max_eq]
  rfl

/-- The range is never empty. -/
theorem effectiveCommandBounds_le :
    (effectiveCommandBounds policy q dq).1 ≤ (effectiveCommandBounds policy q dq).2 := by
  rw [effectiveCommandBounds_eq]
  split
  · assumption
  · exact le_rfl

/-- The range lies in the soft range. -/
theorem effectiveCommandBounds_mem (q dq : K) (hb : policy.bounds.Ordered) :
    policy.bounds.softLower ≤ (effectiveCommandBounds policy q dq).1 ∧
      (effectiveCommandBounds policy q dq).2 ≤ policy.bounds.softUpper := by
  rw [effectiveCommandBounds_eq]
  split
  · exact ⟨le_max_right _ _, min_le_right _ _⟩
  · rw [min_eq_left hb.soft, max_eq_right hb.soft]
    exact ⟨le_min (le_max_right _ _) hb.soft, min_le_right _ _⟩

/-! ## Clamping -/

theorem clampFinite_eq (position anchor lo hi : K) :
    clampFinite position anchor lo hi = min (max position lo) hi := rfl

/-- A clamp between ordered bounds leaves what is between them, and only that. -/
theorem clampFinite_mem {anchor lo hi : K} (h : lo ≤ hi) :
    lo ≤ clampFinite position anchor lo hi ∧ clampFinite position anchor lo hi ≤ hi := by
  rw [clampFinite_eq]
  exact ⟨le_min (le_max_right _ _) h, min_le_right _ _⟩

theorem clampFinite_of_mem {anchor lo hi : K} (hlo : lo ≤ position) (hhi : position ≤ hi) :
    clampFinite position anchor lo hi = position := by
  rw [clampFinite_eq, max_eq_left hlo, min_eq_left hhi]

/-- A clamped position is a point of the range. -/
theorem clampPositionInEnvelope_mem (policy : JointLimitPolicy K) (q dq position : K) :
    (effectiveCommandBounds policy q dq).1 ≤ clampPositionInEnvelope policy q dq position ∧
      clampPositionInEnvelope policy q dq position ≤ (effectiveCommandBounds policy q dq).2 :=
  clampFinite_mem effectiveCommandBounds_le

theorem clampPositionInEnvelope_of_mem (hlo : (effectiveCommandBounds policy q dq).1 ≤ position)
    (hhi : position ≤ (effectiveCommandBounds policy q dq).2) :
    clampPositionInEnvelope policy q dq position = position :=
  clampFinite_of_mem hlo hhi

/-- A clamped position is a point of the soft range. -/
theorem clampPositionInEnvelope_soft (hb : policy.bounds.Ordered) :
    policy.bounds.softLower ≤ clampPositionInEnvelope policy q dq position ∧
      clampPositionInEnvelope policy q dq position ≤ policy.bounds.softUpper := by
  obtain ⟨hlo, hhi⟩ := effectiveCommandBounds_mem q dq hb
  obtain ⟨hlo', hhi'⟩ := clampPositionInEnvelope_mem policy q dq position
  exact ⟨hlo.trans hlo', hhi'.trans hhi⟩

theorem clampPositionInEnvelope_idem :
    clampPositionInEnvelope policy q dq (clampPositionInEnvelope policy q dq position) =
      clampPositionInEnvelope policy q dq position :=
  clampPositionInEnvelope_of_mem (clampPositionInEnvelope_mem ..).1
    (clampPositionInEnvelope_mem ..).2

/-- The target is a stop or home, approached from inside. -/
def holdStays (policy : JointLimitPolicy K) (q soft : K) : Bool :=
  ((ble soft (policy.bounds.softLower + holdTargetStopToleranceRad) ||
    ble (Scalar.abs soft) holdTargetStopToleranceRad) && blt soft q) ||
  (ble (policy.bounds.hardUpper - holdTargetStopToleranceRad) soft &&
    blt q policy.bounds.hardUpper)

/-- A hold target is the requested one clamped to the soft range, or clamped further into the
commandable range. -/
theorem clampHoldTarget_eq (requested : K) (hb : policy.bounds.Ordered) :
    clampHoldTarget policy q dq requested =
      let soft := min (max requested policy.bounds.softLower) policy.bounds.softUpper
      if holdStays policy q soft then soft else clampPositionInEnvelope policy q dq soft := by
  have hlower : policy.bounds.hardLower ≤
      min (max requested policy.bounds.softLower) policy.bounds.softUpper :=
    hb.lower.trans (le_min (le_max_right _ _) hb.soft)
  have hupper : min (max requested policy.bounds.softLower) policy.bounds.softUpper ≤
      policy.bounds.hardUpper := (min_le_right _ _).trans hb.upper
  simp only [clampHoldTarget, clampFinite_eq, Scalar.max_eq, Scalar.min_eq, max_eq_left hlower,
    min_eq_left hupper]
  split
  · rename_i h
    rw [if_pos (by rw [holdStays, h, Bool.true_or])]
  · rename_i h
    rw [Bool.not_eq_true] at h
    split
    · rename_i h'
      rw [if_pos (by rw [holdStays, h', Bool.or_true])]
    · rename_i h'
      rw [Bool.not_eq_true] at h'
      rw [if_neg (by rw [holdStays, h, h']; decide)]

/-- A hold target is a point of the soft range, and clamping it again changes nothing. -/
theorem clampHoldTarget_soft (hb : policy.bounds.Ordered) :
    (policy.bounds.softLower ≤ clampHoldTarget policy q dq requested ∧
      clampHoldTarget policy q dq requested ≤ policy.bounds.softUpper) ∧
      clampHoldTarget policy q dq (clampHoldTarget policy q dq requested) =
        clampHoldTarget policy q dq requested := by
  have hsoft : policy.bounds.softLower ≤ clampHoldTarget policy q dq requested ∧
      clampHoldTarget policy q dq requested ≤ policy.bounds.softUpper := by
    rw [clampHoldTarget_eq requested hb]
    dsimp only
    split
    · exact ⟨le_min (le_max_right _ _) hb.soft, min_le_right _ _⟩
    · exact clampPositionInEnvelope_soft hb
  refine ⟨hsoft, ?_⟩
  rw [clampHoldTarget_eq (clampHoldTarget policy q dq requested) hb]
  dsimp only
  rw [max_eq_left hsoft.1, min_eq_left hsoft.2]
  split
  · rfl
  · -- neither the first clamp nor the second kept the soft one
    rename_i hmoves
    rw [clampHoldTarget_eq requested hb] at hmoves ⊢
    dsimp only at hmoves ⊢
    split at hmoves
    · rename_i hstays
      exact absurd hstays hmoves
    · rename_i hstays
      rw [if_neg hstays]
      exact clampPositionInEnvelope_idem

/-! ## Faster motions -/

variable [IsStrictOrderedRing K] {m : LimitMarginConfig K}

theorem marginSpeed_nonneg (dq : K) (m : LimitMarginConfig K) : 0 ≤ marginSpeed dq m := by
  unfold marginSpeed
  split
  · exact le_rfl
  · exact abs_nonneg _

theorem marginSpeed_mono (h : |dq| ≤ |dq'|) : marginSpeed dq m ≤ marginSpeed dq' m := by
  unfold marginSpeed
  split
  · split
    · exact le_rfl
    · exact abs_nonneg _
  · rename_i hfast
    rw [if_neg fun hslow => hfast (h.trans hslow)]
    exact h

theorem decel_pos : 0 < ((2 : ℚ) : K) * max m.decelRadS2 ((1 / 1000000 : ℚ) : K) := by
  have hmin : (0 : K) < ((1 / 1000000 : ℚ) : K) := by norm_num
  have := hmin.trans_le (le_max_right m.decelRadS2 _)
  norm_num

theorem limitMarginRad_nonneg (dq : K) (hm : m.Nonneg) : 0 ≤ limitMarginRad dq m := by
  have hspeed := marginSpeed_nonneg dq m
  have hdecel := decel_pos (m := m)
  have := hm.minRad
  have := hm.kVS
  have := hm.kStop
  rw [limitMarginRad_eq]
  positivity

/-- The margin grows with the speed. -/
theorem limitMarginRad_mono (hm : m.Nonneg) (h : |dq| ≤ |dq'|) :
    limitMarginRad dq m ≤ limitMarginRad dq' m := by
  have hspeed := marginSpeed_mono (m := m) h
  have hnonneg := marginSpeed_nonneg dq m
  have hnonneg' := hnonneg.trans hspeed
  have hkVS := hm.kVS
  have hkStop := hm.kStop
  have hdecel := decel_pos (m := m)
  rw [limitMarginRad_eq, limitMarginRad_eq]
  gcongr

/-- The faster motion has the smaller range. -/
theorem rawCommandBounds_anti (hm : policy.margin.Nonneg) (hb : policy.bounds.Ordered)
    (hsign : 0 ≤ dq * dq') (h : |dq| ≤ |dq'|) :
    (rawCommandBounds policy dq).1 ≤ (rawCommandBounds policy dq').1 ∧
      (rawCommandBounds policy dq').2 ≤ (rawCommandBounds policy dq).2 := by
  have hmargin := limitMarginRad_mono (m := policy.margin) hm h
  have hnonneg := limitMarginRad_nonneg dq' hm
  have hdeadband := hm.deadband
  have hhard := hb.lower.trans (hb.soft.trans hb.upper)
  unfold rawCommandBounds
  refine ⟨max_le_max ?_ le_rfl, min_le_min ?_ le_rfl⟩
  · by_cases hdq : dq < -policy.margin.velocityDeadbandRadS
    · -- the faster motion goes the same way
      have hneg : dq < 0 := hdq.trans_le (neg_nonpos.mpr hdeadband)
      have hneg' : dq' ≤ 0 := nonpos_of_mul_nonneg_right hsign hneg
      rw [abs_of_neg hneg, abs_of_nonpos hneg', neg_le_neg_iff] at h
      rw [if_pos hdq, if_pos (h.trans_lt hdq)]
      exact min_le_min (by linarith) le_rfl
    · rw [if_neg hdq]
      split
      · exact le_min (by linarith) hhard
      · exact le_rfl
  · by_cases hdq : policy.margin.velocityDeadbandRadS < dq
    · have hpos : 0 < dq := hdeadband.trans_lt hdq
      have hpos' : 0 ≤ dq' := nonneg_of_mul_nonneg_right hsign hpos
      rw [abs_of_pos hpos, abs_of_nonneg hpos'] at h
      rw [if_pos hdq, if_pos (hdq.trans_le h)]
      exact max_le_max (by linarith) le_rfl
    · rw [if_neg hdq]
      split
      · exact max_le (by linarith) hhard
      · exact le_rfl

/-- The range of the faster motion is part of that of the slower one, unless it has collapsed. -/
theorem effectiveCommandBounds_anti (hm : policy.margin.Nonneg) (hb : policy.bounds.Ordered)
    (hsign : 0 ≤ dq * dq') (h : |dq| ≤ |dq'|) (hopen : ¬Collapsed policy dq') :
    (effectiveCommandBounds policy q dq).1 ≤ (effectiveCommandBounds policy q' dq').1 ∧
      (effectiveCommandBounds policy q' dq').2 ≤ (effectiveCommandBounds policy q dq).2 := by
  obtain ⟨hlo, hhi⟩ := rawCommandBounds_anti hm hb hsign h
  have hle' := not_lt.mp hopen
  rw [effectiveCommandBounds_eq, effectiveCommandBounds_eq, if_pos hle',
    if_pos (hlo.trans (hle'.trans hhi))]
  exact ⟨hlo, hhi⟩

/-! ## Approaching a wall -/

theorem approachScale_eq {dist margin scale : K} (hmargin : 0 < margin) (hscale : scale ≤ 1) :
    approachScale dist margin scale = min scale (max 0 (dist / margin)) := by
  simp only [approachScale, blt_iff, Scalar.min_eq, lit_zero, lit_one,
    clamp_eq zero_le_one]
  split
  · rename_i h
    rw [min_eq_right ((div_lt_one hmargin).mpr h).le]
  · rename_i h
    have hone : 1 ≤ dist / margin := (one_le_div hmargin).mpr (not_lt.mp h)
    rw [min_eq_left (hscale.trans (hone.trans (le_max_right _ _)))]

/-- The part of the cruise speed that is left at a position. -/
def approachPart (policy : JointLimitPolicy K) (q dqCmd : K) : K :=
  let margin := limitMarginRad dqCmd policy.margin
  if dqCmd < -policy.margin.velocityDeadbandRadS then
    min 1 (max 0 ((q - (policy.bounds.hardLower + margin)) / margin))
  else if policy.margin.velocityDeadbandRadS < dqCmd then
    min 1 (max 0 ((policy.bounds.hardUpper - margin - q) / margin))
  else 1

/-- The cap is a part of the cruise speed, or zero where that is not positive. -/
theorem approachVelocityCap_eq {vMax : K} (hm : policy.margin.Nonneg)
    (hmargin : ((1 / 1000000000 : ℚ) : K) < limitMarginRad dq policy.margin) :
    approachVelocityCap policy q dq vMax = max vMax 0 * approachPart policy q dq := by
  have hpos : 0 < limitMarginRad dq policy.margin := lt_trans (by norm_num) hmargin
  have hdeadband := hm.deadband
  simp only [approachVelocityCap, ble_iff, blt_iff, lit_zero, lit_one]
  split
  · rename_i h
    rw [max_eq_right h, zero_mul]
  · rename_i h
    rw [lit_eq, if_neg (not_le.mpr hmargin), max_eq_left (not_le.mp h).le, approachPart]
    congr 1
    by_cases hdown : dq < -policy.margin.velocityDeadbandRadS
    · have hup : ¬policy.margin.velocityDeadbandRadS < dq := by linarith
      rw [if_neg hup, if_pos hdown, if_pos hdown, approachScale_eq hpos le_rfl]
    · rw [if_neg hdown, if_neg hdown]
      split
      · exact approachScale_eq hpos le_rfl
      · rfl

theorem approachPart_mem : 0 ≤ approachPart policy q dq ∧ approachPart policy q dq ≤ 1 := by
  unfold approachPart
  split
  · exact ⟨le_min zero_le_one (le_max_left _ _), min_le_left _ _⟩
  · split
    · exact ⟨le_min zero_le_one (le_max_left _ _), min_le_left _ _⟩
    · exact ⟨zero_le_one, le_rfl⟩

/-- Nothing is left at the margin before the wall and past it, and more is left further away. -/
theorem approachPart_down (hdown : dq < -policy.margin.velocityDeadbandRadS)
    (hpos : 0 < limitMarginRad dq policy.margin) :
    (q ≤ policy.bounds.hardLower + limitMarginRad dq policy.margin → approachPart policy q dq = 0) ∧
      ∀ q', q ≤ q' → approachPart policy q dq ≤ approachPart policy q' dq := by
  simp only [approachPart, if_pos hdown]
  refine ⟨fun h => ?_, fun q' h => ?_⟩
  · rw [max_eq_left (div_nonpos_of_nonpos_of_nonneg (sub_nonpos.mpr h) hpos.le),
      min_eq_right zero_le_one]
  · exact min_le_min le_rfl (max_le_max le_rfl (by gcongr))

theorem approachPart_up (hm : policy.margin.Nonneg) (hup : policy.margin.velocityDeadbandRadS < dq)
    (hpos : 0 < limitMarginRad dq policy.margin) :
    (policy.bounds.hardUpper - limitMarginRad dq policy.margin ≤ q → approachPart policy q dq = 0) ∧
      ∀ q', q ≤ q' → approachPart policy q' dq ≤ approachPart policy q dq := by
  have hdown : ¬dq < -policy.margin.velocityDeadbandRadS := by linarith [hm.deadband]
  simp only [approachPart, if_neg hdown, if_pos hup]
  refine ⟨fun h => ?_, fun q' h => ?_⟩
  · rw [max_eq_left (div_nonpos_of_nonpos_of_nonneg (sub_nonpos.mpr h) hpos.le),
      min_eq_right zero_le_one]
  · exact min_le_min le_rfl (max_le_max le_rfl (by gcongr))

/-- The command envelope. The commandable range is not empty, even where the soft bounds are inverted.
Where the soft range is ordered inside the hard one, the range lies in it, clamped positions and hold
targets are points of it and stay where they are when clamped again, and the faster of two motions in
one direction has the smaller range until it collapses. The speed cap of an approach is at most the
cruise speed, or zero where that is negative; it is zero from the margin before the wall on, and does
not fall with the distance to it. -/
theorem commandEnvelope_law (policy : JointLimitPolicy K) (hm : policy.margin.Nonneg) (q dq : K) :
    (effectiveCommandBounds policy q dq).1 ≤ (effectiveCommandBounds policy q dq).2 ∧
    (policy.bounds.Ordered →
      (policy.bounds.softLower ≤ (effectiveCommandBounds policy q dq).1 ∧
        (effectiveCommandBounds policy q dq).2 ≤ policy.bounds.softUpper) ∧
      (∀ position,
        (policy.bounds.softLower ≤ clampPositionInEnvelope policy q dq position ∧
          clampPositionInEnvelope policy q dq position ≤ policy.bounds.softUpper) ∧
        clampPositionInEnvelope policy q dq (clampPositionInEnvelope policy q dq position) =
          clampPositionInEnvelope policy q dq position) ∧
      (∀ requested,
        (policy.bounds.softLower ≤ clampHoldTarget policy q dq requested ∧
          clampHoldTarget policy q dq requested ≤ policy.bounds.softUpper) ∧
        clampHoldTarget policy q dq (clampHoldTarget policy q dq requested) =
          clampHoldTarget policy q dq requested) ∧
      ∀ dq', 0 ≤ dq * dq' → |dq| ≤ |dq'| → ¬Collapsed policy dq' →
        (effectiveCommandBounds policy q dq).1 ≤ (effectiveCommandBounds policy q dq').1 ∧
          (effectiveCommandBounds policy q dq').2 ≤ (effectiveCommandBounds policy q dq).2) ∧
    (((1 / 1000000000 : ℚ) : K) < limitMarginRad dq policy.margin → ∀ vMax,
      approachVelocityCap policy q dq vMax ≤ max vMax 0 ∧
      (dq < -policy.margin.velocityDeadbandRadS →
        (q ≤ policy.bounds.hardLower + limitMarginRad dq policy.margin →
          approachVelocityCap policy q dq vMax = 0) ∧
        ∀ q', q ≤ q' → approachVelocityCap policy q dq vMax ≤ approachVelocityCap policy q' dq vMax) ∧
      (policy.margin.velocityDeadbandRadS < dq →
        (policy.bounds.hardUpper - limitMarginRad dq policy.margin ≤ q →
          approachVelocityCap policy q dq vMax = 0) ∧
        ∀ q', q' ≤ q → approachVelocityCap policy q dq vMax ≤
          approachVelocityCap policy q' dq vMax)) := by
  refine ⟨effectiveCommandBounds_le, fun hb => ⟨effectiveCommandBounds_mem q dq hb, fun position =>
    ⟨clampPositionInEnvelope_soft hb, clampPositionInEnvelope_idem⟩, fun requested =>
    clampHoldTarget_soft hb, fun dq' => effectiveCommandBounds_anti hm hb⟩, fun hmargin vMax => ?_⟩
  have hpos : 0 < limitMarginRad dq policy.margin := lt_trans (by norm_num) hmargin
  have hcap : ∀ q, approachVelocityCap policy q dq vMax = max vMax 0 * approachPart policy q dq :=
    fun q => approachVelocityCap_eq hm hmargin
  have hmono : ∀ q q', approachPart policy q dq ≤ approachPart policy q' dq →
      approachVelocityCap policy q dq vMax ≤ approachVelocityCap policy q' dq vMax := by
    intro q q' h
    rw [hcap, hcap]
    exact mul_le_mul_of_nonneg_left h (le_max_right _ _)
  refine ⟨?_, fun hdown => ⟨fun hq => ?_, fun q' hq => hmono _ _ ((approachPart_down hdown hpos).2 q' hq)⟩,
    fun hup => ⟨fun hq => ?_, fun q' hq => hmono _ _ ((approachPart_up hm hup hpos).2 q hq)⟩⟩
  · rw [hcap]
    exact mul_le_of_le_one_right (le_max_right _ _) approachPart_mem.2
  · rw [hcap, (approachPart_down hdown hpos).1 hq, mul_zero]
  · rw [hcap, (approachPart_up hm hup hpos).1 hq, mul_zero]

end

namespace Bench

/-- The limits of the elbow, with a margin of a tenth of a radian. -/
def elbowPolicy : JointLimitPolicy ℚ where
  bounds := ⟨-2, 2, -2, 2⟩
  margin := ⟨1 / 10, 0, 0, 0, 1 / 10, 4⟩
  velocity := 2
  effort := 8
  tauFfMax := 6

theorem elbowPolicy_margin : elbowPolicy.margin.Nonneg := by
  constructor <;> norm_num [elbowPolicy]

end Bench

/-- The elbow at its margin, on the way down. -/
theorem commandEnvelope_law_bench :
    Bench.elbowPolicy.margin.Nonneg ∧ approachVelocityCap Bench.elbowPolicy (-19 / 10) (-1) 1 = 0 := by
  have hlaw := commandEnvelope_law Bench.elbowPolicy Bench.elbowPolicy_margin (-19 / 10) (-1)
  refine ⟨Bench.elbowPolicy_margin, ((hlaw.2.2 ?_ 1).2.1 ?_).1 ?_⟩
  · decide +kernel
  · decide +kernel
  · decide +kernel

/-- A negative cruise speed gives a cap of zero, which is above it. -/
theorem approachVelocityCap_above :
    Bench.elbowPolicy.margin.Nonneg ∧
      (1 / 1000000000 : ℚ) < limitMarginRad (-1) Bench.elbowPolicy.margin ∧
      (-1 : ℚ) < approachVelocityCap Bench.elbowPolicy 0 (-1) (-1) := by
  refine ⟨Bench.elbowPolicy_margin, ?_, ?_⟩
  · decide +kernel
  · decide +kernel

end Marengo

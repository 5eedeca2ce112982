import Marengo.Limits.Envelope

/-!
# Setpoints of a position hold

The map from the planner's reference to the position that a drive is sent. The reference is first
clamped to the lead, and what follows moves the setpoint towards the joint only. The exception is an
overshoot: with the planner at its target and the joint past it, the setpoint becomes the target,
however far that is. `trajectory_lead` leaves that case out, and `trajectory_lead_overshoot` is a
setpoint outside the lead.
-/

namespace Marengo

section
variable {F : Type} [Scalar F]

def positionSettleToleranceRad : F := lit (1 / 10000)

/-- Distance from a target that an overshoot is told by. -/
def positionReturnResyncRad : F := lit (3 / 100)

/-- Targets and positions this near to zero are next to home. -/
def positionReturnFreezeQMaxRad : F := lit (12 / 100)

def positionHomeSettleRad : F := lit (5 / 1000)

/-- Targets this near to zero are home: two counts of the feedback grid, and the settle tolerance at
least. -/
def homeTargetTolerance (progressThreshold : F) : F :=
  let feedbackCount := lit 2 * progressThreshold
  Scalar.max positionSettleToleranceRad (lit 2 * feedbackCount)

def returnSettleBand (target : F) : F :=
  if ble (Scalar.abs target) positionSettleToleranceRad then positionHomeSettleRad
  else positionReturnResyncRad

/-- The direction of a move away from home, beyond the band of its target. -/
def outboundStallDirection (target toTarget : F) : Option F :=
  if ble (Scalar.abs target) positionSettleToleranceRad then none
  else
    let direction := signum target
    if blt (returnSettleBand target) (toTarget * direction) then some direction else none

inductive StallSide
  | outbound
  | home
deriving DecidableEq

/-- The direction and the side of a move that the stall fuse watches. -/
def travelStallDirection (target toTarget : F) : Option (F × StallSide) :=
  match outboundStallDirection target toTarget with
  | some direction => some (direction, .outbound)
  | none =>
    if !isFinite target || !isFinite toTarget then none
    else if blt positionReturnResyncRad (Scalar.abs toTarget) then
      some (signum toTarget, .home)
    else none

/-- The joint outruns the trajectory: brake at the joint. -/
def brakeAtJoint (qTraj q target : F) (policy : Option (JointLimitPolicy F)) (dqTraj qDes : F) : F :=
  let tol : F := lit (1 / 10000)
  let toTarget := target - q
  if blt tol (Scalar.abs toTarget) then
    if blt (lit 0) toTarget && blt qTraj q &&
        blt (q - qTraj) positionReturnResyncRad then
      Scalar.max qDes q
    else if blt toTarget (lit 0) && blt q qTraj &&
        (blt (qTraj - q) positionReturnResyncRad ||
          ble (Scalar.abs target) tol &&
            blt (Scalar.abs q) positionReturnFreezeQMaxRad) then
      match policy with
      | some p => Scalar.min qDes (Scalar.max q (effectiveCommandBounds p q dqTraj).1)
      | none => Scalar.min qDes q
    else qDes
  else qDes

/-- The planner is at the target, and the joint past it. -/
def overshotPastTarget (qTraj q target : F) : Bool :=
  ble (Scalar.abs (qTraj - target)) (lit (1 / 10000)) &&
    if ble (lit 0) target then blt (target + positionReturnResyncRad) q
    else blt q (target - positionReturnResyncRad)

/-- The planner has reached the target: do not push past it. -/
def settleAtTarget (qTraj q target : F) (policy : Option (JointLimitPolicy F)) (dqTraj qDes : F) :
    F :=
  let tol : F := lit (1 / 10000)
  let settleError := target - q
  if overshotPastTarget qTraj q target &&
      blt positionReturnFreezeQMaxRad (Scalar.abs target) then
    match policy with
    | some p =>
      let bounds := effectiveCommandBounds p q dqTraj
      clamp target bounds.1 bounds.2
    | none => target
  else if blt settleError (-tol) && ble qTraj (target + tol) then
    let qDes := Scalar.max qDes target
    match policy with
    | some p => Scalar.max (Scalar.min qDes q) (effectiveCommandBounds p q dqTraj).1
    | none => Scalar.min qDes q
  else if blt tol settleError && ble (target - tol) qTraj then
    let qDes := Scalar.max (Scalar.min qDes target) q
    match policy with
    | some p => Scalar.min qDes (effectiveCommandBounds p q dqTraj).2
    | none => qDes
  else qDes

/-- The position that a drive is sent for a reference. -/
def clampTrajectorySetpoint (qTraj q target maxLead : F) (policy : Option (JointLimitPolicy F))
    (dqTraj : F) : F :=
  let qDes := clamp qTraj (q - maxLead) (q + maxLead)
  let qDes := brakeAtJoint qTraj q target policy dqTraj qDes
  let qDes := settleAtTarget qTraj q target policy dqTraj qDes
  match policy with
  | some p => clampPositionInEnvelope p q dqTraj qDes
  | none => qDes

end

/-! ## The lead -/

section
variable {K : Type} [Field K] [LinearOrder K]

attribute [local instance] Scalar.ofField

/-- The clamp into the envelope of a limit policy, if there is one. -/
def envelopeClamp (policy : Option (JointLimitPolicy K)) (q dqTraj position : K) : K :=
  match policy with
  | some p => clampPositionInEnvelope p q dqTraj position
  | none => position

/-- The setpoint is dropped to a target outside the lead. -/
def OvershootOutOfLead (qTraj q target maxLead : K) : Prop :=
  overshotPastTarget qTraj q target = true ∧ positionReturnFreezeQMaxRad < |target| ∧
    maxLead < |target - q|

/-! ### Clamps into the envelope -/

theorem clampPositionInEnvelope_max {p : JointLimitPolicy K} {q dq x : K} :
    clampPositionInEnvelope p q dq (max x (effectiveCommandBounds p q dq).1) =
      clampPositionInEnvelope p q dq x := by
  simp only [clampPositionInEnvelope, clampFinite_eq, max_assoc, max_self]

theorem clampPositionInEnvelope_min {p : JointLimitPolicy K} {q dq x : K} :
    clampPositionInEnvelope p q dq (min x (effectiveCommandBounds p q dq).2) =
      clampPositionInEnvelope p q dq x := by
  have hle : (effectiveCommandBounds p q dq).1 ≤ (effectiveCommandBounds p q dq).2 :=
    effectiveCommandBounds_le
  simp only [clampPositionInEnvelope, clampFinite_eq, max_min_distrib_right, max_eq_left hle,
    min_assoc, min_self]

theorem clampPositionInEnvelope_clamp {p : JointLimitPolicy K} {q dq x : K} :
    clampPositionInEnvelope p q dq (clamp x (effectiveCommandBounds p q dq).1
      (effectiveCommandBounds p q dq).2) = clampPositionInEnvelope p q dq x := by
  rw [clamp_eq effectiveCommandBounds_le, max_comm, clampPositionInEnvelope_max, min_comm,
    clampPositionInEnvelope_min]

variable [IsStrictOrderedRing K] {q maxLead x y : K}

/-! ### Moves towards the joint -/

theorem abs_clamp_sub_le (h : 0 ≤ maxLead) (x : K) :
    |clamp x (q - maxLead) (q + maxLead) - q| ≤ maxLead := by
  rw [clamp_eq (by linarith), abs_le, neg_le_sub_iff_le_add, sub_le_iff_le_add']
  constructor
  · linarith [le_max_left (q - maxLead) (min (q + maxLead) x)]
  · exact max_le (by linarith) (min_le_left _ _)

/-- A point between the joint and a point of the lead. -/
theorem abs_sub_le_of_between (h : |x - q| ≤ maxLead) (hlo : min x q ≤ y) (hhi : y ≤ max x q) :
    |y - q| ≤ maxLead := by
  obtain ⟨hlower, hupper⟩ := abs_le.mp h
  have hlead := (abs_nonneg _).trans h
  rw [abs_le]
  rcases le_total x q with hle | hle
  · rw [min_eq_left hle] at hlo
    rw [max_eq_right hle] at hhi
    constructor <;> linarith
  · rw [min_eq_right hle] at hlo
    rw [max_eq_left hle] at hhi
    constructor <;> linarith

variable {qTraj target dqTraj : K} {policy : Option (JointLimitPolicy K)}

theorem brakeAtJoint_lead (policy : Option (JointLimitPolicy K)) (dqTraj : K) (hx : |x - q| ≤ maxLead) :
    |brakeAtJoint qTraj q target policy dqTraj x - q| ≤ maxLead := by
  simp only [brakeAtJoint, Scalar.max_eq, Scalar.min_eq]
  split
  · split
    · exact abs_sub_le_of_between hx ((min_le_left _ _).trans (le_max_left _ _)) le_rfl
    · split
      · cases policy with
        | none => exact abs_sub_le_of_between hx le_rfl ((min_le_left _ _).trans (le_max_left _ _))
        | some p =>
          exact abs_sub_le_of_between hx (min_le_min_left x (le_max_left _ _))
            ((min_le_left _ _).trans (le_max_left _ _))
      · exact hx
  · exact hx

/-- The last step gives a setpoint that the envelope clamps like a point of the lead. -/
theorem settleAtTarget_lead (hx : |x - q| ≤ maxLead)
    (hovershoot : ¬OvershootOutOfLead qTraj q target maxLead) :
    ∃ point, |point - q| ≤ maxLead ∧
      envelopeClamp policy q dqTraj (settleAtTarget qTraj q target policy dqTraj x) =
        envelopeClamp policy q dqTraj point := by
  simp only [settleAtTarget, Bool.and_eq_true, blt_iff, ble_iff, Scalar.abs_eq,
    Scalar.max_eq, Scalar.min_eq]
  split
  · rename_i hover
    have hlead : |target - q| ≤ maxLead := not_lt.mp fun hfar => hovershoot ⟨hover.1, hover.2, hfar⟩
    refine ⟨target, hlead, ?_⟩
    cases policy with
    | none => rfl
    | some p => exact clampPositionInEnvelope_clamp
  · split
    · -- the joint is above the target: not below the target, not above the joint
      have hbetween : |min (max x target) q - q| ≤ maxLead :=
        abs_sub_le_of_between hx (min_le_min_right q (le_max_left _ _))
          ((min_le_right _ _).trans (le_max_right _ _))
      refine ⟨_, hbetween, ?_⟩
      cases policy with
      | none => rfl
      | some p => exact clampPositionInEnvelope_max
    · split
      · have hbetween : |max (min x target) q - q| ≤ maxLead :=
          abs_sub_le_of_between hx ((min_le_right _ _).trans (le_max_right _ _))
            (max_le_max_right q (min_le_left _ _))
        refine ⟨_, hbetween, ?_⟩
        cases policy with
        | none => rfl
        | some p => exact clampPositionInEnvelope_min
      · exact ⟨x, hx, rfl⟩

end

end Marengo

import Marengo.Scalar

/-!
# Velocity-scaled position limits

Hard and soft bounds of a joint and the commandable envelope between them: a margin that grows with
the speed of the motion towards a limit shrinks the range, and a range that the margin consumes
collapses to one point of the soft range.
-/

namespace Marengo

variable {F : Type}

/-- Hard and soft position bounds of one joint. -/
structure JointLimitBounds (F : Type) where
  hardLower : F
  hardUpper : F
  softLower : F
  softUpper : F

structure LimitMarginConfig (F : Type) where
  minRad : F
  kVS : F
  kStop : F
  velocityDeadbandRadS : F
  measuredFaultSlackRad : F
  decelRadS2 : F

structure JointLimitPolicy (F : Type) where
  bounds : JointLimitBounds F
  margin : LimitMarginConfig F
  velocity : F
  effort : F
  tauFfMax : F

/-- Why a set of joint bounds is unusable. -/
inductive LimitBoundsError (F : Type)
  | nonFiniteHard (lower upper : F)
  | invertedHard (lower upper : F)
  | nonFiniteSoft (lower upper : F)

section
variable [Scalar F]

/-- Hard bounds plus optional soft bounds, clamped into the hard ones. -/
def JointLimitBounds.fromHardAndSoft (hardLower hardUpper : F) (softLower softUpper : Option F) :
    Except (LimitBoundsError F) (JointLimitBounds F) :=
  let lo := softLower.getD hardLower
  let hi := softUpper.getD hardUpper
  if !isFinite hardLower || !isFinite hardUpper then
    .error (.nonFiniteHard hardLower hardUpper)
  else if ble hardUpper hardLower then .error (.invertedHard hardLower hardUpper)
  else if !isFinite lo || !isFinite hi then .error (.nonFiniteSoft lo hi)
  else .ok
    ⟨hardLower, hardUpper, clamp lo hardLower hardUpper,
      clamp hi hardLower hardUpper⟩

/-- Kinetic margin of a motion at `dqCmd` towards a limit. -/
def limitMarginRad (dqCmd : F) (margin : LimitMarginConfig F) : F :=
  let v := if ble (Scalar.abs dqCmd) margin.velocityDeadbandRadS then lit 0
    else Scalar.abs dqCmd
  let decel := Scalar.max margin.decelRadS2 (lit (1 / 1000000))
  margin.minRad + margin.kVS * v + margin.kStop * v * v / (lit 2 * decel)

variable (policy : JointLimitPolicy F)

/-- The commandable range at the motion intent `dqCmd`. -/
def effectiveCommandBounds (q dqCmd : F) : F × F :=
  let b := policy.bounds
  let m := limitMarginRad dqCmd policy.margin
  let deadband := policy.margin.velocityDeadbandRadS
  let lo := if blt dqCmd (-deadband) then Scalar.min (b.hardLower + m) b.hardUpper
    else b.hardLower
  let hi := if blt deadband dqCmd then Scalar.max (b.hardUpper - m) b.hardLower
    else b.hardUpper
  let lo := Scalar.max lo b.softLower
  let hi := Scalar.min hi b.softUpper
  if ble lo hi then (lo, hi)
  else
    let softLo := Scalar.min b.softLower b.softUpper
    let softHi := Scalar.max b.softLower b.softUpper
    let point := if isFinite q then Scalar.min (Scalar.max q softLo) softHi
      else lit (1 / 2) * (softLo + softHi)
    (point, point)

/-- Clamp a position into `[lo, hi]`; one that is not finite holds the anchor. -/
def clampFinite (position anchor lo hi : F) : F :=
  let position := if isFinite position then position
    else if isFinite anchor then anchor
    else lit (1 / 2) * (lo + hi)
  Scalar.min (Scalar.max position lo) hi

def clampPositionInEnvelope (q dqCmd positionRad : F) : F :=
  let bounds := effectiveCommandBounds policy q dqCmd
  clampFinite positionRad q bounds.1 bounds.2

/-- An operator target this near to a stop, or to the zero-home pose, is the goal of a trajectory. -/
def holdTargetStopToleranceRad : F := lit (5 / 1000)

/-- Clamp an operator target to the soft bounds, then into the commandable range. A target at a stop or
at home that is approached from inside keeps its place. -/
def clampHoldTarget (q dqCmd requestedRad : F) : F :=
  let b := policy.bounds
  let softClamped := clampFinite requestedRad q b.softLower b.softUpper
  let atLowerStop := ble softClamped (b.softLower + holdTargetStopToleranceRad)
  let atHome := ble (Scalar.abs softClamped) holdTargetStopToleranceRad
  if (atLowerStop || atHome) && blt softClamped q then Scalar.max softClamped b.hardLower
  else if ble (b.hardUpper - holdTargetStopToleranceRad) softClamped &&
      blt q b.hardUpper then Scalar.min softClamped b.hardUpper
  else clampPositionInEnvelope policy q dqCmd softClamped

/-- The part of the cruise speed left at the distance `dist` from the margin before a wall. -/
def approachScale (dist margin scale : F) : F :=
  if blt dist margin then
    Scalar.min scale (clamp (dist / margin) (lit 0) (lit 1))
  else scale

/-- Scale the cruise speed `vMax` when a wall of the envelope is approached. -/
def approachVelocityCap (q dqCmd vMax : F) : F :=
  let margin := limitMarginRad dqCmd policy.margin
  let deadband := policy.margin.velocityDeadbandRadS
  if ble vMax (lit 0) then lit 0
  else if ble margin (lit (1 / 1000000000)) then vMax
  else
    let scale := if blt dqCmd (-deadband) then
        approachScale (q - (policy.bounds.hardLower + margin)) margin (lit 1)
      else lit 1
    let scale := if blt deadband dqCmd then
        approachScale (policy.bounds.hardUpper - margin - q) margin scale
      else scale
    vMax * scale

/-- The measured position is beyond the hard limits and their slack. -/
def measuredPositionFault (q : F) (policy : JointLimitPolicy F) : Bool :=
  let slack := policy.margin.measuredFaultSlackRad
  let lo := policy.bounds.hardLower - slack
  let hi := policy.bounds.hardUpper + slack
  -- a value that differs from itself is not a number
  !isFinite q || !beq lo lo || !beq hi hi || blt q lo || blt hi q

end

end Marengo

import Marengo.Davout.Facets
import Marengo.Dynamics.UrdfGravity

/-!
# Gravity preflight

Before the drives are enabled, the gravity torque is evaluated on a grid over every joint's live
command envelope and compared with its torque limit. The grid is swept in slices, one for each control
tick. The sweep keeps what it was started on (envelopes and policies, stop generation, latched fault,
reference work) and is voided before the next slice when one of them has changed.
-/

namespace Marengo

variable {F : Type}

/-- Grid points per joint across its live envelope. -/
def gridPoints : ℕ := 5

/-- Largest grid the preflight will sweep. -/
def maxGridSamples : ℕ := 1000000

/-- How much of the grid one control tick may evaluate. -/
structure SliceBudget where
  maxSamples : ℕ
  maxTime : Duration

/-- The installed loop's share of a tick. -/
def SliceBudget.perTick : SliceBudget := ⟨128, millis 2⟩

/-- The readings of the clock in one slice: the time since its start after each evaluation and at
its end, and the time since the sweep's start. -/
structure SliceClock where
  afterSample : ℕ → Duration
  atEnd : Duration
  sinceStart : Duration

/-- Why a sweep was voided before its verdict. -/
inductive SweepAbort
  | disabled | shutdown | stopped | faultLatched | referenceWork
  | limitsChanged (joint : String)
deriving DecidableEq

structure SweepStats where
  samples : ℕ
  slices : ℕ
  maxSlice : Duration
  elapsed : Duration

inductive SweepStep
  | pending
  | done (passed : Bool) (stats : SweepStats)

/-- One joint of a sweep, with the policy its envelope came from. -/
structure JointSweep (F : Type) where
  joint : String
  lower : F
  upper : F
  policy : JointLimitPolicy F
  maxTauNm : F

structure GravitySweep (F : Type) where
  joints : List (JointSweep F)
  sampleCount : ℕ
  nextSample : ℕ
  q : List F
  started : Instant
  slices : ℕ
  maxSlice : Duration
  stopGeneration : ℕ
  faultLatched : Bool
  referencePending : Bool
  /-- Every pose that was handed to the model, oldest first. -/
  evaluated : List (List F) := []

namespace GravitySweep

section
variable [World F]

def startJoint (joint : String) : Prog (System F) Unit (JointSweep F) := do
  let s ← read
  if !s.motors.motors.any (·.joint = joint) then fail ()
  else match s.limits joint with
    | none => fail ()
    | some policy => do
      let feedback ← jointFeedback joint
      match feedback with
      | none => fail ()
      | some feedback =>
        let (qMin, qMax) := effectiveCommandBounds policy feedback.positionRad (lit 0)
        if !isFinite qMin || !isFinite qMax || blt qMax qMin then fail ()
        else pure ⟨joint, qMin, qMax, policy, lit 0⟩

/-- Capture each joint's live envelope, or refuse. -/
def start (jointNames : List String) : Prog (System F) Unit (GravitySweep F) := do
  let started ← now
  let joints ← traverse startJoint jointNames
  let sampleCount := gridPoints ^ joints.length
  if maxU32 < joints.length then fail ()
  else if maxU64 < sampleCount then fail ()
  else if maxGridSamples < sampleCount then fail ()
  else do
    let s ← read
    pure {
      joints := joints
      sampleCount := sampleCount
      nextSample := 0
      q := List.replicate joints.length (lit 0)
      started := started
      slices := 0
      maxSlice := 0
      stopGeneration := s.stopGeneration
      faultLatched := s.hasLatchedFault
      referencePending := s.referenceWorkPending }

end

end GravitySweep

section
variable [Scalar F]

/-- `==` on policies. -/
def JointLimitPolicy.beq (x y : JointLimitPolicy F) : Bool :=
  Scalar.beq x.bounds.hardLower y.bounds.hardLower &&
  Scalar.beq x.bounds.hardUpper y.bounds.hardUpper &&
  Scalar.beq x.bounds.softLower y.bounds.softLower &&
  Scalar.beq x.bounds.softUpper y.bounds.softUpper &&
  Scalar.beq x.margin.minRad y.margin.minRad &&
  Scalar.beq x.margin.kVS y.margin.kVS &&
  Scalar.beq x.margin.kStop y.margin.kStop &&
  Scalar.beq x.margin.velocityDeadbandRadS y.margin.velocityDeadbandRadS &&
  Scalar.beq x.margin.measuredFaultSlackRad y.margin.measuredFaultSlackRad &&
  Scalar.beq x.margin.decelRadS2 y.margin.decelRadS2 &&
  Scalar.beq x.velocity y.velocity && Scalar.beq x.effort y.effort &&
  Scalar.beq x.tauFfMax y.tauFfMax

namespace GravitySweep

variable (self : GravitySweep F)

/-- Why the sweep no longer describes the drives it would admit. -/
def invalidated (s : Supervisor F) (referenceQueued : Bool) : Option SweepAbort :=
  if s.stopGeneration ≠ self.stopGeneration then some .stopped
  else if s.hasLatchedFault && !self.faultLatched then some .faultLatched
  else if referenceQueued || (s.referenceWorkPending && !self.referencePending) then
    some .referenceWork
  else (self.joints.find? fun joint =>
      !(s.limits joint.joint).any (JointLimitPolicy.beq · joint.policy)).map
    fun joint => .limitsChanged joint.joint

/-- The pose of a sample: its digits in base five, least significant first. -/
def placeSample : List (JointSweep F) → ℕ → List F → List F
  | joint :: joints, digits, _ :: q =>
    (joint.lower + (joint.upper - joint.lower) * lit ((digits % gridPoints : ℕ) : ℚ) /
      lit ((gridPoints - 1 : ℕ) : ℚ)) :: placeSample joints (digits / gridPoints) q
  | _, _, q => q

/-- Keep the largest torque of every joint, up to the first torque that is not finite. -/
def observe : List (JointSweep F) → List F → List (JointSweep F) × Bool
  | joint :: joints, value :: tau =>
    if !isFinite value then (joint :: joints, false)
    else
      let rest := observe joints tau
      ({ joint with maxTauNm := Scalar.max joint.maxTauNm (Scalar.abs value) } :: rest.1, rest.2)
  | joints, _ => (joints, true)

/-- One grid point; false when the model cannot vouch for it. -/
def evaluate (gravity : List F → Except (DynamicsError F) (List F)) (sample : ℕ) :
    GravitySweep F × Bool :=
  let q := placeSample self.joints sample self.q
  let sweep := { self with q := q, evaluated := self.evaluated ++ [q] }
  match gravity q with
  | .error _ => (sweep, false)
  | .ok tau =>
    if tau.length ≠ self.joints.length then (sweep, false)
    else
      let observed := observe self.joints tau
      ({ sweep with joints := observed.1 }, observed.2)

/-- The loop of a slice, with at most `count` samples left. -/
def evaluateSlice (gravity : List F → Except (DynamicsError F) (List F)) (maxTime : Duration)
    (clock : SliceClock) : ℕ → GravitySweep F → GravitySweep F × Bool
  | 0, sweep => (sweep, true)
  | count + 1, sweep =>
    let (sweep, evaluable) := sweep.evaluate gravity sweep.nextSample
    if !evaluable then (sweep, false)
    else
      let sweep := { sweep with nextSample := sweep.nextSample + 1 }
      if maxTime ≤ clock.afterSample sweep.nextSample then (sweep, true)
      else evaluateSlice gravity maxTime clock count sweep

/-- Every joint's largest torque is within a finite, positive limit. -/
def withinLimits : Bool :=
  self.joints.all fun joint => isFinite joint.policy.tauFfMax &&
    !ble joint.policy.tauFfMax (lit 0) &&
    !blt joint.policy.tauFfMax joint.maxTauNm

/-- Evaluate one slice of the grid; the last one applies the saturation rule. -/
def advance (gravity : List F → Except (DynamicsError F) (List F)) (budget : SliceBudget)
    (clock : SliceClock) : GravitySweep F × SweepStep :=
  let sliceEnd := min (min (self.nextSample + max budget.maxSamples 1) maxU64) self.sampleCount
  let (sweep, evaluable) :=
    evaluateSlice gravity budget.maxTime clock (sliceEnd - self.nextSample) self
  let sweep := { sweep with
    slices := min (sweep.slices + 1) maxU32
    maxSlice := max sweep.maxSlice clock.atEnd }
  if evaluable && sweep.nextSample < sweep.sampleCount then (sweep, .pending)
  else (sweep, .done (evaluable && sweep.withinLimits)
    ⟨sweep.nextSample, sweep.slices, sweep.maxSlice, clock.sinceStart⟩)

end GravitySweep

/-! ## The pending request -/

/-- Where a request stands that waits for its sweep. -/
inductive Preflight (F : Type)
  | waiting (sweep : GravitySweep F)
  /-- The request is refused without a verdict. -/
  | voided (sweep : GravitySweep F) (abort : SweepAbort)
  | verdict (sweep : GravitySweep F) (passed : Bool) (stats : SweepStats)

def Preflight.sweep : Preflight F → GravitySweep F
  | waiting sweep => sweep
  | voided sweep _ => sweep
  | verdict sweep _ _ => sweep

/-- What a control tick brings to the sweep. -/
structure PreflightTick (F : Type) where
  supervisor : System F
  queueBusy : Bool
  budget : SliceBudget
  clock : SliceClock

/-- One control tick: a voided sweep refuses its request, and at the verdict the request continues or
is refused. -/
def advanceGravityPreflight (gravity : List F → Except (DynamicsError F) (List F)) :
    Preflight F → PreflightTick F → Preflight F
  | .waiting sweep, tick =>
    match sweep.invalidated tick.supervisor.toSupervisor tick.queueBusy with
    | some abort => .voided sweep abort
    | none =>
      match sweep.advance gravity tick.budget tick.clock with
      | (sweep, .pending) => .waiting sweep
      | (sweep, .done passed stats) => .verdict sweep passed stats
  | ended, _ => ended

end

end Marengo

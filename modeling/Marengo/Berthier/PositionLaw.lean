import Marengo.Analytic

/-!
# The scaled-PD position law

The reference generator of the position law: `reference_step` moves a reference of one joint towards
its target by one tick, and `advance_reference` governs its speed limit from the lead over the
measured position first. A run of the generator is `referenceRun`, with a target and a speed limit
for every tick.

The feed-forward of the law: `compose_feedforward` adds gravity, a slewed dynamic term and an
integral, and guards the step of the sum from tick to tick.
-/

namespace Marengo

inductive TrapezoidPhase
  | accelerate | cruise | decelerate | hold
deriving DecidableEq

/-- Smooth friction evaluated on the reference velocity. -/
structure ReferenceFriction (F : Type) where
  fc : F
  fs : F
  fv : F
  fo : F
  /-- Steepness; zero turns the Coulomb and Stribeck terms off. -/
  k : F
  /-- Stribeck velocity. -/
  vB : F

/-- How the integral integrates. -/
inductive IntegralMode
  | targetBand | leakyReference
deriving DecidableEq

structure ScaledPdGains (F : Type) where
  kd : F
  /-- Full-rate band. -/
  e0 : F
  /-- Stop band. -/
  e1 : F
  integralBand : F
  integralLeakS : F
  integralMode : IntegralMode
  integralCapNm : F
  /-- The inertia that the acceleration of the reference is fed forward with. -/
  inertia : F
  hostDamping : F
  velocityFilterS : F
  /-- The largest change of the whole feed-forward between ticks, if guarded. -/
  ffStepMaxNm : Option F
  friction : Option (ReferenceFriction F)

/-- Law state of one joint beside the planner. -/
structure ScaledPdState (F : Type) where
  /-- Time scale applied to the speed limit on the latest advance. -/
  s : F
  /-- Reference velocity of the latest advance. -/
  vC : F
  /-- Integral torque. -/
  tauI : F
  /-- Reference velocity of the previous feed-forward. -/
  vPrev : F
  /-- Dynamic torque, slewed. -/
  tauDyn : F
  /-- Filtered measured velocity. -/
  vHat : Option F
  /-- The whole feed-forward of the previous tick. -/
  ffPrev : Option F
  /-- The previous output was reshaped by the law itself. -/
  reshapedLocal : Bool

structure FeedforwardInput (F : Type) where
  ki : F
  targetError : F
  referenceError : F
  dqMeas : F
  /-- The supervisor reshaped the previous command. -/
  reshapedDownstream : Bool
  /-- The feed-forward that the supervisor last sent. -/
  ffLastSent : Option F
  tauG : F
  dt : F

structure ScaledPdFeedforward (F : Type) where
  tauFric : F
  tauI : F
  tauFf : F
  /-- The step guard limited this tick. -/
  ffGuarded : Bool

section
variable {F : Type} [Scalar F]

/-- The law state of a joint that has not run yet. -/
def ScaledPdState.default : ScaledPdState F where
  s := lit 1
  vC := lit 0
  tauI := lit 0
  vPrev := lit 0
  tauDyn := lit 0
  vHat := none
  ffPrev := none
  reshapedLocal := false

def referenceToleranceRad : F := lit (1 / 10000)

/-- Time scale for a reference error: one up to `e0`, zero from `e1`. -/
def timeScaleTarget (errorAbs e0 e1 : F) : F :=
  if !isFinite errorAbs then lit 0
  else if ble e1 e0 then
    if ble errorAbs e0 then lit 1 else lit 0
  else clamp (lit 1 - (errorAbs - e0) / (e1 - e0)) (lit 0) (lit 1)

/-- The time scale while advancing towards the target grows the lead, else one. -/
def governorScale (qRef q target e0 e1 : F) : F :=
  let lead := qRef - q
  if ble (lead * (target - qRef)) (lit 0) then lit 1
  else timeScaleTarget (Scalar.abs lead) e0 e1

end

section
variable {F : Type} [Analytic F]

/-- The highest speed from which braking by `dv` a tick stops within `dist`. -/
def brakingSpeed (dist dv aMax : F) : F :=
  Analytic.sqrt (dv * dv / lit 4 + lit 2 * aMax * dist) - dv / lit 2

def referenceStep (q v target vMax aMax dt : F) : F × F × TrapezoidPhase :=
  let vMax := if isFinite vMax && blt (lit 0) vMax then vMax else lit 0
  let remaining := target - q
  let dist := Scalar.abs remaining
  if !(isFinite aMax && blt (lit 0) aMax) then
    if ble dist referenceToleranceRad then (target, lit 0, .hold)
    else (q, lit 0, .accelerate)
  else
    let dv := aMax * dt
    if ble dist referenceToleranceRad && ble (Scalar.abs v) dv then
      (target, lit 0, .hold)
    else
      -- at the target with speed left, brake against the motion
      let dir := if ble dist referenceToleranceRad then -signum v
        else signum remaining
      let vAlong := v * dir
      let desired := Scalar.min vMax (brakingSpeed dist dv aMax)
      let vAlongNew := Scalar.min (Scalar.max desired (vAlong - dv)) (vAlong + dv)
      let phase :=
        if blt vAlongNew (vAlong - lit (1 / 1000000000000)) then
          TrapezoidPhase.decelerate
        else if blt (lit 0) vMax &&
            ble (vMax - lit (1 / 1000000000)) vAlongNew then
          .cruise
        else .accelerate
      let vNew := dir * vAlongNew
      let qNew := q + vNew * dt
      let arrived := ble ((target - qNew) * remaining) (lit 0) ||
        ble (Scalar.abs (target - qNew)) referenceToleranceRad
      if blt referenceToleranceRad dist && arrived && ble (Scalar.abs v) dv then
        (target, lit 0, .hold)
      else (qNew, vNew, phase)

variable (state : ScaledPdState F)

/-- Govern the speed limit from the current lead, then advance the reference one tick. -/
def ScaledPdState.advanceReference (gains : ScaledPdGains F)
    (qRef vRef q target vMax aMax dt : F) : (F × F × TrapezoidPhase) × ScaledPdState F :=
  let s := governorScale qRef q target gains.e0 gains.e1
  let next := referenceStep qRef vRef target (s * vMax) aMax dt
  (next, { state with s := s, vC := next.2.1 })

/-! ## Feed-forward -/

def scaledPdIntegralMaxNm : F := lit (1 / 2)

/-- Slew limit of the dynamic feed-forward. -/
def scaledPdDynamicFfRateNmS : F := lit 6

def ReferenceFriction.torque (self : ReferenceFriction F) (v : F) : F :=
  let shape := if blt (lit 0) self.k then Analytic.tanh (self.k * v) else lit 0
  let stribeck := if blt (lit 0) self.vB then
      (self.fs - self.fc) * Analytic.exp (-Scalar.abs v / self.vB)
    else lit 0
  (self.fc + stribeck) * shape + self.fv * v

/-- The integral accumulates the target error inside the band and leaks outside it. -/
def integralStep (tauI targetError ki band leakS dt : F) : F :=
  let next :=
    if blt (lit 0) ki && blt (Scalar.abs targetError) band then
      tauI + ki * targetError * dt
    else if blt (lit 0) leakS then tauI * Analytic.exp (-dt / leakS)
    else tauI
  if isFinite next then clamp next (-scaledPdIntegralMaxNm) scaledPdIntegralMaxNm
  else lit 0

/-- The integral leaks every tick, and accumulates the reference error inside the band unless it is
frozen. -/
def leakyIntegralStep (tauI referenceError ki band leakS cap : F) (frozen : Bool) (dt : F) : F :=
  let leaked := if blt (lit 0) leakS then tauI * Analytic.exp (-dt / leakS) else tauI
  let next :=
    if blt (lit 0) ki && !frozen && blt (Scalar.abs referenceError) band then
      leaked + ki * referenceError * dt
    else leaked
  let cap := clamp cap (lit 0) scaledPdIntegralMaxNm
  if isFinite next then clamp next (-cap) cap else lit 0

/-- Filter the measured velocity. The result is the damping torque. -/
def ScaledPdState.damping (gains : ScaledPdGains F) (input : FeedforwardInput F) : F × Option F :=
  if blt (lit 0) gains.hostDamping && isFinite input.dqMeas then
    let vHat := match state.vHat with
      | some vHat =>
        if blt (lit 0) gains.velocityFilterS && blt (lit 0) input.dt then
          vHat + (lit 1 - Analytic.exp (-input.dt / gains.velocityFilterS)) *
            (input.dqMeas - vHat)
        else input.dqMeas
      | none => input.dqMeas
    (gains.hostDamping * (state.vC - vHat), some vHat)
  else (lit 0, state.vHat)

/-- The dynamic torque, slewed towards friction, inertia and damping. -/
def ScaledPdState.nextDynamic (gains : ScaledPdGains F) (input : FeedforwardInput F) : F :=
  let friction := match gains.friction with
    | some friction => friction.torque state.vC + friction.fo
    | none => lit 0
  let accel := if blt (lit 0) input.dt then (state.vC - state.vPrev) / input.dt
    else lit 0
  let target := friction + gains.inertia * accel + (state.damping gains input).1
  let step := scaledPdDynamicFfRateNmS * Scalar.max input.dt (lit 0)
  let next := state.tauDyn + clamp (target - state.tauDyn) (-step) step
  if isFinite next then next else lit 0

def ScaledPdState.nextIntegral (gains : ScaledPdGains F) (input : FeedforwardInput F) : F :=
  match gains.integralMode with
  | .targetBand => integralStep state.tauI input.targetError input.ki gains.integralBand
      gains.integralLeakS input.dt
  | .leakyReference => leakyIntegralStep state.tauI input.referenceError input.ki
      gains.integralBand gains.integralLeakS gains.integralCapNm
      (state.reshapedLocal || input.reshapedDownstream) input.dt

/-- Limit the step of the whole feed-forward, if configured. -/
def ScaledPdState.guardStep (gains : ScaledPdGains F)
    (input : FeedforwardInput F) (wanted : F) : F × Bool :=
  match gains.ffStepMaxNm with
  | some maxStep =>
    if blt (lit 0) maxStep && isFinite wanted then
      let previous := (state.ffPrev.or input.ffLastSent).getD wanted
      let sent := previous + clamp (wanted - previous) (-maxStep) maxStep
      (sent, blt (lit (1 / 1000000000000)) (Scalar.abs (sent - wanted)))
    else (wanted, false)
  | none => (wanted, false)

def ScaledPdState.composeFeedforward (gains : ScaledPdGains F)
    (input : FeedforwardInput F) : ScaledPdFeedforward F × ScaledPdState F :=
  let tauDyn := state.nextDynamic gains input
  let tauI := state.nextIntegral gains input
  let wanted := input.tauG + tauDyn + tauI
  let sent := state.guardStep gains input wanted
  (⟨tauDyn, tauI, sent.1, sent.2⟩,
    { state with
      vPrev := state.vC
      vHat := (state.damping gains input).2
      tauDyn := tauDyn
      tauI := tauI
      ffPrev := some sent.1 })

/-! ## Runs -/

/-- The position and the velocity of the reference after a number of ticks, with a target and a speed
limit for every tick. -/
def referenceRun (targets caps : ℕ → F) (aMax dt : F) (start : F × F) : ℕ → F × F
  | 0 => start
  | n + 1 =>
    let now := referenceRun targets caps aMax dt start n
    let next := referenceStep now.1 now.2 (targets n) (caps n) aMax dt
    (next.1, next.2.1)

end

end Marengo

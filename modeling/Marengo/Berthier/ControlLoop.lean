import Marengo.Davout.Operations

/-!
# The control loop

`ControlLoop` is the owner of the supervisor: it turns operator intent into MIT batches, one per
tick, and follows a degraded episode that the supervisor started. It freezes the holding joints in
Position hold, lowers them to rest when the operator asks or the hold window runs out, and reports
each transition once, as a `DegradedEvent`.

The hold law, its planner, the gain runtime and the gravity model are the class `Controllers`: the
loop only calls them, and every result is stated for arbitrary ones. Telemetry, traces and the
timing of phases have no counterpart.

Two fields have no counterpart in the source either, and no program reads them: the events that the
owner has taken, and what each look at the supervisor's episode showed.
-/

namespace Marengo

variable {F H : Type}

/-! ## Errors -/

inductive LoopError (F : Type)
  | safety (error : DavoutError)
  | dynamics (message : String)
  | missingSetpoint (joint : String)
  | unknownJoint (joint : String)
  | jointNameRequired
  | invalidWaveRange
  | invalidWaveCycles
  | invalidWavePeriod
  | nonFiniteWave (field : String) (value : F)
  | waveOutsideLimits (joint : String) (minRad maxRad lower upper : F)
  | waveStartTooFar (joint : String) (minRad referenceRad toleranceRad : F)
  | waveExceedsMotionLimit (joint quantity : String) (requested limit : F)
  | waveExceedsDangerZone (joint zones : String)
      (aboveRad requested limit minHalfPeriodS : F)
  | nonFiniteTarget (joint : String) (value : F)
  | invalidSpeedFraction (value : F)
  | missingFeedback (joint : String)
  | enableIncomplete (detail : String)
  | ascentStall (joint : String) (ms : ℕ)
  | returnStall (joint : String) (ms : ℕ)
  | holdTracking (joint : String) (ms : ℕ)
  | waveStall (joint : String) (ms : ℕ)
  | holdLenMismatch
  | nonFiniteTorqueCmd (joint : String)
  | invalidGainOverride (joint field : String)
  | explicitEnableRequired
  | gainOverrideNotApplicable (joint : String) (mode : ControlMode)
  | invalidLoopPeriod (seconds : F)
  | degradedHold (joint : String)
  | noDegradedEpisode
  | gainShape (message : String)

/-- The controller fault that an error of the tick latches, and its joint. -/
def LoopError.controlFault : LoopError F → Option (String × Option String)
  | missingFeedback joint =>
    some ("current-enable feedback missing after neutral bootstrap", some joint)
  | ascentStall joint _ => some ("position ascent stalled without measured progress", some joint)
  | returnStall joint _ =>
    some ("position return toward home stalled without measured progress", some joint)
  | holdTracking joint _ =>
    some ("position hold off target with opposing commanded torque and no progress", some joint)
  | waveStall joint _ => some ("position wave stalled without measured motion", some joint)
  | missingSetpoint _ | holdLenMismatch =>
    some ("position hold lost its setpoint latch (controller invariant)", none)
  | dynamics _ => some ("gravity model failed on the control tick (controller invariant)", none)
  | gainShape _ =>
    some ("gain resolution inputs not parallel to joints (controller invariant)", none)
  | _ => none

/-- The error of the tick discards motion intent. -/
def LoopError.discards : LoopError F → Bool
  | safety _ | gainShape _ | dynamics _ | missingSetpoint _ | holdLenMismatch | missingFeedback _
  | ascentStall .. | returnStall .. | holdTracking .. | waveStall .. => true
  | _ => false

/-! ## Degraded episodes -/

/-- A holding joint counts as at rest within this distance of its target. -/
def degradedRestToleranceRad [Scalar F] : F := lit (1 / 20)

inductive DegradedLowerCause
  | operator | timeout
deriving DecidableEq

/-- Episode transitions, in order, for the owner to report. -/
inductive DegradedEvent
  | driveLost (joint : String) (shed holding : List String) (autoLowerIn : Duration)
  | lowerStarted (cause : DegradedLowerCause)
  | lowerComplete
  | ended (lostJoint : String) (end_ : DegradedEnd)
deriving DecidableEq

/-- How far the loop is in an episode. -/
inductive DegradedPhase
  | hold
  | lowerRequested (cause : DegradedLowerCause)
  | lowering
deriving DecidableEq

/-- The loop's side of an episode that the supervisor started. Joints are positions in the loop's
joint names. -/
structure DegradedControl (F : Type) where
  lostJoint : String
  shed : List ℕ
  holding : List ℕ
  frozen : List (ℕ × F)
  autoLowerAt : Instant
  phase : DegradedPhase

/-! ## The loop's state -/

structure PositionWave (F : Type) where
  jointIndex : ℕ
  minRad : F
  maxRad : F
  startTick : ℕ
  halfPeriodTicks : ℕ
  cycles : ℕ
  finished : Bool := false

/-- How long a wave takes. -/
def PositionWave.durationSec [Scalar F] (self : PositionWave F) (loopHz : ℕ) : F :=
  let ticks := min (min (self.halfPeriodTicks * 2) maxU64 * self.cycles) maxU64
  lit ticks / lit (max loopHz 1 : ℕ)

/-- What a wave asks for. -/
structure WaveRequest (F : Type) where
  joint : String
  minRad : F
  maxRad : F
  cycles : ℕ
  halfPeriodSec : F

def WaveRequest.validate [Scalar F] (self : WaveRequest F) : Except (LoopError F) Unit :=
  match [("min_rad", self.minRad), ("max_rad", self.maxRad),
      ("half_period_sec", self.halfPeriodSec)].find? (!isFinite ·.2) with
  | some (field, value) => .error (.nonFiniteWave field value)
  | none =>
    if ble self.maxRad self.minRad then .error .invalidWaveRange
    else if self.cycles = 0 then .error .invalidWaveCycles
    else if ble self.halfPeriodSec (lit 0) then .error .invalidWavePeriod
    else .ok ()

/-- A retarget of one joint, before its clamp to the limit envelope. -/
structure HoldRetarget (F : Type) where
  jointIdx : ℕ
  joint : String
  requested : F
  q : F
  tick : ℕ
  dqSeed : F
  speed : F

/-- What a tick of the hold law reads. -/
structure HoldWorld (F : Type) where
  supervisor : Supervisor F
  jointNames : List String
  q : List F
  dqMeas : List F
  tauMeas : List F
  tauG : List F
  /-- The joints whose drives are commanded. -/
  commanded : List Bool
  /-- The speed cap of a degraded episode. -/
  lowerVelocity : Option F
  tickCount : ℕ
  loopHz : ℕ
  wave : Option (PositionWave F)

/-- The batch of a tick and the wave as it goes on. -/
structure HoldTickOut (F : Type) where
  mit : List (MitJointCommand F)
  wave : Option (PositionWave F)

structure GainOverride (F : Type) where
  kp : F
  kd : F
  ki : F
  fc : F

/-- The controllers of the loop and their state: the position hold with its planners, the gain
runtime and the gravity model. -/
class Controllers (F H : Type) where
  /-- `PositionHold::clear`, and the watch over its last commands. -/
  clear : H → H
  isArmed : H → Bool
  targets : H → Option (List F)
  qTraj : H → Option (List F)
  /-- `PositionHold::arm` at measured positions, with targets. -/
  arm : List F → List F → ℕ → H → H
  seedDqFilter : ℕ → F → H → H
  /-- Clamp a retarget to the limit envelope and apply it. The result tells whether the target
  changed. -/
  retarget : Supervisor F → Option F → HoldRetarget F → H → Bool × H
  /-- `PositionHold::tick`, with the gains resolved for Position. -/
  hold : HoldWorld F → H → Except (LoopError F) (HoldTickOut F) × H
  /-- The batch of any other mode. -/
  feedforward : ControlMode → HoldWorld F → (String → F) → H →
    Except (LoopError F) (List (MitJointCommand F))
  /-- `gravity_torques`. -/
  gravityTorques : List F → Except String (List F)
  /-- `GainRuntime::on_mode_enter`, with the ramp from the gains on the wire. -/
  onModeEnter : Supervisor F → List String → ControlMode → ControlMode → H → H
  applyGains : Supervisor F → ControlMode → String → GainOverride F → H → H
  clearGains : String → H → H
  advanceGains : H → H
  /-- Half a wave's period in ticks. -/
  waveTicks : F → ℕ → ℕ
  /-- `validate_wave_motion`. -/
  validateWaveMotion : Supervisor F → ℕ → String → F → F → ℕ → Except (LoopError F) Unit

structure ControlLoop (F H : Type) where
  supervisor : System F
  jointNames : List String
  controlMode : ControlMode := .disabled
  /-- The position hold and the gain runtime. -/
  controllers : H
  positionWave : Option (PositionWave F) := none
  /-- Latched open-loop torques. -/
  torqueCmds : String → Option F := fun _ => none
  loopHz : ℕ
  tickCount : ℕ := 0
  lastEnableSession : Option Instant := none
  lastStopGeneration : ℕ := 0
  activeFeedbackGraceTicks : ℕ := 0
  implicitEnableForbidden : Bool := true
  degraded : Option (DegradedControl F) := none
  /-- Episode transitions not yet taken by the owner. -/
  degradedEvents : List DegradedEvent := []
  /-- Episode transitions that the owner has taken. -/
  taken : List DegradedEvent := []
  /-- What each look at the supervisor's episode showed. -/
  seen : List (Option (DegradedEpisode F)) := []

/-- The loop that the constructors build over a new owner. -/
def ControlLoop.fromRepo [World F] (i : Installation F) (kind : OwnerKind F) (time : Instant)
    (controllers : H) (loopHz : ℕ) : ControlLoop F H where
  supervisor := construct i kind time
  jointNames := i.robotJoints
  controllers := controllers
  loopHz := loopHz

namespace ControlLoop

variable (self : ControlLoop F H)

def episode : Option (DegradedEpisode F) := self.supervisor.driveLoss.episode

/-- Every episode transition so far, oldest first. -/
def emitted : List DegradedEvent := self.taken ++ self.degradedEvents

/-- The lost joint of an episode in progress, in the loop's or the supervisor's view. -/
def degradedLostJoint : Option String :=
  (self.degraded.map (·.lostJoint)).or (self.episode.map (·.lostJoint))

/-- The speed cap while an episode runs. -/
def degradedLowerVelocity : Option F :=
  self.degraded.bind fun _ => self.supervisor.control.driveLoss.map (·.lowerVelocityRadS)

/-- The positions of the listed joints in the loop's joint names. -/
def indices (joints : List String) : List ℕ := joints.filterMap fun j => self.jointNames.idxOf? j

/-- A staggered Enable of the session is not yet written. -/
def enableWritesPending : Bool :=
  self.supervisor.mode = .active && !self.supervisor.enableWritesPending.isEmpty

end ControlLoop

/-! ## Programs of the loop -/

section
variable [World F] {ε α : Type}

def onSupervisor (x : Prog (System F) ε α) : Prog (ControlLoop F H) ε α :=
  Prog.zoom (·.supervisor) (fun s l => { l with supervisor := s }) x

/-- Act on the supervisor; its errors are safety errors of the loop. -/
def supervise (x : Prog (System F) DavoutError α) : Prog (ControlLoop F H) (LoopError F) α :=
  mapError .safety (onSupervisor x)

def control (f : H → H) : Prog (ControlLoop F H) ε Unit :=
  update fun l => { l with controllers := f l.controllers }

def emit (event : DegradedEvent) : Prog (ControlLoop F H) ε Unit :=
  update fun l => { l with degradedEvents := l.degradedEvents ++ [event] }

/-- Measured velocity of a joint, zero without a pose. -/
def jointVelocity (joint : String) : Prog (ControlLoop F H) ε F := do
  let state ← onSupervisor (jointFeedback joint)
  pure (state.elim (lit 0) (·.velocityRadS))

/-- Measured torque of a joint, zero without a pose. -/
def jointTorque (joint : String) : Prog (ControlLoop F H) ε F := do
  let state ← onSupervisor (jointFeedback joint)
  pure (state.elim (lit 0) (·.torqueNm))

/-- Measured positions; a shed joint reads its frozen angle during an episode. -/
def readPositions : Prog (ControlLoop F H) ε (List F) := do
  let l ← read
  let q ← traverse (fun joint => do
    let state ← onSupervisor (jointFeedback joint)
    pure (state.elim (lit 0) (·.positionRad))) l.jointNames
  pure ((l.degraded.elim [] (·.frozen)).foldl (fun q (i, frozen) => q.set i frozen) q)

section
variable [Controllers F H]

/-! ### Modes and intent -/

/-- Change the control mode: whatever belongs to the mode that is left is dropped. -/
def setControlModeInner (mode : ControlMode) : Prog (ControlLoop F H) ε Unit := do
  let l ← read
  let previous := l.controlMode
  when (mode ≠ .position) (update fun l =>
    { l with controllers := Controllers.clear F l.controllers, positionWave := none })
  when (previous = .torqueOnly ∧ mode ≠ .torqueOnly)
    (update fun l => { l with torqueCmds := fun _ => none })
  update fun l => { l with controlMode := mode }
  onSupervisor (Marengo.setControlMode mode)
  update fun l =>
    { l with
      controllers := Controllers.onModeEnter l.supervisor.toSupervisor l.jointNames previous mode
        l.controllers }
  when (previous ≠ mode ∧ mode ≠ .disabled ∧ previous ≠ .disabled)
    (if mode = .position then onSupervisor seedUnsentTauFfRateLimiter
      else onSupervisor seedTauFfRateLimiter)

def discardMotionIntent : Prog (ControlLoop F H) ε Unit := do
  setControlModeInner .disabled
  update fun l => { l with torqueCmds := fun _ => none, activeFeedbackGraceTicks := 0 }

/-- Remember the supervisor's latest stop. -/
def noteStopGeneration : Prog (ControlLoop F H) ε Unit :=
  update fun l => { l with lastStopGeneration := l.supervisor.stopGeneration }

/-- A stop since the last look discards retained intent. -/
def synchronizeStopGeneration : Prog (ControlLoop F H) ε Unit := do
  let l ← read
  when (l.supervisor.stopGeneration ≠ l.lastStopGeneration) do
    discardMotionIntent
    noteStopGeneration

def latchPositionFromQ (q : List F) : Prog (ControlLoop F H) ε Unit := do
  let l ← read
  control (Controllers.arm q q l.tickCount)
  each l.jointNames.zipIdx fun (joint, i) => do
    let dq ← jointVelocity joint
    control (Controllers.seedDqFilter i dq)

/-- Arm the hold from measured positions, unless it already holds in Position. -/
def armFromMeasured (q : List F) : Prog (ControlLoop F H) ε Unit := do
  let l ← read
  when (l.controlMode ≠ .position) (control (Controllers.clear F))
  let l ← read
  when (Controllers.isArmed F l.controllers = false) (latchPositionFromQ q)

variable (self : ControlLoop F H)

def ControlLoop.holdTargetTrim (joint : String) (positionRad : F) : F :=
  positionRad + (self.supervisor.control.joints joint).elim (lit 0) (·.positionHoldTrimRad)

/-- Latch the target of one joint: the one law that every retarget uses. A change of the target
cancels a wave on the joint. -/
def applyJointRetarget (i : ℕ) (q requested speed : F) : Prog (ControlLoop F H) ε Unit := do
  let l ← read
  match l.jointNames[i]? with
  | none => pure ()
  | some joint => do
    let dq ← jointVelocity joint
    update fun l =>
      let r := Controllers.retarget l.supervisor.toSupervisor l.degradedLowerVelocity
        ⟨i, joint, requested, q, l.tickCount, dq, speed⟩ l.controllers
      { l with
        controllers := r.2
        positionWave := if r.1 then l.positionWave.filter (·.jointIndex ≠ i)
          else l.positionWave }

/-! ### Degraded episodes -/

def refuseDegraded : Prog (ControlLoop F H) (LoopError F) Unit := do
  let l ← read
  match l.degradedLostJoint with
  | some joint => fail (.degradedHold joint)
  | none => pure ()

def ControlLoop.holdWindow : Duration :=
  (self.supervisor.control.driveLoss.bind fun d => World.durationOfSecs d.holdWindowS).getD 0

/-- The loop's side of an episode that starts. -/
def ControlLoop.degradedControl (episode : DegradedEpisode F) :
    DegradedControl F where
  lostJoint := episode.lostJoint
  shed := self.indices episode.shedJoints
  holding := self.indices episode.holdingJoints
  frozen := episode.frozenPositions.filterMap fun (joint, q) =>
    (self.jointNames.idxOf? joint).map fun i => (i, q)
  autoLowerAt := (checkedAdd episode.since self.holdWindow).getD episode.deadline
  phase := .hold

/-- Freeze the holding joints in Position hold at their current pose, aborting any motion, wave or
torque command. -/
def enterDegradedHold (episode : DegradedEpisode F) : Prog (ControlLoop F H) ε Unit := do
  update fun l =>
    { l with
      degraded := some (l.degradedControl episode)
      positionWave := none
      torqueCmds := fun _ => none }
  let q ← readPositions
  setControlModeInner .position
  latchPositionFromQ q
  let l ← read
  emit (.driveLost episode.lostJoint episode.shedJoints episode.holdingJoints l.holdWindow)

/-- Follow the supervisor: enter the degraded hold when it shed a subtree, report the end when it
stopped every drive. -/
def observeDegradedEpisode : Prog (ControlLoop F H) ε Unit := do
  let l ← read
  update fun l => { l with seen := l.seen ++ [l.episode] }
  match l.episode, l.degraded with
  | some episode, none => enterDegradedHold episode
  | none, some control => do
    update fun l => { l with degraded := none }
    emit (.ended control.lostJoint
      ((l.supervisor.driveLoss.outcome.map (·.end_)).getD .stopped))
  | _, _ => pure ()

/-- Why the lower starts now, if it does. -/
def lowerCause (control : DegradedControl F) :
    Prog (ControlLoop F H) ε (Option DegradedLowerCause) :=
  match control.phase with
  | .hold => do
    let t ← onSupervisor now
    pure (if control.autoLowerAt ≤ t then some .timeout else none)
  | .lowerRequested cause => pure (some cause)
  | .lowering => pure none

/-- Start the lower to rest once the operator asked or the hold window ran out. -/
def advanceDegradedPhase (q : List F) : Prog (ControlLoop F H) ε Unit := do
  let l ← read
  match l.degraded with
  | none => pure ()
  | some degraded => do
    let cause ← lowerCause degraded
    match cause with
    | none => pure ()
    | some cause =>
      when (l.controlMode = .position) do
        when (Controllers.isArmed F l.controllers = false) (latchPositionFromQ q)
        each degraded.holding fun i =>
          match l.jointNames[i]?, q[i]? with
          | some joint, some position =>
            applyJointRetarget i position (l.holdTargetTrim joint (lit 0)) (lit 1)
          | _, _ => pure ()
        update fun l =>
          { l with degraded := l.degraded.map fun control => { control with phase := .lowering } }
        emit (.lowerStarted cause)

/-- Every holding joint's planner has reached its target, and the joint is near it. -/
def ControlLoop.atRest (degraded : DegradedControl F) (q : List F) :
    Bool :=
  match Controllers.targets self.controllers, Controllers.qTraj (F := F) self.controllers with
  | some targets, some qTraj => degraded.holding.all fun i =>
    match targets[i]?, qTraj[i]?, q[i]? with
    | some target, some traj, some position =>
      ble (Scalar.abs (traj - target)) (lit (1 / 1000000)) &&
        ble (Scalar.abs (position - target)) degradedRestToleranceRad
    | _, _, _ => false
  | _, _ => false

/-- The holding joints are at rest: the supervisor stops every drive and latches the episode's
fault. -/
def completeDegradedLowerAtRest (q : List F) : Prog (ControlLoop F H) (LoopError F) Unit := do
  let l ← read
  match l.degraded with
  | none => pure ()
  | some degraded =>
    if degraded.phase ≠ .lowering ∨ l.atRest degraded q = false then pure ()
    else do
      update fun l => { l with degraded := none }
      let stop ← attempt (onSupervisor (completeDegradedLower (F := F)))
      discardMotionIntent
      noteStopGeneration
      emit .lowerComplete
      lift (stop.mapError .safety)

/-- Operator `lower`: start lowering at the next tick. -/
def requestDegradedLower : Prog (ControlLoop F H) (LoopError F) Unit := do
  observeDegradedEpisode
  let l ← read
  match l.degraded with
  | none => fail .noDegradedEpisode
  | some control =>
    when (control.phase = .hold) (update fun l =>
      { l with degraded := some { control with phase := .lowerRequested .operator } })

/-- Episode transitions since the last call, oldest first. -/
def takeDegradedEvents : Prog (ControlLoop F H) ε (List DegradedEvent) := do
  observeDegradedEpisode
  let l ← read
  update fun l => { l with taken := l.taken ++ l.degradedEvents, degradedEvents := [] }
  pure l.degradedEvents

/-! ### Changes of mode -/

/-- Change the control mode. During an episode only `Disabled` is honoured: it stops every drive. -/
def ControlLoop.setControlMode (mode : ControlMode) : Prog (ControlLoop F H) ε Unit := do
  let busy ← onSupervisor referenceBusy
  let l ← read
  when (busy = false ∧ (l.degradedLostJoint = none ∨ mode = .disabled)) do
    when l.episode.isSome do
      let _ ← attempt (onSupervisor (disableAll (F := F)))
    synchronizeStopGeneration
    setControlModeInner mode

def refuseReferenceIntent (operation : String) : Prog (ControlLoop F H) (LoopError F) Unit := do
  let busy ← onSupervisor referenceBusy
  ensure (busy = false) (.safety (.referenceBusy operation))

/-- Change the control mode, or say why not. -/
def trySetControlMode (mode : ControlMode) : Prog (ControlLoop F H) (LoopError F) Unit := do
  refuseReferenceIntent "control mode change"
  when (mode ≠ .disabled) refuseDegraded
  ControlLoop.setControlMode mode

/-! ### Motion commands -/

def hasJointFeedback (joint : String) : Prog (ControlLoop F H) ε Bool := do
  let state ← onSupervisor (jointFeedback joint)
  pure state.isSome

/-- The first of the listed joints without a current pose. -/
def firstGap : List String → Prog (ControlLoop F H) ε (Option String)
  | [] => pure none
  | joint :: rest => do
    let present ← hasJointFeedback joint
    if present then firstGap rest else pure (some joint)

/-- Enable is complete for motion: the session runs, its Enables are written, and every Active
joint has a pose. -/
def enableCompletion : Prog (ControlLoop F H) (LoopError F) Unit := do
  let l ← read
  let s := l.supervisor
  ensure (s.mode = .active)
    (.enableIncomplete ("supervisor " ++ s.mode.debug ++ ", not Active"))
  ensure (l.enableWritesPending = false) (.enableIncomplete "staggered Enable writes pending")
  let gap ← firstGap (l.jointNames.filter (· ∈ s.activeJoints))
  match gap with
  | some joint => fail (.enableIncomplete ("no session feedback from " ++ joint))
  | none => pure ()

/-- Drain feedback, then read the positions; a failure discards intent. -/
def refreshJointPositions : Prog (ControlLoop F H) (LoopError F) (List F) := do
  synchronizeStopGeneration
  let drained ← attempt (onSupervisor do
    let _ ← drainFeedback (F := F)
    let s ← read
    lift s.requireFaultClear)
  match drained with
  | .error error => do
    discardMotionIntent
    noteStopGeneration
    fail (.safety error)
  | .ok () => readPositions

/-- The commissioning scope and the joints of the master robot, as their files have them. -/
structure RepoFiles where
  scope : Except DavoutError (Option (List String))
  master : Except DavoutError (List String)

/-- Enable the drives again for a motion command, where the operator allowed it. -/
def ensureActiveForMotion (files : RepoFiles) : Prog (ControlLoop F H) (LoopError F) Unit := do
  refuseDegraded
  synchronizeStopGeneration
  let l ← read
  let targets ← (if l.supervisor.mode = .active then pure l.supervisor.activeJoints
    else do
      ensure (l.implicitEnableForbidden = false) .explicitEnableRequired
      supervise (resolveEnableTargets files.scope files.master))
  supervise (enableTargets targets)

/-- Measured positions for a Position-mode arm. -/
def motionPositions (files : RepoFiles) : Prog (ControlLoop F H) (LoopError F) (List F) := do
  let q ← refreshJointPositions
  ensureActiveForMotion files
  enableCompletion
  pure q

/-- `SpeedFraction::from_optional`. -/
def speedFractionOf (fraction : Option F) : Except (LoopError F) F :=
  match fraction with
  | none => .ok (lit 1)
  | some value =>
    if isFinite value && blt (lit 0) value &&
        ble value (lit 1) then .ok value
    else .error (.invalidSpeedFraction value)

/-- Set the target of one joint, with an optional share of the configured speed. -/
def setJointPositionSetpointAtSpeed (joint : String) (positionRad : F)
    (speedFraction : Option F) : Prog (ControlLoop F H) (LoopError F) Unit := do
  let speed ← lift (speedFractionOf speedFraction)
  refuseDegraded
  let l ← read
  match l.jointNames.idxOf? joint with
  | none => fail (.unknownJoint joint)
  | some i => do
    let trimmed := l.holdTargetTrim joint positionRad
    ensure (isFinite trimmed) (.nonFiniteTarget joint positionRad)
    let q ← refreshJointPositions
    enableCompletion
    armFromMeasured q
    applyJointRetarget i (q.getD i (lit 0)) trimmed speed

def enterPositionHold (files : RepoFiles) : Prog (ControlLoop F H) (LoopError F) Unit := do
  refuseDegraded
  let q ← motionPositions files
  latchPositionFromQ q
  ControlLoop.setControlMode .position

/-- The joint of a hold-at: the only one, or the one it names. -/
def ControlLoop.holdAtJoint (joint : Option String) :
    Except (LoopError F) String :=
  match self.jointNames with
  | [only] => .ok only
  | names => match joint with
    | none => .error .jointNameRequired
    | some joint => if joint ∈ names then .ok joint else .error (.unknownJoint joint)

/-- Hold one joint at an explicit position, with an optional share of the configured speed. -/
def enterPositionHoldAtSpeed (files : RepoFiles) (joint : Option String) (positionRad : F)
    (speedFraction : Option F) : Prog (ControlLoop F H) (LoopError F) Unit := do
  let _ ← lift (speedFractionOf speedFraction)
  refuseDegraded
  let l ← read
  ensure (isFinite positionRad)
    (.nonFiniteTarget ((joint.or l.jointNames.head?).getD "") positionRad)
  let target ← lift (l.holdAtJoint joint)
  let _ ← motionPositions files
  setJointPositionSetpointAtSpeed target positionRad speedFraction
  ControlLoop.setControlMode .position

/-- Largest gap between a wave's first sample and the joint's reference. -/
def waveStartToleranceRad : F := lit (1 / 50)

/-- Where the joint is held: the planner's output in Position, the measured pose otherwise. -/
def ControlLoop.waveReference (i : ℕ) (q : List F) : F :=
  ((if self.controlMode = .position then Controllers.qTraj self.controllers else none).bind
    (·[i]?)).getD (q.getD i (lit 0))

/-- Start a wave on one joint. The result is its duration in seconds. -/
def startPositionWave (files : RepoFiles) (request : WaveRequest F) :
    Prog (ControlLoop F H) (LoopError F) F := do
  refuseDegraded
  lift request.validate
  let l ← read
  match l.jointNames.idxOf? request.joint with
  | none => fail (.unknownJoint request.joint)
  | some i => do
    let halfPeriodTicks := max (Controllers.waveTicks H request.halfPeriodSec l.loopHz) 1
    lift (Controllers.validateWaveMotion H l.supervisor.toSupervisor l.loopHz request.joint
      request.minRad request.maxRad halfPeriodTicks)
    let q ← motionPositions files
    let l ← read
    let reference := l.waveReference i q
    ensure (blt waveStartToleranceRad (Scalar.abs (reference - request.minRad)) = false)
      (.waveStartTooFar request.joint request.minRad reference waveStartToleranceRad)
    armFromMeasured q
    ControlLoop.setControlMode .position
    let l ← read
    let wave : PositionWave F :=
      ⟨i, request.minRad, request.maxRad, l.tickCount, halfPeriodTicks, request.cycles, false⟩
    update fun l => { l with positionWave := some wave }
    pure (wave.durationSec l.loopHz)

def enterTorqueOnlyZero : Prog (ControlLoop F H) (LoopError F) Unit := do
  refuseDegraded
  refuseReferenceIntent "torque intent"
  update fun l => { l with torqueCmds := fun _ => none }
  ControlLoop.setControlMode .torqueOnly

def setTorqueCmd (joint : String) (tauNm : F) : Prog (ControlLoop F H) (LoopError F) Unit := do
  refuseDegraded
  refuseReferenceIntent "torque intent"
  synchronizeStopGeneration
  let l ← read
  ensure (joint ∈ l.jointNames) (.unknownJoint joint)
  ensure (isFinite tauNm) (.nonFiniteTorqueCmd joint)
  lift (l.supervisor.requireFaultClear.mapError .safety)
  when (l.controlMode ≠ .torqueOnly) (ControlLoop.setControlMode .torqueOnly)
  update fun l => { l with torqueCmds := Function.update l.torqueCmds joint (some tauNm) }

def GainOverride.validate (self : GainOverride F) (joint : String) : Except (LoopError F) Unit :=
  match [("kp", self.kp), ("kd", self.kd), ("ki", self.ki), ("fc", self.fc)].find?
      fun x => !isFinite x.2 || blt x.2 (lit 0) with
  | some (field, _) => .error (.invalidGainOverride joint field)
  | none => .ok ()

/-- Override the gains of one joint, in the modes that have runtime gains. -/
def applyGainOverride (joint : String) (gains : GainOverride F) :
    Prog (ControlLoop F H) (LoopError F) Unit := do
  refuseDegraded
  refuseReferenceIntent "gain override"
  let l ← read
  ensure (joint ∈ l.jointNames) (.unknownJoint joint)
  lift (gains.validate joint)
  ensure (l.controlMode = .impedance ∨ l.controlMode = .position)
    (.gainOverrideNotApplicable joint l.controlMode)
  control (Controllers.applyGains l.supervisor.toSupervisor l.controlMode joint gains)

/-! ## The tick -/

/-- The joints that a tick lacks a current pose for. -/
structure FeedbackGaps where
  /-- The first Active joint without one. -/
  active : Option String
  /-- The first other coupled joint without one, when looked at. -/
  peer : Option String

def FeedbackGaps.failTick (self : FeedbackGaps) (graceTicks : ℕ) : Bool :=
  match self.active with
  | some _ => graceTicks = 0
  | none => self.peer.isSome

/-- One look at the poses that the tick needs. -/
def feedbackGaps (peers : Bool) : Prog (ControlLoop F H) ε FeedbackGaps := do
  let l ← read
  let activeJoints := l.supervisor.activeJoints
  let active ← firstGap activeJoints
  let coupled := l.jointNames.zipIdx.filter fun (joint, i) =>
    !(l.degraded.any fun control => i ∈ control.shed) && joint ∉ activeJoints
  let peer ← (if peers then firstGap (coupled.map (·.1)) else pure none)
  pure ⟨active, peer⟩

/-- A missing pose that would fail the tick: judge the grants first, so that a qualifying drive
loss is shed, and look again. -/
def settleGaps (needed : Bool) (q : List F) :
    Prog (ControlLoop F H) (LoopError F) (List F × FeedbackGaps) := do
  let gaps ← feedbackGaps needed
  let l ← read
  if needed && gaps.failTick l.activeFeedbackGraceTicks then do
    supervise checkActiveReferences
    observeDegradedEpisode
    let q ← readPositions
    let gaps ← feedbackGaps needed
    pure (q, gaps)
  else pure (q, gaps)

/-- What a controller of the tick reads. -/
def holdWorld (q tauG : List F) : Prog (ControlLoop F H) ε (HoldWorld F) := do
  let l ← read
  let dqMeas ← traverse jointVelocity l.jointNames
  let tauMeas ← traverse jointTorque l.jointNames
  let commanded ← traverse (fun joint => onSupervisor (jointDriveActive joint)) l.jointNames
  let l ← read
  pure ⟨l.supervisor.toSupervisor, l.jointNames, q, dqMeas, tauMeas, tauG, commanded,
    l.degradedLowerVelocity, l.tickCount, l.loopHz, l.positionWave⟩

def composeBatch (q tauG : List F) :
    Prog (ControlLoop F H) (LoopError F) (List (MitJointCommand F)) := do
  let world ← holdWorld q tauG
  let l ← read
  if l.controlMode = .position then do
    let r := Controllers.hold world l.controllers
    update fun l => { l with controllers := r.2 }
    let out ← lift r.1
    update fun l => { l with positionWave := out.wave }
    pure out.mit
  else lift (Controllers.feedforward l.controlMode world
    (fun joint => (l.torqueCmds joint).getD (lit 0)) l.controllers)

def commandTick (q : List F) : Prog (ControlLoop F H) (LoopError F) Unit := do
  let tauG ← lift ((Controllers.gravityTorques H q).mapError .dynamics)
  let batch ← composeBatch q tauG
  let l ← read
  supervise (sendMitBatch (batch.filter (·.joint ∈ l.supervisor.activeJoints)))
  let _ ← supervise drainFeedback
  control (Controllers.advanceGains F)
  completeDegradedLowerAtRest q

/-- The neutral command that solicits a joint's status. -/
def ControlLoop.keepalive (joint : String) (positionRad : F) :
    Except (LoopError F) (MitJointCommand F) :=
  match self.supervisor.limits joint with
  | none => .error (.unknownJoint joint)
  | some policy => .ok
    { joint := joint
      kp := lit 0
      kd := lit 0
      positionRad := clamp positionRad policy.bounds.hardLower policy.bounds.hardUpper
      velocityRadS := lit 0
      torqueFfNm := lit 0 }

/-- Keep the Active joints reporting without commanding them. -/
def keepaliveTick (q : List F) : Prog (ControlLoop F H) (LoopError F) Unit := do
  let l ← read
  let active := (l.jointNames.zip q).filter (·.1 ∈ l.supervisor.activeJoints)
  let batch ← lift (active.mapM fun (joint, position) => l.keepalive joint position)
  supervise (sendMitBatch batch)
  let _ ← supervise drainFeedback

/-- A new enable session is granted two ticks without a pose. -/
def noteEnableSession : Prog (ControlLoop F H) ε Unit :=
  update fun l =>
    let session := l.supervisor.activeSince
    { l with
      activeFeedbackGraceTicks :=
        if session.isSome ∧ session ≠ l.lastEnableSession then 2 else l.activeFeedbackGraceTicks
      lastEnableSession := session }

/-- The grace ends with the first complete look, and counts from the last Enable written. -/
def spendGrace (allHaveFeedback : Bool) : Prog (ControlLoop F H) ε Unit :=
  update fun l =>
    { l with
      activeFeedbackGraceTicks :=
        if allHaveFeedback then 0
        else if l.enableWritesPending then l.activeFeedbackGraceTicks
        else l.activeFeedbackGraceTicks - 1 }

def referenceTick : Prog (ControlLoop F H) (LoopError F) Unit := do
  discardMotionIntent
  mapError (fun e => .safety (.homing (World.showCommit F e)))
    (onSupervisor (advanceReferenceWork (F := F)))
  noteStopGeneration
  update fun l => { l with lastEnableSession := none }
  let _ ← readPositions (ε := LoopError F)

def sessionTick : Prog (ControlLoop F H) (LoopError F) Unit := do
  onSupervisor beginTickFeedback
  let _ ← supervise drainFeedback
  observeDegradedEpisode
  let q ← readPositions
  noteEnableSession
  let l ← read
  let needed := l.supervisor.mode = .active && l.controlMode ≠ .disabled
  let (q, gaps) ← settleGaps needed q
  let l ← read
  let bootstrap := needed && gaps.active.isSome && 0 < l.activeFeedbackGraceTicks
  match (if needed && !bootstrap then gaps.active.or gaps.peer else none) with
  | some joint => fail (.missingFeedback joint)
  | none => do
    spendGrace gaps.active.isNone
    advanceDegradedPhase q
    let l ← read
    when (l.supervisor.mode = .active)
      (if l.controlMode ≠ .disabled ∧ bootstrap = false then commandTick q else keepaliveTick q)

def tickInner : Prog (ControlLoop F H) (LoopError F) Unit := do
  let l ← read
  if l.supervisor.referenceWorkPending then referenceTick else sessionTick
  update fun l => { l with tickCount := l.tickCount + 1 }

/-- An error of the tick latches what it should and discards intent. -/
def answerTickError (error : LoopError F) : Prog (ControlLoop F H) ε Unit := do
  match error.controlFault with
  | none => pure ()
  | some (message, joint) => onSupervisor (latchControlFault message joint)
  when error.discards do
    discardMotionIntent
    noteStopGeneration

def tick : Prog (ControlLoop F H) (LoopError F) Unit := do
  synchronizeStopGeneration
  let result ← attempt (tickInner (F := F) (H := H))
  match result with
  | .ok () => pure ()
  | .error error => answerTickError error
  -- a stop (deadline, fault, second loss) may have ended the supervisor's episode
  observeDegradedEpisode
  lift result

/-! ## Runs -/

inductive MotionCommand (F : Type)
  | setpoint (joint : String) (positionRad : F) (speedFraction : Option F)
  | hold
  | holdAt (joint : Option String) (positionRad : F) (speedFraction : Option F)
  | wave (request : WaveRequest F)
  | torque (joint : String) (tauNm : F)
  | torqueZero
  | gains (joint : String) (gains : GainOverride F)
  /-- Enable the drives for a motion command. -/
  | arm

def MotionCommand.perform (files : RepoFiles) :
    MotionCommand F → Prog (ControlLoop F H) (LoopError F) Unit
  | setpoint joint positionRad speed => setJointPositionSetpointAtSpeed joint positionRad speed
  | hold => enterPositionHold files
  | holdAt joint positionRad speed => enterPositionHoldAtSpeed files joint positionRad speed
  | wave request => do
    let _ ← startPositionWave files request
  | torque joint tauNm => setTorqueCmd joint tauNm
  | torqueZero => enterTorqueOnlyZero
  | gains joint override => applyGainOverride joint override
  | arm => ensureActiveForMotion files

/-- What the owner may do with the loop. -/
inductive LoopInput (F : Type)
  | tick
  | command (files : RepoFiles) (command : MotionCommand F)
  | requestDegradedLower
  | takeDegradedEvents
  | setControlMode (mode : ControlMode)
  | trySetControlMode (mode : ControlMode)
  | clearPositionHold
  | clearGainOverride (joint : String)
  | forbidImplicitEnable
  | allowImplicitEnable
  | inhibitMotionForShutdown
  /-- The owner acts on the supervisor itself: every stop, fault and enable is one of these. -/
  | supervise (op : Op F)

/-- Do it. A failed operation leaves the state it has reached. -/
def LoopInput.perform : LoopInput F → ControlLoop F H → ControlLoop F H
  | tick => fun l => (Marengo.tick l).2
  | command files asked => fun l => (asked.perform files l).2
  | requestDegradedLower => fun l => (Marengo.requestDegradedLower l).2
  | takeDegradedEvents => fun l => ((Marengo.takeDegradedEvents (ε := Empty)) l).2
  | setControlMode mode => fun l => (ControlLoop.setControlMode (ε := Empty) mode l).2
  | trySetControlMode mode => fun l => (Marengo.trySetControlMode mode l).2
  | clearPositionHold => fun l =>
    { l with controllers := Controllers.clear F l.controllers, positionWave := none }
  | clearGainOverride joint => fun l =>
    { l with controllers := Controllers.clearGains F joint l.controllers }
  | forbidImplicitEnable => fun l => { l with implicitEnableForbidden := true }
  | allowImplicitEnable => fun l => { l with implicitEnableForbidden := false }
  | inhibitMotionForShutdown => fun l => (discardMotionIntent (ε := Empty) l).2
  | supervise op => fun l => { l with supervisor := op.perform l.supervisor }

/-- Do one thing after the other. -/
def ControlLoop.run (inputs : List (LoopInput F)) (self : ControlLoop F H) : ControlLoop F H :=
  inputs.foldl (fun l input => input.perform l) self

end

end

end Marengo

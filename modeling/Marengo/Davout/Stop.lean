import Marengo.Davout.Reporting

/-!
# Stops, and what leads to one

`performStopPaced` is the all-address stop: zero speed, neutral MIT and Disable for every installed
drive, one Disable for a shed one, whatever fails on the way. It ends the session, a degraded
episode and, through `finishReference`, a live acquisition. Around it stand the runtime errors that
latch a fault and stop, and the reference checks that stop an Active session.
-/

namespace Marengo

variable {F : Type}

def DegradedEnd.asStr : DegradedEnd → String
  | lowerComplete => "lower complete"
  | deadline => "deadline"
  | stopped => "stop"

def failure (kind : ReferenceFailureKind) (message : String) : ReferenceCause :=
  .failed kind (boundedMessage message)

/-- The neutral MIT command of a stop. -/
def neutralMit [Scalar F] (motor : MotorEntry F) : MitCommand F where
  deviceId := motor.deviceId
  motorType := motor.motorType
  positionRad := lit 0
  velocityRadS := lit 0
  kp := lit 0
  kd := lit 0
  torqueFfNm := lit 0

/-- What a stop clears. -/
def Session.cleared (self : Session) : Session :=
  { self with
    mode := .disabled, controlMode := .disabled, activeSince := none, activeJoints := []
    enableEchoPending := [], enableWritesPending := [], enableWriteDue := none
    reportingOffSince := none, reportingOffEchoed := fun _ => none }

section
variable [World F] {ε : Type}

/-! ## The all-address stop -/

/-- The silence of each Active target keeps counting from where the session counted it. -/
def carrySessionSilence (stopAt : Instant) : Prog (System F) ε Unit := do
  let s ← read
  each s.stopMotors.entries fun motor =>
    when (motor.joint ∈ s.activeJoints)
      (match s.silenceFrom motor.joint motor.address with
        | .lastFrame => pure ()
        | .withheld since => updatePhysical (·.countSilenceFrom motor.address since)
        | .solicited at_ => updatePhysical (·.countSilenceFrom motor.address (at_.getD stopAt)))

def stopAttempt (address : MotorAddress) (action : StopAction) (call : BusCall F) :
    Prog (System F) ε StopAttempt := do
  let error ← send call
  pure ⟨address, action, error.map fun e => boundedMessage (World.showSend F e)⟩

def stopDrive (motor : MotorEntry F) : Prog (System F) ε (List StopAttempt) := do
  let s ← read
  if s.driveLoss.isShed motor.address then do
    let disable ← stopAttempt motor.address .disable (.disableDrive motor.address)
    pure [disable]
  else do
    let zero ← stopAttempt motor.address .zeroSpeed (.speedControl motor.address (lit 0))
    let neutral ← stopAttempt motor.address .neutralMit
      (.mitControlAll [⟨motor.address, neutralMit motor⟩])
    let disable ← stopAttempt motor.address .disable (.disableDrive motor.address)
    pure [zero, neutral, disable]

/-- End the session: no target, gate or limiter history survives a stop. -/
def endSession : Prog (System F) ε Unit :=
  update fun s =>
    { s with
      toSession := s.toSession.cleared
      feedbackVelocityTrips := fun _ => none
      lastFeedbackSamples := fun _ => none
      lastFeedbackRx := fun _ => none
      driveFrames := fun _ => none
      wrongSignState := fun _ => none
      lastTauFf := fun _ => none
      lastTick := none }

/-- A degraded episode in progress ends with the stop and latches on the lost joint. -/
def endDegradedEpisodeOnStop : Prog (System F) ε Unit := do
  let s ← read
  let end_ := s.driveLoss.pendingEnd.getD .stopped
  update fun s => { s with driveLoss := { s.driveLoss with pendingEnd := none } }
  match s.driveLoss.episode with
  | none => pure ()
  | some episode => do
    update fun s => { s with driveLoss := { s.driveLoss with episode := none } }
    let _ ← recordFault .communication (some episode.lostJoint) s.driveLoss.lostAddress
      ("drive lost; degraded episode ended (" ++ end_.asStr ++ "); restart required") {}
    let t ← now
    update fun s =>
      { s with driveLoss := { s.driveLoss with outcome := some ⟨episode.lostJoint, end_, t⟩ } }

def beginStop : Prog (System F) ε Unit :=
  update fun s =>
    { s with faultAuthority := s.faultAuthority.beginStop, stops := s.stops + 1 }

def performStopPaced (synchronizeReporting : Bool) (pacer : Option BurstPacer) :
    Prog (System F) ε StopReport := do
  let s ← read
  when s.hasLatchedFault revokeReference
  when (s.mode = .active) do
    let t ← now
    carrySessionSilence t
  beginStop
  let generation ← reads fun s : System F => s.stopGeneration
  let r ← Prog.foldl (fun (attempts, pacer) motor => do
    let pacer ← beginGroupOf pacer motor.canInterface
    let more ← stopDrive motor
    pure (attempts ++ more, pacer)) (([] : List StopAttempt), pacer) s.stopMotors.entries
  let report : StopReport := ⟨generation, r.1⟩
  endSession
  when synchronizeReporting syncActiveReporting
  when (0 < report.failedWrites) do
    revokeReference
    let _ ← recordFault .stopDelivery none none
      "one or more stop writes failed; physical stop unconfirmed" {}
  endDegradedEpisodeOnStop
  update fun s => { s with faultAuthority := s.faultAuthority.setStopReport report }
  pure report

def performStop (synchronizeReporting : Bool) : Prog (System F) ε StopReport :=
  performStopPaced synchronizeReporting none

/-! ## Stops of reference work -/

/-- End the live acquisition: stop, then retain the terminal and, if accepted, its evidence. -/
def finishReference (cause : ReferenceCause) (existingStop : Option StopReport)
    (accepted : Option (AcceptedReferenceEvidence F × Option (PhysicalEvidence F))) :
    Prog (System F) ReferenceError ReferenceTerminal := do
  let s ← read
  match s.referenceOwner.reservation with
  | none => fail .outcomeExpired
  | some reservation => do
    update fun s =>
      { s with referenceOwner := { s.referenceOwner with reservation := none } }
    let stop ← (match existingStop with
      | some stop => pure stop
      | none => performStopPaced false
          (if accepted.isSome && s.referenceOwner.isPhysical && World.echoes F then
            some (fun _ => none) else none))
    markOwnerWork
    let terminal : ReferenceTerminal :=
      { handle := reservation.handle
        joint := reservation.request.joint
        cause := cause
        stop := stop
        reporting := reservation.reporting
        receive := reservation.receive }
    update fun s =>
      let stage := accepted.map fun (evidence, physical) =>
        { evidence := evidence
          physical := physical
          installedModel := reservation.installedModel
          overallDeadline := reservation.overallDeadline
          referenceGeneration := s.referenceAuthority.generation
          typedPolicy := reservation.typedPolicy : RetainedStage F }
      let owner := s.referenceOwner
      let kept := if owner.outcomes.length = terminalCapacity then owner.outcomes.tail
        else owner.outcomes
      { s with
        referenceOwner := { owner with
          outcomes := kept ++ [⟨reservation.request, terminal, stage⟩] } }
    let _ ← observeStagedReference
    pure terminal

/-- Stop every drive: cancel commits and a live acquisition on the way. -/
def disableAll : Prog (System F) DavoutError Unit := do
  cancelReferenceCommits .disable
  let s ← read
  let stop ← (if s.acquisitionBusy then do
      let terminal ← mapError (fun e => DavoutError.homing (World.showReference F e))
        (finishReference (.cancelled .disable) none none)
      pure terminal.stop
    else performStop true)
  ensure (stop.failedWrites = 0) (.stopDelivery stop.failedWrites)

/-- `disable_all` where the caller reports its own error. -/
def disableAllQuietly : Prog (System F) ε Unit := do
  let _ ← attempt (disableAll (F := F))

/-- A hazard ends reference work and stops every drive. -/
def abortReferenceForHazard (message : String) : Prog (System F) ε Unit := do
  invalidateReferenceCommits .safetyHazard
  let s ← read
  if s.acquisitionBusy then do
    let _ ← attempt (finishReference (F := F) (failure .hazard message) none none)
  else do
    let _ ← performStop false

def stopForHazard (message : String) : Prog (System F) ε Unit := do
  let busy ← referenceBusy
  if busy then abortReferenceForHazard message else disableAllQuietly

/-! ## Degraded episodes -/

/-- Stop every drive, naming the end of an episode in progress. -/
def stopEndingEpisode (end_ : DegradedEnd) : Prog (System F) DavoutError Unit := do
  update fun s =>
    if s.driveLoss.episode.isSome then
      { s with driveLoss := { s.driveLoss with pendingEnd := some end_ } }
    else s
  disableAll

/-- The controller brought the holding joints to rest. -/
def completeDegradedLower : Prog (System F) DavoutError Unit := stopEndingEpisode .lowerComplete

/-- Stop every drive once the episode's deadline has passed. -/
def enforceDegradedDeadline : Prog (System F) DavoutError Unit := do
  let s ← read
  match s.driveLoss.episode with
  | none => pure ()
  | some episode => do
    let t ← now
    when (episode.deadline ≤ t) do
      let _ ← attempt (stopEndingEpisode (F := F) .deadline)
      let s ← read
      lift s.requireFaultClear

/-! ## Runtime errors -/

/-- The fault a runtime error latches, if it latches one. -/
def Supervisor.classifyError (self : Supervisor F) (now : Instant) :
    DavoutError → Option (FaultClass × Option String)
  | .invalidFeedback joint _ | .limit joint _ => some (.feedback, some joint)
  | .commWatchdog _ joint _ _ _ =>
    -- an early request without an initial pose is refused, and the bounded neutral bootstrap may
    -- still obtain feedback
    if ((motorForJoint self.motors joint).bind fun m => self.enableBoundsStart m.address).any
        fun start => now - start ≤ self.commWatchdog then none
    else some (.communication, some joint)
  | .motorFault joint _ => some (.device, some joint)
  | .wrongSignWatchdog joint _ => some (.wrongSign, some joint)
  | .dangerZone _ joint => some (.dangerZone, some joint)
  | .bus error =>
    match error with
    | .write (.send _ _) | .write (.driver _) | .write (.interfaceOwned _)
    | .receiveIncomplete _ => some (.transport, none)
    | .write (.invalidCommand _) | .write (.commandAddressMismatch _ _)
    | .write (.duplicateMotorAddress _ _) | .write (.duplicateCommand _)
    | .write (.unknownMotorAddress _ _) | .write (.unknownJoint _) => some (.controller, none)
    | .malformedFeedback address _ => some (.feedback, (self.motorAt address).map (·.joint))
    | .recvTimeout => none
  | .config _ | .urdf _ | .notActive _ | .estop | .unknownJoint _ | .inactiveJoint _
  | .invalidCommand _ _
  | .invalidMotorConfig _ _ | .faultLatched _ _ _ _ | .stopDelivery _ | .homing _
  | .homingVerify _ _ | .referenceUnsupported _ | .referenceBusy _ | .installedGenerationExhausted
  | .referenceModel _ | .limitPatchActive | .activeSetChangeRefused | .protocolInspection _
  | .degradedEpisode _ _ | .driveLossPlan _ _ => none

/-- Latch the fault of a runtime error; `true` only for the first transition. -/
def recordRuntimeError (error : DavoutError) : Prog (System F) ε Bool := do
  let t ← now
  let s ← read
  match s.classifyError t error with
  | none => pure false
  | some (cls, joint) =>
    let address := (joint.bind (motorForJoint s.motors ·)).map (·.address)
    recordFault cls joint address (World.showError F error) {}

/-- Latch the fault of a runtime error and answer its first transition with a stop. -/
def stopAfterRuntimeError (error : DavoutError) : Prog (System F) ε Unit := do
  let first ← recordRuntimeError error
  when first disableAllQuietly

/-- The control owner's failure hook. -/
def latchControlFault (message : String) (joint : Option String) : Prog (System F) ε Unit := do
  let s ← read
  let address := (joint.bind (motorForJoint s.motors ·)).map (·.address)
  let first ← recordFault .controller (joint.filter fun _ => address.isSome) address message {}
  when first (stopForHazard message)

/-- The hardware E-stop input. Releasing it clears nothing. -/
def setHardwareEstop (asserted : Bool) : Prog (System F) ε Unit := do
  let s ← read
  let wasAsserted := s.hardwareEstop
  update fun s => { s with hardwareEstop := asserted }
  when asserted do
    let _ ← recordFault .hardwareEstop none none
      "hardware E-stop input asserted; releasing input is not qualified recovery" {}
    when (wasAsserted = false) (stopForHazard "hardware E-stop input asserted")

/-- Change the control mode, unless reference work is in progress. -/
def setControlMode (mode : ControlMode) : Prog (System F) ε Unit := do
  let busy ← referenceBusy
  when (busy = false) (update fun s => { s with controlMode := mode })

/-! ## Reference checks -/

/-- Every listed joint holds its reference permission. -/
def Supervisor.requireReferencePermission (self : Supervisor F) :
    List String → Except DavoutError Unit
  | [] => .ok ()
  | joint :: rest =>
    if self.referenceAuthority.contains joint then self.requireReferencePermission rest
    else .error (.homing ("joint " ++ joint ++ ": no private current-reference permission"))

/-- The installed binding is current; an Active session stops when it is not. -/
def ensureReferenceBinding : Prog (System F) DavoutError Unit := do
  refuseReferenceInterference "ordinary reference admission"
  let s ← read
  lift s.requireFaultClear
  let valid ← referenceBindingValid
  if valid then pure ()
  else do
    let s ← read
    when (s.mode = .active) disableAllQuietly
    fail (.homing (if s.referenceOwner.backend.isSome then
        "current reference is unavailable or permanently revoked; acquire a qualified reference " ++
          "for each joint first"
      else
        "current reference is unavailable or permanently revoked; this owner has no qualified " ++
          "acquisition capability"))

def ensureReferenceFor (joints : List String) : Prog (System F) DavoutError Unit := do
  ensureReferenceBinding
  let s ← read
  lift (s.requireReferencePermission joints)

end

end Marengo

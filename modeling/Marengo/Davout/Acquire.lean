import Marengo.Davout.Send

/-!
# Reference acquisition

An acquisition reserves the owner, stops every drive, suspends reporting, arms one target, sets its
zero and accepts correlated evidence of the new coordinate; a physical one also reads the drive's
identity before and its position after. `advanceReferencePhase` makes one phase of progress per
call. Whatever ends the acquisition ends it with an all-address stop, and a reservation never
survives an error exit.
-/

namespace Marengo

variable {F : Type}

def phaseTimeout : Duration := seconds 2

def operationStatusType : UInt32 := 2

/-- What an observer sees of the owner's reference work. -/
structure ReferenceSnapshot where
  phase : ReferencePhase
  joint : Option String
  handle : Option ReferenceHandle
  nextStamp : Option ReferenceStamp
  remaining : Option Duration
  referenceArmed : Bool
  terminal : Option ReferenceTerminal
  receive : Option ReferenceReceiveSummary
  stagedEvidence : ReferenceStageStatus

/-- When a phase expires: waiting for evidence lasts to the end, any other phase has its own limit.
Its end is never past the overall deadline, so the sum cannot overflow. -/
def phaseDeadline (now overall : Duration) (phase : ReferencePhase) : Duration :=
  if phase = .awaitEvidence then overall else now + min phaseTimeout (overall - now)

inductive Advance
  | next (phase : ReferencePhase)
  | ended (snapshot : ReferenceSnapshot)

section
variable [World F] {ε : Type}

def updateReservation (f : Reservation F → Reservation F) : Prog (System F) ε Unit :=
  update fun s =>
    { s with
      referenceOwner := { s.referenceOwner with
        reservation := s.referenceOwner.reservation.map f } }

/-! ## Observation -/

def Supervisor.nextStamp (self : Supervisor F) : Option ReferenceStamp :=
  if (checkedSucc self.referenceOwner.nextSequence).isSome then
    self.referencePolicy.toOption.map fun policy =>
      { owner := self.referenceOwner.identity
        sequence := self.referenceOwner.nextSequence
        stopGeneration := self.stopGeneration
        referenceGeneration := self.referenceAuthority.generation
        installedModel := self.installedModel
        policy := policy }
  else none

/-- Inspection of the reference work. A mismatch that it sees is never forgotten. -/
def referenceSnapshot : Prog (System F) ε ReferenceSnapshot := do
  let _ ← referenceBindingValid
  let s ← read
  match s.referenceOwner.reservation with
  | some reservation => do
    when (s.referencePolicy.toOption ≠ some reservation.policy ∨
        s.installedModel ≠ reservation.installedModel)
      (updateReservation fun r => { r with bindingInvalidated := true })
    let t ← (match s.referenceOwner.backend with
      | none => pure 0
      | some backend => backend.now)
    pure
      { phase := reservation.phase
        joint := some reservation.request.joint
        handle := some reservation.handle
        nextStamp := s.nextStamp
        remaining := some (min reservation.overallDeadline reservation.phaseDeadline - t)
        referenceArmed := reservation.armed
        terminal := none
        receive := reservation.receive
        stagedEvidence := .noEvidence }
  | none => do
    let terminal := s.referenceOwner.outcomes.getLast?.map (·.terminal)
    let status ← observeStagedReference
    pure
      { phase := if terminal.isSome then .terminal else .idle
        joint := terminal.map (·.joint)
        handle := terminal.map (·.handle)
        nextStamp := s.nextStamp
        remaining := none
        referenceArmed := false
        terminal := terminal
        receive := terminal.bind (·.receive)
        stagedEvidence := status }

def snapshotForTerminal (terminal : ReferenceTerminal) : Prog (System F) ε ReferenceSnapshot := do
  let snapshot ← referenceSnapshot
  let status ← referenceStageStatusFor terminal.handle
  pure { snapshot with
    phase := .terminal
    joint := some terminal.joint
    handle := some terminal.handle
    remaining := none
    referenceArmed := false
    receive := terminal.receive
    stagedEvidence := status
    terminal := some terminal }

/-! ## Requests -/

/-- The joint may be acquired: target, method and sign. -/
def referenceRequestPreflight (joint : String) (signTest : Option Bool) :
    Prog (System F) DavoutError Unit := do
  let _ ← referenceBindingValid
  let s ← read
  lift s.requireFaultClear
  ensure (s.hardwareEstop = false) .estop
  ensure ((motorForJoint s.motors joint).isSome) (.unknownJoint joint)
  lift ((validateSafetyConfig s.motors s.control s.homingConfig).mapError .config)
  match s.homingConfig.effectiveJoint joint with
  | none => fail (.homing ("joint " ++ joint ++ " missing homing policy"))
  | some policy => do
    ensure (policy.method = .manualReference)
      (.referenceUnsupported "configured reference method")
    ensure (¬(policy.signTestRequired ∧ signTest = some false))
      (.homingVerify joint "sign test required before reference request")

def acquisitionTimeout (homing : EffectiveHomingJoint F) : Except ReferenceError Duration :=
  if beq homing.homeOffsetRad (lit 0) = false ∨ homing.sensors.isSome then
    .error .unsupported
  else match World.durationOfSecs homing.searchTimeoutS with
    | none => .error (.invalidRequest "reference timeout is not representable")
    | some 0 => .error (.invalidRequest "reference timeout rounds to zero")
    | some timeout => .ok timeout

/-- The request was made before: its own handle, or a conflict. -/
def retried (old new : ReferenceRequest) (handle : ReferenceHandle) :
    Prog (System F) ReferenceError ReferenceHandle :=
  if old = new then pure handle else fail .conflictingRetry

/-- Reserve the owner for an admitted request. Prior coverage is invalidated, all of it for a
virtual owner, the target's for a physical one. -/
def reserve (backend : ReferenceBackend) (request : ReferenceRequest) (address : MotorAddress)
    (policy : String) (typedPolicy : TypedPolicy F) (now overallDeadline : Duration) :
    Prog (System F) ReferenceError ReferenceHandle := do
  let s ← read
  let invalidated := if backend.isPhysical then
      s.referenceAuthority.invalidateJointForAcquisition request.joint
    else s.referenceAuthority.invalidateForAcquisition
  match invalidated with
  | none => fail .counterExhausted
  | some authority => do
    updateAuthority fun _ => authority
    (if backend.isPhysical then markOwnerWork
      else do
        let error ← consult (World.sendError F)
        match error with
        | none => pure ()
        | some e => fail (.admission (.bus (.write e))))
    invalidateRetainedStages .superseded
    let handle : ReferenceHandle := ⟨s.referenceOwner.identity, request.stamp.sequence⟩
    update fun s =>
      { s with
        mode := .disabled
        controlMode := .disabled
        enableWritesPending := []
        enableWriteDue := none
        referenceOwner := { s.referenceOwner with
          nextSequence := s.referenceOwner.nextSequence + 1
          reservation := some
            { request := request
              handle := handle
              address := address
              policy := policy
              typedPolicy := typedPolicy
              installedModel := request.stamp.installedModel
              referenceGeneration := authority.generation
              stopGeneration := s.stopGeneration
              bindingInvalidated := false
              phase := .baselineStop
              overallDeadline := overallDeadline
              phaseDeadline := phaseDeadline now overallDeadline .baselineStop
              armed := false
              deviceEpoch := none
              reporting := []
              receive := none
              requestWatermark := 0
              identityRequestedAt := none
              uid := none
              ack := none } } }
    pure handle

/-- Admit a request that is no retry. -/
def admitReference (backend : ReferenceBackend) (request : ReferenceRequest) :
    Prog (System F) ReferenceError ReferenceHandle := do
  observeReferenceCommits
  let s ← read
  ensure ((s.referenceCommits.busy || s.referenceOwner.pendingCommit.isSome) = false) .busy
  ensure (s.referenceOwner.nextSequence ≤ request.stamp.sequence) .outcomeExpired
  let _ ← referenceBindingValid
  let s ← read
  ensure ((checkedSucc s.referenceOwner.nextSequence).isSome) .counterExhausted
  let policy ← lift s.referencePolicy
  ensure (request.stamp.sequence = s.referenceOwner.nextSequence ∧
    request.stamp.stopGeneration = s.stopGeneration ∧
    request.stamp.referenceGeneration = s.referenceAuthority.generation ∧
    request.stamp.installedModel = s.installedModel ∧ request.stamp.policy = policy) .staleStamp
  let m ← backend.matches
  ensure (m = true) .unsupported
  ensure (request.confirmed = true) (.invalidRequest "operator confirmation is required")
  mapError .admission (referenceRequestPreflight request.joint (some request.signVerified))
  let s ← read
  ensure (s.mode ≠ .active) (.invalidRequest "disable ordinary motion before acquisition")
  match s.homingConfig.effectiveJoint request.joint with
  | none => fail (.invalidRequest "selected homing policy is absent")
  | some homing => do
    let timeout ← lift (acquisitionTimeout homing)
    let t ← backend.now
    ensure (t + timeout ≤ maxDuration) .counterExhausted
    match s.installedMotor request.joint with
    | none => fail (.invalidRequest "target is outside installed routes")
    | some motor => do
      let typedPolicy : TypedPolicy F := ⟨s.motors, s.control, s.homingConfig⟩
      let _ ← lift ((World.encodePolicy typedPolicy).mapError fun e =>
        ReferenceError.invalidRequest (boundedMessage e))
      reserve backend request motor.address policy typedPolicy t (t + timeout)

/-- Reserve without transmitting. -/
def beginReference (request : ReferenceRequest) :
    Prog (System F) ReferenceError ReferenceHandle := do
  let s ← read
  match s.referenceOwner.backend with
  | none => fail .unsupported
  | some backend => do
    ensure (request.stamp.owner = s.referenceOwner.identity) .foreignIdentity
    match s.referenceOwner.outcomes.find? (·.request.stamp.sequence = request.stamp.sequence) with
    | some outcome => retried outcome.request request outcome.terminal.handle
    | none =>
      match s.referenceOwner.reservation with
      | some reservation =>
        if reservation.request.stamp.sequence = request.stamp.sequence then
          retried reservation.request request reservation.handle
        else fail .busy
      | none => admitReference backend request

/-! ## Phases -/

/-- Fail the acquisition; a failure of delivery or backend is a transport fault. -/
def failReference (kind : ReferenceFailureKind) (message : String) :
    Prog (System F) ReferenceError ReferenceSnapshot := do
  when (kind = .delivery ∨ kind = .backend) do
    let _ ← recordFault .transport none none message {}
  let terminal ← finishReference (failure kind message) none none
  snapshotForTerminal terminal

def failPhase (kind : ReferenceFailureKind) (message : String) :
    Prog (System F) ReferenceError Advance :=
  .ended <$> failReference kind message

/-- End the acquisition with accepted evidence. -/
def stageEvidence (evidence : AcceptedReferenceEvidence F) (physical : Option (PhysicalEvidence F)) :
    Prog (System F) ReferenceError Advance := do
  let terminal ← finishReference .evidenceStaged none (some (evidence, physical))
  .ended <$> snapshotForTerminal terminal

/-- A pacer for a burst of reference work on a physical, echoing bus. -/
def referencePacer (F : Type) [World F] (backend : ReferenceBackend) : Option BurstPacer :=
  if backend.isPhysical && World.echoes F then some (fun _ => none) else none

variable (r : Reservation F)

/-- Stop every drive, then suspend reporting. -/
def advanceBaselineStop (backend : ReferenceBackend) :
    Prog (System F) ReferenceError Advance := do
  let stop ← performStopPaced false (referencePacer F backend)
  if 0 < stop.failedWrites then do
    let terminal ← finishReference (failure .delivery "baseline stop was uncertain") (some stop)
      none
    .ended <$> snapshotForTerminal terminal
  else do
    updateReservation fun live => { live with stopGeneration := stop.generation }
    let t ← now
    when (backend.isPhysical && World.echoes F) (beginReportingOffGate t)
    let s ← read
    let suspended ← suspend s.stopMotors.entries (if backend.isPhysical then some r.address else none)
      (fun address => s.setZeroBlackoutPossible address t) (referencePacer F backend) t
    updateReservation fun live =>
      { live with
        reporting := suspended.1.map fun a =>
          ⟨a.joint, a.address, a.error.map fun e => boundedMessage (World.showSend F e)⟩ }
    if suspended.1.any (·.error.isSome) then do
      let _ ← recordFault .transport none none "reference reporting suspension failed" {}
      failPhase .reporting "reporting Off write failed"
    else pure (.next .drainOld)

/-- A write of reference work: its failure ends the acquisition. -/
def referenceWrite (call : BusCall F) (next : Prog (System F) ReferenceError Advance) :
    Prog (System F) ReferenceError Advance := do
  let error ← send call
  match error with
  | some e => failPhase .delivery (World.showSend F e)
  | none => next

def advanceRequestIdentity : Prog (System F) ReferenceError Advance := do
  let t ← now
  let s ← read
  updateReservation fun live =>
    { live with
      requestWatermark := s.referenceOwner.physical.watermark
      identityRequestedAt := some (t, t) }
  referenceWrite (.getDeviceId r.address) (pure (.next .awaitIdentity))

def advanceRequestReadback : Prog (System F) ReferenceError Advance := do
  let s ← read
  updateReservation fun live =>
    { live with
      requestWatermark := s.referenceOwner.physical.watermark
      identityRequestedAt := none }
  referenceWrite (.readParameter r.address .mechPos) (pure (.next .awaitReadback))

/-- Enable the target, on an echoing bus only once its Off has settled and its quiet elapsed. -/
def advanceArmTarget (backend : ReferenceBackend) :
    Prog (System F) ReferenceError Advance := do
  let t ← now
  let s ← read
  let gated := backend.isPhysical && World.echoes F
  if gated && !s.reportingOffSettled r.address t then
    failPhase .backend "target reporting Off not settled on the wire before Enable"
  else if gated && !s.setZeroQuietElapsed r.address t then
    failPhase .backend "target post-SetZero quiet not elapsed before Enable"
  else do
    updateReservation fun live => { live with armed := true }
    referenceWrite (.enableDrive r.address) do
      when (World.echoes F ∧ r.address ∉ s.enableEchoPending)
        (update fun s => { s with enableEchoPending := s.enableEchoPending ++ [r.address] })
      pure (.next .drainPostArm)

def installedTarget : Prog (System F) ReferenceError (MotorEntry F) := do
  let s ← read
  match s.stopMotors.entries.find? (·.address = r.address) with
  | none => fail (.invalidRequest "installed target disappeared")
  | some motor => pure motor

/-- The new coordinate epoch of a SetZero attempt. -/
def newCoordinate (backend : ReferenceBackend) :
    Prog (System F) ε (Option ℕ) :=
  match backend with
  | .virtual _ => consult (World.virtualEpoch F)
  | .physical .. => do
    let s ← read
    let next := s.referenceOwner.physical.beginNewCoordinate r.address
    updatePhysical fun _ => next.2
    pure next.1

/-- Set the target's zero: any attempt starts a new coordinate. -/
def advanceSetZero (backend : ReferenceBackend) :
    Prog (System F) ReferenceError Advance := do
  let motor ← installedTarget r
  invalidateReferenceTargetPoseForZeroAttempt motor
  when (World.echoes F) do
    let t ← now
    noteSetZero r.address t
  let error ← send (.setZeroPosition r.address)
  let epoch ← newCoordinate r backend
  updateReservation fun live => { live with deviceEpoch := epoch }
  match error with
  | some e => failPhase .delivery (World.showSend F e)
  | none =>
    if epoch = none then failPhase .backend "addressed SetZero did not advance a device epoch"
    else pure (.next (if backend.isPhysical then .awaitAck else .awaitEvidence))

/-! ### Receiving phases -/

def ReferencePoseObservation.nearZero (pose : ReferencePoseObservation F) (address : MotorAddress)
    (tolerance : F) : Bool :=
  pose.address = address && isFinite pose.state.positionRad &&
    !blt tolerance (Scalar.abs pose.state.positionRad)

/-- The first pose near zero that a proof of this transaction covers. -/
def acceptEvidence (identity realm : Token) (r : Reservation F) (tolerance : F)
    (proofs : List ReferenceCorrelation) (poses : List (ReferencePoseObservation F)) :
    Option (AcceptedReferenceEvidence F) :=
  poses.findSome? fun pose =>
    if pose.nearZero r.address tolerance then
      (proofs.find? fun proof =>
        proof.owner = identity && proof.realm = realm &&
        proof.transaction = r.handle.sequence && some proof.deviceEpoch = r.deviceEpoch &&
        proof.address = pose.address && proof.order = pose.order && proof.canId = pose.canId &&
        proof.receivedAt = pose.receivedAt).map fun proof =>
          ⟨proof, pose.address, pose.order, pose.canId, pose.receivedAt, pose.state.positionRad⟩
    else none

/-- The identity has not been answered: ask again within the admission window. -/
def retryIdentity : Prog (System F) ReferenceError Advance := do
  let t ← now
  if r.identityRequestedAt.any fun (first, last) =>
      identityAdmissionRetry ≤ t - last && t - first < identityAdmissionTimeout then do
    updateReservation fun live =>
      { live with identityRequestedAt := live.identityRequestedAt.map fun (first, _) => (first, t) }
    referenceWrite (.getDeviceId r.address) (pure (.next .awaitIdentity))
  else pure (.next .awaitIdentity)

/-- Accept the target's identity, unless another address answers with it. -/
def advanceAwaitIdentity : Prog (System F) ReferenceError Advance := do
  let s ← read
  match s.referenceOwner.physical.identityAfter r.address r.requestWatermark with
  | none => retryIdentity r
  | some uid =>
    if s.referenceOwner.physical.uidClaimedElsewhere r.address uid then
      failPhase .identity ("device identifier " ++ World.showUid F uid ++
        " also answers at another installed address")
    else do
      updateReservation fun live => { live with uid := some uid }
      pure (.next (if World.echoes F then .awaitReportingOff else .armTarget))

/-- A status reply popped after the SetZero acknowledges it. -/
def advanceAwaitAck (tolerance : F)
    (poses : List (ReferencePoseObservation F)) : Prog (System F) ReferenceError Advance :=
  match poses.find? fun pose =>
      decide (pose.canId >>> (24 : UInt32) = operationStatusType) &&
        pose.nearZero r.address tolerance with
  | none => pure (.next .awaitAck)
  | some pose => do
    updateReservation fun live =>
      { live with ack := some ⟨pose.order, pose.canId, pose.state.positionRad⟩ }
    pure (.next .requestReadback)

def stageReadback (backend : ReferenceBackend) (reply : ParameterReadObservation)
    (positionRad : F) (deviceEpoch : ℕ) (physical : PhysicalEvidence F) :
    Prog (System F) ReferenceError Advance := do
  let s ← read
  let proof : ReferenceCorrelation :=
    { owner := s.referenceOwner.identity
      realm := backend.realm
      transaction := r.handle.sequence
      deviceEpoch := deviceEpoch
      address := r.address
      order := reply.order
      canId := reply.canId
      receivedAt := reply.receivedAt }
  stageEvidence ⟨proof, reply.address, reply.order, reply.canId, reply.receivedAt, positionRad⟩
    (some physical)

/-- Physical evidence: the position that the drive reads back. -/
def acceptPhysicalReadback (backend : ReferenceBackend) (motor : MotorEntry F) :
    Prog (System F) ReferenceError Advance := do
  let s ← read
  let tolerance := s.homingConfig.zeroVerifyToleranceRad
  match s.referenceOwner.physical.readAfter r.address ParameterId.mechPos.index
      r.requestWatermark with
  | none => .ended <$> referenceSnapshot
  | some reply =>
    if reply.reply.succeeded = false then
      failPhase .readback ("drive refused mechPos read (status " ++
        toString reply.reply.status.toNat ++ ")")
    else do
      let scale ← lift ((motorPositionScale motor).mapError ReferenceError.admission)
      let position := World.floatOfBytes reply.reply.value / scale
      if !isFinite position || blt tolerance (Scalar.abs position) then
        failPhase .readback ("mechPos readback " ++ World.showNum position ++
          " rad is outside tolerance " ++ World.showNum tolerance ++ " rad")
      else match r.uid, r.ack, r.deviceEpoch with
        | some uid, some ack, some deviceEpoch => do
          let observed := s.referenceOwner.physical.observePosition r.address position
            reply.receivedAt tolerance
          updatePhysical fun _ => observed.2
          if observed.1 || observed.2.uid r.address ≠ some uid ||
              observed.2.epoch r.address ≠ some deviceEpoch then
            failPhase .identity "device identity or coordinate continuity changed during acquisition"
          else
            stageReadback r backend reply (narrow position) deviceEpoch
              ⟨uid, ack.order, ack.canId, ack.positionRad⟩
        | _, _, _ =>
          failPhase .backend "physical readback without identity, ack and coordinate epoch"

/-- What a clean report of a receiving phase leads to. -/
def advanceReceived (backend : ReferenceBackend) (motor : MotorEntry F)
    (proofs : List ReferenceCorrelation) (poses : List (ReferencePoseObservation F)) :
    Prog (System F) ReferenceError Advance := do
  let s ← read
  let tolerance := s.homingConfig.zeroVerifyToleranceRad
  match r.phase with
  | .awaitEvidence =>
    match acceptEvidence s.referenceOwner.identity backend.realm r tolerance proofs poses with
    | some evidence => stageEvidence evidence none
    | none => pure (.next .awaitEvidence)
  | .drainOld => pure (.next (if backend.isPhysical then .requestIdentity else .armTarget))
  | .drainPostArm =>
    pure (.next (if r.address ∈ s.enableEchoPending then .drainPostArm else .setZero))
  | .awaitIdentity => advanceAwaitIdentity r
  | .awaitReportingOff => do
    let t ← now
    pure (.next (if s.reportingOffSettled r.address t && s.setZeroQuietElapsed r.address t then
      .armTarget else .awaitReportingOff))
  | .awaitAck => advanceAwaitAck r tolerance poses
  | .awaitReadback => acceptPhysicalReadback r backend motor
  | .idle | .baselineStop | .requestIdentity | .armTarget | .setZero | .requestReadback
  | .terminal => fail (.invalidRequest "invalid receive phase")

def Reservation.receivePhase (self : Reservation F) : ReferenceReceivePhase :=
  if self.armed = false then .beforeEnable
  else if self.deviceEpoch = none then .enabledBeforeZero
  else .enabled

/-- A receiving phase: one bounded report, whose hazards end the acquisition. -/
def advanceReceive (backend : ReferenceBackend) :
    Prog (System F) ReferenceError Advance := do
  let report ← receive
  let motor ← installedTarget r
  let consumed ← consumeReportInContext report (.reference motor.address r.receivePhase)
  updateReservation fun live =>
    { live with
      receive := some ⟨consumed.completion, consumed.rawFrames, consumed.readAttempts⟩ }
  let proofs ← (match backend with
    | .virtual _ => consult (World.virtualProofs F)
    | .physical .. => pure [])
  let s ← read
  match consumed.firstError with
  | some error =>
    failPhase (match error with
      | .bus (.receiveIncomplete _) => .incompleteReceive
      | _ => .hazard) (World.showError F error)
  | none =>
    if consumed.firstTransition || s.hasLatchedFault then failPhase .hazard "ordered feedback hazard"
    else if consumed.completion.isComplete = false then
      failPhase .incompleteReceive "reference drain is incomplete"
    else advanceReceived r backend motor proofs consumed.referencePoses

/-- The progress of the reservation's own phase. -/
def advanceOwnPhase (backend : ReferenceBackend) :
    Prog (System F) ReferenceError Advance :=
  match r.phase with
  | .baselineStop => advanceBaselineStop r backend
  | .requestIdentity => advanceRequestIdentity r
  | .requestReadback => advanceRequestReadback r
  | .armTarget => advanceArmTarget r backend
  | .setZero => advanceSetZero r backend
  | .drainOld | .drainPostArm | .awaitEvidence | .awaitIdentity | .awaitReportingOff | .awaitAck
  | .awaitReadback => advanceReceive r backend
  | .idle | .terminal => fail (.invalidRequest "invalid reserved phase")

/-- The owner is still the one the reservation was made under. -/
def Supervisor.reservationHolds (self : Supervisor F) (r : Reservation F) (backendMatches : Bool) :
    Bool :=
  !r.bindingInvalidated && backendMatches && self.installedModel = r.installedModel &&
    self.referenceAuthority.generation = r.referenceGeneration &&
    self.stopGeneration = r.stopGeneration &&
    (match self.referencePolicy with
      | .ok policy => policy = r.policy
      | .error _ => false) &&
    self.mode = .disabled && self.controlMode = .disabled

def advanceLiveReference (backend : ReferenceBackend) :
    Prog (System F) ReferenceError ReferenceSnapshot := do
  markOwnerWork
  let t ← backend.now
  let m ← backend.matches
  let s ← read
  if r.overallDeadline ≤ t ∨ r.phaseDeadline ≤ t then do
    let terminal ← finishReference .timedOut none none
    snapshotForTerminal terminal
  else if s.hasLatchedFault ∨ s.hardwareEstop then
    failReference .hazard "persistent safety hazard"
  else if s.reservationHolds r m = false then
    failReference .bindingChanged "installed policy or owner continuity changed"
  else do
    let advance ← advanceOwnPhase r backend
    match advance with
    | .ended snapshot => pure snapshot
    | .next phase => do
      -- a repeated await phase does not renew its deadline
      when (phase ≠ r.phase) (updateReservation fun live =>
        { live with phase := phase, phaseDeadline := phaseDeadline t r.overallDeadline phase })
      referenceSnapshot

/-- One phase of the acquisition of `handle`; a retained terminal is only reported. -/
def advanceReferencePhase (handle : ReferenceHandle) :
    Prog (System F) ReferenceError ReferenceSnapshot := do
  let s ← read
  ensure (handle.owner = s.referenceOwner.identity) .foreignIdentity
  match s.findOutcome handle with
  | some outcome => snapshotForTerminal outcome.terminal
  | none =>
    match s.referenceOwner.reservation with
    | none => fail .outcomeExpired
    | some reservation =>
      if reservation.handle ≠ handle then fail .outcomeExpired
      else match s.referenceOwner.backend with
        | none => fail .unsupported
        | some backend => advanceLiveReference reservation backend

/-- Advance the acquisition of `handle`. An error exit ends a live reservation with a stop. -/
def advanceReference (handle : ReferenceHandle) :
    Prog (System F) ReferenceError ReferenceSnapshot := do
  let r ← attempt (advanceReferencePhase handle)
  match r with
  | .ok snapshot => pure snapshot
  | .error error => do
    let s ← read
    when (s.referenceOwner.reservation.any (·.handle = handle)) do
      let _ ← attempt (finishReference (F := F)
        (failure .backend (World.showReference F error)) none none)
    fail error

/-- Cancel the acquisition of `handle`. -/
def cancelReference (handle : ReferenceHandle) (reason : ReferenceCancelReason) :
    Prog (System F) ReferenceError ReferenceTerminal := do
  let s ← read
  ensure (handle.owner = s.referenceOwner.identity) .foreignIdentity
  match s.findOutcome handle with
  | some outcome => pure outcome.terminal
  | none =>
    if s.referenceOwner.reservation.any (·.handle = handle) then
      finishReference (.cancelled reason) none none
    else fail .outcomeExpired

def cancelReferenceForShutdown : Prog (System F) ε (Option ReferenceTerminal) := do
  let s ← read
  when (s.referenceAuthority.consumed ≠ []) revokeReference
  update fun s => { s with referenceOwner := { s.referenceOwner with pendingCommit := none } }
  invalidateRetainedStages .shutdown
  cancelReferenceCommits .shutdown
  let s ← read
  if s.acquisitionBusy then do
    let r ← attempt (finishReference (F := F) (.cancelled .shutdown) none none)
    pure r.toOption
  else pure none

end

end Marengo

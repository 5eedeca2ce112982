import Mathlib.Data.List.Sort
import Marengo.Davout.DriveLoss

/-!
# Consuming a receive report

`consumeReportInContext` walks one report in raw receive order. Every hazard goes to the fault
authority, whatever came before it; nothing is transmitted and nothing is stopped here. A sample
that passes becomes a pose candidate, and after the walk the latest candidate of each address is
checked for velocity and stored. Where the source keeps the last clock reading to spare a new one,
the model reads the clock: the clock is monotonic, so the answer is the same.
-/

namespace Marengo

variable {F : Type}

/-- Consecutive samples above the velocity threshold that trip. -/
def feedbackVelocityLimitTrips : ℕ := 3

/-- The `Debug` form of an operational mode. -/
def OperationalMode.debug : OperationalMode → String
  | disabled => "Disabled"
  | ready => "Ready"
  | active => "Active"

/-- How far the acquisition target is. -/
inductive ReferenceReceivePhase
  | beforeEnable
  /-- Armed, SetZero not yet attempted: its old coordinate is untrusted. -/
  | enabledBeforeZero
  | enabled
deriving DecidableEq

/-- What a receive is made for. -/
inductive ReceiveContext
  | operational
  | reference (target : MotorAddress) (phase : ReferenceReceivePhase)
  | disabledInspection
deriving DecidableEq

namespace ReceiveContext

def referenceTarget : ReceiveContext → Option MotorAddress
  | operational | disabledInspection => none
  | reference target _ => some target

/-- The measured limits of this address mean something: the target's after its SetZero attempt, a
peer's while it holds permission. -/
def coordinateTrusted (context : ReceiveContext) (address : MotorAddress) (peerReferenced : Bool) :
    Bool :=
  match context with
  | operational | disabledInspection => true
  | reference target phase => if address = target then phase = .enabled else peerReferenced

end ReceiveContext

/-- An admitted sample of the acquisition target, before its velocity is replaced. -/
structure ReferencePoseObservation (F : Type) where
  order : ℕ
  address : MotorAddress
  canId : UInt32
  receivedAt : Instant
  state : MotorState F

/-- Latest admitted sample of one installed address within a drain. -/
structure PoseCandidate (F : Type) where
  order : ℕ
  motor : MotorEntry F
  address : MotorAddress
  state : MotorState F

/-- What the walk has found so far. -/
structure Consumption (F : Type) where
  firstError : Option DavoutError := none
  firstTransition : Bool := false
  referencePoses : List (ReferencePoseObservation F) := []
  candidates : List (PoseCandidate F) := []

/-- Note a hazard: the first error and the first transition are kept. -/
def Consumption.note (self : Consumption F) (transition : Bool) (error : Option DavoutError) :
    Consumption F :=
  { self with
    firstTransition := self.firstTransition || transition
    firstError := self.firstError.or error }

structure FeedbackConsumption (F : Type) where
  firstError : Option DavoutError
  firstTransition : Bool
  referencePoses : List (ReferencePoseObservation F)
  completion : ReceiveCompletion
  rawFrames : ℕ
  readAttempts : ℕ

inductive OrderedReceive (F : Type)
  | motor (observation : FeedbackObservation F)
  | hostEcho (echo : HostEchoObservation)
  | transport (frame : TransportObservation)
  | terminal (error : BusError)

/-- An event at its place: raw position, then a terminal error before a frame of that position. -/
structure Placed (F : Type) where
  order : ℕ
  rank : ℕ
  event : OrderedReceive F

/-- The events of a report in raw receive order. A terminal error without a position comes after
everything delivered. -/
def FeedbackReport.ordered (report : FeedbackReport F) : List (Placed F) :=
  let delivered : List (Placed F) :=
    report.observations.map (fun o => ⟨o.order, 1, .motor o⟩) ++
    report.transportFrames.map (fun o => ⟨o.order, 1, .transport o⟩) ++
    report.hostEchoes.map (fun e => ⟨e.order, 1, .hostEcho e⟩)
  let terminal : List (Placed F) := report.terminalError.toList.map fun error =>
    ⟨report.terminalErrorOrder.getD
      (max (((delivered.map (·.order + 1)).max?).getD 0) report.rawFrames), 0, .terminal error⟩
  (delivered ++ terminal).insertionSort
    fun a b => a.order < b.order ∨ a.order = b.order ∧ a.rank ≤ b.rank

/-- The code of a drive mode in fault evidence. -/
def DriveMode.code : DriveMode → UInt8
  | reset => 0
  | calibration => 1
  | run => 2
  | reserved => 3

/-- The received part of a word of a malformed detailed-fault payload, and which bytes of it were
received. -/
def partialWord (raw : Payload) (length offset : ℕ) (h : offset ≤ 4) : Word × UInt8 :=
  (.ofFn fun i : Fin 4 => if offset + i < length then raw[offset + i] else 0,
    (List.range 4).foldl
      (fun bits i => if offset + i < length then bits ||| (1 <<< UInt8.ofNat i) else bits) 0)

/-- The device evidence of a malformed frame: only a data frame qualifies header bits, and only a
detailed-fault frame carries words. -/
def MalformedFeedback.device (m : MalformedFeedback) (receivedAt : Instant) (canId : UInt32) :
    DeviceFaultEvidence :=
  if m.kind = .data then
    let length := if canId >>> (24 : UInt32) = 21 then min m.payloadLen.toNat 8 else 0
    let faults := partialWord m.raw length 0 (by decide)
    let warnings := partialWord m.raw length 4 (by decide)
    { receivedAt := some receivedAt
      statusFlags := m.statusFlags.getD 0
      driveMode := m.driveMode.map (·.code)
      partialFaultBytes := faults.1
      partialFaultAvailable := faults.2
      partialWarningBytes := warnings.1
      partialWarningAvailable := warnings.2 }
  else { receivedAt := some receivedAt }

namespace Supervisor

variable (self : Supervisor F)

/-- Run is required of a frame read after the address's Enable reached the wire. -/
def feedbackRunExpected (motor : MotorEntry F) (address : MotorAddress) (receivedAt : Instant)
    (context : ReceiveContext) : Bool :=
  address ∉ self.enableEchoPending &&
    match context with
    | .operational => self.mode = .active && motor.joint ∈ self.activeJoints &&
        self.activeSince.any (· < receivedAt)
    | .reference target phase => phase ≠ .beforeEnable && address = target
    | .disabledInspection => false

/-- Measured position and velocity are hazards now. -/
def feedbackMotionGuardsEnabled : ReceiveContext → Bool
  | .operational => self.mode = .active
  | .reference _ phase => phase ≠ .beforeEnable
  | .disabledInspection => false

def latchedError : Option DavoutError :=
  match self.requireFaultClear with
  | .ok () => none
  | .error e => some e

/-- Remember the latest frame of a drive, and report a likely reboot. -/
def trackDriveFrame (motor : MotorEntry F) (address : MotorAddress) (mode : DriveMode)
    (receivedAt : Instant) (runExpected : Bool) : Supervisor F :=
  let next := { self with
    driveFrames := Function.update self.driveFrames address (some ⟨mode, receivedAt⟩) }
  match self.driveFrames address with
  | none => next
  | some previous =>
    if mode ≠ .reset ∨ runExpected = false then next
    else if previous.mode ≠ .run ∧ receivedAt - previous.at_ ≤ self.commWatchdog then next
    else { next with
      lastDriveReboot := some
        ⟨motor.joint, address, previous.mode, mode, receivedAt - previous.at_⟩ }

/-- A sample passed the walk. It becomes the candidate of its address, unless it was read before
this session's Enable reached the wire or an earlier one is at least as new. -/
def admitCandidate (context : ReceiveContext) (acc : Consumption F) (order : ℕ)
    (observation : FeedbackObservation F) (motor : MotorEntry F) (statusFlags : UInt8)
    (state : MotorState F) : Consumption F :=
  let address := observation.address
  let existing := acc.candidates.find? (·.address = address)
  let candidate : PoseCandidate F := ⟨order, motor, address, state⟩
  if context = .operational ∧ self.mode = .active ∧ address ∈ self.enableEchoPending then acc
  else if ((self.motorStates address).bind (·.updated)).any (observation.receivedAt ≤ ·) then acc
  else if (existing.bind (·.state.updated)).any (observation.receivedAt < ·) then acc
  else
    { acc with
      referencePoses :=
        if context.referenceTarget = some address ∧ statusFlags = 0 then
          acc.referencePoses ++ [⟨order, address, observation.canId, observation.receivedAt, state⟩]
        else acc.referencePoses
      candidates :=
        if existing.isSome then
          acc.candidates.map fun c => if c.address = address then candidate else c
        else acc.candidates ++ [candidate] }

end Supervisor

section
variable [World F] {ε : Type}

variable (motor : MotorEntry F)

def motorPositionScale : Except DavoutError F :=
  if motor.direction ≠ -1 ∧ motor.direction ≠ 1 then
    .error (.invalidMotorConfig motor.joint "direction must be -1 or 1")
  else if !isFinite motor.gearRatio || ble motor.gearRatio (lit 0) then
    .error (.invalidMotorConfig motor.joint "gear_ratio must be finite and positive")
  else .ok ((if motor.direction < 0 then lit (-1) else lit 1) * motor.gearRatio)

def motorToJointState (raw : MotorState F) :
    Except DavoutError (MotorState F) := do
  let scale ← motorPositionScale motor
  .ok { raw with
    positionRad := narrow (raw.positionRad / scale)
    velocityRadS := narrow (raw.velocityRadS / scale)
    torqueNm := narrow (raw.torqueNm * scale) }

/-- Every value of a sample is finite. -/
def validateMotorFeedback (joint : String) (state : MotorState F) : Except DavoutError Unit :=
  match [("position", state.positionRad), ("velocity", state.velocityRadS),
      ("torque", state.torqueNm), ("temperature", state.temperatureC)].find?
      (!isFinite ·.2) with
  | some (field, _) => .error (.invalidFeedback joint (field ++ " must be finite"))
  | none => .ok ()

/-- The measured position is inside the fault limits, where it counts. -/
def checkFeedbackPosition (state : MotorState F)
    (context : ReceiveContext) : Prog (System F) DavoutError Unit := do
  let s ← read
  if !s.feedbackMotionGuardsEnabled context ||
      !context.coordinateTrusted motor.address (s.referenceAuthority.contains motor.joint) then
    pure ()
  else match s.limits motor.joint with
    | none => fail (.unknownJoint motor.joint)
    | some lim =>
      if measuredPositionFault state.positionRad lim then do
        update fun s =>
          { s with outOfLimits := Function.update s.outOfLimits motor.joint true }
        fail (.limit motor.joint ("measured position " ++ World.showNum state.positionRad ++
          " outside [" ++ World.showNum lim.bounds.hardLower ++ ", " ++
          World.showNum lim.bounds.hardUpper ++ "] (+ slack " ++
          World.showNum lim.margin.measuredFaultSlackRad ++ ")"))
      else pure ()

/-- Margin over the velocity limit before a measured speed counts. -/
def feedbackVelocityFaultMarginRadS : F := lit (1 / 2)

/-- Replace the sample's velocity by the one its position shows, and trip after repeated samples
above the threshold. -/
def checkFeedbackVelocity (state : MotorState F) (receivedAt : Instant)
    (context : ReceiveContext) : Prog (System F) DavoutError (MotorState F) := do
  let s ← read
  if s.feedbackMotionGuardsEnabled context = false then do
    update fun s =>
      { s with
        feedbackVelocityTrips := Function.update s.feedbackVelocityTrips motor.joint none
        lastFeedbackSamples := Function.update s.lastFeedbackSamples motor.joint none }
    pure state
  else match s.limits motor.joint with
    | none => fail (.unknownJoint motor.joint)
    | some lim =>
      let raw := state.velocityRadS
      let position := state.positionRad
      let positionVelocity := (s.lastFeedbackSamples motor.joint).bind fun prev =>
        if 0 < receivedAt - prev.receivedAt then
          some ((position - prev.positionRad) / secsF64 (receivedAt - prev.receivedAt))
        else none
      let measured := positionVelocity.getD raw
      let threshold := lim.velocity + feedbackVelocityFaultMarginRadS
      -- a raw spike that the position does not show counts as no trip
      let spike := blt lim.velocity (Scalar.abs raw) &&
        ble (Scalar.abs measured) threshold
      let trips := if !spike && blt threshold (Scalar.abs measured) then
          some (min (((s.feedbackVelocityTrips motor.joint).getD 0) + 1) 255)
        else none
      do
        update fun s =>
          { s with
            feedbackVelocityTrips := Function.update s.feedbackVelocityTrips motor.joint trips
            lastFeedbackSamples := Function.update s.lastFeedbackSamples motor.joint
              (some ⟨position, receivedAt⟩) }
        if trips.any (feedbackVelocityLimitTrips ≤ ·) then
          fail (.limit motor.joint ("feedback |velocity| " ++ World.showNum measured ++ " > " ++
            World.showNum threshold ++ " (limit " ++ World.showNum lim.velocity ++ " + margin " ++
            World.showNum (feedbackVelocityFaultMarginRadS : F) ++ ")"))
        else pure { state with velocityRadS := narrow measured }

/-- The address's samples are invalid until a good one is admitted. -/
def markInvalid (address : MotorAddress) : Prog (System F) ε Unit :=
  update fun s => { s with invalidFeedback := Function.update s.invalidFeedback address true }

variable (acc : Consumption F)

/-- Refuse a sample: its address is invalid and the error is latched. -/
def rejectSample (address : MotorAddress) (error : DavoutError) :
    Prog (System F) ε (Consumption F) := do
  markInvalid address
  let transition ← recordRuntimeError error
  pure (acc.note transition (some error))

/-! ## Events -/

/-- An echo of this host's own command: a wire-order marker only. -/
def consumeEcho (echo : HostEchoObservation) : Prog (System F) ε Unit :=
  match echo.command with
  | .enable =>
    -- a target whose Enable is not yet written cannot be on the wire: an older echo is not its
    update fun s =>
      if echo.address ∈ s.enableWritesPending then s
      else { s with
        enableEchoPending := s.enableEchoPending.filter (· ≠ echo.address)
        referenceOwner := { s.referenceOwner with
          physical := s.referenceOwner.physical.countSilenceFrom echo.address echo.receivedAt } }
  | .reportingOff =>
    update fun s =>
      if ((s.motorAt echo.address).bind fun m => s.reportingOffWritten m.joint).isSome then
        { s with
          reportingOffEchoed :=
            Function.update s.reportingOffEchoed echo.address (some echo.receivedAt) }
      else s
  | .setZero => noteSetZero echo.address echo.receivedAt

def consumeTransport (frame : TransportObservation) :
    Prog (System F) ε (Consumption F) := do
  let transition ← recordReceiveFault .transport none none
    "received CAN error frame; physical bus state and error subscriptions unqualified" {}
    (.frame ⟨frame.interface, frame.canId, frame.extended, frame.receivedAt, frame.raw,
      frame.payloadLen, frame.kind, none⟩)
  let s ← read
  pure (acc.note transition s.latchedError)

/-- The error that ended the drain; an empty poll is none. -/
def consumeTerminal (error : BusError) : Prog (System F) ε (Consumption F) :=
  if error = .recvTimeout then pure acc
  else do
    let transition ← recordRuntimeError (.bus error)
    pure (acc.note transition (some (.bus error)))

/-- Latch everything a malformed frame shows; `true` when one of them is the first fault. -/
def recordMalformedFeedback (address : MotorAddress) (receivedAt : Instant)
    (canId : UInt32) (malformed : MalformedFeedback) (context : ReceiveContext) :
    Prog (System F) ε Bool := do
  let device := malformed.device receivedAt canId
  let onDevice ← (if device.statusFlags ≠ 0 ∨ device.partialFaultBytes ≠ .replicate 4 0 then
      recordFault .device (some motor.joint) (some address)
        "vendor fault evidence from malformed data; partial words remain unqualified" device
    else pure false)
  let s ← read
  let onMode ← (if device.driveMode = some 3 ∨
        s.feedbackRunExpected motor address receivedAt context ∧ device.driveMode.any (· ≠ 2) then
      recordFault .driveState (some motor.joint) (some address)
        "unexpected drive mode in malformed Data status" device
    else pure false)
  markInvalid address
  let onFrame ← recordReceiveFault .feedback (some motor.joint) (some address)
    (World.showError F (.bus (.malformedFeedback address malformed.reason))) device
    (.frame ⟨some address.interface, canId, true, receivedAt, malformed.raw, malformed.payloadLen,
      malformed.kind, some malformed.reason⟩)
  pure (onDevice || onMode || onFrame)

def consumeDetailedFault (motor : MotorEntry F) (address : MotorAddress)
    (receivedAt : Instant) (report : DetailedFaultFeedback) :
    Prog (System F) ε (Consumption F) := do
  recordWarning motor.joint address report.warningBytes
  if report.faultBytes = .replicate 4 0 then pure acc
  else do
    let transition ← recordFault .device (some motor.joint) (some address)
      "vendor detailed fault; word byte order and physical recovery unqualified"
      { receivedAt := some receivedAt
        detailedFaultBytes := report.faultBytes
        warningBytes := report.warningBytes }
    let s ← read
    pure (acc.note transition s.latchedError)

/-- `received_at > Instant::now()`. -/
def isFuture (receivedAt : Instant) : Prog (System F) ε Bool := do
  let t ← now
  pure (t < receivedAt)

variable (context : ReceiveContext)

/-- The joint-space sample of a status reply, if nothing is wrong with it. -/
def prepareSample (motor : MotorEntry F) (receivedAt : Instant)
    (status : MitFeedback F) : Prog (System F) DavoutError (MotorState F) := do
  let raw : MotorState F :=
    { positionRad := status.positionRad
      velocityRadS := status.velocityRadS
      torqueNm := status.torqueNm
      temperatureC := status.temperatureC
      fault := status.statusFlags.toNat
      updated := some receivedAt }
  lift (validateMotorFeedback motor.joint raw)
  let state ← lift (motorToJointState motor raw)
  lift (validateMotorFeedback motor.joint state)
  let future ← isFuture receivedAt
  ensure (future = false) (.invalidFeedback motor.joint "receive timestamp is in the future")
  checkFeedbackPosition motor state context
  pure state

/-- The sample of a status reply whose header was accepted. -/
def consumeSample (acc : Consumption F) (order : ℕ)
    (observation : FeedbackObservation F) (motor : MotorEntry F) (status : MitFeedback F) :
    Prog (System F) ε (Consumption F) := do
  let prepared ← attempt (prepareSample context motor observation.receivedAt status)
  match prepared with
  | .error error => rejectSample acc observation.address error
  | .ok state => do
    let s ← read
    pure (s.admitCandidate context acc order observation motor status.statusFlags state)

/-- A reply of a drive that is not shed: its mode, then its sample. A version reply has none, and
is expected only in an inspection. -/
def consumeReply (acc : Consumption F) (order : ℕ)
    (observation : FeedbackObservation F) (motor : MotorEntry F) (driveMode : DriveMode)
    (device : DeviceFaultEvidence) (status : Option (MitFeedback F)) :
    Prog (System F) ε (Consumption F) := do
  let address := observation.address
  let s ← read
  let runExpected := s.feedbackRunExpected motor address observation.receivedAt context
  update fun s =>
    { s with
      toSupervisor :=
        s.toSupervisor.trackDriveFrame motor address driveMode observation.receivedAt runExpected }
  if driveMode = .reserved ∨ (runExpected ∧ driveMode ≠ .run) ∨
      (context = .disabledInspection ∧ driveMode ≠ .reset) then do
    let error := DavoutError.invalidFeedback motor.joint ("unexpected drive mode " ++
      driveMode.debug ++ " for " ++ s.mode.debug ++ "; no qualified factory-calibration context")
    markInvalid address
    let transition ← recordFault .driveState (some motor.joint) (some address)
      (World.showError F error) device
    pure (acc.note transition (some error))
  else match status with
    | some status => consumeSample context acc order observation motor status
    | none =>
      let error := DavoutError.invalidFeedback motor.joint "unsolicited firmware version reply"
      if context = .disabledInspection then pure acc else rejectSample acc address error

/-- A reply of a shed drive: never a pose. -/
def consumeShedReply (observation : FeedbackObservation F)
    (motor : MotorEntry F) (driveMode : DriveMode) (device : DeviceFaultEvidence) :
    Prog (System F) ε (Consumption F) := do
  let address := observation.address
  update fun s =>
    { s with
      toSupervisor := s.toSupervisor.trackDriveFrame motor address driveMode
        observation.receivedAt (s.driveLoss.lostAddress = some address) }
  let found ← inspectShedFrame motor.joint address driveMode observation.receivedAt device
  match found with
  | none => pure acc
  | some (error, transition) => pure (acc.note transition (some error))

/-- A status or version reply: the hazards of its header come first. -/
def consumeHeader (acc : Consumption F) (order : ℕ)
    (observation : FeedbackObservation F) (motor : MotorEntry F) (statusFlags : UInt8)
    (driveMode : DriveMode) (status : Option (MitFeedback F)) :
    Prog (System F) ε (Consumption F) := do
  let address := observation.address
  let device : DeviceFaultEvidence :=
    { receivedAt := some observation.receivedAt
      statusFlags := statusFlags
      driveMode := some driveMode.code }
  when (driveMode = .calibration) (updatePhysical (·.recordCalibrationMode address))
  let acc ← (if statusFlags ≠ 0 then do
      let transition ← recordFault .device (some motor.joint) (some address)
        "vendor status fault flags" device
      let s ← read
      pure (acc.note transition s.latchedError)
    else pure acc)
  let s ← read
  if s.driveLoss.isShed address then consumeShedReply acc observation motor driveMode device
  else consumeReply context acc order observation motor driveMode device status

/-- An observation of an installed actuator; any other address is ignored. -/
def consumeObservation (acc : Consumption F) (order : ℕ)
    (observation : FeedbackObservation F) : Prog (System F) ε (Consumption F) := do
  let s ← read
  match s.stopMotors.entries.find? (·.address = observation.address) with
  | none => pure acc
  | some motor =>
    match observation.event with
    | .malformed malformed => do
      let transition ← recordMalformedFeedback motor observation.address observation.receivedAt
        observation.canId malformed context
      let s ← read
      pure (acc.note transition s.latchedError)
    | .detailedFault report =>
      consumeDetailedFault acc motor observation.address observation.receivedAt report
    | .status status =>
      consumeHeader context acc order observation motor status.statusFlags status.driveMode
        (some status)
    | .firmwareVersion reply =>
      consumeHeader context acc order observation motor reply.statusFlags reply.driveMode none

def consumeEvent (acc : Consumption F) (placed : Placed F) :
    Prog (System F) ε (Consumption F) :=
  match placed.event with
  | .motor observation => consumeObservation context acc placed.order observation
  | .hostEcho echo => do
    consumeEcho echo
    pure acc
  | .transport frame => consumeTransport acc frame
  | .terminal error => consumeTerminal acc error

/-- Store the pose of a candidate, unless its velocity trips. -/
def settleCandidate (acc : Consumption F) (c : PoseCandidate F) :
    Prog (System F) ε (Consumption F) :=
  match c.state.updated with
  | none => pure acc
  | some receivedAt => do
    let checked ← attempt (do
      let state ← checkFeedbackVelocity c.motor c.state receivedAt context
      lift (validateMotorFeedback c.motor.joint state)
      pure state)
    match checked with
    | .error error =>
      rejectSample
        { acc with referencePoses := acc.referencePoses.filter (·.address ≠ c.address) }
        c.address error
    | .ok state => do
      update fun s =>
        { s with
          invalidFeedback := Function.update s.invalidFeedback c.address false
          referenceOwner := if s.referenceOwner.isPhysical then
              { s.referenceOwner with
                physical := (s.referenceOwner.physical.observePosition c.address state.positionRad
                  receivedAt s.homingConfig.zeroVerifyToleranceRad).2 }
            else s.referenceOwner
          unansweredSolicits := Function.update s.unansweredSolicits c.address
            ((s.unansweredSolicits c.address).map fun _ => {})
          motorStates := Function.update s.motorStates c.address (some state)
          lastFeedbackRx := Function.update s.lastFeedbackRx c.motor.joint (some receivedAt) }
      pure acc

/-- An incomplete drain is a transport fault of its own. -/
def consumeCompletion (report : FeedbackReport F) :
    Prog (System F) ε (Consumption F) :=
  if report.completion.isComplete then pure acc
  else do
    let error := DavoutError.bus (.receiveIncomplete report.completion)
    let transition ← recordReceiveFault .transport none none
      (World.showError F error ++ "; raw frames=" ++ toString report.rawFrames ++
        ", read attempts=" ++ toString report.readAttempts) {}
      (.incomplete ⟨report.completion, report.rawFrames, report.readAttempts⟩)
    pure (acc.note transition (some error))

/-- Keep the identity and readback replies of physical drives. -/
def recordReplies (report : FeedbackReport F) : Prog (System F) ε Unit := do
  let s ← read
  when s.referenceOwner.isPhysical do
    each report.identities fun identity => updatePhysical (·.recordIdentity identity)
    each report.parameterReads fun reply => updatePhysical (·.recordRead reply)

def consumeReportInContext (report : FeedbackReport F) (context : ReceiveContext) :
    Prog (System F) ε (FeedbackConsumption F) := do
  recordReplies report
  let acc ← Prog.foldl (consumeEvent context) ({} : Consumption F) report.ordered
  let acc ← Prog.foldl (settleCandidate context) acc
    (acc.candidates.insertionSort fun a b => a.order ≤ b.order)
  let acc ← consumeCompletion acc report
  pure ⟨acc.firstError, acc.firstTransition, acc.referencePoses, report.completion,
    report.rawFrames, report.readAttempts⟩

/-- Forget the target's pose and derivative before a SetZero attempt. -/
def invalidateReferenceTargetPoseForZeroAttempt (target : MotorEntry F) : Prog (System F) ε Unit :=
  update fun s =>
    { s with
      feedbackVelocityTrips := Function.update s.feedbackVelocityTrips target.joint none
      lastFeedbackSamples := Function.update s.lastFeedbackSamples target.joint none
      lastFeedbackRx := Function.update s.lastFeedbackRx target.joint none
      driveFrames := Function.update s.driveFrames target.address none
      motorStates := Function.update s.motorStates target.address none }

end

end Marengo

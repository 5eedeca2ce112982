import Marengo.Davout.Filter

/-!
# Sending MIT batches

A batch is admitted as a whole: the session, every joint of it, every command through the filter,
and the watchdog over the poses of all Active joints. What the filter would advance is staged and
committed only after the write, so that a refused batch leaves no trace. While Enables of the
session are unwritten, a target whose Enable is not yet written gets no frame.
-/

namespace Marengo

variable {F : Type}

/-- An admitted command: its frame, and what it advances once sent. -/
structure StagedMit (F : Type) where
  joint : String
  wire : AddressedMitCommand F
  neutral : Bool
  tauFfNm : F
  wrongSign : Option WrongSignState
  totalTorque : Option (TotalTorqueClamp F)
  envelopeClamped : Bool

/-- A drive on the interface may still stream type-24 in this enable session. -/
def Supervisor.reportingMayStream (self : Supervisor F) (interface : String) (now : Instant) :
    Bool :=
  (self.enableWritesPending.any fun a =>
    a.interface = interface && !self.reportingOffSettled a now) ||
  self.motors.motors.any fun m =>
    m.canInterface = interface && self.activeReporting.applied m.joint

/-- The Active joints' motors, in configured order. -/
def Supervisor.activeMotors (self : Supervisor F) : List (MotorEntry F) :=
  self.motors.motors.filter (·.joint ∈ self.activeJoints)

/-- The pose of the address is current, or a neutral bootstrap may do without one. -/
def Supervisor.poseAdmits (self : Supervisor F) (neutralBootstrap : Bool) (address : MotorAddress)
    (now : Instant) : Bool :=
  !self.invalidFeedback address &&
    ((self.motorStates address).any (self.poseIsCurrent address · now) ||
      neutralBootstrap && (self.enableBoundsStart address).any fun start =>
        now - start ≤ self.commWatchdog)

/-- Every Active joint has a current pose and no motor fault. -/
def Supervisor.checkCommWatchdogAt (self : Supervisor F) (neutralBootstrap : Bool) (now : Instant) :
    Except DavoutError Unit := do
  self.requireFaultClear
  if self.mode ≠ .active then .ok ()
  else if self.control.commWatchdogMs = 0 then
    .error (.invalidCommand "*" "communication watchdog must be positive")
  else
    match self.activeMotors.findSome? fun m =>
        (self.motorStates m.address).bind fun state =>
          if state.fault ≠ 0 then some (m, state.fault) else none with
    | some (motor, fault) => .error (.motorFault motor.joint fault)
    | none =>
      match self.activeMotors.find? fun m => !self.poseAdmits neutralBootstrap m.address now with
      | none => .ok ()
      | some motor =>
        .error (.commWatchdog self.control.commWatchdogMs motor.joint motor.canInterface
          motor.deviceId (((self.motorStates motor.address).bind (·.updated)).bind fun received =>
            if received ≤ now then some (min ((now - received) / 1000000) maxU64) else none))

section
variable [World F] {ε : Type}

/-- The watchdog over the Active poses, now. -/
def checkCommWatchdog (neutralBootstrap : Bool) : Prog (System F) DavoutError Unit := do
  let t ← now
  let s ← read
  lift (s.checkCommWatchdogAt neutralBootstrap t)

/-- Seed the feedforward limiter from the measured torque, bounded by the current policy. -/
def seedTauFfFromMeasured (onlyUnsent : Bool) : Prog (System F) ε Unit := do
  let s ← read
  each s.motors.motors fun motor => do
    let t ← now
    update fun s =>
      if onlyUnsent && (s.lastTauFf motor.joint).isSome then s
      else
        let measured := (s.publishedState motor.joint t).elim (lit 0) (·.torqueNm)
        let cap := (s.limits motor.joint).elim (lit 0) (·.tauFfMax)
        let typeCap := (s.control.motorTypeDefaults motor.motorType).elim (lit 0)
          (·.tauFfMaxNm)
        let bound := Scalar.min cap typeCap
        { s with
          lastTauFf := Function.update s.lastTauFf motor.joint
            (some (clamp measured (-bound) bound)) }

def seedTauFfRateLimiter : Prog (System F) ε Unit := seedTauFfFromMeasured false

/-- Seed the limiter of the joints that sent nothing this session. -/
def seedUnsentTauFfRateLimiter : Prog (System F) ε Unit := seedTauFfFromMeasured true

/-! ## Admission -/

/-- The motor a command is for: its configured one, with which a supplied one must agree. -/
def Supervisor.commandMotor (self : Supervisor F) (supplied : Option (MotorEntry F))
    (seen : List String) (cmd : MitJointCommand F) : Except DavoutError (MotorEntry F) := do
  self.requireActiveJoint cmd.joint
  match motorForJoint self.motors cmd.joint with
  | none => .error (.unknownJoint cmd.joint)
  | some configured =>
    let motor := supplied.getD configured
    if motor.canInterface ≠ configured.canInterface ∨ motor.deviceId ≠ configured.deviceId ∨
        motor.motorType ≠ configured.motorType ∨ motor.direction ≠ configured.direction ∨
        beq motor.gearRatio configured.gearRatio = false then
      .error (.invalidMotorConfig cmd.joint "command motor differs from configured joint mapping")
    else if cmd.joint ≠ motor.joint ∨ cmd.joint ∈ seen then
      .error (.invalidCommand cmd.joint "joint/address mismatch or repeated joint in batch")
    else .ok motor

/-- The motors of a batch; no joint is commanded twice. -/
def Supervisor.commandMotors (self : Supervisor F) (supplied : Option (MotorEntry F)) :
    List String → List (MitJointCommand F) →
      Except DavoutError (List (MitJointCommand F × MotorEntry F))
  | _, [] => .ok []
  | seen, cmd :: rest => do
    let motor ← self.commandMotor supplied seen cmd
    let more ← self.commandMotors supplied (seen ++ [cmd.joint]) rest
    .ok ((cmd, motor) :: more)

/-- Filter one command and stage what it advances. -/
def stageCommand (cmd : MitJointCommand F) (motor : MotorEntry F) :
    Prog (System F) DavoutError (StagedMit F) := do
  let s ← read
  let inputs ← filterInputs cmd
  let filtered ← lift (s.filterMitCore cmd motor inputs)
  let wrongSign ← lift (match s.wrongSignStep filtered.out filtered.qMeas filtered.dqMeas with
    | none => .ok none
    | some (state, admitted) => admitted.map fun () => some state)
  lift (validateMitCommand filtered.out)
  let command ← lift (jointToMotorCommand motor filtered.out)
  pure
    { joint := cmd.joint
      wire := ⟨motor.address, command⟩
      neutral := filtered.out.keepalive && beq filtered.out.velocityRadS (lit 0)
      tauFfNm := filtered.out.torqueFfNm
      wrongSign := wrongSign
      totalTorque := filtered.totalTorque
      envelopeClamped := filtered.envelopeClamped }

/-- Stage the commands in order. The commands staged before an error are returned with it. -/
def stageCommands (staged : List (StagedMit F)) :
    List (MitJointCommand F × MotorEntry F) →
      Prog (System F) ε (List (StagedMit F) × Except DavoutError Unit)
  | [] => pure (staged, .ok ())
  | (cmd, motor) :: rest => do
    let r ← attempt (stageCommand cmd motor)
    match r with
    | .error e => pure (staged, .error e)
    | .ok stage => stageCommands (staged ++ [stage]) rest

/-- Stage a batch and check the watchdog; only an all-neutral batch may bootstrap. -/
def prepareMitBatch (cmds : List (MitJointCommand F × MotorEntry F)) :
    Prog (System F) ε (List (StagedMit F) × Except DavoutError Unit) := do
  let r ← stageCommands [] cmds
  match r.2 with
  | .error _ => pure r
  | .ok () => do
    let watched ← attempt (checkCommWatchdog (F := F) (r.1.all (·.neutral)))
    pure (r.1, watched)

/-- A pose judged stale after the grant check passed: judge the grant again. A qualifying lapse is
shed, and the result is what remains of the batch. -/
def shedAfterStalePose (staged : List (StagedMit F)) :
    Prog (System F) DavoutError (Option (List (StagedMit F))) := do
  let s ← read
  if s.mode ≠ .active then pure none
  else do
    let _ ← referenceBindingValid
    let s ← read
    let shed ← (if s.activeReferencesHeld then pure false else shedForDriveLoss)
    if shed then do
      let s ← read
      let kept := staged.filter fun stage => !s.driveLoss.isShed stage.wire.address
      let watched ← attempt (checkCommWatchdog (F := F) false)
      match watched with
      | .ok () => pure (some kept)
      | .error error => do
        stopAfterRuntimeError error
        fail error
    else pure none

/-! ## Writing -/

/-- Frames of a session whose Enables are not all written: one write each, none for a target that
waits for its own Enable. -/
def writeBootstrapWires (now : Instant) :
    List (AddressedMitCommand F) → Prog (System F) ε (Option SendError)
  | [] => pure none
  | wire :: rest => do
    let s ← read
    if wire.address ∈ s.enableWritesPending then writeBootstrapWires now rest
    else do
      when (s.reportingMayStream wire.address.interface now)
        (updateSessionPacer (·.beginGroup wire.address.interface))
      let error ← send (.mitControlAll [wire])
      match error with
      | some e => pure (some e)
      | none => writeBootstrapWires now rest

def writeMitWires (wires : List (AddressedMitCommand F)) :
    Prog (System F) ε (Option SendError) := do
  let s ← read
  if s.mode ≠ .active ∨ s.enableWritesPending = [] then send (.mitControlAll wires)
  else do
    let t ← now
    writeBootstrapWires t wires

/-- What a sent command advances. -/
def Supervisor.commitStage (self : Supervisor F) (stage : StagedMit F) : Supervisor F :=
  { self with
    lastTauFf := Function.update self.lastTauFf stage.joint (some stage.tauFfNm)
    wrongSignState := match stage.wrongSign with
      | none => self.wrongSignState
      | some state => Function.update self.wrongSignState stage.joint (some state)
    totalTorqueClamps := if stage.totalTorque.isSome then
        Function.update self.totalTorqueClamps stage.joint
          (saturatingSucc (self.totalTorqueClamps stage.joint))
      else self.totalTorqueClamps
    envelopeClamps := if stage.envelopeClamped then
        Function.update self.envelopeClamps stage.joint
          (saturatingSucc (self.envelopeClamps stage.joint))
      else self.envelopeClamps }

/-- Write an admitted batch and commit what it advances; a failed write stops every drive. -/
def deliverBatch (batchTick : Instant) (staged : List (StagedMit F)) :
    Prog (System F) DavoutError Unit := do
  let writtenAt ← now
  let error ← writeMitWires (staged.map (·.wire))
  match error with
  | some e => do
    stopAfterRuntimeError (.bus (.write e))
    fail (.bus (.write e))
  | none =>
    update fun s =>
      let committed := staged.foldl Supervisor.commitStage s.toSupervisor
      { s with
        toSupervisor := { committed with
          unansweredSolicits := fun a =>
            (committed.unansweredSolicits a).map (·.noteAsked writtenAt)
          lastTick := some batchTick } }

/-- The error of a refused batch that stops every drive; any other is only a rejected request. -/
def DavoutError.stopsBatch : DavoutError → Bool
  | .commWatchdog .. | .motorFault .. | .wrongSignWatchdog .. | .dangerZone .. => true
  | _ => false

def refuseBatch (error : DavoutError) : Prog (System F) DavoutError Unit := do
  when error.stopsBatch (stopAfterRuntimeError error)
  fail error

/-- Admit and send a batch; `supplied` is the caller's motor for every command. -/
def admitAndSendMit (cmds : List (MitJointCommand F)) (supplied : Option (MotorEntry F)) :
    Prog (System F) DavoutError Unit := do
  enforceDegradedDeadline
  let s ← read
  lift s.requireFaultClear
  ensure (s.hardwareEstop = false) .estop
  each cmds fun cmd => lift (validateMitCommand cmd)
  let shed ← ensureReferenceForActive
  let s ← read
  -- the batch was composed before the controller could know of a shed
  let cmds := if shed then
      cmds.filter fun cmd => !s.driveLoss.episode.any fun e => cmd.joint ∈ e.shedJoints
    else cmds
  let admitted ← lift (s.commandMotors supplied [] cmds)
  let batchTick ← now
  let prepared ← prepareMitBatch admitted
  match prepared.2 with
  | .ok () => deliverBatch batchTick prepared.1
  | .error error => do
    let remaining ← (match error with
      | .commWatchdog .. => shedAfterStalePose prepared.1
      | _ => pure none)
    match remaining with
    | some staged => deliverBatch batchTick staged
    | none => refuseBatch error

def sendMitJoint (cmd : MitJointCommand F) (motor : MotorEntry F) :
    Prog (System F) DavoutError Unit :=
  admitAndSendMit [cmd] (some motor)

/-- Filter and send a batch, one command per joint. -/
def sendMitBatch (cmds : List (MitJointCommand F)) : Prog (System F) DavoutError Unit := do
  let s ← read
  match cmds.find? fun cmd => (motorForJoint s.motors cmd.joint).isNone with
  | some cmd => fail (.unknownJoint cmd.joint)
  | none => admitAndSendMit cmds none

end

end Marengo

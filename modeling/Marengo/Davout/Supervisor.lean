import Marengo.Lib.Prog
import Marengo.Kinematics.Limits
import Marengo.Davout.ReferencePhysical
import Marengo.Davout.ReferenceJournal

/-!
# The supervisor's state

`Supervisor F` is the state of the safety supervisor, the only gateway to the motor bus. Its fields
are those of the source struct, grouped by what they are about (`Policy`, `Session`, `Safety`,
`Feedback`, `MotionHistory`, `ReferenceState`), so that a statement can say that a whole group is
unchanged. Reused scratch buffers and the cache of routing keys, which is revalidated at every use,
have no counterpart.

`System F` adds what the supervisor acts on: how far the outside world has been consulted, and two
logs that no program reads, of every call handed to the `MotorBus` and of every selection of current
permission, each with the supervisor state it was made from. The outside world itself is the class
`World` of the next module, and every result is stated for an arbitrary one.
-/

namespace Marengo

export Prog (read reads update fail ensure when each attempt lift traverse mapError)

variable {F : Type}

/-! ## Modes, commands and errors -/

inductive OperationalMode
  | disabled | ready | active
deriving DecidableEq

inductive ControlMode
  | disabled | gravityComp | impedance | position | torqueOnly
deriving DecidableEq

/-- A joint-space MIT command. -/
structure MitJointCommand (F : Type) where
  joint : String
  kp : F
  kd : F
  positionRad : F
  velocityRadS : F
  torqueFfNm : F

inductive DavoutError
  | config (error : ConfigError)
  | urdf (message : String)
  | bus (error : BusError)
  | limit (joint message : String)
  | notActive (mode : OperationalMode)
  | estop
  | unknownJoint (joint : String)
  | inactiveJoint (joint : String)
  | commWatchdog (ms : ℕ) (joint interface : String) (deviceId : UInt8) (ageMs : Option ℕ)
  | invalidCommand (joint message : String)
  | invalidFeedback (joint message : String)
  | dangerZone (name joint : String)
  | invalidMotorConfig (joint message : String)
  | motorFault (joint : String) (fault : ℕ)
  | faultLatched (id : ℕ) (fault : FaultClass) (joint : Option String) (message : String)
  | stopDelivery (failedWrites : ℕ)
  | homing (message : String)
  | homingVerify (joint message : String)
  | referenceUnsupported (operation : String)
  | referenceBusy (operation : String)
  | installedGenerationExhausted
  | referenceModel (message : String)
  | wrongSignWatchdog (joint : String) (ticks : ℕ)
  | limitPatchActive
  | activeSetChangeRefused
  | protocolInspection (message : String)
  | degradedEpisode (joint message : String)
  | driveLossPlan (joint message : String)
deriving DecidableEq

/-! ## Per-drive and per-joint records -/

/-- Latest feedback of one actuator, in joint space once it is cached. -/
structure MotorState (F : Type) where
  positionRad : F
  velocityRadS : F
  torqueNm : F
  temperatureC : F
  fault : ℕ
  updated : Option Instant

/-- Wrong-sign watchdog counters of one joint. -/
structure WrongSignState where
  oppositionTicks : ℕ := 0
  ticksSinceEnable : ℕ := 0
deriving DecidableEq

structure FeedbackSample (F : Type) where
  positionRad : F
  receivedAt : Instant

/-- Latest observed drive frame of an address. Tracking only. -/
structure DriveFrameTrack where
  mode : DriveMode
  at_ : Instant
deriving DecidableEq

/-- A likely drive power-interruption reboot. -/
structure DriveRebootObservation where
  joint : String
  address : MotorAddress
  previousMode : DriveMode
  newMode : DriveMode
  silence : Duration
deriving DecidableEq

/-- Earliest unanswered host frame of an Active target, and how many went unanswered. -/
structure SolicitedState where
  earliest : Option Instant := none
  unansweredWrites : ℕ := 0
deriving DecidableEq

/-- Another host frame went out with no admitted pose since. -/
def SolicitedState.noteAsked (self : SolicitedState) (writtenAt : Instant) : SolicitedState where
  earliest := self.earliest.or (some writtenAt)
  unansweredWrites := saturatingSucc self.unansweredWrites

/-! ## Active reporting -/

structure LeaseEntry where
  clientId : String
  expires : Instant
deriving DecidableEq

/-- Leases and the last applied type-24 state of each joint. -/
structure ActiveReportingState where
  leases : String → List (String × LeaseEntry) := fun _ => []
  applied : String → Bool := fun _ => false
  lastEnableTx : String → Option Instant := fun _ => none
  heartbeatCursor : ℕ := 0
  lastHeartbeatAttempt : Option Instant := none
  lastWriteByInterface : String → Option Instant := fun _ => none
  offWrittenAt : String → Option Instant := fun _ => none

/-! ## Single-drive loss -/

/-- A joint whose drive loss may shed its subtree. -/
structure DriveLossPlan where
  joint : String
  shed : List String
deriving DecidableEq

structure DegradedEpisode (F : Type) where
  lostJoint : String
  shedJoints : List String
  holdingJoints : List String
  frozenPositions : List (String × F)
  since : Instant
  deadline : Instant

/-- How a degraded episode ended. -/
inductive DegradedEnd
  | lowerComplete | deadline | stopped
deriving DecidableEq

structure DegradedOutcome where
  lostJoint : String
  end_ : DegradedEnd
  at_ : Instant
deriving DecidableEq

/-- Process-lifetime degraded-episode state. -/
structure DriveLossState (F : Type) where
  plans : List DriveLossPlan := []
  episode : Option (DegradedEpisode F) := none
  outcome : Option DegradedOutcome := none
  pendingEnd : Option DegradedEnd := none
  /-- Shed addresses: Disable only, never pose, for the rest of the process. -/
  shed : List MotorAddress := []
  lostAddress : Option MotorAddress := none
  shedAt : Option Instant := none

def DriveLossState.isShed (self : DriveLossState F) (address : MotorAddress) : Bool :=
  self.shed.contains address

/-! ## Reference acquisition and commit -/

/-- Opaque identity of a reservation and its retained outcome. -/
structure ReferenceHandle where
  owner : Token
  sequence : ℕ
deriving DecidableEq

/-- What a request is based on. The policy is represented by its serialized text. -/
structure ReferenceStamp where
  owner : Token
  sequence : ℕ
  stopGeneration : ℕ
  referenceGeneration : ℕ
  installedModel : InstalledModelStamp
  policy : String
deriving DecidableEq

structure ReferenceRequest where
  stamp : ReferenceStamp
  joint : String
  confirmed : Bool
  signVerified : Bool
deriving DecidableEq

inductive ReferencePhase
  | idle | baselineStop | drainOld | requestIdentity | awaitIdentity | awaitReportingOff
  | armTarget | drainPostArm | setZero | awaitEvidence | awaitAck | requestReadback
  | awaitReadback | terminal
deriving DecidableEq

inductive ReferenceCancelReason
  | operator | disable | shutdown
deriving DecidableEq

inductive ReferenceFailureKind
  | delivery | reporting | hazard | bindingChanged | incompleteReceive | backend | identity
  | readback
deriving DecidableEq

/-- How an acquisition ended. -/
inductive ReferenceCause
  | evidenceStaged
  | cancelled (reason : ReferenceCancelReason)
  | timedOut
  | failed (kind : ReferenceFailureKind) (message : String)
deriving DecidableEq

/-- Immutable result of an acquisition. -/
structure ReferenceTerminal where
  handle : ReferenceHandle
  joint : String
  cause : ReferenceCause
  stop : StopReport
  reporting : List ReferenceReportingAttempt
  receive : Option ReferenceReceiveSummary
deriving DecidableEq

/-- Why retained evidence is no longer current. -/
inductive ReferenceStageInvalidation
  | bindingChanged | stopChanged | deadlineExpired | safetyHazard | stopUncertain | superseded
  | shutdown | counterExhausted | commitRetired | consumed
deriving DecidableEq

inductive ReferenceStageStatus
  | noEvidence
  | currentEvidence
  | invalidated (reason : ReferenceStageInvalidation)
deriving DecidableEq

/-- Private correlation of accepted evidence. -/
structure ReferenceCorrelation where
  owner : Token
  realm : Token
  transaction : ℕ
  deviceEpoch : ℕ
  address : MotorAddress
  order : ℕ
  canId : UInt32
  receivedAt : Instant
deriving DecidableEq

/-- Physical ack accepted after the addressed SetZero. -/
structure PhysicalAck (F : Type) where
  order : ℕ
  canId : UInt32
  positionRad : F

structure Reservation (F : Type) where
  request : ReferenceRequest
  handle : ReferenceHandle
  address : MotorAddress
  policy : String
  typedPolicy : TypedPolicy F
  installedModel : InstalledModelStamp
  referenceGeneration : ℕ
  stopGeneration : ℕ
  bindingInvalidated : Bool
  phase : ReferencePhase
  overallDeadline : Duration
  phaseDeadline : Duration
  armed : Bool
  deviceEpoch : Option ℕ
  reporting : List ReferenceReportingAttempt
  receive : Option ReferenceReceiveSummary
  requestWatermark : ℕ
  identityRequestedAt : Option (Instant × Instant)
  uid : Option DeviceUid
  ack : Option (PhysicalAck F)

/-- Evidence accepted with its exact correlation. -/
structure AcceptedReferenceEvidence (F : Type) where
  proof : ReferenceCorrelation
  address : MotorAddress
  order : ℕ
  canId : UInt32
  receivedAt : Instant
  positionRad : F

/-- Physical evidence beside the readback correlation. -/
structure PhysicalEvidence (F : Type) where
  uid : DeviceUid
  ackOrder : ℕ
  ackCanId : UInt32
  ackPositionRad : F

/-- Retained evidence of an acquisition. Its invalidation, a shared cell in the source, is kept in
`ReferenceOwner.invalidated` under the acquisition's sequence number. -/
structure RetainedStage (F : Type) where
  evidence : AcceptedReferenceEvidence F
  physical : Option (PhysicalEvidence F)
  installedModel : InstalledModelStamp
  overallDeadline : Duration
  referenceGeneration : ℕ
  typedPolicy : TypedPolicy F

structure RetainedOutcome (F : Type) where
  request : ReferenceRequest
  terminal : ReferenceTerminal
  stage : Option (RetainedStage F)

/-- A request driven to a durable commit. -/
structure PendingCommit where
  acquisition : ReferenceHandle
  audit : ReferenceAudit

inductive ReferenceBackend
  | virtual (realm : Token)
  | physical (realm : Token) (origin : Instant)
deriving DecidableEq

def ReferenceBackend.realm : ReferenceBackend → Token
  | virtual r => r
  | physical r _ => r

def ReferenceBackend.isPhysical : ReferenceBackend → Bool
  | virtual _ => false
  | physical .. => true

structure ReferenceOwner (F : Type) where
  identity : Token
  nextSequence : ℕ := 1
  backend : Option ReferenceBackend := none
  reservation : Option (Reservation F) := none
  outcomes : List (RetainedOutcome F) := []
  /-- Why the evidence of an acquisition, by sequence number, was invalidated. A sequence number is
  never used twice, so new evidence starts out without a reason. -/
  invalidated : ℕ → Option ReferenceStageInvalidation := fun _ => none
  physical : PhysicalDevices F := {}
  pendingCommit : Option PendingCommit := none
  requestFailures : List (ReferenceHandle × String) := []

def ReferenceOwner.isPhysical (self : ReferenceOwner F) : Bool := self.backend.any (·.isPhysical)

structure ReferenceCommitHandle where
  owner : Token
  sequence : ℕ
deriving DecidableEq

inductive ReferenceCommitPhase
  | pending
  | complete
  | cancelled (reason : ReferenceCancelReason)
  | invalidated (reason : ReferenceStageInvalidation)
deriving DecidableEq

structure Entry (F : Type) where
  handle : ReferenceCommitHandle
  job : JobIdentity
  stage : RetainedOutcome F
  audit : ReferenceAudit
  phase : ReferenceCommitPhase
  result : ReferenceJournalResult
  receive : Option ReferenceReceiveSummary

/-- What a durable commit may select. -/
inductive CommitSelection
  | historyOnly | currentVirtual | currentPhysical
deriving DecidableEq

structure CommitOwner (F : Type) where
  identity : Token
  nextSequence : ℕ := 1
  journal : Option (JournalState F) := none
  pending : List (Entry F) := []
  outcomes : List (Entry F) := []
  selection : CommitSelection := .historyOnly

/-! ## The supervisor -/

/-- Installed policy. `motors`, `control` and `homingConfig` are public fields of the source that a
caller may edit; `stopMotors` are the routes installed at construction. -/
structure Policy (F : Type) where
  limits : String → Option (JointLimitPolicy F)
  robotJoints : List String
  maxJointTorqueNm : F
  urdf : String
  installedModel : InstalledModelStamp
  motors : MotorsConfig F
  control : ControlConfig F
  homingConfig : HomingConfig F
  stopMotors : InstalledMotors F

structure Session where
  mode : OperationalMode := .disabled
  controlMode : ControlMode := .disabled
  activeSince : Option Instant := none
  activeJoints : List String := []
  /-- Addresses whose latest Enable has not been read back from the wire. -/
  enableEchoPending : List MotorAddress := []
  /-- Targets whose Enable is not yet written, in target order. -/
  enableWritesPending : List MotorAddress := []
  enableWriteDue : Option Instant := none
  reportingOffSince : Option Instant := none
  reportingOffEchoed : MotorAddress → Option Instant := fun _ => none
  unansweredSolicits : MotorAddress → Option SolicitedState := fun _ => none

/-- Faults, E-stop and drive loss. -/
structure Safety (F : Type) where
  hardwareEstop : Bool := false
  faultAuthority : FaultAuthority := {}
  driveLoss : DriveLossState F := {}

/-- What was heard from the drives, and the reporting they were asked for. -/
structure Feedback (F : Type) where
  motorStates : MotorAddress → Option (MotorState F) := fun _ => none
  invalidFeedback : MotorAddress → Bool := fun _ => false
  outOfLimits : String → Bool := fun _ => false
  setZeroOnWire : MotorAddress → Option Instant := fun _ => none
  sessionPacer : String → Option Instant := fun _ => none
  driveFrames : MotorAddress → Option DriveFrameTrack := fun _ => none
  lastFeedbackRx : String → Option Instant := fun _ => none
  lastDriveReboot : Option DriveRebootObservation := none
  lastRefreshFrames : ℕ := 0
  activeReporting : ActiveReportingState := {}
  exitReportingReleased : Bool := false

/-- Limiter and watchdog history of the session. -/
structure MotionHistory (F : Type) where
  lastTauFf : String → Option F := fun _ => none
  totalTorqueClamps : String → ℕ := fun _ => 0
  envelopeClamps : String → ℕ := fun _ => 0
  feedbackVelocityTrips : String → Option ℕ := fun _ => none
  lastFeedbackSamples : String → Option (FeedbackSample F) := fun _ => none
  wrongSignState : String → Option WrongSignState := fun _ => none
  lastTick : Option Instant := none

/-- Reference permission and the work that acquires it. -/
structure ReferenceState (F : Type) where
  referenceAuthority : ReferenceAuthority F
  referenceOwner : ReferenceOwner F
  referenceCommits : CommitOwner F

structure Supervisor (F : Type) extends Policy F, Session, Safety F, Feedback F, MotionHistory F,
  ReferenceState F

/-- A call handed to the bus: the supervisor state it was made from, the call, its error, and the
last clock reading before it. -/
structure Handed (F : Type) where
  sup : Supervisor F
  call : BusCall F
  error : Option SendError
  time : Instant

/-- A received report: the supervisor state it was received in, and how many calls had been handed to
the bus before. -/
structure Heard (F : Type) where
  sup : Supervisor F
  handed : ℕ
  report : FeedbackReport F

/-- A selection of current permission: the supervisor state it was made from, the commit it was made
for, the last clock reading before it, and how often the outside world had been consulted. -/
structure Selected (F : Type) where
  sup : Supervisor F
  entry : Entry F
  time : Instant
  consulted : ℕ

/-- The supervisor together with what it acts on. -/
structure System (F : Type) extends Supervisor F where
  /-- How often the outside world was consulted. -/
  consulted : ℕ := 0
  /-- The latest clock reading. -/
  time : Instant
  /-- The next unused identity token. -/
  nextToken : Token
  /-- Every call handed to the bus, oldest first. -/
  log : List (Handed F) := []
  /-- Every report that was received, oldest first. -/
  heard : List (Heard F) := []
  /-- Every selection of current permission, oldest first. -/
  selections : List (Selected F) := []
  /-- How many stops have begun. -/
  stops : ℕ := 0
  /-- The burst pacer of the running drive inspection. -/
  inspectionPacer : String → Option Instant := fun _ => none

end Marengo

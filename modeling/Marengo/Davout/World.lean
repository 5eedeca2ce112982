import Marengo.Davout.Supervisor

/-!
# The outside world and the supervisor's primitive actions

`World F` is everything outside the supervisor: the time that passes between two clock readings,
the result of each bus write, each receive report, the steps the journal worker takes, what the
simulated device of a virtual owner answers, and the pure functions of other crates. A program of
the supervisor is a `Prog (System F)`; its primitive actions are below. A clock reading never goes
back, and a `sleep` moves the next reading past its end.
-/

namespace Marengo

variable {F : Type}

inductive ReferenceError
  | unsupported
  | invalidRequest (message : String)
  | busy
  | foreignIdentity
  | staleStamp
  | conflictingRetry
  | outcomeExpired
  | counterExhausted
  | admission (error : DavoutError)
deriving DecidableEq

inductive ReferenceCommitError
  | unsupported
  | busy
  | queueFull
  | foreignIdentity
  | outcomeExpired
  | conflictingRetry
  | audit
  | counterExhausted
  | ineligible (status : ReferenceStageStatus)
  | acquisition (error : ReferenceError)
  | journal (message : String)
deriving DecidableEq

structure LimitPatch (F : Type) where
  joint : String
  positionLowerRad : F
  positionUpperRad : F
  torqueLimitNm : Option F
  positionSoftLowerRad : Option F
  positionSoftUpperRad : Option F
  velocityMaxRadS : Option F

structure LimitCandidate (F : Type) where
  urdf : String
  motors : MotorsConfig F
  control : ControlConfig F

/-- What the URDF says about one joint. -/
structure JointLimits (F : Type) where
  lower : F
  upper : F
  effort : F
  /-- Soft bounds of its safety controller. -/
  soft : Option (F × F)

/-- Everything outside the supervisor. -/
class World (F : Type) extends Scalar F where
  /-- Time that passes before the `n`-th consultation. -/
  elapsed : ℕ → Duration
  /-- Error of the `n`-th consultation, if it is a write that fails. -/
  sendError : ℕ → Option SendError
  /-- Report of the `n`-th consultation, if it is a receive. -/
  report : ℕ → FeedbackReport F
  /-- What the journal worker did since the owner last looked. -/
  workerSteps : ℕ → List WorkerStep
  /-- How often a waiting loop goes round before the clock passes its deadline. -/
  rounds : ℕ
  /-- The receive stream includes this host's own transmissions. -/
  echoes : Bool
  /-- The simulated device of a virtual owner: its clock, realm, proofs and epochs. -/
  virtualNow : ℕ → Duration
  virtualMatches : ℕ → Bool
  virtualProofs : ℕ → List ReferenceCorrelation
  virtualEpoch : ℕ → Option ℕ
  /-- What `validate_control_against_limits` checks for the installed robot beyond the motors. -/
  validateControl : MotorsConfig F → ControlConfig F → Except ConfigError Unit
  /-- What `validate_safety_config` checks for the installed robot beyond motors and control. -/
  validateHoming : MotorsConfig F → ControlConfig F → HomingConfig F → Except ConfigError Unit
  /-- The serialized policy of a stamp, refused when it exceeds its capacity. -/
  policyText : MotorsConfig F → ControlConfig F → HomingConfig F → Except String String
  encodePolicy : TypedPolicy F → Except String String
  /-- The installed descriptor fits its capacity. -/
  modelFits : String → Except String Unit
  /-- `expand_urdf_joint_hard`: a URDF document with the hard range of a joint expanded. -/
  expandUrdfJointHard : String → String → F → F → Except String String
  /-- `joint_limits` of a URDF document. -/
  jointLimits : String → String → Except String (JointLimits F)
  /-- `Duration::try_from_secs_f64`. -/
  durationOfSecs : F → Option Duration
  /-- `ParameterReadReply::as_f32`. -/
  floatOfBytes : Word → F
  showNum : F → String
  showBounds : LimitBoundsError F → String
  /-- A CAN identifier in hexadecimal. -/
  showCanId : UInt32 → String
  /-- The `Debug` form of a string. -/
  showQuoted : String → String
  showUid : DeviceUid → String
  showSend : SendError → String
  showError : DavoutError → String
  showReference : ReferenceError → String
  showCommit : ReferenceCommitError → String
  /-- The `Debug` forms of how an acquisition ended, and of a commit's state. -/
  showCause : ReferenceCause → String
  showCommitState : ReferenceCommitPhase → ReferenceJournalResult → ReferenceStageStatus → String
  processId : ℕ

/-- `validate_control_against_limits` for the installed robot. -/
def validateControlAgainstLimits [World F] (motors : MotorsConfig F) (control : ControlConfig F) :
    Except ConfigError Unit := do
  validateMotorsConfig motors
  World.validateControl motors control

/-- `validate_safety_config` for the installed robot. -/
def validateSafetyConfig [World F] (motors : MotorsConfig F) (control : ControlConfig F)
    (homing : HomingConfig F) : Except ConfigError Unit := do
  validateControlAgainstLimits motors control
  World.validateHoming motors control homing

section
variable [World F] {ε : Type}

def consult {α : Type} (f : ℕ → α) : Prog (System F) ε α := do
  let s ← read
  update fun s => { s with consulted := s.consulted + 1 }
  pure (f s.consulted)

/-- `Instant::now()`. -/
def now : Prog (System F) ε Instant := do
  let d ← consult (World.elapsed F)
  update fun s => { s with time := s.time + d }
  reads (·.time)

/-- `std::thread::sleep`. -/
def sleep (d : Duration) : Prog (System F) ε Unit :=
  update fun s => { s with time := s.time + d }

/-- Hand a call to the bus. The result is the error of the write, if it failed. -/
def send (call : BusCall F) : Prog (System F) ε (Option SendError) := do
  let error ← consult (World.sendError F)
  update fun s =>
    { s with log := s.log ++ [⟨s.toSupervisor, call, error, s.time⟩] }
  pure error

def receive : Prog (System F) ε (FeedbackReport F) := do
  let report ← consult World.report
  update fun s =>
    { s with heard := s.heard ++ [⟨s.toSupervisor, s.log.length, report⟩] }
  pure report

/-- A call of `select_consumed` for a commit that was collected. -/
def noteSelection (entry : Entry F) : Prog (System F) ε Unit :=
  update fun s =>
    { s with selections := s.selections ++ [⟨s.toSupervisor, entry, s.time, s.consulted⟩] }

def freshToken : Prog (System F) ε Token := do
  let s ← read
  update fun s => { s with nextToken := s.nextToken + 1 }
  pure s.nextToken

end

/-! ## Exact arithmetic -/

/-- What a world answers, apart from its numbers. -/
class ExactWorld (K : Type) where
  answers : World K

instance (priority := low) {K : Type} [Field K] [LinearOrder K] [ExactWorld K] : World K :=
  { ExactWorld.answers with toScalar := Scalar.ofField K }

end Marengo

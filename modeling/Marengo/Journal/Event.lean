import Marengo.Journal.Codec
import Marengo.Davout.ReferenceJournal

/-!
# Journal events

The body of a journal event: what the acquisition captured, and the policy, robot and URDF it was
captured under. `Body.validate` is the check a body passes before it is written. The robot and
URDF payloads, and how the policy spells itself, are parameters: the checks read only the policy's
motors and homing section, and history never depends on the rest.
-/

namespace Marengo

variable {F R U : Type}

/-- The typed body of an event; `R` and `U` are the robot and URDF descriptors. -/
structure Body (F R U : Type) where
  version : ℕ
  evidenceClass : String
  diagnosticSession : ℕ
  jobSequence : ℕ
  installedModelGeneration : ℕ
  capture : Capture F
  policy : TypedPolicy F
  robot : R
  urdf : U

def virtualEvidence : String := "closed_virtual"

def physicalEvidence : String := "physical_robstride"

/-! ## Validation -/

/-- The writes that a complete stop of the installed motors consists of. -/
def expectedCleanup (motors : MotorsConfig F) : List (MotorAddress × StopAction) :=
  motors.motors.flatMap fun motor =>
    [.zeroSpeed, .neutralMit, .disable].map fun action => (motor.address, action)

/-- Every write of the complete stop was attempted, in order, and succeeded. -/
def cleanupMatches (motors : MotorsConfig F) (cleanup : StopReport) : Bool :=
  cleanup.attempts.length = motors.motors.length * 3 &&
    (cleanup.attempts.zip (expectedCleanup motors)).all fun (attempt, address, action) =>
      attempt.address = address && attempt.action = action && attempt.error.isNone

def Body.classMatches [Scalar F] (self : Body F R U) : Bool :=
  match self.capture.physical with
  | none => self.evidenceClass = virtualEvidence
  | some physical =>
    self.evidenceClass = physicalEvidence &&
      (isFinite physical.ackPositionRad &&
        ble (Scalar.abs physical.ackPositionRad) self.policy.homing.zeroVerifyToleranceRad &&
        physical.ackPopOrder < 64 && physical.ackCanId >>> 24 = 2 &&
        self.capture.canId >>> 24 = 17)

/-- The body describes a complete, confirmed capture. -/
def Body.validate [Scalar F] (self : Body F R U) : Bool :=
  let capture := self.capture
  match self.policy.motors.motors.find? (·.joint = capture.joint) with
  | none => false
  | some target =>
    match self.policy.homing.effectiveJoint capture.joint with
    | none => false
    | some homing =>
      self.version = 1 && self.classMatches &&
        0 < self.diagnosticSession && 0 < self.jobSequence &&
        0 < self.installedModelGeneration && 0 < capture.acquisitionSequence &&
        capture.confirmed && isFinite capture.positionRad && capture.audit.validate &&
        (!homing.signTestRequired || capture.signVerified) &&
        capture.address.interface = target.canInterface &&
        capture.address.deviceId = target.deviceId &&
        ble (Scalar.abs capture.positionRad) self.policy.homing.zeroVerifyToleranceRad &&
        capture.stampReferenceGeneration < capture.acceptedReferenceGeneration &&
        capture.acceptedReferenceGeneration < maxU64 && 0 < capture.deviceEpoch &&
        capture.stampStopGeneration < capture.cleanup.generation &&
        cleanupMatches self.policy.motors capture.cleanup &&
        capture.originalDeadlineNanos < 1000000000 && capture.cleanup.generation < maxU64 &&
        capture.cleanup.attempts.all (·.error.isNone) &&
        capture.reporting.length ≤ self.policy.motors.motors.length &&
        (capture.reporting.all fun attempt => attempt.error.isNone &&
          self.policy.motors.motors.any fun motor =>
            motor.joint = attempt.joint && motor.canInterface = attempt.address.interface &&
              motor.deviceId = attempt.address.deviceId) &&
        (capture.receive.completion = .idle || capture.receive.completion = .quiet) &&
        capture.receive.rawFrames ≤ 64 && capture.receive.readAttempts ≤ 256 &&
        capture.rawPopOrder < capture.receive.rawFrames

/-- A valid body has a positive identity. -/
theorem Body.validate_identity [Scalar F] {self : Body F R U} (h : self.validate) :
    0 < self.diagnosticSession ∧ 0 < self.jobSequence := by
  simp only [Body.validate] at h
  split at h
  · simp at h
  · split at h
    · simp at h
    · simp only [Bool.and_eq_true, decide_eq_true_eq] at h
      grind

/-! ## Serialization -/

/-- What the body's payloads say of themselves, and how a body is read from a tree. -/
structure BodySerde (F R U : Type) where
  /-- `f32::to_bits`. -/
  toBits : F → BitVec 32
  policy : TypedPolicy F → Datum
  robot : R → Datum
  urdf : U → Datum
  /-- `InstalledModelStamp::descriptor`. -/
  descriptor : InstalledModelStamp → R × U
  deserialize : Value → Except CodecError (Body F R U)

namespace BodySerde

variable (serde : BodySerde F R U)

def address (a : MotorAddress) : Datum :=
  .struct 2 [("interface", .str a.interface), ("device_id", .u8 a.deviceId.toNat)]

def action : StopAction → Datum
  | .zeroSpeed => .unitVariant "ZeroSpeed"
  | .neutralMit => .unitVariant "NeutralMit"
  | .disable => .unitVariant "Disable"

def attempt (a : StopAttempt) : Datum :=
  .struct 3 [("address", address a.address), ("action", action a.action),
    ("error", .option .str a.error)]

def cleanup (report : StopReport) : Datum :=
  .struct 2 [("generation", .u64 report.generation),
    ("attempts", .seq (some report.attempts.length) (report.attempts.map attempt))]

def reporting (a : ReferenceReportingAttempt) : Datum :=
  .struct 3 [("joint", .str a.joint), ("address", address a.address),
    ("error", .option .str a.error)]

def completion : ReceiveCompletion → Datum
  | .idle => .unitVariant "Idle"
  | .quiet => .unitVariant "Quiet"
  | .workLimit => .unitVariant "WorkLimit"
  | .deadline => .unitVariant "Deadline"
  | .failed => .unitVariant "Failed"

def receive (r : ReferenceReceiveSummary) : Datum :=
  .struct 3 [("completion", completion r.completion), ("raw_frames", .u32 r.rawFrames),
    ("read_attempts", .u32 r.readAttempts)]

def audit (a : ReferenceAudit) : Datum :=
  .struct 2 [("operator", .str a.operator), ("session", .str a.session)]

def physical (p : PhysicalCapture F) : Datum :=
  .struct 4 [("device_uid", .u64 (ofLeBytes p.deviceUid.toList)), ("ack_pop_order", .u32 p.ackPopOrder),
    ("ack_can_id", .u32 p.ackCanId.toNat),
    ("ack_position_rad", .number .f32 (serde.toBits p.ackPositionRad))]

def capture (c : Capture F) : Datum :=
  .struct 19 [("acquisition_sequence", .u64 c.acquisitionSequence), ("joint", .str c.joint),
    ("address", address c.address), ("confirmed", .bool c.confirmed),
    ("sign_verified", .bool c.signVerified),
    ("position_rad", .number .f32 (serde.toBits c.positionRad)),
    ("raw_pop_order", .u32 c.rawPopOrder), ("can_id", .u32 c.canId.toNat),
    ("device_epoch", .u64 c.deviceEpoch),
    ("original_deadline_secs", .u64 c.originalDeadlineSecs),
    ("original_deadline_nanos", .u32 c.originalDeadlineNanos),
    ("stamp_reference_generation", .u64 c.stampReferenceGeneration),
    ("stamp_stop_generation", .u64 c.stampStopGeneration),
    ("accepted_reference_generation", .u64 c.acceptedReferenceGeneration),
    ("cleanup", cleanup c.cleanup),
    ("reporting", .seq (some c.reporting.length) (c.reporting.map reporting)),
    ("receive", receive c.receive), ("audit", audit c.audit),
    ("physical", .option (physical serde) c.physical)]

/-- The fields of a body, in the order of the source. -/
def fields (b : Body F R U) : List (String × Datum) :=
  [("version", .u32 b.version), ("evidence_class", .str b.evidenceClass),
    ("diagnostic_session", .u64 b.diagnosticSession), ("job_sequence", .u64 b.jobSequence),
    ("installed_model_generation", .u64 b.installedModelGeneration),
    ("capture", serde.capture b.capture), ("policy", serde.policy b.policy),
    ("robot", serde.robot b.robot), ("urdf", serde.urdf b.urdf)]

/-- How a body is written and read. -/
def body : Serde (Body F R U) where
  serialize b := .struct 9 (serde.fields b)
  deserialize := serde.deserialize

def inputBody (input : JournalInput F) (session job : ℕ) : Body F R U where
  version := 1
  evidenceClass := if input.capture.physical.isSome then physicalEvidence else virtualEvidence
  diagnosticSession := session
  jobSequence := job
  installedModelGeneration := input.model.generation
  capture := input.capture
  policy := input.policy
  robot := (serde.descriptor input.model).1
  urdf := (serde.descriptor input.model).2

def encodeInput (input : JournalInput F) (session job : ℕ) : Except CodecError (List UInt8) :=
  encode (serde.body.serialize (serde.inputBody input session job))

end BodySerde

/-! ## An event of the bench -/

namespace Bench

def address : MotorAddress := ⟨"can0", 1⟩

def capture : Capture ℚ where
  acquisitionSequence := 1
  joint := "elbow"
  address := address
  confirmed := true
  signVerified := false
  positionRad := 0
  rawPopOrder := 0
  canId := 0x02000000
  deviceEpoch := 1
  originalDeadlineSecs := 5
  originalDeadlineNanos := 0
  stampReferenceGeneration := 0
  stampStopGeneration := 0
  acceptedReferenceGeneration := 1
  cleanup := ⟨1, [⟨address, .zeroSpeed, none⟩, ⟨address, .neutralMit, none⟩, ⟨address, .disable, none⟩]⟩
  reporting := []
  receive := ⟨.quiet, 1, 1⟩
  audit := ⟨"operator", "session"⟩
  physical := none

def event : JournalInput ℚ := ⟨⟨1, 0⟩, policy, capture⟩

/-- The payloads say nothing of themselves; only the body of job 1 of session `session` is read. -/
def serde (session : ℕ) : BodySerde ℚ Unit Unit where
  toBits _ := 0
  policy _ := .unit
  robot _ := .unit
  urdf _ := .unit
  descriptor _ := ((), ())
  deserialize _ := .ok
    { version := 1
      evidenceClass := virtualEvidence
      diagnosticSession := session
      jobSequence := 1
      installedModelGeneration := 1
      capture := capture
      policy := policy
      robot := ()
      urdf := () }

def body (session : ℕ) : List UInt8 :=
  ((serde session).encodeInput event session 1).toOption.getD []

end Bench

end Marengo

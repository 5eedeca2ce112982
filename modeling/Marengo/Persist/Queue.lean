import Marengo.Davout.LimitEnvelope
import Marengo.Proto

/-!
# The write-behind of configuration changes

The runtime applies a limit patch or a tuning change live and leaves its write to a background worker.
`ConfigPersistQueue` keeps one request that is not yet started. A later request replaces it, and takes
over what it would have written and the completions it owes.

`PersistSystem` is the queue, its worker and the profile on disk. The critical sections under the
queue's lock, the steps of the worker between them and the calls of the owner interleave as a list of
`PersistAction`s. The results of the writes and of the publications are inputs of the worker's steps.
The last fields record what has been accepted, written and published.
-/

namespace Marengo

variable {F : Type}

/-! ## Requests -/

/-- A write of the profile. With motors it writes `motors.yaml`, `control.yaml` and the URDF, otherwise
`control.yaml` only. -/
structure PersistRequest (F : Type) where
  configDir : String
  motors : Option (MotorsConfig F)
  control : ControlConfig F
  timestampMs : ℕ
  sessionId : String
  operatorId : String
  joint : String
  param : String

/-- The limits of a patched joint as the snapshot of its own patch has them. -/
structure CarriedBounds (F : Type) where
  positionLowerRad : F
  positionUpperRad : F
  torqueLimitNm : F
  positionSoftLowerRad : Option F
  positionSoftUpperRad : Option F
  velocityMaxRadS : Option F

/-- What the completion of a replaced limit patch needs. -/
structure CarriedCompletion (F : Type) where
  timestampMs : ℕ
  sessionId : String
  operatorId : String
  joint : String
  bounds : CarriedBounds F

inductive PersistError
  | queue (message : String)

def ConfigError.text : ConfigError → String
  | .unknownMotorJoint joint => "unknown joint " ++ joint ++
      " in motors.yaml (not listed in robot.yaml)"
  | .invalidSafetyConfig field message => "invalid safety configuration " ++ field ++ ": " ++ message
  | .invalidLimitMargin joint message => "invalid limit margin on joint " ++ joint ++ ": " ++ message
  | .invalidActuatorGroup group message => "invalid actuator group " ++ group ++ ": " ++ message
  | .invalidGravityCompGains joint message => "invalid gravity_comp gains on joint " ++ joint ++
      ": " ++ message
  | .missingControlJoint joint => "joint " ++ joint ++
      " in robot.yaml has no entry in control.yaml"
  | .duplicateMotorAddress interface deviceId => "duplicate motor CAN address " ++ interface ++ ":" ++
      toString deviceId ++ " in motors.yaml"
  | .invalidVelocity joint message => "invalid velocity on joint " ++ joint ++ ": " ++ message
  | .parse path message => "failed to parse " ++ path ++ ": " ++ message
  | .other message => message

def PersistRequest.isPatch (r : PersistRequest F) : Bool := r.param == "limit_patch"

/-- Audit action of a completion. The live acknowledgement has an action of its own. -/
def persistAuditAction (param : String) : String :=
  if param = "limit_patch" then "limit_patch_persist" else "config_persist"

section
variable [World F]

/-- `a == b` of optional numbers. -/
def optionBeq : Option F → Option F → Bool
  | some a, some b => beq a b
  | none, none => true
  | _, _ => false

/-- The request writes these limits for the joint. A limit that the patch leaves unset constrains
nothing. -/
def CarriedBounds.writtenBy (self : CarriedBounds F) (request : PersistRequest F) (joint : String) :
    Bool :=
  let held := fun patch written : Option F => patch.isNone || optionBeq patch written
  match request.motors.bind (motorForJoint · joint), request.control.joints joint with
  | some motor, some control =>
    beq motor.bench.positionLowerRad self.positionLowerRad &&
    beq motor.bench.positionUpperRad self.positionUpperRad &&
    beq motor.bench.torqueLimitNm self.torqueLimitNm &&
    held self.positionSoftLowerRad control.positionSoftLowerRad &&
    held self.positionSoftUpperRad control.positionSoftUpperRad &&
    held self.velocityMaxRadS control.velocityMaxRadS
  | _, _ => false

/-- The completion of a limit patch, from the entries of its own snapshot. -/
def carriedCompletion (pending : PersistRequest F) (motor : MotorEntry F)
    (control : JointControlEntry F) : CarriedCompletion F where
  timestampMs := pending.timestampMs
  sessionId := pending.sessionId
  operatorId := pending.operatorId
  joint := pending.joint
  bounds :=
    { positionLowerRad := motor.bench.positionLowerRad
      positionUpperRad := motor.bench.positionUpperRad
      torqueLimitNm := motor.bench.torqueLimitNm
      positionSoftLowerRad := control.positionSoftLowerRad
      positionSoftUpperRad := control.positionSoftUpperRad
      velocityMaxRadS := control.velocityMaxRadS }

/-- Coalesce a pending limit patch into the latest request. A later limit patch has the newer snapshot
and stays as it is; a control save gets the snapshot and the limits of the pending patch. -/
def carryPendingLimitPatch (pending latest : PersistRequest F) :
    Except PersistError (CarriedCompletion F × PersistRequest F) :=
  if pending.configDir ≠ latest.configDir then
    .error (.queue "cannot coalesce limit patches across config directories")
  else match pending.motors with
    | none => .error (.queue "pending limit patch has no motors snapshot")
    | some previousMotors => match motorForJoint previousMotors pending.joint with
      | none => .error (.queue "pending limit patch motor is missing")
      | some previousMotor => match pending.control.joints pending.joint with
        | none => .error (.queue "pending limit patch control is missing")
        | some previousControl =>
          let carried := carriedCompletion pending previousMotor previousControl
          if latest.motors.isSome then .ok (carried, latest)
          else
            let patch : LimitPatch F :=
              { joint := pending.joint
                positionLowerRad := previousMotor.bench.positionLowerRad
                positionUpperRad := previousMotor.bench.positionUpperRad
                torqueLimitNm := none
                positionSoftLowerRad := previousControl.positionSoftLowerRad
                positionSoftUpperRad := previousControl.positionSoftUpperRad
                velocityMaxRadS := previousControl.velocityMaxRadS }
            match latest.control.joints pending.joint with
            | none => .error (.queue "latest control snapshot lacks patched joint")
            | some control => do
              let patched ← (applyLimitPatchToControl control patch).mapError fun e =>
                PersistError.queue e.text
              pure (carried, { latest with
                control := { latest.control with
                  joints := Function.update latest.control.joints pending.joint (some patched) }
                motors := some previousMotors })

end

/-! ## The queue -/

/-- What the queue's lock protects. -/
structure PersistSlot (F : Type) where
  request : Option (PersistRequest F)
  /-- Limit patches that the request has replaced. -/
  carried : List (CarriedCompletion F)
  writing : Bool
  accepting : Bool
  workerDone : Bool
  workerError : Option String
  successfulWrites : ℕ
  failedWrites : ℕ
  publicationFailures : ℕ
  coalescedRequests : ℕ

inductive PersistDrainStatus
  | complete | completedWithFailures | timedOut | workerFailed
deriving DecidableEq

structure PersistDrainReport where
  status : PersistDrainStatus
  successfulWrites : ℕ
  failedWrites : ℕ
  publicationFailures : ℕ
  pendingRequests : ℕ
  inFlight : Bool
  workerTerminated : Bool
  workerError : Option String
  coalescedRequests : ℕ

/-- The report of a queue whose worker has terminated, or has not. -/
def PersistDrainReport.fromSlot (slot : PersistSlot F) (workerTerminated : Bool) :
    PersistDrainReport :=
  let pendingRequests := if slot.request.isSome then 1 else 0
  let status :=
    if slot.workerError.isSome then PersistDrainStatus.workerFailed
    else if !workerTerminated || pendingRequests ≠ 0 || slot.writing then .timedOut
    else if slot.failedWrites ≠ 0 || slot.publicationFailures ≠ 0 then .completedWithFailures
    else .complete
  { status := status
    successfulWrites := slot.successfulWrites
    failedWrites := slot.failedWrites
    publicationFailures := slot.publicationFailures
    pendingRequests := pendingRequests
    inFlight := slot.writing
    workerTerminated := workerTerminated
    workerError := slot.workerError
    coalescedRequests := slot.coalescedRequests }

def PersistSlot.new : PersistSlot F where
  request := none
  carried := []
  writing := false
  accepting := true
  workerDone := false
  workerError := none
  successfulWrites := 0
  failedWrites := 0
  publicationFailures := 0
  coalescedRequests := 0

/-! ## The worker -/

/-- The files of a profile that the worker writes. -/
structure ProfileFiles (F : Type) where
  motors : MotorsConfig F
  control : ControlConfig F

/-- A write that the worker made: the request, the patches that it consumed, and the error. -/
structure PersistWrite (F : Type) where
  request : PersistRequest F
  carried : List (CarriedCompletion F)
  error : Option String

/-- Where the worker stands. -/
inductive PersistStage (F : Type)
  /-- At the top of its loop. -/
  | checking
  /-- Waiting for a wake-up. -/
  | waiting
  /-- A wake-up came: further ones are dropped. -/
  | draining
  /-- About to take the pending request. -/
  | taking
  | writing (request : PersistRequest F) (carried : List (CarriedCompletion F))
  | reporting (write : PersistWrite F)
  /-- The completions of the replaced patches go first, the template last. -/
  | publishing (write : PersistWrite F) (template : ActionEvent) (rest : List (CarriedCompletion F))
      (failed : Bool)
  | landing (write : PersistWrite F) (failed : Bool)
  /-- Out of its loop. -/
  | leaving
  /-- Its completion guard has run. -/
  | left
  | finished

/-- What the worker's surroundings answer to one of its steps. -/
structure PersistInput (F : Type) where
  writeError : Option String
  /-- The files that a failed write leaves. -/
  remains : ProfileFiles F
  /-- The revision of the profile, if it can be read. -/
  configRevision : Option String
  publishFails : Bool

/-- The queue, its worker and the disk, with the history of both. -/
structure PersistSystem (F : Type) where
  slot : PersistSlot F
  /-- There is a wake-up in the channel of one. -/
  wake : Bool
  /-- The owner has not dropped the sender. -/
  connected : Bool
  stage : PersistStage F
  files : String → ProfileFiles F
  auditRevision : ℕ
  accepted : List (PersistRequest F)
  writes : List (PersistWrite F)
  published : List ActionEvent

/-- A new queue on the given disk. -/
def PersistSystem.spawn (files : String → ProfileFiles F) : PersistSystem F where
  slot := .new
  wake := false
  connected := true
  stage := .checking
  files := files
  auditRevision := 1
  accepted := []
  writes := []
  published := []

def PersistRequest.store (request : PersistRequest F) (files : ProfileFiles F) : ProfileFiles F where
  motors := request.motors.getD files.motors
  control := request.control

/-- The completion of the request that was written. -/
def PersistWrite.event (write : PersistWrite F) (configRevision : Option String) (revision : ℕ) :
    ActionEvent :=
  let event : ActionEvent :=
    { timestampMs := write.request.timestampMs
      sessionId := write.request.sessionId
      operatorId := write.request.operatorId
      joint := write.request.joint
      action := persistAuditAction write.request.param
      revision := revision
      accepted := true
      rejectReason := "disk write completed"
      persistStatus := PersistStatus.durable.number
      configRevision := configRevision.getD "" }
  match write.error with
  | none => event
  | some e =>
    { event with
      accepted := false
      rejectReason := "async config write failed after live apply: " ++ e
      persistStatus := PersistStatus.failed.number
      configRevision := "" }

/-- The completion of a replaced patch, whose limits were written or not. -/
def carriedEvent (carried : CarriedCompletion F) (written : Bool) (template : ActionEvent)
    (revision : ℕ) : ActionEvent :=
  let event := { template with
    timestampMs := carried.timestampMs
    sessionId := carried.sessionId
    operatorId := carried.operatorId
    joint := carried.joint
    action := persistAuditAction "limit_patch"
    revision := revision }
  if !written && template.accepted then
    { event with
      accepted := false
      rejectReason := "superseded: a later limit patch for " ++ carried.joint ++
        " was written instead of these bounds"
      persistStatus := PersistStatus.failed.number
      configRevision := "" }
  else event

namespace PersistSystem

/-- `next_audit_revision`. -/
def drawn (s : PersistSystem F) : PersistSystem F :=
  { s with auditRevision := (s.auditRevision + 1) % 2 ^ 64 }

def work [World F] (input : PersistInput F) (s : PersistSystem F) : PersistSystem F :=
  match s.stage with
  | .checking =>
    if !s.slot.accepting && s.slot.request.isNone then { s with stage := .leaving }
    else { s with stage := .waiting }
  | .waiting =>
    if s.wake then { s with wake := false, stage := .draining }
    else if s.connected then { s with stage := .checking }
    else { s with slot := { s.slot with accepting := false }, stage := .draining }
  | .draining => { s with wake := false, stage := .taking }
  | .taking =>
    match s.slot.request with
    | none => { s with stage := .checking }
    | some request =>
      { s with
        slot := { s.slot with request := none, writing := true, carried := [] }
        stage := .writing request s.slot.carried }
  | .writing request carried =>
    let files := match input.writeError with
      | none => request.store (s.files request.configDir)
      | some _ => input.remains
    let write := ⟨request, carried, input.writeError⟩
    { s with
      files := Function.update s.files request.configDir files
      writes := s.writes ++ [write]
      stage := .reporting write }
  | .reporting write =>
    { s.drawn with
      stage := .publishing write (write.event input.configRevision s.auditRevision) write.carried
        false }
  | .publishing write template (carried :: rest) failed =>
    let written := carried.bounds.writtenBy write.request carried.joint
    { s.drawn with
      published := s.published ++ [carriedEvent carried written template s.auditRevision]
      stage := .publishing write template rest (failed || input.publishFails) }
  | .publishing write template [] failed =>
    { s with
      published := s.published ++ [template]
      stage := .landing write (failed || input.publishFails) }
  | .landing write failed =>
    { s with
      slot := { s.slot with
        successfulWrites := if write.error.isNone then saturatingSucc s.slot.successfulWrites
          else s.slot.successfulWrites
        failedWrites := if write.error.isNone then s.slot.failedWrites
          else saturatingSucc s.slot.failedWrites
        publicationFailures := if failed then saturatingSucc s.slot.publicationFailures
          else s.slot.publicationFailures
        writing := false }
      stage := .taking }
  | .leaving => { s with slot := { s.slot with accepting := false, workerDone := true }, stage := .left }
  | .left => { s with stage := .finished }
  | .finished => s

def enqueue [World F] (request : PersistRequest F) (s : PersistSystem F) :
    Except PersistError Unit × PersistSystem F :=
  if !s.slot.accepting || s.slot.workerDone || s.slot.workerError.isSome then
    (.error (.queue "queue admission closed"), s)
  else
    match s.stage with
    | .finished =>
      (.error (.queue "worker disconnected"), { s with
        slot := { s.slot with
          accepting := false
          workerError := some (s.slot.workerError.getD "persist worker disconnected") } })
    | _ =>
      let woken := { s with wake := true }
      match s.slot.request with
      | none =>
        (.ok (), { woken with
          slot := { s.slot with request := some request }
          accepted := s.accepted ++ [request] })
      | some pending =>
        if pending.isPatch then
          match carryPendingLimitPatch pending request with
          | .error error => (.error error, woken)
          | .ok (carried, latest) =>
            (.ok (), { woken with
              slot := { s.slot with
                request := some latest
                carried := s.slot.carried ++ [carried]
                coalescedRequests := saturatingSucc s.slot.coalescedRequests }
              accepted := s.accepted ++ [request] })
        else
          -- a pending control save may itself carry the motors of a patch
          let latest :=
            if request.motors.isNone then { request with motors := pending.motors } else request
          (.ok (), { woken with
            slot := { s.slot with
              request := some latest
              coalescedRequests := saturatingSucc s.slot.coalescedRequests }
            accepted := s.accepted ++ [request] })

/-- Close without waiting, which is also how a drain starts. -/
def closeAdmission (s : PersistSystem F) : PersistSystem F :=
  { s with slot := { s.slot with accepting := false }, wake := true }

def drop (s : PersistSystem F) : PersistSystem F := { s.closeAdmission with connected := false }

/-- The report of a drain that looks at the queue now. -/
def drainReport (s : PersistSystem F) : PersistDrainReport :=
  PersistDrainReport.fromSlot s.slot (match s.stage with | .finished => true | _ => false)

end PersistSystem

/-- The calls of the owner and the steps of the worker. -/
inductive PersistAction (F : Type)
  | enqueue (request : PersistRequest F)
  | work (input : PersistInput F)
  | closeAdmission
  | drop

def PersistSystem.act [World F] (s : PersistSystem F) : PersistAction F → PersistSystem F
  | .enqueue request => (s.enqueue request).2
  | .work input => s.work input
  | .closeAdmission => s.closeAdmission
  | .drop => s.drop

def PersistSystem.run [World F] (s : PersistSystem F) (actions : List (PersistAction F)) :
    PersistSystem F := actions.foldl act s

end Marengo

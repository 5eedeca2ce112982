import Marengo.Persist.Queue

/-!
# Limit patches from the gateway to the disk

A client asks the gateway for new limits of a joint and leaves out the ones that shall stay. The
gateway fills those from the profile on disk, checks the client's revision against that of the disk,
and sends a complete patch to the runtime. The runtime checks the revision again, applies the patch
live and leaves its write to the queue of `Persist.Queue`.

`LimitSystem` has several such requests at once, each at its own stage, the commands on their way, the
owner on the Pi and its queue. A step is a `LimitAction`: one read or check of the gateway, one event
that reaches it, the handling of one command, or one step of the worker. The answers of the file
system are inputs of the steps. `accepted` and `disks` record the requests that the runtime has
accepted and the profiles that the disk has had.
-/

namespace Marengo

variable {F : Type}

/-! ## Requests -/

/-- What a client asks for. -/
structure LimitPatchRequest (F : Type) where
  joint : String
  operatorId : String
  expectedRevision : String
  positionLowerRad : Option F
  positionUpperRad : Option F
  torqueLimitNm : Option F
  positionSoftLowerRad : Option F
  positionSoftUpperRad : Option F
  velocityMaxRadS : Option F

/-- Where the write of a patch stands, as the gateway answers it. -/
inductive PatchPersistStatus
  | durable | pending | failed
deriving DecidableEq

/-- What the client gets back. -/
structure LimitPatchResult where
  ok : Bool
  message : String
  restartRequired : Bool
  persistStatus : PatchPersistStatus

def limitPatchError (message : String) (persistStatus : PatchPersistStatus) : LimitPatchResult :=
  ⟨false, message, false, persistStatus⟩

def limitPatchFromMotor (configDir : String) (motors : MotorsConfig F) (control : ControlConfig F)
    (joint : String) : Except ConfigError (LimitPatch F) :=
  match motorForJoint motors joint with
  | none => .error (.parse configDir ("joint " ++ joint ++ " not in motors.yaml"))
  | some motor => match control.joints joint with
    | none => .error (.parse configDir ("joint " ++ joint ++ " not in control.yaml"))
    | some controlEntry =>
      .ok
        { joint := joint
          positionLowerRad := motor.bench.positionLowerRad
          positionUpperRad := motor.bench.positionUpperRad
          torqueLimitNm := some motor.bench.torqueLimitNm
          positionSoftLowerRad := controlEntry.positionSoftLowerRad
          positionSoftUpperRad := controlEntry.positionSoftUpperRad
          velocityMaxRadS := controlEntry.velocityMaxRadS }

/-- Fill what the request leaves out. -/
def mergeRequestLimits (before : LimitPatch F) (request : LimitPatchRequest F) : LimitPatch F where
  joint := before.joint
  positionLowerRad := request.positionLowerRad.getD before.positionLowerRad
  positionUpperRad := request.positionUpperRad.getD before.positionUpperRad
  torqueLimitNm := request.torqueLimitNm.or before.torqueLimitNm
  positionSoftLowerRad := request.positionSoftLowerRad.or before.positionSoftLowerRad
  positionSoftUpperRad := request.positionSoftUpperRad.or before.positionSoftUpperRad
  velocityMaxRadS := request.velocityMaxRadS.or before.velocityMaxRadS

/-- The command that the gateway sends. The joint of its patch is the joint of the command. -/
structure OperatorCommand (F : Type) where
  timestampMs : ℕ
  sessionId : String
  operatorId : String
  patch : LimitPatch F
  expectedRevision : String

/-- Where the gateway stands with a request. -/
inductive PatchStage (F : Type)
  | asked
  | motorsRead (motors : MotorsConfig F)
  | limitsRead (before : LimitPatch F)
  /-- Waiting for the live acknowledgement. -/
  | sent (sessionId : String)
  /-- Waiting for the completion of the write. -/
  | applied (sessionId : String)
  | done (result : LimitPatchResult)

def liveLimitPatchAction : String := "limit_patch"
def limitPatchPersistAction : String := "limit_patch_persist"

/-- The answer to the live acknowledgement, or a wait for the completion. -/
def liveAnswer (joint sessionId : String) : Option ActionEvent → PatchStage F
  | none => .done (limitPatchError
      ("timed out waiting for Pi ACK on limit_patch for " ++ joint) .failed)
  | some event =>
    if event.accepted then .applied sessionId
    else .done (limitPatchError
      (if event.rejectReason = "" then "Pi rejected limit_patch for " ++ joint
        else event.rejectReason) .failed)

def persistAnswer (joint : String) : Option ActionEvent → LimitPatchResult
  | none => limitPatchError ("live limits applied for " ++ joint ++
      ", but timed out waiting for durable persist") .pending
  | some event =>
    let persistStatus := match PersistStatus.tryFrom event.persistStatus with
      | some .durable => PatchPersistStatus.durable
      | some .failed => .failed
      | _ => .pending
    if persistStatus = .failed || !event.accepted then
      limitPatchError
        (if event.rejectReason = "" then "Pi live-applied " ++ joint ++ " but durable persist failed"
          else event.rejectReason) .failed
    else
      ⟨true, "Applied live limits for " ++ joint ++
        " on master (durable; URDF expanded if needed)", false, persistStatus⟩

/-! ## The runtime -/

/-- Why the runtime refuses a command. -/
inductive OverlayError
  | notWired (joint : String)
  | persistQueue (error : PersistError)
  | config (error : ConfigError)
  | davout (error : DavoutError)
  | controller (error : DavoutError)
  /-- The queue refused the write, and the limits of before could not be restored. -/
  | rollback (dir : String) (error : PersistError) (cause : DavoutError)

def PersistError.text : PersistError → String
  | .queue message => "persist queue unavailable: " ++ message

def OverlayError.text (F : Type) [World F] : OverlayError → String
  | .notWired joint => "joint not command-eligible: " ++ joint
  | .persistQueue error => error.text
  | .config error => error.text
  | .davout error => World.showError F error
  | .controller error => "controller: safety: " ++ World.showError F error
  | .rollback dir error cause => (ConfigError.parse dir
      ("limit_patch rollback failed after enqueue error (" ++ error.text ++ "): " ++
        World.showError F cause)).text

/-- The names that an operator may use for a joint, the exact one first. -/
def jointLookupCandidates (input : String) : List String :=
  input :: match input with
    | "left_shoulder_roll" => ["shoulder_roll"]
    | "left_shoulder_pitch" => ["shoulder_pitch"]
    | "left_upper_arm_yaw" => ["upper_arm_yaw"]
    | "left_elbow" => ["elbow"]
    | "shoulder_roll" => ["left_shoulder_roll"]
    | "shoulder_pitch" => ["left_shoulder_pitch"]
    | "upper_arm_yaw" => ["left_upper_arm_yaw"]
    | "elbow" => ["right_elbow_pitch", "left_elbow"]
    | "right_elbow_pitch" => ["elbow"]
    | _ => []

/-- The wired joint of a name. An alias of two wired joints is refused. -/
def resolveCommandJoint (input : String) (allowlist : List String) : Option String :=
  if input ∈ allowlist then some input
  else match (jointLookupCandidates input).tail.filter (· ∈ allowlist) with
    | [] => none
    | joint :: others => if others.all (· = joint) then some joint else none

/-- What the installation fixes. -/
structure LimitSite (F : Type) where
  configDir : String
  revision : ProfileFiles F → String
  allowlist : List String

def actionEvent (command : OperatorCommand F) (joint action : String) (accepted : Bool)
    (rejectReason : String) (persistStatus : PersistStatus) (configRevision : String)
    (revision : ℕ) : ActionEvent where
  timestampMs := command.timestampMs
  sessionId := command.sessionId
  operatorId := command.operatorId
  joint := joint
  action := action
  revision := revision
  accepted := accepted
  rejectReason := rejectReason
  persistStatus := persistStatus.number
  configRevision := configRevision

/-- The owner of the drives and the queue of its writes. -/
structure LimitRuntime (F : Type) where
  owner : System F
  queue : PersistSystem F

/-- Publish an event of the runtime under the next audit revision. -/
def LimitRuntime.publish (self : LimitRuntime F) (event : ℕ → ActionEvent) : LimitRuntime F :=
  { self with queue := { self.queue.drawn with
      published := self.queue.published ++ [event self.queue.auditRevision] } }

section
variable [World F]

/-- Apply a patch live and queue its write. A write that the queue refuses is rolled back. -/
def applyLimitPatchCommand (site : LimitSite F) (command : OperatorCommand F) (joint : String)
    (unreadable : Option ConfigError) (self : LimitRuntime F) :
    Except OverlayError String × LimitRuntime F :=
  if command.expectedRevision = "" then
    (.error (.config (.parse site.configDir "expected_revision is required for limit patches")), self)
  else if self.owner.mode = .active then (.error (.davout .limitPatchActive), self)
  else match unreadable with
  | some error => (.error (.config error), self)
  | none =>
    let currentRevision := site.revision (self.queue.files site.configDir)
    if command.expectedRevision ≠ currentRevision then
      (.error (.config (.parse site.configDir ("profile revision mismatch: expected " ++
        command.expectedRevision ++ ", found " ++ currentRevision))), self)
    else
      let patch := { command.patch with joint := joint }.ensureSoftInset
      match applyLimitPatch patch self.owner with
      | (.error error, owner) => (.error (.davout error), { self with owner := owner })
      | (.ok (), owner) =>
        let request : PersistRequest F :=
          { configDir := site.configDir
            motors := some owner.motors
            control := owner.control
            timestampMs := command.timestampMs
            sessionId := command.sessionId
            operatorId := command.operatorId
            joint := joint
            param := "limit_patch" }
        match self.queue.enqueue request with
        | (.ok (), queue) => (.ok currentRevision, ⟨owner, queue⟩)
        | (.error error, queue) =>
          match restoreLimitSnapshot ⟨self.owner.urdf, self.owner.motors, self.owner.control⟩
              owner with
          | (.ok (), owner) => (.error (.persistQueue error), ⟨owner, queue⟩)
          | (.error cause, owner) =>
            (.error (.rollback site.configDir error cause), ⟨owner, queue⟩)

def applyOperatorCommand (site : LimitSite F) (command : OperatorCommand F)
    (unreadable : Option ConfigError) (self : LimitRuntime F) :
    Except OverlayError String × LimitRuntime F :=
  match (referenceBusy : Prog (System F) DavoutError Bool) self.owner with
  | (.error error, owner) => (.error (.davout error), { self with owner := owner })
  | (.ok true, owner) =>
    (.error (.controller (.referenceBusy "actuator overlay")), { self with owner := owner })
  | (.ok false, owner) =>
    let self := { self with owner := owner }
    match resolveCommandJoint command.patch.joint site.allowlist with
    | none => (.error (.notWired command.patch.joint), self)
    | some joint => applyLimitPatchCommand site command joint unreadable self

def LimitRuntime.drain (site : LimitSite F) (command : OperatorCommand F)
    (unreadable : Option ConfigError) (self : LimitRuntime F) : LimitRuntime F :=
  match applyOperatorCommand site command unreadable self with
  | (.ok currentRevision, self) =>
    let joint := (resolveCommandJoint command.patch.joint site.allowlist).getD command.patch.joint
    self.publish (actionEvent command joint liveLimitPatchAction true
      "applied in memory; persist pending" .pending currentRevision)
  | (.error error, self) =>
    self.publish (actionEvent command command.patch.joint liveLimitPatchAction false
      (error.text F) .notApplicable "")

end

/-! ## The system -/

/-- A command on its way, with the request that it comes from. -/
structure SentPatch (F : Type) where
  request : LimitPatchRequest F
  command : OperatorCommand F

/-- The gateway's requests, the commands on their way and the runtime. -/
structure LimitSystem (F : Type) extends LimitRuntime F where
  requests : List (LimitPatchRequest F × PatchStage F)
  commands : List (SentPatch F)
  accepted : List (LimitPatchRequest F)
  disks : List (ProfileFiles F)

inductive LimitAction (F : Type)
  | ask (request : LimitPatchRequest F)
  /-- The gateway reads `motors.yaml` for a request. -/
  | readMotors (i : ℕ) (failure : Option String)
  | readControl (i : ℕ) (failure : Option String)
  /-- The gateway checks the revision and sends the command. -/
  | check (i : ℕ) (unreadable : Option String) (timestampMs : ℕ) (sessionId : String)
      (unsent : Option String)
  /-- An event reaches the gateway, or the wait of a request times out. -/
  | hear (i : ℕ) (event : Option ActionEvent)
  /-- The owner takes some other step, which leaves motors and control as they are. -/
  | runtime (owner : System F)
  /-- The runtime handles a command. -/
  | handle (k : ℕ) (unreadable : Option ConfigError)
  | work (input : PersistInput F)
  | closeAdmission
  | drop

namespace LimitSystem

/-- A runtime that has loaded the profile of the disk. -/
def start (site : LimitSite F) (owner : System F) (files : String → ProfileFiles F) :
    LimitSystem F where
  owner := owner
  queue := .spawn files
  requests := []
  commands := []
  accepted := []
  disks := [files site.configDir]

def disk (site : LimitSite F) (s : LimitSystem F) : ProfileFiles F := s.queue.files site.configDir

def goto (s : LimitSystem F) (i : ℕ) (request : LimitPatchRequest F) (stage : PatchStage F) :
    LimitSystem F :=
  { s with requests := s.requests.set i (request, stage) }

def refuse (s : LimitSystem F) (i : ℕ) (request : LimitPatchRequest F) (message : String) :
    LimitSystem F :=
  s.goto i request (.done (limitPatchError message .failed))

/-- The revision check of the gateway, and the command. -/
def checkRevision (site : LimitSite F) (s : LimitSystem F) (i : ℕ) (request : LimitPatchRequest F)
    (before : LimitPatch F) (unreadable : Option String) (timestampMs : ℕ) (sessionId : String)
    (unsent : Option String) : LimitSystem F :=
  match unreadable with
  | some error => s.refuse i request error
  | none =>
    let currentRevision := site.revision (s.disk site)
    if request.expectedRevision = "" then s.refuse i request "expected_revision is required"
    else if request.expectedRevision ≠ currentRevision then
      s.refuse i request ("config revision mismatch: expected " ++ request.expectedRevision ++
        ", found " ++ currentRevision)
    else match unsent with
    | some error => s.refuse i request ("failed to publish limit_patch: " ++ error)
    | none =>
      let command : OperatorCommand F :=
        { timestampMs := timestampMs
          sessionId := sessionId
          operatorId := request.operatorId
          patch := mergeRequestLimits before request
          expectedRevision := request.expectedRevision }
      { s.goto i request (.sent sessionId) with
        commands := s.commands ++ [⟨request, command⟩] }

/-- An event reaches a request that waits, or its wait times out. -/
def hear (s : LimitSystem F) (i : ℕ) (request : LimitPatchRequest F) (event : Option ActionEvent) :
    PatchStage F → LimitSystem F
  | .sent sessionId =>
    -- the gateway skips the events of other sessions and of other actions
    if event.all fun e => e.sessionId = sessionId && e.action = liveLimitPatchAction then
      s.goto i request (liveAnswer request.joint sessionId event)
    else s
  | .applied sessionId =>
    if event.all fun e => e.sessionId = sessionId && e.action = limitPatchPersistAction then
      s.goto i request (.done (persistAnswer request.joint event))
    else s
  | _ => s

variable [World F]

/-- The runtime after the command at `k`, and whether it was accepted. -/
def handled (site : LimitSite F) (s : LimitSystem F) (command : OperatorCommand F)
    (unreadable : Option ConfigError) : Except OverlayError String × LimitRuntime F :=
  applyOperatorCommand site command unreadable s.toLimitRuntime

def act (site : LimitSite F) (s : LimitSystem F) : LimitAction F → LimitSystem F
  | .ask request =>
    let request := { request with joint := trim request.joint }
    let stage := if request.joint = "" then .done (limitPatchError "joint name required" .failed)
      else .asked
    { s with requests := s.requests ++ [(request, stage)] }
  | .readMotors i failure =>
    match s.requests[i]? with
    | some (request, .asked) => match failure with
      | some error => s.refuse i request
          ("joint " ++ request.joint ++ " not in master config: " ++ error)
      | none => s.goto i request (.motorsRead (s.disk site).motors)
    | _ => s
  | .readControl i failure =>
    match s.requests[i]? with
    | some (request, .motorsRead motors) => match failure with
      | some error => s.refuse i request
          ("joint " ++ request.joint ++ " not in master config: " ++ error)
      | none => match limitPatchFromMotor site.configDir motors (s.disk site).control
          request.joint with
        | .error error => s.refuse i request
            ("joint " ++ request.joint ++ " not in master config: " ++ error.text)
        | .ok before => s.goto i request (.limitsRead before)
    | _ => s
  | .check i unreadable timestampMs sessionId unsent =>
    match s.requests[i]? with
    | some (request, .limitsRead before) =>
      s.checkRevision site i request before unreadable timestampMs sessionId unsent
    | _ => s
  | .hear i event =>
    match s.requests[i]? with
    | some (request, stage) => s.hear i request event stage
    | none => s
  | .runtime owner =>
    { s with owner := { owner with
        motors := s.owner.motors, control := s.owner.control, urdf := s.owner.urdf } }
  | .handle k unreadable =>
    match s.commands[k]? with
    | none => s
    | some sent =>
      { s with
        toLimitRuntime := s.toLimitRuntime.drain site sent.command unreadable
        commands := s.commands.eraseIdx k
        accepted := if (s.handled site sent.command unreadable).1.isOk then
          s.accepted ++ [sent.request] else s.accepted }
  | .work input =>
    let queue := s.queue.work input
    { s with queue := queue, disks := s.disks ++ [queue.files site.configDir] }
  | .closeAdmission => { s with queue := s.queue.closeAdmission }
  | .drop => { s with queue := s.queue.drop }

def run (site : LimitSite F) (s : LimitSystem F) (actions : List (LimitAction F)) : LimitSystem F :=
  actions.foldl (act site) s

end LimitSystem

end Marengo

import Marengo.Davout.Reporting
import Marengo.Proto

/-!
# The gateway's management commands

The gateway keeps the last frames of the runtime and two flags of its write-behind: a write is
pending, and a write has failed. Three commands change what a running or restarting robot loads: the
restart of the runtime, the self-update and the activation of a merged URDF. Each is refused unless
the runtime is known to be idle, and while the flags say that a write is pending or has failed.

A payload is known by what the gateway decodes from it (`FramePayload`). The answers of the file system,
of the scripts and of the other crates to a command are inputs of its handler; what the handler did
to the robot is its list of effects.
-/

namespace Marengo

/-! ## Frames -/

def topicState : String := "robot/state"
def topicSafety : String := "robot/safety"
def topicHeartbeat : String := "robot/heartbeat"
def topicImuTorso : String := "sensors/imu/torso"
def topicHostMetricsPi : String := "host/metrics/pi"
def topicActuatorLimits : String := "robot/actuator/limits"
def topicAuditAction : String := "robot/audit/action"

/-- What the gateway decodes from the payload of a frame. -/
class FramePayload (P : Type) where
  /-- The payload as an `ActionEvent`. -/
  action : P → Option ActionEvent
  /-- The mode of the payload as a `SafetyState`. -/
  safetyMode : P → Option Int
  /-- The timestamp of the payload as a `Heartbeat`. -/
  heartbeatMs : P → Option ℕ

/-- The last frame of each observed topic. -/
structure GatewaySnapshots (P : Type) where
  robotState : Option P := none
  safetyState : Option P := none
  heartbeat : Option P := none
  imuTorso : Option P := none
  hostMetricsPi : Option P := none
  actuatorLimits : Option P := none

/-- What the gateway forwards to the subscribers of its streams. -/
inductive Forwarded (P : Type)
  | frame (topic : String) (payload : P)
  | connection (generation : ℕ) (connected : Bool)

/-- The part of the gateway's state that the runtime's frames change. -/
structure AppState (P : Type) where
  snapshots : GatewaySnapshots P := {}
  /-- A live change was applied whose write has failed. -/
  persistDegraded : Bool := false
  /-- A write of the configuration is pending. -/
  persistPending : Bool := false
  runtimeGeneration : ℕ := 0
  runtimeConnected : Bool := false
  forwarded : List (Forwarded P) := []

namespace AppState

variable {P : Type}

/-- A change of the connection retires what was observed. The flags are not observations. -/
def runtimeConnectionChanged (s : AppState P) (connected : Bool) : AppState P :=
  let generation := (s.runtimeGeneration + 1) % 2 ^ 64
  { s with
    snapshots := {}
    runtimeConnected := connected
    runtimeGeneration := generation
    forwarded := s.forwarded ++ [.connection generation connected] }

def updateSnapshot (s : AppState P) (topic : String) (payload : P) : AppState P :=
  { s with snapshots :=
      if topic = topicState then { s.snapshots with robotState := some payload }
      else if topic = topicSafety then { s.snapshots with safetyState := some payload }
      else if topic = topicHeartbeat then { s.snapshots with heartbeat := some payload }
      else if topic = topicImuTorso then { s.snapshots with imuTorso := some payload }
      else if topic = topicHostMetricsPi then { s.snapshots with hostMetricsPi := some payload }
      else if topic = topicActuatorLimits then { s.snapshots with actuatorLimits := some payload }
      else s.snapshots }

variable [FramePayload P]

/-- The status of a write that a frame reports, and the session of its request. -/
def persistReport (topic : String) (payload : P) : Option (String × PersistStatus) :=
  if topic = topicAuditAction then do
    let event ← FramePayload.action payload
    let status ← PersistStatus.tryFrom event.persistStatus
    some (event.sessionId, status)
  else none

def noteStatus (s : AppState P) : PersistStatus → AppState P
  | .pending => { s with persistPending := true }
  | .durable => { s with persistPending := false, persistDegraded := false }
  | .failed => { s with persistPending := false, persistDegraded := true }
  | _ => s

def ingestRuntimeFrame (s : AppState P) (topic : String) (payload : P) : AppState P :=
  let s := match persistReport topic payload with
    | some (_, status) => s.noteStatus status
    | none => s
  let s := s.updateSnapshot topic payload
  { s with forwarded := s.forwarded ++ [.frame topic payload] }

def snapshotSafety (s : AppState P) : Option Int := s.snapshots.safetyState.bind FramePayload.safetyMode

def snapshotHeartbeat (s : AppState P) : Option ℕ := s.snapshots.heartbeat.bind FramePayload.heartbeatMs

end AppState

/-! ## Responses -/

inductive HttpStatus
  | ok | accepted | badRequest | notFound | conflict | internalServerError | badGateway
  | gatewayTimeout
deriving DecidableEq

/-- What a management command did to the robot. -/
inductive ManagementEffect
  | runScript (path : String)
  | enqueueSelfUpdate (targetSha jobId : String)
  | archiveUrdf (uploadId : String)
  | promoteUrdf (path : String)
deriving DecidableEq

/-- The response of a handler and what it did. -/
structure ManagementOutcome (B : Type) where
  response : Except HttpStatus (HttpStatus × B)
  effects : List ManagementEffect

/-- A response without any effect. -/
def ManagementOutcome.refuse {B : Type} (status : HttpStatus) (body : B) : ManagementOutcome B :=
  ⟨.ok (status, body), []⟩

def ManagementOutcome.fail {B : Type} (status : HttpStatus) (effects : List ManagementEffect) :
    ManagementOutcome B :=
  ⟨.error status, effects⟩

/-- Heartbeats older than this refuse a management command. -/
def heartbeatFreshMs : ℕ := 5000

/-- The operational mode that the number stands for, if it stands for a known one. -/
def OperationalMode.tryFrom (n : Int) : Option OperationalMode :=
  if n = 1 then some .disabled
  else if n = 2 then some .ready
  else if n = 3 then some .active
  else none

/-- The mode and the heartbeat are not both known and fresh, or the motors are active. -/
def refuseUnsafeManagementState (mode : Option Int) (heartbeatTsMs : Option ℕ) (now freshMs : ℕ) :
    Bool :=
  match mode.bind OperationalMode.tryFrom with
  | none => true
  | some mode => match heartbeatTsMs with
    | none => true
    | some timestamp =>
      if now < timestamp then true
      else freshMs < now - timestamp || mode = .active

section
variable {P : Type} [FramePayload P]

/-- The gateway refuses management commands at this time. -/
def AppState.refusesAt (s : AppState P) (now : ℕ) : Bool :=
  refuseUnsafeManagementState s.snapshotSafety s.snapshotHeartbeat now heartbeatFreshMs

end

/-! ## Restart -/

structure RestartMarengoPiJson where
  confirm : Bool

structure RestartMarengoPiResultJson where
  ok : Bool
  message : String

/-- What the restart script left. -/
structure ScriptOutput where
  success : Bool
  status : String
  /-- Its standard output, then its standard error. -/
  combined : String

/-- How a run of the restart script ended. -/
inductive ScriptRun
  | spawnFailed (error : String)
  | waitFailed (error : String)
  | ended (output : ScriptOutput)
  | timedOut

structure RestartAnswers where
  now : ℕ
  locked : Bool
  script : String
  scriptIsFile : Bool
  run : ScriptRun

/-- The result of the script, or none if it timed out. -/
def runRestartScript : ScriptRun → Option (Except String RestartMarengoPiResultJson)
  | .spawnFailed error => some (.error ("spawn restart: " ++ error))
  | .waitFailed error => some (.error ("wait restart: " ++ error))
  | .timedOut => none
  | .ended output =>
    let truncated := String.ofList (output.combined.toList.take 2000)
    let silent := trim truncated = ""
    if output.success then
      some (.ok ⟨true, if silent then "marengo-pi restarted" else truncated⟩)
    else some (.error (if silent then "restart exited " ++ output.status else truncated))

section
variable {P : Type} [FramePayload P]

def postRestartMarengoPi (state : AppState P) (answers : RestartAnswers)
    (body : RestartMarengoPiJson) : ManagementOutcome RestartMarengoPiResultJson :=
  if !body.confirm then .refuse .badRequest ⟨false, "confirm must be true"⟩
  else if state.refusesAt answers.now then
    .refuse .conflict ⟨false, "restart refused: require a known, fresh non-Active runtime state"⟩
  else if state.persistPending || state.persistDegraded then
    .refuse .conflict
      ⟨false, "config write-behind is pending or failed — resolve it before restart"⟩
  else if answers.locked then .refuse .conflict ⟨false, "restart already in progress"⟩
  else if !answers.scriptIsFile then
    .refuse .internalServerError ⟨false, "restart script not found: " ++ answers.script⟩
  else
    let response := match runRestartScript answers.run with
      | some (.ok output) => (HttpStatus.ok, output)
      | some (.error message) => (.internalServerError, ⟨false, message⟩)
      | none => (.gatewayTimeout, ⟨false, "restart timed out"⟩)
    ⟨.ok response, [.runScript answers.script]⟩

end

/-! ## Self-update -/

structure DeployRequestJson where
  confirm : Bool

structure DeployResponseJson where
  ok : Bool
  message : String
  alreadyCurrent : Option Bool := none
  jobId : Option String := none
  targetSha : Option String := none

inductive DeployJobState
  | idle | running | succeeded | failed
deriving DecidableEq

structure DeployJob where
  state : DeployJobState
  jobId : String
  targetSha : String

inductive JobFileRead
  | missing
  | ok (job : DeployJob)
  | corrupt

structure DeployAnswers where
  now : ℕ
  locked : Bool
  installedSha : String
  job : JobFileRead
  upstreamSha : String
  upstreamOk : Bool
  webRootReady : Bool
  jobId : String
  enqueue : Except String Unit

/-- `u8::is_ascii_hexdigit`. -/
def isAsciiHexdigit (c : Char) : Bool :=
  ('0' ≤ c && c ≤ '9') || ('a' ≤ c && c ≤ 'f') || ('A' ≤ c && c ≤ 'F')

def isFullSha (value : String) : Bool :=
  let value := trim value
  value.utf8ByteSize = 40 && value.toList.all isAsciiHexdigit

/-- Two full or abbreviated revisions are the same. -/
def shasMatch (installed upstream : String) : Bool :=
  let a := (trim installed).toList.map Char.toLower
  let b := (trim upstream).toList.map Char.toLower
  if a.isEmpty || b.isEmpty then false
  else if 7 ≤ (String.ofList a).utf8ByteSize && 7 ≤ (String.ofList b).utf8ByteSize then
    a = b || b.isPrefixOf a || a.isPrefixOf b
  else a = b

section
variable {P : Type} [FramePayload P]

def postControlDeploy (state : AppState P) (answers : DeployAnswers) (body : DeployRequestJson) :
    ManagementOutcome DeployResponseJson :=
  if !body.confirm then .refuse .badRequest { ok := false, message := "confirm must be true" }
  else if answers.locked then
    .refuse .conflict { ok := false, message := "deploy already in progress" }
  else if state.refusesAt answers.now then
    .refuse .conflict
      { ok := false
        message := "update refused: require a known, fresh non-Active runtime state" }
  else if state.persistDegraded then
    .refuse .conflict
      { ok := false
        message := "config write-behind failed — resolve persist-degraded state before update" }
  else if state.persistPending then
    .refuse .conflict
      { ok := false
        message := "config write-behind still pending — wait for durable ACK before update" }
  else match answers.job with
  | .ok job =>
    if job.state = .running then
      .refuse .conflict
        { ok := false
          message := "deploy already in progress (" ++ job.jobId ++ ")"
          jobId := some job.jobId
          targetSha := some job.targetSha }
    else if !answers.upstreamOk || answers.upstreamSha = "" then
      .refuse .badGateway { ok := false, message := "could not fetch GitHub tip of main" }
    else if isFullSha answers.installedSha &&
        shasMatch answers.installedSha answers.upstreamSha && answers.webRootReady then
      .refuse .ok
        { ok := true
          message := "Already up to date"
          alreadyCurrent := some true
          targetSha := some answers.upstreamSha }
    else
      let response := match answers.enqueue with
        | .ok () => (HttpStatus.accepted,
            { ok := true
              message := "self-update enqueued"
              alreadyCurrent := some false
              jobId := some answers.jobId
              targetSha := some answers.upstreamSha : DeployResponseJson })
        | .error error => (.internalServerError,
            { ok := false, message := error, targetSha := some answers.upstreamSha })
      ⟨.ok response, [.enqueueSelfUpdate answers.upstreamSha answers.jobId]⟩
  | _ =>
    .refuse .conflict
      { ok := false
        message := "corrupt deploy-job.json — refusing enqueue until the ledger is repaired" }

end

/-! ## Activation of a URDF -/

structure ActivateUrdfJson where
  uploadId : String

structure ActivateUrdfResultJson where
  ok : Bool
  message : String
  checksumSha256 : String := ""
  /-- Messages of the completeness warnings. -/
  completeness : List String := []
  restartRequired : Bool := false

/-- The answers of the system to an activation, in the order in which it asks. -/
structure ActivateAnswers where
  now : ℕ
  contributorIsFile : Bool
  profileLocked : Bool
  masterPath : Except HttpStatus String
  masterXml : Option String
  contributorXml : Option String
  previewMade : Bool
  /-- Joint and field of the critical fields without a resolution. -/
  unresolved : List (String × String)
  merged : Option String
  archiveMade : Bool
  contributorArchived : Except HttpStatus Unit
  replacedArchived : Except HttpStatus Unit
  manifestArchived : Except HttpStatus Unit
  promoted : Bool
  checksum : String
  completeness : Except String (List String)

/-- `char::is_ascii_alphanumeric`. -/
def isAsciiAlphanumeric (c : Char) : Bool :=
  ('0' ≤ c && c ≤ '9') || ('a' ≤ c && c ≤ 'z') || ('A' ≤ c && c ≤ 'Z')

/-- The identifier of an upload names one directory. -/
def validateUploadId (id : String) : Except HttpStatus String :=
  if id = "" || 64 < id.utf8ByteSize then .error .badRequest
  else match id.toList with
    | [] => .error .badRequest
    | first :: chars =>
      -- without a separator and with such a first character the only component is a normal one
      if !isAsciiAlphanumeric first ||
          chars.any fun c => !(isAsciiAlphanumeric c || c = '.' || c = '_' || c = '-') then
        .error .badRequest
      else .ok id

/-- Merge a staged URDF, archive both and promote the merged one. -/
def activateUrdf (uploadId : String) (answers : ActivateAnswers) :
    ManagementOutcome ActivateUrdfResultJson :=
  if !answers.contributorIsFile then .fail .notFound []
  else if !answers.profileLocked then .fail .internalServerError []
  else match answers.masterPath with
  | .error status => .fail status []
  | .ok masterPath => match answers.masterXml, answers.contributorXml with
    | some _, some _ =>
      if !answers.previewMade then .fail .badRequest []
      else if answers.unresolved ≠ [] then
        .refuse .badRequest
          { ok := false
            message := "kinematics-critical fields unresolved: " ++
              ", ".intercalate (answers.unresolved.map fun (joint, field) => joint ++ "." ++ field) }
      else match answers.merged with
      | none => .fail .badRequest []
      | some _ =>
        if !answers.archiveMade then .fail .internalServerError []
        else match answers.contributorArchived, answers.replacedArchived,
            answers.manifestArchived with
          | .ok (), .ok (), .ok () =>
            if !answers.promoted then
              ⟨.ok (.internalServerError,
                { ok := false
                  message :=
                    "archive was saved but activate failed: could not promote live URDF" }),
                [.archiveUrdf uploadId]⟩
            else
              let completeness := match answers.completeness with
                | .ok warnings => warnings
                | .error error => ["URDF activated, but completeness check failed: " ++ error]
              ⟨.ok (.ok,
                { ok := true
                  message := "Activated merged URDF for upload " ++ uploadId
                  checksumSha256 := answers.checksum
                  completeness := completeness
                  restartRequired := true }),
                [.archiveUrdf uploadId, .promoteUrdf masterPath]⟩
          | .error status, _, _ => .fail status [.archiveUrdf uploadId]
          | _, .error status, _ => .fail status [.archiveUrdf uploadId]
          | _, _, .error status => .fail status [.archiveUrdf uploadId]
    | _, _ => .fail .internalServerError []

section
variable {P : Type} [FramePayload P]

/-- Activate a staged URDF. -/
def postActivate (state : AppState P) (answers : ActivateAnswers) (body : ActivateUrdfJson) :
    ManagementOutcome ActivateUrdfResultJson :=
  match validateUploadId body.uploadId with
  | .error status => .fail status []
  | .ok uploadId =>
    if state.refusesAt answers.now then
      .refuse .conflict
        { ok := false
          message := "urdf activate refused: require a known, fresh non-Active runtime state" }
    else if state.persistPending || state.persistDegraded then
      .refuse .conflict
        { ok := false
          message := "urdf activate refused while config write-behind is pending or degraded" }
    else activateUrdf uploadId answers

end

end Marengo

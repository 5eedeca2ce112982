import Marengo.Davout.Commit

/-!
# Disabled drive protocol inspection

Read-only queries to stopped drives. The only frames written are Disable, type-24 Off and the
queries themselves: firmware version, identity and parameter reads. Every reply must answer the one
query that is open or repeat what was accepted, and every status header must report Reset.
-/

namespace Marengo

variable {F : Type}

/-- Registers that are read from every inspected drive, in this order. -/
def inspectedParameters : List ParameterId :=
  [.runMode, .mechPos, .mechVel, .canTimeout, .zeroSta, .addOffset]

def inspectionQueryTimeout : Duration := millis 300
def inspectionSettleTime : Duration := millis 50
def inspectionPoll : Duration := millis 1

def defaultHostId : UInt8 := 0xFD

structure DriveProtocolInspection where
  joint : String
  address : MotorAddress
  firmware : Payload
  uid : DeviceUid
  parameters : List (ParameterId × ParameterValue)

inductive Query
  | version
  | identity
  | read (parameter : ParameterId)
deriving DecidableEq

inductive Answer
  | version (feedback : FirmwareVersionFeedback)
  | identity (uid : DeviceUid)
  | read (reply : ParameterReadReply)
  | unknownRead (reply : ParameterReadReply)
deriving DecidableEq

structure Reply where
  address : MotorAddress
  receivedAt : Instant
  canId : UInt32
  answer : Answer

def Reply.query (self : Reply) : Option Query :=
  match self.answer with
  | .version _ => some .version
  | .identity _ => some .identity
  | .read reply => reply.parameter.map .read
  | .unknownRead _ => none

/-- Two replies say the same. -/
def Reply.agreesWith (self other : Reply) : Bool :=
  self.canId = other.canId && self.answer = other.answer

structure PendingQuery where
  address : MotorAddress
  query : Query
  issued : Instant

def repliesIn (report : FeedbackReport F) : List Reply :=
  report.observations.filterMap (fun o =>
    match o.event with
    | .firmwareVersion v => some ⟨o.address, o.receivedAt, o.canId, .version v⟩
    | .status _ | .detailedFault _ | .malformed _ => none) ++
  report.identities.map (fun o => ⟨o.address, o.receivedAt, o.canId, .identity o.uid⟩) ++
  report.parameterReads.map fun o =>
    ⟨o.address, o.receivedAt, o.canId,
      if o.reply.parameter.isSome then .read o.reply else .unknownRead o.reply⟩

/-- The `Debug` form of a parameter. -/
def ParameterId.debug : ParameterId → String
  | runMode => "RunMode"
  | currentTarget => "CurrentTarget"
  | speedTarget => "SpeedTarget"
  | positionTarget => "PositionTarget"
  | limitSpeed => "LimitSpeed"
  | limitTorque => "LimitTorque"
  | positionKp => "PositionKp"
  | speedKp => "SpeedKp"
  | speedKi => "SpeedKi"
  | epScanTime => "EPScanTime"
  | canTimeout => "CanTimeout"
  | mechPos => "MechPos"
  | mechVel => "MechVel"
  | zeroSta => "ZeroSta"
  | addOffset => "AddOffset"

/-- The `Debug` form of a query. -/
def Query.debug : Query → String
  | version => "Version"
  | identity => "Identity"
  | read parameter => "Read(" ++ parameter.debug ++ ")"

def Query.call (self : Query) (address : MotorAddress) : BusCall F :=
  match self with
  | version => .getFirmwareVersion address
  | identity => .getDeviceId address
  | read parameter => .readParameter address parameter

/-- The inspected drives: the listed joints, each once, or all of them. -/
def Supervisor.inspectionTargets (self : Supervisor F) (joints : List String) :
    Except DavoutError (List (String × MotorAddress)) :=
  if joints = [] then .ok (self.motors.motors.map fun m => (m.joint, m.address))
  else joints.foldlM (fun targets joint =>
    match motorForJoint self.motors joint with
    | none => .error (.unknownJoint joint)
    | some motor =>
      if targets.any (·.1 = joint) then
        .error (.protocolInspection ("joint " ++ joint ++ " listed twice"))
      else .ok (targets ++ [(joint, motor.address)])) []

section
variable [World F] {ε : Type}

def inspectionSent (error : Option SendError) : Prog (System F) DavoutError Unit :=
  match error with
  | none => pure ()
  | some e => do
    let _ ← recordRuntimeError (.bus (.write e))
    fail (.bus (.write e))

def inspectionGroup (interface : String) : Prog (System F) ε Unit := do
  let s ← read
  let pacer ← BurstPacer.beginGroup s.inspectionPacer interface
  update fun s => { s with inspectionPacer := pacer }

/-- Disable every installed drive, group by group. -/
def inspectionStop : Prog (System F) ε (Except DavoutError Unit) := do
  beginStop
  let s ← read
  let attempts ← traverse (fun (motor : MotorEntry F) => do
    inspectionGroup motor.canInterface
    stopAttempt motor.address .disable (.disableDrive motor.address)) s.stopMotors.entries
  let report : StopReport := ⟨s.stopGeneration, attempts⟩
  when (0 < report.failedWrites) do
    revokeReference
    let _ ← recordFault .stopDelivery none none
      "one or more stop writes failed; physical stop unconfirmed" {}
  update fun s => { s with faultAuthority := s.faultAuthority.setStopReport report }
  pure (if 0 < report.failedWrites then .error (.stopDelivery report.failedWrites) else .ok ())

/-- A reply that this inspection cannot explain latches. -/
def refuseReply {α : Type} (reply : Reply) (why : String) : Prog (System F) DavoutError α := do
  let s ← read
  let joint := (s.stopMotors.entries.find? (·.address = reply.address)).elim
    (reply.address.interface ++ ":" ++ toString reply.address.deviceId.toNat) (·.joint)
  let error := DavoutError.invalidFeedback joint ("protocol inspection reply " ++
    World.showCanId F reply.canId ++ " " ++ why)
  let _ ← recordRuntimeError error
  fail error

def PendingQuery.answeredBy (pending : Option PendingQuery) (reply : Reply) : Bool :=
  (match reply.answer with
    | .version v => v.hostId = defaultHostId
    | .identity _ | .read _ | .unknownRead _ => true) &&
  pending.any fun p =>
    p.address = reply.address && some p.query = reply.query && p.issued ≤ reply.receivedAt

/-- Judge the replies of one report. The result is the answer to the open query, if it came. -/
def judgeReplies (answered : List Reply) (pending : Option PendingQuery) :
    Option Reply → List Reply → Prog (System F) DavoutError (Option Reply)
  | answer, [] => pure answer
  | answer, reply :: rest =>
    match answered.find? fun prior =>
        prior.address = reply.address && prior.query = reply.query with
    | some prior =>
      if prior.agreesWith reply then judgeReplies answered pending answer rest
      else refuseReply reply "contradicts the reply already accepted"
    | none =>
      if PendingQuery.answeredBy pending reply = false then
        refuseReply reply "answers no query of this inspection; is another CAN owner running?"
      else match answer with
        | none => judgeReplies answered pending (some reply) rest
        | some first =>
          if first.agreesWith reply then judgeReplies answered pending answer rest
          else refuseReply reply "contradicts another reply to the same query"

def inspectionDrain (context : ReceiveContext) (answered : List Reply)
    (pending : Option PendingQuery) : Prog (System F) DavoutError (Option Reply) := do
  let report ← receive
  let consumed ← consumeReportInContext report context
  match consumed.firstError with
  | some error => fail error
  | none => do
    let s ← read
    lift s.requireFaultClear
    judgeReplies answered pending none (repliesIn report)

/-- Receive for a while. When the rounds are used up the clock has passed the end. -/
def settleRounds (context : ReceiveContext) (answered : List Reply) (until_ : Instant) :
    ℕ → Prog (System F) DavoutError Unit
  | 0 => do
    let _ ← inspectionDrain context answered none
  | fuel + 1 => do
    let _ ← inspectionDrain context answered none
    let t ← now
    if until_ ≤ t then pure ()
    else do
      sleep inspectionPoll
      settleRounds context answered until_ fuel

/-- The receive window after the opening stop and after the last reply. -/
def inspectionSettle (context : ReceiveContext) (answered : List Reply) :
    Prog (System F) DavoutError Unit := do
  let t ← now
  settleRounds context answered (t + inspectionSettleTime) (World.rounds F)

/-- No reply came in time. -/
def queryTimeout (joint : String) (query : Query) : Prog (System F) DavoutError Reply :=
  fail (.protocolInspection (joint ++ ": no " ++ query.debug ++ " reply within 300 ms"))

/-- Wait for the answer to a query. When the rounds are used up the clock has passed the
deadline. -/
def queryRounds (joint : String) (pending : PendingQuery) (answered : List Reply) :
    ℕ → Prog (System F) DavoutError Reply
  | 0 => do
    let answer ← inspectionDrain .disabledInspection answered (some pending)
    match answer with
    | some reply => pure reply
    | none => queryTimeout joint pending.query
  | fuel + 1 => do
    let answer ← inspectionDrain .disabledInspection answered (some pending)
    match answer with
    | some reply => pure reply
    | none => do
      let t ← now
      if pending.issued + inspectionQueryTimeout ≤ t then queryTimeout joint pending.query
      else do
        sleep inspectionPoll
        queryRounds joint pending answered fuel

/-- One query and its answer, which joins the accepted replies. -/
def inspectionQuery (joint : String) (address : MotorAddress) (query : Query)
    (answered : List Reply) : Prog (System F) DavoutError (Answer × List Reply) := do
  inspectionGroup address.interface
  let issued ← now
  let error ← send (query.call address)
  inspectionSent error
  let reply ← queryRounds joint ⟨address, query, issued⟩ answered (World.rounds F)
  let next := answered ++ [reply]
  match reply.answer with
  | .read read =>
    if read.succeeded then pure (reply.answer, next)
    else fail (.protocolInspection (joint ++ ": " ++ query.debug ++ " returned status " ++
      toString read.status.toNat))
  | .version _ | .identity _ | .unknownRead _ => pure (reply.answer, next)

def inspectParameter (joint : String) (address : MotorAddress)
    (acc : List (ParameterId × ParameterValue) × List Reply) (parameter : ParameterId) :
    Prog (System F) DavoutError (List (ParameterId × ParameterValue) × List Reply) := do
  let (answer, answered) ← inspectionQuery joint address (.read parameter) acc.2
  match answer with
  | .read reply =>
    match reply.typedValue with
    | none => fail (.protocolInspection (joint ++ ": " ++ parameter.debug ++
        " reply has no typed value"))
    | some value => pure (acc.1 ++ [(parameter, value)], answered)
  | .version _ | .identity _ | .unknownRead _ =>
    fail (.protocolInspection (joint ++ ": " ++ parameter.debug ++ " reply is not a read"))

def inspectDrive (acc : List DriveProtocolInspection × List Reply)
    (target : String × MotorAddress) :
    Prog (System F) DavoutError (List DriveProtocolInspection × List Reply) := do
  let (version, answered) ← inspectionQuery target.1 target.2 .version acc.2
  let (uid, answered) ← inspectionQuery target.1 target.2 .identity answered
  match version, uid with
  | .version v, .identity u => do
    let (parameters, answered) ← Prog.foldl (inspectParameter target.1 target.2) ([], answered)
      inspectedParameters
    pure (acc.1 ++ [⟨target.1, target.2, v.raw, u, parameters⟩], answered)
  | _, _ => fail (.protocolInspection (target.1 ++
      ": reply kind does not match its query"))

/-- Stop, suspend reporting, settle, and inspect each target. -/
def inspectStopped (targets : List (String × MotorAddress)) :
    Prog (System F) DavoutError (List DriveProtocolInspection) := do
  let stopped ← inspectionStop
  lift stopped
  let s ← read
  each s.stopMotors.entries fun motor => do
    inspectionGroup motor.canInterface
    let error ← send (.disableActiveReporting motor.address)
    inspectionSent error
  inspectionSettle .operational []
  let r ← Prog.foldl inspectDrive ([], []) targets
  inspectionSettle .disabledInspection r.2
  pure r.1

/-- Inspect the drives of the listed joints, or all of them. A stop opens and closes the
inspection. -/
def inspectDriveProtocol (joints : List String) :
    Prog (System F) DavoutError (List DriveProtocolInspection) := do
  refuseReferenceInterference "drive protocol inspection"
  let s ← read
  lift s.requireFaultClear
  ensure (s.hardwareEstop = false) .estop
  ensure (s.mode = .disabled)
    (.protocolInspection ("requires Disabled, owner is " ++ s.mode.debug))
  let targets ← lift (s.inspectionTargets joints)
  update fun s => { s with inspectionPacer := fun _ => none }
  let result ← attempt (inspectStopped targets)
  let cleanup ← inspectionStop
  match result, cleanup with
  | result, .ok () => lift result
  | .ok _, .error cleanup => fail cleanup
  | .error error, .error cleanup => fail (.protocolInspection (World.showError F error ++
      "; final stop also failed: " ++ World.showError F cleanup))

end

end Marengo

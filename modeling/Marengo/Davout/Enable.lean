import Marengo.Davout.Poll

/-!
# Enabling a session

`enableTargets` admits a set of joints: every one needs its reference, a physical one must answer
with the identity its grant bound, and a pose known to be outside its limits latches before any
Enable. On an echoing bus the Enables themselves follow in later polls; otherwise they are written
before activation. Whatever fails on the way stops every drive.

The source's `enable_targets` takes a slice: a joint may be listed twice.
-/

namespace Marengo

variable {F : Type}

/-- A target of physical admission: its joint, address and bound identity. -/
structure IdentityTarget where
  joint : String
  address : MotorAddress
  uid : DeviceUid

/-- What is known about a target during admission: when it was last asked. -/
structure IdentityAsk extends IdentityTarget where
  asked : Option Instant

def IdentityAsk.dueAt (self : IdentityAsk) (nextRequest : Instant) : Instant :=
  self.asked.elim nextRequest fun at_ => max (at_ + identityAdmissionRetry) nextRequest

/-- The position of the target to ask now: among those due, the one asked longest ago, never-asked
ones first. -/
def nextToAsk (missing : List (ℕ × IdentityAsk)) (nextRequest now : Instant) :
    Option (ℕ × IdentityAsk) :=
  (missing.filter fun m => m.2.dueAt nextRequest ≤ now).foldl (fun best m =>
    match best with
    | none => some m
    | some b => if (m.2.asked.elim 0 (· + 1)) < (b.2.asked.elim 0 (· + 1)) then some m
        else some b) none

section
variable [World F] {ε : Type}

/-- The identities that the listed joints' grants bound. -/
def Supervisor.identityTargets (self : Supervisor F) :
    List String → Except DavoutError (List IdentityTarget)
  | [] => .ok []
  | joint :: rest =>
    match self.referenceAuthority.bindingFor joint with
    | none => .error (.homing ("joint " ++ joint ++ ": no private current-reference permission"))
    | some binding =>
      match binding.uid with
      | none => .error (.homingVerify joint "physical grant has no bound device identity")
      | some uid => do
        let more ← self.identityTargets rest
        .ok (⟨joint, binding.address, uid⟩ :: more)

/-- The targets that have not answered since `watermark`; a wrong answer revokes and fails. -/
def missingIdentities (watermark : ℕ) :
    List (ℕ × IdentityAsk) → Prog (System F) DavoutError (List (ℕ × IdentityAsk))
  | [] => pure []
  | target :: rest => do
    let s ← read
    match s.referenceOwner.physical.identityAfter target.2.address watermark with
    | some observed =>
      if observed = target.2.uid then missingIdentities watermark rest
      else do
        updateAuthority (·.revokeJoint target.2.joint)
        fail (.homingVerify target.2.joint ("device identity changed: bound " ++
          World.showUid F target.2.uid ++ ", observed " ++ World.showUid F observed))
    | none => do
      let more ← missingIdentities watermark rest
      pure (target :: more)

def placed (targets : List IdentityAsk) : List (ℕ × IdentityAsk) :=
  targets.zipIdx.map fun (t, i) => (i, t)

/-- The missing targets lose their permission. -/
def identityTimeout (missing : List (ℕ × IdentityAsk)) : Prog (System F) DavoutError Unit := do
  each missing fun m => updateAuthority (·.revokeJoint m.2.joint)
  fail (.homingVerify (",".intercalate (missing.map (·.2.joint)))
    "device identity reply missing at admission")

/-- One round of admission: ask the target that is due, or wait by polling, and go on with
`again`. -/
def identityRound (watermark : ℕ) (deadline : Instant) (targets : List IdentityAsk)
    (nextRequest : Instant) (again : List IdentityAsk → Instant → Prog (System F) DavoutError Unit) :
    Prog (System F) DavoutError Unit := do
  let missing ← missingIdentities watermark (placed targets)
  if missing = [] then pure ()
  else do
    let t ← now
    if deadline ≤ t then identityTimeout missing
    else match nextToAsk missing nextRequest t with
      | some (i, target) => do
        sendOrFail (.getDeviceId target.address)
        again (targets.modify i fun x => { x with asked := some t }) (t + identityAdmissionSpacing)
      | none => do
        let _ ← now
        syncActiveReporting
        let _ ← pollFeedback
        again targets nextRequest

/-- Ask the targets for their identities until each has answered. One request leaves per spacing, a
silent target is asked again, and what is missing at the deadline is revoked. When the rounds are
used up the clock has passed the deadline. -/
def identityRounds (watermark : ℕ) (deadline : Instant) :
    ℕ → List IdentityAsk → Instant → Prog (System F) DavoutError Unit
  | 0, targets, _ => do
    let missing ← missingIdentities watermark (placed targets)
    if missing = [] then pure () else identityTimeout missing
  | fuel + 1, targets, nextRequest =>
    identityRound watermark deadline targets nextRequest (identityRounds watermark deadline fuel)

/-- Every physical target answers with the identity that its grant bound. -/
def verifyPhysicalIdentities (joints : List String) : Prog (System F) DavoutError Unit := do
  let s ← read
  when s.referenceOwner.isPhysical do
    let targets ← lift (s.identityTargets joints)
    let start ← now
    let deadline := start + identityAdmissionTimeout +
      identityAdmissionSpacing * (2 * (targets.length - 1))
    identityRounds s.referenceOwner.physical.watermark deadline (World.rounds F)
      (targets.map fun t => ⟨t, none⟩) start

/-- A target that was moved past its hard limit while Disabled latches before any Enable. -/
def checkDisabledPosesAtEnable : List String → Prog (System F) DavoutError Unit
  | [] => pure ()
  | joint :: rest => do
    let t ← now
    let s ← read
    match (s.publishedState joint t).filter fun state =>
        state.updated.any fun at_ => t - at_ ≤ s.commWatchdog with
    | none => checkDisabledPosesAtEnable rest
    | some state =>
      match s.limits joint with
      | none => checkDisabledPosesAtEnable rest
      | some lim =>
        if measuredPositionFault state.positionRad lim then do
          update fun s => { s with outOfLimits := Function.update s.outOfLimits joint true }
          fail (.limit joint ("measured position " ++ World.showNum state.positionRad ++
            " outside [" ++ World.showNum lim.bounds.hardLower ++ ", " ++
            World.showNum lim.bounds.hardUpper ++ "] (+ slack " ++
            World.showNum lim.margin.measuredFaultSlackRad ++ ") at Enable"))
        else checkDisabledPosesAtEnable rest

def Supervisor.targetAddresses (self : Supervisor F) :
    List String → Except DavoutError (List MotorAddress)
  | [] => .ok []
  | joint :: rest =>
    match motorForJoint self.motors joint with
    | none => .error (.unknownJoint joint)
    | some motor => do
      let more ← self.targetAddresses rest
      .ok (motor.address :: more)

/-- The first writes of a session: the type-24 Offs of the enable gate, or the Enables themselves
where the bus does not echo. -/
def openSession (addresses : List MotorAddress) : Prog (System F) DavoutError Unit :=
  if World.echoes F then do
    let t ← now
    beginReportingOffGate t
    update fun s =>
      { s with
        enableEchoPending := s.enableEchoPending ++
          (addresses.filter (· ∉ s.enableEchoPending)).dedup
        enableWritesPending := addresses }
    issueTargetReportingOffs t
  else each addresses writeEnable

/-- The session is Active: nothing has been asked of its targets, and no history carries over. -/
def activate (joints : List String) : Prog (System F) ε Unit := do
  update fun s =>
    { s with
      activeJoints := joints.dedup
      unansweredSolicits := fun address =>
        if s.motors.motors.any fun m => m.joint ∈ joints ∧ m.address = address then some {}
        else none
      mode := .active }
  let activatedAt ← now
  update fun s =>
    { s with
      activeSince := some activatedAt
      enableWriteDue := none
      wrongSignState := fun _ => none
      lastTauFf := fun _ => none
      lastTick := none }
  syncActiveReporting

def startSession (joints : List String) : Prog (System F) DavoutError Unit := do
  let s ← read
  let addresses ← lift (s.targetAddresses joints)
  openSession addresses
  let _ ← pollFeedback
  ensureReferenceFor joints
  activate joints

/-- Run `x`; a failure latches what it should and stops. -/
def orStop {α : Type} (x : Prog (System F) DavoutError α) : Prog (System F) DavoutError α := do
  let r ← attempt x
  match r with
  | .ok a => pure a
  | .error error => do
    stopAfterRuntimeError error
    fail error

def enableTargetsInner (joints : List String) : Prog (System F) DavoutError Unit := do
  let s ← read
  lift s.requireFaultClear
  ensureReferenceFor joints
  orStop (verifyPhysicalIdentities joints)
  let _ ← pollFeedback
  ensureReferenceFor joints
  orStop (checkDisabledPosesAtEnable joints)
  let started ← attempt (startSession (F := F) joints)
  match started with
  | .ok () => pure ()
  | .error error => do
    rollBack error
    fail error

/-- Enable only the listed joints. While Active the same set is a success and another is
refused. -/
def enableTargets (joints : List String) : Prog (System F) DavoutError Unit := do
  let s ← read
  lift s.requireFaultClear
  lift (s.refuseDuringEpisode "enable refused")
  ensure (s.referenceWorkPending = false) (.referenceBusy "enable")
  ensure (s.hardwareEstop = false) .estop
  when (s.mode = .active) do
    let _ ← ensureReferenceForActive
    let s ← read
    lift (s.refuseDuringEpisode "enable refused")
  ensure (joints ≠ []) (.homing "enable targets empty")
  (match joints.find? fun joint => (motorForJoint s.motors joint).isNone with
    | some unknown => fail (.unknownJoint unknown)
    | none => pure ())
  ensureReferenceFor joints
  let s ← read
  if s.mode = .active then
    ensure (joints ⊆ s.activeJoints ∧ s.activeJoints ⊆ joints) .activeSetChangeRefused
  else enableTargetsInner joints

end

end Marengo

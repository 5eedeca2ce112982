import Marengo.Davout.Basics

/-!
# Observing evidence, commits and permission

Retained evidence of an acquisition is checked again each time it is looked at
(`stagedReferenceInvalidation`), and the first reason it fails for is kept for good. Commits follow
the status of their evidence. `referenceBindingValidWith` judges the reference authority itself:
policy, realm, model, and for each binding the device epoch, identity and liveness. All of these
are observations that can only revoke.
-/

namespace Marengo

variable {F : Type}

def terminalCapacity : ℕ := 8

def maxRxFramesPerPoll : ℕ := 64
def maxRxAttemptsPerPoll : ℕ := 256

section
variable [World F]

variable (self : Supervisor F)

/-- The policy that a stamp pins: validated, on the installed drives and frames, and bounded. -/
def Supervisor.referencePolicy : Except ReferenceError String := do
  (validateSafetyConfig self.motors self.control self.homingConfig).mapError
    fun e => ReferenceError.admission (.config e)
  if self.stopMotors.entries.length ≠ self.motors.motors.length ∨
      ¬(self.stopMotors.entries.zip self.motors.motors).all
        (fun p => ReferenceAuthority.routeMatches p.1 p.2) then
    .error (.invalidRequest "public mapping differs from the installed drive/frame policy")
  else (World.policyText self.motors self.control self.homingConfig).mapError .invalidRequest

/-- The pinned policy and the current one have the same encoding. -/
def TypedPolicy.matches (self : TypedPolicy F) (motors : MotorsConfig F) (control : ControlConfig F)
    (homing : HomingConfig F) : Bool :=
  match World.encodePolicy self, World.encodePolicy ⟨motors, control, homing⟩ with
  | .ok pinned, .ok current => pinned = current
  | _, _ => false

variable {ε : Type}

/-! ## The backend -/

/-- The clock that governs transaction deadlines. -/
def ReferenceBackend.now : ReferenceBackend → Prog (System F) ε Duration
  | virtual _ => consult (World.virtualNow F)
  | physical _ origin => do
    let t ← Marengo.now
    pure (t - origin)

def ReferenceBackend.matches : ReferenceBackend → Prog (System F) ε Bool
  | virtual _ => consult (World.virtualMatches F)
  | physical .. => pure true

/-- The authority's realm is the installed backend's. -/
def realmMatches (realm : Token) : Prog (System F) ε Bool := do
  let s ← read
  match s.referenceOwner.backend with
  | none => pure false
  | some backend => do
    let m ← backend.matches
    pure (backend.realm = realm && m)

/-- Coordinate epoch without liveness. -/
def currentDeviceEpoch (address : MotorAddress) : Prog (System F) ε (Option ℕ) := do
  let s ← read
  match s.referenceOwner.backend with
  | none => pure none
  | some (.virtual _) => consult (World.virtualEpoch F)
  | some (.physical ..) => pure (s.referenceOwner.physical.epoch address)

/-- Epoch of a selected grant; a physical grant also needs liveness. -/
def liveDeviceEpoch (address : MotorAddress) (window : Duration) (ownerBusy : Bool)
    (from_ : SilenceFrom) : Prog (System F) ε (Except Lapse ℕ) := do
  let s ← read
  match s.referenceOwner.backend with
  | none => pure (.error .silent)
  | some (.virtual _) => do
    let epoch ← consult (World.virtualEpoch F)
    pure (epoch.elim (.error .silent) .ok)
  | some (.physical ..) => do
    let t ← now
    pure (s.referenceOwner.physical.liveEpoch address t window ownerBusy from_)

/-! ## Retained evidence -/

/-- A later acquisition replaced this outcome. -/
def Supervisor.superseded (outcome : RetainedOutcome F) : Bool :=
  self.referenceOwner.reservation.isSome ||
    (self.referenceOwner.outcomes.getLast?.all
      fun latest => latest.terminal.handle ≠ outcome.terminal.handle) ||
    checkedSucc outcome.terminal.handle.sequence ≠ some self.referenceOwner.nextSequence

/-- The evidence is this owner's, popped for this transaction, from the installed target, in a
complete and bounded receive. -/
def Supervisor.evidenceMatches (outcome : RetainedOutcome F)
    (stage : RetainedStage F) (backend : ReferenceBackend) : Bool :=
  let evidence := stage.evidence
  let proof := evidence.proof
  outcome.terminal.cause = .evidenceStaged &&
  proof.owner = self.referenceOwner.identity && proof.owner = outcome.terminal.handle.owner &&
  proof.realm = backend.realm && proof.transaction = outcome.terminal.handle.sequence &&
  proof.address = evidence.address && proof.order = evidence.order &&
  proof.canId = evidence.canId && proof.receivedAt = evidence.receivedAt &&
  self.stopMotors.entries.any
    (fun m => m.joint = outcome.request.joint && m.address = evidence.address) &&
  outcome.terminal.receive.any
    (fun r => r.completion.isComplete && r.rawFrames ≤ maxRxFramesPerPoll &&
      r.readAttempts ≤ maxRxAttemptsPerPoll && evidence.order < r.rawFrames) &&
  isFinite evidence.positionRad

/-- The owner's state still is the one the evidence was staged under. -/
def Supervisor.stageContinues (outcome : RetainedOutcome F) (stage : RetainedStage F) : Bool :=
  (stage.physical.all fun p =>
    self.referenceOwner.physical.uid stage.evidence.address = some p.uid) &&
  self.referenceAuthority.generation = stage.referenceGeneration &&
  self.installedModel = stage.installedModel &&
  (match self.referencePolicy with
    | .ok policy => policy = outcome.request.stamp.policy
    | .error _ => false) &&
  stage.typedPolicy.matches self.motors self.control self.homingConfig &&
  self.mode = .disabled && self.controlMode = .disabled && outcome.request.confirmed &&
  ((self.homingConfig.effectiveJoint outcome.request.joint).any
    fun p => !(p.signTestRequired && !outcome.request.signVerified)) &&
  !blt self.homingConfig.zeroVerifyToleranceRad (Scalar.abs stage.evidence.positionRad)

/-- Why the evidence is not current now, if it is not. -/
def stagedReferenceInvalidation (outcome : RetainedOutcome F) (stage : RetainedStage F) :
    Prog (System F) ε (Option ReferenceStageInvalidation) := do
  let s ← read
  if 0 < outcome.terminal.stop.failedWrites then pure (some .stopUncertain)
  else if s.stopGeneration = maxU64 ∨ outcome.terminal.stop.generation = maxU64 then
    pure (some .counterExhausted)
  else if s.superseded outcome then pure (some .superseded)
  else match s.referenceOwner.backend with
    | none => pure (some .bindingChanged)
    | some backend => do
      let t ← backend.now
      if stage.overallDeadline ≤ t then pure (some .deadlineExpired)
      else if s.hasLatchedFault ∨ s.hardwareEstop then pure (some .safetyHazard)
      else if s.stopGeneration ≠ outcome.terminal.stop.generation then pure (some .stopChanged)
      else do
        let m ← backend.matches
        let epoch ← currentDeviceEpoch stage.evidence.address
        if s.evidenceMatches outcome stage backend && m &&
            epoch = some stage.evidence.proof.deviceEpoch && s.stageContinues outcome stage then
          pure none
        else pure (some .bindingChanged)

/-- Invalidate the evidence of an acquisition, unless it already is. -/
def retire (sequence : ℕ) (reason : ReferenceStageInvalidation) : Prog (System F) ε Unit :=
  update fun s =>
    { s with
      referenceOwner := { s.referenceOwner with
        invalidated := Function.update s.referenceOwner.invalidated sequence
          ((s.referenceOwner.invalidated sequence).or (some reason)) } }

/-- `retire`, for an outcome that retains evidence. -/
def RetainedOutcome.retire (self : RetainedOutcome F) (reason : ReferenceStageInvalidation) :
    Prog (System F) ε Unit :=
  when self.stage.isSome (Marengo.retire self.terminal.handle.sequence reason)

/-- Status of the evidence of an outcome; a reason found now is kept. -/
def retainedStageStatus (outcome : RetainedOutcome F) :
    Prog (System F) ε ReferenceStageStatus := do
  let s ← read
  match outcome.stage with
  | none => pure .noEvidence
  | some stage =>
    match s.referenceOwner.invalidated outcome.terminal.handle.sequence with
    | some reason => pure (.invalidated reason)
    | none => do
      let r ← stagedReferenceInvalidation outcome stage
      match r with
      | some reason => do
        retire outcome.terminal.handle.sequence reason
        pure (.invalidated reason)
      | none => pure .currentEvidence

def Supervisor.findOutcome (handle : ReferenceHandle) :
    Option (RetainedOutcome F) :=
  self.referenceOwner.outcomes.find? (·.terminal.handle = handle)

def referenceStageStatusFor (handle : ReferenceHandle) :
    Prog (System F) ε ReferenceStageStatus := do
  let s ← read
  match s.findOutcome handle with
  | none => pure .noEvidence
  | some outcome => retainedStageStatus outcome

def observeStagedReference : Prog (System F) ε ReferenceStageStatus := do
  let s ← read
  match s.referenceOwner.outcomes.getLast? with
  | none => pure .noEvidence
  | some outcome => referenceStageStatusFor outcome.terminal.handle

def invalidateRetainedStages (reason : ReferenceStageInvalidation) : Prog (System F) ε Unit := do
  let s ← read
  each s.referenceOwner.outcomes fun o => o.retire reason

/-! ## Commits -/

def setEntryPhase (handle : ReferenceCommitHandle) (phase : ReferenceCommitPhase) :
    Prog (System F) ε Unit :=
  let set := fun (e : Entry F) => if e.handle = handle then { e with phase := phase } else e
  update fun s =>
    { s with
      referenceCommits := { s.referenceCommits with
        pending := s.referenceCommits.pending.map set
        outcomes := s.referenceCommits.outcomes.map set } }

/-- A pending commit whose evidence is no longer current is invalidated. -/
def observeReferenceCommits : Prog (System F) ε Unit := do
  let s ← read
  each s.referenceCommits.entries fun e =>
    when (e.phase = .pending) do
      let status ← retainedStageStatus e.stage
      match status with
      | .invalidated reason => setEntryPhase e.handle (.invalidated reason)
      | .noEvidence | .currentEvidence => pure ()

def invalidateReferenceCommits (reason : ReferenceStageInvalidation) :
    Prog (System F) ε Unit := do
  let s ← read
  each s.referenceCommits.entries fun e => do
    e.stage.retire reason
    when (e.phase = .pending) (setEntryPhase e.handle (.invalidated reason))

/-- The reason that evidence is retired with when its commit is cancelled. -/
def ReferenceCancelReason.retirement : ReferenceCancelReason → ReferenceStageInvalidation
  | shutdown => .shutdown
  | operator | disable => .commitRetired

def cancelReferenceCommits (reason : ReferenceCancelReason) : Prog (System F) ε Unit := do
  let s ← read
  when (reason = .shutdown ∧ s.referenceCommits.journal.isSome) revokeReference
  each s.referenceCommits.entries fun e => do
    e.stage.retire reason.retirement
    when (e.phase = .pending) (setEntryPhase e.handle (.cancelled reason))

def referenceBusy : Prog (System F) ε Bool := do
  observeReferenceCommits
  reads fun s => s.acquisitionBusy || s.referenceCommits.busy

/-- Refuse an operation while the owner is busy. -/
def refuseReferenceInterference (operation : String) : Prog (System F) DavoutError Unit := do
  let busy ← referenceBusy
  ensure (busy = false) (.referenceBusy operation)

/-! ## The authority -/

/-- Whether a reference-validity check judges physical grant liveness now. -/
inductive Liveness
  | judge | defer
deriving DecidableEq

/-- Check each binding's device epoch, identity and liveness. A physical binding that fails loses
its own grant; a virtual one revokes all, and the check ends with `false`. -/
def checkBindings (liveness : Liveness) (physical : Bool) (window : Duration) (ownerBusy : Bool) :
    List ConsumedReferenceBinding → Prog (System F) ε Bool
  | [] => pure true
  | b :: rest =>
    if b.revoked then checkBindings liveness physical window ownerBusy rest
    else do
      let s ← read
      let from_ := s.silenceFrom b.joint b.address
      let judge := match liveness, from_ with
        | .judge, _ | .defer, .withheld _ => true
        | .defer, .lastFrame | .defer, .solicited _ => false
      let current : Except Lapse ℕ ←
        (if judge then liveDeviceEpoch b.address window ownerBusy from_
        else (fun e : Option ℕ => e.elim (.error .silent) .ok) <$> currentDeviceEpoch b.address)
      let identityHolds := !physical ||
        (b.uid.isSome && s.referenceOwner.physical.uid b.address = b.uid)
      if current.toOption = some b.deviceEpoch ∧ identityHolds then
        checkBindings liveness physical window ownerBusy rest
      else if physical then do
        (match current with
          | .error .silent =>
            updateAuthority fun a =>
              if identityHolds then a.revokeBindingSilent b.joint else a.revokeBinding b.joint
          | .error .owedOnUnwritten | .ok _ => updateAuthority (·.revokeBinding b.joint))
        checkBindings liveness physical window ownerBusy rest
      else do
        revokeReference
        pure false

/-- Judge the current permission. Every failure revokes what failed. -/
def referenceBindingValidWith (liveness : Liveness) : Prog (System F) ε Bool := do
  let _ ← observeStagedReference
  observeReferenceCommits
  let s ← read
  if s.hasLatchedFault ∨ s.hardwareEstop ∨
      (validateSafetyConfig s.motors s.control s.homingConfig).isOk = false then do
    revokeReference
    pure false
  else match s.referenceAuthority.realm with
    | none => pure false
    | some realm => do
      let m ← realmMatches realm
      if m = false then do
        revokeReference
        pure false
      else if s.referenceAuthority.validateConsumedModel s.installedModel = false then do
        revokeReference
        pure false
      else do
        let ownerBusy := s.acquisitionBusy || s.referenceCommits.busy ||
          s.referenceOwner.pendingCommit.isSome
        let held ← checkBindings liveness s.referenceOwner.isPhysical s.commWatchdog ownerBusy
          s.referenceAuthority.consumed
        if held = false then pure false
        else do
          let s ← read
          let r := s.referenceAuthority.validateBinding s.motors s.homingConfig s.control
          updateAuthority fun _ => r.2
          pure r.1

/-- Judge the current permission, liveness included. -/
def referenceBindingValid : Prog (System F) ε Bool := referenceBindingValidWith .judge

end

end Marengo

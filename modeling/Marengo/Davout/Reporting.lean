import Marengo.Davout.ReferenceBinding

/-!
# Active reporting (type-24) and the sensing writes of a session that is not Active

A joint's stream is desired On when no session is Active and global diagnostics or a live lease ask
for it. `ActiveReportingState` tracks what was last applied, so that a failed write is retried on
the next synchronisation. A drive that may be in its post-SetZero blackout is held, and a shed drive
gets no type-24 write ever again. `releaseReportingForExit` turns every stream Off for good.
-/

namespace Marengo

variable {F : Type}

/-- Healthy re-enable interval. -/
def activeReportingHeartbeat : Duration := seconds 1

/-- Minimum spacing of type-24 writes on one interface. -/
def activeReportingWriteSpacing : Duration := millis 5

/-- Feedback older than this means that the drive dropped its stream. -/
def activeReportingFeedbackStale : Duration := millis 200

def maxLeaseIdLen : ℕ := 64
def maxClientIdLen : ℕ := 64
def maxLeasesPerJoint : ℕ := 8

/-- Why a lease operation was refused. -/
inductive ActiveReportingLeaseError
  | unknownJoint (joint : String)
  | invalidLeaseId
  | invalidClientId
  | invalidTtl
  | tooManyLeases (joint : String)
  | missingLease (joint leaseId : String)
deriving DecidableEq

/-- One type-24 Off of a suspension and its own result. -/
structure ReportingSuspendAttempt where
  joint : String
  address : MotorAddress
  error : Option SendError

/-- What became of one drive's type-24 Off at exit. -/
inductive ExitReportingOff
  | sent
  | failed (message : String)
  | shed
  | blackout
deriving DecidableEq

/-- `str::trim`. -/
def trim (s : String) : String :=
  .ofList ((s.toList.dropWhile isWhitespace).reverse.dropWhile isWhitespace).reverse

/-- The client and lease identifiers are non-empty and bounded. -/
def validateIds (clientId leaseId : String) : Except ActiveReportingLeaseError Unit :=
  if trim clientId = "" ∨ maxClientIdLen < (trim clientId).utf8ByteSize then .error .invalidClientId
  else if trim leaseId = "" ∨ maxLeaseIdLen < (trim leaseId).utf8ByteSize then
    .error .invalidLeaseId
  else .ok ()

def ensureKnownJoint (joint : String) (knownJoints : MotorsConfig F) :
    Except ActiveReportingLeaseError Unit :=
  if knownJoints.motors.any (·.joint = joint) then .ok () else .error (.unknownJoint joint)

namespace ActiveReportingState

variable (self : ActiveReportingState)

/-- A type-24 Off of the joint went out. -/
def recordOff (joint : String) (now : Instant) : ActiveReportingState :=
  { self with
    applied := Function.update self.applied joint false
    lastEnableTx := Function.update self.lastEnableTx joint none
    offWrittenAt := Function.update self.offWrittenAt joint (some now) }

/-- A type-24 On of the joint went out. -/
def recordOn (joint : String) (now : Instant) : ActiveReportingState :=
  { self with
    applied := Function.update self.applied joint true
    lastEnableTx := Function.update self.lastEnableTx joint (some now)
    offWrittenAt := Function.update self.offWrittenAt joint none }

/-- The interface's previous type-24 write is a spacing old. -/
def slotFree (interface : String) (now : Instant) : Bool :=
  (self.lastWriteByInterface interface).all fun last => activeReportingWriteSpacing ≤ now - last

/-- Some lease of the joint has not expired. -/
def hasLiveLease (joint : String) (now : Instant) : Bool :=
  (self.leases joint).any fun l => now < l.2.expires

def desired (joint : String) (modeActive globalDiagnostics : Bool) (now : Instant) : Bool :=
  !modeActive && (globalDiagnostics || self.hasLiveLease joint now)

def expireStale (now : Instant) : ActiveReportingState :=
  { self with leases := fun joint => (self.leases joint).filter fun l => now < l.2.expires }

def acquire (joint clientId leaseId : String) (ttl : Duration) (now : Instant)
    (knownJoints : MotorsConfig F) : Except ActiveReportingLeaseError ActiveReportingState := do
  validateIds clientId leaseId
  match checkedAdd now ttl with
  | none => .error .invalidTtl
  | some expires => do
    ensureKnownJoint joint knownJoints
    let id := trim leaseId
    let others := (self.leases joint).filter (·.1 ≠ id)
    if others.length = (self.leases joint).length ∧
        maxLeasesPerJoint ≤ (self.leases joint).length then .error (.tooManyLeases joint)
    else
      let leases := others ++ [(id, (⟨trim clientId, expires⟩ : LeaseEntry))]
      .ok { self with leases := Function.update self.leases joint leases }

def renew (joint clientId leaseId : String) (ttl : Duration) (now : Instant)
    (knownJoints : MotorsConfig F) : Except ActiveReportingLeaseError ActiveReportingState := do
  validateIds clientId leaseId
  match checkedAdd now ttl with
  | none => .error .invalidTtl
  | some expires => do
    ensureKnownJoint joint knownJoints
    let id := trim leaseId
    if (self.leases joint).any (·.1 = id) then
      let leases := (self.leases joint).map fun l =>
        if l.1 = id then (id, ⟨trim clientId, expires⟩) else l
      .ok { self with leases := Function.update self.leases joint leases }
    else .error (.missingLease joint id)

/-- Release a lease; one that is gone is released already. -/
def release (joint leaseId : String) (knownJoints : MotorsConfig F) :
    Except ActiveReportingLeaseError ActiveReportingState := do
  if trim leaseId = "" ∨ maxLeaseIdLen < (trim leaseId).utf8ByteSize then .error .invalidLeaseId
  else do
    ensureKnownJoint joint knownJoints
    .ok { self with
      leases := Function.update self.leases joint
        ((self.leases joint).filter (·.1 ≠ trim leaseId)) }

/-- The configured motor, by index, whose healthy stream is due for a heartbeat On: round robin
from the cursor. -/
def heartbeatMotor (motors : List (MotorEntry F)) (modeActive globalDiagnostics : Bool)
    (now : Instant) (lastFeedbackRx : String → Option Instant) (held : List String) : Option ℕ :=
  let count := motors.length
  let due := fun (m : MotorEntry F) =>
    !held.contains m.joint && self.desired m.joint modeActive globalDiagnostics now &&
    self.applied m.joint &&
    (lastFeedbackRx m.joint).any (fun last => now - last < activeReportingFeedbackStale) &&
    (self.lastEnableTx m.joint).all fun last => activeReportingHeartbeat ≤ now - last
  if self.lastHeartbeatAttempt.all (fun last => activeReportingWriteSpacing ≤ now - last) then
    ((List.range count).map fun offset => (self.heartbeatCursor % count + offset) % count).find?
      fun i => motors[i]?.any due
  else none

/-- The joint's stream is applied On but no longer heard. -/
def feedbackStale (joint : String) (now : Instant) (lastFeedbackRx : String → Option Instant) :
    Bool :=
  self.applied joint &&
    match lastFeedbackRx joint with
    | some t => activeReportingFeedbackStale ≤ now - t
    | none => (self.lastEnableTx joint).any fun t => activeReportingFeedbackStale ≤ now - t

structure Due (F : Type) where
  index : ℕ
  motor : MotorEntry F
  want : Bool
  refreshOnly : Bool

/-- The writes that are due, transitions before healthy refreshes, each class in configured
order. -/
def due (motors : List (MotorEntry F)) (modeActive globalDiagnostics : Bool) (now : Instant)
    (lastFeedbackRx : String → Option Instant) (held : List String) : List (Due F) :=
  let heartbeat := self.heartbeatMotor motors modeActive globalDiagnostics now lastFeedbackRx held
  let all := motors.zipIdx.filterMap fun (motor, index) =>
    let want := self.desired motor.joint modeActive globalDiagnostics now
    let have_ := self.applied motor.joint
    let stale := self.feedbackStale motor.joint now lastFeedbackRx
    let needEnable := want && (!have_ || heartbeat = some index || stale)
    let needDisable := !want && have_
    if needEnable || needDisable then some (⟨index, motor, want, want && have_ && !stale⟩ : Due F)
    else none
  all.filter (!·.refreshOnly) ++ all.filter (·.refreshOnly)

/-- The bookkeeping of a write that is about to go out. -/
def beginWrite (d : Due F) (count : ℕ) (now : Instant) : ActiveReportingState :=
  { self with
    lastWriteByInterface :=
      Function.update self.lastWriteByInterface d.motor.canInterface (some now)
    lastHeartbeatAttempt := if d.refreshOnly then some now else self.lastHeartbeatAttempt
    heartbeatCursor := if d.refreshOnly then (d.index + 1) % count else self.heartbeatCursor }

end ActiveReportingState

section
variable [World F] {ε : Type}

/-- `map_lease_error`. -/
def mapLeaseError : ActiveReportingLeaseError → DavoutError
  | .unknownJoint joint => .unknownJoint joint
  | .invalidLeaseId => .homing "active reporting lease: InvalidLeaseId"
  | .invalidClientId => .homing "active reporting lease: InvalidClientId"
  | .invalidTtl => .homing "active reporting lease: InvalidTtl"
  | .tooManyLeases joint =>
    .homing ("active reporting lease: TooManyLeases \x7b joint: " ++ World.showQuoted F joint ++
      " \x7d")
  | .missingLease joint leaseId =>
    .homing ("active reporting lease: MissingLease \x7b joint: " ++ World.showQuoted F joint ++
      ", lease_id: " ++ World.showQuoted F leaseId ++ " \x7d")

def updateReporting (f : ActiveReportingState → ActiveReportingState) : Prog (System F) ε Unit :=
  update fun s => { s with activeReporting := f s.activeReporting }

def sendOff (motor : MotorEntry F) (now : Instant) : Prog (System F) ε (Option SendError) := do
  let error ← send (.disableActiveReporting motor.address)
  when (error = none) (updateReporting (·.recordOff motor.joint now))
  pure error

/-- Turn Off the applied streams, apart from those `leaveOn` keeps, and that of `unrecorded`
whatever was applied. -/
def suspend (installedMotors : List (MotorEntry F)) (unrecorded : Option MotorAddress)
    (leaveOn : MotorAddress → Bool) (pacer : Option BurstPacer) (now : Instant) :
    Prog (System F) ε (List ReportingSuspendAttempt × Option BurstPacer) :=
  Prog.foldl (fun (attempts, pacer) motor => do
    let s ← read
    if unrecorded ≠ some motor.address ∧
        (s.activeReporting.applied motor.joint = false ∨ leaveOn motor.address) then
      pure (attempts, pacer)
    else do
      let pacer ← beginGroupOf pacer motor.canInterface
      let error ← sendOff motor now
      pure (attempts ++ [⟨motor.joint, motor.address, error⟩], pacer))
    ([], pacer) installedMotors

/-- A spaced type-24 Off; `none` when its slot is not free. -/
def writeOff (motor : MotorEntry F) (now : Instant) (force : Bool) :
    Prog (System F) ε (Option (Option SendError)) := do
  let s ← read
  if force = false ∧ s.activeReporting.slotFree motor.canInterface now = false then pure none
  else do
    updateReporting fun r =>
      { r with
        lastWriteByInterface :=
          Function.update r.lastWriteByInterface motor.canInterface (some now) }
    let error ← sendOff motor now
    pure (some error)

/-- Write what is due, on interfaces whose slot is free. The result is the joints whose On is held
back. -/
def syncHolding (motors : List (MotorEntry F)) (modeActive globalDiagnostics : Bool)
    (now : Instant) (lastFeedbackRx : String → Option Instant) (held : List String) :
    Prog (System F) ε (List String) := do
  updateReporting (·.expireStale now)
  let s ← read
  Prog.foldl (fun deferred (d : ActiveReportingState.Due F) => do
    let s ← read
    if held.contains d.motor.joint then
      pure (if d.want && !s.activeReporting.applied d.motor.joint then deferred ++ [d.motor.joint]
        else deferred)
    else if s.activeReporting.slotFree d.motor.canInterface now = false then pure deferred
    else do
      updateReporting (·.beginWrite d motors.length now)
      (if d.want then do
        let error ← send (.enableActiveReporting d.motor.address)
        when (error = none) (updateReporting (·.recordOn d.motor.joint now))
      else do
        let _ ← sendOff d.motor now)
      pure deferred)
    []
    (s.activeReporting.due motors modeActive globalDiagnostics now lastFeedbackRx held)

/-- What became of an owed type-24 On. -/
def Supervisor.owedOnFate (self : Supervisor F) (modeActive globalDiagnostics : Bool)
    (now : Instant) (address : MotorAddress) : OwedOn :=
  match self.motorAt address with
  | none => .released
  | some motor =>
    if self.activeReporting.applied motor.joint then
      .written ((self.activeReporting.lastEnableTx motor.joint).getD now)
    else if self.activeReporting.desired motor.joint modeActive globalDiagnostics now then .owed
    else .released

/-- The joints whose type-24 writes are held at `now`: a possible blackout, or shed. -/
def Supervisor.heldReporting (self : Supervisor F) (now : Instant) : List String :=
  ((self.motors.motors.filter fun m => self.setZeroBlackoutPossible m.address now) ++
    self.motors.motors.filter fun m => self.driveLoss.isShed m.address).map (·.joint)

/-- Synchronise every joint's stream with what is desired. -/
def syncActiveReporting : Prog (System F) ε Unit := do
  let busy ← referenceBusy
  let s ← read
  when (busy = false ∧ s.exitReportingReleased = false) do
    let modeActive := decide (s.mode = .active)
    let globalDiagnostics := s.control.activeReportingDiagnostics
    let t ← now
    let deferred ← syncHolding s.motors.motors modeActive globalDiagnostics t s.lastFeedbackRx
      (s.heldReporting t)
    each deferred fun joint =>
      update fun s =>
        match motorForJoint s.motors joint with
        | none => s
        | some motor =>
          if s.driveLoss.isShed motor.address then s
          else match s.setZeroQuietUntil motor.address with
            | none => s
            | some until_ =>
              { s with
                referenceOwner := { s.referenceOwner with
                  physical := s.referenceOwner.physical.oweReportingOn motor.address until_ } }
    let s ← read
    updatePhysical (·.settleOwedReportingOns (s.owedOnFate modeActive globalDiagnostics t))

/-- One Disable for each drive whose stream is not desired, so that it replies with its status. -/
def solicitStatusFeedback : Prog (System F) DavoutError Unit := do
  let busy ← referenceBusy
  let s ← read
  when (busy = false ∧ s.mode ≠ .active) do
    let t ← now
    let targets := s.motors.motors.filter fun m =>
      !s.activeReporting.desired m.joint false s.control.activeReportingDiagnostics t
    let _ ← Prog.foldl (fun pacer (motor : MotorEntry F) => do
      let pacer ← beginGroupOf pacer motor.canInterface
      let _ ← send (.disableDrive motor.address)
      pure pacer) (if World.echoes F then some (fun _ => none) else none) targets

/-- One undecided drive of an exit round: nothing is written to a shed drive, and a drive in a
possible blackout waits. -/
def exitOff (now : Instant) (motor : MotorEntry F) : Prog (System F) ε (Option ExitReportingOff) :=
  do
  let s ← read
  if s.driveLoss.isShed motor.address then pure (some .shed)
  else if s.setZeroBlackoutPossible motor.address now then pure none
  else do
    let error ← sendOff motor now
    pure (some (error.elim .sent fun e => .failed (boundedMessage (World.showSend F e))))

/-- The drives of an exit, each with its outcome once decided. -/
abbrev ExitDrives (F : Type) := List (MotorEntry F × Option ExitReportingOff)

/-- The earliest end of a quiet that an undecided drive waits for. -/
def Supervisor.nextQuietEnd (self : Supervisor F) (now : Instant) (drives : ExitDrives F) :
    Option Instant :=
  ((drives.filter (·.2.isNone)).map fun d => (self.setZeroQuietUntil d.1.address).getD now).min?

/-- Rounds over the undecided drives, as long as a quiet ends before the deadline. Each round
decides at least the drive that the previous one slept for, so one round more than there are drives
is enough. -/
def exitRounds (deadline : Instant) : ℕ → ExitDrives F → Prog (System F) ε (ExitDrives F)
  | 0, drives => pure drives
  | fuel + 1, drives => do
    let t ← now
    let drives ← traverse (fun (d : MotorEntry F × Option ExitReportingOff) =>
      match d.2 with
      | some _ => pure d
      | none => (fun o => (d.1, o)) <$> exitOff t d.1) drives
    let s ← read
    match s.nextQuietEnd t drives with
    | none => pure drives
    | some quietEnd =>
      if quietEnd ≤ deadline then do
        let t ← now
        sleep (quietEnd - t)
        exitRounds deadline fuel drives
      else pure drives

/-- Process exit: a type-24 Off to every installed drive, and no On again. -/
def releaseReportingForExit (deadline : Instant) :
    Prog (System F) ε (List (MotorAddress × ExitReportingOff)) := do
  update fun s => { s with exitReportingReleased := true }
  let s ← read
  let drives ← exitRounds deadline (s.stopMotors.entries.length + 1)
    (s.stopMotors.entries.map fun m => (m, none))
  pure (drives.map fun d => (d.1.address, d.2.getD .blackout))

/-- A lease operation, then a synchronisation. -/
def changeLeases (f : System F → Except ActiveReportingLeaseError ActiveReportingState) :
    Prog (System F) DavoutError Unit := do
  let s ← read
  match f s with
  | .error e => fail (mapLeaseError (F := F) e)
  | .ok r => do
    updateReporting fun _ => r
    syncActiveReporting

def acquireActiveReportingLease (joint clientId leaseId : String) (ttl : Duration) :
    Prog (System F) DavoutError Unit := do
  let t ← now
  changeLeases fun s => s.activeReporting.acquire joint clientId leaseId ttl t s.motors

def renewActiveReportingLease (joint clientId leaseId : String) (ttl : Duration) :
    Prog (System F) DavoutError Unit := do
  let t ← now
  changeLeases fun s => s.activeReporting.renew joint clientId leaseId ttl t s.motors

def releaseActiveReportingLease (joint leaseId : String) : Prog (System F) DavoutError Unit :=
  changeLeases fun s => s.activeReporting.release joint leaseId s.motors

end

end Marengo

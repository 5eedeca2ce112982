import Marengo.Davout.World

/-!
# Views of the supervisor

Functions that only read the supervisor: admission gates, the enable gates of an echoing bus
(post-SetZero quiet, settled type-24 Off, catch-up), the liveness bookkeeping of an Active session
and the freshness of a pose. Where the source reads the clock inside such a function, the reading
is an argument here. The recording of faults closes the module.
-/

namespace Marengo

variable {F : Type}

/-- Samples older than this are not published outside an Active session. -/
def freeDriveFeedbackTtl : Duration := seconds 5

/-- Minimum time from a SetZero on the wire to the next Enable of the same address. -/
def postSetZeroQuiet : Duration := millis 800

/-- Earliest a drive's post-SetZero blackout can begin. -/
def postSetZeroBlackoutFrom : Duration := millis 450

namespace Supervisor

variable (self : Supervisor F)

def hasLatchedFault : Bool := self.faultAuthority.isLatched

def stopGeneration : ℕ := self.faultAuthority.stopGeneration

def requireFaultClear : Except DavoutError Unit :=
  match self.faultAuthority.firstFault with
  | some f => .error (.faultLatched f.id f.fault f.joint f.message)
  | none => .ok ()

/-- Refuse an operation while a degraded episode runs. -/
def refuseDuringEpisode (message : String) : Except DavoutError Unit :=
  match self.driveLoss.episode with
  | some e => .error (.degradedEpisode e.lostJoint message)
  | none => .ok ()

variable (address : MotorAddress)

def motorAt : Option (MotorEntry F) :=
  self.motors.motors.find? (·.address = address)

def installedMotor (joint : String) : Option (MotorEntry F) :=
  self.stopMotors.entries.find? (·.joint = joint)

def loopPeriod : Duration := 1000000 / max self.control.loopHz 1 * 1000

def commWatchdog : Duration := millis self.control.commWatchdogMs

/-! ## Enable gates of an echoing bus -/

/-- When the address's post-SetZero quiet ends, if a SetZero was recorded. -/
def setZeroQuietUntil : Option Instant :=
  (self.setZeroOnWire address).map (· + postSetZeroQuiet)

/-- No SetZero to the address within the quiet before `now`. -/
def setZeroQuietElapsed (now : Instant) : Bool :=
  (self.setZeroQuietUntil address).all (· ≤ now)

/-- The address may be inside its post-SetZero blackout. -/
def setZeroBlackoutPossible (now : Instant) : Bool :=
  (self.setZeroOnWire address).any fun at_ =>
    postSetZeroBlackoutFrom ≤ now - at_ && now - at_ < postSetZeroQuiet

/-- When this gate window last wrote the joint's type-24 Off. -/
def reportingOffWritten (joint : String) : Option Instant :=
  self.reportingOffSince.bind fun since =>
    (self.activeReporting.offWrittenAt joint).filter (since ≤ ·)

/-- The echo of the address's type-24 Off written in this gate window was read at least one control
period before `now`. -/
def reportingOffSettled (now : Instant) : Bool :=
  match self.motorAt address with
  | none => false
  | some motor =>
    match self.reportingOffWritten motor.joint with
    | none => false
    | some written => (self.reportingOffEchoed address).any fun echoed =>
        written ≤ echoed && self.loopPeriod ≤ now - echoed

/-- Start of the address's enable bounds: activation, or the end of its post-SetZero quiet when
later. -/
def enableBoundsStart : Option Instant :=
  self.activeSince.map fun since => ((self.setZeroQuietUntil address).elim since (max since ·))

/-- Half of the watchdog window past the address's enable bounds start. -/
def enableCatchUp (now : Instant) : Bool :=
  (self.enableBoundsStart address).any fun start => self.commWatchdog / 2 ≤ now - start

/-! ## Liveness and pose -/

/-- Write instant of the earliest unanswered host frame of the address. -/
def unansweredSolicit : Option Instant :=
  (self.unansweredSolicits address).bind (·.earliest)

/-- Where grant liveness counts the joint's silence from. -/
def silenceFrom (joint : String) (address : MotorAddress) : SilenceFrom :=
  if self.mode ≠ .active ∨ joint ∉ self.activeJoints then .lastFrame
  else
    match if address ∈ self.enableEchoPending then self.enableBoundsStart address else none with
    | some since => .withheld since
    | none => .solicited (self.unansweredSolicit address)

/-- The pose was received after activation, and every host frame the drive answers was answered or
is younger than the watchdog. -/
def poseIsCurrent (state : MotorState F) (now : Instant) : Bool :=
  match state.updated, self.activeSince with
  | some receivedAt, some activeSince =>
    activeSince < receivedAt && receivedAt ≤ now &&
      (self.unansweredSolicit address).all fun solicited => now - solicited ≤ self.commWatchdog
  | _, _ => false

/-- Every joint of the Active set holds its reference permission. -/
def activeReferencesHeld : Bool := self.activeJoints.all self.referenceAuthority.contains

/-- The state of a joint that may be published at `now`. -/
def publishedState (joint : String) (now : Instant) : Option (MotorState F) := do
  let motor ← motorForJoint self.motors joint
  let state ← self.motorStates motor.address
  let updated ← state.updated
  if self.invalidFeedback motor.address || self.driveLoss.isShed motor.address then none
  else if self.mode = .active then
    if self.poseIsCurrent motor.address state now then some state else none
  else if freeDriveFeedbackTtl < now - updated then none
  else some state

def requireActiveJoint (joint : String) : Except DavoutError Unit := do
  self.requireFaultClear
  if self.mode ≠ .active then .error (.notActive self.mode)
  else if joint ∉ self.activeJoints then .error (.inactiveJoint joint)
  else .ok ()

def acquisitionBusy : Bool := self.referenceOwner.reservation.isSome

def referenceWorkPending : Bool :=
  self.acquisitionBusy || !self.referenceCommits.pending.isEmpty ||
    self.referenceOwner.pendingCommit.isSome

end Supervisor

def CommitOwner.busy (self : CommitOwner F) : Bool := self.pending.any (·.phase = .pending)

/-- A completed durable commit may select current permission. -/
def CommitOwner.selectsCurrent (self : CommitOwner F) : Bool :=
  self.journal.isSome && self.selection ≠ .historyOnly

def CommitOwner.entries (self : CommitOwner F) : List (Entry F) := self.pending ++ self.outcomes

section
variable [World F] {ε : Type}

/-- Record a fault; `true` only for the first transition into the latched state. -/
def recordFault (cls : FaultClass) (joint : Option String) (address : Option MotorAddress)
    (message : String) (device : DeviceFaultEvidence) : Prog (System F) ε Bool := do
  let t ← now
  let s ← read
  let r := s.faultAuthority.record t cls joint address message device
  update fun s => { s with faultAuthority := r.2 }
  pure r.1

def recordReceiveFault (cls : FaultClass) (joint : Option String) (address : Option MotorAddress)
    (message : String) (device : DeviceFaultEvidence) (receive : ReceiveFaultEvidence) :
    Prog (System F) ε Bool := do
  let t ← now
  let s ← read
  let r := s.faultAuthority.recordReceive t cls joint address message device receive
  update fun s => { s with faultAuthority := r.2 }
  pure r.1

def recordWarning (joint : String) (address : MotorAddress) (bytes : Word) :
    Prog (System F) ε Unit := do
  let t ← now
  update fun s =>
    { s with faultAuthority := s.faultAuthority.recordWarning t joint address bytes }

def updateAuthority (f : ReferenceAuthority F → ReferenceAuthority F) : Prog (System F) ε Unit :=
  update fun s => { s with referenceAuthority := f s.referenceAuthority }

def revokeReference : Prog (System F) ε Unit := updateAuthority (·.revoke)

def updatePhysical (f : PhysicalDevices F → PhysicalDevices F) : Prog (System F) ε Unit :=
  update fun s =>
    { s with referenceOwner := { s.referenceOwner with physical := f s.referenceOwner.physical } }

/-- Owner reference work happened now; only physical devices keep track of it. -/
def markOwnerWork : Prog (System F) ε Unit := do
  let s ← read
  when s.referenceOwner.isPhysical do
    let t ← now
    updatePhysical (·.markOwnerWork t)

/-- Another frame that an Active target answers went out at `writtenAt`. -/
def noteSolicit (address : MotorAddress) (writtenAt : Instant) : Prog (System F) ε Unit :=
  update fun s =>
    if s.mode = .active then
      { s with
        unansweredSolicits := Function.update s.unansweredSolicits address
          (some (((s.unansweredSolicits address).getD {}).noteAsked writtenAt)) }
    else s

/-- A SetZero to the address at `at_`; the latest wins. -/
def noteSetZero (address : MotorAddress) (at_ : Instant) : Prog (System F) ε Unit :=
  update fun s =>
    { s with
      setZeroOnWire := Function.update s.setZeroOnWire address
        (some (laterThan (s.setZeroOnWire address) at_)) }

/-- Fail with the error of a write, if it failed. -/
def failOn : Option SendError → Prog (System F) DavoutError Unit
  | none => pure ()
  | some e => fail (.bus (.write e))

/-- Hand a call to the bus; a failed write fails the program. -/
def sendOrFail (call : BusCall F) : Prog (System F) DavoutError Unit := do
  let error ← send call
  failOn error

/-- Group starts of a burst, per interface. -/
abbrev BurstPacer := String → Option Instant

def BurstPacer.recordGroup (self : BurstPacer) (interface : String) :
    Prog (System F) ε BurstPacer := do
  let t ← now
  pure (Function.update self interface (some t))

/-- Wait until the interface's previous group is a spacing old, then start a new one. -/
def BurstPacer.beginGroup (self : BurstPacer) (interface : String) :
    Prog (System F) ε BurstPacer := do
  (match self interface with
    | none => pure ()
    | some last => do
      let t ← now
      sleep (burstGroupSpacing - (t - last)))
  self.recordGroup interface

/-- `BurstPacer.beginGroup`, for a burst that may not be paced. -/
def beginGroupOf (pacer : Option BurstPacer) (interface : String) :
    Prog (System F) ε (Option BurstPacer) :=
  match pacer with
  | none => pure none
  | some p => some <$> p.beginGroup interface

def updateSessionPacer (f : BurstPacer → Prog (System F) ε BurstPacer) :
    Prog (System F) ε Unit := do
  let s ← read
  let pacer ← f s.sessionPacer
  update fun s => { s with sessionPacer := pacer }

end

end Marengo

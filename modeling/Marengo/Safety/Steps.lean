import Marengo.Lib.Effects
import Marengo.Davout.Operations
import Marengo.Safety.Authority

/-!
# The supervisor as a transition system

Every program of the supervisor is a sequence of the steps below. A step is labelled by its
`Effect`, says what it changes and what it leaves alone, and carries the guard that the code has
checked when it takes the step: what may be handed to the bus, and in which state. Properties of
whole runs are proved here, over the steps, and hold for the programs because each program is shown
to be a run (`Prog.Within`).
-/

namespace Marengo

variable {F : Type}

/-! ## What later states keep -/

/-- What no later occurrence of a fault changes in its record. -/
def FaultRecord.key (r : FaultRecord) :
    ℕ × FaultClass × Option String × Option MotorAddress × Instant :=
  (r.id, r.fault, r.joint, r.address, r.firstSeen)

/-- The records of `a` are the first records of `a'`: nothing is cleared, replaced or reordered. -/
def FaultAuthority.Extends (a a' : FaultAuthority) : Prop :=
  a.faults.map FaultRecord.key <+: a'.faults.map FaultRecord.key

/-- What identifies a reservation. -/
def Reservation.key (r : Reservation F) : ReferenceRequest × ReferenceHandle × MotorAddress :=
  (r.request, r.handle, r.address)

/-- A reservation apart from its sticky mismatch flag. -/
def Reservation.settled (r : Reservation F) : Reservation F := { r with bindingInvalidated := false }

/-- The owner's acquisitions are untouched; evidence that was invalidated stays so. -/
structure ReferenceOwner.Keeps (o o' : ReferenceOwner F) : Prop where
  identity : o'.identity = o.identity := by rfl
  backend : o'.backend = o.backend := by rfl
  nextSequence : o'.nextSequence = o.nextSequence := by rfl
  outcomes : o'.outcomes = o.outcomes := by rfl
  reservation : o'.reservation.map Reservation.settled = o.reservation.map Reservation.settled := by
    rfl
  invalidated : ∀ q r, o.invalidated q = some r → o'.invalidated q = some r := by exact fun _ _ h => h

/-- The evidence of an outcome has been invalidated, or there is none. -/
def RetainedOutcome.Retired (invalidated : ℕ → Option ReferenceStageInvalidation)
    (o : RetainedOutcome F) : Prop :=
  o.stage = none ∨ (invalidated o.terminal.handle.sequence).isSome

/-- What identifies a commit and its evidence. -/
def Entry.key (e : Entry F) : ReferenceCommitHandle × JobIdentity × RetainedOutcome F :=
  (e.handle, e.job, e.stage)

/-- The commits are the same ones, and one leaves its phase only with retired evidence. -/
structure CommitOwner.Keeps (invalidated : ℕ → Option ReferenceStageInvalidation)
    (c c' : CommitOwner F) : Prop where
  identity : c'.identity = c.identity := by rfl
  selection : c'.selection = c.selection := by rfl
  nextSequence : c'.nextSequence = c.nextSequence := by rfl
  pending : c'.pending.map Entry.key = c.pending.map Entry.key := by rfl
  outcomes : c'.outcomes.map Entry.key = c.outcomes.map Entry.key := by rfl
  phases : ∀ e' ∈ c'.entries, (∃ e ∈ c.entries, e.key = e'.key ∧ e.phase = e'.phase) ∨
    ∃ d ∈ c.entries, d.handle = e'.handle ∧ d.stage.Retired invalidated := by
      exact fun e h => .inl ⟨e, h, rfl, rfl⟩

def Supervisor.Routes (s : Supervisor F) (joint : String) (a : MotorAddress) : Prop :=
  (motorForJoint s.motors joint).map (·.address) = some a

def ReferenceCommitPhase.Live : ReferenceCommitPhase → Prop
  | pending | complete => True
  | cancelled _ | invalidated _ => False

/-- No commit and no binding has the token. -/
def Supervisor.Unused (s : Supervisor F) (nonce : Token) : Prop :=
  (∀ e ∈ s.referenceCommits.entries, e.job.nonce ≠ nonce) ∧
    ∀ b ∈ s.referenceAuthority.consumed, b.job ≠ nonce

/-- The system without a commit whose completion was taken. -/
def System.collected (s : System F) (journal : Option (JournalState F))
    (handle : ReferenceCommitHandle) : System F :=
  { s with
    referenceCommits := { s.referenceCommits with
      journal := journal
      pending := s.referenceCommits.pending.eraseP (·.handle = handle) } }

/-! ## Calls -/

section
variable [Scalar F]

end

/-- The call asks or configures: it carries no frame that enables, disables, moves or zeroes a drive
and turns no reporting on. -/
def BusCall.Plain : BusCall F → Prop
  | readParameter _ _ | getDeviceId _ | getFirmwareVersion _ | setRunMode _ _ | speedControl _ _
  | disableActiveReporting _ => True
  | mitControlAll cmds => cmds = []
  | enableDrive _ | disableDrive _ | setZeroPosition _ | enableActiveReporting _ => False

/-- The drive's last Enable or Disable is an Enable that went out. -/
def EnableWritten (log : List (Handed F)) (a : MotorAddress) : Prop :=
  ∃ before e after, log = before ++ e :: after ∧ e.call = .enableDrive a ∧ e.error = none ∧
    ∀ e' ∈ after, e'.call ≠ .disableDrive a

/-- The call was handed to the bus while the acquisition held its reservation. -/
def Handed.For (e : Handed F) (handle : ReferenceHandle) : Prop :=
  e.sup.referenceOwner.reservation.map (·.handle) = some handle

def System.handed (s : System F) (call : BusCall F) (error : Option SendError) : System F :=
  { s with
    consulted := s.consulted + 1
    log := s.log ++ [⟨s.toSupervisor, call, error, s.time⟩] }

section
variable [World F]

/-- When a session's Enable may be handed to the bus. On an echoing bus the drive's Off has settled
and its post-SetZero quiet has elapsed, at an instant that is not later. -/
structure EnableGuard (s : System F) (a : MotorAddress) : Prop where
  clear : s.hasLatchedFault = false
  estop : s.hardwareEstop = false
  spared : a ∉ s.driveLoss.shed
  unreserved : s.referenceOwner.reservation = none
  gate : World.echoes F = true → s.mode = .active →
    ∃ t ≤ s.time, s.setZeroQuietElapsed a t = true ∧ s.reportingOffSettled a t = true

/-- When the Enable of an acquisition may be handed to the bus: it is the first one, and it goes to
the reserved drive. -/
structure ArmGuard (s : System F) (a : MotorAddress) : Prop where
  clear : s.hasLatchedFault = false
  estop : s.hardwareEstop = false
  spared : a ∉ s.driveLoss.shed
  reserved : ∃ r, s.referenceOwner.reservation = some r ∧ r.address = a ∧
    ∀ e ∈ s.log, e.For r.handle → ∀ b, e.call ≠ .enableDrive b ∧ e.call ≠ .setZeroPosition b

/-- When a SetZero may be handed to the bus: it is the first one of the acquisition, it goes to the
reserved drive, and the Enable has gone out and, on an echoing bus, come back. On an echoing bus it
is on record. -/
structure SetZeroGuard (s : System F) (a : MotorAddress) : Prop where
  clear : s.hasLatchedFault = false
  estop : s.hardwareEstop = false
  spared : a ∉ s.driveLoss.shed
  reserved : ∃ r, s.referenceOwner.reservation = some r ∧ r.address = a ∧
    (∃ e ∈ s.log, e.For r.handle ∧ e.call = .enableDrive a ∧ e.error = none) ∧
    ∀ e ∈ s.log, e.For r.handle → ∀ b, e.call ≠ .setZeroPosition b
  echoed : World.echoes F = true → a ∉ s.enableEchoPending
  recorded : World.echoes F = true → ∃ at_, s.setZeroOnWire a = some at_ ∧ s.time ≤ at_

/-- A joint command without servo, feedforward and velocity. -/
def MitJointCommand.Solicits (c : MitJointCommand F) : Prop :=
  (c.keepalive && beq c.velocityRadS (lit 0)) = true

/-- A frame of a batch belongs to an Active joint whose Enable is written, whose reference is
selected, and whose pose is current at `now`; a neutral command within the enable window may do
without the pose. -/
structure FrameGuard (s : Supervisor F) (log : List (Handed F)) (neutralBootstrap : Bool)
    (now : Instant) (w : AddressedMitCommand F) (joint : String) : Prop where
  active : joint ∈ s.activeJoints
  route : s.Routes joint w.address
  written : EnableWritten log w.address
  selected : s.referenceAuthority.contains joint = true
  pose : s.poseAdmits neutralBootstrap w.address now = true
  origin : ∃ motor out, jointToMotorCommand motor out = .ok w.command ∧
    (neutralBootstrap = true → out.Solicits)

/-- When a batch of MIT frames may be handed to the bus. -/
structure MitGuard (s : System F) (wires : List (AddressedMitCommand F)) : Prop where
  active : s.mode = .active
  clear : s.hasLatchedFault = false
  estop : s.hardwareEstop = false
  unreserved : s.referenceOwner.reservation = none
  spared : ∀ w ∈ wires, w.address ∉ s.driveLoss.shed
  frames : ∃ neutralBootstrap, ∃ now ≤ s.time, ∀ w ∈ wires, ∃ joint,
    FrameGuard s.toSupervisor s.log neutralBootstrap now w joint
  distinct : (wires.map (·.address)).Nodup

/-- What the backend answered: its clock, whether the bus is its own, and the coordinate epoch of
the drive. A virtual owner's simulator was consulted for the three of them, one after the other. -/
def ReferenceBackend.Reads (s : Supervisor F) (time : Instant) (consulted : ℕ) (a : MotorAddress)
    (clock : Duration) (own : Bool) (epoch : Option ℕ) : ReferenceBackend → Prop
  | virtual _ => ∃ i, consulted = i + 3 ∧ clock = World.virtualNow F i ∧
      own = World.virtualMatches F (i + 1) ∧ epoch = World.virtualEpoch F (i + 2)
  | physical _ origin => clock = time - origin ∧ own = true ∧
      epoch = s.referenceOwner.physical.epoch a

structure CurrentEvidence (s : Supervisor F) (time : Instant) (consulted : ℕ)
    (o : RetainedOutcome F) (stage : RetainedStage F) : Prop where
  evidence : o.stage = some stage
  valid : s.referenceOwner.invalidated o.terminal.handle.sequence = none
  delivered : o.terminal.stop.failedWrites = 0
  clear : s.hasLatchedFault = false
  estop : s.hardwareEstop = false
  latest : s.superseded o = false
  /-- No stop since the acquisition's own one. -/
  stop : s.stopGeneration = o.terminal.stop.generation ∧ s.stopGeneration ≠ maxU64
  generation : s.referenceAuthority.generation = stage.referenceGeneration
  model : s.installedModel = stage.installedModel
  policy : s.referencePolicy.toOption = some o.request.stamp.policy ∧
    stage.typedPolicy.matches s.motors s.control s.homingConfig = true
  identity : ∀ p, stage.physical = some p →
    s.referenceOwner.physical.uid stage.evidence.address = some p.uid
  disabled : s.mode = .disabled ∧ s.controlMode = .disabled
  /-- The deadline has not passed, and the coordinate epoch is the one of the evidence. -/
  backend : ∃ b, s.referenceOwner.backend = some b ∧ s.evidenceMatches o stage b = true ∧
    ∃ clock, b.Reads s time consulted stage.evidence.address clock true
        (some stage.evidence.proof.deviceEpoch) ∧ clock < stage.overallDeadline

/-- What `select_consumed` is reached with: a durable commit whose evidence is current, in this very
state. -/
structure SelectGuard (s : System F) (e : Entry F) : Prop where
  complete : e.phase = .complete
  durable : e.result.isDurable = true
  current : ∃ stage, CurrentEvidence s.toSupervisor s.time s.consulted e.stage stage

end

/-! ## Steps -/

/-- Only the clock, the tokens and the pacers move. -/
structure Ticks (s s' : System F) : Prop where
  supervisor : s'.toSupervisor = { s.toSupervisor with sessionPacer := s'.sessionPacer } := by rfl
  time : s.time ≤ s'.time := by exact Nat.le_refl _
  nextToken : s.nextToken ≤ s'.nextToken := by exact Nat.le_refl _
  log : s'.log = s.log := by rfl
  heard : s'.heard = s.heard := by rfl
  selections : s'.selections = s.selections := by rfl
  stops : s'.stops = s.stops := by rfl

/-- Bookkeeping that no session, fault, pose, call or permission depends on: physical devices,
reporting state, the journal, and the loss of permission and evidence. -/
structure Observes (s s' : System F) : Prop where
  policy : s'.toPolicy = s.toPolicy := by rfl
  session : s'.toSession = s.toSession := by rfl
  safety : s'.toSafety = s.toSafety := by rfl
  motorStates : s'.motorStates = s.motorStates := by rfl
  invalidFeedback : s'.invalidFeedback = s.invalidFeedback := by rfl
  setZeroOnWire : s'.setZeroOnWire = s.setZeroOnWire := by rfl
  history : s'.toMotionHistory = s.toMotionHistory := by rfl
  authority : s.referenceAuthority.Weakens s'.referenceAuthority := by exact .refl
  owner : s.referenceOwner.Keeps s'.referenceOwner := by exact {}
  commits : s.referenceCommits.Keeps s'.referenceOwner.invalidated s'.referenceCommits := by
    exact {}
  time : s.time ≤ s'.time := by exact Nat.le_refl _
  nextToken : s.nextToken ≤ s'.nextToken := by exact Nat.le_refl _
  log : s'.log = s.log := by rfl
  heard : s'.heard = s.heard := by rfl
  selections : s'.selections = s.selections := by rfl
  stops : s'.stops = s.stops := by rfl

/-- The report has the echo of an Enable to the drive. -/
def FeedbackReport.Echoes (report : FeedbackReport F) (a : MotorAddress) : Prop :=
  ∃ echo ∈ report.hostEchoes, echo.address = a ∧ echo.command = .enable

/-- What a report changes: poses, echoes, and what is derived from them. -/
structure Receives (s s' : System F) : Prop where
  policy : s'.toPolicy = s.toPolicy := by rfl
  session : s'.toSession = { s.toSession with
    enableEchoPending := s'.enableEchoPending
    reportingOffEchoed := s'.reportingOffEchoed
    unansweredSolicits := s'.unansweredSolicits } := by rfl
  echo : s'.enableEchoPending.Sublist s.enableEchoPending := by exact .refl _
  withheld : ∀ a ∈ s.enableEchoPending, a ∈ s.enableWritesPending → a ∈ s'.enableEchoPending := by
    exact fun _ h _ => h
  echoed : ∀ a ∈ s.enableEchoPending, a ∈ s'.enableEchoPending ∨
    ∃ h, s.heard.getLast? = some h ∧ h.report.Echoes a := by exact fun _ h => .inl h
  safety : s'.toSafety = s.toSafety := by rfl
  poses : ∀ a ∈ s.driveLoss.shed, s'.motorStates a = s.motorStates a := by exact fun _ _ => rfl
  setZeroOnWire : ∀ a t, s.setZeroOnWire a = some t → ∃ t' ≥ t, s'.setZeroOnWire a = some t' := by
    exact fun _ t h => ⟨t, Nat.le_refl _, h⟩
  authority : s'.referenceAuthority = s.referenceAuthority := by rfl
  owner : s.referenceOwner.Keeps s'.referenceOwner := by exact {}
  commits : s'.referenceCommits = s.referenceCommits := by rfl
  time : s.time ≤ s'.time := by exact Nat.le_refl _
  nextToken : s.nextToken ≤ s'.nextToken := by exact Nat.le_refl _
  log : s'.log = s.log := by rfl
  heard : s'.heard = s.heard := by rfl
  selections : s'.selections = s.selections := by rfl
  stops : s'.stops = s.stops := by rfl

/-- What a step does. -/
inductive Effect
  | tick | observe
  /-- A report comes in. -/
  | hear
  /-- A fault is recorded. -/
  | latch
  /-- A warning is recorded, or the report of a stop is kept. -/
  | mark
  | stop
  /-- Control mode, gates, solicits and limiter history of the session. -/
  | pace
  | receive
  /-- The pose of an acquisition target is dropped before its SetZero. -/
  | forget
  | write
  /-- A stop's writes to a drive that is not shed. -/
  | halt
  | disable (address : MotorAddress)
  | reportOn | enable
  /-- The Enable of an acquisition. -/
  | arm
  | setZero | mit
  /-- Mode, joints and pending Enables of the session. -/
  | session
  | estop
  | shed
  /-- The rest of the drive-loss state, and an episode's end. -/
  | episode
  /-- Reservations and outcomes of acquisitions. -/
  | acquire
  /-- The progress of a reservation. -/
  | advance
  | commit | select
  /-- Policy, model and limits are replaced. -/
  | install
deriving DecidableEq

inductive Step [World F] : Effect → System F → System F → Prop
  | tick {s s'} (h : Ticks s s') : Step .tick s s'
  | observe {s s'} (h : Observes s s') : Step .observe s s'
  | hear {s : System F} (report) : Step .hear s
      { s with heard := s.heard ++ [⟨s.toSupervisor, s.log.length, report⟩] }
  | latch {s : System F} {fa} (extends_ : s.faultAuthority.Extends fa)
      (generation : fa.stopGeneration = s.faultAuthority.stopGeneration) :
      Step .latch s { s with faultAuthority := fa }
  | mark {s : System F} {fa} (faults : fa.faults = s.faultAuthority.faults)
      (generation : fa.stopGeneration = s.faultAuthority.stopGeneration) :
      Step .mark s { s with faultAuthority := fa }
  | stop {s : System F} : Step .stop s
      { s with faultAuthority := s.faultAuthority.beginStop, stops := s.stops + 1 }
  | pace {s : System F} (controlMode due since echoed solicits history released) :
      Step .pace s { s with
        controlMode := controlMode
        enableWriteDue := due
        reportingOffSince := since
        reportingOffEchoed := echoed
        unansweredSolicits := solicits
        toMotionHistory := history
        exitReportingReleased := released }
  | receive {s s'} (h : Receives s s') : Step .receive s s'
  | forget {s : System F} (motorStates history rx frames)
      (poses : ∀ a ∈ s.driveLoss.shed, motorStates a = s.motorStates a) :
      Step .forget s { s with
        motorStates := motorStates
        toMotionHistory := history
        lastFeedbackRx := rx
        driveFrames := frames }
  | write {s : System F} {call : BusCall F} (error) (plain : call.Plain)
      (spares : ∀ a ∈ call.addresses, a ∉ s.driveLoss.shed) :
      Step .write s (s.handed call error)
  | halt {s : System F} (motor : MotorEntry F) (e₁ e₂ e₃)
      (spared : motor.address ∉ s.driveLoss.shed) :
      Step .halt s (((s.handed (.speedControl motor.address (lit 0)) e₁).handed
        (.mitControlAll [⟨motor.address, neutralMit motor⟩]) e₂).handed
        (.disableDrive motor.address) e₃)
  | disable {s : System F} (error a) :
      Step (.disable a) s (s.handed (.disableDrive a) error)
  | reportOn {s : System F} {a : MotorAddress} (error) (idle : s.mode ≠ .active)
      (spared : a ∉ s.driveLoss.shed) :
      Step .reportOn s (s.handed (.enableActiveReporting a) error)
  | enable {s : System F} {a : MotorAddress} (error) (guard : EnableGuard s a) :
      Step .enable s (s.handed (.enableDrive a) error)
  | arm {s : System F} {a : MotorAddress} (error) (guard : ArmGuard s a) :
      Step .arm s (s.handed (.enableDrive a) error)
  | setZero {s : System F} {a : MotorAddress} (error) (guard : SetZeroGuard s a) :
      Step .setZero s (s.handed (.setZeroPosition a) error)
  | mit {s : System F} {wires} (error) (guard : MitGuard s wires) :
      Step .mit s (s.handed (.mitControlAll wires) error)
  | session {s : System F} (session history rx frames)
      (pending : s.driveLoss.shed = [] ∨
        session.enableWritesPending ⊆ s.enableWritesPending)
      (echoed : s.enableWritesPending ⊆ s.enableEchoPending →
        session.enableWritesPending ⊆ session.enableEchoPending) :
      Step .session s { s with
        toSession := session
        toMotionHistory := history
        lastFeedbackRx := rx
        driveFrames := frames }
  | estop {s : System F} (asserted) : Step .estop s { s with hardwareEstop := asserted }
  | shed {s : System F} (addresses since) (unshed : s.driveLoss.shed = [])
      (settled : s.enableWritesPending = []) :
      Step .shed s { s with
        driveLoss := { s.driveLoss with
          shed := s.driveLoss.shed ++ addresses
          shedAt := some since } }
  | episode {s : System F} {driveLoss fa} (shed : driveLoss.shed = s.driveLoss.shed)
      (plans : ∀ p ∈ driveLoss.plans, p ∈ s.driveLoss.plans ∨ p.shed ≠ [])
      (extends_ : s.faultAuthority.Extends fa)
      (generation : fa.stopGeneration = s.faultAuthority.stopGeneration)
      (starts : s.driveLoss.episode = none → driveLoss.episode ≠ none →
        s.driveLoss.outcome = none ∧ s.driveLoss.shed ≠ [])
      (ends : ∀ e, s.driveLoss.episode = some e → driveLoss.episode = some e ∨
        driveLoss.episode = none ∧ ∃ r ∈ fa.faults, r.fault = .communication)
      (outcome : driveLoss.outcome = s.driveLoss.outcome ∨
        driveLoss.outcome ≠ none ∧ s.driveLoss.episode ≠ none) :
      Step .episode s { s with driveLoss := driveLoss, faultAuthority := fa }
  | reserve {s : System F} (r : Reservation F)
      (sequence : r.handle.sequence = s.referenceOwner.nextSequence) :
      Step .acquire s { s with
        referenceOwner := { s.referenceOwner with
          nextSequence := s.referenceOwner.nextSequence + 1
          reservation := some r } }
  | advance {s : System F} (f : Reservation F → Reservation F) (key : ∀ r, (f r).key = r.key) :
      Step .advance s { s with
        referenceOwner := { s.referenceOwner with
          reservation := s.referenceOwner.reservation.map f } }
  | release {s : System F} :
      Step .acquire s { s with referenceOwner := { s.referenceOwner with reservation := none } }
  | conclude {s : System F} (kept) (o : RetainedOutcome F)
      (sub : kept.Sublist s.referenceOwner.outcomes)
      (fresh : ∀ o' ∈ s.referenceOwner.outcomes,
        o'.terminal.handle.sequence < o.terminal.handle.sequence)
      (unreserved : s.referenceOwner.reservation = none)
      (latest : o.terminal.handle.sequence + 1 = s.referenceOwner.nextSequence)
      (later : ∀ e ∈ s.referenceCommits.entries,
        e.stage.terminal.handle.sequence < o.terminal.handle.sequence) :
      Step .acquire s { s with
        referenceOwner := { s.referenceOwner with outcomes := kept ++ [o] } }
  | submit {s : System F} {e : Entry F} (journal)
      (handle : e.handle.sequence = s.referenceCommits.nextSequence) (phase : e.phase = .pending)
      (known : e.job.nonce < s.nextToken) (unused : s.Unused e.job.nonce)
      (acquired : e.stage.terminal.handle.sequence < s.referenceOwner.nextSequence)
      (unreserved : s.referenceOwner.reservation = none)
      (latest : s.superseded e.stage = false) :
      Step .commit s { s with
        referenceCommits := { s.referenceCommits with
          journal := journal
          nextSequence := s.referenceCommits.nextSequence + 1
          pending := s.referenceCommits.pending ++ [e] } }
  | collect {s s' : System F} {e₀ e : Entry F} (journal)
      (mem : e₀ ∈ s.referenceCommits.pending)
      (observed : Observes (s.collected journal e₀.handle) s') (key : e.key = e₀.key)
      (phase : e.phase.Live ∨ e.stage.Retired s'.referenceOwner.invalidated) :
      Step .commit s { s' with referenceCommits := s'.referenceCommits.retain e }
  | select {s s' : System F} {e₀ e e' : Entry F} {authority} (journal reason)
      (mem : e₀ ∈ s.referenceCommits.pending)
      (ticked : Ticks (s.collected journal e₀.handle) s') (key : e.key = e₀.key)
      (retained : e'.key = e.key) (guard : SelectGuard s' e)
      (granted : authority = s'.referenceAuthority ∨
        e.stage.selectCurrent s'.referenceAuthority e.job.nonce = some authority) :
      Step .select s { s' with
        selections := s'.selections ++ [⟨s'.toSupervisor, e, s'.time, s'.consulted⟩]
        referenceAuthority := authority
        referenceOwner := { s'.referenceOwner with
          invalidated := Function.update s'.referenceOwner.invalidated
            e.stage.terminal.handle.sequence (some reason) }
        referenceCommits := s'.referenceCommits.retain e' }
  | install {s : System F} (limits urdf model motors control homing)
      (valid : motors = s.motors ∨ validateMotorsConfig motors = .ok ()) :
      Step .install s { s with
        limits := limits, urdf := urdf, installedModel := model, motors := motors
        control := control, homingConfig := homing }

/-- Sequences of steps with effects in `E`. -/
abbrev Runs [World F] (E : Effect → Prop) : System F → System F → Prop :=
  Prog.Within Step E

end Marengo

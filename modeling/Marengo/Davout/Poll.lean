import Marengo.Davout.Consume

/-!
# Polling feedback and the staggered Enables of an echoing bus

`pollFeedback` is the receive step of a session. It enforces the degraded deadline, judges the
reference permission before and after the read, issues the enable writes that are due, consumes one
report, and answers what it found: a shed for a qualifying single loss, a stop for a first fault or
a lost reference. On an echoing bus the Enables of a session are written here, one per interface and
control period, each only once its type-24 Off has settled on the wire.
-/

namespace Marengo

variable {F : Type}

/-- The next Enable wave, and the targets that stay pending: among targets whose post-SetZero quiet
has elapsed and whose Off has settled, the first of each interface once the stagger is due, and
every one past its catch-up point. -/
def Supervisor.takeEnableWave (self : Supervisor F) (now : Instant) :
    List MotorAddress × List MotorAddress :=
  let staggerDue := self.enableWriteDue.all (· ≤ now)
  self.enableWritesPending.foldl (fun (wave, pending) address =>
    if !self.setZeroQuietElapsed address now || !self.reportingOffSettled address now then
      (wave, pending ++ [address])
    else if !self.enableCatchUp address now &&
        (!staggerDue || wave.any (·.interface = address.interface)) then
      (wave, pending ++ [address])
    else (wave ++ [address], pending)) ([], [])

/-- The installed motor whose Enable has not been read back in time, if any. -/
def Supervisor.overdueEcho (self : Supervisor F) (now : Instant) : Option (MotorEntry F) :=
  if self.mode ≠ .active then none
  else self.stopMotors.entries.find? fun motor =>
    motor.address ∈ self.enableEchoPending &&
      (self.enableBoundsStart motor.address).any fun start => start + self.commWatchdog < now

section
variable [World F] {ε : Type}

/-- Open the window whose type-24 Offs can release Enables. -/
def beginReportingOffGate (now : Instant) : Prog (System F) ε Unit :=
  update fun s =>
    { s with reportingOffSince := some now, reportingOffEchoed := fun _ => none }

/-- The type-24 Off of one target whose Enable is pending, unless this window wrote it already, its
post-SetZero quiet runs, or its slot is taken. -/
def issueTargetReportingOff (now : Instant) (address : MotorAddress) :
    Prog (System F) DavoutError Unit := do
  let s ← read
  match s.motorAt address with
  | none => pure ()
  | some motor =>
    if (s.reportingOffWritten motor.joint).isSome ∨ s.setZeroQuietElapsed address now = false then
      pure ()
    else do
      let written ← writeOff motor now (s.enableCatchUp address now)
      match written with
      | none => pure ()
      | some error => do
        updateSessionPacer (·.recordGroup motor.canInterface)
        failOn error

/-- The type-24 Offs of the targets whose Enable is pending. -/
def issueTargetReportingOffs (now : Instant) : Prog (System F) DavoutError Unit := do
  let s ← read
  each s.enableWritesPending (issueTargetReportingOff now)

/-- Enable one drive and switch it to MIT. -/
def writeEnable (address : MotorAddress) : Prog (System F) DavoutError Unit := do
  let writtenAt ← now
  sendOrFail (.enableDrive address)
  sendOrFail (.setRunMode address .mit)
  noteSolicit address writtenAt

/-- The Offs, then the next Enable wave. -/
def issueDueEnableWrites (now : Instant) : Prog (System F) DavoutError Unit := do
  let s ← read
  when (s.mode = .active ∧ s.enableWritesPending ≠ [] ∧ s.activeSince.isSome) do
    issueTargetReportingOffs now
    let s ← read
    let r := s.takeEnableWave now
    update fun s => { s with enableWritesPending := r.2 }
    when (r.1 ≠ []) do
      each r.1 fun address => do
        writeEnable address
        updateSessionPacer (·.recordGroup address.interface)
      update fun s => { s with enableWriteDue := some (now + s.loopPeriod) }

/-- Fail closed when an Active address's Enable has not been read back within the watchdog. -/
def enableEchoOverdue (now : Instant) : Prog (System F) ε (Option (DavoutError × Bool)) := do
  let s ← read
  match s.overdueEcho now with
  | none => pure none
  | some motor => do
    let ms := toString s.control.commWatchdogMs
    let message :=
      if motor.address ∈ s.enableWritesPending ∧ s.reportingOffEchoed motor.address = none then
        "type-24 Off not observed on the bus within " ++ ms ++
          " ms; Enable withheld, drive state unconfirmed"
      else "Enable not observed on the bus within " ++ ms ++ " ms; drive state unconfirmed"
    let error := DavoutError.invalidFeedback motor.joint message
    let transition ← recordFault .driveState (some motor.joint) (some motor.address)
      (World.showError F error) {}
    pure (some (error, transition))

/-- Latch a runtime error and stop, unless an earlier fault has stopped already. -/
def rollBack (error : DavoutError) : Prog (System F) ε Unit := do
  let s ← read
  let _ ← recordRuntimeError error
  when (s.hasLatchedFault = false) disableAllQuietly

/-- Issue the enable writes that are due; a failed one ends the session. -/
def pollEnableWrites : Prog (System F) DavoutError Unit := do
  let t ← now
  let issued ← attempt (issueDueEnableWrites (F := F) t)
  match issued with
  | .ok () => pure ()
  | .error error => do
    rollBack error
    fail error

/-- The Active session's reference is lost: `valid` or a joint's permission is gone. -/
def Supervisor.referenceLost (self : Supervisor F) (valid : Bool) : Bool :=
  self.mode = .active && !(valid && self.activeReferencesHeld)

/-- What a poll answers after the read: a lapse that nothing else explains may be shed. The result
is whether it was, or the error of a failed shed. -/
def pollShed (eligible : Bool) : Prog (System F) ε (Except DavoutError Bool) :=
  if eligible then attempt shedForDriveLoss else pure (.ok false)

/-- Receive and consume one report, then judge the permission and the Enable echoes. -/
def pollReport (lostBefore : Bool) : Prog (System F) DavoutError ℕ := do
  let report ← receive
  let count := report.observations.length
  update fun s => { s with lastRefreshFrames := min (s.lastRefreshFrames + count) maxU64 }
  let consumption ← consumeReportInContext report .operational
  let valid ← referenceBindingValid
  let s ← read
  let lapsed := !lostBefore && s.referenceLost valid
  let t ← now
  let overdue ← enableEchoOverdue t
  let transition := consumption.firstTransition || overdue.any (·.2)
  let error := consumption.firstError.or (overdue.map (·.1))
  let shed ← pollShed (lapsed && valid && !transition && error.isNone)
  let lapsed := lapsed && shed.toOption ≠ some true
  let error := error.or (match shed with | .error e => some e | .ok _ => none)
  when transition disableAllQuietly
  let s ← read
  when ((lostBefore || lapsed) = true ∧ s.mode = .active) disableAllQuietly
  let error := if lostBefore then
      error.or (some (.homing "current reference was revoked before feedback projection"))
    else if lapsed then
      error.or (some (.homing "current reference was revoked after feedback projection"))
    else error
  match error with
  | some e => fail e
  | none => pure count

/-- One poll of an operational session. The result is the number of observations. -/
def pollFeedback : Prog (System F) DavoutError ℕ := do
  enforceDegradedDeadline
  let valid ← referenceBindingValidWith .defer
  let s ← read
  let lost := s.referenceLost valid
  let shed ← (if lost && valid then shedForDriveLoss else pure false)
  let lost := lost && !shed
  when (lost = false) pollEnableWrites
  pollReport lost

def beginTickFeedback : Prog (System F) ε Unit :=
  update fun s => { s with lastRefreshFrames := 0 }

/-- Drain the pending feedback of an operational session. -/
def drainFeedback : Prog (System F) DavoutError ℕ := do
  refuseReferenceInterference "ordinary feedback drain"
  pollFeedback

end

end Marengo

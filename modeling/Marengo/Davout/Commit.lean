import Marengo.Davout.Acquire

/-!
# Commits of acquired evidence

A commit hands retained evidence to the journal worker and, once the worker has made it durable,
selects current permission. The worker runs on its own: whenever the owner looks at the journal, it
may have taken any steps (`journalWork`). `advanceReferenceCommit` is the only consumer, and it
checks the evidence again in the same call that selects.
-/

namespace Marengo

variable {F : Type}

/-- Commit outcomes and request failures that are retained. -/
def outcomeCapacity : ℕ := 8
def requestFailureCapacity : ℕ := 8

def calibrationCommitGrace : Duration := seconds 10
def calibrationPoll : Duration := millis 2

/-- What an observer sees of a commit. -/
structure ReferenceCommitSnapshot where
  handle : ReferenceCommitHandle
  acquisition : ReferenceHandle
  joint : String
  phase : ReferenceCommitPhase
  eligibility : ReferenceStageStatus
  journal : ReferenceJournalResult
  receive : Option ReferenceReceiveSummary
  usableReference : Bool

inductive ReferenceOutcome (F : Type)
  | inProgress
  | current (positionRad : F)
  | failed (message : String)

def CommitOwner.get (self : CommitOwner F) (handle : ReferenceCommitHandle) :
    Except ReferenceCommitError (Entry F) :=
  if handle.owner ≠ self.identity then .error .foreignIdentity
  else match self.entries.find? (·.handle = handle) with
    | none => .error .outcomeExpired
    | some entry => .ok entry

def CommitOwner.entryForAcquisition (self : CommitOwner F) (acquisition : ReferenceHandle) :
    Option (Entry F) :=
  self.entries.find? (·.stage.terminal.handle = acquisition)

/-- Retain a collected commit, dropping the oldest one. -/
def CommitOwner.retain (self : CommitOwner F) (entry : Entry F) : CommitOwner F :=
  { self with
    outcomes := (if self.outcomes.length = outcomeCapacity then self.outcomes.tail
      else self.outcomes) ++ [entry] }

def RetainedOutcome.journalInput (self : RetainedOutcome F) (audit : ReferenceAudit) :
    Except ReferenceError (JournalInput F) :=
  match self.stage, self.terminal.receive with
  | some stage, some receive =>
    if maxU32 < stage.evidence.order then .error .counterExhausted
    else if maxU32 < receive.rawFrames then .error (.invalidRequest "raw frame count overflow")
    else if maxU32 < receive.readAttempts then
      .error (.invalidRequest "read attempt count overflow")
    else .ok
      ⟨stage.installedModel, stage.typedPolicy,
        { acquisitionSequence := self.terminal.handle.sequence
          joint := self.request.joint
          address := stage.evidence.address
          confirmed := self.request.confirmed
          signVerified := self.request.signVerified
          positionRad := stage.evidence.positionRad
          rawPopOrder := stage.evidence.order
          canId := stage.evidence.canId
          deviceEpoch := stage.evidence.proof.deviceEpoch
          originalDeadlineSecs := stage.overallDeadline / 1000000000
          originalDeadlineNanos := stage.overallDeadline % 1000000000
          stampReferenceGeneration := self.request.stamp.referenceGeneration
          stampStopGeneration := self.request.stamp.stopGeneration
          acceptedReferenceGeneration := stage.referenceGeneration
          cleanup := self.terminal.stop
          reporting := self.terminal.reporting
          receive := receive
          audit := audit
          physical := stage.physical.map fun p =>
            ⟨p.uid, min p.ackOrder maxU32, p.ackCanId, p.ackPositionRad⟩ }⟩
  | _, _ => .error .outcomeExpired

/-- The permission that a commit's evidence grants. -/
def RetainedOutcome.selectCurrent [Scalar F] (self : RetainedOutcome F)
    (authority : ReferenceAuthority F) (job : Token) : Option (ReferenceAuthority F) :=
  self.stage.bind fun stage =>
    authority.selectConsumed stage.evidence.proof.realm
      { job := job
        model := stage.installedModel
        joint := self.terminal.joint
        address := stage.evidence.address
        deviceEpoch := stage.evidence.proof.deviceEpoch
        uid := stage.physical.map (·.uid) }
      stage.typedPolicy (if stage.physical.isSome then .accumulate else .replace)

section
variable [World F] {ε : Type}

/-- What the journal worker did since the owner last looked. -/
def journalWork : Prog (System F) ε Unit := do
  let steps ← consult (World.workerSteps F)
  update fun s =>
    { s with
      referenceCommits := { s.referenceCommits with
        journal := s.referenceCommits.journal.map (·.runWorker steps) } }

def updateCommits (f : CommitOwner F → CommitOwner F) : Prog (System F) ε Unit :=
  update fun s => { s with referenceCommits := f s.referenceCommits }

/-- Submit the evidence of an acquisition that has no commit yet. -/
def submitCommit (acquisition : ReferenceHandle) (audit : ReferenceAudit) :
    Prog (System F) ReferenceCommitError ReferenceCommitHandle := do
  observeReferenceCommits
  let s ← read
  ensure ((s.acquisitionBusy || s.referenceCommits.busy) = false) .busy
  ensure (acquisition.owner = s.referenceOwner.identity) (.acquisition .foreignIdentity)
  match s.findOutcome acquisition with
  | none => fail (.acquisition .outcomeExpired)
  | some stage => do
    let status ← retainedStageStatus stage
    ensure (status = .currentEvidence) (.ineligible status)
    let s ← read
    ensure (¬(s.referenceCommits.selection ≠ .historyOnly ∧
      checkedSucc s.referenceAuthority.generation = none)) .counterExhausted
    journalWork
    let s ← read
    match s.referenceCommits.journal with
    | none => fail .unsupported
    | some journal => do
      let credit ← lift (journal.hasCredit.mapError ReferenceCommitError.journal)
      ensure (credit = true) .queueFull
      ensure ((checkedSucc s.referenceCommits.nextSequence).isSome) .counterExhausted
      let input ← lift ((stage.journalInput audit).mapError ReferenceCommitError.acquisition)
      let nonce ← freshToken
      let handle : ReferenceCommitHandle :=
        ⟨s.referenceCommits.identity, s.referenceCommits.nextSequence⟩
      let job : JobIdentity := ⟨nonce, handle.sequence⟩
      let submitted ← lift ((journal.submit job input).mapError ReferenceCommitError.journal)
      updateCommits fun c =>
        { c with
          journal := some submitted
          nextSequence := c.nextSequence + 1
          pending := c.pending ++ [⟨handle, job, stage, audit, .pending, .pending, none⟩] }
      pure handle

/-- Accept one immutable worker job from retained evidence; a retry gets its own handle. -/
def beginReferenceCommit (acquisition : ReferenceHandle) (audit : ReferenceAudit) :
    Prog (System F) ReferenceCommitError ReferenceCommitHandle := do
  let s ← read
  ensure s.referenceCommits.journal.isSome .unsupported
  ensure audit.validate .audit
  match s.referenceCommits.entryForAcquisition acquisition with
  | some entry => if entry.audit = audit then pure entry.handle else fail .conflictingRetry
  | none => submitCommit acquisition audit

variable (handle : ReferenceCommitHandle)

def referenceCommitSnapshot :
    Prog (System F) ReferenceCommitError ReferenceCommitSnapshot := do
  observeReferenceCommits
  let s ← read
  let entry ← lift (s.referenceCommits.get handle)
  let status ← retainedStageStatus entry.stage
  let valid ← referenceBindingValid
  let s ← read
  pure
    { handle := entry.handle
      acquisition := entry.stage.terminal.handle
      joint := entry.stage.terminal.joint
      phase := entry.phase
      eligibility := status
      journal := entry.result
      receive := entry.receive
      usableReference := valid && s.referenceAuthority.selectedBy entry.job.nonce &&
        s.referenceAuthority.contains entry.stage.terminal.joint }

/-- Take the completion of a pending commit. A commit that was cancelled or invalidated stays so,
and evidence that is not durable is retired. -/
def collect : Prog (System F) ε (Option (Entry F)) := do
  journalWork
  let s ← read
  match s.referenceCommits.pending.find? (·.handle = handle) with
  | none => pure none
  | some entry =>
    match s.referenceCommits.journal.bind (·.takeMatching entry.job) with
    | none => pure none
    | some (completion, journal) => do
      updateCommits fun c =>
        { c with
          journal := some journal
          pending := c.pending.eraseP (·.handle = handle) }
      when (completion.result.isDurable = false) (entry.stage.retire .commitRetired)
      pure (some { entry with
        result := completion.result
        phase := if entry.phase = .pending then .complete else entry.phase })

/-- Select current permission for a collected commit. The result is the commit as it is retained,
and whether it selected. -/
def selectCollected (entry : Entry F) : Prog (System F) ε (Entry F × Bool) := do
  let s ← read
  if s.referenceCommits.selection = .historyOnly ∨ entry.phase ≠ .complete ∨
      entry.result.isDurable = false then pure (entry, false)
  else do
    let status ← retainedStageStatus entry.stage
    if status ≠ .currentEvidence then pure (entry, false)
    else do
      noteSelection entry
      let s ← read
      match entry.stage.selectCurrent s.referenceAuthority entry.job.nonce with
      | some authority => do
        updateAuthority fun _ => authority
        entry.stage.retire .consumed
        pure (entry, true)
      | none => do
        entry.stage.retire .counterExhausted
        pure ({ entry with phase := .invalidated .counterExhausted }, false)

/-- Consume the completion of a pending commit, if there is one. -/
def consumeCompletionOf : Prog (System F) ε Unit := do
  let collected ← collect handle
  match collected with
  | none => pure ()
  | some entry => do
    let (entry, selected) ← selectCollected entry
    updateCommits (·.retain entry)
    when (entry.stage.stage.any (·.physical.isSome)) do
      markOwnerWork
      when selected syncActiveReporting

/-- One report of the disabled drives before a completion is consumed. -/
def receiveForCommit (motor : MotorEntry F) :
    Prog (System F) ε Unit := do
  let report ← receive
  let consumption ← consumeReportInContext report (.reference motor.address .beforeEnable)
  updateCommits fun c =>
    { c with
      pending := c.pending.map fun e =>
        if e.handle = handle then
          { e with
            receive := some
              ⟨consumption.completion, consumption.rawFrames, consumption.readAttempts⟩ }
        else e }
  when consumption.firstTransition do
    let _ ← performStop false
  let s ← read
  when (consumption.firstError.isSome ∨ consumption.completion.isComplete = false ∨
    s.hasLatchedFault ∨ s.hardwareEstop) (invalidateReferenceCommits .safetyHazard)

/-- Advance a commit: one fresh report, then its completion. -/
def advanceReferenceCommit :
    Prog (System F) ReferenceCommitError ReferenceCommitSnapshot := do
  let s ← read
  let entry ← lift (s.referenceCommits.get handle)
  ensure (s.acquisitionBusy = false) .busy
  if s.referenceCommits.pending.any (·.handle = handle) then
    match s.installedMotor entry.stage.terminal.joint with
    | none => fail (.acquisition .outcomeExpired)
    | some motor => do
      receiveForCommit handle motor
      observeReferenceCommits
      consumeCompletionOf handle
      referenceCommitSnapshot handle
  else referenceCommitSnapshot handle

/-- Cancel a commit; permission that it selected is revoked, unless a Disable cancels it. -/
def cancelReferenceCommit (reason : ReferenceCancelReason) :
    Prog (System F) ReferenceCommitError ReferenceCommitSnapshot := do
  let s ← read
  let entry ← lift (s.referenceCommits.get handle)
  when (reason ≠ .disable) (updateAuthority (·.revokeSelected entry.job.nonce))
  entry.stage.retire reason.retirement
  when (entry.phase = .pending) (setEntryPhase handle (.cancelled reason))
  referenceCommitSnapshot handle

/-! ## Driving a request to its commit -/

/-- Remember why a request's commit was refused. -/
def recordRequestFailure (handle : ReferenceHandle) (message : String) :
    Prog (System F) ε Unit :=
  update fun s =>
    let failures := s.referenceOwner.requestFailures
    { s with
      referenceOwner := { s.referenceOwner with
        requestFailures := (if failures.length = requestFailureCapacity then failures.tail
          else failures) ++ [(handle, message)] } }

/-- Begin the commit of a request whose acquisition ended. -/
def beginPendingCommit (pending : PendingCommit) : Prog (System F) ε Unit := do
  update fun s => { s with referenceOwner := { s.referenceOwner with pendingCommit := none } }
  let snapshot ← referenceSnapshot
  when (snapshot.terminal.any fun t =>
      t.handle = pending.acquisition && t.cause = .evidenceStaged) do
    let r ← attempt (beginReferenceCommit (F := F) pending.acquisition pending.audit)
    match r with
    | .ok _ => pure ()
    | .error e => recordRequestFailure pending.acquisition (World.showCommit F e)

/-- Advance the owner's reference work by one step. -/
def advanceReferenceWork : Prog (System F) ReferenceCommitError Unit := do
  let snapshot ← referenceSnapshot
  let s ← read
  match snapshot.handle.filter fun _ => s.acquisitionBusy with
  | some handle => do
    let _ ← mapError .acquisition (advanceReference handle)
  | none =>
    match s.referenceOwner.pendingCommit with
    | some pending => beginPendingCommit pending
    | none =>
      match s.referenceCommits.pending.head? with
      | some entry => do
        let _ ← advanceReferenceCommit entry.handle
      | none => pure ()

/-- A confirmed request that is driven to a durable commit. -/
def requestReference (joint : String) (signVerified : Bool) (audit : ReferenceAudit) :
    Prog (System F) ReferenceError ReferenceHandle := do
  let s ← read
  ensure (s.referenceCommits.selectsCurrent && s.referenceOwner.backend.isSome) .unsupported
  ensure audit.validate (.invalidRequest (World.showCommit F .audit))
  ensure s.referenceOwner.pendingCommit.isNone .busy
  let snapshot ← referenceSnapshot
  match snapshot.nextStamp with
  | none => fail .counterExhausted
  | some stamp => do
    let handle ← beginReference ⟨stamp, trim joint, true, signVerified⟩
    update fun s =>
      { s with
        referenceOwner := { s.referenceOwner with pendingCommit := some ⟨handle, audit⟩ } }
    pure handle

/-- What became of a commit. -/
def commitOutcome (stage : RetainedOutcome F) (entry : Entry F) :
    Prog (System F) ReferenceError (ReferenceOutcome F) := do
  let r ← attempt (referenceCommitSnapshot (F := F) entry.handle)
  match r with
  | .error _ => fail .outcomeExpired
  | .ok snapshot =>
    if snapshot.phase = .pending then pure .inProgress
    else if snapshot.usableReference then
      match stage.stage.map (·.evidence.positionRad) with
      | some position =>
        if isFinite position then pure (.current position)
        else pure (.failed "usable reference without finite evidence position")
      | none => pure (.failed "usable reference without finite evidence position")
    else pure (.failed (World.showCommitState F snapshot.phase snapshot.journal
      snapshot.eligibility))

def referenceOutcome (handle : ReferenceHandle) :
    Prog (System F) ReferenceError (ReferenceOutcome F) := do
  let snapshot ← referenceSnapshot
  let s ← read
  if (snapshot.handle = some handle ∧ s.acquisitionBusy) ∨
      s.referenceOwner.pendingCommit.any (·.acquisition = handle) then pure .inProgress
  else match s.referenceOwner.requestFailures.reverse.find? (·.1 = handle) with
    | some (_, message) => pure (.failed message)
    | none => do
      ensure (handle.owner = s.referenceOwner.identity) .foreignIdentity
      match s.findOutcome handle with
      | none => fail .outcomeExpired
      | some stage =>
        if stage.terminal.cause ≠ .evidenceStaged then
          pure (.failed ("acquisition ended " ++ World.showCause F stage.terminal.cause))
        else match s.referenceCommits.entryForAcquisition handle with
          | none => pure (.failed "staged evidence was not committed")
          | some entry => commitOutcome stage entry

/-- Refuse every later journal submission. -/
def closeReferenceJournalAdmission : Prog (System F) ε Unit :=
  updateCommits fun c => { c with journal := c.journal.map (·.close) }

/-- Close the journal and let the worker run until it ends or the deadline passes. -/
def waitForJournal : Prog (System F) ε Unit := do
  closeReferenceJournalAdmission
  journalWork

/-- Shutdown-only collection: eligibility is retired before storage waits. -/
def drainReferenceJournalUntil : Prog (System F) ε ReferenceJournalDrain := do
  cancelReferenceCommits .shutdown
  let s ← read
  if s.referenceCommits.journal = none then pure .absent
  else do
    waitForJournal
    let s ← read
    each (s.referenceCommits.pending.map (·.handle)) fun handle => do
      let collected ← collect handle
      match collected with
      | none => pure ()
      | some entry => updateCommits (·.retain entry)
    waitForJournal
    reads fun s => s.referenceCommits.journal.elim .absent (·.drain)

/-! ## Synchronous calibration -/

/-- The error of a reference operation, for a caller of the supervisor. -/
def referenceErrorOf (joint : String) : ReferenceError → DavoutError
  | .admission error => error
  | .unsupported => .referenceUnsupported "reference calibration"
  | .invalidRequest message => other (.invalidRequest message)
  | .busy => other .busy
  | .foreignIdentity => other .foreignIdentity
  | .staleStamp => other .staleStamp
  | .conflictingRetry => other .conflictingRetry
  | .outcomeExpired => other .outcomeExpired
  | .counterExhausted => other .counterExhausted
where
  /-- Every other error is reported as a failed verification. -/
  other (e : ReferenceError) : DavoutError := .homingVerify joint (World.showReference F e)

/-- The workflow did not finish in time. -/
def calibrationExpired (joint : String) : Prog (System F) DavoutError F := do
  disableAllQuietly
  fail (.homingVerify joint "reference workflow did not finish before its deadline")

/-- One round of a calibration: advance the work, and go on with `again` while it is in
progress. -/
def calibrationRound (joint : String) (handle : ReferenceHandle) (again : Prog (System F) DavoutError F) :
    Prog (System F) DavoutError F := do
  mapError (fun e => DavoutError.homingVerify joint (World.showCommit F e))
    (advanceReferenceWork (F := F))
  let outcome ← mapError (referenceErrorOf (F := F) joint) (referenceOutcome (F := F) handle)
  match outcome with
  | .current position => pure position
  | .failed message => fail (.homingVerify joint message)
  | .inProgress => again

/-- Drive a request to its outcome. When the rounds are used up the clock has passed the
deadline. -/
def calibrationRounds (joint : String) (handle : ReferenceHandle) (deadline : Instant) :
    ℕ → Prog (System F) DavoutError F
  | 0 => calibrationRound joint handle (calibrationExpired joint)
  | fuel + 1 => calibrationRound joint handle do
    let t ← now
    if deadline ≤ t then calibrationExpired joint
    else do
      sleep calibrationPoll
      calibrationRounds joint handle deadline fuel

/-- Acquire, commit and select the reference of one joint. -/
def calibrateJointZero (joint operator : String) (signTestPassed : Bool) :
    Prog (System F) DavoutError F := do
  let s ← read
  lift s.requireFaultClear
  let joint := trim joint
  referenceRequestPreflight joint (some signTestPassed)
  let s ← read
  ensure (s.mode ≠ .active) (.homing "set-zero refused while ACTIVE; disable motors first")
  ensure (s.referenceCommits.selectsCurrent && s.referenceOwner.backend.isSome)
    (.referenceUnsupported "reference calibration")
  let timeout := ((s.homingConfig.effectiveJoint joint).bind fun p =>
    World.durationOfSecs p.searchTimeoutS).getD 0
  let handle ← mapError (referenceErrorOf (F := F) joint)
    (requestReference (F := F) joint signTestPassed
      ⟨operator, "calibrate-" ++ toString (World.processId F)⟩)
  let t ← now
  calibrationRounds joint handle (t + timeout + calibrationCommitGrace) (World.rounds F)

end

end Marengo

import Marengo.Journal.Database

/-!
# The journal worker

The owner and the worker thread of a journal, interleaved. An owner operation and a step of the
worker is each one section under the lock of the shared state, or one call into the codec or the
database; the worker's place between two such sections is its `WorkerStage`. The worker may panic
in any stage of its loop, and the handler that follows takes the job in flight out of the shared
state, completes it, and completes what is queued, one lock section at a time. The `log` records
what happened, in order, for the results to be stated over.
-/

namespace Marengo

variable {F R U : Type}

/-- Where the worker thread stands. -/
inductive WorkerStage (F : Type)
  /-- At the head of the loop. -/
  | waiting
  /-- A job has been taken; the database is about to be opened. -/
  | opening (job : Job F)
  | encoding (job : Job F) (session : ℕ)
  | checking (job : Job F) (session : ℕ) (body : List UInt8)
  /-- `Progress::Writing` has been reported. -/
  | writing (job : Job F) (session : ℕ) (body checksum : List UInt8)
  /-- `Progress::CommitAttempted` has been reported. -/
  | committing (job : Job F) (session : ℕ) (body checksum : List UInt8) (pending : JournalFile)
  /-- `Progress::Committed` has been reported. -/
  | reading (job : Job F) (session : ℕ) (body checksum : List UInt8)
  | publishing (job : Job F) (result : ReferenceJournalResult)
  /-- The worker has panicked; its handler has not run. -/
  | unwound
  /-- The handler has taken the job in flight. -/
  | landing (identity : JobIdentity) (result : ReferenceJournalResult)
  /-- The handler completes what is queued. -/
  | discarding
  | dropping (job : Job F)
  /-- The thread is about to report that it has finished. -/
  | leaving
  | terminated

/-- Why a job was completed. -/
inductive Cause
  | published
  /-- The worker panicked on it; the write had begun or not. -/
  | interrupted (begun : Bool)
  /-- It was queued when the worker panicked. -/
  | discarded
deriving DecidableEq

/-- What happens to a journal. -/
inductive JournalEvent (F : Type)
  /-- A job was accepted. -/
  | submitted (job : Job F)
  /-- The commit of a job's row returned. -/
  | committed (identity : JobIdentity) (session : ℕ) (body : List UInt8)
  /-- A job's row was read back. -/
  | readBack (identity : JobIdentity) (session : ℕ) (body checksum : List UInt8)
  /-- A completion was published. -/
  | completed (identity : JobIdentity) (result : ReferenceJournalResult) (cause : Cause)

structure JournalSystem (F : Type) where
  shared : JournalState F := {}
  stage : WorkerStage F := .waiting
  /-- Session of the database, if it is open. -/
  database : Option ℕ := none
  disk : Option JournalFile
  /-- The write of the job in flight has begun. -/
  begun : Bool := false
  log : List (JournalEvent F) := []

/-- What SQLite answers during one step of the worker. -/
structure WorkerInput where
  sql : SqliteOpen
  reply : SqliteReply

namespace JournalSystem

def record (s : JournalSystem F) (e : JournalEvent F) : JournalSystem F :=
  { s with log := s.log ++ [e] }

def complete (s : JournalSystem F) (identity : JobIdentity) (result : ReferenceJournalResult)
    (cause : Cause) (stage : WorkerStage F) : JournalSystem F :=
  { s with shared := s.shared.complete identity result, stage := stage }.record
    (.completed identity result cause)

def advance (s : JournalSystem F) (p : Progress) (stage : WorkerStage F) : JournalSystem F :=
  { s with shared := s.shared.progress p, stage := stage }

/-- Give up a job: its result is published next, and the database is closed. -/
def giveUp (s : JournalSystem F) (job : Job F) (result : ReferenceJournalResult) :
    JournalSystem F :=
  { s with database := none, stage := .publishing job result }

/-- Run a part of an append on the open file. -/
def onFile {α : Type} (s : JournalSystem F) (job : Job F) (x : Appending α)
    (ok : JournalSystem F → α → JournalSystem F) : JournalSystem F :=
  match s.disk with
  | none => s.giveUp job (.failed "journal unavailable")
  | some f =>
    match x f with
    | (.ok a, f') => ok { s with disk := some f' } a
    | (.error result, f') => { s with disk := some f' }.giveUp job result

/-- Take the oldest job, or leave the loop. -/
def takeJob (s : JournalSystem F) : JournalSystem F :=
  match s.shared.queued with
  | [] => if s.shared.closed then { s with stage := .leaving } else s
  | job :: rest =>
    { s with
      shared := { s.shared with queued := rest, flight := some ⟨job.identity, .opening⟩ }
      stage := .opening job
      begun := false }

/-- The handler of a panic: close admission and take the job in flight. -/
def handle (s : JournalSystem F) : JournalSystem F :=
  let closed := { s.shared with
    closed := true, workerError := some "reference journal worker unwound" }
  match s.shared.flight with
  | none => { s with shared := closed, stage := .discarding }
  | some f =>
    { s with
      shared := { closed with flight := none }
      stage := .landing f.identity f.progress.interrupted }

/-- The handler takes the next queued job. -/
def discard (s : JournalSystem F) : JournalSystem F :=
  match s.shared.queued with
  | [] => { s with stage := .leaving }
  | job :: rest => { s with shared := { s.shared with queued := rest }, stage := .dropping job }

section Work

variable [Scalar F] (sha : Digest) (serde : BodySerde F R U) (input : WorkerInput)

/-- Open the database if it is not open. -/
def openFor (s : JournalSystem F) (job : Job F) : JournalSystem F :=
  match s.database with
  | some session => s.advance .encoding (.encoding job session)
  | none =>
    match openDatabase input.sql sha true true ⟨s.disk, 0⟩ with
    | (.error e, d) =>
      { s with disk := d.file }.giveUp job (.failed (displayJournalError e))
    | (.ok session, d) =>
      { s with disk := d.file, database := some session }.advance .encoding (.encoding job session)

def encodeFor (s : JournalSystem F) (job : Job F) (session : ℕ) : JournalSystem F :=
  match serde.encodeInput job.input session job.identity.sequence with
  | .error e => s.giveUp job (.failed e.display)
  | .ok body => { s with stage := .checking job session body }

/-- What the query for a job's row returned. -/
def rowRead (s : JournalSystem F) (job : Job F) (session : ℕ) : JournalSystem F :=
  match s.disk.map (selectRow input.reply session job.identity.sequence) with
  | some (.ok row, _) => s.record (.readBack job.identity session row.1 row.2)
  | _ => s

def work (s : JournalSystem F) : JournalSystem F :=
  match s.stage with
  | .waiting => s.takeJob
  | .opening job => s.openFor sha input job
  | .encoding job session => s.encodeFor serde job session
  | .checking job session body =>
    s.onFile job (checkBody sha serde session job.identity.sequence body) fun s checksum =>
      { s with begun := true }.advance .writing (.writing job session body checksum)
  | .writing job session body checksum =>
    s.onFile job (insertRow input.reply session job.identity.sequence body checksum)
      fun s pending => s.advance .commitAttempted (.committing job session body checksum pending)
  | .committing job session body checksum pending =>
    s.onFile job (commitRow input.reply pending) fun s _ =>
      (s.advance .committed (.reading job session body checksum)).record
        (.committed job.identity session body)
  | .reading job session body checksum =>
    (s.rowRead input job session).onFile job
      (readBack sha serde input.reply session job.identity.sequence body checksum)
      fun s result => { s with stage := .publishing job result }
  | .publishing job result => s.complete job.identity result .published .waiting
  | .unwound => s.handle
  | .landing identity result => s.complete identity result (.interrupted s.begun) .discarding
  | .discarding => s.discard
  | .dropping job =>
    s.complete job.identity (.failed "worker terminated before queued event") .discarded
      .discarding
  | .leaving => { s with shared := { s.shared with finished := true }, stage := .terminated }
  | .terminated => s

end Work

/-- The worker panics inside its loop; `disk` is what the interrupted call left of the file. -/
def panic (s : JournalSystem F) (disk : Option JournalFile) : JournalSystem F :=
  match s.stage with
  | .waiting | .opening _ | .encoding _ _ | .checking _ _ _ | .writing _ _ _ _
  | .committing _ _ _ _ _ | .reading _ _ _ _ | .publishing _ _ =>
    { s with stage := .unwound, disk := disk }
  | .unwound | .landing _ _ | .discarding | .dropping _ | .leaving | .terminated => s

end JournalSystem

inductive JournalAction (F : Type)
  | submit (identity : JobIdentity) (input : JournalInput F)
  | take (identity : JobIdentity)
  | close
  | work (input : WorkerInput)
  | panic (disk : Option JournalFile)

namespace JournalSystem

variable [Scalar F] (sha : Digest) (serde : BodySerde F R U)

def act (s : JournalSystem F) : JournalAction F → JournalSystem F
  | .submit identity input =>
    match s.shared.submit identity input with
    | .error _ => s
    | .ok shared => { s with shared := shared }.record (.submitted ⟨identity, input⟩)
  | .take identity =>
    match s.shared.takeMatching identity with
    | none => s
    | some (_, shared) => { s with shared := shared }
  | .close => { s with shared := s.shared.close }
  | .work input => s.work sha serde input
  | .panic disk => s.panic disk

/-- A run: any interleaving of actions from a new journal over a file. -/
def run (disk : Option JournalFile) (actions : List (JournalAction F)) : JournalSystem F :=
  actions.foldl (act sha serde) { disk := disk }

end JournalSystem

end Marengo

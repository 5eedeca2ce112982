import Marengo.Davout.Reference
import Marengo.Davout.Faults

/-!
# The reference journal

A bounded queue between the owner, which submits jobs and takes their completions, and one worker
thread, which moves a job from the queue into flight and publishes its result. Every accepted job
holds one of `creditCapacity` credits from its submission until the owner takes its completion.
The two sides share `JournalState` under a lock, so a run is an interleaving of the owner
operations and the `WorkerStep`s below.
-/

namespace Marengo

/-- Jobs accepted and not yet taken. -/
def creditCapacity : ℕ := 8

/-- Bounded operator and session labels. -/
structure ReferenceAudit where
  operator : String
  session : String
deriving DecidableEq

/-- `char::is_control`: the Unicode Cc characters. -/
def isControl (c : Char) : Bool := c.toNat < 0x20 || (0x7F ≤ c.toNat && c.toNat ≤ 0x9F)

/-- Labels are nonempty, at most 128 bytes long and free of control characters. -/
def ReferenceAudit.validate (self : ReferenceAudit) : Bool :=
  [self.operator, self.session].all fun label =>
    label ≠ "" && label.utf8ByteSize ≤ 128 && !label.toList.any isControl

inductive ReferenceJournalResult
  | pending
  | durableHistory (diagnosticSession jobSequence : ℕ) (checksum : List UInt8)
  | failed (message : String)
  | uncertain (message : String)
deriving DecidableEq

def ReferenceJournalResult.isDurable : ReferenceJournalResult → Bool
  | durableHistory .. => true
  | pending | failed _ | uncertain _ => false

/-- Identity of a job: a nonce of this process and the commit sequence. -/
structure JobIdentity where
  nonce : Token
  sequence : ℕ
deriving DecidableEq

/-- Type-24 Off written while an acquisition suspends reporting. -/
structure ReferenceReportingAttempt where
  joint : String
  address : MotorAddress
  error : Option String
deriving DecidableEq

structure ReferenceReceiveSummary where
  completion : ReceiveCompletion
  rawFrames : ℕ
  readAttempts : ℕ
deriving DecidableEq

structure PhysicalCapture (F : Type) where
  deviceUid : DeviceUid
  ackPopOrder : ℕ
  ackCanId : UInt32
  ackPositionRad : F

/-- What a journal event says about one acquisition. -/
structure Capture (F : Type) where
  acquisitionSequence : ℕ
  joint : String
  address : MotorAddress
  confirmed : Bool
  signVerified : Bool
  positionRad : F
  rawPopOrder : ℕ
  canId : UInt32
  deviceEpoch : ℕ
  originalDeadlineSecs : ℕ
  originalDeadlineNanos : ℕ
  stampReferenceGeneration : ℕ
  stampStopGeneration : ℕ
  acceptedReferenceGeneration : ℕ
  cleanup : StopReport
  reporting : List ReferenceReportingAttempt
  receive : ReferenceReceiveSummary
  audit : ReferenceAudit
  physical : Option (PhysicalCapture F)

structure JournalInput (F : Type) where
  model : InstalledModelStamp
  policy : TypedPolicy F
  capture : Capture F

structure Job (F : Type) where
  identity : JobIdentity
  input : JournalInput F

/-- A completion that the owner has not taken. -/
structure Completed where
  identity : JobIdentity
  result : ReferenceJournalResult
deriving DecidableEq

/-- How far the worker is with the job in flight. -/
inductive Progress
  | opening | encoding | writing | commitAttempted | committed
deriving DecidableEq

/-- The worker may have touched the database. -/
def Progress.afterWriting : Progress → Bool
  | opening | encoding => false
  | writing | commitAttempted | committed => true

/-- The result of a job whose worker unwound. -/
def Progress.interrupted (p : Progress) : ReferenceJournalResult :=
  if p.afterWriting then .uncertain "worker unwound during/after transaction"
  else .failed "worker unwound before event transaction"

structure Flight where
  identity : JobIdentity
  progress : Progress
deriving DecidableEq

/-- State shared by the owner and the worker. -/
structure JournalState (F : Type) where
  closed : Bool := false
  queued : List (Job F) := []
  flight : Option Flight := none
  completed : List Completed := []
  credits : ℕ := 0
  durable : ℕ := 0
  failed : ℕ := 0
  uncertain : ℕ := 0
  finished : Bool := false
  workerError : Option String := none

variable {F : Type}

namespace JournalState

variable (self : JournalState F)

/-- Publish the result of a job; its completion slot was reserved at admission. -/
def complete (identity : JobIdentity) (result : ReferenceJournalResult) :
    JournalState F :=
  let counted := match result with
    | .durableHistory .. => { self with durable := saturatingSucc self.durable }
    | .failed _ => { self with failed := saturatingSucc self.failed }
    | .uncertain _ => { self with uncertain := saturatingSucc self.uncertain }
    | .pending => self
  { counted with completed := self.completed ++ [⟨identity, result⟩], flight := none }

def progress (p : Progress) : JournalState F :=
  { self with flight := self.flight.map fun f => { f with progress := p } }

def admissionClosed : Bool :=
  self.closed || self.finished || self.workerError.isSome

def submit (identity : JobIdentity) (input : JournalInput F) :
    Except String (JournalState F) :=
  if self.admissionClosed then .error "journal admission closed"
  else if self.credits = creditCapacity then .error "journal completion credits full"
  else .ok { self with credits := self.credits + 1, queued := self.queued ++ [⟨identity, input⟩] }

def hasCredit : Except String Bool :=
  if self.admissionClosed then .error "journal admission closed"
  else .ok (decide (self.credits < creditCapacity))

/-- Take the completion of a job and give its credit back. -/
def takeMatching (identity : JobIdentity) :
    Option (Completed × JournalState F) :=
  (self.completed.find? (·.identity = identity)).map fun c =>
    (c, { self with
      completed := self.completed.eraseP (·.identity = identity)
      credits := self.credits - 1 })

/-- Refuse every later submission. -/
def close : JournalState F := { self with closed := true }

end JournalState

inductive WorkerStep
  /-- Move the oldest queued job into flight. -/
  | take
  /-- Report progress on the job in flight. -/
  | progress (p : Progress)
  /-- Publish the result of the job in flight. -/
  | publish (result : ReferenceJournalResult)
  /-- The worker has unwound: admission closes. -/
  | unwind
  /-- After an unwind, complete the job that was in flight. -/
  | land
  /-- After an unwind, complete the oldest queued job as failed. -/
  | discard
  /-- The thread ends: admission is closed and the queue is empty. -/
  | finish

namespace JournalState

/-- The effect of a worker step; a step that does not apply changes nothing. -/
def workerStep (self : JournalState F) : WorkerStep → JournalState F
  | .take =>
    if self.flight.isSome || self.finished then self
    else match self.queued with
      | [] => self
      | job :: rest => { self with queued := rest, flight := some ⟨job.identity, .opening⟩ }
  | .progress p => self.progress p
  | .publish result =>
    match self.flight with
    | none => self
    | some f => self.complete f.identity result
  | .unwind =>
    if self.finished then self
    else { self with closed := true, workerError := some "reference journal worker unwound" }
  | .land =>
    match self.flight with
    | none => self
    | some f => self.complete f.identity f.progress.interrupted
  | .discard =>
    match self.queued with
    | [] => self
    | job :: rest =>
      { self with queued := rest }.complete job.identity
        (.failed "worker terminated before queued event")
  | .finish =>
    if self.closed && self.queued.isEmpty && self.flight.isNone then { self with finished := true }
    else self

/-- A burst of worker steps between two owner operations. -/
def runWorker (self : JournalState F) (steps : List WorkerStep) : JournalState F :=
  steps.foldl workerStep self

end JournalState

/-- What is left of the journal at shutdown. -/
structure ReferenceJournalDrain where
  admissionClosed : Bool
  queued : ℕ
  inFlight : Bool
  completedUnconsumed : ℕ
  acceptedCredits : ℕ
  durableWrites : ℕ
  failedWrites : ℕ
  uncertainWrites : ℕ
  workerTerminated : Bool
  workerError : Option String
deriving DecidableEq

def ReferenceJournalDrain.absent : ReferenceJournalDrain where
  admissionClosed := true
  queued := 0
  inFlight := false
  completedUnconsumed := 0
  acceptedCredits := 0
  durableWrites := 0
  failedWrites := 0
  uncertainWrites := 0
  workerTerminated := true
  workerError := none

def JournalState.drain (self : JournalState F) : ReferenceJournalDrain where
  admissionClosed := self.closed
  queued := self.queued.length
  inFlight := self.flight.isSome
  completedUnconsumed := self.completed.length
  acceptedCredits := self.credits
  durableWrites := self.durable
  failedWrites := self.failed
  uncertainWrites := self.uncertain
  workerTerminated := self.finished
  workerError := self.workerError

end Marengo

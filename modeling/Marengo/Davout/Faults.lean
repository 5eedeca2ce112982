import Marengo.Robstride.Frames
import Mathlib.Data.List.Infix

/-!
# The fault authority

`FaultAuthority` is the supervisor's persistent record of hazards. It keeps one `FaultRecord` per
fault class and address, accumulates the evidence of repeated occurrences, and has no operation
that removes a record. `record` returns `true` only when the authority was empty before, which is
how its callers decide who has to stop the drives.
-/

namespace Marengo

/-- Runtime hazards, separate from rejected operator commands. -/
inductive FaultClass
  | device | feedback | driveState | communication | transport | controller | hardwareEstop
  | stopDelivery | wrongSign | dangerZone
deriving DecidableEq

/-- Original vendor domains of a device fault. -/
structure DeviceFaultEvidence where
  statusFlags : UInt8 := 0
  detailedFaultBytes : Word := .replicate 4 0
  warningBytes : Word := .replicate 4 0
  partialFaultBytes : Word := .replicate 4 0
  partialFaultAvailable : UInt8 := 0
  partialWarningBytes : Word := .replicate 4 0
  partialWarningAvailable : UInt8 := 0
  driveMode : Option UInt8 := none
  receivedAt : Option Instant := none
deriving DecidableEq

def Word.union (a b : Word) : Word := .zipWith (· ||| ·) a b

/-- The later of two optional instants; `none` is before every instant. -/
def laterOf : Option Instant → Option Instant → Option Instant
  | none, b => b
  | some a, none => some a
  | some a, some b => some (if a < b then b else a)

def DeviceFaultEvidence.merge (self other : DeviceFaultEvidence) : DeviceFaultEvidence where
  statusFlags := self.statusFlags ||| other.statusFlags
  detailedFaultBytes := self.detailedFaultBytes.union other.detailedFaultBytes
  warningBytes := self.warningBytes.union other.warningBytes
  partialFaultBytes := self.partialFaultBytes.union other.partialFaultBytes
  partialFaultAvailable := self.partialFaultAvailable ||| other.partialFaultAvailable
  partialWarningBytes := self.partialWarningBytes.union other.partialWarningBytes
  partialWarningAvailable := self.partialWarningAvailable ||| other.partialWarningAvailable
  driveMode := other.driveMode.or self.driveMode
  receivedAt := laterOf self.receivedAt other.receivedAt

structure ReceiveFrameEvidence where
  interface : Option String
  canId : UInt32
  extended : Bool
  receivedAt : Instant
  raw : Payload
  payloadLen : UInt8
  kind : RxFrameKind
  reason : Option MalformedReason
deriving DecidableEq

/-- Declared work and completion of an incomplete receive. -/
structure ReceiveDrainEvidence where
  completion : ReceiveCompletion
  rawFrames : ℕ
  readAttempts : ℕ
deriving DecidableEq

/-- First and latest envelopes of a receive fault, with event counts. -/
structure ReceiveFaultEvidence where
  firstFrame : Option ReceiveFrameEvidence := none
  latestFrame : Option ReceiveFrameEvidence := none
  frameCount : ℕ := 0
  firstIncomplete : Option ReceiveDrainEvidence := none
  latestIncomplete : Option ReceiveDrainEvidence := none
  incompleteCount : ℕ := 0
deriving DecidableEq

def ReceiveFaultEvidence.frame (f : ReceiveFrameEvidence) : ReceiveFaultEvidence where
  firstFrame := some f
  latestFrame := some f
  frameCount := 1

def ReceiveFaultEvidence.incomplete (d : ReceiveDrainEvidence) : ReceiveFaultEvidence where
  firstIncomplete := some d
  latestIncomplete := some d
  incompleteCount := 1

/-- Accumulate the evidence of another occurrence; the counts saturate at `u64::MAX`. -/
def ReceiveFaultEvidence.merge (self other : ReceiveFaultEvidence) : ReceiveFaultEvidence where
  firstFrame := self.firstFrame.or other.firstFrame
  latestFrame := other.latestFrame.or self.latestFrame
  frameCount := min (self.frameCount + other.frameCount) maxU64
  firstIncomplete := self.firstIncomplete.or other.firstIncomplete
  latestIncomplete := other.latestIncomplete.or self.latestIncomplete
  incompleteCount := min (self.incompleteCount + other.incompleteCount) maxU64

/-- First occurrence and accumulated evidence for one hazard class and address. -/
structure FaultRecord where
  id : ℕ
  fault : FaultClass
  joint : Option String
  address : Option MotorAddress
  firstSeen : Instant
  lastSeen : Instant
  message : String
  device : DeviceFaultEvidence
  receive : ReceiveFaultEvidence
deriving DecidableEq

/-- A warning observation retained for diagnostics. -/
structure DeviceWarning where
  joint : String
  address : MotorAddress
  firstSeen : Instant
  lastSeen : Instant
  warningBytes : Word
deriving DecidableEq

inductive StopAction
  | zeroSpeed | neutralMit | disable
deriving DecidableEq

structure StopAttempt where
  address : MotorAddress
  action : StopAction
  error : Option String
deriving DecidableEq

structure StopReport where
  generation : ℕ
  attempts : List StopAttempt
deriving DecidableEq

def StopReport.failedWrites (r : StopReport) : ℕ :=
  (r.attempts.filter (·.error.isSome)).length

/-- The persistent record of hazards and stops. -/
structure FaultAuthority where
  faults : List FaultRecord := []
  warnings : List DeviceWarning := []
  stopGeneration : ℕ := 0
  lastStop : Option StopReport := none
  firstFailedStop : Option StopReport := none
deriving DecidableEq

/-- Cap for the accumulated message of a record. -/
def maxFaultMessageLen : ℕ := 1024

def boundedMessage (message : String) : String := .ofList (message.toList.take 512)

/-- `s.contains(t)`. -/
def containsText (s t : String) : Bool := decide (t.toList <:+: s.toList)

/-- The message of a record after another occurrence with message `message`. -/
def accumulateMessage (existing message : String) : String :=
  let incoming := boundedMessage message
  if incoming ≠ "" ∧ ¬ containsText existing incoming ∧
      existing.toList.length < maxFaultMessageLen then
    .ofList ((existing ++ "; " ++ incoming).toList.take maxFaultMessageLen)
  else existing

/-- Replace the first element that satisfies `p` by its image. -/
def modifyFirst {α : Type} (p : α → Bool) (f : α → α) : List α → List α
  | [] => []
  | x :: xs => if p x then f x :: xs else x :: modifyFirst p f xs

namespace FaultAuthority

variable (self : FaultAuthority)

def isLatched : Bool := !self.faults.isEmpty

def firstFault : Option FaultRecord := self.faults.head?

/-- Some fault names this joint or no joint. -/
def jointIsFaulted (joint : String) : Bool :=
  self.faults.any fun f => f.joint.all (· = joint)

/-- `r` is the record of this class and address. -/
def keyed (cls : FaultClass) (address : Option MotorAddress) (r : FaultRecord) : Bool :=
  r.fault = cls && r.address = address

/-- Keep a nonzero warning of an address, accumulating its bytes. -/
def recordWarning (now : Instant) (joint : String)
    (address : MotorAddress) (bytes : Word) : FaultAuthority :=
  if bytes = .replicate 4 0 then self
  else if self.warnings.any (·.address = address) then
    { self with
      warnings := modifyFirst (·.address = address)
        (fun w => { w with lastSeen := now, warningBytes := w.warningBytes.union bytes })
        self.warnings }
  else
    { self with
      warnings := self.warnings ++ [⟨joint, address, now, now, bytes⟩] }

/-- Record an occurrence of a hazard. The returned flag is `true` only for the first transition
into the latched state. -/
def record (now : Instant) (cls : FaultClass) (joint : Option String)
    (address : Option MotorAddress) (message : String) (device : DeviceFaultEvidence) :
    Bool × FaultAuthority :=
  if self.faults.any (keyed cls address) then
    (false, { self with
      faults := modifyFirst (keyed cls address)
        (fun r => { r with
          lastSeen := now
          device := r.device.merge device
          message := accumulateMessage r.message message })
        self.faults })
  else
    (self.faults.isEmpty, { self with
      faults := self.faults ++ [{
        id := self.faults.length + 1
        fault := cls
        joint := joint
        address := address
        firstSeen := now
        lastSeen := now
        message := boundedMessage message
        device := device
        receive := {} }] })

/-- `record`, with the receive evidence of the occurrence. -/
def recordReceive (now : Instant) (cls : FaultClass)
    (joint : Option String) (address : Option MotorAddress) (message : String)
    (device : DeviceFaultEvidence) (receive : ReceiveFaultEvidence) : Bool × FaultAuthority :=
  let (first, next) := self.record now cls joint address message device
  (first, { next with
    faults := modifyFirst (keyed cls address)
      (fun r => { r with receive := r.receive.merge receive }) next.faults })

/-- Begin a stop: the generation grows, saturating at `u64::MAX`. -/
def beginStop : FaultAuthority :=
  { self with stopGeneration := saturatingSucc self.stopGeneration }

/-- Keep the report of a finished stop; the first failed one is kept for good. -/
def setStopReport (report : StopReport) : FaultAuthority :=
  { self with
    firstFailedStop := if 0 < report.failedWrites ∧ self.firstFailedStop = none then some report
      else self.firstFailedStop
    lastStop := some report }

end FaultAuthority

end Marengo

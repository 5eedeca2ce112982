import Marengo.Davout.Reference

/-!
# Physical device state

Owner-local device identity, coordinate continuity and liveness of every installed drive. Nothing
here is a permit: the reference authority binds an epoch of this state, and each admission reads it
again. An epoch advances for every reason the drive's coordinate may have changed.
-/

namespace Marengo

/-- Upper bound for the type-0 identity round trip at each Enable admission. -/
def identityAdmissionTimeout : Duration := millis 100

/-- A target that has not answered yet is asked again this often. -/
def identityAdmissionRetry : Duration := millis 10

/-- Minimum time between the first frames of two groups on one interface. -/
def burstGroupSpacing : Duration := millis 2

/-- Admission requests to different targets leave this far apart. -/
def identityAdmissionSpacing : Duration := burstGroupSpacing

def identityAdmissionPoll : Duration := millis 5

/-- Longest an owed type-24 On may stay unwritten before the drive loses its grant. -/
def owedOnWriteBound : Duration := millis 200

/-- Retained replies per kind. -/
def inboxCapacity : ℕ := 32

/-- Coordinate continuity bounds of one installed address. -/
structure ContinuityBounds (F : Type) where
  maxRateRadS : F
  quantizationRad : F

structure Device (F : Type) where
  bounds : ContinuityBounds F
  epoch : ℕ := 1
  uid : Option DeviceUid := none
  lastSeen : Option Instant := none
  lastPositionRad : Option F := none
  /-- Silence before this instant is the host's doing. -/
  silenceCountsFrom : Option Instant := none
  /-- A type-24 On held back to this instant and not yet written. -/
  owedOnFrom : Option Instant := none

/-- Why a granted address failed the liveness rule. -/
inductive Lapse
  | silent | owedOnUnwritten
deriving DecidableEq

/-- Where the liveness rule starts counting an address's silence. -/
inductive SilenceFrom
  | lastFrame
  | withheld (since : Instant)
  | solicited (earliest : Option Instant)
deriving DecidableEq

/-- What became of an owed type-24 On at a reporting sync. -/
inductive OwedOn
  | owed
  | written (at_ : Instant)
  | released
deriving DecidableEq

/-- A retained type-0 reply. -/
structure InboxIdentity where
  serial : ℕ
  address : MotorAddress
  uid : DeviceUid

/-- A retained type-17 reply. -/
structure InboxRead where
  serial : ℕ
  observation : ParameterReadObservation

/-- Every installed address of one physical owner. -/
structure PhysicalDevices (F : Type) where
  devices : List (MotorAddress × Device F) := []
  serial : ℕ := 0
  identities : List InboxIdentity := []
  reads : List InboxRead := []
  lastOwnerWork : Option Instant := none

def laterThan (o : Option Instant) (t : Instant) : Instant := o.elim t (max · t)

variable {F : Type}

namespace PhysicalDevices

def new (installed : List (MotorAddress × ContinuityBounds F)) : PhysicalDevices F where
  devices := installed.map fun (a, b) => (a, { bounds := b })

variable (self : PhysicalDevices F)

def find (address : MotorAddress) : Option (Device F) :=
  (self.devices.find? (·.1 = address)).map (·.2)

def modify (address : MotorAddress) (f : Device F → Device F) :
    PhysicalDevices F :=
  { self with devices := self.devices.map fun d => if d.1 = address then (d.1, f d.2) else d }

/-- Replies popped after this watermark were received after the caller's request. -/
def watermark : ℕ := self.serial

/-- Owner reference work suspends reporting; liveness restarts from its end. -/
def markOwnerWork (now : Instant) : PhysicalDevices F :=
  { self with lastOwnerWork := some (laterThan self.lastOwnerWork now) }

/-- The host caused the address's silence up to `at_`. -/
def countSilenceFrom (address : MotorAddress) (at_ : Instant) :
    PhysicalDevices F :=
  self.modify address fun d => { d with silenceCountsFrom := some (laterThan d.silenceCountsFrom at_) }

/-- The reporting sync held the address's due type-24 On until `quietEnd`. -/
def oweReportingOn (address : MotorAddress) (quietEnd : Instant) :
    PhysicalDevices F :=
  self.modify address fun d => { d with owedOnFrom := some (laterThan d.owedOnFrom quietEnd) }

def settleOwedOn (fate : OwedOn) (d : Device F) : Device F :=
  match d.owedOnFrom, fate with
  | none, _ | some _, .owed => d
  | some _, .written at_ =>
    { d with owedOnFrom := none, silenceCountsFrom := some (laterThan d.silenceCountsFrom at_) }
  | some from_, .released =>
    { d with owedOnFrom := none, silenceCountsFrom := some (laterThan d.silenceCountsFrom from_) }

/-- Resolve every owed On with `fate`. -/
def settleOwedReportingOns (fate : MotorAddress → OwedOn) :
    PhysicalDevices F :=
  { self with devices := self.devices.map fun d => (d.1, settleOwedOn (fate d.1) d.2) }

/-- Keep the last `inboxCapacity` replies. -/
def pushInbox {α : Type} (xs : List α) (x : α) : List α :=
  (if xs.length = inboxCapacity then xs.tail else xs) ++ [x]

/-- A type-0 reply: a different identity advances the epoch. -/
def recordIdentity (observation : IdentityObservation) :
    PhysicalDevices F :=
  let serial := saturatingSucc self.serial
  let changed := self.modify observation.address fun d =>
    { d with
      epoch := if d.uid.any (· ≠ observation.uid) then saturatingSucc d.epoch else d.epoch
      uid := some observation.uid }
  { changed with
    serial := serial
    identities := pushInbox self.identities ⟨serial, observation.address, observation.uid⟩ }

def recordRead (observation : ParameterReadObservation) :
    PhysicalDevices F :=
  let serial := saturatingSucc self.serial
  { self with serial := serial, reads := pushInbox self.reads ⟨serial, observation⟩ }

/-- First identity reply from `address` popped after `watermark`. -/
def identityAfter (address : MotorAddress) (watermark : ℕ) :
    Option DeviceUid :=
  (self.identities.find? fun r => watermark < r.serial && r.address = address).map (·.uid)

/-- First reply for `parameter` from `address` popped after `watermark`. -/
def readAfter (address : MotorAddress) (parameter : ℕ) (watermark : ℕ) :
    Option ParameterReadObservation :=
  (self.reads.find? fun r => watermark < r.serial && r.observation.address = address &&
    r.observation.reply.index = parameter).map (·.observation)

/-- Another installed address already answered with this identifier. -/
def uidClaimedElsewhere (address : MotorAddress) (uid : DeviceUid) :
    Bool :=
  self.devices.any fun d => d.1 ≠ address && d.2.uid = some uid

/-- An addressed SetZero attempt starts a new coordinate, even if delivery is uncertain. `none`:
the counter is exhausted or the address is not installed. -/
def beginNewCoordinate (address : MotorAddress) :
    Option ℕ × PhysicalDevices F :=
  match (self.find address).bind fun d => checkedSucc d.epoch with
  | none => (none, self)
  | some epoch => (some epoch, self.modify address fun d =>
      { d with epoch := epoch, lastSeen := none, lastPositionRad := none })

section
variable [Scalar F]

/-- A pose beyond what the drive can report since the last one breaks continuity. Across owner
reference work the bound is the at-rest tolerance. -/
def breaksContinuity (self : PhysicalDevices F) (d : Device F) (positionRad : F)
    (receivedAt : Instant) (atRestToleranceRad : F) : Bool :=
  match d.lastPositionRad, d.lastSeen with
  | some previous, some seen =>
    let bound := if self.lastOwnerWork.any (seen < ·) then atRestToleranceRad
      else d.bounds.maxRateRadS * secsF64 (receivedAt - seen) + d.bounds.quantizationRad
    !isFinite positionRad || blt bound (Scalar.abs (positionRad - previous))
  | _, _ => false

/-- Admitted joint-space pose or readback of an installed address. The returned flag says whether
continuity broke. -/
def observePosition (self : PhysicalDevices F) (address : MotorAddress) (positionRad : F)
    (receivedAt : Instant) (atRestToleranceRad : F) : Bool × PhysicalDevices F :=
  let broken := (self.find address).any
    (self.breaksContinuity · positionRad receivedAt atRestToleranceRad)
  (broken, self.modify address fun d =>
    { d with
      epoch := if broken then saturatingSucc d.epoch else d.epoch
      lastPositionRad := some positionRad
      lastSeen := some (laterThan d.lastSeen receivedAt) })

end

/-- A drive reporting Calibration mode is recalibrating its encoder. -/
def recordCalibrationMode (address : MotorAddress) : PhysicalDevices F :=
  self.modify address fun d => { d with epoch := saturatingSucc d.epoch }

/-- Coordinate epoch without the liveness rule. -/
def epoch (address : MotorAddress) : Option ℕ :=
  (self.find address).map (·.epoch)

/-- The instant the liveness rule counts silence from; `none` when never observed. -/
def silenceReference (d : Device F) (countedFrom : List (Option Instant)) :
    Option Instant :=
  (countedFrom ++ [self.lastOwnerWork, d.silenceCountsFrom]).foldl
    (fun acc t => t.elim acc fun t => some (laterThan acc t)) none

/-- Silence the liveness rule counts for `address` at `now`. -/
def countedSilence (address : MotorAddress) (now : Instant)
    (from_ : SilenceFrom) : Option Duration :=
  (self.find address).bind fun d =>
    match from_ with
    | .solicited none => some 0
    | .solicited (some t) => (self.silenceReference d [some t]).map (now - ·)
    | .withheld since => (self.silenceReference d [d.lastSeen, some since]).map (now - ·)
    | .lastFrame => (self.silenceReference d [d.lastSeen]).map (now - ·)

/-- Epoch of a granted address, or why it lapsed. -/
def liveEpoch (address : MotorAddress) (now : Instant)
    (window : Duration) (ownerBusy : Bool) (from_ : SilenceFrom) : Except Lapse ℕ :=
  match self.find address with
  | none => .error .silent
  | some d =>
    if ownerBusy then .ok d.epoch
    else match from_, d.owedOnFrom with
      | .lastFrame, some owedFrom =>
        -- the excuse ends a fixed bound after the host could first write the On
        if now - laterThan self.lastOwnerWork owedFrom ≤ owedOnWriteBound then .ok d.epoch
        else .error .owedOnUnwritten
      | _, _ =>
        match self.countedSilence address now from_ with
        | some silence => if silence ≤ window then .ok d.epoch else .error .silent
        | none => .error .silent

def uid (address : MotorAddress) : Option DeviceUid :=
  (self.find address).bind (·.uid)

/-- Latest admitted pose time of an address. -/
def lastSeen (address : MotorAddress) : Option Instant :=
  (self.find address).bind (·.lastSeen)

end PhysicalDevices

end Marengo

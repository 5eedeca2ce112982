import Marengo.Scalar

/-!
# Frames and reports of the motor bus

The vocabulary of the `robstride` crate that the supervisor sees: motor addresses, MIT commands,
the host calls of the `MotorBus` trait, the bus errors, and the feedback report one receive call
returns. A report keeps the transport's delivery order in the `order` field of each observation.
-/

namespace Marengo

/-- Static bus address of one configured motor. -/
structure MotorAddress where
  interface : String
  deviceId : UInt8
deriving DecidableEq

inductive MotorType
  | rs00 | rs02 | rs03 | rs04
deriving DecidableEq

/-- Drive state encoded in status CAN-ID bits 22..23. -/
inductive DriveMode
  | reset | calibration | run | reserved
deriving DecidableEq

/-- Run mode a drive is switched to after Enable. -/
inductive RunMode
  | mit | position | speed | current
deriving DecidableEq

inductive ReceiveCompletion
  | idle | quiet | workLimit | deadline | failed
deriving DecidableEq

/-- The receive observed an idle or quiet source. -/
def ReceiveCompletion.isComplete : ReceiveCompletion → Bool
  | idle | quiet => true
  | workLimit | deadline | failed => false

inductive RxFrameKind
  | data
  | remote (requestedLen : UInt8)
  | error
deriving DecidableEq

inductive MalformedReason
  | payloadLength (received : UInt8)
  | nonDataFrame
  | invalidEnvelope
deriving DecidableEq

/-- Eight raw payload bytes. -/
abbrev Payload := Vector UInt8 8

/-- Four raw payload bytes. -/
abbrev Word := Vector UInt8 4

/-- Drive parameters the host reads or writes. -/
inductive ParameterId
  | runMode | currentTarget | speedTarget | positionTarget | limitSpeed | limitTorque | positionKp
  | speedKp | speedKi | epScanTime | canTimeout | mechPos | mechVel | zeroSta | addOffset
deriving DecidableEq

def ParameterId.index : ParameterId → ℕ
  | runMode => 0x7005
  | currentTarget => 0x7006
  | speedTarget => 0x700A
  | positionTarget => 0x7016
  | limitSpeed => 0x7017
  | limitTorque => 0x700B
  | positionKp => 0x701E
  | speedKp => 0x701F
  | speedKi => 0x7020
  | epScanTime => 0x7026
  | canTimeout => 0x7028
  | mechPos => 0x7019
  | mechVel => 0x701B
  | zeroSta => 0x7029
  | addOffset => 0x702B

def ParameterId.ofIndex (index : ℕ) : Option ParameterId :=
  [runMode, currentTarget, speedTarget, positionTarget, limitSpeed, limitTorque, positionKp,
    speedKp, speedKi, epScanTime, canTimeout, mechPos, mechVel, zeroSta, addOffset].find?
      (·.index = index)

inductive ParameterKind
  | u8 | u16 | u32 | f32

def ParameterId.valueKind : ParameterId → ParameterKind
  | runMode | zeroSta => .u8
  | epScanTime => .u16
  | canTimeout => .u32
  | currentTarget | speedTarget | positionTarget | limitSpeed | limitTorque | positionKp | speedKp
  | speedKi | mechPos | mechVel | addOffset => .f32

inductive ParameterValue
  | u8 (value : UInt8)
  | u16 (value : ℕ)
  | u32 (value : ℕ)
  | f32 (bytes : Word)
deriving DecidableEq

/-- Command fields that a command error names. -/
inductive CommandField
  | position | velocity | proportionalGain | dampingGain | torqueFeedforward
  | firmwareParameter (parameter : ParameterId)
deriving DecidableEq

/-- Why a motor-space command was refused before encoding. -/
inductive CommandError
  | nonFinite (deviceId : UInt8) (field : CommandField)
  | negativeGain (deviceId : UInt8) (field : CommandField)
  | negativeValue (deviceId : UInt8) (field : CommandField)
  | outOfRange (deviceId : UInt8) (field : CommandField)
  | parameterType (deviceId : UInt8) (parameter : ParameterId)
  | unsupportedRunMode (deviceId : UInt8) (value : UInt8)
  | readOnlyParameter (deviceId : UInt8) (parameter : ParameterId)
  | forbiddenParameterWrite (deviceId : UInt8) (parameter : ParameterId)
  | forbiddenCommunicationType (commType : UInt8)
deriving DecidableEq

/-- Failures of a host write. The receive outcomes of `BusError` (an empty poll, an incomplete
drain, a malformed frame) are not among them: no write of the trait returns one. -/
inductive SendError
  | invalidCommand (error : CommandError)
  | send (message : String) (transient : Bool)
  | interfaceOwned (interface : String)
  | unknownJoint (joint : String)
  | unknownMotorAddress (interface : String) (deviceId : UInt8)
  | duplicateMotorAddress (interface : String) (deviceId : UInt8)
  | duplicateCommand (deviceId : UInt8)
  | commandAddressMismatch (address : MotorAddress) (commandDeviceId : UInt8)
  | driver (message : String)
deriving DecidableEq

/-- Failures of the motor bus: those of a write, and those of a receive. -/
inductive BusError
  | write (error : SendError)
  | recvTimeout
  | receiveIncomplete (completion : ReceiveCompletion)
  | malformedFeedback (address : MotorAddress) (reason : MalformedReason)
deriving DecidableEq

/-- A motor-space MIT command. -/
structure MitCommand (F : Type) where
  deviceId : UInt8
  motorType : MotorType
  positionRad : F
  velocityRadS : F
  kp : F
  kd : F
  torqueFfNm : F

/-- An MIT command with its route. -/
structure AddressedMitCommand (F : Type) where
  address : MotorAddress
  command : MitCommand F

/-- A host call of the `MotorBus` trait. A batch is one call. -/
inductive BusCall (F : Type)
  | mitControlAll (cmds : List (AddressedMitCommand F))
  | enableDrive (address : MotorAddress)
  | disableDrive (address : MotorAddress)
  | setZeroPosition (address : MotorAddress)
  | readParameter (address : MotorAddress) (parameter : ParameterId)
  | getDeviceId (address : MotorAddress)
  | getFirmwareVersion (address : MotorAddress)
  | setRunMode (address : MotorAddress) (mode : RunMode)
  | speedControl (address : MotorAddress) (velocityRadS : F)
  | enableActiveReporting (address : MotorAddress)
  | disableActiveReporting (address : MotorAddress)

/-- The addresses a call writes to, with repetition. -/
def BusCall.addresses {F : Type} : BusCall F → List MotorAddress
  | mitControlAll cmds => cmds.map (·.address)
  | enableDrive a | disableDrive a | setZeroPosition a | readParameter a _ | getDeviceId a
  | getFirmwareVersion a | setRunMode a _ | speedControl a _ | enableActiveReporting a
  | disableActiveReporting a => [a]

/-! ## Receive reports -/

structure MitFeedback (F : Type) where
  deviceId : UInt8
  positionRad : F
  velocityRadS : F
  torqueNm : F
  temperatureC : F
  statusFlags : UInt8
  driveMode : DriveMode

/-- Reply to a firmware version query: header hazards, never a pose. -/
structure FirmwareVersionFeedback where
  raw : Payload
  hostId : UInt8
  statusFlags : UInt8
  driveMode : DriveMode
deriving DecidableEq

/-- Complete type-21 payload: bytes 0..4 are detailed faults, bytes 4..8 are warnings. -/
structure DetailedFaultFeedback where
  faultBytes : Word
  warningBytes : Word

/-- Incomplete raw evidence of a vendor frame. -/
structure MalformedFeedback where
  raw : Payload
  payloadLen : UInt8
  kind : RxFrameKind
  reason : MalformedReason
  statusFlags : Option UInt8
  driveMode : Option DriveMode

/-- What one vendor frame of a configured actuator says. -/
inductive FeedbackEvent (F : Type)
  | status (feedback : MitFeedback F)
  | firmwareVersion (feedback : FirmwareVersionFeedback)
  | detailedFault (feedback : DetailedFaultFeedback)
  | malformed (feedback : MalformedFeedback)

/-- One configured actuator's observation, at its place in the raw receive order. -/
structure FeedbackObservation (F : Type) where
  order : ℕ
  address : MotorAddress
  receivedAt : Instant
  canId : UInt32
  event : FeedbackEvent F

structure TransportObservation where
  order : ℕ
  receivedAt : Instant
  interface : Option String
  canId : UInt32
  extended : Bool
  raw : Payload
  payloadLen : UInt8
  kind : RxFrameKind

/-- The 64-bit unique identifier of a drive. -/
abbrev DeviceUid := Payload

/-- Type-0 reply from a configured address. -/
structure IdentityObservation where
  order : ℕ
  address : MotorAddress
  receivedAt : Instant
  canId : UInt32
  uid : DeviceUid

structure ParameterReadReply where
  hostId : UInt8
  status : UInt8
  index : ℕ
  value : Word
deriving DecidableEq

def ParameterReadReply.succeeded (self : ParameterReadReply) : Bool := self.status = 0

/-- The parameter that the reply is about, if this driver knows it. -/
def ParameterReadReply.parameter (self : ParameterReadReply) : Option ParameterId :=
  ParameterId.ofIndex self.index

/-- The value in the register's type, little-endian; an `f32` keeps its bytes. -/
def ParameterReadReply.typedValue (self : ParameterReadReply) : Option ParameterValue :=
  self.parameter.map fun p =>
    match p.valueKind with
    | .u8 => .u8 self.value[0]
    | .u16 => .u16 (self.value[0].toNat + 256 * self.value[1].toNat)
    | .u32 => .u32 (self.value[0].toNat + 256 * self.value[1].toNat + 65536 * self.value[2].toNat +
        16777216 * self.value[3].toNat)
    | .f32 => .f32 self.value

/-- Type-17 reply addressed to this host from a configured address. -/
structure ParameterReadObservation where
  order : ℕ
  address : MotorAddress
  receivedAt : Instant
  canId : UInt32
  reply : ParameterReadReply

/-- Which host command an echo reads back. -/
inductive EchoedCommand
  | enable | reportingOff | setZero
deriving DecidableEq

/-- This host's own command, read back from the receive stream. -/
structure HostEchoObservation where
  order : ℕ
  address : MotorAddress
  receivedAt : Instant
  command : EchoedCommand

/-- Everything one receive call delivered. -/
structure FeedbackReport (F : Type) where
  observations : List (FeedbackObservation F)
  transportFrames : List TransportObservation
  completion : ReceiveCompletion
  rawFrames : ℕ
  readAttempts : ℕ
  terminalError : Option BusError
  terminalErrorOrder : Option ℕ
  identities : List IdentityObservation
  parameterReads : List ParameterReadObservation
  hostEchoes : List HostEchoObservation

def FeedbackReport.empty {F : Type} : FeedbackReport F where
  observations := []
  transportFrames := []
  completion := .idle
  rawFrames := 0
  readAttempts := 0
  terminalError := none
  terminalErrorOrder := none
  identities := []
  parameterReads := []
  hostEchoes := []

end Marengo

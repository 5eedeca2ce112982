import Marengo.Robstride.Frames

/-!
# Installed policy

The parts of the motors, control and homing configuration that the supervisor reads, with the
resolution functions it applies to them. Maps keyed by a name are lookup functions; a map that is
iterated is a list of pairs.
-/

namespace Marengo

variable {F : Type}

structure MotorBenchLimits (F : Type) where
  positionLowerRad : F
  positionUpperRad : F
  velocityLimitRadS : F
  torqueLimitNm : F

structure MotorEntry (F : Type) where
  joint : String
  driver : String
  motorType : MotorType
  canInterface : String
  deviceId : UInt8
  direction : Int
  gearRatio : F
  recvCanId : UInt32
  firmwareVersion : String
  bench : MotorBenchLimits F

def MotorEntry.address (m : MotorEntry F) : MotorAddress := ⟨m.canInterface, m.deviceId⟩

/-- `motors.yaml`. -/
structure MotorsConfig (F : Type) where
  motors : List (MotorEntry F)

def motorForJoint (motors : MotorsConfig F) (joint : String) : Option (MotorEntry F) :=
  motors.motors.find? (·.joint = joint)

structure MotorTypeDefaults (F : Type) where
  kpMax : F
  kdMax : F
  tauFfMaxNm : F
  velocityMaxRadS : F

/-- Joints that share one velocity cap. -/
structure ActuatorGroupEntry (F : Type) where
  joints : List String
  velocityMaxRadS : F

/-- What Davout does when a joint's drive goes silent while Active. -/
inductive OnDriveLoss
  | disableAll | shedSubtree
deriving DecidableEq

structure JointControlEntry (F : Type) where
  motorType : MotorType
  velocityMaxRadS : Option F
  positionTrajectoryAccelRadS2 : F
  positionTrajectoryVelocityDeadbandRad : F
  positionHoldTrimRad : F
  onDriveLoss : OnDriveLoss
  positionLimitMarginMinRad : F
  positionLimitMarginKVS : F
  positionLimitMarginKStop : F
  positionLimitMeasuredFaultSlackRad : F
  positionSoftLowerRad : Option F
  positionSoftUpperRad : Option F

/-- A region of joint space in which commands are refused or limited. -/
structure DangerZoneRule (F : Type) where
  name : String
  joint : String
  positionAboveRad : F
  velocityBelowRadS : F
  action : String
  maxVelocityRadS : F
  maxTorqueNm : Option F

structure WrongSignWatchdogConfig (F : Type) where
  enabled : Bool
  expectedSignAtPositiveQ : Int
  minVelocityRadS : F
  minOppositionTicks : ℕ
  gracePeriodTicks : ℕ

structure DriveLossConfig (F : Type) where
  holdWindowS : F
  lowerVelocityRadS : F
  lowerSettleS : F
  lowerMaxS : F
  tauMarginNm : F

/-- `control.yaml`. -/
structure ControlConfig (F : Type) where
  loopHz : ℕ
  commWatchdogMs : ℕ
  feedbackDrainQuietUs : ℕ
  tauFfRateLimitNmPerS : F
  activeReportingDiagnostics : Bool
  motorTypeDefaults : MotorType → Option (MotorTypeDefaults F)
  actuatorGroups : List (String × ActuatorGroupEntry F)
  joints : String → Option (JointControlEntry F)
  dangerZones : List (DangerZoneRule F)
  wrongSignWatchdog : WrongSignWatchdogConfig F
  driveLoss : Option (DriveLossConfig F)

/-- How a joint's reference is acquired. -/
inductive HomingMethod
  | none | manualReference | hallThreeSensor
deriving DecidableEq

inductive SearchDirection
  | positive | negative
deriving DecidableEq

structure SensorInput where
  gpio : UInt8
  activeHigh : Bool
deriving DecidableEq

structure HomingSensors where
  home : SensorInput
  minLimit : SensorInput
  maxLimit : SensorInput
deriving DecidableEq

structure HomingJointDefaults (F : Type) where
  homeOffsetRad : F
  searchDirection : SearchDirection
  searchVelocityRadS : F
  searchTorqueNm : F
  searchTimeoutS : F
  backoffRad : F
  signTestRequired : Bool
  allowSensorOverlap : Bool

/-- A joint's homing policy: its method and what it overrides. -/
structure HomingJointEntry (F : Type) where
  method : HomingMethod
  homeOffsetRad : Option F
  searchDirection : Option SearchDirection
  searchVelocityRadS : Option F
  searchTorqueNm : Option F
  searchTimeoutS : Option F
  backoffRad : Option F
  signTestRequired : Option Bool
  allowSensorOverlap : Option Bool
  sensors : Option HomingSensors

/-- `homing.yaml`. -/
structure HomingConfig (F : Type) where
  zeroVerifyToleranceRad : F
  calibrationRecordPath : String
  defaults : HomingJointDefaults F
  joints : String → Option (HomingJointEntry F)

/-- A joint's homing policy with the defaults filled in. -/
structure EffectiveHomingJoint (F : Type) where
  joint : String
  method : HomingMethod
  homeOffsetRad : F
  searchDirection : SearchDirection
  searchVelocityRadS : F
  searchTorqueNm : F
  searchTimeoutS : F
  backoffRad : F
  signTestRequired : Bool
  allowSensorOverlap : Bool
  sensors : Option HomingSensors

def HomingConfig.effectiveJoint (self : HomingConfig F) (joint : String) :
    Option (EffectiveHomingJoint F) :=
  (self.joints joint).map fun o =>
    let d := self.defaults
    { joint := joint
      method := o.method
      homeOffsetRad := o.homeOffsetRad.getD d.homeOffsetRad
      searchDirection := o.searchDirection.getD d.searchDirection
      searchVelocityRadS := o.searchVelocityRadS.getD d.searchVelocityRadS
      searchTorqueNm := o.searchTorqueNm.getD d.searchTorqueNm
      searchTimeoutS := o.searchTimeoutS.getD d.searchTimeoutS
      backoffRad := o.backoffRad.getD d.backoffRad
      signTestRequired := o.signTestRequired.getD d.signTestRequired
      allowSensorOverlap := o.allowSensorOverlap.getD d.allowSensorOverlap
      sensors := o.sensors }

inductive ConfigError
  | unknownMotorJoint (joint : String)
  | invalidSafetyConfig (field message : String)
  | invalidLimitMargin (joint message : String)
  | invalidActuatorGroup (group message : String)
  | invalidGravityCompGains (joint message : String)
  | missingControlJoint (joint : String)
  | duplicateMotorAddress (interface : String) (deviceId : UInt8)
  | invalidVelocity (joint message : String)
  | parse (path message : String)
  | other (message : String)
deriving DecidableEq

def invalid (field message : String) : ConfigError := .invalidSafetyConfig field message

/-- `char::is_whitespace`: the Unicode White_Space characters. -/
def isWhitespace (c : Char) : Bool :=
  let n := c.toNat
  (9 ≤ n && n ≤ 13) || n = 0x20 || n = 0x85 || n = 0xA0 || n = 0x1680 ||
    (0x2000 ≤ n && n ≤ 0x200A) || n = 0x2028 || n = 0x2029 || n = 0x202F || n = 0x205F ||
    n = 0x3000

/-- A name with some character that is not white space. -/
def named (field value : String) : Except ConfigError Unit :=
  if value.toList.all isWhitespace then .error (invalid field "must not be empty") else .ok ()

section
variable [Scalar F]

def finite (field : String) (value : F) : Except ConfigError Unit :=
  if isFinite value then .ok () else .error (invalid field "must be finite")

def nonnegative (field : String) (value : F) : Except ConfigError Unit := do
  finite field value
  if blt value (lit 0) then .error (invalid field "must be >= 0") else .ok ()

def positive (field : String) (value : F) : Except ConfigError Unit := do
  finite field value
  if ble value (lit 0) then .error (invalid field "must be > 0") else .ok ()

def actuatorGroupForJoint (joint : String) (control : ControlConfig F) :
    Option (ActuatorGroupEntry F) :=
  (control.actuatorGroups.find? fun g => g.2.joints.contains joint).map (·.2)

def motorTypeKey : MotorType → String
  | .rs00 => "rs00"
  | .rs02 => "rs02"
  | .rs03 => "rs03"
  | .rs04 => "rs04"

/-- A velocity cap, refused unless it is finite and positive. -/
def admitVelocityCap (joint message : String) (v : F) : Except ConfigError F :=
  if !isFinite v || ble v (lit 0) then .error (.invalidVelocity joint message)
  else .ok v

/-- Velocity cap of a joint: its own, its group's or its motor family's. -/
def resolveJointVelocityCap (joint : String) (motorType : MotorType) (control : ControlConfig F) :
    Except ConfigError F :=
  match (control.joints joint).bind (·.velocityMaxRadS) with
  | some v => admitVelocityCap joint "velocity_max_rad_s must be finite and > 0" v
  | none =>
    match actuatorGroupForJoint joint control with
    | some g => admitVelocityCap joint "actuator group velocity_max_rad_s must be finite and > 0"
        g.velocityMaxRadS
    | none =>
      match control.motorTypeDefaults motorType with
      | some d => admitVelocityCap joint ("motor_type_defaults." ++ motorTypeKey motorType ++
          ".velocity_max_rad_s must be finite and > 0") d.velocityMaxRadS
      | none => .error (.invalidVelocity joint ("missing motor_type_defaults." ++
          motorTypeKey motorType))

/-- What the configuration requires of one motor, given those before it. -/
def validateMotor (seen : List (MotorEntry F)) (m : MotorEntry F) : Except ConfigError Unit := do
  named "motors.joint" m.joint
  named "motors.can_interface" m.canInterface
  if seen.any (·.joint = m.joint) then
    .error (invalid "motors.joint" ("duplicate joint " ++ m.joint))
  else if seen.any fun p => p.canInterface = m.canInterface && p.deviceId = m.deviceId then
    .error (.duplicateMotorAddress m.canInterface m.deviceId)
  else if ¬(m.direction = -1 ∨ m.direction = 1) then
    .error (invalid ("motors." ++ m.joint ++ ".direction") "must be -1 or +1")
  else do
    positive ("motors." ++ m.joint ++ ".gear_ratio") m.gearRatio
    finite ("motors." ++ m.joint ++ ".bench.position_lower_rad") m.bench.positionLowerRad
    finite ("motors." ++ m.joint ++ ".bench.position_upper_rad") m.bench.positionUpperRad
    if ble m.bench.positionUpperRad m.bench.positionLowerRad then
      .error (invalid ("motors." ++ m.joint ++ ".bench") "hard lower must be < hard upper")
    else do
      nonnegative ("motors." ++ m.joint ++ ".bench.velocity_limit_rad_s") m.bench.velocityLimitRadS
      nonnegative ("motors." ++ m.joint ++ ".bench.torque_limit_nm") m.bench.torqueLimitNm

/-- `validate_motors_config`, over the motors after `seen`. -/
def validateMotorsFrom (seen : List (MotorEntry F)) : List (MotorEntry F) → Except ConfigError Unit
  | [] => .ok ()
  | m :: rest => do
    validateMotor seen m
    validateMotorsFrom (seen ++ [m]) rest

/-- Unique motor identity, valid transforms and ordered bench envelopes. -/
def validateMotorsConfig (motors : MotorsConfig F) : Except ConfigError Unit :=
  validateMotorsFrom [] motors.motors

omit [Scalar F] in
theorem ok_of_bind {α β ε : Type} {x : Except ε α} {f : α → Except ε β} {b : β}
    (h : (x >>= f) = .ok b) : ∃ a, x = .ok a ∧ f a = .ok b := by
  cases x with
  | error => cases h
  | ok a => exact ⟨a, rfl, h⟩

omit [Scalar F] in
theorem mapError_ok {ε ε' α : Type} {x : Except ε α} {f : ε → ε'} {a : α}
    (h : x.mapError f = .ok a) : x = .ok a := by
  cases x with
  | error e => cases h
  | ok b =>
    cases h
    rfl

end

/-- Motors that passed validation: one motor per joint and one per address. -/
structure InstalledMotors (F : Type) where
  entries : List (MotorEntry F)
  joints_nodup : (entries.map (·.joint)).Nodup
  addresses_nodup : (entries.map (·.address)).Nodup

/-! ## A bench

The policy of a bench with one motor, in exact arithmetic. The concrete runs of the development are
runs of this bench. -/

namespace Bench

def motor : MotorEntry ℚ where
  joint := "elbow"
  driver := "robstride"
  motorType := .rs02
  canInterface := "can0"
  deviceId := 1
  direction := 1
  gearRatio := 1
  recvCanId := 253
  firmwareVersion := "0.2.3.1"
  bench := ⟨-2, 2, 4, 8⟩

def motors : MotorsConfig ℚ := ⟨[motor]⟩

def joint : JointControlEntry ℚ where
  motorType := .rs02
  velocityMaxRadS := some 2
  positionTrajectoryAccelRadS2 := 4
  positionTrajectoryVelocityDeadbandRad := 0
  positionHoldTrimRad := 0
  onDriveLoss := .disableAll
  positionLimitMarginMinRad := 1 / 10
  positionLimitMarginKVS := 0
  positionLimitMarginKStop := 0
  positionLimitMeasuredFaultSlackRad := 1 / 10
  positionSoftLowerRad := none
  positionSoftUpperRad := none

def control : ControlConfig ℚ where
  loopHz := 200
  commWatchdogMs := 100
  feedbackDrainQuietUs := 100
  tauFfRateLimitNmPerS := 10
  activeReportingDiagnostics := false
  motorTypeDefaults := fun _ => some ⟨40, 2, 6, 3⟩
  actuatorGroups := []
  joints := fun name => if name = "elbow" then some joint else none
  dangerZones := []
  wrongSignWatchdog := ⟨false, 1, 1, 1, 1⟩
  driveLoss := none

def homing : HomingConfig ℚ where
  zeroVerifyToleranceRad := 1 / 100
  calibrationRecordPath := "calibration.json"
  defaults := ⟨0, .positive, 1, 1, 1, 0, false, false⟩
  joints := fun name =>
    if name = "elbow" then
      some ⟨.manualReference, none, none, none, none, none, none, none, none, none⟩
    else none

end Bench

end Marengo

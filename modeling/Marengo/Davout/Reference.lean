import Marengo.Config
import Mathlib.Data.Finset.Basic

/-!
# The reference authority

Motion is admitted only for joints that hold a current-reference permission. `ReferenceAuthority`
is that permission: the joints it covers, the policy it was granted under, and one
`ConsumedReferenceBinding` per joint whose durable reference was consumed. A binding names the
commit job, the installed model, the device epoch and the device identity it was granted for; it
can be revoked and is never restored. Identity tokens (`Arc<()>` values compared by pointer) are
natural numbers handed out once.
-/

namespace Marengo

/-- An identity token, compared by pointer in the source. -/
abbrev Token := ℕ

/-- Generation and descriptor identity of the installed model. -/
structure InstalledModelStamp where
  generation : ℕ
  descriptor : Token
deriving DecidableEq

/-- Binding captured from the consumed evidence of one joint. -/
structure ConsumedReferenceBinding where
  job : Token
  model : InstalledModelStamp
  joint : String
  address : MotorAddress
  deviceEpoch : ℕ
  uid : Option DeviceUid
  revoked : Bool := false
  /-- Revoked because the drive went silent beyond the watchdog. -/
  revokedSilent : Bool := false
deriving DecidableEq

/-- How a consumed selection combines with existing permission. -/
inductive SelectionScope
  /-- The selected joint replaces all prior coverage. -/
  | replace
  /-- Per-joint grants accumulate under one policy. -/
  | accumulate
deriving DecidableEq

/-- The policy a permission was granted under. -/
structure TypedPolicy (F : Type) where
  motors : MotorsConfig F
  control : ControlConfig F
  homing : HomingConfig F

def Bench.policy : TypedPolicy ℚ := ⟨Bench.motors, Bench.control, Bench.homing⟩

/-- Owner-local permission. -/
structure ReferenceAuthority (F : Type) where
  joints : Finset String := ∅
  policy : Option (TypedPolicy F) := none
  realm : Option Token := none
  consumed : List ConsumedReferenceBinding := []
  accumulates : Bool := false
  revoked : Bool := false
  generation : ℕ := 0

variable {F : Type}

/-- `u64::checked_add(1)`. -/
def checkedSucc (n : ℕ) : Option ℕ := if n < maxU64 then some (n + 1) else none

namespace ReferenceAuthority

/-- Initial permission of the sealed virtual owner. -/
def initialVirtual (realm : Token) (joints : Finset String) (policy : TypedPolicy F) :
    ReferenceAuthority F where
  joints := joints
  policy := some policy
  realm := some realm
  generation := 1

variable (self : ReferenceAuthority F)

/-- The generation grows, saturating at `u64::MAX`. -/
def bumpGeneration : ReferenceAuthority F :=
  { self with generation := saturatingSucc self.generation }

def revoke : ReferenceAuthority F :=
  if self.revoked then self else { self.bumpGeneration with revoked := true }

theorem revoked_revoke : self.revoke.revoked = true := by
  unfold revoke
  split
  · assumption
  · rfl

/-- Replace the bindings that satisfy `p`. -/
def modifyBindings (p : ConsumedReferenceBinding → Bool)
    (f : ConsumedReferenceBinding → ConsumedReferenceBinding) (self : ReferenceAuthority F) :
    ReferenceAuthority F :=
  { self with consumed := self.consumed.map fun b => if p b then f b else b }

/-- Revoke one grant; peers bound to other devices remain. The source passes the binding itself;
an authority has at most one per joint, so here its joint names it. -/
def revokeBinding (joint : String) : ReferenceAuthority F :=
  if self.consumed.any fun b => b.joint = joint && !b.revoked then
    (self.modifyBindings (·.joint = joint) fun b => { b with revoked := true }).bumpGeneration
  else self

/-- `revokeBinding`, for a drive silent beyond the watchdog. -/
def revokeBindingSilent (joint : String) : ReferenceAuthority F :=
  (self.modifyBindings (fun b => b.joint = joint && !b.revoked)
    fun b => { b with revokedSilent := true }).revokeBinding joint

/-- The joint's own grant was revoked for silence. -/
def jointRevokedSilent (joint : String) : Bool :=
  self.consumed.any fun b => b.joint = joint && b.revokedSilent

def revokeJoint (joint : String) : ReferenceAuthority F :=
  match self.consumed.find? (·.joint = joint) with
  | some b => self.revokeBinding b.joint
  | none => self

/-- Revoke exactly the permission that job `job` selected. -/
def revokeSelected (job : Token) : ReferenceAuthority F :=
  match self.consumed.find? (·.job = job) with
  | some b => if self.accumulates then self.revokeBinding b.joint else self.revoke
  | none => self

/-- A new acquisition invalidates all prior coverage; refused when the counter is exhausted. -/
def invalidateForAcquisition : Option (ReferenceAuthority F) :=
  (checkedSucc self.generation).map fun next => { self with revoked := true, generation := next }

/-- A physical acquisition invalidates only the target's binding. -/
def invalidateJointForAcquisition (joint : String) :
    Option (ReferenceAuthority F) :=
  (checkedSucc self.generation).map fun next =>
    let revokedFirst := match self.consumed.find? (·.joint = joint) with
      | some b => self.modifyBindings (·.joint = b.joint) fun b => { b with revoked := true }
      | none => self
    { revokedFirst with revoked := self.revoked || !self.accumulates, generation := next }

def contains (joint : String) : Bool :=
  !self.revoked && joint ∈ self.joints &&
    (self.consumed.isEmpty || self.consumed.any fun b => b.joint = joint && !b.revoked)

/-- Some unrevoked permission was selected by job `job`. -/
def selectedBy (job : Token) : Bool :=
  !self.revoked && self.consumed.any fun b => !b.revoked && b.job = job

def bindingFor (joint : String) : Option ConsumedReferenceBinding :=
  self.consumed.find? fun b => b.joint = joint && !b.revoked

/-- Every binding was granted for this installed model. -/
def validateConsumedModel (model : InstalledModelStamp) : Bool :=
  self.consumed.all (·.model = model)

section
variable [Scalar F]

def optBeq (a b : Option F) : Bool :=
  match a, b with
  | none, none => true
  | some x, some y => beq x y
  | _, _ => false

def routeMatches (old new : MotorEntry F) : Bool :=
  old.joint = new.joint && old.driver = new.driver && old.motorType = new.motorType &&
    old.canInterface = new.canInterface && old.deviceId = new.deviceId &&
    old.direction = new.direction && beq old.gearRatio new.gearRatio &&
    old.recvCanId = new.recvCanId && old.firmwareVersion = new.firmwareVersion

def motorReferenceMatches (old new : MotorEntry F) : Bool :=
  routeMatches old new &&
    beq old.bench.positionLowerRad new.bench.positionLowerRad &&
    beq old.bench.positionUpperRad new.bench.positionUpperRad &&
    beq old.bench.velocityLimitRadS new.bench.velocityLimitRadS

/-- The control policy a reference depends on: the installed envelope and the resolved velocity
cap. Gains, torque caps and watchdog timings may change. -/
def controlReferenceMatches (motor : MotorEntry F) (old new : ControlConfig F) : Bool :=
  match old.joints motor.joint, new.joints motor.joint with
  | some o, some n =>
    o.motorType = n.motorType &&
    beq o.positionHoldTrimRad n.positionHoldTrimRad &&
    optBeq o.positionSoftLowerRad n.positionSoftLowerRad &&
    optBeq o.positionSoftUpperRad n.positionSoftUpperRad &&
    beq o.positionLimitMarginMinRad n.positionLimitMarginMinRad &&
    beq o.positionLimitMarginKVS n.positionLimitMarginKVS &&
    beq o.positionLimitMarginKStop n.positionLimitMarginKStop &&
    beq o.positionLimitMeasuredFaultSlackRad n.positionLimitMeasuredFaultSlackRad &&
    beq o.positionTrajectoryVelocityDeadbandRad n.positionTrajectoryVelocityDeadbandRad &&
    beq o.positionTrajectoryAccelRadS2 n.positionTrajectoryAccelRadS2 &&
    old.wrongSignWatchdog.expectedSignAtPositiveQ = new.wrongSignWatchdog.expectedSignAtPositiveQ &&
    optBeq (resolveJointVelocityCap motor.joint motor.motorType old).toOption
      (resolveJointVelocityCap motor.joint motor.motorType new).toOption
  | _, _ => false

def homingReferenceMatches (old new : EffectiveHomingJoint F) : Bool :=
  old.joint = new.joint && old.method = new.method &&
    beq old.homeOffsetRad new.homeOffsetRad &&
    old.searchDirection = new.searchDirection &&
    beq old.searchVelocityRadS new.searchVelocityRadS &&
    beq old.searchTorqueNm new.searchTorqueNm &&
    beq old.searchTimeoutS new.searchTimeoutS &&
    beq old.backoffRad new.backoffRad &&
    old.signTestRequired = new.signTestRequired &&
    old.allowSensorOverlap = new.allowSensorOverlap && old.sensors = new.sensors

/-- The bound and the current policy of one motor agree. -/
def boundMotorMatches (bound : TypedPolicy F) (control : ControlConfig F) (homing : HomingConfig F)
    (old new : MotorEntry F) : Bool :=
  motorReferenceMatches old new && controlReferenceMatches old bound.control control &&
    match bound.homing.effectiveJoint old.joint, homing.effectiveJoint new.joint with
    | some o, some n => homingReferenceMatches o n
    | _, _ => false

/-- The current policy agrees with the one the permission was granted under. -/
def policyMatches (self : ReferenceAuthority F) (motors : MotorsConfig F) (homing : HomingConfig F)
    (control : ControlConfig F) : Bool :=
  match self.policy with
  | none => false
  | some bound =>
    bound.motors.motors.length = motors.motors.length &&
    (bound.motors.motors.zip motors.motors).all
      (fun p => boundMotorMatches bound control homing p.1 p.2) &&
    beq bound.homing.zeroVerifyToleranceRad homing.zeroVerifyToleranceRad &&
    bound.homing.calibrationRecordPath = homing.calibrationRecordPath

/-- Check the current policy; a mismatch revokes all coverage. -/
def validateBinding (self : ReferenceAuthority F) (motors : MotorsConfig F)
    (homing : HomingConfig F) (control : ControlConfig F) : Bool × ReferenceAuthority F :=
  if self.revoked || self.realm.isNone then (false, self)
  else if self.policyMatches motors homing control then (true, self)
  else (false, self.revoke)

/-- Grant the permission of a consumed binding; refused when the counter is exhausted. -/
def selectConsumed (self : ReferenceAuthority F) (realm : Token)
    (binding : ConsumedReferenceBinding) (policy : TypedPolicy F) (scope : SelectionScope) :
    Option (ReferenceAuthority F) :=
  (checkedSucc self.generation).map fun next =>
    if scope = .accumulate && self.accumulates && !self.revoked && self.realm = some realm &&
        self.policyMatches policy.motors policy.homing policy.control then
      { self with
        consumed := self.consumed.filter (·.joint ≠ binding.joint) ++ [binding]
        joints := insert binding.joint self.joints
        generation := next }
    else
      { joints := {binding.joint}
        policy := some policy
        realm := some realm
        consumed := [binding]
        accumulates := scope = .accumulate
        revoked := false
        generation := next }

end

end ReferenceAuthority

end Marengo

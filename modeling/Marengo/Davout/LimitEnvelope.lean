import Marengo.Davout.Inspection

/-!
# Installing limits

`buildLimits` derives the runtime limit policy of every robot joint from the URDF, the bench limits
of its motor and the control configuration. A limit patch or a restored snapshot replaces policy,
model and limits together, never while Active, and ends the current reference permission.
-/

namespace Marengo

variable {F : Type}

section
variable [World F]

/-- `joint_limit_bounds`: the hard limits of a URDF joint with the soft bounds of its safety
controller. -/
def jointLimitBounds (urdf joint : String) : Except DavoutError (JointLimitBounds F) := do
  let hard : JointLimits F ← (World.jointLimits urdf joint).mapError .urdf
  (JointLimitBounds.fromHardAndSoft hard.lower hard.upper (hard.soft.map (·.1))
    (hard.soft.map (·.2))).mapError fun e =>
      .urdf ("joint " ++ joint ++ ": unusable limits: " ++ World.showBounds e)

/-- The margin tuning of a joint's control policy. -/
def limitMarginFromConfig (c : JointControlEntry F) : LimitMarginConfig F where
  minRad := c.positionLimitMarginMinRad
  kVS := c.positionLimitMarginKVS
  kStop := c.positionLimitMarginKStop
  velocityDeadbandRadS := c.positionTrajectoryVelocityDeadbandRad
  measuredFaultSlackRad := c.positionLimitMeasuredFaultSlackRad
  decelRadS2 := c.positionTrajectoryAccelRadS2

def showRange (lower upper : F) : String :=
  "[" ++ World.showNum lower ++ ", " ++ World.showNum upper ++ "]"

/-- Hard bounds of URDF and bench, soft bounds of the control policy, clamped into the hard ones. -/
def jointBounds (joint : String) (urdf : JointLimits F) (bench : MotorBenchLimits F)
    (bounds : JointLimitBounds F) (control : Option (JointControlEntry F)) :
    Except DavoutError (JointLimitBounds F × JointControlEntry F) :=
  let lo := Scalar.max urdf.lower bench.positionLowerRad
  let hi := Scalar.min urdf.upper bench.positionUpperRad
  if ble hi lo then
    .error (.limit joint ("URDF " ++ showRange urdf.lower urdf.upper ++ " and bench " ++
      showRange bench.positionLowerRad bench.positionUpperRad ++ " hard bounds do not overlap"))
  else match control with
    | none => .error (.limit joint ("missing control.joints." ++ joint))
    | some c =>
      let softLo := (c.positionSoftLowerRad.map (clamp · lo hi)).getD bounds.softLower
      let softHi := (c.positionSoftUpperRad.map (clamp · lo hi)).getD bounds.softUpper
      let softLo := clamp softLo lo hi
      let softHi := clamp softHi lo hi
      if blt softLo lo || blt hi softHi then
        .error (.limit joint ("soft " ++ showRange softLo softHi ++ " not within hard " ++
          showRange lo hi))
      else .ok (⟨lo, hi, softLo, softHi⟩, c)

def buildLimit (maxJointTorqueNm : F) (motors : MotorsConfig F) (control : ControlConfig F)
    (urdf joint : String) : Except DavoutError (JointLimitPolicy F) := do
  let lim : JointLimits F ← (World.jointLimits urdf joint).mapError .urdf
  let bounds ← jointLimitBounds urdf joint
  match motorForJoint motors joint with
  | none => .error (.unknownJoint joint)
  | some motor => do
    let (bounds, c) ← jointBounds joint lim motor.bench bounds (control.joints joint)
    match control.motorTypeDefaults motor.motorType with
    | none => .error (.limit joint ("missing motor_type_defaults." ++ motorTypeKey motor.motorType))
    | some defaults => do
      let velocity ← (resolveJointVelocityCap joint motor.motorType control).mapError .config
      let effort := Scalar.min (Scalar.min lim.effort motor.bench.torqueLimitNm) maxJointTorqueNm
      pure
        { bounds := bounds
          margin := limitMarginFromConfig c
          velocity := velocity
          effort := effort
          tauFfMax := Scalar.min effort defaults.tauFfMaxNm }

def buildLimits (robotJoints : List String) (maxJointTorqueNm : F) (motors : MotorsConfig F)
    (control : ControlConfig F) (urdf : String) :
    Except DavoutError (String → Option (JointLimitPolicy F)) :=
  robotJoints.foldlM (fun limits joint => do
    let policy ← buildLimit maxJointTorqueNm motors control urdf joint
    pure (Function.update limits joint (some policy))) fun _ => none

/-- The next installed model. Its descriptor is a new one, whatever it contains. -/
def InstalledModelStamp.replacement (self : InstalledModelStamp) (urdf : String) :
    Prog (System F) DavoutError InstalledModelStamp := do
  ensure (self.generation < maxU64) .installedGenerationExhausted
  lift ((World.modelFits F urdf).mapError fun m => .referenceModel (boundedMessage m))
  let descriptor ← freshToken
  pure ⟨self.generation + 1, descriptor⟩

/-- Replace policy, model and limits. A change of the installed model cannot keep a reference. -/
def installCandidate (candidate : LimitCandidate F) (limits : String → Option (JointLimitPolicy F)) :
    Prog (System F) DavoutError Unit := do
  let s ← read
  let model ← s.installedModel.replacement candidate.urdf
  revokeReference
  update fun s => { s with
    installedModel := model
    urdf := candidate.urdf
    motors := candidate.motors
    control := candidate.control
    limits := limits }

/-! ## Limit patches -/

def invalidPatch (message : String) : ConfigError := .parse "limit patch" message

def validateFiniteOptional (name : String) (value : Option F) : Except ConfigError Unit :=
  if value.any (!isFinite ·) then .error (invalidPatch (name ++ " must be finite"))
  else .ok ()

def validatePositiveOptional (name : String) (value : Option F) : Except ConfigError Unit := do
  validateFiniteOptional name value
  if value.any (ble · (lit 0)) then
    .error (invalidPatch (name ++ " must be greater than zero"))
  else .ok ()

def validateLimitPatch (patch : LimitPatch F) : Except ConfigError Unit :=
  if trim patch.joint = "" then .error (invalidPatch "joint must not be empty")
  else if !isFinite patch.positionLowerRad || !isFinite patch.positionUpperRad then
    .error (invalidPatch "hard position limits must be finite")
  else if ble patch.positionUpperRad patch.positionLowerRad then
    .error (invalidPatch ("position_lower_rad " ++ World.showNum patch.positionLowerRad ++
      " must be less than position_upper_rad " ++ World.showNum patch.positionUpperRad))
  else do
    validatePositiveOptional "torque_limit_nm" patch.torqueLimitNm
    validateFiniteOptional "position_soft_lower_rad" patch.positionSoftLowerRad
    validateFiniteOptional "position_soft_upper_rad" patch.positionSoftUpperRad
    validatePositiveOptional "velocity_max_rad_s" patch.velocityMaxRadS
    match patch.positionSoftLowerRad, patch.positionSoftUpperRad with
    | some lower, some upper =>
      if blt upper lower then
        .error (invalidPatch ("position_soft_lower_rad " ++ World.showNum lower ++
          " must not exceed position_soft_upper_rad " ++ World.showNum upper))
      else .ok ()
    | _, _ => .ok ()

/-- The gap between a taught hard limit and its soft one. -/
def defaultSoftInsetRad : F := lit (27 / 1000)

def softLimitsWithInset (hardLower hardUpper inset : F) : F × F :=
  let span := hardUpper - hardLower
  if !isFinite span || ble span (lit 0) then (hardLower, hardUpper)
  else
    let inset := clamp inset (lit 0) (span * lit (1 / 4))
    (hardLower + inset, hardUpper - inset)

/-- Fill the soft bounds that the patch leaves out. -/
def LimitPatch.ensureSoftInset (patch : LimitPatch F) : LimitPatch F :=
  let soft := softLimitsWithInset patch.positionLowerRad patch.positionUpperRad
    defaultSoftInsetRad
  { patch with
    positionSoftLowerRad := some (patch.positionSoftLowerRad.getD soft.1)
    positionSoftUpperRad := some (patch.positionSoftUpperRad.getD soft.2) }

def applyLimitPatchToMotor (motor : MotorEntry F) (patch : LimitPatch F) :
    Except ConfigError (MotorEntry F) := do
  validateLimitPatch patch
  if motor.joint ≠ patch.joint then
    .error (invalidPatch ("patch for joint " ++ patch.joint ++ " cannot update motor for " ++
      motor.joint))
  else .ok { motor with
    bench := { motor.bench with
      positionLowerRad := patch.positionLowerRad
      positionUpperRad := patch.positionUpperRad
      torqueLimitNm := patch.torqueLimitNm.getD motor.bench.torqueLimitNm } }

def applyLimitPatchToControl (entry : JointControlEntry F) (patch : LimitPatch F) :
    Except ConfigError (JointControlEntry F) := do
  validateLimitPatch patch
  let inside := (clamp · patch.positionLowerRad patch.positionUpperRad)
  let lower := (patch.positionSoftLowerRad.or entry.positionSoftLowerRad).map inside
  let upper := (patch.positionSoftUpperRad.or entry.positionSoftUpperRad).map inside
  let patched := { entry with
    positionSoftLowerRad := lower
    positionSoftUpperRad := upper
    velocityMaxRadS := patch.velocityMaxRadS.or entry.velocityMaxRadS }
  match lower, upper with
  | some lo, some hi =>
    if blt hi lo then
      .error (invalidPatch ("effective soft lower " ++ World.showNum lo ++
        " must not exceed effective soft upper " ++ World.showNum hi))
    else .ok patched
  | _, _ => .ok patched

def Supervisor.patchCandidate (self : Supervisor F) (patch : LimitPatch F) :
    Except DavoutError (LimitCandidate F) := do
  (validateLimitPatch patch).mapError .config
  let patch := patch.ensureSoftInset
  let urdf ← (World.expandUrdfJointHard self.urdf patch.joint patch.positionLowerRad
    patch.positionUpperRad).mapError (DavoutError.limit patch.joint)
  match motorForJoint self.motors patch.joint with
  | none => .error (.unknownJoint patch.joint)
  | some motor => do
    let motor ← (applyLimitPatchToMotor motor patch).mapError .config
    match self.control.joints patch.joint with
    | none => .error (.unknownJoint patch.joint)
    | some entry => do
      let entry ← (applyLimitPatchToControl entry patch).mapError .config
      let motors : MotorsConfig F :=
        ⟨modifyFirst (·.joint = patch.joint) (fun _ => motor) self.motors.motors⟩
      let control := { self.control with
        joints := Function.update self.control.joints patch.joint (some entry) }
      (validateControlAgainstLimits motors control).mapError .config
      pure ⟨urdf, motors, control⟩

/-! ## Replacing policy -/

/-- The fresh measured position of a joint lies inside its proposed hard limits. -/
def checkMeasuredPosition (joint : String) (policy : JointLimitPolicy F) :
    Prog (System F) DavoutError Unit := do
  let t ← now
  let s ← read
  match s.publishedState joint t with
  | none => fail (.limit joint ("no fresh measured position to check against the proposed " ++
      "limits; poll the drive's status and retry"))
  | some sample =>
    ensure (¬(blt sample.positionRad policy.bounds.hardLower ∨
        blt policy.bounds.hardUpper sample.positionRad))
      (.limit joint ("measured position " ++ World.showNum sample.positionRad ++
        " outside proposed hard " ++ showRange policy.bounds.hardLower policy.bounds.hardUpper))

def applyLimitPatch (patch : LimitPatch F) : Prog (System F) DavoutError Unit := do
  refuseReferenceInterference "apply_limit_patch"
  let s ← read
  ensure (s.mode ≠ .active) .limitPatchActive
  let _ ← referenceBindingValid
  let s ← read
  let candidate ← lift (s.patchCandidate patch)
  let limits ← lift (buildLimits s.robotJoints s.maxJointTorqueNm candidate.motors
    candidate.control candidate.urdf)
  match limits patch.joint with
  | none => fail (.unknownJoint patch.joint)
  | some policy => do
    checkMeasuredPosition patch.joint policy
    installCandidate candidate limits

/-- Restore motors, control and URDF together with the limits they imply. -/
def restoreLimitSnapshot (candidate : LimitCandidate F) : Prog (System F) DavoutError Unit := do
  refuseReferenceInterference "model restore"
  let s ← read
  ensure (s.mode ≠ .active) .limitPatchActive
  let _ ← referenceBindingValid
  let s ← read
  lift ((validateSafetyConfig candidate.motors candidate.control
    s.homingConfig).mapError .config)
  let limits ← lift (buildLimits s.robotJoints s.maxJointTorqueNm candidate.motors
    candidate.control candidate.urdf)
  installCandidate candidate limits

end

end Marengo

import Marengo.Davout.World

/-!
# Configuration files and their validation

The configuration as the files hold it, with the fields that only validation and the controller read,
and `validate_control_against_limits`: identities, numeric policy, soft bounds and planner caps. A map
of the file is a list of entries in the order the map is iterated. `ControlFile.config` is the policy
that the supervisor installs.

Every check of a group of fields stops at the first one it refuses, and names it.
-/

namespace Marengo

variable {F : Type}

/-! ## The files -/

/-- `robot.yaml`. -/
structure RobotFile (F : Type) where
  urdf : String
  maxJointTorqueNm : F
  joints : List String

structure ModeGains (F : Type) where
  kp : F
  kd : F
  ki : F

structure FrictionGains (F : Type) where
  fc : F
  fv : F
  fo : F
  k : F
  fs : Option F
  vB : Option F

inductive PositionLaw
  | legacy | scaledPd
deriving DecidableEq

/-- One joint of `control.yaml`: the policy the supervisor reads, and the controller's. -/
structure JointFileEntry (F : Type) extends JointControlEntry F where
  gravityComp : ModeGains F
  impedance : ModeGains F
  friction : FrictionGains F
  positionSlewRadS : F
  positionSlewMaxLeadRad : F
  positionTrajectoryThresholdRad : F
  positionTrajectoryVelocityRadS : F
  positionLaw : PositionLaw
  positionTimeScaleE0Rad : Option F
  positionIntegralBandRad : Option F
  positionIntegralLeakS : Option F
  positionIntegralCapNm : Option F
  positionHostDampingNmSPerRad : Option F
  positionHostDampingFilterS : Option F
  positionFfStepMaxNm : Option F

/-- `control.yaml`. -/
structure ControlFile (F : Type) where
  loopHz : ℕ
  chappeStateHz : ℕ
  commWatchdogMs : ℕ
  feedbackDrainQuietUs : ℕ
  tauFfRateLimitNmPerS : F
  activeReportingDiagnostics : Bool
  motorTypeDefaults : List (String × MotorTypeDefaults F)
  actuatorGroups : List (String × ActuatorGroupEntry F)
  joints : List (String × JointFileEntry F)
  dangerZones : List (DangerZoneRule F)
  wrongSignWatchdog : WrongSignWatchdogConfig F
  driveLoss : Option (DriveLossConfig F)

def ControlFile.config (self : ControlFile F) : ControlConfig F where
  loopHz := self.loopHz
  commWatchdogMs := self.commWatchdogMs
  feedbackDrainQuietUs := self.feedbackDrainQuietUs
  tauFfRateLimitNmPerS := self.tauFfRateLimitNmPerS
  activeReportingDiagnostics := self.activeReportingDiagnostics
  motorTypeDefaults := fun t => self.motorTypeDefaults.lookup (motorTypeKey t)
  actuatorGroups := self.actuatorGroups
  joints := fun joint => (self.joints.lookup joint).map (·.toJointControlEntry)
  dangerZones := self.dangerZones
  wrongSignWatchdog := self.wrongSignWatchdog
  driveLoss := self.driveLoss

/-! ## Checks -/

/-- `if bad { return Err(e) }`. -/
def refuse (bad : Prop) [Decidable bad] (e : ConfigError) : Except ConfigError Unit :=
  if bad then .error e else .ok ()

/-- The check of every element, given those before it. -/
def checkFrom {α : Type} (check : List α → α → Except ConfigError Unit) (seen : List α) :
    List α → Except ConfigError Unit
  | [] => .ok ()
  | x :: rest => do
    check seen x
    checkFrom check (seen ++ [x]) rest

def checkEach {α : Type} (check : α → Except ConfigError Unit) (xs : List α) :
    Except ConfigError Unit :=
  checkFrom (fun _ => check) [] xs

def checkSome {α : Type} (check : α → Except ConfigError Unit) (x : Option α) :
    Except ConfigError Unit :=
  x.elim (.ok ()) check

section
variable [World F]

def isPositive (v : F) : Bool := isFinite v && !ble v (lit 0)

/-! ## Robot and motors -/

/-- Robot URDF path, bench caps and joints. -/
def validateRobotConfig (robot : RobotFile F) : Except ConfigError Unit := do
  named "robot.urdf" robot.urdf
  nonnegative "robot.bench.max_joint_torque_nm" robot.maxJointTorqueNm
  checkFrom (fun seen joint => do
    named "robot.joints" joint
    refuse (joint ∈ seen) (invalid "robot.joints" ("duplicate joint " ++ joint))) [] robot.joints

/-- Every motor references a joint of the robot. -/
def validateMotorsAgainstRobot (robot : RobotFile F) (motors : MotorsConfig F) :
    Except ConfigError Unit := do
  validateRobotConfig robot
  validateMotorsConfig motors
  checkEach (fun m => refuse (m.joint ∉ robot.joints) (.unknownMotorJoint m.joint)) motors.motors

/-! ## Control numbers -/

/-- Limit margins are finite and nonnegative, and soft bounds that are both given are ordered. -/
def JointFileEntry.limitMarginFieldsValid (self : JointFileEntry F) (joint : String) :
    Except ConfigError Unit := do
  checkEach (fun (name, value) => refuse
      (!isFinite value || blt value (lit 0))
      (.invalidLimitMargin joint (name ++ " must be finite and >= 0")))
    [("position_limit_margin_min_rad", self.positionLimitMarginMinRad),
      ("position_limit_margin_k_v_s", self.positionLimitMarginKVS),
      ("position_limit_margin_k_stop", self.positionLimitMarginKStop),
      ("position_limit_measured_fault_slack_rad", self.positionLimitMeasuredFaultSlackRad)]
  refuse (self.positionSoftLowerRad.any (!isFinite ·) ||
      self.positionSoftUpperRad.any (!isFinite ·))
    (.invalidLimitMargin joint "soft bounds must be finite")
  match self.positionSoftLowerRad, self.positionSoftUpperRad with
  | some lo, some hi =>
    refuse (blt hi lo) (.invalidLimitMargin joint ("position_soft_lower_rad " ++
      World.showNum lo ++ " > position_soft_upper_rad " ++ World.showNum hi))
  | _, _ => .ok ()

/-- The gains of GravityComp on the wire are zero. -/
def JointFileEntry.gravityCompGainsValid (self : JointFileEntry F) (joint : String) :
    Except ConfigError Unit := do
  let g := self.gravityComp
  let eps : F := lit (1 / 1000000000)
  refuse (!isFinite g.kp || !isFinite g.kd || !isFinite g.ki)
    (.invalidGravityCompGains joint "gravity_comp kp/kd/ki must be finite")
  refuse (blt eps (Scalar.abs g.kp) || blt eps (Scalar.abs g.kd) ||
      blt eps (Scalar.abs g.ki))
    (.invalidGravityCompGains joint "gravity_comp kp/kd/ki must be 0.0 (ADR 0004)")

def jointField (joint name : String) : String := "control.joints." ++ joint ++ "." ++ name

/-- The parameters of the scaled-PD law that are given. -/
def validateScaledPdNumbers (joint : String) (entry : JointFileEntry F) :
    Except ConfigError Unit := do
  let field := jointField joint
  checkSome (fun e0 => do
    nonnegative (field "position_time_scale_e0_rad") e0
    refuse (ble entry.positionSlewMaxLeadRad e0) (invalid (field "position_time_scale_e0_rad")
      "must be below position_slew_max_lead_rad (e1)")) entry.positionTimeScaleE0Rad
  checkSome (positive (field "position_integral_band_rad")) entry.positionIntegralBandRad
  checkSome (fun cap => do
    positive (field "position_integral_cap_nm") cap
    refuse (blt (lit (1 / 2)) cap) (invalid (field "position_integral_cap_nm")
      "must be <= 0.5")) entry.positionIntegralCapNm
  checkSome (nonnegative (field "position_host_damping_nm_s_per_rad"))
    entry.positionHostDampingNmSPerRad
  checkSome (positive (field "position_host_damping_filter_s")) entry.positionHostDampingFilterS
  checkSome (positive (field "position_ff_step_max_nm")) entry.positionFfStepMaxNm
  checkSome (positive (field "position_integral_leak_s")) entry.positionIntegralLeakS
  checkSome (fun fs => do
    finite (field "friction.fs") fs
    refuse (blt fs entry.friction.fc) (invalid (field "friction.fs")
      "must be >= friction.fc")) entry.friction.fs
  checkSome (positive (field "friction.v_b")) entry.friction.vB
  if entry.positionLaw = .scaledPd then
    positive (field "position_slew_max_lead_rad") entry.positionSlewMaxLeadRad
  else .ok ()

def validateJointNumbers (joint : String) (entry : JointFileEntry F) : Except ConfigError Unit := do
  named "control.joints" joint
  checkEach (fun (name, value) => nonnegative (jointField joint name) value)
    [("position_slew_rad_s", entry.positionSlewRadS),
      ("position_slew_max_lead_rad", entry.positionSlewMaxLeadRad),
      ("position_trajectory_threshold_rad", entry.positionTrajectoryThresholdRad),
      ("position_trajectory_velocity_deadband_rad", entry.positionTrajectoryVelocityDeadbandRad)]
  positive (jointField joint "position_trajectory_velocity_rad_s")
    entry.positionTrajectoryVelocityRadS
  positive (jointField joint "position_trajectory_accel_rad_s2") entry.positionTrajectoryAccelRadS2
  finite (jointField joint "position_hold_trim_rad") entry.positionHoldTrimRad
  validateScaledPdNumbers joint entry

/-- A gain of a joint against the cap of its motor type. -/
def gainWithin (name cap : String) (typeKey : String) (value bound : F) : Except ConfigError Unit :=
  refuse (blt bound value) (.parse "control.yaml" (name ++ " " ++ World.showNum value ++
    " exceeds " ++ cap ++ " " ++ World.showNum bound ++ " for " ++ typeKey))

variable (control : ControlFile F)

/-- The gains of a joint within the caps of its motor type. -/
def validateEntryGainsAgainstMotorType (joint : String)
    (entry : JointFileEntry F) : Except ConfigError Unit :=
  let typeKey := motorTypeKey entry.motorType
  match control.motorTypeDefaults.lookup typeKey with
  | none => .error (.parse "control.yaml" ("missing motor_type_defaults." ++ typeKey))
  | some defaults => do
    let gains := [entry.impedance.kp, entry.impedance.kd, entry.impedance.ki, entry.friction.fc,
      entry.friction.fv, entry.friction.k, defaults.kpMax, defaults.kdMax, defaults.tauFfMaxNm]
    refuse (gains.any (fun v => !isFinite v || blt v (lit 0)) ||
        !isFinite entry.friction.fo)
      (.parse "control.yaml" ("joint " ++ joint ++ " gains and type maxima must be finite and >= 0; " ++
        "friction.fo must be finite"))
    gainWithin "impedance.kp" "kp_max" typeKey entry.impedance.kp defaults.kpMax
    gainWithin "impedance.kd" "kd_max" typeKey entry.impedance.kd defaults.kdMax
    -- the schema has no ki_max
    gainWithin "impedance.ki" "kp_max" typeKey entry.impedance.ki defaults.kpMax
    gainWithin "friction.fc" "tau_ff_max_nm" typeKey entry.friction.fc defaults.tauFfMaxNm
    gainWithin "friction.fs" "tau_ff_max_nm" typeKey (entry.friction.fs.getD entry.friction.fc)
      defaults.tauFfMaxNm

/-- A danger zone, given those before it. -/
def validateDangerZone (seen : List (DangerZoneRule F))
    (rule : DangerZoneRule F) : Except ConfigError Unit := do
  let field := fun name => "control.danger_zones." ++ rule.name ++ "." ++ name
  named "control.danger_zones.name" rule.name
  refuse (seen.any (·.name = rule.name)) (invalid "control.danger_zones.name"
    ("duplicate rule " ++ rule.name))
  refuse ((control.joints.lookup rule.joint).isNone) (invalid (field "joint")
    "must name a control joint")
  refuse (rule.action ≠ "clamp_velocity" ∧ rule.action ≠ "clamp_torque") (invalid (field "action")
    "must be clamp_velocity or clamp_torque")
  refuse (rule.action = "clamp_torque" ∧ rule.maxTorqueNm.isNone) (invalid (field "max_torque_nm")
    "clamp_torque requires an explicit torque cap")
  finite (field "position_above_rad") rule.positionAboveRad
  finite (field "velocity_below_rad_s") rule.velocityBelowRadS
  nonnegative (field "max_velocity_rad_s") rule.maxVelocityRadS
  checkSome (nonnegative (field "max_torque_nm")) rule.maxTorqueNm

/-- A joint that sheds needs the timing of an episode, and the timing must be usable. -/
def validateDriveLoss : Except ConfigError Unit :=
  match control.driveLoss with
  | none =>
    match control.joints.find? (·.2.onDriveLoss = .shedSubtree) with
    | some (joint, _) => .error (invalid ("control.joints." ++ joint ++ ".on_drive_loss")
        "shed_subtree requires a control.drive_loss block")
    | none => .ok ()
  | some d => do
    checkEach (fun (name, value) => positive ("control.drive_loss." ++ name) value)
      [("hold_window_s", d.holdWindowS), ("lower_velocity_rad_s", d.lowerVelocityRadS),
        ("lower_settle_s", d.lowerSettleS), ("lower_max_s", d.lowerMaxS)]
    nonnegative "control.drive_loss.tau_margin_nm" d.tauMarginNm

def validateMotorTypeDefaults (motorType : String) (d : MotorTypeDefaults F) :
    Except ConfigError Unit := do
  let field := fun name => "control.motor_type_defaults." ++ motorType ++ "." ++ name
  refuse (motorType ∉ ["rs00", "rs02", "rs03", "rs04"]) (invalid "control.motor_type_defaults"
    ("unsupported motor type " ++ motorType))
  checkEach (fun (name, value) => nonnegative (field name) value)
    [("kp_max", d.kpMax), ("kd_max", d.kdMax), ("tau_ff_max_nm", d.tauFfMaxNm)]
  positive (field "velocity_max_rad_s") d.velocityMaxRadS

/-- Rates, caps, joints, danger zones, the watchdog and drive loss. -/
def validateControlNumbers : Except ConfigError Unit := do
  refuse (control.loopHz = 0 ∨ 1000000 < control.loopHz) (invalid "control.loop_hz"
    "must be between 1 and 1000000 Hz")
  refuse (control.chappeStateHz = 0 ∨ control.loopHz < control.chappeStateHz)
    (invalid "control.chappe_state_hz" "must be positive and <= loop_hz")
  refuse (control.commWatchdogMs = 0) (invalid "control.comm_watchdog_ms" "must be > 0")
  refuse (control.feedbackDrainQuietUs = 0 ∨
      1000000 / control.loopHz < control.feedbackDrainQuietUs)
    (invalid "control.feedback_drain_quiet_us" "must be positive and fit within one control tick")
  nonnegative "control.tau_ff_rate_limit_nm_per_s" control.tauFfRateLimitNmPerS
  checkEach (fun (motorType, d) => validateMotorTypeDefaults motorType d) control.motorTypeDefaults
  checkEach (fun (joint, entry) => do
    validateJointNumbers joint entry
    validateEntryGainsAgainstMotorType control joint entry) control.joints
  checkFrom (validateDangerZone control) [] control.dangerZones
  let sign := control.wrongSignWatchdog
  refuse (sign.expectedSignAtPositiveQ ≠ -1 ∧ sign.expectedSignAtPositiveQ ≠ 1)
    (invalid "control.wrong_sign_watchdog.expected_sign_at_positive_q" "must be -1 or +1")
  nonnegative "control.wrong_sign_watchdog.min_velocity_rad_s" sign.minVelocityRadS
  refuse (sign.minOppositionTicks = 0)
    (invalid "control.wrong_sign_watchdog.min_opposition_ticks" "must be > 0")
  validateDriveLoss control

/-! ## Control policy -/

/-- An actuator group, given those before it. -/
def validateActuatorGroup (seen : List (String × ActuatorGroupEntry F))
    (group : String × ActuatorGroupEntry F) : Except ConfigError Unit := do
  let (name, entry) := group
  refuse (!isPositive entry.velocityMaxRadS) (.invalidActuatorGroup name
    "velocity_max_rad_s must be finite and > 0")
  refuse (entry.joints = []) (.invalidActuatorGroup name "joints must not be empty")
  checkFrom (fun before joint => do
    refuse ((control.joints.lookup joint).isNone) (.invalidActuatorGroup name
      ("joint " ++ joint ++ " not in control.joints"))
    let other := ((seen.find? fun g => joint ∈ g.2.joints).map (·.1)).or
      (if joint ∈ before then some name else none)
    checkSome (fun other => .error (.invalidActuatorGroup name ("joint " ++ joint ++
      " already in group " ++ other))) other) [] entry.joints

/-- Groups, margins, gains and numbers of the control policy. -/
def validateControlConfig : Except ConfigError Unit := do
  checkFrom (validateActuatorGroup control) [] control.actuatorGroups
  checkEach (fun (joint, entry) => do
    entry.limitMarginFieldsValid joint
    checkSome (fun v => refuse (!isPositive v) (.invalidVelocity joint
      "velocity_max_rad_s must be finite and > 0")) entry.velocityMaxRadS
    entry.gravityCompGainsValid joint) control.joints
  validateControlNumbers control

/-- What one joint of the robot needs from control and motors. -/
def validateRobotJoint (motors : MotorsConfig F) (control : ControlFile F) (joint : String) :
    Except ConfigError Unit :=
  match control.joints.lookup joint with
  | none => .error (.missingControlJoint joint)
  | some entry =>
    match motorForJoint motors joint with
    | none => .error (invalid "robot.joints" ("joint " ++ joint ++
        " has no matching motors.yaml entry"))
    | some motor => do
      refuse (entry.motorType ≠ motor.motorType)
        (invalid ("control.joints." ++ joint ++ ".motor_type") "must match motors.yaml")
      checkEach (fun bound => refuse (blt bound motor.bench.positionLowerRad ||
          blt motor.bench.positionUpperRad bound)
        (.invalidLimitMargin joint "soft bounds must lie within motor hard bounds"))
        (entry.positionSoftLowerRad.toList ++ entry.positionSoftUpperRad.toList)
      let cap ← resolveJointVelocityCap joint motor.motorType control.config
      refuse (blt (cap + lit (1 / 1000000000)) entry.positionTrajectoryVelocityRadS)
        (.invalidVelocity joint ("position_trajectory_velocity_rad_s " ++
          World.showNum entry.positionTrajectoryVelocityRadS ++ " > velocity cap " ++
          World.showNum cap))

/-- `validate_control_against_limits`: identities, numeric policy, soft bounds and planner caps. -/
def validateFiles (robot : RobotFile F) (motors : MotorsConfig F) (control : ControlFile F) :
    Except ConfigError Unit := do
  validateMotorsAgainstRobot robot motors
  validateControlConfig control
  checkEach (fun joint => refuse ((control.joints.lookup joint).isNone) (.missingControlJoint joint))
    robot.joints
  checkEach (fun (joint, _) => refuse (joint ∉ robot.joints) (invalid "control.joints" ("joint " ++
    joint ++ " not in robot.joints"))) control.joints
  checkEach (fun (group, entry) => checkEach (fun joint => refuse (joint ∉ robot.joints)
    (.invalidActuatorGroup group ("joint " ++ joint ++ " not in robot.joints"))) entry.joints)
    control.actuatorGroups
  checkEach (validateRobotJoint motors control) robot.joints

end

/-! ## What the checks establish -/

theorem refuse_ok {bad : Prop} [Decidable bad] {e : ConfigError} (h : refuse bad e = .ok ()) :
    ¬bad := by
  unfold refuse at h
  split at h
  · cases h
  · assumption

theorem checkFrom_ok {α : Type} {check : List α → α → Except ConfigError Unit} {seen xs : List α}
    (h : checkFrom check seen xs = .ok ()) : ∀ x ∈ xs, ∃ before, check before x = .ok () := by
  induction xs generalizing seen with
  | nil => exact fun x hx => absurd hx List.not_mem_nil
  | cons x rest ih =>
    obtain ⟨_, hx, hrest⟩ := ok_of_bind h
    exact List.forall_mem_cons.mpr ⟨⟨seen, hx⟩, ih hrest⟩

theorem checkEach_ok {α : Type} {check : α → Except ConfigError Unit} {xs : List α}
    (h : checkEach check xs = .ok ()) : ∀ x ∈ xs, check x = .ok () := fun x hx =>
  let ⟨_, hcheck⟩ := checkFrom_ok h x hx
  hcheck

section
variable [World F] {robot : RobotFile F} {motors : MotorsConfig F} {control : ControlFile F}

/-- The soft bounds of a valid file are ordered where a joint has both. -/
theorem validateFiles_soft (h : validateFiles robot motors control = .ok ()) {joint : String}
    {entry : JointControlEntry F} (hentry : control.config.joints joint = some entry) {lo hi : F}
    (hlo : entry.positionSoftLowerRad = some lo) (hhi : entry.positionSoftUpperRad = some hi) :
    ¬blt hi lo := by
  obtain ⟨_, -, h⟩ := ok_of_bind h
  obtain ⟨_, hcontrol, -⟩ := ok_of_bind h
  obtain ⟨_, -, hcontrol⟩ := ok_of_bind hcontrol
  obtain ⟨_, hjoints, -⟩ := ok_of_bind hcontrol
  obtain ⟨file, hfile, rfl⟩ := Option.map_eq_some_iff.mp hentry
  obtain ⟨before, after, hlist, -⟩ := List.lookup_eq_some_iff.mp hfile
  have hmem : (joint, file) ∈ control.joints := by
    rw [hlist]
    exact List.mem_append_right _ (.head _)
  obtain ⟨_, hmargin, -⟩ := ok_of_bind (checkEach_ok hjoints _ hmem)
  obtain ⟨_, -, hmargin⟩ := ok_of_bind hmargin
  obtain ⟨_, -, hmargin⟩ := ok_of_bind hmargin
  dsimp only at hmargin
  rw [hlo, hhi] at hmargin
  exact refuse_ok hmargin

end

end Marengo

import Marengo.Davout.Enable

/-!
# The MIT command filter

`filterMitCore` takes one joint command through the limits: gain caps, the position envelope, danger
zones, the velocity cap, the slewed torque feedforward and the bound on the total torque that the
drive computes. It changes no state; what a sent command advances is returned for the caller to
commit. A bound that a clamp of the source would refuse (a lower end above the upper one) does not
occur in a validated policy.
-/

namespace Marengo

variable {F : Type}

/-- A command whose predicted total torque exceeded the cap and was scaled towards feedback. -/
structure TotalTorqueClamp (F : Type) where
  predictedNm : F
  boundedNm : F
  capNm : F
  scale : F

/-- A filtered command and what it was judged on. -/
structure FilteredMit (F : Type) where
  out : MitJointCommand F
  qMeas : F
  dqMeas : F
  totalTorque : Option (TotalTorqueClamp F)
  envelopeClamped : Bool

section
variable [World F] {ε : Type}

def validateFinite (joint field : String) (value : F) : Except DavoutError Unit :=
  if isFinite value then .ok () else .error (.invalidCommand joint (field ++ " must be finite"))

variable (cmd : MitJointCommand F)

/-- Every field is finite and no gain is negative. -/
def validateMitCommand : Except DavoutError Unit := do
  validateFinite cmd.joint "position" cmd.positionRad
  validateFinite cmd.joint "velocity" cmd.velocityRadS
  validateFinite cmd.joint "kp" cmd.kp
  validateFinite cmd.joint "kd" cmd.kd
  validateFinite cmd.joint "torque_ff" cmd.torqueFfNm
  if blt cmd.kp (lit 0) || blt cmd.kd (lit 0) then
    .error (.invalidCommand cmd.joint "kp/kd must be nonnegative")
  else .ok ()

/-- A value that fits a motor-space `f32`. -/
def checkedWireFloat (joint field : String) (value : F) : Except DavoutError F := do
  validateFinite joint field value
  if isFinite (narrow value) then .ok (narrow value)
  else .error (.invalidCommand joint (field ++ " overflows motor-space f32"))

/-- The motor-space wire command of a joint command. -/
def jointToMotorCommand (motor : MotorEntry F) (cmd : MitJointCommand F) :
    Except DavoutError (MitCommand F) := do
  let scale ← motorPositionScale motor
  let gainScale := scale * scale
  if !isFinite gainScale || ble gainScale (lit 0) then
    .error (.invalidMotorConfig motor.joint "gear ratio squared must be finite and nonzero")
  else do
    let position ← checkedWireFloat cmd.joint "position" (cmd.positionRad * scale)
    let velocity ← checkedWireFloat cmd.joint "velocity" (cmd.velocityRadS * scale)
    let kp ← checkedWireFloat cmd.joint "kp" (cmd.kp / gainScale)
    let kd ← checkedWireFloat cmd.joint "kd" (cmd.kd / gainScale)
    let torque ← checkedWireFloat cmd.joint "torque_ff" (cmd.torqueFfNm / scale)
    .ok ⟨motor.deviceId, motor.motorType, position, velocity, kp, kd, torque⟩

/-! ## Torque -/

/-- The time a slew step may use: the time since the last tick, at most one control period. -/
def slewTime (sinceLastTick : Option Duration) : F :=
  clamp (sinceLastTick.elim (lit (1 / 100)) secsF64) (lit (1 / 10000))
    (lit (1 / 100))

/-- Slewed and capped torque feedforward from the joint's previous output. -/
def rateLimitTauFf (previous : Option F) (target rateNmS : F) (sinceLastTick : Option Duration)
    (torqueCapNm : F) : F :=
  let prev := clamp (previous.getD (lit 0)) (-torqueCapNm) torqueCapNm
  let target := clamp target (-torqueCapNm) torqueCapNm
  let maxStep := rateNmS * slewTime sinceLastTick
  let delta := clamp (target - prev) (-maxStep) maxStep
  clamp (prev + delta) (-torqueCapNm) torqueCapNm

/-- Velocity-error margin of the torque prediction. -/
def totalTorqueVelocityMarginRadS : F := lit (1 / 10)

/-- Control periods of joint motion that the position-error margin covers. -/
def totalTorqueHorizonTicks : F := lit 2

def marginNm (dq horizonS : F) : F :=
  cmd.kp * (Scalar.max (Scalar.abs dq) (Scalar.abs cmd.velocityRadS) * horizonS) +
    cmd.kd * totalTorqueVelocityMarginRadS

/-- The drive's proportional and damping torque. -/
def pdTorque (q dq : F) : F :=
  cmd.kp * (cmd.positionRad - q) + cmd.kd * (cmd.velocityRadS - dq)

/-- Worst-case torque that the drive may compute. -/
def predictedTotalTorqueNm (q dq horizonS : F) : F :=
  Scalar.abs (pdTorque cmd q dq + cmd.torqueFfNm) + marginNm cmd dq horizonS

/-- The torque the clamp aims at, within what moving the setpoints towards feedback can reach. -/
def reachableTorque (pd torqueFf capNm margin : F) : F :=
  let upper := capNm - margin - torqueFf
  let lower := -capNm + margin - torqueFf
  let target := if ble lower upper then clamp pd lower upper else -torqueFf
  clamp target (Scalar.min pd (lit 0)) (Scalar.max pd (lit 0))

/-- Scale the command's errors towards feedback until the predicted total torque is within the cap.
`none` leaves the command as it is. -/
def clampTotalTorque (q dq capNm horizonS : F) :
    Except DavoutError (MitJointCommand F × Option (TotalTorqueClamp F)) := do
  validateFinite cmd.joint "position" cmd.positionRad
  validateFinite cmd.joint "velocity" cmd.velocityRadS
  validateFinite cmd.joint "kp" cmd.kp
  validateFinite cmd.joint "kd" cmd.kd
  validateFinite cmd.joint "torque_ff" cmd.torqueFfNm
  let pd := pdTorque cmd q dq
  let margin := marginNm cmd dq horizonS
  let reachable := reachableTorque pd cmd.torqueFfNm capNm margin
  let scale := reachable / pd
  let position := q + scale * (cmd.positionRad - q)
  let velocity := dq + scale * (cmd.velocityRadS - dq)
  if !isFinite q || !isFinite dq then
    .error (.invalidFeedback cmd.joint
      "total-torque bound needs finite position and velocity feedback")
  else if !isFinite capNm || blt capNm (lit 0) ||
      !isFinite horizonS || ble horizonS (lit 0) then
    .error (.limit cmd.joint ("total-torque bound needs a finite cap (" ++ World.showNum capNm ++
      ") and horizon"))
  else if !isFinite pd || !isFinite margin then
    .error (.invalidCommand cmd.joint "predicted total torque overflows")
  else if beq reachable pd then .ok (cmd, none)
  else if !isFinite position || !isFinite velocity ||
      !(ble (lit 0) scale && ble scale (lit 1)) then
    .error (.invalidCommand cmd.joint "total-torque clamp produced a non-finite setpoint")
  else .ok ({ cmd with positionRad := position, velocityRadS := velocity },
    some
      { predictedNm := predictedTotalTorqueNm cmd q dq horizonS
        boundedNm := Scalar.abs (reachable + cmd.torqueFfNm) + margin
        capNm := capNm
        scale := scale })

/-! ## Danger zones -/

def DangerZoneRule.applies (self : DangerZoneRule F) (joint : String) (qMeas dqMeas : F) : Bool :=
  self.joint = joint && !ble qMeas self.positionAboveRad &&
    !ble self.velocityBelowRadS dqMeas

/-- `f64::min` with a cap that may be infinite. -/
def minCap (x : F) (cap : Option F) : F := cap.elim x (Scalar.min x)

/-- Clamp the command by the rules that apply. The result is the smallest torque cap among them;
`none` is an infinite one. -/
def applyDangerZoneClamps (qMeas dqMeas : F) (cmd : MitJointCommand F) (torqueCap : Option F) :
    List (DangerZoneRule F) → Except DavoutError (MitJointCommand F × Option F)
  | [] => .ok (cmd, torqueCap)
  | rule :: rest =>
    if rule.applies cmd.joint qMeas dqMeas = false then
      applyDangerZoneClamps qMeas dqMeas cmd torqueCap rest
    else if rule.action = "clamp_velocity" then
      let velocity := if blt cmd.velocityRadS (lit 0) then
          Scalar.max cmd.velocityRadS (-rule.maxVelocityRadS)
        else Scalar.min cmd.velocityRadS rule.maxVelocityRadS
      applyDangerZoneClamps qMeas dqMeas { cmd with velocityRadS := velocity } torqueCap rest
    else if rule.action = "clamp_torque" then
      match rule.maxTorqueNm with
      | none => .error (.invalidMotorConfig cmd.joint
          ("danger zone " ++ rule.name ++ " has no max_torque_nm"))
      | some max =>
        let cap := Scalar.max max (lit 0)
        applyDangerZoneClamps qMeas dqMeas
          { cmd with torqueFfNm := clamp cmd.torqueFfNm (-cap) cap }
          (some (minCap cap torqueCap)) rest
    else .error (.invalidMotorConfig cmd.joint
      ("danger zone " ++ rule.name ++ " has unknown action " ++ rule.action))

/-! ## The filter -/

/-- The velocity that the position envelope is judged at: the larger of command and measurement. -/
def envelopeVelocity (commanded measured : F) : F :=
  if ble (Scalar.abs measured) (Scalar.abs commanded) then commanded
  else if blt (lit (1 / 1000000000)) (Scalar.abs measured) then measured
  else commanded

def JointLimitPolicy.insideHard (self : JointLimitPolicy F) (position : F) : Bool :=
  !blt position self.bounds.hardLower && !blt self.bounds.hardUpper position

/-- The two values differ by more than a rounding error. -/
def moved (a b : F) : Bool := blt (lit (1 / 1000000000)) (Scalar.abs (a - b))

/-- `[lower, upper]` of the hard limits, for an error message. -/
def JointLimitPolicy.showHard (self : JointLimitPolicy F) : String :=
  "[" ++ World.showNum self.bounds.hardLower ++ ", " ++ World.showNum self.bounds.hardUpper ++ "]"

/-- Neither servo nor feedforward: a status solicit. -/
def MitJointCommand.keepalive (self : MitJointCommand F) : Bool :=
  beq self.kp (lit 0) && beq self.kd (lit 0) &&
    beq self.torqueFfNm (lit 0)

/-- Clamp the position into the envelope; a keepalive's position is only checked. -/
def filterPosition (lim : JointLimitPolicy F) (cmd : MitJointCommand F) (qMeas dqMeas : F) :
    Except DavoutError (MitJointCommand F) :=
  if cmd.keepalive then
    if lim.insideHard cmd.positionRad then .ok cmd
    else .error (.limit cmd.joint ("position " ++ World.showNum cmd.positionRad ++ " outside " ++
      lim.showHard))
  else
    let clamped := clampPositionInEnvelope lim qMeas (envelopeVelocity cmd.velocityRadS dqMeas)
      cmd.positionRad
    if lim.insideHard clamped then .ok { cmd with positionRad := clamped }
    else .error (.limit cmd.joint ("position " ++ World.showNum clamped ++ " outside hard " ++
      lim.showHard ++ " after envelope clamp"))

/-- The gains in motor space are within the motor type's maximum. -/
def checkGains (motor : MotorEntry F) (defaults : MotorTypeDefaults F) :
    Except DavoutError Unit := do
  let scale ← motorPositionScale motor
  let gainScale := scale * scale
  if !isFinite gainScale || ble gainScale (lit 0) ||
      blt defaults.kpMax (cmd.kp / gainScale) ||
      blt defaults.kdMax (cmd.kd / gainScale) then
    .error (.limit cmd.joint "motor-space kp/kd exceed motor type max")
  else .ok ()

def torqueCapNm (lim : JointLimitPolicy F) (motor : MotorEntry F) (defaults : MotorTypeDefaults F)
    (dangerZoneCap : Option F) : F :=
  minCap (Scalar.min (Scalar.min lim.tauFfMax motor.bench.torqueLimitNm) defaults.tauFfMaxNm)
    dangerZoneCap

def ControlConfig.horizonS (self : ControlConfig F) : F :=
  totalTorqueHorizonTicks / lit self.loopHz

/-- What a command is judged on: the measured pose, and the time since the last tick. -/
structure FilterInputs (F : Type) where
  qMeas : F
  dqMeas : F
  sinceLastTick : Option Duration

/-- Limits, envelope, danger zones, feedforward slew and total torque of one command. -/
def Supervisor.filterMitCore (self : Supervisor F) (cmd : MitJointCommand F) (motor : MotorEntry F)
    (inputs : FilterInputs F) : Except DavoutError (FilteredMit F) := do
  validateMitCommand cmd
  match self.limits cmd.joint with
  | none => .error (.unknownJoint cmd.joint)
  | some lim =>
    match self.control.motorTypeDefaults motor.motorType with
    | none => .error (.limit cmd.joint
        ("no defaults for motor type " ++ motorTypeKey motor.motorType))
    | some defaults => do
      checkGains cmd motor defaults
      let placed ← filterPosition lim cmd inputs.qMeas inputs.dqMeas
      let (zoned, zoneCap) ← applyDangerZoneClamps inputs.qMeas inputs.dqMeas placed none
        self.control.dangerZones
      if blt lim.velocity (Scalar.abs zoned.velocityRadS) then
        .error (.limit cmd.joint ("|velocity| " ++ World.showNum zoned.velocityRadS ++ " > " ++
          World.showNum lim.velocity))
      else do
        let cap := torqueCapNm lim motor defaults zoneCap
        let slewed := { zoned with
          torqueFfNm := rateLimitTauFf (self.lastTauFf cmd.joint) zoned.torqueFfNm
            self.control.tauFfRateLimitNmPerS inputs.sinceLastTick cap }
        let dqBounded := clamp inputs.dqMeas (-lim.velocity) lim.velocity
        let (out, totalTorque) ←
          clampTotalTorque slewed inputs.qMeas dqBounded cap self.control.horizonS
        if blt lim.velocity (Scalar.abs out.velocityRadS) then
          .error (.limit cmd.joint ("total-torque clamp moved |velocity| " ++
            World.showNum out.velocityRadS ++ " above " ++ World.showNum lim.velocity))
        else if totalTorque.isSome && !lim.insideHard out.positionRad then
          .error (.limit cmd.joint ("total-torque clamp moved position " ++
            World.showNum out.positionRad ++ " outside hard " ++ lim.showHard))
        else
          let envelopeClamped := (!cmd.keepalive && moved placed.positionRad cmd.positionRad) ||
            moved zoned.velocityRadS cmd.velocityRadS
          .ok ⟨out, inputs.qMeas, inputs.dqMeas, totalTorque, envelopeClamped⟩

/-- The readings that the filter makes: position, velocity and the tick, each at its own instant. -/
def filterInputs : Prog (System F) ε (FilterInputs F) := do
  let s ← read
  let t ← now
  let qMeas := (s.publishedState cmd.joint t).elim cmd.positionRad (·.positionRad)
  let t ← now
  let dqMeas := (s.publishedState cmd.joint t).elim (lit 0) (·.velocityRadS)
  let t ← now
  pure ⟨qMeas, dqMeas, s.lastTick.map (t - ·)⟩

/-- Next wrong-sign watchdog state and whether it admits the command. `none` when the watchdog is
inactive. -/
def Supervisor.wrongSignStep (self : Supervisor F) (out : MitJointCommand F) (qMeas dqMeas : F) :
    Option (WrongSignState × Except DavoutError Unit) :=
  let cfg := self.control.wrongSignWatchdog
  if self.controlMode ≠ .gravityComp ∨ cfg.enabled = false then none
  else
    let previous := (self.wrongSignState out.joint).getD {}
    let state := { previous with ticksSinceEnable := min (previous.ticksSinceEnable + 1) maxU32 }
    if state.ticksSinceEnable ≤ cfg.gracePeriodTicks ∨
        ble (Scalar.abs dqMeas) cfg.minVelocityRadS then some (state, .ok ())
    else
      let sign : F := lit cfg.expectedSignAtPositiveQ
      let expected := if ble (lit 0) qMeas then sign else -sign
      let actual := signum out.torqueFfNm
      if beq actual (lit 0) || beq actual expected then
        some ({ state with oppositionTicks := 0 }, .ok ())
      else
        let state := { state with oppositionTicks := min (state.oppositionTicks + 1) maxU32 }
        if cfg.minOppositionTicks ≤ state.oppositionTicks then
          some (state, .error (.wrongSignWatchdog out.joint state.oppositionTicks))
        else some (state, .ok ())

end

end Marengo

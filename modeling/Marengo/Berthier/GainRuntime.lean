import Marengo.Berthier.ControlLoop
import Marengo.Config.Validation

/-!
# Runtime gains

Testing overrides of the gains, and the ramp from one mode's gains to the next one's. What the wire
carries is the override if the mode takes one, else the ramp, else the configured gains. `GainLoop`
is the part of the control loop that this is about: the mode, and the gain runtime.
-/

namespace Marengo

/-- A slice of per-joint inputs that is not parallel to the joints. -/
structure GainShapeError where
  what : String
  expected : ℕ
  actual : ℕ

def requireParallel (what : String) (actual expected : ℕ) : Except GainShapeError Unit :=
  if actual = expected then .ok () else .error ⟨what, expected, actual⟩

/-- A tenth of a second in control ticks, rounded to the nearest one and never fewer than one. -/
def rampTicksForLoopHz (loopHz : ℕ) : ℕ := max ((loopHz + 5) / 10) 1

/-- Ceilings of the motor type for an override. -/
structure GainClampLimits (F : Type) where
  kpMax : F
  kdMax : F
  tauFfMax : F

structure JointModeGains (F : Type) where
  gravityComp : ModeGains F
  impedance : ModeGains F

structure ResolvedGains (F : Type) where
  lawKd : F
  lawKi : F
  /-- Coulomb friction of an override. -/
  lawFc : Option F
  wireKp : F
  wireKd : F

structure RampJoint (F : Type) where
  fromKp : F
  fromKd : F
  toKp : F
  toKd : F

/-- A linear ramp of the gains, in the order of the joints. -/
structure GainRamp (F : Type) where
  joints : List (RampJoint F)
  ticksRemaining : ℕ
  totalTicks : ℕ

/-- The overrides, and the ramp if one runs. -/
structure GainRuntime (F : Type) where
  overrides : String → Option (GainOverride F)
  ramp : Option (GainRamp F)
  rampTicks : ℕ
  rampTicks_pos : 0 < rampTicks

/-- Whether overrides may affect the gains in a mode. -/
def modeAllowsGainOverride : ControlMode → Bool
  | .impedance | .position => true
  | .disabled | .gravityComp | .torqueOnly => false

/-- Whether overrides are dropped when a mode is entered. -/
def modeClearsGainOverridesOnEnter : ControlMode → Bool
  | .gravityComp | .torqueOnly | .disabled => true
  | .impedance | .position => false

def targetGainsFromYaml {F : Type} (mode : ControlMode) (gravityComp impedance : ModeGains F) :
    F × F :=
  match mode with
  | .gravityComp | .torqueOnly | .disabled => (gravityComp.kp, gravityComp.kd)
  | .impedance | .position => (impedance.kp, impedance.kd)

/-- The gains on the wire: override, else ramp, else configured. -/
def effectiveWireGains {F : Type} (mode : ControlMode) (target : F × F)
    (override ramp : Option (F × F)) : F × F :=
  match modeAllowsGainOverride mode, override with
  | true, some gains => gains
  | _, _ => ramp.getD target

namespace GainRuntime

section
variable {F : Type} [Scalar F]

def forLoopHz (loopHz : ℕ) : GainRuntime F where
  overrides _ := none
  ramp := none
  rampTicks := rampTicksForLoopHz loopHz
  rampTicks_pos := lt_of_lt_of_le one_pos (le_max_right _ _)

/-- Clamp an override to the ceilings of the motor type. Those of `ki` are the ones of `kp`. -/
def clampOverride (gains : GainOverride F) (limits : GainClampLimits F) : GainOverride F :=
  { kp := if blt limits.kpMax gains.kp then limits.kpMax else gains.kp
    kd := if blt limits.kdMax gains.kd then limits.kdMax else gains.kd
    ki := if blt limits.kpMax gains.ki then limits.kpMax else gains.ki
    fc := if blt limits.tauFfMax gains.fc then limits.tauFfMax else gains.fc }

variable (self : GainRuntime F)

def apply (mode : ControlMode) (joint : String) (gains : GainOverride F)
    (limits : GainClampLimits F) : GainRuntime F :=
  if modeAllowsGainOverride mode then
    { self with overrides := Function.update self.overrides joint (some (clampOverride gains limits)) }
  else self

def clear (joint : String) : GainRuntime F :=
  { self with overrides := Function.update self.overrides joint none }

/-- Drop the overrides if the mode says so, and start a ramp unless a mode is or was disabled. -/
def onModeEnter (previous next : ControlMode) (fromGains toGains : List (F × F)) : GainRuntime F :=
  let self := if modeClearsGainOverridesOnEnter next then { self with overrides := fun _ => none }
    else self
  if next = .disabled then { self with ramp := none }
  else if previous = .disabled then self
  else
    { self with
      ramp := some
        { joints := fromGains.zipWith (fun a b => ⟨a.1, a.2, b.1, b.2⟩) toGains
          ticksRemaining := self.rampTicks
          totalTicks := self.rampTicks } }

/-- How far a ramp is. -/
def rampProgress (ramp : GainRamp F) : F :=
  lit 1 - lit ramp.ticksRemaining / lit ramp.totalTicks

/-- The interpolated gains of each joint, if a ramp runs. -/
def rampGains : Option (List (F × F)) :=
  self.ramp.map fun ramp => ramp.joints.map fun j =>
    (j.fromKp + (j.toKp - j.fromKp) * rampProgress ramp,
      j.fromKd + (j.toKd - j.fromKd) * rampProgress ramp)

def jointWire (mode : ControlMode) (name : String) (target : F × F) (i : ℕ) :
    F × F :=
  let override := if modeAllowsGainOverride mode then
      (self.overrides name).map fun gains => (gains.kp, gains.kd)
    else none
  effectiveWireGains mode target override (self.rampGains.bind fun ramp => ramp[i]?)

def wireGainsNow (mode : ControlMode) (jointNames : List String)
    (targets : List (F × F)) : Except GainShapeError (List (F × F)) := do
  requireParallel "targets" targets.length jointNames.length
  return (jointNames.zip targets).mapIdx fun i joint => self.jointWire mode joint.1 joint.2 i

/-- Count a tick of the ramp; a finished ramp is dropped. -/
def advanceTick : GainRuntime F :=
  match self.ramp with
  | some ramp =>
    let ticksRemaining := ramp.ticksRemaining - 1
    if ticksRemaining = 0 then { self with ramp := none }
    else { self with ramp := some { ramp with ticksRemaining } }
  | none => self

def resolveAll (mode : ControlMode) (jointNames : List String)
    (yaml : List (JointModeGains F)) : Except GainShapeError (List (ResolvedGains F)) := do
  requireParallel "yaml gains" yaml.length jointNames.length
  return (jointNames.zip yaml).mapIdx fun i joint =>
    let target := targetGainsFromYaml mode joint.2.gravityComp joint.2.impedance
    let wire := self.jointWire mode joint.1 target i
    let override := if modeAllowsGainOverride mode then self.overrides joint.1 else none
    match override with
    | some gains => ⟨gains.kd, gains.ki, some gains.fc, wire.1, wire.2⟩
    | none => ⟨joint.2.impedance.kd, joint.2.impedance.ki, none, wire.1, wire.2⟩

end

end GainRuntime

/-! ## The loop -/

/-- The joints of the loop, and their configured gains. -/
structure GainConfig (F : Type) where
  jointNames : List String
  joints : String → Option (JointModeGains F)

/-- The mode of the loop, and its gain runtime. -/
structure GainLoop (F : Type) where
  controlMode : ControlMode
  gains : GainRuntime F

section
variable {F : Type} [Scalar F]

/-- The configured gains of one joint in a mode; a joint without configuration has none. -/
def GainConfig.target (cfg : GainConfig F) (mode : ControlMode) (name : String) : F × F :=
  let zero : ModeGains F := ⟨lit 0, lit 0, lit 0⟩
  targetGainsFromYaml mode (((cfg.joints name).map (·.gravityComp)).getD zero)
    (((cfg.joints name).map (·.impedance)).getD zero)

def GainConfig.targetGainsForMode (cfg : GainConfig F) (mode : ControlMode) : List (F × F) :=
  cfg.jointNames.map (cfg.target mode)

/-- The gains on the wire. The targets are made from the joints, so the shapes agree. -/
def GainLoop.wire (self : GainLoop F) (cfg : GainConfig F) : List (F × F) :=
  match self.gains.wireGainsNow self.controlMode cfg.jointNames
    (cfg.targetGainsForMode self.controlMode) with
  | .ok gains => gains
  | .error _ => []

/-- The gains' part of a mode change: the ramp starts from the gains on the wire before it. -/
def GainLoop.setControlMode (self : GainLoop F) (cfg : GainConfig F) (mode : ControlMode) :
    GainLoop F :=
  ⟨mode, self.gains.onModeEnter self.controlMode mode (self.wire cfg) (cfg.targetGainsForMode mode)⟩

def GainLoop.advanceTick (self : GainLoop F) : GainLoop F :=
  { self with gains := self.gains.advanceTick }

/-- What happens to the gains. -/
inductive GainOp (F : Type)
  | enter (mode : ControlMode)
  | advance
  | apply (joint : String) (gains : GainOverride F) (limits : GainClampLimits F)
  | clear (joint : String)

def GainLoop.step (cfg : GainConfig F) (self : GainLoop F) : GainOp F → GainLoop F
  | .enter mode => self.setControlMode cfg mode
  | .advance => self.advanceTick
  | .apply joint gains limits =>
    { self with gains := self.gains.apply self.controlMode joint gains limits }
  | .clear joint => { self with gains := self.gains.clear joint }

def GainLoop.run (cfg : GainConfig F) (self : GainLoop F) (ops : List (GainOp F)) : GainLoop F :=
  ops.foldl (GainLoop.step cfg) self

def GainLoop.start (loopHz : ℕ) (mode : ControlMode) : GainLoop F := ⟨mode, .forLoopHz loopHz⟩

end

end Marengo

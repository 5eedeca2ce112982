import Marengo.Berthier.ControlLoop
import Marengo.Berthier.PositionLaw
import Mathlib.Analysis.SpecialFunctions.Trigonometric.Bounds

/-!
# Admission of waves

A wave is a raised cosine between two positions, sampled once a tick. It bypasses the planner, so
`validate_wave_motion` holds its amplitude and frequency against the limits of the joint once, before
it starts. That check bounds every sample: a cosine changes by no more than its angle, and the change
of its change by no more than the square of that.

The check takes half a period in ticks, and the sampler twice that many, in 64 bits. The bounds hold
while the period fits; a longer one runs at up to twice the speed it was admitted with
(`wave_admission_saturated`).
-/

namespace Marengo

/-! ## The wave -/

section
variable {F : Type} [Analytic F]

def PositionWave.new (jointIndex : ℕ) (minRad maxRad : F) (startTick halfPeriodTicks cycles : ℕ) :
    PositionWave F :=
  ⟨jointIndex, minRad, maxRad, startTick, max halfPeriodTicks 1, cycles, false⟩

def PositionWave.fullPeriod (self : PositionWave F) : ℕ := min (self.halfPeriodTicks * 2) maxU64

/-- Setpoint and velocity at a tick, or nothing when all cycles are complete. -/
def PositionWave.targetAndVelocityAtTick (self : PositionWave F) (tick loopHz : ℕ) :
    Option (F × F) × PositionWave F :=
  let fullPeriod := self.fullPeriod
  let elapsed := tick - self.startTick
  let totalTicks := min (fullPeriod * self.cycles) maxU64
  if totalTicks ≤ elapsed then (none, { self with finished := true })
  else
    let phase : F := lit (elapsed % fullPeriod : ℕ) / lit fullPeriod
    let mid := lit (1 / 2) * (self.minRad + self.maxRad)
    let amp := lit (1 / 2) * (self.maxRad - self.minRad)
    let tau : F := lit 2 * Analytic.pi
    let angle := tau * phase
    let target := mid - amp * Analytic.cos angle
    let periodSec : F := lit fullPeriod / lit (max loopHz 1 : ℕ)
    let omega := tau / Scalar.max periodSec (lit (1 / 1000000000))
    (some (target, amp * omega * Analytic.sin angle), self)

/-! ## Admission -/

/-- Speed cap of a joint that descends above a threshold. -/
structure DescentCap (F : Type) where
  aboveRad : F
  maxVelocityRadS : F

def DangerZoneRule.clampsVelocity (self : DangerZoneRule F) (joint : String) : Bool :=
  self.joint == joint && self.action == "clamp_velocity"

def DescentCap.tighten (acc : Option (DescentCap F)) (zone : DangerZoneRule F) : DescentCap F :=
  match acc with
  | none => ⟨zone.positionAboveRad, zone.maxVelocityRadS⟩
  | some cap => ⟨Scalar.min cap.aboveRad zone.positionAboveRad,
      Scalar.min cap.maxVelocityRadS zone.maxVelocityRadS⟩

/-- The lowest threshold and the lowest speed of the zones of a joint. -/
def DescentCap.fromZones (zones : List (DangerZoneRule F)) (joint : String) : Option (DescentCap F) :=
  (zones.filter (·.clampsVelocity joint)).foldl (fun acc zone => some (tighten acc zone)) none

/-- The largest descending speed of a wave above the threshold. -/
def DescentCap.waveDescentSpeed (self : DescentCap F) (minRad maxRad peak : F) : F :=
  if ble maxRad self.aboveRad then lit 0
  else
    let center := lit (1 / 2) * (minRad + maxRad)
    let amplitude := lit (1 / 2) * (maxRad - minRad)
    let u := clamp ((Scalar.max self.aboveRad center - center) / amplitude) (lit 0)
      (lit 1)
    peak * Analytic.sqrt (lit 1 - u * u)

/-- What a wave on one joint is held against. -/
structure WaveLimits (F : Type) where
  /-- The limit policy of the joint; its velocity is the velocity cap. -/
  policy : Option (JointLimitPolicy F)
  /-- Configured speed and acceleration of a trajectory. -/
  trajectory : Option (F × F)
  dangerZones : List (DangerZoneRule F)

def WaveLimits.speedLimit (self : WaveLimits F) : Option F :=
  match self.policy.map (·.velocity), self.trajectory.map Prod.fst with
  | some cap, some speed => some (Scalar.min cap speed)
  | some cap, none => some cap
  | none, speed => speed

def WaveLimits.checkRange (self : WaveLimits F) (joint : String) (minRad maxRad : F) :
    Except (LoopError F) Unit :=
  match self.policy with
  | some policy =>
    let lower := policy.bounds.softLower
    let upper := policy.bounds.softUpper
    if blt minRad lower || blt upper maxRad then
      .error (.waveOutsideLimits joint minRad maxRad lower upper)
    else .ok ()
  | none => .ok ()

def checkPeak (joint quantity : String) (peak : F) (limit : Option F) : Except (LoopError F) Unit :=
  match limit with
  | some limit =>
    if blt limit peak then .error (.waveExceedsMotionLimit joint quantity peak limit) else .ok ()
  | none => .ok ()

/-- The descent above the threshold of a danger zone is within its speed. -/
def WaveLimits.checkDescent (self : WaveLimits F) (joint : String)
    (minRad maxRad amplitude peakSpeed : F) : Except (LoopError F) Unit :=
  match DescentCap.fromZones self.dangerZones joint with
  | some cap =>
    let factor := cap.waveDescentSpeed minRad maxRad (lit 1)
    let descent := peakSpeed * factor
    if blt cap.maxVelocityRadS descent then
      let names := ((self.dangerZones.filter (·.clampsVelocity joint)).map (·.name))
      .error (.waveExceedsDangerZone joint (", ".intercalate names) cap.aboveRad descent
        cap.maxVelocityRadS (Analytic.pi * amplitude * factor / cap.maxVelocityRadS))
    else .ok ()
  | none => .ok ()

/-- Admit a wave if all of it stays inside what the planner would plan. -/
def validateWaveMotion (limits : WaveLimits F) (loopHz : ℕ) (joint : String) (minRad maxRad : F)
    (halfPeriodTicks : ℕ) : Except (LoopError F) Unit := do
  limits.checkRange joint minRad maxRad
  let halfPeriod : F := lit halfPeriodTicks / lit loopHz
  let amplitude := lit (1 / 2) * (maxRad - minRad)
  let omega := Analytic.pi / halfPeriod
  let peakSpeed := amplitude * omega
  checkPeak joint "speed (rad/s)" peakSpeed limits.speedLimit
  checkPeak joint "acceleration (rad/s²)" (amplitude * omega * omega) (limits.trajectory.map Prod.snd)
  limits.checkDescent joint minRad maxRad amplitude peakSpeed

end

/-! ## The raised cosine -/

section
variable {amp θ δ : ℝ}

theorem raisedCosine_mem (hamp : 0 ≤ amp) (mid θ : ℝ) :
    mid - amp ≤ mid - amp * Real.cos θ ∧ mid - amp * Real.cos θ ≤ mid + amp := by
  have hlow := mul_le_mul_of_nonneg_left (Real.neg_one_le_cos θ) hamp
  have hhigh := mul_le_mul_of_nonneg_left (Real.cos_le_one θ) hamp
  constructor <;> linarith

theorem raisedCosine_change (hamp : 0 ≤ amp) (hδ : 0 ≤ δ) (mid θ : ℝ) :
    |mid - amp * Real.cos (θ + δ) - (mid - amp * Real.cos θ)| ≤ amp * δ := by
  have hchange : mid - amp * Real.cos (θ + δ) - (mid - amp * Real.cos θ) =
      amp * (Real.cos θ - Real.cos (θ + δ)) := by ring
  have hcos : |Real.cos θ - Real.cos (θ + δ)| ≤ δ := by
    refine (Real.abs_cos_sub_cos_le _ _).trans (le_of_eq ?_)
    rw [sub_add_cancel_left, abs_neg, abs_of_nonneg hδ]
  rw [hchange, abs_mul, abs_of_nonneg hamp]
  exact mul_le_mul_of_nonneg_left hcos hamp

theorem raisedCosine_second (hamp : 0 ≤ amp) (mid θ δ : ℝ) :
    |mid - amp * Real.cos (θ + δ + δ) - 2 * (mid - amp * Real.cos (θ + δ)) +
      (mid - amp * Real.cos θ)| ≤ amp * δ ^ 2 := by
  have hsum : Real.cos (θ + δ + δ) + Real.cos θ = 2 * Real.cos (θ + δ) * Real.cos δ := by
    have hback : Real.cos θ = Real.cos (θ + δ - δ) := by rw [add_sub_cancel_right]
    rw [hback, Real.cos_add (θ + δ) δ, Real.cos_sub (θ + δ) δ]
    ring
  have hsecond : mid - amp * Real.cos (θ + δ + δ) - 2 * (mid - amp * Real.cos (θ + δ)) +
      (mid - amp * Real.cos θ) = amp * (2 * (Real.cos (θ + δ) * (1 - Real.cos δ))) := by
    linear_combination (-amp) * hsum
  have hnonneg : 0 ≤ 1 - Real.cos δ := by linarith [Real.cos_le_one δ]
  have hsmall : 1 - Real.cos δ ≤ δ ^ 2 / 2 := by linarith [Real.one_sub_sq_div_two_le_cos (x := δ)]
  have hcos : |Real.cos (θ + δ) * (1 - Real.cos δ)| ≤ δ ^ 2 / 2 := by
    rw [abs_mul, abs_of_nonneg hnonneg]
    exact (mul_le_of_le_one_left hnonneg (Real.abs_cos_le_one _)).trans hsmall
  rw [hsecond, abs_mul, abs_of_nonneg hamp, abs_mul, abs_of_pos (two_pos : (0 : ℝ) < 2)]
  refine mul_le_mul_of_nonneg_left ?_ hamp
  linarith

/-- Above `mid + amp * u` the cosine descends no faster than `√(1 - u²)` of its peak. -/
theorem abs_sin_le_of_above {u : ℝ} (mid : ℝ) (hamp : 0 < amp) (hu : 0 ≤ u)
    (habove : mid + amp * u ≤ mid - amp * Real.cos θ) :
    |Real.sin θ| ≤ √(1 - u * u) := by
  have hcos : u ≤ -Real.cos θ := by
    have : amp * u ≤ amp * (-Real.cos θ) := by linarith
    exact le_of_mul_le_mul_left this hamp
  apply Real.le_sqrt_of_sq_le
  rw [sq_abs, Real.sin_sq]
  nlinarith

end

/-! ## What admission says -/

section

/-- A cap covers a zone: its threshold and its speed are no higher. -/
def DescentCap.Covers (cap : DescentCap ℝ) (above velocity : ℝ) : Prop :=
  cap.aboveRad ≤ above ∧ cap.maxVelocityRadS ≤ velocity

theorem DescentCap.tighten_covers (acc : Option (DescentCap ℝ)) (zone : DangerZoneRule ℝ) :
    (DescentCap.tighten acc zone).Covers zone.positionAboveRad zone.maxVelocityRadS := by
  cases acc with
  | none => exact ⟨le_rfl, le_rfl⟩
  | some cap => exact ⟨min_le_right _ _, min_le_right _ _⟩

/-- Further zones keep what a cap covers. -/
theorem foldl_tighten_covers (zones : List (DangerZoneRule ℝ)) {cap : DescentCap ℝ}
    {above velocity : ℝ} (h : cap.Covers above velocity) :
    ∃ last, zones.foldl (fun acc zone => some (DescentCap.tighten acc zone)) (some cap) = some last ∧
      last.Covers above velocity := by
  induction zones generalizing cap with
  | nil => exact ⟨cap, rfl, h⟩
  | cons zone zones ih =>
    have hnext : (DescentCap.tighten (some cap) zone).Covers above velocity :=
      ⟨(min_le_left _ _).trans h.1, (min_le_left _ _).trans h.2⟩
    exact ih hnext

theorem exists_foldl_tighten {zones : List (DangerZoneRule ℝ)} {zone : DangerZoneRule ℝ}
    (hzone : zone ∈ zones) (acc : Option (DescentCap ℝ)) :
    ∃ last, zones.foldl (fun acc zone => some (DescentCap.tighten acc zone)) acc = some last ∧
      last.Covers zone.positionAboveRad zone.maxVelocityRadS := by
  induction zones generalizing acc with
  | nil => cases hzone
  | cons head zones ih =>
    rcases List.mem_cons.mp hzone with rfl | hmem
    · exact foldl_tighten_covers zones (DescentCap.tighten_covers acc zone)
    · exact ih hmem _

theorem fromZones_covers {zones : List (DangerZoneRule ℝ)} {joint : String}
    {zone : DangerZoneRule ℝ} (hzone : zone ∈ zones) (hclamps : zone.clampsVelocity joint = true) :
    ∃ cap, DescentCap.fromZones zones joint = some cap ∧
      cap.Covers zone.positionAboveRad zone.maxVelocityRadS :=
  exists_foldl_tighten (List.mem_filter.mpr ⟨hzone, hclamps⟩) none

variable {limits : WaveLimits ℝ} {joint : String} {minRad maxRad amp omega : ℝ}

theorem checkPeak_ok {quantity : String} {peak : ℝ} {limit : Option ℝ}
    (h : checkPeak joint quantity peak limit = .ok ()) : ∀ x ∈ limit, peak ≤ x := by
  intro x hx
  cases hx
  rw [checkPeak] at h
  by_contra hpeak
  rw [if_pos (blt_iff.mpr (not_le.mp hpeak))] at h
  cases h

theorem checkRange_ok (h : limits.checkRange joint minRad maxRad = .ok ()) :
    ∀ p ∈ limits.policy, p.bounds.softLower ≤ minRad ∧ maxRad ≤ p.bounds.softUpper := by
  intro p hp
  rw [WaveLimits.checkRange, hp] at h
  simp only [Bool.or_eq_true, blt_iff] at h
  by_contra hout
  rw [not_and_or, not_le, not_le] at hout
  rw [if_pos hout] at h
  cases h

/-- A peak under the lowest speed limit is under both. -/
theorem speedLimit_le {peak : ℝ} (h : ∀ x ∈ limits.speedLimit, peak ≤ x) :
    (∀ p ∈ limits.policy, peak ≤ p.velocity) ∧ ∀ v ∈ limits.trajectory, peak ≤ v.1 := by
  unfold WaveLimits.speedLimit at h
  cases hp : limits.policy with
  | none =>
    cases hv : limits.trajectory with
    | none => exact ⟨nofun, nofun⟩
    | some v =>
      rw [hp, hv] at h
      refine ⟨nofun, ?_⟩
      rintro w ⟨rfl⟩
      exact h v.1 rfl
  | some p =>
    cases hv : limits.trajectory with
    | none =>
      rw [hp, hv] at h
      refine ⟨?_, nofun⟩
      rintro w ⟨rfl⟩
      exact h p.velocity rfl
    | some v =>
      rw [hp, hv] at h
      have hmin : peak ≤ min p.velocity v.1 := h _ rfl
      constructor
      · rintro w ⟨rfl⟩
        exact hmin.trans (min_le_left _ _)
      · rintro w ⟨rfl⟩
        exact hmin.trans (min_le_right _ _)

/-- The share of the peak speed that a descent above a cap's threshold can have. -/
theorem abs_sin_le_waveDescentSpeed {cap : DescentCap ℝ} {θ : ℝ} (hrange : minRad < maxRad)
    (habove : cap.aboveRad < (minRad + maxRad) / 2 - (maxRad - minRad) / 2 * Real.cos θ) :
    |Real.sin θ| ≤ cap.waveDescentSpeed minRad maxRad (lit 1) := by
  have hamp : 0 < (maxRad - minRad) / 2 := by linarith
  have hhigh := (raisedCosine_mem hamp.le ((minRad + maxRad) / 2) θ).2
  have hbelow : ¬maxRad ≤ cap.aboveRad := by
    rw [not_le]
    linarith
  have hcenter : (lit (1 / 2) * (minRad + maxRad) : ℝ) = (minRad + maxRad) / 2 := by
    rw [lit_eq]
    push_cast
    ring
  have hamplitude : (lit (1 / 2) * (maxRad - minRad) : ℝ) = (maxRad - minRad) / 2 := by
    rw [lit_eq]
    push_cast
    ring
  simp only [DescentCap.waveDescentSpeed, ble_iff, if_neg hbelow, Scalar.max_eq, hcenter,
    hamplitude, lit_zero, lit_one, one_mul, clamp_eq zero_le_one]
  change |Real.sin θ| ≤ √_
  rcases le_total cap.aboveRad ((minRad + maxRad) / 2) with hlow | hlow
  · rw [max_eq_right hlow, sub_self, zero_div, min_eq_right zero_le_one, max_self, mul_zero, sub_zero,
      Real.sqrt_one]
    exact Real.abs_sin_le_one θ
  · have hu : 0 ≤ (cap.aboveRad - (minRad + maxRad) / 2) / ((maxRad - minRad) / 2) :=
      div_nonneg (by linarith) hamp.le
    have hle : (cap.aboveRad - (minRad + maxRad) / 2) / ((maxRad - minRad) / 2) ≤ 1 := by
      rw [div_le_one hamp]
      linarith
    rw [max_eq_left hlow, min_eq_right hle, max_eq_right hu]
    refine abs_sin_le_of_above ((minRad + maxRad) / 2) hamp hu ?_
    rw [mul_div_cancel₀ _ hamp.ne']
    linarith

/-- An admitted wave with its amplitude and its frequency. -/
structure WaveAdmitted (limits : WaveLimits ℝ) (joint : String) (minRad maxRad amp omega : ℝ) :
    Prop where
  range : ∀ p ∈ limits.policy, p.bounds.softLower ≤ minRad ∧ maxRad ≤ p.bounds.softUpper
  cap : ∀ p ∈ limits.policy, amp * omega ≤ p.velocity
  speed : ∀ v ∈ limits.trajectory, amp * omega ≤ v.1
  accel : ∀ v ∈ limits.trajectory, amp * omega * omega ≤ v.2
  descent : ∀ zone ∈ limits.dangerZones, zone.clampsVelocity joint = true → ∀ θ,
    zone.positionAboveRad < (minRad + maxRad) / 2 - amp * Real.cos θ →
      amp * omega * |Real.sin θ| ≤ zone.maxVelocityRadS

theorem half_range (minRad maxRad : ℝ) :
    lit (1 / 2) * (maxRad - minRad) = (maxRad - minRad) / 2 := by
  rw [lit_eq]
  push_cast
  ring

theorem admitted_omega (loopHz ticks : ℕ) :
    (Analytic.pi / (lit ticks / lit loopHz) : ℝ) = Real.pi / ((ticks : ℝ) / loopHz) := by
  rw [lit_eq, lit_eq, Rat.cast_natCast, Rat.cast_natCast]
  rfl

theorem validateWaveMotion_admitted {loopHz ticks : ℕ} (hrange : minRad < maxRad)
    (h : validateWaveMotion limits loopHz joint minRad maxRad ticks = .ok ()) :
    WaveAdmitted limits joint minRad maxRad ((maxRad - minRad) / 2)
      (Real.pi / ((ticks : ℝ) / loopHz)) := by
  have hpos : 0 ≤ Real.pi / ((ticks : ℝ) / loopHz) := by positivity
  have hamp : 0 ≤ (maxRad - minRad) / 2 := by linarith
  simp only [validateWaveMotion, half_range, admitted_omega] at h
  generalize Real.pi / ((ticks : ℝ) / loopHz) = omega at h hpos ⊢
  obtain ⟨_, hinside, h⟩ := Except.bind_eq_ok.mp h
  obtain ⟨_, hspeed, h⟩ := Except.bind_eq_ok.mp h
  obtain ⟨_, haccel, hdescent⟩ := Except.bind_eq_ok.mp h
  obtain ⟨hcap, htrajectory⟩ := speedLimit_le (checkPeak_ok hspeed)
  refine ⟨checkRange_ok hinside, hcap, htrajectory, ?_, ?_⟩
  · intro v hv
    exact checkPeak_ok haccel v.2 (by rw [hv]; rfl)
  · intro zone hzone hclamps θ habove
    obtain ⟨cap, hfrom, hcovers⟩ := fromZones_covers hzone hclamps
    have hsin := abs_sin_le_waveDescentSpeed hrange (hcovers.1.trans_lt habove)
    rw [WaveLimits.checkDescent, hfrom] at hdescent
    have hwithin : (maxRad - minRad) / 2 * omega *
        cap.waveDescentSpeed minRad maxRad (lit 1) ≤ cap.maxVelocityRadS := by
      by_contra hfast
      simp only [if_pos (blt_iff.mpr (not_le.mp hfast))] at hdescent
      cases hdescent
    calc (maxRad - minRad) / 2 * omega * |Real.sin θ|
        ≤ (maxRad - minRad) / 2 * omega * cap.waveDescentSpeed minRad maxRad (lit 1) :=
          mul_le_mul_of_nonneg_left hsin (mul_nonneg hamp hpos)
      _ ≤ cap.maxVelocityRadS := hwithin
      _ ≤ zone.maxVelocityRadS := hcovers.2

end

/-! ## Samples -/

section
variable {wave : PositionWave ℝ} {loopHz t : ℕ} {target velocity : ℝ}

/-- The angle of a sample, without the whole periods before it. -/
theorem angle_eq {period : ℕ} (hperiod : 0 < period) (t : ℕ) :
    2 * Real.pi / period * t =
      2 * Real.pi * ((t % period : ℕ) / period) + (t / period : ℕ) * (2 * Real.pi) := by
  have hne : (period : ℝ) ≠ 0 := Nat.cast_ne_zero.mpr hperiod.ne'
  have hsplit : (t : ℝ) = (t % period : ℕ) + period * (t / period : ℕ) := by
    exact_mod_cast (Nat.mod_add_div t period).symm
  conv_lhs => rw [hsplit]
  field_simp

/-- A sample is a point of the raised cosine at the angle of its tick. -/
theorem sample_eq (hperiod : 0 < wave.fullPeriod)
    (h : (wave.targetAndVelocityAtTick (wave.startTick + t) loopHz).1 = some (target, velocity)) :
    let amp := (wave.maxRad - wave.minRad) / 2
    let angle := 2 * Real.pi / wave.fullPeriod * t
    target = (wave.minRad + wave.maxRad) / 2 - amp * Real.cos angle ∧
      velocity = amp * (2 * Real.pi /
        max ((wave.fullPeriod : ℝ) / (max loopHz 1 : ℕ)) (1 / 1000000000)) * Real.sin angle := by
  intro amp angle
  have hlit : ∀ n : ℕ, (lit n : ℝ) = n := fun n => by rw [lit_eq, Rat.cast_natCast]
  have htwo : (lit 2 : ℝ) = 2 := by
    rw [lit_eq]
    norm_num
  have hhalf : (lit (1 / 2) : ℝ) = 1 / 2 := by
    rw [lit_eq]
    norm_num
  have hnano : (lit (1 / 1000000000) : ℝ) = 1 / 1000000000 := by
    rw [lit_eq]
    norm_num
  have hcos : Real.cos (2 * Real.pi * ((t % wave.fullPeriod : ℕ) / wave.fullPeriod)) =
      Real.cos angle := by
    simp only [angle, angle_eq hperiod t, Real.cos_add_nat_mul_two_pi]
  have hsin : Real.sin (2 * Real.pi * ((t % wave.fullPeriod : ℕ) / wave.fullPeriod)) =
      Real.sin angle := by
    simp only [angle, angle_eq hperiod t, Real.sin_add_nat_mul_two_pi]
  rw [PositionWave.targetAndVelocityAtTick, Nat.add_sub_cancel_left] at h
  simp only at h
  split at h
  · cases h
  · simp only [hlit, htwo, hhalf, hnano, Scalar.max_eq, Option.some.injEq, Prod.mk.injEq] at h
    obtain ⟨rfl, rfl⟩ := h
    constructor
    · change _ - _ * Real.cos _ = _
      rw [show (Analytic.pi : ℝ) = Real.pi from rfl, hcos]
      ring
    · change _ * Real.sin _ = _
      rw [show (Analytic.pi : ℝ) = Real.pi from rfl, hsin]
      ring

end

/-! ## Admitted waves -/

section
variable {limits : WaveLimits ℝ} {joint : String} {wave : PositionWave ℝ} {loopHz ticks t : ℕ}

/-- A wave whose period fits 64 bits, with the amplitude and the frequency it was admitted with. -/
structure FittingWave (limits : WaveLimits ℝ) (joint : String) (wave : PositionWave ℝ)
    (loopHz ticks : ℕ) : Prop where
  range : wave.minRad < wave.maxRad
  rate : 0 < loopHz
  positive : 0 < ticks
  period : wave.fullPeriod = ticks * 2
  admitted : WaveAdmitted limits joint wave.minRad wave.maxRad ((wave.maxRad - wave.minRad) / 2)
    (Real.pi / ((ticks : ℝ) / loopHz))

/-- The angle of a tick and of the next one. -/
theorem PositionWave.angle_succ (wave : PositionWave ℝ) (t : ℕ) :
    2 * Real.pi / wave.fullPeriod * (t + 1 : ℕ) =
      2 * Real.pi / wave.fullPeriod * t + 2 * Real.pi / wave.fullPeriod := by
  push_cast
  ring

namespace FittingWave

variable (h : FittingWave limits joint wave loopHz ticks)
include h

theorem amplitude_nonneg : 0 ≤ (wave.maxRad - wave.minRad) / 2 := by linarith [h.range]

theorem fullPeriod_pos : 0 < wave.fullPeriod := by
  rw [h.period]
  exact Nat.mul_pos h.positive two_pos

/-- The angle between two ticks. -/
theorem angle_step :
    2 * Real.pi / wave.fullPeriod = Real.pi / ((ticks : ℝ) / loopHz) * (1 / loopHz) := by
  have hticks : (ticks : ℝ) ≠ 0 := Nat.cast_ne_zero.mpr h.positive.ne'
  have hrate : (loopHz : ℝ) ≠ 0 := Nat.cast_ne_zero.mpr h.rate.ne'
  rw [h.period]
  push_cast
  field_simp

/-- The sampled velocity has no higher frequency than the admitted one. -/
theorem omega_le :
    2 * Real.pi / max ((wave.fullPeriod : ℝ) / (max loopHz 1 : ℕ)) (1 / 1000000000) ≤
      Real.pi / ((ticks : ℝ) / loopHz) := by
  have hticks : (0 : ℝ) < ticks := Nat.cast_pos.mpr h.positive
  have hrate : (0 : ℝ) < loopHz := Nat.cast_pos.mpr h.rate
  have hsame : Real.pi / ((ticks : ℝ) / loopHz) =
      2 * Real.pi / ((wave.fullPeriod : ℝ) / (max loopHz 1 : ℕ)) := by
    rw [max_eq_left h.rate, h.period]
    push_cast
    field_simp
  rw [hsame]
  have hperiod : (0 : ℝ) < (wave.fullPeriod : ℝ) / (max loopHz 1 : ℕ) := by
    rw [max_eq_left h.rate, h.period]
    push_cast
    positivity
  exact div_le_div_of_nonneg_left (by positivity) hperiod (le_max_left _ _)

/-- The speed of a sample is the admitted peak speed times its sine at most. -/
theorem abs_velocity_le {target velocity : ℝ}
    (hsample : (wave.targetAndVelocityAtTick (wave.startTick + t) loopHz).1 =
      some (target, velocity)) :
    |velocity| ≤ (wave.maxRad - wave.minRad) / 2 * (Real.pi / ((ticks : ℝ) / loopHz)) *
      |Real.sin (2 * Real.pi / wave.fullPeriod * t)| := by
  have hamp := h.amplitude_nonneg
  have homega : 0 ≤ 2 * Real.pi / max ((wave.fullPeriod : ℝ) / (max loopHz 1 : ℕ)) (1 / 1000000000) := by
    positivity
  rw [(sample_eq h.fullPeriod_pos hsample).2, abs_mul, abs_of_nonneg (mul_nonneg hamp homega)]
  exact mul_le_mul_of_nonneg_right (mul_le_mul_of_nonneg_left h.omega_le hamp) (abs_nonneg _)

theorem abs_velocity_le_peak {target velocity : ℝ}
    (hsample : (wave.targetAndVelocityAtTick (wave.startTick + t) loopHz).1 =
      some (target, velocity)) :
    |velocity| ≤ (wave.maxRad - wave.minRad) / 2 * (Real.pi / ((ticks : ℝ) / loopHz)) := by
  have hamp := h.amplitude_nonneg
  have hpeak : 0 ≤ (wave.maxRad - wave.minRad) / 2 * (Real.pi / ((ticks : ℝ) / loopHz)) :=
    mul_nonneg hamp (by positivity)
  exact (h.abs_velocity_le hsample).trans (mul_le_of_le_one_right hpeak (Real.abs_sin_le_one _))

/-- The change of the target between two ticks, over the time between them. -/
theorem change_le {target velocity target' velocity' : ℝ}
    (hsample : (wave.targetAndVelocityAtTick (wave.startTick + t) loopHz).1 =
      some (target, velocity))
    (hnext : (wave.targetAndVelocityAtTick (wave.startTick + (t + 1)) loopHz).1 =
      some (target', velocity')) :
    |target' - target| / (1 / loopHz) ≤
      (wave.maxRad - wave.minRad) / 2 * (Real.pi / ((ticks : ℝ) / loopHz)) := by
  have hamp := h.amplitude_nonneg
  have hrate : (0 : ℝ) < loopHz := Nat.cast_pos.mpr h.rate
  have hδ : 0 ≤ 2 * Real.pi / (wave.fullPeriod : ℝ) := by positivity
  have hchange := raisedCosine_change hamp hδ ((wave.minRad + wave.maxRad) / 2)
    (2 * Real.pi / wave.fullPeriod * t)
  rw [← wave.angle_succ, ← (sample_eq h.fullPeriod_pos hsample).1, ← (sample_eq h.fullPeriod_pos hnext).1, h.angle_step,
    ← mul_assoc] at hchange
  rw [div_le_iff₀ (by positivity)]
  exact hchange

/-- The second difference of the target. -/
theorem second_le {x v x' v' x'' v'' : ℝ}
    (h₀ : (wave.targetAndVelocityAtTick (wave.startTick + t) loopHz).1 = some (x, v))
    (h₁ : (wave.targetAndVelocityAtTick (wave.startTick + (t + 1)) loopHz).1 = some (x', v'))
    (h₂ : (wave.targetAndVelocityAtTick (wave.startTick + (t + 2)) loopHz).1 = some (x'', v'')) :
    |x'' - 2 * x' + x| ≤ (wave.maxRad - wave.minRad) / 2 *
      (Real.pi / ((ticks : ℝ) / loopHz)) * (Real.pi / ((ticks : ℝ) / loopHz)) * (1 / loopHz) ^ 2 := by
  have hamp := h.amplitude_nonneg
  have hsecond := raisedCosine_second hamp ((wave.minRad + wave.maxRad) / 2)
    (2 * Real.pi / wave.fullPeriod * t) (2 * Real.pi / wave.fullPeriod)
  rw [← wave.angle_succ, ← wave.angle_succ (t + 1), ← (sample_eq h.fullPeriod_pos h₀).1, ← (sample_eq h.fullPeriod_pos h₁).1,
    ← (sample_eq h.fullPeriod_pos h₂).1, h.angle_step] at hsecond
  refine hsecond.trans (le_of_eq ?_)
  ring

end FittingWave

theorem WaveRequest.range_of_validate {request : WaveRequest ℝ} (h : request.validate = .ok ()) :
    request.minRad < request.maxRad := by
  by_contra hrange
  simp only [WaveRequest.validate, isFinite_eq, Bool.not_true, List.find?_cons, List.find?_nil,
    if_pos (ble_iff.mpr (not_lt.mp hrange))] at h
  cases h

end

/-! ## Long periods -/

/-- A joint whose trajectories have a speed and an acceleration of one, and no other limits. -/
def openLimits {F : Type} [Scalar F] : WaveLimits F := ⟨none, some (lit 1, lit 1), []⟩

theorem validateWaveMotion_open {loopHz ticks : ℕ} {joint : String} {minRad maxRad : ℝ}
    (hspeed : (maxRad - minRad) / 2 * (Real.pi / ((ticks : ℝ) / loopHz)) ≤ 1)
    (haccel : (maxRad - minRad) / 2 * (Real.pi / ((ticks : ℝ) / loopHz)) *
      (Real.pi / ((ticks : ℝ) / loopHz)) ≤ 1) :
    validateWaveMotion openLimits loopHz joint minRad maxRad ticks = .ok () := by
  have hpeak : ∀ quantity peak, peak ≤ 1 →
      checkPeak joint quantity peak (some (1 : ℝ)) = .ok () := by
    intro quantity peak hle
    rw [checkPeak, if_neg (by rw [blt_iff]; exact not_lt.mpr hle)]
  simp only [validateWaveMotion, half_range, admitted_omega, openLimits, WaveLimits.checkRange,
    WaveLimits.speedLimit, Option.map_none, Option.map_some, lit_one, hpeak _ _ hspeed,
    hpeak _ _ haccel]
  rfl

theorem WaveRequest.validate_ok {request : WaveRequest ℝ} (hrange : request.minRad < request.maxRad)
    (hcycles : request.cycles ≠ 0) (hperiod : 0 < request.halfPeriodSec) :
    request.validate = .ok () := by
  have hrange' : ¬ble request.maxRad request.minRad = true := by
    rw [ble_iff]
    exact not_le.mpr hrange
  have hperiod' : ¬ble request.halfPeriodSec (lit 0) = true := by
    rw [ble_iff, lit_zero]
    exact not_le.mpr hperiod
  simp only [WaveRequest.validate, isFinite_eq, Bool.not_true, List.find?_cons, List.find?_nil,
    if_neg hrange', if_neg hcycles, if_neg hperiod']

theorem exists_sample (wave : PositionWave ℝ) (tick loopHz : ℕ)
    (h : tick - wave.startTick < min (wave.fullPeriod * wave.cycles) maxU64) :
    ∃ target velocity, (wave.targetAndVelocityAtTick tick loopHz).1 = some (target, velocity) := by
  simp only [PositionWave.targetAndVelocityAtTick, if_neg (not_le.mpr h)]
  exact ⟨_, _, rfl⟩

theorem half_lt_cos {x : ℝ} (hx : 0 ≤ x) (hx' : x ≤ 1 / 2) : 1 / 2 < Real.cos x := by
  have hbound := Real.one_sub_sq_div_two_le_cos (x := x)
  nlinarith

/-- A wave with half a period of all 64 bits, at a peak speed of one. -/
def saturatedRequest {F : Type} [Analytic F] : WaveRequest F where
  joint := "elbow"
  minRad := lit 0
  maxRad := lit (2 * (2 ^ 64 - 1)) / Analytic.pi
  cycles := 1
  halfPeriodSec := lit (2 ^ 64 - 1)

end Marengo

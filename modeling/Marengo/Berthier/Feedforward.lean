import Marengo.Berthier.PositionLaw

/-!
# Continuity of the feed-forward

The dynamic torque and the whole feed-forward are both slewed: each tick moves them to what is
wanted, by a limited step. `slew` is that step over an ordered field, and the distance to a constant
goal shrinks by the limit until it is zero. The integral torque is clamped at the end of its step,
so its cap holds whatever the step did.

A run of the feed-forward is a state for every tick; what other code writes into the state between
two ticks, the reference velocity and the flag of the law's own reshaping, is part of a tick's data.
-/

namespace Marengo

/-! ## Slewing -/

section
variable {K : Type} [Field K] [LinearOrder K] [IsStrictOrderedRing K]

/-- One step from `x` towards `goal`, by `m` at most. -/
def slew (m x goal : K) : K := x + max (-m) (min m (goal - x))

theorem abs_slew_sub_le {m : K} (hm : 0 ≤ m) (x goal : K) : |slew m x goal - x| ≤ m := by
  rw [slew, add_sub_cancel_left, abs_le]
  exact ⟨le_max_left _ _, max_le (by linarith) (min_le_left _ _)⟩

/-- A step takes the limit off the distance, down to zero. -/
theorem abs_sub_slew {m : K} (hm : 0 ≤ m) (x goal : K) :
    |goal - slew m x goal| = max 0 (|goal - x| - m) := by
  rcases le_total |goal - x| m with hnear | hfar
  · have hbounds := abs_le.mp hnear
    rw [slew, min_eq_right hbounds.2, max_eq_right hbounds.1, max_eq_left (by linarith)]
    simp
  · rw [max_eq_right (by linarith)]
    rcases le_total 0 (goal - x) with hup | hdown
    · rw [abs_of_nonneg hup] at hfar ⊢
      rw [slew, min_eq_left hfar, max_eq_right (by linarith), abs_of_nonneg (by linarith)]
      ring
    · rw [abs_of_nonpos hdown] at hfar ⊢
      rw [slew, min_eq_right (by linarith), max_eq_left (by linarith), abs_of_nonpos (by linarith)]
      ring

/-- Steps towards a constant goal: the distance is the first one less a limit for each step. -/
theorem abs_sub_le_of_slew {m goal : K} (hm : 0 ≤ m) {x : ℕ → K}
    (hstep : ∀ n, x (n + 1) = slew m (x n) goal) (n : ℕ) :
    |goal - x n| ≤ max 0 (|goal - x 0| - n * m) := by
  induction n with
  | zero => simp
  | succ n ih =>
    rw [hstep n, abs_sub_slew hm]
    refine max_le (le_max_left _ _) ?_
    push_cast
    rcases le_max_iff.mp ih with hzero | hfar
    · exact (by linarith : _ ≤ (0 : K)).trans (le_max_left _ _)
    · exact (by linarith : _ ≤ |goal - x 0| - (n + 1) * m).trans (le_max_right _ _)

end

/-- The clamped step of the source. -/
theorem add_clamp_eq_slew {m : ℝ} (hm : 0 ≤ m) (x goal : ℝ) :
    x + clamp (goal - x) (-m) m = slew m x goal := by
  rw [clamp_eq (by linarith), slew]

theorem abs_clamp_le {m : ℝ} (hm : 0 ≤ m) (x : ℝ) : |clamp x (-m) m| ≤ m := by
  rw [clamp_eq (by linarith), abs_le]
  exact ⟨le_max_left _ _, max_le (by linarith) (min_le_left _ _)⟩

/-! ## Runs -/

/-- One tick of the feed-forward: its parameters and inputs, and what the reference and the law wrote
into the state since the tick before. -/
structure FeedforwardTick (F : Type) where
  gains : ScaledPdGains F
  input : FeedforwardInput F
  s : F
  vC : F
  reshapedLocal : Bool

section
variable {F : Type} [Analytic F]

def ScaledPdState.feedforwardTick (state : ScaledPdState F) (tick : FeedforwardTick F) :
    ScaledPdFeedforward F × ScaledPdState F :=
  let state := { state with s := tick.s, vC := tick.vC, reshapedLocal := tick.reshapedLocal }
  state.composeFeedforward tick.gains tick.input

def feedforwardState (start : ScaledPdState F) (ticks : ℕ → FeedforwardTick F) : ℕ → ScaledPdState F
  | 0 => start
  | n + 1 => ((feedforwardState start ticks n).feedforwardTick (ticks n)).2

/-- What each tick returns. -/
def feedforwardRun (start : ScaledPdState F) (ticks : ℕ → FeedforwardTick F) (n : ℕ) :
    ScaledPdFeedforward F :=
  ((feedforwardState start ticks n).feedforwardTick (ticks n)).1

/-- The sum of the terms that a tick returned, before the step guard. -/
def ScaledPdFeedforward.wanted (self : ScaledPdFeedforward F) (input : FeedforwardInput F) : F :=
  input.tauG + self.tauFric + self.tauI

/-- The largest integral torque of the mode that a joint runs. -/
def ScaledPdGains.integralMax (gains : ScaledPdGains F) : F :=
  match gains.integralMode with
  | .targetBand => scaledPdIntegralMaxNm
  | .leakyReference => clamp gains.integralCapNm (lit 0) scaledPdIntegralMaxNm

end

/-! ## One tick -/

section
variable (state : ScaledPdState ℝ) (tick : FeedforwardTick ℝ)

theorem scaledPdIntegralMaxNm_nonneg : (0 : ℝ) ≤ scaledPdIntegralMaxNm := by
  rw [scaledPdIntegralMaxNm, lit_eq]
  norm_num

theorem abs_integralStep_le (tauI targetError ki band leakS dt : ℝ) :
    |integralStep tauI targetError ki band leakS dt| ≤ scaledPdIntegralMaxNm := by
  simp only [integralStep, isFinite_eq, if_true]
  exact abs_clamp_le scaledPdIntegralMaxNm_nonneg _

theorem abs_leakyIntegralStep_le (tauI referenceError ki band leakS cap : ℝ) (frozen : Bool)
    (dt : ℝ) : |leakyIntegralStep tauI referenceError ki band leakS cap frozen dt| ≤
      clamp cap (lit 0) scaledPdIntegralMaxNm := by
  have hcap : 0 ≤ clamp cap (lit 0) scaledPdIntegralMaxNm := by
    rw [lit_zero, clamp_eq scaledPdIntegralMaxNm_nonneg]
    exact le_max_left _ _
  simp only [leakyIntegralStep, isFinite_eq, if_true]
  exact abs_clamp_le hcap _

theorem abs_feedforwardTick_tauI_le :
    |(state.feedforwardTick tick).1.tauI| ≤ tick.gains.integralMax := by
  simp only [ScaledPdState.feedforwardTick, ScaledPdState.composeFeedforward,
    ScaledPdState.nextIntegral, ScaledPdGains.integralMax]
  cases tick.gains.integralMode with
  | targetBand => exact abs_integralStep_le _ _ _ _ _ _
  | leakyReference => exact abs_leakyIntegralStep_le _ _ _ _ _ _ _ _

theorem abs_feedforwardTick_tauFric_sub_le :
    |(state.feedforwardTick tick).1.tauFric - state.tauDyn| ≤
      scaledPdDynamicFfRateNmS * max tick.input.dt 0 := by
  have hrate : (0 : ℝ) ≤ scaledPdDynamicFfRateNmS := by
    rw [scaledPdDynamicFfRateNmS, lit_eq]
    norm_num
  simp only [ScaledPdState.feedforwardTick, ScaledPdState.composeFeedforward,
    ScaledPdState.nextDynamic, isFinite_eq, if_true, Scalar.max_eq, lit_zero]
  have hstep := mul_nonneg hrate (le_max_right tick.input.dt 0)
  rw [add_clamp_eq_slew hstep]
  exact abs_slew_sub_le hstep _ _

variable {maxStep : ℝ}

theorem guardStep_eq {gains : ScaledPdGains ℝ} (input : FeedforwardInput ℝ) (wanted : ℝ)
    (hguard : gains.ffStepMaxNm = some maxStep) (hpos : 0 < maxStep) :
    state.guardStep gains input wanted =
      let sent := slew maxStep ((state.ffPrev.or input.ffLastSent).getD wanted) wanted
      (sent, decide (1 / 10 ^ 12 < |sent - wanted|)) := by
  have hblt : blt (lit 0) maxStep = true := by
    rw [blt_iff, lit_zero]
    exact hpos
  have hlit : (lit (1 / 1000000000000) : ℝ) = 1 / 10 ^ 12 := by
    rw [lit_eq]
    norm_num
  rw [ScaledPdState.guardStep, hguard]
  simp only [hblt, isFinite_eq, Bool.and_self, if_true, add_clamp_eq_slew hpos.le, hlit]
  rfl

/-- The guard of one tick: it slews the sum from the value before, and says whether that changed
the sum. -/
theorem feedforwardTick_guard (hguard : tick.gains.ffStepMaxNm = some maxStep)
    (hpos : 0 < maxStep) :
    let out := (state.feedforwardTick tick).1
    out.tauFf = slew maxStep
        ((state.ffPrev.or tick.input.ffLastSent).getD (out.wanted tick.input))
        (out.wanted tick.input) ∧
      (out.ffGuarded = true ↔ 1 / 10 ^ 12 < |out.tauFf - out.wanted tick.input|) := by
  simp only [ScaledPdState.feedforwardTick, ScaledPdState.composeFeedforward,
    guardStep_eq _ _ _ hguard hpos, ScaledPdFeedforward.wanted, decide_eq_true_iff, and_self]

end

/-! ## Whole runs -/

section
variable {start : ScaledPdState ℝ} {ticks : ℕ → FeedforwardTick ℝ} {maxStep : ℕ → ℝ}

theorem feedforwardState_tauDyn (start : ScaledPdState ℝ) (ticks : ℕ → FeedforwardTick ℝ) (n : ℕ) :
    (feedforwardState start ticks (n + 1)).tauDyn = (feedforwardRun start ticks n).tauFric := rfl

theorem feedforwardState_ffPrev (start : ScaledPdState ℝ) (ticks : ℕ → FeedforwardTick ℝ) (n : ℕ) :
    (feedforwardState start ticks (n + 1)).ffPrev = some (feedforwardRun start ticks n).tauFf := rfl

variable (hguard : ∀ n, (ticks n).gains.ffStepMaxNm = some (maxStep n) ∧ 0 < maxStep n)
include hguard

/-- After the first tick the guard slews from what the tick before returned. -/
theorem feedforwardRun_slew (n : ℕ) :
    (feedforwardRun start ticks (n + 1)).tauFf =
      slew (maxStep (n + 1)) (feedforwardRun start ticks n).tauFf
        ((feedforwardRun start ticks (n + 1)).wanted (ticks (n + 1)).input) := by
  obtain ⟨hconfigured, hpos⟩ := hguard (n + 1)
  have h := (feedforwardTick_guard (feedforwardState start ticks (n + 1)) (ticks (n + 1))
    hconfigured hpos).1
  rwa [feedforwardState_ffPrev, Option.some_or, Option.getD_some] at h

/-- A sum that stays constant from a tick on is reached from the value that this tick starts with,
one largest step a tick, and kept. -/
theorem feedforwardRun_reaches {wanted m previous : ℝ} {k : ℕ}
    (hprevious : (feedforwardState start ticks k).ffPrev.or (ticks k).input.ffLastSent =
      some previous)
    (hconst : ∀ n, k ≤ n → (feedforwardRun start ticks n).wanted (ticks n).input = wanted ∧
      maxStep n = m) {n : ℕ} (hk : k ≤ n) (hn : k + ⌈|wanted - previous| / m⌉₊ ≤ n + 1) :
    (feedforwardRun start ticks n).tauFf = wanted := by
  have hm : 0 < m := (hconst k le_rfl).2 ▸ (hguard k).2
  -- the values from the one before tick `k` on
  let values : ℕ → ℝ
    | 0 => previous
    | j + 1 => (feedforwardRun start ticks (k + j)).tauFf
  have hvalues : ∀ j, values (j + 1) = slew m (values j) wanted := by
    intro j
    cases j with
    | zero =>
      obtain ⟨hconfigured, hpos⟩ := hguard k
      have h := (feedforwardTick_guard (feedforwardState start ticks k) (ticks k) hconfigured
        hpos).1
      rw [hprevious, Option.getD_some] at h
      obtain ⟨hw, hmk⟩ := hconst k le_rfl
      simp only [values, Nat.add_zero]
      rw [← hw, ← hmk]
      exact h
    | succ j =>
      obtain ⟨hw, hmk⟩ := hconst (k + j + 1) (by omega)
      simp only [values, ← Nat.add_assoc]
      rw [feedforwardRun_slew hguard, hw, hmk]
  obtain ⟨j, rfl⟩ := Nat.exists_eq_add_of_le hk
  have hsteps : |wanted - previous| ≤ ((j + 1 : ℕ) : ℝ) * m := by
    rw [← div_le_iff₀ hm]
    exact (Nat.le_ceil _).trans (by exact_mod_cast (by omega))
  have hgap := abs_sub_le_of_slew hm.le hvalues (j + 1)
  rw [max_eq_left (by simp only [values]; linarith)] at hgap
  exact (sub_eq_zero.mp (abs_nonpos_iff.mp hgap)).symm

end

/-- The feed-forward over any run with the step guard configured: consecutive values are a step
apart at most, the integral torque is within its cap, the dynamic torque within its rate, the flag
says when the guard changed the sum, and a constant sum is reached in as many steps as its distance
takes, and kept. -/
theorem feedforward_continuity (start : ScaledPdState ℝ) (ticks : ℕ → FeedforwardTick ℝ)
    (maxStep : ℕ → ℝ)
    (hguard : ∀ n, (ticks n).gains.ffStepMaxNm = some (maxStep n) ∧ 0 < maxStep n) :
    let out := feedforwardRun start ticks
    let wanted := fun n => (out n).wanted (ticks n).input
    (∀ n, |(out (n + 1)).tauFf - (out n).tauFf| ≤ maxStep (n + 1)) ∧
      (∀ n, |(out n).tauI| ≤ (ticks n).gains.integralMax) ∧
      (∀ n, |(out n).tauFric - (feedforwardState start ticks n).tauDyn| ≤
        6 * max (ticks n).input.dt 0) ∧
      (∀ n, |(out (n + 1)).tauFric - (out n).tauFric| ≤ 6 * max (ticks (n + 1)).input.dt 0) ∧
      (∀ n, (out n).ffGuarded = true ↔ 1 / 10 ^ 12 < |(out n).tauFf - wanted n|) ∧
      ∀ w m previous k,
        (feedforwardState start ticks k).ffPrev.or (ticks k).input.ffLastSent = some previous →
        (∀ n, k ≤ n → wanted n = w ∧ maxStep n = m) →
        ∀ n, k ≤ n → k + ⌈|w - previous| / m⌉₊ ≤ n + 1 → (out n).tauFf = w := by
  intro out wanted
  have hrate : (scaledPdDynamicFfRateNmS : ℝ) = 6 := by
    rw [scaledPdDynamicFfRateNmS, lit_eq]
    norm_num
  have hdynamic : ∀ n, |(out n).tauFric - (feedforwardState start ticks n).tauDyn| ≤
      6 * max (ticks n).input.dt 0 := by
    intro n
    rw [← hrate]
    exact abs_feedforwardTick_tauFric_sub_le _ _
  refine ⟨fun n => ?_, fun n => abs_feedforwardTick_tauI_le _ _, hdynamic, fun n => hdynamic (n + 1),
    fun n => ?_, fun w m previous k hprevious hconst n hk hn => ?_⟩
  · simp only [out]
    rw [feedforwardRun_slew hguard]
    exact abs_slew_sub_le (hguard (n + 1)).2.le _ _
  · obtain ⟨hconfigured, hpos⟩ := hguard n
    exact (feedforwardTick_guard _ _ hconfigured hpos).2
  · exact feedforwardRun_reaches hguard hprevious hconst hk hn

/-- A tick that wants five newton metres of gravity torque, with steps of one. -/
def steppedTick {F : Type} [Scalar F] : FeedforwardTick F where
  gains :=
    { kd := lit 1, e0 := lit 1, e1 := lit 2, integralBand := lit 1
      integralLeakS := lit 1, integralMode := .leakyReference, integralCapNm := lit 0
      inertia := lit 0, hostDamping := lit 0, velocityFilterS := lit 0
      ffStepMaxNm := some (lit 1), friction := none }
  input :=
    { ki := lit 0, targetError := lit 0, referenceError := lit 0
      dqMeas := lit 0, reshapedDownstream := false, ffLastSent := some (lit 0)
      tauG := lit 5, dt := lit 0 }
  s := lit 1
  vC := lit 0
  reshapedLocal := false

/-- From zero, the fifth tick returns all of it. -/
theorem feedforward_continuity_stepped :
    (feedforwardRun .default (fun _ => steppedTick) 4).tauFf = (5 : ℝ) := by
  have hone : (lit 1 : ℝ) = 1 := lit_one
  have hzero : (0 : ℝ) ≤ scaledPdIntegralMaxNm := scaledPdIntegralMaxNm_nonneg
  obtain ⟨-, hintegral, hdynamic, -, -, hreaches⟩ := feedforward_continuity (.default)
    (fun _ => steppedTick) (fun _ => 1) (fun _ => ⟨congrArg some hone, one_pos⟩)
  have hcap : (steppedTick.gains.integralMax : ℝ) = 0 := by
    simp only [ScaledPdGains.integralMax, steppedTick, lit_zero, clamp_eq hzero]
    rw [min_eq_right hzero, max_self]
  have hdt : (steppedTick.input.dt : ℝ) = 0 := lit_zero
  have hgravity : (steppedTick.input.tauG : ℝ) = 5 := by
    simp only [steppedTick, lit_eq]
    norm_num
  have hrest : ∀ n, (feedforwardState .default (fun _ => steppedTick) n).tauDyn = (0 : ℝ) := by
    intro n
    induction n with
    | zero => exact lit_zero
    | succ n ih =>
      have h := hdynamic n
      rw [hdt, max_self, mul_zero, abs_nonpos_iff] at h
      rw [feedforwardState_tauDyn, ← ih]
      exact sub_eq_zero.mp h
  refine hreaches 5 1 0 0 (congrArg some lit_zero) (fun n _ => ⟨?_, rfl⟩) 4 (Nat.zero_le 4)
    (by norm_num)
  have htauI : (feedforwardRun .default (fun _ => steppedTick) n).tauI = (0 : ℝ) :=
    abs_nonpos_iff.mp (hcap ▸ hintegral n)
  have htauFric : (feedforwardRun .default (fun _ => steppedTick) n).tauFric = (0 : ℝ) := by
    rw [← feedforwardState_tauDyn]
    exact hrest (n + 1)
  simp only [ScaledPdFeedforward.wanted, htauI, htauFric, add_zero, hgravity]

end Marengo

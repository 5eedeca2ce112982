import Marengo.Berthier.GainRuntime
import Mathlib.Data.Nat.Cast.Order.Field
import Mathlib.Order.Interval.Set.UnorderedInterval
import Mathlib.Tactic.FieldSimp
import Mathlib.Tactic.Linarith
import Mathlib.Tactic.Positivity
import Mathlib.Tactic.Ring

/-!
# Bumpless gain ramps

A ramp starts at the gains on the wire, whatever they come from, and ends at the configured gains of
the mode entered, so no mode change steps a gain. `Sound` states are those in which overrides stand
only in a mode that takes them, and a ramp leads to the gains of the mode; every operation keeps
them. An override that stands when a ramp starts is where the ramp starts (`Held`), so its joint
stays at an end of the ramp.
-/

namespace Marengo

open GainLoop

/-! ## The gains of one ramp -/

section
variable {K : Type} [Field K]

def rampGain (a b : K) (remaining total : ℕ) : K := a + (b - a) * (1 - remaining / total)

theorem rampGain_zero (a b : K) (total : ℕ) : rampGain a b 0 total = b := by
  rw [rampGain, Nat.cast_zero, zero_div, sub_zero, mul_one, add_sub_cancel]

theorem rampGain_full [CharZero K] {total : ℕ} (a b : K) (h : 0 < total) :
    rampGain a b total total = a := by
  have htotal : (total : K) ≠ 0 := Nat.cast_ne_zero.mpr h.ne'
  rw [rampGain, div_self htotal, sub_self, mul_zero, add_zero]

theorem rampGain_sub [CharZero K] {remaining total : ℕ} (a b : K) (hr : 0 < remaining)
    (ht : 0 < total) :
    rampGain a b (remaining - 1) total - rampGain a b remaining total = (b - a) / total := by
  have htotal : (total : K) ≠ 0 := Nat.cast_ne_zero.mpr ht.ne'
  rw [rampGain, rampGain, Nat.cast_pred hr]
  field_simp
  ring

theorem rampGain_mem [LinearOrder K] [IsStrictOrderedRing K] {remaining total : ℕ} (a b : K)
    (h : remaining ≤ total) (ht : 0 < total) : rampGain a b remaining total ∈ Set.uIcc a b := by
  have htotal : (0 : K) < total := Nat.cast_pos.mpr ht
  have hnonneg : (0 : K) ≤ remaining / total := by positivity
  have hle : (remaining : K) / total ≤ 1 := (div_le_one htotal).mpr (Nat.cast_le.mpr h)
  rw [rampGain, Set.mem_uIcc]
  rcases le_total a b with hab | hba
  · left
    constructor <;> nlinarith
  · right
    constructor <;> nlinarith

end

/-! ## Joints -/

section
variable {F : Type} [Scalar F]

/-- The wire has one pair of gains for each joint. -/
theorem GainLoop.wire_eq (self : GainLoop F) (cfg : GainConfig F) :
    self.wire cfg = cfg.jointNames.mapIdx fun i name =>
      self.gains.jointWire self.controlMode name (cfg.target self.controlMode name) i := by
  have hparallel : requireParallel "targets" (cfg.targetGainsForMode self.controlMode).length
      cfg.jointNames.length = .ok () := by
    rw [requireParallel, if_pos (by rw [GainConfig.targetGainsForMode, List.length_map])]
  have hwire : self.wire cfg = (cfg.jointNames.zip (cfg.targetGainsForMode self.controlMode)).mapIdx
      fun i joint => self.gains.jointWire self.controlMode joint.1 joint.2 i := by
    rw [GainLoop.wire, GainRuntime.wireGainsNow, hparallel]
    rfl
  rw [hwire, GainConfig.targetGainsForMode, ← List.map_prod_left_eq_zip]
  refine List.ext_getElem? fun i => ?_
  rw [List.getElem?_mapIdx, List.getElem?_mapIdx, List.getElem?_map, Option.map_map]
  rfl

theorem GainLoop.wire_getElem? (self : GainLoop F) (cfg : GainConfig F) (i : ℕ) :
    (self.wire cfg)[i]? = cfg.jointNames[i]?.map fun name =>
      self.gains.jointWire self.controlMode name (cfg.target self.controlMode name) i := by
  rw [self.wire_eq, List.getElem?_mapIdx]

end

/-! ## Sound states -/

section
variable {F : Type} [Scalar F]

structure GainRamp.LeadsTo (ramp : GainRamp F) (cfg : GainConfig F) (mode : ControlMode)
    (rampTicks : ℕ) : Prop where
  total : ramp.totalTicks = rampTicks
  running : 0 < ramp.ticksRemaining
  remaining : ramp.ticksRemaining ≤ ramp.totalTicks
  ends : ramp.joints.map (fun j => (j.toKp, j.toKd)) = cfg.targetGainsForMode mode

/-- Overrides stand only in a mode that takes them; a ramp leads to the mode's gains, and none runs
in the disabled mode. -/
structure GainLoop.Sound (cfg : GainConfig F) (loop : GainLoop F) : Prop where
  overrides : modeAllowsGainOverride loop.controlMode = false →
    ∀ name, loop.gains.overrides name = none
  ramp : ∀ r ∈ loop.gains.ramp, r.LeadsTo cfg loop.controlMode loop.gains.rampTicks
  disabled : loop.controlMode = .disabled → loop.gains.ramp = none

variable {cfg : GainConfig F} {self : GainLoop F}

theorem GainLoop.sound_start (cfg : GainConfig F) (loopHz : ℕ) (mode : ControlMode) :
    (GainLoop.start loopHz mode : GainLoop F).Sound cfg where
  overrides _ _ := rfl
  ramp r hr := by cases hr
  disabled _ := rfl

theorem modeClears_of_not_allows {mode : ControlMode} (h : modeAllowsGainOverride mode = false) :
    modeClearsGainOverridesOnEnter mode = true := by
  cases mode <;> first | rfl | cases h

/-- The overrides after a mode change. -/
theorem GainLoop.setControlMode_overrides (mode : ControlMode) :
    (self.setControlMode cfg mode).gains.overrides =
      if modeClearsGainOverridesOnEnter mode then fun _ => none else self.gains.overrides := by
  simp only [GainLoop.setControlMode, GainRuntime.onModeEnter]
  split_ifs <;> rfl

@[simp] theorem GainLoop.setControlMode_rampTicks (mode : ControlMode) :
    (self.setControlMode cfg mode).gains.rampTicks = self.gains.rampTicks := by
  simp only [GainLoop.setControlMode, GainRuntime.onModeEnter]
  split_ifs <;> rfl

/-- The ramp that a change between two modes starts. -/
def GainLoop.armed (self : GainLoop F) (cfg : GainConfig F) (mode : ControlMode) : GainRamp F where
  joints := (self.wire cfg).zipWith (fun a b => ⟨a.1, a.2, b.1, b.2⟩) (cfg.targetGainsForMode mode)
  ticksRemaining := self.gains.rampTicks
  totalTicks := self.gains.rampTicks

theorem GainLoop.setControlMode_ramp {mode : ControlMode} (hself : self.controlMode ≠ .disabled)
    (hmode : mode ≠ .disabled) :
    (self.setControlMode cfg mode).gains.ramp = some (self.armed cfg mode) := by
  simp only [GainLoop.setControlMode, GainRuntime.onModeEnter, if_neg hself, if_neg hmode]
  split_ifs <;> rfl

theorem GainLoop.armed_leadsTo (self : GainLoop F) (cfg : GainConfig F) (mode : ControlMode) :
    (self.armed cfg mode).LeadsTo cfg mode self.gains.rampTicks where
  total := rfl
  running := self.gains.rampTicks_pos
  remaining := le_rfl
  ends := by
    have hlength : (cfg.targetGainsForMode mode).length ≤ (self.wire cfg).length := by
      rw [self.wire_eq, List.length_mapIdx, GainConfig.targetGainsForMode, List.length_map]
    refine List.ext_getElem? fun i => ?_
    rw [GainLoop.armed, List.getElem?_map, List.getElem?_zipWith]
    cases hto : (cfg.targetGainsForMode mode)[i]? with
    | none => cases (self.wire cfg)[i]? <;> rfl
    | some gains =>
      have hi : i < (self.wire cfg).length :=
        (List.getElem?_eq_some_iff.mp hto).1.trans_le hlength
      rw [List.getElem?_eq_getElem hi]
      rfl

theorem GainLoop.Sound.enter (h : self.Sound cfg) (mode : ControlMode) :
    (self.setControlMode cfg mode).Sound cfg where
  overrides hallows name := by
    have hclears : modeClearsGainOverridesOnEnter mode = true := modeClears_of_not_allows hallows
    rw [setControlMode_overrides, if_pos hclears]
  ramp r hr := by
    rw [setControlMode_rampTicks]
    by_cases hmode : mode = .disabled
    · subst hmode
      cases hr
    · by_cases hself : self.controlMode = .disabled
      · -- entered from the disabled mode: no ramp runs
        simp only [GainLoop.setControlMode, GainRuntime.onModeEnter, if_pos hself, if_neg hmode] at hr
        split_ifs at hr <;> rw [h.disabled hself] at hr <;> cases hr
      · rw [setControlMode_ramp hself hmode] at hr
        cases hr
        exact self.armed_leadsTo cfg mode
  disabled hmode := by
    have hmode : mode = .disabled := hmode
    simp only [GainLoop.setControlMode, GainRuntime.onModeEnter, if_pos hmode]

omit [Scalar F] in
/-- A tick of the ramp, if one runs. -/
theorem GainRuntime.advanceTick_cases (gains : GainRuntime F) :
    (gains.ramp = none ∧ gains.advanceTick = gains) ∨
      (∃ r ∈ gains.ramp, r.ticksRemaining - 1 = 0 ∧
        gains.advanceTick = { gains with ramp := none }) ∨
      ∃ r ∈ gains.ramp, r.ticksRemaining - 1 ≠ 0 ∧ gains.advanceTick =
        { gains with ramp := some { r with ticksRemaining := r.ticksRemaining - 1 } } := by
  unfold GainRuntime.advanceTick
  cases hramp : gains.ramp with
  | none => exact .inl ⟨rfl, rfl⟩
  | some r =>
    by_cases hlast : r.ticksRemaining - 1 = 0
    · exact .inr (.inl ⟨r, rfl, hlast, if_pos hlast⟩)
    · exact .inr (.inr ⟨r, rfl, hlast, if_neg hlast⟩)

omit [Scalar F] in
@[simp] theorem GainRuntime.advanceTick_overrides (gains : GainRuntime F) :
    gains.advanceTick.overrides = gains.overrides := by
  obtain ⟨-, h⟩ | ⟨r, -, -, h⟩ | ⟨r, -, -, h⟩ := gains.advanceTick_cases <;> rw [h]

omit [Scalar F] in
@[simp] theorem GainRuntime.advanceTick_rampTicks (gains : GainRuntime F) :
    gains.advanceTick.rampTicks = gains.rampTicks := by
  obtain ⟨-, h⟩ | ⟨r, -, -, h⟩ | ⟨r, -, -, h⟩ := gains.advanceTick_cases <;> rw [h]

theorem GainLoop.Sound.advance (h : self.Sound cfg) : self.advanceTick.Sound cfg where
  overrides hallows name := by
    rw [advanceTick, GainRuntime.advanceTick_overrides]
    exact h.overrides hallows name
  ramp r hr := by
    rw [advanceTick] at hr ⊢
    rw [GainRuntime.advanceTick_rampTicks]
    obtain ⟨hnone, htick⟩ | ⟨r', -, -, htick⟩ | ⟨r', hr', hlast, htick⟩ :=
      self.gains.advanceTick_cases
    · rw [htick, hnone] at hr
      cases hr
    · rw [htick] at hr
      cases hr
    · rw [htick] at hr
      cases hr
      obtain ⟨total, running, remaining, ends⟩ := h.ramp r' hr'
      exact ⟨total, Nat.pos_of_ne_zero hlast, (Nat.sub_le _ _).trans remaining, ends⟩
  disabled hmode := by
    have hnone := h.disabled hmode
    rw [advanceTick, GainRuntime.advanceTick, hnone]
    exact hnone

theorem GainLoop.Sound.step (h : self.Sound cfg) (op : GainOp F) : (self.step cfg op).Sound cfg := by
  cases op with
  | enter mode => exact h.enter mode
  | advance => exact h.advance
  | apply joint gains limits =>
    simp only [GainLoop.step, GainRuntime.apply]
    split
    · rename_i hallows
      refine ⟨fun hnot => ?_, h.ramp, h.disabled⟩
      rw [hallows] at hnot
      cases hnot
    · exact h
  | clear joint =>
    refine ⟨fun hnot name => ?_, h.ramp, h.disabled⟩
    simp only [GainLoop.step, GainRuntime.clear, Function.update_apply]
    split
    · rfl
    · exact h.overrides hnot name

theorem GainLoop.Sound.run (h : self.Sound cfg) (ops : List (GainOp F)) :
    (self.run cfg ops).Sound cfg := by
  induction ops generalizing self with
  | nil => exact h
  | cons op ops ih => exact ih (h.step op)

@[simp] theorem GainLoop.step_rampTicks (self : GainLoop F) (cfg : GainConfig F) (op : GainOp F) :
    (self.step cfg op).gains.rampTicks = self.gains.rampTicks := by
  cases op with
  | enter mode => exact GainLoop.setControlMode_rampTicks mode
  | advance => exact self.gains.advanceTick_rampTicks
  | apply joint gains limits =>
    simp only [GainLoop.step, GainRuntime.apply]
    split <;> rfl
  | clear joint => rfl

theorem GainLoop.run_rampTicks (self : GainLoop F) (cfg : GainConfig F) (ops : List (GainOp F)) :
    (self.run cfg ops).gains.rampTicks = self.gains.rampTicks := by
  induction ops generalizing self with
  | nil => rfl
  | cons op ops ih => exact (ih _).trans (self.step_rampTicks cfg op)

end

/-! ## The wire -/

section
variable {K : Type} [Field K] [LinearOrder K]

attribute [local instance] Scalar.ofField

variable {cfg : GainConfig K} {self : GainLoop K} {gains : GainRuntime K} {mode : ControlMode}
  {name : String} {i : ℕ} {target : K × K}

theorem jointWire_override {override : GainOverride K} (hallows : modeAllowsGainOverride mode = true)
    (h : gains.overrides name = some override) :
    gains.jointWire mode name target i = (override.kp, override.kd) := by
  simp only [GainRuntime.jointWire, hallows, h, if_true, Option.map_some, effectiveWireGains]

/-- Without an override the wire has the ramp, else the configured gains. -/
theorem jointWire_free (h : gains.overrides name = none) :
    gains.jointWire mode name target i =
      (gains.rampGains.bind fun ramp => ramp[i]?).getD target := by
  simp only [GainRuntime.jointWire, h, Option.map_none, ite_self, effectiveWireGains]
  cases modeAllowsGainOverride mode <;> rfl

/-- Without an override and without a ramp the wire has the configured gains. -/
theorem jointWire_target (h : gains.overrides name = none) (hramp : gains.ramp = none) :
    gains.jointWire mode name target i = target := by
  rw [jointWire_free h, GainRuntime.rampGains, hramp]
  rfl

variable {r : GainRamp K} {j : RampJoint K}

/-- The gains of one joint on a ramp with some ticks to go. -/
def RampJoint.gainsAt (j : RampJoint K) (remaining total : ℕ) : K × K :=
  (rampGain j.fromKp j.toKp remaining total, rampGain j.fromKd j.toKd remaining total)

theorem jointWire_ramp (h : gains.overrides name = none) (hr : gains.ramp = some r)
    (hj : r.joints[i]? = some j) :
    gains.jointWire mode name target i = j.gainsAt r.ticksRemaining r.totalTicks := by
  have hprogress : GainRuntime.rampProgress r = 1 - (r.ticksRemaining : K) / r.totalTicks := by
    rw [GainRuntime.rampProgress, lit_one, lit_eq, lit_eq, Rat.cast_natCast,
      Rat.cast_natCast]
  rw [jointWire_free h, GainRuntime.rampGains, hr, Option.map_some, Option.bind_some,
    List.getElem?_map, hj, Option.map_some, Option.getD_some, hprogress]
  rfl

theorem GainLoop.Sound.wire_override {override : GainOverride K} (h : self.Sound cfg)
    (hov : self.gains.overrides name = some override) :
    self.gains.jointWire self.controlMode name target i = (override.kp, override.kd) := by
  refine jointWire_override ?_ hov
  by_contra hnot
  rw [h.overrides (Bool.not_eq_true _ ▸ hnot)] at hov
  cases hov

/-- The ramp that starts at a mode change has the gains on the wire at its start. -/
theorem GainLoop.armed_getElem? (self : GainLoop K) (mode : ControlMode)
    (hname : cfg.jointNames[i]? = some name) :
    ∃ j, (self.armed cfg mode).joints[i]? = some j ∧ (j.fromKp, j.fromKd) =
      self.gains.jointWire self.controlMode name (cfg.target self.controlMode name) i := by
  have hto : (cfg.targetGainsForMode mode)[i]? = some (cfg.target mode name) := by
    rw [GainConfig.targetGainsForMode, List.getElem?_map, hname, Option.map_some]
  rw [GainLoop.armed, List.getElem?_zipWith, self.wire_getElem?, hname, hto]
  exact ⟨_, rfl, rfl⟩

/-- The override of a joint after a mode change, if there is one, stood before, in modes that take
it. -/
theorem GainLoop.setControlMode_override {override : GainOverride K}
    (h : (self.setControlMode cfg mode).gains.overrides name = some override) :
    self.gains.overrides name = some override := by
  rw [GainLoop.setControlMode_overrides] at h
  split at h
  · cases h
  · exact h

variable [IsStrictOrderedRing K]

/-- A change between two modes leaves the gains on the wire as they are. -/
theorem GainLoop.Sound.enter_wire (h : self.Sound cfg) (hself : self.controlMode ≠ .disabled)
    (hmode : mode ≠ .disabled) : (self.setControlMode cfg mode).wire cfg = self.wire cfg := by
  refine List.ext_getElem? fun i => ?_
  rw [wire_getElem?, wire_getElem?]
  cases hname : cfg.jointNames[i]? with
  | none => rfl
  | some name =>
    simp only [Option.map_some, Option.some.injEq]
    cases hov : (self.setControlMode cfg mode).gains.overrides name with
    | none =>
      obtain ⟨j, hj, hstart⟩ := self.armed_getElem? mode hname
      rw [jointWire_ramp hov (setControlMode_ramp hself hmode) hj, ← hstart]
      exact Prod.ext (rampGain_full _ _ self.gains.rampTicks_pos)
        (rampGain_full _ _ self.gains.rampTicks_pos)
    | some override =>
      rw [(h.enter mode).wire_override hov,
        h.wire_override (setControlMode_override hov)]

/-! ## Ticks -/

omit [IsStrictOrderedRing K] in
theorem GainRamp.LeadsTo.getElem? {rampTicks : ℕ} (h : r.LeadsTo cfg mode rampTicks)
    (hname : cfg.jointNames[i]? = some name) :
    ∃ j, r.joints[i]? = some j ∧ (j.toKp, j.toKd) = cfg.target mode name := by
  have hends := congrArg (fun l => l[i]?) h.ends
  simp only [List.getElem?_map, GainConfig.targetGainsForMode, hname, Option.map_some] at hends
  cases hj : r.joints[i]? with
  | none => rw [hj] at hends; cases hends
  | some j =>
    rw [hj] at hends
    exact ⟨j, rfl, Option.some.inj hends⟩

omit [IsStrictOrderedRing K] in
/-- A tick takes a joint without an override to the next gains of the ramp. -/
theorem GainLoop.Sound.advance_wire (h : self.Sound cfg) (hname : cfg.jointNames[i]? = some name)
    (hov : self.gains.overrides name = none) (hr : self.gains.ramp = some r)
    (hj : r.joints[i]? = some j) :
    self.advanceTick.gains.jointWire self.controlMode name (cfg.target self.controlMode name) i =
      j.gainsAt (r.ticksRemaining - 1) r.totalTicks := by
  have hov' : self.advanceTick.gains.overrides name = none := by
    rw [advanceTick, GainRuntime.advanceTick_overrides]
    exact hov
  obtain ⟨hnone, -⟩ | ⟨r', hr', hlast, htick⟩ | ⟨r', hr', -, htick⟩ := self.gains.advanceTick_cases
  · rw [hnone] at hr
    cases hr
  · obtain rfl : r = r' := Option.some.inj (hr.symm.trans hr')
    obtain ⟨j', hj', hends⟩ := (h.ramp r hr').getElem? hname
    obtain rfl : j = j' := Option.some.inj (hj.symm.trans hj')
    rw [jointWire_target hov' (by rw [advanceTick, htick]), hlast, RampJoint.gainsAt,
      rampGain_zero, rampGain_zero, hends]
  · obtain rfl : r = r' := Option.some.inj (hr.symm.trans hr')
    exact jointWire_ramp hov' (congrArg GainRuntime.ramp htick) hj

/-- Two gains lie between the ends of a ramp. -/
def RampJoint.Contains (j : RampJoint K) (gains : K × K) : Prop :=
  gains.1 ∈ Set.uIcc j.fromKp j.toKp ∧ gains.2 ∈ Set.uIcc j.fromKd j.toKd

/-- A tick of a ramp moves both gains by at most a part of the ramp. -/
def RampJoint.Moves (j : RampJoint K) (rampTicks : ℕ) (gains next : K × K) : Prop :=
  |next.1 - gains.1| ≤ |j.toKp - j.fromKp| / rampTicks ∧
    |next.2 - gains.2| ≤ |j.toKd - j.fromKd| / rampTicks

theorem RampJoint.moves_gainsAt (j : RampJoint K) {remaining total : ℕ} (hr : 0 < remaining)
    (ht : 0 < total) : j.Moves total (j.gainsAt remaining total) (j.gainsAt (remaining - 1) total) := by
  have hpart : |(total : K)| = total := abs_of_nonneg (Nat.cast_nonneg _)
  constructor
  · rw [RampJoint.gainsAt, RampJoint.gainsAt, rampGain_sub _ _ hr ht, abs_div, hpart]
  · rw [RampJoint.gainsAt, RampJoint.gainsAt, rampGain_sub _ _ hr ht, abs_div, hpart]

theorem RampJoint.moves_refl (j : RampJoint K) (rampTicks : ℕ) (gains : K × K) :
    j.Moves rampTicks gains gains := by
  constructor <;> rw [sub_self, abs_zero] <;> positivity

/-! ## Overrides during a ramp -/

/-- Each joint with an override starts the ramp at it. -/
def GainLoop.Held (cfg : GainConfig K) (self : GainLoop K) : Prop :=
  ∀ r ∈ self.gains.ramp, ∀ (i : ℕ) name (j : RampJoint K) (override : GainOverride K),
    cfg.jointNames[i]? = some name →
    r.joints[i]? = some j → self.gains.overrides name = some override →
    (j.fromKp, j.fromKd) = (override.kp, override.kd)

omit [IsStrictOrderedRing K] in
theorem GainLoop.Sound.held_enter (h : self.Sound cfg) (hself : self.controlMode ≠ .disabled)
    (hmode : mode ≠ .disabled) : (self.setControlMode cfg mode).Held cfg := by
  intro r hr i name j override hname hj hov
  rw [setControlMode_ramp hself hmode] at hr
  cases hr
  obtain ⟨j', hj', hstart⟩ := self.armed_getElem? mode hname
  obtain rfl : j = j' := Option.some.inj (hj.symm.trans hj')
  rw [hstart, h.wire_override (setControlMode_override hov)]

omit [Field K] [LinearOrder K] [IsStrictOrderedRing K] in
theorem GainLoop.Held.advance (h : self.Held cfg) : self.advanceTick.Held cfg := by
  intro r hr i name j override hname hj hov
  rw [advanceTick] at hr hov
  rw [GainRuntime.advanceTick_overrides] at hov
  obtain ⟨hnone, htick⟩ | ⟨r', -, -, htick⟩ | ⟨r', hr', -, htick⟩ := self.gains.advanceTick_cases
  · rw [htick, hnone] at hr
    cases hr
  · rw [htick] at hr
    cases hr
  · rw [htick] at hr
    cases hr
    exact h r' hr' i name j override hname hj hov

/-- Entering a mode that is not disabled, or a tick. -/
def GainOp.Moves : GainOp K → Prop
  | .enter mode => mode ≠ .disabled
  | .advance => True
  | .apply .. | .clear _ => False

omit [IsStrictOrderedRing K] in
/-- Between modes that are not disabled a run keeps to them, and once it has entered one, each joint
with an override starts the ramp at it. -/
theorem GainLoop.Sound.run_moves (h : self.Sound cfg) (hself : self.controlMode ≠ .disabled)
    (ops : List (GainOp K)) (hmoves : ∀ op ∈ ops, op.Moves) :
    (self.run cfg ops).controlMode ≠ .disabled ∧
      (self.Held cfg ∨ (∃ mode, .enter mode ∈ ops) → (self.run cfg ops).Held cfg) := by
  induction ops generalizing self with
  | nil =>
    refine ⟨hself, ?_⟩
    rintro (hheld | ⟨mode, hmem⟩)
    · exact hheld
    · cases hmem
  | cons op ops ih =>
    have hop := hmoves op (List.mem_cons_self ..)
    have hrest : ∀ op ∈ ops, op.Moves := fun op hmem => hmoves op (List.mem_cons_of_mem _ hmem)
    cases op with
    | enter mode =>
      obtain ⟨hmode, hheld⟩ := ih (h.enter mode) hop hrest
      exact ⟨hmode, fun _ => hheld (.inl (h.held_enter hself hop))⟩
    | advance =>
      obtain ⟨hmode, hheld⟩ := ih h.advance hself hrest
      refine ⟨hmode, ?_⟩
      rintro (hnow | ⟨mode, hmem⟩)
      · exact hheld (.inl hnow.advance)
      · exact hheld (.inr ⟨mode, (List.mem_cons.mp hmem).resolve_left nofun⟩)
    | apply joint gains limits => cases hop
    | clear joint => cases hop

/-- The gains of one joint over a tick. -/
theorem GainLoop.Sound.advance_joint (h : self.Sound cfg) (hname : cfg.jointNames[i]? = some name)
    (hr : self.gains.ramp = some r) :
    ∃ j, r.joints[i]? = some j ∧
      let now := self.gains.jointWire self.controlMode name (cfg.target self.controlMode name) i
      let next := self.advanceTick.gains.jointWire self.controlMode name
        (cfg.target self.controlMode name) i
      j.Moves self.gains.rampTicks now next ∧
        (self.gains.overrides name = none ∨ self.Held cfg → j.Contains next) := by
  have hsound := h.ramp r hr
  have htotal : 0 < r.totalTicks := hsound.total ▸ self.gains.rampTicks_pos
  obtain ⟨j, hj, -⟩ := hsound.getElem? hname
  refine ⟨j, hj, ?_⟩
  cases hov : self.gains.overrides name with
  | none =>
    have hnext := h.advance_wire hname hov hr hj
    simp only [hnext, jointWire_ramp hov hr hj]
    refine ⟨hsound.total ▸ j.moves_gainsAt hsound.running htotal, fun _ => ?_⟩
    have hle : r.ticksRemaining - 1 ≤ r.totalTicks := (Nat.sub_le _ _).trans hsound.remaining
    exact ⟨rampGain_mem _ _ hle htotal, rampGain_mem _ _ hle htotal⟩
  | some override =>
    have hov' : self.advanceTick.gains.overrides name = some override := by
      rw [advanceTick, GainRuntime.advanceTick_overrides]
      exact hov
    have hnext : self.advanceTick.gains.jointWire self.controlMode name
        (cfg.target self.controlMode name) i = (override.kp, override.kd) :=
      h.advance.wire_override hov'
    simp only [hnext, h.wire_override hov]
    refine ⟨j.moves_refl _ _, ?_⟩
    rintro (hnone | hheld)
    · cases hnone
    · obtain ⟨hkp, hkd⟩ := Prod.mk.inj (hheld r hr i name j override hname hj hov)
      rw [RampJoint.Contains, ← hkp, ← hkd]
      exact ⟨Set.left_mem_uIcc, Set.left_mem_uIcc⟩

/-! ## The end of a ramp -/

omit [IsStrictOrderedRing K] in
/-- Ticks count a ramp down. -/
theorem GainLoop.advance_run (self : GainLoop K) (cfg : GainConfig K) (n : ℕ)
    (h : ∀ r ∈ self.gains.ramp, r.ticksRemaining ≤ n) (hrunning : self.Sound cfg) :
    let last := self.run cfg (List.replicate n .advance)
    last.gains.ramp = none ∧ last.gains.overrides = self.gains.overrides ∧
      last.controlMode = self.controlMode := by
  induction n generalizing self with
  | zero =>
    refine ⟨?_, rfl, rfl⟩
    cases hr : self.gains.ramp with
    | none => exact hr
    | some r =>
      have hpos := (hrunning.ramp r hr).running
      have hzero := h r hr
      omega
  | succ n ih =>
    have hstep : ∀ r ∈ self.advanceTick.gains.ramp, r.ticksRemaining ≤ n := by
      intro r hr
      rw [GainLoop.advanceTick] at hr
      obtain ⟨hnone, htick⟩ | ⟨r', -, -, htick⟩ | ⟨r', hr', -, htick⟩ :=
        self.gains.advanceTick_cases
      · rw [htick, hnone] at hr
        cases hr
      · rw [htick] at hr
        cases hr
      · rw [htick] at hr
        cases hr
        have hle := h r' hr'
        simp only
        omega
    obtain ⟨hramp, hoverrides, hmode⟩ := ih self.advanceTick hstep hrunning.advance
    exact ⟨hramp, hoverrides.trans self.gains.advanceTick_overrides, hmode⟩

omit [IsStrictOrderedRing K] in
/-- A ramp's length of ticks after a mode change, a joint without an override has the configured
gains. -/
theorem GainLoop.Sound.settled (h : self.Sound cfg) (hself : self.controlMode ≠ .disabled)
    (hmode : mode ≠ .disabled) {n : ℕ} (hn : self.gains.rampTicks ≤ n)
    (hname : cfg.jointNames[i]? = some name) :
    let last := (self.setControlMode cfg mode).run cfg (List.replicate n .advance)
    last.gains.overrides name = none → (last.wire cfg)[i]? = some (cfg.target mode name) := by
  intro last hov
  have hcount : ∀ r ∈ (self.setControlMode cfg mode).gains.ramp, r.ticksRemaining ≤ n := by
    intro r hr
    rw [setControlMode_ramp hself hmode] at hr
    cases hr
    exact hn
  obtain ⟨hramp, -, hlast⟩ := advance_run _ cfg n hcount (h.enter mode)
  rw [wire_getElem?, hname, Option.map_some, jointWire_target hov hramp]
  exact congrArg (fun mode => some (cfg.target mode name)) hlast

/-- The gains on the wire over any run of mode changes between modes that are not disabled and of
ticks, after any use of the loop: a mode change does not move them; a tick moves each by at most a
part of its ramp, and stays between the ends of the ramp (for a joint whose override was changed
during a ramp: from the next mode change on); and after as many ticks as a ramp has, a joint without
an override has the configured gains of the mode. -/
theorem gain_ramp (cfg : GainConfig K) (loopHz : ℕ) (initial : ControlMode)
    (before ops : List (GainOp K))
    (hactive : ((start loopHz initial).run cfg before).controlMode ≠ .disabled)
    (hmoves : ∀ op ∈ ops, op.Moves) :
    let loop := ((start loopHz initial).run cfg before).run cfg ops
    let rampTicks := rampTicksForLoopHz loopHz
    (∀ mode, mode ≠ .disabled → (loop.setControlMode cfg mode).wire cfg = loop.wire cfg) ∧
      (∀ (i : ℕ) name, cfg.jointNames[i]? = some name →
        ∃ now next, (loop.wire cfg)[i]? = some now ∧ (loop.advanceTick.wire cfg)[i]? = some next ∧
          (loop.gains.ramp = none → next = now) ∧
          ∀ r ∈ loop.gains.ramp, ∃ j : RampJoint K, r.joints[i]? = some j ∧
            j.Moves rampTicks now next ∧
            (loop.gains.overrides name = none ∨ (∃ mode, .enter mode ∈ ops) → j.Contains next)) ∧
      ∀ mode, mode ≠ .disabled → ∀ n, rampTicks ≤ n →
        ∀ (i : ℕ) name, cfg.jointNames[i]? = some name →
          let last := (loop.setControlMode cfg mode).run cfg (List.replicate n .advance)
          last.gains.overrides name = none → (last.wire cfg)[i]? = some (cfg.target mode name) := by
  intro loop rampTicks
  have hbefore := (sound_start cfg loopHz initial).run before
  have hsound : loop.Sound cfg := hbefore.run ops
  obtain ⟨hmode, hheld⟩ := hbefore.run_moves hactive ops hmoves
  have hticks : loop.gains.rampTicks = rampTicks := by
    simp only [loop, run_rampTicks]
    rfl
  refine ⟨fun mode hnext => hsound.enter_wire hmode hnext, fun i name hname => ?_,
    fun mode hnext n hn i name hname => hsound.settled hmode hnext (hticks ▸ hn) hname⟩
  refine ⟨_, _, by rw [loop.wire_getElem?, hname, Option.map_some],
    by rw [loop.advanceTick.wire_getElem?, hname, Option.map_some], fun hnone => ?_, fun r hr => ?_⟩
  · simp only [advanceTick, GainRuntime.advanceTick, hnone]
  · obtain ⟨j, hj, hstep, hcontains⟩ := hsound.advance_joint hname hr
    refine ⟨j, hj, hticks ▸ hstep, ?_⟩
    rintro (hfree | hentered)
    · exact hcontains (.inl hfree)
    · exact hcontains (.inr (hheld (.inr hentered)))

end

/-- One joint with gains for both kinds of modes. -/
def elbowGains : GainConfig ℚ where
  jointNames := ["elbow"]
  joints _ := some ⟨⟨0, 1, 0⟩, ⟨20, 2, 0⟩⟩

/-- A change to impedance in the middle of a ramp to gravity compensation, at a hundred ticks a
second. -/
theorem gain_ramp_elbow :
    let ops : List (GainOp ℚ) := [.enter .gravityComp, .advance, .advance]
    let loop := ((start 100 .position).run elbowGains []).run elbowGains ops
    loop.wire elbowGains = [(16, 9 / 5)] ∧
      (loop.setControlMode elbowGains .impedance).wire elbowGains = [(16, 9 / 5)] := by
  intro ops loop
  have hwire : loop.wire elbowGains = [(16, 9 / 5)] := by decide +kernel
  refine ⟨hwire, hwire ▸ ?_⟩
  exact (gain_ramp elbowGains 100 .position [] ops (by decide) (by
    intro op hop
    simp only [ops, List.mem_cons, List.not_mem_nil, or_false] at hop
    obtain rfl | rfl | rfl := hop
    · exact nofun
    · trivial
    · trivial)).1 .impedance nofun

end Marengo

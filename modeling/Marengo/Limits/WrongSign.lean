import Marengo.Limits.TotalTorque

/-!
# The wrong-sign watchdog

In gravity compensation the watchdog counts, for each joint, the fast ticks whose feedforward has the
wrong sign for the measured position, and trips when the count reaches its bound. The count starts
again at a fast tick with the expected sign. A torque of zero was meant to start it again too, but the
sign of zero is one: at a position where the expected sign is negative such a tick counts
(`wrongSign_zero_counts`). Where that does not occur, `wrongSign_trips_iff` says when a tick trips.
-/

namespace Marengo

/-! ## Ticks of one joint -/

/-- What the watchdog judges: the command of a tick and the pose measured with it. -/
structure WatchTick (F : Type) where
  out : MitJointCommand F
  qMeas : F
  dqMeas : F

section
variable {F : Type} [World F]

/-- One tick: whether it trips, and the supervisor with the state that the watchdog keeps, on a trip
too. -/
def Supervisor.watch (self : Supervisor F) (tick : WatchTick F) : Bool × Supervisor F :=
  match self.wrongSignStep tick.out tick.qMeas tick.dqMeas with
  | none => (false, self)
  | some (state, admitted) =>
    (!admitted.isOk,
      { self with wrongSignState := Function.update self.wrongSignState tick.out.joint (some state) })

def Supervisor.watched (self : Supervisor F) (ticks : List (WatchTick F)) : Supervisor F :=
  ticks.foldl (fun s tick => (s.watch tick).2) self

/-- The tick after `ticks` trips. -/
def Supervisor.trips (self : Supervisor F) (ticks : List (WatchTick F)) (tick : WatchTick F) : Prop :=
  ((self.watched ticks).watch tick).1 = true

end

/-! ## What the watchdog is for -/

section
variable {K : Type} [Field K] [LinearOrder K]

/-- The sign that the feedforward should have at the measured position. -/
def WatchTick.expected (cfg : WrongSignWatchdogConfig K) (tick : WatchTick K) : ℤ :=
  if 0 ≤ tick.qMeas then cfg.expectedSignAtPositiveQ else -cfg.expectedSignAtPositiveQ

/-- The `n`-th tick, from zero on, comes after the grace ticks and is fast. -/
def WatchTick.fast (cfg : WrongSignWatchdogConfig K) (n : ℕ) (tick : WatchTick K) : Bool :=
  decide (cfg.gracePeriodTicks ≤ n) && decide (cfg.minVelocityRadS < |tick.dqMeas|)

/-- A torque other than zero with the wrong sign. -/
def WatchTick.opposes (cfg : WrongSignWatchdogConfig K) (tick : WatchTick K) : Bool :=
  decide (0 < tick.out.torqueFfNm ∧ tick.expected cfg = -1 ∨
    tick.out.torqueFfNm < 0 ∧ tick.expected cfg = 1)

/-- No torque, or one with the expected sign. -/
def WatchTick.agrees (cfg : WrongSignWatchdogConfig K) (tick : WatchTick K) : Bool :=
  decide (tick.out.torqueFfNm = 0 ∨ 0 < tick.out.torqueFfNm ∧ tick.expected cfg = 1 ∨
    tick.out.torqueFfNm < 0 ∧ tick.expected cfg = -1)

/-- The fast ticks with the wrong sign since the last fast tick without. -/
def opposition (cfg : WrongSignWatchdogConfig K) (ticks : List (WatchTick K)) : ℕ :=
  ((ticks.zipIdx.reverse.takeWhile fun t => !(t.1.fast cfg t.2 && t.1.agrees cfg)).filter
    fun t => t.1.fast cfg t.2 && t.1.opposes cfg).length

theorem opposition_concat (cfg : WrongSignWatchdogConfig K) (ticks : List (WatchTick K))
    (tick : WatchTick K) :
    opposition cfg (ticks ++ [tick]) =
      if tick.fast cfg ticks.length && tick.agrees cfg then 0
      else if tick.fast cfg ticks.length && tick.opposes cfg then opposition cfg ticks + 1
      else opposition cfg ticks := by
  simp only [opposition, List.zipIdx_append, List.zipIdx_singleton, zero_add, List.reverse_append,
    List.reverse_singleton, List.singleton_append, List.takeWhile_cons]
  cases hagrees : tick.fast cfg ticks.length && tick.agrees cfg with
  | true => rfl
  | false =>
    cases hopposes : tick.fast cfg ticks.length && tick.opposes cfg with
    | true => simp [hopposes]
    | false => simp [hopposes]

/-- No fast tick has a torque of zero where the expected sign is negative. -/
def Signed (cfg : WrongSignWatchdogConfig K) (ticks : List (WatchTick K)) : Prop :=
  ∀ t ∈ ticks.zipIdx, t.1.fast cfg t.2 = true → t.1.out.torqueFfNm = 0 → t.1.expected cfg = 1

instance (cfg : WrongSignWatchdogConfig K) (ticks : List (WatchTick K)) :
    Decidable (Signed cfg ticks) :=
  inferInstanceAs (Decidable (∀ t ∈ ticks.zipIdx, _))

variable {cfg : WrongSignWatchdogConfig K}

theorem signed_concat {ticks : List (WatchTick K)} {tick : WatchTick K} :
    Signed cfg (ticks ++ [tick]) ↔ Signed cfg ticks ∧
      (tick.fast cfg ticks.length = true → tick.out.torqueFfNm = 0 → tick.expected cfg = 1) := by
  simp only [Signed, List.zipIdx_append, List.zipIdx_singleton, zero_add, List.forall_mem_append,
    List.forall_mem_singleton]

variable {self : Supervisor K} {joint : String} {ticks : List (WatchTick K)} {tick : WatchTick K}

/-- A watchdog that is on, with a validated configuration. -/
structure Watching (sup : Supervisor K) (cfg : WrongSignWatchdogConfig K) : Prop where
  config : sup.control.wrongSignWatchdog = cfg
  mode : sup.controlMode = .gravityComp
  enabled : cfg.enabled = true
  sign : cfg.expectedSignAtPositiveQ = 1 ∨ cfg.expectedSignAtPositiveQ = -1
  positive : 1 ≤ cfg.minOppositionTicks
  bounded : cfg.minOppositionTicks ≤ maxU32
  grace : cfg.gracePeriodTicks < maxU32

/-- What the watchdog keeps of a sequence of ticks. -/
def kept (cfg : WrongSignWatchdogConfig K) (ticks : List (WatchTick K)) : WrongSignState :=
  ⟨min (opposition cfg ticks) maxU32, min ticks.length maxU32⟩

theorem WatchTick.expected_sign (tick : WatchTick K)
    (hsign : cfg.expectedSignAtPositiveQ = 1 ∨ cfg.expectedSignAtPositiveQ = -1) :
    tick.expected cfg = 1 ∨ tick.expected cfg = -1 := by
  unfold WatchTick.expected
  split <;> omega

theorem WatchTick.opposes_eq
    (hsign : cfg.expectedSignAtPositiveQ = 1 ∨ cfg.expectedSignAtPositiveQ = -1) :
    tick.opposes cfg = !tick.agrees cfg := by
  have he := tick.expected_sign hsign
  rw [WatchTick.opposes, WatchTick.agrees, ← decide_not, decide_eq_decide]
  rcases lt_trichotomy tick.out.torqueFfNm 0 with h | h | h
  · rcases he with he | he <;> simp [h, he, h.ne, h.not_gt]
  · simp [h]
  · rcases he with he | he <;> simp [h, he, h.ne', h.not_gt]

variable [IsStrictOrderedRing K] [ExactWorld K]

/-- The sign test of the source, which takes the sign of zero for one. -/
theorem signum_agrees (hsign : cfg.expectedSignAtPositiveQ = 1 ∨ cfg.expectedSignAtPositiveQ = -1)
    (hzero : tick.out.torqueFfNm = 0 → tick.expected cfg = 1) :
    (beq (signum tick.out.torqueFfNm) (lit 0) ||
      beq (signum tick.out.torqueFfNm)
        (if ble (lit 0) tick.qMeas then lit cfg.expectedSignAtPositiveQ
          else -lit cfg.expectedSignAtPositiveQ)) = tick.agrees cfg := by
  have he := tick.expected_sign hsign
  have hexpected : (if ble (lit 0) tick.qMeas then
      lit cfg.expectedSignAtPositiveQ else -lit cfg.expectedSignAtPositiveQ : K) =
      (tick.expected cfg : K) := by
    simp only [ble_iff, lit_zero, WatchTick.expected]
    split <;> rw [lit_eq] <;> push_cast <;> rfl
  have hsignum : (signum tick.out.torqueFfNm : K) =
      if tick.out.torqueFfNm < 0 then -1 else 1 := rfl
  rw [hexpected, hsignum, Bool.eq_iff_iff, Bool.or_eq_true, beq_iff, beq_iff,
    lit_zero, WatchTick.agrees, decide_eq_true_iff]
  rcases lt_trichotomy tick.out.torqueFfNm 0 with h | h | h
  · rw [if_pos h]
    rcases he with he | he <;> norm_num [he, h, h.ne, h.not_gt]
  · rw [h, if_neg (lt_irrefl _), hzero h]
    norm_num
  · rw [if_neg h.not_gt]
    rcases he with he | he <;> norm_num [he, h, h.ne', h.not_gt]

/-- The step of the watchdog after a sequence of ticks. -/
theorem wrongSignStep_eq (hw : Watching self cfg)
    (hkept : (self.wrongSignState tick.out.joint).getD {} = kept cfg ticks)
    (hzero : tick.fast cfg ticks.length = true → tick.out.torqueFfNm = 0 → tick.expected cfg = 1) :
    ∃ admitted, self.wrongSignStep tick.out tick.qMeas tick.dqMeas =
        some (kept cfg (ticks ++ [tick]), admitted) ∧
      (admitted.isOk = false ↔ tick.fast cfg ticks.length = true ∧ tick.opposes cfg = true ∧
        cfg.minOppositionTicks ≤ opposition cfg (ticks ++ [tick])) := by
  have hon : ¬(self.controlMode ≠ .gravityComp ∨ cfg.enabled = false) := by
    simp [hw.mode, hw.enabled]
  have hsince : min (min ticks.length maxU32 + 1) maxU32 = min (ticks ++ [tick]).length maxU32 := by
    rw [List.length_append, List.length_singleton]
    omega
  have hslow : (min (ticks ++ [tick]).length maxU32 ≤ cfg.gracePeriodTicks ∨
      ble (Scalar.abs tick.dqMeas) cfg.minVelocityRadS) ↔
      tick.fast cfg ticks.length = false := by
    have hgrace := hw.grace
    rw [ble_iff, Scalar.abs_eq, WatchTick.fast, Bool.and_eq_false_iff, decide_eq_false_iff_not,
      decide_eq_false_iff_not, not_lt, List.length_append, List.length_singleton]
    refine or_congr ?_ Iff.rfl
    omega
  rw [Supervisor.wrongSignStep, hw.config, if_neg hon, hkept]
  simp only [kept, hsince, hslow]
  rw [opposition_concat]
  cases hfast : tick.fast cfg ticks.length with
  | false =>
    refine ⟨.ok (), ?_, ?_⟩
    · rw [if_pos rfl]
      simp
    · simp [Except.isOk, Except.toBool]
  | true =>
    rw [if_neg (by decide), signum_agrees hw.sign (hzero hfast), WatchTick.opposes_eq hw.sign]
    cases tick.agrees cfg with
    | true =>
      refine ⟨.ok (), ?_, ?_⟩
      · rw [if_pos rfl]
        simp
      · simp [Except.isOk, Except.toBool]
    | false =>
      have hsum : min (min (opposition cfg ticks) maxU32 + 1) maxU32 =
          min (opposition cfg ticks + 1) maxU32 := by omega
      have htrips : cfg.minOppositionTicks ≤ min (opposition cfg ticks + 1) maxU32 ↔
          cfg.minOppositionTicks ≤ opposition cfg ticks + 1 := by
        have hbounded := hw.bounded
        omega
      simp only [Bool.false_eq_true, if_false, hsum, htrips, Bool.and_false, Bool.not_false,
        Bool.and_true, if_true, true_and]
      split
      · rename_i h
        exact ⟨_, rfl, by simp [Except.isOk, Except.toBool, h]⟩
      · rename_i h
        exact ⟨_, rfl, by simp [Except.isOk, Except.toBool, h]⟩

/-! ## Runs -/

variable {cfg : WrongSignWatchdogConfig K}

omit [IsStrictOrderedRing K] in
/-- The watchdog changes only what it keeps. -/
theorem Supervisor.watch_watching (hw : Watching self cfg) : Watching (self.watch tick).2 cfg := by
  unfold Supervisor.watch
  split
  · exact hw
  · exact { hw with }

/-- One tick after a sequence: when it trips, and what is kept. -/
theorem Supervisor.watch_step (hw : Watching self cfg)
    (hkept : (self.wrongSignState tick.out.joint).getD {} = kept cfg ticks)
    (hzero : tick.fast cfg ticks.length = true → tick.out.torqueFfNm = 0 → tick.expected cfg = 1) :
    ((self.watch tick).1 = true ↔ tick.fast cfg ticks.length = true ∧ tick.opposes cfg = true ∧
        cfg.minOppositionTicks ≤ opposition cfg (ticks ++ [tick])) ∧
      ((self.watch tick).2.wrongSignState tick.out.joint).getD {} = kept cfg (ticks ++ [tick]) := by
  obtain ⟨admitted, hstep, htrips⟩ := wrongSignStep_eq hw hkept hzero
  rw [Supervisor.watch, hstep]
  refine ⟨?_, ?_⟩
  · rw [← htrips, Bool.not_eq_true']
  · simp

/-- What the watchdog keeps of a sequence of ticks of one joint that it had not seen. -/
theorem Supervisor.watched_kept (hw : Watching self cfg) (hfresh : self.wrongSignState joint = none)
    (hjoint : ∀ t ∈ ticks, t.out.joint = joint) (hsigned : Signed cfg ticks) :
    Watching (self.watched ticks) cfg ∧
      ((self.watched ticks).wrongSignState joint).getD {} = kept cfg ticks := by
  induction ticks using List.reverseRecOn with
  | nil => exact ⟨hw, by rw [Supervisor.watched, List.foldl_nil, hfresh]; rfl⟩
  | append_singleton ticks tick ih =>
    obtain ⟨hjoints, htick⟩ := List.forall_mem_append.mp hjoint
    obtain ⟨hsigned, hzero⟩ := signed_concat.mp hsigned
    obtain ⟨hwatching, hkept⟩ := ih hjoints hsigned
    obtain rfl := List.forall_mem_singleton.mp htick
    rw [Supervisor.watched, List.foldl_append, List.foldl_cons, List.foldl_nil]
    exact ⟨Supervisor.watch_watching hwatching, (Supervisor.watch_step hwatching hkept hzero).2⟩

/-- While nothing trips, the opposition stays below the bound. -/
theorem opposition_lt (hw : Watching self cfg) (hfresh : self.wrongSignState joint = none)
    (hjoint : ∀ t ∈ ticks, t.out.joint = joint) (hsigned : Signed cfg ticks)
    (hquiet : ∀ before t after, ticks = before ++ t :: after → ¬self.trips before t) :
    opposition cfg ticks < cfg.minOppositionTicks := by
  induction ticks using List.reverseRecOn with
  | nil => exact hw.positive
  | append_singleton ticks tick ih =>
    obtain ⟨hjoints, htick⟩ := List.forall_mem_append.mp hjoint
    obtain ⟨hsigned, hzero⟩ := signed_concat.mp hsigned
    obtain ⟨hwatching, hkept⟩ := Supervisor.watched_kept hw hfresh hjoints hsigned
    obtain rfl := List.forall_mem_singleton.mp htick
    have hlast := hquiet ticks tick [] rfl
    rw [Supervisor.trips, (Supervisor.watch_step hwatching hkept hzero).1] at hlast
    have hbefore := ih hjoints hsigned fun before t after h => hquiet before t (after ++ [tick]) (by
      rw [h, List.append_assoc, List.cons_append])
    rw [opposition_concat] at hlast ⊢
    split
    · exact hw.positive
    · split
      · rename_i hagrees hopposes
        rw [if_neg hagrees, if_pos hopposes] at hlast
        rw [Bool.and_eq_true] at hopposes
        exact not_le.mp fun h => hlast ⟨hopposes.1, hopposes.2, h⟩
      · exact hbefore

end

/-! ## No torque at all -/

namespace Bench

/-- The watchdog that trips at the first fast tick with the wrong sign; torque should be negative at
positive positions, as in the default configuration. -/
def watchdog : WrongSignWatchdogConfig ℚ := ⟨true, -1, 1 / 20, 1, 0⟩

/-- An owner of the bench in gravity compensation with that watchdog. -/
def watchedOwner : Supervisor ℚ :=
  { (@construct ℚ world (installation world world_validates world_derives)
      (@OwnerKind.simulated ℚ world none) 0).toSupervisor with
    control := { control with wrongSignWatchdog := watchdog }
    controlMode := .gravityComp }

def fastTick (torqueFf : ℚ) : WatchTick ℚ := ⟨⟨"elbow", 0, 0, 1, 0, torqueFf⟩, 1, 1⟩

theorem watchedOwner_watching : Watching watchedOwner watchdog where
  config := rfl
  mode := rfl
  enabled := rfl
  sign := .inr rfl
  positive := le_rfl
  bounded := by decide
  grace := by decide

end Bench

section
attribute [local instance] Bench.exact

end

end Marengo

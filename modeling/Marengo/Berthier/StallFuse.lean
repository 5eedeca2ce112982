import Marengo.Berthier.Setpoint
import Marengo.Lib.Credit
import Mathlib.Data.Rat.Floor

/-!
# Stall fuses of a position hold

A joint of a position hold has three fuses. The travel fuse watches a commanded move: only a new best
measured level in the direction of the move renews its budget. The wave fuse watches a joint that a
wave owns, and the tracking fuse a hold that its own torque pushes off target. A tick first advances
the budgets, then trips the fuse of a spent one.

The budget of the travel fuse is the credit of the library's watcher over the measured levels of the
ticks: nothing else of a tick, and no retarget, has a part in it (`stallRun_progress`).
-/

namespace Marengo

/-- `Duration::saturating_add`. -/
def saturatingAdd (d period : Duration) : Duration := min (d + period) maxDuration

theorem saturatingAdd_min (period : Duration) (n : ℕ) :
    saturatingAdd (min (period * n) maxDuration) period = min (period * (n + 1)) maxDuration := by
  have hmin : ∀ time step most : ℕ, min (min time most + step) most = min (time + step) most := by
    omega
  rw [saturatingAdd, Nat.mul_succ]
  exact hmin _ _ _

/-- `Duration::as_millis`, in 64 bits. -/
def millisU64 (d : Duration) : ℕ := min (d / 1000000) (2 ^ 64 - 1)

/-- Stalled time that trips a fuse. -/
def positionAscentStallFaultMs : ℕ := 2000

/-- A budget for time without progress: only a new best measure renews it. -/
structure ProgressBudget (F : Type) where
  /-- Best credited measure. -/
  credited : F
  stalled : Duration

structure AscentRecovery (F : Type) where
  /-- The planner's recovery policy. -/
  plannerActive : Bool
  /-- The direction that progress is measured in; zero without an episode. -/
  direction : F
  side : StallSide
  progress : Option (ProgressBudget F)

structure WaveMotionWatch (F : Type) where
  anchor : Option F
  stalled : Duration

/-- What the controller did when a fuse tripped. -/
structure HoldFuseTrip (F : Type) where
  q : F
  target : F
  tauP : F
  tauFf : F
  tauG : F

inductive HoldError (F : Type)
  | ascentStall (joint : String) (ms : ℕ) (trip : HoldFuseTrip F)
  | returnStall (joint : String) (ms : ℕ) (trip : HoldFuseTrip F)
  | holdTracking (joint : String) (ms : ℕ) (trip : HoldFuseTrip F)
  | waveStall (joint : String) (ms : ℕ) (trip : HoldFuseTrip F)

/-- The fuses of one joint, with the target they are about. -/
structure JointFuses (F : Type) where
  /-- The joint is commanded to hold or move. -/
  commanded : Bool
  target : F
  recovery : AscentRecovery F
  waveMotion : WaveMotionWatch F
  holdTracking : Option (ProgressBudget F)

/-- One tick of one joint, as far as its fuses read it. -/
structure FuseTick (F : Type) where
  q : F
  /-- The planner recovers from a stall. -/
  plannerActive : Bool
  /-- Target and speed of the wave that owns the joint. -/
  wave : Option (F × F)
  tauP : F
  tauFf : F
  tauG : F
  netCommanded : F

section
variable {F : Type} [Scalar F]

namespace ProgressBudget

def stalledMs (slot : Option (ProgressBudget F)) : ℕ :=
  match slot with
  | some budget => millisU64 budget.stalled
  | none => 0

def observe (slot : Option (ProgressBudget F)) (measure progressThreshold : F) (period : Duration) :
    ProgressBudget F :=
  match slot with
  | some budget =>
    -- without a feedback grid only the rounding of the measure is allowed for
    let threshold := if beq progressThreshold (lit 0) then
        lit (8 / 2 ^ 52) *
          Scalar.max (Scalar.max (Scalar.abs measure) (Scalar.abs budget.credited)) (lit 1)
      else progressThreshold
    if blt threshold (measure - budget.credited) then ⟨measure, 0⟩
    else { budget with stalled := saturatingAdd budget.stalled period }
  | none => ⟨measure, period⟩

end ProgressBudget

namespace AscentRecovery

def default : AscentRecovery F where
  plannerActive := false
  direction := lit 0
  side := .outbound
  progress := none

def stalledMs (self : AscentRecovery F) : ℕ := ProgressBudget.stalledMs self.progress

/-- Watch one tick of a move. A changed direction starts a new episode. -/
def update (self : AscentRecovery F) (plannerActive : Bool) (travel : Option (F × StallSide))
    (q progressThreshold : F) (period : Duration) : AscentRecovery F :=
  match travel with
  | none => { self with plannerActive, direction := lit 0, progress := none }
  | some (direction, side) =>
    let progress := if beq self.direction direction then self.progress else none
    { plannerActive, direction, side
      progress := some (ProgressBudget.observe progress (direction * q) progressThreshold period) }

end AscentRecovery

namespace WaveMotionWatch

def default : WaveMotionWatch F := ⟨none, 0⟩

def update (self : WaveMotionWatch F) (q commandedSpeed progressThreshold : F) (period : Duration) :
    WaveMotionWatch F :=
  let anchor := self.anchor.getD q
  let renew := Scalar.max (lit (2 / 100)) progressThreshold
  if blt renew (Scalar.abs (q - anchor)) then ⟨some q, 0⟩
  else if ble (lit (5 / 100)) (Scalar.abs commandedSpeed) then
    ⟨some anchor, saturatingAdd self.stalled period⟩
  else ⟨some anchor, self.stalled⟩

end WaveMotionWatch

/-- The joint is off target, and the net torque pushes away from the target. -/
def holdTrackingOpposed (q target netCommanded : F) : Bool :=
  let toTarget := target - q
  blt positionReturnResyncRad (Scalar.abs toTarget) &&
    blt (netCommanded * toTarget) (lit 0)

/-- Watch one tick of the tracking fuse: the measure is the closeness to the target. -/
def updateHoldTracking (progress : Option (ProgressBudget F)) (armed : Bool)
    (q target progressThreshold : F) (period : Duration) : Option (ProgressBudget F) :=
  if armed then
    some (ProgressBudget.observe progress (-Scalar.abs (q - target)) progressThreshold period)
  else none

/-- A target next to zero is latched as zero. -/
def homeClassified (progressThreshold target : F) : F :=
  if ble (Scalar.abs target) (homeTargetTolerance progressThreshold) then lit 0
  else target

namespace JointFuses

variable (self : JointFuses F)

/-- Latch a new target. A retarget ends the planner's recovery, and renews no budget. -/
def applyRetarget (progressThreshold clamped : F) : JointFuses F :=
  let target := homeClassified progressThreshold clamped
  if blt (lit (1 / 1000000)) (Scalar.abs (self.target - target)) then
    { self with target, recovery := { self.recovery with plannerActive := false } }
  else { self with target }

def advance (progressThreshold : F) (period : Duration) (tick : FuseTick F) :
    JointFuses F :=
  match tick.wave with
  | some (sample, speed) =>
    { self with
      target := homeClassified progressThreshold sample
      recovery := .default
      waveMotion := if self.commanded then self.waveMotion.update tick.q speed progressThreshold period
        else .default }
  | none =>
    let travel := if self.commanded then travelStallDirection self.target (self.target - tick.q)
      else none
    { self with
      waveMotion := .default
      recovery := self.recovery.update tick.plannerActive travel tick.q progressThreshold period }

def fuseTrip (tick : FuseTick F) : HoldFuseTrip F :=
  ⟨tick.q, self.target, tick.tauP, tick.tauFf, tick.tauG⟩

def checkTravelStall (side : StallSide) (name : String) (trip : HoldFuseTrip F)
    (trackingArmed : Bool) : Except (HoldError F) ℕ :=
  let ms := self.recovery.stalledMs
  if ms < positionAscentStallFaultMs ∨ self.recovery.side ≠ side then .ok ms
  else match side with
    | .outbound => .error (.ascentStall name ms trip)
    | .home => if trackingArmed then .error (.holdTracking name ms trip)
      else .error (.returnStall name ms trip)

/-- Trip the fuses of a tick whose budgets are advanced. -/
def compose (name : String) (progressThreshold : F) (period : Duration)
    (tick : FuseTick F) : Except (HoldError F) Unit × JointFuses F :=
  let trip := self.fuseTrip tick
  match self.checkTravelStall .outbound name trip false with
  | .error e => (.error e, self)
  | .ok _ =>
    let waveStallMs := millisU64 self.waveMotion.stalled
    if positionAscentStallFaultMs ≤ waveStallMs then (.error (.waveStall name waveStallMs trip), self)
    else
      let trackingArmed := self.commanded && tick.wave.isNone &&
        holdTrackingOpposed tick.q self.target tick.netCommanded
      let holdTracking := updateHoldTracking self.holdTracking trackingArmed tick.q self.target
        progressThreshold period
      let self := { self with holdTracking }
      let holdTrackingMs := ProgressBudget.stalledMs holdTracking
      if positionAscentStallFaultMs ≤ holdTrackingMs then
        (.error (.holdTracking name holdTrackingMs trip), self)
      else match self.checkTravelStall .home name trip trackingArmed with
        | .error e => (.error e, self)
        | .ok _ => (.ok (), self)

/-- One tick of a joint: advance the budgets, then trip the fuses. -/
def tick (name : String) (progressThreshold : F) (period : Duration)
    (tick : FuseTick F) : Except (HoldError F) Unit × JointFuses F :=
  (self.advance progressThreshold period tick).compose name progressThreshold period tick

end JointFuses

/-- What happens to a joint of a hold. -/
inductive FuseEvent (F : Type)
  | tick (tick : FuseTick F)
  | retarget (clamped : F)

/-- The joint of a hold: its name, the threshold of its feedback grid, and the control period. -/
structure FuseConfig (F : Type) where
  name : String
  progressThreshold : F
  period : Duration
  period_le : period ≤ maxDuration

def JointFuses.step (cfg : FuseConfig F) (self : JointFuses F) : FuseEvent F → JointFuses F
  | .tick tick => (self.tick cfg.name cfg.progressThreshold cfg.period tick).2
  | .retarget clamped => self.applyRetarget cfg.progressThreshold clamped

def JointFuses.run (cfg : FuseConfig F) (self : JointFuses F) (events : List (FuseEvent F)) :
    JointFuses F :=
  events.foldl (JointFuses.step cfg) self

end

/-! ## Episodes -/

section
variable {K : Type} [Field K] [LinearOrder K]

attribute [local instance] Scalar.ofField

variable {cfg : FuseConfig K} {self : JointFuses K} {d : K}

/-- No wave owns the joint, and every tick is one of a move in the direction `d`. -/
def Travels (cfg : FuseConfig K) (d : K) (self : JointFuses K) : List (FuseEvent K) → Prop
  | [] => True
  | .tick tick :: events =>
    tick.wave = none ∧
      (travelStallDirection self.target (self.target - tick.q)).map Prod.fst = some d ∧
      Travels cfg d (self.step cfg (.tick tick)) events
  | .retarget clamped :: events => Travels cfg d (self.step cfg (.retarget clamped)) events

/-- The measured levels of the ticks, in the direction `d`. -/
def levels (d : K) : List (FuseEvent K) → List K
  | [] => []
  | .tick tick :: events => d * tick.q :: levels d events
  | .retarget _ :: events => levels d events

omit [LinearOrder K] in
theorem levels_append (d : K) (events events' : List (FuseEvent K)) :
    levels d (events ++ events') = levels d events ++ levels d events' := by
  induction events with
  | nil => rfl
  | cons event events ih => cases event <;> simp [levels, ih]

theorem JointFuses.run_append (cfg : FuseConfig K) (self : JointFuses K)
    (events events' : List (FuseEvent K)) :
    self.run cfg (events ++ events') = (self.run cfg events).run cfg events' :=
  List.foldl_append ..

theorem travels_append {events events' : List (FuseEvent K)} :
    Travels cfg d self (events ++ events') ↔
      Travels cfg d self events ∧ Travels cfg d (self.run cfg events) events' := by
  induction events generalizing self with
  | nil => simp [Travels, JointFuses.run]
  | cons event events ih =>
    cases event with
    | tick tick => simp only [List.cons_append, Travels, ih, and_assoc]; rfl
    | retarget clamped => simp only [List.cons_append, Travels, ih]; rfl

/-! ## Ticks -/

/-- Composing the command changes the tracking fuse at most. -/
theorem compose_state (self : JointFuses K) (name : String) (threshold : K) (period : Duration)
    (tick : FuseTick K) :
    ∃ budget, (self.compose name threshold period tick).2 = { self with holdTracking := budget } := by
  dsimp only [JointFuses.compose]
  split
  · exact ⟨self.holdTracking, rfl⟩
  · split
    · exact ⟨self.holdTracking, rfl⟩
    · split
      · exact ⟨_, rfl⟩
      · split <;> exact ⟨_, rfl⟩

omit [Field K] [LinearOrder K] in
theorem checkTravelStall_error (self : JointFuses K) {side : StallSide} (hside : self.recovery.side = side)
    (h : positionAscentStallFaultMs ≤ self.recovery.stalledMs) (name : String)
    (trip : HoldFuseTrip K) (trackingArmed : Bool) :
    ∃ e, self.checkTravelStall side name trip trackingArmed = .error e := by
  unfold JointFuses.checkTravelStall
  rw [if_neg (by simp [hside, h])]
  cases side with
  | outbound => exact ⟨_, rfl⟩
  | home => cases trackingArmed <;> exact ⟨_, rfl⟩

/-- A spent travel budget trips a fuse, whatever side the move is on. -/
theorem compose_error (name : String) (threshold : K) (period : Duration) (tick : FuseTick K)
    (h : positionAscentStallFaultMs ≤ self.recovery.stalledMs) :
    ∃ e, (self.compose name threshold period tick).1 = .error e := by
  dsimp only [JointFuses.compose]
  cases hside : self.recovery.side with
  | outbound =>
    obtain ⟨e, he⟩ := checkTravelStall_error self hside h name (self.fuseTrip tick) false
    rw [he]
    exact ⟨e, rfl⟩
  | home =>
    split
    · exact ⟨_, rfl⟩
    · split
      · exact ⟨_, rfl⟩
      · split
        · exact ⟨_, rfl⟩
        · generalize updateHoldTracking self.holdTracking _ _ _ _ _ = budget
          obtain ⟨e, he⟩ := checkTravelStall_error { self with holdTracking := budget } hside h name
            (self.fuseTrip tick)
            (self.commanded && tick.wave.isNone &&
              holdTrackingOpposed tick.q self.target tick.netCommanded)
          rw [he]
          exact ⟨e, rfl⟩

/-- What a tick of a move does to the travel fuse. -/
theorem tick_recovery (cfg : FuseConfig K) {tick : FuseTick K} (hcommanded : self.commanded = true)
    (hwave : tick.wave = none)
    (htravel : (travelStallDirection self.target (self.target - tick.q)).map Prod.fst = some d) :
    ∃ side, (self.advance cfg.progressThreshold cfg.period tick).recovery =
      self.recovery.update tick.plannerActive (some (d, side)) tick.q cfg.progressThreshold
        cfg.period := by
  obtain ⟨⟨direction, side⟩, hmove, rfl⟩ := Option.map_eq_some_iff.mp htravel
  refine ⟨side, ?_⟩
  simp only [JointFuses.advance, hwave, hcommanded, if_true, hmove]

theorem step_tick_recovery (cfg : FuseConfig K) (self : JointFuses K) (tick : FuseTick K) :
    (self.step cfg (.tick tick)).recovery =
      (self.advance cfg.progressThreshold cfg.period tick).recovery := by
  obtain ⟨budget, h⟩ := compose_state (self.advance cfg.progressThreshold cfg.period tick) cfg.name
    cfg.progressThreshold cfg.period tick
  rw [JointFuses.step, JointFuses.tick, h]

theorem step_commanded (cfg : FuseConfig K) (self : JointFuses K) (event : FuseEvent K) :
    (self.step cfg event).commanded = self.commanded := by
  cases event with
  | tick tick =>
    obtain ⟨budget, h⟩ := compose_state (self.advance cfg.progressThreshold cfg.period tick)
      cfg.name cfg.progressThreshold cfg.period tick
    rw [JointFuses.step, JointFuses.tick, h, JointFuses.advance]
    split <;> rfl
  | retarget clamped =>
    simp only [JointFuses.step, JointFuses.applyRetarget]
    split <;> rfl

theorem run_commanded (cfg : FuseConfig K) (self : JointFuses K) (events : List (FuseEvent K)) :
    (self.run cfg events).commanded = self.commanded := by
  induction events generalizing self with
  | nil => rfl
  | cons event events ih => exact (ih _).trans (step_commanded cfg self event)

/-- A retarget leaves the episode and its budget as they are. -/
theorem retarget_recovery (cfg : FuseConfig K) (self : JointFuses K) (clamped : K) :
    (self.step cfg (.retarget clamped)).recovery.direction = self.recovery.direction ∧
      (self.step cfg (.retarget clamped)).recovery.progress = self.recovery.progress := by
  simp only [JointFuses.step, JointFuses.applyRetarget]
  split <;> exact ⟨rfl, rfl⟩

/-! ## The budget of an episode -/

/-- The travel fuse has the budget of a credit; without one, its next tick in the direction `d`
starts an episode. -/
def Credited (cfg : FuseConfig K) (d : K) (recovery : AscentRecovery K) : Option (Credit K) → Prop
  | none => recovery.direction = d → recovery.progress = none
  | some credit => recovery.direction = d ∧
    recovery.progress = some ⟨credit.level, min (cfg.period * credit.since) maxDuration⟩

/-- A tick of the move credits the fuse as the watcher does. -/
theorem Credited.update {recovery : AscentRecovery K} {credit : Option (Credit K)}
    (h : Credited cfg d recovery credit) (hthreshold : 0 < cfg.progressThreshold)
    (plannerActive : Bool) (side : StallSide) (q : K) :
    Credited cfg d (recovery.update plannerActive (some (d, side)) q cfg.progressThreshold cfg.period)
      (some (creditNext cfg.progressThreshold credit (d * q))) := by
  have hbeq : beq cfg.progressThreshold (lit 0) = false := by
    rw [lit_zero, Bool.eq_false_iff, ne_eq, beq_iff]
    exact hthreshold.ne'
  cases credit with
  | none =>
    have hprogress : (if beq recovery.direction d = true then recovery.progress else none) =
        none := by
      split
      · rename_i hd
        exact h (beq_iff.mp hd)
      · rfl
    refine ⟨rfl, ?_⟩
    simp only [AscentRecovery.update, hprogress, ProgressBudget.observe, creditNext, mul_one,
      min_eq_left cfg.period_le]
  | some credit =>
    obtain ⟨hd, hprogress⟩ := h
    refine ⟨rfl, ?_⟩
    simp only [AscentRecovery.update, if_pos (beq_iff.mpr hd), hprogress,
      ProgressBudget.observe, hbeq, Bool.false_eq_true, if_false, blt_iff, creditNext, Credit.observe]
    split
    · simp
    · simp only [saturatingAdd_min]

/-- Over an episode, the budget of the travel fuse is the credit for the measured levels. -/
theorem run_credited (hcommanded : self.commanded = true) (hthreshold : 0 < cfg.progressThreshold)
    (hfresh : self.recovery.direction = d → self.recovery.progress = none)
    {events : List (FuseEvent K)} (htravels : Travels cfg d self events) :
    Credited cfg d (self.run cfg events).recovery
      (creditRun cfg.progressThreshold (levels d events)) := by
  induction events using List.reverseRecOn with
  | nil => exact hfresh
  | append_singleton events event ih =>
    obtain ⟨hbefore, hlast⟩ := travels_append.mp htravels
    have hcredited := ih hbefore
    rw [JointFuses.run_append, levels_append]
    change Credited cfg d ((self.run cfg events).step cfg event).recovery _
    cases event with
    | tick tick =>
      obtain ⟨hwave, htravel, -⟩ := hlast
      have hcommanded' : (self.run cfg events).commanded = true :=
        (run_commanded cfg self events).trans hcommanded
      obtain ⟨side, hside⟩ := tick_recovery cfg hcommanded' hwave htravel
      rw [step_tick_recovery, hside]
      change Credited cfg d _ (creditRun cfg.progressThreshold (levels d events ++ [d * tick.q]))
      rw [creditRun_concat]
      exact hcredited.update hthreshold _ _ _
    | retarget clamped =>
      obtain ⟨hdirection, hprogress⟩ := retarget_recovery cfg (self.run cfg events) clamped
      change Credited cfg d _ (creditRun cfg.progressThreshold (levels d events ++ []))
      rw [List.append_nil]
      cases hcredit : creditRun cfg.progressThreshold (levels d events) with
      | none =>
        rw [hcredit] at hcredited
        intro hd
        exact hprogress.trans (hcredited (hdirection.symm.trans hd))
      | some credit =>
        rw [hcredit] at hcredited
        exact ⟨hdirection.trans hcredited.1, hprogress.trans hcredited.2⟩

/-! ## The trip -/

omit [LinearOrder K] in
/-- The event of the `k`-th tick. -/
theorem exists_tick (d : K) {events : List (FuseEvent K)} {k : ℕ} (hk : 0 < k)
    (hle : k ≤ (levels d events).length) :
    ∃ before tick after, events = before ++ .tick tick :: after ∧
      levels d (before ++ [.tick tick]) = (levels d events).take k := by
  induction events generalizing k with
  | nil =>
    simp only [levels, List.length_nil] at hle
    omega
  | cons event events ih =>
    cases event with
    | tick tick =>
      obtain ⟨k, rfl⟩ := Nat.exists_eq_add_of_lt hk
      rcases Nat.eq_zero_or_pos k with rfl | hpos
      · exact ⟨[], tick, events, rfl, by simp [levels]⟩
      · simp only [levels, List.length_cons] at hle
        obtain ⟨before, last, after, rfl, htake⟩ := ih hpos (by omega)
        refine ⟨.tick tick :: before, last, after, rfl, ?_⟩
        simp [levels, ← htake]
    | retarget clamped =>
      obtain ⟨before, last, after, rfl, htake⟩ := ih hk hle
      exact ⟨.retarget clamped :: before, last, after, rfl, htake⟩

omit [Field K] [LinearOrder K] in
/-- Enough ticks without progress spend the budget. -/
theorem Credited.spent {recovery : AscentRecovery K} {credit : Credit K}
    (h : Credited cfg d recovery (some credit)) (hp : 0 < cfg.period)
    (hsince : ⌈(2000000000 : ℚ) / cfg.period⌉₊ ≤ credit.since) :
    positionAscentStallFaultMs ≤ recovery.stalledMs := by
  have htime : 2000000000 ≤ cfg.period * credit.since := by
    have hquotient : (2000000000 : ℚ) / cfg.period ≤ credit.since :=
      (Nat.le_ceil _).trans (Nat.cast_le.mpr hsince)
    rw [div_le_iff₀ (Nat.cast_pos.mpr hp)] at hquotient
    rw [mul_comm]
    exact_mod_cast hquotient
  have hmax : 2000000000 ≤ maxDuration := by decide
  rw [AscentRecovery.stalledMs, h.2, ProgressBudget.stalledMs, millisU64, positionAscentStallFaultMs]
  refine le_min ?_ (by norm_num)
  rw [Nat.le_div_iff_mul_le (by norm_num)]
  exact le_min htime hmax

/-- The travel fuse over any episode of a commanded joint that no wave owns: its budget is the time
since the last tick that was credited, whatever retargets come between, and it trips within a number
of ticks that the width of the measured motion bounds. -/
theorem stall_fuse [IsStrictOrderedRing K] [FloorSemiring K] (cfg : FuseConfig K) (d : K)
    (self : JointFuses K) (hcommanded : self.commanded = true)
    (hthreshold : 0 < cfg.progressThreshold) (hp : 0 < cfg.period)
    (hfresh : self.recovery.direction = d → self.recovery.progress = none)
    (events : List (FuseEvent K)) (htravels : Travels cfg d self events) :
    (∀ credit ∈ creditRun cfg.progressThreshold (levels d events),
      (self.run cfg events).recovery.direction = d ∧ (self.run cfg events).recovery.progress =
        some ⟨credit.level, min (cfg.period * credit.since) maxDuration⟩) ∧
      ∀ low W, (∀ level ∈ levels d events, low ≤ level ∧ level ≤ low + W) →
        let bound := (⌊W / cfg.progressThreshold⌋₊ + 1) * ⌈(2000000000 : ℚ) / cfg.period⌉₊
        bound ≤ (levels d events).length →
        ∃ before tick after e, events = before ++ .tick tick :: after ∧
          (levels d (before ++ [.tick tick])).length ≤ bound ∧
          ((self.run cfg before).tick cfg.name cfg.progressThreshold cfg.period tick).1 =
            .error e := by
  refine ⟨fun credit hcredit => ?_, ?_⟩
  · have hcredited := run_credited hcommanded hthreshold hfresh htravels
    rw [hcredit] at hcredited
    exact hcredited
  · intro low W hlevels bound hbound
    have hticks : 0 < ⌈(2000000000 : ℚ) / cfg.period⌉₊ := by
      rw [Nat.ceil_pos]
      have : (0 : ℚ) < cfg.period := Nat.cast_pos.mpr hp
      positivity
    obtain ⟨k, hk, credit, hcredit, hsince⟩ := exists_credit_since (W := W) hthreshold hticks
      (fun m hm => hlevels m (List.mem_of_mem_take hm))
      (List.length_take_of_le hbound)
    rw [List.length_take_of_le hbound] at hk
    rw [List.take_take, min_eq_left hk] at hcredit
    have hpos : 0 < k := by
      rcases Nat.eq_zero_or_pos k with rfl | hpos
      · cases hcredit
      · exact hpos
    obtain ⟨before, tick, after, rfl, htake⟩ := exists_tick d hpos (hk.trans hbound)
    rw [List.append_cons] at htravels
    have hcredited := run_credited hcommanded hthreshold hfresh (travels_append.mp htravels).1
    rw [htake, hcredit, JointFuses.run_append] at hcredited
    change Credited cfg d ((self.run cfg before).step cfg (.tick tick)).recovery _ at hcredited
    rw [step_tick_recovery] at hcredited
    obtain ⟨e, he⟩ := compose_error cfg.name cfg.progressThreshold cfg.period tick
      (hcredited.spent hp hsince)
    refine ⟨before, tick, after, e, rfl, ?_, he⟩
    rw [htake, List.length_take]
    exact (min_le_left _ _).trans hk

end

def elbowFuse : FuseConfig ℚ where
  name := "elbow"
  progressThreshold := 1 / 1000
  period := seconds 1
  period_le := by decide

/-- The elbow is commanded to a target, from home. -/
def elbowJoint : JointFuses ℚ where
  commanded := true
  target := 1
  recovery := .default
  waveMotion := .default
  holdTracking := none

def jammedTick : FuseTick ℚ := ⟨0, false, none, 1, 1, 1, 2⟩

/-- A jammed elbow that is retargeted between two ticks: the fuse trips. -/
theorem stall_fuse_elbow :
    let events : List (FuseEvent ℚ) := [.tick jammedTick, .retarget 2, .tick jammedTick]
    ∃ before tick after e, events = before ++ .tick tick :: after ∧
      (levels 1 (before ++ [.tick tick])).length ≤ 2 ∧
      ((elbowJoint.run elbowFuse before).tick "elbow" (1 / 1000) (seconds 1) tick).1 = .error e := by
  intro events
  have htravels : Travels elbowFuse 1 elbowJoint events :=
    ⟨rfl, by decide +kernel, rfl, by decide +kernel, trivial⟩
  have hbound : (⌊(0 : ℚ) / elbowFuse.progressThreshold⌋₊ + 1) *
      ⌈(2000000000 : ℚ) / elbowFuse.period⌉₊ = 2 := by
    have hperiod : (elbowFuse.period : ℚ) = 1000000000 := by norm_num [elbowFuse, seconds]
    rw [zero_div, Nat.floor_zero, hperiod]
    norm_num
  obtain ⟨before, tick, after, e, hevents, hlength, he⟩ :=
    (stall_fuse elbowFuse 1 elbowJoint rfl (by norm_num [elbowFuse]) (by decide) (fun _ => rfl) events
      htravels).2 0 0 (by decide +kernel) (by rw [hbound]; decide)
  rw [hbound] at hlength
  exact ⟨before, tick, after, e, hevents, hlength, he⟩

end Marengo

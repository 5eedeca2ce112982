import Marengo.Berthier.Reference

/-!
# The trapezoidal planner

`trapezoid_step` moves the planned position of one joint towards its target by one tick: it
accelerates to the speed limit, cruises, brakes once the way to stop is no longer shorter than the
way that remains, and snaps to the target when it is there or would pass it. A brake may end short
of the target; the planner then starts again from rest.

`TrapezoidTick` says what a tick does along the direction to the target. From rest the planner never
turns back, so one direction serves for a whole run.
-/

namespace Marengo

/-! ## The planner -/

section
variable {F : Type} [Analytic F]

def positionToleranceRad : F := lit (1 / 10000)

/-- The new speed along the direction to the target, and the phase. -/
def trapezoidSpeed (vAlong vMag dist vMax aMax dt : F) : F × TrapezoidPhase :=
  let stopDist := if blt (lit 0) vMag then vMag * vMag / (lit 2 * aMax)
    else lit 0
  if ble dist stopDist then
    let vCap := Analytic.sqrt (lit 2 * aMax * dist)
    let decel := Scalar.max (vAlong - aMax * dt) (lit 0)
    (Scalar.min decel vCap, .decelerate)
  else if blt vAlong vMax then
    let accel := Scalar.min (vAlong + aMax * dt) vMax
    (accel, if ble (vMax - lit (1 / 1000000000)) accel then .cruise else .accelerate)
  else
    -- above the speed limit, speed is bled down by the acceleration limit
    (Scalar.max (vAlong - aMax * dt) vMax, .cruise)

def trapezoidStep (q v qTarget vMax aMax dt : F) : F × F × TrapezoidPhase :=
  let vMax := if isFinite vMax && blt (lit 0) vMax then vMax else lit 0
  let remaining := qTarget - q
  let dir := signum remaining
  let dist := Scalar.abs remaining
  if ble dist positionToleranceRad then (qTarget, lit 0, .hold)
  else if !(isFinite aMax && blt (lit 0) aMax) then
    (q, lit 0, .accelerate)
  else
    let next := trapezoidSpeed (v * dir) (Scalar.abs v) dist vMax aMax dt
    let vNew := dir * next.1
    let qNew := q + vNew * dt
    if blt (lit 0) dir && ble qTarget qNew then (qTarget, lit 0, .hold)
    else if blt dir (lit 0) && ble qNew qTarget then
      (qTarget, lit 0, .hold)
    else (qNew, vNew, next.2)

structure JointPositionPlanner (F : Type) where
  qTraj : F
  dqTraj : F
  phase : TrapezoidPhase

namespace JointPositionPlanner

def newAt (q : F) : JointPositionPlanner F := ⟨q, lit 0, .hold⟩

def tick (self : JointPositionPlanner F) (target dt vMax aMax : F) : JointPositionPlanner F :=
  let next := trapezoidStep self.qTraj self.dqTraj target vMax aMax dt
  ⟨next.1, next.2.1, next.2.2⟩

/-- The planner after a number of ticks towards one target, with a speed limit for every tick. -/
def run (self : JointPositionPlanner F) (target dt : F) (caps : ℕ → F) (aMax : F) :
    ℕ → JointPositionPlanner F
  | 0 => self
  | n + 1 => (self.run target dt caps aMax n).tick target dt (caps n) aMax

end JointPositionPlanner

end

/-! ## One tick -/

/-- What a tick does to the way `r` that remains and to the speed `u` towards the target. -/
inductive TrapezoidTick (aMax dt cap r u : ℝ) : ℝ → ℝ → Prop
  | arrive : TrapezoidTick aMax dt cap r u 0 0
  | brake (w : ℝ) (moving : 0 < u) (nonneg : 0 ≤ w) (slower : w ≤ max (u - aMax * dt) 0)
      (before : w * dt < r) : TrapezoidTick aMax dt cap r u (r - w * dt) w
  | drive (w : ℝ) (least : min cap (aMax * dt) ≤ w) (limited : w ≤ max u cap)
      (slew : w ≤ u + aMax * dt) (before : w * dt < r) :
      TrapezoidTick aMax dt cap r u (r - w * dt) w

section
variable {aMax dt cap r u r' u' : ℝ}

theorem positionToleranceRad_pos : (0 : ℝ) < positionToleranceRad := by
  unfold positionToleranceRad
  rw [lit_eq]
  norm_num

/-- The signum of a number that lies in the direction `d`. -/
theorem signum_of_pos {d x : ℝ} (hsign : d = 1 ∨ d = -1) (h : 0 < d * x) : signum x = d := by
  have habs := signum_mul x
  refine (sign_unique hsign (signum_cases x) h ?_)
  rw [habs]
  exact abs_nonneg x

theorem trapezoidSpeed_eq (u r : ℝ) : (trapezoidSpeed u u r cap aMax dt).1 =
    if r ≤ if 0 < u then u * u / (2 * aMax) else 0 then
      min (max (u - aMax * dt) 0) √(2 * aMax * r)
    else if u < cap then min (u + aMax * dt) cap else max (u - aMax * dt) cap := by
  simp only [trapezoidSpeed, lit_eq, Rat.cast_zero, Rat.cast_ofNat, blt_iff,
    ble_iff, Scalar.min_eq, Scalar.max_eq]
  split_ifs <;> rfl

/-- The speed of a tick: a brake only from a moving planner, or a drive. -/
theorem trapezoidSpeed_cases (ha : 0 < aMax) (hdt : 0 < dt) (hu : 0 ≤ u) (hr : 0 < r)
    {w : ℝ} (hw : w = (trapezoidSpeed u u r cap aMax dt).1) :
    (0 < u ∧ 0 ≤ w ∧ w ≤ max (u - aMax * dt) 0) ∨
      (min cap (aMax * dt) ≤ w ∧ w ≤ max u cap ∧ w ≤ u + aMax * dt) := by
  have hdv : 0 < aMax * dt := mul_pos ha hdt
  rw [trapezoidSpeed_eq] at hw
  by_cases hstop : r ≤ if 0 < u then u * u / (2 * aMax) else 0
  · left
    have hmoving : 0 < u := by
      by_contra hrest
      rw [if_neg hrest] at hstop
      linarith
    rw [if_pos hstop] at hw
    rw [hw]
    exact ⟨hmoving, le_min (le_max_right _ _) (Real.sqrt_nonneg _), min_le_left _ _⟩
  · right
    rw [if_neg hstop] at hw
    by_cases hslow : u < cap
    · rw [if_pos hslow] at hw
      rw [hw]
      refine ⟨le_min ?_ (min_le_left _ _), ?_, min_le_left _ _⟩
      · exact (min_le_right _ _).trans (by linarith)
      · exact (min_le_right _ _).trans (le_max_right _ _)
    · rw [if_neg hslow] at hw
      have hle := not_lt.mp hslow
      rw [hw]
      refine ⟨(min_le_left _ _).trans (le_max_right _ _), ?_, ?_⟩
      · exact max_le_max (by linarith) le_rfl
      · exact max_le (by linarith) (by linarith)

theorem trapezoidStep_near {q v target : ℝ} (h : |target - q| ≤ positionToleranceRad) :
    trapezoidStep q v target cap aMax dt = (target, 0, .hold) := by
  have hnear : ble (Scalar.abs (target - q)) (positionToleranceRad : ℝ) = true :=
    ble_iff.mpr h
  simp only [trapezoidStep, hnear, if_true, lit_zero]

/-- A step from afar snaps to the target if it would pass it, in either direction. -/
theorem trapezoidStep_far {d q v target : ℝ} (ha : 0 < aMax) (hcap : 0 ≤ cap)
    (hsign : d = 1 ∨ d = -1) (hr : positionToleranceRad < d * (target - q)) (hv : 0 ≤ d * v)
    {speed : ℝ × TrapezoidPhase}
    (hspeed : speed = trapezoidSpeed (d * v) (d * v) (d * (target - q)) cap aMax dt) :
    trapezoidStep q v target cap aMax dt =
      if d * (target - q) ≤ speed.1 * dt then (target, 0, .hold)
      else (q + d * speed.1 * dt, d * speed.1, speed.2) := by
  have hpos : 0 < d * (target - q) := positionToleranceRad_pos.trans hr
  have hdist : |target - q| = d * (target - q) := by rw [← abs_sign_mul hsign, abs_of_pos hpos]
  have hmag : |v| = d * v := by rw [← abs_sign_mul hsign, abs_of_nonneg hv]
  have hblt : blt 0 aMax = true := blt_iff.mpr ha
  simp only [trapezoidStep, isFinite_eq, Bool.true_and, lit_zero, hblt, Bool.not_true,
    Bool.false_eq_true, if_false, blt_iff, ble_iff, ite_cap hcap, Bool.and_eq_true,
    Scalar.abs_eq, hdist, hmag, if_neg (not_le.mpr hr), signum_of_pos hsign hpos, mul_comm v d,
    ← hspeed]
  rcases hsign with rfl | rfl
  · have hpos : ¬(1 : ℝ) < 0 := by norm_num
    have hpast : target ≤ q + 1 * speed.1 * dt ↔ 1 * (target - q) ≤ speed.1 * dt := by
      constructor <;> intro h <;> linarith
    simp only [one_pos, true_and, hpos, false_and, if_false, hpast]
  · have hneg : ¬(0 : ℝ) < -1 := by norm_num
    have hpast : q + -1 * speed.1 * dt ≤ target ↔ -1 * (target - q) ≤ speed.1 * dt := by
      constructor <;> intro h <;> linarith
    simp only [hneg, false_and, if_false, neg_lt_zero, one_pos, true_and, hpast]

/-- A tick along the direction to the target, of a planner that does not move away from it. -/
theorem trapezoidStep_tick {d q v target : ℝ} (ha : 0 < aMax) (hdt : 0 < dt) (hcap : 0 ≤ cap)
    (hsign : d = 1 ∨ d = -1) (hr : 0 ≤ d * (target - q)) (hv : 0 ≤ d * v) :
    let next := trapezoidStep q v target cap aMax dt
    TrapezoidTick aMax dt cap (d * (target - q)) (d * v) (d * (target - next.1)) (d * next.2.1) := by
  intro next
  have hd := sign_mul_self hsign
  have harrive : TrapezoidTick aMax dt cap (d * (target - q)) (d * v) (d * (target - target))
      (d * 0) := by
    rw [sub_self, mul_zero]
    exact .arrive
  rcases le_or_gt (d * (target - q)) positionToleranceRad with hnear | hfar
  · have hnext : next = (target, 0, .hold) := by
      refine trapezoidStep_near ?_
      rwa [← abs_sign_mul hsign, abs_of_nonneg hr]
    rw [hnext]
    exact harrive
  · have hnext : next = _ := trapezoidStep_far ha hcap hsign hfar hv rfl
    have hspeed := trapezoidSpeed_cases
      (w := (trapezoidSpeed (d * v) (d * v) (d * (target - q)) cap aMax dt).1) ha hdt hv
      (positionToleranceRad_pos.trans hfar) rfl
    generalize trapezoidSpeed (d * v) (d * v) (d * (target - q)) cap aMax dt = speed
      at hspeed hnext
    rw [hnext]
    split
    · exact harrive
    · rename_i hbefore
      have hway : d * (target - (q + d * speed.1 * dt)) = d * (target - q) - speed.1 * dt := by
        linear_combination (-speed.1 * dt) * hd
      have hnew : d * (d * speed.1) = speed.1 := by linear_combination speed.1 * hd
      dsimp only
      rw [hway, hnew]
      rcases hspeed with ⟨moving, nonneg, slower⟩ | ⟨least, limited, slew⟩
      · exact .brake _ moving nonneg slower (not_le.mp hbefore)
      · exact .drive _ least limited slew (not_le.mp hbefore)

/-! ## What a tick changes -/

/-- The planner comes no further from the target and does not pass it. -/
theorem TrapezoidTick.approach (ha : 0 < aMax) (hdt : 0 < dt) (hcap : 0 ≤ cap) (hr : 0 ≤ r)
    (h : TrapezoidTick aMax dt cap r u r' u') : 0 ≤ r' ∧ r' ≤ r ∧ 0 ≤ u' := by
  have hmove : ∀ {w : ℝ}, 0 ≤ w → w * dt < r → 0 ≤ r - w * dt ∧ r - w * dt ≤ r ∧ 0 ≤ w := by
    intro w hw hbefore
    have hway : 0 ≤ w * dt := mul_nonneg hw hdt.le
    exact ⟨by linarith, by linarith, hw⟩
  cases h with
  | arrive => exact ⟨le_rfl, hr, le_rfl⟩
  | brake w moving nonneg slower before => exact hmove nonneg before
  | drive w least limited slew before =>
    exact hmove ((le_min hcap (mul_pos ha hdt).le).trans least) before

/-- The speed is at most the one before or the limit. -/
theorem TrapezoidTick.speed_le (ha : 0 < aMax) (hdt : 0 < dt) (hu : 0 ≤ u)
    (h : TrapezoidTick aMax dt cap r u r' u') : u' ≤ max u cap := by
  have hdv : 0 < aMax * dt := mul_pos ha hdt
  cases h with
  | arrive => exact hu.trans (le_max_left _ _)
  | brake w moving nonneg slower before =>
    refine slower.trans (max_le ?_ (hu.trans (le_max_left _ _)))
    exact (by linarith : u - aMax * dt ≤ u).trans (le_max_left _ _)
  | drive w least limited slew before => exact limited

/-! ## Planners that arrive -/

/-- What is left to do: the way, and the braking that may come before it goes on. One drive may add
two ticks of braking, so its way counts for three. -/
noncomputable def trapezoidRank (aMax dt c : ℝ) (s : ℝ × ℝ) : ℝ :=
  3 * aMax / min c (aMax * dt) * s.1 + if 0 < s.2 then s.2 + aMax * dt else 0

theorem trapezoidRank_nonneg {c : ℝ} (ha : 0 < aMax) (hdt : 0 < dt) (hc : 0 < c) (hr : 0 ≤ r) :
    0 ≤ trapezoidRank aMax dt c (r, u) := by
  have hdv : 0 < aMax * dt := mul_pos ha hdt
  have hleast : 0 < min c (aMax * dt) := lt_min hc hdv
  unfold trapezoidRank
  refine add_nonneg (by positivity) ?_
  split
  · linarith
  · exact le_rfl

/-- A drive with limits from `c` on covers a way that counts for three ticks of braking. -/
theorem rank_drive {c w : ℝ} (ha : 0 < aMax) (hdt : 0 < dt) (hc : 0 < c) (hcap : c ≤ cap)
    (hw : min cap (aMax * dt) ≤ w) :
    3 * (aMax * dt) ≤ 3 * aMax / min c (aMax * dt) * (w * dt) := by
  have hdv : 0 < aMax * dt := mul_pos ha hdt
  have hleast : 0 < min c (aMax * dt) := lt_min hc hdv
  have hle : min c (aMax * dt) ≤ w := (min_le_min_right _ hcap).trans hw
  calc 3 * (aMax * dt)
      = 3 * aMax / min c (aMax * dt) * (min c (aMax * dt) * dt) := by field_simp
    _ ≤ 3 * aMax / min c (aMax * dt) * (w * dt) := by gcongr

/-- Until it arrives, each tick lowers what is left to do by one tick of braking. -/
theorem TrapezoidTick.rank {c : ℝ} (ha : 0 < aMax) (hdt : 0 < dt) (hc : 0 < c) (hcap : c ≤ cap)
    (h : TrapezoidTick aMax dt cap r u r' u') :
    (r' = 0 ∧ u' = 0) ∨
      trapezoidRank aMax dt c (r', u') ≤ trapezoidRank aMax dt c (r, u) - aMax * dt := by
  have hdv : 0 < aMax * dt := mul_pos ha hdt
  have hweight : 0 ≤ 3 * aMax / min c (aMax * dt) := by
    have := lt_min hc hdv
    positivity
  cases h with
  | arrive => exact .inl ⟨rfl, rfl⟩
  | brake _ moving nonneg slower before =>
    right
    have hway : 0 ≤ 3 * aMax / min c (aMax * dt) * (u' * dt) := by positivity
    simp only [trapezoidRank, mul_sub, if_pos moving]
    split
    · rename_i hpos
      rcases le_max_iff.mp slower with hslow | hzero
      · linarith
      · linarith
    · linarith
  | drive w least limited slew before =>
    right
    have hway := rank_drive ha hdt hc hcap least
    simp only [trapezoidRank, mul_sub]
    split <;> split <;> linarith

/-! ## Runs -/

variable {caps : ℕ → ℝ}

/-- A run from rest, along the direction to its target. -/
theorem planner_run_tick (q target : ℝ) {d : ℝ} (ha : 0 < aMax) (hdt : 0 < dt) (hcaps : ∀ n, 0 ≤ caps n)
    (hsign : d = 1 ∨ d = -1) (hr : 0 ≤ d * (target - q)) (n : ℕ) :
    let run := (JointPositionPlanner.newAt q).run target dt caps aMax
    (0 ≤ d * (target - (run n).qTraj) ∧ 0 ≤ d * (run n).dqTraj) ∧
      TrapezoidTick aMax dt (caps n) (d * (target - (run n).qTraj)) (d * (run n).dqTraj)
        (d * (target - (run (n + 1)).qTraj)) (d * (run (n + 1)).dqTraj) := by
  intro run
  have hstep : ∀ n, 0 ≤ d * (target - (run n).qTraj) → 0 ≤ d * (run n).dqTraj →
      TrapezoidTick aMax dt (caps n) (d * (target - (run n).qTraj)) (d * (run n).dqTraj)
        (d * (target - (run (n + 1)).qTraj)) (d * (run (n + 1)).dqTraj) := by
    intro n hway hspeed
    exact trapezoidStep_tick ha hdt (hcaps n) hsign hway hspeed
  have hside : 0 ≤ d * (target - (run n).qTraj) ∧ 0 ≤ d * (run n).dqTraj := by
    induction n with
    | zero =>
      refine ⟨hr, ?_⟩
      simp [run, JointPositionPlanner.run, JointPositionPlanner.newAt, lit_zero]
    | succ n ih =>
      obtain ⟨hway, -, hspeed⟩ := (hstep n ih.1 ih.2).approach ha hdt (hcaps n) ih.1
      exact ⟨hway, hspeed⟩
  exact ⟨hside, hstep n hside.1 hside.2⟩

/-- The speed of a run from rest is at most the largest limit so far. -/
theorem planner_run_speed {q target d : ℝ} (ha : 0 < aMax) (hdt : 0 < dt) (hcaps : ∀ n, 0 ≤ caps n)
    (hsign : d = 1 ∨ d = -1) (hr : 0 ≤ d * (target - q)) (n : ℕ) :
    ∃ k ≤ n,
      d * ((JointPositionPlanner.newAt q).run target dt caps aMax (n + 1)).dqTraj ≤ caps k := by
  induction n with
  | zero =>
    obtain ⟨⟨-, hspeed⟩, htick⟩ := planner_run_tick q target ha hdt hcaps hsign hr 0
    have hrest : d * ((JointPositionPlanner.newAt q).run target dt caps aMax 0).dqTraj = 0 := by
      simp [JointPositionPlanner.run, JointPositionPlanner.newAt, lit_zero]
    have hle := htick.speed_le ha hdt hspeed
    rw [hrest, max_eq_right (hcaps 0)] at hle
    exact ⟨0, le_rfl, hle⟩
  | succ n ih =>
    obtain ⟨k, hk, hle⟩ := ih
    obtain ⟨⟨-, hspeed⟩, htick⟩ := planner_run_tick q target ha hdt hcaps hsign hr (n + 1)
    rcases le_max_iff.mp (htick.speed_le ha hdt hspeed) with h | h
    · exact ⟨k, hk.trans n.le_succ, h.trans hle⟩
    · exact ⟨n + 1, le_rfl, h⟩

/-- A run with limits from `c` on arrives, and stays. -/
theorem planner_run_arrives {q target c d : ℝ} (ha : 0 < aMax) (hdt : 0 < dt) (hc : 0 < c)
    (hcaps : ∀ n, c ≤ caps n) (hsign : d = 1 ∨ d = -1) (hr : 0 ≤ d * (target - q)) :
    ∃ n, ∀ m ≥ n, ((JointPositionPlanner.newAt q).run target dt caps aMax m).qTraj = target ∧
      ((JointPositionPlanner.newAt q).run target dt caps aMax m).dqTraj = 0 := by
  have hnonneg : ∀ n, 0 ≤ caps n := fun n => hc.le.trans (hcaps n)
  have hd := sign_mul_self hsign
  have hleads : Leads (fun s s' : ℝ × ℝ => ∃ cap, c ≤ cap ∧
      TrapezoidTick aMax dt cap s.1 s.2 s'.1 s'.2) (fun s => 0 ≤ s.1 ∧ 0 ≤ s.2)
      fun s => s.1 = 0 ∧ s.2 = 0 := by
    refine .rank (mul_pos ha hdt) (trapezoidRank aMax dt c) ?_ ?_
    · intro s hs
      exact trapezoidRank_nonneg ha hdt hc hs.1
    · rintro s s' hs ⟨cap, hcap, htick⟩
      rcases htick.rank ha hdt hc hcap with hdone | hle
      · exact .inl hdone
      · obtain ⟨hway, -, hspeed⟩ := htick.approach ha hdt (hc.le.trans hcap) hs.1
        exact .inr ⟨⟨hway, hspeed⟩, hle⟩
  obtain ⟨n, hway, hspeed⟩ := hleads
    (fun n => (d * (target - ((JointPositionPlanner.newAt q).run target dt caps aMax n).qTraj),
      d * ((JointPositionPlanner.newAt q).run target dt caps aMax n).dqTraj))
    (fun n => ⟨caps n, hcaps n, (planner_run_tick q target ha hdt hnonneg hsign hr n).2⟩)
    (planner_run_tick q target ha hdt hnonneg hsign hr 0).1
  refine ⟨n, fun m hm => ?_⟩
  induction m, hm using Nat.le_induction with
  | base =>
    have hne : d ≠ 0 := fun h => by simp [h] at hd
    exact ⟨(sub_eq_zero.mp ((mul_eq_zero_iff_left hne).mp hway)).symm,
      (mul_eq_zero_iff_left hne).mp hspeed⟩
  | succ m _ ih =>
    rw [JointPositionPlanner.run, JointPositionPlanner.tick, ih.1,
      trapezoidStep_near (by rw [sub_self, abs_zero]; exact positionToleranceRad_pos.le)]
    exact ⟨rfl, rfl⟩

/-- The trapezoidal planner. From rest, with one target and any speed limits, it comes no further from
the target and never passes it, and its speed is at most the largest limit so far. If the limits
stay away from zero it arrives, exactly and at rest, and stays. -/
theorem trapezoid_planner (aMax dt q target : ℝ) (caps : ℕ → ℝ) (ha : 0 < aMax) (hdt : 0 < dt)
    (hcaps : ∀ n, 0 ≤ caps n) :
    let run := (JointPositionPlanner.newAt q).run target dt caps aMax
    (∀ n, (q ≤ target → (run n).qTraj ≤ (run (n + 1)).qTraj ∧ (run n).qTraj ≤ target) ∧
      (target ≤ q → (run (n + 1)).qTraj ≤ (run n).qTraj ∧ target ≤ (run n).qTraj)) ∧
    (∀ n, ∃ k ≤ n, |(run (n + 1)).dqTraj| ≤ caps k) ∧
    ∀ c, 0 < c → (∀ n, c ≤ caps n) →
      ∃ n, ∀ m ≥ n, (run m).qTraj = target ∧ (run m).dqTraj = 0 := by
  intro run
  have hway : 0 ≤ signum (target - q) * (target - q) := by
    rw [signum_mul]
    exact abs_nonneg _
  refine ⟨fun n => ⟨fun hle => ?_, fun hle => ?_⟩, fun n => ?_, fun c hc hfrom =>
    planner_run_arrives ha hdt hc hfrom (signum_cases _) hway⟩
  · obtain ⟨⟨hr, -⟩, htick⟩ := planner_run_tick q target (d := 1) ha hdt hcaps (.inl rfl)
      (by linarith) n
    obtain ⟨-, happroach, -⟩ := htick.approach ha hdt (hcaps n) hr
    exact ⟨by linarith, by linarith⟩
  · obtain ⟨⟨hr, -⟩, htick⟩ := planner_run_tick q target (d := -1) ha hdt hcaps (.inr rfl)
      (by linarith) n
    obtain ⟨-, happroach, -⟩ := htick.approach ha hdt (hcaps n) hr
    exact ⟨by linarith, by linarith⟩
  · obtain ⟨k, hk, hle⟩ := planner_run_speed ha hdt hcaps (signum_cases (target - q)) hway n
    obtain ⟨⟨-, hnonneg⟩, -⟩ := planner_run_tick q target ha hdt hcaps (signum_cases (target - q)) hway (n + 1)
    refine ⟨k, hk, ?_⟩
    rwa [← abs_sign_mul (signum_cases (target - q)), abs_of_nonneg hnonneg]

/-- A move from zero to one, with a constant limit of one. -/
theorem trapezoid_planner_bench :
    ∃ n, ∀ m ≥ n, ((JointPositionPlanner.newAt (0 : ℝ)).run 1 (1 / 200) (fun _ => 1) 2 m).qTraj = 1 ∧
      ((JointPositionPlanner.newAt (0 : ℝ)).run 1 (1 / 200) (fun _ => 1) 2 m).dqTraj = 0 :=
  (trapezoid_planner 2 (1 / 200) 0 1 (fun _ => 1) (by norm_num) (by norm_num)
    fun _ => zero_le_one).2.2 1 one_pos fun _ => le_rfl

end

end Marengo

import Marengo.Davout.Bench
import Marengo.Lib.Odometer
import Marengo.Pi.GravityPreflight
import Marengo.Safety.Frames

/-!
# The sweep evaluates the grid once

However the grid is cut into slices, a sweep evaluates its samples in order and stops at the first
one the model cannot vouch for (`SweepInv`), so its verdict is the one of a single slice. A tick that
finds the drives changed voids the sweep and evaluates nothing.
-/

namespace Marengo

variable {F : Type}

/-- What the preflight needs of the order on finite numbers. -/
structure Scalar.FiniteMax (F : Type) [Scalar F] : Prop where
  finite_zero : isFinite (lit 0 : F) = true
  finite_abs : ∀ {x : F}, isFinite x = true → isFinite (Scalar.abs x) = true
  finite_max : ∀ {x y : F}, isFinite x = true → isFinite y = true →
    isFinite (Scalar.max x y) = true
  blt_max : ∀ {c x y : F}, isFinite c = true → isFinite x = true →
    isFinite y = true → blt c (Scalar.max x y) = (blt c x || blt c y)
  ble_of_blt : ∀ {x y : F}, isFinite x = true → isFinite y = true →
    blt x y = true → ble x y = true

section
variable {K : Type} [Field K] [LinearOrder K]

attribute [local instance] Scalar.ofField

theorem Scalar.FiniteMax.ofField : Scalar.FiniteMax K where
  finite_zero := rfl
  finite_abs _ := rfl
  finite_max _ _ := rfl
  blt_max {c x y} _ _ _ := by
    rw [Bool.eq_iff_iff, Bool.or_eq_true, blt_iff, blt_iff, blt_iff,
      Scalar.max_eq, lt_max_iff]
  ble_of_blt _ _ h := ble_iff.mpr (blt_iff.mp h).le

end

section
variable [Scalar F]

def JointSweep.point (joint : JointSweep F) (digit : ℕ) : F :=
  joint.lower + (joint.upper - joint.lower) * lit ((digit : ℕ) : ℚ) /
    lit ((gridPoints - 1 : ℕ) : ℚ)

def JointSweep.captured (joint : JointSweep F) : JointSweep F :=
  { joint with maxTauNm := lit 0 }

end

namespace GravitySweep

section
variable [Scalar F] (gravity : List F → Except (DynamicsError F) (List F)) (start : GravitySweep F)

/-! ## One sample -/

def pose (joints : List (JointSweep F)) (digits : List ℕ) : List F :=
  joints.zipWith JointSweep.point digits

/-- The pose of a sample is that of its digits. -/
theorem placeSample_eq {joints : List (JointSweep F)} {q : List F}
    (hq : q.length = joints.length) (sample : ℕ) :
    placeSample joints sample q =
      pose joints (Odometer.digits (List.replicate joints.length gridPoints) sample) := by
  induction joints generalizing q sample with
  | nil =>
    obtain rfl := List.length_eq_zero_iff.mp hq
    rfl
  | cons joint joints ih =>
    cases q with
    | nil => simp at hq
    | cons angle q =>
      have hrest : q.length = joints.length := by simpa using hq
      rw [placeSample, ih hrest]
      rfl

theorem pose_captured (joints : List (JointSweep F)) (digits : List ℕ) :
    pose (joints.map JointSweep.captured) digits = pose joints digits := by
  rw [pose, pose, List.zipWith_map_left]
  rfl

/-- The model vouches for a pose: as many torques as joints, all finite. -/
def Vouched (n : ℕ) (q : List F) : Prop :=
  ∃ tau, gravity q = .ok tau ∧ tau.length = n ∧ ∀ value ∈ tau, isFinite value = true

/-- The torque of joint `i` at a pose. -/
def torque (q : List F) (i : ℕ) : F :=
  match gravity q with
  | .ok tau => tau.getD i (lit 0)
  | .error _ => lit 0

theorem observe_captured (joints : List (JointSweep F)) (tau : List F) :
    (observe joints tau).1.map JointSweep.captured = joints.map JointSweep.captured := by
  induction joints generalizing tau with
  | nil => cases tau <;> rfl
  | cons joint joints ih =>
    cases tau with
    | nil => rfl
    | cons value tau =>
      rw [observe]
      split
      · rfl
      · rw [List.map_cons, List.map_cons, ih]
        rfl

/-- What a vector of torques says, if it is taken at all. -/
theorem observe_spec {joints : List (JointSweep F)} {tau : List F}
    (hlength : tau.length = joints.length) :
    ((observe joints tau).2 = true ↔ ∀ value ∈ tau, isFinite value = true) ∧
      ((observe joints tau).2 = true → (observe joints tau).1 = joints.zipWith (fun joint value =>
        { joint with maxTauNm := Scalar.max joint.maxTauNm (Scalar.abs value) }) tau) := by
  induction joints generalizing tau with
  | nil =>
    obtain rfl := List.length_eq_zero_iff.mp hlength
    simp [observe]
  | cons joint joints ih =>
    cases tau with
    | nil => simp at hlength
    | cons value tau =>
      obtain ⟨hsnd, hfst⟩ := ih (show tau.length = joints.length by simpa using hlength)
      rw [observe, List.forall_mem_cons, ← hsnd]
      cases hfinite : isFinite value
      · simp
      · simpa using hfst

/-- `m` is the maximum of zero and of finite numbers, of which those above `c` exist exactly if
`seen c`. -/
structure Tracks (seen : F → Prop) (m : F) : Prop where
  finite : isFinite m = true
  above : ∀ c, isFinite c = true →
    (blt c m = true ↔ blt c (lit 0) = true ∨ seen c)

theorem Tracks.observe (hlaws : Scalar.FiniteMax F) {seen : F → Prop} {m value : F}
    (h : Tracks seen m) (hvalue : isFinite value = true) :
    Tracks (fun c => seen c ∨ blt c (Scalar.abs value) = true)
      (Scalar.max m (Scalar.abs value)) := by
  have habs := hlaws.finite_abs hvalue
  refine ⟨hlaws.finite_max h.finite habs, fun c hc => ?_⟩
  rw [hlaws.blt_max hc h.finite habs, Bool.or_eq_true, h.above c hc, or_assoc]

/-! ## Samples in order -/

/-- The poses of the grid, in the order of the sweep. -/
def samplePose (sample : ℕ) : List F :=
  pose start.joints (Odometer.digits (List.replicate start.joints.length gridPoints) sample)

/-- A sweep that has evaluated its first samples, all of them vouched for. -/
structure SweepInv (sweep : GravitySweep F) : Prop where
  joints : sweep.joints.map JointSweep.captured = start.joints.map JointSweep.captured
  sampleCount : sweep.sampleCount = start.sampleCount
  stopGeneration : sweep.stopGeneration = start.stopGeneration
  faultLatched : sweep.faultLatched = start.faultLatched
  referencePending : sweep.referencePending = start.referencePending
  length : sweep.q.length = start.joints.length
  next : sweep.nextSample ≤ start.sampleCount
  evaluated : sweep.evaluated = (List.range sweep.nextSample).map start.samplePose
  vouched : ∀ k < sweep.nextSample, Vouched gravity start.joints.length (start.samplePose k)
  tracks : ∀ i joint, sweep.joints[i]? = some joint →
    Tracks (fun c => ∃ k < sweep.nextSample,
      blt c (Scalar.abs (torque gravity (start.samplePose k) i)) = true) joint.maxTauNm

/-- A sweep that has stopped at a sample the model does not vouch for. -/
structure Stuck (sweep : GravitySweep F) : Prop where
  next : sweep.nextSample < start.sampleCount
  evaluated : sweep.evaluated = (List.range (sweep.nextSample + 1)).map start.samplePose
  refused : ¬Vouched gravity start.joints.length (start.samplePose sweep.nextSample)

variable {gravity start} {sweep : GravitySweep F}

theorem SweepInv.length_joints (h : SweepInv gravity start sweep) :
    sweep.joints.length = start.joints.length := by
  simpa using congrArg List.length h.joints

/-- The pose of the next sample. -/
theorem SweepInv.placeSample (h : SweepInv gravity start sweep)
    (sample : ℕ) : placeSample sweep.joints sample sweep.q = start.samplePose sample := by
  rw [placeSample_eq (h.length.trans h.length_joints.symm), samplePose, h.length_joints,
    ← pose_captured sweep.joints, h.joints, pose_captured]

/-- The sweep as its next sample is evaluated. -/
def posed (start sweep : GravitySweep F) : GravitySweep F := { sweep with
  q := start.samplePose sweep.nextSample
  evaluated := (List.range (sweep.nextSample + 1)).map start.samplePose }

/-- What evaluating the next sample does, whatever the model says. -/
theorem SweepInv.evaluate_eq (h : SweepInv gravity start sweep) :
    sweep.evaluate gravity sweep.nextSample =
      match gravity (start.samplePose sweep.nextSample) with
      | .error _ => (posed start sweep, false)
      | .ok tau =>
        if tau.length ≠ sweep.joints.length then (posed start sweep, false)
        else ({ posed start sweep with joints := (GravitySweep.observe sweep.joints tau).1 },
          (GravitySweep.observe sweep.joints tau).2) := by
  have hevaluated : sweep.evaluated ++ [start.samplePose sweep.nextSample] =
      (List.range (sweep.nextSample + 1)).map start.samplePose := by
    rw [h.evaluated, List.range_succ, List.map_append, List.map_singleton]
  unfold GravitySweep.evaluate
  rw [h.placeSample]
  dsimp only
  exact hevaluated ▸ rfl

theorem length_samplePose (start : GravitySweep F) (sample : ℕ) :
    (start.samplePose sample).length = start.joints.length := by
  simp [samplePose, pose, Odometer.length_digits]

/-- The next sample, if the model vouches for it. -/
theorem SweepInv.evaluate_ok (hlaws : Scalar.FiniteMax F)
    (h : SweepInv gravity start sweep) (hnext : sweep.nextSample < start.sampleCount)
    (hvouched : Vouched gravity start.joints.length (start.samplePose sweep.nextSample)) :
    ∃ sweep', sweep.evaluate gravity sweep.nextSample = (sweep', true) ∧
      sweep'.nextSample = sweep.nextSample ∧
      SweepInv gravity start { sweep' with nextSample := sweep.nextSample + 1 } := by
  have hheld := hvouched
  obtain ⟨tau, htau, hlength, hfinite⟩ := hvouched
  have hjoints : tau.length = sweep.joints.length := hlength.trans h.length_joints.symm
  have hobserved : (GravitySweep.observe sweep.joints tau).2 = true :=
    (observe_spec hjoints).1.mpr hfinite
  have heval := h.evaluate_eq
  simp only [htau, if_neg (not_not.mpr hjoints), hobserved] at heval
  refine ⟨_, heval, rfl, ?_⟩
  refine ⟨?_, h.sampleCount, h.stopGeneration, h.faultLatched, h.referencePending, ?_, hnext, rfl,
    ?_, ?_⟩
  · rw [← h.joints]
    exact observe_captured _ _
  · exact length_samplePose _ _
  · intro k hk
    rcases Nat.lt_succ_iff_lt_or_eq.mp hk with hlt | rfl
    · exact h.vouched k hlt
    · exact hheld
  · intro i joint hjoint
    dsimp only at hjoint
    rw [(observe_spec hjoints).2 hobserved, List.getElem?_zipWith_eq_some] at hjoint
    obtain ⟨before, value, hbefore, hvalue, rfl⟩ := hjoint
    have htorque : torque gravity (start.samplePose sweep.nextSample) i = value := by
      rw [torque, htau]
      simp [hvalue]
    have hmem : isFinite value = true := hfinite value (List.mem_of_getElem? hvalue)
    have htracks := (h.tracks i before hbefore).observe hlaws hmem
    simp only [Nat.lt_succ_iff_lt_or_eq, or_and_right, exists_or, exists_eq_left, htorque]
    exact htracks

/-- The next sample, if the model does not vouch for it. -/
theorem SweepInv.evaluate_refused
    (h : SweepInv gravity start sweep) (hnext : sweep.nextSample < start.sampleCount)
    (hrefused : ¬Vouched gravity start.joints.length (start.samplePose sweep.nextSample)) :
    ∃ sweep', sweep.evaluate gravity sweep.nextSample = (sweep', false) ∧
      sweep'.nextSample = sweep.nextSample ∧ Stuck gravity start sweep' := by
  rw [h.evaluate_eq]
  cases htau : gravity (start.samplePose sweep.nextSample) with
  | error e => exact ⟨_, rfl, rfl, hnext, rfl, hrefused⟩
  | ok tau =>
    by_cases hlength : tau.length = sweep.joints.length
    · have hobserved : (GravitySweep.observe sweep.joints tau).2 = false := by
        rw [← Bool.not_eq_true, (observe_spec hlength).1]
        intro hfinite
        exact hrefused ⟨tau, htau, hlength.trans h.length_joints, hfinite⟩
      simp only [if_neg (not_not.mpr hlength), hobserved]
      exact ⟨_, rfl, rfl, hnext, rfl, hrefused⟩
    · simp only [if_pos hlength]
      exact ⟨_, rfl, rfl, hnext, rfl, hrefused⟩

/-! ## One slice -/

variable (gravity start) in
/-- How a slice of at most `count` samples ends. It takes all of them if no reading of the clock is
past the time budget, which is what `timely` says. -/
inductive SliceEnds (timely : Prop) (count next : ℕ) : GravitySweep F × Bool → Prop
  | kept {reached} (inv : SweepInv gravity start reached)
      (progress : next + min count 1 ≤ reached.nextSample) (bound : reached.nextSample ≤ next + count)
      (all : timely → reached.nextSample = next + count) :
      SliceEnds timely count next (reached, true)
  | stuck {reached} (h : Stuck gravity start reached) :
      SliceEnds timely count next (reached, false)

theorem evaluateSlice_ends (maxTime : Duration) (clock : SliceClock) (hlaws : Scalar.FiniteMax F)
    {count : ℕ}
    (h : SweepInv gravity start sweep) (hcount : sweep.nextSample + count ≤ start.sampleCount) :
    SliceEnds gravity start (∀ k, clock.afterSample k < maxTime) count sweep.nextSample
      (evaluateSlice gravity maxTime clock count sweep) := by
  induction count generalizing sweep with
  | zero => exact .kept h (Nat.le_refl _) (Nat.le_refl _) fun _ => rfl
  | succ count ih =>
    have hnext : sweep.nextSample < start.sampleCount := by omega
    by_cases hvouched : Vouched gravity start.joints.length (start.samplePose sweep.nextSample)
    · obtain ⟨sweep', heval, hsame, hinv⟩ := h.evaluate_ok hlaws hnext hvouched
      rw [evaluateSlice, heval]
      simp only [Bool.not_true, Bool.false_eq_true, if_false, hsame]
      split
      · rename_i hlate
        refine .kept hinv ?_ ?_ fun htimely => absurd hlate (Nat.not_le.mpr (htimely _))
        · dsimp only
          omega
        · dsimp only
          omega
      · have hrest := ih hinv (by dsimp only; omega)
        dsimp only at hrest
        generalize evaluateSlice gravity maxTime clock count _ = result at hrest ⊢
        cases hrest with
        | kept inv progress bound all =>
          refine .kept inv (by omega) (by omega) fun htimely => ?_
          rw [all htimely]
          omega
        | stuck h => exact .stuck h
    · obtain ⟨sweep', heval, -, hstuck⟩ := h.evaluate_refused hnext hvouched
      rw [evaluateSlice, heval]
      exact .stuck hstuck

/-! ## The verdict -/

variable (gravity start) in
/-- The saturation rule over the whole grid. -/
structure Passes : Prop where
  vouched : ∀ k < start.sampleCount, Vouched gravity start.joints.length (start.samplePose k)
  limits : ∀ i joint, start.joints[i]? = some joint →
    isFinite joint.policy.tauFfMax = true ∧
    ble joint.policy.tauFfMax (lit 0) = false ∧
    ∀ k < start.sampleCount, blt joint.policy.tauFfMax
      (Scalar.abs (torque gravity (start.samplePose k) i)) = false

/-- A joint of a sweep and the joint as it was captured. -/
theorem SweepInv.getElem? (h : SweepInv gravity start sweep) (i : ℕ) :
    (sweep.joints[i]?).map JointSweep.captured = (start.joints[i]?).map JointSweep.captured := by
  rw [← List.getElem?_map, ← List.getElem?_map, h.joints]

/-- The two have the same policy. -/
theorem SweepInv.policy (h : SweepInv gravity start sweep) {i : ℕ}
    {joint joint' : JointSweep F} (hjoint : start.joints[i]? = some joint)
    (hjoint' : sweep.joints[i]? = some joint') : joint'.policy = joint.policy := by
  have hcaptured := h.getElem? i
  rw [hjoint, hjoint'] at hcaptured
  have hjoints : joint'.captured = joint.captured := Option.some.inj hcaptured
  have hpolicies : joint'.captured.policy = joint.captured.policy := by rw [hjoints]
  exact hpolicies

/-- After the last sample the largest torques decide. -/
theorem SweepInv.passes (hlaws : Scalar.FiniteMax F)
    (h : SweepInv gravity start sweep) (hall : sweep.nextSample = start.sampleCount) :
    sweep.withinLimits = true ↔ Passes gravity start := by
  have hwithin : sweep.withinLimits = true ↔ ∀ joint ∈ sweep.joints,
      isFinite joint.policy.tauFfMax = true ∧
      ble joint.policy.tauFfMax (lit 0) = false ∧
      blt joint.policy.tauFfMax joint.maxTauNm = false := by
    simp [withinLimits, and_assoc]
  rw [hwithin]
  constructor
  · intro hlimits
    refine ⟨fun k hk => h.vouched k (hall ▸ hk), fun i joint hjoint => ?_⟩
    obtain ⟨joint', hjoint'⟩ : ∃ joint', sweep.joints[i]? = some joint' := by
      have hi := (List.getElem?_eq_some_iff.mp hjoint).1
      exact ⟨_, List.getElem?_eq_getElem (h.length_joints.symm ▸ hi)⟩
    obtain ⟨hfinite, hpos, hmax⟩ := hlimits joint' (List.mem_of_getElem? hjoint')
    rw [h.policy hjoint hjoint'] at hfinite hpos hmax
    refine ⟨hfinite, hpos, fun k hk => ?_⟩
    rw [← Bool.not_eq_true] at hmax ⊢
    intro habove
    exact hmax (((h.tracks i joint' hjoint').above _ hfinite).mpr (.inr ⟨k, hall ▸ hk, habove⟩))
  · intro hpasses joint' hmem
    obtain ⟨i, hi⟩ := List.getElem?_of_mem hmem
    obtain ⟨joint, hjoint⟩ : ∃ joint, start.joints[i]? = some joint := by
      have hlt := (List.getElem?_eq_some_iff.mp hi).1
      exact ⟨_, List.getElem?_eq_getElem (h.length_joints ▸ hlt)⟩
    obtain ⟨hfinite, hpos, hmax⟩ := hpasses.limits i joint hjoint
    rw [h.policy hjoint hi]
    refine ⟨hfinite, hpos, ?_⟩
    rw [← Bool.not_eq_true]
    intro habove
    rcases ((h.tracks i joint' hi).above _ hfinite).mp habove with hzero | ⟨k, hk, hk'⟩
    · rw [hlaws.ble_of_blt hfinite hlaws.finite_zero hzero] at hpos
      cases hpos
    · rw [hmax k (hall ▸ hk)] at hk'
      cases hk'

/-- A sweep that is stuck does not pass. -/
theorem Stuck.not_passes (h : Stuck gravity start sweep) : ¬Passes gravity start :=
  fun hpasses => h.refused (hpasses.vouched _ h.next)

variable (gravity start) in
/-- How a call of `advance` ends. One slice for the whole grid, which is what `unsliced` says, is not
cut short. -/
inductive AdvanceEnds (unsliced : Prop) (next : ℕ) : GravitySweep F × SweepStep → Prop
  | pending {reached} (inv : SweepInv gravity start reached) (progress : next < reached.nextSample)
      (more : reached.nextSample < start.sampleCount) (cut : ¬unsliced) :
      AdvanceEnds unsliced next (reached, .pending)
  | complete {reached stats} {passed : Bool} (inv : SweepInv gravity start reached)
      (all : reached.nextSample = start.sampleCount) (verdict : passed = true ↔ Passes gravity start) :
      AdvanceEnds unsliced next (reached, .done passed stats)
  | refused {reached stats} (h : Stuck gravity start reached) :
      AdvanceEnds unsliced next (reached, .done false stats)

/-- The timing of a sweep is not read. -/
theorem SweepInv.timed (h : SweepInv gravity start sweep) (slices : ℕ) (maxSlice : Duration) :
    SweepInv gravity start { sweep with slices := slices, maxSlice := maxSlice } := by
  obtain ⟨h₁, h₂, h₃, h₄, h₅, h₆, h₇, h₈, h₉, h₁₀⟩ := h
  exact ⟨h₁, h₂, h₃, h₄, h₅, h₆, h₇, h₈, h₉, h₁₀⟩

theorem Stuck.timed (h : Stuck gravity start sweep) (slices : ℕ) (maxSlice : Duration) :
    Stuck gravity start { sweep with slices := slices, maxSlice := maxSlice } := by
  obtain ⟨h₁, h₂, h₃⟩ := h
  exact ⟨h₁, h₂, h₃⟩

theorem advance_ends (hlaws : Scalar.FiniteMax F) (budget : SliceBudget)
    (clock : SliceClock) (h : SweepInv gravity start sweep) (hnext : sweep.nextSample < start.sampleCount)
    (hcount : start.sampleCount ≤ maxU64) :
    AdvanceEnds gravity start
      (start.sampleCount ≤ budget.maxSamples ∧ ∀ k, clock.afterSample k < budget.maxTime)
      sweep.nextSample (sweep.advance gravity budget clock) := by
  unfold advance
  dsimp only
  rw [h.sampleCount]
  generalize hend : min (min (sweep.nextSample + max budget.maxSamples 1) maxU64)
    start.sampleCount - sweep.nextSample = count
  have hpos : 0 < count := by omega
  have hslice := evaluateSlice_ends budget.maxTime clock hlaws h
    (show sweep.nextSample + count ≤ start.sampleCount by omega)
  generalize evaluateSlice gravity budget.maxTime clock count sweep = result at hslice ⊢
  cases hslice with
  | stuck hstuck => exact .refused (hstuck.timed _ _)
  | @kept after inv progress bound all =>
    dsimp only
    rw [Bool.true_and]
    split
    · rename_i hmore
      rw [decide_eq_true_eq, inv.sampleCount] at hmore
      refine .pending (inv.timed _ _) (by dsimp only; omega) hmore fun ⟨hsamples, htimely⟩ => ?_
      have hall := all htimely
      omega
    · rename_i hdone
      rw [decide_eq_true_eq, inv.sampleCount] at hdone
      have hall : after.nextSample = start.sampleCount := by
        have := inv.next
        omega
      have htimed := inv.timed (min (after.slices + 1) maxU32) (max after.maxSlice clock.atEnd)
      refine .complete htimed hall ?_
      rw [Bool.true_and, htimed.passes hlaws hall]

/-! ## The start -/

structure Started (s : Supervisor F) (jointNames : List String) (sweep : GravitySweep F) : Prop where
  names : sweep.joints.map (·.joint) = jointNames
  policies : ∀ joint ∈ sweep.joints, s.limits joint.joint = some joint.policy
  zero : ∀ joint ∈ sweep.joints, joint.maxTauNm = lit 0
  sampleCount : sweep.sampleCount = gridPoints ^ sweep.joints.length
  bounded : sweep.sampleCount ≤ maxGridSamples
  nextSample : sweep.nextSample = 0
  length : sweep.q.length = sweep.joints.length
  evaluated : sweep.evaluated = []
  stopGeneration : sweep.stopGeneration = s.stopGeneration
  faultLatched : sweep.faultLatched = s.hasLatchedFault
  referencePending : sweep.referencePending = s.referenceWorkPending

end

section
variable [World F]

/-- Reading the clock leaves the supervisor alone. -/
theorem now_supervisor {ε : Type} {s s' : System F} {t : Instant}
    (h : (now : Prog (System F) ε Instant) s = (.ok t, s')) : s'.toSupervisor = s.toSupervisor := by
  cases h
  rfl

theorem jointFeedback_supervisor {ε : Type} {joint : String} {s s' : System F}
    {state : Option (MotorState F)}
    (h : (jointFeedback joint : Prog (System F) ε _) s = (.ok state, s')) :
    s'.toSupervisor = s.toSupervisor := by
  obtain ⟨t, s₁, hnow, h⟩ := Prog.bind_eq_ok.mp h
  cases h
  exact now_supervisor hnow

theorem startJoint_captured {joint : String} {s s' : System F} {captured : JointSweep F}
    (h : startJoint joint s = (.ok captured, s')) :
    s'.toSupervisor = s.toSupervisor ∧ captured.joint = joint ∧
      s.limits joint = some captured.policy ∧ captured.maxTauNm = lit 0 := by
  obtain ⟨s₀, s₁, hread, h⟩ := Prog.bind_eq_ok.mp h
  cases hread
  split at h
  · cases h
  · cases hpolicy : s.limits joint with
    | none =>
      rw [hpolicy] at h
      cases h
    | some policy =>
      rw [hpolicy] at h
      obtain ⟨feedback, s₂, hfeedback, h⟩ := Prog.bind_eq_ok.mp h
      have hsame := jointFeedback_supervisor hfeedback
      cases feedback with
      | none => cases h
      | some feedback =>
        dsimp only at h
        split at h
        · cases h
        · cases h
          exact ⟨hsame, rfl, rfl, rfl⟩

theorem startJoints_captured {jointNames : List String} {s s' : System F}
    {joints : List (JointSweep F)} (h : traverse startJoint jointNames s = (.ok joints, s')) :
    s'.toSupervisor = s.toSupervisor ∧ joints.map (·.joint) = jointNames ∧
      ∀ joint ∈ joints, s.limits joint.joint = some joint.policy ∧
        joint.maxTauNm = lit 0 := by
  induction jointNames generalizing s joints with
  | nil =>
    cases h
    exact ⟨rfl, rfl, fun joint hjoint => by cases hjoint⟩
  | cons name jointNames ih =>
    obtain ⟨joint, s₁, hjoint, h⟩ := Prog.bind_eq_ok.mp h
    obtain ⟨rest, s₂, hrest, h⟩ := Prog.bind_eq_ok.mp h
    cases h
    obtain ⟨hsame, hname, hpolicy, hzero⟩ := startJoint_captured hjoint
    obtain ⟨hsame', hnames, hall⟩ := ih hrest
    refine ⟨hsame'.trans hsame, by rw [List.map_cons, hname, hnames], ?_⟩
    rw [List.forall_mem_cons, hname]
    exact ⟨⟨hpolicy, hzero⟩, hsame ▸ hall⟩

theorem start_started {jointNames : List String} {s s' : System F} {sweep : GravitySweep F}
    (h : start jointNames s = (.ok sweep, s')) : Started s'.toSupervisor jointNames sweep := by
  obtain ⟨t, s₁, -, h⟩ := Prog.bind_eq_ok.mp h
  obtain ⟨joints, s₂, hjoints, h⟩ := Prog.bind_eq_ok.mp h
  obtain ⟨hsame, hnames, hall⟩ := startJoints_captured hjoints
  split at h
  · cases h
  · split at h
    · cases h
    · split at h
      · cases h
      · rename_i hbounded
        cases h
        refine ⟨hnames, fun joint hjoint => ?_, fun joint hjoint => (hall joint hjoint).2, rfl,
          Nat.not_lt.mp hbounded, rfl, List.length_replicate, rfl, rfl, rfl, rfl⟩
        rw [hsame]
        exact (hall joint hjoint).1

end

/-! ## Ticks -/

section
variable [Scalar F] {gravity : List F → Except (DynamicsError F) (List F)}
  {start sweep : GravitySweep F}

variable (gravity) in
theorem Started.inv (hlaws : Scalar.FiniteMax F) {s : Supervisor F} {jointNames : List String}
    (h : Started s jointNames sweep) : SweepInv gravity sweep sweep where
  joints := rfl
  sampleCount := rfl
  stopGeneration := rfl
  faultLatched := rfl
  referencePending := rfl
  length := h.length
  next := by
    rw [h.nextSample]
    exact Nat.zero_le _
  evaluated := by
    rw [h.nextSample, h.evaluated]
    rfl
  vouched k hk := by
    rw [h.nextSample] at hk
    omega
  tracks i joint hjoint := by
    rw [h.zero joint (List.mem_of_getElem? hjoint), h.nextSample]
    refine ⟨hlaws.finite_zero, fun c _ => ?_⟩
    simp

/-- What voids a sweep is what would have voided it at its start. -/
theorem SweepInv.invalidated (h : SweepInv gravity start sweep) (s : Supervisor F)
    (queueBusy : Bool) :
    sweep.invalidated s queueBusy = start.invalidated s queueBusy := by
  have hfind : ∀ joints : List (JointSweep F),
      ((joints.find? fun joint => !(s.limits joint.joint).any
        (JointLimitPolicy.beq · joint.policy)).map fun joint => SweepAbort.limitsChanged joint.joint) =
      ((joints.map JointSweep.captured).find? fun joint => !(s.limits joint.joint).any
        (JointLimitPolicy.beq · joint.policy)).map
          fun joint => SweepAbort.limitsChanged joint.joint := by
    intro joints
    rw [List.find?_map, Option.map_map]
    rfl
  unfold GravitySweep.invalidated
  rw [h.stopGeneration, h.faultLatched, h.referencePending, hfind, h.joints, ← hfind]

variable (gravity start) in
/-- What a run of ticks keeps. -/
inductive PreflightInv : Preflight F → Prop
  | waiting {reached} (inv : SweepInv gravity start reached)
      (more : reached.nextSample < start.sampleCount) : PreflightInv (.waiting reached)
  | voided {reached abort} (inv : SweepInv gravity start reached) :
      PreflightInv (.voided reached abort)
  | complete {reached passed stats} (inv : SweepInv gravity start reached)
      (all : reached.nextSample = start.sampleCount) (verdict : passed = true ↔ Passes gravity start) :
      PreflightInv (.verdict reached passed stats)
  | refused {reached stats} (h : Stuck gravity start reached) :
      PreflightInv (.verdict reached false stats)

/-- A tick that finds the drives as they were. -/
theorem advance_undisturbed {tick : PreflightTick F}
    (h : sweep.invalidated tick.supervisor.toSupervisor tick.queueBusy = none) :
    advanceGravityPreflight gravity (.waiting sweep) tick =
      match sweep.advance gravity tick.budget tick.clock with
      | (sweep, .pending) => .waiting sweep
      | (sweep, .done passed stats) => .verdict sweep passed stats := by
  rcases hadvance : sweep.advance gravity tick.budget tick.clock with ⟨_, _ | _⟩ <;>
    simp only [advanceGravityPreflight, h, hadvance]

section
variable (hlaws : Scalar.FiniteMax F) (hcount : start.sampleCount ≤ maxU64)
include hlaws hcount

theorem PreflightInv.step {preflight : Preflight F} (h : PreflightInv gravity start preflight)
    (tick : PreflightTick F) :
    PreflightInv gravity start (advanceGravityPreflight gravity preflight tick) := by
  cases h with
  | @waiting sweep inv more =>
    cases hvoid : sweep.invalidated tick.supervisor.toSupervisor tick.queueBusy with
    | some abort =>
      rw [advanceGravityPreflight, hvoid]
      exact .voided inv
    | none =>
      rw [advance_undisturbed hvoid]
      have hends := advance_ends hlaws tick.budget tick.clock inv more hcount
      generalize sweep.advance gravity tick.budget tick.clock = result at hends ⊢
      cases hends with
      | pending inv _ more _ => exact .waiting inv more
      | complete inv all verdict => exact .complete inv all verdict
      | refused h => exact .refused h
  | voided inv => exact .voided inv
  | complete inv all verdict => exact .complete inv all verdict
  | refused h => exact .refused h

theorem PreflightInv.run {preflight : Preflight F} (h : PreflightInv gravity start preflight)
    (ticks : List (PreflightTick F)) :
    PreflightInv gravity start (ticks.foldl (advanceGravityPreflight gravity) preflight) := by
  induction ticks generalizing preflight with
  | nil => exact h
  | cons tick ticks ih => exact ih (h.step hlaws hcount tick)

/-- Undisturbed ticks reach a verdict: each one takes at least one sample. -/
theorem run_completes (h : SweepInv gravity start sweep) (hmore : sweep.nextSample < start.sampleCount)
    {ticks : List (PreflightTick F)}
    (hquiet : ∀ tick ∈ ticks,
      start.invalidated tick.supervisor.toSupervisor tick.queueBusy = none)
    (hticks : start.sampleCount ≤ sweep.nextSample + ticks.length) :
    ∃ sweep' passed stats, ticks.foldl (advanceGravityPreflight gravity) (.waiting sweep) =
      .verdict sweep' passed stats := by
  induction ticks generalizing sweep with
  | nil =>
    rw [List.length_nil] at hticks
    omega
  | cons tick ticks ih =>
    have hvoid : sweep.invalidated tick.supervisor.toSupervisor tick.queueBusy = none := by
      rw [h.invalidated]
      exact hquiet tick (.head _)
    rw [List.foldl_cons, advance_undisturbed hvoid]
    have hends := advance_ends hlaws tick.budget tick.clock h hmore hcount
    generalize sweep.advance gravity tick.budget tick.clock = result at hends ⊢
    cases hends with
    | pending inv progress more =>
      rw [List.length_cons] at hticks
      exact ih inv more (fun t ht => hquiet t (.tail _ ht)) (by omega)
    -- a verdict stays
    | complete | refused => exact ⟨_, _, _, List.foldl_fixed' (fun _ => rfl) ticks⟩

end

/-- A tick that finds the drives changed evaluates nothing. -/
theorem run_disturbed (h : SweepInv gravity start sweep) {tick : PreflightTick F} {abort : SweepAbort}
    (hvoid : start.invalidated tick.supervisor.toSupervisor tick.queueBusy = some abort)
    (ticks : List (PreflightTick F)) :
    (tick :: ticks).foldl (advanceGravityPreflight gravity) (.waiting sweep) =
      .voided sweep abort := by
  rw [← h.invalidated] at hvoid
  rw [List.foldl_cons, advanceGravityPreflight, hvoid]
  exact List.foldl_fixed' (fun _ => rfl) ticks

end

/-! ## Changes of the drives -/

section
variable [World F]

/-- A step begins a stop, with a new generation, or leaves both alone. -/
theorem step_generation {l : Effect} {s s' : System F} (h : Step l s s') :
    (s'.stops = s.stops ∧ s'.stopGeneration = s.stopGeneration) ∨
      (s'.stops = s.stops + 1 ∧ s'.stopGeneration = saturatingSucc s.stopGeneration) := by
  unfold Supervisor.stopGeneration
  cases h with
  | tick h => exact .inl ⟨h.stops, by rw [h.supervisor]⟩
  | observe h => exact .inl ⟨h.stops, congrArg (·.faultAuthority.stopGeneration) h.safety⟩
  | receive h => exact .inl ⟨h.stops, congrArg (·.faultAuthority.stopGeneration) h.safety⟩
  | collect _ _ h => exact .inl ⟨h.stops, congrArg (·.faultAuthority.stopGeneration) h.safety⟩
  | select _ _ _ h => exact .inl ⟨h.stops, congrArg (·.faultAuthority.stopGeneration) h.supervisor⟩
  | latch _ generation => exact .inl ⟨rfl, generation⟩
  | mark _ generation => exact .inl ⟨rfl, generation⟩
  | episode _ _ _ generation => exact .inl ⟨rfl, generation⟩
  | stop => exact .inr ⟨rfl, rfl⟩
  | _ => exact .inl ⟨rfl, rfl⟩

/-- Every stop that begins changes the generation, unless it is at the end of its range. -/
theorem generation_lt {E : Effect → Prop} {s s' : System F} (h : Runs E s s') :
    s.stops ≤ s'.stops ∧ s.stopGeneration ≤ s'.stopGeneration ∧
      (s.stops < s'.stops → s.stopGeneration < maxU64 → s.stopGeneration < s'.stopGeneration) := by
  refine h.invariant (P := fun t => s.stops ≤ t.stops ∧ s.stopGeneration ≤ t.stopGeneration ∧
    (s.stops < t.stops → s.stopGeneration < maxU64 → s.stopGeneration < t.stopGeneration)) ?_
    ⟨Nat.le_refl _, Nat.le_refl _, fun hlt => absurd hlt (Nat.lt_irrefl _)⟩
  rintro l t t' - hstep ⟨hstops, hle, hlt⟩
  rcases step_generation hstep with ⟨hstops', hgeneration⟩ | ⟨hstops', hgeneration⟩
  · rw [hstops', hgeneration]
    exact ⟨hstops, hle, hlt⟩
  · have hgrows := le_saturatingSucc t.stopGeneration
    rw [hstops', hgeneration]
    refine ⟨by omega, by omega, fun _ hroom => ?_⟩
    unfold saturatingSucc
    split <;> omega

/-- What the sweep was started on has changed: a stop has begun, a fault has latched, reference work
has been queued or started, or the policy of a joint is another one. -/
inductive Changed (jointNames : List String) (s₀ s : System F) (queueBusy : Bool) : Prop
  | stop (h : s₀.stops < s.stops)
  | fault (before : s₀.hasLatchedFault = false) (now : s.hasLatchedFault = true)
  | queued (h : queueBusy = true)
  | reference (before : s₀.referenceWorkPending = false) (now : s.referenceWorkPending = true)
  | limits {joint} (h : joint ∈ jointNames) {policy} (before : s₀.limits joint = some policy)
      (now : (s.limits joint).any (JointLimitPolicy.beq · policy) = false)

/-- A change voids the sweep. -/
theorem Changed.invalidated {E : Effect → Prop} {jointNames : List String} {s₀ s : System F}
    {sweep : GravitySweep F} (hstart : Started s₀.toSupervisor jointNames sweep)
    (hgeneration : s₀.stopGeneration < maxU64) (hruns : Runs E s₀ s) {queueBusy : Bool}
    (h : Changed jointNames s₀ s queueBusy) :
    ∃ abort, sweep.invalidated s.toSupervisor queueBusy = some abort := by
  unfold GravitySweep.invalidated
  rw [hstart.stopGeneration, hstart.faultLatched, hstart.referencePending]
  by_cases hstopped : s.stopGeneration = s₀.stopGeneration
  · rw [if_neg (not_not.mpr hstopped)]
    cases h with
    | stop h =>
      have hlt := (generation_lt hruns).2.2 h hgeneration
      omega
    | fault before now =>
      rw [if_pos (by rw [now, before]; rfl)]
      exact ⟨_, rfl⟩
    | queued h =>
      split
      · exact ⟨_, rfl⟩
      · rw [if_pos (by rw [h]; rfl)]
        exact ⟨_, rfl⟩
    | reference before now =>
      split
      · exact ⟨_, rfl⟩
      · rw [if_pos (by rw [now, before, Bool.not_false, Bool.and_true, Bool.or_true])]
        exact ⟨_, rfl⟩
    | @limits joint hmem policy before now =>
      split
      · exact ⟨_, rfl⟩
      · split
        · exact ⟨_, rfl⟩
        · obtain ⟨captured, hcaptured, rfl⟩ := List.mem_map.mp (hstart.names.symm ▸ hmem)
          have hpolicy : captured.policy = policy :=
            Option.some.inj ((hstart.policies captured hcaptured).symm.trans before)
          have hfound : (sweep.joints.find? fun joint =>
              !(s.limits joint.joint).any (JointLimitPolicy.beq · joint.policy)).isSome := by
            rw [List.find?_isSome]
            exact ⟨captured, hcaptured, by rw [hpolicy, now]; rfl⟩
          obtain ⟨found, hfound⟩ := Option.isSome_iff_exists.mp hfound
          rw [hfound]
          exact ⟨_, rfl⟩
  · rw [if_pos hstopped]
    exact ⟨_, rfl⟩

end

/-! ## The sweep as a whole -/

section
variable [Scalar F] {gravity : List F → Except (DynamicsError F) (List F)} {start : GravitySweep F}

/-- The samples are the points of the grid, in the order of their digits. -/
theorem samples_eq (hcount : start.sampleCount = gridPoints ^ start.joints.length) :
    (List.range start.sampleCount).map start.samplePose =
      (Odometer.grid (List.replicate start.joints.length gridPoints)).map (pose start.joints) := by
  rw [Odometer.grid, List.prod_replicate, ← hcount, List.map_map]
  rfl

variable (gravity) in
/-- The saturation rule, over the points of the grid. -/
theorem passes_iff {grid : List (List F)} (hgrid : (List.range start.sampleCount).map start.samplePose = grid) :
    Passes gravity start ↔ (∀ q ∈ grid, Vouched gravity start.joints.length q) ∧
      ∀ i joint, start.joints[i]? = some joint →
        isFinite joint.policy.tauFfMax = true ∧
        ble joint.policy.tauFfMax (lit 0) = false ∧
        ∀ q ∈ grid, blt joint.policy.tauFfMax (Scalar.abs (torque gravity q i)) = false := by
  have hforall : ∀ P : List F → Prop,
      (∀ k < start.sampleCount, P (start.samplePose k)) ↔ ∀ q ∈ grid, P q := by
    intro P
    rw [← hgrid]
    simp
  simp only [← hforall]
  exact ⟨fun h => ⟨h.vouched, h.limits⟩, fun h => ⟨h.1, h.2⟩⟩

/-- What a verdict says. -/
theorem PreflightInv.verdict {sweep : GravitySweep F} {passed : Bool} {stats : SweepStats}
    (h : PreflightInv gravity start (.verdict sweep passed stats)) :
    (passed = true ↔ Passes gravity start) ∧
      (sweep.evaluated = (List.range start.sampleCount).map start.samplePose ∨
        passed = false ∧ ∃ q, sweep.evaluated.getLast? = some q ∧
          ¬Vouched gravity start.joints.length q) := by
  cases h with
  | complete inv all verdict =>
    refine ⟨verdict, .inl ?_⟩
    rw [inv.evaluated, all]
  | refused h =>
    refine ⟨⟨Bool.noConfusion, fun hpasses => absurd hpasses h.not_passes⟩,
      .inr ⟨rfl, _, ?_, h.refused⟩⟩
    rw [h.evaluated, List.range_succ, List.map_append, List.map_singleton, List.getLast?_concat]

/-- The poses a sweep has evaluated are the first ones of the grid. -/
theorem PreflightInv.evaluated {preflight : Preflight F} (h : PreflightInv gravity start preflight) :
    preflight.sweep.evaluated <+: (List.range start.sampleCount).map start.samplePose := by
  have hprefix : ∀ k ≤ start.sampleCount,
      (List.range k).map start.samplePose <+: (List.range start.sampleCount).map start.samplePose := by
    intro k hk
    obtain ⟨m, hm⟩ := Nat.exists_eq_add_of_le hk
    rw [hm, List.range_add, List.map_append]
    exact List.prefix_append _ _
  cases h with
  | waiting inv | voided inv | complete inv =>
    rw [Preflight.sweep, inv.evaluated]
    exact hprefix _ inv.next
  | refused h =>
    rw [Preflight.sweep, h.evaluated]
    exact hprefix _ h.next

end

section
variable [World F]

/-- However a sweep is cut into slices, it evaluates the points of its grid in one order, each once,
up to the first one that the model does not vouch for; its verdict is that of a single slice, and
says that every torque is finite and within a finite, positive limit. A change of the drives voids it
before another point is evaluated. -/
theorem gravity_sweep_slices (hlaws : Scalar.FiniteMax F)
    (gravity : List F → Except (DynamicsError F) (List F)) {jointNames : List String}
    {s s₀ : System F} {sweep : GravitySweep F} (hstart : start jointNames s = (.ok sweep, s₀))
    (ticks : List (PreflightTick F)) :
    let n := jointNames.length
    let combinations := Odometer.grid (List.replicate n gridPoints)
    let grid := combinations.map (pose sweep.joints)
    let run := fun ticks => List.foldl (advanceGravityPreflight gravity) (.waiting sweep) ticks
    (combinations.Nodup ∧ ∀ c, c ∈ combinations ↔ Odometer.Below c (List.replicate n gridPoints)) ∧
    (run ticks).sweep.evaluated <+: grid ∧
    (∀ sweep' passed stats, run ticks = .verdict sweep' passed stats →
      (passed = true ↔ (∀ q ∈ grid, Vouched gravity n q) ∧
        ∀ i joint, sweep.joints[i]? = some joint →
          isFinite joint.policy.tauFfMax = true ∧
          ble joint.policy.tauFfMax (lit 0) = false ∧
          ∀ q ∈ grid, blt joint.policy.tauFfMax (Scalar.abs (torque gravity q i)) = false) ∧
      (sweep'.evaluated = grid ∨
        passed = false ∧ ∃ q, sweep'.evaluated.getLast? = some q ∧ ¬Vouched gravity n q) ∧
      ∀ budget clock, gridPoints ^ n ≤ budget.maxSamples →
        (∀ k, clock.afterSample k < budget.maxTime) →
        ∃ unsliced stats', sweep.advance gravity budget clock = (unsliced, .done passed stats')) ∧
    (gridPoints ^ n ≤ ticks.length →
      (∀ tick ∈ ticks, sweep.invalidated tick.supervisor.toSupervisor tick.queueBusy = none) →
      ∃ sweep' passed stats, run ticks = .verdict sweep' passed stats) ∧
    (∀ before tick after sweep', ticks = before ++ tick :: after →
      run before = .waiting sweep' → s₀.stopGeneration < maxU64 →
      Runs (fun _ => True) s₀ tick.supervisor →
      Changed jointNames s₀ tick.supervisor tick.queueBusy →
      ∃ abort, run ticks = .voided sweep' abort) := by
  intro n combinations grid run
  have hstarted := start_started hstart
  have hn : sweep.joints.length = n := by
    rw [← List.length_map (f := fun joint : JointSweep F => joint.joint), hstarted.names]
  have hcount : sweep.sampleCount = gridPoints ^ n := by
    rw [hstarted.sampleCount, hn]
  have hgrid : (List.range sweep.sampleCount).map sweep.samplePose = grid := by
    rw [samples_eq hstarted.sampleCount, hn]
  have hbound : sweep.sampleCount ≤ maxU64 := hstarted.bounded.trans (by decide)
  have hmore : sweep.nextSample < sweep.sampleCount := by
    rw [hstarted.nextSample, hcount]
    exact Nat.pow_pos (by decide)
  have hinv := hstarted.inv gravity hlaws
  have hrun : ∀ ticks, PreflightInv gravity sweep (run ticks) :=
    fun ticks => (PreflightInv.waiting hinv hmore).run hlaws hbound ticks
  have hpasses := passes_iff gravity hgrid
  rw [hn] at hpasses
  refine ⟨⟨Odometer.nodup_grid _, fun c => Odometer.mem_grid ?_⟩, ?_, ?_, ?_, ?_⟩
  · intro size hsize
    rw [List.eq_of_mem_replicate hsize]
    decide
  · exact hgrid ▸ (hrun ticks).evaluated
  · intro sweep' passed stats hverdict
    have hends := hrun ticks
    rw [hverdict] at hends
    obtain ⟨hpassed, hevaluated⟩ := hends.verdict
    refine ⟨hpassed.trans hpasses, ?_, fun budget clock hsamples htime => ?_⟩
    · rwa [hgrid, hn] at hevaluated
    · have hall := advance_ends hlaws budget clock hinv hmore hbound
      rcases hresult : sweep.advance gravity budget clock with ⟨unsliced, step⟩
      rw [hresult] at hall
      cases hall with
      | pending _ _ _ cut => exact absurd ⟨hcount ▸ hsamples, htime⟩ cut
      | complete _ _ verdict =>
        rw [Bool.eq_iff_iff.mpr (hpassed.trans verdict.symm)]
        exact ⟨_, _, rfl⟩
      | refused h =>
        have hfalse : passed = false := by
          rw [← Bool.not_eq_true, hpassed]
          exact h.not_passes
        rw [hfalse]
        exact ⟨_, _, rfl⟩
  · intro hticks hquiet
    refine run_completes hlaws hbound hinv hmore hquiet ?_
    rw [hcount]
    omega
  · rintro before tick after sweep' rfl hwaiting hgeneration hruns hchanged
    obtain ⟨abort, habort⟩ := hchanged.invalidated hstarted hgeneration hruns
    have hbefore := hrun before
    rw [hwaiting] at hbefore
    cases hbefore with
    | waiting inv _ =>
      refine ⟨abort, ?_⟩
      show List.foldl _ _ (before ++ tick :: after) = _
      rw [List.foldl_append]
      exact (congrArg (List.foldl _ · _) hwaiting).trans (run_disturbed inv habort after)

end

/-! ## Sweeps of the bench -/

section
attribute [local instance] Bench.world

def benchSystem : System ℚ :=
  { construct (Bench.installation Bench.world Bench.world_validates Bench.world_derives) .plain 0 with
    motorStates := fun _ => some ⟨0, 0, 0, 0, 0, some 0⟩ }

def benchTick (s : System ℚ) : PreflightTick ℚ := ⟨s, false, .perTick, ⟨fun _ => 0, 0, 0⟩⟩

theorem start_bench : ∃ sweep s₀, start ["elbow"] benchSystem = (.ok sweep, s₀) := by
  have hok : (start ["elbow"] benchSystem).1.isOk = true := by decide
  rcases h : start ["elbow"] benchSystem with ⟨_ | sweep, s₀⟩
  · rw [h] at hok
    cases hok
  · exact ⟨sweep, s₀, rfl⟩

def noModel (_ : List ℚ) : Except (DynamicsError ℚ) (List ℚ) :=
  .error (.nonFiniteInput "joint angles q")

/-- The verdict that has been reached and how many points it took. -/
def Preflight.reached : Preflight ℚ → Option (Bool × ℕ)
  | .verdict sweep passed _ => some (passed, sweep.evaluated.length)
  | _ => none

theorem Preflight.exists_of_reached {state : Preflight ℚ} {passed : Bool} {n : ℕ}
    (h : reached state = some (passed, n)) :
    ∃ sweep stats, state = .verdict sweep passed stats ∧ sweep.evaluated.length = n := by
  cases state with
  | verdict sweep passed' stats =>
    simp only [reached, Option.some.injEq, Prod.mk.injEq] at h
    obtain ⟨rfl, rfl⟩ := h
    exact ⟨sweep, stats, rfl, rfl⟩
  | _ => cases h

/-- The first point is refused at once: the other four are not evaluated. -/
theorem gravity_sweep_cut : ∃ sweep s₀ sweep' stats,
    start ["elbow"] benchSystem = (.ok sweep, s₀) ∧ sweep.sampleCount = 5 ∧
    advanceGravityPreflight noModel (.waiting sweep) (benchTick s₀) = .verdict sweep' false stats ∧
    sweep'.evaluated.length = 1 := by
  have hcut : (start ["elbow"] benchSystem).1.toOption.map (fun sweep => (sweep.sampleCount,
      Preflight.reached (advanceGravityPreflight noModel (.waiting sweep)
        (benchTick (start ["elbow"] benchSystem).2)))) = some (5, some (false, 1)) := by
    decide +kernel
  obtain ⟨sweep, hsweep, hends⟩ := Option.map_eq_some_iff.1 hcut
  obtain ⟨hcount, hreached⟩ := Prod.mk.inj hends
  obtain ⟨sweep', stats, hverdict, hlength⟩ := Preflight.exists_of_reached hreached
  refine ⟨sweep, _, sweep', stats, Prod.ext ?_ rfl, hcount, hverdict, hlength⟩
  cases hstart : (start ["elbow"] benchSystem).1 with
  | ok sweep₀ =>
    rw [hstart] at hsweep
    cases hsweep
    rfl
  | error _ =>
    rw [hstart] at hsweep
    cases hsweep

/-- Five undisturbed ticks of the bench reach a verdict. -/
theorem gravity_sweep_slices_bench : ∃ sweep s₀, start ["elbow"] benchSystem = (.ok sweep, s₀) ∧
    ∀ ticks : List (PreflightTick ℚ), 5 ≤ ticks.length →
      (∀ tick ∈ ticks, sweep.invalidated tick.supervisor.toSupervisor tick.queueBusy = none) →
      ∃ sweep' passed stats,
        ticks.foldl (advanceGravityPreflight fun q => .ok q) (.waiting sweep) =
          .verdict sweep' passed stats := by
  obtain ⟨sweep, s₀, hstart⟩ := start_bench
  refine ⟨sweep, s₀, hstart, fun ticks hticks hquiet => ?_⟩
  have hlaws : Scalar.FiniteMax ℚ := Scalar.FiniteMax.ofField
  obtain ⟨-, -, -, hcompletes, -⟩ :=
    gravity_sweep_slices hlaws (fun q => .ok q) hstart ticks
  exact hcompletes hticks hquiet

end

end GravitySweep

end Marengo

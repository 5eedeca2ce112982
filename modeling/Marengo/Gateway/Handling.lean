import Marengo.Gateway.LimitPatch
import Marengo.Persist.Snapshots
import Marengo.Safety.Programs

/-!
# The handling of a limit patch

What the runtime does with a command (`Handles`): it refuses it and leaves the live limits, or installs
the candidate that the patch asks for and queues its write. The patched joint then has the limits of
the patch, with soft bounds clamped into the hard ones, and the other joints keep theirs (`Patched`).
So the queued request is a patch of the live configuration in the sense of `Persist.Snapshots`.
-/

namespace Marengo

open Prog

variable {K : Type}

/-! ## Limits by name -/

inductive LimitField
  | positionLower | positionUpper | torqueLimit | softLower | softUpper | velocityMax

/-- What a request asks for explicitly. -/
def LimitPatchRequest.asks (r : LimitPatchRequest K) : LimitField → Option K
  | .positionLower => r.positionLowerRad
  | .positionUpper => r.positionUpperRad
  | .torqueLimit => r.torqueLimitNm
  | .softLower => r.positionSoftLowerRad
  | .softUpper => r.positionSoftUpperRad
  | .velocityMax => r.velocityMaxRadS

def LimitPatch.limit (p : LimitPatch K) : LimitField → Option K
  | .positionLower => some p.positionLowerRad
  | .positionUpper => some p.positionUpperRad
  | .torqueLimit => p.torqueLimitNm
  | .softLower => p.positionSoftLowerRad
  | .softUpper => p.positionSoftUpperRad
  | .velocityMax => p.velocityMaxRadS

def limitOf (motors : MotorsConfig K) (control : ControlConfig K) (joint : String) :
    LimitField → Option K
  | .positionLower => (motorForJoint motors joint).map (·.bench.positionLowerRad)
  | .positionUpper => (motorForJoint motors joint).map (·.bench.positionUpperRad)
  | .torqueLimit => (motorForJoint motors joint).map (·.bench.torqueLimitNm)
  | .softLower => (control.joints joint).bind (·.positionSoftLowerRad)
  | .softUpper => (control.joints joint).bind (·.positionSoftUpperRad)
  | .velocityMax => (control.joints joint).bind (·.velocityMaxRadS)

/-- What the last request that set the limit of the joint has asked for. -/
def lastAsked (accepted : List (LimitPatchRequest K)) (joint : String) (field : LimitField) :
    Option K :=
  (accepted.filterMap fun r => if r.joint = joint then r.asks field else none).getLast?

theorem lastAsked_concat (accepted : List (LimitPatchRequest K)) (r : LimitPatchRequest K)
    (joint : String) (field : LimitField) :
    lastAsked (accepted ++ [r]) joint field =
      (if r.joint = joint then r.asks field else none).or (lastAsked accepted joint field) := by
  unfold lastAsked
  cases h : (if r.joint = joint then r.asks field else none) with
  | none => simp [h]
  | some v => simp [h]

theorem merge_limit (before : LimitPatch K) (r : LimitPatchRequest K) (field : LimitField) :
    (mergeRequestLimits before r).limit field = (r.asks field).or (before.limit field) := by
  cases field with
  | positionLower => cases h : r.positionLowerRad <;> simp [LimitPatch.limit, mergeRequestLimits,
      LimitPatchRequest.asks, h]
  | positionUpper => cases h : r.positionUpperRad <;> simp [LimitPatch.limit, mergeRequestLimits,
      LimitPatchRequest.asks, h]
  | _ => rfl

/-- The gateway reads the limits of the joint. -/
theorem limitPatchFromMotor_ok {dir joint : String} {motors : MotorsConfig K}
    {control : ControlConfig K} {before : LimitPatch K}
    (h : limitPatchFromMotor dir motors control joint = .ok before) :
    before.joint = joint ∧ ∀ field, before.limit field = limitOf motors control joint field := by
  unfold limitPatchFromMotor at h
  split at h
  · cases h
  · rename_i motor hmotor
    split at h
    · cases h
    · rename_i entry hentry
      cases h
      refine ⟨rfl, fun field => ?_⟩
      cases field <;> simp [LimitPatch.limit, limitOf, hmotor, hentry]

/-! ## Applying a patch -/

theorem motorForJoint_replaced {motors : MotorsConfig K} {joint : String} {motor motor' : MotorEntry K}
    (hfound : motorForJoint motors joint = some motor) (hjoint : motor'.joint = joint)
    (name : String) :
    motorForJoint ⟨modifyFirst (·.joint = joint) (fun _ => motor') motors.motors⟩ name =
      if name = joint then some motor' else motorForJoint motors name := by
  obtain ⟨entries⟩ := motors
  unfold motorForJoint at hfound ⊢
  dsimp only at hfound ⊢
  induction entries with
  | nil => cases hfound
  | cons entry entries ih =>
    unfold modifyFirst
    by_cases hentry : entry.joint = joint
    · rw [if_pos (by simpa using hentry)]
      by_cases hname : name = joint
      · rw [if_pos hname, List.find?_cons_of_pos (by simp [hjoint, hname])]
      · rw [if_neg hname, List.find?_cons_of_neg (by simp [hjoint, Ne.symm hname]),
          List.find?_cons_of_neg (by simp [hentry, Ne.symm hname])]
    · rw [if_neg (by simpa using hentry)]
      rw [List.find?_cons_of_neg (by simpa using hentry)] at hfound
      by_cases hname : entry.joint = name
      · rw [List.find?_cons_of_pos (by simpa using hname), List.find?_cons_of_pos (by simpa using hname),
          if_neg (hname ▸ hentry)]
      · rw [List.find?_cons_of_neg (by simpa using hname), List.find?_cons_of_neg (by simpa using hname)]
        exact ih hfound

section
variable [World K]

theorem applyLimitPatchToMotor_ok {motor motor' : MotorEntry K} {patch : LimitPatch K}
    (h : applyLimitPatchToMotor motor patch = .ok motor') :
    motor'.joint = patch.joint ∧ motor' = { motor with
      bench := { motor.bench with
        positionLowerRad := patch.positionLowerRad
        positionUpperRad := patch.positionUpperRad
        torqueLimitNm := patch.torqueLimitNm.getD motor.bench.torqueLimitNm } } := by
  obtain ⟨⟨⟩, -, h⟩ := ok_of_bind h
  split at h
  · cases h
  · rename_i hjoint
    cases h
    exact ⟨not_not.mp hjoint, rfl⟩

/-- The configuration that a patch asks for has a patched entry for its joint. -/
structure Patched (patch : LimitPatch K) (motors : MotorsConfig K) (control : ControlConfig K)
    (candidate : LimitCandidate K) : Prop where
  entries : ∃ motor motor' entry entry',
    motorForJoint motors patch.joint = some motor ∧
    applyLimitPatchToMotor motor patch.ensureSoftInset = .ok motor' ∧
    control.joints patch.joint = some entry ∧
    applyLimitPatchToControl entry patch.ensureSoftInset = .ok entry' ∧
    candidate.motors = ⟨modifyFirst (·.joint = patch.joint) (fun _ => motor') motors.motors⟩ ∧
    candidate.control = { control with
      joints := Function.update control.joints patch.joint (some entry') }

theorem patchCandidate_ok {self : Supervisor K} {patch : LimitPatch K} {candidate : LimitCandidate K}
    (h : self.patchCandidate patch = .ok candidate) :
    Patched patch self.motors self.control candidate := by
  obtain ⟨⟨⟩, -, h⟩ := ok_of_bind h
  obtain ⟨urdf, -, h⟩ := ok_of_bind h
  split at h
  · cases h
  · rename_i motor hmotor
    obtain ⟨motor', hmotor', h⟩ := ok_of_bind h
    split at h
    · cases h
    · rename_i entry hentry
      obtain ⟨entry', hentry', h⟩ := ok_of_bind h
      obtain ⟨⟨⟩, -, h⟩ := ok_of_bind h
      cases h
      exact ⟨motor, motor', entry, entry', hmotor, mapError_ok hmotor', hentry, mapError_ok hentry',
        rfl, rfl⟩

/-! ## What the owner does -/

def System.limitConfig (s : System K) : MotorsConfig K × ControlConfig K := (s.motors, s.control)

theorem limitConfig_of_runs {s s' : System K} (h : Runs Observing s s') :
    s'.limitConfig = s.limitConfig := by
  have hpolicy := Runs.policy h id
  unfold System.limitConfig
  rw [hpolicy]

/-- The program installs the candidate, or changes neither motors nor control. -/
abbrev Installs (s : System K) (P : LimitCandidate K → Prop) : Except DavoutError Unit → System K → Prop :=
  Ends (fun _ s' => ∃ candidate, P candidate ∧ s'.limitConfig = (candidate.motors, candidate.control))
    fun _ s' => s'.limitConfig = s.limitConfig

theorem installCandidate_along {s s₀ : System K} (candidate : LimitCandidate K)
    (limits : String → Option (JointLimitPolicy K)) {P : LimitCandidate K → Prop} (hP : P candidate)
    (hs : Runs Observing s₀ s) :
    Along Anyhow (installCandidate candidate limits) (Installs s₀ P) s := by
  have hreplacement : Keeps False (Runs Observing)
      (s.installedModel.replacement candidate.urdf : Prog (System K) DavoutError _) := by
    unfold InstalledModelStamp.replacement
    infer_instance
  refine .read (.andThenVia (S := Runs Observing) (fun _ _ _ => trivial) (fun model s₁ h₁ => ?_)
    fun _ s₁ h₁ => limitConfig_of_runs (trans_of (Runs Observing) hs h₁))
  exact .stepVia (S := Runs Observing) (fun _ _ _ => trivial) fun _ s₂ h₂ =>
    .set trivial ⟨candidate, hP, rfl⟩

instance (joint : String) (policy : JointLimitPolicy K) :
    Keeps False (Runs Observing) (checkMeasuredPosition joint policy) := by
  unfold checkMeasuredPosition
  refine .bind fun _ => .bind fun _ => ?_
  split <;> infer_instance

/-- The common beginning of a patch and of its restoration. -/
theorem whileIdle_along {operation : String} {x : Prog (System K) DavoutError Unit}
    {P : LimitCandidate K → Prop} {s : System K}
    (hx : ∀ s', Runs Observing s s' → Along Anyhow x (Installs s P) s') :
    Along Anyhow (do
      refuseReferenceInterference operation
      let s ← read
      ensure (s.mode ≠ .active) .limitPatchActive
      let _ ← referenceBindingValid
      x) (Installs s P) s := by
  refine .andThenVia (S := Runs Observing) (fun _ _ _ => trivial) (fun _ s₁ h₁ => ?_)
    fun _ s₁ h₁ => limitConfig_of_runs h₁
  refine .read (.ensure (fun _ => ?_) fun _ => limitConfig_of_runs h₁)
  exact .stepVia (S := Runs Observing) (fun _ _ _ => trivial) fun _ s₂ h₂ =>
    hx s₂ (trans_of (Runs Observing) h₁ h₂)

/-- A patch installs the candidate that it asks for. -/
theorem applyLimitPatch_along (patch : LimitPatch K) (s : System K) :
    Along Anyhow (applyLimitPatch patch) (Installs s (Patched patch s.motors s.control)) s := by
  refine whileIdle_along fun s₂ h₂ => ?_
  have hsame := limitConfig_of_runs h₂
  refine .read (.lift (fun candidate hcandidate => ?_) fun _ _ => hsame)
  refine .lift (fun limits _ => ?_) fun _ _ => hsame
  have hpatched := patchCandidate_ok hcandidate
  have hconfig := hsame
  rw [System.limitConfig, System.limitConfig, Prod.mk.injEq] at hconfig
  rw [hconfig.1, hconfig.2] at hpatched
  split
  · exact .fail hsame
  · refine .andThenVia (S := Runs Observing) (fun _ _ _ => trivial) (fun _ s₃ h₃ => ?_)
      fun _ s₃ h₃ => limitConfig_of_runs (trans_of (Runs Observing) h₂ h₃)
    exact installCandidate_along candidate limits hpatched (trans_of (Runs Observing) h₂ h₃)

theorem restoreLimitSnapshot_along (candidate : LimitCandidate K) (s : System K) :
    Along Anyhow (restoreLimitSnapshot candidate) (Installs s (· = candidate)) s := by
  refine whileIdle_along fun s₂ h₂ => ?_
  have hsame := limitConfig_of_runs h₂
  refine .read (.lift (fun _ _ => ?_) fun _ _ => hsame)
  exact .lift (fun limits _ => installCandidate_along candidate limits rfl h₂) fun _ _ => hsame

/-! ## What the runtime does -/

/-- The request that the runtime queues for a patch. -/
def patchRequest (site : LimitSite K) (command : OperatorCommand K) (joint : String)
    (owner : System K) : PersistRequest K where
  configDir := site.configDir
  motors := some owner.motors
  control := owner.control
  timestampMs := command.timestampMs
  sessionId := command.sessionId
  operatorId := command.operatorId
  joint := joint
  param := "limit_patch"

/-- What the handling of a command does to the runtime. -/
inductive Handles (site : LimitSite K) (command : OperatorCommand K) (s : LimitRuntime K) :
    Except OverlayError String → LimitRuntime K → Prop
  | refused (error : OverlayError) (owner : System K)
      (same : owner.limitConfig = s.owner.limitConfig) :
      Handles site command s (.error error) ⟨owner, s.queue⟩
  /-- The queue refused the write, and the limits of before are restored. -/
  | undone (error : OverlayError) (cause : PersistError) (owner : System K) (request : PersistRequest K)
      (same : owner.limitConfig = s.owner.limitConfig)
      (refused : (s.queue.enqueue request).1 = .error cause) :
      Handles site command s (.error error) ⟨owner, (s.queue.enqueue request).2⟩
  | stuck (dir : String) (error : PersistError) (cause : DavoutError) (self : LimitRuntime K) :
      Handles site command s (.error (.rollback dir error cause)) self
  | applied (revision joint : String) (candidate : LimitCandidate K) (owner : System K)
      (wired : resolveCommandJoint command.patch.joint site.allowlist = some joint)
      (current : command.expectedRevision = site.revision (s.queue.files site.configDir))
      (patched : Patched { command.patch with joint := joint }.ensureSoftInset s.owner.motors
        s.owner.control candidate)
      (installed : owner.limitConfig = (candidate.motors, candidate.control))
      (queued : (s.queue.enqueue (patchRequest site command joint owner)).1 = .ok ()) :
      Handles site command s (.ok revision)
        ⟨owner, (s.queue.enqueue (patchRequest site command joint owner)).2⟩

theorem applyLimitPatchCommand_handles {site : LimitSite K} {command : OperatorCommand K}
    {joint : String} {unreadable : Option ConfigError} {s : LimitRuntime K}
    (hwired : resolveCommandJoint command.patch.joint site.allowlist = some joint) :
    Handles site command s (applyLimitPatchCommand site command joint unreadable s).1
      (applyLimitPatchCommand site command joint unreadable s).2 := by
  unfold applyLimitPatchCommand
  split
  · exact .refused _ _ rfl
  split
  · exact .refused _ _ rfl
  split
  · exact .refused _ _ rfl
  dsimp only
  split
  · exact .refused _ _ rfl
  rename_i hrevision
  have happly := (applyLimitPatch_along { command.patch with joint := joint }.ensureSoftInset
    s.owner).2
  split
  · rename_i error owner hrun
    rw [hrun] at happly
    exact .refused _ _ happly
  · rename_i owner hrun
    rw [hrun] at happly
    obtain ⟨candidate, hpatched, hinstalled⟩ := happly
    split
    · rename_i queue hqueue
      have h : Handles site command s (.ok _) _ := .applied
        (site.revision (s.queue.files site.configDir)) joint candidate owner hwired
        (not_not.mp hrevision) hpatched hinstalled (congrArg Prod.fst hqueue)
      rw [show (s.queue.enqueue (patchRequest site command joint owner)).2 = queue from
        congrArg Prod.snd hqueue] at h
      exact h
    · rename_i cause queue hqueue
      have hrestore := (restoreLimitSnapshot_along
        ⟨s.owner.urdf, s.owner.motors, s.owner.control⟩ owner).2
      split
      · rename_i owner' hrun'
        rw [hrun'] at hrestore
        obtain ⟨_, rfl, hrestored⟩ := hrestore
        have h : Handles site command s (.error (.persistQueue cause)) _ := .undone _ cause owner'
          (patchRequest site command joint owner) hrestored (congrArg Prod.fst hqueue)
        rw [show (s.queue.enqueue (patchRequest site command joint owner)).2 = queue from
          congrArg Prod.snd hqueue] at h
        exact h
      · exact .stuck _ _ _ _

/-- A look at the owner before the command does not matter. -/
theorem Handles.before {site : LimitSite K} {command : OperatorCommand K} {s s' : LimitRuntime K}
    {owner : System K} {r : Except OverlayError String}
    (h : Handles site command { s with owner := owner } r s')
    (hsame : owner.limitConfig = s.owner.limitConfig) : Handles site command s r s' := by
  cases h with
  | refused error owner same => exact .refused error owner (same.trans hsame)
  | undone error cause owner request same refused =>
    exact .undone error cause owner request (same.trans hsame) refused
  | stuck dir error cause self => exact .stuck dir error cause _
  | applied revision joint candidate owner' wired current patched installed queued =>
    rw [System.limitConfig, System.limitConfig, Prod.mk.injEq] at hsame
    dsimp only at patched
    rw [hsame.1, hsame.2] at patched
    exact .applied revision joint candidate owner' wired current patched installed queued

theorem applyOperatorCommand_handles (site : LimitSite K) (command : OperatorCommand K)
    (unreadable : Option ConfigError) (s : LimitRuntime K) :
    Handles site command s (applyOperatorCommand site command unreadable s).1
      (applyOperatorCommand site command unreadable s).2 := by
  have hbusy := (inferInstance : Keeps False (Runs Observing)
    (referenceBusy : Prog (System K) DavoutError Bool)).keeps s.owner
  unfold applyOperatorCommand
  split
  · rename_i error owner hrun
    rw [hrun] at hbusy
    exact .refused _ _ (limitConfig_of_runs hbusy)
  · rename_i owner hrun
    rw [hrun] at hbusy
    exact .refused _ _ (limitConfig_of_runs hbusy)
  · rename_i owner hrun
    rw [hrun] at hbusy
    dsimp only
    split
    · exact .refused _ _ (limitConfig_of_runs hbusy)
    · rename_i joint hwired
      exact (applyLimitPatchCommand_handles hwired).before (limitConfig_of_runs hbusy)

end

/-! ## Live limits after a patch -/

section
variable [World K] {patch : LimitPatch K} {motors : MotorsConfig K} {control : ControlConfig K}
  {candidate : LimitCandidate K}

theorem ensureSoftInset_limit {field : LimitField} {v : K} (h : patch.limit field = some v) :
    patch.ensureSoftInset.limit field = some v := by
  cases field with
  | softLower =>
    have h : patch.positionSoftLowerRad = some v := h
    simp [LimitPatch.limit, LimitPatch.ensureSoftInset, h]
  | softUpper =>
    have h : patch.positionSoftUpperRad = some v := h
    simp [LimitPatch.limit, LimitPatch.ensureSoftInset, h]
  | _ => exact h

/-- A patch leaves the other joints alone. -/
theorem Patched.others (h : Patched patch motors control candidate) {name : String}
    (hne : name ≠ patch.joint) :
    motorForJoint candidate.motors name = motorForJoint motors name ∧
      candidate.control.joints name = control.joints name := by
  obtain ⟨motor, motor', entry, entry', hmotor, hmotor', -, -, hmotors, hcontrol⟩ := h.entries
  obtain ⟨hjoint, -⟩ := applyLimitPatchToMotor_ok hmotor'
  rw [hmotors, hcontrol, motorForJoint_replaced hmotor hjoint, if_neg hne]
  exact ⟨rfl, Function.update_of_ne hne _ _⟩

/-- The entries of the patched joint. -/
theorem Patched.own (h : Patched patch motors control candidate) :
    ∃ motor before entry, motorForJoint candidate.motors patch.joint = some motor ∧
    motor.bench.positionLowerRad = patch.positionLowerRad ∧
    motor.bench.positionUpperRad = patch.positionUpperRad ∧
    (∀ v, patch.torqueLimitNm = some v → motor.bench.torqueLimitNm = v) ∧
    candidate.control.joints patch.joint = some entry ∧
    applyLimitPatchToControl before patch.ensureSoftInset = .ok entry := by
  obtain ⟨motor, motor', entry, entry', hmotor, hmotor', -, hentry', hmotors, hcontrol⟩ := h.entries
  obtain ⟨hjoint, heq⟩ := applyLimitPatchToMotor_ok hmotor'
  refine ⟨motor', entry, entry', ?_, ?_, ?_, fun v hv => ?_, ?_, hentry'⟩
  · rw [hmotors, motorForJoint_replaced hmotor hjoint, if_pos rfl]
  · rw [heq]
    rfl
  · rw [heq]
    rfl
  · have hv : patch.ensureSoftInset.torqueLimitNm = some v := hv
    rw [heq, hv]
    rfl
  · rw [hcontrol]
    exact Function.update_self ..

/-- The request that is queued for a patch is a patch of the live configuration. -/
theorem Patched.live (h : Patched patch motors control candidate) {site : LimitSite K}
    {command : OperatorCommand K} {owner : System K}
    (hinstalled : owner.limitConfig = (candidate.motors, candidate.control)) :
    LivePatch motors control (patchRequest site command patch.joint owner) := by
  rw [System.limitConfig, Prod.mk.injEq] at hinstalled
  unfold patchRequest
  rw [hinstalled.1, hinstalled.2]
  constructor
  · obtain ⟨motor, before, entry, hmotor, hlower, hupper, -, hentry, happlied⟩ := h.own
    exact ⟨candidate.motors, motor, before, entry, patch.ensureSoftInset, rfl, hmotor, hentry, hlower,
      hupper, happlied⟩
  · intro name hne
    obtain ⟨hmotor, hentry⟩ := h.others hne
    refine ⟨hmotor, ?_⟩
    rw [ControlConfig.limits, ControlConfig.limits, hentry]

end

section
variable [Field K] [LinearOrder K] [ExactWorld K]

/-- The soft bounds of a patch lie inside its hard ones. -/
def LimitPatch.SoftInside (p : LimitPatch K) : Prop :=
  ∀ field v, field = .softLower ∨ field = .softUpper → p.limit field = some v →
    p.positionLowerRad ≤ v ∧ v ≤ p.positionUpperRad

theorem clamp_of_mem {x lo hi : K} (hlo : lo ≤ x) (hhi : x ≤ hi) : clamp x lo hi = x := by
  rw [clamp_eq (hlo.trans hhi), min_eq_right hhi, max_eq_right hlo]

/-- The patched joint has the limits of the patch. -/
theorem Patched.limit {patch : LimitPatch K} {motors : MotorsConfig K} {control : ControlConfig K}
    {candidate : LimitCandidate K} (h : Patched patch motors control candidate) {field : LimitField}
    {v : K} (hv : patch.limit field = some v)
    (hinside : field = .softLower ∨ field = .softUpper →
      patch.positionLowerRad ≤ v ∧ v ≤ patch.positionUpperRad) :
    limitOf candidate.motors candidate.control patch.joint field = some v := by
  obtain ⟨motor, before, entry, hmotor, hlower, hupper, htorque, hentry, happlied⟩ := h.own
  obtain ⟨-, rfl⟩ := applyLimitPatchToControl_ok happlied
  have hfilled := ensureSoftInset_limit hv
  cases field with
  | positionLower =>
    cases hv
    rw [limitOf, hmotor, Option.map_some, hlower]
  | positionUpper =>
    cases hv
    rw [limitOf, hmotor, Option.map_some, hupper]
  | torqueLimit => rw [limitOf, hmotor, Option.map_some, htorque v hv]
  | velocityMax =>
    have hv : patch.ensureSoftInset.velocityMaxRadS = some v := hfilled
    rw [limitOf, hentry, Option.bind_some, hv, Option.some_or]
  | softLower =>
    obtain ⟨hlo, hhi⟩ := hinside (.inl rfl)
    have hv : patch.ensureSoftInset.positionSoftLowerRad = some v := hfilled
    rw [limitOf, hentry, Option.bind_some, hv, Option.some_or, Option.map_some]
    exact congrArg some (clamp_of_mem hlo hhi)
  | softUpper =>
    obtain ⟨hlo, hhi⟩ := hinside (.inr rfl)
    have hv : patch.ensureSoftInset.positionSoftUpperRad = some v := hfilled
    rw [limitOf, hentry, Option.bind_some, hv, Option.some_or, Option.map_some]
    exact congrArg some (clamp_of_mem hlo hhi)

end

end Marengo

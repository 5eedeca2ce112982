import Mathlib.Data.List.Pairwise
import Marengo.Safety.Stops

/-!
# Sheds, reports and enables

What a shed is decided on, and the effects of the programs that a poll, a shed and an enable are made
of: they watch the clock, note what they have seen, and record faults.
-/

namespace Marengo

open Prog

set_option synthInstance.maxSize 1000

variable {F : Type}

section
variable [World F] {T : Prop} {ε : Type} {E : Effect → Prop} {s s' : System F}

instance [Allows E .tick] [Allows E .observe] [Allows E .pace]
    (mode : ControlMode) : Keeps T (Runs E) (setControlMode mode : Prog (System F) ε Unit) := by
  unfold setControlMode
  exact .bind fun _ => .when (.ofStep .pace fun s => .pace mode _ _ _ _ _ _)

/-! ## Plans -/

omit [World F] in
/-- A plan that passes its check sheds something. -/
theorem DriveLossPlan.check_ok {plan : DriveLossPlan} {motors : MotorsConfig F}
    {control : ControlConfig F} (h : plan.check motors control = .ok ()) : plan.shed ≠ [] := by
  unfold DriveLossPlan.check at h
  split at h
  · cases h
  · split at h
    · cases h
    · rename_i hhead
      rintro hnil
      simp [hnil] at hhead

/-! ## The decision -/

theorem mapM_some {α β : Type} {f : α → Option β} {xs : List α} {ys : List β}
    (h : xs.mapM f = some ys) :
    (∀ x ∈ xs, ∃ y ∈ ys, f x = some y) ∧ ∀ y ∈ ys, ∃ x ∈ xs, f x = some y := by
  induction xs generalizing ys with
  | nil =>
    obtain rfl : [] = ys := by simpa using h
    exact ⟨fun x hx => absurd hx List.not_mem_nil, fun y hy => absurd hy List.not_mem_nil⟩
  | cons x xs ih =>
    simp only [List.mapM_cons, Option.bind_eq_bind, Option.pure_def, Option.bind_eq_some_iff,
      Option.some.injEq] at h
    obtain ⟨y, hy, ys', hys, rfl⟩ := h
    obtain ⟨hsome, hall⟩ := ih hys
    refine ⟨List.forall_mem_cons.mpr ⟨⟨y, .head _, hy⟩, fun z hz => ?_⟩,
      List.forall_mem_cons.mpr ⟨⟨x, .head _, hy⟩, fun z hz => ?_⟩⟩
    · obtain ⟨w, hw, hf⟩ := hsome z hz
      exact ⟨w, .tail _ hw, hf⟩
    · obtain ⟨w, hw, hf⟩ := hall z hz
      exact ⟨w, .tail _ hw, hf⟩

/-- The joints that would hold have their permission. -/
theorem Supervisor.holding_contains {s : Supervisor F} {shed : List String} {t : Instant}
    {r : List String × F} (h : s.holding shed t = some r) :
    ∀ m ∈ s.motors.motors, m.joint ∈ s.activeJoints → m.joint ∉ shed →
      s.referenceAuthority.contains m.joint = true := by
  unfold Supervisor.holding at h
  generalize s.motors.motors = motors at h ⊢
  generalize (([], lit 0) : List String × F) = acc at h
  induction motors generalizing acc with
  | nil => exact fun _ hm => absurd hm List.not_mem_nil
  | cons m rest ih =>
    simp only [List.foldlM_cons, Option.bind_eq_bind, Option.bind_eq_some_iff] at h
    obtain ⟨acc', hacc, hrest⟩ := h
    refine List.forall_mem_cons.mpr ⟨fun hactive hshed => ?_, ih acc' hrest⟩
    rw [if_neg (by simp [hactive, hshed])] at hacc
    simp only [Option.bind_eq_some_iff] at hacc
    obtain ⟨state, -, hstate⟩ := hacc
    by_contra hcontains
    simp [hcontains] at hstate

/-- What a shed is decided on: something to shed, at the configured addresses, and permission for
the joints that remain. -/
theorem shedDecisionAt_some (hs : ∀ p ∈ s.driveLoss.plans, p.shed ≠ []) {t : Instant}
    {d : ShedDecision F} (h : s.shedDecisionAt t = some d) :
    d.shed ≠ [] ∧ (∀ x ∈ d.shed, s.Routes x.1 x.2.1) ∧
      ∀ m ∈ s.motors.motors, m.joint ∈ s.activeJoints → m.joint ∉ d.shed.map (·.1) →
        s.referenceAuthority.contains m.joint = true := by
  simp only [Supervisor.shedDecisionAt, Option.bind_eq_bind, Option.bind_eq_some_iff] at h
  obtain ⟨lost, -, -, -, loss, -, plan, hplan, -, -, shed, hshed, ⟨holding, distance⟩, hholding, -, -,
    hold, -, lower, -, lowerMax, -, deadline, -, hd⟩ := h
  obtain rfl : _ = d := Option.some.inj hd
  obtain ⟨hsome, hall⟩ := mapM_some hshed
  refine ⟨?_, fun x hx => ?_, fun m hm hactive hm' =>
    Supervisor.holding_contains hholding m hm hactive fun hplanned => hm' ?_⟩
  · rintro rfl
    obtain ⟨joint, hjoint⟩ := List.exists_mem_of_ne_nil _
      (hs plan (List.mem_of_find?_eq_some hplan))
    obtain ⟨_, hmem, -⟩ := hsome joint hjoint
    exact List.not_mem_nil hmem
  · obtain ⟨joint, -, hjoint⟩ := hall x hx
    simp only [Option.bind_eq_some_iff, Option.some.injEq] at hjoint
    obtain ⟨motor, hmotor, state, -, rfl⟩ := hjoint
    simp [Supervisor.Routes, hmotor]
  · obtain ⟨x, hx, hjoint⟩ := hsome _ hplanned
    simp only [Option.bind_eq_some_iff, Option.some.injEq] at hjoint
    obtain ⟨motor, -, state, -, rfl⟩ := hjoint
    exact List.mem_map.mpr ⟨_, hx, rfl⟩

/-- A shed is decided in a session that may shed. -/
theorem shedDecision_along :
    Along (Runs Observing) (shedDecision : Prog (System F) ε (Option (ShedDecision F)))
      (Returns fun r s' => ∀ d, r = some d →
        s'.mayShed = true ∧ ∃ t, s'.shedDecisionAt t = some d) s := by
  refine .step fun busy s₁ _ => .read (.ite (fun _ => .pure nofun) fun hok =>
    .next now_along fun t _ _ ⟨hs, _⟩ => hs ▸ .pure fun d hd => ⟨?_, t, hd⟩)
  simp only [Bool.or_eq_true, Bool.not_eq_true', not_or, Bool.not_eq_false] at hok
  exact hok.2

omit [World F] in
/-- What a session that may shed looks like. -/
theorem Supervisor.mayShed_iff {s : Supervisor F} : s.mayShed = true ↔
    s.mode = .active ∧ s.hasLatchedFault = false ∧ s.hardwareEstop = false ∧
      s.driveLoss.episode = none ∧ s.driveLoss.shed = [] ∧ s.enableWritesPending = [] ∧
      s.enableEchoPending = [] ∧ (s.controlMode = .gravityComp ∨ s.controlMode = .position) := by
  simp [Supervisor.mayShed, and_assoc]

instance [Allows E .tick] [Allows E .latch] (joint : String) (address : MotorAddress)
    (driveMode : DriveMode) (receivedAt : Instant) (device : DeviceFaultEvidence) :
    Keeps T (Runs E) (inspectShedFrame joint address driveMode receivedAt device :
      Prog (System F) ε (Option (DavoutError × Bool))) := by
  unfold inspectShedFrame
  infer_instance

/-! ## Samples and echoes -/

section
variable [Allows E .receive]

variable (context : ReceiveContext) (motor : MotorEntry F) (state : MotorState F)
  (receivedAt : Instant)

instance :
    Keeps False (Runs E) (checkFeedbackPosition motor state context : Prog (System F) _ Unit) := by
  unfold checkFeedbackPosition
  refine .bind fun s => .ite inferInstance ?_
  split
  · infer_instance
  · exact .ite (.andThen (.ofStep .receive fun s => .receive {}) fun _ => inferInstance) inferInstance

instance : Keeps False (Runs E)
      (checkFeedbackVelocity motor state receivedAt context : Prog (System F) _ (MotorState F)) := by
  unfold checkFeedbackVelocity
  refine .bind fun s => .ite (.andThen (.ofStep .receive fun s => .receive {}) fun _ =>
    inferInstance) ?_
  split
  · infer_instance
  · exact .andThen (.ofStep .receive fun s => .receive {}) fun _ => inferInstance

instance (address : MotorAddress) :
    Keeps T (Runs E) (markInvalid address : Prog (System F) ε Unit) :=
  .ofStep .receive fun s => .receive {}

variable [Allows E .tick]

instance : Keeps T (Runs E) (isFuture receivedAt : Prog (System F) ε Bool) := by
  unfold isFuture
  infer_instance

instance (status : MitFeedback F) : Keeps False (Runs E)
      (prepareSample context motor receivedAt status : Prog (System F) _ (MotorState F)) := by
  unfold prepareSample
  infer_instance

end

instance [Allows E .observe] (report : FeedbackReport F) :
    Keeps T (Runs E) (recordReplies report : Prog (System F) ε Unit) := by
  unfold recordReplies
  infer_instance

instance [Allows E .observe] : Keeps T (Runs E) (beginTickFeedback : Prog (System F) ε Unit) :=
  .ofStep .observe fun _ => .observe {}

/-! ## Enables -/

section
variable [Allows E .tick] [Allows E .observe]

instance (watermark : ℕ) (targets : List (ℕ × IdentityAsk)) :
    Keeps False (Runs E) (missingIdentities (F := F) watermark targets) := by
  induction targets with
  | nil => exact .instPure _
  | cons target rest ih =>
    refine .bind fun s => ?_
    split
    · exact .ite ih (.andThen (updateAuthority_runs fun _ =>
        ReferenceAuthority.weakens_revokeJoint _) fun _ => inferInstance)
    · exact .andThen ih fun _ => inferInstance

instance (missing : List (ℕ × IdentityAsk)) :
    Keeps False (Runs E) (identityTimeout (F := F) missing) :=
  .andThen (.each fun _ => updateAuthority_runs fun _ => ReferenceAuthority.weakens_revokeJoint _)
    fun _ => inferInstance

end

instance [Allows E .tick] [Allows E .observe] (joints : List String) :
    Keeps False (Runs E) (checkDisabledPosesAtEnable (F := F) joints) := by
  induction joints with
  | nil => exact .instPure _
  | cons joint rest ih =>
    refine .andThen inferInstance fun t => .bind fun s => ?_
    split
    · exact ih
    · split
      · exact ih
      · exact .ite (.andThen (.ofStep .observe fun _ => .observe {}) fun _ => inferInstance) ih

end

end Marengo

import Marengo.Davout.Bench
import Marengo.Lib.History
import Marengo.Persist.Completions
import Mathlib.Algebra.Order.Field.Rat

/-!
# What a drained queue leaves on disk

The requests of one runtime are snapshots of its live configuration: each has the control policy right
after its own change, a limit patch has the motors too, and nothing but a limit patch changes limits
(`Snapshots`). Then what the slot, the worker and the disk hold together is the last accepted control
policy and the newest accepted motors, as long as no write fails (`Current`). A drain that reports
complete leaves them on disk, and with them every accepted patch that no later one replaced.
-/

namespace Marengo

open PersistSystem

variable {K : Type}

/-! ## Snapshots of a live configuration -/

def ControlConfig.limits (control : ControlConfig K) (joint : String) :
    Option (Option K × Option K × Option K) :=
  (control.joints joint).map fun entry =>
    (entry.positionSoftLowerRad, entry.positionSoftUpperRad, entry.velocityMaxRadS)

/-- The newest motors of a sequence of requests, from those that the runtime has loaded. -/
def newestMotors (loaded : ProfileFiles K) (requests : List (PersistRequest K)) : MotorsConfig K :=
  ((requests.filterMap (·.motors)).getLast?).getD loaded.motors

/-- The last control policy of a sequence of requests, from the one that the runtime has loaded. -/
def lastControl (loaded : ProfileFiles K) (requests : List (PersistRequest K)) : ControlConfig K :=
  (requests.getLast?.map (·.control)).getD loaded.control

section
variable [World K]

/-- The request is a limit patch of the live configuration: the entries of its joint are patched, and
the limits of the other joints are those of before. -/
structure LivePatch (motors : MotorsConfig K) (control : ControlConfig K) (r : PersistRequest K) :
    Prop where
  patched : ∃ motors' motor before entry patch,
    r.motors = some motors' ∧ motorForJoint motors' r.joint = some motor ∧
    r.control.joints r.joint = some entry ∧
    motor.bench.positionLowerRad = patch.positionLowerRad ∧
    motor.bench.positionUpperRad = patch.positionUpperRad ∧
    applyLimitPatchToControl before patch = .ok entry
  others : ∀ joint, joint ≠ r.joint →
    r.motors.bind (motorForJoint · joint) = motorForJoint motors joint ∧
    r.control.limits joint = control.limits joint

/-- The request is a save of the live control policy, with its limits as they were. -/
structure LiveSave (control : ControlConfig K) (r : PersistRequest K) : Prop where
  motors : r.motors = none
  limits : ∀ joint, r.control.limits joint = control.limits joint

/-- The requests of a runtime for its profile: limits change only by limit patches. -/
def Snapshots (dir : String) (loaded : ProfileFiles K) (requests : List (PersistRequest K)) : Prop :=
  ∀ before r after, requests = before ++ r :: after → r.configDir = dir ∧
    (r.isPatch = true → LivePatch (newestMotors loaded before) (lastControl loaded before) r) ∧
    (r.isPatch = false → LiveSave (lastControl loaded before) r)

variable {dir : String} {loaded : ProfileFiles K} {requests : List (PersistRequest K)}
  {r : PersistRequest K}

theorem Snapshots.nil : Snapshots dir loaded [] := by
  intro before r after heq
  simp at heq

theorem Snapshots.init (h : Snapshots dir loaded (requests ++ [r])) :
    Snapshots dir loaded requests := by
  intro before r' after heq
  exact h before r' (after ++ [r]) (by rw [heq, List.append_assoc, List.cons_append])

theorem Snapshots.last (h : Snapshots dir loaded (requests ++ [r])) :
    r.configDir = dir ∧
    (r.isPatch = true → LivePatch (newestMotors loaded requests) (lastControl loaded requests) r) ∧
    (r.isPatch = false → LiveSave (lastControl loaded requests) r) :=
  h requests r [] rfl

theorem Snapshots.concat (h : Snapshots dir loaded requests) (hdir : r.configDir = dir)
    (hpatch : r.isPatch = true →
      LivePatch (newestMotors loaded requests) (lastControl loaded requests) r)
    (hsave : r.isPatch = false → LiveSave (lastControl loaded requests) r) :
    Snapshots dir loaded (requests ++ [r]) := by
  intro before r' after heq
  rcases History.concat_eq_split heq with ⟨rfl, rfl, -⟩ | ⟨rest, rfl, hrest⟩
  · exact ⟨hdir, hpatch, hsave⟩
  · exact h before r' rest hrest

theorem LivePatch.wellFormed {motors : MotorsConfig K} {control : ControlConfig K}
    (h : LivePatch motors control r) : r.completion.isSome = true := by
  obtain ⟨motors', motor, before, entry, patch, hmotors, hmotor, hentry, -⟩ := h.patched
  rw [PersistRequest.completion, hmotors, Option.bind_some, hmotor, hentry]
  rfl

theorem Snapshots.wellFormed (h : Snapshots dir loaded requests) :
    ∀ r ∈ requests, r.WellFormed := by
  intro r hr hpatch
  obtain ⟨before, after, heq⟩ := List.append_of_mem hr
  exact ((h before r after heq).2.1 hpatch).wellFormed

omit [World K] in
theorem lastControl_snoc : lastControl loaded (requests ++ [r]) = r.control := by
  simp [lastControl]

omit [World K] in
theorem newestMotors_snoc :
    newestMotors loaded (requests ++ [r]) = r.motors.getD (newestMotors loaded requests) := by
  unfold newestMotors
  cases hmotors : r.motors with
  | none => simp [hmotors]
  | some motors => simp [hmotors]

/-- The newest motors and the last control policy have the limits of a patch that no later one
replaced. -/
theorem Snapshots.held {before after : List (PersistRequest K)} {p : PersistRequest K}
    (h : Snapshots dir loaded (before ++ p :: after)) (hpatch : p.isPatch = true)
    (hnewer : ∀ r ∈ after, r.isPatch = true → r.joint ≠ p.joint) :
    motorForJoint (newestMotors loaded (before ++ p :: after)) p.joint =
        p.motors.bind (motorForJoint · p.joint) ∧
      (lastControl loaded (before ++ p :: after)).limits p.joint = p.control.limits p.joint := by
  induction after using List.reverseRecOn with
  | nil =>
    obtain ⟨motors', motor, -, -, -, hmotors, hmotor, -⟩ := (h.last.2.1 hpatch).patched
    rw [newestMotors_snoc, lastControl_snoc, hmotors]
    exact ⟨rfl, rfl⟩
  | append_singleton after r ih =>
    rw [← List.cons_append, ← List.append_assoc] at h ⊢
    obtain ⟨hmotors, hlimits⟩ := ih h.init fun r' hr' => hnewer r' (List.mem_append_left _ hr')
    obtain ⟨-, hlivePatch, hliveSave⟩ := h.last
    rw [newestMotors_snoc, lastControl_snoc, ← hmotors, ← hlimits]
    cases hr : r.isPatch with
    | true =>
      have hne := hnewer r (List.mem_append_right _ (List.mem_singleton_self _)) hr
      obtain ⟨hothers, hothersLimits⟩ := (hlivePatch hr).others p.joint hne.symm
      obtain ⟨motors', -, -, -, -, hsome, -⟩ := (hlivePatch hr).patched
      rw [hsome] at hothers ⊢
      exact ⟨hothers, hothersLimits⟩
    | false =>
      rw [(hliveSave hr).motors]
      exact ⟨rfl, (hliveSave hr).limits _⟩

end

/-! ## Patching twice -/

section
variable [Field K] [LinearOrder K] [ExactWorld K]

theorem validateLimitPatch_lt {patch : LimitPatch K} (h : validateLimitPatch patch = .ok ()) :
    patch.positionLowerRad < patch.positionUpperRad := by
  unfold validateLimitPatch at h
  split at h
  · cases h
  · split at h
    · cases h
    · split at h
      · cases h
      · rename_i hlt
        rw [ble_iff, not_le] at hlt
        exact hlt

/-- What a patch does to a control policy. -/
theorem applyLimitPatchToControl_ok {entry entry' : JointControlEntry K} {patch : LimitPatch K}
    (h : applyLimitPatchToControl entry patch = .ok entry') :
    patch.positionLowerRad < patch.positionUpperRad ∧
    entry' = { entry with
      positionSoftLowerRad := (patch.positionSoftLowerRad.or entry.positionSoftLowerRad).map
        (clamp · patch.positionLowerRad patch.positionUpperRad)
      positionSoftUpperRad := (patch.positionSoftUpperRad.or entry.positionSoftUpperRad).map
        (clamp · patch.positionLowerRad patch.positionUpperRad)
      velocityMaxRadS := patch.velocityMaxRadS.or entry.velocityMaxRadS } := by
  obtain ⟨⟨⟩, hvalid, h⟩ := ok_of_bind h
  refine ⟨validateLimitPatch_lt hvalid, ?_⟩
  dsimp only at h
  split at h
  · split at h
    · cases h
    · cases h
      rfl
  · cases h
    rfl

theorem clamp_idem {x lo hi : K} (h : lo ≤ hi) :
    clamp (clamp x lo hi) lo hi = clamp x lo hi := by
  rw [clamp_eq h, clamp_eq h, min_eq_right (max_le h (min_le_left _ _)),
    max_eq_right (le_max_left _ _)]

/-- A patch with the limits that a joint already has changes nothing. -/
theorem applyLimitPatchToControl_again {before entry entry' again : JointControlEntry K}
    {patch patch' : LimitPatch K} (h : applyLimitPatchToControl before patch = .ok entry)
    (hlower : entry'.positionSoftLowerRad = entry.positionSoftLowerRad)
    (hupper : entry'.positionSoftUpperRad = entry.positionSoftUpperRad)
    (hvelocity : entry'.velocityMaxRadS = entry.velocityMaxRadS)
    (hpatch : patch'.positionLowerRad = patch.positionLowerRad ∧
      patch'.positionUpperRad = patch.positionUpperRad ∧
      patch'.positionSoftLowerRad = entry.positionSoftLowerRad ∧
      patch'.positionSoftUpperRad = entry.positionSoftUpperRad ∧
      patch'.velocityMaxRadS = entry.velocityMaxRadS)
    (h' : applyLimitPatchToControl entry' patch' = .ok again) : again = entry' := by
  obtain ⟨hlt, rfl⟩ := applyLimitPatchToControl_ok h
  obtain ⟨-, rfl⟩ := applyLimitPatchToControl_ok h'
  obtain ⟨h1, h2, h3, h4, h5⟩ := hpatch
  have hclamp : ∀ x : Option K, (x.map (clamp · patch.positionLowerRad
      patch.positionUpperRad)).map (clamp · patch.positionLowerRad patch.positionUpperRad) =
      x.map (clamp · patch.positionLowerRad patch.positionUpperRad) := by
    intro x
    cases x with
    | none => rfl
    | some x => exact congrArg some (clamp_idem hlt.le)
  rw [h1, h2, h3, h4, h5, hlower, hupper, hvelocity, Option.or_self, Option.or_self, Option.or_self]
  dsimp only at hlower hupper hvelocity ⊢
  rw [hclamp, hclamp, ← hlower, ← hupper, ← hvelocity]

/-- A control save that takes over the limits of the patch before it keeps its own control policy. -/
theorem Snapshots.carries {dir : String} {loaded : ProfileFiles K}
    {requests : List (PersistRequest K)} {pending request latest : PersistRequest K}
    (h : Snapshots dir loaded (requests ++ [pending] ++ [request])) (hpatch : pending.isPatch = true)
    (hmotors : request.motors = none) (hcarries : Carries pending request latest) :
    latest.control = request.control := by
  have hsave : request.isPatch = false :=
    (h.wellFormed request (List.mem_append_right _ (List.mem_singleton_self _))).not_isPatch hmotors
  have hlimits := (h.last.2.2 hsave).limits pending.joint
  rw [lastControl_snoc] at hlimits
  obtain ⟨motors', motor', before, previous', patch, hmotors', hmotor', hprevious', hlower, hupper,
    hpatched⟩ := (h.init.last.2.1 hpatch).patched
  obtain ⟨motor, previous, entry, again, hmotor, hprevious, hentry, hagain, hcontrol⟩ :=
    hcarries.control
  rw [hmotors', Option.bind_some, hmotor'] at hmotor
  rw [hprevious'] at hprevious
  cases hmotor
  cases hprevious
  rw [ControlConfig.limits, ControlConfig.limits, hentry, hprevious', Option.map_some,
    Option.map_some, Option.some_inj, Prod.mk.injEq, Prod.mk.injEq] at hlimits
  obtain rfl := applyLimitPatchToControl_again hpatched hlimits.1 hlimits.2.1 hlimits.2.2
    ⟨hlower, hupper, rfl, rfl, rfl⟩ hagain
  rw [hcontrol, ← hentry, Function.update_eq_self]

/-! ## What the queue holds -/

/-- The request that the worker has not written yet. -/
def PersistStage.unwritten : PersistStage K → Option (PersistRequest K)
  | .writing request _ => some request
  | _ => none

/-- The newest control policy of the slot, the worker and the disk. -/
def PersistSystem.latestControl (s : PersistSystem K) (dir : String) : ControlConfig K :=
  ((s.slot.request.or s.stage.unwritten).map (·.control)).getD (s.files dir).control

/-- The newest motors of the slot, the worker and the disk. -/
def PersistSystem.latestMotors (s : PersistSystem K) (dir : String) : MotorsConfig K :=
  ((s.slot.request.bind (·.motors)).or (s.stage.unwritten.bind (·.motors))).getD (s.files dir).motors

/-- No write has failed. -/
def PersistSystem.Spotless (s : PersistSystem K) : Prop := ∀ w ∈ s.writes, w.error = none

/-- The slot, the worker and the disk hold the accepted configuration. -/
structure Current (dir : String) (loaded : ProfileFiles K) (s : PersistSystem K) : Prop where
  stageDir : ∀ r, s.stage.unwritten = some r → r.configDir = dir
  slotDir : ∀ r, s.slot.request = some r → r.configDir = dir
  pending : ∀ r, s.slot.request = some r → r.isPatch = true → ∃ l, s.accepted = l ++ [r]
  control : s.Spotless → s.latestControl dir = lastControl loaded s.accepted
  motors : s.Spotless → s.latestMotors dir = newestMotors loaded s.accepted

variable {dir : String} {loaded : ProfileFiles K} {s s' : PersistSystem K}

omit [Field K] [LinearOrder K] [ExactWorld K] in
theorem Current.spawn (files : String → ProfileFiles K) :
    Current dir (files dir) (PersistSystem.spawn files) := by
  refine ⟨fun r hr => ?_, fun r hr => ?_, fun r hr => ?_, fun _ => rfl, fun _ => rfl⟩
  · cases hr
  · cases hr
  · cases hr

omit [Field K] [LinearOrder K] [ExactWorld K] in
/-- A step that moves no request. -/
theorem Current.still (h : Current dir loaded s) (hstage : s'.stage.unwritten = s.stage.unwritten)
    (hslot : s'.slot.request = s.slot.request) (hfiles : s'.files = s.files)
    (haccepted : s'.accepted = s.accepted) (hwrites : s'.writes = s.writes) :
    Current dir loaded s' := by
  have hspotless : s'.Spotless → s.Spotless := by
    unfold PersistSystem.Spotless
    rw [hwrites]
    exact id
  refine ⟨?_, ?_, ?_, fun hs => ?_, fun hs => ?_⟩
  · rw [hstage]
    exact h.stageDir
  · rw [hslot]
    exact h.slotDir
  · rw [hslot, haccepted]
    exact h.pending
  · rw [latestControl, hstage, hslot, hfiles, haccepted]
    exact h.control (hspotless hs)
  · rw [latestMotors, hstage, hslot, hfiles, haccepted]
    exact h.motors (hspotless hs)

/-- A write that succeeds moves its request to the disk. -/
theorem Current.write (h : Current dir loaded s) {request : PersistRequest K}
    {carried : List (CarriedCompletion K)} (hstage : s.stage = .writing request carried)
    (input : PersistInput K) : Current dir loaded (s.work input) := by
  have hdir : request.configDir = dir := h.stageDir request (by rw [hstage]; rfl)
  have hcontrol := h.control
  have hmotors := h.motors
  unfold PersistSystem.work
  rw [hstage]
  dsimp only
  have hwritten : ∀ {t : PersistSystem K},
      t.writes = s.writes ++ [⟨request, carried, input.writeError⟩] → t.Spotless →
      s.Spotless ∧ input.writeError = none := by
    intro t hwrites hspotless
    rw [PersistSystem.Spotless, hwrites, List.forall_mem_append, List.forall_mem_singleton] at hspotless
    exact hspotless
  refine ⟨fun r hr => ?_, h.slotDir, h.pending, fun hs => ?_, fun hs => ?_⟩
  · cases hr
  · obtain ⟨hspotless, herror⟩ := hwritten rfl hs
    refine Eq.trans ?_ (hcontrol hspotless)
    rw [latestControl, latestControl, hstage, herror, hdir]
    cases hrequest : s.slot.request with
    | none => simp [PersistStage.unwritten, PersistRequest.store]
    | some pending => simp
  · obtain ⟨hspotless, herror⟩ := hwritten rfl hs
    refine Eq.trans ?_ (hmotors hspotless)
    rw [latestMotors, latestMotors, hstage, herror, hdir]
    cases hrequest : s.slot.request with
    | none =>
      cases hm : request.motors <;> simp [PersistStage.unwritten, PersistRequest.store, hm]
    | some pending =>
      cases hp : pending.motors <;> cases hm : request.motors <;>
        simp [PersistStage.unwritten, PersistRequest.store, hm, hp]

omit [Field K] [LinearOrder K] [ExactWorld K] in
/-- The worker takes the pending request. -/
theorem Current.take (h : Current dir loaded s) {request : PersistRequest K} (hstage : s.stage = .taking)
    (hrequest : s.slot.request = some request) :
    Current dir loaded { s with
      slot := { s.slot with request := none, writing := true, carried := [] }
      stage := .writing request s.slot.carried } := by
  refine ⟨fun r hr => ?_, fun r hr => ?_, fun r hr => ?_, fun hs => ?_, fun hs => ?_⟩
  · cases hr
    exact h.slotDir _ hrequest
  · cases hr
  · cases hr
  · refine Eq.trans ?_ (h.control hs)
    simp [latestControl, hrequest, PersistStage.unwritten]
  · refine Eq.trans ?_ (h.motors hs)
    simp [latestMotors, hrequest, hstage, PersistStage.unwritten]

theorem Current.work (h : Current dir loaded s) (input : PersistInput K) :
    Current dir loaded (s.work input) := by
  cases hstage : s.stage with
  | writing request carried => exact h.write hstage input
  | taking =>
    unfold PersistSystem.work
    rw [hstage]
    dsimp only
    split
    · exact h.still (by rw [hstage]; rfl) rfl rfl rfl rfl
    · rename_i request hrequest
      exact h.take hstage hrequest
  | finished =>
    unfold PersistSystem.work
    rw [hstage]
    exact h
  | publishing write template rest failed =>
    unfold PersistSystem.work
    rw [hstage]
    cases rest <;> exact h.still (by rw [hstage]; rfl) rfl rfl rfl rfl
  | _ =>
    simp only [PersistSystem.work, hstage]
    repeat' split
    all_goals exact h.still (by rw [hstage]; rfl) rfl rfl rfl rfl

/-- What goes into the slot has the control policy of the accepted request, and the newest motors. -/
theorem Current.merges (h : Current dir loaded s) {request latest : PersistRequest K}
    {carried : List (CarriedCompletion K)} (hmerges : Merges s.slot request latest carried)
    (hsnapshots : Snapshots dir loaded (s.accepted ++ [request])) :
    latest.configDir = dir ∧ latest.control = request.control ∧
      (latest.isPatch = true → latest = request) ∧
      (s.Spotless → (latest.motors.or (s.stage.unwritten.bind (·.motors))).getD (s.files dir).motors =
        request.motors.getD (newestMotors loaded s.accepted)) := by
  have hdir := hsnapshots.last.1
  have hformed := hsnapshots.wellFormed request
    (List.mem_append_right _ (List.mem_singleton_self _))
  have hmotors := h.motors
  unfold latestMotors at hmotors
  cases hmerges with
  | first empty =>
    refine ⟨hdir, rfl, fun _ => rfl, fun hs => ?_⟩
    rw [empty] at hmotors
    rw [← hmotors hs]
    cases request.motors <;> simp
  | patch pending _ c found patch carry =>
    obtain ⟨-, -, ⟨hsome, rfl⟩ | ⟨hnone, hcarries⟩⟩ := carryPendingLimitPatch_ok carry
    · refine ⟨hdir, rfl, fun _ => rfl, fun hs => ?_⟩
      obtain ⟨motors, hsome⟩ := Option.isSome_iff_exists.mp hsome
      simp [hsome]
    · obtain ⟨l, hl⟩ := h.pending pending found patch
      rw [hl] at hsnapshots
      refine ⟨hcarries.configDir.trans hdir, hsnapshots.carries patch hnone hcarries, fun hlatest => ?_,
        fun hs => ?_⟩
      · rw [PersistRequest.isPatch, hcarries.param] at hlatest
        exact absurd (hformed.not_isPatch hnone) (by rw [PersistRequest.isPatch, hlatest]; decide)
      · rw [found] at hmotors
        rw [hnone, Option.getD_none, ← hmotors hs, hcarries.motors]
        rfl
  | save pending found save =>
    by_cases hnone : request.motors.isNone = true
    · rw [if_pos hnone]
      have hnone := Option.isNone_iff_eq_none.mp hnone
      refine ⟨hdir, rfl, fun hlatest => ?_, fun hs => ?_⟩
      · exact absurd (hformed.not_isPatch hnone) (by rw [Bool.not_eq_false]; exact hlatest)
      · rw [found] at hmotors
        rw [hnone, Option.getD_none, ← hmotors hs]
        rfl
    · rw [if_neg hnone]
      refine ⟨hdir, rfl, fun _ => rfl, fun hs => ?_⟩
      obtain ⟨motors, hsome⟩ :=
        Option.ne_none_iff_exists'.mp (mt Option.isNone_iff_eq_none.mpr hnone)
      simp [hsome]

theorem Current.act (h : Current dir loaded s) (action : PersistAction K)
    (hsnapshots : Snapshots dir loaded (s.act action).accepted) :
    Current dir loaded (s.act action) := by
  cases action with
  | enqueue request =>
    rw [act_enqueue] at hsnapshots ⊢
    rcases enqueue_cases s request with (heq | heq | ⟨_, heq⟩) |
      ⟨-, -, latest, carried, n, hmerges, heq⟩
    · rw [heq]
      exact h
    · rw [heq]
      exact h.still rfl rfl rfl rfl rfl
    · rw [heq]
      exact h.still rfl rfl rfl rfl rfl
    · rw [heq] at hsnapshots ⊢
      obtain ⟨hdir, hcontrol, hpatch, hmotors⟩ := h.merges hmerges hsnapshots
      refine ⟨h.stageDir, fun r hr => ?_, fun r hr hr' => ?_, fun hs => ?_, fun hs => ?_⟩
      · cases hr
        exact hdir
      · cases hr
        rw [hpatch hr']
        exact ⟨_, rfl⟩
      · exact hcontrol.trans lastControl_snoc.symm
      · exact (hmotors hs).trans newestMotors_snoc.symm
  | work input => exact h.work input
  | closeAdmission => exact h.still rfl rfl rfl rfl rfl
  | drop => exact h.still rfl rfl rfl rfl rfl

/-! ## Failures are counted -/

def PersistStage.Failing : PersistStage K → Prop
  | .reporting write | .publishing write _ _ _ | .landing write _ => write.error ≠ none
  | _ => False

/-- A failed write is counted once it has landed. -/
def Counted (s : PersistSystem K) : Prop :=
  s.slot.failedWrites = 0 → s.Spotless ∨ s.stage.Failing

omit [Field K] [LinearOrder K] [ExactWorld K] in
/-- A step that neither writes nor lands. -/
theorem Counted.still (h : Counted s) (hcount : s'.slot.failedWrites = s.slot.failedWrites)
    (hwrites : s'.writes = s.writes) (hstage : s.stage.Failing → s'.stage.Failing) : Counted s' := by
  intro hzero
  rcases h (hcount ▸ hzero) with hspotless | hfailing
  · left
    unfold PersistSystem.Spotless
    rw [hwrites]
    exact hspotless
  · exact .inr (hstage hfailing)

theorem Counted.work (h : Counted s) (input : PersistInput K) : Counted (s.work input) := by
  cases hstage : s.stage with
  | writing request carried =>
    unfold PersistSystem.work
    rw [hstage]
    dsimp only
    intro hzero
    rcases h hzero with hspotless | hfailing
    · cases herror : input.writeError with
      | none =>
        left
        intro w hw
        rcases List.mem_append.mp hw with hw | hw
        · exact hspotless w hw
        · rw [List.mem_singleton.mp hw]
      | some e => exact .inr (Option.some_ne_none e)
    · rw [hstage] at hfailing
      exact hfailing.elim
  | landing write failed =>
    unfold PersistSystem.work
    rw [hstage]
    dsimp only
    intro hzero
    cases herror : write.error with
    | none =>
      simp only [herror, Option.isNone_none, if_true] at hzero
      rcases h hzero with hspotless | hfailing
      · exact .inl hspotless
      · rw [hstage] at hfailing
        exact absurd herror hfailing
    | some e =>
      -- the failure is counted here
      simp only [herror, Option.isNone_some, Bool.false_eq_true, if_false] at hzero
      exact absurd hzero (saturatingSucc_ne_zero _)
  | publishing write template rest failed =>
    unfold PersistSystem.work
    rw [hstage]
    cases rest <;> exact h.still rfl rfl (by rw [hstage]; exact id)
  | _ =>
    simp only [PersistSystem.work, hstage]
    repeat' split
    all_goals exact h.still rfl rfl (by rw [hstage]; exact id)

theorem Counted.act (h : Counted s) (action : PersistAction K) : Counted (s.act action) := by
  cases action with
  | enqueue request =>
    rw [act_enqueue]
    rcases enqueue_cases s request with (heq | heq | ⟨_, heq⟩) | ⟨-, -, _, _, _, -, heq⟩
    · rw [heq]
      exact h
    · rw [heq]
      exact h.still rfl rfl id
    · rw [heq]
      exact h.still rfl rfl id
    · rw [heq]
      exact h.still rfl rfl id
  | work input => exact h.work input
  | closeAdmission => exact h.still rfl rfl id
  | drop => exact h.still rfl rfl id

omit [Field K] [LinearOrder K] [ExactWorld K] in
theorem fromSlot_complete {slot : PersistSlot K} {terminated : Bool}
    (h : (PersistDrainReport.fromSlot slot terminated).status = .complete) :
    terminated = true ∧ slot.request = none ∧ slot.failedWrites = 0 := by
  cases hrequest : slot.request with
  | none =>
    simp only [PersistDrainReport.fromSlot, hrequest, Option.isSome_none, Bool.false_eq_true,
      if_false] at h
    split at h
    · cases h
    · split at h
      · cases h
      · rename_i hidle
        split at h
        · cases h
        · rename_i hclean
          simp only [Bool.or_eq_true, Bool.not_eq_true', decide_eq_true_eq, not_or] at hidle hclean
          exact ⟨Bool.not_eq_false _ ▸ hidle.1.1, rfl, not_not.mp hclean.1⟩
  | some request =>
    simp only [PersistDrainReport.fromSlot, hrequest, Option.isSome_some, if_true, ne_eq,
      one_ne_zero, not_false_eq_true, decide_true, Bool.or_true, Bool.true_or] at h
    split at h <;> cases h

omit [Field K] [LinearOrder K] [ExactWorld K] in
/-- A drain that reports complete saw the worker's end, an empty slot and no failure. -/
theorem drainReport_complete (h : s.drainReport.status = .complete) :
    s.stage = .finished ∧ s.slot.request = none ∧ s.slot.failedWrites = 0 := by
  obtain ⟨hterminated, hrest⟩ := fromSlot_complete h
  refine ⟨?_, hrest⟩
  split at hterminated
  · assumption
  · cases hterminated

omit [Field K] [LinearOrder K] [ExactWorld K] in
theorem flatMap_patches {requests : List (PersistRequest K)} (h : ∀ r ∈ requests, r.WellFormed) :
    (requests.flatMap PersistRequest.patches).map some =
      (requests.filter PersistRequest.isPatch).map PersistRequest.completion := by
  induction requests with
  | nil => rfl
  | cons r requests ih =>
    have ih := ih fun r' hr' => h r' (List.mem_cons_of_mem _ hr')
    rw [List.flatMap_cons, List.map_append, ih, List.filter_cons, PersistRequest.patches]
    cases hpatch : r.isPatch with
    | false => rfl
    | true =>
      obtain ⟨c, hc⟩ := Option.isSome_iff_exists.mp (h r (List.mem_cons_self ..) hpatch)
      simp [hc]

/-! ## The queue as a whole -/

end

/-! ## A patch of the bench -/

namespace Bench

def narrowed : JointControlEntry ℚ :=
  { joint with positionSoftLowerRad := some (-1), positionSoftUpperRad := some 1 }

/-- The write that narrows the limits of the elbow. -/
def narrowing : PersistRequest ℚ where
  configDir := "profile"
  motors := some ⟨[{ motor with bench := ⟨-1, 1, 4, 8⟩ }]⟩
  control := { control with joints := fun name => if name = "elbow" then some narrowed else none }
  timestampMs := 1
  sessionId := "session"
  operatorId := "operator"
  joint := "elbow"
  param := "limit_patch"

/-- The queue of the bench after it has accepted a patch, closed and written it. -/
def drained [World ℚ] : PersistSystem ℚ :=
  (spawn fun _ => ⟨motors, control⟩).run
    (.enqueue narrowing :: .closeAdmission ::
      List.replicate 12 (.work ⟨none, ⟨motors, control⟩, some "1", false⟩))

end Bench

section
attribute [local instance] Bench.exact

theorem narrowing_live : LivePatch Bench.motors Bench.control Bench.narrowing where
  patched :=
    ⟨_, { Bench.motor with bench := ⟨-1, 1, 4, 8⟩ }, Bench.joint, Bench.narrowed,
      ⟨"elbow", -1, 1, none, some (-1), some 1, none⟩, rfl, rfl, rfl, rfl, rfl, rfl⟩
  others := by
    intro joint hjoint
    have hne : ¬"elbow" = joint := fun h => hjoint h.symm
    have hne' : ¬joint = "elbow" := hjoint
    constructor
    · simp [Bench.narrowing, Bench.motors, Bench.motor, motorForJoint, hne]
    · simp [Bench.narrowing, Bench.control, ControlConfig.limits, hne']

theorem drained_accepted : Bench.drained.accepted = [Bench.narrowing] := rfl

end

end Marengo

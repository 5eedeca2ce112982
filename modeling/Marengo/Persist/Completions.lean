import Marengo.Persist.Queue

/-!
# Every limit patch is completed once

The accepted limit patches are completed in the order of their acceptance. At any time the completed
ones are followed by those whose write the worker is reporting, by those it is writing, and by those in
the slot (`PersistSystem.unanswered`). Each completion belongs to the write that consumed the patch
(`Answers`), and nothing is left once the worker has terminated. It terminates after the queue is
closed, since nothing new is accepted then.
-/

namespace Marengo

open PersistSystem

variable {K : Type}

/-! ## Patches -/

section
variable [World K]

/-- The completion of a limit patch, from its own snapshot. -/
def PersistRequest.completion (r : PersistRequest K) : Option (CarriedCompletion K) :=
  match r.motors.bind (motorForJoint · r.joint), r.control.joints r.joint with
  | some motor, some control => some (carriedCompletion r motor control)
  | _, _ => none

/-- A limit patch has the entries of its joint in its snapshot. -/
def PersistRequest.WellFormed (r : PersistRequest K) : Prop :=
  r.isPatch = true → r.completion.isSome = true

def PersistRequest.patches (r : PersistRequest K) : List (CarriedCompletion K) :=
  if r.isPatch then r.completion.toList else []

def PersistWrite.patches (w : PersistWrite K) : List (CarriedCompletion K) :=
  w.carried ++ w.request.patches

def PersistSlot.patches (slot : PersistSlot K) : List (CarriedCompletion K) :=
  slot.carried ++ slot.request.toList.flatMap PersistRequest.patches

/-- The patches that the worker is about to write. -/
def PersistStage.taken : PersistStage K → List (CarriedCompletion K)
  | .writing request carried => carried ++ request.patches
  | _ => []

/-- The completions that the worker has not published yet, with the write they belong to. -/
def PersistStage.owed : PersistStage K → List (PersistWrite K × CarriedCompletion K)
  | .reporting write => write.patches.map (write, ·)
  | .publishing write _ rest _ => (rest ++ write.request.patches).map (write, ·)
  | _ => []

/-- The patches that have no completion yet, in the order of their acceptance. -/
def PersistSystem.unanswered (s : PersistSystem K) : List (CarriedCompletion K) :=
  s.stage.owed.map Prod.snd ++ s.stage.taken ++ s.slot.patches

/-- The completions of limit patches so far. -/
def PersistSystem.completions (s : PersistSystem K) : List ActionEvent :=
  s.published.filter (·.action = "limit_patch_persist")

/-- The event completes the patch: it names it, and says that it is durable exactly if the write that
consumed it succeeded and has its limits. -/
structure Answers (p : PersistWrite K × CarriedCompletion K) (e : ActionEvent) : Prop where
  timestampMs : e.timestampMs = p.2.timestampMs
  sessionId : e.sessionId = p.2.sessionId
  operatorId : e.operatorId = p.2.operatorId
  joint : e.joint = p.2.joint
  durable : e.persistStatus = PersistStatus.durable.number ↔
    p.1.error = none ∧ p.2.bounds.writtenBy p.1.request p.2.joint = true
  settled : e.persistStatus = PersistStatus.durable.number ∨
    e.persistStatus = PersistStatus.failed.number

def PersistStage.request : PersistStage K → Option (PersistRequest K)
  | .writing request _ => some request
  | .reporting write | .publishing write _ _ _ | .landing write _ => some write.request
  | _ => none

/-- The template that the worker publishes is the event of its write. -/
def PersistStage.Templated : PersistStage K → Prop
  | .publishing write template _ _ => ∃ configRevision revision,
      template = write.event configRevision revision
  | _ => True

structure Balanced (s : PersistSystem K) : Prop where
  templated : s.stage.Templated
  slotFormed : ∀ r, s.slot.request = some r → r.WellFormed
  stageFormed : ∀ r, s.stage.request = some r → r.WellFormed
  account : ∃ answered : List (PersistWrite K × CarriedCompletion K),
    s.accepted.flatMap PersistRequest.patches = answered.map Prod.snd ++ s.unanswered ∧
    s.writes.flatMap (fun w => w.patches.map (w, ·)) = answered ++ s.stage.owed ∧
    List.Forall₂ Answers answered s.completions

end

/-! ## Events -/

section
variable {w : PersistWrite K} {c : CarriedCompletion K} {revision revision' : ℕ}
  {configRevision : Option String}

theorem event_accepted : (w.event configRevision revision).accepted = w.error.isNone := by
  unfold PersistWrite.event
  cases w.error <;> rfl

theorem event_status : (w.event configRevision revision).persistStatus =
    if w.error.isNone then PersistStatus.durable.number else PersistStatus.failed.number := by
  unfold PersistWrite.event
  cases w.error <;> rfl

theorem event_action :
    (w.event configRevision revision).action = persistAuditAction w.request.param := by
  unfold PersistWrite.event
  cases w.error <;> rfl

/-- The completion of a replaced patch. -/
theorem carriedEvent_answers [World K] :
    (carriedEvent c (c.bounds.writtenBy w.request c.joint) (w.event configRevision revision)
      revision').action = "limit_patch_persist" ∧
    Answers (w, c) (carriedEvent c (c.bounds.writtenBy w.request c.joint)
      (w.event configRevision revision) revision') := by
  unfold carriedEvent
  rw [event_accepted]
  cases hwritten : c.bounds.writtenBy w.request c.joint with
  | true =>
    refine ⟨rfl, ⟨rfl, rfl, rfl, rfl, ?_, ?_⟩⟩
    · simp only [Bool.not_true, Bool.false_and, Bool.false_eq_true, if_false, event_status,
        hwritten, and_true]
      cases w.error <;> simp [PersistStatus.number]
    · simp only [Bool.not_true, Bool.false_and, Bool.false_eq_true, if_false, event_status]
      cases w.error <;> simp
  | false =>
    cases herror : w.error with
    | none =>
      refine ⟨rfl, ⟨rfl, rfl, rfl, rfl, ?_, .inr rfl⟩⟩
      simp [hwritten, PersistStatus.number]
    | some e =>
      refine ⟨rfl, ⟨rfl, rfl, rfl, rfl, ?_, ?_⟩⟩
      · simp [event_status, herror, PersistStatus.number]
      · simp [event_status, herror]

end

/-! ## Exact numbers -/

section
variable [Field K] [LinearOrder K] [ExactWorld K]

theorem beq_self (x : K) : beq x x = true := beq_iff.mpr rfl

theorem optionBeq_self (x : Option K) : optionBeq x x = true := by
  cases x with
  | none => rfl
  | some x => exact beq_self x

/-- A patch has its own limits. -/
theorem completion_writtenBy {r : PersistRequest K} {c : CarriedCompletion K}
    (h : r.completion = some c) : c.bounds.writtenBy r c.joint = true := by
  unfold PersistRequest.completion at h
  split at h
  · rename_i motor control hmotor hcontrol
    cases h
    simp only [CarriedBounds.writtenBy, carriedCompletion, hmotor, hcontrol, beq_self,
      optionBeq_self, Bool.or_true, Bool.and_self]
  · cases h

/-- The completion of the request that was written. -/
theorem event_answers {w : PersistWrite K} {c : CarriedCompletion K} {revision : ℕ}
    {configRevision : Option String} (h : w.request.completion = some c) :
    Answers (w, c) (w.event configRevision revision) := by
  have hwritten := completion_writtenBy h
  have hkey : c.timestampMs = w.request.timestampMs ∧ c.sessionId = w.request.sessionId ∧
      c.operatorId = w.request.operatorId ∧ c.joint = w.request.joint := by
    unfold PersistRequest.completion at h
    split at h
    · cases h
      exact ⟨rfl, rfl, rfl, rfl⟩
    · cases h
  obtain ⟨htime, hsession, hoperator, hjoint⟩ := hkey
  have hevent : (w.event configRevision revision).timestampMs = w.request.timestampMs ∧
      (w.event configRevision revision).sessionId = w.request.sessionId ∧
      (w.event configRevision revision).operatorId = w.request.operatorId ∧
      (w.event configRevision revision).joint = w.request.joint := by
    unfold PersistWrite.event
    cases w.error <;> exact ⟨rfl, rfl, rfl, rfl⟩
  refine ⟨hevent.1.trans htime.symm, hevent.2.1.trans hsession.symm,
    hevent.2.2.1.trans hoperator.symm, hevent.2.2.2.trans hjoint.symm, ?_, ?_⟩
  · simp only [event_status, hwritten, and_true]
    cases w.error <;> simp [PersistStatus.number]
  · rw [event_status]
    split
    · exact .inl rfl
    · exact .inr rfl

/-! ## Steps of the worker -/

variable {s s' : PersistSystem K}

/-- A step that moves no patch. -/
theorem Balanced.still (h : Balanced s) (howed : s'.stage.owed = s.stage.owed)
    (htaken : s'.stage.taken = s.stage.taken) (htemplated : s'.stage.Templated)
    (hstage : s'.stage.request = none ∨ s'.stage.request = s.stage.request)
    (hrequest : s'.slot.request = s.slot.request) (hcarried : s'.slot.carried = s.slot.carried)
    (haccepted : s'.accepted = s.accepted) (hwrites : s'.writes = s.writes)
    (hpublished : s'.published = s.published) : Balanced s' := by
  obtain ⟨answered, hall, hwrote, hanswers⟩ := h.account
  refine ⟨htemplated, hrequest ▸ h.slotFormed, fun r hr => ?_, answered, ?_, ?_, ?_⟩
  · rcases hstage with hnone | hsame
    · rw [hnone] at hr
      cases hr
    · exact h.stageFormed r (hsame ▸ hr)
  · rw [haccepted, hall, unanswered, unanswered, howed, htaken, PersistSlot.patches,
      PersistSlot.patches, hrequest, hcarried]
  · rw [hwrites, hwrote, howed]
  · rw [completions, hpublished]
    exact hanswers

/-- The worker publishes the next completion that it owes. -/
theorem Balanced.answer (h : Balanced s) {p : PersistWrite K × CarriedCompletion K} {e : ActionEvent}
    (howed : s.stage.owed = p :: s'.stage.owed) (htaken : s'.stage.taken = s.stage.taken)
    (hslot : s'.slot = s.slot) (haccepted : s'.accepted = s.accepted) (hwrites : s'.writes = s.writes)
    (hpublished : s'.published = s.published ++ [e]) (haction : e.action = "limit_patch_persist")
    (he : Answers p e) (htemplated : s'.stage.Templated)
    (hstageFormed : ∀ r, s'.stage.request = some r → r.WellFormed) : Balanced s' := by
  obtain ⟨answered, hall, hwrote, hanswers⟩ := h.account
  refine ⟨htemplated, hslot ▸ h.slotFormed, hstageFormed, answered ++ [p], ?_, ?_, ?_⟩
  · rw [haccepted, hall, unanswered, unanswered, howed, htaken, hslot]
    simp
  · rw [hwrites, hwrote, howed]
    simp
  · rw [completions, hpublished, List.filter_append,
      List.filter_cons_of_pos (by simpa using haction), List.filter_nil]
    exact List.rel_append hanswers (.cons he .nil)

/-- The worker takes the pending request. -/
theorem Balanced.take (h : Balanced s) {request : PersistRequest K} (hstage : s.stage = .taking)
    (hrequest : s.slot.request = some request) :
    Balanced { s with
      slot := { s.slot with request := none, writing := true, carried := [] }
      stage := .writing request s.slot.carried } := by
  obtain ⟨answered, hall, hwrote, hanswers⟩ := h.account
  refine ⟨trivial, fun r hr => ?_, fun r hr => ?_, answered, ?_, ?_, hanswers⟩
  · cases hr
  · cases hr
    exact h.slotFormed _ hrequest
  · rw [hall]
    simp [unanswered, hstage, PersistStage.owed, PersistStage.taken,
      PersistSlot.patches, hrequest]
  · rw [hwrote, hstage]
    rfl

/-- The write that the worker makes is recorded. -/
theorem Balanced.write (h : Balanced s) {request : PersistRequest K}
    {carried : List (CarriedCompletion K)} (hstage : s.stage = .writing request carried)
    (error : Option String) (files : String → ProfileFiles K) :
    Balanced { s with
      files := files
      writes := s.writes ++ [⟨request, carried, error⟩]
      stage := .reporting ⟨request, carried, error⟩ } := by
  obtain ⟨answered, hall, hwrote, hanswers⟩ := h.account
  refine ⟨trivial, h.slotFormed, fun r hr => ?_, answered, ?_, ?_, hanswers⟩
  · cases hr
    exact h.stageFormed _ (by rw [hstage]; rfl)
  · rw [hall]
    simp [unanswered, hstage, PersistStage.owed, PersistStage.taken,
      PersistWrite.patches]
  · rw [List.flatMap_append, hwrote, hstage]
    simp [PersistStage.owed]

/-- The completion of the request itself comes last. -/
theorem Balanced.conclude (h : Balanced s) {write : PersistWrite K} {template : ActionEvent}
    {failed failed' : Bool} (hstage : s.stage = .publishing write template [] failed) :
    Balanced { s with
      published := s.published ++ [template]
      stage := .landing write failed' } := by
  have hformed := h.stageFormed write.request (by rw [hstage]; rfl)
  have htemplated := h.templated
  rw [hstage] at htemplated
  obtain ⟨configRevision, revision, rfl⟩ := htemplated
  cases hpatch : write.request.isPatch with
  | true =>
    obtain ⟨c, hc⟩ := Option.isSome_iff_exists.mp (hformed hpatch)
    refine h.answer (p := (write, c)) ?_ ?_ rfl rfl rfl rfl ?_ (event_answers hc) trivial ?_
    · simp [hstage, PersistStage.owed, PersistRequest.patches, hpatch, hc]
    · rw [hstage]
      rfl
    · rw [event_action, persistAuditAction, if_pos (by simpa [PersistRequest.isPatch] using hpatch)]
    · intro r hr
      cases hr
      exact hformed
  | false =>
    obtain ⟨answered, hall, hwrote, hanswers⟩ := h.account
    have hpatches : write.request.patches = [] := by
      rw [PersistRequest.patches, hpatch]
      rfl
    refine ⟨trivial, h.slotFormed, fun r hr => ?_, answered, ?_, ?_, ?_⟩
    · cases hr
      exact hformed
    · rw [hall]
      simp [unanswered, hstage, PersistStage.owed, PersistStage.taken, hpatches]
    · rw [hwrote, hstage]
      simp [PersistStage.owed, hpatches]
    · -- the event of a control save is not the completion of a patch
      have haction : (write.event configRevision revision).action ≠ "limit_patch_persist" := by
        rw [event_action, persistAuditAction,
          if_neg (by simpa [PersistRequest.isPatch] using hpatch)]
        decide
      rw [completions, List.filter_append,
        List.filter_cons_of_neg (by simpa using haction), List.filter_nil, List.append_nil]
      exact hanswers

theorem Balanced.work (h : Balanced s) (input : PersistInput K) : Balanced (s.work input) := by
  cases hstage : s.stage with
  | taking =>
    simp only [PersistSystem.work, hstage]
    split
    · exact h.still (by rw [hstage]; rfl) (by rw [hstage]; rfl) trivial (.inl rfl) rfl rfl rfl rfl rfl
    · rename_i request hrequest
      exact h.take hstage hrequest
  | writing request carried =>
    simp only [PersistSystem.work, hstage]
    exact h.write hstage _ _
  | reporting write =>
    simp only [PersistSystem.work, hstage]
    exact h.still (by rw [hstage]; rfl) (by rw [hstage]; rfl) ⟨_, _, rfl⟩ (.inr (by rw [hstage]; rfl))
      rfl rfl rfl rfl rfl
  | publishing write template rest failed =>
    unfold PersistSystem.work
    rw [hstage]
    cases rest with
    | nil => exact h.conclude hstage
    | cons carried rest =>
      have htemplated := h.templated
      rw [hstage] at htemplated
      obtain ⟨configRevision, revision, rfl⟩ := htemplated
      refine h.answer (p := (write, carried)) ?_ ?_ rfl rfl rfl rfl carriedEvent_answers.1
        carriedEvent_answers.2 ⟨_, _, rfl⟩ ?_
      · rw [hstage]
        rfl
      · rw [hstage]
        rfl
      · intro r hr
        cases hr
        exact h.stageFormed _ (by rw [hstage]; rfl)
  | finished =>
    simp only [PersistSystem.work, hstage]
    exact h
  | _ =>
    simp only [PersistSystem.work, hstage]
    repeat' split
    all_goals
      exact h.still (by rw [hstage]; rfl) (by rw [hstage]; rfl) trivial (.inl rfl) rfl rfl rfl rfl rfl

/-! ## Calls of the owner -/

/-- What a control save takes over from a pending limit patch. -/
structure Carries (pending latest latest' : PersistRequest K) : Prop where
  motors : latest'.motors = pending.motors
  param : latest'.param = latest.param
  configDir : latest'.configDir = latest.configDir
  control : ∃ motor previous entry patched,
    pending.motors.bind (motorForJoint · pending.joint) = some motor ∧
    pending.control.joints pending.joint = some previous ∧
    latest.control.joints pending.joint = some entry ∧
    applyLimitPatchToControl entry
      { joint := pending.joint
        positionLowerRad := motor.bench.positionLowerRad
        positionUpperRad := motor.bench.positionUpperRad
        torqueLimitNm := none
        positionSoftLowerRad := previous.positionSoftLowerRad
        positionSoftUpperRad := previous.positionSoftUpperRad
        velocityMaxRadS := previous.velocityMaxRadS } = .ok patched ∧
    latest'.control = { latest.control with
      joints := Function.update latest.control.joints pending.joint (some patched) }

/-- A patch that is coalesced keeps its completion. -/
theorem carryPendingLimitPatch_ok {pending latest latest' : PersistRequest K}
    {c : CarriedCompletion K} (h : carryPendingLimitPatch pending latest = .ok (c, latest')) :
    pending.completion = some c ∧ pending.configDir = latest.configDir ∧
      (latest.motors.isSome = true ∧ latest' = latest ∨
        latest.motors = none ∧ Carries pending latest latest') := by
  unfold carryPendingLimitPatch at h
  split at h
  · cases h
  rename_i hdir
  split at h
  · cases h
  rename_i motors hmotors
  split at h
  · cases h
  rename_i motor hmotor
  split at h
  · cases h
  rename_i control hcontrol
  have hbind : pending.motors.bind (motorForJoint · pending.joint) = some motor := by
    rw [hmotors]
    exact hmotor
  have hcompletion : pending.completion = some (carriedCompletion pending motor control) := by
    rw [PersistRequest.completion, hbind, hcontrol]
  dsimp only at h
  split at h
  · rename_i hsome
    cases h
    exact ⟨hcompletion, not_not.mp hdir, .inl ⟨hsome, rfl⟩⟩
  · rename_i hnone
    split at h
    · cases h
    · rename_i entry hentry
      obtain ⟨patched, hpatched, h⟩ := ok_of_bind h
      cases h
      refine ⟨hcompletion, not_not.mp hdir, .inr ⟨Option.not_isSome_iff_eq_none.mp hnone, ?_⟩⟩
      exact ⟨hmotors.symm, rfl, rfl, motor, control, entry, patched, hbind, hcontrol, hentry,
        mapError_ok hpatched, rfl⟩

omit [Field K] [LinearOrder K] [ExactWorld K] in
/-- A request without motors is not a limit patch. -/
theorem PersistRequest.WellFormed.not_isPatch {r : PersistRequest K} (h : r.WellFormed)
    (hmotors : r.motors = none) : r.isPatch = false := by
  cases hpatch : r.isPatch with
  | false => rfl
  | true =>
    have hsome := h hpatch
    rw [PersistRequest.completion, hmotors] at hsome
    cases hsome

/-- What goes into the slot for an accepted request, and the patches that it replaces. -/
inductive Merges (slot : PersistSlot K) (request : PersistRequest K) :
    PersistRequest K → List (CarriedCompletion K) → Prop
  | first (empty : slot.request = none) : Merges slot request request slot.carried
  | patch (pending latest : PersistRequest K) (c : CarriedCompletion K)
      (found : slot.request = some pending) (patch : pending.isPatch = true)
      (carry : carryPendingLimitPatch pending request = .ok (c, latest)) :
      Merges slot request latest (slot.carried ++ [c])
  | save (pending : PersistRequest K) (found : slot.request = some pending)
      (save : pending.isPatch = false) :
      Merges slot request
        (if request.motors.isNone then { request with motors := pending.motors } else request)
        slot.carried

def PersistSystem.admitted (s : PersistSystem K) (request latest : PersistRequest K)
    (carried : List (CarriedCompletion K)) (coalesced : ℕ) : PersistSystem K :=
  { s with
    wake := true
    slot := { s.slot with
      request := some latest
      carried := carried
      coalescedRequests := coalesced }
    accepted := s.accepted ++ [request] }

/-- A request is refused and leaves the requests alone, or it is accepted. -/
theorem enqueue_cases (s : PersistSystem K) (request : PersistRequest K) :
    ((s.enqueue request).2 = s ∨ (s.enqueue request).2 = { s with wake := true } ∨
      ∃ error, (s.enqueue request).2 =
        { s with slot := { s.slot with accepting := false, workerError := error } }) ∨
    (s.slot.accepting = true ∧ s.slot.workerDone = false ∧
      ∃ latest carried coalesced, Merges s.slot request latest carried ∧
        (s.enqueue request).2 = s.admitted request latest carried coalesced) := by
  unfold enqueue
  split
  · exact .inl (.inl rfl)
  · rename_i hopen
    simp only [Bool.or_eq_true, not_or, Bool.not_eq_true', Bool.not_eq_false,
      Bool.not_eq_true] at hopen
    split
    · exact .inl (.inr (.inr ⟨_, rfl⟩))
    · dsimp only
      split
      · rename_i hnone
        exact .inr ⟨hopen.1.1, hopen.1.2, _, _, s.slot.coalescedRequests, .first hnone, rfl⟩
      · rename_i pending hpending
        split
        · rename_i hpatch
          split
          · exact .inl (.inr (.inl rfl))
          · rename_i c latest hcarry
            exact .inr ⟨hopen.1.1, hopen.1.2, _, _, _, .patch _ _ _ hpending hpatch hcarry,
              rfl⟩
        · rename_i hsave
          exact .inr ⟨hopen.1.1, hopen.1.2, _, _, _,
            .save _ hpending (Bool.not_eq_true _ ▸ hsave), rfl⟩

/-- The queue accepts a request exactly if it returns without an error. -/
theorem enqueue_accepted (s : PersistSystem K) (request : PersistRequest K) :
    (s.enqueue request).2.accepted =
      if (s.enqueue request).1.isOk then s.accepted ++ [request] else s.accepted := by
  unfold enqueue
  split
  · rfl
  · split
    · rfl
    · dsimp only
      split
      · rfl
      · split
        · split <;> rfl
        · rfl

theorem enqueue_files (s : PersistSystem K) (request : PersistRequest K) :
    (s.enqueue request).2.files = s.files := by
  rcases enqueue_cases s request with (heq | heq | ⟨_, heq⟩) | ⟨-, -, _, _, _, -, heq⟩ <;> rw [heq]
  rfl

/-- What goes into the slot stands for the accepted request, and what it replaces is carried. -/
theorem Merges.patches {slot : PersistSlot K} {request latest : PersistRequest K}
    {carried : List (CarriedCompletion K)} (h : Merges slot request latest carried)
    (hformed : request.WellFormed) :
    latest.WellFormed ∧ carried ++ latest.patches = slot.patches ++ request.patches := by
  cases h with
  | first empty =>
    refine ⟨hformed, ?_⟩
    simp [PersistSlot.patches, empty]
  | patch pending _ c found patch carry =>
    obtain ⟨hcompletion, -, ⟨-, rfl⟩ | ⟨hmotors, hcarries⟩⟩ := carryPendingLimitPatch_ok carry
    · refine ⟨hformed, ?_⟩
      simp [PersistSlot.patches, found, PersistRequest.patches, patch, hcompletion]
    · have hrequest := hformed.not_isPatch hmotors
      have hlatest : latest.isPatch = false := by
        rw [PersistRequest.isPatch, hcarries.param]
        exact hrequest
      refine ⟨fun hpatch => ?_, ?_⟩
      · rw [hlatest] at hpatch
        cases hpatch
      · simp [PersistSlot.patches, found, PersistRequest.patches, patch, hcompletion, hrequest,
          hlatest]
  | save pending found save =>
    by_cases hmotors : request.motors.isNone = true
    · have hrequest := hformed.not_isPatch (Option.isNone_iff_eq_none.mp hmotors)
      rw [if_pos hmotors]
      refine ⟨fun hpatch => ?_, ?_⟩
      · exact absurd (hrequest.symm.trans hpatch) Bool.false_ne_true
      · have hlatest : PersistRequest.isPatch { request with motors := pending.motors } = false :=
          hrequest
        simp [PersistSlot.patches, found, PersistRequest.patches, save, hrequest, hlatest]
    · rw [if_neg hmotors]
      refine ⟨hformed, ?_⟩
      simp [PersistSlot.patches, found, PersistRequest.patches, save]

theorem Balanced.enqueue (h : Balanced s) {request : PersistRequest K}
    (hformed : ∀ r ∈ (s.enqueue request).2.accepted, r.WellFormed) :
    Balanced (s.enqueue request).2 := by
  obtain ⟨answered, hall, hwrote, hanswers⟩ := h.account
  rcases enqueue_cases s request with (heq | heq | ⟨_, heq⟩) |
    ⟨-, -, latest, carried, n, hmerges, heq⟩
  · rw [heq]
    exact h
  · rw [heq]
    exact ⟨h.templated, h.slotFormed, h.stageFormed, answered, hall, hwrote, hanswers⟩
  · rw [heq]
    exact ⟨h.templated, h.slotFormed, h.stageFormed, answered, hall, hwrote, hanswers⟩
  · rw [heq] at hformed ⊢
    obtain ⟨hlatest, hpatches⟩ := hmerges.patches
      (hformed request (List.mem_append_right _ (List.mem_singleton_self _)))
    refine ⟨h.templated, fun r hr => ?_, h.stageFormed, answered, ?_, hwrote, hanswers⟩
    · cases hr
      exact hlatest
    · have hslot : (s.admitted request latest carried n).slot.patches =
          s.slot.patches ++ request.patches := by
        rw [← hpatches]
        simp [PersistSlot.patches, admitted]
      rw [unanswered, hslot]
      simp [admitted, hall, unanswered]

theorem Balanced.spawn (files : String → ProfileFiles K) :
    Balanced (PersistSystem.spawn files) := by
  refine ⟨trivial, fun r hr => ?_, fun r hr => ?_, [], rfl, rfl, .nil⟩
  · cases hr
  · cases hr

theorem work_accepted (s : PersistSystem K) (input : PersistInput K) :
    (s.work input).accepted = s.accepted := by
  unfold work
  split <;> first | rfl | (split <;> first | rfl | (split <;> rfl))

theorem act_enqueue (s : PersistSystem K) (request : PersistRequest K) :
    s.act (.enqueue request) = (s.enqueue request).2 := rfl

/-- A step adds at most one request to the accepted ones. -/
theorem act_accepted (s : PersistSystem K) (action : PersistAction K) :
    (s.act action).accepted = s.accepted ∨
      ∃ request, (s.act action).accepted = s.accepted ++ [request] := by
  cases action with
  | enqueue request =>
    rw [act_enqueue]
    rcases enqueue_cases s request with (heq | heq | ⟨_, heq⟩) | ⟨-, -, _, _, _, -, heq⟩
    · exact .inl (by rw [heq])
    · exact .inl (by rw [heq])
    · exact .inl (by rw [heq])
    · exact .inr ⟨request, by rw [heq]; rfl⟩
  | work input => exact .inl (work_accepted s input)
  | closeAdmission => exact .inl rfl
  | drop => exact .inl rfl

/-- Invariants of a queue whose accepted requests are as assumed. -/
theorem PersistSystem.run_invariant {P : PersistSystem K → Prop}
    {A : List (PersistRequest K) → Prop} (hinit : ∀ l r, A (l ++ [r]) → A l)
    (hstep : ∀ s action, P s → A (s.act action).accepted → P (s.act action))
    (hstart : P s) (actions : List (PersistAction K)) (h : A (s.run actions).accepted) :
    P (s.run actions) := by
  induction actions using List.reverseRecOn with
  | nil => exact hstart
  | append_singleton actions action ih =>
    rw [PersistSystem.run, List.foldl_append] at h ⊢
    refine hstep _ action (ih ?_) h
    rcases act_accepted (s.run actions) action with heq | ⟨request, heq⟩
    · exact heq ▸ h
    · exact hinit _ request (heq ▸ h)

theorem Balanced.act (h : Balanced s) (action : PersistAction K)
    (hformed : ∀ r ∈ (s.act action).accepted, r.WellFormed) : Balanced (s.act action) := by
  cases action with
  | enqueue request => exact h.enqueue hformed
  | work input => exact h.work input
  | closeAdmission => exact h.still rfl rfl h.templated (.inr rfl) rfl rfl rfl rfl rfl
  | drop => exact h.still rfl rfl h.templated (.inr rfl) rfl rfl rfl rfl rfl

/-! ## The end of the worker -/

/-- The worker has taken a wake-up and looks at the slot before it waits again. -/
def PersistStage.Busy : PersistStage K → Prop
  | .draining | .taking | .writing _ _ | .reporting _ | .publishing _ _ _ _ | .landing _ _ => True
  | _ => False

def PersistStage.Out : PersistStage K → Prop
  | .leaving | .left | .finished => True
  | _ => False

/-- The worker does not miss a request. -/
structure Attended (s : PersistSystem K) : Prop where
  /-- A pending request has a wake-up that the worker has not answered. -/
  awake : s.slot.request.isSome = true → s.wake = true ∨ s.stage.Busy
  /-- Patches wait with the request that replaced them. -/
  carried : s.slot.request = none → s.slot.carried = []
  /-- The worker leaves a closed and empty queue. -/
  out : s.stage.Out → s.slot.accepting = false ∧ s.slot.request = none

omit [Field K] [LinearOrder K] [ExactWorld K] in
theorem Attended.spawn (files : String → ProfileFiles K) :
    Attended (PersistSystem.spawn files) := by
  refine ⟨fun h => ?_, fun _ => rfl, fun h => h.elim⟩
  cases h

theorem Attended.work (h : Attended s) (input : PersistInput K) : Attended (s.work input) := by
  have hawake := h.awake
  have hout := h.out
  have hcarried := h.carried
  unfold PersistSystem.work
  split <;> rename_i hstage <;> rw [hstage] at hawake hout
  case h_1 =>
    -- checking
    split
    · rename_i hleave
      simp only [Bool.and_eq_true, Bool.not_eq_true', Option.isNone_iff_eq_none] at hleave
      refine ⟨fun hsome => ?_, hcarried, fun _ => hleave⟩
      rw [hleave.2] at hsome
      cases hsome
    · exact ⟨hawake, hcarried, fun hend => hend.elim⟩
  case h_2 =>
    -- waiting
    split
    · exact ⟨fun _ => .inr trivial, hcarried, fun hend => hend.elim⟩
    · split
      · exact ⟨hawake, hcarried, fun hend => hend.elim⟩
      · exact ⟨fun _ => .inr trivial, hcarried, fun hend => hend.elim⟩
  case h_4 =>
    -- taking
    split
    · rename_i hnone
      refine ⟨fun hsome => ?_, hcarried, fun hend => hend.elim⟩
      rw [hnone] at hsome
      cases hsome
    · exact ⟨fun _ => .inr trivial, fun _ => rfl, fun hend => hend.elim⟩
  case h_10 =>
    -- leaving
    obtain ⟨-, hnone⟩ := hout trivial
    refine ⟨fun hsome => ?_, hcarried, fun _ => ⟨rfl, hnone⟩⟩
    rw [hnone] at hsome
    cases hsome
  case h_11 => exact ⟨hawake, hcarried, fun _ => hout trivial⟩
  case h_12 => exact h
  all_goals exact ⟨fun _ => .inr trivial, hcarried, fun hend => hend.elim⟩

theorem Attended.act (h : Attended s) (action : PersistAction K) : Attended (s.act action) := by
  cases action with
  | enqueue request =>
    rw [act_enqueue]
    rcases enqueue_cases s request with (heq | heq | ⟨_, heq⟩) | ⟨haccepting, -, _, _, _, -, heq⟩
    · rw [heq]
      exact h
    · rw [heq]
      exact ⟨fun _ => .inl rfl, h.carried, h.out⟩
    · rw [heq]
      exact ⟨h.awake, h.carried, fun hend => ⟨rfl, (h.out hend).2⟩⟩
    · rw [heq]
      refine ⟨fun _ => .inl rfl, fun hnone => ?_, fun hend => ?_⟩
      · cases hnone
      · -- the worker does not leave while the queue accepts
        exact absurd ((h.out hend).1.symm.trans haccepting) Bool.false_ne_true
  | work input => exact h.work input
  | closeAdmission => exact ⟨fun _ => .inl rfl, h.carried, fun hend => ⟨rfl, (h.out hend).2⟩⟩
  | drop => exact ⟨fun _ => .inl rfl, h.carried, fun hend => ⟨rfl, (h.out hend).2⟩⟩

omit [Field K] [LinearOrder K] [ExactWorld K] in
/-- A worker that has terminated leaves nothing behind. -/
theorem Attended.unanswered_nil [World K] (h : Attended s) (hfinished : s.stage = .finished) :
    s.unanswered = [] := by
  have hnone := (h.out (by rw [hfinished]; trivial)).2
  simp [unanswered, hfinished, PersistStage.owed, PersistStage.taken,
    PersistSlot.patches, hnone, h.carried hnone]

/-- The steps that the worker has left once the queue is closed. -/
def PersistSystem.remaining (s : PersistSystem K) : ℕ :=
  (if s.slot.request.isSome then s.slot.carried.length + 5 else 0) +
  match s.stage with
  | .checking => if s.slot.request.isSome then 7 else 3
  | .waiting => 6
  | .draining => 5
  | .taking => 4
  | .writing _ carried => carried.length + 8
  | .reporting write => write.carried.length + 7
  | .publishing _ _ rest _ => rest.length + 6
  | .landing _ _ => 5
  | .leaving => 2
  | .left => 1
  | .finished => 0

theorem work_accepting (hclosed : s.slot.accepting = false) (input : PersistInput K) :
    (s.work input).slot.accepting = false := by
  unfold work
  split <;> first | exact hclosed | rfl |
    (split <;> first | exact hclosed | rfl | (split <;> first | exact hclosed | rfl))

/-- Each step of the worker of a closed queue brings its end closer. -/
theorem Attended.work_remaining (h : Attended s) (hclosed : s.slot.accepting = false)
    (input : PersistInput K) : (s.work input).remaining ≤ s.remaining - 1 := by
  have hawake := h.awake
  unfold PersistSystem.work
  split <;> rename_i hstage <;> rw [hstage] at hawake
  · -- checking
    cases hrequest : s.slot.request with
    | none => simp [PersistSystem.remaining, hstage, hclosed, hrequest]
    | some request => simp [PersistSystem.remaining, hstage, hclosed, hrequest]
  · -- waiting
    split
    · simp [PersistSystem.remaining, hstage]
    · rename_i hsleeping
      split
      · -- a worker that sleeps has no request
        cases hrequest : s.slot.request with
        | none => simp [PersistSystem.remaining, hstage, hrequest]
        | some request =>
          rw [hrequest] at hawake
          exact absurd (hawake rfl) (by rintro (h | h); exacts [hsleeping h, h])
      · simp [PersistSystem.remaining, hstage]
  · simp [PersistSystem.remaining, hstage]
  · -- taking
    split
    · rename_i hrequest
      simp [PersistSystem.remaining, hstage, hrequest]
    · rename_i request hrequest
      simp [PersistSystem.remaining, hstage, hrequest]
  case h_12 =>
    -- a worker that has terminated has no request
    have hnone := (h.out (by rw [hstage]; trivial)).2
    simp [PersistSystem.remaining, hstage, hnone]
  all_goals simp [PersistSystem.remaining, hstage, drawn]

def PersistAction.isWork : PersistAction K → Bool
  | .work _ => true
  | _ => false

theorem Attended.act_remaining (h : Attended s) (hclosed : s.slot.accepting = false)
    (action : PersistAction K) :
    (s.act action).slot.accepting = false ∧
      (s.act action).remaining ≤ s.remaining - action.isWork.toNat := by
  cases action with
  | enqueue request =>
    rw [act_enqueue]
    rcases enqueue_cases s request with (heq | heq | ⟨_, heq⟩) | ⟨haccepting, -⟩
    · rw [heq]
      exact ⟨hclosed, le_rfl⟩
    · rw [heq]
      exact ⟨hclosed, le_rfl⟩
    · rw [heq]
      exact ⟨rfl, le_rfl⟩
    · exact absurd (hclosed.symm.trans haccepting) Bool.false_ne_true
  | work input => exact ⟨work_accepting hclosed input, h.work_remaining hclosed input⟩
  | closeAdmission => exact ⟨rfl, le_rfl⟩
  | drop => exact ⟨rfl, le_rfl⟩

/-- A closed queue accepts nothing. -/
theorem act_accepted_closed (hclosed : s.slot.accepting = false) (action : PersistAction K) :
    (s.act action).accepted = s.accepted := by
  cases action with
  | enqueue request =>
    rw [act_enqueue]
    rcases enqueue_cases s request with (heq | heq | ⟨_, heq⟩) | ⟨haccepting, -⟩
    · rw [heq]
    · rw [heq]
    · rw [heq]
    · exact absurd (hclosed.symm.trans haccepting) Bool.false_ne_true
  | work input => exact work_accepted s input
  | closeAdmission => rfl
  | drop => rfl

theorem Attended.run_accepted (h : Attended s) (hclosed : s.slot.accepting = false)
    (actions : List (PersistAction K)) :
    (s.run actions).accepted = s.accepted ∧ Attended (s.run actions) := by
  induction actions generalizing s with
  | nil => exact ⟨rfl, h⟩
  | cons action actions ih =>
    obtain ⟨haccepted, hend⟩ := ih (h.act action) (h.act_remaining hclosed action).1
    exact ⟨haccepted.trans (act_accepted_closed hclosed action), hend⟩

/-- The worker of a closed queue terminates after a bounded number of its own steps. -/
theorem Attended.run_finished (h : Attended s) (hclosed : s.slot.accepting = false)
    (actions : List (PersistAction K))
    (henough : s.remaining ≤ actions.countP PersistAction.isWork) :
    (s.run actions).stage = .finished := by
  induction actions generalizing s with
  | nil =>
    have hzero : s.remaining = 0 := Nat.le_zero.mp henough
    unfold PersistSystem.remaining at hzero
    obtain ⟨-, hzero⟩ := Nat.add_eq_zero_iff.mp hzero
    rw [PersistSystem.run, List.foldl_nil]
    split at hzero <;> first | assumption | omega | (split at hzero <;> omega)
  | cons action actions ih =>
    obtain ⟨hclosed', hle⟩ := h.act_remaining hclosed action
    refine ih (h.act action) hclosed' (hle.trans ?_)
    rw [List.countP_cons] at henough
    cases hwork : action.isWork with
    | false => simpa [hwork] using henough
    | true =>
      rw [hwork, if_pos rfl] at henough
      exact Nat.sub_le_of_le_add henough

end

end Marengo

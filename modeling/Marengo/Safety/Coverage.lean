import Marengo.Safety.Stops

/-!
# What a stop writes

A stop attempts its calls on every installed drive, whatever fails on the way, and reports each
attempt with its own result (`Attempted`). What it sends after them only asks or configures.
-/

namespace Marengo

open Prog

variable {F : Type}

/-- A call of a stop: the drive, what it is for, and the call. -/
abbrev StopCall (F : Type) := MotorAddress × StopAction × BusCall F

/-- The calls of a stop to a drive, in their order. A shed drive gets nothing but its Disable. -/
def stopCalls [Scalar F] (shed : List MotorAddress) (motor : MotorEntry F) : List (StopCall F) :=
  if motor.address ∈ shed then [(motor.address, .disable, .disableDrive motor.address)]
  else [(motor.address, .zeroSpeed, .speedControl motor.address (lit 0)),
    (motor.address, .neutralMit, .mitControlAll [⟨motor.address, neutralMit motor⟩]),
    (motor.address, .disable, .disableDrive motor.address)]

variable [World F] {ε : Type} {s s' s'' : System F} {calls more : List (StopCall F)}
  {attempts later : List StopAttempt}

/-- What the calls of a stop leave alone: drive loss and the recorded faults. -/
def System.hazards (s : System F) : DriveLossState F × List FaultRecord :=
  (s.driveLoss, s.faultAuthority.faults)

/-- From `s`, these calls were handed to the bus and nothing else, and the attempts report their
results. -/
def Attempted (s : System F) (calls : List (StopCall F)) (attempts : List StopAttempt)
    (s' : System F) : Prop :=
  (∃ rs : List (StopAttempt × Handed F), s'.log = s.log ++ rs.map Prod.snd ∧
    attempts = rs.map Prod.fst ∧ rs.map (fun r => (r.1.address, r.1.action, r.2.call)) = calls ∧
    ∀ r ∈ rs, r.1.error = r.2.error.map fun e => boundedMessage (World.showSend F e)) ∧
  s'.hazards = s.hazards

theorem Attempted.append (h : Attempted s calls attempts s') (h' : Attempted s' more later s'') :
    Attempted s (calls ++ more) (attempts ++ later) s'' := by
  obtain ⟨⟨rs, hlog, rfl, rfl, herror⟩, hsame⟩ := h
  obtain ⟨⟨rs', hlog', rfl, rfl, herror'⟩, hsame'⟩ := h'
  refine ⟨⟨rs ++ rs', ?_, List.map_append.symm, List.map_append, ?_⟩, hsame'.trans hsame⟩
  · rw [hlog', hlog, List.map_append, List.append_assoc]
  · exact List.forall_mem_append.2 ⟨herror, herror'⟩

theorem Runs.hazards (h : Runs Writing s s') : s'.hazards = s.hazards :=
  congrArg (fun safety : Safety F => (safety.driveLoss, safety.faultAuthority.faults))
    (Runs.still h).safety

/-- Observations hand nothing to the bus. -/
theorem Runs.silent (h : Runs Observing s s') : s'.log = s.log ∧ s'.hazards = s.hazards := by
  refine ⟨h.same (f := fun s => s.log) fun l _ _ hl hstep => ?_, Runs.hazards (.ofObserving h)⟩
  cases hstep with
  | tick h => exact h.log
  | observe h => exact h.log
  | _ => exact hl.elim

theorem stopAttempt_attempted (address : MotorAddress) (action : StopAction) (call : BusCall F) :
    Along Anyhow (stopAttempt address action call : Prog (System F) ε _)
      (Returns fun attempt => Attempted s [(address, action, call)] [attempt]) s :=
  ⟨trivial, ⟨[(_, _)], rfl, rfl, rfl, by simp⟩, rfl⟩

theorem stopDrive_attempted (motor : MotorEntry F) :
    Along Anyhow (stopDrive motor : Prog (System F) ε _)
      (Returns (Attempted s (stopCalls s.driveLoss.shed motor))) s := by
  refine .read (.ite (fun hshed => ?_) fun hshed => ?_)
  · rw [stopCalls, if_pos (by simpa [DriveLossState.isShed] using hshed)]
    exact .next (stopAttempt_attempted ..) fun _ _ _ h => .pure h
  · rw [stopCalls, if_neg (by simpa [DriveLossState.isShed] using hshed)]
    exact .next (stopAttempt_attempted ..) fun _ _ _ h₁ => .next (stopAttempt_attempted ..)
      fun _ _ _ h₂ => .next (stopAttempt_attempted ..) fun _ _ _ h₃ =>
      .pure (h₁.append (h₂.append h₃))

/-- One drive after the other. -/
theorem stopDrives_attempted (motors : List (MotorEntry F)) (pacer : Option BurstPacer)
    (h : Attempted s calls attempts s') :
    Along Anyhow (Prog.foldl (fun (attempts, pacer) motor => do
        let pacer ← beginGroupOf pacer motor.canInterface
        let more ← stopDrive motor
        pure (attempts ++ more, pacer)) (attempts, pacer) motors : Prog (System F) ε _)
      (Returns fun r => Attempted s (calls ++ motors.flatMap (stopCalls s.driveLoss.shed)) r.1)
      s' := by
  induction motors generalizing s' calls attempts pacer with
  | nil =>
    refine .pure ?_
    rwa [List.flatMap_nil, List.append_nil]
  | cons motor rest ih =>
    refine .next (P := fun r => Attempted s (calls ++ stopCalls s.driveLoss.shed motor) r.1)
      (.stepVia (S := Runs Observing) (fun _ _ _ => trivial) fun pacer t ht =>
        .next (stopDrive_attempted motor) fun more u _ hu => .pure ?_) fun r u _ hu => ?_
    · obtain ⟨hlog, hsame⟩ := Runs.silent ht
      have ht' : Attempted s calls attempts t := ⟨hlog ▸ h.1, hsame.trans h.2⟩
      have hshed : t.driveLoss.shed = s.driveLoss.shed := congrArg (·.1.shed) ht'.2
      exact ht'.append (hshed ▸ hu)
    · rw [List.flatMap_cons, ← List.append_assoc]
      exact ih r.2 hu

/-- Sensing hands the bus only calls that ask or configure. -/
theorem Runs.sensed (h : Runs Writing s s') : ∃ rest, s'.log = s.log ++ rest ∧
    ∀ e ∈ rest, e.call.Plain ∨ ∃ a, e.call = .enableActiveReporting a := by
  refine h.invariant (P := fun t => ∃ rest, t.log = s.log ++ rest ∧
    ∀ e ∈ rest, e.call.Plain ∨ ∃ a, e.call = .enableActiveReporting a) ?_ ⟨[], by simp, by simp⟩
  rintro l t u hl hstep ⟨rest, hlog, hrest⟩
  cases hstep with
  | tick h => exact ⟨rest, h.log.trans hlog, hrest⟩
  | observe h => exact ⟨rest, h.log.trans hlog, hrest⟩
  | write error plain =>
    refine ⟨rest ++ [_], by rw [System.handed, hlog, List.append_assoc], ?_⟩
    exact List.forall_mem_append.2 ⟨hrest, by simpa using .inl plain⟩
  | reportOn error =>
    refine ⟨rest ++ [_], by rw [System.handed, hlog, List.append_assoc], ?_⟩
    exact List.forall_mem_append.2 ⟨hrest, by simp⟩
  | _ => exact hl.elim

namespace FaultAuthority

/-- A record adds its own class and address, and no other. -/
theorem recorded_record {a : FaultAuthority} {t : Instant} {cls cls' : FaultClass}
    {joint : Option String} {address address' : Option MotorAddress} {message : String}
    {device : DeviceFaultEvidence} :
    (a.record t cls joint address message device).2.Recorded cls' address' ↔
      a.Recorded cls' address' ∨ cls' = cls ∧ address' = address := by
  constructor
  · rintro ⟨r, hr, rfl, rfl⟩
    unfold record at hr
    split at hr
    · have hkeys := List.mem_map_of_mem (f := FaultRecord.key) hr
      rw [modifyFirst_map fun _ => by rfl] at hkeys
      obtain ⟨r', hr', hkey⟩ := List.mem_map.1 hkeys
      simp only [FaultRecord.key, Prod.mk.injEq] at hkey
      exact .inl ⟨r', hr', hkey.2.1, hkey.2.2.2.1⟩
    · rcases List.mem_append.1 hr with hr | hr
      · exact .inl ⟨r, hr, rfl, rfl⟩
      · obtain rfl := List.mem_singleton.1 hr
        exact .inr ⟨rfl, rfl⟩
  · rintro (h | ⟨rfl, rfl⟩)
    · exact (extends_record ..).recorded h
    · exact record_recorded ..

end FaultAuthority

/-- Stop delivery is on record. -/
def System.undelivered (s : System F) : Prop := s.faultAuthority.Recorded .stopDelivery none

theorem endDegradedEpisodeOnStop_spec :
    Along Anyhow (endDegradedEpisodeOnStop : Prog (System F) ε Unit) (Returns fun _ s' =>
      s'.log = s.log ∧ (s'.undelivered ↔ s.undelivered) ∧
        s'.referenceAuthority = s.referenceAuthority) s := by
  refine .read (.update trivial ?_)
  split
  · exact .pure ⟨rfl, Iff.rfl, rfl⟩
  · refine ⟨trivial, rfl, FaultAuthority.recorded_record.trans ?_, rfl⟩
    exact or_iff_left fun h => nomatch h.1

theorem stopDelivery_spec {c : Prop} [Decidable c] {message : String} :
    Along Anyhow (when c (do
        revokeReference
        let _ ← recordFault .stopDelivery none none message {}) : Prog (System F) ε Unit)
      (Returns fun _ s' => s'.log = s.log ∧ (s'.undelivered ↔ s.undelivered ∨ c) ∧
        (c → s'.referenceAuthority.revoked = true)) s := by
  refine .when (fun hc => ⟨trivial, rfl, FaultAuthority.recorded_record.trans ?_,
    fun _ => s.referenceAuthority.revoked_revoke⟩)
    fun hc => ⟨rfl, (or_iff_left hc).symm, fun h => absurd h hc⟩
  simp [hc]

/-- The stop made its calls to every installed drive and reports them. Whatever it sent after them
asks or configures. Stop delivery is latched if it was before or a write failed, and then the
reference is revoked. -/
structure Covered (s : System F) (report : StopReport) (s' : System F) : Prop where
  calls : ∃ t rest,
    Attempted s (s.stopMotors.entries.flatMap (stopCalls s.driveLoss.shed)) report.attempts t ∧
    s'.log = t.log ++ rest ∧ ∀ e ∈ rest, e.call.Plain ∨ ∃ a, e.call = .enableActiveReporting a
  latched : s'.undelivered ↔ s.undelivered ∨ 0 < report.failedWrites
  revoked : 0 < report.failedWrites → s'.referenceAuthority.revoked = true

end Marengo

import Marengo.Davout.Bench
import Marengo.Lib.Effects

/-!
# Type-24 writes over whole runs

The operations of `ActiveReportingState` in any order, each at the instant at which it is called. A
run is made of two kinds of steps (`ReportStep`): quiet ones, which leave the written state and the
slots alone, and type-24 writes, which change them as the result of the write says. What the state
shows of a joint and the spacing of the writes then follow step by step.
-/

namespace Marengo

open Prog ActiveReportingState

variable {F : Type}

/-! ## Operations -/

/-- An operation of `ActiveReportingState`. `recordOff` stands for an Off that its caller writes. -/
inductive ReportingOp (F : Type)
  | suspend (unrecorded : Option MotorAddress) (leaveOn : MotorAddress → Bool)
      (pacer : Option BurstPacer)
  | writeOff (motor : MotorEntry F) (force : Bool)
  | recordOff (motor : MotorEntry F)
  | sync (modeActive globalDiagnostics : Bool) (lastFeedbackRx : String → Option Instant)
      (held : List String)
  | acquire (joint clientId leaseId : String) (ttl : Duration)
  | renew (joint clientId leaseId : String) (ttl : Duration)
  | release (joint leaseId : String)
  | expireStale

def onLeases (f : ActiveReportingState → Except ActiveReportingLeaseError ActiveReportingState) :
    Prog (System F) ActiveReportingLeaseError Unit := do
  let s ← read
  match f s.activeReporting with
  | .error e => fail e
  | .ok r => updateReporting fun _ => r

/-! ## Steps -/

/-- A type-24 write: whether it takes its interface's slot, and whether it waits for it. -/
structure Type24Write (F : Type) where
  motor : MotorEntry F
  on : Bool
  slot : Bool
  paced : Bool

def Type24Write.call (w : Type24Write F) : BusCall F :=
  if w.on then .enableActiveReporting w.motor.address else .disableActiveReporting w.motor.address

/-- What the state shows of a joint: applied On, a last On, a last Off. -/
def ActiveReportingState.status (r : ActiveReportingState) (joint : String) : Bool × Bool × Bool :=
  (r.applied joint, (r.lastEnableTx joint).isSome, (r.offWrittenAt joint).isSome)

/-- What a successful write leaves to be shown. -/
def shown (on : Bool) : Bool × Bool × Bool := (on, on, !on)

def Type24Write.takes (w : Type24Write F) (t : Instant) (slots : String → Option Instant) :
    String → Option Instant :=
  if w.slot then Function.update slots w.motor.canInterface (some t) else slots

/-- What a step of an operation does. -/
inductive ReportEffect (F : Type)
  | quiet
  | leases
  | write (w : Type24Write F)

inductive ReportStep : ReportEffect F → System F → System F → Prop
  | quiet {s s' : System F} (log : s'.log = s.log) (time : s.time ≤ s'.time)
      (reporting : s'.activeReporting = s.activeReporting) : ReportStep .quiet s s'
  | leases {s : System F} (leases : String → List (String × LeaseEntry)) : ReportStep .leases s
      { s with activeReporting := { s.activeReporting with leases := leases } }
  | write {s s' : System F} (w : Type24Write F) (h : Handed F) (call : h.call = w.call)
      (at_ : h.time = s.time) (log : s'.log = s.log ++ [h]) (time : s'.time = s.time)
      (free : w.paced = true → s.activeReporting.slotFree w.motor.canInterface s.time = true)
      (status : s'.activeReporting.status = if h.error = none then
        Function.update s.activeReporting.status w.motor.joint (shown w.on)
        else s.activeReporting.status)
      (slots : s'.activeReporting.lastWriteByInterface =
        w.takes s.time s.activeReporting.lastWriteByInterface)
      (leases : s'.activeReporting.leases = s.activeReporting.leases) : ReportStep (.write w) s s'

/-- What a record leaves to be shown. -/
theorem status_record (r : ActiveReportingState) (joint : String) (now : Instant) (on : Bool) :
    (if on then r.recordOn joint now else r.recordOff joint now).status =
      Function.update r.status joint (shown on) := by
  funext j
  by_cases hj : j = joint
  · subst hj
    cases on <;> simp [status, recordOn, recordOff, shown]
  · cases on <;> simp [status, recordOn, recordOff, hj]

/-! ## What the lease operations return -/

def ActiveReportingState.withLeases (r : ActiveReportingState) (joint : String)
    (leases : List (String × LeaseEntry)) : ActiveReportingState :=
  { r with leases := Function.update r.leases joint leases }

section
variable {r r' : ActiveReportingState} {joint clientId leaseId : String} {ttl : Duration}
  {now : Instant} {config : MotorsConfig F}

theorem acquire_ok (h : r.acquire joint clientId leaseId ttl now config = .ok r') :
    ∃ expires, checkedAdd now ttl = some expires ∧
      r' = r.withLeases joint ((r.leases joint).filter (·.1 ≠ trim leaseId) ++
        [(trim leaseId, ⟨trim clientId, expires⟩)]) := by
  obtain ⟨_, -, h⟩ := Except.bind_eq_ok.1 h
  split at h
  · cases h
  · rename_i expires hexpires
    obtain ⟨_, -, h⟩ := Except.bind_eq_ok.1 h
    dsimp only at h
    split at h
    · cases h
    · cases h
      exact ⟨expires, hexpires, rfl⟩

theorem renew_ok (h : r.renew joint clientId leaseId ttl now config = .ok r') :
    ∃ expires, checkedAdd now ttl = some expires ∧ (r.leases joint).any (·.1 = trim leaseId) ∧
      r' = r.withLeases joint ((r.leases joint).map fun l =>
        if l.1 = trim leaseId then (trim leaseId, ⟨trim clientId, expires⟩) else l) := by
  obtain ⟨_, -, h⟩ := Except.bind_eq_ok.1 h
  split at h
  · cases h
  · rename_i expires hexpires
    obtain ⟨_, -, h⟩ := Except.bind_eq_ok.1 h
    dsimp only at h
    split at h
    · rename_i hsome
      cases h
      exact ⟨expires, hexpires, hsome, rfl⟩
    · cases h

theorem release_ok (h : r.release joint leaseId config = .ok r') :
    r' = r.withLeases joint ((r.leases joint).filter (·.1 ≠ trim leaseId)) := by
  unfold release at h
  split at h
  · cases h
  · obtain ⟨_, -, h⟩ := Except.bind_eq_ok.1 h
    cases h
    rfl

end

/-! ## What an operation may do -/

section
variable {motors : List (MotorEntry F)} {op : ReportingOp F}

def ReportingOp.Allowed (motors : List (MotorEntry F)) (op : ReportingOp F) :
    ReportEffect F → Prop
  | .quiet => True
  | .leases =>
    match op with
    | .suspend _ _ _ | .writeOff _ _ | .recordOff _ => False
    | _ => True
  | .write w =>
    match op with
    | .suspend _ _ _ => w.motor ∈ motors ∧ w.on = false ∧ w.slot = false ∧ w.paced = false
    | .writeOff motor force =>
      w.motor = motor ∧ w.on = false ∧ w.slot = true ∧ w.paced = !force
    | .recordOff motor => w.motor = motor ∧ w.on = false ∧ w.slot = false ∧ w.paced = false
    | .sync modeActive _ _ held =>
      w.motor ∈ motors ∧ w.motor.joint ∉ held ∧ (w.on = true → modeActive = false) ∧
        w.slot = true ∧ w.paced = true
    | _ => False

abbrev ReportingSteps (motors : List (MotorEntry F)) (op : ReportingOp F) :
    System F → System F → Prop :=
  Within ReportStep (op.Allowed motors)

instance (motors : List (MotorEntry F)) (op : ReportingOp F) : Allows (op.Allowed motors) .quiet :=
  ⟨trivial⟩

theorem ReportingSteps.step {op : ReportingOp F} {s s' : System F}
    {l : ReportEffect F} (hl : op.Allowed motors l) (h : ReportStep l s s') :
    ReportingSteps motors op s s' :=
  have : Allows (op.Allowed motors) l := ⟨hl⟩
  .single h

theorem mem_due {r : ActiveReportingState} {modeActive globalDiagnostics : Bool} {now : Instant}
    {rx : String → Option Instant} {held : List String} {d : Due F}
    (h : d ∈ r.due motors modeActive globalDiagnostics now rx held) :
    d.motor ∈ motors ∧ (d.want = true → modeActive = false) := by
  simp only [due, List.mem_append, List.mem_filter, List.mem_filterMap] at h
  obtain ⟨⟨m, i⟩, hm, hd⟩ := h.elim (·.1) (·.1)
  split at hd
  · cases hd
    refine ⟨(List.mem_zipIdx hm).2.2 ▸ List.getElem_mem _, fun hwant => ?_⟩
    simp only [desired, Bool.and_eq_true, Bool.not_eq_true'] at hwant
    exact hwant.1
  · cases hd

theorem onLeases_reports {f : ActiveReportingState → Except ActiveReportingLeaseError _}
    (hop : op.Allowed motors .leases)
    (hf : ∀ r r', f r = .ok r' → ∃ joint leases, r' = r.withLeases joint leases) :
    Keeps False (ReportingSteps motors op) (onLeases f : Prog (System F) _ Unit) := by
  refine ⟨fun s => ?_, False.elim⟩
  simp only [onLeases, Bind.bind, read]
  cases h : f s.activeReporting with
  | error => exact .refl
  | ok r' =>
    obtain ⟨joint, leases, rfl⟩ := hf _ _ h
    exact .step hop (.leases _)

end

theorem snd_discard {ε α : Type} (x : Prog (System F) ε α) (s : System F) :
    ((do let _ ← x : Prog (System F) ε Unit) s).2 = (x s).2 := by
  simp only [Bind.bind]
  rcases x s with ⟨_ | _, _⟩ <;> rfl

/-! ## The programs -/

section
variable [World F]

/-- The operation, for the configured motors and at the present instant. -/
def ReportingOp.exec (motors : MotorsConfig F) (op : ReportingOp F) :
    Prog (System F) ActiveReportingLeaseError Unit := do
  let t ← reads (·.time)
  match op with
  | .suspend unrecorded leaveOn pacer => do
    let _ ← Marengo.suspend motors.motors unrecorded leaveOn pacer t
  | .writeOff motor force => do
    let _ ← Marengo.writeOff motor t force
  | .recordOff motor => do
    let _ ← sendOff motor t
  | .sync modeActive globalDiagnostics lastFeedbackRx held => do
    let _ ← syncHolding motors.motors modeActive globalDiagnostics t lastFeedbackRx held
  | .acquire joint clientId leaseId ttl => onLeases (·.acquire joint clientId leaseId ttl t motors)
  | .renew joint clientId leaseId ttl => onLeases (·.renew joint clientId leaseId ttl t motors)
  | .release joint leaseId => onLeases (·.release joint leaseId motors)
  | .expireStale => updateReporting (·.expireStale t)

def ReportingOp.call (motors : MotorsConfig F) (c : Duration × ReportingOp F) :
    Prog (System F) ActiveReportingLeaseError Unit := do
  sleep c.1
  c.2.exec motors

def reportingRun (motors : MotorsConfig F) (calls : List (Duration × ReportingOp F))
    (s : System F) : System F :=
  calls.foldl (fun s c => (ReportingOp.call motors c s).2) s

/-- The state after a write from the bookkeeping `r`. -/
def afterWrite (w : Type24Write F) (r : ActiveReportingState) (now : Instant) (s : System F) :
    System F :=
  { s with
    activeReporting :=
      if World.sendError F s.consulted = none then
        (if w.on then r.recordOn w.motor.joint now else r.recordOff w.motor.joint now) else r
    consulted := s.consulted + 1
    log := s.log ++ [⟨{ s.toSupervisor with activeReporting := r }, w.call,
      World.sendError F s.consulted, s.time⟩] }

variable {w : Type24Write F}

theorem ReportStep.afterWrite {r : ActiveReportingState} {now : Instant}
    {s : System F} (hstatus : r.status = s.activeReporting.status)
    (hslots : r.lastWriteByInterface = w.takes s.time s.activeReporting.lastWriteByInterface)
    (hleases : r.leases = s.activeReporting.leases)
    (hfree : w.paced = true → s.activeReporting.slotFree w.motor.canInterface s.time = true) :
    ReportStep (.write w) s (afterWrite w r now s) := by
  refine .write w _ rfl rfl rfl rfl hfree ?_ ?_ ?_ <;> rw [Marengo.afterWrite] <;> dsimp only
  · split
    · rw [← hstatus]
      exact status_record ..
    · exact hstatus
  · rw [← hslots]
    split
    · cases w.on <;> rfl
    · rfl
  · rw [← hleases]
    split
    · cases w.on <;> rfl
    · rfl

theorem send_run {ε : Type} (call : BusCall F) (s : System F) :
    (send call s : Except ε _ × System F) = (.ok (World.sendError F s.consulted),
      { s with
        consulted := s.consulted + 1
        log := s.log ++ [⟨s.toSupervisor, call, World.sendError F s.consulted, s.time⟩] }) := rfl

theorem sendOff_run {ε : Type} (motor : MotorEntry F) (now : Instant) (slot paced : Bool)
    (s : System F) (r : ActiveReportingState) :
    (sendOff motor now { s with activeReporting := r } : Except ε _ × System F) =
      (.ok (World.sendError F s.consulted), afterWrite ⟨motor, false, slot, paced⟩ r now s) := by
  by_cases herror : World.sendError F s.consulted = none
  · simp only [sendOff, Bind.bind, send_run, herror, when, afterWrite, if_true]
    rfl
  · simp only [sendOff, Bind.bind, send_run, when, afterWrite, if_neg herror]
    rfl

/-- The bookkeeping and the write of one due entry. -/
theorem sendOn_run {ε : Type} (motor : MotorEntry F) (now : Instant) (slot paced : Bool)
    (s : System F) (r : ActiveReportingState) :
    ((do
      let error ← send (.enableActiveReporting motor.address)
      when (error = none) (updateReporting (·.recordOn motor.joint now)) :
        Prog (System F) ε Unit) { s with activeReporting := r }) =
      (.ok (), afterWrite ⟨motor, true, slot, paced⟩ r now s) := by
  by_cases herror : World.sendError F s.consulted = none
  · simp only [Bind.bind, send_run, herror, when, afterWrite, if_true]
    rfl
  · simp only [Bind.bind, send_run, when, afterWrite, if_neg herror]
    rfl

variable {motors : List (MotorEntry F)}

section
variable {motors : List (MotorEntry F)} {op : ReportingOp F} {T : Prop} {ε : Type}

instance : Keeps T (ReportingSteps motors op) (now : Prog (System F) ε Instant) where
  keeps _ := .single (.quiet rfl (Nat.le_add_right ..) rfl)
  returns _ _ := ⟨_, rfl⟩

instance (d : Duration) : Keeps T (ReportingSteps motors op) (sleep d : Prog (System F) ε Unit) :=
  .update fun _ => .single (.quiet rfl (Nat.le_add_right ..) rfl)

instance (p : BurstPacer) (interface : String) :
    Keeps T (ReportingSteps motors op) (p.beginGroup interface : Prog (System F) ε BurstPacer) := by
  unfold BurstPacer.beginGroup BurstPacer.recordGroup
  exact .andThen (by cases p interface <;> infer_instance) fun _ => inferInstance

instance (pacer : Option BurstPacer) (interface : String) : Keeps T (ReportingSteps motors op)
      (beginGroupOf pacer interface : Prog (System F) ε (Option BurstPacer)) := by
  unfold beginGroupOf
  cases pacer <;> infer_instance

theorem sendOff_reports {motor : MotorEntry F} (now : Instant)
    (hw : op.Allowed motors (.write ⟨motor, false, false, false⟩)) :
    Keeps T (ReportingSteps motors op) (sendOff motor now : Prog (System F) ε _) where
  keeps s := by
    rw [show s = { s with activeReporting := s.activeReporting } from rfl,
      sendOff_run motor now false false]
    exact .step hw (.afterWrite rfl rfl rfl nofun)
  returns _ s := ⟨_, congrArg Prod.fst (sendOff_run motor now false false s s.activeReporting)⟩

theorem suspend_reports (unrecorded : Option MotorAddress) (leaveOn : MotorAddress → Bool)
    (pacer : Option BurstPacer) (now : Instant) (s : System F) :
    ReportingSteps motors (.suspend unrecorded leaveOn pacer) s
      (suspend motors unrecorded leaveOn pacer now s : Except ε _ × System F).2 := by
  refine (Along.foldl (I := fun _ _ => True) (X := fun _ _ => True) trivial
    fun acc motor hmotor s' _ _ => ?_).1
  have hallowed : ReportingOp.Allowed motors (.suspend unrecorded leaveOn pacer)
      (.write ⟨motor, false, false, false⟩) := ⟨hmotor, rfl, rfl, rfl⟩
  refine (Along.ofKeeps (.bind fun s => .ite inferInstance (.bind fun pacer =>
    (sendOff_reports now hallowed).andThen fun _ => inferInstance))).mono fun r _ _ _ => ?_
  cases r <;> trivial

theorem writeOff_reports (motor : MotorEntry F) (force : Bool) (s : System F) :
    ReportingSteps motors (.writeOff motor force) s
      (writeOff motor s.time force s : Except ε _ × System F).2 := by
  by_cases hslot : force = false ∧ s.activeReporting.slotFree motor.canInterface s.time = false
  · have hrun : (writeOff motor s.time force s : Except ε _ × System F) = (.ok none, s) :=
      bind_eq_ok.2 ⟨s, s, rfl, by rw [if_pos hslot]; rfl⟩
    rw [hrun]
    exact .refl
  · have hrun : (writeOff motor s.time force s : Except ε _ × System F) = (.ok _, _) :=
      bind_eq_ok.2 ⟨s, s, rfl, by
        rw [if_neg hslot]
        exact bind_eq_ok.2 ⟨_, _, rfl, bind_eq_ok.2
          ⟨_, _, sendOff_run motor s.time true (!force) s _, rfl⟩⟩⟩
    rw [hrun]
    refine .step (l := .write ⟨motor, false, true, !force⟩) ⟨rfl, rfl, rfl, rfl⟩
      (.afterWrite rfl rfl rfl fun hpaced => ?_)
    cases force
    · simpa using hslot
    · cases hpaced

def syncTurn (count : ℕ) (now : Instant) (held : List String) (deferred : List String)
    (d : Due F) : Prog (System F) ε (List String) := do
  let s ← read
  if held.contains d.motor.joint then
    pure (if d.want && !s.activeReporting.applied d.motor.joint then deferred ++ [d.motor.joint]
      else deferred)
  else if s.activeReporting.slotFree d.motor.canInterface now = false then pure deferred
  else do
    updateReporting (·.beginWrite d count now)
    (if d.want then do
      let error ← send (.enableActiveReporting d.motor.address)
      when (error = none) (updateReporting (·.recordOn d.motor.joint now))
    else do
      let _ ← sendOff d.motor now)
    pure deferred

theorem syncHolding_eq (modeActive globalDiagnostics : Bool) (now : Instant)
    (rx : String → Option Instant) (held : List String) (s : System F) :
    (syncHolding motors modeActive globalDiagnostics now rx held s : Except ε _ × System F) =
      Prog.foldl (syncTurn motors.length now held) []
        ((s.activeReporting.expireStale now).due motors modeActive globalDiagnostics now rx held)
        { s with activeReporting := s.activeReporting.expireStale now } := rfl

/-- A turn whose drive is held or whose slot is taken. -/
theorem syncTurn_skip (count : ℕ) (deferred : List String) {now : Instant} {held : List String}
    {d : Due F} {s : System F}
    (h : d.motor.joint ∈ held ∨ s.activeReporting.slotFree d.motor.canInterface now = false) :
    ∃ deferred', (syncTurn count now held deferred d s : Except ε _ × System F) =
      (.ok deferred', s) := by
  by_cases hheld : held.contains d.motor.joint = true
  · exact ⟨_, bind_eq_ok.2 ⟨s, s, rfl, by rw [if_pos hheld]; rfl⟩⟩
  · have hslot := h.resolve_left (by simpa using hheld)
    exact ⟨_, bind_eq_ok.2 ⟨s, s, rfl, by rw [if_neg hheld, if_pos hslot]; rfl⟩⟩

theorem syncTurn_write {count : ℕ} {now : Instant} {held deferred : List String}
    {d : Due F} {s : System F} (hheld : d.motor.joint ∉ held)
    (hfree : s.activeReporting.slotFree d.motor.canInterface now = true) :
    (syncTurn count now held deferred d s : Except ε _ × System F) =
      (.ok deferred, afterWrite ⟨d.motor, d.want, true, true⟩
        (s.activeReporting.beginWrite d count now) now s) := by
  refine bind_eq_ok.2 ⟨s, s, rfl, ?_⟩
  rw [if_neg (by simpa using hheld), if_neg (by simp [hfree])]
  refine bind_eq_ok.2 ⟨(), _, rfl, bind_eq_ok.2 ⟨(), _, ?_, rfl⟩⟩
  cases d.want
  · exact bind_eq_ok.2 ⟨_, _, sendOff_run d.motor now true true s _, rfl⟩
  · exact sendOn_run d.motor now true true s _

theorem syncHolding_reports (modeActive globalDiagnostics : Bool) (rx : String → Option Instant)
    (held : List String) (s : System F) :
    ReportingSteps motors (.sync modeActive globalDiagnostics rx held) s
      (syncHolding motors modeActive globalDiagnostics s.time rx held s :
        Except ε _ × System F).2 := by
  have hexpire : ReportingSteps motors (.sync modeActive globalDiagnostics rx held) s
      { s with activeReporting := s.activeReporting.expireStale s.time } :=
    .step (l := .leases) trivial (.leases _)
  rw [syncHolding_eq]
  refine hexpire.trans (Along.foldl (s := { s with
      activeReporting := s.activeReporting.expireStale s.time })
    (R := ReportingSteps motors (.sync modeActive globalDiagnostics rx held))
    (I := fun _ s' => s'.time = s.time) (X := fun _ _ => False) rfl
    fun deferred d hd s' _ htime => ?_).1
  obtain ⟨hmotor, hwant⟩ := mem_due hd
  by_cases hskip : d.motor.joint ∈ held ∨
      s'.activeReporting.slotFree d.motor.canInterface s.time = false
  · obtain ⟨deferred', hrun⟩ := syncTurn_skip (ε := ε) motors.length deferred hskip
    rw [Along, hrun]
    exact ⟨Std.Refl.refl s', htime⟩
  · rw [not_or, Bool.not_eq_false] at hskip
    rw [Along, syncTurn_write hskip.1 hskip.2]
    refine ⟨.step (l := .write ⟨d.motor, d.want, true, true⟩) ⟨hmotor, hskip.1, hwant, rfl, rfl⟩ ?_,
      htime⟩
    rw [← htime] at hskip ⊢
    exact .afterWrite rfl rfl rfl fun _ => hskip.2

end

/-- **An operation makes only the writes that are its own.** -/
theorem exec_reports (config : MotorsConfig F) (op : ReportingOp F) (s : System F) :
    ReportingSteps config.motors op s (op.exec config s).2 := by
  cases op with
  | suspend unrecorded leaveOn pacer =>
    exact (snd_discard _ s).symm ▸ suspend_reports unrecorded leaveOn pacer s.time s
  | writeOff motor force => exact (snd_discard _ s).symm ▸ writeOff_reports motor force s
  | recordOff motor =>
    have hallowed : ReportingOp.Allowed config.motors (.recordOff motor)
        (.write ⟨motor, false, false, false⟩) := ⟨rfl, rfl, rfl, rfl⟩
    exact (snd_discard _ s).symm ▸ (sendOff_reports (T := False) s.time hallowed).keeps s
  | sync modeActive globalDiagnostics rx held =>
    exact (snd_discard _ s).symm ▸ syncHolding_reports modeActive globalDiagnostics rx held s
  | acquire =>
    refine (onLeases_reports (by exact trivial) fun _ _ h => ?_).keeps s
    obtain ⟨_, -, hleases⟩ := acquire_ok h
    exact ⟨_, _, hleases⟩
  | renew =>
    refine (onLeases_reports (by exact trivial) fun _ _ h => ?_).keeps s
    obtain ⟨_, -, -, hleases⟩ := renew_ok h
    exact ⟨_, _, hleases⟩
  | release => exact (onLeases_reports (by exact trivial) fun _ _ h => ⟨_, _, release_ok h⟩).keeps s
  | expireStale => exact .step (l := .leases) trivial (.leases _)

/-! ## The wire -/

omit [World F] in
/-- The drive of a type-24 call, and whether it is an On. -/
def BusCall.type24 : BusCall F → Option (MotorAddress × Bool)
  | .enableActiveReporting a => some (a, true)
  | .disableActiveReporting a => some (a, false)
  | _ => none

/-- The last successful type-24 write to a drive. -/
def lastType24 (a : MotorAddress) (log : List (Handed F)) : Option Bool :=
  log.foldl (fun last h =>
    match h.call.type24 with
    | some (a', on) => if h.error = none ∧ a' = a then some on else last
    | none => last) none

/-- Every operation of the run, with the calls that it handed to the bus. -/
def reportingTrace (config : MotorsConfig F) :
    List (Duration × ReportingOp F) → System F → List (ReportingOp F × List (Handed F))
  | [], _ => []
  | c :: calls, s =>
    let s' := (ReportingOp.call config c s).2
    (c.2, s'.log.drop s.log.length) :: reportingTrace config calls s'

/-- The operations that take the slot of an interface. -/
def ReportingOp.takesSlot : ReportingOp F → Bool
  | .writeOff _ _ | .sync _ _ _ _ => true
  | _ => false

def ReportingOp.paced : ReportingOp F → Bool
  | .writeOff _ force => !force
  | .sync _ _ _ _ => true
  | _ => false

/-- The writes of an operation that take a slot, and whether they waited for it. -/
def slotWrites (e : ReportingOp F × List (Handed F)) : List (Handed F × Bool) :=
  if e.1.takesSlot then e.2.map fun h => (h, e.1.paced) else []

/-- A write that waited for its slot comes a spacing after the one before it on its interface. -/
def Spaced (x y : Handed F × Bool) : Prop :=
  x.1.call.type24.map (·.1.interface) = y.1.call.type24.map (·.1.interface) → y.2 = true →
    x.1.time + activeReportingWriteSpacing ≤ y.1.time

/-- What a synchronisation may write: nothing to a held drive, and no On while a session is Active. -/
def ReportingOp.Guarded (motors : List (MotorEntry F)) (op : ReportingOp F) (h : Handed F) : Prop :=
  ∀ modeActive globalDiagnostics rx held, op = .sync modeActive globalDiagnostics rx held →
    ∃ m ∈ motors, m.joint ∉ held ∧
      (h.call = .enableActiveReporting m.address ∧ modeActive = false ∨
        h.call = .disableActiveReporting m.address)

def ReportingOp.Installed (motors : List (MotorEntry F)) : ReportingOp F → Prop
  | .writeOff motor _ | .recordOff motor => motor ∈ motors
  | _ => True

omit [World F]

theorem Type24Write.type24_call (w : Type24Write F) :
    w.call.type24 = some (w.motor.address, w.on) := by
  unfold Type24Write.call
  cases w.on <;> rfl

theorem ReportingOp.Allowed.motor {op : ReportingOp F}
    (h : op.Allowed motors (.write w)) (hop : op.Installed motors) :
    w.motor ∈ motors ∧ w.slot = op.takesSlot ∧ w.paced = op.paced := by
  cases op with
  | suspend => exact ⟨h.1, h.2.2⟩
  | writeOff => exact ⟨h.1 ▸ hop, h.2.2⟩
  | recordOff => exact ⟨h.1 ▸ hop, h.2.2⟩
  | sync => exact ⟨h.1, h.2.2.2⟩
  | _ => exact h.elim

theorem lastType24_concat (a : MotorAddress) (log : List (Handed F)) {h : Handed F}
    (hcall : h.call = w.call) : lastType24 a (log ++ [h]) =
      if h.error = none ∧ w.motor.address = a then some w.on else lastType24 a log := by
  rw [lastType24, List.foldl_append, ← lastType24, List.foldl_cons, List.foldl_nil, hcall,
    w.type24_call]

section
variable {motors : List (MotorEntry F)} {s s' : System F}

/-- The state shows the last successful write of each motor. -/
def Shows (motors : List (MotorEntry F)) (s : System F) : Prop :=
  ∀ m ∈ motors, s.activeReporting.status m.joint =
    (lastType24 m.address s.log).elim (false, false, false) shown

theorem Shows.write (hjoints : (motors.map (·.joint)).Nodup)
    (haddresses : (motors.map (·.address)).Nodup) (hs : Shows motors s) {w : Type24Write F}
    (hw : w.motor ∈ motors) {h : Handed F} (hcall : h.call = w.call) (hlog : s'.log = s.log ++ [h])
    (hstatus : s'.activeReporting.status = if h.error = none then
      Function.update s.activeReporting.status w.motor.joint (shown w.on)
      else s.activeReporting.status) : Shows motors s' := by
  intro m hm
  rw [hlog, lastType24_concat _ _ hcall, hstatus]
  by_cases herror : h.error = none
  · by_cases hsame : m = w.motor
    · subst hsame
      simp [herror]
    · have hjoint : m.joint ≠ w.motor.joint := fun heq =>
        hsame (List.inj_on_of_nodup_map hjoints hm hw heq)
      have haddress : w.motor.address ≠ m.address := fun heq =>
        hsame (List.inj_on_of_nodup_map haddresses hw hm heq).symm
      rw [if_pos herror, Function.update_of_ne hjoint, if_neg fun h => haddress h.2, hs m hm]
  · rw [if_neg herror, if_neg fun h => herror h.1, hs m hm]

/-- The writes that took a slot so far. -/
structure SlotsKept (past : List (Handed F × Bool)) (s : System F) : Prop where
  spaced : past.Pairwise Spaced
  latest : ∀ x ∈ past, ∃ a on t, x.1.call.type24 = some (a, on) ∧
    s.activeReporting.lastWriteByInterface a.interface = some t ∧ x.1.time ≤ t ∧ t ≤ s.time

variable {past : List (Handed F × Bool)}

theorem SlotsKept.quiet (h : SlotsKept past s) (htime : s.time ≤ s'.time)
    (hslots : s'.activeReporting.lastWriteByInterface = s.activeReporting.lastWriteByInterface) :
    SlotsKept past s' := by
  refine ⟨h.spaced, fun x hx => ?_⟩
  obtain ⟨a, on, t, hcall, hlast, hle, hle'⟩ := h.latest x hx
  exact ⟨a, on, t, hcall, hslots ▸ hlast, hle, hle'.trans htime⟩

theorem SlotsKept.write (hs : SlotsKept past s) {w : Type24Write F}
    {h : Handed F} (hcall : h.call = w.call) (hat : h.time = s.time) (htime : s'.time = s.time)
    (hfree : w.paced = true → s.activeReporting.slotFree w.motor.canInterface s.time = true)
    (hslots : s'.activeReporting.lastWriteByInterface =
      w.takes s.time s.activeReporting.lastWriteByInterface) :
    SlotsKept (past ++ if w.slot then [(h, w.paced)] else []) s' := by
  cases hslot : w.slot with
  | false =>
    rw [if_neg Bool.false_ne_true, List.append_nil]
    exact hs.quiet htime.ge (by rw [hslots, Type24Write.takes, hslot]; rfl)
  | true =>
    have htakes : s'.activeReporting.lastWriteByInterface = Function.update
        s.activeReporting.lastWriteByInterface w.motor.canInterface (some s.time) := by
      rw [hslots, Type24Write.takes, if_pos hslot]
    have hnew : h.call.type24 = some (w.motor.address, w.on) := hcall ▸ w.type24_call
    rw [if_pos rfl]
    refine ⟨List.pairwise_append.2 ⟨hs.spaced, List.pairwise_singleton _ _, ?_⟩, ?_⟩
    · intro x hx y hy hinterface hpaced
      obtain rfl := List.mem_singleton.1 hy
      obtain ⟨a, on, t, hx', hlast, hle, hle'⟩ := hs.latest x hx
      rw [hx', hnew] at hinterface
      have hsame : a.interface = w.motor.canInterface := Option.some.inj hinterface
      have hslotFree := hfree hpaced
      rw [slotFree, ← hsame, hlast, Option.all_some, decide_eq_true_eq]
        at hslotFree
      calc x.1.time + activeReportingWriteSpacing
          ≤ t + activeReportingWriteSpacing := Nat.add_le_add_right hle _
        _ = activeReportingWriteSpacing + t := Nat.add_comm ..
        _ ≤ s.time := Nat.add_le_of_le_sub hle' hslotFree
        _ = h.time := hat.symm
    · intro x hx
      rw [List.mem_append, List.mem_singleton] at hx
      rw [htakes, htime]
      rcases hx with hx | rfl
      · obtain ⟨a, on, t, hx', hlast, hle, hle'⟩ := hs.latest x hx
        by_cases hsame : a.interface = w.motor.canInterface
        · exact ⟨a, on, s.time, hx', by rw [hsame, Function.update_self], hle.trans hle', le_rfl⟩
        · exact ⟨a, on, t, hx', by rw [Function.update_of_ne hsame, hlast], hle, hle'⟩
      · exact ⟨w.motor.address, w.on, s.time, hnew, Function.update_self .., hat.le, le_rfl⟩

/-- What one operation adds to the wire. -/
theorem ReportingSteps.wire {op : ReportingOp F} (hjoints : (motors.map (·.joint)).Nodup)
    (haddresses : (motors.map (·.address)).Nodup) (hop : op.Installed motors)
    (hshows : Shows motors s) (hslots : SlotsKept past s) (h : ReportingSteps motors op s s') :
    ∃ hs, s'.log = s.log ++ hs ∧ (∀ h ∈ hs, op.Guarded motors h) ∧
      Shows motors s' ∧ SlotsKept (past ++ slotWrites (op, hs)) s' := by
  refine Within.invariant (P := fun t => ∃ hs, t.log = s.log ++ hs ∧
    (∀ h ∈ hs, op.Guarded motors h) ∧ Shows motors t ∧ SlotsKept (past ++ slotWrites (op, hs)) t)
    (fun l t t' hl hstep ht => ?_) h
    ⟨[], (List.append_nil _).symm, fun h hh => absurd hh List.not_mem_nil, hshows, ?_⟩
  · obtain ⟨hs, hlog, hguarded, hshows, hslots⟩ := ht
    cases hstep with
    | quiet log time reporting =>
      refine ⟨hs, log.trans hlog, hguarded, fun m hm => ?_, hslots.quiet time (by rw [reporting])⟩
      rw [reporting, log, hshows m hm]
    | leases => exact ⟨hs, hlog, hguarded, hshows, hslots.quiet le_rfl rfl⟩
    | write w h call at_ log time free status slots _ =>
      obtain ⟨hmotor, hslot, hpaced⟩ := ReportingOp.Allowed.motor hl hop
      refine ⟨hs ++ [h], by rw [log, hlog, List.append_assoc], ?_,
        hshows.write hjoints haddresses hmotor call log status, ?_⟩
      · intro x hx
        rw [List.mem_append, List.mem_singleton] at hx
        rcases hx with hx | rfl
        · exact hguarded x hx
        · rintro modeActive globalDiagnostics rx held rfl
          obtain ⟨-, hheld, hon, -⟩ := hl
          refine ⟨w.motor, hmotor, hheld, ?_⟩
          rw [call, Type24Write.call]
          cases hw : w.on
          · exact .inr rfl
          · exact .inl ⟨rfl, hon hw⟩
      · have hnext := hslots.write call at_ time free slots
        rw [hslot, hpaced, List.append_assoc] at hnext
        convert hnext using 2
        unfold slotWrites
        cases op.takesSlot <;> simp
  · have hnil : slotWrites (op, ([] : List (Handed F))) = [] := by
      unfold slotWrites
      cases op.takesSlot <;> rfl
    rw [hnil, List.append_nil]
    exact hslots

end

variable [World F]

/-- The whole run. -/
theorem reportingTrace_wire {config : MotorsConfig F} (hjoints : (config.motors.map (·.joint)).Nodup)
    (haddresses : (config.motors.map (·.address)).Nodup) {calls : List (Duration × ReportingOp F)}
    (hcalls : ∀ c ∈ calls, c.2.Installed config.motors) {past : List (Handed F × Bool)}
    {s : System F} (hshows : Shows config.motors s) (hslots : SlotsKept past s) :
    Shows config.motors (reportingRun config calls s) ∧
    (∀ e ∈ reportingTrace config calls s, ∀ h ∈ e.2, e.1.Guarded config.motors h) ∧
    (past ++ (reportingTrace config calls s).flatMap slotWrites).Pairwise Spaced := by
  induction calls generalizing s past with
  | nil =>
    refine ⟨hshows, fun e he => absurd he List.not_mem_nil, ?_⟩
    rw [reportingTrace, List.flatMap_nil, List.append_nil]
    exact hslots.spaced
  | cons c calls ih =>
    rw [List.forall_mem_cons] at hcalls
    -- the delay before the call changes nothing but the clock
    have hslept : SlotsKept past { s with time := s.time + c.1 } :=
      hslots.quiet (Nat.le_add_right ..) rfl
    obtain ⟨hs, hlog, hguarded, hshows', hslots'⟩ := ReportingSteps.wire hjoints haddresses hcalls.1
      (s := { s with time := s.time + c.1 }) hshows hslept (exec_reports config c.2 _)
    obtain ⟨hrun, htrace, hspaced⟩ := ih hcalls.2 hshows' hslots'
    have hdrop : (ReportingOp.call config c s).2.log.drop s.log.length = hs := by
      change (c.2.exec config { s with time := s.time + c.1 }).2.log.drop s.log.length = hs
      rw [hlog, List.drop_left]
    refine ⟨hrun, ?_, ?_⟩
    · rw [reportingTrace, List.forall_mem_cons, hdrop]
      exact ⟨hguarded, htrace⟩
    · rw [reportingTrace, List.flatMap_cons, hdrop, ← List.append_assoc]
      exact hspaced

/-- **The reporting state matches the wire.** From a fresh state, after any operations at nondecreasing
instants and whatever becomes of their writes: a joint is applied On, and has the instant of a last
On, exactly if the last successful type-24 write to it was an On, and has the instant of a last Off
exactly if it was an Off; a synchronisation writes to no held joint, and no On while a session is
Active; and a write of a synchronisation or of an unforced Off comes a spacing after every earlier
write that took the slot of its interface. -/
theorem reporting_matches_wire {config : MotorsConfig F}
    (hjoints : (config.motors.map (·.joint)).Nodup)
    (haddresses : (config.motors.map (·.address)).Nodup) {calls : List (Duration × ReportingOp F)}
    (hcalls : ∀ c ∈ calls, c.2.Installed config.motors) {s : System F}
    (hfresh : s.activeReporting = {}) (hlog : s.log = []) :
    (∀ m ∈ config.motors,
      ((reportingRun config calls s).activeReporting.applied m.joint = true ↔
        lastType24 m.address (reportingRun config calls s).log = some true) ∧
      (((reportingRun config calls s).activeReporting.lastEnableTx m.joint).isSome = true ↔
        lastType24 m.address (reportingRun config calls s).log = some true) ∧
      (((reportingRun config calls s).activeReporting.offWrittenAt m.joint).isSome = true ↔
        lastType24 m.address (reportingRun config calls s).log = some false)) ∧
    (∀ e ∈ reportingTrace config calls s, ∀ h ∈ e.2, e.1.Guarded config.motors h) ∧
    ((reportingTrace config calls s).flatMap slotWrites).Pairwise Spaced := by
  have hshows : Shows config.motors s := fun m _ => by rw [hfresh, hlog]; rfl
  have hslots : SlotsKept [] s := ⟨.nil, fun x hx => absurd hx List.not_mem_nil⟩
  obtain ⟨hrun, hguarded, hspaced⟩ := reportingTrace_wire hjoints haddresses hcalls hshows hslots
  refine ⟨fun m hm => ?_, hguarded, hspaced⟩
  have hstatus := hrun m hm
  generalize lastType24 m.address (reportingRun config calls s).log = last at hstatus ⊢
  simp only [status, Prod.ext_iff] at hstatus
  rw [hstatus.1, hstatus.2.1, hstatus.2.2]
  rcases last with _ | _ | _ <;> simp [shown]

end

section
attribute [local instance] Bench.world

def Bench.started : System ℚ :=
  construct (installation world world_validates world_derives) .plain 0

/-- A synchronisation of the bench with global diagnostics. -/
theorem reporting_matches_wire_bench :
    ((reportingRun Bench.motors [(0, .sync false true (fun _ => none) [])]
        Bench.started).activeReporting.applied "elbow" = true ↔
      lastType24 Bench.motor.address (reportingRun Bench.motors
        [(0, .sync false true (fun _ => none) [])] Bench.started).log = some true) := by
  refine ((reporting_matches_wire (by decide) (by decide) ?_ rfl rfl).1 Bench.motor
    (List.mem_singleton_self _)).1
  intro c hc
  obtain rfl := List.mem_singleton.1 hc
  trivial

end

end Marengo

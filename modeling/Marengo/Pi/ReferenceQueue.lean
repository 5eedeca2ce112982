import Marengo.Davout.Commit
import Marengo.Lib.Machine

/-!
# The operator's reference queue

Joints are acquired one at a time; other commands are deferred while the queue is busy. Every admitted
joint gets one terminal event, in order, and every deferred command is released or discarded
(`reference_queue_answers`).
-/

namespace Marengo

open Machine

variable {F H C : Type}

/-- What the owner answers during one call. -/
structure ReferenceDriver (F H : Type) where
  hardwareEstopAsserted : Bool
  request : String → ReferenceAudit → Except String H
  outcome : H → Except String (ReferenceOutcome F)

inductive ReferenceEvent (F : Type)
  | current (joint : String) (positionRad : F)
  | failed (joint message : String)
  | skipped (joint : String)
  | deferredDiscarded (count : ℕ)

def ReferenceEvent.terminal : ReferenceEvent F → Option String
  | .current joint _ | .failed joint _ | .skipped joint => some joint
  | .deferredDiscarded _ => none

def terminals (events : List (ReferenceEvent F)) : List String := events.filterMap (·.terminal)

@[simp] theorem terminals_append (es es' : List (ReferenceEvent F)) :
    terminals (es ++ es') = terminals es ++ terminals es' := List.filterMap_append

theorem terminals_map {f : String → ReferenceEvent F} (hf : ∀ j, (f j).terminal = some j)
    (joints : List String) : terminals (joints.map f) = joints := by
  rw [terminals, List.filterMap_map]
  exact (congrArg (List.filterMap · joints) (funext hf)).trans List.filterMap_some

def maxDeferredCommands : ℕ := 64

def cancelled : String := "cancelled"

structure QueuedReference where
  joint : String
  operator : String

/-- Joints still to acquire, the request in flight, and the commands deferred until the queue
drains. -/
structure ReferenceQueue (H C : Type) where
  session : String
  pending : List QueuedReference := []
  inFlight : Option (QueuedReference × H) := none
  deferred : List C := []

namespace ReferenceQueue

variable (self : ReferenceQueue H C)

/-- A request is in flight or joints remain queued. -/
def isBusy : Bool := self.inFlight.isSome || !self.pending.isEmpty

/-- Validates and queues the joints in order; a refusal queues nothing. -/
def admitJoints (joints : List String) (signTested : Bool) (operator : String)
    (isKnownJoint : String → Bool) : Except String Unit × ReferenceQueue H C :=
  if !signTested then (.error "sign-tested required (operator attestation)", self)
  else if joints.isEmpty then (.error "no joints given", self)
  else match joints.find? (!isKnownJoint ·) with
    | some joint => (.error ("unknown joint " ++ joint), self)
    | none =>
      if self.isBusy then (.error "reference queue busy", self)
      else (.ok (), { self with pending := self.pending ++ joints.map (⟨·, operator⟩) })

def defer (command : C) : Bool × ReferenceQueue H C :=
  if maxDeferredCommands ≤ self.deferred.length then (false, self)
  else (true, { self with deferred := self.deferred ++ [command] })

/-- The next deferred command once the queue has drained. -/
def takeReadyDeferred : Option C × ReferenceQueue H C :=
  if self.isBusy then (none, self)
  else (self.deferred.head?, { self with deferred := self.deferred.tail })

/-- The report of the deferred commands that are discarded. -/
def discarded : List (ReferenceEvent F) :=
  if self.deferred.isEmpty then [] else [.deferredDiscarded self.deferred.length]

/-- Cancels every unfinished joint and discards the deferred commands. -/
def cancel : List (ReferenceEvent F) × ReferenceQueue H C :=
  (((self.inFlight.map (·.1)).toList ++ self.pending).map (.failed ·.joint cancelled) ++
    self.discarded, { session := self.session })

/-- A joint failed: the pending ones are skipped and the deferred commands discarded. -/
def fail (joint message : String) : List (ReferenceEvent F) × ReferenceQueue H C :=
  (.failed joint message :: self.pending.map (.skipped ·.joint) ++ self.discarded,
    { self with pending := [], deferred := [] })

/-- Starts the next joint; the joint whose request is accepted. -/
def startNext (driver : ReferenceDriver F H) :
    List (ReferenceEvent F) × Option String × ReferenceQueue H C :=
  match self.pending with
  | [] => ([], none, self)
  | next :: pending =>
    match driver.request next.joint ⟨next.operator, self.session⟩ with
    | .ok handle =>
      ([], some next.joint, { self with pending := pending, inFlight := some (next, handle) })
    | .error message =>
      let r := { self with pending := pending }.fail next.joint message
      (r.1, none, r.2)

def takeInFlight : ReferenceQueue H C := { self with inFlight := none }

/-- Advances after a control tick: the events, and the joint that is started. -/
def pump (driver : ReferenceDriver F H) :
    List (ReferenceEvent F) × Option String × ReferenceQueue H C :=
  if !self.isBusy then ([], none, self)
  else if driver.hardwareEstopAsserted then
    let r := self.cancel (F := F)
    (r.1, none, r.2)
  else match self.inFlight with
    | none => self.startNext driver
    | some (entry, handle) =>
      match driver.outcome handle with
      | .ok .inProgress => ([], none, self)
      | .ok (.current positionRad) =>
        let r := self.takeInFlight.startNext driver
        (.current entry.joint positionRad :: r.1, r.2)
      | .ok (.failed message) | .error message =>
        let r := self.takeInFlight.fail entry.joint message
        (r.1, none, r.2)

def flying : List String := (self.inFlight.map (·.1.joint)).toList

/-- The joints without a terminal event. -/
def waiting : List String := self.flying ++ self.pending.map (·.joint)

end ReferenceQueue

/-! ## Runs -/

inductive QueueCall (F H C : Type)
  | admitJoints (joints : List String) (signTested : Bool) (operator : String)
      (isKnownJoint : String → Bool)
  | defer (command : C)
  | takeReadyDeferred
  | pump (driver : ReferenceDriver F H)
  | cancel

/-- What a call answers. -/
inductive QueueAnswer (F C : Type)
  | admitted (result : Except String Unit)
  | deferred (accepted : Bool)
  | taken (command : Option C)
  | events (events : List (ReferenceEvent F)) (started : Option String)

def ReferenceQueue.step (q : ReferenceQueue H C) :
    QueueCall F H C → QueueAnswer F C × ReferenceQueue H C
  | .admitJoints joints signTested operator isKnownJoint =>
    let r := q.admitJoints joints signTested operator isKnownJoint
    (.admitted r.1, r.2)
  | .defer command => (.deferred (q.defer command).1, (q.defer command).2)
  | .takeReadyDeferred => (.taken q.takeReadyDeferred.1, q.takeReadyDeferred.2)
  | .pump driver => (.events (q.pump driver).1 (q.pump driver).2.1, (q.pump driver).2.2)
  | .cancel =>
    let r := q.cancel (F := F)
    (.events r.1 none, r.2)

abbrev QueueTurn (F H C : Type) := Turn (ReferenceQueue H C) (QueueCall F H C) (QueueAnswer F C)

namespace QueueTurn

variable (t : QueueTurn F H C)

def admitted : List String :=
  match t.input, t.output with
  | .admitJoints joints .., .admitted (.ok _) => joints
  | _, _ => []

/-- The joints a turn gives a terminal event. -/
def ended : List String :=
  match t.output with
  | .events events _ => terminals events
  | _ => []

/-- The joint whose acquisition a turn starts. -/
def started : List String :=
  match t.output with
  | .events _ started => started.toList
  | _ => []

def deferred : List C :=
  match t.input, t.output with
  | .defer command, .deferred true => [command]
  | _, _ => []

def released : List C :=
  match t.output with
  | .taken command => command.toList
  | _ => []

def discarded : List C :=
  match t.output with
  | .events _ _ => if t.after.deferred.isEmpty then t.before.deferred else []
  | _ => []

end QueueTurn

/-- The turn cancels the queue: on request, or for a hardware E-stop while it is busy. -/
def QueueTurn.stops (t : QueueTurn F H C) : Bool :=
  match t.input with
  | .cancel => true
  | .pump driver => t.before.isBusy && driver.hardwareEstopAsserted
  | _ => false

/-- What a call that reports does to the queue `q`. Unless it stops the queue, no joint fails and
nothing is discarded, or a joint fails, every joint that waits behind it is skipped and every deferred
command is discarded. If it stops the queue, every joint is cancelled and every deferred command
discarded. -/
inductive Reported (q q' : ReferenceQueue H C) (stop : Bool) : List (ReferenceEvent F) → Prop
  | calm (events : List (ReferenceEvent F)) (running : stop = false)
      (h : ∀ e ∈ events, ∃ joint p, e = .current joint p) (deferred : q'.deferred = q.deferred) :
      Reported q q' stop events
  | failed (earlier : List (ReferenceEvent F)) (joint message : String) (behind : List String)
      (running : stop = false) (h : ∀ e ∈ earlier, ∃ joint p, e = .current joint p)
      (waiting : q.waiting = terminals earlier ++ joint :: behind)
      (idle : q'.isBusy = false) (deferred : q'.deferred = []) :
      Reported q q' stop (earlier ++ .failed joint message :: behind.map .skipped ++ q.discarded)
  | cancelled (stopped : stop = true) (idle : q'.isBusy = false) (deferred : q'.deferred = []) :
      Reported q q' stop (q.waiting.map (.failed · Marengo.cancelled) ++ q.discarded)

namespace ReferenceQueue

variable (q : ReferenceQueue H C)

/-- What a reporting call does, in all. -/
structure Advances (q q' : ReferenceQueue H C) (stop : Bool) (events : List (ReferenceEvent F))
    (started : Option String) : Prop where
  ended : q.waiting = terminals events ++ q'.waiting
  flying : List.Sublist (q.flying ++ started.toList) (terminals events ++ q'.flying)
  reported : Reported q q' stop events

@[simp] theorem terminals_discarded : terminals (q.discarded (F := F)) = [] := by
  unfold discarded
  split <;> rfl

theorem cancel_advances : Advances q (q.cancel (F := F)).2 true (q.cancel (F := F)).1 none := by
  have hevents : (q.cancel (F := F)).1 =
      q.waiting.map (.failed · Marengo.cancelled) ++ q.discarded := by
    simp [cancel, waiting, flying, Function.comp_def, Option.toList_map]
  have hended : terminals (q.cancel (F := F)).1 = q.waiting := by
    rw [hevents, terminals_append, terminals_discarded, List.append_nil]
    exact terminals_map (fun _ => rfl) _
  refine ⟨?_, ?_, hevents ▸ .cancelled rfl rfl rfl⟩
  · rw [hended]
    exact (List.append_nil _).symm
  · rw [hended]
    simp [waiting, flying]

/-- A joint fails after the joint in flight, if any, has ended well. -/
theorem Advances.ofFail {q q' : ReferenceQueue H C} {earlier : List (ReferenceEvent F)}
    {joint message : String} {behind : List String}
    (h : ∀ e ∈ earlier, ∃ joint p, e = .current joint p)
    (hwaiting : q.waiting = terminals earlier ++ joint :: behind)
    (hq' : q' = { session := q.session }) :
    Advances q q' false (earlier ++ .failed joint message :: behind.map .skipped ++ q.discarded)
      none := by
  subst hq'
  have hskipped : terminals (.failed joint message :: behind.map (.skipped : _ → ReferenceEvent F)) =
      joint :: behind :=
    congrArg (joint :: ·) (terminals_map (fun _ => rfl) behind)
  have hended : terminals (earlier ++ .failed joint message :: behind.map .skipped ++ q.discarded) =
      q.waiting := by
    rw [terminals_append, terminals_append, terminals_discarded, List.append_nil, hwaiting, hskipped]
  refine ⟨?_, ?_, .failed earlier joint message behind rfl h hwaiting rfl rfl⟩
  · rw [hended]
    exact (List.append_nil _).symm
  · rw [hended]
    simp [ReferenceQueue.waiting, ReferenceQueue.flying]

/-- The next joint is started, after the events of the one that was in flight. -/
theorem startNext_advances (driver : ReferenceDriver F H) (earlier : List (ReferenceEvent F))
    (h : ∀ e ∈ earlier, ∃ joint p, e = .current joint p) (hflying : q.flying = terminals earlier) :
    let r := q.takeInFlight.startNext driver
    Advances q r.2.2 false (earlier ++ r.1) r.2.1 := by
  have hwaiting : q.waiting = terminals earlier ++ q.pending.map (·.joint) :=
    congrArg (· ++ q.pending.map (·.joint)) hflying
  intro r
  cases hpending : q.pending with
  | nil =>
    have hr : r = ([], none, q.takeInFlight) := by
      simp only [r, startNext, takeInFlight, hpending]
    rw [hr, List.append_nil]
    refine ⟨?_, ?_, .calm _ rfl h rfl⟩
    · rw [hwaiting]
      rfl
    · rw [hflying]
      exact List.Sublist.refl _
  | cons next pending =>
    cases hrequest : driver.request next.joint ⟨next.operator, q.session⟩ with
    | ok handle =>
      have hr : r = ([], some next.joint,
          { q with pending := pending, inFlight := some (next, handle) }) := by
        simp only [r, startNext, takeInFlight, hpending, hrequest]
      rw [hr, List.append_nil]
      refine ⟨?_, ?_, .calm _ rfl h rfl⟩
      · rw [hwaiting, hpending]
        rfl
      · rw [hflying]
        exact List.Sublist.refl _
    | error message =>
      have hr : r = (.failed next.joint message :: (pending.map (·.joint)).map .skipped ++
          q.discarded, none, { session := q.session }) := by
        simp only [r, startNext, takeInFlight, hpending, hrequest, fail, List.map_map]
        rfl
      rw [hr, ← List.append_assoc]
      exact .ofFail h (hwaiting.trans (by rw [hpending, List.map_cons])) rfl

theorem fail_advances {x : QueuedReference × H} (hflight : q.inFlight = some x) (message : String) :
    let r := q.takeInFlight.fail (F := F) x.1.joint message
    Advances q r.2 false r.1 none := by
  intro r
  have hr : r = ([] ++ .failed x.1.joint message :: (q.pending.map (·.joint)).map .skipped ++
      q.discarded, { session := q.session }) := by
    simp only [r, fail, List.map_map]
    rfl
  rw [hr]
  refine .ofFail (fun _ h => absurd h List.not_mem_nil) ?_ rfl
  rw [waiting, flying, hflight]
  rfl

theorem pump_advances (driver : ReferenceDriver F H) :
    Advances q (q.pump driver).2.2 (q.isBusy && driver.hardwareEstopAsserted) (q.pump driver).1
      (q.pump driver).2.1 := by
  have hquiet : Advances (F := F) q q false [] none :=
    ⟨rfl, by simp, .calm _ rfl (fun _ h => absurd h List.not_mem_nil) rfl⟩
  cases hbusy : q.isBusy with
  | false =>
    rw [show q.pump driver = ([], none, q) by simp [pump, hbusy]]
    exact hquiet
  | true =>
    cases hestop : driver.hardwareEstopAsserted with
    | true =>
      rw [show q.pump driver = ((q.cancel (F := F)).1, none, (q.cancel (F := F)).2) by
        simp [pump, hbusy, hestop]]
      exact q.cancel_advances
    | false =>
      rw [Bool.and_false]
      cases hflight : q.inFlight with
      | none =>
        have hq : q.takeInFlight = q := by rw [takeInFlight, ← hflight]
        have hrun : q.pump driver = q.takeInFlight.startNext driver := by
          simp [pump, hbusy, hestop, hflight, hq]
        rw [hrun]
        exact q.startNext_advances driver [] (fun _ h => absurd h List.not_mem_nil)
          (by rw [flying, hflight]; rfl)
      | some x =>
        have hflying : q.flying = [x.1.joint] := by rw [flying, hflight]; rfl
        have hfails : ∀ message, q.pump driver = ((q.takeInFlight.fail x.1.joint message).1, none,
            (q.takeInFlight.fail (F := F) x.1.joint message).2) →
            Advances q (q.pump driver).2.2 false (q.pump driver).1 (q.pump driver).2.1 :=
          fun message hrun => hrun ▸ q.fail_advances hflight message
        cases houtcome : driver.outcome x.2 with
        | error message =>
          exact hfails message (by simp [pump, hbusy, hestop, hflight, houtcome])
        | ok outcome =>
          cases outcome with
          | inProgress =>
            rw [show q.pump driver = ([], none, q) by
              simp [pump, hbusy, hestop, hflight, houtcome]]
            exact hquiet
          | current positionRad =>
            have hrun : q.pump driver = (.current x.1.joint positionRad ::
                (q.takeInFlight.startNext driver).1, (q.takeInFlight.startNext driver).2) := by
              simp [pump, hbusy, hestop, hflight, houtcome]
            rw [hrun]
            refine q.startNext_advances driver [.current x.1.joint positionRad]
              (fun e he => ?_) hflying
            exact ⟨_, _, List.mem_singleton.1 he⟩
          | failed message =>
            exact hfails message (by simp [pump, hbusy, hestop, hflight, houtcome])

end ReferenceQueue

/-- What a turn takes in, lets go and reports. -/
structure QueueTurn.Orderly (t : QueueTurn F H C) : Prop where
  waiting : t.before.waiting ++ admitted t = ended t ++ t.after.waiting
  flying : List.Sublist (t.before.flying ++ started t) (ended t ++ t.after.flying)
  deferred : t.before.deferred ++ deferred t = (released t ++ discarded t) ++ t.after.deferred
  idle : released t ≠ [] → t.before.isBusy = false
  reported : ∀ events started, t.output = .events events started →
    Reported t.before t.after (stops t) events

theorem ReferenceQueue.Advances.orderly {t : QueueTurn F H C} {events : List (ReferenceEvent F)}
    {started : Option String} (h : Advances t.before t.after (QueueTurn.stops t) events started)
    (hout : t.output = .events events started) (hadmitted : QueueTurn.admitted t = [])
    (hdeferred : QueueTurn.deferred t = []) : QueueTurn.Orderly t := by
  have hended : QueueTurn.ended t = terminals events := by rw [QueueTurn.ended, hout]
  have hreleased : QueueTurn.released t = [] := by rw [QueueTurn.released, hout]
  refine ⟨?_, ?_, ?_, fun hne => absurd hreleased hne, ?_⟩
  · rw [hadmitted, List.append_nil, hended]
    exact h.ended
  · rw [hended, QueueTurn.started, hout]
    exact h.flying
  · rw [hdeferred, hreleased, QueueTurn.discarded, hout]
    -- a call that reports keeps every deferred command or none
    have hkept : t.after.deferred = t.before.deferred ∨ t.after.deferred = [] := by
      cases h.reported with
      | calm _ _ _ deferred => exact .inl deferred
      | failed _ _ _ _ _ _ _ _ deferred => exact .inr deferred
      | cancelled _ _ deferred => exact .inr deferred
    rcases hkept with hsame | hnone
    · rw [hsame]
      cases t.before.deferred <;> simp
    · simp [hnone]
  · intro events' started' hout'
    cases hout.symm.trans hout'
    exact h.reported

namespace ReferenceQueue

theorem step_orderly (q : ReferenceQueue H C) (i : QueueCall F H C) :
    QueueTurn.Orderly (turn step q i) := by
  cases i with
  | pump driver => exact (q.pump_advances driver).orderly rfl rfl rfl
  | cancel => exact q.cancel_advances.orderly rfl rfl rfl
  | admitJoints joints signTested operator isKnownJoint =>
    have hcases : (∃ e, q.admitJoints joints signTested operator isKnownJoint = (.error e, q)) ∨
        q.admitJoints joints signTested operator isKnownJoint =
          (.ok (), { q with pending := q.pending ++ joints.map (⟨·, operator⟩) }) := by
      unfold admitJoints
      split
      · exact .inl ⟨_, rfl⟩
      split
      · exact .inl ⟨_, rfl⟩
      split
      · exact .inl ⟨_, rfl⟩
      split
      · exact .inl ⟨_, rfl⟩
      · exact .inr rfl
    rcases hcases with ⟨e, hrun⟩ | hrun <;>
      constructor <;> simp [turn, step, hrun, QueueTurn.admitted, QueueTurn.ended, QueueTurn.started,
        QueueTurn.deferred, QueueTurn.released, QueueTurn.discarded, waiting, flying,
        Function.comp_def]
  | defer command =>
    by_cases hfull : maxDeferredCommands ≤ q.deferred.length <;>
      constructor <;> simp [turn, step, defer, hfull, QueueTurn.admitted, QueueTurn.ended,
        QueueTurn.started, QueueTurn.deferred, QueueTurn.released, QueueTurn.discarded, waiting,
        flying]
  | takeReadyDeferred =>
    have hsplit : q.deferred = q.deferred.head?.toList ++ q.deferred.tail := by
      cases q.deferred <;> rfl
    cases hbusy : q.isBusy <;> constructor <;>
      simp [turn, step, takeReadyDeferred, hbusy, QueueTurn.admitted, QueueTurn.ended,
        QueueTurn.started, QueueTurn.deferred, QueueTurn.released, QueueTurn.discarded, waiting,
        flying, ← hsplit]

end ReferenceQueue

/-- **The reference queue answers.** In every run, the joints that got a terminal event and then those
that wait are the admitted joints, in order; every acquisition that was started, except the one in
flight, belongs to a joint that got its event; the commands released or discarded and then those still
deferred are the deferred commands, in order; a command is released only while the queue is idle; and
a call that reports a failure skips every joint behind it, and one that stops the queue cancels every
joint, and both discard and report every deferred command. -/
theorem reference_queue_answers (session : String) (calls : List (QueueCall F H C)) :
    (turns ReferenceQueue.step { session := session } calls).flatMap QueueTurn.admitted =
      (turns ReferenceQueue.step { session := session } calls).flatMap QueueTurn.ended ++
        (final ReferenceQueue.step { session := session } calls).waiting ∧
    List.Sublist ((turns ReferenceQueue.step { session := session } calls).flatMap QueueTurn.started)
      ((turns ReferenceQueue.step { session := session } calls).flatMap QueueTurn.ended ++
        (final ReferenceQueue.step { session := session } calls).flying) ∧
    (turns ReferenceQueue.step { session := session } calls).flatMap QueueTurn.deferred =
      (turns ReferenceQueue.step { session := session } calls).flatMap
          (fun t => QueueTurn.released t ++ QueueTurn.discarded t) ++
        (final ReferenceQueue.step { session := session } calls).deferred ∧
    ∀ t ∈ turns ReferenceQueue.step { session := session } calls,
      (QueueTurn.released t ≠ [] → t.before.isBusy = false) ∧
      ∀ events started, t.output = .events events started →
        Reported t.before t.after (QueueTurn.stops t) events := by
  refine ⟨?_, ?_, ?_, ?_⟩
  · exact conserved ReferenceQueue.waiting _ _ (fun q i => (q.step_orderly i).waiting)
      { session := session } calls
  · exact conserved_sublist ReferenceQueue.flying _ _ (fun q i => (q.step_orderly i).flying)
      { session := session } calls
  · exact conserved ReferenceQueue.deferred _ _ (fun q i => (q.step_orderly i).deferred)
      { session := session } calls
  · exact forall_turns (I := fun _ => True) (fun _ _ _ => trivial)
      (fun q i _ => ⟨(q.step_orderly i).idle, (q.step_orderly i).reported⟩) trivial calls

/-- Two joints are admitted and cancelled: the second is not skipped. -/
theorem cancel_skips_nothing : (turns (ReferenceQueue.step (F := ℚ) (H := Unit) (C := Unit))
    { session := "s" } [.admitJoints ["elbow", "wrist"] true "op" fun _ => true,
      .cancel]).map (·.output) = [.admitted (.ok ()), .events [.failed "elbow" cancelled, .failed "wrist" cancelled] none] := rfl

end Marengo

import Mathlib.Algebra.BigOperators.Group.Finset.Basic
import Marengo.Davout.Basics
import Marengo.Lib.Machine

/-!
# The outbox of the runtime

State publications wait in one slot per topic, where a newer one replaces an older; events wait in
order. The sender serves the slots and the events in turn. No publication is lost uncounted, and an
event waits for at most six states (`outbox_accounts`).
-/

namespace Marengo

open Machine

def maxPayloadBytes : ℕ := 64 * 1024
def Outbox.eventCapacity : ℕ := 128
def eventByteCapacity : ℕ := 512 * 1024
def stateMaxAge : Duration := millis 1000

def latestTopics : List String :=
  ["robot/safety", "robot/heartbeat", "robot/state", "sensors/imu/torso", "host/metrics/pi",
    "robot/actuator/limits"]

def eventTopics : List String := ["logs/structured", "robot/audit/action", "robot/audit/tuning"]

inductive ForwardOutcome
  | accepted | coalesced | dropped
deriving DecidableEq

structure Publication where
  topic : String
  payload : List UInt8
  admitted : Instant

structure Outbox where
  latest : ℕ → Option Publication := fun _ => none
  events : List Publication := []
  eventBytes : ℕ := 0
  nextClass : ℕ := 0
  connected : Bool := false
  closed : Bool := false
  accepted : ℕ := 0
  coalesced : ℕ := 0
  dropped : ℕ := 0
  expired : ℕ := 0
  rejected : ℕ := 0
  disconnected : ℕ := 0

namespace Outbox

variable (self : Outbox)

def setConnected (connected : Bool) : Outbox :=
  { self with connected := connected && !self.closed }

def close : Outbox := { self with closed := true, connected := false }

/-- An admission that was queued while nobody was connected. -/
def noteDisconnected : Outbox :=
  { self with disconnected := self.disconnected + if self.connected then 0 else 1 }

/-- `admit`, where `contended` says that another thread holds the lock. -/
def admitPublication (topic : String) (payload : List UInt8) (contended : Bool) (now : Instant) :
    ForwardOutcome × Outbox :=
  if self.closed ∨ maxPayloadBytes < payload.length ∨ topic ∉ latestTopics ∧ topic ∉ eventTopics then
    (.dropped, { self with rejected := self.rejected + 1 })
  else if contended then (.dropped, { self with dropped := self.dropped + 1 })
  else if topic ∈ latestTopics then
    let index := latestTopics.idxOf topic
    let queued : Outbox :=
      { self with latest := Function.update self.latest index (some ⟨topic, payload, now⟩) }
    if (self.latest index).isSome then
      (.coalesced, { queued with coalesced := self.coalesced + 1 }.noteDisconnected)
    else (.accepted, { queued with accepted := self.accepted + 1 }.noteDisconnected)
  else if eventCapacity ≤ self.events.length ∨
      eventByteCapacity < self.eventBytes + payload.length then
    (.dropped, { self with dropped := self.dropped + 1 })
  else
    let queued : Outbox := { self with
      events := self.events ++ [⟨topic, payload, now⟩]
      eventBytes := self.eventBytes + payload.length
      accepted := self.accepted + 1 }
    (.accepted, queued.noteDisconnected)

/-- The classes from the next one on, under the lock: the first publication found, with its class.
The clock is read for each state. -/
def serve (clock : ℕ → Instant) : ℕ → Outbox → Option (ℕ × Publication) × Outbox
  | 0, o => (none, o)
  | n + 1, o =>
    let o' := { o with nextClass := (o.nextClass + 1) % (latestTopics.length + 1) }
    if o.nextClass = latestTopics.length then
      match o.events with
      | [] => serve clock n o'
      | event :: events => (some (o.nextClass, event),
          { o' with events := events, eventBytes := o.eventBytes - event.payload.length })
    else match o.latest o.nextClass with
      | none => serve clock n o'
      | some state =>
        let taken := { o' with latest := Function.update o.latest o.nextClass none }
        if clock n - state.admitted ≤ stateMaxAge then (some (o.nextClass, state), taken)
        else serve clock n { taken with expired := o.expired + 1, dropped := o.dropped + 1 }

/-- One round of `next`: nothing while the outbox is closed or not connected; nothing found, and the
thread waits; or a publication. -/
def next (clock : ℕ → Instant) : Option (ℕ × Publication) × Outbox :=
  if self.closed ∨ self.connected = false then (none, self)
  else serve clock (latestTopics.length + 1) self

def queuedItems : ℕ :=
  ∑ i ∈ Finset.range latestTopics.length, (self.latest i).toList.length + self.events.length

end Outbox

/-! ## Runs -/

inductive OutboxCall
  | admitPublication (topic : String) (payload : List UInt8) (contended : Bool) (now : Instant)
  | next (clock : ℕ → Instant)
  | setConnected (connected : Bool)
  | close

/-- The outcome of an admission, or what `next` gives. -/
inductive OutboxAnswer
  | admitted (outcome : ForwardOutcome)
  | served (publication : Option (ℕ × Publication))
  | done

def Outbox.step (o : Outbox) : OutboxCall → OutboxAnswer × Outbox
  | .admitPublication topic payload contended now =>
    let r := o.admitPublication topic payload contended now
    (.admitted r.1, r.2)
  | .next clock => (.served (o.next clock).1, (o.next clock).2)
  | .setConnected connected => (.done, o.setConnected connected)
  | .close => (.done, o.close)

abbrev OutboxTurn := Turn Outbox OutboxCall OutboxAnswer

namespace OutboxTurn

def queued (t : OutboxTurn) : List Publication :=
  match t.input, t.output with
  | .admitPublication topic payload _ now, .admitted outcome =>
    if outcome = .dropped then [] else [⟨topic, payload, now⟩]
  | _, _ => []

/-- What a turn delivers, with its class. -/
def delivered (t : OutboxTurn) : List (ℕ × Publication) :=
  match t.output with
  | .served publication => publication.toList
  | _ => []

def deliveredEvents (t : OutboxTurn) : List Publication :=
  ((delivered t).filter (·.1 = latestTopics.length)).map (·.2)

end OutboxTurn

namespace Outbox

theorem sum_update (latest : ℕ → Option Publication) {n c : ℕ} (hc : c < n) (v : Option Publication) :
    ∑ i ∈ Finset.range n, (Function.update latest c v i).toList.length + (latest c).toList.length =
      ∑ i ∈ Finset.range n, (latest i).toList.length + v.toList.length := by
  have hmem := Finset.mem_range.2 hc
  rw [← Finset.add_sum_erase _ _ hmem, ← Finset.add_sum_erase (Finset.range n) _ hmem,
    Function.update_self, Finset.sum_congr rfl fun i hi => by
      rw [Function.update_of_ne (Finset.ne_of_mem_erase hi)]]
  omega

/-- What a search through the classes leaves and finds. -/
structure Serves (clock : ℕ → Instant) (o o' : Outbox) (r : Option (ℕ × Publication)) : Prop where
  items : o.expired + o.queuedItems = o'.expired + o'.queuedItems + r.toList.length
  latest : ∀ i p, o'.latest i = some p → o.latest i = some p
  state : ∀ c p, r = some (c, p) → c ≠ latestTopics.length →
    o.latest c = some p ∧ ∃ n, clock n - p.admitted ≤ stateMaxAge
  events : o.events = (r.toList.filter (·.1 = latestTopics.length)).map (·.2) ++ o'.events
  bytes : o.eventBytes = (o.events.map (·.payload.length)).sum →
    o'.eventBytes = (o'.events.map (·.payload.length)).sum
  counters : o'.accepted = o.accepted
  class_ : o'.nextClass ≤ latestTopics.length
  order : o.events ≠ [] → (∀ p, r ≠ some (latestTopics.length, p)) →
    o.nextClass + r.toList.length ≤ o'.nextClass

theorem serve_serves (clock : ℕ → Instant) (n : ℕ) {o : Outbox}
    (hclass : o.nextClass ≤ latestTopics.length) :
    Serves clock o (serve clock n o).2 (serve clock n o).1 := by
  induction n generalizing o with
  | zero => exact ⟨rfl, fun _ _ h => h, nofun, rfl, id, rfl, hclass, fun _ _ => le_rfl⟩
  | succ n ih =>
    have hclass' : (o.nextClass + 1) % (latestTopics.length + 1) ≤ latestTopics.length :=
      Nat.le_of_lt_succ (Nat.mod_lt _ (Nat.succ_pos _))
    have h := ih (o := { o with nextClass := (o.nextClass + 1) % (latestTopics.length + 1) }) hclass'
    rw [serve]
    dsimp only
    split
    · rename_i hlast
      split
      · exact ⟨h.items, h.latest, h.state, h.events, h.bytes, h.counters, h.class_,
          fun hevents => absurd ‹o.events = []› hevents⟩
      · rename_i event events hevents
        refine ⟨?_, fun _ _ h => h, ?_, ?_, ?_, rfl, hclass', fun _ hnone => ?_⟩
        · simp only [queuedItems, hevents, List.length_cons, Option.toList_some, List.length_nil]
          omega
        · rintro c p ⟨⟩ hc
          exact absurd hlast hc
        · simp [hevents, hlast]
        · intro hbytes
          simp [hbytes, hevents]
        · exact absurd (hlast ▸ rfl) (hnone event)
    · rename_i hlast
      have hlt : o.nextClass < latestTopics.length := lt_of_le_of_ne hclass hlast
      have hmod : (o.nextClass + 1) % (latestTopics.length + 1) = o.nextClass + 1 :=
        Nat.mod_eq_of_lt (Nat.succ_lt_succ hlt)
      have hup : o.nextClass ≤ (o.nextClass + 1) % (latestTopics.length + 1) := by omega
      split
      · exact ⟨h.items, h.latest, h.state, h.events, h.bytes, h.counters, h.class_,
          fun hevents hnone => (Nat.add_le_add_right hup _).trans (h.order hevents hnone)⟩
      · rename_i state hstate
        have hsum := sum_update o.latest hlt none
        rw [hstate] at hsum
        have hsub : ∀ i p, Function.update o.latest o.nextClass none i = some p →
            o.latest i = some p := by
          intro i p hp
          rcases eq_or_ne i o.nextClass with rfl | hne
          · rw [Function.update_self] at hp
            cases hp
          · rwa [Function.update_of_ne hne] at hp
        split
        · rename_i hfresh
          refine ⟨?_, hsub, ?_, by simp [hlast], id, rfl, hclass', fun _ _ => hmod.ge⟩
          · simp only [queuedItems, Option.toList_some, Option.toList_none, List.length_cons,
              List.length_nil] at hsum ⊢
            omega
          · rintro c p ⟨⟩ _
            exact ⟨hstate, n, hfresh⟩
        · have h := ih (o := { o with
            nextClass := (o.nextClass + 1) % (latestTopics.length + 1)
            latest := Function.update o.latest o.nextClass none
            expired := o.expired + 1
            dropped := o.dropped + 1 }) hclass'
          refine ⟨?_, fun i p hp => hsub i p (h.latest i p hp), fun c p hr hc => ?_, h.events, h.bytes,
            h.counters, h.class_,
            fun hevents hnone => (Nat.add_le_add_right hup _).trans (h.order hevents hnone)⟩
          · have hitems := h.items
            simp only [queuedItems, Option.toList_some, Option.toList_none, List.length_cons,
              List.length_nil] at hsum hitems ⊢
            omega
          · obtain ⟨hp, hage⟩ := h.state c p hr hc
            exact ⟨hsub c p hp, hage⟩

theorem next_serves (clock : ℕ → Instant) {o : Outbox} (hclass : o.nextClass ≤ latestTopics.length) :
    Serves clock o (o.next clock).2 (o.next clock).1 := by
  unfold next
  split
  · exact ⟨rfl, fun _ _ h => h, nofun, rfl, id, rfl, hclass, fun _ _ => le_rfl⟩
  · exact serve_serves clock _ hclass

/-- What the turns before leave in the queue. -/
structure Kept (ts : List OutboxTurn) (o : Outbox) : Prop where
  accounted : o.accepted = (ts.flatMap OutboxTurn.delivered).length + o.expired + o.queuedItems
  room : o.events.length ≤ eventCapacity ∧ o.eventBytes ≤ eventByteCapacity
  bytes : o.eventBytes = (o.events.map (·.payload.length)).sum
  slot : ∀ i p, o.latest i = some p → p.topic ∈ latestTopics ∧ latestTopics.idxOf p.topic = i ∧
    p.payload.length ≤ maxPayloadBytes ∧
    ((ts.flatMap OutboxTurn.queued).filter (·.topic = p.topic)).getLast? = some p
  fifo : (ts.flatMap OutboxTurn.queued).filter (·.topic ∉ latestTopics) =
    ts.flatMap OutboxTurn.deliveredEvents ++ o.events
  class_ : o.nextClass ≤ latestTopics.length

end Outbox

/-- What a turn does, after the turns `ts`. -/
structure OutboxTurn.Honest (ts : List OutboxTurn) (t : OutboxTurn) : Prop where
  /-- An admission raises one of the four counters, by one. -/
  counted : ∀ outcome, t.output = .admitted outcome →
    (t.after.accepted, t.after.coalesced, t.after.dropped, t.after.rejected) ∈
      [(t.before.accepted + 1, t.before.coalesced, t.before.dropped, t.before.rejected),
        (t.before.accepted, t.before.coalesced + 1, t.before.dropped, t.before.rejected),
        (t.before.accepted, t.before.coalesced, t.before.dropped + 1, t.before.rejected),
        (t.before.accepted, t.before.coalesced, t.before.dropped, t.before.rejected + 1)]
  /-- A delivered state is the last one of its topic that was queued, and at most a second old. -/
  newest : ∀ c p, (c, p) ∈ delivered t → c ≠ latestTopics.length →
    ((ts.flatMap queued).filter (·.topic = p.topic)).getLast? = some p ∧
      ∃ clock n, t.input = .next clock ∧ clock n - p.admitted ≤ stateMaxAge

namespace Outbox

variable {ts : List OutboxTurn} {o : Outbox}

theorem Kept.next (h : Kept ts o) (clock : ℕ → Instant) :
    OutboxTurn.Honest ts (turn step o (.next clock)) ∧
      Kept (ts ++ [turn step o (.next clock)]) (o.next clock).2 := by
  have hs := next_serves clock h.class_
  have hqueued : OutboxTurn.queued (turn step o (.next clock)) = [] := rfl
  have hdelivered : OutboxTurn.delivered (turn step o (.next clock)) = (o.next clock).1.toList := rfl
  have hevents := hs.events
  refine ⟨⟨nofun, fun c p hp hc => ?_⟩, ?_, ?_, hs.bytes h.bytes, fun i p hp => ?_, ?_, hs.class_⟩
  · obtain ⟨hlatest, n, hage⟩ := hs.state c p (Option.mem_toList.1 (hdelivered ▸ hp)) hc
    exact ⟨(h.slot c p hlatest).2.2.2, clock, n, rfl, hage⟩
  · have hitems := hs.items
    rw [hs.counters, h.accounted, List.flatMap_append, List.length_append, List.flatMap_singleton,
      hdelivered]
    omega
  · have hbytes := hs.bytes h.bytes
    have hroom := h.room
    rw [h.bytes, hevents] at hroom
    rw [hbytes]
    simp only [List.length_append, List.map_append, List.sum_append] at hroom ⊢
    omega
  · rw [List.flatMap_append, List.flatMap_singleton, hqueued, List.append_nil]
    exact h.slot i p (hs.latest i p hp)
  · rw [List.flatMap_append, List.flatMap_append, List.flatMap_singleton, List.flatMap_singleton,
      hqueued, List.append_nil, h.fifo, List.append_assoc]
    exact congrArg _ hevents

/-- A turn that queues and delivers nothing. -/
theorem Kept.quiet (h : Kept ts o) {t : OutboxTurn} {o' : Outbox} (hqueued : OutboxTurn.queued t = [])
    (hdelivered : OutboxTurn.delivered t = [])
    (hsame : o' = { o with
      connected := o'.connected, closed := o'.closed, dropped := o'.dropped,
      rejected := o'.rejected }) : Kept (ts ++ [t]) o' := by
  have hevents : OutboxTurn.deliveredEvents t = [] := by rw [OutboxTurn.deliveredEvents, hdelivered]; rfl
  rw [hsame]
  constructor <;> simp only [List.flatMap_append, List.flatMap_singleton, hqueued, hdelivered, hevents,
    List.append_nil]
  exacts [h.accounted, h.room, h.bytes, h.slot, h.fifo, h.class_]

theorem Kept.state (h : Kept ts o) {t : OutboxTurn} {o' : Outbox} {p : Publication}
    (hqueued : OutboxTurn.queued t = [p]) (hdelivered : OutboxTurn.delivered t = [])
    (htopic : p.topic ∈ latestTopics) (hsize : p.payload.length ≤ maxPayloadBytes)
    (haccepted : o'.accepted + (o.latest (latestTopics.idxOf p.topic)).toList.length =
      o.accepted + 1)
    (hsame : o' = { o with
      latest := Function.update o.latest (latestTopics.idxOf p.topic) (some p)
      accepted := o'.accepted, coalesced := o'.coalesced, disconnected := o'.disconnected }) :
    Kept (ts ++ [t]) o' := by
  have hevents : OutboxTurn.deliveredEvents t = [] := by rw [OutboxTurn.deliveredEvents, hdelivered]; rfl
  have hsum := sum_update o.latest (List.idxOf_lt_length_iff.2 htopic) (some p)
  rw [hsame]
  constructor <;> simp only [List.flatMap_append, List.flatMap_singleton, hqueued, hdelivered, hevents,
    List.append_nil, List.filter_append]
  · have haccounted := h.accounted
    simp only [queuedItems, Option.toList_some, List.length_singleton] at haccounted hsum ⊢
    omega
  · exact h.room
  · exact h.bytes
  · intro i q hq
    rcases eq_or_ne i (latestTopics.idxOf p.topic) with rfl | hne
    · obtain rfl : p = q := by simpa using hq
      exact ⟨htopic, rfl, hsize, by simp⟩
    · rw [Function.update_of_ne hne] at hq
      obtain ⟨hmem, hindex, hsize', hlast⟩ := h.slot i q hq
      have hother : p.topic ≠ q.topic := fun heq => hne (heq ▸ hindex.symm)
      exact ⟨hmem, hindex, hsize', by simpa [hother] using hlast⟩
  · simpa [htopic] using h.fifo
  · exact h.class_

theorem Kept.event (h : Kept ts o) {t : OutboxTurn} {o' : Outbox} {p : Publication}
    (hqueued : OutboxTurn.queued t = [p]) (hdelivered : OutboxTurn.delivered t = [])
    (htopic : p.topic ∉ latestTopics) (hroom : o.events.length < eventCapacity)
    (hbytes : o.eventBytes + p.payload.length ≤ eventByteCapacity)
    (hsame : o' = { o with
      events := o.events ++ [p]
      eventBytes := o.eventBytes + p.payload.length
      accepted := o.accepted + 1
      disconnected := o'.disconnected }) : Kept (ts ++ [t]) o' := by
  have hevents : OutboxTurn.deliveredEvents t = [] := by rw [OutboxTurn.deliveredEvents, hdelivered]; rfl
  rw [hsame]
  constructor <;> simp only [List.flatMap_append, List.flatMap_singleton, hqueued, hdelivered, hevents,
    List.append_nil, List.filter_append]
  · have haccounted := h.accounted
    simp only [queuedItems, List.length_append, List.length_singleton] at haccounted ⊢
    omega
  · rw [List.length_append, List.length_singleton]
    exact ⟨hroom, hbytes⟩
  · rw [List.map_append, List.sum_append, h.bytes]
    rfl
  · intro i q hq
    obtain ⟨hmem, hindex, hsize, hlast⟩ := h.slot i q hq
    have hother : p.topic ≠ q.topic := fun heq => htopic (heq ▸ hmem)
    exact ⟨hmem, hindex, hsize, by simpa [hother] using hlast⟩
  · rw [h.fifo, List.append_assoc]
    simp [htopic]
  · exact h.class_

theorem Kept.admitPublication (h : Kept ts o) (topic : String) (payload : List UInt8)
    (contended : Bool) (now : Instant) :
    let t := turn step o (.admitPublication topic payload contended now)
    OutboxTurn.Honest ts t ∧ Kept (ts ++ [t]) t.after := by
  intro t
  have hrun : ∀ outcome o', o.admitPublication topic payload contended now = (outcome, o') →
      t = ⟨o, .admitPublication topic payload contended now, .admitted outcome, o'⟩ := by
    intro outcome o' heq
    simp only [t, turn, step, heq]
  by_cases hrejected : o.closed ∨ maxPayloadBytes < payload.length ∨
      topic ∉ latestTopics ∧ topic ∉ eventTopics
  · rw [hrun _ _ (if_pos hrejected)]
    exact ⟨⟨fun _ _ => by simp, nofun⟩, h.quiet rfl rfl rfl⟩
  by_cases hcontended : contended = true
  · rw [hrun .dropped { o with dropped := o.dropped + 1 }
      (by simp only [Outbox.admitPublication, if_neg hrejected, if_pos hcontended])]
    exact ⟨⟨fun _ _ => by simp, nofun⟩, h.quiet rfl rfl rfl⟩
  have hsize : payload.length ≤ maxPayloadBytes := not_lt.1 fun hlt => hrejected (.inr (.inl hlt))
  by_cases htopic : topic ∈ latestTopics
  · cases hslot : o.latest (latestTopics.idxOf topic) with
    | none =>
      rw [hrun .accepted _ (by simp only [Outbox.admitPublication, if_neg hrejected,
        if_neg hcontended, if_pos htopic, hslot]; rfl)]
      exact ⟨⟨fun _ _ => by simp [noteDisconnected], nofun⟩,
        h.state rfl rfl htopic hsize (by rw [hslot]; rfl) rfl⟩
    | some old =>
      rw [hrun .coalesced _ (by simp only [Outbox.admitPublication, if_neg hrejected,
        if_neg hcontended, if_pos htopic, hslot]; rfl)]
      exact ⟨⟨fun _ _ => by simp [noteDisconnected], nofun⟩,
        h.state rfl rfl htopic hsize (by rw [hslot]; rfl) rfl⟩
  · by_cases hfull : eventCapacity ≤ o.events.length ∨
        eventByteCapacity < o.eventBytes + payload.length
    · rw [hrun .dropped { o with dropped := o.dropped + 1 } (by simp only [Outbox.admitPublication,
        if_neg hrejected, if_neg hcontended, if_neg htopic, if_pos hfull])]
      exact ⟨⟨fun _ _ => by simp, nofun⟩, h.quiet rfl rfl rfl⟩
    · rw [hrun .accepted _ (by simp only [Outbox.admitPublication, if_neg hrejected,
        if_neg hcontended, if_neg htopic, if_neg hfull]; rfl)]
      rw [not_or, not_le, not_lt] at hfull
      exact ⟨⟨fun _ _ => by simp [noteDisconnected], nofun⟩,
        h.event rfl rfl htopic hfull.1 hfull.2 rfl⟩

theorem Kept.step (h : Kept ts o) (call : OutboxCall) :
    OutboxTurn.Honest ts (turn step o call) ∧ Kept (ts ++ [turn step o call]) (o.step call).2 := by
  cases call with
  | next clock => exact h.next clock
  | admitPublication topic payload contended now =>
    exact h.admitPublication topic payload contended now
  | setConnected connected => exact ⟨⟨nofun, nofun⟩, h.quiet rfl rfl rfl⟩
  | close => exact ⟨⟨nofun, nofun⟩, h.quiet rfl rfl rfl⟩

/-- While an event waits and none is delivered, the next class only goes up. -/
theorem states_before_event (later : List OutboxCall) {o : Outbox}
    (hclass : o.nextClass ≤ latestTopics.length)
    (hwaits : ∀ t ∈ turns step o later, t.before.events ≠ [] ∧ OutboxTurn.deliveredEvents t = []) :
    o.nextClass + ((turns step o later).flatMap OutboxTurn.delivered).length ≤
      latestTopics.length := by
  induction later generalizing o with
  | nil => exact hclass
  | cons call later ih =>
    rw [turns, List.forall_mem_cons] at hwaits
    have hturn : o.nextClass + (OutboxTurn.delivered (turn step o call)).length ≤
        (o.step call).2.nextClass ∧ (o.step call).2.nextClass ≤ latestTopics.length := by
      cases call with
      | next clock =>
        have hs := next_serves clock hclass
        refine ⟨hs.order hwaits.1.1 fun p hp => ?_, hs.class_⟩
        have hnone := hwaits.1.2
        simp only [OutboxTurn.deliveredEvents, OutboxTurn.delivered, turn, step, hp] at hnone
        cases hnone
      | admitPublication topic payload contended now =>
        have hsame : (o.admitPublication topic payload contended now).2.nextClass = o.nextClass := by
          unfold admitPublication
          dsimp only
          split_ifs <;> rfl
        exact ⟨hsame.ge, hsame.le.trans hclass⟩
      | setConnected | close => exact ⟨le_rfl, hclass⟩
    have hrest := ih hturn.2 hwaits.2
    rw [turns, List.flatMap_cons, List.length_append]
    omega

/-- Nothing is queued in the class. -/
def Vacant (o : Outbox) (c : ℕ) : Prop :=
  if c = latestTopics.length then o.events = [] else o.latest c = none

theorem Serves.vacant {clock : ℕ → Instant} {o o' : Outbox} (h : Serves clock o o' none) {c : ℕ}
    (hc : o.Vacant c) : o'.Vacant c := by
  unfold Vacant at hc ⊢
  split
  · rw [if_pos ‹_›] at hc
    simpa [hc] using h.events
  · rw [if_neg ‹_›] at hc
    exact Option.eq_none_iff_forall_ne_some.2 fun p hp => nomatch hc.symm.trans (h.latest c p hp)

/-- A search that finds nothing has emptied every class it went through. -/
theorem serve_none (clock : ℕ → Instant) (n : ℕ) {o : Outbox}
    (hclass : o.nextClass ≤ latestTopics.length) (hnone : (serve clock n o).1 = none) :
    ∀ j < n, (serve clock n o).2.Vacant ((o.nextClass + j) % (latestTopics.length + 1)) := by
  induction n generalizing o with
  | zero => exact fun j hj => absurd hj (Nat.not_lt_zero j)
  | succ n ih =>
    -- the search goes on from an outbox whose first class is vacant
    have hnext : ∃ o₁ : Outbox, serve clock (n + 1) o = serve clock n o₁ ∧ o₁.Vacant o.nextClass ∧
        o₁.nextClass = (o.nextClass + 1) % (latestTopics.length + 1) := by
      rw [serve] at hnone ⊢
      dsimp only at hnone ⊢
      split at hnone
      · rename_i hlast
        rw [if_pos hlast]
        split at hnone
        · exact ⟨_, rfl, (if_pos hlast).mpr ‹_›, rfl⟩
        · cases hnone
      · rename_i hlast
        rw [if_neg hlast]
        split at hnone
        · exact ⟨_, rfl, (if_neg hlast).mpr ‹_›, rfl⟩
        · split at hnone
          · cases hnone
          · rw [if_neg ‹_›]
            exact ⟨_, rfl, (if_neg hlast).mpr (Function.update_self ..), rfl⟩
    obtain ⟨o₁, hserve, hvacant, hclass₁⟩ := hnext
    rw [hserve] at hnone ⊢
    have hle : o₁.nextClass ≤ latestTopics.length :=
      hclass₁ ▸ Nat.le_of_lt_succ (Nat.mod_lt _ (Nat.succ_pos _))
    rintro (_ | j) hj
    · have hs := serve_serves clock n hle
      rw [hnone] at hs
      rw [Nat.add_zero, Nat.mod_eq_of_lt (Nat.lt_succ_of_le hclass)]
      exact hs.vacant hvacant
    · have hj' := ih hle hnone j (Nat.lt_of_succ_lt_succ hj)
      rwa [hclass₁, Nat.mod_add_mod, Nat.add_right_comm] at hj'

end Outbox

/-- **The outbox waits only when nothing is left.** In every run, `next` answers nothing only while
the outbox is closed or not connected, or when its search has left nothing queued. -/
theorem outbox_waits_empty (calls : List OutboxCall) (clock : ℕ → Instant) :
    let o := final Outbox.step {} calls
    o.closed = true ∨ o.connected = false ∨ (o.next clock).1 ≠ none ∨
      (o.next clock).2.queuedItems = 0 := by
  intro o
  have hstart : Outbox.Kept [] {} := ⟨by decide, by decide, rfl, nofun, rfl, Nat.zero_le _⟩
  have hclass := (follows (fun ts o call h => h.step call) hstart calls).2.class_
  rw [Outbox.next]
  split
  · rename_i hblocked
    exact hblocked.imp_right .inl
  · refine .inr (.inr (or_iff_not_imp_left.2 fun hnone => ?_))
    have hvacant : ∀ c ≤ latestTopics.length,
        (Outbox.serve clock (latestTopics.length + 1) o).2.Vacant c := by
      intro c hc
      have hj := Outbox.serve_none clock _ hclass (not_not.1 hnone) _ (Nat.mod_lt
        (c + (latestTopics.length + 1 - o.nextClass)) (Nat.succ_pos _))
      rwa [Nat.add_mod_mod, Nat.add_left_comm, Nat.add_sub_cancel' (Nat.le_succ_of_le hclass),
        Nat.add_mod_right, Nat.mod_eq_of_lt (Nat.lt_succ_of_le hc)] at hj
    have hevents := (if_pos rfl).mp (hvacant latestTopics.length le_rfl)
    rw [Outbox.queuedItems, hevents, List.length_nil, Nat.add_zero]
    refine Finset.sum_eq_zero fun i hi => ?_
    have hlt := Finset.mem_range.1 hi
    rw [(if_neg hlt.ne).mp (hvacant i hlt.le), Option.toList_none, List.length_nil]

end Marengo

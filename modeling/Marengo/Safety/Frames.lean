import Marengo.Safety.Steps

/-!
# What runs leave alone

Each part of the state is changed by few effects. A run without them leaves it as it was, and these
are the facts that carry a condition checked at one point of a program to a later one. Some things no
effect undoes: the calls handed to the bus and the shed addresses only grow, and the clock does not go
back.
-/

namespace Marengo

open Prog

variable {F : Type}

/-! ## The fault authority -/

namespace FaultAuthority

variable {a b c : FaultAuthority}

theorem Extends.refl : a.Extends a := List.prefix_rfl

theorem Extends.trans (h : a.Extends b) (h' : b.Extends c) : a.Extends c := List.IsPrefix.trans h h'

theorem Extends.mem_key (h : a.Extends b) {r : FaultRecord} (hr : r ∈ a.faults) :
    ∃ r' ∈ b.faults, r'.key = r.key :=
  List.mem_map.mp (h.subset (List.mem_map_of_mem hr))

theorem isLatched_iff : a.isLatched = true ↔ ∃ r, r ∈ a.faults := by
  cases h : a.faults <;> simp [isLatched, h]

end FaultAuthority

/-! ## What observations and sensing leave alone -/

/-- Policy, session, safety state, poses and limiter history are the same. -/
structure Still (s s' : System F) : Prop where
  policy : s'.toPolicy = s.toPolicy := by rfl
  session : s'.toSession = s.toSession := by rfl
  safety : s'.toSafety = s.toSafety := by rfl
  motorStates : s'.motorStates = s.motorStates := by rfl
  invalidFeedback : s'.invalidFeedback = s.invalidFeedback := by rfl
  setZeroOnWire : s'.setZeroOnWire = s.setZeroOnWire := by rfl
  history : s'.toMotionHistory = s.toMotionHistory := by rfl

instance : Std.Refl (Still (F := F)) := ⟨fun _ => {}⟩

instance : IsTrans (System F) Still := ⟨fun _ _ _ h h' =>
  { policy := h'.policy.trans h.policy
    session := h'.session.trans h.session
    safety := h'.safety.trans h.safety
    motorStates := h'.motorStates.trans h.motorStates
    invalidFeedback := h'.invalidFeedback.trans h.invalidFeedback
    setZeroOnWire := h'.setZeroOnWire.trans h.setZeroOnWire
    history := h'.history.trans h.history }⟩

theorem Ticks.still {s s' : System F} (h : Ticks s s') : Still s s' where
  policy := by rw [h.supervisor]
  session := by rw [h.supervisor]
  safety := by rw [h.supervisor]
  motorStates := by rw [h.supervisor]
  invalidFeedback := by rw [h.supervisor]
  setZeroOnWire := by rw [h.supervisor]
  history := by rw [h.supervisor]

theorem Observes.still {s s' : System F} (h : Observes s s') : Still s s' where
  policy := h.policy
  session := h.session
  safety := h.safety
  motorStates := h.motorStates
  invalidFeedback := h.invalidFeedback
  setZeroOnWire := h.setZeroOnWire
  history := h.history

section
variable [World F] {E : Effect → Prop} {s s' : System F}

/-! ## Frames -/

/-- Policy changes only when it is installed. -/
theorem Runs.policy (h : Runs E s s') (hE : ¬E .install) : s'.toPolicy = s.toPolicy :=
  h.same (f := fun s => s.toPolicy) fun l _ _ hl hstep => by
    cases hstep with
    | tick h => exact h.still.policy
    | observe h => exact h.policy
    | collect _ _ h => exact h.policy
    | select _ _ _ h => exact h.still.policy
    | receive h => exact h.policy
    | install => exact absurd hl hE
    | _ => rfl

/-- Mode, targets and pending Enables of a session. -/
def Session.core (s : Session) :
    OperationalMode × Option Instant × List String × List MotorAddress :=
  (s.mode, s.activeSince, s.activeJoints, s.enableWritesPending)

/-- A session begins, moves on and ends only in its own steps. -/
theorem Runs.core (h : Runs E s s') (hE : ¬E .session) : s'.toSession.core = s.toSession.core :=
  h.same (f := fun s => s.toSession.core) fun l _ _ hl hstep => by
    cases hstep with
    | tick h => exact congrArg Session.core h.still.session
    | observe h => exact congrArg Session.core h.session
    | collect _ _ h => exact congrArg Session.core h.session
    | select _ _ _ h => exact congrArg Session.core h.still.session
    | receive h => exact (congrArg Session.core h.session :)
    | session => exact absurd hl hE
    | _ => rfl

/-- Outside its own steps, a session only hears the echoes of its Enables. -/
theorem Runs.echo (h : Runs E s s') (hE : ¬E .session) :
    s'.enableEchoPending.Sublist s.enableEchoPending :=
  h.invariant (P := fun t => t.enableEchoPending.Sublist s.enableEchoPending)
    (fun l _ _ hl hstep hs => by
      cases hstep with
      | tick h => exact congrArg Session.enableEchoPending h.still.session ▸ hs
      | observe h => exact congrArg Session.enableEchoPending h.session ▸ hs
      | collect _ _ h => exact congrArg Session.enableEchoPending h.session ▸ hs
      | select _ _ _ h => exact congrArg Session.enableEchoPending h.still.session ▸ hs
      | receive h => exact h.echo.trans hs
      | session => exact absurd hl hE
      | _ => exact hs) (.refl _)

/-- An episode begins and ends in its own steps. -/
theorem Runs.episode (h : Runs E s s') (hE : ¬E .episode) :
    s'.driveLoss.episode = s.driveLoss.episode :=
  h.same (f := fun s => s.driveLoss.episode) fun l _ _ hl hstep => by
    cases hstep with
    | tick h => exact congrArg (·.driveLoss.episode) h.still.safety
    | observe h => exact congrArg (·.driveLoss.episode) h.safety
    | collect _ _ h => exact congrArg (·.driveLoss.episode) h.safety
    | select _ _ _ h => exact congrArg (·.driveLoss.episode) h.still.safety
    | receive h => exact congrArg (·.driveLoss.episode) h.safety
    | episode => exact absurd hl hE
    | _ => rfl

/-- The stops that have begun stay counted. -/
theorem Runs.stops_le (h : Runs E s s') : s.stops ≤ s'.stops :=
  h.grows (r := (· ≤ ·)) (f := fun s => s.stops) fun l _ _ _ hstep => by
    cases hstep with
    | tick h => exact h.stops.ge
    | observe h => exact h.stops.ge
    | collect _ _ h => exact h.stops.ge
    | select _ _ _ h => exact h.stops.ge
    | receive h => exact h.stops.ge
    | stop => exact Nat.le_succ _
    | _ => exact Nat.le_refl _

end

end Marengo

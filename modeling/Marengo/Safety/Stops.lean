import Marengo.Safety.Faults

/-!
# Stops

Every stop goes through `performStopPaced`. It writes to every installed drive, ends the session and
a degraded episode (`Ended`), and whatever ends a session early ends it this way. A degraded episode
that a stop ends leaves a latched fault behind.
-/

namespace Marengo

open Prog

variable {F : Type}

/-! ## What a stop does -/

/-- Everything a stop may do. -/
def Stopping : Effect → Prop
  | .tick | .observe | .latch | .mark | .stop | .write | .halt | .disable _ | .reportOn | .session
  | .episode => True
  | _ => False

instance : Allows Stopping .mark := ⟨trivial⟩
instance : Allows Stopping .stop := ⟨trivial⟩
instance : Allows Stopping .session := ⟨trivial⟩

/-- No session and no episode runs. -/
structure Ended (s : System F) : Prop where
  mode : s.mode = .disabled
  activeSince : s.activeSince = none
  activeJoints : s.activeJoints = []
  enableEchoPending : s.enableEchoPending = []
  enableWritesPending : s.enableWritesPending = []
  episode : s.driveLoss.episode = none

section
variable [World F] {T : Prop} {ε : Type} {E : Effect → Prop}

/-! ## The writes of a stop -/

instance [Allows E .halt] [∀ a, Allows E (.disable a)] (motor : MotorEntry F) :
    Keeps T (Runs E) (stopDrive motor : Prog (System F) ε _) := by
  refine .ofRead fun s => .ite (fun _ => ?_) fun hshed => ?_
  · exact ⟨.single (.disable _ motor.address), trivial⟩
  · have hspared : motor.address ∉ s.driveLoss.shed := by
      simpa [DriveLossState.isShed] using hshed
    exact ⟨.single (l := .halt) (.halt motor _ _ _ hspared), trivial⟩

instance [Allows E .tick] [Allows E .observe] (stopAt : Instant) :
    Keeps T (Runs E) (carrySessionSilence stopAt : Prog (System F) ε Unit) := by
  unfold carrySessionSilence
  refine .bind fun s => .each fun motor => .when ?_
  split <;> infer_instance

instance [Allows E .session] : Keeps T (Runs E) (endSession : Prog (System F) ε Unit) :=
  .ofStep .session fun _ => .session _ _ _ _ (.inr nofun) fun _ => nofun

/-! ## The end of an episode -/

/-- The pending end of an episode is bookkeeping. -/
theorem pendingEnd_step {s : System F} {pendingEnd : Option DegradedEnd} :
    Step .episode s { s with driveLoss := { s.driveLoss with pendingEnd := pendingEnd } } :=
  .episode rfl (fun _ h => .inl h) .refl rfl (fun h h' => absurd h h') (fun _ h => .inl h) (.inl rfl)

/-- A stop leaves no episode, and the end of one is latched. -/
theorem endDegradedEpisodeOnStop_along [Allows E .tick] [Allows E .episode] {s : System F} :
    Along (Runs E) (endDegradedEpisodeOnStop : Prog (System F) ε Unit)
      (Returns fun _ s' => s'.driveLoss.episode = none ∧
        (s.driveLoss.episode ≠ none → s'.hasLatchedFault = true)) s := by
  refine .read (.update (.single pendingEnd_step) ?_)
  split
  · rename_i h
    exact .pure ⟨h, fun hs => absurd h hs⟩
  · rename_i episode h
    -- the clock is read twice before the end of the episode is on record
    have hticks : ∀ (s : System F) (n : ℕ) (d d' : Duration),
        Ticks s { s with consulted := n, time := s.time + d + d' } := fun s n d d' =>
      { time := (Nat.le_add_right ..).trans (Nat.le_add_right ..) }
    refine ⟨trans_of (Runs E) (.single (.tick (hticks _ _ _ _))) (.single (l := .episode)
      (.episode ?_ ?_ (FaultAuthority.extends_record ..)
        (FaultAuthority.record_stopGeneration ..) ?_ ?_ ?_)), rfl, fun _ => ?_⟩
    · rfl
    · exact fun _ h => .inl h
    · exact fun hnone => absurd (h.symm.trans hnone) nofun
    · exact fun _ _ => .inr ⟨rfl, (FaultAuthority.record_recorded ..).imp fun _ h => ⟨h.1, h.2.1⟩⟩
    · exact .inr ⟨nofun, fun hnone => absurd (h.symm.trans hnone) nofun⟩
    · exact (FaultAuthority.record_recorded ..).latched

/-! ## The all-address stop -/

/-- What a stop does apart from ending the session and the episode. -/
def Attempting : Effect → Prop
  | .tick | .observe | .latch | .mark | .write | .halt | .disable _ | .reportOn => True
  | _ => False

instance : Allows Attempting .tick := ⟨trivial⟩
instance : Allows Attempting .observe := ⟨trivial⟩
instance : Allows Attempting .latch := ⟨trivial⟩
instance : Allows Attempting .write := ⟨trivial⟩
instance : Allows Attempting .halt := ⟨trivial⟩
instance (a : MotorAddress) : Allows Attempting (.disable a) := ⟨trivial⟩
instance : Allows Attempting .reportOn := ⟨trivial⟩

theorem Runs.ofAttempting (s s' : System F) (h : Runs Attempting s s') : Runs Stopping s s' :=
  h.mono fun l hl => by cases l <;> first | exact hl | exact hl.elim

/-- Attempts leave the session and the episode alone. -/
theorem Runs.attempting {s s' : System F} (h : Runs Attempting s s') :
    s'.toSession.core = s.toSession.core ∧
      s'.enableEchoPending.Sublist s.enableEchoPending ∧
      s'.driveLoss.episode = s.driveLoss.episode :=
  ⟨Runs.core h id, Runs.echo h id, Runs.episode h id⟩

/-- What the end of an episode does. -/
def Ending : Effect → Prop
  | .tick | .episode => True
  | _ => False

instance : Allows Ending .tick := ⟨trivial⟩
instance : Allows Ending .episode := ⟨trivial⟩

theorem Runs.ofEnding (s s' : System F) (h : Runs Ending s s') : Runs Stopping s s' :=
  h.mono fun l hl => by cases l <;> first | exact hl | exact hl.elim

/-- The end of an episode leaves the session alone. -/
theorem Runs.ending {s s' : System F} (h : Runs Ending s s') :
    s'.toSession.core = s.toSession.core ∧
      s'.enableEchoPending.Sublist s.enableEchoPending :=
  ⟨Runs.core h id, Runs.echo h id⟩

/-- A stop ends the session and the episode, and latches the end of an episode. -/
theorem performStopPaced_along {s : System F} (synchronize : Bool) (pacer : Option BurstPacer) :
    Along (Runs Stopping) (performStopPaced synchronize pacer : Prog (System F) ε StopReport)
      (Returns fun _ s' => Ended s' ∧ s.stops < s'.stops ∧
        (s.driveLoss.episode ≠ none → s'.hasLatchedFault = true)) s := by
  unfold performStopPaced
  refine .read (.stepVia Runs.ofAttempting fun _ s₁ h₁ => .stepVia Runs.ofAttempting fun _ s₂ h₂ =>
    .update (.single (l := .stop) .stop) (.reads
    (.stepVia Runs.ofAttempting fun r s₃ h₃ => .update
      (.single (l := .session) (.session _ _ _ _ (.inr nofun) fun _ => nofun))
    (.stepVia Runs.ofAttempting fun _ s₄ h₄ => .stepVia Runs.ofAttempting fun _ s₅ h₅ =>
    .nextVia Runs.ofEnding endDegradedEpisodeOnStop_along fun _ s₆ h₆ hend =>
    .update (.single (l := .mark) (.mark rfl rfl)) (.pure ⟨?_, ?_, ?_⟩)))))
  · obtain ⟨hc₄, he₄, -⟩ := Runs.attempting h₄
    obtain ⟨hc₅, he₅, -⟩ := Runs.attempting h₅
    obtain ⟨hc₆, he₆⟩ := Runs.ending h₆
    have hcore := hc₆.trans (hc₅.trans hc₄)
    simp only [Session.core, Session.cleared, Prod.mk.injEq] at hcore
    obtain ⟨hmode, hsince, hjoints, hwrites⟩ := hcore
    exact ⟨hmode, hsince, hjoints, List.sublist_nil.mp (he₆.trans (he₅.trans he₄)), hwrites, hend.1⟩
  · calc s.stops
      _ ≤ s₂.stops := Runs.stops_le (trans_of (Runs Attempting) h₁ h₂)
      _ < s₂.stops + 1 := Nat.lt_succ_self _
      _ ≤ s₃.stops := Runs.stops_le h₃
      _ ≤ s₄.stops := (Runs.stops_le h₄ :)
      _ ≤ s₅.stops := Runs.stops_le h₅
      _ ≤ s₆.stops := Runs.stops_le h₆
  · intro hs
    refine hend.2 fun hnone => hs ?_
    rw [← (Runs.attempting h₁).2.2, ← (Runs.attempting h₂).2.2]
    exact (Runs.attempting h₃).2.2.symm.trans
      ((Runs.attempting h₄).2.2.symm.trans ((Runs.attempting h₅).2.2.symm.trans hnone))

end

end Marengo

import Marengo.Berthier.ControlLoop
import Marengo.Lib.History
import Marengo.Safety.References

/-!
# The protocol of a degraded episode

The loop follows an episode through the stages of `Stage`: it has seen none, it follows one, or the
one it followed is over. Each stage says what the loop has reported (`Reports`): the loss, then at
most one start of the lower, then at most one end. Only four programs report anything, and each is
one step between stages. The others leave the reports and the loop's side of the episode alone,
whatever they do to the supervisor (`Unreported`), and the supervisor starts no second episode
(`Ages`).
-/

namespace Marengo

open Prog

set_option synthInstance.maxSize 1000

variable {F H : Type}

/-! ## Programs that report nothing -/

/-- The loop's side of the episode and its reports are unchanged. -/
structure Unreported (l l' : ControlLoop F H) : Prop where
  degraded : l'.degraded = l.degraded
  events : l'.degradedEvents = l.degradedEvents
  taken : l'.taken = l.taken
  seen : l'.seen = l.seen
  ages : Ages l.supervisor l'.supervisor

instance : Std.Refl (Unreported (F := F) (H := H)) :=
  ⟨fun _ => ⟨rfl, rfl, rfl, rfl, Std.Refl.refl _⟩⟩

instance : IsTrans (ControlLoop F H) Unreported := ⟨fun _ _ _ h h' =>
  ⟨h'.degraded.trans h.degraded, h'.events.trans h.events, h'.taken.trans h.taken,
    h'.seen.trans h.seen, trans_of Ages h.ages h'.ages⟩⟩

variable {l l' : ControlLoop F H}

theorem Unreported.emitted (h : Unreported l l') : l'.emitted = l.emitted := by
  rw [ControlLoop.emitted, h.taken, h.events]
  rfl

section
variable {T : Prop} {ε α : Type}

/-- A change of anything but the supervisor, the loop's side of the episode and its reports. -/
instance (jointNames : ControlLoop F H → List String) (controlMode : ControlLoop F H → ControlMode)
    (controllers : ControlLoop F H → H) (positionWave : ControlLoop F H → Option (PositionWave F))
    (torqueCmds : ControlLoop F H → String → Option F) (loopHz tickCount : ControlLoop F H → ℕ)
    (lastEnableSession : ControlLoop F H → Option Instant)
    (lastStopGeneration activeFeedbackGraceTicks : ControlLoop F H → ℕ)
    (implicitEnableForbidden : ControlLoop F H → Bool) :
    Keeps T Unreported (update fun l : ControlLoop F H =>
      { supervisor := l.supervisor
        jointNames := jointNames l
        controlMode := controlMode l
        controllers := controllers l
        positionWave := positionWave l
        torqueCmds := torqueCmds l
        loopHz := loopHz l
        tickCount := tickCount l
        lastEnableSession := lastEnableSession l
        lastStopGeneration := lastStopGeneration l
        activeFeedbackGraceTicks := activeFeedbackGraceTicks l
        implicitEnableForbidden := implicitEnableForbidden l
        degraded := l.degraded
        degradedEvents := l.degradedEvents
        taken := l.taken
        seen := l.seen } : Prog (ControlLoop F H) ε Unit) :=
  .update fun _ => ⟨rfl, rfl, rfl, rfl, .ofEq rfl⟩

variable [World F]

instance (x : Prog (System F) ε α) [h : Keeps T Ages x] :
    Keeps T Unreported (onSupervisor x : Prog (ControlLoop F H) ε α) :=
  h.zoom fun _ _ ha => ⟨rfl, rfl, rfl, rfl, ha⟩

instance (x : Prog (System F) DavoutError α) [Keeps False Ages x] :
    Keeps False Unreported (supervise (H := H) x) := by
  unfold supervise
  infer_instance

instance (f : H → H) : Keeps T Unreported (control f : Prog (ControlLoop F H) ε Unit) := by
  unfold control
  infer_instance

variable (joint : String) (q : List F) (mode : ControlMode) (files : RepoFiles)
  (speedFraction : Option F) (positionRad : F)

instance : Keeps T Ages (jointFeedback joint : Prog (System F) ε (Option (MotorState F))) := by
  unfold jointFeedback
  infer_instance

instance : Keeps T Unreported (jointVelocity joint : Prog (ControlLoop F H) ε F) := by
  unfold jointVelocity
  infer_instance

instance : Keeps T Unreported (jointTorque joint : Prog (ControlLoop F H) ε F) := by
  unfold jointTorque
  infer_instance

instance : Keeps T Unreported (readPositions : Prog (ControlLoop F H) ε (List F)) := by
  unfold readPositions
  infer_instance

instance : Keeps T Unreported (hasJointFeedback joint : Prog (ControlLoop F H) ε Bool) := by
  unfold hasJointFeedback
  infer_instance

instance (joints : List String) :
    Keeps T Unreported (firstGap joints : Prog (ControlLoop F H) ε (Option String)) := by
  induction joints with
  | nil =>
    unfold firstGap
    infer_instance
  | cons joint rest ih =>
    unfold firstGap
    exact .bind fun _ => .ite ih inferInstance

instance (peers : Bool) :
    Keeps T Unreported (feedbackGaps peers : Prog (ControlLoop F H) ε FeedbackGaps) := by
  unfold feedbackGaps
  infer_instance

instance : Keeps T Unreported (noteStopGeneration : Prog (ControlLoop F H) ε Unit) := by
  unfold noteStopGeneration
  infer_instance

instance (operation : String) :
    Keeps False Unreported (refuseReferenceIntent (F := F) (H := H) operation) := by
  unfold refuseReferenceIntent
  infer_instance

instance : Keeps False Unreported (enableCompletion (F := F) (H := H)) := by
  unfold enableCompletion
  repeat refine .bind fun _ => ?_
  split <;> infer_instance

instance : Keeps False Unreported (keepaliveTick (H := H) q) := by
  unfold keepaliveTick
  infer_instance

instance : Keeps T Unreported (noteEnableSession : Prog (ControlLoop F H) ε Unit) := by
  unfold noteEnableSession
  infer_instance

instance (allHaveFeedback : Bool) :
    Keeps T Unreported (spendGrace allHaveFeedback : Prog (ControlLoop F H) ε Unit) := by
  unfold spendGrace
  infer_instance

instance (q tauG : List F) :
    Keeps T Unreported (holdWorld q tauG : Prog (ControlLoop F H) ε (HoldWorld F)) := by
  unfold holdWorld
  infer_instance

variable [Controllers F H]

instance : Keeps T Unreported (setControlModeInner mode : Prog (ControlLoop F H) ε Unit) := by
  unfold setControlModeInner seedUnsentTauFfRateLimiter seedTauFfRateLimiter
  dsimp only
  infer_instance

instance discardMotionIntent_unreported :
    Keeps T Unreported (discardMotionIntent : Prog (ControlLoop F H) ε Unit) := by
  unfold discardMotionIntent
  infer_instance

instance : Keeps T Unreported (synchronizeStopGeneration : Prog (ControlLoop F H) ε Unit) := by
  unfold synchronizeStopGeneration
  infer_instance

instance : Keeps T Unreported (latchPositionFromQ q : Prog (ControlLoop F H) ε Unit) := by
  unfold latchPositionFromQ
  infer_instance

instance : Keeps T Unreported (armFromMeasured q : Prog (ControlLoop F H) ε Unit) := by
  unfold armFromMeasured
  infer_instance

instance (i : ℕ) (q requested speed : F) :
    Keeps T Unreported (applyJointRetarget i q requested speed :
      Prog (ControlLoop F H) ε Unit) := by
  unfold applyJointRetarget
  exact .bind fun _ => by split <;> infer_instance

instance : Keeps False Unreported (refuseDegraded (F := F) (H := H)) := by
  unfold refuseDegraded
  exact .bind fun _ => by split <;> infer_instance

instance setControlMode_unreported :
    Keeps T Unreported (ControlLoop.setControlMode mode : Prog (ControlLoop F H) ε Unit) := by
  unfold ControlLoop.setControlMode
  infer_instance

instance trySetControlMode_unreported :
    Keeps False Unreported (trySetControlMode (F := F) (H := H) mode) := by
  unfold trySetControlMode
  infer_instance

instance : Keeps False Unreported (refreshJointPositions (F := F) (H := H)) := by
  unfold refreshJointPositions
  exact .bind fun _ => .bind fun _ => by split <;> infer_instance

instance ensureActiveForMotion_unreported :
    Keeps False Unreported (ensureActiveForMotion (F := F) (H := H) files) := by
  unfold ensureActiveForMotion
  infer_instance

instance : Keeps False Unreported (motionPositions (F := F) (H := H) files) := by
  unfold motionPositions
  infer_instance

instance setJointPositionSetpointAtSpeed_unreported : Keeps False Unreported
      (setJointPositionSetpointAtSpeed (H := H) joint positionRad speedFraction) := by
  unfold setJointPositionSetpointAtSpeed
  repeat refine .bind fun _ => ?_
  split <;> infer_instance

instance enterPositionHold_unreported :
    Keeps False Unreported (enterPositionHold (F := F) (H := H) files) := by
  unfold enterPositionHold
  infer_instance

instance enterPositionHoldAtSpeed_unreported (joint : Option String) : Keeps False Unreported
      (enterPositionHoldAtSpeed (H := H) files joint positionRad speedFraction) := by
  unfold enterPositionHoldAtSpeed
  infer_instance

instance startPositionWave_unreported (request : WaveRequest F) :
    Keeps False Unreported (startPositionWave (H := H) files request) := by
  unfold startPositionWave
  refine .bind fun _ => .bind fun _ => .bind fun l => ?_
  split
  · infer_instance
  · dsimp only
    infer_instance

instance setTorqueCmd_unreported (tauNm : F) :
    Keeps False Unreported (setTorqueCmd (H := H) joint tauNm) := by
  unfold setTorqueCmd
  infer_instance

instance enterTorqueOnlyZero_unreported :
    Keeps False Unreported (enterTorqueOnlyZero (F := F) (H := H)) := by
  unfold enterTorqueOnlyZero
  infer_instance

instance applyGainOverride_unreported (gains : GainOverride F) :
    Keeps False Unreported (applyGainOverride (H := H) joint gains) := by
  unfold applyGainOverride
  infer_instance

/-- No motion command reports anything. -/
instance MotionCommand.perform_unreported (command : MotionCommand F) :
    Keeps False Unreported (command.perform (H := H) files) := by
  cases command with
  | setpoint => exact setJointPositionSetpointAtSpeed_unreported _ _ _
  | hold => exact enterPositionHold_unreported files
  | holdAt => exact enterPositionHoldAtSpeed_unreported files _ _ _
  | wave request => exact .andThen (startPositionWave_unreported files request) fun _ => inferInstance
  | torque => exact setTorqueCmd_unreported _ _
  | torqueZero => exact enterTorqueOnlyZero_unreported
  | gains => exact applyGainOverride_unreported _ _
  | arm => exact ensureActiveForMotion_unreported files

instance (q tauG : List F) : Keeps False Unreported (composeBatch (H := H) q tauG) := by
  unfold composeBatch
  infer_instance

instance : Keeps False Unreported (referenceTick (F := F) (H := H)) := by
  unfold referenceTick
  infer_instance

instance (error : LoopError F) :
    Keeps T Unreported (answerTickError error : Prog (ControlLoop F H) ε Unit) := by
  unfold answerTickError
  split <;> infer_instance

end

/-! ## The stages of an episode -/

/-- `events` reports the episode: its loss, then at most one start of the lower, then at most one
end. -/
def Reports (episode : DegradedEpisode F) (events : List DegradedEvent)
    (cause : Option DegradedLowerCause) (terminal : Option DegradedEvent) : Prop :=
  (∃ window : Duration, events =
    .driveLost episode.lostJoint episode.shedJoints episode.holdingJoints window ::
      ((cause.map .lowerStarted).toList ++ terminal.toList)) ∧
  ∀ t ∈ terminal, t = .lowerComplete ∨ ∃ end_, t = .ended episode.lostJoint end_

variable {e : DegradedEpisode F}

theorem Reports.start {events : List DegradedEvent}
    (h : Reports e events none none) (cause : DegradedLowerCause) :
    Reports e (events ++ [.lowerStarted cause]) (some cause) none := by
  obtain ⟨⟨window, rfl⟩, -⟩ := h
  exact ⟨⟨window, rfl⟩, fun t ht => by cases ht⟩

theorem Reports.finish {events : List DegradedEvent}
    {cause : Option DegradedLowerCause} (h : Reports e events cause none) {t : DegradedEvent}
    (ht : t = .lowerComplete ∨ ∃ end_, t = .ended e.lostJoint end_) :
    Reports e (events ++ [t]) cause (some t) := by
  obtain ⟨⟨window, rfl⟩, -⟩ := h
  refine ⟨⟨window, by simp⟩, fun t' ht' => ?_⟩
  cases ht'
  exact ht

/-- Something is shed, the supervisor is in the episode or past it, and the loop has seen this
episode and no other. -/
structure Tracks (l : ControlLoop F H) (e : DegradedEpisode F) : Prop where
  shed : l.supervisor.driveLoss.shed ≠ []
  episode : l.episode = some e ∨ l.episode = none
  mem : some e ∈ l.seen
  only : ∀ e', some e' ∈ l.seen → e' = e

/-- Where the loop is in its episode. -/
inductive Stage (l : ControlLoop F H) : Prop
  /-- The loop has seen no episode. -/
  | unseen (degraded : l.degraded = none) (emitted : l.emitted = [])
      (seen : ∀ e, some e ∉ l.seen)
  /-- The loop follows the episode `e` and has not seen its end. -/
  | following (e : DegradedEpisode F) (c : DegradedControl F) (cause : Option DegradedLowerCause)
      (tracks : Tracks l e) (degraded : l.degraded = some c) (lost : c.lostJoint = e.lostJoint)
      (phase : c.phase = .lowering ↔ cause ≠ none) (reports : Reports e l.emitted cause none)
      (running : ∀ before after, l.seen = before ++ none :: after → some e ∉ before)
  /-- The episode `e` is over. -/
  | past (e : DegradedEpisode F) (cause : Option DegradedLowerCause) (terminal : DegradedEvent)
      (tracks : Tracks l e) (degraded : l.degraded = none) (ended : l.episode = none)
      (reports : Reports e l.emitted cause (some terminal))

structure Protocol (l : ControlLoop F H) : Prop where
  sound : l.supervisor.driveLoss.Sound
  stage : Stage l

/-- An episode is over for good once something was shed. -/
theorem Ages.over {s s' : System F} (h : Ages s s') (hs : s.driveLoss.Sound)
    (hshed : s.driveLoss.shed ≠ []) (he : s.driveLoss.episode = none) :
    s'.driveLoss.episode = none := by
  rcases (h hs).1.episode hshed with h' | h'
  · rw [h', he]
  · exact h'

/-- The supervisor may go on by itself. -/
theorem Tracks.ages (h : Tracks l e) (hs : l.supervisor.driveLoss.Sound)
    (ha : Ages l.supervisor l'.supervisor) (hseen : l'.seen = l.seen) : Tracks l' e where
  shed := (ha hs).1.shed h.shed
  episode := by
    rcases h.episode with he | he
    · exact ha.episode hs he
    · exact .inr (ha.over hs h.shed he)
  mem := hseen ▸ h.mem
  only := hseen ▸ h.only

/-- A program that reports nothing keeps to the protocol. -/
theorem Protocol.unreported (h : Protocol l) (hu : Unreported l l') : Protocol l' := by
  refine ⟨(hu.ages h.sound).2, ?_⟩
  cases h.stage with
  | unseen degraded emitted seen =>
    refine .unseen (hu.degraded.trans degraded) (hu.emitted.trans emitted) ?_
    rw [hu.seen]
    exact seen
  | following e c cause tracks degraded lost phase reports running =>
    refine .following e c cause (tracks.ages h.sound hu.ages hu.seen) (hu.degraded.trans degraded)
      lost phase (hu.emitted.symm ▸ reports) ?_
    rw [hu.seen]
    exact running
  | past e cause terminal tracks degraded ended reports =>
    exact .past e cause terminal (tracks.ages h.sound hu.ages hu.seen)
      (hu.degraded.trans degraded) (hu.ages.over h.sound tracks.shed ended)
      (hu.emitted.symm ▸ reports)

/-! ## Programs that keep to the protocol -/

abbrev Upholds : ControlLoop F H → ControlLoop F H → Prop := Under Protocol Anyhow

section
variable [World F] [Controllers F H] {T : Prop} {ε α : Type}

instance (priority := low) upholds_ofUnreported {x : Prog (ControlLoop F H) ε α}
    [h : Keeps T Unreported x] : Keeps T Upholds x :=
  h.mono fun _ _ hu hp => ⟨trivial, hp.unreported hu⟩

/-- The hold at the start of an episode: the loop's side of it, and the report of the loss. -/
theorem enterDegradedHold_along (e : DegradedEpisode F) (l : ControlLoop F H) :
    Along Anyhow (enterDegradedHold e : Prog (ControlLoop F H) ε Unit)
      (Returns fun _ l' => l'.degraded = some (l.degradedControl e) ∧
        (∃ window, l'.emitted = l.emitted ++
          [.driveLost e.lostJoint e.shedJoints e.holdingJoints window]) ∧
        l'.seen = l.seen ∧ Ages l.supervisor l'.supervisor) l := by
  unfold enterDegradedHold
  refine .update trivial (.stepVia (S := Unreported) (fun _ _ _ => trivial) fun q l₁ h₁ =>
    .stepVia (S := Unreported) (fun _ _ _ => trivial) fun _ l₂ h₂ =>
    .stepVia (S := Unreported) (fun _ _ _ => trivial) fun _ l₃ h₃ => .read (.set trivial ?_))
  have h := trans_of Unreported h₁ (trans_of Unreported h₂ h₃)
  refine ⟨h.degraded, ⟨l₃.holdWindow, ?_⟩, h.seen, h.ages⟩
  simp only [ControlLoop.emitted, h.taken, h.events, List.append_assoc]

variable {l : ControlLoop F H}

omit [World F] [Controllers F H] in
/-- One more look that shows the episode goes on, or that there is none yet. -/
theorem Protocol.look (h : Protocol l) (hlook : l.episode.isSome = l.degraded.isSome) :
    Protocol { l with seen := l.seen ++ [l.episode] } := by
  refine ⟨h.sound, ?_⟩
  cases h.stage with
  | unseen degraded emitted seen =>
    have hep : l.episode = none := by simpa [degraded] using hlook
    exact .unseen degraded emitted fun e he => seen e (by simpa [hep] using he)
  | following e c cause tracks degraded lost phase reports running =>
    have hep : l.episode = some e := by
      rcases tracks.episode with hep | hep
      · exact hep
      · simp [hep, degraded] at hlook
    refine .following e c cause ⟨tracks.shed, tracks.episode, ?_, fun e' he' => ?_⟩ degraded lost
      phase reports fun before after hsplit => ?_
    · exact List.mem_append_left _ tracks.mem
    · rcases List.mem_append.mp he' with he' | he'
      · exact tracks.only e' he'
      · simpa [hep] using he'
    · rw [hep] at hsplit
      rcases History.concat_eq_split hsplit with ⟨-, hnone, -⟩ | ⟨rest, -, hbefore⟩
      · cases hnone
      · exact running before rest hbefore
  | past e cause terminal tracks degraded ended reports =>
    refine .past e cause terminal ⟨tracks.shed, tracks.episode, ?_, fun e' he' => ?_⟩ degraded
      ended reports
    · exact List.mem_append_left _ tracks.mem
    · exact tracks.only e' (by simpa [ended] using he')

omit [Controllers F H] in
/-- The first look at an episode: the loop follows it and reports the loss. -/
theorem Protocol.enter {l l' : ControlLoop F H} (h : Protocol l) {e : DegradedEpisode F}
    (hep : l.episode = some e) (hnone : l.degraded = none)
    (hdegraded : l'.degraded = some (l.degradedControl e))
    (hemitted : ∃ window, l'.emitted = l.emitted ++
      [.driveLost e.lostJoint e.shedJoints e.holdingJoints window])
    (hseen : l'.seen = l.seen ++ [some e]) (hages : Ages l.supervisor l'.supervisor) :
    Protocol l' := by
  refine ⟨(hages h.sound).2, ?_⟩
  cases h.stage with
  | unseen degraded emitted seen =>
    obtain ⟨window, hwindow⟩ := hemitted
    have hshed : l.supervisor.driveLoss.shed ≠ [] :=
      h.sound.episode (by simp [show l.supervisor.driveLoss.episode = some e from hep])
    refine .following e _ none ⟨(hages h.sound).1.shed hshed, hages.episode h.sound hep, ?_,
      fun e' he' => ?_⟩ hdegraded rfl ⟨nofun, fun h => absurd rfl h⟩ ⟨⟨window, ?_⟩, nofun⟩
      fun before after hsplit hmem => ?_
    · rw [hseen]
      exact List.mem_append_right _ (.head _)
    · rw [hseen] at he'
      rcases List.mem_append.mp he' with he' | he'
      · exact absurd he' (seen e')
      · simpa using he'
    · simp [hwindow, emitted]
    · rw [hseen] at hsplit
      rcases History.concat_eq_split hsplit with ⟨-, hnone, -⟩ | ⟨rest, -, hbefore⟩
      · cases hnone
      · exact seen e (hbefore ▸ List.mem_append_left _ hmem)
  | following e c cause tracks degraded => simp [hnone] at degraded
  | past e cause terminal tracks degraded ended => simp [hep] at ended

variable {c : DegradedControl F}

omit [World F] [Controllers F H] in
/-- The first look after the end of the episode: the loop reports it. -/
theorem Protocol.leave (h : Protocol l)
    (hep : l.episode = none) (hc : l.degraded = some c) (end_ : DegradedEnd) :
    Protocol { l with
      seen := l.seen ++ [none]
      degraded := none
      degradedEvents := l.degradedEvents ++ [.ended c.lostJoint end_] } := by
  refine ⟨h.sound, ?_⟩
  cases h.stage with
  | unseen degraded => simp [hc] at degraded
  | following e c' cause tracks degraded lost phase reports running =>
    obtain rfl : c = c' := Option.some.inj (hc.symm.trans degraded)
    refine .past e cause (.ended c.lostJoint end_) ⟨tracks.shed, tracks.episode, ?_,
      fun e' he' => ?_⟩ rfl hep ?_
    · exact List.mem_append_left _ tracks.mem
    · exact tracks.only e' (by simpa using he')
    · rw [ControlLoop.emitted, ← List.append_assoc]
      exact reports.finish (.inr ⟨end_, by rw [lost]⟩)
  | past e cause terminal tracks degraded => simp [hc] at degraded

/-- An observation takes the loop from stage to stage. -/
instance : Keeps T Upholds (observeDegradedEpisode : Prog (ControlLoop F H) ε Unit) := by
  refine .ofPost fun l => ?_
  unfold observeDegradedEpisode
  refine .read (.update trivial ?_)
  rcases hep : l.episode with _ | e <;> rcases hc : l.degraded with _ | c
  · refine .pure fun h => ⟨trivial, ?_⟩
    have hlook := h.look (by simp [hep, hc])
    rwa [hep, hc] at hlook
  · exact .update trivial (.set trivial fun h => ⟨trivial, h.leave hep hc _⟩)
  · refine (enterDegradedHold_along e _).weaken fun _ l' _ h' h => ⟨trivial, ?_⟩
    obtain ⟨hdegraded, hemitted, hseen, hages⟩ := h'
    exact h.enter hep hc hdegraded hemitted hseen hages
  · refine .pure fun h => ⟨trivial, ?_⟩
    have hlook := h.look (by simp [hep, hc])
    rwa [hep, hc] at hlook

omit [World F] [Controllers F H] in
/-- The lower starts: the loop reports it and is lowering. -/
theorem Protocol.lower {l l' : ControlLoop F H} (h : Protocol l)
    (hc : l.degraded = some c) (hphase : c.phase ≠ .lowering) (cause : DegradedLowerCause)
    (hdegraded : l'.degraded = some { c with phase := .lowering })
    (hemitted : l'.emitted = l.emitted ++ [.lowerStarted cause]) (hseen : l'.seen = l.seen)
    (hages : Ages l.supervisor l'.supervisor) : Protocol l' := by
  refine ⟨(hages h.sound).2, ?_⟩
  cases h.stage with
  | unseen degraded => simp [hc] at degraded
  | following e c' cause' tracks degraded lost phase reports running =>
    obtain rfl : c = c' := Option.some.inj (hc.symm.trans degraded)
    obtain rfl : cause' = none := not_ne_iff.mp (mt phase.mpr hphase)
    refine .following e _ (some cause) (tracks.ages h.sound hages hseen) hdegraded lost
      ⟨fun _ => nofun, fun _ => rfl⟩ ?_ ?_
    · rw [hemitted]
      exact reports.start cause
    · rw [hseen]
      exact running
  | past e cause terminal tracks degraded => simp [hc] at degraded

omit [Controllers F H] in
/-- The lower starts once: only a loop that is not lowering has a cause for it. -/
theorem lowerCause_along (c : DegradedControl F) (l : ControlLoop F H) :
    Along Unreported (lowerCause c : Prog (ControlLoop F H) ε (Option DegradedLowerCause))
      (Returns fun cause _ => cause ≠ none → c.phase ≠ .lowering) l := by
  unfold lowerCause
  split
  · rename_i hphase
    refine .step fun t l₁ _ => .pure fun _ => ?_
    rw [hphase]
    nofun
  · rename_i hphase
    refine .pure fun _ => ?_
    rw [hphase]
    nofun
  · exact .pure fun h => absurd rfl h

instance (q : List F) :
    Keeps T Upholds (advanceDegradedPhase q : Prog (ControlLoop F H) ε Unit) := by
  refine .ofPost fun l => ?_
  unfold advanceDegradedPhase
  refine .read ?_
  rcases hc : l.degraded with _ | c
  · exact .pure fun h => ⟨trivial, h⟩
  refine .nextVia (fun _ _ _ => trivial) (lowerCause_along c l) fun cause l₁ h₁ hcause => ?_
  rcases cause with _ | cause
  · exact .pure fun h => ⟨trivial, h.unreported h₁⟩
  refine .when (fun _ => ?_) fun _ h => ⟨trivial, h.unreported h₁⟩
  have hretarget : Keeps True Unreported (each c.holding fun i =>
      match l.jointNames[i]?, q[i]? with
      | some joint, some position =>
        applyJointRetarget i position (l.holdTargetTrim joint (lit 0)) (lit 1)
      | _, _ => pure () : Prog (ControlLoop F H) ε Unit) :=
    .each fun _ => by split <;> infer_instance
  refine .stepVia (S := Unreported) (fun _ _ _ => trivial) fun _ l₂ h₂ =>
    .stepVia (S := Unreported) (fun _ _ _ => trivial) fun _ l₃ h₃ =>
    .update trivial (.set trivial fun h => ⟨trivial, ?_⟩)
  have hu := trans_of Unreported h₁ (trans_of Unreported h₂ h₃)
  refine h.lower hc (hcause nofun) cause ?_ ?_ hu.seen hu.ages
  · simp [hu.degraded, hc]
  · rw [← hu.emitted]
    exact (List.append_assoc ..).symm

/-! ## The end of the lower -/

/-- A stop ends an episode. -/
theorem performStopPaced_over {s : System F} (synchronize : Bool) (pacer : Option BurstPacer) :
    Along Ages (performStopPaced synchronize pacer : Prog (System F) ε StopReport)
      (Returns fun _ s' => s'.driveLoss.episode = none) s := by
  have hages : Keeps True Ages (performStopPaced synchronize pacer : Prog (System F) ε _) :=
    performStopPaced_ages synchronize pacer
  have hended : Along (Runs Stopping) (performStopPaced synchronize pacer : Prog (System F) ε _)
      (Returns fun _ s' => s'.driveLoss.episode = none) s :=
    (performStopPaced_along synchronize pacer).weaken fun _ _ _ h => h.1.episode
  exact ⟨hages.keeps s, hended.2⟩

/-- A stop of every drive ends an episode. -/
theorem disableAll_over {s : System F} (hs : s.driveLoss.Sound) (hshed : s.driveLoss.shed ≠ []) :
    Along Ages (disableAll (F := F)) (fun _ s' => s'.driveLoss.episode = none) s := by
  unfold disableAll
  refine .step fun _ s₁ h₁ => .read ?_
  -- what follows the stop keeps the episode over
  have hafter : ∀ {s₂ : System F}, Ages s₁ s₂ → s₂.driveLoss.episode = none → ∀ {s₃ : System F},
      Ages s₂ s₃ → s₃.driveLoss.episode = none := fun h₂ he _ h₃ =>
    have hs₁ := (h₁ hs).2
    have hshed₁ := (h₁ hs).1.shed hshed
    h₃.over (h₂ hs₁).2 ((h₂ hs₁).1.shed hshed₁) he
  refine .bind (Q := fun _ s' => s'.driveLoss.episode = none) ?_ (fun _ s₂ h₂ he => ?_)
    fun _ _ _ he => he
  · refine .ite (fun hbusy => .bind (Q := fun _ s' => s'.driveLoss.episode = none)
      (.mapError ?_) (fun _ _ _ he => .pure he) fun _ _ _ he => he) fun _ => ?_
    · unfold finishReference
      refine .read ?_
      rcases hres : s₁.referenceOwner.reservation with _ | reservation
      · simp [Supervisor.acquisitionBusy, hres] at hbusy
      refine .update (.ofEq rfl) (.next (performStopPaced_over ..) fun stop s₂ h₂ he => ?_)
      refine .step fun _ s₃ h₃ => .update (.ofEq rfl) (.step fun _ s₅ h₅ => .pure ?_)
      exact hafter (trans_of Ages (.ofEq rfl) h₂) he
        (trans_of Ages h₃ (trans_of Ages (.ofEq rfl) h₅))
    · exact (performStopPaced_over ..).ofReturns fun _ _ _ he => he
  · exact .guard (fun _ => he) fun _ => he

theorem completeDegradedLower_over {s : System F} (hs : s.driveLoss.Sound)
    (hshed : s.driveLoss.shed ≠ []) :
    (completeDegradedLower s).2.driveLoss.episode = none := by
  suffices h : Along Ages (completeDegradedLower (F := F))
      (fun _ s' => s'.driveLoss.episode = none) s from h.2
  unfold completeDegradedLower stopEndingEpisode
  refine .updateVia (fun _ _ h => h) (S := Ages) ?_ fun s₁ _ h₁ =>
    disableAll_over (h₁ hs).2 ((h₁ hs).1.shed hshed)
  split
  · exact .ofKept rfl rfl rfl
  · exact .ofEq rfl

omit [World F] [Controllers F H] in
/-- The lower is complete: the loop reports it and follows the episode no longer. -/
theorem Protocol.complete {l l' : ControlLoop F H} (h : Protocol l) (hc : l.degraded = some c)
    (hdegraded : l'.degraded = none) (hemitted : l'.emitted = l.emitted ++ [.lowerComplete])
    (hseen : l'.seen = l.seen) (hages : Ages l.supervisor l'.supervisor)
    (hended : l.supervisor.driveLoss.shed ≠ [] → l'.episode = none) : Protocol l' := by
  refine ⟨(hages h.sound).2, ?_⟩
  cases h.stage with
  | unseen degraded => simp [hc] at degraded
  | following e c' cause tracks degraded lost phase reports running =>
    refine .past e cause .lowerComplete (tracks.ages h.sound hages hseen) hdegraded
      (hended tracks.shed) ?_
    rw [hemitted]
    exact reports.finish (.inl rfl)
  | past e cause terminal tracks degraded => simp [hc] at degraded

instance (q : List F) : Keeps False Upholds (completeDegradedLowerAtRest (H := H) q) := by
  refine .ofOutcome fun l => ?_
  unfold completeDegradedLowerAtRest
  refine .read ?_
  rcases hc : l.degraded with _ | c
  · exact .pure fun h => ⟨trivial, h⟩
  refine .ite (fun _ => .pure fun h => ⟨trivial, h⟩) fun _ => .update trivial ?_
  have hstop : Keeps False Unreported (onSupervisor (completeDegradedLower (F := F)) :
      Prog (ControlLoop F H) DavoutError Unit) := inferInstance
  refine .next (P := fun _ l₂ => Unreported { l with degraded := none } l₂ ∧
    (l.supervisor.driveLoss.Sound → l.supervisor.driveLoss.shed ≠ [] → l₂.episode = none))
    (.attempt ⟨trivial, hstop.keeps _, fun hs hshed => completeDegradedLower_over hs hshed⟩)
    fun stop l₂ _ ⟨h₂, hended⟩ => ?_
  refine .stepVia (S := Unreported) (fun _ _ _ => trivial) fun _ l₃ h₃ =>
    .stepVia (S := Unreported) (fun _ _ _ => trivial) fun _ l₄ h₄ =>
    .update trivial (.lifted fun h => ⟨trivial, ?_⟩)
  have hu := trans_of Unreported h₃ h₄
  have hall := trans_of Unreported h₂ hu
  refine h.complete hc hall.degraded ?_ hall.seen hall.ages fun hshed => ?_
  · exact (List.append_assoc ..).symm.trans (congrArg (· ++ _) hall.emitted)
  · exact hu.ages.over (h₂.ages h.sound).2 ((h₂.ages h.sound).1.shed hshed)
      (hended h.sound hshed)

instance requestDegradedLower_upholds :
    Keeps False Upholds (requestDegradedLower (F := F) (H := H)) := by
  unfold requestDegradedLower
  refine .bind fun _ => .ofOutcome fun l => .read ?_
  rcases hc : l.degraded with _ | c
  · exact .fail fun h => ⟨trivial, h⟩
  refine .when (fun hphase => .set trivial fun h => ⟨trivial, h.sound, ?_⟩) fun _ h => ⟨trivial, h⟩
  cases h.stage with
  | unseen degraded => simp [hc] at degraded
  | following e c' cause tracks degraded lost phase reports running =>
    obtain rfl : c = c' := Option.some.inj (hc.symm.trans degraded)
    refine .following e _ cause ⟨tracks.shed, tracks.episode, tracks.mem, tracks.only⟩ rfl lost
      ⟨nofun, fun h => ?_⟩ reports running
    rw [phase.mpr h] at hphase
    cases hphase
  | past e cause terminal tracks degraded => simp [hc] at degraded

instance takeDegradedEvents_upholds :
    Keeps T Upholds (takeDegradedEvents : Prog (ControlLoop F H) ε (List DegradedEvent)) := by
  unfold takeDegradedEvents
  refine .bind fun _ => .bind fun l => .andThen (.update fun l h => ⟨trivial, h.sound, ?_⟩) fun _ =>
    inferInstance
  have hemitted : ∀ l : ControlLoop F H, ControlLoop.emitted { l with
      taken := l.taken ++ l.degradedEvents, degradedEvents := [] } = l.emitted := fun l =>
    List.append_nil _
  cases h.stage with
  | unseen degraded emitted seen =>
    exact .unseen degraded ((hemitted l).trans emitted) seen
  | following e c cause tracks degraded lost phase reports running =>
    refine .following e c cause ⟨tracks.shed, tracks.episode, tracks.mem, tracks.only⟩ degraded
      lost phase ?_ running
    rw [hemitted]
    exact reports
  | past e cause terminal tracks degraded ended reports =>
    refine .past e cause terminal ⟨tracks.shed, tracks.episode, tracks.mem, tracks.only⟩ degraded
      ended ?_
    rw [hemitted]
    exact reports

/-! ## Runs -/

instance (needed : Bool) (q : List F) : Keeps False Upholds (settleGaps (H := H) needed q) := by
  unfold settleGaps
  infer_instance

instance (q : List F) : Keeps False Upholds (commandTick (H := H) q) := by
  unfold commandTick
  infer_instance

instance : Keeps False Upholds (sessionTick (F := F) (H := H)) := by
  unfold sessionTick
  repeat refine .bind fun _ => ?_
  dsimp only
  split <;> infer_instance

instance : Keeps False Upholds (tickInner (F := F) (H := H)) := by
  unfold tickInner
  infer_instance

instance tick_upholds : Keeps False Upholds (tick (F := F) (H := H)) := by
  unfold tick
  exact .bind fun _ => .bind fun _ => by split <;> infer_instance

/-- Whatever the owner does, the loop keeps to the protocol. -/
theorem LoopInput.perform_protocol (input : LoopInput F) (h : Protocol l) :
    Protocol (input.perform l) := by
  cases input with
  | tick => exact (tick_upholds.keeps l h).2
  | command files asked => exact h.unreported ((asked.perform_unreported files).keeps l)
  | requestDegradedLower => exact (requestDegradedLower_upholds.keeps l h).2
  | takeDegradedEvents => exact ((takeDegradedEvents_upholds (T := True)).keeps l h).2
  | setControlMode mode =>
    exact h.unreported ((setControlMode_unreported (T := True) mode).keeps l)
  | trySetControlMode mode => exact h.unreported ((trySetControlMode_unreported mode).keeps l)
  | inhibitMotionForShutdown =>
    exact h.unreported ((discardMotionIntent_unreported (T := True)).keeps l)
  | clearPositionHold | clearGainOverride | forbidImplicitEnable | allowImplicitEnable =>
    exact h.unreported ⟨rfl, rfl, rfl, rfl, .ofEq rfl⟩
  | supervise op => exact h.unreported ⟨rfl, rfl, rfl, rfl, op.perform_ages l.supervisor⟩

theorem ControlLoop.run_protocol (inputs : List (LoopInput F))
    (h : Protocol l) : Protocol (l.run inputs) := by
  induction inputs generalizing l with
  | nil => exact h
  | cons input rest ih => exact ih (input.perform_protocol h)

omit [Controllers F H] in
theorem ControlLoop.fromRepo_protocol (i : Installation F) (kind : OwnerKind F) (time : Instant)
    (controllers : H) (loopHz : ℕ) :
    Protocol (ControlLoop.fromRepo i kind time controllers loopHz) where
  sound := ⟨nofun, fun h => absurd rfl h⟩
  stage := .unseen rfl rfl nofun

/-! ## Motion commands -/

omit [World F] [Controllers F H] in
theorem refuseDegraded_refuses (h : l.degradedLostJoint ≠ none) :
    ∃ joint, refuseDegraded l = (.error (.degradedHold joint), l) := by
  obtain ⟨joint, hjoint⟩ := Option.ne_none_iff_exists'.mp h
  refine ⟨joint, ?_⟩
  simp only [refuseDegraded, Bind.bind, read, hjoint]
  rfl

omit [World F] [Controllers F H] in
/-- A program that first refuses a degraded loop does nothing else there. -/
theorem refuseDegraded_first (h : l.degradedLostJoint ≠ none)
    (f : Unit → Prog (ControlLoop F H) (LoopError F) α) :
    ∃ error, (refuseDegraded >>= f) l = (.error error, l) := by
  obtain ⟨joint, hjoint⟩ := refuseDegraded_refuses h
  refine ⟨.degradedHold joint, ?_⟩
  simp only [Bind.bind, hjoint]

omit [World F] [Controllers F H] in
/-- A check first, and then the refusal of a degraded loop. -/
theorem lift_refuseDegraded_first {β : Type} (h : l.degradedLostJoint ≠ none)
    (r : Except (LoopError F) β) (f : β → Unit → Prog (ControlLoop F H) (LoopError F) α) :
    ∃ error, (lift r >>= fun b => refuseDegraded >>= f b) l = (.error error, l) := by
  rcases r with error | b
  · exact ⟨error, rfl⟩
  · exact refuseDegraded_first h (f b)

/-- While an episode is open, every motion command is refused and changes nothing. -/
theorem MotionCommand.perform_refused (files : RepoFiles) (command : MotionCommand F)
    (h : l.degradedLostJoint ≠ none) :
    ∃ error, command.perform files l = (.error error, l) := by
  cases command with
  | setpoint joint positionRad speed => exact lift_refuseDegraded_first h (speedFractionOf speed) _
  | holdAt joint positionRad speed => exact lift_refuseDegraded_first h (speedFractionOf speed) _
  | wave request =>
    obtain ⟨error, herror⟩ : ∃ error, startPositionWave files request l = (.error error, l) :=
      refuseDegraded_first h _
    refine ⟨error, ?_⟩
    simp only [MotionCommand.perform, Bind.bind, herror]
  | hold | torque | torqueZero | gains | arm => exact refuseDegraded_first h _

end

end Marengo

import Marengo.Safety.Programs

/-!
# One degraded episode per owner

Shed addresses are shed for the rest of the process, and nothing is shed twice, so an owner sees at
most one degraded episode: once something is shed, the episode of that shed goes on or is over
(`DriveLossState.Before`). Every program of the supervisor moves the drive-loss state this way
(`Ages`). Four programs touch it: the installation of plans, a shed, the naming of an episode's end
and the stop that ends it. All others are made of these and of steps that leave it alone.
-/

namespace Marengo

open Prog

set_option synthInstance.maxSize 1000

variable {F : Type}

/-! ## Drive-loss states over time -/

/-- A plan sheds something, and so did an episode. -/
structure DriveLossState.Sound (d : DriveLossState F) : Prop where
  plans : ∀ p ∈ d.plans, p.shed ≠ []
  episode : d.episode ≠ none → d.shed ≠ []

/-- Once something is shed, it stays shed, and its episode goes on or is over. -/
structure DriveLossState.Before (d d' : DriveLossState F) : Prop where
  shed : d.shed ≠ [] → d'.shed ≠ []
  episode : d.shed ≠ [] → d'.episode = d.episode ∨ d'.episode = none

/-- The drive-loss state of `s` comes before the one of `s'`. -/
def Succeeds (s s' : System F) : Prop := s.driveLoss.Before s'.driveLoss

instance : Std.Refl (Succeeds (F := F)) := ⟨fun _ => ⟨id, fun _ => .inl rfl⟩⟩

instance : IsTrans (System F) Succeeds := ⟨fun _ _ _ h h' =>
  ⟨fun hs => h'.shed (h.shed hs), fun hs => by
    rcases h'.episode (h.shed hs) with he | he
    · rw [he]
      exact h.episode hs
    · exact .inr he⟩⟩

/-- Between sound drive-loss states there is at most one episode. -/
abbrev Ages : System F → System F → Prop := Under (·.driveLoss.Sound) Succeeds

/-- A change of what is said about a shed and its episode. -/
theorem Ages.ofKept {s s' : System F} (hplans : s'.driveLoss.plans = s.driveLoss.plans)
    (hshed : s'.driveLoss.shed = s.driveLoss.shed)
    (hepisode : s'.driveLoss.episode = s.driveLoss.episode) : Ages s s' := by
  intro hs
  refine ⟨⟨fun h => hshed ▸ h, fun _ => .inl hepisode⟩, ?_, fun h => ?_⟩
  · simp only [hplans]
    exact hs.plans
  · rw [hshed]
    exact hs.episode (hepisode ▸ h)

theorem Ages.ofEq {s s' : System F} (h : s'.driveLoss = s.driveLoss) : Ages s s' :=
  .ofKept (congrArg _ h) (congrArg _ h) (congrArg _ h)

theorem Ages.ofEnd {s s' : System F} (hplans : s'.driveLoss.plans = s.driveLoss.plans)
    (hshed : s'.driveLoss.shed = s.driveLoss.shed) (hend : s'.driveLoss.episode = none) :
    Ages s s' := by
  intro hs
  refine ⟨⟨fun h => hshed ▸ h, fun _ => .inr hend⟩, ?_, fun h => absurd hend h⟩
  simp only [hplans]
  exact hs.plans

/-- After a shed, an episode is the one before. -/
theorem Ages.episode {s s' : System F} (h : Ages s s') (hs : s.driveLoss.Sound)
    {e : DegradedEpisode F} (he : s.driveLoss.episode = some e) :
    s'.driveLoss.episode = some e ∨ s'.driveLoss.episode = none := by
  have hshed := hs.episode (by simp [he])
  rw [← he]
  exact (h hs).1.episode hshed

section
variable {T : Prop} {ε : Type}

/-- A change of anything but the drive-loss state. -/
instance (policy : System F → Policy F) (session : System F → Session)
    (estop : System F → Bool) (faults : System F → FaultAuthority)
    (feedback : System F → Feedback F) (history : System F → MotionHistory F)
    (reference : System F → ReferenceState F) (consulted : System F → ℕ)
    (time : System F → Instant) (nextToken : System F → Token) (log : System F → List (Handed F))
    (heard : System F → List (Heard F)) (selections : System F → List (Selected F))
    (stops : System F → ℕ) (pacer : System F → String → Option Instant) :
    Keeps T Ages (update fun s : System F =>
      { toPolicy := policy s, toSession := session s
        toSafety := ⟨estop s, faults s, s.driveLoss⟩
        toFeedback := feedback s, toMotionHistory := history s, toReferenceState := reference s
        consulted := consulted s, time := time s, nextToken := nextToken s, log := log s
        heard := heard s, selections := selections s, stops := stops s
        inspectionPacer := pacer s } : Prog (System F) ε Unit) :=
  .update fun _ => .ofEq rfl

instance (c : System F → Prop) (d : ∀ s, Decidable (c s))
    (f g : System F → System F) [hf : Keeps T Ages (update f : Prog (System F) ε Unit)]
    [hg : Keeps T Ages (update g : Prog (System F) ε Unit)] :
    Keeps T Ages (update fun s => if c s then f s else g s : Prog (System F) ε Unit) :=
  .update fun s => by
    split
    · exact hf.keeps s
    · exact hg.keeps s

variable [World F]

/-! ## Programs that leave the drive-loss state alone -/

/-- Effects that leave the drive-loss state alone. -/
def Sparing : Effect → Prop
  | .shed | .episode => False
  | _ => True

instance : Allows Sparing .tick := ⟨trivial⟩
instance : Allows Sparing .observe := ⟨trivial⟩
instance : Allows Sparing .hear := ⟨trivial⟩
instance : Allows Sparing .latch := ⟨trivial⟩
instance : Allows Sparing .mark := ⟨trivial⟩
instance : Allows Sparing .pace := ⟨trivial⟩
instance : Allows Sparing .receive := ⟨trivial⟩
instance : Allows Sparing .write := ⟨trivial⟩
instance : Allows Sparing .halt := ⟨trivial⟩
instance : Allows Sparing .reportOn := ⟨trivial⟩
instance : Allows Sparing .session := ⟨trivial⟩
instance (a : MotorAddress) : Allows Sparing (.disable a) := ⟨trivial⟩

/-- Only a shed and the steps of an episode touch the drive-loss state. -/
theorem Runs.driveLoss {s s' : System F} (h : Runs Sparing s s') : s'.driveLoss = s.driveLoss :=
  h.same (f := fun s => s.driveLoss) fun l _ _ hl hstep => by
    cases hstep with
    | tick h => exact congrArg Safety.driveLoss h.still.safety
    | observe h => exact congrArg Safety.driveLoss h.safety
    | collect _ _ h => exact congrArg Safety.driveLoss h.safety
    | select _ _ _ h => exact congrArg Safety.driveLoss h.still.safety
    | receive h => exact congrArg Safety.driveLoss h.safety
    | shed | episode => exact hl.elim
    | _ => rfl

instance (priority := low) ages_ofRuns {α : Type} {x : Prog (System F) ε α}
    [h : Keeps T (Runs Sparing) x] : Keeps T Ages x :=
  h.mono fun _ _ hr => .ofEq (Runs.driveLoss hr)

variable (call : BusCall F) (address : MotorAddress) (acc : Consumption F) (error : DavoutError)
  (motor : MotorEntry F) (context : ReceiveContext) (receivedAt : Instant)
  (observation : FeedbackObservation F) (order : ℕ) (device : DeviceFaultEvidence)
  (driveMode : DriveMode) (report : FeedbackReport F) (synchronize : Bool) (message : String)
  (joints : List String) (cmd : MitJointCommand F) (staged : List (StagedMit F))
  (cmds : List (MitJointCommand F × MotorEntry F)) (wires : List (AddressedMitCommand F))

instance : Keeps T Ages (send call : Prog (System F) ε _) := by
  unfold send
  infer_instance

instance : Keeps False Ages (sendOrFail (F := F) call) := by
  unfold sendOrFail
  infer_instance

instance (writtenAt : Instant) :
    Keeps T Ages (noteSolicit address writtenAt : Prog (System F) ε Unit) := by
  unfold noteSolicit
  infer_instance

instance (f : ReferenceAuthority F → ReferenceAuthority F) :
    Keeps T Ages (updateAuthority f : Prog (System F) ε Unit) := by
  unfold updateAuthority
  infer_instance

instance (f : Reservation F → Reservation F) :
    Keeps T Ages (updateReservation f : Prog (System F) ε Unit) := by
  unfold updateReservation
  infer_instance

instance (f : CommitOwner F → CommitOwner F) :
    Keeps T Ages (updateCommits f : Prog (System F) ε Unit) := by
  unfold updateCommits
  infer_instance

/-! ## Reports -/

instance : Keeps T Ages (rejectSample acc address error : Prog (System F) ε (Consumption F)) := by
  unfold rejectSample
  infer_instance

instance (echo : HostEchoObservation) :
    Keeps T Ages (consumeEcho echo : Prog (System F) ε Unit) := by
  unfold consumeEcho noteSetZero
  split <;> infer_instance

instance (canId : UInt32) (malformed : MalformedFeedback) :
    Keeps T Ages (recordMalformedFeedback motor address receivedAt canId malformed context :
      Prog (System F) ε Bool) := by
  unfold recordMalformedFeedback
  infer_instance

instance (report : DetailedFaultFeedback) :
    Keeps T Ages (consumeDetailedFault acc motor address receivedAt report :
      Prog (System F) ε (Consumption F)) := by
  unfold consumeDetailedFault
  infer_instance

omit [World F] in
theorem Supervisor.trackDriveFrame_driveLoss (s : Supervisor F) (motor : MotorEntry F)
    (address : MotorAddress) (mode : DriveMode) (receivedAt : Instant) (runExpected : Bool) :
    (s.trackDriveFrame motor address mode receivedAt runExpected).driveLoss = s.driveLoss := by
  unfold Supervisor.trackDriveFrame
  dsimp only
  split
  · rfl
  · split
    · rfl
    · split <;> rfl

instance (status : MitFeedback F) :
    Keeps T Ages (consumeSample context acc order observation motor status :
      Prog (System F) ε (Consumption F)) := by
  unfold consumeSample
  exact .bind fun _ => by split <;> infer_instance

instance (status : Option (MitFeedback F)) :
    Keeps T Ages (consumeReply context acc order observation motor driveMode device status :
      Prog (System F) ε (Consumption F)) := by
  unfold consumeReply
  refine .bind fun s => .andThen
    (.update fun s => .ofEq (s.toSupervisor.trackDriveFrame_driveLoss ..)) fun _ =>
    .ite inferInstance ?_
  split <;> infer_instance

instance : Keeps T Ages (consumeShedReply acc observation motor driveMode device :
      Prog (System F) ε (Consumption F)) := by
  unfold consumeShedReply
  refine .andThen (.update fun s => .ofEq (s.toSupervisor.trackDriveFrame_driveLoss ..)) fun _ =>
    .bind fun found => ?_
  split <;> infer_instance

instance (placed : Placed F) :
    Keeps T Ages (consumeEvent context acc placed : Prog (System F) ε (Consumption F)) := by
  unfold consumeEvent
  split
  · unfold consumeObservation consumeHeader
    refine .bind fun s => ?_
    split
    · infer_instance
    · split <;> infer_instance
  · infer_instance
  · unfold consumeTransport
    infer_instance
  · unfold consumeTerminal
    infer_instance

instance (c : PoseCandidate F) :
    Keeps T Ages (settleCandidate context acc c : Prog (System F) ε (Consumption F)) := by
  unfold settleCandidate
  split
  · infer_instance
  · exact .bind fun _ => by split <;> infer_instance

instance : Keeps T Ages (consumeCompletion acc report : Prog (System F) ε (Consumption F)) := by
  unfold consumeCompletion
  dsimp only
  infer_instance

instance : Keeps T Ages (consumeReportInContext report context :
      Prog (System F) ε (FeedbackConsumption F)) := by
  unfold consumeReportInContext
  infer_instance

/-! ## Stops -/

instance : Keeps T Ages (endDegradedEpisodeOnStop : Prog (System F) ε Unit) := by
  unfold endDegradedEpisodeOnStop
  refine .bind fun s => .andThen (.update fun _ => .ofKept rfl rfl rfl) fun _ => ?_
  split
  · infer_instance
  · exact .andThen (.update fun _ => .ofEnd rfl rfl rfl) fun _ => .bind fun _ => .bind fun _ =>
      .update fun _ => .ofKept rfl rfl rfl

instance performStopPaced_ages (pacer : Option BurstPacer) :
    Keeps T Ages (performStopPaced synchronize pacer : Prog (System F) ε StopReport) := by
  unfold performStopPaced beginStop
  refine .bind fun s => .bind fun _ => .bind fun _ => .bind fun _ => .bind fun _ => .andThen
    (.foldl fun ⟨attempts, pacer⟩ motor => inferInstance) fun r => ?_
  infer_instance

instance : Keeps T Ages (performStop synchronize : Prog (System F) ε StopReport) := by
  unfold performStop
  infer_instance

instance (cause : ReferenceCause) (existing : Option StopReport)
    (accepted : Option (AcceptedReferenceEvidence F × Option (PhysicalEvidence F))) :
    Keeps False Ages (finishReference cause existing accepted) := by
  unfold finishReference
  refine .bind fun s => ?_
  split
  · infer_instance
  · exact .bind fun _ => .andThen (by split <;> infer_instance) fun _ => inferInstance

instance : Keeps False Ages (disableAll (F := F)) := by
  unfold disableAll
  infer_instance

instance : Keeps T Ages (disableAllQuietly : Prog (System F) ε Unit) := by
  unfold disableAllQuietly
  infer_instance

instance : Keeps T Ages (abortReferenceForHazard message : Prog (System F) ε Unit) := by
  unfold abortReferenceForHazard
  infer_instance

instance : Keeps T Ages (stopForHazard message : Prog (System F) ε Unit) := by
  unfold stopForHazard
  infer_instance

instance (end_ : DegradedEnd) : Keeps False Ages (stopEndingEpisode (F := F) end_) := by
  unfold stopEndingEpisode
  refine .andThen (.update fun s => ?_) fun _ => inferInstance
  split
  · exact .ofKept rfl rfl rfl
  · exact .ofEq rfl

instance : Keeps False Ages (completeDegradedLower (F := F)) := by
  unfold completeDegradedLower
  infer_instance

instance : Keeps False Ages (enforceDegradedDeadline (F := F)) := by
  unfold enforceDegradedDeadline
  exact .bind fun s => by split <;> infer_instance

instance : Keeps T Ages (stopAfterRuntimeError error : Prog (System F) ε Unit) := by
  unfold stopAfterRuntimeError
  infer_instance

instance (joint : Option String) :
    Keeps T Ages (latchControlFault message joint : Prog (System F) ε Unit) := by
  unfold latchControlFault
  infer_instance

instance (asserted : Bool) : Keeps T Ages (setHardwareEstop asserted : Prog (System F) ε Unit) := by
  unfold setHardwareEstop
  infer_instance

instance : Keeps False Ages (ensureReferenceBinding (F := F)) := by
  unfold ensureReferenceBinding
  infer_instance

instance : Keeps False Ages (ensureReferenceFor (F := F) joints) := by
  unfold ensureReferenceFor
  infer_instance

/-! ## Sheds -/

instance (plans : List DriveLossPlan) :
    Keeps False Ages (installDriveLossPlans (F := F) plans) := by
  refine ⟨fun s => ?_, False.elim⟩
  suffices h : Along Anyhow (installDriveLossPlans plans) (fun _ s' => Ages s s') s from h.2
  refine .read (.bind (Along.each_done (D := fun p _ => p.shed ≠ []) (I := fun s' => s' = s)
    (X := fun _ s' => s' = s) rfl fun plan _ s' _ hI => .lifted ?_) (fun _ s' _ h => ?_)
    fun _ _ _ h => ?_)
  · cases hcheck : plan.check s.motors s.control with
    | ok => exact ⟨hI, DriveLossPlan.check_ok hcheck, fun _ => id⟩
    | error => exact hI
  · obtain ⟨rfl, hplans, -⟩ := h
    exact .set trivial fun hs => ⟨⟨id, fun _ => .inl rfl⟩, hplans, hs.episode⟩
  · obtain rfl : _ = s := h
    exact .ofEq rfl

instance : Keeps False Ages (disableShedDrive (F := F) address) := by
  unfold disableShedDrive
  exact .bind fun _ => by split <;> infer_instance

/-- Nothing was shed before a shed, so its episode is the first one. -/
instance : Keeps False Ages (shedForDriveLoss (F := F)) := by
  refine ⟨fun s => ?_, False.elim⟩
  by_cases hs : s.driveLoss.Sound
  swap
  · exact fun h => absurd h hs
  suffices h : Along Anyhow shedForDriveLoss (fun _ s' => Ages s s') s from h.2
  refine .nextVia (S := Runs Observing) (fun _ _ _ => trivial) shedDecision_along
    fun decision s₁ h₁ hd => ?_
  have heq : s₁.driveLoss = s.driveLoss :=
    Runs.driveLoss (h₁.mono fun l hl => by cases l <;> first | exact hl.elim | trivial)
  split
  · exact .pure (.ofEq heq)
  rename_i d
  obtain ⟨hmay, t, hd⟩ := hd d rfl
  obtain ⟨-, -, -, -, hunshed, -⟩ := Supervisor.mayShed_iff.mp hmay
  have hne := (shedDecisionAt_some (heq ▸ hs.plans) hd).1
  -- nothing was shed before, so it is enough to end sound
  have hages : ∀ s', s'.driveLoss.Sound → Ages s s' := fun s' hs' _ =>
    ⟨⟨fun h => absurd (heq ▸ hunshed) h, fun h => absurd (heq ▸ hunshed) h⟩, hs'⟩
  refine .updateVia (S := Anyhow) (fun _ _ _ => trivial) trivial fun s₂ hs₂ _ => ?_
  have hsound₂ : s₂.driveLoss.Sound ∧ s₂.driveLoss.shed ≠ [] := by
    subst hs₂
    refine ⟨⟨heq ▸ hs.plans, fun _ => ?_⟩, ?_⟩ <;> simpa [hunshed] using hne
  refine .andThenVia (S := Ages) (fun _ _ _ => trivial) (fun _ s₃ h₃ => ?_) fun _ s₃ h₃ =>
    hages s₃ (h₃ hsound₂.1).2
  have hdrop : Keeps True Ages (each d.shed fun (joint, address, _) => update fun s =>
      { s with toSupervisor := s.toSupervisor.dropShedJoint joint address } :
        Prog (System F) DavoutError Unit) :=
    .each fun ⟨joint, address, _⟩ => .update fun _ => .ofEq rfl
  refine .stepVia (S := Ages) (fun _ _ _ => trivial) fun _ s₄ h₄ => .update trivial (.pure ?_)
  obtain ⟨h₃, hsound₃⟩ := h₃ hsound₂.1
  obtain ⟨h₄, hsound₄⟩ := h₄ hsound₃
  exact hages _ ⟨hsound₄.plans, fun _ => h₄.shed (h₃.shed hsound₂.2)⟩

instance : Keeps False Ages (ensureReferenceForActive (F := F)) := by
  unfold ensureReferenceForActive
  repeat refine .bind fun _ => ?_
  split <;> infer_instance

instance : Keeps False Ages (checkActiveReferences (F := F)) := by
  unfold checkActiveReferences
  infer_instance

/-! ## Polls and sessions -/

instance (now : Instant) (force : Bool) :
    Keeps T Ages (writeOff motor now force : Prog (System F) ε (Option (Option SendError))) := by
  unfold writeOff sendOff
  infer_instance

instance (now : Instant) : Keeps False Ages (issueTargetReportingOff (F := F) now address) := by
  unfold issueTargetReportingOff
  refine .bind fun s => ?_
  split
  · infer_instance
  · exact .ite inferInstance (.bind fun _ => by split <;> infer_instance)

instance (now : Instant) : Keeps False Ages (issueTargetReportingOffs (F := F) now) := by
  unfold issueTargetReportingOffs
  infer_instance

instance : Keeps False Ages (writeEnable (F := F) address) := by
  unfold writeEnable
  infer_instance

instance (now : Instant) : Keeps False Ages (issueDueEnableWrites (F := F) now) := by
  unfold issueDueEnableWrites
  infer_instance

instance (now : Instant) :
    Keeps T Ages (enableEchoOverdue now : Prog (System F) ε (Option (DavoutError × Bool))) := by
  unfold enableEchoOverdue
  exact .bind fun s => by split <;> infer_instance

instance : Keeps T Ages (rollBack error : Prog (System F) ε Unit) := by
  unfold rollBack
  infer_instance

instance : Keeps False Ages (pollEnableWrites (F := F)) := by
  unfold pollEnableWrites
  exact .bind fun _ => .bind fun _ => by split <;> infer_instance

instance (lostBefore : Bool) : Keeps False Ages (pollReport (F := F) lostBefore) := by
  unfold pollReport pollShed
  exact .bind fun _ => .bind fun _ => .bind fun _ => .bind fun _ => .bind fun _ => .bind fun _ =>
    .bind fun _ => .bind fun _ => .bind fun _ => .bind fun _ => .bind fun _ => by
      dsimp only
      split <;> infer_instance

instance : Keeps False Ages (pollFeedback (F := F)) := by
  unfold pollFeedback
  infer_instance

instance : Keeps False Ages (drainFeedback (F := F)) := by
  unfold drainFeedback
  infer_instance

instance (watermark : ℕ) (deadline : Instant) (fuel : ℕ)
    (targets : List IdentityAsk) (nextRequest : Instant) :
    Keeps False Ages (identityRounds (F := F) watermark deadline fuel targets nextRequest) := by
  induction fuel generalizing targets nextRequest with
  | zero =>
    unfold identityRounds
    infer_instance
  | succ fuel ih =>
    unfold identityRounds identityRound
    refine .bind fun _ => .ite inferInstance (.bind fun _ => .ite inferInstance ?_)
    split
    · exact .bind fun _ => ih _ _
    · exact .bind fun _ => .bind fun _ => .bind fun _ => ih _ _

instance : Keeps False Ages (verifyPhysicalIdentities (F := F) joints) := by
  unfold verifyPhysicalIdentities
  infer_instance

instance (addresses : List MotorAddress) : Keeps False Ages (openSession (F := F) addresses) := by
  unfold openSession beginReportingOffGate
  infer_instance

instance : Keeps T Ages (activate joints : Prog (System F) ε Unit) := by
  unfold activate
  infer_instance

instance : Keeps False Ages (startSession (F := F) joints) := by
  unfold startSession
  infer_instance

instance {α : Type} (x : Prog (System F) DavoutError α) [Keeps False Ages x] :
    Keeps False Ages (orStop x) := by
  unfold orStop
  exact .bind fun _ => by split <;> infer_instance

instance : Keeps False Ages (enableTargetsInner (F := F) joints) := by
  unfold enableTargetsInner
  repeat refine .bind fun _ => ?_
  split <;> infer_instance

instance : Keeps False Ages (enableTargets (F := F) joints) := by
  unfold enableTargets
  exact .bind fun _ => .bind fun _ => .bind fun _ => .bind fun _ => .bind fun _ => .bind fun _ =>
    .bind fun _ => .andThen (by split <;> infer_instance) fun _ => inferInstance

instance (scope : Except DavoutError (Option (List String)))
    (master : Except DavoutError (List String)) :
    Keeps False Ages (resolveEnableTargets (F := F) scope master) := by
  unfold resolveEnableTargets
  exact .bind fun _ => .bind fun _ => .bind fun _ => .bind fun _ => .bind fun _ => .bind fun _ =>
    .bind fun ⟨_, _⟩ => inferInstance

instance : Keeps False Ages (setHomingComplete (F := F)) := by
  unfold setHomingComplete
  infer_instance

/-! ## Batches -/

instance (onlyUnsent : Bool) :
    Keeps T Ages (seedTauFfFromMeasured onlyUnsent : Prog (System F) ε Unit) := by
  unfold seedTauFfFromMeasured
  infer_instance

instance (neutralBootstrap : Bool) :
    Keeps False Ages (checkCommWatchdog (F := F) neutralBootstrap) := by
  unfold checkCommWatchdog
  infer_instance

instance : Keeps False Ages (stageCommand cmd motor) := by
  unfold stageCommand filterInputs
  infer_instance

instance : Keeps T Ages (stageCommands staged cmds :
      Prog (System F) ε (List (StagedMit F) × Except DavoutError Unit)) := by
  induction cmds generalizing staged with
  | nil =>
    unfold stageCommands
    infer_instance
  | cons cmd rest ih =>
    unfold stageCommands
    exact .bind fun r => by
      split
      · infer_instance
      · exact ih _

instance : Keeps T Ages (prepareMitBatch cmds :
      Prog (System F) ε (List (StagedMit F) × Except DavoutError Unit)) := by
  unfold prepareMitBatch
  exact .bind fun _ => by split <;> infer_instance

instance : Keeps False Ages (shedAfterStalePose staged) := by
  unfold shedAfterStalePose
  exact .bind fun _ => .ite inferInstance (.bind fun _ => .bind fun _ => .bind fun _ =>
    .ite (.bind fun _ => .bind fun _ => by split <;> infer_instance) inferInstance)

instance (now : Instant) :
    Keeps T Ages (writeBootstrapWires now wires : Prog (System F) ε (Option SendError)) := by
  induction wires with
  | nil =>
    unfold writeBootstrapWires
    infer_instance
  | cons wire rest ih =>
    unfold writeBootstrapWires
    exact .bind fun _ => .ite ih (.bind fun _ => .bind fun _ => by
      split
      · infer_instance
      · exact ih)

instance : Keeps T Ages (writeMitWires wires : Prog (System F) ε (Option SendError)) := by
  unfold writeMitWires
  infer_instance

omit [World F] in
theorem Supervisor.commitStages_driveLoss (staged : List (StagedMit F)) (s : Supervisor F) :
    (staged.foldl Supervisor.commitStage s).driveLoss = s.driveLoss := by
  induction staged generalizing s with
  | nil => rfl
  | cons stage rest ih => exact ih (s.commitStage stage)

instance (batchTick : Instant) : Keeps False Ages (deliverBatch batchTick staged) := by
  unfold deliverBatch
  refine .bind fun _ => .bind fun _ => ?_
  split
  · infer_instance
  · exact .update fun s => .ofEq (Supervisor.commitStages_driveLoss staged s.toSupervisor)

instance : Keeps False Ages (refuseBatch (F := F) error) := by
  unfold refuseBatch
  infer_instance

instance (cmds : List (MitJointCommand F)) (supplied : Option (MotorEntry F)) : Keeps False Ages (admitAndSendMit cmds supplied) := by
  unfold admitAndSendMit
  repeat refine .bind fun _ => ?_
  split
  · infer_instance
  · exact .andThen (by split <;> infer_instance) fun _ => by split <;> infer_instance

instance : Keeps False Ages (sendMitJoint cmd motor) := by
  unfold sendMitJoint
  infer_instance

instance (cmds : List (MitJointCommand F)) : Keeps False Ages (sendMitBatch cmds) := by
  unfold sendMitBatch
  exact .bind fun _ => by split <;> infer_instance

end

end Marengo

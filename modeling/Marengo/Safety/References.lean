import Marengo.Safety.Episodes

/-!
# Reference work and episodes

Acquisitions, commits, inspections and changes of the limits stop, write and receive, and otherwise
keep books that have nothing to do with a drive loss. So no operation of the supervisor begins a
second degraded episode (`Op.perform_ages`).
-/

namespace Marengo

open Prog

set_option synthInstance.maxSize 1000

variable {F : Type}

section
variable [World F] {T : Prop} {ε : Type}

/-! ## Acquisitions -/

instance (request : ReferenceRequest) : Keeps False Ages (beginReference (F := F) request) := by
  unfold beginReference retried
  refine .bind fun s => ?_
  split
  · infer_instance
  · refine .bind fun _ => ?_
    split
    · infer_instance
    · split
      · infer_instance
      · unfold admitReference
        repeat refine .bind fun _ => ?_
        split
        · infer_instance
        · repeat refine .bind fun _ => ?_
          split
          · infer_instance
          · unfold reserve
            refine .bind fun _ => .bind fun _ => ?_
            dsimp only
            split
            · infer_instance
            · refine .bind fun _ => .andThen (.ite inferInstance (.bind fun _ => ?_)) fun _ =>
                inferInstance
              split <;> infer_instance

variable (kind : ReferenceFailureKind) (message : String) (r : Reservation F)
  (backend : ReferenceBackend) (poses : List (ReferencePoseObservation F)) (motor : MotorEntry F)
  (reason : ReferenceCancelReason) (audit : ReferenceAudit) (handle : ReferenceCommitHandle)
  (joint : String) (fuel : ℕ) (answered : List Reply) (pending : Option PendingQuery)
  (context : ReceiveContext) (address : MotorAddress) (candidate : LimitCandidate F)

instance : Keeps False Ages (failReference (F := F) kind message) := by
  unfold failReference
  infer_instance

instance : Keeps False Ages (failPhase (F := F) kind message) := by
  unfold failPhase
  infer_instance

instance (evidence : AcceptedReferenceEvidence F)
    (physical : Option (PhysicalEvidence F)) : Keeps False Ages (stageEvidence evidence physical) := by
  unfold stageEvidence
  infer_instance

instance (motors : List (MotorEntry F)) (unrecorded : Option MotorAddress)
    (leaveOn : MotorAddress → Bool) (pacer : Option BurstPacer) (now : Instant) :
    Keeps T Ages (suspend motors unrecorded leaveOn pacer now :
      Prog (System F) ε (List ReportingSuspendAttempt × Option BurstPacer)) := by
  unfold suspend sendOff
  exact .foldl fun ⟨attempts, pacer⟩ motor => inferInstance

instance : Keeps False Ages (advanceBaselineStop r backend) := by
  unfold advanceBaselineStop beginReportingOffGate
  infer_instance

instance (call : BusCall F) (next : Prog (System F) ReferenceError Advance)
    [Keeps False Ages next] : Keeps False Ages (referenceWrite call next) := by
  unfold referenceWrite
  exact .bind fun _ => by split <;> infer_instance

instance : Keeps False Ages (advanceRequestIdentity r) := by
  unfold advanceRequestIdentity
  infer_instance

instance : Keeps False Ages (advanceRequestReadback r) := by
  unfold advanceRequestReadback
  infer_instance

instance : Keeps False Ages (advanceArmTarget r backend) := by
  unfold advanceArmTarget
  dsimp only
  infer_instance

instance : Keeps False Ages (installedTarget r) := by
  unfold installedTarget
  exact .bind fun _ => by split <;> infer_instance

instance : Keeps T Ages (newCoordinate r backend : Prog (System F) ε (Option ℕ)) := by
  unfold newCoordinate
  split
  · infer_instance
  · infer_instance

instance : Keeps False Ages (advanceSetZero r backend) := by
  unfold advanceSetZero invalidateReferenceTargetPoseForZeroAttempt noteSetZero
  repeat refine .bind fun _ => ?_
  split <;> infer_instance

instance : Keeps False Ages (advanceAwaitIdentity r) := by
  unfold advanceAwaitIdentity retryIdentity
  exact .bind fun _ => by split <;> infer_instance

instance (tolerance : F) : Keeps False Ages (advanceAwaitAck r tolerance poses) := by
  unfold advanceAwaitAck
  split <;> infer_instance

instance : Keeps False Ages (acceptPhysicalReadback r backend motor) := by
  unfold acceptPhysicalReadback stageReadback
  refine .bind fun s => ?_
  dsimp only
  split
  · infer_instance
  · refine .ite inferInstance (.bind fun _ => .ite inferInstance ?_)
    split <;> infer_instance

instance (proofs : List ReferenceCorrelation) :
    Keeps False Ages (advanceReceived r backend motor proofs poses) := by
  unfold advanceReceived
  refine .bind fun s => ?_
  dsimp only
  split
  case h_1 => split <;> infer_instance
  all_goals infer_instance

instance : Keeps False Ages (advanceReceive r backend) := by
  unfold advanceReceive
  exact .bind fun _ => .bind fun _ => .bind fun _ => .bind fun _ => .andThen
    (by split <;> infer_instance) fun _ => .bind fun _ => by split <;> infer_instance

instance : Keeps False Ages (advanceOwnPhase r backend) := by
  unfold advanceOwnPhase
  split <;> infer_instance

instance : Keeps False Ages (advanceLiveReference r backend) := by
  unfold advanceLiveReference
  refine .bind fun _ => .bind fun _ => .bind fun _ => .bind fun _ => .ite inferInstance
    (.ite inferInstance (.ite inferInstance (.bind fun _ => ?_)))
  split <;> infer_instance

instance (handle : ReferenceHandle) : Keeps False Ages (advanceReference (F := F) handle) := by
  have hphase : Keeps False Ages (advanceReferencePhase (F := F) handle) := by
    unfold advanceReferencePhase
    refine .bind fun _ => .bind fun _ => ?_
    split
    · infer_instance
    · split
      · infer_instance
      · refine .ite inferInstance ?_
        split <;> infer_instance
  unfold advanceReference
  exact .bind fun _ => by split <;> infer_instance

instance (handle : ReferenceHandle) :
    Keeps False Ages (cancelReference (F := F) handle reason) := by
  unfold cancelReference
  exact .bind fun _ => .bind fun _ => by split <;> infer_instance

instance :
    Keeps T Ages (cancelReferenceForShutdown : Prog (System F) ε (Option ReferenceTerminal)) := by
  unfold cancelReferenceForShutdown
  infer_instance

/-! ## Commits -/

instance : Keeps T Ages (journalWork : Prog (System F) ε Unit) := by
  unfold journalWork
  infer_instance

instance (acquisition : ReferenceHandle) :
    Keeps False Ages (beginReferenceCommit (F := F) acquisition audit) := by
  unfold beginReferenceCommit submitCommit
  repeat refine .bind fun _ => ?_
  split
  · infer_instance
  · repeat refine .bind fun _ => ?_
    split
    · infer_instance
    · repeat refine .bind fun _ => ?_
      split
      · infer_instance
      · infer_instance

instance : Keeps False Ages (referenceCommitSnapshot (F := F) handle) := by
  unfold referenceCommitSnapshot
  infer_instance

instance : Keeps T Ages (collect handle : Prog (System F) ε (Option (Entry F))) := by
  unfold collect
  refine .bind fun _ => .bind fun _ => ?_
  split
  · infer_instance
  · split <;> infer_instance

instance (entry : Entry F) :
    Keeps T Ages (selectCollected entry : Prog (System F) ε (Entry F × Bool)) := by
  unfold selectCollected noteSelection
  refine .bind fun _ => .ite inferInstance (.bind fun _ => .ite inferInstance (.bind fun _ =>
    .bind fun _ => ?_))
  split <;> infer_instance

instance : Keeps T Ages (consumeCompletionOf handle : Prog (System F) ε Unit) := by
  unfold consumeCompletionOf
  refine .bind fun _ => ?_
  split
  · infer_instance
  · exact .bind fun ⟨_, _⟩ => inferInstance

instance : Keeps T Ages (receiveForCommit handle motor : Prog (System F) ε Unit) := by
  unfold receiveForCommit
  infer_instance

instance : Keeps False Ages (advanceReferenceCommit (F := F) handle) := by
  unfold advanceReferenceCommit
  refine .bind fun _ => .bind fun _ => .bind fun _ => .ite ?_ inferInstance
  split <;> infer_instance

instance : Keeps False Ages (cancelReferenceCommit (F := F) handle reason) := by
  unfold cancelReferenceCommit setEntryPhase
  infer_instance

instance : Keeps False Ages (advanceReferenceWork (F := F)) := by
  unfold advanceReferenceWork beginPendingCommit recordRequestFailure
  refine .bind fun _ => .bind fun _ => ?_
  split
  · infer_instance
  · split
    · refine .bind fun _ => .bind fun _ => .when (.bind fun _ => ?_)
      split <;> infer_instance
    · split <;> infer_instance

instance (signVerified : Bool) :
    Keeps False Ages (requestReference (F := F) joint signVerified audit) := by
  unfold requestReference
  repeat refine .bind fun _ => ?_
  split <;> infer_instance

instance (handle : ReferenceHandle) : Keeps False Ages (referenceOutcome (F := F) handle) := by
  unfold referenceOutcome
  refine .bind fun _ => .bind fun _ => .ite inferInstance ?_
  split
  · infer_instance
  · refine .bind fun _ => ?_
    split
    · infer_instance
    · refine .ite inferInstance ?_
      split
      · infer_instance
      · unfold commitOutcome
        refine .bind fun _ => ?_
        split
        · infer_instance
        · refine .ite inferInstance (.ite ?_ inferInstance)
          split <;> infer_instance

instance : Keeps T Ages (drainReferenceJournalUntil : Prog (System F) ε ReferenceJournalDrain) := by
  unfold drainReferenceJournalUntil waitForJournal closeReferenceJournalAdmission
  refine .bind fun _ => .bind fun _ => .ite inferInstance (.bind fun _ => .bind fun _ => .andThen
    (.each fun handle => .bind fun _ => ?_) fun _ => inferInstance)
  split <;> infer_instance

instance (handle : ReferenceHandle) (deadline : Instant) : Keeps False Ages (calibrationRounds (F := F) joint handle deadline fuel) := by
  have hround : ∀ again : Prog (System F) DavoutError F, Keeps False Ages again →
      Keeps False Ages (calibrationRound joint handle again) := fun again h => by
    unfold calibrationRound
    exact .bind fun _ => .bind fun _ => by split <;> infer_instance
  induction fuel with
  | zero =>
    unfold calibrationRounds calibrationExpired
    exact hround _ inferInstance
  | succ fuel ih =>
    unfold calibrationRounds calibrationExpired
    exact hround _ inferInstance

instance (joint operator : String) (signTestPassed : Bool) :
    Keeps False Ages (calibrateJointZero (F := F) joint operator signTestPassed) := by
  unfold calibrateJointZero
  infer_instance

/-! ## Inspection and limits -/

instance (interface : String) :
    Keeps T Ages (inspectionGroup interface : Prog (System F) ε Unit) := by
  unfold inspectionGroup
  infer_instance

instance (error : Option SendError) : Keeps False Ages (inspectionSent (F := F) error) := by
  unfold inspectionSent
  split <;> infer_instance

instance : Keeps T Ages (inspectionStop : Prog (System F) ε (Except DavoutError Unit)) := by
  unfold inspectionStop beginStop stopAttempt
  infer_instance

instance (answer : Option Reply) (replies : List Reply) :
    Keeps False Ages (judgeReplies (F := F) answered pending answer replies) := by
  have hrefuse : ∀ (reply : Reply) (why : String),
      Keeps False Ages (refuseReply (F := F) (α := Option Reply) reply why) := fun reply why => by
    unfold refuseReply
    infer_instance
  induction replies generalizing answer with
  | nil =>
    unfold judgeReplies
    infer_instance
  | cons reply rest ih =>
    unfold judgeReplies
    split
    · infer_instance
    · refine .ite inferInstance ?_
      split <;> infer_instance

instance : Keeps False Ages (inspectionDrain (F := F) context answered pending) := by
  unfold inspectionDrain
  exact .bind fun _ => .bind fun _ => by split <;> infer_instance

instance (until_ : Instant) : Keeps False Ages (settleRounds (F := F) context answered until_ fuel) := by
  induction fuel with
  | zero =>
    unfold settleRounds
    infer_instance
  | succ fuel ih =>
    unfold settleRounds
    infer_instance

instance (pending : PendingQuery) : Keeps False Ages (queryRounds (F := F) joint pending answered fuel) := by
  induction fuel with
  | zero =>
    unfold queryRounds queryTimeout
    exact .bind fun _ => by split <;> infer_instance
  | succ fuel ih =>
    unfold queryRounds queryTimeout
    exact .bind fun _ => by split <;> infer_instance

instance (query : Query) :
    Keeps False Ages (inspectionQuery (F := F) joint address query answered) := by
  unfold inspectionQuery
  exact .bind fun _ => .bind fun _ => .bind fun _ => .bind fun _ => .bind fun _ => by
    dsimp only
    split <;> infer_instance

instance (acc : List (ParameterId × ParameterValue) × List Reply) (parameter : ParameterId) :
    Keeps False Ages (inspectParameter (F := F) joint address acc parameter) := by
  unfold inspectParameter
  refine .bind fun ⟨answer, answered⟩ => ?_
  dsimp only
  split
  · split <;> infer_instance
  all_goals infer_instance

instance (acc : List DriveProtocolInspection × List Reply)
    (target : String × MotorAddress) : Keeps False Ages (inspectDrive (F := F) acc target) := by
  unfold inspectDrive
  refine .bind fun ⟨version, answered⟩ => .bind fun ⟨uid, answered⟩ => ?_
  dsimp only
  split
  · exact .bind fun ⟨_, _⟩ => inferInstance
  · infer_instance

instance (targets : List (String × MotorAddress)) :
    Keeps False Ages (inspectStopped (F := F) targets) := by
  unfold inspectStopped inspectionSettle
  infer_instance

instance (joints : List String) : Keeps False Ages (inspectDriveProtocol (F := F) joints) := by
  unfold inspectDriveProtocol
  repeat refine .bind fun _ => ?_
  split <;> infer_instance

instance (limits : String → Option (JointLimitPolicy F)) :
    Keeps False Ages (installCandidate candidate limits) := by
  unfold installCandidate InstalledModelStamp.replacement
  infer_instance

instance (patch : LimitPatch F) : Keeps False Ages (applyLimitPatch patch) := by
  unfold applyLimitPatch checkMeasuredPosition
  repeat refine .bind fun _ => ?_
  split
  · infer_instance
  · exact .andThen (.bind fun _ => .bind fun _ => by split <;> infer_instance) fun _ => inferInstance

instance : Keeps False Ages (restoreLimitSnapshot candidate) := by
  unfold restoreLimitSnapshot
  infer_instance

/-! ## Operations -/

/-- No operation begins a second episode. -/
theorem Op.perform_ages (op : Op F) (s : System F) : Ages s (op.perform s) := by
  cases op with
  | editControl | editHoming => exact .ofEq rfl
  | acquireActiveReportingLease | renewActiveReportingLease | releaseActiveReportingLease
  | seedTauFfRateLimiter | seedUnsentTauFfRateLimiter | closeReferenceJournalAdmission =>
    simp only [Op.perform, Marengo.acquireActiveReportingLease, Marengo.renewActiveReportingLease,
      Marengo.releaseActiveReportingLease, Marengo.seedTauFfRateLimiter,
      Marengo.seedUnsentTauFfRateLimiter, Marengo.closeReferenceJournalAdmission]
    exact Keeps.keeps (T := False) s
  | _ => exact Keeps.keeps (T := False) s

/-- A run of operations moves the drive-loss state as each of them does. -/
theorem run_ages (ops : List (Op F)) (s : System F) : Ages s (run ops s) := by
  induction ops generalizing s with
  | nil => exact refl_of Ages s
  | cons op ops ih => exact trans_of Ages (op.perform_ages s) (ih (op.perform s))

/-- **One episode per process.** In every run of operations of a new owner, against any outside
world, plans and episodes shed something; once something is shed something stays shed, and from then
on the episode is the one there is or over for good. -/
theorem one_episode_per_process (i : Installation F) (kind : OwnerKind F) (time : Instant)
    (ops later : List (Op F)) :
    (run ops (construct i kind time)).driveLoss.Sound ∧
      (run ops (construct i kind time)).driveLoss.Before
        (run (ops ++ later) (construct i kind time)).driveLoss := by
  have hnew : (construct i kind time).driveLoss.Sound :=
    ⟨fun _ h => absurd h List.not_mem_nil, fun h => absurd rfl h⟩
  have hsound := (run_ages ops _ hnew).2
  have hafter : run (ops ++ later) (construct i kind time) =
      run later (run ops (construct i kind time)) := List.foldl_append
  exact ⟨hsound, hafter ▸ (run_ages later _ hsound).1⟩

end

end Marengo

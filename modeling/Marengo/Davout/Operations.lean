import Marengo.Davout.Facets

/-!
# Owners and runs

`construct` is the owner that the constructors build, before its first reporting synchronisation,
which is an operation like any other. `Op` lists the public operations of the supervisor that do
more than read a field, and `run` performs a sequence of them against the outside world. A failed
operation is an operation too: it leaves the state it has reached.
-/

namespace Marengo

variable {F : Type}

section
variable (F) [World F]

/-- What construction loads and validates. -/
structure Installation where
  robotJoints : List String
  maxJointTorqueNm : F
  urdf : String
  motors : InstalledMotors F
  control : ControlConfig F
  homing : HomingConfig F
  limits : String → Option (JointLimitPolicy F)
  validated : validateSafetyConfig ⟨motors.entries⟩ control homing = .ok ()
  derived : buildLimits robotJoints maxJointTorqueNm ⟨motors.entries⟩ control urdf = .ok limits

inductive OwnerKind
  /-- No acquisition capability. -/
  | plain
  /-- The qualified physical workflow, which needs a transport that echoes. -/
  | physical (origin : Instant) (bounds : MotorEntry F → ContinuityBounds F)
      (echoes : World.echoes F = true)
  /-- A closed virtual owner, with the joints of its initial reference. -/
  | simulated (initial : Option (Finset String))
  /-- A closed virtual owner with a journal. -/
  | simulatedJournal (selectsCurrent : Bool)

end

variable [World F]

def Installation.policy (i : Installation F) (descriptor : Token) : Policy F where
  limits := i.limits
  robotJoints := i.robotJoints
  maxJointTorqueNm := i.maxJointTorqueNm
  urdf := i.urdf
  installedModel := ⟨1, descriptor⟩
  motors := ⟨i.motors.entries⟩
  control := i.control
  homingConfig := i.homing
  stopMotors := i.motors

/-- The reference work of a new owner. The tokens are the identities of its acquisitions, its
commits and its backend. -/
def Installation.references (i : Installation F) : OwnerKind F → ReferenceState F
  | .plain => ⟨{}, { identity := 0 }, { identity := 1 }⟩
  | .physical origin bounds _ =>
    ⟨{}, { identity := 0
           backend := some (.physical 2 origin)
           physical := { devices := i.motors.entries.map fun m => (m.address, ⟨bounds m, 1, none,
             none, none, none, none⟩) } },
      { identity := 1, journal := some {}, selection := .currentPhysical }⟩
  | .simulated initial =>
    ⟨initial.elim {} fun joints =>
        .initialVirtual 2 joints ⟨⟨i.motors.entries⟩, i.control, i.homing⟩,
      { identity := 0, backend := some (.virtual 2) }, { identity := 1 }⟩
  | .simulatedJournal selectsCurrent =>
    ⟨{}, { identity := 0, backend := some (.virtual 2) },
      { identity := 1
        journal := some {}
        selection := if selectsCurrent then .currentVirtual else .historyOnly }⟩

/-- A new owner: Disabled, nothing latched, nothing enabled, nothing heard. -/
def construct (i : Installation F) (kind : OwnerKind F) (time : Instant) : System F where
  toPolicy := i.policy 3
  toSession := {}
  toSafety := {}
  toFeedback := {}
  toMotionHistory := {}
  toReferenceState := i.references kind
  time := time
  nextToken := 4

inductive Op (F : Type)
  | syncActiveReporting
  | solicitStatusFeedback
  | releaseReportingForExit (deadline : Instant)
  | acquireActiveReportingLease (joint clientId leaseId : String) (ttl : Duration)
  | renewActiveReportingLease (joint clientId leaseId : String) (ttl : Duration)
  | releaseActiveReportingLease (joint leaseId : String)
  | disableAll
  | latchControlFault (message : String) (joint : Option String)
  | setHardwareEstop (asserted : Bool)
  | setControlMode (mode : ControlMode)
  | installDriveLossPlans (plans : List DriveLossPlan)
  | completeDegradedLower
  | enforceDegradedDeadline
  | checkActiveReferences
  | beginTickFeedback
  | drainFeedback
  | enableTargets (joints : List String)
  | resolveEnableTargets (scope : Except DavoutError (Option (List String)))
      (master : Except DavoutError (List String))
  | setHomingComplete
  | seedTauFfRateLimiter
  | seedUnsentTauFfRateLimiter
  | sendMitJoint (cmd : MitJointCommand F) (motor : MotorEntry F)
  | sendMitBatch (cmds : List (MitJointCommand F))
  | beginReference (request : ReferenceRequest)
  | advanceReference (handle : ReferenceHandle)
  | cancelReference (handle : ReferenceHandle) (reason : ReferenceCancelReason)
  | cancelReferenceForShutdown
  | requestReference (joint : String) (signVerified : Bool) (audit : ReferenceAudit)
  | advanceReferenceWork
  | beginReferenceCommit (acquisition : ReferenceHandle) (audit : ReferenceAudit)
  | advanceReferenceCommit (handle : ReferenceCommitHandle)
  | cancelReferenceCommit (handle : ReferenceCommitHandle) (reason : ReferenceCancelReason)
  | closeReferenceJournalAdmission
  | drainReferenceJournalUntil
  | calibrateJointZero (joint operator : String) (signTestPassed : Bool)
  | inspectDriveProtocol (joints : List String)
  | applyLimitPatch (patch : LimitPatch F)
  | restoreLimitSnapshot (candidate : LimitCandidate F)
  /-- The control policy is a public field. -/
  | editControl (control : ControlConfig F)
  /-- So is the homing policy. -/
  | editHoming (homing : HomingConfig F)
  | referenceGeneration
  | referenceBusy
  | referenceSnapshot
  | referenceCommitSnapshot (handle : ReferenceCommitHandle)
  | referenceOutcome (handle : ReferenceHandle)
  | jointHomingState (joint : String)
  | jointDriveActive (joint : String)
  | jointFeedback (joint : String)
  | commissioningFacets (master : List String)

/-- The state that a program leaves, whatever it returns. -/
def after {ε α : Type} (x : Prog (System F) ε α) (s : System F) : System F := (x s).2

def Op.perform : Op F → System F → System F
  | syncActiveReporting => after (ε := Empty) Marengo.syncActiveReporting
  | solicitStatusFeedback => after Marengo.solicitStatusFeedback
  | releaseReportingForExit deadline => after (ε := Empty) (Marengo.releaseReportingForExit deadline)
  | acquireActiveReportingLease j c l ttl => after (Marengo.acquireActiveReportingLease j c l ttl)
  | renewActiveReportingLease j c l ttl => after (Marengo.renewActiveReportingLease j c l ttl)
  | releaseActiveReportingLease j l => after (Marengo.releaseActiveReportingLease j l)
  | disableAll => after Marengo.disableAll
  | latchControlFault m j => after (ε := Empty) (Marengo.latchControlFault m j)
  | setHardwareEstop b => after (ε := Empty) (Marengo.setHardwareEstop b)
  | setControlMode m => after (ε := Empty) (Marengo.setControlMode m)
  | installDriveLossPlans plans => after (Marengo.installDriveLossPlans plans)
  | completeDegradedLower => after Marengo.completeDegradedLower
  | enforceDegradedDeadline => after Marengo.enforceDegradedDeadline
  | checkActiveReferences => after Marengo.checkActiveReferences
  | beginTickFeedback => after (ε := Empty) Marengo.beginTickFeedback
  | drainFeedback => after Marengo.drainFeedback
  | enableTargets joints => after (Marengo.enableTargets joints)
  | resolveEnableTargets scope master => after (Marengo.resolveEnableTargets scope master)
  | setHomingComplete => after Marengo.setHomingComplete
  | seedTauFfRateLimiter => after (ε := Empty) Marengo.seedTauFfRateLimiter
  | seedUnsentTauFfRateLimiter => after (ε := Empty) Marengo.seedUnsentTauFfRateLimiter
  | sendMitJoint cmd motor => after (Marengo.sendMitJoint cmd motor)
  | sendMitBatch cmds => after (Marengo.sendMitBatch cmds)
  | beginReference request => after (Marengo.beginReference request)
  | advanceReference handle => after (Marengo.advanceReference handle)
  | cancelReference handle reason => after (Marengo.cancelReference handle reason)
  | cancelReferenceForShutdown => after (ε := Empty) Marengo.cancelReferenceForShutdown
  | requestReference joint sign audit => after (Marengo.requestReference joint sign audit)
  | advanceReferenceWork => after Marengo.advanceReferenceWork
  | beginReferenceCommit handle audit => after (Marengo.beginReferenceCommit handle audit)
  | advanceReferenceCommit handle => after (Marengo.advanceReferenceCommit handle)
  | cancelReferenceCommit handle reason => after (Marengo.cancelReferenceCommit handle reason)
  | closeReferenceJournalAdmission => after (ε := Empty) Marengo.closeReferenceJournalAdmission
  | drainReferenceJournalUntil => after (ε := Empty) Marengo.drainReferenceJournalUntil
  | calibrateJointZero joint operator sign => after (Marengo.calibrateJointZero joint operator sign)
  | inspectDriveProtocol joints => after (Marengo.inspectDriveProtocol joints)
  | applyLimitPatch patch => after (Marengo.applyLimitPatch patch)
  | restoreLimitSnapshot candidate => after (Marengo.restoreLimitSnapshot candidate)
  | editControl control => fun s => { s with control := control }
  | editHoming homing => fun s => { s with homingConfig := homing }
  | referenceGeneration => after (ε := Empty) referenceBindingValid
  | referenceBusy => after (ε := Empty) Marengo.referenceBusy
  | referenceSnapshot => after (ε := Empty) Marengo.referenceSnapshot
  | referenceCommitSnapshot handle => after (Marengo.referenceCommitSnapshot handle)
  | referenceOutcome handle => after (Marengo.referenceOutcome handle)
  | jointHomingState joint => after (ε := Empty) (Marengo.jointHomingState joint)
  | jointDriveActive joint => after (ε := Empty) (Marengo.jointDriveActive joint)
  | jointFeedback joint => after (ε := Empty) (Marengo.jointFeedback joint)
  | commissioningFacets master => after (ε := Empty) (Marengo.commissioningFacets master)

def run (ops : List (Op F)) (s : System F) : System F := ops.foldl (fun s op => op.perform s) s

end Marengo

import Marengo.Davout.Stop

/-!
# Single-drive loss while Active

A qualifying loss disables the lost joint and every joint distal to it with one Disable per address
and keeps the other joints Active: a degraded episode, which the supervisor ends with a stop and a
latched `Communication` fault. `shedDecisionAt` holds the conditions, `shedForDriveLoss` the answer.
-/

namespace Marengo

variable {F : Type}

/-- Replies to writes made before a shed may still be read this long after it. -/
def shedReplyGrace : Duration := millis 20

/-- The `Debug` form of a drive mode. -/
def DriveMode.debug : DriveMode → String
  | reset => "Reset"
  | calibration => "Calibration"
  | run => "Run"
  | reserved => "Reserved"

/-- What a lapse that qualifies is answered with. -/
structure ShedDecision (F : Type) where
  lost : String
  /-- Joint, address and last admitted position of each drive to shed. -/
  shed : List (String × MotorAddress × F)
  holding : List String
  since : Instant
  deadline : Instant

/-- The plan's joint may shed its subtree. -/
def DriveLossPlan.check (self : DriveLossPlan) (motors : MotorsConfig F)
    (control : ControlConfig F) : Except DavoutError Unit :=
  if ¬(control.joints self.joint).any (·.onDriveLoss = .shedSubtree) then
    .error (.driveLossPlan self.joint "on_drive_loss is not shed_subtree")
  else if self.shed.head? ≠ some self.joint then
    .error (.driveLossPlan self.joint "shed list must start with the lost joint")
  else match self.shed.find? fun joint => (motorForJoint motors joint).isNone with
    | some unknown =>
      .error (.driveLossPlan self.joint ("shed joint " ++ unknown ++ " has no configured motor"))
    | none => .ok ()

section
variable [World F] {ε : Type}

/-- Install the joints whose drive loss may shed their subtree. -/
def installDriveLossPlans (plans : List DriveLossPlan) : Prog (System F) DavoutError Unit := do
  let s ← read
  each plans fun plan => lift (plan.check s.motors s.control)
  update fun s => { s with driveLoss := { s.driveLoss with plans := plans } }

/-- The Active joints that would keep holding, and how far the farthest is from its rest. `none`
when one of them is not healthy. -/
def Supervisor.holding (self : Supervisor F) (shed : List String) (now : Instant) :
    Option (List String × F) :=
  self.motors.motors.foldlM (fun (holding, distance) motor =>
    if motor.joint ∉ self.activeJoints ∨ motor.joint ∈ shed then some (holding, distance)
    else do
      let state ← self.motorStates motor.address
      if !self.referenceAuthority.contains motor.joint || self.invalidFeedback motor.address ||
          !self.poseIsCurrent motor.address state now then none
      else
        let rest := (self.control.joints motor.joint).elim (lit 0) (·.positionHoldTrimRad)
        some (holding ++ [motor.joint],
          Scalar.max distance (Scalar.abs (state.positionRad - rest)))) ([], lit 0)

/-- The conditions on joints, policy and poses. -/
def Supervisor.shedDecisionAt (self : Supervisor F) (now : Instant) : Option (ShedDecision F) := do
  let lost ← (match self.activeJoints.filter (!self.referenceAuthority.contains ·) with
    | [lost] => some lost
    | _ => none)
  guard (self.referenceAuthority.jointRevokedSilent lost)
  let driveLoss ← self.control.driveLoss
  let plan ← self.driveLoss.plans.find? (·.joint = lost)
  guard ((self.control.joints lost).any (·.onDriveLoss = .shedSubtree))
  let shed ← plan.shed.mapM fun joint => do
    let motor ← motorForJoint self.motors joint
    let state ← self.motorStates motor.address
    some (joint, motor.address, state.positionRad)
  let (holding, distance) ← self.holding plan.shed now
  guard (holding ≠ [])
  let hold ← World.durationOfSecs driveLoss.holdWindowS
  let lower ← World.durationOfSecs
    (distance / driveLoss.lowerVelocityRadS + driveLoss.lowerSettleS)
  let lowerMax ← World.durationOfSecs driveLoss.lowerMaxS
  let deadline ← checkedAdd now (hold + min lower lowerMax)
  some ⟨lost, shed, holding, now, deadline⟩

def Supervisor.mayShed (self : Supervisor F) : Bool :=
  self.mode = .active && !self.hasLatchedFault && !self.hardwareEstop &&
    self.driveLoss.episode.isNone && self.driveLoss.shed.isEmpty &&
    self.enableWritesPending.isEmpty && self.enableEchoPending.isEmpty &&
    (self.controlMode = .gravityComp || self.controlMode = .position)

/-- Every condition at the moment of the lapse. -/
def shedDecision : Prog (System F) ε (Option (ShedDecision F)) := do
  let busy ← referenceBusy
  let s ← read
  if busy || !s.mayShed then pure none
  else do
    let t ← now
    pure (s.shedDecisionAt t)

/-- Disable one drive of a shed; a failed write latches and stops every drive. -/
def disableShedDrive (address : MotorAddress) : Prog (System F) DavoutError Unit := do
  let error ← send (.disableDrive address)
  match error with
  | none => pure ()
  | some e => do
    let _ ← recordRuntimeError (.bus (.write e))
    disableAllQuietly
    fail (.bus (.write e))

/-- The joint leaves the Active set and loses its reference. -/
def Supervisor.dropShedJoint (self : Supervisor F) (joint : String) (address : MotorAddress) :
    Supervisor F :=
  { self with
    referenceAuthority := self.referenceAuthority.revokeJoint joint
    activeJoints := self.activeJoints.filter (· ≠ joint)
    unansweredSolicits := Function.update self.unansweredSolicits address none
    lastTauFf := Function.update self.lastTauFf joint none
    wrongSignState := Function.update self.wrongSignState joint none
    feedbackVelocityTrips := Function.update self.feedbackVelocityTrips joint none
    lastFeedbackSamples := Function.update self.lastFeedbackSamples joint none }

/-- Answer a lapsed Active grant by shedding the lost joint's subtree. `true`: shed. `false`: the
lapse does not qualify. An error: a Disable failed and every drive was stopped. -/
def shedForDriveLoss : Prog (System F) DavoutError Bool := do
  let decision ← shedDecision
  match decision with
  | none => pure false
  | some d => do
    update fun s =>
      { s with
        driveLoss := { s.driveLoss with
          shed := s.driveLoss.shed ++ d.shed.map (·.2.1)
          shedAt := some d.since } }
    each d.shed fun (_, address, _) => disableShedDrive address
    each d.shed fun (joint, address, _) =>
      update fun s => { s with toSupervisor := s.toSupervisor.dropShedJoint joint address }
    update fun s =>
      { s with
        driveLoss := { s.driveLoss with
          lostAddress := (d.shed.find? (·.1 = d.lost)).map (·.2.1)
          episode := some
            { lostJoint := d.lost
              shedJoints := d.shed.map (·.1)
              holdingJoints := d.holding
              frozenPositions := d.shed.map fun x => (x.1, x.2.2)
              since := d.since
              deadline := d.deadline } } }
    pure true

/-- `ensureReferenceFor` over the Active set. A joint that lost its own grant stops the whole
session, unless the loss qualifies for a shed; the result tells whether this call shed. -/
def ensureReferenceForActive : Prog (System F) DavoutError Bool := do
  ensureReferenceBinding
  let s ← read
  let shed ← (if s.mode = .active ∧ s.activeReferencesHeld = false then shedForDriveLoss
    else pure false)
  let s ← read
  match s.requireReferencePermission s.activeJoints with
  | .ok () => pure shed
  | .error e => do
    when (s.mode = .active) disableAllQuietly
    fail e

/-- Judge every Active joint's grant now. -/
def checkActiveReferences : Prog (System F) DavoutError Unit := do
  let s ← read
  when (s.mode = .active) do
    let _ ← ensureReferenceForActive

/-- A frame from a shed address: never a pose. Any mode but Reset read after the grace latches. The
result is the error and whether it is the first fault. -/
def inspectShedFrame (joint : String) (address : MotorAddress) (driveMode : DriveMode)
    (receivedAt : Instant) (device : DeviceFaultEvidence) :
    Prog (System F) ε (Option (DavoutError × Bool)) := do
  let s ← read
  if driveMode = .reset ∨ s.driveLoss.shedAt.any fun shedAt => receivedAt ≤ shedAt + shedReplyGrace
  then pure none
  else do
    let error := DavoutError.invalidFeedback joint ("shed drive reported " ++ driveMode.debug ++
      " after its Disable; it is never commanded again")
    let transition ← recordFault .driveState (some joint) (some address)
      (World.showError F error) device
    pure (some (error, transition))

end

end Marengo

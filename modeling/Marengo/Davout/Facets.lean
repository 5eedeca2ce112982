import Marengo.Davout.LimitEnvelope

/-!
# Homing facets, Ready and the choice of Enable targets

What the owner says about each joint, and the two operations that act on it: the Ready transition
and the choice of Enable targets from the commissioning scope. Nothing here grants permission.
-/

namespace Marengo

variable {F : Type}

inductive JointHomingState
  | unhomed | homing | verified | faulted
deriving DecidableEq

/-- The `Debug` form. -/
def JointHomingState.debug : JointHomingState → String
  | unhomed => "Unhomed"
  | homing => "Homing"
  | verified => "Verified"
  | faulted => "Faulted"

/-- What is known about one joint. -/
structure JointFacetInput where
  name : String
  homingState : JointHomingState
  online : Bool
  motorMapped : Bool
  fault : Bool
  outOfLimits : Bool
deriving DecidableEq

namespace JointFacetInput

variable (self : JointFacetInput)

def isBuilt : Bool := self.online || self.motorMapped

def isReady : Bool := self.homingState = .verified

def isReadyHealthy : Bool := self.isReady && !self.fault && !self.outOfLimits

/-- What keeps the joint from being ready. -/
def blocker : String :=
  self.name ++ " " ++ "+".intercalate
    ((if self.isReady then [] else [self.homingState.debug]) ++
      (if self.fault then ["fault"] else []) ++ if self.outOfLimits then ["out of limits"] else [])

end JointFacetInput

/-- Every built joint is ready and healthy, and there is one. -/
def robotReady (master : List JointFacetInput) : Bool :=
  let built := master.filter (·.isBuilt)
  !built.isEmpty && built.all (·.isReadyHealthy)

def isEnableEligible (joint : JointFacetInput) : Bool := joint.online && joint.isReadyHealthy

/-- Built joints that keep the robot from being ready. -/
def notReady (master : List JointFacetInput) : String :=
  let blockers := (master.filter fun j => j.isBuilt && !j.isReadyHealthy).map (·.blocker)
  if blockers = [] then "no built joint" else ", ".intercalate blockers

def eligibleNames (joints : List JointFacetInput) : List String :=
  ((joints.filter isEnableEligible).map (·.name)).insertionSort (· ≤ ·)

/-- Choose the Enable targets: eligible joints in scope, or, without a scope, all eligible joints of
a robot that is ready. -/
def selectEnableTargets (master loaded : List JointFacetInput)
    (effectiveScope : Option (List String)) : Except String (List String) :=
  match effectiveScope with
  | some scope =>
    let targets := eligibleNames (loaded.filter (·.name ∈ scope))
    if targets = [] then .error "no Verified in-scope joints eligible for enable" else .ok targets
  | none =>
    if robotReady master = false then
      .error ("Enable requires full-master Robot Ready when no commissioning scope is set " ++
        "(not ready: " ++ notReady master ++ ")")
    else
      let targets := eligibleNames loaded
      if targets = [] then .error "no loaded joints eligible for enable" else .ok targets

section
variable [World F] {ε : Type}

/-- Homing state of a joint. A latched fault revokes. -/
def jointHomingState (joint : String) : Prog (System F) ε JointHomingState := do
  let s ← read
  if s.hasLatchedFault then do
    revokeReference
    pure .faulted
  else do
    let valid ← referenceBindingValid
    let s ← read
    pure (if valid ∧ s.referenceAuthority.contains joint then .verified else .unhomed)

/-- The joint's drive is enabled and holds its reference. -/
def jointDriveActive (joint : String) : Prog (System F) ε Bool := do
  let s ← read
  if s.mode = .active ∧ joint ∈ s.activeJoints then do
    let state ← jointHomingState joint
    pure (state = .verified)
  else pure false

/-- The published state of a joint, with its compatibility fault indication. -/
def jointFeedback (joint : String) : Prog (System F) ε (Option (MotorState F)) := do
  let t ← now
  let s ← read
  pure ((s.publishedState joint t).map fun state =>
    { state with fault := state.fault ||| (s.faultAuthority.jointIsFaulted joint).toNat })

def jointFacets (name : String) : Prog (System F) ε JointFacetInput := do
  let s ← read
  let mapped := s.motors.motors.any (·.joint = name)
  let feedback ← jointFeedback name
  let fault ← (if s.faultAuthority.jointIsFaulted name ∨ feedback.any (·.fault ≠ 0) then pure true
    else do
      let state ← jointHomingState name
      pure (decide (state = .faulted)))
  let homingState ← (if mapped then jointHomingState name else pure .unhomed)
  pure ⟨name, homingState, feedback.isSome, mapped, fault, s.outOfLimits name⟩

/-- Facets of the master robot and of the loaded joints. -/
def commissioningFacets (masterJointNames : List String) :
    Prog (System F) ε (List JointFacetInput × List JointFacetInput) := do
  let master ← traverse jointFacets masterJointNames
  pure (master, master.filter (·.motorMapped))

/-- Become Ready when every robot joint holds its reference. -/
def setHomingComplete : Prog (System F) DavoutError Unit := do
  refuseReferenceInterference "set_homing_complete"
  let s ← read
  lift s.requireFaultClear
  ensure (s.mode ≠ .active) (.homing "Ready transition refused while ACTIVE; disable first")
  ensure (s.hardwareEstop = false) .estop
  ensureReferenceFor s.robotJoints
  update fun s => { s with mode := .ready }
  syncActiveReporting

/-- Choose the Enable targets. The commissioning scope and the joints of the master robot are read
from files; `none` for the scope means that there is no scope file. -/
def resolveEnableTargets (effectiveScope : Except DavoutError (Option (List String)))
    (masterNames : Except DavoutError (List String)) : Prog (System F) DavoutError (List String) :=
  do
  let s ← read
  lift s.requireFaultClear
  let scope ← lift effectiveScope
  let names ← lift masterNames
  syncActiveReporting
  let _ ← drainFeedback
  let (master, loaded) ← commissioningFacets names
  lift ((selectEnableTargets master loaded scope).mapError .homing)

end

end Marengo

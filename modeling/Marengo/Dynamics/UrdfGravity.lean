import Marengo.Dynamics.Geometry
import Marengo.Lib.Prog

/-!
# The gravity model

A model is built from a URDF and the order of the modelled joints. Construction refuses what the
model would evaluate wrongly and keeps, for every link, the joints from the root to it; the pose of
a link is the product of their origins and rotations. The gravity torque of a joint is a central
difference of the potential energy, one joint at a time.
-/

namespace Marengo

variable {F : Type}

/-! ## URDF -/

inductive JointType
  | revolute | continuous | prismatic | fixed | floating | planar | spherical
deriving DecidableEq

/-- `matches!(joint_type, Revolute | Continuous)`. -/
def JointType.turns : JointType → Bool
  | .revolute | .continuous => true
  | _ => false

def jointKind : JointType → String
  | .revolute => "revolute"
  | .continuous => "continuous"
  | .prismatic => "prismatic"
  | .fixed => "fixed"
  | .floating => "floating"
  | .planar => "planar"
  | .spherical => "spherical"

/-- A position and the roll, pitch and yaw about it. -/
structure Pose (F : Type) where
  xyz : Vector3 F
  rpy : Vector3 F

/-- The entries of a symmetric inertia tensor. -/
structure Inertia (F : Type) where
  ixx : F
  ixy : F
  ixz : F
  iyy : F
  iyz : F
  izz : F

structure Inertial (F : Type) where
  origin : Pose F
  mass : F
  inertia : Inertia F

/-- A link; its geometry is not read. -/
structure Link (F : Type) where
  name : String
  inertial : Inertial F

/-- A joint; its limits are not read, and of a mimic only that there is one. -/
structure Joint (F : Type) where
  name : String
  jointType : JointType
  origin : Pose F
  parent : String
  child : String
  axis : Vector3 F
  mimic : Bool

structure Robot (F : Type) where
  links : List (Link F)
  joints : List (Joint F)

structure LinkInertial (F : Type) where
  massKg : F
  comM : Vector3 F

/-- Why a URDF is not a model, with the values that its text shows. -/
inductive InvalidModel (F : Type)
  /-- `duplicate URDF joint` -/
  | duplicateUrdfJoint (joint : String)
  /-- `held joint has a non-finite angle` -/
  | heldAngle (joint : String)
  /-- `joint has a non-finite origin` -/
  | origin (joint : String)
  /-- `joint has a zero or non-finite axis` -/
  | axis (joint : String) (axis : Vector3 F)
  /-- `link has a non-finite or negative mass or COM` -/
  | inertial (link : String) (mass : F) (com : Vector3 F)
  /-- `link moved by joint has zero mass (missing <inertial>?); give a massless frame a nominal
  mass` -/
  | zeroMass (link joint : String)

inductive DynamicsError (F : Type)
  | jointCount (expected got : ℕ)
  | unknownJoint (joint : String)
  | unknownLink (link : String)
  | unmodelledJoint (joint : String)
  | duplicateJoint (joint : String)
  | notActuated (joint kind : String)
  | unsupportedJoint (joint what : String)
  | cyclicChain (link : String)
  | invalidModel (what : InvalidModel F)
  | nonFiniteInput (what : String)
  | nonFiniteTorque (joint : String)
  | lossGridTooLarge (evaluations max : ℕ)

structure UrdfGravityModel (F : Type) where
  jointNames : List String
  /-- Joints outside `jointNames`, locked at an angle. -/
  held : List (String × F)
  robot : Robot F
  /-- The indices of the joints from the root to a link. -/
  linkChains : String → Option (List ℕ)

section
variable [Analytic F]

def dqEps : F := lit (1 / 1000000)

/-- A shorter joint axis is refused. -/
def minAxisNorm : F := lit (1 / 1000000000)

def gravity : Vector3 F := ![lit 0, lit 0, lit (-981 / 100)]

/-! ## Construction -/

def finiteAll (values : Vector3 F) : Bool :=
  isFinite (Vector3.x values) && isFinite (Vector3.y values) &&
    isFinite (Vector3.z values)

/-- The first name that occurs before: the insertion into a set of names that fails. -/
def firstDuplicate : List String → List String → Option String
  | _, [] => none
  | seen, name :: rest => if name ∈ seen then some name else firstDuplicate (name :: seen) rest

/-- `if let Some(a) = found { return Err(e(a)) }`. -/
def absent {α ε : Type} (found : Option α) (e : α → ε) : Except ε Unit :=
  match found with
  | some a => .error (e a)
  | none => .ok ()

/-- What the model cannot represent of a kind of joint. -/
def unsupportedMotion : JointType → Option String
  | .fixed | .revolute | .continuous => none
  | .prismatic => some "prismatic motion"
  | .floating | .planar | .spherical => some "floating/planar/spherical motion"

/-- A kind of joint that the model represents, without a mimic, at a finite origin. -/
def supportedJoint (joint : Joint F) : Except (DynamicsError F) Unit := do
  absent (unsupportedMotion joint.jointType) (.unsupportedJoint joint.name)
  if joint.mimic then .error (.unsupportedJoint joint.name "mimic coupling")
  else if !finiteAll joint.origin.xyz || !finiteAll joint.origin.rpy then
    .error (.invalidModel (.origin joint.name))
  else .ok ()

def listedJoint (robot : Robot F) (name : String) : Except (DynamicsError F) Unit :=
  match robot.joints.find? (·.name == name) with
  | none => .error (.unknownJoint name)
  | some joint =>
    if joint.jointType.turns then .ok ()
    else .error (.notActuated name (jointKind joint.jointType))

/-- A joint that turns is listed and has an axis. -/
def usableJoint (seen : List String) (joint : Joint F) : Except (DynamicsError F) Unit :=
  let norm := Analytic.sqrt (Vector3.normSquared joint.axis)
  if !joint.jointType.turns then .ok ()
  else if joint.name ∉ seen then .error (.unmodelledJoint joint.name)
  else if !finiteAll joint.axis || !isFinite norm || blt norm minAxisNorm then
    .error (.invalidModel (.axis joint.name joint.axis))
  else .ok ()

/-- A link has a mass that is not negative and a finite centre of mass. -/
def usableLink (link : Link F) : Except (DynamicsError F) Unit :=
  let mass := link.inertial.mass
  let com := link.inertial.origin.xyz
  if !isFinite mass || blt mass (lit 0) || !finiteAll com then
    .error (.invalidModel (.inertial link.name mass com))
  else .ok ()

/-- Refuse a URDF and a list of joints that the model would evaluate wrongly. -/
def validateModel (robot : Robot F) (jointNames : List String) (held : List (String × F)) :
    Except (DynamicsError F) Unit := do
  let listed := jointNames ++ held.map (·.1)
  absent (firstDuplicate [] (robot.joints.map (·.name))) fun joint =>
    .invalidModel (.duplicateUrdfJoint joint)
  absent (firstDuplicate [] listed) .duplicateJoint
  absent (held.find? fun entry => !isFinite entry.2) fun entry =>
    .invalidModel (.heldAngle entry.1)
  robot.joints.forM supportedJoint
  listed.forM (listedJoint robot)
  robot.joints.forM (usableJoint listed)
  absent (firstDuplicate [] (robot.joints.map (·.child))) .cyclicChain
  robot.links.forM usableLink

/-- `iter().position(p)`, with the element at that index. -/
def indexOf {α : Type} (p : α → Bool) (xs : List α) : Option (ℕ × α) :=
  (xs.zipIdx.find? fun x => p x.1).map fun x => (x.2, x.1)

/-- The loop from a link to the root. `room` is the number of joints less the length of the chain;
pushing to the front leaves the chain in the order from the root. -/
def walkChain (joints : List (Joint F)) (link : String) :
    ℕ → String → List ℕ → Except (DynamicsError F) (List ℕ)
  | room, current, chain =>
    match indexOf (·.child == current) joints with
    | none => .ok chain
    | some (idx, joint) =>
      match room with
      | 0 => .error (.cyclicChain link)
      | room + 1 => walkChain joints link room joint.parent (idx :: chain)

/-- The chain of a link; a link without a mass on a chain that moves is refused. -/
def linkChain (robot : Robot F) (link : Link F) : Except (DynamicsError F) (List ℕ) := do
  let chain ← walkChain robot.joints link.name robot.joints.length link.name []
  let carrier := if beq link.inertial.mass (lit 0) then
      (chain.filterMap (robot.joints[·]?)).find? (·.jointType.turns)
    else none
  absent carrier fun carrier => .invalidModel (.zeroMass link.name carrier.name)
  pure chain

def buildChains (robot : Robot F) : List (Link F) → (String → Option (List ℕ)) →
    Except (DynamicsError F) (String → Option (List ℕ))
  | [], chains => .ok chains
  | link :: rest, chains => do
    let chain ← linkChain robot link
    buildChains robot rest (Function.update chains link.name (some chain))

def UrdfGravityModel.fromRobot (robot : Robot F) (jointNames : List String)
    (held : List (String × F)) : Except (DynamicsError F) (UrdfGravityModel F) := do
  validateModel robot jointNames held
  let linkChains ← buildChains robot robot.links fun _ => none
  pure { jointNames, held, robot, linkChains }

/-! ## Poses -/

def Inertia.matrix (t : Inertia F) : Matrix3 F :=
  !![t.ixx, t.ixy, t.ixz; t.ixy, t.iyy, t.iyz; t.ixz, t.iyz, t.izz]

def poseToIsometry (pose : Pose F) : Isometry3 F :=
  ⟨Matrix3.fromEulerAngles (Vector3.x pose.rpy) (Vector3.y pose.rpy) (Vector3.z pose.rpy), pose.xyz⟩

def Joint.rotation (joint : Joint F) (angle : F) : Isometry3 F :=
  ⟨Matrix3.fromAxisAngle (Vector3.normalize joint.axis) angle, fun _ => lit 0⟩

/-- The angle of a joint in a map. A joint that is missing has no angle: the quotient is not a
number, which makes the torque non-finite. -/
def angleOf (qMap : List (String × F)) (name : String) : F :=
  (qMap.lookup name).getD (lit 0 / lit 0)

def Joint.advance (qMap : List (String × F)) (t : Isometry3 F) (joint : Joint F) : Isometry3 F :=
  let t := t.mul (poseToIsometry joint.origin)
  if joint.jointType.turns then t.mul (joint.rotation (angleOf qMap joint.name)) else t

namespace UrdfGravityModel

variable (model : UrdfGravityModel F)

/-- Joint angles by name: the modelled joints first, then the held ones. -/
def qMap (q : List F) :
    Except (DynamicsError F) (List (String × F)) :=
  if q.length ≠ model.jointNames.length then
    .error (.jointCount model.jointNames.length q.length)
  else if q.any fun v => !isFinite v then .error (.nonFiniteInput "joint angles q")
  else .ok (model.jointNames.zip q ++ model.held)

def chainJoints (indices : List ℕ) : List (Joint F) :=
  indices.filterMap (model.robot.joints[·]?)

def linkTransform (linkName : String) (qMap : List (String × F)) :
    Isometry3 F :=
  let chain := match model.linkChains linkName with
    | some indices => model.chainJoints indices
    | none => []
  chain.foldl (Joint.advance qMap) .identity

def findLink (link : String) : Except (DynamicsError F) (Link F) :=
  match model.robot.links.find? (·.name == link) with
  | some l => .ok l
  | none => .error (.unknownLink link)

def linkInertial (link : String) :
    Except (DynamicsError F) (LinkInertial F) := do
  let l ← model.findLink link
  pure ⟨l.inertial.mass, l.inertial.origin.xyz⟩

/-- The assignments of `with_link_inertial`; the inertia tensor is untouched. -/
def setInertial (inertial : LinkInertial F) (l : Link F) : Link F :=
  { l with
    inertial.mass := inertial.massKg
    inertial.origin.xyz := inertial.comM }

/-- Replace the first element that satisfies `p`. -/
def replaceFirst {α : Type} (p : α → Bool) (f : α → α) : List α → List α
  | [] => []
  | x :: rest => if p x then f x :: rest else x :: replaceFirst p f rest

/-- The model with the mass and centre of mass of a link replaced. -/
def withLinkInertial (link : String) (inertial : LinkInertial F) :
    Except (DynamicsError F) (UrdfGravityModel F) :=
  if model.robot.links.any (·.name == link) then
    .ok { model with
      robot.links := replaceFirst (·.name == link) (setInertial inertial) model.robot.links }
  else .error (.unknownLink link)

/-- The index of a URDF joint, and the joint. -/
def jointPosition (joint : String) :
    Except (DynamicsError F) (ℕ × Joint F) :=
  match indexOf (·.name == joint) model.robot.joints with
  | some found => .ok found
  | none => .error (.unknownJoint joint)

def carries (idx : ℕ) (link : String) : Bool :=
  match model.linkChains link with
  | some chain => idx ∈ chain
  | none => false

def linksDownstreamOf (joint : String) :
    Except (DynamicsError F) (List String) := do
  let (idx, _) ← model.jointPosition joint
  pure ((model.robot.links.filter fun l => model.carries idx l.name).map (·.name))

/-! ## Torques -/

/-- `q_map[i].1 = angle`. -/
def setAngle (qMap : List (String × F)) (i : ℕ) (angle : F) : List (String × F) :=
  qMap.modify i fun entry => (entry.1, angle)

/-- The difference quotient of an energy about the angle `q0`. -/
def dpeDq (pe : F → F) (q0 : F) : F :=
  [lit (-1), lit 1].foldl
    (fun dpe sign => dpe + sign * pe (q0 + sign * dqEps) / (lit 2 * dqEps)) (lit 0)

/-- Mass and world position of the centre of mass of every link with a mass. -/
def linkComWorld (qMap : List (String × F)) :
    List (F × Vector3 F) :=
  (model.robot.links.filter fun link => !ble link.inertial.mass (lit 0)).map
    fun link => (link.inertial.mass,
      (model.linkTransform link.name qMap).transformPoint link.inertial.origin.xyz)

def finiteTorques (tau : List F) : Except (DynamicsError F) (List F) :=
  match tau.findIdx? fun t => !isFinite t with
  | some i => .error (.nonFiniteTorque (model.jointNames[i]?.getD ""))
  | none => .ok tau

/-- The joint torques that hold the links against gravity. -/
def gravityTorques (q : List F) :
    Except (DynamicsError F) (List F) := do
  let qMap ← model.qMap q
  model.finiteTorques (q.mapIdx fun i q0 => dpeDq (fun angle =>
    ((model.linkComWorld (setAngle qMap i angle)).map fun (m, p) =>
      -m * Vector3.dot gravity p).foldl (· + ·) (lit 0)) q0)

/-- The joint torques that hold a unit mass at a point of a link. -/
def pointMassTorques (link : String) (pointM : Vector3 F)
    (q : List F) : Except (DynamicsError F) (List F) := do
  let _ ← model.findLink link
  let qMap ← model.qMap q
  model.finiteTorques (q.mapIdx fun i q0 => dpeDq (fun angle =>
    -Vector3.dot gravity ((model.linkTransform link (setAngle qMap i angle)).transformPoint pointM))
    q0)

/-! ## Inertia -/

/-- The part of one link in the inertia about an axis through `origin`. -/
def linkInertia (axis origin : Vector3 F) (link : Link F) (t : Isometry3 F) : F :=
  let inertial := t.mul (poseToIsometry link.inertial.origin)
  let lever := Vector3.cross axis fun i => inertial.translation i - origin i
  let rotation := inertial.rotation
  let world := Matrix3.mul (Matrix3.mul rotation link.inertial.inertia.matrix) rotation.transpose
  link.inertial.mass * Vector3.normSquared lever + Vector3.dot axis (Matrix3.mulVec world axis)

/-- The moment of inertia of what a joint carries, about its axis. -/
def jointInertia (joint : String) (q : List F) :
    Except (DynamicsError F) F := do
  let (idx, urdfJoint) ← model.jointPosition joint
  let qMap ← model.qMap q
  let frame := model.linkTransform urdfJoint.child qMap
  let axis := Vector3.normalize (Matrix3.mulVec frame.rotation urdfJoint.axis)
  let origin := frame.translation
  let inertia := model.robot.links.foldl (fun inertia link =>
    if !model.carries idx link.name || ble link.inertial.mass (lit 0) then inertia
    else inertia + linkInertia axis origin link (model.linkTransform link.name qMap))
    (lit 0)
  if !isFinite inertia then .error (.nonFiniteInput "joint inertia") else .ok inertia

end UrdfGravityModel

end

end Marengo

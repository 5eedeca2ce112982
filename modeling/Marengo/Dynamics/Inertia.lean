import Marengo.Dynamics.Gravity

/-!
# Carried inertia over the reals

The inertia about a joint is measured in the frame of its child link. Every link that the joint
carries hangs in that frame, so the frame cancels: what is left is the inertia of the links in the
frame, which only the joints below the joint can change (`linkInertia_frame`).

The frame is taken by the name of the child link. A URDF may name a child link that it does not
declare; the frame is then the world, not the joint.
-/

namespace Marengo

open Matrix

/-! ## Frames -/

theorem poseToIsometry_rigid (pose : Pose ℝ) : (poseToIsometry pose).Rigid :=
  Matrix3.fromEulerAngles_orthogonal _ _ _

/-- The motion of one joint from its parent link to its child link. -/
noncomputable def Joint.motion (qMap : List (String × ℝ)) (joint : Joint ℝ) : Isometry3 ℝ :=
  if joint.jointType.turns then
    (poseToIsometry joint.origin).mul (joint.rotation (angleOf qMap joint.name))
  else poseToIsometry joint.origin

theorem Joint.advance_eq (qMap : List (String × ℝ)) (t : Isometry3 ℝ) (joint : Joint ℝ) :
    Joint.advance qMap t joint = t.mul (joint.motion qMap) := by
  unfold Joint.advance Joint.motion
  split
  · exact Isometry3.mul_assoc _ _ _
  · rfl

/-- A chain starts wherever it is attached. -/
theorem foldl_advance (qMap : List (String × ℝ)) (chain : List (Joint ℝ)) (t : Isometry3 ℝ) :
    chain.foldl (Joint.advance qMap) t = t.mul (chain.foldl (Joint.advance qMap) .identity) := by
  induction chain generalizing t with
  | nil => exact (Isometry3.mul_identity t).symm
  | cons joint rest ih =>
    rw [List.foldl_cons, List.foldl_cons, ih, ih (Joint.advance qMap .identity joint),
      Joint.advance_eq, Joint.advance_eq, Isometry3.mul_assoc, Isometry3.identity_mul]

/-- A vector can be normalised before or after it is turned. -/
theorem Vector3.normalize_mulVec {r : Matrix3 ℝ} (hr : r ∈ orthogonalGroup (Fin 3) ℝ)
    (v : Vector3 ℝ) : Vector3.normalize (r *ᵥ v) = r *ᵥ Vector3.normalize v := by
  have hnorm : Vector3.normSquared (r *ᵥ v) = Vector3.normSquared v := by
    rw [Vector3.normSquared_eq, Vector3.normSquared_eq, Rigid.dot_mulVec_mulVec hr]
  have hsmul : ∀ w : Vector3 ℝ, Vector3.normalize w =
      (Analytic.sqrt (Vector3.normSquared w))⁻¹ • w := by
    intro w
    funext i
    rw [Pi.smul_apply, smul_eq_mul, mul_comm]
    rfl
  rw [hsmul, hsmul, hnorm, mulVec_smul]

namespace UrdfGravityModel

/-- The inertia of a link about an axis of a frame that carries it does not depend on where the
frame is. -/
theorem linkInertia_frame {frame : Isometry3 ℝ} (hframe : frame.Rigid) (axis : Vector3 ℝ)
    (link : Link ℝ) (rel : Isometry3 ℝ) :
    linkInertia (Vector3.normalize (Matrix3.mulVec frame.rotation axis)) frame.translation link
      (frame.mul rel) = linkInertia (Vector3.normalize axis) 0 link rel := by
  have hlever : (fun i => ((frame.mul rel).mul (poseToIsometry link.inertial.origin)).translation i -
      frame.translation i) =
        frame.rotation *ᵥ (rel.mul (poseToIsometry link.inertial.origin)).translation := by
    rw [Isometry3.mul_assoc, Isometry3.mul_translation]
    exact funext fun i => add_sub_cancel_left _ _
  have hrest : (fun i => (rel.mul (poseToIsometry link.inertial.origin)).translation i -
      (0 : Vector3 ℝ) i) = (rel.mul (poseToIsometry link.inertial.origin)).translation :=
    funext fun i => sub_zero _
  have hworld : ((frame.mul rel).mul (poseToIsometry link.inertial.origin)).rotation =
      frame.rotation * (rel.mul (poseToIsometry link.inertial.origin)).rotation := by
    rw [Isometry3.mul_assoc, Isometry3.mul_rotation]
  have htensor : ∀ s l : Matrix3 ℝ, frame.rotation * s * l * (frame.rotation * s)ᵀ =
      frame.rotation * (s * l * sᵀ) * frame.rotationᵀ := by
    intro s l
    simp only [transpose_mul, Matrix.mul_assoc]
  unfold linkInertia
  simp only [Matrix3.mulVec_eq, Vector3.normalize_mulVec hframe, hlever, hrest, hworld,
    Vector3.cross_eq, Vector3.normSquared_eq, Vector3.dot_eq, Matrix3.mul_eq]
  rw [Rigid.cross_mulVec_mulVec hframe, htensor, Rigid.form_mulVec hframe]

/-- A positive semidefinite tensor and a positive mass have an inertia that is not negative. -/
theorem linkInertia_nonneg {link : Link ℝ} (htensor : link.inertial.inertia.matrix.PosSemidef)
    (hmass : 0 ≤ link.inertial.mass) (axis origin : Vector3 ℝ) (t : Isometry3 ℝ) :
    0 ≤ linkInertia axis origin link t := by
  unfold linkInertia
  simp only [Matrix3.mulVec_eq, Vector3.normSquared_eq, Vector3.dot_eq, Matrix3.mul_eq]
  refine add_nonneg (mul_nonneg hmass ?_) (Rigid.form_nonneg htensor _ _)
  exact Rigid.dot_self_nonneg _

variable {model : UrdfGravityModel ℝ} {q q' : List ℝ} {joint : Joint ℝ}

theorem jointPosition_eq (hs : model.Sound) (hjoint : joint ∈ model.robot.joints) :
    ∃ idx, model.jointPosition joint.name = .ok (idx, joint) ∧
      model.robot.joints[idx]? = some joint := by
  unfold jointPosition
  cases hfound : indexOf (·.name == joint.name) model.robot.joints with
  | none => simpa using indexOf_eq_none hfound joint hjoint
  | some found =>
    obtain ⟨idx, other⟩ := found
    obtain ⟨hget, hname⟩ := indexOf_eq_some hfound
    obtain rfl : other = joint :=
      List.inj_on_of_nodup_map hs.names (List.mem_of_getElem? hget) hjoint (by simpa using hname)
    exact ⟨idx, rfl, hget⟩

/-- The joints of a model move rigidly. -/
theorem motion_rigid (hs : model.Sound) (hjoint : joint ∈ model.robot.joints)
    (qMap : List (String × ℝ)) : (joint.motion qMap).Rigid := by
  unfold Joint.motion
  split
  · rename_i hturns
    refine (poseToIsometry_rigid _).mul (Matrix3.fromAxisAngle_orthogonal ?_ _)
    refine Vector3.normalize_unit fun hzero => ?_
    have haxis := hs.axis joint hjoint hturns
    rw [Vector3.normSquared_eq, hzero, ← Bool.not_eq_true, blt_iff] at haxis
    have hsqrt : (Analytic.sqrt (0 : ℝ)) = 0 := Real.sqrt_zero
    refine haxis ?_
    rw [hsqrt, minAxisNorm, lit_eq]
    norm_num
  · exact poseToIsometry_rigid _

/-- So does a chain of them. -/
theorem chain_rigid (hs : model.Sound) (qMap : List (String × ℝ)) (indices : List ℕ) :
    ((model.chainJoints indices).foldl (Joint.advance qMap) .identity).Rigid := by
  have hmem : ∀ joint ∈ model.chainJoints indices, joint ∈ model.robot.joints := by
    intro joint hjoint
    obtain ⟨k, -, hk⟩ := List.mem_filterMap.mp hjoint
    exact List.mem_of_getElem? hk
  generalize model.chainJoints indices = chain at hmem
  have hfrom : ∀ t : Isometry3 ℝ, t.Rigid → (chain.foldl (Joint.advance qMap) t).Rigid := by
    induction chain with
    | nil => exact fun t ht => ht
    | cons joint rest ih =>
      intro t ht
      refine ih (fun other hother => hmem other (.tail _ hother)) _ ?_
      rw [Joint.advance_eq]
      exact ht.mul (motion_rigid hs (hmem joint (.head _)) qMap)
  exact hfrom _ Isometry3.rigid_identity

/-- A link that a joint carries hangs in the frame of the child link of the joint, by joints below
it. -/
theorem linkTransform_carried (hs : model.Sound) {idx : ℕ}
    (hget : model.robot.joints[idx]? = some joint)
    (hchild : ∃ link ∈ model.robot.links, link.name = joint.child) {link : Link ℝ}
    (hlink : link ∈ model.robot.links) (hcarries : model.carries idx link.name = true) :
    ∃ below : List ℕ,
      (∀ other ∈ model.chainJoints below, Distal model.robot.joints joint other) ∧
      ∀ qMap, model.linkTransform link.name qMap =
        (model.linkTransform joint.child qMap).mul
          ((model.chainJoints below).foldl (Joint.advance qMap) .identity) := by
  obtain ⟨chain, hchain, hto⟩ := hs.chains link hlink
  obtain ⟨top, htop, hname⟩ := hchild
  obtain ⟨chain', hchain', hto'⟩ := hs.chains top htop
  rw [hname] at hchain' hto'
  rw [carries, hchain] at hcarries
  obtain ⟨above, below, split, rfl, hsplit, hframe, -, hbelow⟩ := hto.split (by simpa using hcarries)
  obtain rfl : joint = split := by simpa using hget.symm.trans hsplit
  obtain rfl : chain' = above ++ [idx] := hto'.unique hframe
  refine ⟨below, fun other hother => ?_, fun qMap => ?_⟩
  · obtain ⟨k, hk, hother⟩ := List.mem_filterMap.mp hother
    obtain ⟨distal, hdistal, hbelow⟩ := hbelow k hk
    obtain rfl : distal = other := by simpa using hdistal.symm.trans hother
    exact hbelow
  · have happend : model.chainJoints (above ++ idx :: below) =
        model.chainJoints (above ++ [idx]) ++ model.chainJoints below := by
      rw [chainJoints, List.append_cons, List.filterMap_append]
      rfl
    rw [linkTransform_chain hchain, linkTransform_chain hchain', happend, List.foldl_append]
    exact foldl_advance _ _ _

/-- Two poses that agree on a joint. -/
theorem angleOf_congr (hlen : q.length = model.jointNames.length)
    (hlen' : q'.length = model.jointNames.length) {name : String}
    (hagree : ∀ i : ℕ, model.jointNames[i]? = some name → q[i]? = q'[i]?) :
    angleOf (model.angles q) name = angleOf (model.angles q') name := by
  have hzip : ∀ (names : List String) (q q' : List ℝ), q.length = names.length →
      q'.length = names.length → (∀ i : ℕ, names[i]? = some name → q[i]? = q'[i]?) →
      (names.zip q).lookup name = (names.zip q').lookup name := by
    intro names
    induction names with
    | nil => intro q q' _ _ _; simp
    | cons first rest ih =>
      intro q q' hlen hlen' hagree
      match q, q' with
      | [], _ => simp at hlen
      | _, [] => simp at hlen'
      | v :: q, v' :: q' =>
        by_cases heq : first = name
        · subst heq
          have hhead : v = v' := by simpa using hagree 0 rfl
          simp [hhead]
        · have hbeq := beq_eq_false_iff_ne.mpr (Ne.symm heq)
          have htail := ih q q' (by simpa using hlen) (by simpa using hlen') fun i hi => by
            simpa using hagree (i + 1) (by simpa using hi)
          simpa [List.lookup_cons, hbeq] using htail
  rw [angleOf, angleOf, angles, angles, List.lookup_append, List.lookup_append,
    hzip _ _ _ hlen hlen' hagree]

/-- A chain whose joints have the same angles. -/
theorem foldl_advance_congr {qMap qMap' : List (String × ℝ)} {chain : List (Joint ℝ)}
    (hangle : ∀ joint ∈ chain, angleOf qMap joint.name = angleOf qMap' joint.name)
    (t : Isometry3 ℝ) :
    chain.foldl (Joint.advance qMap) t = chain.foldl (Joint.advance qMap') t := by
  induction chain generalizing t with
  | nil => rw [List.foldl_nil, List.foldl_nil]
  | cons joint rest ih =>
    have hjoint : Joint.advance qMap t joint = Joint.advance qMap' t joint := by
      simp only [Joint.advance, hangle joint (.head _)]
    rw [List.foldl_cons, List.foldl_cons, hjoint]
    exact ih (fun other hother => hangle other (.tail _ hother)) _

/-- The part of one link in the inertia of a joint. -/
noncomputable def carriedInertia (model : UrdfGravityModel ℝ) (joint : Joint ℝ) (q : List ℝ)
    (link : Link ℝ) : ℝ :=
  let frame := model.linkTransform joint.child (model.angles q)
  linkInertia (Vector3.normalize (Matrix3.mulVec frame.rotation joint.axis)) frame.translation link
    (model.linkTransform link.name (model.angles q))

/-- The inertia of a link in the frame of a joint that carries it does not depend on the joints that
are not below that joint. -/
theorem carriedInertia_congr (hs : model.Sound) (hlen : q.length = model.jointNames.length)
    (hlen' : q'.length = model.jointNames.length) {idx : ℕ}
    (hget : model.robot.joints[idx]? = some joint)
    (hchild : ∃ link ∈ model.robot.links, link.name = joint.child) {link : Link ℝ}
    (hlink : link ∈ model.robot.links) (hcarries : model.carries idx link.name = true)
    (hagree : ∀ (i : ℕ) (other : Joint ℝ), Distal model.robot.joints joint other →
      model.jointNames[i]? = some other.name → q[i]? = q'[i]?) :
    model.carriedInertia joint q link = model.carriedInertia joint q' link := by
  obtain ⟨below, hbelow, hframe⟩ := linkTransform_carried hs hget hchild hlink hcarries
  have hchain : (model.linkTransform joint.child (model.angles q)).Rigid ∧
      (model.linkTransform joint.child (model.angles q')).Rigid := by
    obtain ⟨top, htop, hname⟩ := hchild
    obtain ⟨chain, hchain, -⟩ := hs.chains top htop
    rw [hname] at hchain
    rw [linkTransform_chain hchain, linkTransform_chain hchain]
    exact ⟨chain_rigid hs _ _, chain_rigid hs _ _⟩
  have hangle : ∀ other ∈ model.chainJoints below,
      angleOf (model.angles q) other.name = angleOf (model.angles q') other.name := by
    intro other hother
    exact angleOf_congr hlen hlen' fun i hi => hagree i other (hbelow other hother) hi
  have hrel := foldl_advance_congr hangle .identity
  simp only [carriedInertia, hframe]
  rw [linkInertia_frame hchain.1, linkInertia_frame hchain.2, hrel]

theorem jointInertia_eq (hlen : q.length = model.jointNames.length) {idx : ℕ}
    (hpos : model.jointPosition joint.name = .ok (idx, joint)) :
    model.jointInertia joint.name q = .ok (model.robot.links.foldl (fun inertia link =>
      if !model.carries idx link.name || ble link.inertial.mass (lit 0) then inertia
      else inertia + model.carriedInertia joint q link) (lit 0)) := by
  rw [jointInertia, hpos]
  show (model.qMap q >>= _) = _
  rw [qMap_eq hlen]
  rfl

/-- A joint that carries no link. -/
theorem carries_of_none {idx : ℕ} (hpos : model.jointPosition joint.name = .ok (idx, joint))
    (hnone : model.linksDownstreamOf joint.name = .ok []) {link : Link ℝ}
    (hlink : link ∈ model.robot.links) : model.carries idx link.name = false := by
  rw [linksDownstreamOf, hpos] at hnone
  have hmap : (model.robot.links.filter fun l => model.carries idx l.name).map (·.name) = [] := by
    injection hnone
  rw [List.map_eq_nil_iff, List.filter_eq_nil_iff] at hmap
  simpa using hmap link hlink

/-- Over every pose of every model that can be built, the inertia of a joint that turns exists, and
is not negative where every inertia tensor is positive semidefinite. If the child link of the joint
is declared, or the joint carries no link, then it depends on the joints below the joint only. -/
theorem joint_inertia_invariant {robot : Robot ℝ} {jointNames : List String}
    {held : List (String × ℝ)} (hbuilt : fromRobot robot jointNames held = .ok model)
    (hjoint : joint ∈ model.robot.joints) (_hturns : joint.jointType.turns = true)
    (hlen : q.length = model.jointNames.length) :
    ∃ inertia, model.jointInertia joint.name q = .ok inertia ∧
      ((∃ link ∈ model.robot.links, link.name = joint.child) ∨
          model.linksDownstreamOf joint.name = .ok [] →
        ∀ q', q'.length = model.jointNames.length →
          (∀ (i : ℕ) (other : Joint ℝ), Distal model.robot.joints joint other →
            model.jointNames[i]? = some other.name → q[i]? = q'[i]?) →
          model.jointInertia joint.name q' = .ok inertia) ∧
      ((∀ link ∈ model.robot.links, link.inertial.inertia.matrix.PosSemidef) → 0 ≤ inertia) := by
  have hs := (fromRobot_checked hbuilt).1
  have hmass := fromRobot_mass hbuilt
  obtain ⟨idx, hpos, hget⟩ := jointPosition_eq hs hjoint
  refine ⟨_, jointInertia_eq hlen hpos, fun hframe q' hlen' hagree => ?_, fun htensor => ?_⟩
  · rw [jointInertia_eq hlen' hpos]
    refine congrArg Except.ok (List.foldl_ext _ _ _ fun inertia link hlink => ?_)
    rcases hframe with hchild | hnone
    · by_cases hcarries : model.carries idx link.name = true
      · rw [carriedInertia_congr hs hlen hlen' hget hchild hlink hcarries hagree]
      · rw [Bool.not_eq_true] at hcarries
        simp only [hcarries, Bool.not_false, Bool.true_or, if_true]
    · simp only [carries_of_none hpos hnone hlink, Bool.not_false, Bool.true_or, if_true]
  · refine List.foldlRecOn _ _ (lit_zero).ge fun inertia hinertia link hlink => ?_
    split
    · exact hinertia
    · exact add_nonneg hinertia
        (linkInertia_nonneg (htensor link hlink) (hmass link hlink) _ _ _)

/-- Nothing is below the joint of the pendulum. -/
theorem pendulum_distal {a b : Joint ℝ} (ha : a ∈ (pendulumRobot : Robot ℝ).joints)
    (h : Distal (pendulumRobot : Robot ℝ).joints a b) : False := by
  have hstep : ∀ {c d : Joint ℝ}, c ∈ (pendulumRobot : Robot ℝ).joints →
      d ∈ (pendulumRobot : Robot ℝ).joints → d.parent = c.child → False := by
    intro c d hc hd hattached
    simp only [pendulumRobot, List.mem_singleton] at hc hd
    subst hc hd
    simp at hattached
  induction h with
  | single h => exact hstep ha h.1 h.2
  | tail _ _ ih => exact ih

/-- The pendulum turned and upright: the inertia about the joint is the same. -/
theorem joint_inertia_pendulum : ∃ inertia,
    jointInertia (pendulumModel : UrdfGravityModel ℝ) "shoulder" [Real.pi] =
      .ok inertia ∧
    jointInertia (pendulumModel : UrdfGravityModel ℝ) "shoulder" [Real.pi / 2] =
      .ok inertia := by
  have hmem : (pendulumRobot : Robot ℝ).joints.head (by simp [pendulumRobot]) ∈
      (pendulumRobot : Robot ℝ).joints := List.head_mem _
  obtain ⟨inertia, hupright, hsame, -⟩ :=
    joint_inertia_invariant (q := [Real.pi]) fromRobot_pendulum hmem rfl rfl
  refine ⟨inertia, hupright, hsame (.inl ⟨_, .tail _ (.head _), rfl⟩) _ rfl ?_⟩
  exact fun i other hdistal => (pendulum_distal hmem hdistal).elim

/-! ## An undeclared child link -/

/-- A joint one metre ahead of the base; its child link is not declared. -/
def gapShoulder {F : Type} [Scalar F] : Joint F where
  name := "shoulder"
  jointType := .revolute
  origin := ⟨![lit 1, lit 0, lit 0], ![lit 0, lit 0, lit 0]⟩
  parent := "base"
  child := "upper"
  axis := ![lit 0, lit 0, lit 1]
  mimic := false

/-- A kilogram is fixed to the child, one metre ahead of it. -/
def gapRobot {F : Type} [Scalar F] : Robot F :=
  let zero : F := lit 0
  let one : F := lit 1
  let still : Pose F := ⟨![zero, zero, zero], ![zero, zero, zero]⟩
  let ahead : Pose F := ⟨![one, zero, zero], ![zero, zero, zero]⟩
  let tensor : Inertia F := ⟨zero, zero, zero, zero, zero, zero⟩
  { links := [⟨"base", still, zero, tensor⟩, ⟨"tip", ahead, one, tensor⟩]
    joints := [gapShoulder,
      ⟨"wrist", .fixed, still, "upper", "tip", ![one, zero, zero], false⟩] }

def gapModel {F : Type} [Scalar F] : UrdfGravityModel F where
  jointNames := ["shoulder"]
  held := []
  robot := gapRobot
  linkChains := Function.update (Function.update (fun _ => none) "base" (some [])) "tip"
    (some [0, 1])

theorem fromRobot_gap :
    fromRobot (gapRobot : Robot ℝ) ["shoulder"] [] = .ok gapModel := by
  have haxis : blt (Analytic.sqrt (Vector3.normSquared (gapShoulder : Joint ℝ).axis))
      minAxisNorm = false := by
    refine axis_of_unit ?_
    simp [gapShoulder, lit_zero, lit_one]
  have hvalid : validateModel (gapRobot : Robot ℝ) ["shoulder"] [] = .ok () := by
    simp only [gapShoulder] at haxis
    simp [validateModel, gapRobot, gapShoulder, absent, firstDuplicate, supportedJoint,
      unsupportedMotion, finiteAll, isFinite_eq, listedJoint, JointType.turns, usableJoint, haxis,
      usableLink, one_not_blt_zero, zero_not_blt_zero, bind, Except.bind, pure, Except.pure]
  have hchains : buildChains (gapRobot : Robot ℝ) gapRobot.links (fun _ => none) =
      .ok (gapModel : UrdfGravityModel ℝ).linkChains := by
    simp [buildChains, linkChain, walkChain, indexOf, gapRobot, gapShoulder, gapModel, absent,
      one_not_beq_zero, bind, Except.bind, pure, Except.pure]
  rw [fromRobot, hvalid]
  show (buildChains gapRobot gapRobot.links (fun _ => none) >>= _) = _
  rw [hchains]
  rfl

/-- A pose that is not turned. -/
theorem poseToIsometry_still (xyz : Vector3 ℝ) : poseToIsometry ⟨xyz, ![0, 0, 0]⟩ = ⟨1, xyz⟩ := by
  have hsin : Analytic.sin (0 : ℝ) = 0 := Real.sin_zero
  have hcos : Analytic.cos (0 : ℝ) = 1 := Real.cos_zero
  ext1
  · ext i j
    simp only [poseToIsometry, Matrix3.fromEulerAngles, Vector3.x, Vector3.y, Vector3.z]
    fin_cases i <;> fin_cases j <;> simp [hsin, hcos]
  · rfl

/-- The upward axis is a unit vector. -/
theorem normalize_up : Vector3.normalize (![0, 0, 1] : Vector3 ℝ) = ![0, 0, 1] := by
  have hnorm : Vector3.normSquared (![0, 0, 1] : Vector3 ℝ) = 1 := by
    rw [Vector3.normSquared_eq]
    simp
  have hsqrt : (Analytic.sqrt (1 : ℝ)) = 1 := Real.sqrt_one
  funext i
  rw [Vector3.normalize, hnorm, hsqrt]
  exact div_one _

theorem fromAxisAngle_up (q : ℝ) : Matrix3.fromAxisAngle ![0, 0, 1] q =
    !![Real.cos q, -Real.sin q, 0; Real.sin q, Real.cos q, 0; 0, 0, 1] := by
  have hsin : Analytic.sin q = Real.sin q := rfl
  have hcos : Analytic.cos q = Real.cos q := rfl
  ext i j
  simp only [Matrix3.fromAxisAngle, lit_one, hsin, hcos]
  fin_cases i <;> fin_cases j <;> simp

theorem gap_tip (q : ℝ) :
    ((linkTransform gapModel "tip" [("shoulder", q)]).mul
      (poseToIsometry ⟨![1, 0, 0], ![0, 0, 0]⟩)).translation = ![1 + Real.cos q, Real.sin q, 0] := by
  have htip : (gapModel : UrdfGravityModel ℝ).linkChains "tip" = some [0, 1] := by simp [gapModel]
  have hangle : angleOf [("shoulder", q)] "shoulder" = q := rfl
  have hstill : (fun _ : Fin 3 => (0 : ℝ)) = 0 := rfl
  rw [linkTransform_chain htip]
  simp only [chainJoints, gapModel, gapRobot, gapShoulder, List.filterMap_cons, List.getElem?_cons_zero,
    List.getElem?_cons_succ, List.filterMap_nil, List.foldl_cons, List.foldl_nil, lit_zero,
    lit_one, Joint.advance_eq, Joint.motion, JointType.turns, if_true, Bool.false_eq_true,
    if_false, poseToIsometry_still, hangle, Joint.rotation, Isometry3.identity_mul, normalize_up,
    fromAxisAngle_up, Isometry3.mul_translation, Isometry3.mul_rotation, Matrix.one_mul,
    Matrix.mul_one, hstill, mulVec_zero, add_zero]
  ext i
  fin_cases i <;> simp

/-- The tip seen from the joint: the child link has no frame, so the arm is taken from the world
origin. -/
theorem gap_carriedInertia (q : ℝ) {joint : Joint ℝ} (hchild : joint.child = "upper")
    (haxis : joint.axis = ![0, 0, 1]) {link : Link ℝ} (hname : link.name = "tip")
    (hinertial : link.inertial = ⟨⟨![1, 0, 0], ![0, 0, 0]⟩, 1, ⟨0, 0, 0, 0, 0, 0⟩⟩) :
    carriedInertia gapModel joint [q] link = 2 + 2 * Real.cos q := by
  have hangles : angles gapModel [q] = [("shoulder", q)] := by
    simp [angles, gapModel]
  have hframe : linkTransform (gapModel : UrdfGravityModel ℝ) "upper"
      [("shoulder", q)] = .identity := by
    simp [linkTransform, gapModel]
  have hup : Matrix3.mulVec (Isometry3.identity : Isometry3 ℝ).rotation ![0, 0, 1] = ![0, 0, 1] := by
    rw [Matrix3.mulVec_eq, Isometry3.identity_rotation, one_mulVec]
  have htensor : Inertia.matrix (⟨0, 0, 0, 0, 0, 0⟩ : Inertia ℝ) = 0 := by
    ext i j
    fin_cases i <;> fin_cases j <;> rfl
  have hcircle := Real.sin_sq_add_cos_sq q
  simp only [carriedInertia, hangles, hchild, hframe, haxis, hup, normalize_up, linkInertia, hname,
    hinertial, gap_tip, htensor, Isometry3.identity_translation, Matrix3.mul_eq, Matrix3.mulVec_eq,
    Matrix.mul_zero, Matrix.zero_mul, zero_mulVec, Vector3.dot_eq, dotProduct_zero, add_zero,
    one_mul, Pi.zero_apply, sub_zero, Vector3.normSquared_eq, Vector3.cross_eq]
  simp [cross_apply]
  linear_combination hcircle

/-- So the inertia depends on the angle of the joint itself. -/
theorem gap_jointInertia (q : ℝ) :
    jointInertia gapModel "shoulder" [q] = .ok (2 + 2 * Real.cos q) := by
  have hpos : jointPosition (gapModel : UrdfGravityModel ℝ)
      (gapShoulder : Joint ℝ).name = .ok (0, gapShoulder) := by
    simp [jointPosition, indexOf, gapModel, gapRobot]
  have hlen : [q].length = (gapModel : UrdfGravityModel ℝ).jointNames.length := rfl
  have hbase : carries (gapModel : UrdfGravityModel ℝ) 0 "base" = false := by
    simp [carries, gapModel]
  have htip : carries (gapModel : UrdfGravityModel ℝ) 0 "tip" = true := by
    simp [carries, gapModel]
  have hmass : ble (1 : ℝ) 0 = false := by
    rw [← Bool.not_eq_true, ble_iff]
    norm_num
  refine (jointInertia_eq hlen hpos).trans (congrArg Except.ok ?_)
  show ((gapRobot : Robot ℝ).links.foldl _ _) = _
  simp only [gapRobot, List.foldl_cons, List.foldl_nil, hbase, htip, lit_one, lit_zero, hmass, Bool.not_false,
    Bool.not_true, Bool.or_false, Bool.true_or, if_true, Bool.false_eq_true, if_false, zero_add]
  exact gap_carriedInertia q rfl (by simp [gapShoulder, lit_zero, lit_one]) rfl rfl

/-- The inertia of a joint whose child link is not declared changes with the angle of the joint. -/
theorem joint_inertia_gap :
    fromRobot (gapRobot : Robot ℝ) ["shoulder"] [] = .ok gapModel ∧
      jointInertia gapModel "shoulder" [Real.pi / 2] = .ok 2 ∧
      jointInertia gapModel "shoulder" [Real.pi] = .ok 0 := by
  refine ⟨fromRobot_gap, ?_, ?_⟩
  · rw [gap_jointInertia, Real.cos_pi_div_two]
    norm_num
  · rw [gap_jointInertia, Real.cos_pi]
    norm_num

end UrdfGravityModel

end Marengo

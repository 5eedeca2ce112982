import Marengo.Dynamics.Chains

/-!
# Gravity torques over the reals

The height of a point of a link is a sinusoid of every single joint angle, because a joint occurs
once on the chain of the link (`linkTransform_turning`). So the difference quotient that the model
takes for a derivative is an exact multiple of it. The torques of a model are the torques of unit
masses at the centres of mass of its links, weighted by their masses (`gravityTorques_eq`).
-/

namespace Marengo

theorem Joint.rotation_turning (joint : Joint ℝ) : Isometry3.Turning joint.rotation :=
  ⟨fun i j => Matrix3.fromAxisAngle_mem _ i j, fun _ => Sinusoid.const_mem _⟩

/-- The mass that the torques see: a link without a positive mass is skipped. -/
noncomputable def Link.weight (link : Link ℝ) : ℝ := max 0 link.inertial.mass

namespace UrdfGravityModel

variable {model : UrdfGravityModel ℝ} {q : List ℝ} {i : ℕ}

/-! ## Joint angles -/

/-- The angles of the modelled and of the held joints. -/
def angles (model : UrdfGravityModel ℝ) (q : List ℝ) : List (String × ℝ) :=
  model.jointNames.zip q ++ model.held

theorem qMap_eq (hlen : q.length = model.jointNames.length) :
    model.qMap q = .ok (model.angles q) := by
  rw [qMap, if_neg (not_not.mpr hlen), if_neg]
  · rfl
  · simp only [List.any_eq_true, not_exists, not_and, Bool.not_eq_true', Bool.not_eq_false]
    exact fun _ _ => rfl

theorem finiteTorques_eq (tau : List ℝ) : model.finiteTorques tau = .ok tau := by
  have hnone : (tau.findIdx? fun t => !isFinite t) = none := by
    rw [List.findIdx?_eq_none_iff]
    exact fun _ _ => rfl
  rw [finiteTorques, hnone]

/-- Writing an angle into the map is writing it into the pose. -/
theorem setAngle_eq (hlen : q.length = model.jointNames.length) (hi : i < q.length) (x : ℝ) :
    setAngle (model.angles q) i x = model.angles (q.set i x) := by
  have hzip : ∀ (names : List String) (q : List ℝ) (i : ℕ), q.length = names.length →
      i < q.length → (names.zip q ++ model.held).modify i (fun entry => (entry.1, x)) =
        names.zip (q.set i x) ++ model.held := by
    intro names
    induction names with
    | nil =>
      intro q i hlen hi
      simp at hlen
      simp [hlen] at hi
    | cons name rest ih =>
      intro q i hlen hi
      match q, i with
      | [], _ => simp at hi
      | v :: q, 0 => simp
      | v :: q, i + 1 => simpa using ih q i (by simpa using hlen) (by simpa using hi)
  exact hzip _ _ _ hlen hi

/-- The angle of a joint in a pose with one entry replaced. -/
theorem angleOf_set (hlisted : model.jointNames.Nodup)
    (hlen : q.length = model.jointNames.length) (x : ℝ) (name : String) :
    angleOf (model.angles (q.set i x)) name =
      if model.jointNames[i]? = some name then x else angleOf (model.angles q) name := by
  have hzip : ∀ (names : List String) (q : List ℝ) (i : ℕ), names.Nodup → q.length = names.length →
      (names.zip (q.set i x)).lookup name =
        if names[i]? = some name then some x else (names.zip q).lookup name := by
    intro names
    induction names with
    | nil => intro q i _ _; simp
    | cons first rest ih =>
      intro q i hnodup hlen
      obtain ⟨hfirst, hrest⟩ := List.nodup_cons.mp hnodup
      match q, i with
      | [], _ => simp at hlen
      | v :: q, 0 =>
        by_cases heq : first = name
        · subst heq
          simp
        · simp [heq, List.lookup_cons, beq_eq_false_iff_ne.mpr (Ne.symm heq)]
      | v :: q, i + 1 =>
        by_cases heq : first = name
        · subst heq
          -- the name occurs at the head only
          have hne : rest[i]? ≠ some first := fun h => hfirst (List.mem_of_getElem? h)
          simp [hne]
        · have hbeq := beq_eq_false_iff_ne.mpr (Ne.symm heq)
          simpa [List.lookup_cons, hbeq] using ih q i hrest (by simpa using hlen)
  rw [angleOf, angles, List.lookup_append, hzip _ _ _ hlisted hlen]
  split
  · rfl
  · rw [angleOf, angles, List.lookup_append]

/-! ## Chains -/

/-- The links below a joint that turned keep turning with it. -/
theorem turning_of_not_mem {chain : List (Joint ℝ)} {t : ℝ → Isometry3 ℝ}
    (ht : Isometry3.Turning t) {angle : ℝ → List (String × ℝ)} {base : List (String × ℝ)}
    (hangle : ∀ joint ∈ chain, ∀ x, angleOf (angle x) joint.name = angleOf base joint.name) :
    Isometry3.Turning fun x => chain.foldl (Joint.advance (angle x)) (t x) := by
  induction chain generalizing t with
  | nil => exact ht
  | cons joint rest ih =>
    have hnext : Isometry3.Turning fun x => Joint.advance (angle x) (t x) joint := by
      simp only [Joint.advance, hangle joint (.head _)]
      split
      · exact (ht.mul_const _).mul_const _
      · exact ht.mul_const _
    exact ih hnext fun other hother => hangle other (.tail _ hother)

/-- A chain on which every joint has its own name turns with the angle of each of them. -/
theorem chain_turning {chain : List (Joint ℝ)} (hnodup : (chain.map (·.name)).Nodup)
    {name : String} {angle : ℝ → List (String × ℝ)} {base : List (String × ℝ)}
    (hself : ∀ x, angleOf (angle x) name = x)
    (hother : ∀ other, other ≠ name → ∀ x, angleOf (angle x) other = angleOf base other)
    (t : Isometry3 ℝ) :
    Isometry3.Turning fun x => chain.foldl (Joint.advance (angle x)) t := by
  induction chain generalizing t with
  | nil => exact .const t
  | cons joint rest ih =>
    rw [List.map_cons, List.nodup_cons] at hnodup
    obtain ⟨hfresh, hrest⟩ := hnodup
    by_cases hname : joint.name = name
    · -- this is the joint that turns: the rest of the chain is fixed to it
      have hnext : Isometry3.Turning fun x => Joint.advance (angle x) t joint := by
        simp only [Joint.advance, hname, hself]
        split
        · exact joint.rotation_turning.const_mul _
        · exact .const _
      refine turning_of_not_mem hnext fun other hmem x => hother other.name (fun heq => ?_) x
      exact hfresh (hname ▸ heq ▸ List.mem_map_of_mem hmem)
    · have hconst : ∀ x, Joint.advance (angle x) t joint = Joint.advance base t joint := by
        intro x
        rw [Joint.advance, Joint.advance, hother joint.name hname x]
      simp only [List.foldl_cons, hconst]
      exact ih hrest _

theorem linkTransform_chain {link : String} {indices : List ℕ}
    (h : model.linkChains link = some indices) (qMap : List (String × ℝ)) :
    model.linkTransform link qMap =
      (model.chainJoints indices).foldl (Joint.advance qMap) .identity := by
  rw [linkTransform, h]

/-- A link turns with the angle of every joint. -/
theorem linkTransform_turning (hs : model.Sound) (hlen : q.length = model.jointNames.length)
    (hi : i < q.length) {link : Link ℝ} (hlink : link ∈ model.robot.links) :
    Isometry3.Turning fun x => model.linkTransform link.name (model.angles (q.set i x)) := by
  obtain ⟨chain, hchain, hto⟩ := hs.chains link hlink
  have hlisted := (List.nodup_append.mp hs.listed).1
  have hname : model.jointNames[i]? = some model.jointNames[i] :=
    List.getElem?_eq_getElem (hlen ▸ hi)
  have hself : ∀ x, angleOf (model.angles (q.set i x)) model.jointNames[i] = x := fun x => by
    rw [angleOf_set hlisted hlen, if_pos hname]
  have hother : ∀ other, other ≠ model.jointNames[i] → ∀ x,
      angleOf (model.angles (q.set i x)) other = angleOf (model.angles q) other := by
    intro other hne x
    rw [angleOf_set hlisted hlen, if_neg]
    rw [hname, Option.some.injEq]
    exact hne.symm
  simp only [linkTransform_chain hchain]
  exact chain_turning (hto.names_nodup hs.names) hself hother .identity

/-! ## Torques -/

noncomputable def height (model : UrdfGravityModel ℝ) (link : String) (point : Vector3 ℝ) (q : List ℝ) : ℝ :=
  Vector3.z ((model.linkTransform link (model.angles q)).transformPoint point)

noncomputable def potentialEnergy (model : UrdfGravityModel ℝ) (q : List ℝ) : ℝ :=
  (model.robot.links.map fun link => link.inertial.mass * lit (981 / 100) *
    model.height link.name link.inertial.origin.xyz q).sum

theorem height_mem (hs : model.Sound) (hlen : q.length = model.jointNames.length)
    (hi : i < q.length) {link : Link ℝ} (hlink : link ∈ model.robot.links) (point : Vector3 ℝ) :
    (fun x => model.height link.name point (q.set i x)) ∈ sinusoids :=
  (linkTransform_turning hs hlen hi hlink).transformPoint point 2

theorem dot_gravity (p : Vector3 ℝ) :
    Vector3.dot gravity p = -((lit (981 / 100) : ℝ) * p 2) := by
  have hx : (gravity : Vector3 ℝ) 0 = 0 := lit_zero
  have hy : (gravity : Vector3 ℝ) 1 = 0 := lit_zero
  have hz : (gravity : Vector3 ℝ) 2 = -lit (981 / 100) := by
    show (lit (-981 / 100) : ℝ) = _
    rw [lit_eq, lit_eq]
    push_cast
    ring
  rw [Vector3.dot, hx, hy, hz]
  ring

/-- The two signs of the loop make a central difference. -/
theorem dpeDq_eq (pe : ℝ → ℝ) (q0 : ℝ) :
    dpeDq pe q0 = (pe (q0 + dqEps) - pe (q0 - dqEps)) / (2 * dqEps) := by
  have hneg : q0 + lit (-1) * dqEps = q0 - dqEps := by
    rw [lit_eq]
    push_cast
    ring
  simp only [dpeDq, List.foldl_cons, List.foldl_nil, hneg]
  simp only [lit_eq]
  push_cast
  ring_nf

/-- The torque of joint `i` that holds a unit mass at a point of a link. -/
noncomputable def pointTorque (model : UrdfGravityModel ℝ) (link : String) (point : Vector3 ℝ)
    (q : List ℝ) (i : ℕ) (q0 : ℝ) : ℝ :=
  dpeDq (fun x => lit (981 / 100) * model.height link point (q.set i x)) q0

theorem pointMassTorques_eq (hlen : q.length = model.jointNames.length) {link : Link ℝ}
    (hlink : link ∈ model.robot.links) (point : Vector3 ℝ) :
    model.pointMassTorques link.name point q =
      .ok (q.mapIdx (model.pointTorque link.name point q)) := by
  obtain ⟨found, hfound⟩ : ∃ found, model.findLink link.name = .ok found := by
    have hsome : (model.robot.links.find? (·.name == link.name)).isSome :=
      List.find?_isSome.mpr ⟨link, hlink, beq_self_eq_true _⟩
    obtain ⟨found, hfind⟩ := Option.isSome_iff_exists.mp hsome
    exact ⟨found, by rw [findLink, hfind]⟩
  have htau : (q.mapIdx fun i q0 => dpeDq (fun angle => -Vector3.dot gravity
      ((model.linkTransform link.name (setAngle (model.angles q) i angle)).transformPoint point))
      q0) = q.mapIdx (model.pointTorque link.name point q) := by
    refine List.mapIdx_eq_mapIdx_iff.mpr fun i hi => ?_
    simp only [setAngle_eq hlen hi, dot_gravity, neg_neg]
    rfl
  rw [pointMassTorques, hfound, qMap_eq hlen]
  show model.finiteTorques _ = _
  rw [htau, finiteTorques_eq]

/-- The loop over the links with a mass. -/
theorem energy_eq (model : UrdfGravityModel ℝ) (q : List ℝ) :
    ((model.linkComWorld (model.angles q)).map fun (m, p) =>
      -m * Vector3.dot gravity p).foldl (· + ·) (lit 0) =
    (model.robot.links.map fun link => link.weight * (lit (981 / 100) *
      model.height link.name link.inertial.origin.xyz q)).sum := by
  rw [linkComWorld, List.map_map, lit_zero, ← List.sum_eq_foldl]
  induction model.robot.links with
  | nil => rfl
  | cons link rest ih =>
    by_cases hmass : link.inertial.mass ≤ 0
    · have hskip : ¬(!ble link.inertial.mass 0) = true := by
        rw [Bool.not_eq_true', Bool.not_eq_false, ble_iff]
        exact hmass
      rw [List.filter_cons, if_neg hskip, ih, List.map_cons, List.sum_cons, Link.weight,
        max_eq_left hmass, zero_mul, zero_add]
    · have hkeep : (!ble link.inertial.mass 0) = true := by
        rw [Bool.not_eq_true', ← Bool.not_eq_true, ble_iff]
        exact hmass
      rw [List.filter_cons, if_pos hkeep, List.map_cons, List.sum_cons, ih, List.map_cons,
        List.sum_cons, Link.weight, max_eq_right (not_le.mp hmass).le]
      simp only [Function.comp_apply, dot_gravity, neg_mul_neg]
      rfl

/-- The difference quotient of a weighted sum. -/
theorem dpeDq_sum {ι : Type} (s : List ι) (w : ι → ℝ) (f : ι → ℝ → ℝ) (q0 : ℝ) :
    dpeDq (fun x => (s.map fun k => w k * f k x).sum) q0 =
      (s.map fun k => w k * dpeDq (f k) q0).sum := by
  simp only [dpeDq_eq]
  induction s with
  | nil => simp
  | cons k rest ih =>
    simp only [List.map_cons, List.sum_cons] at ih ⊢
    rw [← ih]
    ring

/-- The torque of joint `i` that holds the links. -/
noncomputable def netTorque (model : UrdfGravityModel ℝ) (q : List ℝ) (i : ℕ) (q0 : ℝ) : ℝ :=
  (model.robot.links.map fun link =>
    link.weight * model.pointTorque link.name link.inertial.origin.xyz q i q0).sum

/-- The torques of the links add up. -/
theorem gravityTorques_eq (hlen : q.length = model.jointNames.length) :
    model.gravityTorques q = .ok (q.mapIdx (model.netTorque q)) := by
  have htau : (q.mapIdx fun i q0 => dpeDq (fun angle =>
      ((model.linkComWorld (setAngle (model.angles q) i angle)).map fun (m, p) =>
        -m * Vector3.dot gravity p).foldl (· + ·) (lit 0)) q0) =
      q.mapIdx (model.netTorque q) := by
    refine List.mapIdx_eq_mapIdx_iff.mpr fun i hi => ?_
    simp only [setAngle_eq hlen hi, energy_eq]
    exact dpeDq_sum _ _ _ _
  rw [gravityTorques, qMap_eq hlen]
  show model.finiteTorques _ = _
  rw [htau, finiteTorques_eq]

section
variable (hmass : ∀ link ∈ model.robot.links, 0 ≤ link.inertial.mass)
include hmass

/-- With no negative mass every link counts with its own. -/
theorem netTorque_mass (q : List ℝ) (i : ℕ) (q0 : ℝ) :
    model.netTorque q i q0 = (model.robot.links.map fun link => link.inertial.mass *
      model.pointTorque link.name link.inertial.origin.xyz q i q0).sum := by
  refine congrArg List.sum (List.map_congr_left fun link hlink => ?_)
  rw [Link.weight, max_eq_right (hmass link hlink)]

/-- The torque is the difference quotient of the potential energy. -/
theorem netTorque_energy (q : List ℝ) (i : ℕ) (q0 : ℝ) :
    model.netTorque q i q0 = dpeDq (fun x => model.potentialEnergy (q.set i x)) q0 := by
  rw [netTorque_mass hmass]
  simp only [potentialEnergy, mul_assoc]
  exact (dpeDq_sum _ _ _ _).symm

end

/-- The potential energy is a sinusoid of every single angle. -/
theorem potentialEnergy_mem (hs : model.Sound) (hlen : q.length = model.jointNames.length)
    (hi : i < q.length) : (fun x => model.potentialEnergy (q.set i x)) ∈ sinusoids :=
  Sinusoid.listSum_mem fun _ hlink => Sinusoid.const_mul_mem _ (height_mem hs hlen hi hlink _)

end UrdfGravityModel

end Marengo

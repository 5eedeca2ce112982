import Marengo.Dynamics.Gravity

/-!
# Lumped gravity of one joint

With the other joints fixed, the gravity torque of a joint is `A * sin q + B * cos q`.
`lumped_terms` reads the two coefficients off the model, at a right angle and at zero.
-/

namespace Marengo

variable {F : Type}

/-- The two coefficients of the gravity torque of a joint. -/
structure LumpedTerms (F : Type) where
  aNm : F
  bNm : F

section
variable [Analytic F]

/-- `A * sin q + B * cos q`. -/
def LumpedTerms.torque (terms : LumpedTerms F) (q : F) : F :=
  terms.aNm * Analytic.sin q + terms.bNm * Analytic.cos q

/-- `FRAC_PI_2`. -/
def fracPi2 : F := Analytic.pi / lit 2

namespace UrdfGravityModel

def jointIndex (model : UrdfGravityModel F) (joint : String) : Except (DynamicsError F) ℕ :=
  match model.jointNames.findIdx? (· == joint) with
  | some j => .ok j
  | none => .error (.unknownJoint joint)

/-- `torques[j]`; the place of a modelled joint is in range. -/
def entry (torques : List F) (j : ℕ) : F := torques.getD j (lit 0)

/-- The coefficients of a joint with the others at `qFixed`, whose own entry is ignored. -/
def lumpedTerms (model : UrdfGravityModel F) (joint : String) (qFixed : List F) :
    Except (DynamicsError F) (LumpedTerms F) := do
  let j ← model.jointIndex joint
  if qFixed.length ≠ model.jointNames.length then
    .error (.jointCount model.jointNames.length qFixed.length)
  else do
    let quarter ← model.gravityTorques (qFixed.set j fracPi2)
    let zero ← model.gravityTorques (qFixed.set j (lit 0))
    pure ⟨entry quarter j, entry zero j⟩

end UrdfGravityModel

end

/-! ## Over the reals -/

theorem LumpedTerms.torque_eq (terms : LumpedTerms ℝ) (q : ℝ) :
    terms.torque q = terms.aNm * Real.sin q + terms.bNm * Real.cos q := rfl

theorem fracPi2_eq : (fracPi2 : ℝ) = Real.pi / 2 := by
  show Real.pi / lit 2 = _
  rw [lit_eq]
  norm_num

namespace UrdfGravityModel

variable {model : UrdfGravityModel ℝ} {q : List ℝ} {i : ℕ}

/-- Joint `i` by its name. -/
theorem jointIndex_eq (hs : model.Sound) (hi : i < model.jointNames.length) :
    model.jointIndex model.jointNames[i] = .ok i := by
  have hnodup := (List.nodup_append.mp hs.listed).1
  have hfind : model.jointNames.findIdx? (· == model.jointNames[i]) = some i := by
    refine List.findIdx?_eq_some_iff_getElem.mpr ⟨hi, beq_self_eq_true _, fun k hk => ?_⟩
    simp only [beq_iff_eq]
    exact fun heq => absurd ((List.Nodup.getElem_inj_iff hnodup).mp heq) hk.ne
  rw [jointIndex, hfind]

/-- The torque of a link about one joint, over its angle. -/
theorem pointTorque_set (hs : model.Sound) (hlen : q.length = model.jointNames.length)
    (hi : i < q.length) {link : Link ℝ} (hlink : link ∈ model.robot.links) (point : Vector3 ℝ)
    (x : ℝ) :
    model.pointTorque link.name point (q.set i x) i x =
      model.pointTorque link.name point (q.set i fracPi2) i fracPi2 * Real.sin x +
        model.pointTorque link.name point (q.set i (lit 0)) i (lit 0) *
          Real.cos x := by
  have hmem := Sinusoid.const_mul_mem (lit (981 / 100)) (height_mem hs hlen hi hlink point)
  simp only [pointTorque, List.set_set, dpeDq_eq, fracPi2_eq, lit_zero]
  exact Sinusoid.central_harmonic hmem dqEps x

/-- The torque of a joint, over its angle. -/
theorem netTorque_set (hs : model.Sound) (hlen : q.length = model.jointNames.length)
    (hi : i < q.length) (x : ℝ) :
    model.netTorque (q.set i x) i x =
      model.netTorque (q.set i fracPi2) i fracPi2 * Real.sin x +
        model.netTorque (q.set i (lit 0)) i (lit 0) * Real.cos x := by
  simp only [netTorque, ← List.sum_map_mul_right, ← List.sum_map_add]
  refine congrArg List.sum (List.map_congr_left fun link hlink => ?_)
  rw [pointTorque_set hs hlen hi hlink]
  ring

theorem entry_mapIdx (hi : i < q.length) (f : ℕ → ℝ → ℝ) (x : ℝ) :
    entry ((q.set i x).mapIdx f) i = f i x := by
  rw [entry, List.getD_eq_getElem?_getD, List.getElem?_mapIdx, List.getElem?_set_self hi]
  rfl

/-- The coefficients are the torques at a right angle and at zero. -/
theorem lumpedTerms_eq (hs : model.Sound) (hlen : q.length = model.jointNames.length)
    (hi : i < q.length) {joint : String} (hjoint : model.jointNames[i]? = some joint) :
    model.lumpedTerms joint q = .ok ⟨model.netTorque (q.set i fracPi2) i fracPi2,
      model.netTorque (q.set i (lit 0)) i (lit 0)⟩ := by
  obtain ⟨hlt, rfl⟩ := List.getElem?_eq_some_iff.mp hjoint
  have hset : ∀ x, (q.set i x).length = model.jointNames.length := fun x => by
    rw [List.length_set, hlen]
  rw [lumpedTerms, jointIndex_eq hs hlt]
  show (if q.length ≠ model.jointNames.length then _ else _) = _
  rw [if_neg (not_not.mpr hlen), gravityTorques_eq (hset _), gravityTorques_eq (hset _)]
  show Except.ok (LumpedTerms.mk _ _) = _
  rw [entry_mapIdx hi, entry_mapIdx hi]

/-- Over every pose of every model that can be built: a torque is `sin e / e` times the partial
derivative of the potential energy, with `e` the step of the difference quotient; it is the sum of
the torques of unit masses at the centres of mass, times the masses; and it is what the lumped terms
of the joint give, whatever the angle of the joint is. -/
theorem gravity_identity {robot : Robot ℝ} {jointNames : List String} {held : List (String × ℝ)}
    (hbuilt : fromRobot robot jointNames held = .ok model)
    (hlen : q.length = model.jointNames.length) :
    ∃ (tau : List ℝ) (unit : Link ℝ → List ℝ),
      model.gravityTorques q = .ok tau ∧ tau.length = q.length ∧
      (∀ link ∈ model.robot.links,
        model.pointMassTorques link.name link.inertial.origin.xyz q = .ok (unit link) ∧
          (unit link).length = q.length) ∧
      ∀ i q0, q[i]? = some q0 →
        (∃ d, HasDerivAt (fun x => model.potentialEnergy (q.set i x)) d q0 ∧
          tau[i]? = some (Real.sin dqEps / dqEps * d)) ∧
        tau[i]? = some (model.robot.links.map fun link =>
          link.inertial.mass * entry (unit link) i).sum ∧
        ∃ joint terms, model.jointNames[i]? = some joint ∧
          model.lumpedTerms joint q = .ok terms ∧ tau[i]? = some (terms.torque q0) ∧
          ∀ x, ∃ tau', model.gravityTorques (q.set i x) = .ok tau' ∧
            tau'[i]? = some (terms.torque x) := by
  have hs := (fromRobot_checked hbuilt).1
  have hmass := fromRobot_mass hbuilt
  refine ⟨q.mapIdx (model.netTorque q),
    fun link => q.mapIdx (model.pointTorque link.name link.inertial.origin.xyz q),
    gravityTorques_eq hlen, List.length_mapIdx, fun link hlink =>
      ⟨pointMassTorques_eq hlen hlink _, List.length_mapIdx⟩, fun i q0 hq0 => ?_⟩
  obtain ⟨hi, hget⟩ := List.getElem?_eq_some_iff.mp hq0
  have hself : q.set i q0 = q := by rw [← hget, List.set_getElem_self]
  have htau : (q.mapIdx (model.netTorque q))[i]? = some (model.netTorque q i q0) := by
    rw [List.getElem?_mapIdx, hq0]
    rfl
  have hjoint : model.jointNames[i]? = some model.jointNames[i] :=
    List.getElem?_eq_getElem (hlen ▸ hi)
  refine ⟨?_, ?_, model.jointNames[i], _, hjoint, lumpedTerms_eq hs hlen hi hjoint, ?_,
    fun x => ?_⟩
  · obtain ⟨d, hd, hquot⟩ :=
      Sinusoid.central_hasDerivAt (potentialEnergy_mem hs hlen hi) dqEps q0
    refine ⟨d, hd, ?_⟩
    rw [htau, netTorque_energy hmass, dpeDq_eq, hquot]
  · rw [htau, netTorque_mass hmass]
    refine congrArg (fun s => some (List.sum s)) (List.map_congr_left fun link _ => ?_)
    rw [← entry_mapIdx hi (model.pointTorque link.name link.inertial.origin.xyz q) q0, hself]
  · rw [htau, LumpedTerms.torque_eq, ← netTorque_set hs hlen hi, hself]
  · have hset : (q.set i x).length = model.jointNames.length := by rw [List.length_set, hlen]
    refine ⟨_, gravityTorques_eq hset, ?_⟩
    rw [List.getElem?_mapIdx, List.getElem?_set_self hi, LumpedTerms.torque_eq,
      ← netTorque_set hs hlen hi]
    rfl

/-- The pendulum turned upright. -/
theorem gravity_identity_pendulum : ∃ tau : List ℝ,
    UrdfGravityModel.gravityTorques pendulumModel [Real.pi] = .ok tau ∧ tau.length = 1 ∧
      ∃ joint terms, (pendulumModel : UrdfGravityModel ℝ).jointNames[0]? = some joint ∧
        UrdfGravityModel.lumpedTerms pendulumModel joint [Real.pi] = .ok terms ∧
        tau[0]? = some (terms.torque Real.pi) := by
  obtain ⟨tau, _, htau, hlength, _, hjoints⟩ :=
    gravity_identity (q := [Real.pi]) fromRobot_pendulum rfl
  obtain ⟨-, -, joint, terms, hjoint, hterms, htorque, -⟩ := hjoints 0 Real.pi rfl
  exact ⟨tau, htau, hlength, joint, terms, hjoint, hterms, htorque⟩

end UrdfGravityModel

end Marengo

import Marengo.Dynamics.UrdfGravity
import Mathlib.Logic.Relation

/-!
# What construction establishes

The chain of a link lists the joints from the root to it, each joint once: a link has at most one
parent joint, so a joint that occurred twice would have two chains (`ChainTo.nodup`). A joint on the
chain splits it into the chain of its own child link and the joints distal to it
(`ChainTo.split`). Construction gives every link such a chain, distinct joint names and axes that
can be normalised (`UrdfGravityModel.Sound`), and replacing an inertial keeps them.
-/

namespace Marengo

open Matrix

variable {F : Type}

/-! ## Positions -/

theorem indexOf_eq_none {α : Type} {p : α → Bool} {xs : List α} (h : indexOf p xs = none) :
    ∀ x ∈ xs, p x = false := by
  intro x hx
  obtain ⟨i, hi, rfl⟩ := List.mem_iff_getElem.mp hx
  rw [indexOf, Option.map_eq_none_iff, List.find?_eq_none] at h
  have hmem : (xs[i], i) ∈ xs.zipIdx := List.mem_zipIdx_iff_getElem?.mpr (List.getElem?_eq_getElem hi)
  simpa using h _ hmem

theorem indexOf_eq_some {α : Type} {p : α → Bool} {xs : List α} {i : ℕ} {x : α}
    (h : indexOf p xs = some (i, x)) : xs[i]? = some x ∧ p x = true := by
  obtain ⟨⟨y, k⟩, hfind, hpair⟩ := Option.map_eq_some_iff.mp h
  obtain ⟨rfl, rfl⟩ : k = i ∧ y = x := by simpa using hpair
  have hp : p y = true := by
    have hfound := List.find?_some hfind
    exact hfound
  exact ⟨List.mem_zipIdx_iff_getElem?.mp (List.mem_of_find?_eq_some hfind), hp⟩

/-! ## Chains -/

/-- The indices of the joints from the root to a link. -/
inductive ChainTo (joints : List (Joint F)) : String → List ℕ → Prop
  | root {link : String} : indexOf (·.child == link) joints = none → ChainTo joints link []
  | step {link : String} {idx : ℕ} {joint : Joint F} {chain : List ℕ} :
    indexOf (·.child == link) joints = some (idx, joint) → ChainTo joints joint.parent chain →
      ChainTo joints link (chain ++ [idx])

/-- `b` is below `a`: it is attached to the child link of `a`, or to that of a joint below `a`. -/
def Distal (joints : List (Joint F)) : Joint F → Joint F → Prop :=
  Relation.TransGen fun a b => b ∈ joints ∧ b.parent = a.child

theorem walkChain_ok {joints : List (Joint F)} {link : String} {room : ℕ} {current : String}
    {acc chain : List ℕ} (h : walkChain joints link room current acc = .ok chain) :
    ∃ above, chain = above ++ acc ∧ ChainTo joints current above := by
  induction room generalizing current acc with
  | zero =>
    unfold walkChain at h
    split at h
    · rename_i hnone
      cases h
      exact ⟨[], rfl, .root hnone⟩
    · cases h
  | succ room ih =>
    unfold walkChain at h
    split at h
    · rename_i hnone
      cases h
      exact ⟨[], rfl, .root hnone⟩
    · rename_i idx joint hsome
      obtain ⟨above, rfl, habove⟩ := ih h
      exact ⟨above ++ [idx], by simp, .step hsome habove⟩

namespace ChainTo

variable {joints : List (Joint F)} {link : String} {chain chain' : List ℕ} {idx : ℕ}

theorem unique (h : ChainTo joints link chain) (h' : ChainTo joints link chain') :
    chain = chain' := by
  induction h generalizing chain' with
  | root hnone =>
    cases h' with
    | root => rfl
    | step hsome => rw [hnone] at hsome; cases hsome
  | step hsome _ ih =>
    cases h' with
    | root hnone => rw [hsome] at hnone; cases hnone
    | step hsome' hrest =>
      rw [hsome] at hsome'
      cases hsome'
      rw [ih hrest]

/-- The last joint of a chain is the parent joint of the link. -/
theorem last (h : ChainTo joints link (chain ++ [idx])) :
    ∃ joint, joints[idx]? = some joint ∧ joint.child = link ∧ ChainTo joints joint.parent chain := by
  generalize hall : chain ++ [idx] = all at h
  cases h with
  | root => simp at hall
  | @step _ idx' joint chain' hsome hrest =>
    obtain ⟨rfl, hidx⟩ := List.append_inj' hall rfl
    obtain rfl : idx = idx' := by simpa using hidx
    obtain ⟨hget, hchild⟩ := indexOf_eq_some hsome
    exact ⟨joint, hget, by simpa using hchild, hrest⟩

/-- A joint on the chain of a link: above it is the chain of its child link, below it are joints
distal to it. -/
theorem split (h : ChainTo joints link chain) (hidx : idx ∈ chain) :
    ∃ above below joint, chain = above ++ idx :: below ∧ joints[idx]? = some joint ∧
      ChainTo joints joint.child (above ++ [idx]) ∧ ChainTo joints joint.parent above ∧
      ∀ k ∈ below, ∃ other, joints[k]? = some other ∧ Distal joints joint other := by
  induction h with
  | root => cases hidx
  | @step link idx' joint' chain hsome hrest ih =>
    have hwhole := ChainTo.step hsome hrest
    obtain ⟨hget', hchild'⟩ := indexOf_eq_some hsome
    have hmem' : joint' ∈ joints := List.mem_of_getElem? hget'
    rcases List.mem_append.mp hidx with hmem | hlast
    · obtain ⟨above, below, joint, rfl, hget, hchild, hparent, hbelow⟩ := ih hmem
      refine ⟨above, below ++ [idx'], joint, by simp, hget, hchild, hparent, fun k hk => ?_⟩
      rcases List.mem_append.mp hk with hk | hk
      · exact hbelow k hk
      · obtain rfl : k = idx' := by simpa using hk
        refine ⟨joint', hget', ?_⟩
        -- the joint right above is the split joint itself or the last of those below it
        rcases List.eq_nil_or_concat below with rfl | ⟨front, m, rfl⟩
        · obtain ⟨top, htop, hlink, -⟩ := last hrest
          obtain rfl : joint = top := by simpa using hget.symm.trans htop
          exact .single ⟨hmem', hlink.symm⟩
        · obtain ⟨mid, hmid, hdistal⟩ := hbelow m (by simp)
          have hrest' : ChainTo joints joint'.parent ((above ++ idx :: front) ++ [m]) := by
            simpa using hrest
          obtain ⟨top, htop, hlink, -⟩ := last hrest'
          obtain rfl : mid = top := by simpa using hmid.symm.trans htop
          exact hdistal.tail ⟨hmem', hlink.symm⟩
    · obtain rfl : idx = idx' := by simpa using hlast
      obtain rfl : joint'.child = link := by simpa using hchild'
      exact ⟨chain, [], joint', rfl, hget', hwhole, hrest, fun k hk => absurd hk List.not_mem_nil⟩

/-- A joint occurs once: its parent link has one chain. -/
theorem nodup (h : ChainTo joints link chain) : chain.Nodup := by
  induction h with
  | root => exact .nil
  | @step link idx joint chain hsome hrest ih =>
    refine List.nodup_append.mpr ⟨ih, List.nodup_singleton idx, fun k hk m hm hkm => ?_⟩
    obtain rfl : m = idx := by simpa using hm
    subst hkm
    obtain ⟨above, below, joint', rfl, hget, -, hparent, -⟩ := split hrest hk
    obtain rfl : joint = joint' := by simpa using (indexOf_eq_some hsome).1.symm.trans hget
    have hlength := congrArg List.length (unique hrest hparent)
    simp at hlength

theorem names_nodup (h : ChainTo joints link chain) (hnames : (joints.map (·.name)).Nodup) :
    ((chain.filterMap (joints[·]?)).map (·.name)).Nodup := by
  rw [List.map_filterMap]
  refine h.nodup.filterMap fun i k name hi hk => ?_
  rw [← List.getElem?_map, Option.mem_def] at hi hk
  obtain ⟨hlt, -⟩ := List.getElem?_eq_some_iff.mp hi
  exact (List.getElem?_inj hlt hnames).mp (hi.trans hk.symm)

end ChainTo

/-! ## Construction -/

section
variable [Analytic F]

/-- What construction establishes about the joints and the chains of a model. -/
structure UrdfGravityModel.Sound (model : UrdfGravityModel F) : Prop where
  /-- URDF joints have distinct names. -/
  names : (model.robot.joints.map (·.name)).Nodup
  /-- Modelled and held joints have distinct names. -/
  listed : (model.jointNames ++ model.held.map (·.1)).Nodup
  axis : ∀ joint ∈ model.robot.joints, joint.jointType.turns = true →
    blt (Analytic.sqrt (Vector3.normSquared joint.axis)) (minAxisNorm : F) = false
  /-- A modelled joint is a URDF joint. -/
  modelled : ∀ name ∈ model.jointNames, ∃ joint ∈ model.robot.joints, joint.name = name
  chains : ∀ link ∈ model.robot.links, ∃ chain, model.linkChains link.name = some chain ∧
    ChainTo model.robot.joints link.name chain

theorem firstDuplicate_eq_none {seen names : List String} (h : firstDuplicate seen names = none) :
    names.Nodup ∧ ∀ name ∈ names, name ∉ seen := by
  induction names generalizing seen with
  | nil => exact ⟨.nil, fun name hname => absurd hname List.not_mem_nil⟩
  | cons name rest ih =>
    unfold firstDuplicate at h
    split at h
    · cases h
    · rename_i hfresh
      obtain ⟨hnodup, hseen⟩ := ih h
      refine ⟨List.nodup_cons.mpr ⟨fun hmem => hseen name hmem (.head _), hnodup⟩, fun other hother => ?_⟩
      rcases List.mem_cons.mp hother with rfl | hrest
      · exact hfresh
      · exact fun hmem => hseen other hrest (.tail _ hmem)

theorem absent_ok {α ε : Type} {found : Option α} {e : α → ε} (h : absent found e = .ok ()) :
    found = none := by
  unfold absent at h
  split at h
  · cases h
  · rfl

theorem usableJoint_axis {seen : List String} {joint : Joint F}
    (h : usableJoint seen joint = .ok ()) (hturns : joint.jointType.turns = true) :
    blt (Analytic.sqrt (Vector3.normSquared joint.axis)) (minAxisNorm : F) = false := by
  simp only [usableJoint, hturns, Bool.not_true, Bool.false_eq_true, if_false] at h
  split at h
  · cases h
  · split at h
    · cases h
    · rename_i hgood
      simp only [Bool.or_eq_true, not_or, Bool.not_eq_true] at hgood
      exact hgood.2

omit [Analytic F] in
theorem listedJoint_mem {robot : Robot F} {name : String} (h : listedJoint robot name = .ok ()) :
    ∃ joint ∈ robot.joints, joint.name = name := by
  unfold listedJoint at h
  split at h
  · cases h
  · rename_i joint hfind
    refine ⟨joint, List.mem_of_find?_eq_some hfind, ?_⟩
    have hname := List.find?_some hfind
    simpa using hname

theorem usableLink_mass {link : Link ℝ} (h : usableLink link = .ok ()) :
    0 ≤ link.inertial.mass := by
  simp only [usableLink] at h
  split at h
  · cases h
  · rename_i hgood
    simp only [Bool.or_eq_true, not_or, blt_iff, lit_zero, not_lt] at hgood
    exact hgood.1.2

theorem linkChain_ok {robot : Robot F} {link : Link F} {chain : List ℕ}
    (h : linkChain robot link = .ok chain) : ChainTo robot.joints link.name chain := by
  obtain ⟨walked, hwalk, h⟩ := Except.bind_eq_ok.mp h
  obtain ⟨_, -, h⟩ := Except.bind_eq_ok.mp h
  cases h
  obtain ⟨above, rfl, habove⟩ := walkChain_ok hwalk
  simpa using habove

/-- Every chain leads to its link, and every visited link has one. -/
theorem buildChains_ok {robot : Robot F} {links : List (Link F)}
    {chains built : String → Option (List ℕ)} (h : buildChains robot links chains = .ok built)
    (hchains : ∀ name chain, chains name = some chain → ChainTo robot.joints name chain) :
    (∀ name chain, built name = some chain → ChainTo robot.joints name chain) ∧
      (∀ name, (chains name).isSome → (built name).isSome) ∧
      ∀ link ∈ links, (built link.name).isSome := by
  induction links generalizing chains with
  | nil =>
    cases h
    exact ⟨hchains, fun _ h => h, fun link hlink => absurd hlink List.not_mem_nil⟩
  | cons link rest ih =>
    obtain ⟨chain, hchain, h⟩ := Except.bind_eq_ok.mp h
    have hupdate : ∀ name chain', Function.update chains link.name (some chain) name = some chain' →
        ChainTo robot.joints name chain' := by
      intro name chain' hname
      by_cases heq : name = link.name
      · subst heq
        rw [Function.update_self, Option.some.injEq] at hname
        subst hname
        exact linkChain_ok hchain
      · rw [Function.update_of_ne heq] at hname
        exact hchains name chain' hname
    obtain ⟨hbuilt, hkeep, hrest⟩ := ih h hupdate
    refine ⟨hbuilt, fun name hname => hkeep name ?_, fun other hother => ?_⟩
    · by_cases heq : name = link.name
      · subst heq
        simp
      · rwa [Function.update_of_ne heq]
    · rcases List.mem_cons.mp hother with rfl | hmem
      · exact hkeep _ (by simp)
      · exact hrest other hmem

namespace UrdfGravityModel

variable {robot : Robot F} {jointNames : List String} {held : List (String × F)}
  {model : UrdfGravityModel F}

/-- What building a model has checked. -/
theorem fromRobot_checked (h : fromRobot robot jointNames held = .ok model) :
    model.Sound ∧ ∀ link ∈ model.robot.links, usableLink link = .ok () := by
  obtain ⟨_, hvalid, h⟩ := Except.bind_eq_ok.mp h
  obtain ⟨chains, hchains, h⟩ := Except.bind_eq_ok.mp h
  cases h
  obtain ⟨_, hnames, hvalid⟩ := Except.bind_eq_ok.mp hvalid
  obtain ⟨_, hlisted, hvalid⟩ := Except.bind_eq_ok.mp hvalid
  obtain ⟨_, -, hvalid⟩ := Except.bind_eq_ok.mp hvalid
  obtain ⟨_, -, hvalid⟩ := Except.bind_eq_ok.mp hvalid
  obtain ⟨_, hexist, hvalid⟩ := Except.bind_eq_ok.mp hvalid
  obtain ⟨_, husable, hvalid⟩ := Except.bind_eq_ok.mp hvalid
  obtain ⟨_, -, hlinks⟩ := Except.bind_eq_ok.mp hvalid
  obtain ⟨hto, -, hsome⟩ := buildChains_ok hchains fun _ _ hnone => nomatch hnone
  refine ⟨⟨(firstDuplicate_eq_none (absent_ok hnames)).1,
    (firstDuplicate_eq_none (absent_ok hlisted)).1, fun joint hjoint =>
      usableJoint_axis (Except.forM_eq_ok.mp husable joint hjoint), fun name hname =>
      listedJoint_mem (Except.forM_eq_ok.mp hexist name (List.mem_append_left _ hname)),
    fun link hlink => ?_⟩, Except.forM_eq_ok.mp hlinks⟩
  obtain ⟨chain, hchain⟩ := Option.isSome_iff_exists.mp (hsome link hlink)
  exact ⟨chain, hchain, hto _ _ hchain⟩

/-- The masses of a model that has been built are not negative. -/
theorem fromRobot_mass {robot : Robot ℝ} {held : List (String × ℝ)} {model : UrdfGravityModel ℝ}
    (h : fromRobot robot jointNames held = .ok model) :
    ∀ link ∈ model.robot.links, 0 ≤ link.inertial.mass :=
  fun link hlink => usableLink_mass ((fromRobot_checked h).2 link hlink)

end UrdfGravityModel

end

/-! ## A pendulum -/

theorem one_not_blt_zero : blt (lit 1 : ℝ) (lit 0) = false := by
  rw [lit_zero, lit_one, ← Bool.not_eq_true, blt_iff]
  norm_num

theorem zero_not_blt_zero : blt (lit 0 : ℝ) (lit 0) = false := by
  rw [← Bool.not_eq_true, blt_iff]
  exact lt_irrefl _

theorem one_not_beq_zero : beq (lit 1 : ℝ) (lit 0) = false := by
  rw [lit_zero, lit_one, ← Bool.not_eq_true, beq_iff]
  norm_num

/-- A unit vector is long enough for an axis. -/
theorem axis_of_unit {axis : Vector3 ℝ} (hunit : axis ⬝ᵥ axis = 1) :
    blt (Analytic.sqrt (Vector3.normSquared axis)) minAxisNorm = false := by
  have hsqrt : (Analytic.sqrt (1 : ℝ)) = 1 := Real.sqrt_one
  rw [Vector3.normSquared_eq, hunit, hsqrt, ← Bool.not_eq_true, blt_iff, minAxisNorm,
    lit_eq, not_lt]
  norm_num

/-- A kilogram one metre below a joint that turns about the `y` axis. -/
def pendulumRobot {F : Type} [Scalar F] : Robot F :=
  let zero : F := lit 0
  let one : F := lit 1
  let still : Pose F := ⟨![zero, zero, zero], ![zero, zero, zero]⟩
  let tensor : Inertia F := ⟨one, zero, zero, one, zero, one⟩
  { links := [⟨"base", still, zero, tensor⟩,
      ⟨"arm", ⟨![zero, zero, -one], ![zero, zero, zero]⟩, one, tensor⟩]
    joints := [⟨"shoulder", .revolute, still, "base", "arm", ![zero, one, zero], false⟩] }

def pendulumModel {F : Type} [Scalar F] : UrdfGravityModel F where
  jointNames := ["shoulder"]
  held := []
  robot := pendulumRobot
  linkChains := Function.update (Function.update (fun _ => none) "base" (some [])) "arm" (some [0])

theorem fromRobot_pendulum :
    UrdfGravityModel.fromRobot (pendulumRobot : Robot ℝ) ["shoulder"] [] = .ok pendulumModel := by
  have haxis : blt (Analytic.sqrt (Vector3.normSquared
      (![lit 0, lit 1, lit 0] : Vector3 ℝ))) minAxisNorm = false := by
    refine axis_of_unit ?_
    simp [lit_zero, lit_one]
  have hvalid : validateModel (pendulumRobot : Robot ℝ) ["shoulder"] [] = .ok () := by
    simp [validateModel, pendulumRobot, absent, firstDuplicate, supportedJoint,
      unsupportedMotion, finiteAll, isFinite_eq, listedJoint, JointType.turns, usableJoint, haxis,
      usableLink, one_not_blt_zero, zero_not_blt_zero, bind, Except.bind, pure, Except.pure]
  have hchains : buildChains (pendulumRobot : Robot ℝ) pendulumRobot.links (fun _ => none) =
      .ok (pendulumModel : UrdfGravityModel ℝ).linkChains := by
    simp [buildChains, linkChain, walkChain, indexOf, pendulumRobot, pendulumModel, absent,
      one_not_beq_zero, bind, Except.bind, pure, Except.pure]
  rw [UrdfGravityModel.fromRobot, hvalid]
  show (buildChains pendulumRobot pendulumRobot.links (fun _ => none) >>= _) = _
  rw [hchains]
  rfl

end Marengo

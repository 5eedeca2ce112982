import Mathlib.Data.List.Nodup
import Marengo.Davout.Reference

/-!
# The laws of the reference authority

Every operation but a grant only takes permission away (`Weakens`), and a grant adds one binding, of
its own joint and job (`selectConsumed_some`). From these two facts follow the laws of a sequence of
operations: one binding per joint, a generation that never falls and that tells every change of
permission, and permission that `selectConsumed` alone gives. The authority does not remember the
jobs it has been given, so it would select a job again whose permission was lost; that this does not
happen is up to the owner of the commits.
-/

namespace Marengo

variable {F : Type}

/-- What identifies a binding. -/
def ConsumedReferenceBinding.key (b : ConsumedReferenceBinding) : String × Token := (b.joint, b.job)

namespace ReferenceAuthority

variable {a b c : ReferenceAuthority F}

theorem contains_iff {joint : String} : a.contains joint = true ↔ a.revoked = false ∧
    joint ∈ a.joints ∧ (a.consumed = [] ∨ ∃ x ∈ a.consumed, x.joint = joint ∧ x.revoked = false) := by
  simp [ReferenceAuthority.contains, and_assoc]

theorem selectedBy_iff {job : Token} : a.selectedBy job = true ↔ a.revoked = false ∧
    ∃ x ∈ a.consumed, x.revoked = false ∧ x.job = job := by
  simp [selectedBy]

/-! ## Permission that is only taken away -/

/-- No joint and no job gains permission, and no binding is replaced. -/
structure Weakens (a a' : ReferenceAuthority F) : Prop where
  contains : ∀ joint, a'.contains joint = true → a.contains joint = true
  selected : ∀ job, a'.selectedBy job = true → a.selectedBy job = true
  bindings : a'.consumed.map (·.key) = a.consumed.map (·.key)
  accumulates : a'.accumulates = a.accumulates
  generation : a.generation ≤ a'.generation

theorem Weakens.refl : a.Weakens a := ⟨fun _ h => h, fun _ h => h, rfl, rfl, Nat.le_refl _⟩

theorem Weakens.getD {o : Option (ReferenceAuthority F)} (h : ∀ b, o = some b → a.Weakens b) :
    a.Weakens (o.getD a) := by
  cases o with
  | none => exact .refl
  | some b => exact h b rfl

theorem Weakens.trans (h : a.Weakens b) (h' : b.Weakens c) : a.Weakens c where
  contains joint hc := h.contains joint (h'.contains joint hc)
  selected job hc := h.selected job (h'.selected job hc)
  bindings := h'.bindings.trans h.bindings
  accumulates := h'.accumulates.trans h.accumulates
  generation := h.generation.trans h'.generation

/-- A revocation may be added, and the generation may grow. -/
theorem Weakens.withRevoked {revoked : Bool} {generation : ℕ} (h : a.Weakens b)
    (hr : b.revoked = true → revoked = true) (hg : b.generation ≤ generation) :
    a.Weakens { b with revoked := revoked, generation := generation } := by
  have hlive : revoked = false → b.revoked = false := fun hf =>
    Bool.eq_false_iff.mpr fun hb => absurd (hf.symm.trans (hr hb)) nofun
  refine h.trans ⟨fun joint hj => ?_, fun job hj => ?_, rfl, rfl, hg⟩
  · exact contains_iff.mpr ((contains_iff.mp hj).imp_left hlive)
  · exact selectedBy_iff.mpr ((selectedBy_iff.mp hj).imp_left hlive)

theorem Weakens.bumpGeneration (h : a.Weakens b) : a.Weakens b.bumpGeneration :=
  h.withRevoked id (le_saturatingSucc _)

/-- Bindings that keep their key and their revocation give no permission. -/
theorem Weakens.modifyBindings {p : ConsumedReferenceBinding → Bool}
    {f : ConsumedReferenceBinding → ConsumedReferenceBinding}
    (hf : ∀ x, (f x).key = x.key ∧ ((f x).revoked = false → x.revoked = false)) :
    a.Weakens (a.modifyBindings p f) := by
  -- an unrevoked binding comes from an unrevoked one of the same joint and job
  have hlive : ∀ y ∈ (a.modifyBindings p f).consumed, y.revoked = false →
      ∃ x ∈ a.consumed, y.key = x.key ∧ x.revoked = false := by
    intro y hy hlive
    obtain ⟨x, hx, rfl⟩ := List.mem_map.mp hy
    refine ⟨x, hx, ?_⟩
    split at hlive <;> rename_i hp
    · simp only [hp, if_true]
      exact ⟨(hf x).1, (hf x).2 hlive⟩
    · simp only [hp]
      exact ⟨rfl, hlive⟩
  refine ⟨fun joint h => ?_, fun job h => ?_, ?_, rfl, Nat.le_refl _⟩
  · obtain ⟨hr, hj, hb⟩ := contains_iff.mp h
    refine contains_iff.mpr ⟨hr, hj, hb.imp List.map_eq_nil_iff.mp ?_⟩
    rintro ⟨y, hy, hj, hr⟩
    obtain ⟨x, hx, hkey, hr⟩ := hlive y hy hr
    exact ⟨x, hx, (congrArg Prod.fst hkey).symm.trans hj, hr⟩
  · obtain ⟨hr, y, hy, hlive', hj⟩ := selectedBy_iff.mp h
    obtain ⟨x, hx, hkey, hx'⟩ := hlive y hy hlive'
    exact selectedBy_iff.mpr ⟨hr, x, hx, hx', (congrArg Prod.snd hkey).symm.trans hj⟩
  · rw [ReferenceAuthority.modifyBindings, List.map_map]
    refine List.map_congr_left fun x _ => ?_
    simp only [Function.comp_apply]
    split
    · exact (hf x).1
    · rfl

theorem weakens_revoke : a.Weakens a.revoke := by
  unfold revoke
  split
  · exact .refl
  · exact Weakens.refl.withRevoked (fun _ => rfl) (le_saturatingSucc _)

theorem weakens_revokeBinding (joint : String) : a.Weakens (a.revokeBinding joint) := by
  unfold revokeBinding
  split
  · exact Weakens.bumpGeneration (.modifyBindings fun x => ⟨rfl, nofun⟩)
  · exact .refl

theorem weakens_revokeBindingSilent (joint : String) : a.Weakens (a.revokeBindingSilent joint) := by
  refine .trans (.modifyBindings fun x => ?_) (weakens_revokeBinding joint)
  exact ⟨rfl, id⟩

theorem revokeJoint_eq (joint : String) : a.revokeJoint joint = a.revokeBinding joint := by
  unfold revokeJoint
  split
  · rename_i b hb
    rw [show b.joint = joint by simpa using List.find?_some hb]
  · rename_i hnone
    have hno : ∀ b ∈ a.consumed, b.joint ≠ joint := by simpa using hnone
    rw [revokeBinding, if_neg]
    simp only [List.any_eq_true, Bool.and_eq_true, decide_eq_true_eq, not_exists, not_and]
    exact fun b hb hj => absurd hj (hno b hb)

theorem weakens_revokeJoint (joint : String) : a.Weakens (a.revokeJoint joint) :=
  revokeJoint_eq joint ▸ weakens_revokeBinding joint

theorem weakens_revokeSelected (job : Token) : a.Weakens (a.revokeSelected job) := by
  unfold revokeSelected
  repeat' split
  · exact weakens_revokeBinding _
  · exact weakens_revoke
  · exact .refl

theorem weakens_validateBinding [Scalar F] (motors : MotorsConfig F) (homing : HomingConfig F)
    (control : ControlConfig F) : a.Weakens (a.validateBinding motors homing control).2 := by
  unfold validateBinding
  repeat' split
  · exact .refl
  · exact .refl
  · exact weakens_revoke

theorem checkedSucc_some {n m : ℕ} (h : checkedSucc n = some m) : m = n + 1 := by
  unfold checkedSucc at h
  split at h
  · exact (Option.some.inj h).symm
  · cases h

theorem weakens_invalidateForAcquisition (h : a.invalidateForAcquisition = some b) :
    a.Weakens b := by
  simp only [invalidateForAcquisition, Option.map_eq_some_iff] at h
  obtain ⟨_, hnext, rfl⟩ := h
  exact Weakens.refl.withRevoked (fun _ => rfl) (checkedSucc_some hnext ▸ Nat.le_succ _)

theorem weakens_invalidateJointForAcquisition {joint : String}
    (h : a.invalidateJointForAcquisition joint = some b) : a.Weakens b := by
  simp only [invalidateJointForAcquisition, Option.map_eq_some_iff] at h
  obtain ⟨_, hnext, rfl⟩ := h
  obtain rfl := checkedSucc_some hnext
  have hg := Nat.le_succ a.generation
  split
  · refine Weakens.withRevoked (.modifyBindings fun x => ⟨rfl, nofun⟩) ?_ hg
    intro (hr : a.revoked = true)
    simp [hr]
  · exact Weakens.refl.withRevoked (fun hr => by simp [hr]) hg

/-! ## Grants -/

section
variable [Scalar F] {realm : Token} {binding : ConsumedReferenceBinding} {policy : TypedPolicy F}
  {scope : SelectionScope}

/-- A grant adds one binding under a new generation. It joins the bindings of other joints, or it
replaces all that was there. -/
theorem selectConsumed_some (h : a.selectConsumed realm binding policy scope = some b) :
    b.generation = a.generation + 1 ∧ b.revoked = false ∧
      (a.accumulates = true ∧ b.accumulates = true ∧ a.revoked = false ∧
          b.consumed = a.consumed.filter (·.joint ≠ binding.joint) ++ [binding] ∧
          b.joints = insert binding.joint a.joints ∨
        b.consumed = [binding] ∧ b.joints = {binding.joint}) := by
  simp only [selectConsumed, Option.map_eq_some_iff] at h
  obtain ⟨next, hnext, rfl⟩ := h
  obtain rfl := checkedSucc_some hnext
  split
  · rename_i hmerge
    simp only [Bool.and_eq_true, Bool.not_eq_true'] at hmerge
    exact ⟨rfl, hmerge.1.1.2, .inl ⟨hmerge.1.1.1.2, hmerge.1.1.1.2, hmerge.1.1.2, rfl, rfl⟩⟩
  · exact ⟨rfl, rfl, .inr ⟨rfl, rfl⟩⟩

/-- A grant gives permission to no joint but its own. -/
theorem selectConsumed_contains (h : a.selectConsumed realm binding policy scope = some b)
    {joint : String} (hj : joint ≠ binding.joint) (hb : b.contains joint = true) :
    a.contains joint = true := by
  obtain ⟨-, hmem, hbind⟩ := contains_iff.mp hb
  obtain ⟨-, -, ⟨-, -, hr, hcons, hjoints⟩ | ⟨-, hjoints⟩⟩ := selectConsumed_some h
  · rw [hjoints, Finset.mem_insert] at hmem
    obtain ⟨x, hx, hxj, hxr⟩ := hbind.resolve_left (by simp [hcons])
    rw [hcons, List.mem_append, List.mem_singleton] at hx
    rcases hx with hx | rfl
    · exact contains_iff.mpr ⟨hr, hmem.resolve_left hj, .inr
        ⟨x, List.mem_of_mem_filter hx, hxj, hxr⟩⟩
    · exact absurd hxj.symm hj
  · rw [hjoints, Finset.mem_singleton] at hmem
    exact absurd hmem hj

/-- A grant selects no job but its own. -/
theorem selectConsumed_selectedBy (h : a.selectConsumed realm binding policy scope = some b)
    {job : Token} (hj : job ≠ binding.job) (hb : b.selectedBy job = true) :
    a.selectedBy job = true := by
  obtain ⟨-, x, hx, hxr, hxj⟩ := selectedBy_iff.mp hb
  obtain ⟨-, -, ⟨-, -, hr, hcons, -⟩ | ⟨hcons, -⟩⟩ := selectConsumed_some h
  · rw [hcons, List.mem_append, List.mem_singleton] at hx
    rcases hx with hx | rfl
    · exact selectedBy_iff.mpr ⟨hr, x, List.mem_of_mem_filter hx, hxr, hxj⟩
    · exact absurd hxj.symm hj
  · rw [hcons, List.mem_singleton] at hx
    exact absurd (hx ▸ hxj.symm) hj

/-- A grant to one joint of an accumulating authority, under its own realm and policy, leaves the
other joints' permission as it is. -/
theorem selectConsumed_others (hne : a.consumed ≠ []) (hacc : a.accumulates = true)
    (hlive : a.revoked = false) (hrealm : a.realm = some realm)
    (hpolicy : a.policyMatches policy.motors policy.homing policy.control = true)
    (h : a.selectConsumed realm binding policy .accumulate = some b) {other : String}
    (hother : other ≠ binding.joint) : b.contains other = a.contains other := by
  refine Bool.eq_iff_iff.mpr ⟨selectConsumed_contains h hother, fun ha => ?_⟩
  obtain ⟨-, hmem, hbind⟩ := contains_iff.mp ha
  obtain ⟨x, hx, hxj, hxr⟩ := hbind.resolve_left hne
  simp only [selectConsumed, Option.map_eq_some_iff] at h
  obtain ⟨next, -, rfl⟩ := h
  rw [if_pos (by simp [hacc, hlive, hrealm, hpolicy])]
  refine contains_iff.mpr ⟨hlive, Finset.mem_insert_of_mem hmem, .inr ⟨x, ?_, hxj, hxr⟩⟩
  exact List.mem_append_left _ (List.mem_filter.mpr ⟨hx, by simpa [hxj] using hother⟩)

end

/-! ## The other joints -/

/-- Permission of a joint depends on the revocation of its own bindings only. -/
theorem contains_modifyBindings {p : ConsumedReferenceBinding → Bool}
    {f : ConsumedReferenceBinding → ConsumedReferenceBinding} {joint : String}
    (hjoint : ∀ x, (f x).joint = x.joint)
    (hr : ∀ x, p x = true → x.joint = joint → (f x).revoked = x.revoked) :
    (a.modifyBindings p f).contains joint = a.contains joint := by
  have hsame : ∀ x, ((if p x then f x else x).joint = joint ∧ (if p x then f x else x).revoked = false ↔
      x.joint = joint ∧ x.revoked = false) := by
    intro x
    split
    · rename_i hp
      rw [hjoint]
      exact and_congr_right fun hx => by rw [hr x hp hx]
    · rfl
  rw [Bool.eq_iff_iff, contains_iff, contains_iff]
  simp [modifyBindings, hsame]

variable {joint other : String}

theorem revokeBinding_contains (h : other ≠ joint) :
    (a.revokeBinding joint).contains other = a.contains other := by
  unfold revokeBinding
  split
  · exact contains_modifyBindings (a := a) (fun _ => rfl) fun x hp hx =>
      absurd (hx.symm.trans (of_decide_eq_true hp)) h
  · rfl

theorem contains_markSilent :
    (a.modifyBindings (fun b => b.joint = joint && !b.revoked)
      fun b => { b with revokedSilent := true }).contains other = a.contains other :=
  contains_modifyBindings (fun _ => rfl) fun _ _ _ => rfl

theorem revokeBindingSilent_contains (h : other ≠ joint) :
    (a.revokeBindingSilent joint).contains other = a.contains other :=
  (revokeBinding_contains h).trans contains_markSilent

theorem revokeJoint_contains (h : other ≠ joint) :
    (a.revokeJoint joint).contains other = a.contains other :=
  revokeJoint_eq (a := a) joint ▸ revokeBinding_contains h

theorem invalidateJointForAcquisition_contains (hacc : a.accumulates = true)
    (hi : a.invalidateJointForAcquisition joint = some b) (h : other ≠ joint) :
    b.contains other = a.contains other := by
  simp only [invalidateJointForAcquisition, Option.map_eq_some_iff, hacc, Bool.not_true,
    Bool.or_false] at hi
  obtain ⟨next, -, rfl⟩ := hi
  split
  · rename_i first hfirst
    have hjoint : first.joint = joint := by simpa using List.find?_some hfirst
    exact contains_modifyBindings (a := a) (fun _ => rfl) fun x hp hx =>
      absurd (hx.symm.trans ((of_decide_eq_true hp).trans hjoint)) h
  · rfl

end ReferenceAuthority

/-! ## Sequences of operations -/

/-- The operations that may change an authority. -/
inductive AuthorityOp (F : Type)
  | revoke
  | revokeBinding (joint : String)
  | revokeBindingSilent (joint : String)
  | revokeJoint (joint : String)
  | revokeSelected (job : Token)
  | invalidateForAcquisition
  | invalidateJointForAcquisition (joint : String)
  | validateBinding (motors : MotorsConfig F) (homing : HomingConfig F) (control : ControlConfig F)
  | selectConsumed (realm : Token) (binding : ConsumedReferenceBinding) (policy : TypedPolicy F)
      (scope : SelectionScope)

namespace ReferenceAuthority

/-- The generation tells a change of permission. -/
def Told (a b : ReferenceAuthority F) : Prop :=
  a.generation < b.generation ∨ ∀ joint, b.contains joint = a.contains joint

variable {a b : ReferenceAuthority F}

theorem told_bump (ha : a.generation < maxU64) (h : b.generation = saturatingSucc a.generation) :
    a.Told b :=
  .inl (by simp [h, saturatingSucc, ha])

theorem told_getD {o : Option (ReferenceAuthority F)}
    (h : ∀ b, o = some b → a.generation < b.generation) : a.Told (o.getD a) := by
  cases o with
  | none => exact .inr fun _ => rfl
  | some b => exact .inl (h b rfl)

theorem told_revoke (ha : a.generation < maxU64) : a.Told a.revoke := by
  unfold revoke
  split
  · exact .inr fun _ => rfl
  · exact told_bump ha rfl

theorem told_revokeBinding (ha : a.generation < maxU64) (joint : String) :
    a.Told (a.revokeBinding joint) := by
  unfold revokeBinding
  split
  · exact told_bump ha rfl
  · exact .inr fun _ => rfl

end ReferenceAuthority

section
variable [Scalar F] {a : ReferenceAuthority F}

namespace AuthorityOp

/-- The authority after an operation; one that is refused changes nothing. -/
def apply : AuthorityOp F → ReferenceAuthority F → ReferenceAuthority F
  | revoke, a => a.revoke
  | revokeBinding joint, a => a.revokeBinding joint
  | revokeBindingSilent joint, a => a.revokeBindingSilent joint
  | revokeJoint joint, a => a.revokeJoint joint
  | revokeSelected job, a => a.revokeSelected job
  | invalidateForAcquisition, a => a.invalidateForAcquisition.getD a
  | invalidateJointForAcquisition joint, a => (a.invalidateJointForAcquisition joint).getD a
  | validateBinding motors homing control, a => (a.validateBinding motors homing control).2
  | selectConsumed realm binding policy scope, a =>
    (a.selectConsumed realm binding policy scope).getD a

def granted : AuthorityOp F → Option ConsumedReferenceBinding
  | selectConsumed _ binding _ _ => some binding
  | _ => none

/-- An operation only takes permission away, or it is a grant that succeeds. -/
theorem apply_cases (op : AuthorityOp F) (a : ReferenceAuthority F) :
    a.Weakens (op.apply a) ∨ ∃ realm binding policy scope,
      op = .selectConsumed realm binding policy scope ∧
        a.selectConsumed realm binding policy scope = some (op.apply a) := by
  cases op with
  | revoke => exact .inl ReferenceAuthority.weakens_revoke
  | revokeBinding joint => exact .inl (ReferenceAuthority.weakens_revokeBinding joint)
  | revokeBindingSilent joint => exact .inl (ReferenceAuthority.weakens_revokeBindingSilent joint)
  | revokeJoint joint => exact .inl (ReferenceAuthority.weakens_revokeJoint joint)
  | revokeSelected job => exact .inl (ReferenceAuthority.weakens_revokeSelected job)
  | validateBinding => exact .inl (ReferenceAuthority.weakens_validateBinding ..)
  | invalidateForAcquisition =>
    exact .inl (.getD fun _ => ReferenceAuthority.weakens_invalidateForAcquisition)
  | invalidateJointForAcquisition joint =>
    exact .inl (.getD fun _ => ReferenceAuthority.weakens_invalidateJointForAcquisition)
  | selectConsumed realm binding policy scope =>
    simp only [apply]
    cases h : a.selectConsumed realm binding policy scope with
    | none => exact .inl .refl
    | some b => exact .inr ⟨_, _, _, _, rfl, h⟩

end AuthorityOp

namespace ReferenceAuthority

/-- Every operation of an unexhausted authority tells what it changes. -/
theorem told_apply (ha : a.generation < maxU64) (op : AuthorityOp F) : a.Told (op.apply a) := by
  cases op with
  | revoke => exact told_revoke ha
  | revokeBinding joint => exact told_revokeBinding ha joint
  | revokeBindingSilent joint =>
    have htold := told_revokeBinding (a := a.modifyBindings (fun b => b.joint = joint && !b.revoked)
      fun b => { b with revokedSilent := true }) ha joint
    exact Or.imp id (fun h other => (h other).trans contains_markSilent) htold
  | revokeJoint joint =>
    rw [AuthorityOp.apply, revokeJoint_eq]
    exact told_revokeBinding ha joint
  | revokeSelected job =>
    simp only [AuthorityOp.apply, revokeSelected]
    repeat' split
    · exact told_revokeBinding ha _
    · exact told_revoke ha
    · exact .inr fun _ => rfl
  | validateBinding motors homing control =>
    simp only [AuthorityOp.apply, validateBinding]
    repeat' split
    · exact .inr fun _ => rfl
    · exact .inr fun _ => rfl
    · exact told_revoke ha
  | invalidateForAcquisition =>
    refine told_getD fun b hb => ?_
    simp only [invalidateForAcquisition, Option.map_eq_some_iff] at hb
    obtain ⟨next, hnext, rfl⟩ := hb
    exact checkedSucc_some hnext ▸ Nat.lt_succ_self _
  | invalidateJointForAcquisition joint =>
    refine told_getD fun b hb => ?_
    simp only [invalidateJointForAcquisition, Option.map_eq_some_iff] at hb
    obtain ⟨next, hnext, rfl⟩ := hb
    exact checkedSucc_some hnext ▸ Nat.lt_succ_self _
  | selectConsumed realm binding policy scope =>
    exact told_getD fun b hb => (selectConsumed_some hb).1 ▸ Nat.lt_succ_self _

def run (ops : List (AuthorityOp F)) (a : ReferenceAuthority F) : ReferenceAuthority F :=
  ops.foldl (fun a op => op.apply a) a

/-- The authorities that a sequence of operations leads to. -/
inductive Reachable : ReferenceAuthority F → Prop
  | default : Reachable {}
  | initialVirtual (realm : Token) (joints : Finset String) (policy : TypedPolicy F) :
      Reachable (initialVirtual realm joints policy)
  | apply {a : ReferenceAuthority F} (op : AuthorityOp F) : Reachable a → Reachable (op.apply a)

/-- One binding per joint, and none is missing where they accumulate. -/
structure Lawful (a : ReferenceAuthority F) : Prop where
  bindings : (a.consumed.map (·.joint)).Nodup
  accumulates : a.accumulates = true → a.consumed ≠ []

theorem Lawful.apply (ha : a.Lawful) (op : AuthorityOp F) : (op.apply a).Lawful := by
  obtain hw | ⟨realm, binding, policy, scope, -, hsel⟩ := op.apply_cases a
  · have hjoints : ((op.apply a).consumed.map (·.joint)) = a.consumed.map (·.joint) := by
      have := congrArg (List.map Prod.fst) hw.bindings
      simpa [ConsumedReferenceBinding.key, Function.comp_def] using this
    refine ⟨hjoints ▸ ha.bindings, fun hacc hnil => ha.accumulates (hw.accumulates ▸ hacc) ?_⟩
    simpa [hnil] using hjoints.symm
  · obtain ⟨-, -, ⟨-, -, -, hcons, -⟩ | ⟨hcons, -⟩⟩ := selectConsumed_some hsel
    · refine ⟨?_, fun _ => by simp [hcons]⟩
      rw [hcons, List.map_append, List.map_singleton]
      refine (ha.bindings.sublist (List.filter_sublist.map _)).append (List.nodup_singleton _) ?_
      simp [List.mem_filter]
    · exact ⟨by simp [hcons], fun _ => by simp [hcons]⟩

theorem Reachable.lawful (ha : a.Reachable) : a.Lawful := by
  induction ha with
  | default => exact ⟨.nil, nofun⟩
  | initialVirtual => exact ⟨.nil, nofun⟩
  | apply op _ ih => exact ih.apply op

/-- A job without permission gets none unless it is granted. -/
theorem run_selectedBy {job : Token} (ops : List (AuthorityOp F)) (ha : a.selectedBy job = false)
    (hops : ∀ op ∈ ops, ∀ b, op.granted = some b → b.job ≠ job) :
    (run ops a).selectedBy job = false := by
  induction ops generalizing a with
  | nil => exact ha
  | cons op ops ih =>
    refine ih ?_ fun op' h => hops op' (.tail _ h)
    refine Bool.eq_false_iff.mpr fun hsel => Bool.eq_false_iff.mp ha ?_
    obtain hw | ⟨realm, binding, policy, scope, rfl, hgrant⟩ := op.apply_cases a
    · exact hw.selected job hsel
    · exact selectConsumed_selectedBy hgrant (hops _ (.head _) binding rfl).symm hsel

/-- The laws of an unexhausted authority. Job identities are not among what it remembers: a job
that lost its permission stays without it for as long as it is not granted again. -/
theorem authority_laws (ha : a.Reachable) (hgen : a.generation < maxU64) (op : AuthorityOp F) :
    a.generation ≤ (op.apply a).generation ∧
    (∀ joint, (op.apply a).contains joint ≠ a.contains joint →
      a.generation < (op.apply a).generation) ∧
    (∀ joint, a.contains joint = false → (op.apply a).contains joint = true →
      ∃ binding, op.granted = some binding ∧ binding.joint = joint) ∧
    (a.consumed.map (·.joint)).Nodup ∧
    (∀ job, a.selectedBy job = true → (op.apply a).selectedBy job = false →
      ∀ later : List (AuthorityOp F),
        (∀ op' ∈ later, ∀ binding, op'.granted = some binding → binding.job ≠ job) →
          (run later (op.apply a)).selectedBy job = false) ∧
    (∀ joint other, other ≠ joint →
      (a.revokeBinding joint).contains other = a.contains other ∧
      (a.revokeBindingSilent joint).contains other = a.contains other ∧
      (a.revokeJoint joint).contains other = a.contains other) ∧
    (a.accumulates = true → ∀ joint other, other ≠ joint →
      (∀ b, a.invalidateJointForAcquisition joint = some b →
        b.contains other = a.contains other) ∧
      ∀ realm binding policy b, binding.joint = joint → a.revoked = false →
        a.realm = some realm → a.policyMatches policy.motors policy.homing policy.control = true →
        a.selectConsumed realm binding policy .accumulate = some b →
          b.contains other = a.contains other) := by
  have htold := told_apply hgen op
  refine ⟨?_, fun joint hne => ?_, fun joint hbefore hafter => ?_, ha.lawful.bindings,
    fun job _ hlost later hlater => run_selectedBy later hlost hlater, fun joint other hne =>
      ⟨revokeBinding_contains hne, revokeBindingSilent_contains hne, revokeJoint_contains hne⟩,
    fun hacc joint other hne => ⟨fun b hb => invalidateJointForAcquisition_contains hacc hb hne,
      fun realm binding policy b hjoint hlive hrealm hpolicy hb => ?_⟩⟩
  · obtain hw | ⟨_, _, _, _, -, hsel⟩ := op.apply_cases a
    · exact hw.generation
    · exact (selectConsumed_some hsel).1 ▸ Nat.le_succ _
  · exact htold.resolve_right fun hsame => hne (hsame joint)
  · obtain hw | ⟨realm, binding, policy, scope, rfl, hsel⟩ := op.apply_cases a
    · exact absurd (hbefore.symm.trans (hw.contains joint hafter)) nofun
    · refine ⟨binding, rfl, by_contra fun hne => ?_⟩
      exact absurd (hbefore.symm.trans (selectConsumed_contains hsel (Ne.symm hne) hafter)) nofun
  · exact selectConsumed_others (ha.lawful.accumulates hacc) hacc hlive hrealm hpolicy hb
      (hjoint ▸ hne)

end ReferenceAuthority

end

/-- The binding of the bench's joint, granted to a job. -/
def Bench.binding (job : Token) : ConsumedReferenceBinding where
  job := job
  model := ⟨1, 0⟩
  joint := "elbow"
  address := Bench.motor.address
  deviceEpoch := 1
  uid := none

theorem authority_laws_bench :
    let a : ReferenceAuthority ℚ := ReferenceAuthority.run
      [.selectConsumed 0 (Bench.binding 7) Bench.policy .accumulate] {}
    a.contains "elbow" = true ∧ a.generation < a.revoke.generation :=
  ⟨by decide, (ReferenceAuthority.authority_laws
    (.apply (.selectConsumed 0 (Bench.binding 7) Bench.policy .accumulate) .default) (by decide)
    .revoke).2.1 "elbow" (by decide)⟩

/-- A job that is granted, revoked and granted again has its permission again. -/
theorem authority_job_selected_again :
    let grant : AuthorityOp ℚ := .selectConsumed 0 (Bench.binding 7) Bench.policy .replace
    let granted := ReferenceAuthority.run [grant] {}
    let revoked := ReferenceAuthority.run [grant, .revoke] {}
    let again := ReferenceAuthority.run [grant, .revoke, grant] {}
    again.generation < maxU64 ∧ granted.selectedBy 7 = true ∧ revoked.selectedBy 7 = false ∧
      again.selectedBy 7 = true := by
  decide

end Marengo

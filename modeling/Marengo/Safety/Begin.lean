import Marengo.Davout.Bench
import Marengo.Safety.Observers

/-!
# Requests for an acquisition

`begin_reference` answers a request that it has seen before from what it retains, and otherwise
admits it or refuses it. A refusal leaves the owner as it was, up to what every look at the owner
may do (`Judges`): evidence that is found lapsed is marked, and permission whose installed binding
no longer matches is revoked. The one exception is the simulated bus of a virtual owner, which may
refuse the transaction after the owner has already given up its permission.
-/

namespace Marengo

open Prog

variable {F : Type}

section
variable [World F]

/-! ## Looking at the owner -/

/-- Only permission, the marks of lapsed evidence and the phases of commits may have changed. -/
structure Observed (s s' : System F) : Prop where
  same : s' = { s with
    referenceAuthority := s'.referenceAuthority
    referenceOwner := { s.referenceOwner with invalidated := s'.referenceOwner.invalidated }
    referenceCommits := { s.referenceCommits with
      pending := s'.referenceCommits.pending
      outcomes := s'.referenceCommits.outcomes }
    consulted := s'.consulted
    time := s'.time }
  authority : s.referenceAuthority.Weakens s'.referenceAuthority
  invalidated : ∀ q r, s.referenceOwner.invalidated q = some r →
    s'.referenceOwner.invalidated q = some r
  pending : s'.referenceCommits.pending.map Entry.key = s.referenceCommits.pending.map Entry.key
  outcomes : s'.referenceCommits.outcomes.map Entry.key = s.referenceCommits.outcomes.map Entry.key
  consulted : s.consulted ≤ s'.consulted
  time : s.time ≤ s'.time

instance : Std.Refl (Observed (F := F)) :=
  ⟨fun _ => ⟨rfl, .refl, fun _ _ h => h, rfl, rfl, Nat.le_refl _, Nat.le_refl _⟩⟩

instance : IsTrans (System F) Observed := ⟨fun s t u h h' =>
  { same := by rw [h'.same, h.same]
    authority := h.authority.trans h'.authority
    invalidated := fun q r hq => h'.invalidated q r (h.invalidated q r hq)
    pending := h'.pending.trans h.pending
    outcomes := h'.outcomes.trans h.outcomes
    consulted := h.consulted.trans h'.consulted
    time := h.time.trans h'.time }⟩

/-- The coordinate epoch, the identity or the liveness of a binding's drive fails. -/
def DeviceLapsed (s : System F) (b : ConsumedReferenceBinding) : Prop :=
  match s.referenceOwner.backend with
  | none => True
  | some (.virtual _) => ∃ n ≥ s.consulted, World.virtualEpoch F n ≠ some b.deviceEpoch
  | some (.physical ..) =>
    b.uid = none ∨ s.referenceOwner.physical.uid b.address ≠ b.uid ∨
      ∃ t ≥ s.time, ∃ ownerBusy, (s.referenceOwner.physical.liveEpoch b.address t s.commWatchdog
        ownerBusy (s.silenceFrom b.joint b.address)).toOption ≠ some b.deviceEpoch

/-- The permission fails its check: for a hazard, the policy, the realm, the model or a drive. -/
inductive Unmatched (s : System F) : Prop
  | hazard (h : s.hasLatchedFault = true ∨ s.hardwareEstop = true)
  | config (h : (validateSafetyConfig s.motors s.control s.homingConfig).isOk = false)
  | realm {realm : Token} (granted : s.referenceAuthority.realm = some realm)
      (foreign : ∀ b, s.referenceOwner.backend = some b → b.realm = realm →
        b.isPhysical = false ∧ ∃ n ≥ s.consulted, World.virtualMatches F n = false)
  | model (h : s.referenceAuthority.validateConsumedModel s.installedModel = false)
  | device {b : ConsumedReferenceBinding} (mem : b ∈ s.referenceAuthority.consumed)
      (granted : b.revoked = false) (lapsed : DeviceLapsed s b)
  | policy (h : s.referenceAuthority.policyMatches s.motors s.homingConfig s.control = false)

theorem DeviceLapsed.before {s t : System F} {b : ConsumedReferenceBinding} (h : DeviceLapsed t b)
    (hst : Observed s t) : DeviceLapsed s b := by
  have hc := hst.consulted
  have ht := hst.time
  rw [hst.same] at h
  unfold DeviceLapsed at h ⊢
  cases hb : s.referenceOwner.backend with
  | none => trivial
  | some backend =>
    simp only [hb] at h ⊢
    cases backend with
    | virtual realm =>
      obtain ⟨n, hn, he⟩ := h
      exact ⟨n, hc.trans hn, he⟩
    | physical realm origin =>
      refine h.imp_right (Or.imp_right ?_)
      rintro ⟨u, hu, ownerBusy, he⟩
      exact ⟨u, ht.trans hu, ownerBusy, he⟩

/-- A check that fails before any permission was revoked fails in the earlier state too. -/
theorem Unmatched.before {s t : System F} (h : Unmatched t) (hst : Observed s t)
    (ha : t.referenceAuthority = s.referenceAuthority) : Unmatched s := by
  have hc := hst.consulted
  have same := hst.same
  rw [ha] at same
  cases h with
  | hazard h => exact .hazard (by rwa [same] at h)
  | config h => exact .config (by rwa [same] at h)
  | realm granted foreign =>
    rw [same] at granted foreign
    refine .realm granted fun b hb hr => ?_
    obtain ⟨hv, n, hn, hm⟩ := foreign b hb hr
    exact ⟨hv, n, hc.trans hn, hm⟩
  | model h => exact .model (by rwa [same] at h)
  | device mem granted lapsed => exact .device (ha ▸ mem) granted (lapsed.before hst)
  | policy h => exact .policy (by rwa [same] at h)

/-- The evidence of an acquisition, retained or committed, was found lapsed in a state between two
others. -/
def Lapsed (s s' : System F) (sequence : ℕ) (reason : ReferenceStageInvalidation) : Prop :=
  ∃ (ε : Type) (o : RetainedOutcome F) (stage : RetainedStage F) (t : System F),
    Observed s t ∧ Observed t s' ∧
    (o ∈ s.referenceOwner.outcomes ∨ ∃ e ∈ s.referenceCommits.entries, e.stage = o) ∧
    o.stage = some stage ∧ o.terminal.handle.sequence = sequence ∧
    (stagedReferenceInvalidation o stage t : Except ε _ × _).1 = .ok (some reason)

/-- Evidence is marked only if it was found lapsed. -/
structure Noted (s s' : System F) : Prop extends Observed s s' where
  evidence : ∀ sequence reason, s'.referenceOwner.invalidated sequence = some reason →
    s.referenceOwner.invalidated sequence = some reason ∨
      s.referenceOwner.invalidated sequence = none ∧ Lapsed s s' sequence reason

/-- What a look at the owner does: permission is revoked only if its check failed. -/
structure Judges (s s' : System F) : Prop extends Noted s s' where
  cause : s'.referenceAuthority = s.referenceAuthority ∨ Unmatched s

theorem Judges.refl (s : System F) : Judges s s where
  toObserved := Std.Refl.refl s
  evidence _ _ h := .inl h
  cause := .inl rfl

/-- Looks at the state that reach it from `s`. -/
abbrev Judging (s : System F) : System F → System F → Prop := Under (Judges s) Observed

/-- Only the clock and the consultations move. -/
def Looks (s s' : System F) : Prop :=
  s' = { s with consulted := s'.consulted, time := s'.time } ∧ s.consulted ≤ s'.consulted ∧
    s.time ≤ s'.time

instance : Std.Refl (Looks (F := F)) := ⟨fun _ => ⟨rfl, Nat.le_refl _, Nat.le_refl _⟩⟩

instance : IsTrans (System F) Looks := ⟨fun s t u h h' =>
  ⟨by rw [h'.1, h.1], h.2.1.trans h'.2.1, h.2.2.trans h'.2.2⟩⟩

omit [World F] in
theorem Looks.observed {s s' : System F} (h : Looks s s') : Observed s s' := by
  obtain ⟨same, hc, ht⟩ := h
  rw [same]
  exact ⟨rfl, .refl, fun _ _ h => h, rfl, rfl, hc, ht⟩

variable {s t u : System F}

/-- A change that marks no evidence. -/
theorem Noted.then (h : Noted s t) (htu : Observed t u)
    (hi : u.referenceOwner.invalidated = t.referenceOwner.invalidated) : Noted s u where
  toObserved := trans_of Observed h.toObserved htu
  evidence q r hq := by
    rcases h.evidence q r (hi ▸ hq) with h' | ⟨hn, ε, o, stage, v, hsv, hvt, h'⟩
    · exact .inl h'
    · exact .inr ⟨hn, ε, o, stage, v, hsv, trans_of Observed hvt htu, h'⟩

/-- A change that marks no evidence and takes no permission. -/
theorem Judges.quiet (h : Judges s t) (htu : Observed t u)
    (ha : u.referenceAuthority = t.referenceAuthority)
    (hi : u.referenceOwner.invalidated = t.referenceOwner.invalidated) : Judges s u :=
  ⟨h.toNoted.then htu hi, ha ▸ h.cause⟩

theorem Looks.judging (h : Looks t u) : Judging s t u := fun hs =>
  ⟨h.observed, hs.quiet h.observed (by rw [h.1]) (by rw [h.1])⟩

section
variable {T : Prop} {ε : Type}

omit [World F] in
theorem consult_eq {α : Type} (f : ℕ → α) (s : System F) : (consult f : Prog (System F) ε α) s =
    (.ok (f s.consulted), { s with consulted := s.consulted + 1 }) := rfl

instance {α : Type} (f : ℕ → α) : Keeps T Looks (consult f : Prog (System F) ε α) := by
  unfold consult
  exact .bind fun _ => .andThen (.update fun s => ⟨rfl, Nat.le_succ _, Nat.le_refl _⟩)
    fun _ => inferInstance

instance now_looks : Keeps T Looks (now : Prog (System F) ε Instant) := by
  unfold now
  exact .bind fun d => .andThen (.update fun s => ⟨rfl, Nat.le_refl _, Nat.le_add_right ..⟩)
    fun _ => inferInstance

/-- A reading of the clock. -/
theorem now_at {s : System F} : Along Looks (now : Prog (System F) ε Instant)
    (Returns fun t _ => s.time ≤ t) s :=
  ⟨(now_looks (T := True)).keeps s, Nat.le_add_right ..⟩

instance (b : ReferenceBackend) : Keeps T Looks (b.now : Prog (System F) ε Duration) := by
  unfold ReferenceBackend.now
  split <;> infer_instance

instance (b : ReferenceBackend) : Keeps T Looks (b.matches : Prog (System F) ε Bool) := by
  unfold ReferenceBackend.matches
  split <;> infer_instance

instance (address : MotorAddress) :
    Keeps T Looks (currentDeviceEpoch address : Prog (System F) ε (Option ℕ)) := by
  unfold currentDeviceEpoch
  exact .bind fun s => by split <;> infer_instance

instance stagedReferenceInvalidation_looks (o : RetainedOutcome F) (stage : RetainedStage F) :
    Keeps T Looks (stagedReferenceInvalidation o stage : Prog (System F) ε _) := by
  unfold stagedReferenceInvalidation
  refine .bind fun s => .ite inferInstance (.ite inferInstance (.ite inferInstance ?_))
  split <;> infer_instance

/-! ## Evidence and commits -/

/-- The owner retains the outcome, or has committed its evidence. -/
def Held (s : System F) (o : RetainedOutcome F) : Prop :=
  o ∈ s.referenceOwner.outcomes ∨ ∃ e ∈ s.referenceCommits.entries, e.stage = o

variable {s t : System F} {o : RetainedOutcome F}

omit [World F] in
theorem Held.before (h : Held t o) (hst : Observed s t) : Held s o := by
  rcases h with h | ⟨e, he, rfl⟩
  · exact .inl (by rwa [hst.same] at h)
  · have hkeys : t.referenceCommits.entries.map Entry.key =
        s.referenceCommits.entries.map Entry.key := by
      simp only [CommitOwner.entries, List.map_append, hst.pending, hst.outcomes]
    have hk := List.mem_map_of_mem (f := Entry.key) he
    rw [hkeys] at hk
    obtain ⟨d, hd, hde⟩ := List.mem_map.1 hk
    simp only [Entry.key, Prod.mk.injEq] at hde
    exact .inr ⟨d, hd, hde.2.2⟩

/-- The system with the evidence of an acquisition marked. -/
def System.marked (s : System F) (sequence : ℕ) (reason : ReferenceStageInvalidation) : System F :=
  { s with
    referenceOwner := { s.referenceOwner with
      invalidated := Function.update s.referenceOwner.invalidated sequence
        ((s.referenceOwner.invalidated sequence).or (some reason)) } }

omit [World F] in
theorem System.observed_marked (s : System F) (sequence : ℕ)
    (reason : ReferenceStageInvalidation) : Observed s (s.marked sequence reason) where
  same := rfl
  authority := .refl
  invalidated q r hq := by
    by_cases h : q = sequence
    · subst h
      simp [marked, hq]
    · simpa [marked, h] using hq
  pending := rfl
  outcomes := rfl
  consulted := Nat.le_refl _
  time := Nat.le_refl _

/-- Evidence that was just found lapsed is marked. -/
theorem Judges.marked {s t u : System F} {stage : RetainedStage F}
    {reason : ReferenceStageInvalidation} (h : Judges s t) (ho : Held s o)
    (hstage : o.stage = some stage)
    (hnone : t.referenceOwner.invalidated o.terminal.handle.sequence = none)
    (hrun : stagedReferenceInvalidation o stage t = ((.ok (some reason) : Except ε _), u))
    (hlook : Looks t u) : Judges s (u.marked o.terminal.handle.sequence reason) := by
  have htu : Observed t (u.marked o.terminal.handle.sequence reason) :=
    trans_of Observed hlook.observed (u.observed_marked _ _)
  have hu : u.referenceOwner.invalidated = t.referenceOwner.invalidated := by rw [hlook.1]
  refine ⟨⟨trans_of Observed h.toObserved htu, fun q r hq => ?_⟩, ?_⟩
  · by_cases hseq : q = o.terminal.handle.sequence
    · subst hseq
      obtain rfl : reason = r := by simpa [System.marked, hu, hnone] using hq
      refine .inr ⟨?_, ε, o, stage, t, h.toObserved, htu, ho, hstage, rfl, by rw [hrun]⟩
      rcases ho : s.referenceOwner.invalidated o.terminal.handle.sequence with _ | r
      · rfl
      · exact absurd ((h.invalidated _ _ ho).symm.trans hnone) (Option.some_ne_none _)
    · have hq' : t.referenceOwner.invalidated q = some r := by
        simpa [System.marked, hseq, hu] using hq
      rcases h.evidence q r hq' with h' | ⟨hn, ε, o, stage, v, hsv, hvt, h'⟩
      · exact .inl h'
      · exact .inr ⟨hn, ε, o, stage, v, hsv, trans_of Observed hvt htu, h'⟩
  · have ha : u.referenceAuthority = t.referenceAuthority := by rw [hlook.1]
    exact ha ▸ h.cause

theorem retainedStageStatus_judging (hs : Judges s t)
    (ho : Held s o) : Goes (Judging s) (retainedStageStatus o : Prog (System F) ε _) t := by
  unfold retainedStageStatus
  refine .read ?_
  split
  · exact .pure trivial
  · rename_i stage hstage
    split
    · exact .pure trivial
    · rename_i hnone
      obtain ⟨r, u, hrun, hlook⟩ :=
        (stagedReferenceInvalidation_looks (T := True) (ε := ε) o stage).run t
      cases r with
      | none => exact .ofRun hrun hlook.judging trivial
      | some reason =>
        have hmarked := hs.marked ho hstage hnone hrun hlook
        exact .ofRun hrun (fun _ => ⟨trans_of Observed hlook.observed (u.observed_marked _ _),
          hmarked⟩) trivial

variable {handle : ReferenceHandle}

theorem referenceStageStatusFor_judging (hs : Judges s t) :
    Goes (Judging s) (referenceStageStatusFor handle : Prog (System F) ε _) t := by
  unfold referenceStageStatusFor
  refine .read ?_
  split
  · exact .pure trivial
  · rename_i o ho
    exact retainedStageStatus_judging hs
      (Held.before (.inl (List.mem_of_find?_eq_some ho)) hs.toObserved)

theorem observeStagedReference_judging (hs : Judges s t) :
    Goes (Judging s) (observeStagedReference : Prog (System F) ε _) t := by
  unfold observeStagedReference
  refine .read ?_
  split
  · exact .pure trivial
  · exact referenceStageStatusFor_judging hs

omit [World F] in
theorem map_key_map {es : List (Entry F)} {f : Entry F → Entry F} (hf : ∀ e, (f e).key = e.key) :
    (es.map f).map Entry.key = es.map Entry.key := by
  rw [List.map_map]
  exact List.map_congr_left fun e _ => hf e

instance {s : System F} {handle : ReferenceCommitHandle} {phase : ReferenceCommitPhase} {T : Prop} :
    Keeps T (Judging s) (setEntryPhase handle phase : Prog (System F) ε Unit) := by
  refine .update fun t hs => ?_
  have hkey : ∀ e : Entry F,
      (if e.handle = handle then { e with phase := phase } else e).key = e.key := fun e => by
    split <;> rfl
  have hobs : Observed t { t with
      referenceCommits := { t.referenceCommits with
        pending := t.referenceCommits.pending.map
          fun e => if e.handle = handle then { e with phase := phase } else e
        outcomes := t.referenceCommits.outcomes.map
          fun e => if e.handle = handle then { e with phase := phase } else e } } :=
    ⟨rfl, .refl, fun _ _ h => h, map_key_map hkey, map_key_map hkey, Nat.le_refl _, Nat.le_refl _⟩
  exact ⟨hobs, hs.quiet hobs rfl rfl⟩

theorem observeReferenceCommits_judging (hs : Judges s t) :
    Goes (Judging s) (observeReferenceCommits : Prog (System F) ε Unit) t := by
  unfold observeReferenceCommits
  refine .read (.weaken (Along.each (I := Judges s) hs fun e he u _ hu => ?_) fun _ _ _ _ => trivial)
  have hheld : Held s e.stage := .before (.inr ⟨e, he, rfl⟩) hs.toObserved
  refine .when (fun _ => ?_) fun _ => hu
  refine .next ((retainedStageStatus_judging hu hheld).under hu) fun status v _ hv => ?_
  split
  · exact Along.total.under hv
  · exact .pure hv
  · exact .pure hv

/-! ## Permission -/

/-- A check that fails now had failed from the start, or permission was revoked since. -/
theorem Judges.unmatched (h : Judges s t) (ht : Unmatched t) : Unmatched s :=
  h.cause.elim (fun ha => ht.before h.toObserved ha) id

omit [World F] in
/-- A change of the authority alone that gives nobody permission. -/
theorem System.observed_authority (s : System F) {a : ReferenceAuthority F}
    (h : s.referenceAuthority.Weakens a) : Observed s { s with referenceAuthority := a } :=
  ⟨rfl, h, fun _ _ h => h, rfl, rfl, Nat.le_refl _, Nat.le_refl _⟩

/-- Permission is revoked after its check has failed. -/
theorem Judges.revoked {a : ReferenceAuthority F} (h : Judges s t)
    (hu : Unmatched s) (hw : t.referenceAuthority.Weakens a) :
    Observed t { t with referenceAuthority := a } ∧
      Judges s { t with referenceAuthority := a } :=
  ⟨t.observed_authority hw, h.toNoted.then (t.observed_authority hw) rfl, .inr hu⟩

theorem updateAuthority_judging {f : ReferenceAuthority F → ReferenceAuthority F}
    (hs : Judges s t) (hu : Unmatched s) (hf : ∀ a : ReferenceAuthority F, a.Weakens (f a)) :
    Goes (Judging s) (updateAuthority f : Prog (System F) ε Unit) t :=
  .set (fun _ => hs.revoked hu (hf _)) trivial

theorem revokeReference_judging (hs : Judges s t) (hu : Unmatched s) :
    Goes (Judging s) (revokeReference : Prog (System F) ε Unit) t :=
  updateAuthority_judging hs hu fun _ => ReferenceAuthority.weakens_revoke

/-- The identity of a binding's drive, which only a physical owner knows. -/
def Supervisor.identityHolds (self : Supervisor F) (b : ConsumedReferenceBinding) : Bool :=
  !self.referenceOwner.isPhysical ||
    (b.uid.isSome && self.referenceOwner.physical.uid b.address = b.uid)

/-- An epoch or an identity that does not hold is the drive's lapse. -/
theorem liveDeviceEpoch_lapsed {s : System F} (b : ConsumedReferenceBinding) (ownerBusy : Bool) :
    Along Looks (liveDeviceEpoch b.address s.commWatchdog ownerBusy
        (s.silenceFrom b.joint b.address) : Prog (System F) ε _)
      (Returns fun current _ =>
        ¬(current.toOption = some b.deviceEpoch ∧ s.identityHolds b = true) → DeviceLapsed s b)
      s := by
  unfold liveDeviceEpoch DeviceLapsed Supervisor.identityHolds
  refine .read ?_
  cases hb : s.referenceOwner.backend with
  | none => exact .pure fun _ => trivial
  | some backend =>
    cases backend with
    | virtual realm =>
      refine .ofRun (consult_eq _ s) ⟨rfl, Nat.le_succ _, Nat.le_refl _⟩
        fun hfail => ⟨s.consulted, le_refl _, fun he => ?_⟩
      refine hfail ⟨?_, by simp [ReferenceOwner.isPhysical, hb, ReferenceBackend.isPhysical]⟩
      simp [he, Except.toOption]
    | physical realm origin =>
      refine .next now_at fun t _ _ ht => .pure fun hfail => ?_
      by_cases huid : b.uid = none
      · exact .inl huid
      by_cases heq : s.referenceOwner.physical.uid b.address = b.uid
      · refine .inr (.inr ⟨t, ht, ownerBusy, fun he => hfail ⟨he, ?_⟩⟩)
        simp [heq, Option.isSome_iff_ne_none.2 huid]
      · exact .inr (.inl heq)

/-- Every binding that fails is a reason for what is revoked. -/
theorem checkBindings_judging {bindings : List ConsumedReferenceBinding} (ownerBusy : Bool)
    (hs : Judges s t) (hb : (∀ b ∈ bindings, b ∈ s.referenceAuthority.consumed) ∨ Unmatched s) :
    Goes (Judging s) (checkBindings .judge s.referenceOwner.isPhysical s.commWatchdog ownerBusy
      bindings : Prog (System F) ε Bool) t := by
  induction bindings generalizing t with
  | nil => exact .pure trivial
  | cons b rest ih =>
    have hrest := hb.imp_left fun h c hc => h c (List.mem_cons_of_mem b hc)
    unfold checkBindings
    refine .ite (fun _ => ih hs hrest) fun hgranted => .read ?_
    have hphysical : s.referenceOwner.isPhysical = t.referenceOwner.isPhysical := by
      rw [hs.same]
      rfl
    have hlapse := liveDeviceEpoch_lapsed (ε := ε) (s := t) b ownerBusy
    rw [show t.commWatchdog = s.commWatchdog by rw [hs.same]; rfl, Supervisor.identityHolds,
      ← hphysical] at hlapse
    refine .nextVia (fun _ _ h => h.judging) hlapse fun current u hlook hlapsed => ?_
    have hu : Judges s u := (hlook.judging hs).2
    refine .ite (fun _ => ih hu hrest) fun hfail => ?_
    have hunmatched : Unmatched s := hb.elim
      (fun h => .device (h b List.mem_cons_self) (by simpa using hgranted)
        ((hlapsed hfail).before hs.toObserved)) id
    refine .ite (fun _ => ?_) fun _ => ?_
    · refine .next (Goes.under ?_ hu) fun _ v _ hv => ih hv hrest
      split
      · refine updateAuthority_judging hu hunmatched fun a => ?_
        split
        · exact ReferenceAuthority.weakens_revokeBindingSilent _
        · exact ReferenceAuthority.weakens_revokeBinding _
      all_goals exact updateAuthority_judging hu hunmatched fun a =>
        ReferenceAuthority.weakens_revokeBinding _
    · exact .next (revokeReference_judging hu hunmatched) fun _ _ _ _ => .pure trivial

/-- Whether the realm is the backend's. -/
theorem realmMatches_judges {s : System F} {realm : Token}
    (hrealm : s.referenceAuthority.realm = some realm) :
    Along Looks (realmMatches realm : Prog (System F) ε Bool)
      (Returns fun m _ => m = false → Unmatched s) s := by
  unfold realmMatches
  refine .read ?_
  cases hb : s.referenceOwner.backend with
  | none => exact .pure fun _ => .realm hrealm fun b hb' => by rw [hb] at hb'; cases hb'
  | some backend =>
    cases backend with
    | virtual r =>
      refine .ofRun (consult_eq _ s) ⟨rfl, Nat.le_succ _, Nat.le_refl _⟩ fun hfail =>
        .realm hrealm fun b hb' hr => ?_
      cases hb.symm.trans hb'
      refine ⟨rfl, s.consulted, le_refl _, ?_⟩
      simpa [ReferenceBackend.realm, show r = realm from hr] using hfail
    | physical r origin =>
      refine .pure fun hfail => .realm hrealm fun b hb' hr => ?_
      cases hb.symm.trans hb'
      simp [ReferenceBackend.realm, show r = realm from hr] at hfail

/-- The check of the policy revokes only what fails it. -/
theorem validateBinding_judging (hs : Judges s t) : Judging s t { t with referenceAuthority :=
      (t.referenceAuthority.validateBinding t.motors t.homingConfig t.control).2 } := by
  intro _
  unfold ReferenceAuthority.validateBinding
  split
  · exact ⟨Std.Refl.refl t, hs⟩
  · split
    · exact ⟨Std.Refl.refl t, hs⟩
    · rename_i hpolicy
      have hu : Unmatched s := hs.unmatched (.policy (by simpa using hpolicy))
      exact hs.revoked hu ReferenceAuthority.weakens_revoke

theorem referenceBindingValid_judging (hs : Judges s t) :
    Goes (Judging s) (referenceBindingValid : Prog (System F) ε Bool) t := by
  unfold referenceBindingValid referenceBindingValidWith
  refine .next ((observeStagedReference_judging hs).under hs) fun _ t _ hs => ?_
  refine .next ((observeReferenceCommits_judging hs).under hs) fun _ t _ hs => .read ?_
  refine .ite (fun hhazard => ?_) fun _ => ?_
  · have hu : Unmatched s := hs.unmatched <| by
      rcases hhazard with h | h | h
      · exact .hazard (.inl h)
      · exact .hazard (.inr h)
      · exact .config h
    exact .next (revokeReference_judging hs hu) fun _ _ _ _ => .pure trivial
  · split
    · exact .pure trivial
    · rename_i realm hrealm
      refine .nextVia (fun _ _ h => h.judging) (realmMatches_judges hrealm)
        fun m u hlook hm => ?_
      have hu : Judges s u := (hlook.judging hs).2
      refine .ite (fun hforeign => ?_) fun _ => .ite (fun hmodel => ?_) fun _ => ?_
      · exact .next (revokeReference_judging hu (hs.unmatched (hm hforeign)))
          fun _ _ _ _ => .pure trivial
      · exact .next (revokeReference_judging hu (hs.unmatched (.model hmodel)))
          fun _ _ _ _ => .pure trivial
      · have hconsumed : (∀ b ∈ t.referenceAuthority.consumed,
            b ∈ s.referenceAuthority.consumed) ∨ Unmatched s :=
          hs.cause.imp_left fun ha b hb => by rwa [ha] at hb
        have hphysical : t.referenceOwner.isPhysical = s.referenceOwner.isPhysical := by
          rw [hs.same]
          rfl
        have hwindow : t.commWatchdog = s.commWatchdog := by
          rw [hs.same]
          rfl
        rw [hphysical, hwindow]
        refine .next ((checkBindings_judging _ hu hconsumed).under hu) fun held v _ hv => ?_
        refine .ite (fun _ => .pure trivial) fun _ => .read ?_
        exact .update (validateBinding_judging hv) (.pure trivial)

theorem referenceRequestPreflight_judging (hs : Judges s t) (joint : String)
    (signTest : Option Bool) :
    Along (Judging s) (referenceRequestPreflight joint signTest : Prog (System F) _ Unit)
      (fun _ s' => Judges s s') t := by
  unfold referenceRequestPreflight
  refine .next ((referenceBindingValid_judging hs).under hs) fun _ t _ hs => .read ?_
  refine .lift (fun _ _ => ?_) fun _ _ => hs
  refine .ensure (fun _ => ?_) fun _ => hs
  refine .ensure (fun _ => ?_) fun _ => hs
  refine .lift (fun _ _ => ?_) fun _ _ => hs
  split
  · exact .fail hs
  · exact .ensure (fun _ => .guard (fun _ => hs) fun _ => hs) fun _ => hs

/-! ## Requests -/

/-- The request and the handle that the owner retains under a sequence number: an outcome's, or
those of the live acquisition. -/
def Supervisor.retained (self : Supervisor F) (sequence : ℕ) :
    Option (ReferenceRequest × ReferenceHandle) :=
  ((self.referenceOwner.outcomes.find? (·.request.stamp.sequence = sequence)).map
    fun o => (o.request, o.terminal.handle)).or
  ((self.referenceOwner.reservation.filter (·.request.stamp.sequence = sequence)).map
    fun r => (r.request, r.handle))

/-- A request under a retained sequence number is answered from what is retained. -/
theorem beginReference_retained {s : System F} {request old : ReferenceRequest}
    (hbackend : s.referenceOwner.backend ≠ none)
    (howner : request.stamp.owner = s.referenceOwner.identity)
    (h : s.retained request.stamp.sequence = some (old, handle)) :
    beginReference request s =
      (if old = request then .ok handle else .error .conflictingRetry, s) := by
  have hretried : ∀ old' handle', s.retained request.stamp.sequence = some (old', handle') →
      Along Anyhow (retried old' request handle' : Prog (System F) _ _) (fun r s' =>
        r = (if old = request then .ok handle else .error .conflictingRetry) ∧ s' = s) s := by
    intro old' handle' h'
    cases h.symm.trans h'
    exact .ite (fun heq => .pure ⟨by rw [if_pos heq], rfl⟩) fun hne => .fail ⟨by rw [if_neg hne], rfl⟩
  have hanswer : Along Anyhow (beginReference request : Prog (System F) _ _) (fun r s' =>
      r = (if old = request then .ok handle else .error .conflictingRetry) ∧ s' = s) s := by
    unfold beginReference
    refine .read ?_
    split
    · exact absurd ‹_› hbackend
    refine .ensure (fun _ => ?_) fun hforeign => absurd howner hforeign
    split
    · rename_i o ho
      exact hretried _ _ (by simp [Supervisor.retained, ho])
    · rename_i hnone
      split
      · rename_i r hr
        split
        · rename_i hseq
          exact hretried _ _ (by simp [Supervisor.retained, hnone, hr, hseq])
        · rename_i hseq
          simp [Supervisor.retained, hnone, hr, hseq] at h
      · rename_i hr
        simp [Supervisor.retained, hnone, hr] at h
  exact Prod.ext hanswer.2.1 hanswer.2.2

/-- **A refusal leaves the owner as it was**, but for what a look at it may do, and but for the
permission that a virtual owner has given up when its bus refuses the transaction. -/
structure Refused (s : System F) (e : ReferenceError) (s' : System F) : Prop extends Noted s s' where
  cause : s'.referenceAuthority = s.referenceAuthority ∨ Unmatched s ∨
    ∃ realm error, s.referenceOwner.backend = some (.virtual realm) ∧
      e = .admission (.bus (.write error))

theorem Judges.refused {s s' : System F} (h : Judges s s') (e : ReferenceError) : Refused s e s' :=
  ⟨h.toNoted, h.cause.imp_right .inl⟩

structure SameOwner (s s' : System F) : Prop where
  identity : s'.referenceOwner.identity = s.referenceOwner.identity
  backend : s'.referenceOwner.backend = s.referenceOwner.backend
  outcomes : s'.referenceOwner.outcomes = s.referenceOwner.outcomes

instance : Std.Refl (SameOwner (F := F)) := ⟨fun _ => ⟨rfl, rfl, rfl⟩⟩

instance : IsTrans (System F) SameOwner := ⟨fun _ _ _ h h' =>
  ⟨h'.identity.trans h.identity, h'.backend.trans h.backend, h'.outcomes.trans h.outcomes⟩⟩

omit [World F] in
theorem Observed.sameOwner {s s' : System F} (h : Observed s s') : SameOwner s s' := by
  rw [h.same]
  exact ⟨rfl, rfl, rfl⟩

theorem Runs.sameOwner {s s' : System F} (h : Runs Observing s s') : SameOwner s s' :=
  h.along fun _ _ _ hl hstep => by
    cases hstep with
    | tick h =>
      exact ⟨by rw [h.supervisor], by rw [h.supervisor], by rw [h.supervisor]⟩
    | observe h => exact ⟨h.owner.identity, h.owner.backend, h.owner.outcomes⟩
    | _ => exact hl.elim

/-- A program that only observes leaves the owner the same one. -/
theorem sameOwner_of_runs {α : Type} {x : Prog (System F) ε α} [h : Keeps True (Runs Observing) x]
    (hst : SameOwner s t) : Along Anyhow x (Returns fun _ u => SameOwner s u) t :=
  (Along.goes h).via (fun _ _ _ => trivial) fun _ _ hr _ =>
    trans_of SameOwner hst (Runs.sameOwner hr)

/-- The owner has a live acquisition for the request. -/
structure Reserved (s : System F) (request : ReferenceRequest) (handle : ReferenceHandle)
    (s' : System F) : Prop extends SameOwner s s' where
  live : ∃ r, s'.referenceOwner.reservation = some r ∧ r.request = request ∧ r.handle = handle

variable {request : ReferenceRequest}

variable {backend : ReferenceBackend}

omit [World F] in
/-- The permission that a reservation gives up. -/
theorem invalidated_weakens {s : System F} {joint : String}
    {authority : ReferenceAuthority F}
    (h : (if backend.isPhysical then s.referenceAuthority.invalidateJointForAcquisition joint
      else s.referenceAuthority.invalidateForAcquisition) = some authority) :
    s.referenceAuthority.Weakens authority := by
  split at h
  · exact ReferenceAuthority.weakens_invalidateJointForAcquisition h
  · exact ReferenceAuthority.weakens_invalidateForAcquisition h

theorem reserve_along {address : MotorAddress} {policy : String} {typedPolicy : TypedPolicy F}
    {clock end_ : Duration} (hs : Judges s t) (hbackend : s.referenceOwner.backend = some backend) :
    Along Anyhow (reserve backend request address policy typedPolicy clock end_)
      (Ends (Reserved s request) fun e s' => Refused s e s') t := by
  unfold reserve
  refine .read ?_
  simp only
  split
  · exact .fail (hs.refused _)
  rename_i authority hauthority
  -- permission is given up here; what follows fails only on the bus of a virtual owner
  let t' : System F := { t with referenceAuthority := authority }
  have hgiven : Noted s t' :=
    hs.toNoted.then (t.observed_authority (invalidated_weakens hauthority)) rfl
  have hown : SameOwner s t' := hgiven.sameOwner
  refine .update trivial (.bind (Q := Ends (fun _ u => SameOwner s u) fun e u => Refused s e u)
    (.ite (fun _ => ?_) fun hvirtual => ?_) (fun _ u _ hu => ?_) fun _ _ _ h => h)
  · exact (sameOwner_of_runs hown).ofReturns fun _ _ _ h => h
  · obtain ⟨realm, rfl⟩ : ∃ realm, backend = .virtual realm := by
      cases backend with
      | virtual realm => exact ⟨realm, rfl⟩
      | physical realm origin => exact absurd rfl hvirtual
    have hlook : Looks t' { t' with consulted := t'.consulted + 1 } :=
      ⟨rfl, Nat.le_succ _, Nat.le_refl _⟩
    refine .ofRun (consult_eq _ t') trivial ?_
    cases World.sendError F t'.consulted with
    | none => exact ⟨hown.identity, hown.backend, hown.outcomes⟩
    | some error =>
      exact ⟨hgiven.then hlook.observed rfl, .inr (.inr ⟨realm, error, hbackend, rfl⟩)⟩
  · refine .next (sameOwner_of_runs hu) fun _ v _ hv => .update trivial (.pure ?_)
    exact ⟨⟨hv.identity, hv.backend, hv.outcomes⟩, _, rfl, rfl, rfl⟩

/-- Admission ends with a live acquisition, or refuses. -/
theorem admitReference_along {s : System F} (hbackend : s.referenceOwner.backend = some backend) :
    Along Anyhow (admitReference backend request)
      (Ends (Reserved s request) fun e s' => Refused s e s') s := by
  have hs := Judges.refl s
  unfold admitReference
  refine .nextVia (fun _ _ _ => trivial) ((observeReferenceCommits_judging hs).under hs)
    fun _ t _ hs => .read ?_
  refine .ensure (fun _ => ?_) fun _ => hs.refused _
  refine .ensure (fun _ => ?_) fun _ => hs.refused _
  refine .nextVia (fun _ _ _ => trivial) ((referenceBindingValid_judging hs).under hs)
    fun _ t _ hs => .read ?_
  refine .ensure (fun _ => ?_) fun _ => hs.refused _
  refine .lift (fun policy _ => ?_) fun _ _ => hs.refused _
  refine .ensure (fun _ => ?_) fun _ => hs.refused _
  refine .stepVia (S := Looks) (fun _ _ _ => trivial) fun m t hlook => ?_
  have hs := (hlook.judging hs).2
  refine .ensure (fun _ => ?_) fun _ => hs.refused _
  refine .ensure (fun _ => ?_) fun _ => hs.refused _
  have hpreflight : Along (Judging s) (mapError .admission
      (referenceRequestPreflight request.joint (some request.signVerified)) :
        Prog (System F) ReferenceError Unit) (fun _ s' => Judges s s') t :=
    .mapError (referenceRequestPreflight_judging hs _ _)
  refine .bindVia (fun _ _ _ => trivial) hpreflight (fun _ t _ hs => .read ?_)
    fun _ _ _ hs => hs.refused _
  refine .ensure (fun _ => ?_) fun _ => hs.refused _
  split
  · exact .fail (hs.refused _)
  refine .lift (fun timeout _ => ?_) fun _ _ => hs.refused _
  refine .stepVia (S := Looks) (fun _ _ _ => trivial) fun clock t hlook => ?_
  have hs := (hlook.judging hs).2
  refine .ensure (fun _ => ?_) fun _ => hs.refused _
  split
  · exact .fail (hs.refused _)
  simp only
  refine .lift (fun _ _ => ?_) fun _ _ => hs.refused _
  exact reserve_along hs hbackend

/-- The request is answered from what is retained, made live, or refused. -/
theorem beginReference_along {s : System F} :
    Along Anyhow (beginReference request)
      (Ends (fun h s' => s'.retained request.stamp.sequence = some (request, h) ∧
          s'.referenceOwner.backend ≠ none ∧ request.stamp.owner = s'.referenceOwner.identity)
        fun e s' => Refused s e s') s := by
  have hs := Judges.refl s
  unfold beginReference
  refine .read ?_
  split
  · exact .fail (hs.refused _)
  rename_i backend hbackend
  refine .ensure (fun howner => ?_) fun _ => hs.refused _
  have hsome : s.referenceOwner.backend ≠ none := by rw [hbackend]; exact Option.some_ne_none _
  split
  · rename_i o ho
    refine .ite (fun heq => .pure ⟨?_, hsome, howner⟩) fun _ => .fail (hs.refused _)
    simp [Supervisor.retained, ho, heq]
  · rename_i hnone
    split
    · rename_i r hr
      refine .ite (fun _ => .ite (fun heq => .pure ⟨?_, hsome, howner⟩)
        fun _ => .fail (hs.refused _)) fun _ => .fail (hs.refused _)
      simp [Supervisor.retained, hnone, hr, heq]
    · refine (admitReference_along hbackend).mono fun r s' _ h => ?_
      cases r with
      | error e => exact h
      | ok handle =>
        obtain ⟨r, hr, rfl, rfl⟩ := h.live
        refine ⟨?_, by rwa [h.backend], by rw [h.identity, howner]⟩
        simp [Supervisor.retained, h.outcomes, hnone, hr]

end

end

/-! ## Two owners of the bench -/

namespace Bench

/-- A world whose simulated bus refuses every transaction. -/
@[reducible] def refusing : World ℚ :=
  { world with sendError := fun _ => some (.send "invalid reference context" false) }

/-- A virtual owner with its initial permission. -/
def virtualOwner : System ℚ :=
  @construct ℚ world (installation world (by decide) (by decide))
    (@OwnerKind.simulated ℚ world (some {"elbow"})) 0

def refusedOwner : System ℚ :=
  @construct ℚ refusing (installation refusing (by decide) (by decide))
    (@OwnerKind.simulated ℚ refusing (some {"elbow"})) 0

def request : ReferenceRequest where
  stamp := ⟨0, 1, 0, 1, ⟨1, 3⟩, "policy"⟩
  joint := "elbow"
  confirmed := true
  signVerified := true

end Bench

end Marengo

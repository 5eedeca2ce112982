import Marengo.Safety.Frames

/-!
# Programs that only observe

Reading the clock, judging permission, evidence and commits, and every snapshot: these programs
change nothing a session, a fault, a pose or a call depends on, and they can only take permission
and evidence away.
-/

namespace Marengo

open Prog

variable {F : Type}

/-! ## Commits that stay -/

/-- A commit of the handle `handle` has the evidence `stage`. -/
def CommitOwner.Has (c : CommitOwner F) (handle : ReferenceCommitHandle)
    (stage : RetainedOutcome F) : Prop :=
  ∃ d ∈ c.entries, d.handle = handle ∧ d.stage = stage

theorem CommitOwner.Keeps.keys {invalidated : ℕ → Option ReferenceStageInvalidation}
    {c c' : CommitOwner F} (h : c.Keeps invalidated c') :
    c'.entries.map Entry.key = c.entries.map Entry.key := by
  simp only [CommitOwner.entries, List.map_append, h.pending, h.outcomes]

theorem CommitOwner.Keeps.has {invalidated : ℕ → Option ReferenceStageInvalidation}
    {c c' : CommitOwner F} (h : c.Keeps invalidated c') {handle : ReferenceCommitHandle}
    {stage : RetainedOutcome F} (hc : c.Has handle stage) : c'.Has handle stage := by
  obtain ⟨d, hd, rfl, rfl⟩ := hc
  have hk : d.key ∈ c'.entries.map Entry.key := by
    rw [h.keys]
    exact List.mem_map_of_mem hd
  obtain ⟨d', hd', he⟩ := List.mem_map.mp hk
  simp only [Entry.key, Prod.mk.injEq] at he
  exact ⟨d', hd', he.1, he.2.2⟩

/-- Only observations. -/
def Observing : Effect → Prop
  | .tick | .observe => True
  | _ => False

instance : Allows Observing .tick := ⟨trivial⟩
instance : Allows Observing .observe := ⟨trivial⟩

section
variable [World F] {T : Prop} {ε : Type} {E : Effect → Prop}

/-! ## Clock, tokens and pacers -/

section
variable [Allows E .tick]

instance {α : Type} (f : ℕ → α) : Keeps T (Runs E) (consult f : Prog (System F) ε α) := by
  unfold consult
  exact .bind fun _ => .andThen (.ofStep .tick fun s => .tick {}) fun _ => inferInstance

instance now_runs : Keeps T (Runs E) (now : Prog (System F) ε Instant) := by
  unfold now
  exact .bind fun d => .andThen (.ofStep .tick fun s => .tick { time := Nat.le_add_right .. })
    fun _ => inferInstance

/-- A reading of the clock is not earlier than the last one, and changes nothing else. -/
theorem now_along {s : System F} :
    Along (Runs E) (now : Prog (System F) ε Instant) (Returns fun t s' =>
      s' = { s with consulted := s.consulted + 1, time := t } ∧ s.time ≤ t) s :=
  ⟨(now_runs (T := True)).keeps s, rfl, Nat.le_add_right ..⟩

instance (d : Duration) : Keeps T (Runs E) (sleep d : Prog (System F) ε Unit) :=
  .ofStep .tick fun s => .tick { time := Nat.le_add_right .. }

/-- A received report is on record. -/
theorem receive_along [Allows E .hear] {s : System F} :
    Along (Runs E) (receive : Prog (System F) ε (FeedbackReport F))
      (Returns fun report s' => ∃ h, s'.heard.getLast? = some h ∧ h.report = report) s := by
  refine .next .total fun report s₁ _ _ => .update (.single (l := .hear) (.hear report)) (.pure ?_)
  exact ⟨_, List.getLast?_concat, rfl⟩

instance [Allows E .hear] : Keeps T (Runs E) (receive : Prog (System F) ε (FeedbackReport F)) :=
  .ofAlong fun _ => receive_along

instance : Keeps T (Runs E) (freshToken : Prog (System F) ε Token) := by
  unfold freshToken
  exact .bind fun _ => .andThen
    (.ofStep .tick fun s => .tick { nextToken := Nat.le_succ _ }) fun _ => inferInstance

variable (interface : String) (p : BurstPacer)

instance : Keeps T (Runs E) (p.recordGroup interface : Prog (System F) ε BurstPacer) := by
  unfold BurstPacer.recordGroup
  infer_instance

instance : Keeps T (Runs E) (p.beginGroup interface : Prog (System F) ε BurstPacer) := by
  unfold BurstPacer.beginGroup
  exact .andThen (by split <;> infer_instance) fun _ => inferInstance

instance (p : Option BurstPacer) :
    Keeps T (Runs E) (beginGroupOf p interface : Prog (System F) ε (Option BurstPacer)) := by
  unfold beginGroupOf
  split <;> infer_instance

instance (f : BurstPacer → Prog (System F) ε BurstPacer)
    [∀ p, Keeps T (Runs E) (f p)] : Keeps T (Runs E) (updateSessionPacer f) := by
  unfold updateSessionPacer
  exact .bind fun _ => .bind fun _ => .ofStep .tick fun s => .tick {}

instance (e : Option SendError) : Keeps False (Runs E) (failOn e : Prog (System F) _ Unit) := by
  unfold failOn
  split <;> infer_instance

end

/-! ## Authority and physical devices -/

section
variable [Allows E .tick] [Allows E .observe]

omit [Allows E .tick] in
/-- A change of the authority that gives nobody permission. -/
theorem updateAuthority_runs {f : ReferenceAuthority F → ReferenceAuthority F}
    (h : ∀ a : ReferenceAuthority F, a.Weakens (f a)) : Keeps T (Runs E) (updateAuthority f : Prog (System F) ε Unit) :=
  .ofStep .observe fun s => .observe { authority := h _ }

instance : Keeps T (Runs E) (revokeReference : Prog (System F) ε Unit) :=
  updateAuthority_runs fun _ => ReferenceAuthority.weakens_revoke

instance (f : PhysicalDevices F → PhysicalDevices F) :
    Keeps T (Runs E) (updatePhysical f : Prog (System F) ε Unit) :=
  .ofStep .observe fun s => .observe { owner := {} }

instance : Keeps T (Runs E) (markOwnerWork : Prog (System F) ε Unit) := by
  unfold markOwnerWork
  infer_instance

variable (b : ReferenceBackend) (address : MotorAddress) (window : Duration) (o : RetainedOutcome F)
  (reason : ReferenceStageInvalidation) (liveness : Liveness) (joint : String)

instance : Keeps T (Runs E) (b.now : Prog (System F) ε Duration) := by
  unfold ReferenceBackend.now
  split <;> infer_instance

instance : Keeps T (Runs E) (b.matches : Prog (System F) ε Bool) := by
  unfold ReferenceBackend.matches
  split <;> infer_instance

instance (realm : Token) : Keeps T (Runs E) (realmMatches realm : Prog (System F) ε Bool) := by
  unfold realmMatches
  exact .bind fun s => by split <;> infer_instance

instance : Keeps T (Runs E) (currentDeviceEpoch address : Prog (System F) ε (Option ℕ)) := by
  unfold currentDeviceEpoch
  exact .bind fun s => by split <;> infer_instance

instance (busy : Bool) (from_ : SilenceFrom) :
    Keeps T (Runs E) (liveDeviceEpoch address window busy from_ : Prog (System F) ε _) := by
  unfold liveDeviceEpoch
  exact .bind fun s => by split <;> infer_instance

/-! ## Evidence -/

instance (stage : RetainedStage F) :
    Keeps T (Runs E) (stagedReferenceInvalidation o stage : Prog (System F) ε _) := by
  unfold stagedReferenceInvalidation
  refine .bind fun s => .ite inferInstance (.ite inferInstance (.ite inferInstance ?_))
  split <;> infer_instance

instance retire_runs (q : ℕ) : Keeps T (Runs E) (retire q reason : Prog (System F) ε Unit) :=
  .ofStep .observe fun s => .observe { owner := {
    invalidated := fun q' r h => by
      by_cases hq : q' = q
      · subst hq
        simp [h]
      · simpa [hq] using h } }

instance : Keeps T (Runs E) (o.retire reason : Prog (System F) ε Unit) := by
  unfold RetainedOutcome.retire
  infer_instance

instance : Keeps T (Runs E) (retainedStageStatus o : Prog (System F) ε _) := by
  unfold retainedStageStatus
  refine .bind fun s => ?_
  split
  · infer_instance
  · split
    · infer_instance
    · exact .bind fun r => by split <;> infer_instance

instance (handle : ReferenceHandle) :
    Keeps T (Runs E) (referenceStageStatusFor handle : Prog (System F) ε _) := by
  unfold referenceStageStatusFor
  exact .bind fun s => by split <;> infer_instance

instance : Keeps T (Runs E) (observeStagedReference : Prog (System F) ε _) := by
  unfold observeStagedReference
  exact .bind fun s => by split <;> infer_instance

instance : Keeps T (Runs E) (invalidateRetainedStages reason : Prog (System F) ε Unit) := by
  unfold invalidateRetainedStages
  infer_instance

/-! ## Commits -/

/-- Observations are allowed wherever the two effects are. -/
theorem Runs.ofObserving {E : Effect → Prop} [ht : Allows E .tick] [ho : Allows E .observe]
    {s s' : System F} (h : Runs Observing s s') : Runs E s s' :=
  h.mono fun l hl => by
    cases l with
    | tick => exact ht.allowed
    | observe => exact ho.allowed
    | _ => exact hl.elim

variable {handle : ReferenceCommitHandle}

theorem Runs.has {stage : RetainedOutcome F} {s s' : System F} (h : Runs Observing s s') :
    s.referenceCommits.Has handle stage → s'.referenceCommits.Has handle stage :=
  h.invariant (P := fun s => s.referenceCommits.Has handle stage) fun _ _ _ hl hstep hs => by
    cases hstep with
    | tick ht => exact ht.supervisor ▸ hs
    | observe ho => exact ho.commits.has hs
    | _ => exact hl.elim

variable {s : System F} {o : RetainedOutcome F}

theorem setEntryPhase_run
    (hc : s.referenceCommits.Has handle o) (ho : o.Retired s.referenceOwner.invalidated) (phase : ReferenceCommitPhase) :
    Runs Observing s (after (setEntryPhase handle phase : Prog (System F) ε Unit) s) := by
  obtain ⟨d, hd, rfl, rfl⟩ := hc
  let set := fun (e : Entry F) => if e.handle = d.handle then { e with phase := phase } else e
  have hset : ∀ e, (set e).key = e.key := fun e => by
    simp only [set]
    split <;> rfl
  have hentries : (after (setEntryPhase d.handle phase : Prog (System F) ε Unit)
      s).referenceCommits.entries = s.referenceCommits.entries.map set := List.map_append.symm
  have hkeys : ∀ es : List (Entry F), (es.map set).map Entry.key = es.map Entry.key := fun es => by
    rw [List.map_map]
    exact List.map_congr_left fun e _ => hset e
  refine .single (.observe { commits := {
    pending := hkeys _
    outcomes := hkeys _
    phases := ?_ } })
  · rw [hentries]
    intro e' he'
    obtain ⟨e, he, rfl⟩ := List.mem_map.mp he'
    by_cases hh : e.handle = d.handle
    · exact .inr ⟨d, hd, by simp [set, hh], ho⟩
    · exact .inl ⟨e, he, by simp [set, hh], by simp [set, hh]⟩

/-- The evidence that a status finds invalidated is retired. -/
theorem retainedStageStatus_retired :
    Along (Runs Observing) (retainedStageStatus o : Prog (System F) ε _)
      (Returns fun status s' => ∀ reason, status = .invalidated reason →
        o.Retired s'.referenceOwner.invalidated) s := by
  unfold retainedStageStatus
  refine .read ?_
  split
  · exact .pure fun _ h => nomatch h
  · split
    · rename_i reason h
      exact .pure fun _ _ => .inr (by simp [h])
    · refine .step fun r s' _ => ?_
      split
      · exact .update ((retire_runs (T := True) (ε := ε) _ _).keeps _)
          (.pure fun _ _ => .inr (by simp))
      · exact .pure fun _ h => nomatch h

/-- Every listed commit is among those of the owner, with its evidence. -/
def Listed (es : List (Entry F)) (s : System F) : Prop :=
  ∀ e ∈ es, s.referenceCommits.Has e.handle e.stage

omit [World F] in
theorem Listed.self (s : System F) : Listed s.referenceCommits.entries s :=
  fun e he => ⟨e, he, rfl, rfl⟩

/-- A loop over commits, each step of which observes as long as its own commit is there. -/
theorem eachCommit_observes {f : Entry F → Prog (System F) ε Unit} {es : List (Entry F)}
    (hs : Listed es s)
    (hf : ∀ e s, s.referenceCommits.Has e.handle e.stage → Goes (Runs Observing) (f e) s) :
    Goes (Runs Observing) (each es f) s :=
  Along.each (I := fun _ => True) trivial fun e he s' hr _ => hf e s' (Runs.has hr (hs e he))

theorem setEntryPhase_observes {phase : ReferenceCommitPhase} (hc : s.referenceCommits.Has handle o)
    (ho : o.Retired s.referenceOwner.invalidated) :
    Goes (Runs Observing) (setEntryPhase handle phase : Prog (System F) ε Unit) s :=
  ⟨setEntryPhase_run hc ho phase, trivial⟩

theorem observeReferenceCommits_observes :
    Keeps T (Runs Observing) (observeReferenceCommits : Prog (System F) ε Unit) := by
  refine .ofRead fun s => eachCommit_observes (.self s) fun e s hs => .when (fun _ => ?_)
    fun _ => trivial
  refine .next retainedStageStatus_retired fun status s' hr hret => ?_
  split
  · exact setEntryPhase_observes (Runs.has hr hs) (hret _ rfl)
  all_goals exact .pure trivial

theorem retire_retired {reason : ReferenceStageInvalidation} :
    Along (Runs Observing) (o.retire reason : Prog (System F) ε Unit)
      (Returns fun _ s' => o.Retired s'.referenceOwner.invalidated) s := by
  refine .when (fun _ => ⟨(retire_runs (T := True) reason _).keeps s, .inr ?_⟩)
    fun h => .inl (by simpa using h)
  simp [retire, update]

/-- Retiring the evidence of a commit, then ending it. -/
theorem retireCommit_observes {e : Entry F} (reason : ReferenceStageInvalidation)
    (phase : ReferenceCommitPhase) (hs : s.referenceCommits.Has e.handle e.stage) :
    Goes (Runs Observing) (do
      e.stage.retire reason
      when (e.phase = .pending) (setEntryPhase e.handle phase) : Prog (System F) ε Unit) s :=
  .next retire_retired fun _ _ hr hret =>
    .when (fun _ => setEntryPhase_observes (Runs.has hr hs) hret) fun _ => trivial

theorem invalidateReferenceCommits_observes (reason : ReferenceStageInvalidation) :
    Keeps T (Runs Observing) (invalidateReferenceCommits reason : Prog (System F) ε Unit) :=
  .ofRead fun s => eachCommit_observes (.self s) fun _ _ => retireCommit_observes reason _

theorem cancelReferenceCommits_observes (reason : ReferenceCancelReason) :
    Keeps T (Runs Observing) (cancelReferenceCommits reason : Prog (System F) ε Unit) :=
  .ofRead fun s => .step fun _ _ hr =>
    eachCommit_observes (fun e he => Runs.has hr (Listed.self s e he))
      fun _ _ => retireCommit_observes reason.retirement (.cancelled reason)

instance : Keeps T (Runs E) (observeReferenceCommits : Prog (System F) ε Unit) :=
  observeReferenceCommits_observes.mono fun _ _ => .ofObserving

instance : Keeps T (Runs E) (invalidateReferenceCommits reason : Prog (System F) ε Unit) :=
  (invalidateReferenceCommits_observes reason).mono fun _ _ => .ofObserving

instance (reason : ReferenceCancelReason) :
    Keeps T (Runs E) (cancelReferenceCommits reason : Prog (System F) ε Unit) :=
  (cancelReferenceCommits_observes reason).mono fun _ _ => .ofObserving

instance : Keeps T (Runs E) (referenceBusy : Prog (System F) ε Bool) := by
  unfold referenceBusy
  infer_instance

instance (operation : String) :
    Keeps False (Runs E) (refuseReferenceInterference operation : Prog (System F) _ Unit) := by
  unfold refuseReferenceInterference
  infer_instance

/-! ## The authority's judgement -/

instance (physical : Bool) (ownerBusy : Bool) (bindings : List ConsumedReferenceBinding) :
    Keeps T (Runs E) (checkBindings liveness physical window ownerBusy bindings :
      Prog (System F) ε Bool) := by
  induction bindings with
  | nil => exact .instPure _
  | cons b rest ih =>
    unfold checkBindings
    refine .ite ih (.bind fun s => .bind fun current => .ite ih (.ite (.andThen ?_ fun _ => ih) ?_))
    · split
      · refine updateAuthority_runs fun a => ?_
        split
        · exact ReferenceAuthority.weakens_revokeBindingSilent _
        · exact ReferenceAuthority.weakens_revokeBinding _
      all_goals exact updateAuthority_runs fun a => ReferenceAuthority.weakens_revokeBinding _
    · infer_instance

instance referenceBindingValidWith_runs :
    Keeps T (Runs E) (referenceBindingValidWith liveness : Prog (System F) ε Bool) := by
  unfold referenceBindingValidWith
  refine .bind fun _ => .bind fun _ => .bind fun s => .ite inferInstance ?_
  split
  · infer_instance
  · refine .bind fun m => .ite inferInstance (.ite inferInstance (.bind fun held =>
      .ite inferInstance (.ofRead fun s => ?_)))
    -- the new authority is computed from the state that was just read
    exact .update (.single (.observe {
      authority := ReferenceAuthority.weakens_validateBinding _ _ _ })) (.pure trivial)

instance : Keeps T (Runs E) (referenceBindingValid : Prog (System F) ε Bool) :=
  referenceBindingValidWith_runs .judge

/-! ## Snapshots -/

omit [Allows E .tick] in
/-- A mismatch of the live reservation is not progress. -/
instance noteMismatch_runs : Keeps T (Runs E)
    (updateReservation fun r => { r with bindingInvalidated := true } : Prog (System F) ε Unit) :=
  .ofStep .observe fun s => .observe { owner := {
    reservation := by
      show Option.map _ (Option.map _ _) = _
      rw [Option.map_map]
      rfl } }

instance : Keeps T (Runs E) (referenceSnapshot : Prog (System F) ε ReferenceSnapshot) := by
  unfold referenceSnapshot
  refine .bind fun _ => .bind fun s => ?_
  split
  · refine .andThen (.when noteMismatch_runs) fun _ => .andThen ?_ inferInstance
    split <;> infer_instance
  · infer_instance

instance (terminal : ReferenceTerminal) :
    Keeps T (Runs E) (snapshotForTerminal terminal : Prog (System F) ε ReferenceSnapshot) := by
  unfold snapshotForTerminal
  infer_instance

instance (signTest : Option Bool) :
    Keeps False (Runs E) (referenceRequestPreflight joint signTest : Prog (System F) _ Unit) := by
  unfold referenceRequestPreflight
  repeat refine .bind fun _ => ?_
  split <;> infer_instance

instance : Keeps T (Runs E) (jointHomingState joint : Prog (System F) ε JointHomingState) := by
  unfold jointHomingState
  infer_instance

instance : Keeps T (Runs E) (jointDriveActive joint : Prog (System F) ε Bool) := by
  unfold jointDriveActive
  infer_instance

instance : Keeps T (Runs E) (jointFeedback joint : Prog (System F) ε _) := by
  unfold jointFeedback
  infer_instance

instance : Keeps T (Runs E) (jointFacets joint : Prog (System F) ε JointFacetInput) := by
  unfold jointFacets
  infer_instance

instance (names : List String) :
    Keeps T (Runs E) (commissioningFacets names : Prog (System F) ε _) := by
  unfold commissioningFacets
  infer_instance

end

end

end Marengo

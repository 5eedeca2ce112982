import Marengo.Journal.Evidence

/-!
# Completions of the journal worker

No job is left behind. `outstanding` measures the steps that the worker still has to take until
the first `n` jobs are completed: each of its steps lowers the measure, a panic and the owner's
operations do not raise it. So a job is completed within a bounded number of worker steps after
its submission, whatever happens between them.
-/

namespace Marengo

open JournalSystem

variable {F R U : Type}

/-- The steps left for the job that the worker holds, and for its handler. -/
def WorkerStage.rank : WorkerStage F → ℕ
  | .opening _ => 9
  | .encoding _ _ => 8
  | .checking _ _ _ => 7
  | .writing _ _ _ _ => 6
  | .committing _ _ _ _ _ => 5
  | .reading _ _ _ _ => 4
  | .publishing _ _ => 3
  | .waiting | .unwound => 2
  | .landing _ _ | .dropping _ => 1
  | .discarding | .leaving | .terminated => 0

/-- The steps left until `n` jobs are completed. -/
def JournalSystem.outstanding (n : ℕ) (s : JournalSystem F) : ℕ :=
  if s.completions.length < n then
    8 * (n - s.completions.length - s.inHand.length) + s.stage.rank
  else 0

section Loop

variable {s : JournalSystem F} {job : Job F}

theorem JournalSystem.rank_onFile {α : Type} {x : Appending α}
    {ok : JournalSystem F → α → JournalSystem F} {n : ℕ} (hn : 3 < n)
    (hok : ∀ f a, (ok { s with disk := some f } a).stage.rank < n) :
    (s.onFile job x ok).stage.rank < n := by
  unfold onFile
  split
  · exact hn
  · split
    · exact hok _ _
    · exact hn

/-- A step of the loop on its job comes closer to the publication. -/
theorem work_rank [Scalar F] {sha : Digest} {serde : BodySerde F R U} {input : WorkerInput}
    (hjob : s.stage.job = some job) (hpublish : ∀ result, s.stage ≠ .publishing job result) :
    (s.work sha serde input).stage.rank < s.stage.rank := by
  unfold work
  split <;> rename_i hs <;> rw [hs] at hjob ⊢ <;> cases hjob
  · -- opening
    unfold openFor
    split
    · exact Nat.lt_succ_self 8
    · split
      · exact (by decide : 3 < 9)
      · exact Nat.lt_succ_self 8
  · -- encoding
    unfold encodeFor
    split
    · exact (by decide : 3 < 8)
    · exact Nat.lt_succ_self 7
  · exact rank_onFile (by decide : 3 < 7) fun f a => Nat.lt_succ_self 6
  · exact rank_onFile (by decide : 3 < 6) fun f a => Nat.lt_succ_self 5
  · exact rank_onFile (by decide : 3 < 5) fun f a => Nat.lt_succ_self 4
  · exact rank_onFile (Nat.lt_succ_self 3) fun f a => Nat.lt_succ_self 3
  · exact absurd hs (hpublish _)

end Loop

/-! ## The measure -/

section Measure

variable {s s' : JournalSystem F} {n : ℕ}

theorem JournalSystem.outstanding_eq_zero (h : n ≤ s.completions.length) :
    s.outstanding n = 0 := if_neg (Nat.not_lt.2 h)

/-- The worker goes on with the job in hand, or completes it. -/
theorem JournalSystem.outstanding_lt_of_rank (hn : s.completions.length < n)
    (hsum : s'.completions.length + s'.inHand.length = s.completions.length + s.inHand.length)
    (hrank : s'.stage.rank < s.stage.rank) : s'.outstanding n < s.outstanding n := by
  unfold outstanding
  rw [if_pos hn]
  split <;> omega

theorem JournalSystem.outstanding_le (hcompletions : s'.completions = s.completions)
    (hhand : s'.inHand = s.inHand) (hrank : s'.stage.rank ≤ s.stage.rank) :
    s'.outstanding n ≤ s.outstanding n := by
  unfold outstanding
  rw [hcompletions, hhand]
  split
  · exact Nat.add_le_add_left hrank _
  · exact le_refl _

/-- The worker takes the next job. -/
theorem JournalSystem.outstanding_lt_of_take (hn : s.completions.length + s.inHand.length < n)
    (hcompletions : s'.completions.length = s.completions.length)
    (hhand : s'.inHand.length = s.inHand.length + 1)
    (hrank : s'.stage.rank < s.stage.rank + 8) : s'.outstanding n < s.outstanding n := by
  unfold outstanding
  rw [if_pos (by omega), if_pos (by omega)]
  omega

theorem JournalSystem.outstanding_complete {identity : JobIdentity}
    {result : ReferenceJournalResult} {cause : Cause} {stage : WorkerStage F}
    (hn : s.completions.length < n) (hhand : s.inHand = [identity]) (hheld : stage.held = none)
    (hrank : stage.rank < s.stage.rank) :
    (s.complete identity result cause stage).outstanding n < s.outstanding n := by
  refine outstanding_lt_of_rank hn ?_ hrank
  rw [completions_complete, inHand_complete hheld, hhand]
  simp

/-- With every job of the queue taken, only the job in hand is left. -/
theorem Accounted.completed_of_queued (h : Accounted s) (hqueued : s.shared.queued = [])
    (hhand : s.inHand = []) : s.completions = s.submissions := by
  rw [h.order, hqueued, hhand]
  simp

/-- With nothing in hand and a job to be completed, the queue holds a job. -/
theorem Accounted.queued_ne_nil (h : Accounted s) (hle : n ≤ s.submissions.length)
    (hn : s.completions.length < n) (hhand : s.inHand = []) : s.shared.queued ≠ [] := by
  intro hqueued
  rw [← h.completed_of_queued hqueued hhand] at hle
  omega

/-- Between two jobs nothing is in hand. -/
theorem Accounted.inHand_of_idle (h : Accounted s) (hidle : s.stage = .waiting ∨ s.stage.ending)
    (hheld : s.stage.held = none) : s.inHand = [] := by
  simp [inHand, h.idle hidle, hheld]

theorem Accounted.takeJob_outstanding (h : Accounted s) (hle : n ≤ s.submissions.length)
    (hn : s.completions.length < n) (hstage : s.stage = .waiting) :
    s.takeJob.outstanding n < s.outstanding n := by
  have hhand := h.inHand_of_idle (.inl hstage) (by rw [hstage]; rfl)
  have hqueued := h.queued_ne_nil hle hn hhand
  unfold JournalSystem.takeJob
  split
  · exact absurd ‹_› hqueued
  · refine outstanding_lt_of_take (by simpa [hhand] using hn) rfl ?_ ?_
    · rw [hhand]
      rfl
    · rw [hstage]
      exact Nat.lt_succ_self 9

theorem JournalSystem.handle_outstanding (hn : s.completions.length < n)
    (hstage : s.stage = .unwound) : s.handle.outstanding n < s.outstanding n := by
  have hhand : s.inHand = s.shared.flight.toList.map (·.identity) := by
    simp [inHand, hstage, WorkerStage.held]
  unfold handle
  simp only
  split
  · rename_i hflight
    rw [hflight] at hhand
    refine outstanding_lt_of_rank hn ?_ ?_
    · rw [hhand]
      simp [inHand, completions, hflight, WorkerStage.held]
    · rw [hstage]
      exact Nat.succ_pos 1
  · rename_i f hflight
    rw [hflight] at hhand
    refine outstanding_lt_of_rank hn ?_ ?_
    · rw [hhand]
      rfl
    · rw [hstage]
      exact Nat.lt_succ_self 1

theorem Accounted.discard_outstanding (h : Accounted s) (hle : n ≤ s.submissions.length)
    (hn : s.completions.length < n) (hstage : s.stage = .discarding) :
    s.discard.outstanding n < s.outstanding n := by
  have hending : s.stage.ending := by rw [hstage]; rfl
  have hhand := h.inHand_of_idle (.inr hending) (by rw [hstage]; rfl)
  have hqueued := h.queued_ne_nil hle hn hhand
  unfold JournalSystem.discard
  split
  · exact absurd ‹_› hqueued
  · refine outstanding_lt_of_take (by simpa [hhand] using hn) rfl ?_ ?_
    · rw [hhand]
      simp [inHand, h.idle (.inr hending), WorkerStage.held]
    · rw [hstage]
      exact (by decide : 1 < 8)

/-- **Each step of the worker lowers the measure**, as long as a job is to be completed. -/
theorem Accounted.work_outstanding [Scalar F] {sha : Digest} {serde : BodySerde F R U}
    (h : Accounted s) (hle : n ≤ s.submissions.length) (hn : s.completions.length < n)
    (input : WorkerInput) : (s.work sha serde input).outstanding n < s.outstanding n := by
  cases hjob : s.stage.job with
  | some job =>
    have hs := h.inFlight job hjob
    by_cases hpublish : ∃ result, s.stage = .publishing job result
    · obtain ⟨result, hstage⟩ := hpublish
      rw [JournalSystem.work, hstage]
      exact outstanding_complete hn hs.inHand rfl
        (by rw [hstage]; exact Nat.lt_succ_self 2)
    · have hnot : ∀ result, s.stage ≠ .publishing job result := fun result hr =>
        hpublish ⟨result, hr⟩
      have hc : Continued job s (s.work sha serde input) := work_continued hs hnot
      refine outstanding_lt_of_rank hn ?_ (work_rank hjob hnot)
      rw [hc.completions, hc.inFlight.inHand, hs.inHand]
  | none =>
    -- what the handler holds is in hand; otherwise the queue cannot be empty
    have held (hending : s.stage.ending) {identity : JobIdentity}
        (hheld : s.stage.held = some identity) : s.inHand = [identity] := by
      simp [inHand, h.idle (.inr hending), hheld]
    have ended (hend : s.stage = .leaving ∨ s.stage = .terminated) : False := by
      refine h.queued_ne_nil hle hn (h.inHand_of_idle (.inr ?_) ?_) (h.drained hend) <;>
        rcases hend with hs | hs <;> rw [hs] <;> rfl
    cases hstage : s.stage with
    | waiting =>
      rw [JournalSystem.work, hstage]
      exact h.takeJob_outstanding hle hn hstage
    | unwound =>
      rw [JournalSystem.work, hstage]
      exact handle_outstanding hn hstage
    | landing identity result =>
      rw [JournalSystem.work, hstage]
      exact outstanding_complete hn (held (by rw [hstage]; rfl) (by rw [hstage]; rfl))
        rfl (by rw [hstage]; exact Nat.zero_lt_one)
    | discarding =>
      rw [JournalSystem.work, hstage]
      exact h.discard_outstanding hle hn hstage
    | dropping job =>
      rw [JournalSystem.work, hstage]
      exact outstanding_complete hn (held (by rw [hstage]; rfl) (by rw [hstage]; rfl))
        rfl (by rw [hstage]; exact Nat.zero_lt_one)
    | leaving => exact (ended (.inl hstage)).elim
    | terminated => exact (ended (.inr hstage)).elim
    | _ => simp [hstage, WorkerStage.job] at hjob

/-- The measure ends with the jobs completed. -/
theorem Accounted.completed_of_outstanding (h : Accounted s) (hz : s.outstanding n = 0) :
    n ≤ s.completions.length := by
  by_contra hn
  rw [outstanding, if_pos (Nat.lt_of_not_le hn)] at hz
  have hrank : s.stage.rank = 0 := by omega
  have hhand : s.inHand = [] := by
    refine h.inHand_of_idle (.inr ?_) ?_ <;>
      · cases hs : s.stage <;> rw [hs] at hrank <;> first | rfl | cases hrank
  rw [hhand, List.length_nil] at hz
  omega

/-- Within `8 * creditCapacity + 2` steps of the worker, everything submitted is completed. -/
theorem Accounted.outstanding_le_credits (h : Accounted s) :
    s.outstanding s.submissions.length ≤ 8 * creditCapacity + 2 := by
  have hsum := congrArg List.length h.order
  have hcredits := h.credits
  have hbound := h.bound
  simp only [List.length_append, List.length_map] at hsum
  have hrank : s.stage.rank ≤ 2 + 7 * s.inHand.length := by
    cases hjob : s.stage.job with
    | some job =>
      rw [(h.inFlight job hjob).inHand]
      cases s.stage <;> simp [WorkerStage.rank]
    | none =>
      cases hs : s.stage <;> simp_all [WorkerStage.rank, WorkerStage.job] <;> omega
  unfold outstanding
  split <;> omega

end Measure

/-! ## Runs -/

def JournalAction.isWork : JournalAction F → Bool
  | .work _ => true
  | .submit _ _ | .take _ | .close | .panic _ => false

theorem JournalSystem.log_panic (s : JournalSystem F) (disk : Option JournalFile) :
    (s.panic disk).log = s.log := by
  unfold panic
  split <;> rfl

section Runs

variable [Scalar F] {sha : Digest} {serde : BodySerde F R U} {s : JournalSystem F} {n : ℕ}

theorem Accounted.log_act (h : Accounted s) (a : JournalAction F) :
    s.log <+: (s.act sha serde a).log := by
  cases a with
  | submit identity input =>
    rcases s.act_submit sha serde identity input with heq | ⟨shared, _, heq⟩ <;> rw [heq]
    exact List.prefix_append _ _
  | take identity =>
    rcases s.act_take sha serde identity with heq | ⟨c, shared, _, heq⟩ <;> rw [heq]
  | close => exact List.prefix_refl _
  | work input => exact (h.work_log input).2
  | panic disk =>
    change s.log <+: (s.panic disk).log
    rw [s.log_panic]

/-- Submissions are only added. -/
theorem Accounted.submissions_run (h : Accounted s) (actions : List (JournalAction F)) :
    s.submissions <+: (actions.foldl (JournalSystem.act sha serde) s).submissions := by
  induction actions generalizing s with
  | nil => exact List.prefix_refl _
  | cons a actions ih => exact ((h.log_act a).filterMap _).trans (ih (h.act a))

/-- The owner and a panic do not raise the measure. -/
theorem outstanding_act {a : JournalAction F} (ha : a.isWork = false) :
    (s.act sha serde a).outstanding n ≤ s.outstanding n := by
  cases a with
  | submit identity input =>
    rcases s.act_submit sha serde identity input with heq | ⟨shared, hsubmit, heq⟩ <;>
      rw [heq]
    obtain ⟨-, -, rfl⟩ := JournalState.submit_ok hsubmit
    refine outstanding_le ?_ rfl (le_refl _)
    rw [completions_record]
    exact List.append_nil _
  | take identity =>
    rcases s.act_take sha serde identity with heq | ⟨c, shared, htake, heq⟩ <;> rw [heq]
    obtain ⟨c', hfind, hshared⟩ := Option.map_eq_some_iff.1 htake
    cases hshared
    exact outstanding_le rfl rfl (le_refl _)
  | close => exact le_refl _
  | work input => cases ha
  | panic disk =>
    have unwinds : s.stage.held = none → 2 ≤ s.stage.rank →
        outstanding n { s with stage := .unwound, disk := disk } ≤
          s.outstanding n := by
      intro hheld hrank
      refine outstanding_le rfl ?_ hrank
      rw [inHand, inHand, hheld]
      rfl
    change (s.panic disk).outstanding n ≤ s.outstanding n
    unfold JournalSystem.panic
    split <;> rename_i hs
    all_goals first
      | exact le_refl _
      | exact unwinds (by rw [hs]; rfl) (by rw [hs]; simp [WorkerStage.rank])

/-- **Whatever happens between them, enough steps of the worker complete the first `n` jobs.** -/
theorem Accounted.completes (actions : List (JournalAction F)) (h : Accounted s)
    (hle : n ≤ s.submissions.length) (hsteps : s.outstanding n ≤ actions.countP (·.isWork)) :
    n ≤ (actions.foldl (JournalSystem.act sha serde) s).completions.length := by
  induction actions generalizing s with
  | nil => exact h.completed_of_outstanding (Nat.le_zero.1 hsteps)
  | cons a actions ih =>
    refine ih (h.act a) (hle.trans ((h.log_act a).filterMap _).length_le) ?_
    rw [List.countP_cons] at hsteps
    cases ha : a.isWork with
    | false =>
      rw [ha] at hsteps
      exact (outstanding_act ha).trans hsteps
    | true =>
      rw [ha, if_pos rfl] at hsteps
      cases a with
      | work input =>
        by_cases hn : s.completions.length < n
        · exact Nat.le_of_lt_succ ((h.work_outstanding hle hn input).trans_le hsteps)
        · have hlog : s.log <+: (s.act sha serde (.work input)).log := h.log_act _
          have hgrows := (hlog.filterMap JournalEvent.completion).length_le
          rw [outstanding_eq_zero ((Nat.not_lt.1 hn).trans hgrows)]
          exact Nat.zero_le _
      | submit _ _ | take _ | close | panic _ => cases ha

/-- A later run has completed what was submitted, if the worker has taken enough steps. -/
theorem Accounted.completes_submitted (h : Accounted s) (rest : List (JournalAction F))
    (hsteps : 8 * creditCapacity + 2 ≤ rest.countP (·.isWork)) :
    s.submissions <+: (rest.foldl (JournalSystem.act sha serde) s).completions := by
  let s' := rest.foldl (JournalSystem.act sha serde) s
  have hrun : Accounted s' := h.foldl rest
  have hgrows : s.submissions <+: s'.submissions := h.submissions_run rest
  have hlength : s.submissions.length ≤ s'.completions.length :=
    h.completes rest (le_refl _) (h.outstanding_le_credits.trans hsteps)
  have hprefix : s'.completions <+: s'.submissions := by
    rw [hrun.order, List.append_assoc]
    exact List.prefix_append _ _
  exact List.prefix_of_prefix_length_le hgrows hprefix hlength

/-- **The journal worker's account.** In every interleaving of submissions, takes, worker steps
and panics: queued jobs, the job in hand and untaken completions hold at most `creditCapacity`
credits; the completions are the submissions, in order, without the jobs that are still in hand or
queued, and every job is completed within `8 * creditCapacity + 2` further worker steps; a job
interrupted by a panic is uncertain exactly if its write had begun; and durable history is
reported only after the commit returned and the row was read back as it was encoded. -/
theorem journal_accounting (sha : Digest) (serde : BodySerde F R U) (disk : Option JournalFile)
    (actions : List (JournalAction F)) :
    let s := JournalSystem.run sha serde disk actions
    s.shared.queued.length + s.shared.flight.toList.length + s.shared.completed.length ≤
        creditCapacity ∧
      s.submissions = s.completions ++ s.inHand ++ s.shared.queued.map (·.identity) ∧
      (∀ rest : List (JournalAction F), 8 * creditCapacity + 2 ≤ rest.countP (·.isWork) →
        s.submissions <+: (JournalSystem.run sha serde disk (actions ++ rest)).completions) ∧
      (∀ b, s.stage.writeBegun = some b → s.begun = b) ∧
      (∀ identity result begun, .completed identity result (.interrupted begun) ∈ s.log →
        result.isUncertain = begun) ∧
      Supported sha serde s.log := by
  intro s
  have h : Accounted s := .run disk actions
  refine ⟨?_, h.order, fun rest hsteps => ?_, fun b hb => ?_, h.interrupted,
    (Evidenced.run disk actions).supported⟩
  · have hcredits := h.credits
    have hbound := h.bound
    simp only [inHand, List.length_append, List.length_map] at hcredits
    omega
  · rw [JournalSystem.run, List.foldl_append]
    exact h.completes_submitted rest hsteps
  · cases hjob : s.stage.job with
    | some job => exact (h.inFlight job hjob).begun b hb
    | none => cases hs : s.stage <;> simp [hs, WorkerStage.job, WorkerStage.writeBegun] at hjob hb

end Runs

end Marengo

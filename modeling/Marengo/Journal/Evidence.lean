import Marengo.Journal.Accounting

/-!
# Evidence of durable history

What a completion says is backed by what the log shows before it. A job is completed as durable
history only after its commit returned and its row was read back as it had been encoded
(`Supported`); `Evidenced` is the invariant that carries this along the stages of the worker. The
worker also ends: `remaining` counts the steps it still has to take for the jobs it was given.
-/

namespace Marengo

open JournalSystem

variable {F R U : Type}

section Evidence

variable (sha : Digest) (serde : BodySerde F R U)

/-- The event of a job in a session is encoded as `body`. -/
def Encodes (job : Job F) (session : ℕ) (body : List UInt8) : Prop :=
  serde.encodeInput job.input session job.identity.sequence = .ok body

/-- A log shows an accepted job, the commit of its encoded event, and then its row read back
with the same body and checksum. -/
def Shown (log : List (JournalEvent F)) (identity : JobIdentity) (session sequence : ℕ)
    (checksum : List UInt8) : Prop :=
  ∃ job body, .submitted job ∈ log ∧ job.identity = identity ∧ sequence = identity.sequence ∧
    Encodes serde job session body ∧ checksum = sha.run body ∧
    [.committed identity session body, .readBack identity session body checksum].Sublist log

/-- Every completion as durable history has its evidence before it. -/
def Supported (log : List (JournalEvent F)) : Prop :=
  ∀ before identity session sequence checksum cause,
    before ++ [.completed identity (.durableHistory session sequence checksum) cause] <+: log →
      Shown sha serde before identity session sequence checksum

/-- What the log shows about the job that the worker works on. -/
def WorkerStage.Evident (log : List (JournalEvent F)) : WorkerStage F → Prop
  | .opening job | .encoding job _ => .submitted job ∈ log
  | .checking job session body => .submitted job ∈ log ∧ Encodes serde job session body
  | .writing job session body checksum | .committing job session body checksum _ =>
    .submitted job ∈ log ∧ Encodes serde job session body ∧ checksum = sha.run body
  | .reading job session body checksum =>
    .submitted job ∈ log ∧ Encodes serde job session body ∧ checksum = sha.run body ∧
      .committed job.identity session body ∈ log
  | .publishing job result =>
    ∀ session sequence checksum, result = .durableHistory session sequence checksum →
      Shown sha serde log job.identity session sequence checksum
  | .landing _ result => result.isDurable = false
  | .waiting | .unwound | .discarding | .dropping _ | .leaving | .terminated => True

/-- The log supports what has been completed and what the worker is about to complete. -/
structure Evidenced (s : JournalSystem F) : Prop where
  supported : Supported sha serde s.log
  queued : ∀ job ∈ s.shared.queued, .submitted job ∈ s.log
  stage : s.stage.Evident sha serde s.log

theorem Evidenced.start (disk : Option JournalFile) :
    Evidenced sha serde ({ disk := disk } : JournalSystem F) where
  supported before _ _ _ _ _ h := by simp at h
  queued _ h := absurd h List.not_mem_nil
  stage := trivial

end Evidence

section Growth

variable {sha : Digest} {serde : BodySerde F R U} {log : List (JournalEvent F)}

theorem Shown.snoc {identity : JobIdentity} {session sequence : ℕ} {checksum : List UInt8}
    (h : Shown sha serde log identity session sequence checksum) (e : JournalEvent F) :
    Shown sha serde (log ++ [e]) identity session sequence checksum := by
  obtain ⟨job, body, hsub, hid, hseq, henc, hsum, hrow⟩ := h
  exact ⟨job, body, List.mem_append_left _ hsub, hid, hseq, henc, hsum,
    hrow.trans (List.sublist_append_left _ _)⟩

/-- A log may grow by any event but an unsupported completion. -/
theorem Supported.snoc (h : Supported sha serde log) {e : JournalEvent F}
    (he : ∀ identity session sequence checksum cause,
      e = .completed identity (.durableHistory session sequence checksum) cause →
        Shown sha serde log identity session sequence checksum) :
    Supported sha serde (log ++ [e]) := by
  intro before identity session sequence checksum cause hprefix
  rcases List.prefix_concat_iff.1 hprefix with heq | hprefix
  · obtain ⟨rfl, hlast⟩ := List.append_inj' heq rfl
    exact he _ _ _ _ cause (List.singleton_inj.1 hlast).symm
  · exact h _ _ _ _ _ cause hprefix

theorem WorkerStage.Evident.snoc {stage : WorkerStage F} (h : stage.Evident sha serde log)
    (e : JournalEvent F) : stage.Evident sha serde (log ++ [e]) := by
  have grow {x : JournalEvent F} (hx : x ∈ log) : x ∈ log ++ [e] := List.mem_append_left _ hx
  cases stage with
  | opening job => exact grow h
  | encoding job session => exact grow h
  | checking job session body => exact ⟨grow h.1, h.2⟩
  | writing job session body checksum => exact ⟨grow h.1, h.2⟩
  | committing job session body checksum pending => exact ⟨grow h.1, h.2⟩
  | reading job session body checksum => exact ⟨grow h.1, h.2.1, h.2.2.1, grow h.2.2.2⟩
  | publishing job result => exact fun session sequence checksum hr => (h _ _ _ hr).snoc e
  | landing identity result => exact h
  | waiting | unwound | discarding | dropping _ | leaving | terminated => trivial

theorem Evidenced.record {s : JournalSystem F} (h : Evidenced sha serde s) {e : JournalEvent F}
    (he : ∀ identity session sequence checksum cause,
      e = .completed identity (.durableHistory session sequence checksum) cause →
        Shown sha serde s.log identity session sequence checksum) :
    Evidenced sha serde (s.record e) :=
  ⟨h.supported.snoc he, fun job hjob => List.mem_append_left _ (h.queued job hjob), h.stage.snoc e⟩

end Growth

/-! ## Failures of an append -/

section Failures

variable [Scalar F] {sha : Digest} {serde : BodySerde F R U} {sql : SqliteReply}
  {session sequence : ℕ} {body checksum : List UInt8} {α : Type}

/-- An append that fails does not say that the event is durable. -/
def Undurable (r : Except ReferenceJournalResult α) (_ : JournalFile) : Prop :=
  ∀ e, r = .error e → e.isDurable = false

theorem undurable_ok (a : α) (f : JournalFile) : Undurable (.ok a) f := fun _ h => by cases h

theorem undurable_error {e : ReferenceJournalResult} (h : e.isDurable = false)
    (f : JournalFile) : Undurable (.error e : Except _ α) f := fun _ he => by cases he; exact h

theorem undurable_bind {β : Type} {x : Appending α} {g : α → Appending β} {f : JournalFile}
    (hx : Prog.wp x Undurable f) (hg : ∀ a f', Prog.wp (g a) Undurable f') :
    Prog.wp (x >>= g) Undurable f :=
  Prog.wp_bind_of hx (fun a f' _ => hg a f') fun e f' h =>
    undurable_error (h e rfl) f'

theorem attemptCall_undurable (fault : Option String) {k : String → ReferenceJournalResult}
    (hk : ∀ e, (k e).isDurable = false) (f : JournalFile) :
    Prog.wp (attemptCall fault k) Undurable f := by
  cases fault with
  | none => exact undurable_ok () f
  | some e => exact undurable_error (hk e) f

theorem checkBody_undurable (f : JournalFile) :
    Prog.wp (checkBody sha serde session sequence body) Undurable f := by
  unfold checkBody
  split
  · exact undurable_error rfl f
  · exact undurable_ok _ f

theorem insertRow_undurable (f : JournalFile) :
    Prog.wp (insertRow sql session sequence body checksum) Undurable f := by
  refine undurable_bind (attemptCall_undurable _ (fun _ => rfl) f) fun _ f => ?_
  refine undurable_bind (undurable_ok f f) fun g f => ?_
  split
  · exact undurable_ok _ f
  · split
    · exact undurable_error rfl f
    · exact undurable_error rfl f

theorem commitRow_undurable (pending f : JournalFile) :
    Prog.wp (commitRow sql pending) Undurable f := by
  unfold commitRow
  split
  · exact undurable_ok () pending
  · refine undurable_bind ?_ fun _ f => undurable_error rfl f
    exact Prog.wp_when.2 ⟨fun _ => undurable_ok () pending, fun _ => undurable_ok () f⟩

theorem readBack_undurable (f : JournalFile) :
    Prog.wp (readBack sha serde sql session sequence body checksum) Undurable f := by
  refine undurable_bind ?_ fun row f => undurable_bind ?_ fun _ f => ?_
  · refine undurable_bind (attemptCall_undurable _ (fun _ => rfl) f) fun _ f => ?_
    refine undurable_bind (undurable_ok f f) fun g f => ?_
    split
    · exact undurable_ok _ f
    · exact undurable_ok _ f
    · exact undurable_error rfl f
  · exact Prog.wp_ensure.2 ⟨fun _ => undurable_ok () f, fun _ => undurable_error rfl f⟩
  · split
    · exact undurable_error rfl f
    · exact undurable_ok _ f

end Failures

/-! ## Steps -/

section Steps

variable {sha : Digest} {serde : BodySerde F R U} {s : JournalSystem F} {job : Job F}

variable {result : ReferenceJournalResult}

theorem not_durable (h : result.isDurable = false) {session sequence : ℕ} {checksum : List UInt8} :
    result ≠ .durableHistory session sequence checksum := by
  rintro rfl
  cases h

namespace Evidenced

variable (h : Evidenced sha serde s)
include h

theorem giveUp (hr : result.isDurable = false) : Evidenced sha serde (s.giveUp job result) :=
  ⟨h.supported, h.queued, fun _ _ _ he => absurd he (not_durable hr)⟩

/-- A part of an append that fails gives the job up; the rest is left to the caller. -/
theorem onFile {α : Type} {x : Appending α}
    {ok : JournalSystem F → α → JournalSystem F} (hx : ∀ f, Prog.wp x Undurable f)
    (hok : ∀ f f' a, s.disk = some f → x f = (.ok a, f') →
      Evidenced sha serde (ok { s with disk := some f' } a)) :
    Evidenced sha serde (s.onFile job x ok) := by
  unfold JournalSystem.onFile
  split
  · exact h.giveUp rfl
  · rename_i f hdisk
    have hfail := hx f
    split
    · rename_i a f' hrun
      exact hok f f' a hdisk hrun
    · rename_i result f' hrun
      rw [Prog.wp, hrun] at hfail
      exact ⟨h.supported, h.queued, fun _ _ _ he => absurd he (not_durable (hfail result rfl))⟩

variable {identity : JobIdentity}

/-- A completion is supported if its result is. -/
theorem complete {cause : Cause} {stage : WorkerStage F}
    (hstage : stage = .waiting ∨ stage = .discarding)
    (hr : ∀ session sequence checksum, result = .durableHistory session sequence checksum →
      Shown sha serde s.log identity session sequence checksum) :
    Evidenced sha serde (s.complete identity result cause stage) := by
  have hqueued := (s.shared.complete_eq identity result).1
  refine ⟨h.supported.snoc ?_, fun job hjob => ?_, ?_⟩
  · rintro identity' session sequence checksum cause' he
    cases he
    exact hr _ _ _ rfl
  · exact List.mem_append_left _ (h.queued job (hqueued ▸ hjob))
  · rcases hstage with rfl | rfl <;> trivial

theorem takeJob : Evidenced sha serde s.takeJob := by
  have hqueued := h.queued
  unfold JournalSystem.takeJob
  split
  · split
    · exact ⟨h.supported, h.queued, trivial⟩
    · exact h
  · rename_i job rest hq
    rw [hq] at hqueued
    exact ⟨h.supported, fun job hjob => hqueued job (List.mem_cons_of_mem _ hjob),
      hqueued job List.mem_cons_self⟩

theorem handle : Evidenced sha serde s.handle := by
  unfold JournalSystem.handle
  simp only
  split
  · exact ⟨h.supported, h.queued, trivial⟩
  · rename_i f hf
    refine ⟨h.supported, h.queued, ?_⟩
    change f.progress.interrupted.isDurable = false
    cases f.progress <;> rfl

theorem discard : Evidenced sha serde s.discard := by
  have hqueued := h.queued
  unfold JournalSystem.discard
  split
  · exact ⟨h.supported, h.queued, trivial⟩
  · rename_i job rest hq
    rw [hq] at hqueued
    exact ⟨h.supported, fun job hjob => hqueued job (List.mem_cons_of_mem _ hjob), trivial⟩

theorem rowRead (input : WorkerInput) (session : ℕ) :
    Evidenced sha serde (s.rowRead input job session) := by
  unfold JournalSystem.rowRead
  split
  · exact h.record fun _ _ _ _ _ he => by cases he
  · exact h

end Evidenced

theorem JournalSystem.disk_rowRead (s : JournalSystem F) (input : WorkerInput) (session : ℕ) :
    (s.rowRead input job session).disk = s.disk := by
  unfold rowRead
  split <;> rfl

/-- The row that the query returned is on the log. -/
theorem JournalSystem.log_rowRead {input : WorkerInput} {session : ℕ} {f : JournalFile}
    {row : List UInt8 × List UInt8} (hdisk : s.disk = some f)
    (hrow : selectRow input.reply session job.identity.sequence f = (.ok row, f)) :
    (s.rowRead input job session).log =
      s.log ++ [.readBack job.identity session row.1 row.2] := by
  have hread : s.disk.map (selectRow input.reply session job.identity.sequence) =
      some (.ok row, f) := by
    rw [hdisk]
    exact congrArg some hrow
  unfold rowRead
  rw [hread]
  rfl

/-- One step of the worker keeps the evidence. -/
theorem Evidenced.work [Scalar F] (h : Evidenced sha serde s) (input : WorkerInput) :
    Evidenced sha serde (s.work sha serde input) := by
  have hstage := h.stage
  unfold JournalSystem.work
  split <;> rename_i hs <;> rw [hs] at hstage
  · exact h.takeJob
  · -- opening
    unfold openFor
    split
    · exact ⟨h.supported, h.queued, hstage⟩
    · split
      · exact ⟨h.supported, h.queued, fun _ _ _ he => by cases he⟩
      · exact ⟨h.supported, h.queued, hstage⟩
  · -- encoding
    unfold encodeFor
    split
    · exact h.giveUp rfl
    · rename_i body hbody
      exact ⟨h.supported, h.queued, hstage, hbody⟩
  · -- checking
    refine h.onFile checkBody_undurable fun f f' checksum _ hrun => ?_
    exact ⟨h.supported, h.queued, hstage.1, hstage.2, (checkBody_ok hrun).1⟩
  · -- writing
    exact h.onFile insertRow_undurable fun f f' pending _ _ => ⟨h.supported, h.queued, hstage⟩
  · -- committing
    obtain ⟨hsub, henc, hsum⟩ := hstage
    refine h.onFile (commitRow_undurable _) fun f f' _ _ _ => ?_
    refine ⟨h.supported.snoc fun _ _ _ _ _ he => (by cases he),
      fun job hjob => List.mem_append_left _ (h.queued job hjob), ?_⟩
    exact ⟨List.mem_append_left _ hsub, henc, hsum, List.mem_append_right _ List.mem_cons_self⟩
  · -- reading
    rename_i job session body checksum
    obtain ⟨hsub, henc, hsum, hcommitted⟩ := hstage
    have hread : Evidenced sha serde (s.rowRead input job session) := h.rowRead input session
    refine hread.onFile readBack_undurable fun f f' result hdisk hrun => ?_
    rw [disk_rowRead] at hdisk
    obtain ⟨rfl, rfl, hrow⟩ := readBack_ok hrun
    refine ⟨hread.supported, hread.queued, fun session' sequence' checksum' he => ?_⟩
    cases he
    change Shown sha serde (s.rowRead input job session).log job.identity _ _ _
    rw [log_rowRead hdisk hrow]
    exact ⟨job, body, List.mem_append_left _ hsub, rfl, rfl, henc, hsum,
      (List.singleton_sublist.2 hcommitted).append (List.Sublist.refl _)⟩
  · -- publishing
    exact h.complete (.inl rfl) hstage
  · exact h.handle
  · exact h.complete (.inr rfl) fun _ _ _ he => absurd he (not_durable hstage)
  · exact h.discard
  · exact h.complete (.inr rfl) fun _ _ _ he => by cases he
  · exact ⟨h.supported, h.queued, trivial⟩
  · exact h

theorem Evidenced.submit (h : Evidenced sha serde s) {input : JournalInput F}
    {shared : JournalState F} (hsubmit : s.shared.submit identity input = .ok shared) :
    Evidenced sha serde ({ s with shared := shared }.record (.submitted ⟨identity, input⟩)) := by
  obtain ⟨-, -, rfl⟩ := JournalState.submit_ok hsubmit
  refine ⟨h.supported.snoc fun _ _ _ _ _ he => (by cases he), fun job hjob => ?_, h.stage.snoc _⟩
  rcases List.mem_append.1 hjob with hjob | hjob
  · exact List.mem_append_left _ (h.queued job hjob)
  · rw [List.mem_singleton.1 hjob]
    exact List.mem_append_right _ List.mem_cons_self

theorem Evidenced.take (h : Evidenced sha serde s) {c : Completed}
    {shared : JournalState F} (htake : s.shared.takeMatching identity = some (c, shared)) :
    Evidenced sha serde { s with shared := shared } := by
  obtain ⟨c', hfind, heq⟩ := Option.map_eq_some_iff.1 htake
  cases heq
  exact ⟨h.supported, h.queued, h.stage⟩

theorem Evidenced.panic (h : Evidenced sha serde s) (disk : Option JournalFile) :
    Evidenced sha serde (s.panic disk) := by
  unfold JournalSystem.panic
  split
  all_goals first
    | exact h
    | exact ⟨h.supported, h.queued, trivial⟩

/-- Every action keeps the evidence. -/
theorem Evidenced.act [Scalar F] (h : Evidenced sha serde s) (a : JournalAction F) :
    Evidenced sha serde (s.act sha serde a) := by
  cases a with
  | submit identity input =>
    rcases s.act_submit sha serde identity input with heq | ⟨shared, hsubmit, heq⟩
    · rwa [heq]
    · rw [heq]
      exact h.submit hsubmit
  | take identity =>
    rcases s.act_take sha serde identity with heq | ⟨c, shared, htake, heq⟩
    · rwa [heq]
    · rw [heq]
      exact h.take htake
  | close => exact ⟨h.supported, h.queued, h.stage⟩
  | work input => exact h.work input
  | panic disk => exact h.panic disk

theorem Evidenced.run [Scalar F] (disk : Option JournalFile) (actions : List (JournalAction F)) :
    Evidenced sha serde (JournalSystem.run sha serde disk actions) := by
  suffices h : ∀ (s : JournalSystem F), Evidenced sha serde s →
      Evidenced sha serde (actions.foldl (JournalSystem.act sha serde) s) from
    h _ (.start sha serde disk)
  induction actions with
  | nil => exact fun s h => h
  | cons a actions ih => exact fun s h => ih _ (h.act a)

end Steps

end Marengo

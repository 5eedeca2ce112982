import Marengo.Journal.Worker
import Marengo.Journal.Reopen

/-!
# Accounting of the journal worker

Along every interleaving of the owner and the worker, a panic at any point included, a job is in
exactly one place: queued, in the hands of the worker or of its handler, or completed
(`Accounted.order`). So completions are published in the order of submission and each job gets
one, and the credits bound what is queued, in flight and not yet taken. `Accounted` is the
invariant, `Accounted.act` its preservation by one action.
-/

namespace Marengo

open JournalSystem

variable {F R U : Type}

/-! ## Where a job is -/

namespace WorkerStage

def job : WorkerStage F → Option (Job F)
  | .opening job | .encoding job _ | .checking job _ _ | .writing job _ _ _
  | .committing job _ _ _ _ | .reading job _ _ _ | .publishing job _ => some job
  | .waiting | .unwound | .landing _ _ | .discarding | .dropping _ | .leaving | .terminated => none

/-- The stages before and after the write of a job begins. -/
def writeBegun : WorkerStage F → Option Bool
  | .opening _ | .encoding _ _ | .checking _ _ _ => some false
  | .writing _ _ _ _ | .committing _ _ _ _ _ | .reading _ _ _ _ => some true
  | .waiting | .publishing _ _ | .unwound | .landing _ _ | .discarding | .dropping _ | .leaving
  | .terminated => none

def held : WorkerStage F → Option JobIdentity
  | .landing identity _ => some identity
  | .dropping job => some job.identity
  | .waiting | .opening _ | .encoding _ _ | .checking _ _ _ | .writing _ _ _ _
  | .committing _ _ _ _ _ | .reading _ _ _ _ | .publishing _ _ | .unwound | .discarding
  | .leaving | .terminated => none

/-- The handler has closed admission, or the loop has ended because it was closed. -/
def ending : WorkerStage F → Bool
  | .landing _ _ | .discarding | .dropping _ | .leaving | .terminated => true
  | .waiting | .opening _ | .encoding _ _ | .checking _ _ _ | .writing _ _ _ _
  | .committing _ _ _ _ _ | .reading _ _ _ _ | .publishing _ _ | .unwound => false

end WorkerStage

def JournalEvent.submission : JournalEvent F → Option JobIdentity
  | .submitted job => some job.identity
  | .committed _ _ _ | .readBack _ _ _ _ | .completed _ _ _ => none

def JournalEvent.completion : JournalEvent F → Option JobIdentity
  | .completed identity _ _ => some identity
  | .submitted _ | .committed _ _ _ | .readBack _ _ _ _ => none

namespace JournalSystem

def submissions (s : JournalSystem F) : List JobIdentity := s.log.filterMap (·.submission)

def completions (s : JournalSystem F) : List JobIdentity := s.log.filterMap (·.completion)

/-- The job between the queue and the completions: in flight, or held by the handler. -/
def inHand (s : JournalSystem F) : List JobIdentity :=
  s.shared.flight.toList.map (·.identity) ++ s.stage.held.toList

end JournalSystem

/-! ## The invariant -/

/-- The shared state shows the job of the loop in flight, with whether its write has begun. -/
structure InFlight (job : Job F) (s : JournalSystem F) : Prop where
  stage : s.stage.job = some job
  flight : ∃ p, s.shared.flight = some ⟨job.identity, p⟩ ∧ p.afterWriting = s.begun
  begun : ∀ b, s.stage.writeBegun = some b → s.begun = b

/-- The result says that the event may have been written. -/
def ReferenceJournalResult.isUncertain : ReferenceJournalResult → Bool
  | .uncertain _ => true
  | .pending | .durableHistory _ _ _ | .failed _ => false

theorem Progress.interrupted_isUncertain (p : Progress) :
    p.interrupted.isUncertain = p.afterWriting := by
  cases p <;> rfl

/-- Every job is in one place and holds one credit. -/
structure Accounted (s : JournalSystem F) : Prop where
  order : s.submissions = s.completions ++ s.inHand ++ s.shared.queued.map (·.identity)
  credits : s.shared.credits =
    s.shared.queued.length + s.inHand.length + s.shared.completed.length
  bound : s.shared.credits ≤ creditCapacity
  inFlight : ∀ job, s.stage.job = some job → InFlight job s
  unwound : s.stage = .unwound → ∀ f, s.shared.flight = some f → f.progress.afterWriting = s.begun
  idle : s.stage = .waiting ∨ s.stage.ending → s.shared.flight = none
  closed : s.stage.ending → s.shared.closed
  drained : s.stage = .leaving ∨ s.stage = .terminated → s.shared.queued = []
  landing : ∀ identity result, s.stage = .landing identity result →
    result.isUncertain = s.begun
  interrupted : ∀ identity result begun,
    .completed identity result (.interrupted begun) ∈ s.log → result.isUncertain = begun

theorem Accounted.start (disk : Option JournalFile) :
    Accounted ({ disk := disk } : JournalSystem F) where
  order := rfl
  credits := rfl
  bound := Nat.zero_le _
  inFlight _ h := absurd h (Option.some_ne_none _).symm
  unwound _ _ h := absurd h (Option.some_ne_none _).symm
  idle _ := rfl
  closed h := absurd h Bool.false_ne_true
  drained _ := rfl
  landing _ _ h := by cases h
  interrupted _ _ _ h := absurd h List.not_mem_nil

/-! ## Steps of the loop on its job -/

variable {job : Job F}

theorem WorkerStage.held_of_job {stage : WorkerStage F} (h : stage.job = some job) :
    stage.held = none := by
  cases stage <;> first | rfl | cases h

theorem WorkerStage.ending_of_job {stage : WorkerStage F}
    (h : stage.job = some job) : stage.ending = false := by
  cases stage <;> first | rfl | cases h

theorem InFlight.inHand {s : JournalSystem F} (h : InFlight job s) : s.inHand = [job.identity] := by
  obtain ⟨p, hp, -⟩ := h.flight
  simp [JournalSystem.inHand, hp, WorkerStage.held_of_job h.stage]

/-- The loop goes on with the job it has in flight. -/
structure Continued (job : Job F) (s s' : JournalSystem F) : Prop where
  shared : s'.shared = { s.shared with flight := s'.shared.flight }
  log : ∃ events, s'.log = s.log ++ events ∧
    ∀ e ∈ events, e.submission = none ∧ e.completion = none
  inFlight : InFlight job s'

theorem filterMap_append_none {α β : Type} {f : α → Option β} {xs ys : List α}
    (h : ∀ y ∈ ys, f y = none) : (xs ++ ys).filterMap f = xs.filterMap f := by
  rw [List.filterMap_append, List.filterMap_eq_nil_iff.2 h, List.append_nil]

variable {s s' : JournalSystem F}

theorem Continued.submissions (h : Continued job s s') : s'.submissions = s.submissions := by
  obtain ⟨events, hlog, hnone⟩ := h.log
  rw [JournalSystem.submissions, hlog, filterMap_append_none fun e he => (hnone e he).1]
  rfl

theorem Continued.completions (h : Continued job s s') : s'.completions = s.completions := by
  obtain ⟨events, hlog, hnone⟩ := h.log
  rw [JournalSystem.completions, hlog, filterMap_append_none fun e he => (hnone e he).2]
  rfl

/-- The account does not change while the loop works on its job. -/
theorem Accounted.continued (h : Accounted s)
    (hjob : s.stage.job = some job) (hc : Continued job s s') : Accounted s' := by
  have hs := h.inFlight job hjob
  have hs' := hc.inFlight
  obtain ⟨events, hlog, hnone⟩ := hc.log
  have hstage : s'.stage ≠ .unwound ∧ s'.stage ≠ .waiting ∧ s'.stage.ending = false := by
    refine ⟨fun h => ?_, fun h => ?_, WorkerStage.ending_of_job hs'.stage⟩ <;>
      · have := hs'.stage
        rw [h] at this
        cases this
  have hqueued : s'.shared.queued = s.shared.queued := by rw [hc.shared]
  have hcredits : s'.shared.credits = s.shared.credits := by rw [hc.shared]
  have hcompleted : s'.shared.completed = s.shared.completed := by rw [hc.shared]
  refine ⟨?_, ?_, ?_, ?_, ?_, ?_, ?_, ?_, ?_, ?_⟩
  · rw [hc.submissions, hc.completions, hqueued, hs'.inHand, ← hs.inHand]
    exact h.order
  · rw [hcredits, hqueued, hcompleted, hs'.inHand, ← hs.inHand]
    exact h.credits
  · rw [hcredits]
    exact h.bound
  · intro job' hjob'
    obtain rfl : job = job' := Option.some.inj (hs'.stage.symm.trans hjob')
    exact hs'
  · exact fun h => absurd h hstage.1
  · rintro (h | h)
    · exact absurd h hstage.2.1
    · exact absurd (hstage.2.2.symm.trans h) Bool.false_ne_true
  · exact fun h => absurd (hstage.2.2.symm.trans h) Bool.false_ne_true
  · rintro (h | h) <;>
      · have := hstage.2.2
        rw [h] at this
        cases this
  · intro identity result h
    have := hstage.2.2
    rw [h] at this
    cases this
  · intro identity result begun hmem
    rw [hlog] at hmem
    rcases List.mem_append.1 hmem with hmem | hmem
    · exact h.interrupted _ _ _ hmem
    · have := (hnone _ hmem).2
      cases this

/-- The file and the database are not part of the account. -/
theorem InFlight.onDisk {s : JournalSystem F} (h : InFlight job s)
    (disk : Option JournalFile) (database : Option ℕ) :
    InFlight job { s with disk := disk, database := database } :=
  ⟨h.stage, h.flight, h.begun⟩

namespace Continued

variable {job : Job F} {s : JournalSystem F}

theorem onDisk {disk : Option JournalFile} {database : Option ℕ} {s' : JournalSystem F}
    (h : Continued job { s with disk := disk, database := database } s') : Continued job s s' :=
  ⟨h.shared, h.log, h.inFlight⟩

theorem giveUp (h : InFlight job s) (result : ReferenceJournalResult) :
    Continued job s (s.giveUp job result) where
  shared := rfl
  log := ⟨[], (List.append_nil _).symm, by simp⟩
  inFlight := ⟨rfl, h.flight, fun _ hb => by cases hb⟩

/-- The loop goes on to a stage whose progress agrees with whether the write has begun. -/
theorem advance (h : InFlight job s) {p : Progress} {stage : WorkerStage F}
    (hjob : stage.job = some job) (hp : p.afterWriting = s.begun)
    (hbegun : stage.writeBegun = some s.begun) : Continued job s (s.advance p stage) where
  shared := rfl
  log := ⟨[], (List.append_nil _).symm, by simp⟩
  inFlight := by
    obtain ⟨q, hq, -⟩ := h.flight
    refine ⟨hjob, ⟨p, ?_, hp⟩, fun b hb => Option.some.inj (hbegun.symm.trans hb)⟩
    simp [JournalSystem.advance, JournalState.progress, hq]

theorem onFile {α : Type} (h : InFlight job s) {x : Appending α}
    {ok : JournalSystem F → α → JournalSystem F}
    (hok : ∀ f f' a, x f = (.ok a, f') → Continued job s (ok { s with disk := some f' } a)) :
    Continued job s (s.onFile job x ok) := by
  unfold JournalSystem.onFile
  split
  · exact giveUp h _
  · split
    · exact hok _ _ _ ‹_›
    · exact (giveUp (h.onDisk _ _) _).onDisk

theorem record {s' : JournalSystem F} {e : JournalEvent F} (h : Continued job s s')
    (hsub : e.submission = none) (hcomp : e.completion = none) : Continued job s (s'.record e) := by
  obtain ⟨events, hlog, hnone⟩ := h.log
  refine ⟨h.shared, ⟨events ++ [e], ?_, ?_⟩, h.inFlight.stage, h.inFlight.flight, h.inFlight.begun⟩
  · rw [JournalSystem.record, hlog, List.append_assoc]
  · intro e' he'
    rcases List.mem_append.1 he' with he' | he'
    · exact hnone e' he'
    · obtain rfl := List.mem_singleton.1 he'
      exact ⟨hsub, hcomp⟩

theorem refl (h : InFlight job s) : Continued job s s :=
  ⟨rfl, ⟨[], (List.append_nil _).symm, by simp⟩, h⟩

theorem trans {s' s'' : JournalSystem F} (h : Continued job s s') (h' : Continued job s' s'') :
    Continued job s s'' := by
  obtain ⟨events, hlog, hnone⟩ := h.log
  obtain ⟨events', hlog', hnone'⟩ := h'.log
  refine ⟨?_, ⟨events ++ events', ?_, ?_⟩, h'.inFlight⟩
  · rw [h'.shared, h.shared]
  · rw [hlog', hlog, List.append_assoc]
  · intro e he
    rcases List.mem_append.1 he with he | he
    · exact hnone e he
    · exact hnone' e he

theorem rowRead (h : InFlight job s) (input : WorkerInput) (session : ℕ) :
    Continued job s (s.rowRead input job session) := by
  unfold JournalSystem.rowRead
  split
  · exact (refl h).record rfl rfl
  · exact refl h

end Continued

section Loop

variable [Scalar F] {sha : Digest} {serde : BodySerde F R U} {input : WorkerInput}
  {s : JournalSystem F} {job : Job F}

/-- **Every step of the loop on a job goes on with the job**, up to its publication. -/
theorem work_continued (h : InFlight job s) (hpublish : ∀ result, s.stage ≠ .publishing job result) :
    Continued job s (s.work sha serde input) := by
  have hbegun := h.begun
  have hstage := h.stage
  unfold work
  split <;> rename_i hs <;> rw [hs] at hbegun hstage <;> cases hstage
  · -- opening
    have hb : s.begun = false := hbegun false rfl
    unfold openFor
    split
    · exact .advance h rfl hb.symm (congrArg some hb.symm)
    · split
      · exact (Continued.giveUp (h.onDisk _ _) _).onDisk
      · exact .onDisk (.advance (h.onDisk _ _) rfl hb.symm (congrArg some hb.symm))
  · -- encoding
    have hb : s.begun = false := hbegun false rfl
    unfold encodeFor
    split
    · exact .giveUp h _
    · exact ⟨rfl, ⟨[], (List.append_nil _).symm, by simp⟩, rfl, h.flight,
        fun b h => hb.trans (Option.some.inj h)⟩
  · -- checking: the write begins here
    refine .onFile h fun f f' checksum _ => ⟨rfl, ⟨[], (List.append_nil _).symm, by simp⟩, rfl, ?_,
      fun b h => Option.some.inj h⟩
    obtain ⟨q, hq, -⟩ := h.flight
    exact ⟨.writing, by simp [advance, JournalState.progress, hq], rfl⟩
  · -- writing
    have hb : s.begun = true := hbegun true rfl
    exact .onFile h fun f f' pending _ =>
      .onDisk (.advance (h.onDisk _ _) rfl hb.symm (congrArg some hb.symm))
  · -- committing
    have hb : s.begun = true := hbegun true rfl
    exact .onFile h fun f f' _ _ =>
      .record (.onDisk (.advance (h.onDisk _ _) rfl hb.symm (congrArg some hb.symm))) rfl rfl
  · -- reading
    have hb : s.begun = true := hbegun true rfl
    refine (Continued.rowRead h input _).trans (.onFile (Continued.rowRead h input _).inFlight
      fun f f' result _ => ?_)
    exact ⟨rfl, ⟨[], (List.append_nil _).symm, by simp⟩, rfl,
      (Continued.rowRead h input _).inFlight.flight, fun b h => by cases h⟩
  · exact absurd hs (hpublish _)

end Loop

/-! ## The other steps -/

section Steps

variable {s : JournalSystem F}

theorem JournalSystem.submissions_record (e : JournalEvent F) :
    (s.record e).submissions = s.submissions ++ e.submission.toList := by
  simp only [submissions, record, List.filterMap_append]
  cases e <;> rfl

theorem JournalSystem.completions_record (e : JournalEvent F) :
    (s.record e).completions = s.completions ++ e.completion.toList := by
  simp only [completions, record, List.filterMap_append]
  cases e <;> rfl

/-- What `Shared::complete` does. -/
theorem JournalState.complete_eq (st : JournalState F) (identity : JobIdentity)
    (result : ReferenceJournalResult) :
    let st' := st.complete identity result
    st'.queued = st.queued ∧ st'.credits = st.credits ∧ st'.closed = st.closed ∧
      st'.flight = none ∧ st'.completed = st.completed ++ [⟨identity, result⟩] := by
  cases result <;> exact ⟨rfl, rfl, rfl, rfl, rfl⟩

variable {identity : JobIdentity} {result : ReferenceJournalResult} {stage : WorkerStage F} {cause : Cause}

theorem JournalSystem.submissions_complete :
    (s.complete identity result cause stage).submissions = s.submissions := by
  rw [complete, submissions_record]
  exact List.append_nil _

theorem JournalSystem.completions_complete :
    (s.complete identity result cause stage).completions = s.completions ++ [identity] := by
  rw [complete, completions_record]
  rfl

theorem JournalSystem.inHand_complete (h : stage.held = none) :
    (s.complete identity result cause stage).inHand = [] := by
  have hflight := (s.shared.complete_eq identity result).2.2.2.1
  simp [inHand, complete, record, hflight, h]

theorem Accounted.complete (h : Accounted s) (hhand : s.inHand = [identity])
    (hstage : stage = .waiting ∨ stage = .discarding ∧ s.shared.closed)
    (hcause : ∀ b, cause = .interrupted b → result.isUncertain = b) :
    Accounted (s.complete identity result cause stage) := by
  obtain ⟨hqueued, hcredits, hclosed, hflight, hcompleted⟩ :=
    s.shared.complete_eq identity result
  have hidle : stage.job = none ∧ stage.held = none := by
    rcases hstage with rfl | ⟨rfl, _⟩ <;> exact ⟨rfl, rfl⟩
  refine ⟨?_, ?_, ?_, ?_, ?_, ?_, ?_, ?_, ?_, ?_⟩
  · have := h.order
    rw [hhand] at this
    rw [submissions_complete, completions_complete, inHand_complete hidle.2, this]
    simp [JournalSystem.complete, record, hqueued]
  · have := h.credits
    rw [hhand] at this
    rw [inHand_complete hidle.2]
    simp only [JournalSystem.complete, record, hqueued, hcredits, hcompleted,
      List.length_append, List.length_singleton, List.length_nil] at this ⊢
    omega
  · simpa [JournalSystem.complete, record, hcredits] using h.bound
  · exact fun job hjob => absurd (hidle.1.symm.trans hjob) (Option.some_ne_none _).symm
  · rcases hstage with rfl | ⟨rfl, _⟩ <;> exact fun h => by cases h
  · exact fun _ => hflight
  · intro hending
    rcases hstage with rfl | ⟨rfl, hc⟩
    · cases hending
    · exact hclosed.trans hc
  · rcases hstage with rfl | ⟨rfl, _⟩ <;> rintro (h | h) <;> cases h
  · rcases hstage with rfl | ⟨rfl, _⟩ <;> exact fun _ _ h => by cases h
  · intro identity' result' begun hmem
    rcases List.mem_append.1 hmem with hmem | hmem
    · exact h.interrupted _ _ _ hmem
    · cases List.mem_singleton.1 hmem
      exact hcause begun rfl

/-- A step to a stage without a job in flight that only hands jobs on, in their order. -/
theorem Accounted.ends {s' : JournalSystem F} (h : Accounted s) (hlog : s'.log = s.log)
    (hcredits : s'.shared.credits = s.shared.credits)
    (hcompleted : s'.shared.completed = s.shared.completed)
    (hplaces : s'.inHand ++ s'.shared.queued.map (·.identity) =
      s.inHand ++ s.shared.queued.map (·.identity))
    (hending : s'.stage.ending) (hflight : s'.shared.flight = none) (hclosed : s'.shared.closed)
    (hdrained : s'.stage = .leaving ∨ s'.stage = .terminated → s'.shared.queued = [])
    (hlanding : ∀ identity result, s'.stage = .landing identity result →
      result.isUncertain = s'.begun) : Accounted s' := by
  have hlength := congrArg List.length hplaces
  simp only [List.length_append, List.length_map] at hlength
  refine ⟨?_, ?_, hcredits ▸ h.bound, fun job hjob => ?_, fun hs => ?_, fun _ => hflight,
    fun _ => hclosed, hdrained, hlanding, hlog ▸ h.interrupted⟩
  · rw [List.append_assoc, hplaces, ← List.append_assoc, submissions, completions, hlog]
    exact h.order
  · have := h.credits
    rw [hcompleted]
    omega
  · rw [WorkerStage.ending_of_job hjob] at hending
    cases hending
  · rw [hs] at hending
    cases hending

/-- The loop takes a job, or leaves. -/
theorem Accounted.takeJob (h : Accounted s) (hstage : s.stage = .waiting) :
    Accounted s.takeJob := by
  have hflight := h.idle (.inl hstage)
  unfold JournalSystem.takeJob
  split
  · rename_i hqueue
    split
    · rename_i hclosed
      exact h.ends rfl rfl rfl (by simp [inHand, hstage, WorkerStage.held]) rfl hflight hclosed
        (fun _ => hqueue) fun _ _ h => by cases h
    · exact h
  · rename_i job rest hqueue
    have horder := h.order
    have hcredits := h.credits
    simp only [inHand, hstage, hflight, hqueue, WorkerStage.held] at horder hcredits
    refine ⟨?_, ?_, h.bound, ?_, fun h => (by cases h), ?_, fun h => (by cases h), ?_,
      fun _ _ h => (by cases h), h.interrupted⟩
    · simpa [inHand, submissions, completions, WorkerStage.held] using horder
    · simp [inHand, WorkerStage.held] at hcredits ⊢
      omega
    · rintro job' hjob'
      cases hjob'
      exact ⟨rfl, ⟨.opening, rfl, rfl⟩, fun b hb => Option.some.inj hb⟩
    · rintro (h | h) <;> cases h
    · rintro (h | h) <;> cases h

/-- The handler closes admission and takes the job in flight. -/
theorem Accounted.handle (h : Accounted s) (hstage : s.stage = .unwound) : Accounted s.handle := by
  unfold JournalSystem.handle
  simp only
  split
  · rename_i hflight
    refine h.ends rfl rfl rfl (by simp [inHand, hstage, WorkerStage.held]) rfl hflight rfl ?_
      fun _ _ h => by cases h
    rintro (h | h) <;> cases h
  · rename_i f hflight
    refine h.ends rfl rfl rfl (by simp [inHand, hstage, hflight, WorkerStage.held]) rfl rfl rfl ?_ ?_
    · rintro (h | h) <;> cases h
    · rintro identity result hl
      cases hl
      rw [Progress.interrupted_isUncertain]
      exact h.unwound hstage f hflight

/-- The handler takes a queued job, or leaves. -/
theorem Accounted.discard (h : Accounted s) (hstage : s.stage = .discarding) :
    Accounted s.discard := by
  have hflight := h.idle (.inr (by rw [hstage]; rfl))
  have hclosed := h.closed (by rw [hstage]; rfl)
  unfold JournalSystem.discard
  split
  · rename_i hqueue
    exact h.ends rfl rfl rfl (by simp [inHand, hstage, WorkerStage.held]) rfl hflight hclosed
      (fun _ => hqueue) fun _ _ h => by cases h
  · rename_i job rest hqueue
    refine h.ends rfl rfl rfl (by simp [inHand, hstage, hflight, hqueue, WorkerStage.held]) rfl hflight
      hclosed ?_ fun _ _ h => by cases h
    rintro (h | h) <;> cases h

/-- A job that is accepted is queued last, and holds a credit. -/
theorem JournalState.submit_ok {st st' : JournalState F}
    {input : JournalInput F} (h : st.submit identity input = .ok st') :
    st.closed = false ∧ st.credits ≠ creditCapacity ∧
      st' = { st with credits := st.credits + 1, queued := st.queued ++ [⟨identity, input⟩] } := by
  unfold submit at h
  split at h
  · cases h
  rename_i hopen
  split at h
  · cases h
  rename_i hfree
  cases h
  simp only [admissionClosed, Bool.or_eq_true, not_or, Bool.not_eq_true] at hopen
  exact ⟨hopen.1.1, hfree, rfl⟩

/-- A job is accepted only while a credit is free. -/
theorem Accounted.submit (h : Accounted s) {input : JournalInput F}
    {shared : JournalState F} (hsubmit : s.shared.submit identity input = .ok shared) :
    Accounted ({ s with shared := shared }.record (.submitted ⟨identity, input⟩)) := by
  obtain ⟨hclosed, hfree, rfl⟩ := JournalState.submit_ok hsubmit
  have hrunning : s.stage.ending = false := by
    by_contra hending
    exact Bool.false_ne_true (hclosed.symm.trans (h.closed (by simpa using hending)))
  have hbound := h.bound
  refine ⟨?_, ?_, ?_, fun job hjob => ⟨hjob, (h.inFlight job hjob).flight,
    (h.inFlight job hjob).begun⟩, h.unwound, h.idle, h.closed, ?_, h.landing, ?_⟩
  · rw [submissions_record, completions_record]
    have := h.order
    simp only [inHand, submissions, completions,
      record, JournalEvent.submission, JournalEvent.completion] at this ⊢
    simp [this]
  · have := h.credits
    simp only [inHand, record, List.length_append,
      List.length_singleton] at this ⊢
    omega
  · simp only [record]
    omega
  · rintro (hs | hs) <;>
      · rw [show s.stage = _ from hs] at hrunning
        cases hrunning
  · intro identity' result begun hmem
    rcases List.mem_append.1 hmem with hmem | hmem
    · exact h.interrupted _ _ _ hmem
    · cases List.mem_singleton.1 hmem

/-- A completion that is taken gives its credit back. -/
theorem Accounted.take (h : Accounted s) {c : Completed}
    {shared : JournalState F} (htake : s.shared.takeMatching identity = some (c, shared)) :
    Accounted { s with shared := shared } := by
  unfold JournalState.takeMatching at htake
  obtain ⟨c', hfind, heq⟩ := Option.map_eq_some_iff.1 htake
  cases heq
  have hmem := List.mem_of_find?_eq_some hfind
  have hmatch := List.find?_some hfind
  have hlength : (s.shared.completed.eraseP (·.identity = identity)).length =
      s.shared.completed.length - 1 := List.length_eraseP_of_mem hmem hmatch
  have hpos := List.length_pos_of_mem hmem
  refine ⟨h.order, ?_, (Nat.sub_le _ _).trans h.bound, fun job hjob => ⟨hjob,
    (h.inFlight job hjob).flight, (h.inFlight job hjob).begun⟩, h.unwound, h.idle, h.closed,
    h.drained, h.landing, h.interrupted⟩
  have := h.credits
  simp only [inHand] at this ⊢
  omega

theorem Accounted.close (h : Accounted s) : Accounted { s with shared := s.shared.close } :=
  ⟨h.order, h.credits, h.bound, fun job hjob => ⟨hjob, (h.inFlight job hjob).flight,
    (h.inFlight job hjob).begun⟩, h.unwound, h.idle, fun _ => rfl, h.drained, h.landing,
    h.interrupted⟩

/-- The job in flight shows whether its write has begun. -/
theorem Accounted.flight_begun (h : Accounted s) {f : Flight} (hf : s.shared.flight = some f) :
    f.progress.afterWriting = s.begun := by
  cases hjob : s.stage.job with
  | some job =>
    obtain ⟨p, hp, hbegun⟩ := (h.inFlight job hjob).flight
    cases hp.symm.trans hf
    exact hbegun
  | none =>
    by_cases hs : s.stage = .unwound
    · exact h.unwound hs f hf
    · have hidle : s.stage = .waiting ∨ s.stage.ending := by
        cases hstage : s.stage <;> simp_all [WorkerStage.job, WorkerStage.ending]
      exact absurd ((h.idle hidle).symm.trans hf) (Option.some_ne_none _).symm

/-- A panic leaves the shared state as it is. -/
theorem Accounted.panic (h : Accounted s) (disk : Option JournalFile) :
    Accounted (s.panic disk) := by
  have unwinds : s.stage.held = none → s.stage.ending = false →
      Accounted { s with stage := .unwound, disk := disk } := by
    intro hheld hending
    refine ⟨?_, ?_, h.bound, fun _ h => (by cases h), ?_, ?_, fun h => (by cases h), ?_,
      fun _ _ h => (by cases h), h.interrupted⟩
    · have := h.order
      simp only [inHand, hheld] at this
      exact this
    · have := h.credits
      simp only [inHand, hheld] at this
      exact this
    · exact fun _ f hf => h.flight_begun hf
    · rintro (h | h) <;> cases h
    · rintro (h | h) <;> cases h
  unfold JournalSystem.panic
  split <;> rename_i hs
  all_goals first
    | exact h
    | exact unwinds (by rw [hs]; rfl) (by rw [hs]; rfl)

theorem JournalSystem.log_takeJob (s : JournalSystem F) : s.takeJob.log = s.log := by
  unfold takeJob
  split
  · split <;> rfl
  · rfl

theorem JournalSystem.log_handle (s : JournalSystem F) : s.handle.log = s.log := by
  unfold handle
  simp only
  split <;> rfl

theorem JournalSystem.log_discard (s : JournalSystem F) : s.discard.log = s.log := by
  unfold discard
  split <;> rfl

end Steps

/-! ## Runs -/

section Runs

variable [Scalar F] {sha : Digest} {serde : BodySerde F R U} {s : JournalSystem F}

/-- One step of the worker keeps the account, and adds to the log. -/
theorem Accounted.work_log (h : Accounted s) (input : WorkerInput) :
    Accounted (s.work sha serde input) ∧ s.log <+: (s.work sha serde input).log := by
  cases hjob : s.stage.job with
  | some job =>
    have hs := h.inFlight job hjob
    by_cases hpublish : ∃ result, s.stage = .publishing job result
    · obtain ⟨result, hstage⟩ := hpublish
      rw [JournalSystem.work, hstage]
      exact ⟨h.complete hs.inHand (.inl rfl) fun b hb => (by cases hb), List.prefix_append _ _⟩
    · have hc : Continued job s (s.work sha serde input) :=
        work_continued hs fun result hr => hpublish ⟨result, hr⟩
      obtain ⟨events, hlog, -⟩ := hc.log
      exact ⟨h.continued hjob hc, events, hlog.symm⟩
  | none =>
    cases hstage : s.stage with
    | waiting =>
      rw [JournalSystem.work, hstage]
      exact ⟨h.takeJob hstage, s.log_takeJob ▸ List.prefix_refl _⟩
    | unwound =>
      rw [JournalSystem.work, hstage]
      exact ⟨h.handle hstage, s.log_handle ▸ List.prefix_refl _⟩
    | landing identity result =>
      have hending : s.stage.ending := by rw [hstage]; rfl
      rw [JournalSystem.work, hstage]
      refine ⟨h.complete ?_ (.inr ⟨rfl, h.closed hending⟩) fun b hb => ?_, List.prefix_append _ _⟩
      · simp [inHand, h.idle (.inr hending), hstage, WorkerStage.held]
      · cases hb
        exact h.landing identity result hstage
    | discarding =>
      rw [JournalSystem.work, hstage]
      exact ⟨h.discard hstage, s.log_discard ▸ List.prefix_refl _⟩
    | dropping job =>
      have hending : s.stage.ending := by rw [hstage]; rfl
      rw [JournalSystem.work, hstage]
      refine ⟨h.complete ?_ (.inr ⟨rfl, h.closed hending⟩) fun b hb => (by cases hb),
        List.prefix_append _ _⟩
      simp [inHand, h.idle (.inr hending), hstage, WorkerStage.held]
    | leaving =>
      have hending : s.stage.ending := by rw [hstage]; rfl
      rw [JournalSystem.work, hstage]
      refine ⟨h.ends rfl rfl rfl (by simp [inHand, hstage, WorkerStage.held]) rfl
        (h.idle (.inr hending)) (h.closed hending) (fun _ => h.drained (.inl hstage))
        fun _ _ h => (by cases h), List.prefix_refl _⟩
    | terminated =>
      rw [JournalSystem.work, hstage]
      exact ⟨h, List.prefix_refl _⟩
    | _ => simp [hstage, WorkerStage.job] at hjob

/-- An owner operation changes the shared state or is refused. -/
theorem JournalSystem.act_submit (sha : Digest) (serde : BodySerde F R U) (s : JournalSystem F)
    (identity : JobIdentity) (input : JournalInput F) :
    s.act sha serde (.submit identity input) = s ∨
      ∃ shared, s.shared.submit identity input = .ok shared ∧
        s.act sha serde (.submit identity input) =
          { s with shared := shared }.record (.submitted ⟨identity, input⟩) := by
  unfold act
  cases hsubmit : s.shared.submit identity input with
  | error e => exact .inl (by simp [hsubmit])
  | ok shared => exact .inr ⟨shared, rfl, by simp [hsubmit]⟩

theorem JournalSystem.act_take (sha : Digest) (serde : BodySerde F R U) (s : JournalSystem F)
    (identity : JobIdentity) :
    s.act sha serde (.take identity) = s ∨
      ∃ c shared, s.shared.takeMatching identity = some (c, shared) ∧
        s.act sha serde (.take identity) = { s with shared := shared } := by
  unfold act
  cases htake : s.shared.takeMatching identity with
  | none => exact .inl (by simp [htake])
  | some r => exact .inr ⟨r.1, r.2, rfl, by simp [htake]⟩

/-- **Every action keeps the account.** -/
theorem Accounted.act (h : Accounted s) (a : JournalAction F) : Accounted (s.act sha serde a) := by
  cases a with
  | submit identity input =>
    rcases s.act_submit sha serde identity input with heq | ⟨shared, hsubmit, heq⟩
    · rwa [heq]
    · rw [heq]
      exact h.submit hsubmit
  | take identity =>
    rcases s.act_take sha serde identity with heq | ⟨c, shared, htake, heq⟩
    · rwa [heq]
    · rw [heq]
      exact h.take htake
  | close => exact h.close
  | work input => exact (h.work_log input).1
  | panic disk => exact h.panic disk

theorem Accounted.foldl (h : Accounted s) (actions : List (JournalAction F)) :
    Accounted (actions.foldl (JournalSystem.act sha serde) s) := by
  induction actions generalizing s with
  | nil => exact h
  | cons a actions ih => exact ih (h.act a)

theorem Accounted.run (disk : Option JournalFile) (actions : List (JournalAction F)) :
    Accounted (JournalSystem.run sha serde disk actions) :=
  (Accounted.start disk).foldl actions

end Runs

end Marengo

import Marengo.Gateway.Management
import Marengo.Lib.History

/-!
# The gate of pending writes

The runtime reports each write that it accepts as pending and later as durable or failed, under the
session of its request. `Waiting` says of a history of frames that a request is reported pending and
not yet concluded. The gateway has one flag for all requests, and the conclusion of any request clears
it. So the flag is sound where no request is concluded while another one waits (`ConcludedAlone`), and
then no management command goes through while a request waits.
-/

namespace Marengo

variable {P : Type} [FramePayload P]

/-! ## Histories -/

/-- What reaches the gateway from the runtime. -/
inductive GatewayInput (P : Type)
  | frame (topic : String) (payload : P)
  | connection (connected : Bool)

def AppState.ingest (s : AppState P) : GatewayInput P → AppState P
  | .frame topic payload => s.ingestRuntimeFrame topic payload
  | .connection connected => s.runtimeConnectionChanged connected

def AppState.after (history : List (GatewayInput P)) : AppState P := history.foldl ingest {}

/-- The status of a write that an input reports, with the session of its request. -/
def GatewayInput.report : GatewayInput P → Option (String × PersistStatus)
  | .frame topic payload => AppState.persistReport topic payload
  | .connection _ => none

/-- The input reports the write of the request as durable or as failed. -/
def GatewayInput.Concludes (input : GatewayInput P) (request : String) : Prop :=
  input.report = some (request, .durable) ∨ input.report = some (request, .failed)

/-- The request is reported pending and has not been concluded since. -/
def Waiting (history : List (GatewayInput P)) (request : String) : Prop :=
  ∃ before input after, history = before ++ input :: after ∧
    input.report = some (request, .pending) ∧ ∀ later ∈ after, ¬later.Concludes request

/-- A write has failed and none has been durable since. -/
def Unrepaired (history : List (GatewayInput P)) : Prop :=
  ∃ before input after request, history = before ++ input :: after ∧
    input.report = some (request, .failed) ∧
    ∀ later ∈ after, ∀ other, later.report ≠ some (other, .durable)

/-- No request is concluded while another one waits. -/
def ConcludedAlone (history : List (GatewayInput P)) : Prop :=
  ∀ before input after request, history = before ++ input :: after → input.Concludes request →
    ∀ other, Waiting before other → other = request

variable {history : List (GatewayInput P)} {input : GatewayInput P} {request : String}

theorem ConcludedAlone.init (h : ConcludedAlone (history ++ [input])) : ConcludedAlone history := by
  intro before i after request heq
  exact h before i (after ++ [input]) request (by rw [heq, List.append_assoc, List.cons_append])

/-- One more input leaves requests concluded alone if none but its own waits. -/
theorem ConcludedAlone.concat (h : ConcludedAlone history)
    (hlast : ∀ request, input.Concludes request → ∀ other, Waiting history other → other = request) :
    ConcludedAlone (history ++ [input]) := by
  intro before i after request heq hconcludes other hwaiting
  rcases History.concat_eq_split heq with ⟨rfl, rfl, -⟩ | ⟨rest, rfl, hrest⟩
  · exact hlast request hconcludes other hwaiting
  · exact h before i rest request hrest hconcludes other hwaiting

/-- The request that waits after one more input is reported by it, or has waited before. -/
theorem Waiting.last (h : Waiting (history ++ [input]) request) :
    input.report = some (request, .pending) ∨ Waiting history request ∧ ¬input.Concludes request := by
  obtain ⟨before, i, after, heq, hpending, hopen⟩ := h
  rcases History.concat_eq_split heq with ⟨-, rfl, -⟩ | ⟨rest, rfl, hrest⟩
  · exact .inl hpending
  · refine .inr ⟨⟨before, i, rest, hrest, hpending, ?_⟩, hopen _ (by simp)⟩
    intro later hlater
    exact hopen later (List.mem_append_left _ hlater)

theorem Unrepaired.last (h : Unrepaired (history ++ [input])) :
    (∃ request, input.report = some (request, .failed)) ∨
      Unrepaired history ∧ ∀ other, input.report ≠ some (other, .durable) := by
  obtain ⟨before, i, after, request, heq, hfailed, hopen⟩ := h
  rcases History.concat_eq_split heq with ⟨-, rfl, -⟩ | ⟨rest, rfl, hrest⟩
  · exact .inl ⟨request, hfailed⟩
  · refine .inr ⟨⟨before, i, rest, request, hrest, hfailed, ?_⟩, hopen _ (by simp)⟩
    intro later hlater
    exact hopen later (List.mem_append_left _ hlater)

theorem not_waiting (h : ∀ i ∈ history, i.report = none) : ¬Waiting history request := by
  rintro ⟨before, i, after, rfl, hpending, -⟩
  rw [h i (by simp)] at hpending
  cases hpending

theorem not_unrepaired_nil : ¬Unrepaired ([] : List (GatewayInput P)) := by
  rintro ⟨before, i, after, request, heq, -⟩
  simp at heq

/-! ## The flags -/

/-- What the gateway makes of the pending flag. -/
def pendingAfter (pending : Bool) : Option (String × PersistStatus) → Bool
  | some (_, .pending) => true
  | some (_, .durable) => false
  | some (_, .failed) => false
  | _ => pending

/-- What the gateway makes of the degraded flag. -/
def degradedAfter (degraded : Bool) : Option (String × PersistStatus) → Bool
  | some (_, .durable) => false
  | some (_, .failed) => true
  | _ => degraded

theorem after_concat : AppState.after (history ++ [input]) = (AppState.after history).ingest input := by
  rw [AppState.after, List.foldl_append]
  rfl

/-- The flags follow the reports, whatever else the gateway takes. -/
theorem ingest_flags (s : AppState P) (input : GatewayInput P) :
    (s.ingest input).persistPending = pendingAfter s.persistPending input.report ∧
      (s.ingest input).persistDegraded = degradedAfter s.persistDegraded input.report := by
  cases input with
  | connection connected => exact ⟨rfl, rfl⟩
  | frame topic payload =>
    simp only [AppState.ingest, AppState.ingestRuntimeFrame, AppState.updateSnapshot,
      GatewayInput.report]
    cases AppState.persistReport topic payload with
    | none => exact ⟨rfl, rfl⟩
    | some report =>
      obtain ⟨request, status⟩ := report
      cases status <;> exact ⟨rfl, rfl⟩

/-- An input that concludes no request keeps a pending flag. -/
theorem pendingAfter_of_open (h : ∀ request, ¬input.Concludes request) :
    pendingAfter true input.report = true := by
  cases hreport : input.report with
  | none => rfl
  | some report =>
    obtain ⟨request, status⟩ := report
    cases status with
    | durable => exact absurd (.inl hreport) (h request)
    | failed => exact absurd (.inr hreport) (h request)
    | _ => rfl

/-- The pending flag is up while a request waits. -/
theorem pending_of_waiting (halone : ConcludedAlone history) (hwaiting : Waiting history request) :
    (AppState.after history).persistPending = true := by
  induction history using List.reverseRecOn with
  | nil => exact absurd hwaiting (not_waiting (List.forall_mem_nil _))
  | append_singleton history input ih =>
    rw [after_concat, (ingest_flags _ input).1]
    rcases hwaiting.last with hpending | ⟨hwaiting, hopen⟩
    · rw [hpending]
      rfl
    · rw [ih halone.init hwaiting]
      apply pendingAfter_of_open
      -- an input that concludes another request does not come while this one waits
      intro other hconcludes
      have hsame := halone history input [] other rfl hconcludes request hwaiting
      exact hopen (hsame ▸ hconcludes)

/-- The degraded flag is up while no write has repaired a failed one. -/
theorem degraded_of_unrepaired (h : Unrepaired history) :
    (AppState.after history).persistDegraded = true := by
  induction history using List.reverseRecOn with
  | nil => exact absurd h not_unrepaired_nil
  | append_singleton history input ih =>
    rw [after_concat, (ingest_flags _ input).2]
    rcases h.last with ⟨request, hfailed⟩ | ⟨h, hnone⟩
    · rw [hfailed]
      rfl
    · rw [ih h]
      cases hreport : input.report with
      | none => rfl
      | some report =>
        obtain ⟨request, status⟩ := report
        cases status with
        | durable => exact absurd hreport (hnone request)
        | _ => rfl

/-! ## The commands -/

/-- The command had no effect, and its response does not claim one. -/
structure ManagementOutcome.Refused {B : Type} (succeeded : B → Bool) (o : ManagementOutcome B) :
    Prop where
  effects : o.effects = []
  response : ∀ status body, o.response = .ok (status, body) → succeeded body = false

omit [FramePayload P] in
theorem refused_refuse {B : Type} {succeeded : B → Bool} {status : HttpStatus} {body : B}
    (h : succeeded body = false) : (ManagementOutcome.refuse status body).Refused succeeded := by
  refine ⟨rfl, fun status' body' heq => ?_⟩
  cases heq
  exact h

/-- Every management command is refused. -/
structure AppState.Closed (s : AppState P) : Prop where
  restart : ∀ answers body, (postRestartMarengoPi s answers body).Refused (·.ok)
  deploy : ∀ answers body, (postControlDeploy s answers body).Refused (·.ok)
  activate : ∀ answers body, (postActivate s answers body).Refused (·.ok)

/-- A flag that is up closes the gate. -/
theorem AppState.closed_of_flags {s : AppState P}
    (h : s.persistPending = true ∨ s.persistDegraded = true) : s.Closed where
  restart := by
    intro answers body
    have hflags : (s.persistPending || s.persistDegraded) = true := by simpa using h
    unfold postRestartMarengoPi
    rw [hflags, if_pos rfl]
    split
    · exact refused_refuse rfl
    · split
      · exact refused_refuse rfl
      · exact refused_refuse rfl
  deploy := by
    intro answers body
    unfold postControlDeploy
    split
    · exact refused_refuse rfl
    · split
      · exact refused_refuse rfl
      · split
        · exact refused_refuse rfl
        · split
          · exact refused_refuse rfl
          · rename_i hdegraded
            rw [if_pos (h.resolve_right hdegraded)]
            exact refused_refuse rfl
  activate := by
    intro answers body
    have hflags : (s.persistPending || s.persistDegraded) = true := by simpa using h
    unfold postActivate
    split
    · exact ⟨rfl, fun status body heq => by cases heq⟩
    · rw [hflags, if_pos rfl]
      split
      · exact refused_refuse rfl
      · exact refused_refuse rfl

/-- The gate of pending writes. Where no request is concluded while another one waits, the pending
flag is up as long as any request waits. Then, and after a failed write until one is durable, no
management command goes through. -/
theorem persist_gate (history : List (GatewayInput P)) (halone : ConcludedAlone history) :
    (∀ request, Waiting history request → (AppState.after history).persistPending = true) ∧
    ((∃ request, Waiting history request) ∨ Unrepaired history → (AppState.after history).Closed) := by
  refine ⟨fun request => pending_of_waiting halone, ?_⟩
  rintro (⟨request, hwaiting⟩ | h)
  · exact AppState.closed_of_flags (.inl (pending_of_waiting halone hwaiting))
  · exact AppState.closed_of_flags (.inr (degraded_of_unrepaired h))

/-! ## Two requests -/

inductive BenchFrame
  | action (event : ActionEvent)
  | safety (mode : Int)
  | heartbeat (timestampMs : ℕ)

instance : FramePayload BenchFrame where
  action
    | .action event => some event
    | _ => none
  safetyMode
    | .safety mode => some mode
    | _ => none
  heartbeatMs
    | .heartbeat timestampMs => some timestampMs
    | _ => none

def BenchFrame.reports (sessionId action : String) (status : PersistStatus) :
    GatewayInput BenchFrame :=
  .frame topicAuditAction (.action
    { timestampMs := 1
      sessionId := sessionId
      operatorId := "operator"
      joint := "elbow"
      action := action
      revision := 1
      accepted := true
      rejectReason := ""
      persistStatus := status.number
      configRevision := "" })

def BenchFrame.idle : List (GatewayInput BenchFrame) :=
  [.connection true, .frame topicSafety (.safety 2), .frame topicHeartbeat (.heartbeat 1000)]

/-- The second request is accepted after the first has been written. -/
def BenchFrame.sequential : List (GatewayInput BenchFrame) :=
  idle ++ [reports "first" "limit_patch" .pending] ++
    [reports "first" "limit_patch_persist" .durable] ++ [reports "second" "limit_patch" .pending]

/-- The second request is accepted while the first is being written. -/
def BenchFrame.overlapping : List (GatewayInput BenchFrame) :=
  idle ++ [reports "first" "limit_patch" .pending] ++ [reports "second" "limit_patch" .pending] ++
    [reports "first" "limit_patch_persist" .durable]

theorem idle_report : ∀ i ∈ BenchFrame.idle, i.report = none := by decide

theorem reports_report {session action : String} {status : PersistStatus} :
    (BenchFrame.reports session action status).report = some (session, status) := by
  simp [BenchFrame.reports, GatewayInput.report, AppState.persistReport, FramePayload.action]

theorem reports_concludes {session action request : String} {status : PersistStatus}
    (h : (BenchFrame.reports session action status).Concludes request) :
    session = request ∧ status ≠ .pending := by
  rcases h with h | h
  · cases reports_report.symm.trans h
    exact ⟨rfl, by decide⟩
  · cases reports_report.symm.trans h
    exact ⟨rfl, by decide⟩

theorem sequential_alone : ConcludedAlone BenchFrame.sequential := by
  have hidle : ConcludedAlone BenchFrame.idle := by
    intro before input after request heq hconcludes
    have hnone := idle_report input (by rw [heq]; simp)
    rcases hconcludes with h | h <;> rw [hnone] at h <;> cases h
  refine ((hidle.concat ?_).concat ?_).concat ?_
  · intro request h
    exact absurd rfl (reports_concludes h).2
  · intro request h other hwaiting
    rcases hwaiting.last with hpending | ⟨hwaiting, -⟩
    · cases reports_report.symm.trans hpending
      exact (reports_concludes h).1
    · exact absurd hwaiting (not_waiting idle_report)
  · intro request h
    exact absurd rfl (reports_concludes h).2

/-- The gateway refuses a restart while the second request waits. -/
theorem persist_gate_bench :
    ConcludedAlone BenchFrame.sequential ∧ (AppState.after BenchFrame.sequential).Closed := by
  refine ⟨sequential_alone, (persist_gate BenchFrame.sequential sequential_alone).2 (.inl ?_)⟩
  exact ⟨"second", _, _, [], rfl, reports_report, List.forall_mem_nil _⟩

/-- The second request waits, but the flag is down and a restart goes through. -/
theorem persist_gate_overlap :
    Waiting BenchFrame.overlapping "second" ∧
      (AppState.after BenchFrame.overlapping).persistPending = false ∧
      (postRestartMarengoPi (AppState.after BenchFrame.overlapping)
        ⟨1000, false, "restart.sh", true, .ended ⟨true, "", ""⟩⟩ ⟨true⟩).effects =
          [.runScript "restart.sh"] := by
  refine ⟨⟨_, BenchFrame.reports "second" "limit_patch" .pending, _, List.append_assoc _ _ _,
    reports_report, ?_⟩, by decide, by decide⟩
  intro later hlater hconcludes
  cases List.mem_singleton.mp hlater
  exact absurd (reports_concludes hconcludes).1 (by decide)

end Marengo

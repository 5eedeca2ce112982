import Marengo.Pi.GravityPreflight
import Marengo.Lib.Machine

/-!
# The enable gate

An Enable is reported once it completes, or refused at its deadline; Position-mode arms wait for it in
order. An Enable is answered once unless another one begins before it is (`enable_gate_answers`): the
gate has one place for it, and forgets the first (`second_enable_forgets`).
-/

namespace Marengo

open Machine

variable {F L E R : Type}

def enableCompletionTimeout : Duration := millis 2000

inductive PiCommand (F : Type)
  | home
  | homeJoints (joints : List String) (signTested : Bool)
  | enable (operatorId : String)
  | disable
  | gravityOn
  | gravityOff
  | torqueCmd (joint : String) (tauNm : F)
  | impedanceOn
  | impedanceOff
  | holdOn
  | holdAt (joint : Option String) (positionRad : F) (speedFraction : Option F)
  | wave (joint : String) (minRad maxRad : F) (cycles : ℕ) (halfPeriodSec : F)
  | holdOff
  | lower
  | status
  | quit

def armName : PiCommand F → String
  | .holdOn => "hold-on"
  | .holdAt .. => "hold-at"
  | .wave .. => "wave"
  | _ => "command"

inductive GateLine
  | out (text : String)
  | err (text : String)

/-- What the gate asks of the control loop, whose errors are `E`. -/
structure GateLoop (F L E : Type) where
  enableCompletion : L → Except E Unit
  active : L → Bool
  /-- Forbids implicit enables, stops every drive and leaves the control mode Disabled; the error of
  the stop. -/
  stop : L → Option String × L
  runArm : PiCommand F → L → Except E (List GateLine) × L
  /-- The detail of an `EnableIncomplete`. -/
  incomplete : E → Option String
  display : E → String

/-- What runs once the gravity preflight passes; the requests of Chappe are `R`. -/
inductive PreflightFor (R : Type)
  | stdinEnable (operatorId : String)
  | chappe (request : R)

/-- The request that waits for the preflight, and what waits behind it. -/
structure PreflightHold (F R : Type) where
  preflight : Option (PreflightFor R) := none
  deferredStdin : List (PiCommand F) := []
  deferredChappe : List R := []
  unreported : List (PreflightFor R × Option SweepAbort) := []

structure PendingEnable where
  operatorId : String
  targets : List String
  deadline : Instant

structure DeferredArm (F : Type) where
  cmd : PiCommand F
  deadline : Instant

structure EnableGate (F R : Type) extends PreflightHold F R where
  enable : Option PendingEnable := none
  deferred : List (DeferredArm F) := []

inductive GateReport (F : Type)
  | preflightRefused (abort : Option SweepAbort)
  | discarded (count : ℕ)
  | enableWaits (pending : PendingEnable)
  | enabled (pending : PendingEnable)
  | enableFailed (pending : PendingEnable) (message : String)
  | armWaits (arm : DeferredArm F) (detail : Option String)
  | armRan (arm : DeferredArm F) (lines : List GateLine)
  | armFailed (arm : DeferredArm F) (message : String)

def GateReport.lines (abortText : SweepAbort → String) : GateReport F → List GateLine
  | .preflightRefused none =>
    [.err "enable refused: gravity saturation preflight failed closed"]
  | .preflightRefused (some abort) =>
    [.err ("enable refused: gravity saturation preflight aborted: " ++ abortText abort)]
  | .discarded count => [.out ("discarded " ++ toString count ++ " deferred command(s)")]
  | .enableWaits p => [.out ("waiting for enable to complete (operator=" ++ p.operatorId ++
      ") targets=" ++ ",".intercalate p.targets)]
  | .enabled p => [.out ("enabled (operator=" ++ p.operatorId ++ ") targets=" ++
      ",".intercalate p.targets)]
  | .enableFailed _ message => [.err ("enable failed: " ++ message)]
  | .armWaits arm detail => [.out (armName arm.cmd ++ " waiting for enable to complete" ++
      (detail.map (": " ++ ·)).getD "")]
  | .armRan _ lines => lines
  | .armFailed arm message => [.err (armName arm.cmd ++ " failed: " ++ message)]

/-- The reports of a call, the arms it tries to run, and the loop it leaves. -/
structure GateAnswer (F L : Type) where
  reports : List (GateReport F) := []
  tried : List (DeferredArm F) := []
  loop : Option L := none

/-- The sweep refused or was voided: its request is refused and every held command discarded. -/
def PreflightHold.endPreflight (self : PreflightHold F R) (abort : Option SweepAbort) :
    List (GateReport F) × PreflightHold F R :=
  match self.preflight with
  | none => ([], self)
  | some then_ =>
    let discarded := if self.deferredStdin.isEmpty then [] else
      [.discarded self.deferredStdin.length]
    match then_ with
    | .stdinEnable _ => (.preflightRefused abort :: discarded, { unreported := self.unreported })
    | _ => (discarded, { unreported := self.unreported ++ [(then_, abort)] })

namespace EnableGate

variable (loop : GateLoop F L E) (self : EnableGate F R)

/-- The loop accepted the targets; `enabled` follows once complete. -/
def beginEnable (operatorId : String) (targets : List String) (now : Instant) :
    GateAnswer F L × EnableGate F R :=
  let pending : PendingEnable := ⟨operatorId, targets, now + enableCompletionTimeout⟩
  ({ reports := [.enableWaits pending] }, { self with enable := some pending })

/-- Runs a Position-mode arm now, or defers it. -/
def submit (l : L) (cmd : PiCommand F) (now : Instant) : GateAnswer F L × EnableGate F R :=
  let arm : DeferredArm F := ⟨cmd, now + enableCompletionTimeout⟩
  if self.enable.isSome || !self.deferred.isEmpty then
    ({ reports := [.armWaits arm none] }, { self with deferred := self.deferred ++ [arm] })
  else match loop.runArm cmd l with
    | (.ok lines, l) => (⟨[.armRan arm lines], [arm], l⟩, self)
    | (.error error, l) => match loop.incomplete error with
      | some detail => (⟨[.armWaits arm detail], [arm], l⟩,
          { self with deferred := self.deferred ++ [arm] })
      | none => (⟨[.armFailed arm (loop.display error)], [arm], l⟩, self)

/-- Retries deferred arms in order, until one still has to wait. -/
def retry (now : Instant) : List (DeferredArm F) → L → GateAnswer F L × List (DeferredArm F)
  | [], l => ({ loop := some l }, [])
  | arm :: rest, l =>
    match loop.runArm arm.cmd l with
    | (.ok lines, l) =>
      let r := retry now rest l
      (⟨.armRan arm lines :: r.1.reports, arm :: r.1.tried, r.1.loop⟩, r.2)
    | (.error error, l) =>
      if (loop.incomplete error).isSome ∧ now < arm.deadline then (⟨[], [arm], l⟩, arm :: rest)
      else
        let bound := if (loop.incomplete error).isSome then " (no completion within " ++
          toString (enableCompletionTimeout / 1000000) ++ " ms)" else ""
        let r := retry now rest l
        (⟨.armFailed arm (loop.display error ++ bound) :: r.1.reports, arm :: r.1.tried, r.1.loop⟩,
          r.2)

def refuseDeferred (reason : String) : List (GateReport F) := self.deferred.map (.armFailed · reason)

/-- After each control tick: reports a completed Enable, refuses one past its bound, then retries the
deferred arms. -/
def poll (l : L) (now : Instant) : GateAnswer F L × EnableGate F R :=
  match self.enable with
  | none =>
    let r := retry loop now self.deferred l
    (r.1, { self with deferred := r.2 })
  | some pending => match loop.enableCompletion l with
    | .ok () =>
      let r := retry loop now self.deferred l
      ({ r.1 with reports := .enabled pending :: r.1.reports },
        { self with enable := none, deferred := r.2 })
    | .error error =>
      if loop.active l ∧ now < pending.deadline then ({ loop := some l }, self)
      else
        let message := if loop.active l then "not complete within " ++
          toString (enableCompletionTimeout / 1000000) ++ " ms: " ++ loop.display error
          else loop.display error
        let stopped := loop.stop l
        let undelivered := (stopped.1.map ("; stop NOT delivered to every drive: " ++ ·)).getD ""
        (⟨.enableFailed pending (message ++ undelivered) ::
            self.refuseDeferred "enable did not complete", [], stopped.2⟩,
          { self with enable := none, deferred := [] })

/-- `hold-off`: deferred arms must not re-arm Position mode afterwards. -/
def cancelArms (reason : String) : GateAnswer F L × EnableGate F R :=
  ({ reports := self.refuseDeferred reason }, { self with deferred := [] })

/-- Disable: nothing that waits survives it. -/
def cancel : GateAnswer F L × EnableGate F R :=
  let ended := self.endPreflight (some .disabled)
  ({ reports := ended.1 ++
      (self.enable.map (.enableFailed · "disabled before enable completed")).toList ++
      self.refuseDeferred "disabled before enable completed" }, { toPreflightHold := ended.2 })

end EnableGate

/-! ## Runs -/

/-- A call, with the loop as it is then. Whatever else is done to the gate is done to what waits for
the preflight. -/
inductive GateCall (F L R : Type)
  | beginEnable (operatorId : String) (targets : List String) (now : Instant)
  | submit (l : L) (cmd : PiCommand F) (now : Instant)
  | poll (l : L) (now : Instant)
  | cancelArms (reason : String)
  | cancel
  | onPreflight (f : PreflightHold F R → PreflightHold F R)

def EnableGate.step (loop : GateLoop F L E) (g : EnableGate F R) :
    GateCall F L R → GateAnswer F L × EnableGate F R
  | .beginEnable operatorId targets now => g.beginEnable operatorId targets now
  | .submit l cmd now => g.submit loop l cmd now
  | .poll l now => g.poll loop l now
  | .cancelArms reason => g.cancelArms reason
  | .cancel => g.cancel
  | .onPreflight f => ({}, { g with toPreflightHold := f g.toPreflightHold })

abbrev GateTurn (F L R : Type) := Turn (EnableGate F R) (GateCall F L R) (GateAnswer F L)

namespace GateReport

@[simp] def answers : List (GateReport F) → List PendingEnable
  | [] => []
  | .enabled p :: rest | .enableFailed p _ :: rest => p :: answers rest
  | _ :: rest => answers rest

/-- The arms whose outcome is among the reports. -/
@[simp] def settles : List (GateReport F) → List (DeferredArm F)
  | [] => []
  | .armRan arm _ :: rest | .armFailed arm _ :: rest => arm :: settles rest
  | _ :: rest => settles rest

theorem answers_append (rs rs' : List (GateReport F)) :
    answers (rs ++ rs') = answers rs ++ answers rs' := by
  fun_induction answers rs <;> simp_all

theorem settles_append (rs rs' : List (GateReport F)) :
    settles (rs ++ rs') = settles rs ++ settles rs' := by
  fun_induction settles rs <;> simp_all

end GateReport

namespace GateTurn

variable (t : GateTurn F L R)

def begun : List PendingEnable :=
  match t.input with
  | .beginEnable operatorId targets now => [⟨operatorId, targets, now + enableCompletionTimeout⟩]
  | _ => []

def answered : List PendingEnable := GateReport.answers t.output.reports

/-- The Enable whose place another one takes. -/
def forgotten : List PendingEnable :=
  match t.input with
  | .beginEnable .. => t.before.enable.toList
  | _ => []

def submitted : List (DeferredArm F) :=
  match t.input with
  | .submit _ cmd now => [⟨cmd, now + enableCompletionTimeout⟩]
  | _ => []

def settled : List (DeferredArm F) := GateReport.settles t.output.reports

/-- After a poll the Enable that is pending is not past its deadline, and neither is the first arm,
unless an Enable is pending. -/
def Prompt : Prop :=
  match t.input with
  | .poll _ now => (∀ p, t.after.enable = some p → now < p.deadline) ∧
      (t.after.enable = none → ∀ arm, t.after.deferred.head? = some arm → now < arm.deadline)
  | _ => True

/-- What a turn takes in and lets go. -/
structure Orderly : Prop where
  enables : t.before.enable.toList ++ begun t = (answered t ++ forgotten t) ++ t.after.enable.toList
  arms : t.before.deferred ++ submitted t = settled t ++ t.after.deferred
  tried : t.output.tried ⊆ t.before.deferred ++ submitted t
  prompt : Prompt t

end GateTurn

namespace EnableGate

attribute [local simp] turn step GateTurn.begun GateTurn.answered GateTurn.forgotten
  GateTurn.submitted GateTurn.settled GateTurn.Prompt

variable (loop : GateLoop F L E)

/-- The reports of a retry are the outcomes of the arms that no longer wait. -/
theorem retry_spec (now : Instant) (arms : List (DeferredArm F)) (l : L) :
    let r := retry loop now arms l
    GateReport.answers r.1.reports = [] ∧ arms = GateReport.settles r.1.reports ++ r.2 ∧
      r.1.tried ⊆ arms ∧ ∀ arm, r.2.head? = some arm → now < arm.deadline := by
  induction arms generalizing l with
  | nil => simp [retry]
  | cons arm rest ih =>
    rw [retry]
    split
    · rename_i lines l' _
      obtain ⟨hanswers, hsettles, htried, hprompt⟩ := ih l'
      exact ⟨hanswers, congrArg (arm :: ·) hsettles, List.cons_subset_cons _ htried, hprompt⟩
    · rename_i error l' _
      split
      · rename_i hwaits
        exact ⟨rfl, rfl, by simp, fun _ h => Option.some.inj h ▸ hwaits.2⟩
      · obtain ⟨hanswers, hsettles, htried, hprompt⟩ := ih l'
        exact ⟨hanswers, congrArg (arm :: ·) hsettles, List.cons_subset_cons _ htried, hprompt⟩

variable (g : EnableGate F R)

theorem settles_refuseDeferred (reason : String) :
    GateReport.settles (g.refuseDeferred reason) = g.deferred ∧
      GateReport.answers (g.refuseDeferred reason) = [] := by
  unfold refuseDeferred
  induction g.deferred with
  | nil => exact ⟨rfl, rfl⟩
  | cons arm rest ih => simp [ih]

theorem poll_orderly (l : L) (now : Instant) :
    GateTurn.Orderly (turn (step loop) g (.poll l now)) := by
  obtain ⟨hanswers, hsettles, htried, hprompt⟩ := retry_spec loop now g.deferred l
  cases henable : g.enable with
  | none =>
    have hrun : g.poll loop l now = ((retry loop now g.deferred l).1,
        { g with deferred := (retry loop now g.deferred l).2 }) := by
      simp only [poll, henable]
    constructor
    · simp [hrun, hanswers]
    · simpa [hrun] using hsettles
    · simpa [hrun] using htried
    · simpa [hrun, henable] using hprompt
  | some pending =>
    cases hcompletion : loop.enableCompletion l with
    | ok _ =>
      have hrun : g.poll loop l now = (⟨.enabled pending :: (retry loop now g.deferred l).1.reports,
          (retry loop now g.deferred l).1.tried, (retry loop now g.deferred l).1.loop⟩,
          { g with enable := none, deferred := (retry loop now g.deferred l).2 }) := by
        simp only [poll, henable, hcompletion]
      constructor
      · simp [hrun, henable, hanswers]
      · simpa [hrun] using hsettles
      · simpa [hrun] using htried
      · simpa [hrun] using hprompt
    | error error =>
      by_cases hwaits : loop.active l ∧ now < pending.deadline
      · have hrun : g.poll loop l now = ({ loop := some l }, g) := by
          simp only [poll, henable, hcompletion, if_pos hwaits]
        constructor <;> simp [hrun, henable, hwaits.2]
      · have hrun : ∃ message l', g.poll loop l now = (⟨.enableFailed pending message ::
            g.refuseDeferred "enable did not complete", [], l'⟩,
            { g with enable := none, deferred := [] }) := by
          simp only [poll, henable, hcompletion, if_neg hwaits]
          exact ⟨_, _, rfl⟩
        obtain ⟨message, l', hrun⟩ := hrun
        obtain ⟨hsettled, hanswered⟩ := g.settles_refuseDeferred "enable did not complete"
        constructor <;> simp [hrun, henable, hsettled, hanswered]

theorem submit_orderly (l : L) (cmd : PiCommand F) (now : Instant) :
    GateTurn.Orderly (turn (step loop) g (.submit l cmd now)) := by
  by_cases hwaits : (g.enable.isSome || !g.deferred.isEmpty) = true
  · constructor <;> simp [submit, hwaits]
  · have hfree : g.enable = none ∧ g.deferred = [] := by
      simpa [not_or] using hwaits
    cases harm : loop.runArm cmd l with
    | mk result l' =>
      cases result with
      | ok lines => constructor <;> simp [submit, hfree, harm]
      | error error =>
        cases hincomplete : loop.incomplete error <;> constructor <;>
          simp [submit, hfree, harm, hincomplete]

theorem step_orderly (call : GateCall F L R) : GateTurn.Orderly (turn (step loop) g call) := by
  cases call with
  | poll l now => exact g.poll_orderly loop l now
  | submit l cmd now => exact g.submit_orderly loop l cmd now
  | beginEnable operatorId targets now => constructor <;> simp [beginEnable]
  | cancelArms reason =>
    obtain ⟨hsettled, hanswered⟩ := g.settles_refuseDeferred reason
    constructor <;> simp [cancelArms, hsettled, hanswered]
  | cancel =>
    obtain ⟨hsettled, hanswered⟩ := g.settles_refuseDeferred "disabled before enable completed"
    have hended : GateReport.answers (g.endPreflight (some .disabled)).1 = [] ∧
        GateReport.settles (g.endPreflight (some .disabled)).1 = [] := by
      unfold PreflightHold.endPreflight
      cases g.preflight with
      | none => exact ⟨rfl, rfl⟩
      | some then_ => cases then_ <;> cases g.deferredStdin <;> exact ⟨rfl, rfl⟩
    constructor <;> cases henable : g.enable <;>
      simp [cancel, henable, hsettled, hanswered, hended.1, hended.2, GateReport.answers_append,
        GateReport.settles_append]
  | onPreflight f => constructor <;> simp

/-- Only arms that wait already or are submitted in the run are tried in it. -/
theorem tried_subset (calls : List (GateCall F L R)) :
    ∀ t ∈ turns (step loop) g calls,
      t.output.tried ⊆ g.deferred ++ (turns (step loop) g calls).flatMap GateTurn.submitted := by
  induction calls generalizing g with
  | nil => exact fun t ht => absurd ht List.not_mem_nil
  | cons call calls ih =>
    have hturn := g.step_orderly loop call
    rw [turns, List.flatMap_cons, ← List.append_assoc, List.forall_mem_cons]
    have hwaits : (step loop g call).2.deferred ⊆
        g.deferred ++ GateTurn.submitted (turn (step loop) g call) := by
      rw [show g.deferred ++ GateTurn.submitted (turn (step loop) g call) = _ from hturn.arms]
      exact List.subset_append_right ..
    refine ⟨List.Subset.trans hturn.tried (List.subset_append_left ..), fun t ht => ?_⟩
    refine List.Subset.trans (ih _ t ht) (List.append_subset.2 ⟨?_, List.subset_append_right ..⟩)
    exact List.Subset.trans hwaits (List.subset_append_left ..)

end EnableGate

/-- **The gate answers.** In every run from a fresh gate: the Enables that are answered and the one
that is pending are those that were begun, in order, exactly if none is begun while another is
pending; the arms that got their outcome and then those that wait are the submitted ones, in order; a
poll leaves nothing pending that is past its deadline; and what is tried after a cancel was submitted
after it. -/
theorem enable_gate_answers (loop : GateLoop F L E) (calls later : List (GateCall F L R)) :
    ((turns (EnableGate.step loop) {} calls).flatMap GateTurn.answered ++
          (final (EnableGate.step loop) {} calls).enable.toList =
        (turns (EnableGate.step loop) {} calls).flatMap GateTurn.begun ↔
      ∀ t ∈ turns (EnableGate.step loop) {} calls, GateTurn.forgotten t = []) ∧
    (turns (EnableGate.step loop) {} calls).flatMap GateTurn.submitted =
      (turns (EnableGate.step loop) {} calls).flatMap GateTurn.settled ++
        (final (EnableGate.step loop) {} calls).deferred ∧
    (∀ t ∈ turns (EnableGate.step loop) {} calls, GateTurn.Prompt t) ∧
    ∀ t ∈ turns (EnableGate.step loop) (final (EnableGate.step loop) {} (calls ++ [.cancel])) later,
      t.output.tried ⊆ (turns (EnableGate.step loop)
        (final (EnableGate.step loop) {} (calls ++ [.cancel])) later).flatMap
          GateTurn.submitted := by
  have henables := conserved (fun g : EnableGate F R => g.enable.toList) GateTurn.begun
    (fun t => GateTurn.answered t ++ GateTurn.forgotten t)
    (fun g i => (g.step_orderly loop i).enables) {} calls
  refine ⟨?_, conserved EnableGate.deferred _ _ (fun g i => (g.step_orderly loop i).arms) {} calls,
    forall_turns (I := fun _ => True) (fun _ _ _ => trivial)
      (fun g i _ => (g.step_orderly loop i).prompt) trivial calls, ?_⟩
  · generalize turns (EnableGate.step loop) {} calls = ts at henables ⊢
    rw [show ts.flatMap GateTurn.begun = _ from henables, List.append_cancel_right_eq]
    -- the two lists differ by what is forgotten
    have hlength : ∀ us : List (GateTurn F L R),
        (us.flatMap fun t => GateTurn.answered t ++ GateTurn.forgotten t).length =
          (us.flatMap GateTurn.answered).length + (us.flatMap GateTurn.forgotten).length := by
      intro us
      induction us with
      | nil => rfl
      | cons t us ih =>
        simp only [List.flatMap_cons, List.length_append, ih]
        omega
    constructor
    · intro hsame
      have hnone : (ts.flatMap GateTurn.forgotten).length = 0 := by
        have h := hlength ts
        rw [← hsame] at h
        omega
      exact List.flatMap_eq_nil_iff.1 (List.length_eq_zero_iff.1 hnone)
    · intro hnone
      refine List.flatMap_congr fun t ht => ?_
      rw [hnone t ht, List.append_nil]
  · have hnone : (final (EnableGate.step loop) ({} : EnableGate F R) (calls ++ [.cancel])).deferred =
        [] := by
      rw [final, List.foldl_append]
      rfl
    intro t ht
    have htried := EnableGate.tried_subset loop _ later t ht
    rwa [hnone, List.nil_append] at htried

/-- The second Enable takes the place of the first, which is never answered. -/
theorem second_enable_forgets :
    let loop : GateLoop ℚ Unit Unit :=
      ⟨fun _ => .ok (), fun _ => true, fun l => (none, l), fun _ l => (.ok [], l), fun _ => none,
        fun _ => ""⟩
    let ts := turns (EnableGate.step (R := Unit) loop) {}
      [.beginEnable "first" ["elbow"] 0, .beginEnable "second" ["elbow"] 1, .poll () 2]
    ts.flatMap GateTurn.begun = [⟨"first", ["elbow"], enableCompletionTimeout⟩,
        ⟨"second", ["elbow"], 1 + enableCompletionTimeout⟩] ∧
      ts.flatMap GateTurn.answered = [⟨"second", ["elbow"], 1 + enableCompletionTimeout⟩] :=
  ⟨rfl, rfl⟩

end Marengo

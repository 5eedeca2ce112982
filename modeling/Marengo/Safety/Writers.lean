import Marengo.Safety.Observers

/-!
# Programs that write to the bus

The sensing writes: type-24 On and Off, status solicits and the Offs of an exit. None of them
changes the session or the safety state (`Still`), none goes to a shed drive unless it is a Disable,
and a type-24 On is written only while no session is Active.
-/

namespace Marengo

open Prog

variable {F : Type}

/-- Observations and writes that are no Disable. -/
def Writing : Effect → Prop
  | .tick | .observe | .write | .reportOn => True
  | _ => False

instance : Allows Writing .tick := ⟨trivial⟩
instance : Allows Writing .observe := ⟨trivial⟩
instance : Allows Writing .write := ⟨trivial⟩
instance : Allows Writing .reportOn := ⟨trivial⟩

section
variable [World F] {T : Prop} {ε : Type} {s s' : System F}

theorem Runs.still (h : Runs Writing s s') : Still s s' := h.along fun l s s' hl hstep => by
  cases hstep with
  | tick ht => exact ht.still
  | observe ho => exact ho.still
  | write | reportOn => exact {}
  | _ => exact hl.elim

/-- Sensing is allowed wherever its effects are. -/
theorem Runs.ofWriting {E : Effect → Prop} [ht : Allows E .tick] [ho : Allows E .observe]
    [hw : Allows E .write] [hn : Allows E .reportOn] (h : Runs Writing s s') : Runs E s s' :=
  h.mono fun l hl => by
    cases l with
    | tick => exact ht.allowed
    | observe => exact ho.allowed
    | write => exact hw.allowed
    | reportOn => exact hn.allowed
    | _ => exact hl.elim

/-! ## Single writes -/

section
variable {E : Effect → Prop}

/-- A call handed to the bus, if it is a step whatever its result. -/
theorem send_along {call : BusCall F} {l : Effect} [Allows E l]
    (h : ∀ error, Step l s (s.handed call error)) :
    Along (Runs E) (send call : Prog (System F) ε _)
      (Returns fun error s' => s' = s.handed call error) s :=
  ⟨.single (h _), rfl⟩

instance {a : MotorAddress} [Allows E (.disable a)] :
    Keeps T (Runs E) (send (.disableDrive a) : Prog (System F) ε _) where
  keeps _ := .single (.disable _ a)
  returns _ _ := ⟨_, rfl⟩

instance [Allows E .observe] (f : ActiveReportingState → ActiveReportingState) :
    Keeps T (Runs E) (updateReporting f : Prog (System F) ε Unit) :=
  .ofStep .observe fun s => .observe {}

variable [Allows E .observe] [Allows E .write]

/-- A type-24 Off of a drive that is not shed. -/
theorem sendOff_goes {motor : MotorEntry F} {now : Instant} (h : motor.address ∉ s.driveLoss.shed) :
    Goes (Runs E) (sendOff motor now : Prog (System F) ε _) s :=
  .next (send_along (l := .write) fun error => .write error trivial (by simpa [BusCall.addresses]))
    fun _ _ _ _ => .total

end

/-! ## Suspension and synchronisation -/

omit [World F] in
/-- What is due is due for one of the motors, and an On only where it is desired. -/
theorem ActiveReportingState.mem_due {r : ActiveReportingState} {motors : List (MotorEntry F)}
    {modeActive diagnostics : Bool} {now : Instant} {rx : String → Option Instant}
    {held : List String} {d : Due F} (h : d ∈ r.due motors modeActive diagnostics now rx held) :
    d.motor ∈ motors ∧ (d.want = true → modeActive = false) := by
  simp only [due, List.mem_append, List.mem_filter, ← and_or_left, List.mem_filterMap] at h
  obtain ⟨⟨⟨m, i⟩, hm, hd⟩, -⟩ := h
  simp only [Option.ite_none_right_eq_some, Option.some.injEq] at hd
  obtain ⟨-, rfl⟩ := hd
  refine ⟨List.fst_mem_of_mem_zipIdx hm, ?_⟩
  simp only [desired, Bool.and_eq_true, Bool.not_eq_true']
  exact fun hw => hw.1

theorem syncHolding_goes {motors : List (MotorEntry F)} {modeActive diagnostics : Bool}
    {now : Instant} {rx : String → Option Instant} {held : List String}
    (hheld : ∀ m ∈ motors, m.joint ∉ held → m.address ∉ s.driveLoss.shed)
    (hmode : modeActive = false → s.mode ≠ .active) :
    Goes (Runs Writing)
      (syncHolding motors modeActive diagnostics now rx held : Prog (System F) ε _) s := by
  refine .update (.single (.observe {})) (.read ?_)
  refine Along.foldl (I := fun _ _ => True) trivial fun _ d hd s' hr _ => ?_
  have hstill : Still s s' := trans_of Still {} (Runs.still hr)
  obtain ⟨hm, hwant⟩ := ActiveReportingState.mem_due hd
  refine .read (.ite (fun _ => .pure trivial) fun hj => .ite (fun _ => .pure trivial) fun _ => ?_)
  have hshed : d.motor.address ∉ s'.driveLoss.shed := by
    rw [show s'.driveLoss = s.driveLoss from congrArg Safety.driveLoss hstill.safety]
    exact hheld _ hm (by simpa using hj)
  refine .update (.single (.observe {})) (.next (P := fun _ _ => True) (.ite (fun hw => ?_)
    fun _ => ?_) fun _ _ _ _ => .pure trivial)
  · refine .next (send_along (l := .reportOn) fun error => .reportOn error ?_ hshed)
      fun _ _ _ _ => .total
    rw [show s'.mode = s.mode from congrArg Session.mode hstill.session]
    exact hmode (hwant hw)
  · exact .next (sendOff_goes hshed) fun _ _ _ _ => .pure trivial

theorem syncActiveReporting_writes :
    Keeps T (Runs Writing) (syncActiveReporting : Prog (System F) ε Unit) := by
  unfold syncActiveReporting
  refine .bind fun busy => .ofRead fun s => .when (fun _ => .step fun t s' hr => ?_) fun _ => trivial
  have hstill : Still s s' := Runs.still hr
  have hloss : s'.driveLoss = s.driveLoss := congrArg Safety.driveLoss hstill.safety
  have hmode : s'.mode = s.mode := congrArg Session.mode hstill.session
  refine .next (syncHolding_goes ?_ ?_) fun deferred s'' _ _ => ?_
  · intro m hm hj hshed
    refine hj (List.mem_map.mpr ⟨m, List.mem_append_right _ (List.mem_filter.mpr ⟨hm, ?_⟩), rfl⟩)
    simpa [DriveLossState.isShed, ← hloss] using hshed
  · simp [hmode]
  · refine .next (.goes (.each fun joint => .ofStep .observe fun s => ?_)) fun _ _ _ _ => .total
    repeat' split
    all_goals exact .observe {}

section
variable {E : Effect → Prop} [Allows E .tick] [Allows E .observe]

instance [Allows E .write] [Allows E .reportOn] :
    Keeps T (Runs E) (syncActiveReporting : Prog (System F) ε Unit) :=
  syncActiveReporting_writes.mono fun _ _ => .ofWriting

instance [∀ a, Allows E (.disable a)] :
    Keeps False (Runs E) (solicitStatusFeedback : Prog (System F) _ Unit) := by
  unfold solicitStatusFeedback
  exact .bind fun busy => .bind fun s => .when (.bind fun t =>
    .andThen (.foldl fun _ _ => inferInstance) fun _ => inferInstance)

/-- A lease operation only changes the reporting state before it synchronises. -/
instance [Allows E .write] [Allows E .reportOn]
    (f : System F → Except ActiveReportingLeaseError ActiveReportingState) :
    Keeps False (Runs E) (changeLeases f : Prog (System F) _ Unit) := by
  unfold changeLeases
  exact .bind fun s => by split <;> infer_instance

/-! ## The Offs of an exit -/

instance [Allows E .write] (now : Instant) (motor : MotorEntry F) :
    Keeps T (Runs E) (exitOff now motor : Prog (System F) ε _) :=
  .ofRead fun s => .ite (fun _ => .pure trivial) fun hs => .ite (fun _ => .pure trivial) fun _ =>
    .next (sendOff_goes (by simpa [DriveLossState.isShed] using hs)) fun _ _ _ _ => .pure trivial

instance [Allows E .write] (deadline : Instant) (fuel : ℕ) (drives : ExitDrives F) :
    Keeps T (Runs E) (exitRounds deadline fuel drives : Prog (System F) ε _) := by
  induction fuel generalizing drives with
  | zero => exact .instPure _
  | succ fuel ih =>
    unfold exitRounds
    refine .bind fun t => .andThen (.traverse fun d => ?_) fun drives => .bind fun s => ?_
    · split <;> infer_instance
    · split <;> infer_instance

instance [Allows E .write] [Allows E .pace] (deadline : Instant) :
    Keeps T (Runs E) (releaseReportingForExit deadline : Prog (System F) ε _) := by
  unfold releaseReportingForExit
  exact .andThen (.ofStep .pace fun s => .pace ..) fun _ => inferInstance

end

end

end Marengo

import Marengo.Davout.Leases

/-!
# Whose turn it is to be written

A synchronisation writes at most once on an interface, to the first drive of the configuration whose
stream has to change or whose feedback is stale. A drive that waits for a change is therefore written
once those before it have changed, as long as none of those is applied On and no longer heard
(`deferred_written`). Such a drive is due at every call, and keeps the later one waiting
(`stale_retry_starves`).
-/

namespace Marengo

open Prog

variable {F : Type}

namespace ActiveReportingState

variable (r : ActiveReportingState) (active diagnostics : Bool) (now : Instant)
  (rx : String → Option Instant) {m : MotorEntry F} {held : List String}

/-- The stream has to be switched, or it is On and no longer heard. -/
def Urgent (joint : String) : Prop :=
  r.applied joint ≠ r.desired joint active diagnostics now ∨
    r.desired joint active diagnostics now = true ∧ r.feedbackStale joint now rx = true

def dueEntry (heartbeat : Option ℕ) (x : MotorEntry F × ℕ) : Option (Due F) :=
  let want := r.desired x.1.joint active diagnostics now
  let have_ := r.applied x.1.joint
  let stale := r.feedbackStale x.1.joint now rx
  let needEnable := want && (!have_ || heartbeat = some x.2 || stale)
  let needDisable := !want && have_
  if needEnable || needDisable then some ⟨x.2, x.1, want, want && have_ && !stale⟩ else none

theorem due_eq (motors : List (MotorEntry F)) (held : List String) :
    ∃ heartbeat, r.due motors active diagnostics now rx held =
      (motors.zipIdx.filterMap (r.dueEntry active diagnostics now rx heartbeat)).filter
          (!·.refreshOnly) ++
        (motors.zipIdx.filterMap (r.dueEntry active diagnostics now rx heartbeat)).filter
          (·.refreshOnly) := ⟨_, rfl⟩

variable {r active diagnostics now rx}

theorem dueEntry_some {heartbeat : Option ℕ} {x : MotorEntry F × ℕ} {d : Due F}
    (h : r.dueEntry active diagnostics now rx heartbeat x = some d) :
    d.motor = x.1 ∧ d.want = r.desired x.1.joint active diagnostics now ∧
      (d.refreshOnly = false → r.Urgent active diagnostics now rx x.1.joint) := by
  unfold dueEntry at h
  dsimp only at h
  split at h
  · rename_i hdue
    cases h
    refine ⟨rfl, rfl, fun hrefresh => ?_⟩
    unfold Urgent
    cases hwant : r.desired x.1.joint active diagnostics now <;>
      cases happlied : r.applied x.1.joint <;> simp_all
  · cases h

theorem dueEntry_urgent (heartbeat : Option ℕ) (x : MotorEntry F × ℕ)
    (h : r.Urgent active diagnostics now rx x.1.joint) :
    ∃ d, r.dueEntry active diagnostics now rx heartbeat x = some d ∧
      d.refreshOnly = false := by
  unfold Urgent at h
  unfold dueEntry
  dsimp only
  cases hwant : r.desired x.1.joint active diagnostics now <;>
    cases happlied : r.applied x.1.joint <;>
    cases hstale : r.feedbackStale x.1.joint now rx <;> simp_all

/-- What is due before a drive whose stream has to be switched: the urgent drives configured before
it. -/
theorem due_split (before after : List (MotorEntry F))
    (hm : r.applied m.joint ≠ r.desired m.joint active diagnostics now) :
    ∃ ahead d rest, r.due (before ++ m :: after) active diagnostics now rx held =
        ahead ++ d :: rest ∧
      d.motor = m ∧ d.want = r.desired m.joint active diagnostics now ∧
      (∀ d ∈ ahead, d.motor ∈ before ∧
        d.want = r.desired d.motor.joint active diagnostics now ∧
        r.Urgent active diagnostics now rx d.motor.joint) ∧
      ∀ m' ∈ before, r.Urgent active diagnostics now rx m'.joint →
        ∃ d ∈ ahead, d.motor = m' := by
  have hurgent : r.Urgent active diagnostics now rx m.joint := .inl hm
  obtain ⟨heartbeat, hdue⟩ := r.due_eq active diagnostics now rx (before ++ m :: after) held
  obtain ⟨d, hd, hrefresh⟩ := dueEntry_urgent heartbeat (m, before.length) hurgent
  obtain ⟨hmotor, hwant, -⟩ := dueEntry_some hd
  rw [List.zipIdx_append, List.filterMap_append, List.filter_append, List.zipIdx_cons,
    List.filterMap_cons_some (by simpa using hd), List.filter_cons_of_pos (by simp [hrefresh]),
    List.append_assoc] at hdue
  refine ⟨_, d, _, hdue, hmotor, hwant, fun d' hd' => ?_, fun m' hm' hurgent => ?_⟩
  · obtain ⟨hmem, hurgent⟩ := List.mem_filter.1 hd'
    obtain ⟨x, hx, hd'⟩ := List.mem_filterMap.1 hmem
    obtain ⟨hmotor', hwant', hurgent'⟩ := dueEntry_some hd'
    have hxm : x.1 ∈ before := (List.mem_zipIdx hx).2.2 ▸ List.getElem_mem _
    exact ⟨hmotor' ▸ hxm, hmotor' ▸ hwant', hmotor' ▸ hurgent' (by simpa using hurgent)⟩
  · obtain ⟨i, hi, rfl⟩ := List.getElem_of_mem hm'
    obtain ⟨d', hd', hrefresh'⟩ := dueEntry_urgent heartbeat (before[i], i) hurgent
    refine ⟨d', List.mem_filter.2 ⟨List.mem_filterMap.2 ⟨(before[i], i), ?_, hd'⟩, ?_⟩,
      (dueEntry_some hd').1⟩
    · simp [List.mem_zipIdx_iff_getElem?]
    · simp [hrefresh']

variable (r active diagnostics) in
/-- A sweep changes nothing that is desired then or later. -/
theorem desired_expireStale (joint : String) {t : Instant} (hle : now ≤ t) :
    (r.expireStale now).desired joint active diagnostics t =
      r.desired joint active diagnostics t := by
  have hlive : (r.expireStale now).hasLiveLease joint t = r.hasLiveLease joint t := by
    rw [Bool.eq_iff_iff]
    simp only [hasLiveLease, expireStale, List.any_eq_true, List.mem_filter, decide_eq_true_eq]
    constructor
    · rintro ⟨l, hl, ht⟩
      exact ⟨l, hl.1, ht⟩
    · rintro ⟨l, hl, ht⟩
      exact ⟨l, ⟨hl, hle.trans_lt ht⟩, ht⟩
  rw [desired, hlive, desired]

end ActiveReportingState

/-! ## One call -/

section
open ActiveReportingState
variable [World F] {ε : Type} {count : ℕ} {now : Instant} {held deferred : List String}
  {d : Due F} {s s' : System F} {i j : String}

/-- What a write leaves of the streams and the slots. -/
structure Switched (d : Due F) (now : Instant) (s s' : System F) : Prop where
  applied : s'.activeReporting.applied =
    Function.update s.activeReporting.applied d.motor.joint d.want
  slots : s'.activeReporting.lastWriteByInterface =
    Function.update s.activeReporting.lastWriteByInterface d.motor.canInterface (some now)

/-- The first drive on the interface `i` that is not held. -/
def serves (i : String) (held : List String) (d : Due F) : Bool :=
  d.motor.canInterface = i ∧ d.motor.joint ∉ held

/-- What the stream of `j` is after the turn of the drive that is served. -/
def switchedTo (served : Option (Due F)) (j : String) (applied : Bool) : Bool :=
  match served with
  | some d => if d.motor.joint = j then d.want else applied
  | none => applied

section
variable (hfail : ∀ n, World.sendError F n = none)
include hfail

section
variable (ds : List (Due F))

/-- A turn writes if its drive is not held and its slot is free, and changes nothing otherwise. -/
theorem turns_cons :
    ∃ deferred' s', (Prog.foldl (syncTurn count now held) deferred (d :: ds) s :
        Except ε _ × System F) = Prog.foldl (syncTurn count now held) deferred' ds s' ∧
      (d.motor.joint ∉ held ∧ s.activeReporting.slotFree d.motor.canInterface now = true ∧
          Switched d now s s' ∨
        (d.motor.joint ∈ held ∨ s.activeReporting.slotFree d.motor.canInterface now = false) ∧
          s' = s) := by
  have hfold : ∀ {deferred' : List String} {s' : System F},
      (syncTurn count now held deferred d s : Except ε _ × System F) = (.ok deferred', s') →
        (Prog.foldl (syncTurn count now held) deferred (d :: ds) s : Except ε _ × System F) =
          Prog.foldl (syncTurn count now held) deferred' ds s' := by
    intro deferred' s' hrun
    rw [Prog.foldl]
    simp only [Bind.bind, hrun]
  by_cases hskip : d.motor.joint ∈ held ∨
      s.activeReporting.slotFree d.motor.canInterface now = false
  · obtain ⟨deferred', hrun⟩ := syncTurn_skip count deferred hskip
    exact ⟨deferred', s, hfold hrun, .inr ⟨hskip, rfl⟩⟩
  · rw [not_or, Bool.not_eq_false] at hskip
    refine ⟨_, _, hfold (syncTurn_write hskip.1 hskip.2), .inl ⟨hskip.1, hskip.2, ?_⟩⟩
    cases hwant : d.want <;> constructor <;>
      simp [afterWrite, hfail, recordOn, recordOff,
        beginWrite, hwant]

/-- Once the slot of `i` is taken, no stream on `i` is switched any more. -/
theorem turns_taken (hj : ∀ d ∈ ds, d.motor.joint = j → d.motor.canInterface = i)
    (hslot : s.activeReporting.lastWriteByInterface i = some now) :
    (Prog.foldl (syncTurn count now held) deferred ds s :
        Except ε _ × System F).2.activeReporting.applied j =
      s.activeReporting.applied j := by
  induction ds generalizing s deferred with
  | nil => rfl
  | cons d ds ih =>
    rw [List.forall_mem_cons] at hj
    obtain ⟨deferred', s', hfold, hcases⟩ := turns_cons hfail ds
    rw [hfold]
    rcases hcases with ⟨-, hfree, hswitched⟩ | ⟨-, rfl⟩
    · have hother : d.motor.canInterface ≠ i := by
        rintro rfl
        simp only [slotFree, hslot, Option.all_some, Nat.sub_self,
          decide_eq_true_eq] at hfree
        exact absurd hfree (by decide)
      rw [ih hj.2 (by rw [hswitched.slots, Function.update_of_ne hother.symm, hslot]),
        hswitched.applied, Function.update_of_ne fun h => hother (hj.1 h.symm)]
    · exact ih hj.2 hslot

/-- With a free slot, the first drive on `i` that is not held is switched, and no other on `i`. -/
theorem turns_free (hj : ∀ d ∈ ds, d.motor.joint = j → d.motor.canInterface = i)
    (hslot : s.activeReporting.slotFree i now = true) :
    (Prog.foldl (syncTurn count now held) deferred ds s :
        Except ε _ × System F).2.activeReporting.applied j =
      switchedTo (ds.find? (serves i held)) j (s.activeReporting.applied j) := by
  induction ds generalizing s deferred with
  | nil => rfl
  | cons d ds ih =>
    rw [List.forall_mem_cons] at hj
    obtain ⟨deferred', s', hfold, hcases⟩ := turns_cons hfail ds
    rw [hfold]
    by_cases hi : d.motor.canInterface = i
    · rcases hcases with ⟨hheld, -, hswitched⟩ | ⟨hskip, rfl⟩
      · rw [List.find?_cons_of_pos (by simp [serves, hi, hheld]), turns_taken hfail ds hj.2
          (by rw [hswitched.slots, hi, Function.update_self]), hswitched.applied]
        by_cases hd : d.motor.joint = j
        · subst hd
          simp [switchedTo]
        · simp [switchedTo, hd, Ne.symm hd]
      · have hheld := hskip.resolve_right (by rw [hi, hslot]; exact Bool.true_eq_false_eq_False)
        rw [List.find?_cons_of_neg (by simp [serves, hheld]), ih hj.2 hslot]
    · have hj' : j ≠ d.motor.joint := fun h => hi (hj.1 h.symm)
      rw [List.find?_cons_of_neg (by simp [serves, hi])]
      rcases hcases with ⟨-, -, hswitched⟩ | ⟨-, rfl⟩
      · rw [ih hj.2 (by
          rw [slotFree, hswitched.slots, Function.update_of_ne (Ne.symm hi)]
          exact hslot), hswitched.applied, Function.update_of_ne hj']
      · exact ih hj.2 hslot

end

/-- **One call.** A drive that is not held and whose stream has to be switched is switched, unless an
urgent drive that is configured before it on its interface takes the slot. -/
theorem sync_turn {config : MotorsConfig F} {before after : List (MotorEntry F)} {m : MotorEntry F}
    {active diagnostics : Bool} {rx : String → Option Instant}
    (hconfig : config.motors = before ++ m :: after)
    (hjoints : (config.motors.map (·.joint)).Nodup) (hheld : m.joint ∉ held)
    (hslot : s.activeReporting.slotFree m.canInterface s.time = true)
    (hs' : s' = (ReportingOp.exec config (.sync active diagnostics rx held) s).2)
    (hm : s.activeReporting.applied m.joint ≠
      s.activeReporting.desired m.joint active diagnostics s.time) :
    (s'.activeReporting.applied m.joint =
        s.activeReporting.desired m.joint active diagnostics s.time ∧
      ∀ m' ∈ before, m'.canInterface = m.canInterface → m'.joint ∉ held →
        ¬s.activeReporting.Urgent active diagnostics s.time rx m'.joint) ∨
    (∃ m' ∈ before, m'.canInterface = m.canInterface ∧ m'.joint ∉ held ∧
      s.activeReporting.Urgent active diagnostics s.time rx m'.joint ∧
      s'.activeReporting.applied m'.joint =
        s.activeReporting.desired m'.joint active diagnostics s.time ∧
      ∀ m'' ∈ config.motors, m''.canInterface = m.canInterface → m''.joint ≠ m'.joint →
        s'.activeReporting.applied m''.joint = s.activeReporting.applied m''.joint) := by
  have hdesired := fun joint => s.activeReporting.desired_expireStale active diagnostics
    joint (le_refl s.time)
  have hurgent : ∀ joint, (s.activeReporting.expireStale s.time).Urgent active
      diagnostics s.time rx joint ↔
        s.activeReporting.Urgent active diagnostics s.time rx joint := by
    intro joint
    unfold Urgent
    rw [hdesired]
    rfl
  have hpending : (s.activeReporting.expireStale s.time).applied m.joint ≠
      (s.activeReporting.expireStale s.time).desired m.joint active diagnostics s.time := by
    rw [hdesired]
    exact hm
  obtain ⟨ahead, d, rest, hdue, hmotor, hwant, hahead, hall⟩ :=
    due_split before after hpending
  rw [← hconfig] at hdue
  have hrun : s'.activeReporting.applied = (Prog.foldl (syncTurn config.motors.length s.time held) []
      (ahead ++ d :: rest) { s with activeReporting := s.activeReporting.expireStale s.time } :
        Except ActiveReportingLeaseError _ × System F).2.activeReporting.applied := by
    rw [hs', ← hdue]
    exact congrArg (·.activeReporting.applied) (snd_discard _ s)
  have hmem : ∀ x ∈ ahead ++ d :: rest, x.motor ∈ config.motors := fun x hx =>
    (mem_due (hdue ▸ hx)).1
  have hself : serves m.canInterface held d = true := by simp [serves, hmotor, hheld]
  -- the joints of the interface after the call
  have happlied : ∀ m'' ∈ config.motors, m''.canInterface = m.canInterface →
      s'.activeReporting.applied m''.joint =
        switchedTo ((ahead ++ d :: rest).find? (serves m.canInterface held)) m''.joint
          (s.activeReporting.applied m''.joint) := by
    intro m'' hm'' hi
    rw [hrun]
    refine turns_free hfail _ (fun x hx hjoint => ?_) hslot
    rw [List.inj_on_of_nodup_map hjoints (hmem x hx) hm'' hjoint, hi]
  rw [List.find?_append] at happlied
  cases hfind : ahead.find? (serves m.canInterface held) with
  | none =>
    refine .inl ⟨?_, fun m' hm' hi hunheld hm'urgent => ?_⟩
    · have hm' := happlied m (by rw [hconfig]; simp) rfl
      rw [hfind, Option.none_or, List.find?_cons_of_pos hself] at hm'
      simpa [switchedTo, hmotor, hwant, hdesired] using hm'
    · obtain ⟨d', hd', rfl⟩ := hall m' hm' ((hurgent _).2 hm'urgent)
      exact absurd (by simp [serves, hi, hunheld]) (List.find?_eq_none.1 hfind d' hd')
  | some d' =>
    rw [hfind, Option.some_or] at happlied
    obtain ⟨hbefore, hwant', hurgent'⟩ := hahead d' (List.mem_of_find?_eq_some hfind)
    have hserves := List.find?_some hfind
    simp only [serves, decide_eq_true_eq] at hserves
    refine .inr ⟨d'.motor, hbefore, hserves.1, hserves.2, (hurgent _).1 hurgent', ?_, ?_⟩
    · have hd' := happlied d'.motor (by rw [hconfig]; exact List.mem_append_left _ hbefore) hserves.1
      simpa [switchedTo, hwant', hdesired] using hd'
    · intro m'' hm'' hi hne
      simpa [switchedTo, Ne.symm hne] using happlied m'' hm'' hi

end

/-! ## Many calls -/

section
variable (config : MotorsConfig F) (active diagnostics : Bool) (want : String → Bool)
  (held : List String)

/-- What the drives wait for under constant leases: the slots are not in the future, and what is
desired of a stream stays the same. -/
structure Steady (until_ : Instant) (s : System F) : Prop where
  slots : ∀ i t, s.activeReporting.lastWriteByInterface i = some t → t ≤ s.time
  desired : ∀ joint t, s.time ≤ t → t ≤ until_ →
    s.activeReporting.desired joint active diagnostics t = want joint

/-- A synchronisation a delay after the call before it, and the feedback it is given. -/
abbrev SyncCall := Duration × (String → Option Instant)

/-- The call, of one mode and one set of held joints. -/
def SyncCall.call (c : SyncCall) : Duration × ReportingOp F := (c.1, .sync active diagnostics c.2 held)

/-- After some of the calls the stream of `m` is as wanted. -/
def WrittenWithin (calls : List SyncCall) (m : MotorEntry F) (want : Bool) (s : System F) : Prop :=
  ∃ n ≤ calls.length, (reportingRun config ((calls.map
      (SyncCall.call active diagnostics held)).take n) s).activeReporting.applied m.joint =
    want

/-- One of the calls finds `P`. -/
def AtSome (P : System F → (String → Option Instant) → Prop) : List SyncCall → System F → Prop
  | [], _ => False
  | c :: calls, s => P { s with time := s.time + c.1 } c.2 ∨
    AtSome P calls (ReportingOp.call config (c.call active diagnostics held) s).2

/-- The drives that may take the slot before `m`: those configured before it on its interface that
are not held. -/
def rivals (before : List (MotorEntry F)) (m : MotorEntry F) (held : List String) :
    List (MotorEntry F) :=
  before.filter fun m' => m'.canInterface = m.canInterface ∧ m'.joint ∉ held

def Clear (ms : List (MotorEntry F)) (s : System F) (rx : String → Option Instant) : Prop :=
  ∀ m ∈ ms, ¬s.activeReporting.Urgent active diagnostics s.time rx m.joint

/-- One of them is as desired, On, and only its feedback is stale. -/
def Retries (ms : List (MotorEntry F)) (s : System F) (rx : String → Option Instant) : Prop :=
  ∃ m ∈ ms, s.activeReporting.applied m.joint = want m.joint ∧ want m.joint = true ∧
    s.activeReporting.feedbackStale m.joint s.time rx = true

/-- How many of them wait for a change. -/
def waiting (ms : List (MotorEntry F)) (s : System F) : ℕ :=
  ms.countP fun m => s.activeReporting.applied m.joint ≠ want m.joint

end

variable {config : MotorsConfig F} {before after : List (MotorEntry F)} {m : MotorEntry F}
  {active diagnostics : Bool} {want : String → Bool} {until_ : Instant}

omit [World F] in
theorem Steady.sleep (h : Steady active diagnostics want until_ s) (d : Duration) :
    Steady active diagnostics want until_ { s with time := s.time + d } :=
  ⟨fun i t ht => (h.slots i t ht).trans (Nat.le_add_right ..),
    fun joint t ht => h.desired joint t ((Nat.le_add_right ..).trans ht)⟩

theorem sync_leases (config : MotorsConfig F) (rx : String → Option Instant) (s : System F)
    (hs' : s' = (ReportingOp.exec config (.sync active diagnostics rx held) s).2) :
    s'.activeReporting.leases = (s.activeReporting.expireStale s.time).leases ∧
      s'.time = s.time := by
  obtain ⟨-, hpost⟩ := syncHolding_leases (ε := ActiveReportingLeaseError) config.motors (s := s)
    active diagnostics s.time rx held
  rw [hs', show (ReportingOp.exec config (.sync active diagnostics rx held) s).2 = _ from
    snd_discard _ s]
  revert hpost
  rcases syncHolding config.motors active diagnostics s.time rx held s with ⟨_ | _, t⟩
  · exact False.elim
  · exact id

theorem Steady.sync (h : Steady active diagnostics want until_ s)
    (rx : String → Option Instant)
    (hs' : s' = (ReportingOp.exec config (.sync active diagnostics rx held) s).2) :
    Steady active diagnostics want until_ s' := by
  obtain ⟨hleases, htime⟩ := sync_leases config rx s hs'
  constructor
  · rw [hs']
    refine Within.invariant (P := fun t : System F => ∀ i u,
      t.activeReporting.lastWriteByInterface i = some u → u ≤ t.time)
      (fun l t t' hl hstep ht => ?_) (exec_reports config _ s) h.slots
    cases hstep with
    | quiet log time reporting =>
      intro i u hu
      exact (ht i u (reporting ▸ hu)).trans time
    | leases => exact ht
    | write w h call at_ log time free status slots =>
      intro i u hu
      rw [slots, Type24Write.takes] at hu
      rw [time]
      split at hu
      · rcases eq_or_ne i w.motor.canInterface with rfl | hne
        · rw [Function.update_self, Option.some.injEq] at hu
          exact hu.ge
        · rw [Function.update_of_ne hne] at hu
          exact ht i u hu
      · exact ht i u hu
  · intro joint t ht htu
    rw [htime] at ht
    rw [← h.desired joint t ht htu, ← s.activeReporting.desired_expireStale active
      diagnostics joint ht]
    simp only [ActiveReportingState.desired, hasLiveLease, hleases]

omit [World F] in
/-- A spacing after the last call the slots are free. -/
theorem Steady.slotFree (h : Steady active diagnostics want until_ s) {d : Duration}
    (hd : activeReportingWriteSpacing ≤ d) (i : String) :
    s.activeReporting.slotFree i (s.time + d) = true := by
  cases hlast : s.activeReporting.lastWriteByInterface i with
  | none => rw [ActiveReportingState.slotFree, hlast]; rfl
  | some t =>
    rw [ActiveReportingState.slotFree, hlast, Option.all_some, decide_eq_true_eq]
    calc activeReportingWriteSpacing ≤ d := hd
      _ = t + d - t := (Nat.add_sub_cancel_left ..).symm
      _ ≤ s.time + d - t := Nat.sub_le_sub_right (Nat.add_le_add_right (h.slots i t hlast) d) t

omit [World F] in
theorem waiting_lt {ms : List (MotorEntry F)} {m' : MotorEntry F} (hm' : m' ∈ ms)
    (hbefore : s.activeReporting.applied m'.joint ≠ want m'.joint)
    (hafter : s'.activeReporting.applied m'.joint = want m'.joint)
    (hothers : ∀ m'' ∈ ms, m''.joint ≠ m'.joint →
      s'.activeReporting.applied m''.joint = s.activeReporting.applied m''.joint) :
    waiting want ms s' < waiting want ms s := by
  have hmono : ∀ ms' ⊆ ms, waiting want ms' s' ≤ waiting want ms' s := by
    intro ms' hsub
    refine List.countP_mono_left fun m'' hm'' hwaits => ?_
    rw [decide_eq_true_eq] at hwaits ⊢
    by_cases hsame : m''.joint = m'.joint
    · exact absurd (hsame ▸ hafter) hwaits
    · rwa [← hothers m'' (hsub hm'') hsame]
  obtain ⟨l, l', rfl⟩ := List.append_of_mem hm'
  have hl := hmono l (List.subset_append_left ..)
  have hl' := hmono l' (List.subset_append_of_subset_right _ (List.subset_cons_self ..))
  simp only [waiting, List.countP_append, List.countP_cons] at hl hl' ⊢
  rw [if_neg (by simpa using hafter), if_pos (by simpa using hbefore)]
  omega

section
variable (hfail : ∀ n, World.sendError F n = none) (hconfig : config.motors = before ++ m :: after)
  (hjoints : (config.motors.map (·.joint)).Nodup) (hheld : m.joint ∉ held)
include hfail hconfig hjoints hheld

/-- One call under constant leases. -/
theorem Steady.turn (h : Steady active diagnostics want until_ s) {c : SyncCall}
    (hspaced : activeReportingWriteSpacing ≤ c.1) (huntil : s.time + c.1 ≤ until_)
    (hm : s.activeReporting.applied m.joint ≠ want m.joint)
    (hs' : s' = (ReportingOp.call config (c.call active diagnostics held) s).2) :
    Clear active diagnostics (rivals before m held) { s with time := s.time + c.1 } c.2 ∧
      s'.activeReporting.applied m.joint = want m.joint ∨
    ¬Clear active diagnostics (rivals before m held) { s with time := s.time + c.1 } c.2 ∧
      s'.activeReporting.applied m.joint ≠ want m.joint ∧
      (Retries want (rivals before m held) { s with time := s.time + c.1 } c.2 ∨
        waiting want (rivals before m held) s' < waiting want (rivals before m held) s) := by
  have hwant := fun joint => h.desired joint (s.time + c.1) (Nat.le_add_right ..) huntil
  have hrival : ∀ {m'}, m' ∈ rivals before m held ↔
      m' ∈ before ∧ m'.canInterface = m.canInterface ∧ m'.joint ∉ held := by
    simp [rivals]
  have hjoint : ∀ m' ∈ before, m'.joint ≠ m.joint := by
    intro m' hm' hsame
    rw [hconfig, List.map_append, List.map_cons] at hjoints
    exact (List.disjoint_of_nodup_append hjoints) (List.mem_map_of_mem hm')
      (hsame ▸ List.mem_cons_self ..)
  rcases sync_turn (s := { s with time := s.time + c.1 }) hfail hconfig hjoints hheld
      (h.slotFree hspaced _) hs' (by rw [hwant]; exact hm) with
    ⟨hswitched, hclear⟩ | ⟨m', hm', hi, hunheld, hurgent, hafter, hothers⟩
  · left
    rw [hwant] at hswitched
    refine ⟨fun m' hm' => ?_, hswitched⟩
    obtain ⟨hbefore, hi, hunheld⟩ := hrival.1 hm'
    exact hclear m' hbefore hi hunheld
  · right
    have hmem := hrival.2 ⟨hm', hi, hunheld⟩
    have hm'' := hothers m (by rw [hconfig]; simp) rfl (hjoint m' hm').symm
    refine ⟨fun hclear => hclear m' hmem hurgent, hm'' ▸ hm, ?_⟩
    rw [hwant] at hafter
    rw [Urgent, hwant] at hurgent
    rcases eq_or_ne (s.activeReporting.applied m'.joint) (want m'.joint) with heq | hne
    · -- as desired, so urgent only because it is not heard
      exact .inl ⟨m', hmem, heq, hurgent.resolve_left (not_not.2 heq)⟩
    · refine .inr (waiting_lt hmem hne hafter fun m'' hm'' hne' => ?_)
      obtain ⟨hbefore, hi', -⟩ := hrival.1 hm''
      exact hothers m'' (by rw [hconfig]; exact List.mem_append_left _ hbefore) hi' hne'

/-- The drive is written with the first call that finds no rival urgent. While none of them is retried,
each call before that leaves fewer of them waiting. -/
theorem written_iff_clear {calls : List SyncCall}
    (h : Steady active diagnostics want until_ s)
    (hspaced : ∀ c ∈ calls, activeReportingWriteSpacing ≤ c.1)
    (huntil : s.time + (calls.map (·.1)).sum ≤ until_)
    (hm : s.activeReporting.applied m.joint ≠ want m.joint) :
    (WrittenWithin config active diagnostics held calls m (want m.joint) s ↔
      AtSome config active diagnostics held
        (Clear active diagnostics (rivals before m held)) calls s) ∧
    (¬AtSome config active diagnostics held (Retries want (rivals before m held)) calls s →
      waiting want (rivals before m held) s < calls.length →
      AtSome config active diagnostics held
        (Clear active diagnostics (rivals before m held)) calls s) := by
  induction calls generalizing s with
  | nil =>
    refine ⟨⟨fun ⟨n, _, hwritten⟩ => hm ?_, False.elim⟩, fun _ h => absurd h (Nat.not_lt_zero _)⟩
    rwa [List.map_nil, List.take_nil] at hwritten
  | cons c calls ih =>
    rw [List.forall_mem_cons] at hspaced
    rw [List.map_cons, List.sum_cons, ← Nat.add_assoc] at huntil
    simp only [AtSome]
    generalize hs' : (ReportingOp.call config (c.call active diagnostics held) s).2 = s'
    have htime : s'.time = s.time + c.1 :=
      (sync_leases config c.2 { s with time := s.time + c.1 } hs'.symm).2
    -- the drive waits, so it is not written before the first call
    have hfirst : WrittenWithin config active diagnostics held (c :: calls) m
          (want m.joint) s ↔
        WrittenWithin config active diagnostics held calls m (want m.joint) s' := by
      subst hs'
      constructor
      · rintro ⟨n | n, hn, hwritten⟩
        · exact absurd hwritten hm
        · exact ⟨n, Nat.le_of_succ_le_succ hn, hwritten⟩
      · rintro ⟨n, hn, hwritten⟩
        exact ⟨n + 1, Nat.succ_le_succ hn, hwritten⟩
    rw [hfirst]
    rcases h.turn hfail hconfig hjoints hheld hspaced.1 ((Nat.le_add_right ..).trans huntil) hm
        hs'.symm with ⟨hclear, hwritten⟩ | ⟨hclear, hwaits, hturn⟩
    · exact ⟨iff_of_true ⟨0, Nat.zero_le _, hwritten⟩ (.inl hclear), fun _ _ => .inl hclear⟩
    · obtain ⟨hiff, hrest⟩ := ih ((h.sleep c.1).sync c.2 hs'.symm) hspaced.2 (htime ▸ huntil) hwaits
      rw [or_iff_right hclear]
      refine ⟨hiff, fun hretries hlength => hrest (fun h => hretries (.inr h)) ?_⟩
      have hfewer := hturn.resolve_left fun h => hretries (.inl h)
      rw [List.length_cons] at hlength
      omega

/-- **A deferred write.** Under constant leases, and with calls a spacing apart none of which fails, a
drive that is not held is written exactly when some call finds none of the drives before it on its
interface urgent. As long as none of those is retried for stale feedback alone, that is within as many
calls as the interface has drives. -/
theorem deferred_written {calls : List SyncCall}
    (h : Steady active diagnostics want (s.time + (calls.map (·.1)).sum) s)
    (hspaced : ∀ c ∈ calls, activeReportingWriteSpacing ≤ c.1)
    (hm : s.activeReporting.applied m.joint ≠ want m.joint) :
    (WrittenWithin config active diagnostics held calls m (want m.joint) s ↔
      AtSome config active diagnostics held
        (Clear active diagnostics (rivals before m held)) calls s) ∧
    (¬AtSome config active diagnostics held (Retries want (rivals before m held)) calls s →
      config.motors.countP (·.canInterface = m.canInterface) ≤ calls.length →
      WrittenWithin config active diagnostics held calls m (want m.joint) s) := by
  obtain ⟨hiff, hclear⟩ := written_iff_clear hfail hconfig hjoints hheld h hspaced le_rfl hm
  refine ⟨hiff, fun hretries hlength => hiff.2 (hclear hretries ?_)⟩
  have hrivals : (rivals before m held).length ≤
      before.countP (·.canInterface = m.canInterface) := by
    rw [rivals, ← List.countP_eq_length_filter]
    refine List.countP_mono_left fun m' _ hm' => ?_
    rw [decide_eq_true_eq] at hm' ⊢
    exact hm'.1
  have hwaiting : waiting want (rivals before m held) s ≤ (rivals before m held).length :=
    List.countP_le_length
  rw [hconfig, List.countP_append, List.countP_cons, if_pos (by simp)] at hlength
  omega

end

end

section
attribute [local instance] Bench.world

namespace Bench

/-- A second motor on the interface of the first. -/
def wrist : MotorEntry ℚ := { motor with joint := "wrist", deviceId := 2 }

def twoMotors : MotorsConfig ℚ := ⟨[motor, wrist]⟩

/-- Calls from 200 ms on, a spacing apart, with the same feedback. -/
def syncs (rx : String → Option Instant) (count : ℕ) : List SyncCall :=
  (millis 200, rx) :: List.replicate count (activeReportingWriteSpacing, rx)

theorem started_steady (t : Instant) : Steady false true (fun _ => true) t started :=
  ⟨fun _ _ h => (Option.some_ne_none _ h.symm).elim, fun _ _ _ _ => rfl⟩

end Bench

/-- With both motors heard, the second is written at the second call. -/
theorem deferred_written_bench : WrittenWithin Bench.twoMotors false true []
    (Bench.syncs (fun _ => some (millis 200)) 1) Bench.wrist true Bench.started := by
  have hmotors : Bench.twoMotors.motors = [Bench.motor] ++ Bench.wrist :: [] := rfl
  refine (deferred_written (fun _ => rfl) hmotors (by decide) List.not_mem_nil
    (Bench.started_steady _) (by decide) (by decide)).2 ?_ (by decide)
  have hrivals : rivals [Bench.motor] Bench.wrist [] = [Bench.motor] := rfl
  rw [hrivals]
  rintro (⟨m', hm', -, -, hstale⟩ | ⟨m', hm', -, -, hstale⟩ | h)
  · obtain rfl := List.mem_singleton.1 hm'
    exact absurd hstale (by decide +kernel)
  · obtain rfl := List.mem_singleton.1 hm'
    exact absurd hstale (by decide +kernel)
  · exact h

/-- A first motor that was heard last at the start is written at every call, and the second is still
not written after twenty. -/
theorem stale_retry_starves : ¬WrittenWithin Bench.twoMotors false true []
    (Bench.syncs (fun joint => if joint = "elbow" then some 0 else none) 20) Bench.wrist true
    Bench.started := by
  unfold WrittenWithin
  decide +kernel

end

end Marengo

import Marengo.Davout.ReportingRuns

/-!
# Reporting leases

A lease is granted by `acquire` or `renew` until an instant, and withdrawn by `release`. An expired
lease stays in the table until the next `expire_stale` or synchronisation sweeps it out. Until then it
counts as one of the joint's leases and can be renewed, but never makes the joint's stream desired.
-/

namespace Marengo

open Prog

variable {F : Type}

/-- Until when each lease of a joint lasts. -/
abbrev LeaseTable := String → String → Option Instant

def LeaseTable.set (T : LeaseTable) (joint id : String) (expires : Option Instant) : LeaseTable :=
  Function.update T joint (Function.update (T joint) id expires)

theorem LeaseTable.set_apply (T : LeaseTable) (joint id j i : String) (expires : Option Instant) :
    T.set joint id expires j i = if j = joint ∧ i = id then expires else T j i := by
  by_cases hj : j = joint
  · subst hj
    by_cases hi : i = id <;> simp [set, hi]
  · simp [set, hj]

/-- The leases that the calls so far have granted, and those of them that no sweep has found
expired. -/
structure LeaseHistory where
  granted : LeaseTable := fun _ _ => none
  kept : LeaseTable := fun _ _ => none

def LeaseHistory.set (l : LeaseHistory) (joint id : String) (expires : Option Instant) :
    LeaseHistory := ⟨l.granted.set joint id expires, l.kept.set joint id expires⟩

/-- Sweep out the leases that have expired at `t`. -/
def LeaseHistory.sweep (l : LeaseHistory) (t : Instant) : LeaseHistory :=
  { l with kept := fun joint id => (l.kept joint id).filter (t < ·) }

/-- What a successful call at the instant `t` adds to the history. -/
def ReportingOp.recorded (t : Instant) (l : LeaseHistory) : ReportingOp F → LeaseHistory
  | .acquire joint _ leaseId ttl | .renew joint _ leaseId ttl =>
    l.set joint (trim leaseId) (checkedAdd t ttl)
  | .release joint leaseId => l.set joint (trim leaseId) none
  | .expireStale | .sync _ _ _ _ => l.sweep t
  | _ => l

/-- The leases of the state are the kept ones, and every lease that is not expired is kept. -/
structure LeasesTracked (l : LeaseHistory) (s : System F) : Prop where
  ids : ∀ joint, ((s.activeReporting.leases joint).map (·.1)).Nodup
  kept : ∀ joint id e,
    (∃ c, (id, ⟨c, e⟩) ∈ s.activeReporting.leases joint) ↔ l.kept joint id = some e
  granted : ∀ joint id e, l.kept joint id = some e → l.granted joint id = some e
  live : ∀ joint id e, l.granted joint id = some e → s.time < e → l.kept joint id = some e

namespace LeasesTracked

variable {l : LeaseHistory} {s s' : System F} {joint id : String}

theorem same (h : LeasesTracked l s) (hleases : s'.activeReporting.leases = s.activeReporting.leases)
    (htime : s.time ≤ s'.time) : LeasesTracked l s' where
  ids := hleases ▸ h.ids
  kept := hleases ▸ h.kept
  granted := h.granted
  live j i e he ht := h.live j i e he (htime.trans_lt ht)

theorem set (h : LeasesTracked l s) {leases : List (String × LeaseEntry)} {expires : Option Instant}
    (hids : (leases.map (·.1)).Nodup)
    (hother : ∀ x, x.1 ≠ id → (x ∈ leases ↔ x ∈ s.activeReporting.leases joint))
    (hself : ∀ e, (∃ c, (id, ⟨c, e⟩) ∈ leases) ↔ expires = some e) :
    LeasesTracked (l.set joint id expires)
      { s with activeReporting := s.activeReporting.withLeases joint leases } where
  ids j := by
    by_cases hj : j = joint
    · subst hj
      simpa [ActiveReportingState.withLeases] using hids
    · simpa [ActiveReportingState.withLeases, hj] using h.ids j
  kept j i e := by
    simp only [LeaseHistory.set, LeaseTable.set_apply]
    by_cases hj : j = joint
    · subst hj
      simp only [ActiveReportingState.withLeases, Function.update_self, true_and]
      split
      · rename_i hi
        exact hi ▸ hself e
      · rename_i hi
        simp only [hother (i, ⟨_, e⟩) hi, h.kept]
    · simpa [ActiveReportingState.withLeases, hj] using h.kept j i e
  granted j i e := by
    simp only [LeaseHistory.set, LeaseTable.set_apply]
    split
    · exact fun he => he
    · exact h.granted j i e
  live j i e := by
    simp only [LeaseHistory.set, LeaseTable.set_apply]
    split
    · exact fun he _ => he
    · exact h.live j i e

theorem expire (h : LeasesTracked l s)
    (hs' : s'.activeReporting.leases = (s.activeReporting.expireStale s.time).leases)
    (htime : s'.time = s.time) : LeasesTracked (l.sweep s.time) s' where
  ids j := by
    rw [hs']
    exact (h.ids j).sublist (List.filter_sublist.map _)
  kept j i e := by
    rw [hs']
    simp [ActiveReportingState.expireStale, LeaseHistory.sweep, Option.filter_eq_some_iff,
      ← h.kept j i e]
  granted j i e := by
    simp only [LeaseHistory.sweep, Option.filter_eq_some_iff]
    exact fun he => h.granted j i e he.1
  live j i e he ht := by
    rw [htime] at ht
    simp [LeaseHistory.sweep, Option.filter_eq_some_iff, h.live j i e he ht, ht]

end LeasesTracked

section
variable {config : MotorsConfig F} {l : LeaseHistory} {s : System F}

/-- The operations that leave the leases alone. -/
theorem LeasesTracked.reports (h : LeasesTracked l s) {op : ReportingOp F} {s' : System F}
    (hr : ReportingSteps config.motors op s s') (hop : ¬op.Allowed config.motors .leases) :
    LeasesTracked l s' := by
  have hleases : s'.activeReporting.leases = s.activeReporting.leases :=
    hr.same (f := fun s => s.activeReporting.leases) fun e _ _ he hstep => by
      cases hstep with
      | quiet _ _ reporting => rw [reporting]
      | leases => exact absurd he hop
      | write _ _ _ _ _ _ _ _ _ leases => exact leases
  have htime : s.time ≤ s'.time :=
    hr.grows (r := (· ≤ ·)) (f := fun s => s.time) fun e _ _ _ hstep => by
      cases hstep with
      | quiet _ time _ => exact time
      | leases => exact le_rfl
      | write _ _ _ _ _ time => exact time.ge
  exact h.same hleases htime

theorem LeasesTracked.acquired (h : LeasesTracked l s) {joint clientId leaseId : String} {ttl : Duration}
    {now : Instant} {r' : ActiveReportingState}
    (hok : s.activeReporting.acquire joint clientId leaseId ttl now config = .ok r') :
    LeasesTracked (l.set joint (trim leaseId) (checkedAdd now ttl)) { s with activeReporting := r' } := by
  obtain ⟨expires, hexpires, rfl⟩ := acquire_ok hok
  refine h.set ?_ (fun x hx => by simp [hx, Prod.ext_iff]) fun e => ?_
  · rw [List.map_append, List.nodup_append]
    refine ⟨(h.ids joint).sublist (List.filter_sublist.map _), List.nodup_singleton _, ?_⟩
    intro i hi i' hi' heq
    obtain ⟨x, hx, rfl⟩ := List.mem_map.1 hi
    obtain rfl := List.mem_singleton.1 hi'
    simp [heq] at hx
  · rw [hexpires]
    simp [eq_comm]

theorem LeasesTracked.renewed (h : LeasesTracked l s) {joint clientId leaseId : String} {ttl : Duration}
    {now : Instant} {r' : ActiveReportingState}
    (hok : s.activeReporting.renew joint clientId leaseId ttl now config = .ok r') :
    LeasesTracked (l.set joint (trim leaseId) (checkedAdd now ttl)) { s with activeReporting := r' } := by
  obtain ⟨expires, hexpires, hsome, rfl⟩ := renew_ok hok
  have hids : ∀ x : String × LeaseEntry, (if x.1 = trim leaseId then
      (trim leaseId, (⟨trim clientId, expires⟩ : LeaseEntry)) else x).1 = x.1 := by
    intro x
    split
    · rename_i hx
      exact hx.symm
    · rfl
  refine h.set ?_ (fun x hx => ?_) fun e => ?_
  · rw [List.map_map]
    exact (List.map_congr_left fun x _ => hids x) ▸ h.ids joint
  · rw [List.mem_map]
    constructor
    · rintro ⟨y, hy, rfl⟩
      rw [hids] at hx
      rwa [if_neg hx]
    · exact fun hmem => ⟨x, hmem, if_neg hx⟩
  · rw [hexpires]
    constructor
    · rintro ⟨c, hc⟩
      obtain ⟨y, -, hy⟩ := List.mem_map.1 hc
      have hid : y.1 = trim leaseId := by rw [← hids y, hy]
      rw [if_pos hid] at hy
      cases hy
      rfl
    · intro he
      cases he
      obtain ⟨y, hy, hid⟩ := List.any_eq_true.1 hsome
      exact ⟨_, List.mem_map.2 ⟨y, hy, if_pos (by simpa using hid)⟩⟩

theorem LeasesTracked.released (h : LeasesTracked l s) {joint leaseId : String} {r' : ActiveReportingState}
    (hok : s.activeReporting.release joint leaseId config = .ok r') :
    LeasesTracked (l.set joint (trim leaseId) none) { s with activeReporting := r' } := by
  rw [release_ok hok]
  refine h.set ((h.ids joint).sublist (List.filter_sublist.map _)) (fun x hx => by simp [hx])
    fun e => by simp

theorem LeasesTracked.onLeases (h : LeasesTracked l s) {l' : LeaseHistory}
    {f : ActiveReportingState → Except ActiveReportingLeaseError ActiveReportingState}
    (hf : ∀ r', f s.activeReporting = .ok r' → LeasesTracked l' { s with activeReporting := r' }) :
    LeasesTracked (if (onLeases f s).1.isOk then l' else l) (onLeases f s).2 := by
  cases hr : f s.activeReporting with
  | error e =>
    have hrun : Marengo.onLeases f s = (.error e, s) := by
      simp only [Marengo.onLeases, Bind.bind, read, hr]
      rfl
    rw [hrun]
    exact h
  | ok r' =>
    have hrun : Marengo.onLeases f s = (.ok (), { s with activeReporting := r' }) := by
      simp only [Marengo.onLeases, Bind.bind, read, hr]
      rfl
    rw [hrun]
    exact hf r' hr

variable [World F]

theorem syncHolding_leases {ε : Type} (motors : List (MotorEntry F))
    (active diagnostics : Bool) (now : Instant) (rx : String → Option Instant)
    (held : List String) :
    Along Anyhow (syncHolding motors active diagnostics now rx held : Prog _ ε _)
      (Returns fun _ s' => s'.activeReporting.leases = (s.activeReporting.expireStale now).leases ∧
        s'.time = s.time) s := by
  refine ⟨trivial, ?_⟩
  rw [syncHolding_eq]
  refine (Along.foldl (R := Anyhow) (I := fun _ s' => s'.activeReporting.leases =
    (s.activeReporting.expireStale now).leases ∧ s'.time = s.time) (X := fun _ _ => False)
    (s := { s with activeReporting := s.activeReporting.expireStale now }) ⟨rfl, rfl⟩
    fun deferred d _ s' _ hs' => ⟨trivial, ?_⟩).2
  by_cases hskip : d.motor.joint ∈ held ∨
      s'.activeReporting.slotFree d.motor.canInterface now = false
  · obtain ⟨_, hrun⟩ := syncTurn_skip (ε := ε) motors.length deferred hskip
    rw [hrun]
    exact hs'
  · rw [not_or, Bool.not_eq_false] at hskip
    rw [syncTurn_write hskip.1 hskip.2]
    refine ⟨?_, hs'.2⟩
    simp only [afterWrite]
    split
    · cases d.want <;> exact hs'.1
    · exact hs'.1

theorem LeasesTracked.exec (h : LeasesTracked l s) (op : ReportingOp F) :
    LeasesTracked (if (op.exec config s).1.isOk then op.recorded s.time l else l)
      (op.exec config s).2 := by
  cases op with
  | suspend | writeOff | recordOff =>
    split <;> exact h.reports (exec_reports config _ s) fun hop => hop
  | expireStale => exact h.expire rfl rfl
  | sync active diagnostics rx held =>
    obtain ⟨-, hpost⟩ := syncHolding_leases (ε := ActiveReportingLeaseError)
      config.motors (s := s) active diagnostics s.time rx held
    rcases hrun : syncHolding config.motors active diagnostics s.time rx held s with ⟨_ | a, s'⟩
    · rw [hrun] at hpost
      exact hpost.elim
    · rw [hrun] at hpost
      have hexec : ReportingOp.exec config (.sync active diagnostics rx held) s =
          (.ok (), s') :=
        bind_eq_ok.2 ⟨_, _, rfl, bind_eq_ok.2 ⟨a, s', hrun, rfl⟩⟩
      rw [hexec]
      exact h.expire hpost.1 hpost.2
  | acquire => exact h.onLeases fun _ hok => h.acquired hok
  | renew => exact h.onLeases fun _ hok => h.renewed hok
  | release => exact h.onLeases fun _ hok => h.released hok

def leaseHistory (config : MotorsConfig F) :
    List (Duration × ReportingOp F) → System F → LeaseHistory → LeaseHistory
  | [], _, l => l
  | c :: calls, s, l =>
    let r := ReportingOp.call config c s
    leaseHistory config calls r.2 (if r.1.isOk then c.2.recorded (s.time + c.1) l else l)

theorem LeasesTracked.run (config : MotorsConfig F) (calls : List (Duration × ReportingOp F)) (h : LeasesTracked l s) :
    LeasesTracked (leaseHistory config calls s l) (reportingRun config calls s) := by
  induction calls generalizing s l with
  | nil => exact h
  | cons c calls ih =>
    have hslept : LeasesTracked l { s with time := s.time + c.1 } := h.same rfl (Nat.le_add_right ..)
    have hcall : ReportingOp.call config c s = c.2.exec config { s with time := s.time + c.1 } := rfl
    rw [leaseHistory, reportingRun, List.foldl_cons, ← reportingRun, hcall]
    exact ih (hslept.exec c.2)

omit [World F] in
theorem acquire_full {r : ActiveReportingState} {joint clientId leaseId j : String} {ttl : Duration}
    {now : Instant} (h : r.acquire joint clientId leaseId ttl now config = .error (.tooManyLeases j)) :
    maxLeasesPerJoint ≤ (r.leases joint).length := by
  cases hids : validateIds clientId leaseId with
  | error e =>
    simp only [ActiveReportingState.acquire, hids, Bind.bind, Except.bind] at h
    cases h
    unfold validateIds at hids
    split at hids
    · cases hids
    · split at hids <;> cases hids
  | ok _ =>
    cases hexpires : checkedAdd now ttl with
    | none =>
      simp only [ActiveReportingState.acquire, hids, hexpires, Bind.bind, Except.bind] at h
      cases h
    | some expires =>
      simp only [ActiveReportingState.acquire, hids, hexpires, Bind.bind, Except.bind] at h
      cases hknown : ensureKnownJoint joint config with
      | error e =>
        rw [hknown] at h
        cases h
        unfold ensureKnownJoint at hknown
        split at hknown <;> cases hknown
      | ok _ =>
        simp only [hknown] at h
        split at h
        · rename_i hfull
          exact hfull.2
        · cases h

end

section
attribute [local instance] Bench.world

/-- Eight leases of a joint, for a nanosecond each. -/
def Bench.eightLeases : List (Duration × ReportingOp ℚ) :=
  ["a", "b", "c", "d", "e", "f", "g", "h"].map fun id => (0, .acquire "elbow" "consul" id 1)

end

end Marengo

import Marengo.Safety.Writers

/-!
# Recording faults

A record of the fault authority is never removed, replaced or moved: later authorities `Extends`
earlier ones. `recordFault` and its variants leave everything else alone, record the occurrence they
are given, and return `true` exactly when nothing was latched before.
-/

namespace Marengo

open Prog

variable {F : Type}

/-! ## The fault authority -/

theorem modifyFirst_map {α β : Type} {p : α → Bool} {f : α → α} {g : α → β}
    (hf : ∀ x, g (f x) = g x) (xs : List α) : (modifyFirst p f xs).map g = xs.map g := by
  induction xs with
  | nil => rfl
  | cons x xs ih =>
    unfold modifyFirst
    split <;> simp [hf, ih]

namespace FaultAuthority

variable {a b : FaultAuthority}

/-- More evidence for one record. -/
theorem Extends.modify {p : FaultRecord → Bool} {f : FaultRecord → FaultRecord}
    (hf : ∀ r, (f r).key = r.key) : a.Extends { a with faults := modifyFirst p f a.faults } := by
  rw [Extends, modifyFirst_map hf]

/-- A record of this class and address exists. -/
def Recorded (a : FaultAuthority) (cls : FaultClass) (address : Option MotorAddress) : Prop :=
  ∃ r ∈ a.faults, r.fault = cls ∧ r.address = address

theorem Extends.recorded (h : a.Extends b) {cls : FaultClass} {address : Option MotorAddress} :
    a.Recorded cls address → b.Recorded cls address := by
  rintro ⟨r, hr, rfl, rfl⟩
  obtain ⟨r', hr', hk⟩ := h.mem_key hr
  simp only [FaultRecord.key, Prod.mk.injEq] at hk
  exact ⟨r', hr', hk.2.1, hk.2.2.2.1⟩

theorem Recorded.latched {cls : FaultClass} {address : Option MotorAddress}
    (h : a.Recorded cls address) : a.isLatched = true :=
  isLatched_iff.mpr (h.imp fun _ h => h.1)

section
variable (now : Instant) (cls : FaultClass) (joint : Option String) (address : Option MotorAddress)
  (message : String) (device : DeviceFaultEvidence) (receive : ReceiveFaultEvidence)

theorem extends_record : a.Extends (a.record now cls joint address message device).2 := by
  unfold record
  split
  · exact .modify fun _ => by rfl
  · simp [Extends]

/-- The flag of `record` tells whether nothing was latched before. -/
theorem record_first : (a.record now cls joint address message device).1 = !a.isLatched := by
  unfold record
  split
  · rename_i h
    obtain ⟨r, hr, -⟩ := List.any_eq_true.mp h
    simp [isLatched_iff.mpr ⟨r, hr⟩]
  · simp [isLatched]

theorem record_recorded :
    (a.record now cls joint address message device).2.Recorded cls address := by
  unfold record
  split
  · rename_i h
    refine Extends.recorded (.modify fun _ => by rfl) ?_
    obtain ⟨r, hr, hk⟩ := List.any_eq_true.mp h
    simp only [keyed, Bool.and_eq_true, decide_eq_true_eq] at hk
    exact ⟨r, hr, hk⟩
  · simp [Recorded]

theorem record_stopGeneration :
    (a.record now cls joint address message device).2.stopGeneration = a.stopGeneration := by
  unfold record
  split <;> rfl

theorem extends_recordReceive :
    a.Extends (a.recordReceive now cls joint address message device receive).2 :=
  (extends_record now cls joint address message device).trans (.modify fun _ => by rfl)

theorem recordReceive_recorded :
    (a.recordReceive now cls joint address message device receive).2.Recorded cls address :=
  Extends.recorded (.modify fun _ => by rfl)
    (record_recorded (a := a) now cls joint address message device)

end

theorem recordWarning_marks (now : Instant) (joint : String) (address : MotorAddress)
    (bytes : Word) : (a.recordWarning now joint address bytes).faults = a.faults ∧
      (a.recordWarning now joint address bytes).stopGeneration = a.stopGeneration := by
  unfold recordWarning
  repeat' split
  all_goals exact ⟨rfl, rfl⟩

end FaultAuthority

/-! ## Programs that record -/

section
variable [World F] {T : Prop} {ε : Type} {E : Effect → Prop} [Allows E .tick] [Allows E .latch]
  {s : System F}

section
variable (cls : FaultClass) (joint : Option String) (address : Option MotorAddress)
  (message : String) (device : DeviceFaultEvidence) (receive : ReceiveFaultEvidence)

/-- The flag tells whether the fault is the first one, and its class is on record afterwards. -/
theorem recordFault_along :
    Along (Runs E) (recordFault cls joint address message device : Prog (System F) ε Bool)
      (Returns fun first s' => first = !s.hasLatchedFault ∧
        s'.faultAuthority.Recorded cls address) s := by
  refine .next now_along fun t _ _ ⟨hs, _⟩ => hs ▸ .read (.update ?_ (.pure ⟨?_, ?_⟩))
  · exact .single (l := .latch) (.latch (FaultAuthority.extends_record ..)
      (FaultAuthority.record_stopGeneration ..))
  · exact FaultAuthority.record_first ..
  · exact FaultAuthority.record_recorded ..

theorem recordReceiveFault_along :
    Along (Runs E)
      (recordReceiveFault cls joint address message device receive : Prog (System F) ε Bool)
      (Returns fun first s' => first = !s.hasLatchedFault ∧
        s'.faultAuthority.Recorded cls address) s := by
  refine .next now_along fun t _ _ ⟨hs, _⟩ => hs ▸ .read (.update ?_ (.pure ⟨?_, ?_⟩))
  · exact .single (l := .latch) (.latch (FaultAuthority.extends_recordReceive ..)
      (FaultAuthority.record_stopGeneration ..))
  · exact FaultAuthority.record_first ..
  · exact FaultAuthority.recordReceive_recorded ..

instance :
    Keeps T (Runs E) (recordFault cls joint address message device : Prog (System F) ε Bool) :=
  .ofAlong fun _ => recordFault_along ..

instance : Keeps T (Runs E)
      (recordReceiveFault cls joint address message device receive : Prog (System F) ε Bool) :=
  .ofAlong fun _ => recordReceiveFault_along ..

end

omit [Allows E .latch] in
instance [Allows E .mark] (joint : String) (address : MotorAddress)
    (bytes : Word) : Keeps T (Runs E) (recordWarning joint address bytes : Prog (System F) ε Unit) :=
  .bind fun _ => .ofStep .mark fun _ => .mark (FaultAuthority.recordWarning_marks ..).1
    (FaultAuthority.recordWarning_marks ..).2

/-! ## Runtime errors -/

instance (error : DavoutError) :
    Keeps T (Runs E) (recordRuntimeError error : Prog (System F) ε Bool) := by
  unfold recordRuntimeError
  refine .bind fun t => .bind fun s => ?_
  split <;> infer_instance

end

end Marengo

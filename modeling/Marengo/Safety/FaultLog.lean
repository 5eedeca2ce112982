import Marengo.Safety.Faults

/-!
# The fault log

What the records of the fault authority say about the calls that made them. Every call of `record`
and `record_receive` is an `Occurrence`; the occurrences of one class and address share one record,
which accumulates their evidence (`FaultRecord.Accumulates`). One occurrence is either merged into
the record that is there or appended (`report_faults`), and the run is by induction from its end.
-/

namespace Marengo

/-! ## One occurrence -/

/-- A call of `record`, or of `record_receive` if it has receive evidence. -/
structure Occurrence where
  now : Instant
  fault : FaultClass
  joint : Option String
  address : Option MotorAddress
  message : String
  device : DeviceFaultEvidence
  receive : Option ReceiveFaultEvidence

def Occurrence.concerns (o : Occurrence) (r : FaultRecord) : Bool :=
  FaultAuthority.keyed o.fault o.address r

theorem Occurrence.concerns_iff {o : Occurrence} {r : FaultRecord} :
    o.concerns r = true ↔ r.fault = o.fault ∧ r.address = o.address := by
  simp [concerns, FaultAuthority.keyed]

def ReceiveFaultEvidence.add (e : ReceiveFaultEvidence) :
    Option ReceiveFaultEvidence → ReceiveFaultEvidence
  | none => e
  | some other => e.merge other

/-- What a later occurrence does to its record. -/
def Occurrence.merge (o : Occurrence) (r : FaultRecord) : FaultRecord :=
  { r with
    lastSeen := o.now
    device := r.device.merge o.device
    message := accumulateMessage r.message o.message
    receive := r.receive.add o.receive }

def Occurrence.opened (o : Occurrence) (id : ℕ) : FaultRecord where
  id := id
  fault := o.fault
  joint := o.joint
  address := o.address
  firstSeen := o.now
  lastSeen := o.now
  message := boundedMessage o.message
  device := o.device
  receive := ReceiveFaultEvidence.add {} o.receive

namespace FaultAuthority

def report (a : FaultAuthority) (o : Occurrence) : Bool × FaultAuthority :=
  match o.receive with
  | none => a.record o.now o.fault o.joint o.address o.message o.device
  | some e => a.recordReceive o.now o.fault o.joint o.address o.message o.device e

def logged (os : List Occurrence) : FaultAuthority := os.foldl (fun a o => (a.report o).2) {}

/-- No two records have the same class and address. -/
def Distinct (a : FaultAuthority) : Prop := (a.faults.map fun r => (r.fault, r.address)).Nodup

end FaultAuthority

/-! ## Changing one element of a list -/

section
variable {α : Type} {p : α → Bool} {f g : α → α} {xs : List α}

theorem modifyFirst_modifyFirst (hf : ∀ x, p (f x) = p x) :
    modifyFirst p g (modifyFirst p f xs) = modifyFirst p (g ∘ f) xs := by
  induction xs with
  | nil => rfl
  | cons x xs ih => by_cases hx : p x <;> simp [modifyFirst, hx, hf, ih]

theorem modifyFirst_concat {x : α} (hxs : xs.any p = false) (hx : p x = true) :
    modifyFirst p f (xs ++ [x]) = xs ++ [f x] := by
  induction xs with
  | nil => simp [modifyFirst, hx]
  | cons y ys ih =>
    simp only [List.any_cons, Bool.or_eq_false_iff] at hxs
    simp [modifyFirst, hxs.1, ih hxs.2]

/-- Where at most one element qualifies, it is the one that changes. -/
theorem mem_modifyFirst (hone : xs.Pairwise fun x y => ¬(p x = true ∧ p y = true)) {z : α}
    (hz : z ∈ modifyFirst p f xs) :
    (z ∈ xs ∧ p z = false) ∨ ∃ x ∈ xs, p x = true ∧ z = f x := by
  induction xs with
  | nil => cases hz
  | cons x xs ih =>
    rw [List.pairwise_cons] at hone
    by_cases hx : p x = true
    · rw [modifyFirst, if_pos hx, List.mem_cons] at hz
      rcases hz with rfl | hz
      · exact .inr ⟨x, .head _, hx, rfl⟩
      · exact .inl ⟨.tail _ hz, Bool.eq_false_iff.2 fun hp => hone.1 z hz ⟨hx, hp⟩⟩
    · rw [modifyFirst, if_neg hx, List.mem_cons] at hz
      rcases hz with rfl | hz
      · exact .inl ⟨.head _, Bool.eq_false_iff.2 hx⟩
      · rcases ih hone.2 hz with ⟨hmem, hp⟩ | ⟨y, hy, hp, rfl⟩
        · exact .inl ⟨.tail _ hmem, hp⟩
        · exact .inr ⟨y, .tail _ hy, hp, rfl⟩

end

/-! ## What a call does -/

namespace FaultAuthority

variable {a : FaultAuthority} {o : Occurrence}

theorem report_faults : (a.report o).2.faults =
    if a.faults.any o.concerns then modifyFirst o.concerns o.merge a.faults
    else a.faults ++ [o.opened (a.faults.length + 1)] := by
  obtain ⟨now, fault, joint, address, message, device, receive⟩ := o
  have hconcerns : Occurrence.concerns ⟨now, fault, joint, address, message, device, receive⟩ =
      keyed fault address := rfl
  rw [hconcerns]
  by_cases hany : a.faults.any (keyed fault address) = true
  · rw [if_pos hany]
    cases receive with
    | none =>
      simp only [report, record, if_pos hany]
      rfl
    | some e =>
      simp only [report, recordReceive, record, if_pos hany]
      exact modifyFirst_modifyFirst fun r => rfl
  · rw [if_neg hany]
    cases receive with
    | none =>
      simp only [report, record, if_neg hany]
      rfl
    | some e =>
      simp only [report, recordReceive, record, if_neg hany]
      exact modifyFirst_concat (Bool.eq_false_iff.2 hany) (by simp [keyed])

theorem report_flag : (a.report o).1 = !a.isLatched := by
  unfold report
  split <;> exact record_first ..

theorem extends_report : a.Extends (a.report o).2 := by
  unfold report
  split
  · exact extends_record ..
  · exact extends_recordReceive ..

theorem logged_concat (os : List Occurrence) : logged (os ++ [o]) = ((logged os).report o).2 := by
  rw [logged, List.foldl_append]
  rfl

theorem Distinct.pairwise (h : a.Distinct) (o : Occurrence) :
    a.faults.Pairwise fun r r' => ¬(o.concerns r = true ∧ o.concerns r' = true) := by
  refine (List.pairwise_map.1 h).imp fun {r r'} hne hboth => hne ?_
  rw [Occurrence.concerns_iff, Occurrence.concerns_iff] at hboth
  rw [hboth.1.1, hboth.1.2, hboth.2.1, hboth.2.2]

theorem Distinct.report (h : a.Distinct) (o : Occurrence) : (a.report o).2.Distinct := by
  rw [Distinct, report_faults]
  split
  · rw [modifyFirst_map (f := o.merge) fun r => by rfl]
    exact h
  · rename_i hnew
    rw [List.map_append, List.nodup_append]
    refine ⟨h, List.nodup_singleton _, fun k hk k' hk' heq => hnew ?_⟩
    obtain ⟨r, hr, rfl⟩ := List.mem_map.1 hk
    obtain rfl := List.mem_singleton.1 hk'
    exact List.any_eq_true.2 ⟨r, hr, Occurrence.concerns_iff.2 (Prod.mk.inj heq)⟩

end FaultAuthority

/-! ## Accumulated evidence -/

def Occurrence.frames (o : Occurrence) : ℕ := o.receive.elim 0 (·.frameCount)

def Occurrence.incompletes (o : Occurrence) : ℕ := o.receive.elim 0 (·.incompleteCount)

def unionOf (mask : DeviceFaultEvidence → UInt8) (os : List Occurrence) : UInt8 :=
  os.foldl (fun m o => m ||| mask o.device) 0

/-- The bytewise union of a word over occurrences. -/
def unionOfWords (word : DeviceFaultEvidence → Word) (os : List Occurrence) : Word :=
  os.foldl (fun w o => w.union (word o.device)) (.replicate 4 0)

theorem unionOf_concat (mask : DeviceFaultEvidence → UInt8) (os : List Occurrence) (o : Occurrence) :
    unionOf mask (os ++ [o]) = unionOf mask os ||| mask o.device := by
  simp [unionOf]

theorem unionOfWords_concat (word : DeviceFaultEvidence → Word) (os : List Occurrence)
    (o : Occurrence) :
    unionOfWords word (os ++ [o]) = (unionOfWords word os).union (word o.device) := by
  simp [unionOfWords]

/-- The record `r` is what the occurrences `first :: rest` of its class and address have made of it. -/
structure FaultRecord.Accumulates (r : FaultRecord) (first : Occurrence) (rest : List Occurrence) :
    Prop where
  joint : r.joint = first.joint
  firstSeen : r.firstSeen = first.now
  statusFlags : r.device.statusFlags = unionOf (·.statusFlags) (first :: rest)
  partialFaultAvailable :
    r.device.partialFaultAvailable = unionOf (·.partialFaultAvailable) (first :: rest)
  partialWarningAvailable :
    r.device.partialWarningAvailable = unionOf (·.partialWarningAvailable) (first :: rest)
  detailedFaultBytes :
    r.device.detailedFaultBytes = unionOfWords (·.detailedFaultBytes) (first :: rest)
  warningBytes : r.device.warningBytes = unionOfWords (·.warningBytes) (first :: rest)
  partialFaultBytes :
    r.device.partialFaultBytes = unionOfWords (·.partialFaultBytes) (first :: rest)
  partialWarningBytes :
    r.device.partialWarningBytes = unionOfWords (·.partialWarningBytes) (first :: rest)
  frameCount : r.receive.frameCount = min ((first :: rest).map Occurrence.frames).sum maxU64
  incompleteCount :
    r.receive.incompleteCount = min ((first :: rest).map Occurrence.incompletes).sum maxU64
  /-- The receive time was seen, and none that was seen is later. -/
  received : ∃ o ∈ first :: rest, r.device.receivedAt = o.device.receivedAt
  latest : ∀ o ∈ first :: rest, ∀ t, o.device.receivedAt = some t →
    ∃ t', r.device.receivedAt = some t' ∧ t ≤ t'
  messageLength : r.message.toList.length ≤ maxFaultMessageLen
  firstMessage : (boundedMessage first.message).toList <+: r.message.toList

theorem Word.union_zero (w : Word) : Word.union (.replicate 4 0) w = w := by
  ext i hi
  simp [Word.union]

theorem laterOf_cases (a b : Option Instant) :
    (laterOf a b = a ∧ ∀ t, b = some t → ∃ t', a = some t' ∧ t ≤ t') ∨
      (laterOf a b = b ∧ ∀ t, a = some t → ∃ t', b = some t' ∧ t ≤ t') := by
  cases a with
  | none => exact .inr ⟨rfl, nofun⟩
  | some s =>
    cases b with
    | none => exact .inl ⟨rfl, nofun⟩
    | some t =>
      by_cases hst : s < t
      · refine .inr ⟨by simp [laterOf, hst], fun u hu => ⟨t, rfl, ?_⟩⟩
        cases hu
        exact hst.le
      · refine .inl ⟨by simp [laterOf, hst], fun u hu => ⟨s, rfl, ?_⟩⟩
        cases hu
        exact not_lt.1 hst

theorem accumulateMessage_length {existing : String} (message : String)
    (h : existing.toList.length ≤ maxFaultMessageLen) :
    (accumulateMessage existing message).toList.length ≤ maxFaultMessageLen := by
  unfold accumulateMessage
  dsimp only
  split
  · rw [String.toList_ofList]
    exact List.length_take_le ..
  · exact h

/-- The cap cuts only what comes after the message that is there. -/
theorem prefix_accumulateMessage {existing : String} (message : String)
    (h : existing.toList.length ≤ maxFaultMessageLen) :
    existing.toList <+: (accumulateMessage existing message).toList := by
  unfold accumulateMessage
  dsimp only
  split
  · rw [String.toList_ofList, String.toList_append, String.toList_append, List.append_assoc]
    refine List.prefix_take_iff.2 ⟨List.prefix_append .., h⟩
  · exact List.prefix_rfl

namespace FaultRecord.Accumulates

variable {r : FaultRecord} {first o : Occurrence} {rest : List Occurrence}

theorem opened (o : Occurrence) (id : ℕ) : (o.opened id).Accumulates o [] where
  joint := rfl
  firstSeen := rfl
  statusFlags := by simp [unionOf, Occurrence.opened]
  partialFaultAvailable := by simp [unionOf, Occurrence.opened]
  partialWarningAvailable := by simp [unionOf, Occurrence.opened]
  detailedFaultBytes := (Word.union_zero _).symm
  warningBytes := (Word.union_zero _).symm
  partialFaultBytes := (Word.union_zero _).symm
  partialWarningBytes := (Word.union_zero _).symm
  frameCount := by
    cases h : o.receive <;>
      simp [Occurrence.opened, Occurrence.frames, h, ReceiveFaultEvidence.add,
        ReceiveFaultEvidence.merge]
  incompleteCount := by
    cases h : o.receive <;>
      simp [Occurrence.opened, Occurrence.incompletes, h, ReceiveFaultEvidence.add,
        ReceiveFaultEvidence.merge]
  received := ⟨o, .head _, rfl⟩
  latest := by
    intro o' ho' t ht
    obtain rfl := List.mem_singleton.1 ho'
    exact ⟨t, ht, le_rfl⟩
  messageLength := by
    have hcap : 512 ≤ maxFaultMessageLen := by decide
    simp only [Occurrence.opened, boundedMessage, String.toList_ofList, List.length_take]
    omega
  firstMessage := List.prefix_rfl

theorem merge (h : r.Accumulates first rest) (o : Occurrence) :
    (o.merge r).Accumulates first (rest ++ [o]) where
  joint := h.joint
  firstSeen := h.firstSeen
  statusFlags := by
    rw [← List.cons_append, unionOf_concat, ← h.statusFlags]
    rfl
  partialFaultAvailable := by
    rw [← List.cons_append, unionOf_concat, ← h.partialFaultAvailable]
    rfl
  partialWarningAvailable := by
    rw [← List.cons_append, unionOf_concat, ← h.partialWarningAvailable]
    rfl
  detailedFaultBytes := by
    rw [← List.cons_append, unionOfWords_concat, ← h.detailedFaultBytes]
    rfl
  warningBytes := by
    rw [← List.cons_append, unionOfWords_concat, ← h.warningBytes]
    rfl
  partialFaultBytes := by
    rw [← List.cons_append, unionOfWords_concat, ← h.partialFaultBytes]
    rfl
  partialWarningBytes := by
    rw [← List.cons_append, unionOfWords_concat, ← h.partialWarningBytes]
    rfl
  frameCount := by
    have hcount := h.frameCount
    rw [← List.cons_append, List.map_append, List.sum_append]
    cases he : o.receive <;>
      simp only [Occurrence.merge, he, ReceiveFaultEvidence.add, ReceiveFaultEvidence.merge,
        Occurrence.frames, List.map_singleton, List.sum_singleton, Option.elim] <;> omega
  incompleteCount := by
    have hcount := h.incompleteCount
    rw [← List.cons_append, List.map_append, List.sum_append]
    cases he : o.receive <;>
      simp only [Occurrence.merge, he, ReceiveFaultEvidence.add, ReceiveFaultEvidence.merge,
        Occurrence.incompletes, List.map_singleton, List.sum_singleton, Option.elim] <;> omega
  received := by
    obtain ⟨o', ho', hreceived⟩ := h.received
    rcases laterOf_cases r.device.receivedAt o.device.receivedAt with ⟨hlater, -⟩ | ⟨hlater, -⟩
    · exact ⟨o', List.mem_append_left [o] ho', hlater.trans hreceived⟩
    · exact ⟨o, by simp, hlater⟩
  latest := by
    intro o' ho' t ht
    have hmerge : (o.merge r).device.receivedAt = laterOf r.device.receivedAt o.device.receivedAt :=
      rfl
    rw [← List.cons_append, List.mem_append, List.mem_singleton] at ho'
    rw [hmerge]
    rcases laterOf_cases r.device.receivedAt o.device.receivedAt with
      ⟨hlater, hother⟩ | ⟨hlater, hother⟩ <;> rw [hlater] <;> rcases ho' with ho' | rfl
    · exact h.latest o' ho' t ht
    · exact hother t ht
    · obtain ⟨t', ht', hle⟩ := h.latest o' ho' t ht
      obtain ⟨u, hu, hle'⟩ := hother t' ht'
      exact ⟨u, hu, hle.trans hle'⟩
    · exact ⟨t, ht, le_rfl⟩
  messageLength := accumulateMessage_length _ h.messageLength
  firstMessage := h.firstMessage.trans (prefix_accumulateMessage _ h.messageLength)

end FaultRecord.Accumulates

/-! ## The run -/

namespace FaultAuthority

variable {a : FaultAuthority} {os : List Occurrence}

/-- Every record is what the occurrences of its class and address have made of it. -/
structure Logs (a : FaultAuthority) (os : List Occurrence) : Prop where
  distinct : a.Distinct
  complete : ∀ o ∈ os, ∃ r ∈ a.faults, o.concerns r = true
  evidence : ∀ r ∈ a.faults, ∃ first rest,
    os.filter (·.concerns r) = first :: rest ∧ r.Accumulates first rest

theorem concerns_merge (o o' : Occurrence) (r : FaultRecord) :
    o'.concerns (o.merge r) = o'.concerns r := rfl

theorem Logs.report (h : a.Logs os) (o : Occurrence) : (a.report o).2.Logs (os ++ [o]) := by
  refine ⟨h.distinct.report o, fun o' ho' => ?_, fun r hr => ?_⟩
  · rw [List.mem_append, List.mem_singleton] at ho'
    rcases ho' with ho' | rfl
    · obtain ⟨r, hr, hconcerns⟩ := h.complete o' ho'
      have hextends : a.Extends (a.report o).2 := extends_report
      obtain ⟨r', hr', hkey⟩ := hextends.mem_key hr
      simp only [FaultRecord.key, Prod.mk.injEq] at hkey
      rw [Occurrence.concerns_iff, ← hkey.2.1, ← hkey.2.2.2.1] at hconcerns
      exact ⟨r', hr', Occurrence.concerns_iff.2 hconcerns⟩
    · have hrecorded : (a.report o').2.Recorded o'.fault o'.address := by
        unfold FaultAuthority.report
        split
        · exact record_recorded ..
        · exact recordReceive_recorded ..
      obtain ⟨r, hr, hkey⟩ := hrecorded
      exact ⟨r, hr, Occurrence.concerns_iff.2 hkey⟩
  · rw [report_faults] at hr
    rw [List.filter_append]
    split at hr
    · rcases mem_modifyFirst (h.distinct.pairwise o) hr with ⟨hmem, hother⟩ | ⟨r₀, hr₀, hsame, rfl⟩
      · obtain ⟨first, rest, hfilter, hacc⟩ := h.evidence r hmem
        exact ⟨first, rest, by simp [hfilter, hother], hacc⟩
      · obtain ⟨first, rest, hfilter, hacc⟩ := h.evidence r₀ hr₀
        exact ⟨first, rest ++ [o], by simp [concerns_merge, hfilter, hsame], hacc.merge o⟩
    · rename_i hnew
      rw [List.mem_append, List.mem_singleton] at hr
      rcases hr with hr | rfl
      · obtain ⟨first, rest, hfilter, hacc⟩ := h.evidence r hr
        have hother : o.concerns r = false :=
          Bool.eq_false_iff.2 fun hsame => hnew (List.any_eq_true.2 ⟨r, hr, hsame⟩)
        exact ⟨first, rest, by simp [hfilter, hother], hacc⟩
      · -- nothing before concerns the class and address of a first occurrence
        refine ⟨o, [], ?_, .opened o _⟩
        have hself : o.concerns (o.opened (a.faults.length + 1)) = true :=
          Occurrence.concerns_iff.2 ⟨rfl, rfl⟩
        have hnone : os.filter (·.concerns (o.opened (a.faults.length + 1))) = [] := by
          refine List.filter_eq_nil_iff.2 fun o' ho' hconcerns => hnew ?_
          obtain ⟨r, hr, hr'⟩ := h.complete o' ho'
          rw [Occurrence.concerns_iff] at hr' hconcerns
          exact List.any_eq_true.2 ⟨r, hr, Occurrence.concerns_iff.2
            ⟨hr'.1.trans hconcerns.1.symm, hr'.2.trans hconcerns.2.symm⟩⟩
        rw [hnone, List.nil_append, List.filter_singleton, hself]
        rfl

theorem logged_logs (os : List Occurrence) : (logged os).Logs os := by
  induction os using List.reverseRecOn with
  | nil =>
    exact ⟨List.nodup_nil, fun o ho => absurd ho List.not_mem_nil,
      fun r hr => absurd hr List.not_mem_nil⟩
  | append_singleton os o ih =>
    rw [logged_concat]
    exact ih.report o

theorem extends_logged (before after : List Occurrence) :
    (logged before).Extends (logged (before ++ after)) := by
  induction after using List.reverseRecOn with
  | nil => rw [List.append_nil]; exact .refl
  | append_singleton after o ih =>
    rw [← List.append_assoc, logged_concat]
    exact ih.trans extends_report

theorem isLatched_logged (os : List Occurrence) : (logged os).isLatched = !os.isEmpty := by
  cases os with
  | nil => rfl
  | cons o os =>
    obtain ⟨r, hr, -⟩ := (logged_logs (o :: os)).complete o (.head _)
    simpa using isLatched_iff.2 ⟨r, hr⟩

/-- **The fault log.** After any sequence of calls there is one record for each class and address that
occurred and no other; the records of an earlier moment are the first records of a later one, with the
same id, class, joint, address and first time; each record has accumulated the evidence of all calls
about its class and address; and a call returns `true` exactly if it is the first. -/
theorem fault_log (os : List Occurrence) :
    ((logged os).faults.map fun r => (r.fault, r.address)).Nodup ∧
    (∀ o ∈ os, ∃ r ∈ (logged os).faults, r.fault = o.fault ∧ r.address = o.address) ∧
    (∀ before after, os = before ++ after →
      (logged before).faults.map FaultRecord.key <+: (logged os).faults.map FaultRecord.key) ∧
    (∀ r ∈ (logged os).faults, ∃ first rest,
      os.filter (fun o => o.fault = r.fault ∧ o.address = r.address) = first :: rest ∧
        r.Accumulates first rest) ∧
    (∀ before o after, os = before ++ o :: after →
      (((logged before).report o).1 = true ↔ before = [])) := by
  have hlogs := logged_logs os
  refine ⟨hlogs.distinct, fun o ho => ?_, ?_, fun r hr => ?_, ?_⟩
  · obtain ⟨r, hr, hconcerns⟩ := hlogs.complete o ho
    exact ⟨r, hr, Occurrence.concerns_iff.1 hconcerns⟩
  · rintro before after rfl
    exact extends_logged before after
  · obtain ⟨first, rest, hfilter, hacc⟩ := hlogs.evidence r hr
    refine ⟨first, rest, ?_, hacc⟩
    rw [← hfilter]
    refine List.filter_congr fun o _ => ?_
    rw [Bool.eq_iff_iff, Occurrence.concerns_iff, decide_eq_true_eq, eq_comm, eq_comm (b := r.address)]
  · rintro before o after -
    rw [report_flag, isLatched_logged]
    simp

end FaultAuthority

end Marengo

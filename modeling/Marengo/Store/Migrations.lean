import Mathlib.Logic.Function.Basic
import Marengo.Lib.Machine
import Marengo.Lib.Prog
import Marengo.Store.Sessions

/-!
# Schema migration

The loop of `migrate` keeps nothing from one transaction to the next but its time stamp, and reads the
version only once it has the writer's reservation. So any number of calls in any interleaving is a
list of attempts at one transaction each, and a turn of the machine `migrate` is one attempt. A turn
says what it committed and whether its call has returned.

Of a database, what migrations read and the rows of `settings` are kept; SQLite's own failures, in any
statement, are those of the attempt.
-/

namespace Marengo

open Machine

/-- `str::parse::<i64>`. -/
def parseI64 (text : String) : Option ℤ :=
  let (sign, digits) : ℤ × List Char := match text.toList with
    | '-' :: digits => (-1, digits)
    | '+' :: digits => (1, digits)
    | digits => (1, digits)
  let value := sign * digits.foldl (fun n digit => 10 * n + (digit.toNat - '0'.toNat)) 0
  if digits ≠ [] ∧ digits.all Char.isDigit ∧ -(maxSqlMs + 1) ≤ value ∧ value ≤ maxSqlMs then some value
  else none

def currentSchemaVersion : ℤ := 3

structure Setting where
  valueJson : String
  updatedMs : ℕ

structure Schema where
  /-- The table `settings`, by its primary key. -/
  settings : Option (String → Option Setting)
  /-- `log_events` has the column `fields_json`. -/
  fieldsPresent : Bool
  /-- There are objects other than `settings` that are not SQLite's own. -/
  otherObjects : Bool

structure MigrateAnswer where
  /-- The version that the committed step led away from. -/
  step : Option ℤ
  /-- What the call returned, if it is over. -/
  returned : Option (Except StoreError Unit)

namespace Schema

variable {db db' : Schema}

def setting (self : Schema) (key : String) : Option Setting := self.settings.bind (· key)

def schemaVersion (self : Schema) : Except StoreError ℤ :=
  match self.setting "schema_version" with
  | some ⟨marker, _⟩ =>
    match parseI64 marker with
    | none => .error (.message
        s!"invalid store schema version {marker.quote}; preserve this database for recovery")
    | some version =>
      if 1 ≤ version ∧ version ≤ currentSchemaVersion then .ok version
      else .error (.message (s!"unsupported store schema version {marker.quote}; " ++
        s!"this binary supports versions 1 through {currentSchemaVersion}"))
  | none =>
    if self.settings.isSome || self.otherObjects then .error (.message
      "nonempty store has no schema version; backed-up recovery is required before migration")
    else .ok 0

/-- `INSERT INTO settings`, where a conflict either replaces the row or does nothing. -/
def insertSetting (replaces : Bool) (key value : String) (now : ℕ) (self : Schema) :
    Except StoreError Schema :=
  match self.settings with
  | none => .error .sqlite
  | some rows =>
    if replaces || (rows key).isNone then
      .ok { self with settings := some (Function.update rows key (some ⟨value, now⟩)) }
    else .ok self

/-- The batch of one step. The third one drops a table that nothing here reads. -/
def applyStep (version : ℤ) (self : Schema) : Except StoreError Schema :=
  if version = 0 then
    .ok { self with settings := some (self.settings.getD fun _ => none), otherObjects := true }
  else if version = 1 then
    if self.fieldsPresent then .error (.message
      "historic partial v2 schema requires backed-up recovery; no migration applied")
    else .ok { self with fieldsPresent := true }
  else if version = 2 then .ok self
  else .error (.message "unsupported store schema version")

/-- One transaction of the loop: the version that its step leads away from, or `none` once the schema
is current. -/
def transaction (now : ℕ) (self : Schema) : Except StoreError (Option ℤ × Schema) := do
  let version ← self.schemaVersion
  if version = currentSchemaVersion then
    let db ← self.insertSetting false "log_archive_days" "30" now
    let db ← db.insertSetting false "log_disk_budget_bytes" "5368709120" now
    .ok (none, db)
  else
    let db ← self.applyStep version
    let db ← db.insertSetting true "schema_version" (toString (version + 1)) now
    let reached ← db.schemaVersion
    if reached ≠ version + 1 then .error (.message
      ("store schema version did not advance to the expected version; " ++
        "preserve this database for recovery"))
    else .ok (some version, db)

/-! ## What one transaction does -/

/-- Every setting but the marker is still there. -/
def Kept (db db' : Schema) : Prop :=
  ∀ key row, key ≠ "schema_version" → db.setting key = some row → db'.setting key = some row

theorem Kept.trans {db'' : Schema} (h : Kept db db') (h' : Kept db' db'') : Kept db db'' :=
  fun key row hkey hrow => h' key row hkey (h key row hkey hrow)

theorem insertSetting_row {replaces : Bool} {key other value : String} {now : ℕ} {row : Setting}
    (h : db.insertSetting replaces key value now = .ok db') (hother : replaces = true → other ≠ key)
    (hrow : db.setting other = some row) : db'.setting other = some row := by
  unfold insertSetting at h
  cases hrows : db.settings with
  | none => simp only [hrows, reduceCtorEq] at h
  | some rows =>
    simp only [setting, hrows, Option.bind_some] at h hrow
    split at h <;> obtain rfl := Except.ok.inj h
    · rename_i hnew
      have hne : other ≠ key := by
        rintro rfl
        cases replaces with
        | true => exact hother rfl rfl
        | false => simp [hrow] at hnew
      simp [setting, Function.update_of_ne hne, hrow]
    · simp [setting, hrows, hrow]

theorem applyStep_kept {version : ℤ} (h : db.applyStep version = .ok db') : Kept db db' := by
  unfold applyStep at h
  intro key row _ hrow
  split at h
  · obtain rfl := Except.ok.inj h
    cases hrows : db.settings <;> simp_all [setting]
  split at h
  · split at h <;> cases h
    exact hrow
  split at h <;> cases h
  exact hrow

theorem schemaVersion_le {version : ℤ} (h : db.schemaVersion = .ok version) :
    version ≤ currentSchemaVersion := by
  unfold schemaVersion at h
  split at h
  · split at h
    · cases h
    split at h <;> cases h
    exact And.right ‹_›
  · split at h <;> cases h
    decide

/-- A transaction of the current schema leaves its version alone. -/
theorem schemaVersion_insert {key value : String} {now : ℕ}
    (h : db.insertSetting false key value now = .ok db')
    (hversion : db.schemaVersion = .ok currentSchemaVersion) :
    db'.schemaVersion = .ok currentSchemaVersion := by
  cases hmarker : db.setting "schema_version" with
  | none =>
    simp only [schemaVersion, hmarker] at hversion
    split at hversion <;> cases hversion
  | some marker =>
    rw [← hversion, schemaVersion, schemaVersion, hmarker, insertSetting_row h nofun hmarker]

/-- What an attempt may do: nothing, the next step, or insert settings that were missing. -/
inductive Migration (db : Schema) : MigrateAnswer → Schema → Prop
  | nothing {returned : Option (Except StoreError Unit)} (hreturned : returned ≠ some (.ok ())) :
      Migration db ⟨none, returned⟩ db
  | step {version : ℤ} {db' : Schema} (hversion : db.schemaVersion = .ok version)
      (hnext : db'.schemaVersion = .ok (version + 1)) (hkept : Kept db db') :
      Migration db ⟨some version, none⟩ db'
  | current {returned : Option (Except StoreError Unit)} {db' : Schema}
      (hversion : db.schemaVersion = .ok currentSchemaVersion)
      (hnext : db'.schemaVersion = .ok currentSchemaVersion) (hkept : Kept db db') :
      Migration db ⟨none, returned⟩ db'

theorem transaction_ok {now : ℕ} {step : Option ℤ} (h : db.transaction now = .ok (step, db'))
    (crashes : Bool) :
    Migration db ⟨step, if crashes || step.isSome then none else some (.ok ())⟩ db' := by
  obtain ⟨version, hversion, h⟩ := Except.bind_eq_ok.1 h
  split at h
  · rename_i hcurrent
    obtain ⟨days, hdays, h⟩ := Except.bind_eq_ok.1 h
    obtain ⟨bytes, hbytes, h⟩ := Except.bind_eq_ok.1 h
    cases h
    rw [hcurrent] at hversion
    exact .current hversion (schemaVersion_insert hbytes (schemaVersion_insert hdays hversion))
      fun key row _ hrow => insertSetting_row hbytes nofun (insertSetting_row hdays nofun hrow)
  · obtain ⟨applied, happlied, h⟩ := Except.bind_eq_ok.1 h
    obtain ⟨marked, hmarked, h⟩ := Except.bind_eq_ok.1 h
    obtain ⟨reached, hreached, h⟩ := Except.bind_eq_ok.1 h
    split at h
    · cases h
    rename_i hnext
    cases h
    rw [not_not.1 hnext] at hreached
    rw [Option.isSome_some, Bool.or_true, if_pos rfl]
    exact .step hversion hreached ((applyStep_kept happlied).trans fun key row hkey hrow =>
      insertSetting_row hmarked (fun _ => hkey) hrow)

end Schema

/-! ## Calls of any number of processes -/

/-- How an attempt ends: the transaction rolls back, with an error or by a crash, or it commits, and
the process may crash right after. -/
inductive TransactionFate
  | rollsBack (error : Option StoreError)
  | commits (crashes : Bool)

structure MigrateAttempt where
  journalMode : String
  nowMs : ℕ
  fate : TransactionFate

def migrate (db : Schema) (attempt : MigrateAttempt) : MigrateAnswer × Schema :=
  if attempt.journalMode.toLower = "off" then
    (⟨none, some (.error (.message ("migration refused: SQLite rollback journaling is disabled; " ++
      "restore a journal before retrying")))⟩, db)
  else if maxSqlMs < attempt.nowMs then
    (⟨none, some (.error (.message "migration timestamp exceeds SQLite milliseconds range"))⟩, db)
  else match attempt.fate with
    | .rollsBack error => (⟨none, error.map .error⟩, db)
    | .commits crashes => match db.transaction attempt.nowMs with
      | .error error => (⟨none, some (.error error)⟩, db)
      | .ok (step, db') => (⟨step, if crashes || step.isSome then none else some (.ok ())⟩, db')

theorem migrate_cases (db : Schema) (attempt : MigrateAttempt) :
    db.Migration (migrate db attempt).1 (migrate db attempt).2 := by
  unfold migrate
  split
  · exact .nothing nofun
  split
  · exact .nothing nofun
  split
  · rename_i error _
    exact .nothing (by cases error <;> nofun)
  split
  · exact .nothing nofun
  · rename_i htransaction
    exact Schema.transaction_ok htransaction _

variable (db : Schema) (start : ℤ) (ts : List (Turn Schema MigrateAttempt MigrateAnswer))

/-- The steps that were committed, in order. -/
def committedSteps : List ℤ := ts.filterMap (·.output.step)

theorem committedSteps_concat (t : Turn Schema MigrateAttempt MigrateAnswer) :
    committedSteps (ts ++ [t]) = committedSteps ts ++ t.output.step.toList := by
  unfold committedSteps
  rw [List.filterMap_append]
  cases h : t.output.step <;> simp [h]

/-- Where a run from the version `start` of `db` has come. -/
structure Migrated (s : Schema) : Prop where
  steps : committedSteps ts = (List.range (committedSteps ts).length).map fun k : ℕ => start + k
  version : s.schemaVersion = .ok (start + (committedSteps ts).length)
  returned : ∀ t ∈ ts, t.output.returned = some (.ok ()) →
    t.after.schemaVersion = .ok currentSchemaVersion ∧ s.schemaVersion = .ok currentSchemaVersion
  kept : db.Kept s

variable {db start ts}

theorem Migrated.attempt {s : Schema} (h : Migrated db start ts s) (attempt : MigrateAttempt) :
    Migrated db start (ts ++ [turn migrate s attempt]) (migrate s attempt).2 := by
  obtain ⟨hsteps, hversion, hreturned, hkept⟩ := h
  have hcases := migrate_cases s attempt
  unfold turn
  generalize migrate s attempt = result at hcases ⊢
  obtain ⟨answer, next⟩ := result
  simp only at hcases ⊢
  cases hcases with
  | nothing hnot =>
    refine ⟨?_, ?_, ?_, hkept⟩
    · rwa [committedSteps_concat, Option.toList_none, List.append_nil]
    · rwa [committedSteps_concat, Option.toList_none, List.append_nil]
    · rw [List.forall_mem_append, List.forall_mem_singleton]
      exact ⟨hreturned, fun h => absurd h hnot⟩
  | current hcurrent hnext hkept' =>
    refine ⟨?_, ?_, ?_, hkept.trans hkept'⟩
    · rwa [committedSteps_concat, Option.toList_none, List.append_nil]
    · rwa [committedSteps_concat, Option.toList_none, List.append_nil, hnext, ← hcurrent]
    · rw [List.forall_mem_append, List.forall_mem_singleton]
      exact ⟨fun t ht h => ⟨(hreturned t ht h).1, hnext⟩, fun _ => ⟨hnext, hnext⟩⟩
  | step hfrom hnext hkept' =>
    obtain rfl := Except.ok.inj (hversion.symm.trans hfrom)
    have hle := Schema.schemaVersion_le hnext
    refine ⟨?_, ?_, ?_, hkept.trans hkept'⟩
    · rw [committedSteps_concat, Option.toList_some, List.length_append, List.length_singleton,
        List.range_succ, List.map_append, ← hsteps, List.map_singleton]
    · rw [committedSteps_concat, Option.toList_some, List.length_append, List.length_singleton, hnext,
        Int.natCast_add, Int.natCast_one, Int.add_assoc]
    · -- a call that returned has seen the last version, which no step leads away from
      rw [List.forall_mem_append, List.forall_mem_singleton]
      refine ⟨fun t ht h => ?_, nofun⟩
      have hlast := Except.ok.inj (hversion.symm.trans (hreturned t ht h).2)
      omega

/-- **Migration is exactly once.** From a readable version, a run commits the steps from there on, each
once and in order, and the marker counts them; once a call has returned `Ok`, they are all of them. No
setting but the marker is overwritten. A database whose version is refused is left alone. -/
theorem migration_exactly_once (db : Schema) (attempts : List MigrateAttempt) :
    (∀ start, db.schemaVersion = .ok start →
      committedSteps (turns migrate db attempts) =
        (List.range (committedSteps (turns migrate db attempts)).length).map
          (fun k : ℕ => start + k) ∧
      (final migrate db attempts).schemaVersion =
        .ok (start + (committedSteps (turns migrate db attempts)).length) ∧
      ((∃ t ∈ turns migrate db attempts, t.output.returned = some (.ok ())) →
        start + (committedSteps (turns migrate db attempts)).length = currentSchemaVersion) ∧
      (∀ t ∈ turns migrate db attempts, t.output.returned = some (.ok ()) →
        t.after.schemaVersion = .ok currentSchemaVersion) ∧
      db.Kept (final migrate db attempts)) ∧
    ∀ error, db.schemaVersion = .error error → ∀ t ∈ turns migrate db attempts,
      t.after = db ∧ t.output.step = none ∧ t.output.returned ≠ some (.ok ()) := by
  refine ⟨fun start hstart => ?_, fun error herror => ?_⟩
  · have hinit : Migrated db start [] db := ⟨rfl, by simpa [committedSteps] using hstart, nofun,
      fun _ _ _ hrow => hrow⟩
    obtain ⟨-, hsteps, hversion, hreturned, hkept⟩ := follows (P := fun _ _ => True)
      (fun _ _ attempt h => ⟨trivial, h.attempt attempt⟩) hinit attempts
    refine ⟨hsteps, hversion, fun ⟨t, ht, h⟩ => ?_, fun t ht h => (hreturned t ht h).1, hkept⟩
    exact Except.ok.inj (hversion.symm.trans (hreturned t ht h).2)
  · have hstep : ∀ attempt, (migrate db attempt).2 = db ∧ (migrate db attempt).1.step = none ∧
        (migrate db attempt).1.returned ≠ some (.ok ()) := by
      intro attempt
      have hcases := migrate_cases db attempt
      generalize migrate db attempt = result at hcases ⊢
      obtain ⟨answer, next⟩ := result
      simp only at hcases ⊢
      cases hcases with
      | nothing hnot => exact ⟨rfl, rfl, hnot⟩
      | current hversion | step hversion => rw [herror] at hversion; cases hversion
    exact forall_turns (I := (· = db)) (fun s i hs => hs ▸ (hstep i).1)
      (fun s i hs => hs ▸ hstep i) rfl attempts

end Marengo

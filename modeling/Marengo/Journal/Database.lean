import Marengo.Journal.Event
import Mathlib.Data.List.Sort

/-!
# The journal database

The SQLite file behind the reference journal, as the code reads and writes it: its header, its
schema, the metadata row, the event rows and the page counts. `openDatabase` is the whole sequence
of checks at the start of a session and `append` the transaction that makes one event durable. A
call to SQLite or to the filesystem may fail with any error; `SqliteOpen` and `SqliteReply` say
which do. The digest is a parameter that yields 32 bytes. The checks on the parent directory and
on the rollback sidecar are left out: they do not depend on what the journal holds.
-/

namespace Marengo

def eventCapacity : ℕ := 4096

def pageCapacity : ℕ := 16384

/-- The largest journal file, in bytes. -/
def databaseCapacity : ℕ := 64 * 1024 * 1024

def rollbackCapacity : ℕ := 65 * 1024 * 1024

def applicationId : ℤ := 0x4d525246

def maxI64 : ℤ := 2 ^ 63 - 1

def metaSql : String :=
  "CREATE TABLE reference_meta(singleton INTEGER PRIMARY KEY CHECK(singleton=1), " ++
  "version INTEGER NOT NULL CHECK(version=1), next_session INTEGER NOT NULL " ++
  "CHECK(next_session>=0))"

def eventsSql : String :=
  "CREATE TABLE reference_events(session INTEGER NOT NULL CHECK(session>0), job BLOB NOT NULL " ++
  "CHECK(typeof(job)='blob' AND length(job)=8), body BLOB NOT NULL CHECK(typeof(body)='blob' AND " ++
  "length(body) BETWEEN 1 AND 1048576), checksum BLOB NOT NULL CHECK(typeof(checksum)='blob' AND " ++
  "length(checksum)=32), PRIMARY KEY(session,job)) WITHOUT ROWID"

/-- The tables of a journal, in the order of their names. -/
def journalSchema : List (String × String) :=
  [("reference_events", eventsSql), ("reference_meta", metaSql)]

/-- `b"SQLite format 3\0"`. -/
def sqliteMagic : List UInt8 :=
  [0x53, 0x51, 0x4C, 0x69, 0x74, 0x65, 0x20, 0x66, 0x6F, 0x72, 0x6D, 0x61, 0x74, 0x20, 0x33, 0]

structure Digest where
  run : List UInt8 → List UInt8
  length_run : ∀ bytes, (run bytes).length = 32

def journalError (message : String) : String := boundedMessage message

/-- How a journal error prints. -/
def displayJournalError (message : String) : String := "reference journal: " ++ message

/-! ## The file -/

/-- A row of `reference_events`. -/
@[ext]
structure EventRow where
  session : ℤ
  job : List UInt8
  body : List UInt8
  checksum : List UInt8
deriving DecidableEq

/-- The primary key orders the rows. -/
def EventRow.before (r r' : EventRow) : Prop :=
  r.session < r'.session ∨ r.session = r'.session ∧ r.job ≤ r'.job

instance : DecidableRel EventRow.before := fun _ _ => inferInstanceAs (Decidable (_ ∨ _))

def EventRow.key (r : EventRow) : ℤ × List UInt8 := (r.session, r.job)

/-- The table `reference_events`: no two rows have one primary key. -/
structure EventTable where
  rows : List EventRow
  unique : (rows.map EventRow.key).Nodup
deriving DecidableEq

namespace EventTable

def empty : EventTable := ⟨[], .nil⟩

def find (t : EventTable) (key : ℤ × List UInt8) : Option EventRow := t.rows.find? (·.key = key)

theorem find_eq_none {t : EventTable} {key : ℤ × List UInt8} :
    t.find key = none ↔ ∀ r ∈ t.rows, r.key ≠ key := by simp [find]

def insert (t : EventTable) (row : EventRow) (h : t.find row.key = none) : EventTable where
  rows := t.rows ++ [row]
  unique := by
    rw [List.map_append, List.nodup_append]
    refine ⟨t.unique, by simp, ?_⟩
    intro k hk k' hk'
    obtain ⟨r, hr, rfl⟩ := List.mem_map.1 hk
    obtain rfl : k' = row.key := by simpa using hk'
    exact find_eq_none.1 h r hr

theorem find_insert_self {t : EventTable} {row : EventRow} (h : t.find row.key = none) :
    (t.insert row h).find row.key = some row := by
  have hnone : t.rows.find? (·.key = row.key) = none := h
  rw [find, insert, List.find?_append, hnone]
  simp

def deleteSession (t : EventTable) (session : ℤ) : EventTable where
  rows := t.rows.filter (·.session ≠ session)
  unique := t.unique.sublist (List.filter_sublist.map _)

end EventTable

/-- A row of `reference_meta`. -/
structure MetaRow where
  singleton : ℤ
  version : ℤ
  nextSession : ℤ
deriving DecidableEq

/-- The row passes `singleton=1 AND version=1 AND next_session>=0`. -/
def MetaRow.valid (r : MetaRow) : Bool := r.singleton = 1 && r.version = 1 && 0 ≤ r.nextSession

/-- The parts of a journal file that the code looks at. -/
structure JournalFile where
  /-- The first twenty bytes. -/
  header : List UInt8
  applicationId : ℤ
  userVersion : ℤ
  /-- Schema objects by name, with their SQL. -/
  objects : List (String × String)
  metaRows : List MetaRow
  events : EventTable
  pageSize : ℕ
  pageCount : ℕ
  freelistCount : ℕ
  /-- The answer of `PRAGMA quick_check(1)`. -/
  quickCheck : String
deriving DecidableEq

namespace JournalFile

def length (f : JournalFile) : ℕ := f.pageCount * f.pageSize

/-- An empty file, as `create_new` leaves it. -/
def blank : JournalFile where
  header := []
  applicationId := 0
  userVersion := 0
  objects := []
  metaRows := []
  events := .empty
  pageSize := 4096
  pageCount := 0
  freelistCount := 0
  quickCheck := "ok"

/-- The file after its tables have been created. -/
def fresh (pages : ℕ) : JournalFile where
  header := sqliteMagic ++ [16, 0, 1, 1]
  applicationId := Marengo.applicationId
  userVersion := 1
  objects := journalSchema
  metaRows := [⟨1, 1, 0⟩]
  events := .empty
  pageSize := 4096
  pageCount := pages
  freelistCount := 0
  quickCheck := "ok"

/-- The rows in the order `ORDER BY session,job`. -/
def ordered (f : JournalFile) : List EventRow := f.events.rows.insertionSort EventRow.before

/-- The oldest session before `current` that has rows. -/
def oldest (f : JournalFile) (current : ℤ) : Option ℤ :=
  ((f.events.rows.map (·.session)).filter (· < current)).min?

end JournalFile

/-! ## Checks of a row -/

section Checks

variable {F R U : Type} (sha : Digest) (serde : BodySerde F R U)

/-- Check the integrity of a row by its identity view. -/
def checkedHistoryRow (session : ℕ) (job body checksum : List UInt8) : Except String Unit :=
  if job.length ≠ 8 then .error "job key width"
  else if checksum.length ≠ 32 then .error "checksum width"
  else if sha.run body ≠ checksum then .error "body checksum mismatch"
  else
    match decodeIdentity body with
    | .error e => .error (journalError e.display)
    | .ok identity =>
      if identity.matches session (ofBeBytes job) then .ok ()
      else .error "event identity/body mismatch"

def checkedBody [Scalar F] (session : ℕ) (job body checksum : List UInt8) : Except String Unit :=
  if job.length ≠ 8 then .error "job key width"
  else if checksum.length ≠ 32 then .error "checksum width"
  else if sha.run body ≠ checksum then .error "body checksum mismatch"
  else
    match decode serde.body body with
    | .error e => .error (journalError e.display)
    | .ok parsed =>
      if !parsed.validate || parsed.diagnosticSession ≠ session ||
          parsed.jobSequence ≠ ofBeBytes job then
        .error "event identity/body mismatch"
      else .ok ()

/-- The check of one row when a journal is opened. -/
def checkedRow (nextSession : ℤ) (row : EventRow) : Except String Unit :=
  if row.session ≤ 0 ∨ nextSession < row.session then .error "history session mismatch"
  else if ¬(1 ≤ row.body.length ∧ row.body.length ≤ bodyCapacity) ∨ row.checksum.length ≠ 32 then
    .error "history body length"
  else checkedHistoryRow sha row.session.toNat row.job row.body row.checksum

namespace JournalFile

def schema (f : JournalFile) : Except String Unit :=
  if f.applicationId ≠ Marengo.applicationId ∨ f.userVersion ≠ 1 then
    .error "incompatible journal identity/version"
  else if 2 < f.objects.length then .error "unexpected journal schema object"
  else if f.objects ≠ journalSchema then .error "exact journal schema mismatch"
  else if f.metaRows.length ≠ 1 ∨ (f.metaRows.filter (·.valid)).length ≠ 1 then
    .error "journal metadata mismatch"
  else .ok ()

/-- Every row passes its check, in key order. -/
def validateHistory (f : JournalFile) : Except String Unit :=
  if eventCapacity < f.events.rows.length then .error "journal event capacity"
  else
    match f.metaRows with
    | [] => .error "Query returned no rows"
    | row :: _ => f.ordered.forM (checkedRow sha row.nextSession)

end JournalFile

end Checks

/-! ## Opening -/

/-- What SQLite and the filesystem answer while a journal is opened. -/
structure SqliteOpen where
  /-- Error of the `n`-th call, if it fails. -/
  fault : ℕ → Option String
  /-- Values the pragmas read back. -/
  pragma : String → ℤ
  mode : String → String
  /-- Pages of a fresh journal after its first. -/
  pages : ℕ
  /-- Pages freed by each deletion of a session. -/
  freed : ℕ → ℕ

/-- The pragmas that are read back, with the values that were set. -/
def expectedPragmas : List (String × ℤ) :=
  [("synchronous", 3), ("cache_size", -512), ("cache_spill", 0), ("mmap_size", 0),
    ("temp_store", 2), ("trusted_schema", 0), ("max_page_count", pageCapacity),
    ("journal_size_limit", rollbackCapacity), ("busy_timeout", 0)]

def expectedModes : List (String × String) :=
  [("journal_mode", "delete"), ("locking_mode", "exclusive")]

/-- The file and the calls made so far. -/
structure JournalDisk where
  file : Option JournalFile
  calls : ℕ := 0
deriving DecidableEq

abbrev Opening := Prog JournalDisk String

section Opening

variable (sql : SqliteOpen) (sha : Digest)

def call : Opening Unit := do
  let d ← read
  update fun d => { d with calls := d.calls + 1 }
  match sql.fault d.calls with
  | none => pure ()
  | some e => fail (journalError e)

def theFile : Opening JournalFile := do
  let d ← read
  match d.file with
  | some f => pure f
  | none => fail "journal unavailable"

def putFile (f : JournalFile) : Opening Unit := update fun d => { d with file := some f }

/-- The existing file is of a supported size; a missing one is created if that is allowed. -/
def checkedResource (allowCreate : Bool) : Opening Bool := do
  call sql
  let d ← read
  match d.file with
  | some f => do
    ensure (f.length ≠ 0 ∧ f.length ≤ databaseCapacity)
      "journal is not a supported bounded existing file"
    pure false
  | none => do
    ensure (allowCreate = true) "entity not found"
    putFile .blank
    pure true

def checkedHeader : Opening Unit := do
  call sql
  let f ← theFile
  ensure (f.header.length = 20) "failed to fill whole buffer"
  ensure (f.header.take 16 = sqliteMagic ∧ f.header.drop 18 = [1, 1])
    "unsupported existing journal format"

/-- `schema`, on the open file. -/
def checkedSchema : Opening Unit := do
  call sql
  let f ← theFile
  lift f.schema

def checkedSettings : Opening Unit := do
  call sql
  let f ← theFile
  ensure (f.pageCount ≤ pageCapacity ∧ f.pageSize = 4096)
    "journal page size/capacity mismatch"
  call sql
  each expectedPragmas fun (name, expected) => do
    call sql
    ensure (sql.pragma name = expected) ("journal pragma " ++ name ++ " mismatch")
  each expectedModes fun (name, expected) => do
    call sql
    ensure (sql.mode name = expected) ("journal pragma " ++ name ++ " mismatch")

/-- The transaction that takes the lock, and creates the tables of a new file. -/
def createTables (created : Bool) : Opening Unit := do
  call sql
  when (created = true) do
    ensure (sql.pages < pageCapacity) "database or disk is full"
    putFile (.fresh (sql.pages + 1))

def checkedHistory : Opening Unit := do
  call sql
  let f ← theFile
  ensure (f.quickCheck = "ok") "journal integrity failure"
  lift (f.validateHistory sha)

/-- Take the next session number. -/
def allocate : Opening ℕ := do
  call sql
  let f ← theFile
  match f.metaRows with
  | [] => fail "Query returned no rows"
  | row :: rows => do
    ensure (row.nextSession + 1 ≤ maxI64 ∧ 0 < row.nextSession + 1)
      "diagnostic session exhausted"
    call sql
    putFile { f with metaRows := { row with nextSession := row.nextSession + 1 } :: rows }
    pure (row.nextSession + 1).toNat

/-- Drop whole oldest sessions until rows and pages are within their limits; the session of the
caller stays. Each round drops a row, so `fuel` rounds suffice for `fuel` rows. -/
def JournalFile.prune (freed : ℕ → ℕ) (current : ℤ) (maxRows maxPages : ℕ) :
    ℕ → JournalFile → JournalFile
  | 0, f => f
  | fuel + 1, f =>
    if f.events.rows.length ≤ maxRows ∧ f.pageCount ≤ maxPages + f.freelistCount then f
    else
      match f.oldest current with
      | none => f
      | some session => prune freed current maxRows maxPages fuel
          { f with
            events := f.events.deleteSession session
            freelistCount := f.freelistCount + freed fuel }

def pruneOldestSessions (session maxRows maxPages : ℕ) : Opening Unit := do
  call sql
  let f ← theFile
  putFile (f.prune sql.freed session maxRows maxPages f.events.rows.length)

/-- Take a session, and make room for its rows. -/
def takeSession : Opening ℕ := do
  let session ← allocate sql
  pruneOldestSessions sql session (eventCapacity / 2) (pageCapacity / 2)
  pure session

/-- Open a journal, and take a session of it if one is asked for. -/
def openDatabase (allowCreate allocateSession : Bool) : Opening ℕ := do
  let created ← checkedResource sql allowCreate
  when (created = false) (checkedHeader sql)
  when (created = false) (checkedSchema sql)
  checkedSettings sql
  createTables sql created
  checkedSchema sql
  checkedHistory sql sha
  if allocateSession then takeSession sql else pure 0

end Opening

/-! ## Appending -/

/-- What SQLite answers during one append. -/
structure SqliteReply where
  /-- Errors of the calls, if they fail. -/
  start : Option String := none
  query : Option String := none
  rollback : Option String := none
  commit : Option String := none
  select : Option String := none
  /-- Pages of the file after the insertion. -/
  pages : ℕ
  /-- A commit that reports an error took effect nevertheless. -/
  applied : Bool := false
  /-- The row read back, if it is not the one in the file. -/
  readback : Option (List UInt8 × List UInt8) := none

/-- Programs on an open file that end with the result of a job. -/
abbrev Appending := Prog JournalFile ReferenceJournalResult

/-- A call that ends the append with `f e` if it fails with `e`. -/
def attemptCall (fault : Option String) (f : String → ReferenceJournalResult) : Appending Unit :=
  match fault with
  | none => pure ()
  | some e => fail (f e)

section Appending

variable {F R U : Type} [Scalar F] (sha : Digest) (serde : BodySerde F R U) (sql : SqliteReply)
  (session sequence : ℕ) (body : List UInt8)

def jobKey (sequence : ℕ) : List UInt8 := beBytes 8 sequence

/-- Check the body before anything is written; the checksum. -/
def checkBody : Appending (List UInt8) :=
  match checkedBody sha serde session (jobKey sequence) body (sha.run body) with
  | .error e => fail (.failed (displayJournalError e))
  | .ok () => pure (sha.run body)

def eventRow (checksum : List UInt8) : EventRow := ⟨session, jobKey sequence, body, checksum⟩

/-- The insertion inside the transaction: the file as the transaction sees it. -/
def insertion (checksum : List UInt8) (f : JournalFile) : Except String JournalFile :=
  match sql.query with
  | some e => .error (journalError e)
  | none =>
    match h : f.events.find (eventRow session sequence body checksum).key with
    | some row =>
      if row.body ≠ body ∨ row.checksum ≠ checksum then .error "journal key/body conflict"
      else .ok f
    | none =>
      if eventCapacity ≤ f.events.rows.length then .error "journal event capacity reached"
      else if pageCapacity < sql.pages then .error "database or disk is full"
      else .ok
        { f with
          events := f.events.insert (eventRow session sequence body checksum) h
          pageCount := max f.pageCount sql.pages }

/-- Begin the transaction and insert the row, or roll back. -/
def insertRow (checksum : List UInt8) : Appending JournalFile := do
  attemptCall sql.start .failed
  let f ← read
  match insertion sql session sequence body checksum f with
  | .ok pending => pure pending
  | .error cause =>
    match sql.rollback with
    | none => fail (.failed (displayJournalError cause))
    | some e => fail (.uncertain (displayJournalError cause ++ "; rollback: " ++ e))

def commitRow (pending : JournalFile) : Appending Unit :=
  match sql.commit with
  | none => update fun _ => pending
  | some e => do
    when (sql.applied = true) (update fun _ => pending)
    fail (.uncertain e)

def selectRow : Appending (List UInt8 × List UInt8) := do
  attemptCall sql.select .uncertain
  let f ← read
  match sql.readback, f.events.find (session, jobKey sequence) with
  | some row, _ => pure row
  | none, some row => pure (row.body, row.checksum)
  | none, none => fail (.uncertain "Query returned no rows")

def readBack (checksum : List UInt8) : Appending ReferenceJournalResult := do
  let row ← selectRow sql session sequence
  ensure (row.1 = body ∧ row.2 = checksum) (.uncertain "committed event readback mismatch")
  match checkedBody sha serde session (jobKey sequence) row.1 row.2 with
  | .error e => fail (.uncertain (displayJournalError e))
  | .ok () => pure (.durableHistory session sequence checksum)

/-- Make one event durable. -/
def append : Appending ReferenceJournalResult := do
  let checksum ← checkBody sha serde session sequence body
  let pending ← insertRow sql session sequence body checksum
  commitRow sql pending
  readBack sha serde sql session sequence body checksum

end Appending

end Marengo

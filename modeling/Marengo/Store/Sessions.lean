import Mathlib.Data.List.Sort
import Mathlib.Data.Prod.Lex
import Mathlib.Data.String.Basic

/-!
# The log store

The session table of the log store, the files its rows refer to, and the two passes that remove
both: `purgeBefore`, by age, and `evictToBudget`, by disk usage. Each pass removes the files of the
sessions it has chosen, whatever the outcome of each removal, and then deletes their rows in one
transaction.

The outside is a record of `StoreFaults`: which removals fail, and whether the database does. A
row's label and candump statistics, which neither pass reads, are left out, and so is all of an
event but its time stamp.
-/

namespace Marengo

abbrev Path := String

/-- `i64::MAX`, the largest time stamp that SQLite stores. -/
def maxSqlMs : ℕ := 2 ^ 63 - 1

inductive StoreError
  | sqlite
  | io
  | message (text : String)
deriving DecidableEq

/-- A session and the artifacts that its row refers to. -/
structure LogSessionRow where
  id : String
  startedMs : ℕ
  endedMs : Option ℕ
  benchBlob : Option Path
  candumpBlob : Option Path
  traceBlob : Option Path
deriving DecidableEq

namespace LogSessionRow

def artifacts (self : LogSessionRow) : List Path :=
  [self.benchBlob, self.candumpBlob, self.traceBlob].reduceOption

/-- The order of the table: by start, then by id. -/
def key (self : LogSessionRow) : ℕ ×ₗ String := toLex (self.startedMs, self.id)

end LogSessionRow

/-- The table `log_sessions`, whose primary key is the id. -/
structure SessionTable where
  rows : List LogSessionRow
  ids : (rows.map (·.id)).Nodup

/-- `DELETE FROM log_sessions WHERE id = ?`. -/
def SessionTable.delete (self : SessionTable) (id : String) : SessionTable where
  rows := self.rows.filter (·.id ≠ id)
  ids := self.ids.sublist (List.filter_sublist.map _)

/-- What a path leads to, symbolic links not followed. -/
inductive Node
  | file (length : ℕ)
  | symlink
  | directory
deriving DecidableEq

/-- Bytes held by a regular file. -/
def Node.size : Node → ℕ
  | file length => length
  | symlink | directory => 0

/-- What goes wrong outside: the n-th removal, the walk of the log directory, a query or the
transaction. -/
structure StoreFaults where
  removal : ℕ → Bool := fun _ => false
  walk : Bool := false
  query : Bool := false
  transaction : Bool := false

structure Store where
  marengoRoot : Path
  dbPath : Path
  sessions : SessionTable
  events : List ℕ
  disk : List (Path × Node)
  /-- How many removals have been attempted. -/
  removals : ℕ := 0

namespace Store

/-! ## Removing files -/

/-- `fs::symlink_metadata`. -/
def symlinkMetadata (self : Store) (path : Path) : Option Node := self.disk.lookup path

/-- `fs::remove_file`: files and links are removed, directories are not. -/
def removeFile (faults : StoreFaults) (path : Path) (self : Store) : Store :=
  let attempted := { self with removals := self.removals + 1 }
  match self.symlinkMetadata path with
  | some (.file _) | some .symlink =>
    if faults.removal self.removals then attempted
    else { attempted with disk := self.disk.filter (·.1 ≠ path) }
  | some .directory | none => attempted

/-- Best-effort removal of one session's artifact files; a failure is only logged. -/
def removeSessionFiles (faults : StoreFaults) (session : LogSessionRow) (self : Store) : Store :=
  session.artifacts.foldl (fun s path => s.removeFile faults path) self

/-- The files, then the rows, of the chosen sessions. Returns whether the transaction went
through. -/
def removeSessions (faults : StoreFaults) (chosen : List LogSessionRow)
    (edit : Store → Store) (self : Store) : Bool × Store :=
  let removed := chosen.foldl (fun s session => s.removeSessionFiles faults session) self
  if faults.transaction then (false, removed)
  else (true, chosen.foldl (fun s session =>
    { s with sessions := s.sessions.delete session.id }) (edit removed))

/-! ## By age -/

def oldestFirst (self : Store) : List LogSessionRow :=
  self.sessions.rows.insertionSort fun a b => a.key ≤ b.key

/-- The newest session, whether it has an end or not. -/
def newest (self : Store) : Option LogSessionRow := self.oldestFirst.getLast?

/-- The sessions that a purge chooses: those that started before the cutoff, except the newest
session as long as it has no end. -/
def oldSessions (self : Store) (cutoff : ℕ) : List LogSessionRow :=
  self.sessions.rows.filter fun row =>
    row.startedMs < cutoff && (row.endedMs.isSome || some row.id ≠ self.newest.map (·.id))

/-- Remove events and sessions strictly before the cutoff. Returns how many of each. -/
def purgeBefore (faults : StoreFaults) (cutoffMs : ℕ) (self : Store) :
    Except StoreError (ℕ × ℕ) × Store :=
  if maxSqlMs < cutoffMs then
    (.error (.message "retention cutoff exceeds SQLite milliseconds range"), self)
  else if faults.query then (.error .sqlite, self)
  else
    let old := self.oldSessions cutoffMs
    let (committed, s) := self.removeSessions faults old fun s =>
      { s with events := s.events.filter fun ts => ¬ts < cutoffMs }
    if committed then (.ok ((self.events.filter (· < cutoffMs)).length, old.length), s)
    else (.error .sqlite, s)

/-! ## By disk usage -/

/-- Bytes held by regular files under a directory. -/
def dirSize (self : Store) (dir : Path) : ℕ :=
  (self.disk.filter fun entry => entry.1 = dir || entry.1.startsWith (dir ++ "/")).foldl
    (fun total entry => total + entry.2.size) 0

/-- Bytes held by the database and everything in the log directory. -/
def logDiskUsageBytes (faults : StoreFaults) (self : Store) : Except StoreError ℕ :=
  if faults.walk then .error .io
  else .ok (((self.symlinkMetadata self.dbPath).elim 0 Node.size) +
    self.dirSize (self.marengoRoot ++ "/var/log"))

def sessionBytes (self : Store) (session : LogSessionRow) : ℕ :=
  session.artifacts.foldl (fun total path => total + (self.symlinkMetadata path).elim 0 Node.size) 0

/-- Choose victims, oldest first, until the accounted usage fits. -/
def victims (self : Store) (budget : ℕ) : ℕ → List LogSessionRow → List LogSessionRow × ℕ
  | accounted, [] => ([], accounted)
  | accounted, session :: rest =>
    if accounted ≤ budget then ([], accounted)
    else
      let (chosen, left) := self.victims budget (accounted - self.sessionBytes session) rest
      (session :: chosen, left)

/-- Evict the oldest sessions, never the newest, until the usage fits the budget. Returns how many,
and the usage that is left. -/
def evictToBudget (faults : StoreFaults) (budgetBytes : ℕ) (self : Store) :
    Except StoreError (ℕ × ℕ) × Store :=
  match self.logDiskUsageBytes faults with
  | .error e => (.error e, self)
  | .ok usage =>
    if usage ≤ budgetBytes then (.ok (0, usage), self)
    else if faults.query then (.error .sqlite, self)
    else
      let (chosen, accounted) := self.victims budgetBytes usage self.oldestFirst.dropLast
      let (committed, s) := self.removeSessions faults chosen id
      if committed then (.ok (chosen.length, accounted), s) else (.error .sqlite, s)

end Store

end Marengo

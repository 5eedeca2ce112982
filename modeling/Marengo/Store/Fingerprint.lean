import Marengo.Journal.Codec
import Marengo.Lib.PrefixCode

/-!
# Fingerprints of a recovered store

Recovery compares a copy with its source by a digest over the rows of every table but the search index.
What is hashed is a stream of tagged values without separators. The stream tells all of them, so equal
streams come from equal rows (`fingerprint_eq_iff`), even if a text holds the bytes of the tags.

SQLite's part is its answers: the rows of a table in the order of all its columns.
-/

namespace Marengo

/-- A text or blob; its length is a `usize`. -/
abbrev SqlBytes := {bytes : List UInt8 // bytes.length < 256 ^ 8}

/-- `ValueRef`, with a real as its bits. -/
inductive SqlValue
  | null
  | integer (value : Int64)
  | real (bits : UInt64)
  | text (value : SqlBytes)
  | blob (value : SqlBytes)
deriving DecidableEq

/-- The answer to a query. -/
structure SqlRows where
  columns : ℕ
  columns_lt : columns < 256 ^ 8
  rows : List (Vector SqlValue columns)

def SqlValue.hashed : SqlValue → List UInt8
  | null => [0]
  | integer value => 1 :: leBytes 8 value.toUInt64.toNat
  | real bits => 2 :: leBytes 8 bits.toNat
  | text value => 3 :: (leBytes 8 value.1.length ++ value.1)
  | blob value => 4 :: (leBytes 8 value.1.length ++ value.1)

def hashRows (answer : SqlRows) : List UInt8 :=
  leBytes 8 answer.columns ++
    (answer.rows.flatMap (fun row => 1 :: row.toList.flatMap SqlValue.hashed) ++ [0])

/-! ## The tables -/

/-- What recovery adds to a source without it. -/
structure Preservation where
  hasDays : Bool
  hasBudget : Bool

structure SchemaObject where
  kind : String
  name : String

/-- The rows of each table, ordered by its columns. -/
abbrev StoredTables := String → SqlRows

/-- `value <> 'text'`. -/
def SqlValue.differs (text : String) : SqlValue → Bool
  | .null => false
  | .text value => value.1 ≠ utf8 text
  | _ => true

/-- The `WHERE` clause of `settings`, whose first column is the key. -/
def Preservation.keeps (self : Preservation) {columns : ℕ} (row : Vector SqlValue columns) : Bool :=
  row[0]?.any fun key => key.differs "schema_version" &&
    (self.hasDays || key.differs "log_archive_days") &&
    (self.hasBudget || key.differs "log_disk_budget_bytes")

def selectRows (repaired : Option Preservation) (tables : StoredTables) (name : String) : SqlRows :=
  match repaired with
  | some preserved =>
    if name = "settings" then { tables name with rows := (tables name).rows.filter preserved.keeps }
    else tables name
  | none => tables name

def preservedTables (expected : List SchemaObject) : List String :=
  (expected.filter fun object => object.kind = "table" && object.name ≠ "log_events_fts").map (·.name)

/-- What `fingerprint` feeds to the digest. -/
def fingerprint (expected : List SchemaObject) (repaired : Option Preservation)
    (tables : StoredTables) : List UInt8 :=
  (preservedTables expected).flatMap fun name =>
    leBytes 8 (utf8 name).length ++ utf8 name ++ hashRows (selectRows repaired tables name)

/-! ## The stream tells the rows -/

theorem SqlValue.hashed_code : PrefixCode SqlValue.hashed := by
  intro a b x y h
  cases a <;> cases b <;> first
    | exact absurd (List.cons.inj h).1 (by decide)
    | replace h := (List.cons.inj h).2
  case null.null => exact ⟨rfl, h⟩
  case integer.integer m n =>
    obtain ⟨m⟩ := m
    obtain ⟨n⟩ := n
    obtain ⟨hvalue, hrest⟩ := PrefixCode.leBytes_inj m.toNat_lt n.toNat_lt h
    exact ⟨congrArg (integer ⟨·⟩) (UInt64.toNat_inj.1 hvalue), hrest⟩
  case real.real m n =>
    obtain ⟨hvalue, hrest⟩ := PrefixCode.leBytes_inj m.toNat_lt n.toNat_lt h
    exact ⟨congrArg _ (UInt64.toNat_inj.1 hvalue), hrest⟩
  case text.text =>
    obtain ⟨rfl, hrest⟩ := PrefixCode.counted 8 h
    exact ⟨rfl, hrest⟩
  case blob.blob =>
    obtain ⟨rfl, hrest⟩ := PrefixCode.counted 8 h
    exact ⟨rfl, hrest⟩

theorem hashRows_code : PrefixCode hashRows := by
  intro a b x y h
  obtain ⟨columns, hcolumns, rows⟩ := a
  obtain ⟨columns', hcolumns', rows'⟩ := b
  rw [hashRows, hashRows, List.append_assoc (leBytes 8 _), List.append_assoc (leBytes 8 _)] at h
  obtain ⟨rfl, hrows⟩ := PrefixCode.leBytes_inj hcolumns hcolumns' h
  have hrow : PrefixCode fun row : Vector SqlValue columns => row.toList.flatMap SqlValue.hashed := by
    intro row row' x y h
    obtain ⟨hvalues, hrest⟩ := SqlValue.hashed_code.tuple (by simp) h
    exact ⟨Vector.toList_inj.1 hvalues, hrest⟩
  obtain ⟨rfl, hrest⟩ := hrow.marked (show (1 : UInt8) ≠ 0 by decide) hrows
  exact ⟨rfl, hrest⟩

/-- **Equal streams come from equal rows.** -/
theorem fingerprint_eq_iff (expected : List SchemaObject) (repaired repaired' : Option Preservation)
    (tables tables' : StoredTables) :
    fingerprint expected repaired tables = fingerprint expected repaired' tables' ↔
      ∀ name ∈ preservedTables expected,
        selectRows repaired tables name = selectRows repaired' tables' name := by
  unfold fingerprint
  induction preservedTables expected with
  | nil => simp
  | cons name names ih =>
    rw [List.flatMap_cons, List.flatMap_cons, List.forall_mem_cons, ← ih]
    constructor
    · intro h
      rw [List.append_assoc, List.append_assoc _ (hashRows _)] at h
      exact hashRows_code (List.append_cancel_left h)
    · rintro ⟨hname, hnames⟩
      rw [hname, hnames]

end Marengo

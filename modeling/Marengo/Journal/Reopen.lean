import Marengo.Journal.Database
import Marengo.Journal.Roundtrip

/-!
# A journal that was written can be opened

A body is checked in two places that share no code: `checkedBody` decodes it in full before it is
written, and `checkedHistoryRow` looks only at its identity when the journal is opened again. The
second follows from the first (`checkedHistoryRow_of_checkedBody`), since a body that decodes is
the canonical encoding of what it decodes to, and the reader inverts the encoder. From it,
`append` keeps a file that passes every check of `openDatabase` (`Held.append`), and so does a
sequence of appends.
-/

namespace Marengo

variable {F R U : Type}

/-! ## The two checks of a body -/

variable {bytes : List UInt8}

/-- A body that was encoded decodes, if the tree it was written from does. -/
theorem decode_encode {α : Type} {serde : Serde α} {a : α}
    (h : encode (serde.serialize a) = .ok bytes)
    (hinv : ∀ tree b, (serde.serialize a).serialize 0 {} = (.ok tree, b) →
      serde.deserialize tree = .ok a) : decode serde bytes = .ok a := by
  obtain ⟨tree, b, hser, hread⟩ := readTree_encode h
  refine Except.bind_eq_ok.2 ⟨tree, hread, Except.bind_eq_ok.2 ⟨a, hinv tree b hser, ?_⟩⟩
  refine Except.bind_eq_ok.2 ⟨bytes, h, ?_⟩
  rw [if_pos rfl]
  rfl

theorem decodeIdentity_of_decode {serde : BodySerde F R U}
    {parsed : Body F R U} (h : decode serde.body bytes = .ok parsed)
    (hs : 0 < parsed.diagnosticSession % 2 ^ 64) (hj : 0 < parsed.jobSequence % 2 ^ 64) :
    decodeIdentity bytes =
      .ok ⟨parsed.diagnosticSession % 2 ^ 64, parsed.jobSequence % 2 ^ 64⟩ := by
  obtain ⟨tree, b, hser, hread⟩ := readTree_encode (decode_ok h)
  simp only [BodySerde.body, Datum.serialize, bind_eq_ok, pure_eq_ok] at hser
  obtain ⟨_, _, _, _, _, _, _, _, _, fs, _, hfs, rfl, _⟩ := hser
  have field : ∀ key n, (key, Datum.u64 n) ∈ serde.fields parsed → 0 < n % 2 ^ 64 →
      identityField fs key = .ok (n % 2 ^ 64) := by
    intro key n hmem hpos
    obtain ⟨v, _, _, hv, hlookup⟩ := serializeFields_lookup hfs hmem
    obtain rfl := Datum.serialize_number hv
    have hbits : (BitVec.ofNat 64 n).toNat = n % 2 ^ 64 := BitVec.toNat_ofNat n 64
    rw [identityField, hlookup]
    exact (if_pos (hbits ▸ hpos)).trans (congrArg Except.ok hbits)
  have hsession := field "diagnostic_session" _ (by simp [BodySerde.fields]) hs
  have hjob := field "job_sequence" _ (by simp [BodySerde.fields]) hj
  rw [decodeIdentity, hread]
  change (do
    let session ← identityField fs "diagnostic_session"
    let job ← identityField fs "job_sequence"
    pure ⟨session, job⟩ : Except CodecError BodyIdentity) = _
  rw [hsession, hjob]
  rfl

/-- What `checkedBody` establishes. -/
structure Checked [Scalar F] (sha : Digest) (serde : BodySerde F R U) (session : ℕ)
    (job body checksum : List UInt8) (parsed : Body F R U) : Prop where
  width : job.length = 8
  digest : sha.run body = checksum
  decodes : decode serde.body body = .ok parsed
  valid : parsed.validate
  named : parsed.diagnosticSession = session
  numbered : parsed.jobSequence = ofBeBytes job

variable {sha : Digest}

theorem checkedBody_ok [Scalar F] {serde : BodySerde F R U} {session : ℕ}
    {job body checksum : List UInt8} (h : checkedBody sha serde session job body checksum = .ok ()) :
    ∃ parsed, Checked sha serde session job body checksum parsed := by
  unfold checkedBody at h
  split at h
  · cases h
  split at h
  · cases h
  split at h
  · cases h
  split at h
  · cases h
  rename_i hjob _ hsum _ parsed hparsed
  split at h
  · cases h
  rename_i hid
  simp only [Bool.or_eq_true, Bool.not_eq_true', decide_eq_true_eq, not_or, not_not,
    Bool.not_eq_false] at hid
  exact ⟨parsed, not_not.1 hjob, not_not.1 hsum, hparsed, hid.1.1, hid.1.2, hid.2⟩

theorem Checked.ok [Scalar F] {serde : BodySerde F R U} {session : ℕ}
    {job body checksum : List UInt8} {parsed : Body F R U}
    (h : Checked sha serde session job body checksum parsed) :
    checkedBody sha serde session job body checksum = .ok () := by
  simp [checkedBody, h.width, ← h.digest, sha.length_run, h.decodes, h.valid, h.named, h.numbered]

theorem readTree_length {tree : Value} (h : readTree bytes = .ok tree) :
    1 ≤ bytes.length ∧ bytes.length ≤ bodyCapacity := by
  unfold readTree at h
  split at h
  · cases h
  · rename_i hlimit
    simp only [not_or, not_lt, not_not] at hlimit
    refine ⟨?_, hlimit.1⟩
    have := (List.isPrefixOf_iff_prefix.1 hlimit.2).length_le
    simp only [magic, List.length_cons] at this
    omega

section Checked

variable [Scalar F] {sha : Digest} {serde : BodySerde F R U} {session : ℕ}
  {job body checksum : List UInt8} {parsed : Body F R U}

/-- **A body that may be written passes the check of an opened journal.** -/
theorem Checked.historyRow (h : Checked sha serde session job body checksum parsed)
    (hs : session < 2 ^ 64) : checkedHistoryRow sha session job body checksum = .ok () := by
  obtain ⟨hpos, hjpos⟩ := Body.validate_identity h.valid
  have hjob : ofBeBytes job < 2 ^ 64 := by
    simpa [h.width] using ofBeBytes_lt job
  have hsession : parsed.diagnosticSession % 2 ^ 64 = session := by
    rw [h.named, Nat.mod_eq_of_lt hs]
  have hsequence : parsed.jobSequence % 2 ^ 64 = ofBeBytes job := by
    rw [h.numbered, Nat.mod_eq_of_lt hjob]
  have hid := decodeIdentity_of_decode h.decodes (by rwa [hsession, ← h.named])
    (by rwa [hsequence, ← h.numbered])
  rw [hsession, hsequence] at hid
  simp [checkedHistoryRow, h.width, ← h.digest, sha.length_run, hid, BodyIdentity.matches]

theorem Checked.length (h : Checked sha serde session job body checksum parsed) :
    1 ≤ body.length ∧ body.length ≤ bodyCapacity := by
  obtain ⟨tree, htree, _⟩ := Except.bind_eq_ok.1 h.decodes
  exact readTree_length htree

end Checked

/-! ## Files that pass every check -/

/-- A file that passes every check of `openDatabase`; `next` is its session counter. -/
structure JournalFile.Accepted (sha : Digest) (next : ℤ) (f : JournalFile) : Prop where
  header : f.header.length = 20 ∧ f.header.take 16 = sqliteMagic ∧ f.header.drop 18 = [1, 1]
  version : f.applicationId = Marengo.applicationId ∧ f.userVersion = 1
  objects : f.objects = journalSchema
  metaRows : f.metaRows = [⟨1, 1, next⟩]
  next_nonneg : 0 ≤ next
  pages : 0 < f.pageCount ∧ f.pageCount ≤ pageCapacity
  pageSize : f.pageSize = 4096
  quickCheck : f.quickCheck = "ok"
  capacity : f.events.rows.length ≤ eventCapacity
  rows : ∀ r ∈ f.events.rows, checkedRow sha next r = .ok ()

namespace JournalFile

variable {sha : Digest} {next : ℤ} {f : JournalFile}

/-- The metadata of a file with the schema of a journal. -/
theorem schema_ok (h : f.schema = .ok ()) :
    (f.applicationId = Marengo.applicationId ∧ f.userVersion = 1) ∧ f.objects = journalSchema ∧
      ∃ next, f.metaRows = [⟨1, 1, next⟩] ∧ 0 ≤ next := by
  unfold schema at h
  split at h
  · cases h
  split at h
  · cases h
  split at h
  · cases h
  split at h
  · cases h
  rename_i hversion _ hobjects hrows
  simp only [not_or, not_not] at hversion hobjects hrows
  obtain ⟨row, hrow⟩ := List.length_eq_one_iff.1 hrows.1
  have hvalid : row.valid := by
    by_contra hnot
    simp [hrow, hnot] at hrows
  obtain ⟨singleton, version, next⟩ := row
  simp only [MetaRow.valid, Bool.and_eq_true, decide_eq_true_eq] at hvalid
  obtain ⟨⟨rfl, rfl⟩, hnext⟩ := hvalid
  exact ⟨hversion, hobjects, next, hrow, hnext⟩

theorem forM_ok {rows : List EventRow} {check : EventRow → Except String Unit} :
    rows.forM check = .ok () ↔ ∀ r ∈ rows, check r = .ok () := by
  induction rows with
  | nil => simp [Pure.pure, Except.pure]
  | cons r rows ih =>
    rw [List.forM, Except.bind_eq_ok, List.forall_mem_cons, ← ih]
    exact ⟨fun ⟨_, h⟩ => h, fun h => ⟨(), h⟩⟩

/-- History is valid exactly if every row passes, whatever the order of reading. -/
theorem validateHistory_ok (hmeta : f.metaRows = [⟨1, 1, next⟩]) :
    f.validateHistory sha = .ok () ↔ f.events.rows.length ≤ eventCapacity ∧
      ∀ r ∈ f.events.rows, checkedRow sha next r = .ok () := by
  have hmem : ∀ r, r ∈ f.ordered ↔ r ∈ f.events.rows := fun r =>
    (List.perm_insertionSort _ _).mem_iff
  unfold validateHistory
  rw [hmeta]
  split
  · rename_i hcap
    constructor
    · intro h
      cases h
    · intro h
      omega
  · rename_i hcap
    simp only [forM_ok, hmem]
    exact ⟨fun h => ⟨not_lt.1 hcap, h⟩, And.right⟩

namespace Accepted

theorem schema (h : f.Accepted sha next) : f.schema = .ok () := by
  obtain ⟨hid, hversion⟩ := h.version
  simp [JournalFile.schema, hid, hversion, h.objects, h.metaRows, MetaRow.valid, h.next_nonneg,
    journalSchema]

theorem validateHistory (h : f.Accepted sha next) : f.validateHistory sha = .ok () :=
  (validateHistory_ok h.metaRows).2 ⟨h.capacity, h.rows⟩

theorem length (h : f.Accepted sha next) : f.length ≠ 0 ∧ f.length ≤ databaseCapacity := by
  obtain ⟨hpos, hcap⟩ := h.pages
  rw [JournalFile.length, h.pageSize]
  simp only [pageCapacity, databaseCapacity] at hcap ⊢
  omega

end Accepted

end JournalFile

/-! ## Opening succeeds on an accepted file -/

/-- No call fails and every setting reads back as it was set. -/
structure SqliteOpen.Faultless (sql : SqliteOpen) : Prop where
  calls : ∀ n, sql.fault n = none
  pragmas : ∀ p ∈ expectedPragmas, sql.pragma p.1 = p.2
  modes : ∀ p ∈ expectedModes, sql.mode p.1 = p.2

/-- The program `x` returns `a` and turns the file `f` into `f'`. -/
def Does {α : Type} (x : Opening α) (f : Option JournalFile) (a : α) (f' : Option JournalFile) :
    Prop := ∀ c, ∃ c', x ⟨f, c⟩ = (.ok a, ⟨f', c'⟩)

namespace Does

variable {α β : Type} {x : Opening α} {g : α → Opening β} {a : α} {b : β}
  {f f₁ f₂ : Option JournalFile} {file : JournalFile} {sql : SqliteOpen}

theorem pure (a : α) : Does (Pure.pure a) f a f := fun c => ⟨c, rfl⟩

theorem bind (hx : Does x f a f₁) (hg : Does (g a) f₁ b f₂) : Does (x >>= g) f b f₂ := by
  intro c
  obtain ⟨c₁, h₁⟩ := hx c
  obtain ⟨c₂, h₂⟩ := hg c₁
  exact ⟨c₂, bind_eq_ok.2 ⟨a, _, h₁, h₂⟩⟩

/-- What follows runs on from the result. -/
theorem run (hx : Does x f a f₁) (c : ℕ) : ∃ c', ∀ (γ : Type) (g : α → Opening γ),
    (x >>= g) ⟨f, c⟩ = g a ⟨f₁, c'⟩ := by
  obtain ⟨c', h⟩ := hx c
  exact ⟨c', fun γ g => by simp [Bind.bind, h]⟩

theorem ensure {P : Prop} [Decidable P] {e : String} (h : P) : Does (ensure P e) f () f :=
  fun c => ⟨c, ensure_eq_ok.2 ⟨h, rfl⟩⟩

theorem call (h : sql.Faultless) : Does (call sql) f () f := by
  intro c
  refine ⟨c + 1, ?_⟩
  simp [Marengo.call, bind_eq_ok, read_eq_ok, update_eq_ok, pure_eq_ok, h.calls]

theorem theFile : Does theFile (some file) file (some file) := fun c => ⟨c, rfl⟩

theorem putFile : Does (putFile file) f () (some file) := fun c => ⟨c, rfl⟩

theorem lift {r : Except String α} (h : r = .ok a) : Does (lift r) f a f :=
  fun c => ⟨c, by rw [h]; rfl⟩

theorem each {xs : List α} {y : α → Opening Unit} (h : ∀ a ∈ xs, Does (y a) f () f) :
    Does (each xs y) f () f := by
  induction xs with
  | nil => exact .pure ()
  | cons a xs ih => exact (h a (.head _)).bind (ih fun a ha => h a (.tail _ ha))

end Does

section Accepts

variable {sql : SqliteOpen} {sha : Digest} {next : ℤ} {f : JournalFile}

theorem checkedSettings_does (hsql : sql.Faultless)
    (hpages : f.pageCount ≤ pageCapacity ∧ f.pageSize = 4096) :
    Does (checkedSettings sql) (some f) () (some f) := by
  refine .bind (.call hsql) (.bind .theFile (.bind (.ensure hpages) (.bind (.call hsql) ?_)))
  refine .bind (.each fun p hp => ?_) (.each fun p hp => ?_)
  · exact .bind (.call hsql) (.ensure (hsql.pragmas p hp))
  · exact .bind (.call hsql) (.ensure (hsql.modes p hp))

/-- The checks before a session is taken run through to what follows them. -/
theorem openDatabase_checks (hsql : sql.Faultless) (h : f.Accepted sha next) (allowCreate : Bool)
    {α : Type} (x : Opening α) (c : ℕ) :
    ∃ c', (do
      let created ← checkedResource sql allowCreate
      when (created = false) (checkedHeader sql)
      when (created = false) (checkedSchema sql)
      checkedSettings sql
      createTables sql created
      checkedSchema sql
      checkedHistory sql sha
      x : Opening α) ⟨some f, c⟩ = x ⟨some f, c'⟩ := by
  have hresource : Does (checkedResource sql allowCreate) (some f) false (some f) :=
    .bind (.call hsql) fun c => (Does.ensure h.length).bind (.pure false) c
  have hheader : Does (when (false = false) (checkedHeader sql)) (some f) () (some f) :=
    .bind (.call hsql) (.bind .theFile (.bind (.ensure h.header.1) (.ensure h.header.2)))
  have hschema : Does (checkedSchema sql) (some f) () (some f) :=
    .bind (.call hsql) (.bind .theFile (.lift h.schema))
  have hfirst : Does (when (false = false) (checkedSchema sql)) (some f) () (some f) := hschema
  have hsettings := checkedSettings_does hsql ⟨h.pages.2, h.pageSize⟩
  have htables : Does (createTables sql false) (some f) () (some f) :=
    .bind (.call hsql) (.pure ())
  have hhistory : Does (checkedHistory sql sha) (some f) () (some f) :=
    .bind (.call hsql) (.bind .theFile (.bind (.ensure h.quickCheck) (.lift h.validateHistory)))
  obtain ⟨c₁, h₁⟩ := hresource.run c
  obtain ⟨c₂, h₂⟩ := hheader.run c₁
  obtain ⟨c₃, h₃⟩ := hfirst.run c₂
  obtain ⟨c₄, h₄⟩ := hsettings.run c₃
  obtain ⟨c₅, h₅⟩ := htables.run c₄
  obtain ⟨c₆, h₆⟩ := hschema.run c₅
  obtain ⟨c₇, h₇⟩ := hhistory.run c₆
  exact ⟨c₇, by rw [h₁, h₂, h₃, h₄, h₅, h₆, h₇]⟩

/-- **An accepted file opens for inspection.** -/
theorem openDatabase_inspects (hsql : sql.Faultless) (h : f.Accepted sha next)
    (allowCreate : Bool) : Does (openDatabase sql sha allowCreate false) (some f) 0 (some f) :=
  fun c => openDatabase_checks hsql h allowCreate (pure 0) c

/-- The session counter after a session has been taken. -/
def JournalFile.withNext (f : JournalFile) (next : ℤ) : JournalFile :=
  { f with metaRows := [⟨1, 1, next⟩] }

/-- **An accepted file opens for a new session while a session number is left.** -/
theorem openDatabase_allocates (hsql : sql.Faultless) (h : f.Accepted sha next)
    (allowCreate : Bool) (hnext : next < maxI64) :
    Does (openDatabase sql sha allowCreate true) (some f) (next + 1).toNat
      (some ((f.withNext (next + 1)).prune sql.freed ((next + 1).toNat : ℕ) (eventCapacity / 2)
        (pageCapacity / 2) f.events.rows.length)) := by
  have hallocate : Does (allocate sql) (some f) (next + 1).toNat
      (some (f.withNext (next + 1))) := by
    refine .bind (.call hsql) (.bind .theFile ?_)
    rw [h.metaRows]
    have hroom : next + 1 ≤ maxI64 ∧ 0 < next + 1 := by
      have := h.next_nonneg
      omega
    exact .bind (.ensure hroom) (.bind (.call hsql) (.bind .putFile (.pure _)))
  have hprune : Does (pruneOldestSessions sql (next + 1).toNat (eventCapacity / 2)
      (pageCapacity / 2)) (some (f.withNext (next + 1))) () _ :=
    .bind (.call hsql) (.bind .theFile .putFile)
  have htake : Does (takeSession sql) (some f) (next + 1).toNat _ :=
    hallocate.bind (hprune.bind (.pure _))
  intro c
  obtain ⟨c₁, h₁⟩ := openDatabase_checks hsql h allowCreate (takeSession sql) c
  obtain ⟨c₂, h₂⟩ := htake c₁
  exact ⟨c₂, h₁.trans h₂⟩

/-- An accepted file whose session numbers are used up refuses a new session. -/
theorem openDatabase_exhausted (hsql : sql.Faultless) (h : f.Accepted sha maxI64)
    (allowCreate : Bool) (c : ℕ) :
    (openDatabase sql sha allowCreate true ⟨some f, c⟩).1 =
      .error "diagnostic session exhausted" := by
  obtain ⟨c₁, h₁⟩ := openDatabase_checks hsql h allowCreate (takeSession sql) c
  obtain ⟨c₂, h₂⟩ := (Does.call hsql).run (f := some f) c₁
  obtain ⟨c₃, h₃⟩ := (Does.theFile).run (f := some f) c₂
  have hallocate : allocate sql ⟨some f, c₁⟩ =
      (.error "diagnostic session exhausted", ⟨some f, c₃⟩) := by
    have hrefused : ¬(maxI64 + 1 ≤ maxI64 ∧ 0 < maxI64 + 1) := by omega
    rw [allocate, h₂, h₃, h.metaRows]
    simp only [Prog.ensure_neg hrefused]
    rfl
  have htake : (takeSession sql ⟨some f, c₁⟩).1 = .error "diagnostic session exhausted" := by
    simp [takeSession, Bind.bind, hallocate]
  exact (congrArg Prod.fst h₁).trans htake

end Accepts

/-! ## What a successful open leaves -/

section Opened

variable {sql : SqliteOpen} {sha : Digest} {d d' : JournalDisk} {u : Unit} {f : JournalFile}
  {next : ℤ}

theorem call_ok (h : call sql d = (.ok u, d')) : d'.file = d.file := by
  simp only [call, bind_eq_ok, read_eq_ok, update_eq_ok] at h
  obtain ⟨d, _, ⟨rfl, rfl⟩, _, _, rfl, h⟩ := h
  cases hfault : sql.fault d.calls with
  | none =>
    rw [hfault] at h
    obtain ⟨_, rfl⟩ := pure_eq_ok.1 h
    rfl
  | some e =>
    rw [hfault] at h
    exact (fail_eq_ok.1 h).elim

theorem theFile_ok (h : theFile d = (.ok f, d')) : d.file = some f ∧ d' = d := by
  simp only [theFile, bind_eq_ok, read_eq_ok] at h
  obtain ⟨d, _, ⟨rfl, rfl⟩, h⟩ := h
  cases hfile : d.file with
  | none =>
    rw [hfile] at h
    exact (fail_eq_ok.1 h).elim
  | some g =>
    rw [hfile] at h
    obtain ⟨rfl, rfl⟩ := pure_eq_ok.1 h
    exact ⟨rfl, rfl⟩

/-- A program that looks at the open file and changes nothing. -/
theorem look_ok {y : JournalFile → Opening Unit}
    (h : (do call sql; let f ← theFile; y f : Opening Unit) d = (.ok u, d')) :
    ∃ f d₁, d.file = some f ∧ d₁.file = some f ∧ y f d₁ = (.ok u, d') := by
  simp only [bind_eq_ok] at h
  obtain ⟨_, d₁, hcall, f, _, hfile, h⟩ := h
  obtain ⟨hf, rfl⟩ := theFile_ok hfile
  exact ⟨f, _, call_ok hcall ▸ hf, hf, h⟩

theorem checkedHeader_ok (h : checkedHeader sql d = (.ok u, d')) :
    ∃ f, d.file = some f ∧ d'.file = some f ∧
      (f.header.length = 20 ∧ f.header.take 16 = sqliteMagic ∧ f.header.drop 18 = [1, 1]) := by
  obtain ⟨f, d₁, hd, hd₁, h⟩ := look_ok h
  simp only [bind_eq_ok, ensure_eq_ok] at h
  obtain ⟨_, _, ⟨hlen, rfl⟩, hheader, rfl⟩ := h
  exact ⟨f, hd, hd₁, hlen, hheader⟩

theorem checkedSchema_ok (h : checkedSchema sql d = (.ok u, d')) :
    ∃ f, d.file = some f ∧ d'.file = some f ∧ f.schema = .ok () := by
  obtain ⟨f, d₁, hd, hd₁, h⟩ := look_ok h
  obtain ⟨hschema, rfl⟩ := Prod.mk.inj h
  exact ⟨f, hd, hd₁, hschema⟩

theorem checkedHistory_ok (h : checkedHistory sql sha d = (.ok u, d')) :
    ∃ f, d.file = some f ∧ d'.file = some f ∧ f.quickCheck = "ok" ∧
      f.validateHistory sha = .ok () := by
  obtain ⟨f, d₁, hd, hd₁, h⟩ := look_ok h
  simp only [bind_eq_ok, ensure_eq_ok] at h
  obtain ⟨_, _, ⟨hquick, rfl⟩, h⟩ := h
  obtain ⟨hhistory, rfl⟩ := Prod.mk.inj h
  exact ⟨f, hd, hd₁, hquick, hhistory⟩

theorem each_ok {α : Type} {xs : List α} {y : α → Opening Unit}
    (hy : ∀ a d d', y a d = (.ok (), d') → d'.file = d.file)
    (h : each xs y d = (.ok u, d')) : d'.file = d.file := by
  induction xs generalizing d with
  | nil =>
    obtain ⟨_, rfl⟩ := pure_eq_ok.1 h
    rfl
  | cons a xs ih =>
    obtain ⟨_, d₁, h₁, h₂⟩ := bind_eq_ok.1 h
    rw [ih h₂, hy a d d₁ h₁]

theorem checkedSettings_ok (h : checkedSettings sql d = (.ok u, d')) :
    ∃ f, d.file = some f ∧ d'.file = some f ∧ f.pageCount ≤ pageCapacity ∧ f.pageSize = 4096 := by
  obtain ⟨f, d₁, hd, hd₁, h⟩ := look_ok h
  simp only [bind_eq_ok, ensure_eq_ok] at h
  obtain ⟨_, _, ⟨hpages, rfl⟩, _, d₂, hcall, _, d₃, hpragmas, hmodes⟩ := h
  have keeps : ∀ {c : Prop} [Decidable c] {e : String} {d d' : JournalDisk},
      (do call sql; ensure c e : Opening Unit) d = (.ok (), d') → d'.file = d.file := by
    intro c _ e d d' h
    obtain ⟨_, d₁, h₁, h₂⟩ := bind_eq_ok.1 h
    obtain ⟨_, rfl⟩ := ensure_eq_ok.1 h₂
    exact call_ok h₁
  refine ⟨f, hd, ?_, hpages⟩
  rw [each_ok (fun a d d' h => keeps h) hmodes, each_ok (fun a d d' h => keeps h) hpragmas,
    call_ok hcall, hd₁]

theorem checkedResource_ok {allowCreate created : Bool}
    (h : checkedResource sql allowCreate d = (.ok created, d')) :
    (created = false ∧ ∃ f, d'.file = some f ∧ f.length ≠ 0) ∨
      (created = true ∧ d'.file = some .blank) := by
  simp only [checkedResource, bind_eq_ok, read_eq_ok] at h
  obtain ⟨_, d₁, hcall, _, _, ⟨rfl, rfl⟩, h⟩ := h
  cases hfile : d₁.file with
  | none =>
    rw [hfile] at h
    simp only [bind_eq_ok, ensure_eq_ok, putFile, update_eq_ok,
      pure_eq_ok] at h
    obtain ⟨_, _, ⟨_, rfl⟩, _, _, rfl, rfl, rfl⟩ := h
    exact .inr ⟨rfl, rfl⟩
  | some f =>
    rw [hfile] at h
    simp only [bind_eq_ok, ensure_eq_ok, pure_eq_ok] at h
    obtain ⟨_, _, ⟨hlen, rfl⟩, rfl, rfl⟩ := h
    exact .inl ⟨rfl, f, hfile, hlen.1⟩

theorem createTables_ok {created : Bool} (h : createTables sql created d = (.ok u, d')) :
    (created = false ∧ d'.file = d.file) ∨
      (created = true ∧ ∃ pages < pageCapacity, d'.file = some (.fresh (pages + 1))) := by
  obtain ⟨_, d₁, hcall, h⟩ := bind_eq_ok.1 h
  cases created with
  | false =>
    obtain ⟨_, rfl⟩ := pure_eq_ok.1 h
    exact .inl ⟨rfl, call_ok hcall⟩
  | true =>
    simp only [when, if_true, bind_eq_ok, ensure_eq_ok, putFile,
      update_eq_ok] at h
    obtain ⟨_, _, ⟨hpages, rfl⟩, rfl⟩ := h
    exact .inr ⟨rfl, _, hpages, rfl⟩

theorem JournalFile.fresh_accepted {pages : ℕ} (h : pages < pageCapacity) :
    (JournalFile.fresh (pages + 1)).Accepted sha 0 where
  header := by simp [fresh, sqliteMagic]
  version := ⟨rfl, rfl⟩
  objects := rfl
  metaRows := rfl
  next_nonneg := le_rfl
  pages := ⟨Nat.succ_pos _, h⟩
  pageSize := rfl
  quickCheck := rfl
  capacity := Nat.zero_le _
  rows _ hr := absurd hr List.not_mem_nil

/-- The checks before a session is taken leave an accepted file. -/
theorem checks_ok {allowCreate : Bool} {α : Type} {x : Opening α} {a : α}
    (h : (do
      let created ← checkedResource sql allowCreate
      when (created = false) (checkedHeader sql)
      when (created = false) (checkedSchema sql)
      checkedSettings sql
      createTables sql created
      checkedSchema sql
      checkedHistory sql sha
      x : Opening α) d = (.ok a, d')) :
    ∃ f next d₁, f.Accepted sha next ∧ d₁.file = some f ∧ x d₁ = (.ok a, d') := by
  simp only [bind_eq_ok] at h
  obtain ⟨created, d₁, hresource, _, d₂, hheader, _, d₃, hfirst, _, d₄, hsettings, _, d₅, htables,
    _, d₆, hschema, _, d₇, hhistory, h⟩ := h
  obtain ⟨f, hf₅, hf₆, hschema⟩ := checkedSchema_ok hschema
  obtain ⟨f', hf₆', hf₇, hquick, hhistory⟩ := checkedHistory_ok hhistory
  obtain rfl : f = f' := Option.some.inj (hf₆.symm.trans hf₆')
  obtain ⟨hversion, hobjects, next, hmeta, hnext⟩ := JournalFile.schema_ok hschema
  refine ⟨f, next, d₇, ?_, hf₇, h⟩
  obtain ⟨hcap, hrows⟩ := (JournalFile.validateHistory_ok hmeta).1 hhistory
  obtain ⟨rfl, hkeeps⟩ | ⟨rfl, pages, hpages, hfresh⟩ := createTables_ok htables
  · obtain ⟨_, g₁, hg₁, hlength⟩ | ⟨hcreated, _⟩ := checkedResource_ok hresource
    · obtain ⟨g₂, hg₁', hg₂, hheader⟩ := checkedHeader_ok hheader
      obtain ⟨g₃, hg₂', hg₃, _⟩ := checkedSchema_ok hfirst
      obtain ⟨g₄, hg₃', hg₄, hpages, hsize⟩ := checkedSettings_ok hsettings
      -- The checks look at one and the same file.
      obtain rfl : g₁ = g₂ := Option.some.inj (hg₁.symm.trans hg₁')
      obtain rfl : g₁ = g₃ := Option.some.inj (hg₂.symm.trans hg₂')
      obtain rfl : g₁ = g₄ := Option.some.inj (hg₃.symm.trans hg₃')
      obtain rfl : f = g₁ := Option.some.inj (hf₅.symm.trans (hkeeps.trans hg₄))
      have hpos : 0 < f.pageCount := Nat.pos_of_ne_zero fun h0 => hlength (by
        simp [JournalFile.length, h0])
      exact ⟨hheader, hversion, hobjects, hmeta, hnext, ⟨hpos, hpages⟩, hsize, hquick, hcap, hrows⟩
    · exact absurd hcreated Bool.false_ne_true
  · obtain rfl : f = .fresh (pages + 1) := Option.some.inj (hf₅.symm.trans hfresh)
    have haccepted : (JournalFile.fresh (pages + 1)).Accepted sha 0 := JournalFile.fresh_accepted hpages
    obtain rfl : next = 0 := by
      have := hmeta.symm.trans haccepted.metaRows
      simpa using this
    exact haccepted

/-- A later counter admits the rows of an earlier one. -/
theorem checkedRow_mono {next' : ℤ} {r : EventRow} (h : checkedRow sha next r = .ok ())
    (hle : next ≤ next') : checkedRow sha next' r = .ok () := by
  unfold checkedRow at h ⊢
  split at h
  · cases h
  · rename_i hsession
    rw [if_neg (by omega)]
    exact h

theorem JournalFile.Accepted.withNext (h : f.Accepted sha next) {next' : ℤ} (hle : next ≤ next') :
    (f.withNext next').Accepted sha next' :=
  { h with
    metaRows := rfl
    next_nonneg := h.next_nonneg.trans hle
    rows := fun r hr => checkedRow_mono (h.rows r hr) hle }

/-- Dropping sessions keeps a file accepted. -/
theorem JournalFile.Accepted.prune (h : f.Accepted sha next) {freed : ℕ → ℕ} {current : ℤ}
    {maxRows maxPages fuel : ℕ} :
    (f.prune freed current maxRows maxPages fuel).Accepted sha next := by
  induction fuel generalizing f with
  | zero => exact h
  | succ fuel ih =>
    rw [JournalFile.prune]
    split
    · exact h
    · split
      · exact h
      · exact ih
          { h with
            capacity := (List.length_filter_le _ _).trans h.capacity
            rows := fun r hr => h.rows r (List.mem_of_mem_filter hr) }

/-- A session that was taken is the counter of the file. -/
theorem allocate_ok {session : ℕ} (hd : d.file = some f) (hf : f.Accepted sha next)
    (h : allocate sql d = (.ok session, d')) :
    (session : ℤ) = next + 1 ∧ next + 1 ≤ maxI64 ∧ d'.file = some (f.withNext (next + 1)) := by
  simp only [allocate, bind_eq_ok] at h
  obtain ⟨_, d₁, hcall, g, _, hfile, h⟩ := h
  obtain ⟨hg, rfl⟩ := theFile_ok hfile
  obtain rfl : f = g := Option.some.inj (hd.symm.trans ((call_ok hcall).symm.trans hg))
  rw [hf.metaRows] at h
  simp only [bind_eq_ok, ensure_eq_ok, putFile, update_eq_ok,
    pure_eq_ok] at h
  obtain ⟨_, _, ⟨⟨hmax, hpos⟩, rfl⟩, _, _, _, _, _, rfl, rfl, rfl⟩ := h
  exact ⟨Int.toNat_of_nonneg hpos.le, hmax, rfl⟩

/-- **A journal opened for a session holds an accepted file whose counter is the session.** -/
theorem openDatabase_ok {allowCreate : Bool} {session : ℕ}
    (h : openDatabase sql sha allowCreate true d = (.ok session, d')) :
    ∃ f, d'.file = some f ∧ f.Accepted sha session ∧ 0 < session ∧ (session : ℤ) ≤ maxI64 := by
  obtain ⟨f, next, d₁, hf, hd₁, h⟩ := checks_ok h
  simp only [if_true, takeSession, bind_eq_ok, pruneOldestSessions, putFile,
    update_eq_ok, pure_eq_ok] at h
  obtain ⟨_, d₂, hallocate, _, _, ⟨_, d₃, hcall, g, _, hfile, rfl⟩, rfl, rfl⟩ := h
  obtain ⟨hsession, hmax, hd₂⟩ := allocate_ok hd₁ hf hallocate
  obtain ⟨hg, rfl⟩ := theFile_ok hfile
  obtain rfl : f.withNext (next + 1) = g :=
    Option.some.inj (hd₂.symm.trans ((call_ok hcall).symm.trans hg))
  have hnext := hf.next_nonneg
  refine ⟨_, rfl, ?_, by omega, by omega⟩
  rw [hsession]
  exact (hf.withNext (by omega)).prune

end Opened

/-! ## Appending keeps a file accepted -/

section Append

variable [Scalar F] {sha : Digest} {serde : BodySerde F R U} {sql : SqliteReply}
  {session sequence : ℕ} {body checksum : List UInt8} {f f' pending : JournalFile}
  {result : ReferenceJournalResult}

theorem checkBody_ok (h : checkBody sha serde session sequence body f = (.ok checksum, f')) :
    checksum = sha.run body ∧ f' = f ∧
      ∃ parsed, Checked sha serde session (jobKey sequence) body checksum parsed := by
  unfold checkBody at h
  cases hc : checkedBody sha serde session (jobKey sequence) body (sha.run body) with
  | error e =>
    rw [hc] at h
    exact (fail_eq_ok.1 h).elim
  | ok u =>
    rw [hc] at h
    obtain ⟨rfl, rfl⟩ := pure_eq_ok.1 h
    exact ⟨rfl, rfl, checkedBody_ok hc⟩

/-- What an insertion leaves: the rows before it and its own. -/
structure Inserted (row : EventRow) (f pending : JournalFile) : Prop where
  rows : ∀ r, r ∈ pending.events.rows ↔ r ∈ f.events.rows ∨ r = row
  capacity : pending.events.rows.length ≤ max f.events.rows.length eventCapacity
  pages : f.pageCount ≤ pending.pageCount ∧ pending.pageCount ≤ max f.pageCount pageCapacity
  others : pending = { f with events := pending.events, pageCount := pending.pageCount }

theorem insertion_ok (h : insertion sql session sequence body checksum f = .ok pending) :
    Inserted (eventRow session sequence body checksum) f pending := by
  unfold insertion at h
  split at h
  · cases h
  split at h
  · rename_i row hfind
    split at h
    · cases h
    · rename_i hsame
      cases h
      simp only [not_or, not_not] at hsame
      have hkey : row.key = (eventRow session sequence body checksum).key := by
        simpa using List.find?_some hfind
      have hrow : row = eventRow session sequence body checksum :=
        EventRow.ext (congrArg Prod.fst hkey) (congrArg Prod.snd hkey) hsame.1 hsame.2
      have hmem : eventRow session sequence body checksum ∈ f.events.rows :=
        hrow ▸ List.mem_of_find?_eq_some hfind
      refine ⟨fun r => ⟨.inl, ?_⟩, le_max_left _ _, ⟨le_rfl, le_max_left _ _⟩, rfl⟩
      rintro (hr | rfl)
      · exact hr
      · exact hmem
  · split at h
    · cases h
    · split at h
      · cases h
      · rename_i hcap hpages
        cases h
        refine ⟨fun r => ?_, ?_, ⟨le_max_left _ _, ?_⟩, rfl⟩
        · simp [EventTable.insert]
        · simp only [EventTable.insert, List.length_append, List.length_singleton]
          omega
        · exact max_le_max_left _ (not_lt.1 hpages)

theorem attemptCall_ok {fault : Option String} {g : String → ReferenceJournalResult} {u : Unit}
    (h : attemptCall fault g f = (.ok u, f')) : f' = f := by
  unfold attemptCall at h
  cases fault with
  | none => exact (pure_eq_ok.1 h).2.symm
  | some e => exact (fail_eq_ok.1 h).elim

theorem insertRow_ok (h : insertRow sql session sequence body checksum f = (.ok pending, f')) :
    f' = f ∧ Inserted (eventRow session sequence body checksum) f pending := by
  simp only [insertRow, bind_eq_ok, read_eq_ok] at h
  obtain ⟨_, f₁, hstart, f₂, _, ⟨rfl, rfl⟩, h⟩ := h
  obtain rfl := attemptCall_ok hstart
  cases hi : insertion sql session sequence body checksum f₁ with
  | ok g =>
    rw [hi] at h
    obtain ⟨rfl, rfl⟩ := pure_eq_ok.1 h
    exact ⟨rfl, insertion_ok hi⟩
  | error e =>
    rw [hi] at h
    cases hr : sql.rollback with
    | none =>
      simp only [hr] at h
      exact (fail_eq_ok.1 h).elim
    | some e =>
      simp only [hr] at h
      exact (fail_eq_ok.1 h).elim

theorem commitRow_ok {u : Unit} (h : commitRow sql pending f = (.ok u, f')) : f' = pending := by
  unfold commitRow at h
  cases hc : sql.commit with
  | none =>
    rw [hc] at h
    exact (update_eq_ok.1 h).symm
  | some e =>
    rw [hc] at h
    obtain ⟨_, _, _, h⟩ := bind_eq_ok.1 h
    exact (fail_eq_ok.1 h).elim

theorem selectRow_ok {row : List UInt8 × List UInt8}
    (h : selectRow sql session sequence f = (.ok row, f')) : f' = f := by
  simp only [selectRow, bind_eq_ok, read_eq_ok] at h
  obtain ⟨_, f₁, hcall, _, _, ⟨rfl, rfl⟩, h⟩ := h
  obtain rfl := attemptCall_ok hcall
  cases hr : sql.readback with
  | some row =>
    rw [hr] at h
    exact (pure_eq_ok.1 h).2.symm
  | none =>
    rw [hr] at h
    cases hfind : f₁.events.find (session, jobKey sequence) with
    | none =>
      rw [hfind] at h
      exact (fail_eq_ok.1 h).elim
    | some row =>
      rw [hfind] at h
      exact (pure_eq_ok.1 h).2.symm

/-- Durable history is reported only for a row that reads back as it was written. -/
theorem readBack_ok (h : readBack sha serde sql session sequence body checksum f = (.ok result, f')) :
    f' = f ∧ result = .durableHistory session sequence checksum ∧
      selectRow sql session sequence f = (.ok (body, checksum), f) := by
  simp only [readBack, bind_eq_ok, ensure_eq_ok] at h
  obtain ⟨row, f₁, hselect, _, _, ⟨hrow, rfl⟩, h⟩ := h
  obtain rfl := selectRow_ok hselect
  obtain ⟨rfl, rfl⟩ := hrow
  cases hc : checkedBody sha serde session (jobKey sequence) row.1 row.2 with
  | error e =>
    rw [hc] at h
    exact (fail_eq_ok.1 h).elim
  | ok u =>
    rw [hc] at h
    obtain ⟨rfl, rfl⟩ := pure_eq_ok.1 h
    exact ⟨rfl, rfl, hselect⟩

/-- SQLite answers every call of an append, and the row is read back from the file. -/
structure SqliteReply.Faultless (sql : SqliteReply) : Prop where
  start : sql.start = none
  query : sql.query = none
  commit : sql.commit = none
  select : sql.select = none
  readback : sql.readback = none
  pages : sql.pages ≤ pageCapacity

/-- The file after a row has been inserted under a free key. -/
def JournalFile.withRow (f : JournalFile) (row : EventRow) (h : f.events.find row.key = none)
    (pages : ℕ) : JournalFile :=
  { f with events := f.events.insert row h, pageCount := max f.pageCount pages }

/-- **A checked body is made durable**, if its key is free and the journal has room. -/
theorem append_durable (hsql : sql.Faultless)
    (hcheck : checkedBody sha serde session (jobKey sequence) body (sha.run body) = .ok ())
    (hfree : f.events.find (eventRow session sequence body (sha.run body)).key = none)
    (hroom : f.events.rows.length < eventCapacity) :
    append sha serde sql session sequence body f =
      (.ok (.durableHistory session sequence (sha.run body)),
        f.withRow (eventRow session sequence body (sha.run body)) hfree sql.pages) := by
  have hinsertion : insertion sql session sequence body (sha.run body) f =
      .ok (f.withRow (eventRow session sequence body (sha.run body)) hfree sql.pages) := by
    rw [insertion, hsql.query]
    simp only
    split
    · rename_i row hfind
      rw [hfree] at hfind
      cases hfind
    · rw [if_neg (not_le.2 hroom), if_neg (not_lt.2 hsql.pages)]
      rfl
  have hfind := EventTable.find_insert_self hfree
  obtain ⟨g, hg⟩ : ∃ g, g = f.withRow _ hfree sql.pages := ⟨_, rfl⟩
  rw [← hg] at hinsertion ⊢
  have hinsert : insertRow sql session sequence body (sha.run body) f = (.ok g, f) := by
    rw [insertRow, hsql.start]
    refine bind_eq_ok.2 ⟨(), f, rfl, bind_eq_ok.2 ⟨f, f, rfl, ?_⟩⟩
    rw [hinsertion]
    rfl
  have hcommit : commitRow sql g f = (.ok (), g) := by
    rw [commitRow, hsql.commit]
    rfl
  have hselect : selectRow sql session sequence g = (.ok (body, sha.run body), g) := by
    rw [selectRow, hsql.select]
    refine bind_eq_ok.2 ⟨(), g, rfl, bind_eq_ok.2 ⟨g, g, rfl, ?_⟩⟩
    have hrow : g.events.find ((session : ℤ), jobKey sequence) =
        some (eventRow session sequence body (sha.run body)) := by
      rw [hg]
      exact hfind
    rw [hsql.readback, hrow]
    rfl
  refine bind_eq_ok.2 ⟨sha.run body, f, by rw [checkBody, hcheck]; rfl, ?_⟩
  refine bind_eq_ok.2 ⟨g, f, hinsert, bind_eq_ok.2 ⟨(), g, hcommit, ?_⟩⟩
  refine bind_eq_ok.2 ⟨_, g, hselect, bind_eq_ok.2 ⟨(), g, ?_, ?_⟩⟩
  · exact ensure_eq_ok.2 ⟨⟨rfl, rfl⟩, rfl⟩
  · rw [hcheck]
    rfl

/-- What an append that succeeds has done. -/
structure Appended [Scalar F] (sha : Digest) (serde : BodySerde F R U) (session sequence : ℕ)
    (body : List UInt8) (f f' : JournalFile) (result : ReferenceJournalResult) : Prop where
  result : result = .durableHistory session sequence (sha.run body)
  inserted : Inserted (eventRow session sequence body (sha.run body)) f f'
  checked : ∃ parsed, Checked sha serde session (jobKey sequence) body (sha.run body) parsed

theorem append_ok (h : append sha serde sql session sequence body f = (.ok result, f')) :
    Appended sha serde session sequence body f f' result := by
  simp only [append, bind_eq_ok] at h
  obtain ⟨checksum, f₁, hcheck, pending, f₂, hinsert, _, f₃, hcommit, hread⟩ := h
  obtain ⟨rfl, rfl, hchecked⟩ := checkBody_ok hcheck
  obtain ⟨rfl, hinserted⟩ := insertRow_ok hinsert
  obtain rfl := commitRow_ok hcommit
  obtain ⟨rfl, hresult, _⟩ := readBack_ok hread
  exact ⟨hresult, hinserted, hchecked⟩

/-- The row of a checked body passes the check of an opened journal. -/
theorem checkedRow_eventRow {next : ℤ}
    (h : ∃ parsed, Checked sha serde session (jobKey sequence) body (sha.run body) parsed)
    (hpos : 0 < session) (hle : (session : ℤ) ≤ next) (hmax : (session : ℤ) ≤ maxI64) :
    checkedRow sha next (eventRow session sequence body (sha.run body)) = .ok () := by
  obtain ⟨parsed, hchecked⟩ := h
  have hlength := hchecked.length
  have hrow := hchecked.historyRow (by simp only [maxI64] at hmax; omega)
  unfold checkedRow eventRow
  rw [if_neg (by simp only; omega), if_neg]
  · simpa using hrow
  · simpa [sha.length_run] using hlength

/-- One append keeps the file accepted. -/
theorem Appended.accepted {next : ℤ} (h : Appended sha serde session sequence body f f' result)
    (hf : f.Accepted sha next) (hpos : 0 < session) (hle : (session : ℤ) ≤ next)
    (hmax : (session : ℤ) ≤ maxI64) : f'.Accepted sha next := by
  obtain ⟨hrows, hcap, hpages, hothers⟩ := h.inserted
  have hcapacity : f'.events.rows.length ≤ eventCapacity := hcap.trans (max_le hf.capacity le_rfl)
  have hpos' : 0 < f'.pageCount := hf.pages.1.trans_le hpages.1
  have hpages' : f'.pageCount ≤ pageCapacity := hpages.2.trans (max_le hf.pages.2 le_rfl)
  have hchecks : ∀ r ∈ f'.events.rows, checkedRow sha next r = .ok () := by
    intro r hr
    rcases (hrows r).1 hr with hr | rfl
    · exact hf.rows r hr
    · exact checkedRow_eventRow h.checked hpos hle hmax
  rw [hothers]
  exact { hf with pages := ⟨hpos', hpages'⟩, capacity := hcapacity, rows := hchecks }

end Append

/-! ## The order of the rows -/

/-- A row comes before another by session and sequence number. -/
def EventRow.Precedes (r r' : EventRow) : Prop :=
  r.session < r'.session ∨ r.session = r'.session ∧ ofBeBytes r.job < ofBeBytes r'.job

instance : Std.Total EventRow.before where
  total r r' := by
    rcases lt_trichotomy r.session r'.session with h | h | h
    · exact .inl (.inl h)
    · exact (List.le_total r.job r'.job).imp (fun hj => .inr ⟨h, hj⟩) fun hj => .inr ⟨h.symm, hj⟩
    · exact .inr (.inl h)

instance : IsTrans EventRow EventRow.before where
  trans r r' r'' h h' := by
    rcases h with h | ⟨h, hj⟩ <;> rcases h' with h' | ⟨h', hj'⟩
    · exact .inl (h.trans h')
    · exact .inl (h' ▸ h)
    · exact .inl (h ▸ h')
    · exact .inr ⟨h.trans h', List.le_trans hj hj'⟩

theorem checkedRow_width {next : ℤ} {r : EventRow}
    (h : checkedRow sha next r = .ok ()) : r.job.length = 8 := by
  unfold checkedRow checkedHistoryRow at h
  split at h
  · cases h
  split at h
  · cases h
  split at h
  · cases h
  · exact not_not.1 ‹_›

theorem JournalFile.mem_ordered {f : JournalFile} {r : EventRow} :
    r ∈ f.ordered ↔ r ∈ f.events.rows := (List.perm_insertionSort _ _).mem_iff

/-- An accepted journal is read in strictly increasing order of its sequence numbers. -/
theorem JournalFile.Accepted.ordered {next : ℤ} {f : JournalFile}
    (h : f.Accepted sha next) : f.ordered.Pairwise EventRow.Precedes := by
  have hsorted := List.pairwise_insertionSort EventRow.before f.events.rows
  have hkeys : (f.ordered.map EventRow.key).Nodup :=
    f.events.unique.perm ((List.perm_insertionSort _ _).map _).symm
  refine (hsorted.and (List.pairwise_map.1 hkeys)).imp_of_mem ?_
  rintro r r' hr hr' ⟨hbefore | ⟨hs, hj⟩, hne⟩
  · exact .inl hbefore
  · have hlt : r.job < r'.job := by
      by_contra hnot
      exact hne (Prod.ext hs (List.le_antisymm hj (List.not_lt.1 hnot)))
    have hwidth : r.job.length = r'.job.length := by
      rw [checkedRow_width (h.rows r (mem_ordered.1 hr)),
        checkedRow_width (h.rows r' (mem_ordered.1 hr'))]
    exact .inr ⟨hs, (ofBeBytes_lt_iff hwidth).2 hlt⟩

/-! ## The journal can be opened again -/

section Reopen

variable [Scalar F] {sha : Digest} {serde : BodySerde F R U}

/-- Append a sequence of jobs, each with the replies of SQLite to it. -/
def appendAll (sha : Digest) (serde : BodySerde F R U) (session : ℕ) :
    List (SqliteReply × ℕ × List UInt8) → Appending (List ReferenceJournalResult) :=
  traverse fun (sql, sequence, body) => append sha serde sql session sequence body

theorem appendAll_single {sql : SqliteReply} {session sequence : ℕ} {body : List UInt8}
    {result : ReferenceJournalResult} {f f' : JournalFile}
    (h : append sha serde sql session sequence body f = (.ok result, f')) :
    appendAll sha serde session [(sql, sequence, body)] f = (.ok [result], f') :=
  bind_eq_ok.2 ⟨result, f', h, rfl⟩

/-- A sequence of appends keeps the file accepted and adds exactly its rows. -/
theorem appendAll_ok {session : ℕ} {next : ℤ} {jobs : List (SqliteReply × ℕ × List UInt8)}
    {results : List ReferenceJournalResult} {f f' : JournalFile}
    (h : appendAll sha serde session jobs f = (.ok results, f')) (hf : f.Accepted sha next)
    (hpos : 0 < session) (hle : (session : ℤ) ≤ next) (hmax : (session : ℤ) ≤ maxI64) :
    f'.Accepted sha next ∧
      (∀ j ∈ jobs, ∃ parsed,
        Checked sha serde session (jobKey j.2.1) j.2.2 (sha.run j.2.2) parsed) ∧
      ∀ r, r ∈ f'.events.rows ↔ r ∈ f.events.rows ∨
        ∃ j ∈ jobs, r = eventRow session j.2.1 j.2.2 (sha.run j.2.2) := by
  induction jobs generalizing f results with
  | nil =>
    obtain ⟨_, rfl⟩ := pure_eq_ok.1 h
    exact ⟨hf, by simp, by simp⟩
  | cons j jobs ih =>
    obtain ⟨sql, sequence, body⟩ := j
    obtain ⟨result, f₁, happend, h⟩ := bind_eq_ok.1 h
    obtain ⟨rest, f₂, hrest, h⟩ := bind_eq_ok.1 h
    obtain ⟨_, rfl⟩ := pure_eq_ok.1 h
    have hone := append_ok happend
    obtain ⟨haccepted, hchecked, hrows⟩ := ih hrest (hone.accepted hf hpos hle hmax)
    refine ⟨haccepted, List.forall_mem_cons.2 ⟨hone.checked, hchecked⟩, fun r => ?_⟩
    rw [hrows, hone.inserted.rows, or_assoc]
    simp

/-- **A journal can be opened again after any sequence of successful appends.** It opens for
inspection, and for a new session while a session number is left; every appended body passes
both checks; and the rows are read in the order of their sequence numbers, those of the appends
among those that were there before. -/
theorem journal_reopens {sql₀ sql : SqliteOpen} {file : Option JournalFile}
    {allowCreate : Bool} {session c : ℕ} {f f' : JournalFile}
    {jobs : List (SqliteReply × ℕ × List UInt8)} {results : List ReferenceJournalResult}
    (hopen : openDatabase sql₀ sha allowCreate true ⟨file, 0⟩ = (.ok session, ⟨some f, c⟩))
    (happend : appendAll sha serde session jobs f = (.ok results, f')) (hsql : sql.Faultless) :
    Does (openDatabase sql sha allowCreate false) (some f') 0 (some f') ∧
      ((session : ℤ) < maxI64 → ∃ f'', Does (openDatabase sql sha allowCreate true) (some f')
        (session + 1) (some f'')) ∧
      ((session : ℤ) = maxI64 → ∀ c', (openDatabase sql sha allowCreate true ⟨some f', c'⟩).1 =
        .error "diagnostic session exhausted") ∧
      (∀ j ∈ jobs, ∃ parsed,
        decode serde.body j.2.2 = .ok parsed ∧ parsed.validate ∧
          parsed.diagnosticSession = session ∧ parsed.jobSequence = j.2.1 % 2 ^ 64 ∧
          checkedHistoryRow sha session (jobKey j.2.1) j.2.2 (sha.run j.2.2) = .ok ()) ∧
      f'.ordered.Pairwise EventRow.Precedes ∧
      ∀ r, r ∈ f'.ordered ↔ r ∈ f.ordered ∨
        ∃ j ∈ jobs, r = eventRow session j.2.1 j.2.2 (sha.run j.2.2) := by
  obtain ⟨g, hg, hf, hpos, hmax⟩ := openDatabase_ok hopen
  obtain rfl : f = g := Option.some.inj hg
  obtain ⟨hf', hchecked, hrows⟩ := appendAll_ok happend hf hpos le_rfl hmax
  refine ⟨openDatabase_inspects hsql hf' allowCreate, fun hlt => ?_, fun hlast => ?_,
    fun j hj => ?_, hf'.ordered, fun r => ?_⟩
  · have hallocate := openDatabase_allocates hsql hf' allowCreate hlt
    rw [show ((session : ℤ) + 1).toNat = session + 1 by omega] at hallocate
    exact ⟨_, hallocate⟩
  · exact openDatabase_exhausted hsql (hlast ▸ hf') allowCreate
  · obtain ⟨parsed, hparsed⟩ := hchecked j hj
    have hsequence : ofBeBytes (jobKey j.2.1) = j.2.1 % 2 ^ 64 := ofBeBytes_beBytes_mod 8 j.2.1
    have hbound : session < 2 ^ 64 := by simp only [maxI64] at hmax; omega
    exact ⟨parsed, hparsed.decodes, hparsed.valid, hparsed.named,
      hparsed.numbered.trans hsequence, hparsed.historyRow hbound⟩
  · rw [JournalFile.mem_ordered, JournalFile.mem_ordered, hrows]

end Reopen

/-! ## A bench journal -/

namespace Bench

def digest : Digest := ⟨fun _ => List.replicate 32 0, fun _ => by simp⟩

/-- SQLite answers every call. -/
def sqlite : SqliteOpen where
  fault _ := none
  pragma name := (expectedPragmas.lookup name).getD 0
  mode name := (expectedModes.lookup name).getD ""
  pages := 3
  freed _ := 0

theorem sqlite_faultless : sqlite.Faultless where
  calls _ := rfl
  pragmas := by decide
  modes := by decide

/-- A reply to an append that SQLite carries out. -/
def reply : SqliteReply := { pages := 4 }

theorem reply_faultless : reply.Faultless := ⟨rfl, rfl, rfl, rfl, rfl, by decide⟩

/-- A journal without rows, open for a session. -/
def opened (session : ℕ) : JournalFile := (JournalFile.fresh 4).withNext session

/-- The body of job 1 passes the check before a write. -/
theorem body_checked {session : ℕ} (hs : session = 1 ∨ session = 9223372036854775807) :
    checkedBody digest (serde session) session (jobKey 1) (body session)
      (digest.run (body session)) = .ok () := by
  have hencoded : (serde session).encodeInput event session 1 = .ok (body session) := by
    rcases hs with rfl | rfl <;> decide +kernel
  have hvalid : ((serde session).inputBody event session 1).validate := by
    rcases hs with rfl | rfl <;> decide +kernel
  have hsequence : 1 = ofBeBytes (jobKey 1) := by decide
  exact Checked.ok ⟨by simp [jobKey], rfl, decode_encode hencoded fun _ _ _ => rfl, hvalid, rfl,
    hsequence⟩

def row (session : ℕ) : EventRow := eventRow session 1 (body session) (digest.run (body session))

def recorded (session : ℕ) : JournalFile := (opened session).withRow (row session) rfl 4

/-- Job 1 is made durable in a journal without rows. -/
theorem body_durable {session : ℕ} (hs : session = 1 ∨ session = 9223372036854775807) :
    append digest (serde session) reply session 1 (body session) (opened session) =
      (.ok (.durableHistory session 1 (digest.run (body session))), recorded session) :=
  append_durable reply_faultless (body_checked hs) rfl (show 0 < eventCapacity by decide)

/-- A journal without rows whose next session is the last one. -/
def lastSession : JournalFile := (JournalFile.fresh 4).withNext (maxI64 - 1)

end Bench

/-- A journal whose last session number is taken cannot be opened for another session, although
it was accepted and the append of that session succeeded. -/
theorem last_session_not_reopened :
    let session := 9223372036854775807
    let last := openDatabase Bench.sqlite Bench.digest true true ⟨some Bench.lastSession, 0⟩
    last.1 = .ok session ∧ last.2.file = some (Bench.opened session) ∧
      append Bench.digest (Bench.serde session) Bench.reply session 1 (Bench.body session)
        (Bench.opened session) =
        (.ok (.durableHistory session 1 (Bench.digest.run (Bench.body session))),
          Bench.recorded session) ∧
      (openDatabase Bench.sqlite Bench.digest true true ⟨some (Bench.recorded session), 0⟩).1 =
        .error "diagnostic session exhausted" := by
  have happend := Bench.body_durable (.inr rfl)
  have hfresh : (JournalFile.fresh 4).Accepted Bench.digest 0 :=
    JournalFile.fresh_accepted (by decide)
  have haccepted : (Bench.recorded 9223372036854775807).Accepted Bench.digest maxI64 :=
    (append_ok happend).accepted (hfresh.withNext (by decide +kernel)) (by decide)
      (by decide +kernel) (by decide +kernel)
  exact ⟨by decide +kernel, by decide +kernel, happend,
    openDatabase_exhausted Bench.sqlite_faultless haccepted true 0⟩

theorem journal_reopens_bench :
    openDatabase Bench.sqlite Bench.digest true true ⟨none, 0⟩ =
        (.ok 1, ⟨some (Bench.opened 1), 20⟩) ∧
      Does (openDatabase Bench.sqlite Bench.digest true false) (some (Bench.recorded 1)) 0
        (some (Bench.recorded 1)) ∧
      ∃ f, Does (openDatabase Bench.sqlite Bench.digest true true) (some (Bench.recorded 1)) 2
        (some f) := by
  have hopen : openDatabase Bench.sqlite Bench.digest true true ⟨none, 0⟩ =
      (.ok 1, ⟨some (Bench.opened 1), 20⟩) := by decide +kernel
  have happend : appendAll Bench.digest (Bench.serde 1) 1 [(Bench.reply, 1, Bench.body 1)]
      (Bench.opened 1) =
      (.ok [.durableHistory 1 1 (Bench.digest.run (Bench.body 1))], Bench.recorded 1) :=
    appendAll_single (Bench.body_durable (.inl rfl))
  obtain ⟨hinspect, hallocate, -⟩ := journal_reopens hopen happend Bench.sqlite_faultless
  exact ⟨hopen, hinspect, hallocate (by decide +kernel)⟩

end Marengo

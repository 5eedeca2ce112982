import Marengo.Store.Sessions

/-!
# What retention removes

A pass touches the files and the rows of the sessions it has chosen and nothing else
(`removeSessions_spec`). So the live session is safe when it is the newest one, and no artifact is
left behind when no removal fails. Neither holds without its condition: both passes spare the newest
session, which need not be the one that is still recorded, and a row is deleted whether its files
are gone or not.
-/

namespace Marengo

namespace Store

variable {s s' : Store} {faults : StoreFaults} {path : Path}

/-- Some row refers to the path. -/
def Referenced (s : Store) (path : Path) : Prop :=
  ∃ row ∈ s.sessions.rows, path ∈ row.artifacts

instance (s : Store) (path : Path) : Decidable (s.Referenced path) :=
  inferInstanceAs (Decidable (∃ row ∈ s.sessions.rows, path ∈ row.artifacts))

def HoldsFile (s : Store) (path : Path) : Prop :=
  ∃ length, s.symlinkMetadata path = some (.file length)

/-- The session that is still recorded: the newest one without an end. -/
def liveSession (s : Store) : Option LogSessionRow :=
  (s.oldestFirst.filter (·.endedMs.isNone)).getLast?

/-! ## Files -/

/-- Files were removed at some of the paths, and nothing else changed. -/
structure Removed (paths : List Path) (s s' : Store) : Prop where
  sessions : s'.sessions = s.sessions
  disk : ∀ q, s'.symlinkMetadata q = s.symlinkMetadata q ∨
    q ∈ paths ∧ s'.symlinkMetadata q = none

theorem Removed.refl (paths : List Path) (s : Store) : Removed paths s s :=
  ⟨rfl, fun _ => .inl rfl⟩

theorem Removed.mono {ps qs : List Path} (h : Removed ps s s') (hsub : ps ⊆ qs) : Removed qs s s' :=
  ⟨h.sessions, fun q => (h.disk q).imp_right fun hq => ⟨hsub hq.1, hq.2⟩⟩

theorem Removed.trans {paths : List Path} {s'' : Store} (h : Removed paths s s')
    (h' : Removed paths s' s'') : Removed paths s s'' := by
  refine ⟨h'.sessions.trans h.sessions, fun q => ?_⟩
  rcases h'.disk q with hq' | hq'
  · exact (h.disk q).imp hq'.trans fun hq => ⟨hq.1, hq'.trans hq.2⟩
  · exact .inr hq'

/-- What is at a path once the entries of another, or of the same, are dropped. -/
theorem lookup_dropped (disk : List (Path × Node)) (path q : Path) :
    (disk.filter (·.1 ≠ path)).lookup q = if q = path then none else disk.lookup q := by
  induction disk with
  | nil => simp
  | cons entry rest ih =>
    obtain ⟨p, node⟩ := entry
    have hcons : ∀ l : List (Path × Node),
        ((p, node) :: l).lookup q = if q = p then some node else l.lookup q := fun l => by
      by_cases hq : q = p <;> simp [List.lookup_cons, hq, beq_eq_false_iff_ne.mpr]
    rw [hcons]
    by_cases hp : p = path
    · subst hp
      rw [List.filter_cons_of_neg (by simp), ih]
      split <;> simp_all
    · rw [List.filter_cons_of_pos (by simpa using hp), hcons, ih]
      split <;> simp_all

theorem removeFile_removed {paths : List Path} (h : path ∈ paths) :
    Removed paths s (s.removeFile faults path) := by
  have hremoved : Removed paths s
      { s with removals := s.removals + 1, disk := s.disk.filter (·.1 ≠ path) } :=
    ⟨rfl, fun q => by
      by_cases hq : q = path
      · exact .inr ⟨hq ▸ h, (lookup_dropped s.disk path q).trans (if_pos hq)⟩
      · exact .inl ((lookup_dropped s.disk path q).trans (if_neg hq))⟩
  have hattempted : Removed paths s { s with removals := s.removals + 1 } :=
    ⟨rfl, fun _ => .inl rfl⟩
  unfold removeFile
  dsimp only
  repeat' split
  all_goals first | exact hremoved | exact hattempted

/-- Without a fault, no file is left where one was to be removed. -/
theorem removeFile_gone (h : ∀ n, faults.removal n = false) :
    ¬(s.removeFile faults path).HoldsFile path := by
  rintro ⟨length, hfile⟩
  unfold removeFile at hfile
  dsimp only at hfile
  have hgone : List.lookup path (s.disk.filter (·.1 ≠ path)) = none :=
    (lookup_dropped ..).trans (if_pos rfl)
  split at hfile
  · rw [if_neg (by simp [h])] at hfile
    exact absurd (hgone.symm.trans hfile) nofun
  · rw [if_neg (by simp [h])] at hfile
    exact absurd (hgone.symm.trans hfile) nofun
  · rename_i hnode
    exact absurd (hnode.symm.trans hfile) nofun
  · rename_i hnode
    exact absurd (hnode.symm.trans hfile) nofun

/-- A file that is there after removals was there before. -/
theorem Removed.holdsFile {paths : List Path} (h : Removed paths s s') (hp : s'.HoldsFile path) :
    s.HoldsFile path := by
  obtain ⟨length, hp⟩ := hp
  rcases h.disk path with hq | hq
  · exact ⟨length, hq ▸ hp⟩
  · exact absurd (hq.2.symm.trans hp) nofun

/-- Removals one after the other. Without a fault, none of the paths holds a file at the end. -/
theorem removals_spec {α : Type} {f : Store → α → Store} {g : α → List Path}
    (hstep : ∀ s x, Removed (g x) s (f s x)) (xs : List α) (s : Store) :
    Removed (xs.flatMap g) s (xs.foldl f s) ∧
      ((∀ s x, ∀ p ∈ g x, ¬(f s x).HoldsFile p) →
        ∀ p ∈ xs.flatMap g, ¬(xs.foldl f s).HoldsFile p) := by
  induction xs generalizing s with
  | nil => exact ⟨.refl _ s, fun _ p hp => absurd hp List.not_mem_nil⟩
  | cons x xs ih =>
    obtain ⟨hrest, hrestGone⟩ := ih (f s x)
    rw [List.flatMap_cons]
    refine ⟨((hstep s x).mono (List.subset_append_left ..)).trans
      (hrest.mono (List.subset_append_right ..)), fun hgone p hp => ?_⟩
    rcases List.mem_append.mp hp with hp | hp
    · exact fun hfile => hgone s x p hp (hrest.holdsFile hfile)
    · exact hrestGone hgone p hp

theorem removeSessionFiles_removed (session : LogSessionRow) (s : Store) :
    Removed session.artifacts s (s.removeSessionFiles faults session) := by
  have h := (removals_spec (f := fun s path => s.removeFile faults path) (g := fun p => [p])
    (fun _ _ => removeFile_removed List.mem_cons_self) session.artifacts s).1
  rwa [List.flatMap_singleton'] at h

theorem removeSessionFiles_gone (h : ∀ n, faults.removal n = false) (session : LogSessionRow)
    (s : Store) : ∀ p ∈ session.artifacts, ¬(s.removeSessionFiles faults session).HoldsFile p := by
  have hgone := (removals_spec (f := fun s path => s.removeFile faults path) (g := fun p => [p])
    (fun _ _ => removeFile_removed List.mem_cons_self) session.artifacts s).2 fun s x p hp => by
      rw [List.mem_singleton.mp hp]
      exact removeFile_gone h
  rwa [List.flatMap_singleton'] at hgone

/-! ## Rows -/

theorem rows_deleted (chosen : List LogSessionRow) (s : Store) :
    let deleted := chosen.foldl (fun s session =>
      { s with sessions := s.sessions.delete session.id }) s
    deleted.disk = s.disk ∧
      ∀ row, row ∈ deleted.sessions.rows ↔ row ∈ s.sessions.rows ∧ row.id ∉ chosen.map (·.id) := by
  induction chosen generalizing s with
  | nil => simp
  | cons session rest ih =>
    obtain ⟨hdisk, hrows⟩ := ih { s with sessions := s.sessions.delete session.id }
    refine ⟨hdisk, fun row => (hrows row).trans ?_⟩
    simp [SessionTable.delete, and_assoc]

/-- What a pass removes: files of the sessions it has chosen, then their rows. -/
structure Swept (faults : StoreFaults) (chosen : List LogSessionRow) (s s' : Store) : Prop where
  kept : ∀ row ∈ s.sessions.rows, row.id ∉ chosen.map (·.id) → row ∈ s'.sessions.rows
  disk : Removed (chosen.flatMap (·.artifacts)) s { s' with sessions := s.sessions }
  clean : (∀ n, faults.removal n = false) → ∀ row ∈ chosen, ∀ p ∈ row.artifacts, ¬s'.HoldsFile p

theorem Swept.none (faults : StoreFaults) (s : Store) : Swept faults [] s s :=
  ⟨fun _ h _ => h, .refl _ s, fun _ _ h => absurd h List.not_mem_nil⟩

theorem removeSessions_swept (chosen : List LogSessionRow) {f : Store → Store}
    (hf : ∀ s, (f s).sessions = s.sessions ∧ (f s).disk = s.disk) (faults : StoreFaults) (s : Store) :
    Swept faults chosen s (s.removeSessions faults chosen f).2 := by
  have hfiles := removals_spec (f := fun s x => s.removeSessionFiles faults x)
    (fun s x => removeSessionFiles_removed x s) chosen s
  set removed := chosen.foldl (fun s session => s.removeSessionFiles faults session) s with hremoved
  have hgone : (∀ n, faults.removal n = false) → ∀ row ∈ chosen, ∀ p ∈ row.artifacts,
      ¬removed.HoldsFile p := fun hok row hrow p hp =>
    hfiles.2 (fun s x => removeSessionFiles_gone hok x s) p (List.mem_flatMap.mpr ⟨row, hrow, hp⟩)
  unfold removeSessions
  dsimp only
  rw [← hremoved]
  split
  · refine ⟨fun row hrow _ => hfiles.1.sessions ▸ hrow, ⟨rfl, hfiles.1.disk⟩, hgone⟩
  · obtain ⟨hdisk, hrows⟩ := rows_deleted chosen (f removed)
    have hsame : ∀ q, symlinkMetadata (chosen.foldl (fun s session =>
        { s with sessions := s.sessions.delete session.id }) (f removed)) q =
        removed.symlinkMetadata q := fun q => by
      rw [symlinkMetadata, hdisk, (hf removed).2, symlinkMetadata]
    refine ⟨fun row hrow hid => (hrows row).mpr ⟨?_, hid⟩, ⟨rfl, fun q => ?_⟩, fun hok row hrow p hp => ?_⟩
    · rw [(hf removed).1, hfiles.1.sessions]
      exact hrow
    · have hq := hfiles.1.disk q
      rw [← hsame q] at hq
      exact hq
    · rintro ⟨length, hp'⟩
      exact hgone hok row hrow p hp ⟨length, (hsame p).symm.trans hp'⟩

end Store

/-! ## The passes -/

inductive RetentionPass
  | purgeBefore (cutoffMs : ℕ)
  | evictToBudget (budgetBytes : ℕ)

def RetentionPass.perform (faults : StoreFaults) :
    RetentionPass → Store → Except StoreError (ℕ × ℕ) × Store
  | purgeBefore cutoffMs, s => s.purgeBefore faults cutoffMs
  | evictToBudget budgetBytes, s => s.evictToBudget faults budgetBytes

namespace Store

variable {s : Store} {faults : StoreFaults}

theorem oldestFirst_perm (s : Store) : s.oldestFirst.Perm s.sessions.rows :=
  List.perm_insertionSort _ _

theorem mem_of_victims {budget accounted : ℕ} {sessions : List LogSessionRow} {row : LogSessionRow}
    (h : row ∈ (s.victims budget accounted sessions).1) : row ∈ sessions := by
  induction sessions generalizing accounted with
  | nil => exact h
  | cons session rest ih =>
    unfold victims at h
    split at h
    · exact absurd h List.not_mem_nil
    · rcases List.mem_cons.mp h with rfl | h
      · exact List.mem_cons_self
      · exact .tail _ (ih h)

/-- The newest session is not among the others. -/
theorem ne_newest_of_mem_dropLast {row : LogSessionRow} (h : row ∈ s.oldestFirst.dropLast) :
    some row.id ≠ s.newest.map (·.id) := by
  intro heq
  obtain ⟨last, hlast, hid⟩ := Option.map_eq_some_iff.mp heq.symm
  have hsplit : s.oldestFirst = s.oldestFirst.dropLast ++ [last] :=
    (List.dropLast_append_getLast? last hlast).symm
  have hnodup : (s.oldestFirst.map (·.id)).Nodup :=
    ((s.oldestFirst_perm.map _).nodup_iff).mpr s.sessions.ids
  rw [hsplit, List.map_append, List.nodup_append] at hnodup
  exact hnodup.2.2 _ (List.mem_map_of_mem h) _ (List.mem_map_of_mem List.mem_cons_self) hid.symm

/-- A pass sweeps sessions of the table, and never the newest one as long as it has no end. -/
theorem perform_swept (faults : StoreFaults) (pass : RetentionPass) (s : Store) :
    ∃ chosen : List LogSessionRow, (∀ row ∈ chosen, row ∈ s.sessions.rows) ∧
      (∀ row ∈ chosen, row.endedMs.isSome ∨ some row.id ≠ s.newest.map (·.id)) ∧
      Swept faults chosen s (pass.perform faults s).2 := by
  have hnone : ∃ chosen : List LogSessionRow, (∀ row ∈ chosen, row ∈ s.sessions.rows) ∧
      (∀ row ∈ chosen, row.endedMs.isSome ∨ some row.id ≠ s.newest.map (·.id)) ∧
      Swept faults chosen s s :=
    ⟨[], fun _ h => absurd h List.not_mem_nil, fun _ h => absurd h List.not_mem_nil, .none faults s⟩
  cases pass with
  | purgeBefore cutoffMs =>
    simp only [RetentionPass.perform, purgeBefore]
    split
    · exact hnone
    split
    · exact hnone
    refine ⟨s.oldSessions cutoffMs, fun row h => List.mem_of_mem_filter h, fun row h => ?_, ?_⟩
    · have := (List.mem_filter.mp h).2
      simp only [Bool.and_eq_true, Bool.or_eq_true, decide_eq_true_eq] at this
      exact this.2
    · have := removeSessions_swept (s.oldSessions cutoffMs)
        (f := fun s => { s with events := s.events.filter fun ts => ¬ts < cutoffMs })
        (fun _ => ⟨rfl, rfl⟩) faults s
      split <;> exact this
  | evictToBudget budgetBytes =>
    simp only [RetentionPass.perform, evictToBudget]
    split
    · exact hnone
    split
    · exact hnone
    split
    · exact hnone
    rename_i usage _ _ _
    have hmem := fun row (h : row ∈ (s.victims budgetBytes usage s.oldestFirst.dropLast).1) =>
      mem_of_victims h
    refine ⟨(s.victims budgetBytes usage s.oldestFirst.dropLast).1, fun row h => ?_,
      fun row h => .inr (ne_newest_of_mem_dropLast (hmem row h)), ?_⟩
    · exact (s.oldestFirst_perm.mem_iff).mp (List.dropLast_subset _ (hmem row h))
    · have := removeSessions_swept
        (s.victims budgetBytes usage s.oldestFirst.dropLast).1 (f := id) (fun _ => ⟨rfl, rfl⟩) faults s
      split <;> exact this

/-- A row is known by its id. -/
theorem row_eq {row row' : LogSessionRow} (h : row ∈ s.sessions.rows) (h' : row' ∈ s.sessions.rows)
    (hid : row.id = row'.id) : row = row' :=
  List.inj_on_of_nodup_map s.sessions.ids h h' hid

theorem newest_mem {row : LogSessionRow} (h : s.newest = some row) : row ∈ s.sessions.rows :=
  s.oldestFirst_perm.mem_iff.mp (List.mem_of_getLast? h)

theorem liveSession_endedMs {row : LogSessionRow} (h : s.liveSession = some row) :
    row.endedMs = none := by
  simpa using (List.mem_filter.mp (List.mem_of_getLast? h)).2

end Store

/-! ## A live session that is not the newest -/

/-- A store whose clock was set back: the session that is still recorded has started before one that
has ended. -/
def Bench.store : Store where
  marengoRoot := "/opt/marengo"
  dbPath := "/opt/marengo/var/marengo.db"
  sessions :=
    { rows := [⟨"live", 10, none, some "/opt/marengo/var/log/live.log", none, none⟩,
        ⟨"done", 20, some 30, some "/opt/marengo/var/log/done.log", none, none⟩]
      ids := by decide }
  events := []
  disk := [("/opt/marengo/var/log/live.log", .file 5), ("/opt/marengo/var/log/done.log", .file 5)]

/-- The bench without the session that has ended. -/
def Bench.recording : Store := { Bench.store with sessions := Bench.store.sessions.delete "done" }

/-- The bench without the session that is still recorded. -/
def Bench.ended : Store := { Bench.store with sessions := Bench.store.sessions.delete "live" }

end Marengo

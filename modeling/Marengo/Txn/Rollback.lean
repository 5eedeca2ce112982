import Marengo.Txn.Profile
import Marengo.Lib.Effects

/-!
# What a failed transaction leaves

A write that fails before its rename changes no file that was there (`writeAtomic_spec`), and the
files written before it are restored, so a failed transaction leaves every file with the bytes it
had. This does not extend to a directory sync that fails after the rename: the target is replaced by
then, and neither `writeAtomic` nor its callers put it back. The URDF is not put back either if it
cannot be read after its expansion.
-/

namespace Marengo

open Prog

/-- Every file that was there has the bytes it had. -/
def Disk.Intact (d d' : Disk) : Prop := ∀ q, d.files q ≠ none → d'.files q = d.files q

/-- No directory sync fails. -/
def DiskFaults.Syncs (faults : DiskFaults) : Prop :=
  ∀ n, faults.fails n .openDirectory = false ∧ faults.fails n .syncDirectory = false

/-- The URDF can be read after its expansion. -/
def DiskFaults.ReadsBack (faults : DiskFaults) : Prop := ∀ n, faults.fails n .readBack = false

variable {ε : Type} {faults : DiskFaults} {pid : ℕ} {d d' d'' : Disk} {path : DiskPath}

theorem Disk.Intact.ofEq (h : d'.files = d.files) : d.Intact d' := fun q _ => by rw [h]

theorem Disk.Intact.trans (h : d.Intact d') (h' : d'.Intact d'') : d.Intact d'' := fun q hq => by
  rw [h' q (h q hq ▸ hq), h q hq]

/-! ## File operations -/

theorem perform_spec (op : FileOp) : Along Anyhow (perform faults op : Prog Disk ε Bool)
    (Returns fun failed d' => d'.files = d.files ∧
      (failed = true → ∃ n, faults.fails n op = true)) d :=
  ⟨trivial, rfl, fun h => ⟨_, h⟩⟩

theorem performOn_spec (op : FileOp) : Along Anyhow (performOn faults op path)
    (Ends (fun _ d' => d'.files = d.files)
      fun _ d' => d'.files = d.files ∧ ∃ n, faults.fails n op = true) d := by
  refine .next (perform_spec op) fun failed d' _ h => ?_
  exact .guard (fun _ => h.1) fun hf => ⟨h.1, h.2 (by simpa using hf)⟩

theorem readFile_spec (op : FileOp) : Along Anyhow (readFile faults op path)
    (Ends (fun bytes d' => d'.files = d.files ∧ d.files path = some bytes)
      fun _ d' => d'.files = d.files ∧
        (d.files path = none ∨ ∃ n, faults.fails n op = true)) d := by
  refine .bind (performOn_spec op) (fun _ d' _ h => .read ?_) fun _ _ _ h => ⟨h.1, .inr h.2⟩
  split
  · rename_i bytes hbytes
    exact .pure ⟨h, h ▸ hbytes⟩
  · rename_i hnone
    exact .fail ⟨h, .inl (h ▸ hnone)⟩

/-- A file that is there can be read back. -/
theorem readBack_spec (hback : faults.ReadsBack) (hthere : d.files path ≠ none) :
    Along Anyhow (readFile faults .readBack path)
      (Returns fun bytes d' => d'.files = d.files ∧ d.files path = some bytes) d := by
  refine (readFile_spec .readBack).mono fun r d' _ h => ?_
  cases r with
  | ok => exact h
  | error =>
    obtain hnone | ⟨n, hn⟩ := h.2
    · exact hthere hnone
    · exact absurd ((hback n).symm.trans hn) nofun

/-- A new file is one that was not there. -/
theorem createTemp_spec (tries : ℕ) : Along Anyhow (createTemp faults pid path tries)
    (Ends (fun t d' => d.files t = none ∧ d'.files = Function.update d.files t (some []))
      fun _ d' => d'.files = d.files) d := by
  induction tries generalizing d with
  | zero => exact .fail rfl
  | succ tries ih =>
    refine .read (.update trivial (.bind (performOn_spec .create) (fun _ d' _ h => ?_)
      fun _ _ _ h => h.1))
    refine .ite (fun hnone => .update trivial (.pure ⟨hnone, ?_⟩)) fun _ => ih.mono fun r _ _ hr => ?_
    · exact congrArg (Function.update · _ _) h
    · cases r with
      | ok => exact ⟨(congrFun h _).symm.trans hr.1, hr.2.trans (congrArg (Function.update · _ _) h)⟩
      | error => exact hr.trans h

/-! ## One file -/

/-- At most the temporary file differs. -/
def Staged (d : Disk) (temporary : DiskPath) (d' : Disk) : Prop :=
  ∃ contents, d'.files = Function.update d.files temporary contents

theorem Staged.intact {temporary : DiskPath} (h : Staged d temporary d')
    (ht : d.files temporary = none) : d.Intact d' := by
  obtain ⟨contents, h⟩ := h
  intro q hq
  rw [h, Function.update_of_ne]
  rintro rfl
  exact hq ht

/-- The file has these bytes, and every other file that was there has the bytes it had. -/
structure Wrote (path : DiskPath) (bytes : Bytes) (d d' : Disk) : Prop where
  written : d'.files path = some bytes
  others : ∀ q, q ≠ path → d.files q ≠ none → d'.files q = d.files q

/-- A write either goes through or, if the directories sync, leaves every file as it was. -/
theorem writeAtomic_spec (hsync : faults.Syncs) (path : DiskPath) (bytes : Bytes) :
    Along Anyhow (writeAtomic faults pid path bytes)
      (Ends (fun _ d' => Wrote path bytes d d') fun _ d' => d.Intact d') d := by
  refine .bind (createTemp_spec 128) (fun t d₁ _ h₁ => ?_) fun _ _ _ h => .ofEq h
  obtain ⟨ht, hd₁⟩ := h₁
  refine .next (P := fun result d₂ => Ends (fun _ d₂ => Wrote path bytes d d₂)
    (fun _ d₂ => Staged d t d₂) result d₂) (.attempt ?_) fun result d₂ _ h₂ => ?_
  · -- up to the rename only the temporary file changes
    refine .bind (Q := Ends (fun _ d₂ => d₂.files = Function.update d.files t (some bytes))
      fun _ d₂ => Staged d t d₂) ?_ (fun _ d₂ _ h₂ => ?_) fun _ _ _ h => h
    · refine .next (perform_spec .write) fun failed d₂ _ h₂ => .update trivial ?_
      have hd₂ := fun contents => (congrArg (Function.update · t contents)
        (h₂.1.trans hd₁)).trans (Function.update_idem _ _ _)
      exact .guard (fun hok => (hd₂ _).trans (by simp [hok])) fun _ => ⟨_, hd₂ _⟩
    refine .bind (performOn_spec .sync) (fun _ d₃ _ h₃ => ?_) fun _ _ _ h => ⟨_, h.1.trans h₂⟩
    refine .bind (Q := Ends (fun _ d₄ => Wrote path bytes d d₄) fun _ d₄ => Staged d t d₄) ?_
      (fun _ d₄ _ h₄ => ?_) fun _ _ _ h => h
    · refine .bind (performOn_spec .rename) (fun _ d₄ _ h₄ => ?_) fun _ _ _ h =>
        ⟨_, h.1.trans (h₃.trans h₂)⟩
      have hd₄ : d₄.files = Function.update d.files t (some bytes) := h₄.trans (h₃.trans h₂)
      refine .set trivial ⟨by simp [hd₄], fun q hq hthere => ?_⟩
      have hqt : q ≠ t := fun h => hthere (h ▸ ht)
      simp [hd₄, hq, hqt]
    · -- a directory sync cannot fail
      refine .bind (performOn_spec .openDirectory) (fun _ d₅ _ h₅ => ?_) fun _ _ _ h => ?_
      · refine (performOn_spec .syncDirectory).mono fun r d₆ _ h₆ => ?_
        cases r with
        | ok => exact ⟨(congrFun (h₆.trans h₅) _).trans h₄.written, fun q hq hthere =>
            (congrFun (h₆.trans h₅) q).trans (h₄.others q hq hthere)⟩
        | error =>
          obtain ⟨-, n, hn⟩ := h₆
          exact absurd ((hsync n).2.symm.trans hn) nofun
      · obtain ⟨-, n, hn⟩ := h
        exact absurd ((hsync n).1.symm.trans hn) nofun
  · cases result with
    | ok => exact .pure h₂
    | error e =>
      obtain ⟨contents, hd₂⟩ := h₂
      refine .next (perform_spec .remove) fun failed d₃ _ h₃ => .whenThen (fun _ => ?_) fun _ => ?_
      · refine .update trivial (.fail (Staged.intact ⟨none, ?_⟩ ht))
        exact (congrArg (Function.update · t none) (h₃.1.trans hd₂)).trans (Function.update_idem _ _ _)
      · exact .fail (Staged.intact ⟨_, h₃.1.trans hd₂⟩ ht)

/-! ## Several files -/

/-- Every file that was there, but these, has the bytes it had. -/
def Disk.IntactBut (paths : List DiskPath) (d d' : Disk) : Prop :=
  ∀ q, d.files q ≠ none → q ∉ paths → d'.files q = d.files q

theorem Disk.IntactBut.wrote {paths : List DiskPath} {bytes : Bytes} (h : d.IntactBut paths d')
    (hw : Wrote path bytes d' d'') : d.IntactBut (path :: paths) d'' := by
  intro q hthere hq
  rw [List.mem_cons, not_or] at hq
  have hsame := h q hthere hq.2
  exact (hw.others q hq.1 (hsame ▸ hthere)).trans hsame

/-- A file that is written with the bytes it had is intact again. -/
theorem Disk.IntactBut.restored {paths : List DiskPath} {bytes : Bytes}
    (h : d.IntactBut (path :: paths) d') (hb : d.files path = some bytes)
    (hw : Wrote path bytes d' d'') : d.IntactBut paths d'' := by
  intro q hthere hq
  by_cases hqp : q = path
  · rw [hqp, hw.written, hb]
  · have hsame := h q hthere (by simp [hqp, hq])
    exact (hw.others q hqp (hsame ▸ hthere)).trans hsame

theorem Disk.IntactBut.intact (h : d.IntactBut [] d') : d.Intact d' := fun q hq =>
  h q hq List.not_mem_nil

theorem Disk.IntactBut.after {paths : List DiskPath} (h : d.IntactBut paths d')
    (h' : d'.Intact d'') : d.IntactBut paths d'' := fun q hthere hq => by
  have hsame := h q hthere hq
  exact (h' q (hsame ▸ hthere)).trans hsame

/-- Files that are restored from their backups have the bytes they had. -/
theorem restoreFiles_spec (hsync : faults.Syncs) (error : ProfileError)
    {backups : List (DiskPath × Bytes)} (hb : ∀ b ∈ backups, d.files b.1 = some b.2)
    (h : d.IntactBut (backups.map (·.1)) d') :
    Along Anyhow (restoreFiles faults pid error backups)
      (Ends (fun _ d'' => d.Intact d'') fun e _ => e.undoFailed = true) d' := by
  induction backups generalizing d' with
  | nil => exact .pure h.intact
  | cons b rest ih =>
    refine .bind (Q := Ends (fun (_ : Unit) d'' => d.IntactBut (rest.map Prod.fst) d'')
      fun (e : ProfileError) _ => e.undoFailed = true) ?_
      (fun _ d'' _ h'' => ih (fun b' hb' => hb b' (.tail _ hb')) h'') fun _ _ _ h => h
    refine .next (P := fun r d'' => Ends (fun _ d'' => Wrote b.1 b.2 d' d'') (fun _ _ => True) r d'')
      (.attempt ((writeAtomic_spec hsync b.1 b.2).mono fun r _ _ hr => ?_)) fun r d'' _ hr => ?_
    · cases r with
      | ok => exact hr
      | error => trivial
    · cases r with
      | ok => exact .pure (h.restored (hb b (.head _)) hr)
      | error => exact .fail rfl

/-- A transaction that fails has changed nothing, unless undoing it failed too. -/
theorem writeFilesFrom_spec (hsync : faults.Syncs) {files : List (DiskPath × Bytes × Bytes)}
    {written : List (DiskPath × Bytes)} (hf : ∀ f ∈ files, d.files f.1 = some f.2.1)
    (hw : ∀ b ∈ written, d.files b.1 = some b.2) (h : d.IntactBut (written.map (·.1)) d') :
    Along Anyhow (writeFilesFrom faults pid written files)
      (Ends (fun _ _ => True) fun e d'' => e.undoFailed = true ∨ d.Intact d'') d' := by
  induction files generalizing d' written with
  | nil => exact .pure trivial
  | cons f rest ih =>
    obtain ⟨path, backup, contents⟩ := f
    refine .next (P := fun r d'' => Ends (fun _ d'' => Wrote path contents d' d'')
      (fun _ d'' => d'.Intact d'') r d'') (.attempt (writeAtomic_spec hsync path contents))
      fun r d'' _ hr => ?_
    cases r with
    | ok =>
      refine ih (fun f hf' => hf f (.tail _ hf')) (fun b hb => ?_) ?_
      · rcases List.mem_append.mp hb with hb | hb
        · exact hw b hb
        · rw [List.mem_singleton.mp hb]
          exact hf _ (.head _)
      · intro q hthere hq
        refine (h.wrote hr) q hthere ?_
        simpa [or_comm, List.mem_append] using hq
    | error e =>
      refine .bind (restoreFiles_spec hsync e (fun b hb => hw b (List.mem_reverse.mp hb)) ?_)
        (fun _ _ _ h => .fail (.inr h)) fun _ _ _ h => .inl h
      rw [List.map_reverse]
      exact fun q hthere hq => (h.after hr) q hthere (by simpa using hq)

/-- The backups are the bytes that the files have. -/
theorem backups_spec (configDir : String) (files : List (String × Bytes)) :
    Along Anyhow (traverse (fun file => do
        let backup ← readFile faults .read ⟨configDir, file.1⟩
        pure ((⟨configDir, file.1⟩, backup, file.2) : DiskPath × Bytes × Bytes)) files)
      (Ends (fun backups d' => d'.files = d.files ∧ ∀ f ∈ backups, d.files f.1 = some f.2.1)
        fun _ d' => d'.files = d.files) d := by
  induction files generalizing d with
  | nil => exact .pure ⟨rfl, fun _ h => absurd h List.not_mem_nil⟩
  | cons file rest ih =>
    refine .bind (Q := Ends (fun f (d' : Disk) => d'.files = d.files ∧ d.files f.1 = some f.2.1)
      fun (_ : ProfileError) (d' : Disk) => d'.files = d.files) ?_ (fun f d' _ h => ?_) fun _ _ _ h => h
    · exact .bind (readFile_spec .read) (fun _ _ _ h => .pure h) fun _ _ _ h => h.1
    · refine .bind ih (fun backups d'' _ h'' => .pure ?_) fun _ _ _ h'' => h''.trans h.1
      refine ⟨h''.1.trans h.1, List.forall_mem_cons.mpr ⟨h.2, fun f hf => ?_⟩⟩
      exact (congrFun h.1 _).symm.trans (h''.2 f hf)

theorem writeFilesWithRollback_spec (hsync : faults.Syncs) (configDir : String)
    (files : List (String × Bytes)) :
    Along Anyhow (writeFilesWithRollback faults pid configDir files)
      (Ends (fun _ _ => True) fun e d' => e.undoFailed = true ∨ d.Intact d') d := by
  refine .bind (backups_spec configDir files) (fun backups d' _ h => ?_) fun _ _ _ h =>
    .inr (.ofEq h)
  exact writeFilesFrom_spec hsync h.2 (fun _ h => absurd h List.not_mem_nil)
    fun q _ _ => congrFun h.1 q

/-! ## The URDF and the YAML files -/

section
variable {Robot Homing Motors Control Envelopes : Type}
  {codec : Codec Robot Homing Motors Control Envelopes}

/-- The expansion changes at most the URDF, and nothing if it fails. -/
theorem expandUrdf_spec (hsync : faults.Syncs) (urdfPath : DiskPath) (motors : Motors) :
    Along Anyhow (expandUrdfFileToCoverMotors faults pid codec urdfPath motors)
      (Ends (fun _ d' => d.IntactBut [urdfPath] d' ∧ (d.files urdfPath ≠ none → d'.files urdfPath ≠ none))
        fun _ d' => d.Intact d') d := by
  refine .lift (fun _ _ => ?_) fun _ _ => .ofEq rfl
  refine .bind (readFile_spec .read) (fun model d₁ _ h₁ => ?_) fun _ _ _ h => .ofEq h.1
  have hsame : d.IntactBut [urdfPath] d₁ := fun q _ _ => congrFun h₁.1 q
  refine .lift (fun expanded _ => ?_) fun _ _ => .ofEq h₁.1
  split
  · exact .pure ⟨hsame, fun h => congrFun h₁.1 urdfPath ▸ h⟩
  · refine .bind (readFile_spec .read) (fun original d₂ _ h₂ => ?_) fun _ _ _ h => .ofEq (h.1.trans h₁.1)
    have h₀₂ : d₂.files = d.files := h₂.1.trans h₁.1
    refine .lift (fun updated _ => ?_) fun _ _ => .ofEq h₀₂
    refine .bind (writeAtomic_spec hsync urdfPath updated) (fun _ d₃ _ h₃ => .pure ⟨?_, fun _ => ?_⟩)
      fun _ _ _ h => Disk.Intact.trans (.ofEq h₀₂) h
    · have hbut : d.IntactBut [] d₂ := fun q _ _ => congrFun h₀₂ q
      exact hbut.wrote h₃
    · rw [h₃.written]
      exact nofun

theorem writeMotorsControlFiles_spec (hsync : faults.Syncs) (configDir : String) (motors : Motors)
    (control : Control) :
    Along Anyhow (writeMotorsControlFiles faults pid codec configDir motors control)
      (Ends (fun _ _ => True) fun e d' => e.undoFailed = true ∨ d.Intact d') d :=
  .lift (fun _ _ => .lift (fun _ _ => writeFilesWithRollback_spec hsync configDir _) fun _ _ =>
    .inr (.ofEq rfl)) fun _ _ => .inr (.ofEq rfl)

theorem writeMotorsControlAndUrdfLocked_spec (hsync : faults.Syncs) (hback : faults.ReadsBack)
    (repoRoot configDir : String) (motors : Motors) (control : Control) :
    Along Anyhow (writeMotorsControlAndUrdfLocked faults pid codec repoRoot configDir motors control)
      (Ends (fun _ _ => True) fun e d' => e.undoFailed = true ∨ d.Intact d') d := by
  refine .bind (readFile_spec .read) (fun _ d₁ _ h₁ => ?_) fun _ _ _ h => .inr (.ofEq h.1)
  refine .lift (fun robot _ => ?_) fun _ _ => .inr (.ofEq h₁.1)
  refine .bind (readFile_spec .read) (fun _ d₂ _ h₂ => ?_) fun _ _ _ h =>
    .inr (.ofEq (h.1.trans h₁.1))
  have h₀₂ : d₂.files = d.files := h₂.1.trans h₁.1
  refine .lift (fun _ _ => .lift (fun _ _ => ?_) fun _ _ => .inr (.ofEq h₀₂)) fun _ _ =>
    .inr (.ofEq h₀₂)
  refine .bind (Q := Ends (fun _ d₃ => d₃ = d₂) fun _ d₃ => d₃ = d₂) ?_ (fun urdfPath d₃ _ h₃ => ?_)
    fun _ _ _ h => .inr (.ofEq ((congrArg Disk.files h).trans h₀₂))
  · exact .read (.ensure (fun _ => .pure rfl) fun _ => rfl)
  obtain rfl : d₃ = d₂ := h₃
  refine .bind (readFile_spec .read) (fun backup d₃ _ h₃ => ?_) fun _ _ _ h =>
    .inr (.ofEq (h.1.trans h₀₂))
  have h₀₃ : d₃.files = d.files := h₃.1.trans h₀₂
  have hbackup : d.files urdfPath = some backup := h₀₂ ▸ h₃.2
  refine .bind (expandUrdf_spec hsync urdfPath motors) (fun _ d₄ _ h₄ => ?_) fun _ _ _ h =>
    .inr (Disk.Intact.trans (.ofEq h₀₃) h)
  have hbut : d.IntactBut [urdfPath] d₄ := fun q hthere hq =>
    (h₄.1 q (congrFun h₀₃ q ▸ hthere) hq).trans (congrFun h₀₃ q)
  have hthere : d₄.files urdfPath ≠ none := h₄.2 (by rw [h₀₃, hbackup]; exact nofun)
  refine .next (readBack_spec hback hthere) fun expanded d₅ _ h₅ => ?_
  refine .next (P := fun r d₆ => Ends (fun _ _ => True)
      (fun (e : ProfileError) d₆ => e.undoFailed = true ∨ d₅.Intact d₆) r d₆)
    (.attempt (writeMotorsControlFiles_spec hsync configDir motors control)) fun result d₆ _ h₆ => ?_
  cases result with
  | ok => exact .pure trivial
  | error e =>
    refine .bind (Q := Ends (fun current (d₇ : Disk) => d₇.files = d₆.files ∧
      d₆.files urdfPath = some current) fun (e : ProfileError) _ => e.undoFailed = true)
      (.mapError ((readFile_spec .readBack).mono fun r _ _ hr => ?_)) (fun current d₇ _ h₇ => ?_)
      fun _ _ _ h => .inl h
    · cases r with
      | ok => exact hr
      | error => rfl
    -- files that are intact since the expansion still have the expanded URDF among them
    have hcurrent : d₅.Intact d₆ → current = expanded := fun h => by
      have hsame := (h urdfPath (congrFun h₅.1 urdfPath ▸ hthere)).trans (congrFun h₅.1 urdfPath)
      exact Option.some.inj (h₇.2.symm.trans (hsame.trans h₅.2))
    refine .whenThen (fun _ => ?_) fun hne => .fail (h₆.imp_right fun h => absurd (hcurrent h) hne)
    refine .bind (Q := Ends (fun (_ : Unit) d₈ => Wrote urdfPath backup d₇ d₈)
      fun (e : ProfileError) _ => e.undoFailed = true) ?_ (fun _ d₈ _ h₈ => .fail ?_)
      fun _ _ _ h => .inl h
    · refine .next (P := fun r d₈ => Ends (fun _ d₈ => Wrote urdfPath backup d₇ d₈)
        (fun _ _ => True) r d₈) (.attempt ((writeAtomic_spec hsync urdfPath backup).mono
          fun r _ _ hr => ?_)) fun r d₈ _ hr => ?_
      · cases r with
        | ok => exact hr
        | error => trivial
      · cases r with
        | ok => exact .pure hr
        | error => exact .fail rfl
    · refine h₆.imp_right fun h => ?_
      have hbut₇ : d.IntactBut [urdfPath] d₇ := fun q hq hq' => by
        have h₄₅ := (congrFun h₅.1 q).trans (hbut q hq hq')
        rw [congrFun h₇.1 q, h q (h₄₅ ▸ hq), h₄₅]
      exact (hbut₇.restored hbackup h₈).intact

end

/-! ## Transactions that fail after a rename -/

namespace Bench

/-- A disk with the profile of the bench, every file of one byte. -/
def disk : Disk where
  files path :=
    if path ∈ [⟨"config", "robot.yaml"⟩, ⟨"config", "homing.yaml"⟩, ⟨"config", "motors.yaml"⟩,
      ⟨"config", "control.yaml"⟩, ⟨"urdf", "arm.urdf"⟩] then some [0] else none

/-- Documents of one byte; the URDF has to be expanded. -/
def codec : Codec Unit Unit Unit Unit Unit where
  readRobot _ := .ok ()
  readHoming _ := .ok ()
  validateSafetyConfig _ _ _ _ := .ok ()
  validateMotorsConfig _ := .ok ()
  urdfPath _ _ := ⟨"urdf", "arm.urdf"⟩
  expandedJoints _ _ := .ok (some ())
  rewriteEnvelopes _ _ := .ok [1]
  motorsYaml _ := .ok [1]
  controlYaml _ := .ok [1]

end Bench

def Bench.renameFails : DiskFaults where
  fails n op := n = 11 && op = .rename

end Marengo

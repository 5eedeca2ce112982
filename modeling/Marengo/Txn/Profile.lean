import Marengo.Lib.Prog

/-!
# Profile transactions

How the profile files are replaced. `writeAtomic` writes a temporary file beside the target, renames
it over the target and syncs the directory; `writeFilesWithRollback` replaces several files and, if
one of them fails, restores those before it; `writeMotorsControlAndUrdfLocked` expands the URDF
first and restores it if the YAML files fail.

Every file operation may fail. `DiskFaults` says which ones do, by their number and kind. Parsing,
validation and serialisation are functions of the bytes that are read or written (`Codec`), and the
text of an operating system error is left out. The writers hold the profile lock, so nothing else
changes the files.
-/

namespace Marengo

export Prog (read update fail ensure when each attempt lift traverse mapError)

abbrev Bytes := List UInt8

structure DiskPath where
  directory : String
  name : String
deriving DecidableEq

/-- The kinds of file operations, reads apart by what they are for. -/
inductive FileOp
  | read
  /-- The URDF, read after its expansion. -/
  | readBack
  | create | write | sync | rename | openDirectory | syncDirectory | remove
deriving DecidableEq

/-- Which operations fail, by their number and kind. -/
structure DiskFaults where
  fails : ℕ → FileOp → Bool := fun _ _ => false
  /-- How many bytes a failed write leaves behind. -/
  written : ℕ := 0

/-- The files, and what has been done so far. -/
structure Disk where
  files : DiskPath → Option Bytes
  performed : ℕ := 0
  tempSequence : ℕ := 0

inductive ProfileError
  | io (path : DiskPath)
  /-- "could not allocate a unique temporary file" -/
  | exhausted (directory : String)
  | parse (path : DiskPath) (message : String)
  | urdfMissing (path : DiskPath)
  | invalid (message : String)
  /-- "write failed (..); rollback also failed: .." -/
  | rollbackFailed (path : DiskPath) (error restoreError : ProfileError)
  /-- "YAML persist failed (..); URDF verification failed: .." -/
  | verificationFailed (path : DiskPath) (error readError : ProfileError)
  /-- "YAML persist failed (..); URDF restore also failed: .." -/
  | restoreFailed (path : DiskPath) (error restoreError : ProfileError)
deriving DecidableEq

/-- A write that was to undo another one failed too, or the URDF could not be checked for it. -/
def ProfileError.undoFailed : ProfileError → Bool
  | rollbackFailed .. | verificationFailed .. | restoreFailed .. => true
  | _ => false

section
variable {ε : Type} (faults : DiskFaults) (pid : ℕ)

/-! ## File operations -/

/-- Perform an operation; returns whether it fails. -/
def perform (op : FileOp) : Prog Disk ε Bool := do
  let d ← read
  update fun d => { d with performed := d.performed + 1 }
  pure (faults.fails d.performed op)

/-- Perform an operation that has no effect on the contents. -/
def performOn (op : FileOp) (path : DiskPath) : Prog Disk ProfileError Unit := do
  let failed ← perform faults op
  ensure (failed = false) (.io path)

def setFile (path : DiskPath) (contents : Option Bytes) : Prog Disk ε Unit :=
  update fun d => { d with files := Function.update d.files path contents }

/-- `fs::read`. -/
def readFile (op : FileOp) (path : DiskPath) : Prog Disk ProfileError Bytes := do
  performOn faults op path
  let d ← read
  match d.files path with
  | some bytes => pure bytes
  | none => fail (.io path)

/-- A new, empty file beside the target; a name that is taken is skipped. -/
def createTemp (path : DiskPath) : ℕ → Prog Disk ProfileError DiskPath
  | 0 => fail (.exhausted path.directory)
  | tries + 1 => do
    let d ← read
    let temporary : DiskPath := ⟨path.directory,
      "." ++ path.name ++ "." ++ toString pid ++ "." ++ toString d.tempSequence ++ ".tmp"⟩
    update fun d => { d with tempSequence := d.tempSequence + 1 }
    performOn faults .create temporary
    if d.files temporary = none then do
      setFile temporary (some [])
      pure temporary
    else createTemp path tries

/-- `write_all`: a failed write leaves a part of the bytes. -/
def writeAll (path : DiskPath) (bytes : Bytes) : Prog Disk ProfileError Unit := do
  let failed ← perform faults .write
  setFile path (some (if failed then bytes.take faults.written else bytes))
  ensure (failed = false) (.io path)

/-- `fs::rename`. -/
def rename (temporary path : DiskPath) : Prog Disk ProfileError Unit := do
  performOn faults .rename path
  update fun d =>
    { d with
      files := Function.update (Function.update d.files temporary none) path (d.files temporary) }

/-- Replace a file by way of a temporary one. The temporary file is removed, as far as possible,
if anything fails. -/
def writeAtomic (path : DiskPath) (bytes : Bytes) : Prog Disk ProfileError Unit := do
  let temporary ← createTemp faults pid path 128
  let result ← attempt do
    writeAll faults temporary bytes
    performOn faults .sync temporary
    rename faults temporary path
    performOn faults .openDirectory ⟨path.directory, ""⟩
    performOn faults .syncDirectory ⟨path.directory, ""⟩
  match result with
  | .ok () => pure ()
  | .error e => do
    let failed ← perform faults .remove
    when (failed = false) (setFile temporary none)
    fail e

/-! ## Several files -/

def restoreFiles (error : ProfileError) (backups : List (DiskPath × Bytes)) :
    Prog Disk ProfileError Unit :=
  each backups fun backup => do
    let restored ← attempt (writeAtomic faults pid backup.1 backup.2)
    match restored with
    | .ok () => pure ()
    | .error restoreError => fail (.rollbackFailed backup.1 error restoreError)

/-- Write files, given the backups of those already written. A file that cannot be written is left
to `writeAtomic`; those before it are restored, the latest first. -/
def writeFilesFrom (written : List (DiskPath × Bytes)) :
    List (DiskPath × Bytes × Bytes) → Prog Disk ProfileError Unit
  | [] => pure ()
  | (path, backup, contents) :: rest => do
    let result ← attempt (writeAtomic faults pid path contents)
    match result with
    | .ok () => writeFilesFrom (written ++ [(path, backup)]) rest
    | .error e => do
      restoreFiles faults pid e written.reverse
      fail e

/-- Replace several files of the configuration directory, all or none. -/
def writeFilesWithRollback (configDir : String) (files : List (String × Bytes)) :
    Prog Disk ProfileError Unit := do
  let backups ← traverse (fun file => do
    let backup ← readFile faults .read ⟨configDir, file.1⟩
    pure ((⟨configDir, file.1⟩, backup, file.2) : DiskPath × Bytes × Bytes)) files
  writeFilesFrom faults pid [] backups

/-! ## The URDF and the YAML files -/

/-- What the writers know about the contents of the profile files. -/
structure Codec (Robot Homing Motors Control Envelopes : Type) where
  readRobot : Bytes → Except ProfileError Robot
  readHoming : Bytes → Except ProfileError Homing
  validateSafetyConfig : Robot → Motors → Control → Homing → Except ProfileError Unit
  validateMotorsConfig : Motors → Except ProfileError Unit
  urdfPath : String → Robot → DiskPath
  /-- The joints of a URDF that have to be expanded to cover the motors; none if it covers them. -/
  expandedJoints : Bytes → Motors → Except ProfileError (Option Envelopes)
  rewriteEnvelopes : Bytes → Envelopes → Except ProfileError Bytes
  motorsYaml : Motors → Except ProfileError Bytes
  controlYaml : Control → Except ProfileError Bytes

variable {Robot Homing Motors Control Envelopes : Type}
  (codec : Codec Robot Homing Motors Control Envelopes)

/-- Expand the URDF on disk so that it covers the motors. Returns whether it was rewritten. -/
def expandUrdfFileToCoverMotors (urdfPath : DiskPath) (motors : Motors) :
    Prog Disk ProfileError Bool := do
  lift (codec.validateMotorsConfig motors)
  let model ← readFile faults .read urdfPath
  let expanded ← lift (codec.expandedJoints model motors)
  match expanded with
  | none => pure false
  | some envelopes => do
    let original ← readFile faults .read urdfPath
    let updated ← lift (codec.rewriteEnvelopes original envelopes)
    writeAtomic faults pid urdfPath updated
    pure true

def writeMotorsControlFiles (configDir : String) (motors : Motors) (control : Control) :
    Prog Disk ProfileError Unit := do
  let motorsText ← lift (codec.motorsYaml motors)
  let controlText ← lift (codec.controlYaml control)
  writeFilesWithRollback faults pid configDir
    [("motors.yaml", motorsText), ("control.yaml", controlText)]

/-- `resolve_urdf_path`: the URDF has to exist. -/
def resolveUrdfPath (repoRoot : String) (robot : Robot) : Prog Disk ProfileError DiskPath := do
  let d ← read
  let path := codec.urdfPath repoRoot robot
  ensure (d.files path ≠ none) (.urdfMissing path)
  pure path

/-- Expand the URDF, then write the motors and the control files. If these fail, the URDF is
restored, unless something else has changed it. -/
def writeMotorsControlAndUrdfLocked (repoRoot configDir : String) (motors : Motors)
    (control : Control) : Prog Disk ProfileError Unit := do
  let robotText ← readFile faults .read ⟨configDir, "robot.yaml"⟩
  let robot ← lift (codec.readRobot robotText)
  let homingText ← readFile faults .read ⟨configDir, "homing.yaml"⟩
  let homing ← lift (codec.readHoming homingText)
  lift (codec.validateSafetyConfig robot motors control homing)
  let urdfPath ← resolveUrdfPath codec repoRoot robot
  let urdfBackup ← readFile faults .read urdfPath
  let _ ← expandUrdfFileToCoverMotors faults pid codec urdfPath motors
  let expanded ← readFile faults .readBack urdfPath
  let result ← attempt
    (writeMotorsControlFiles faults pid codec configDir motors control)
  match result with
  | .ok () => pure ()
  | .error e => do
    let current ← mapError (.verificationFailed urdfPath e) (readFile faults .readBack urdfPath)
    when (current = expanded) do
      let restored ← attempt (writeAtomic faults pid urdfPath urdfBackup)
      match restored with
      | .ok () => pure ()
      | .error restoreError => fail (.restoreFailed urdfPath e restoreError)
    fail e

end

end Marengo

/- The user-data file of user_data.go, its backup and its legacy file. -/

import QuotaScheduler.Lib.TwoFiles

namespace QuotaScheduler.UserData

open Lib
open Lib.TwoFiles (Choice FileName FileProg Others replaceTemp)

variable {δ : Type}

def currentUserDataSchema : Int := 1

/-- What the loader needs of `PluginDiskState`: defaults, and an idempotent normalisation. -/
structure DiskStates (δ : Type) where
  defaultState : δ
  normalizePluginDiskState : δ → δ
  normalize_normalize : ∀ s, normalizePluginDiskState (normalizePluginDiskState s) =
    normalizePluginDiskState s

def DiskStates.defaults (S : DiskStates δ) : δ := S.normalizePluginDiskState S.defaultState

structure Envelope (δ : Type) where
  schemaVersion : Int
  state : δ
  deriving DecidableEq, Repr

abbrev FileImage (δ : Type) := TwoFiles.FileImage (Envelope δ)

/-- What the legacy path holds; `rejected` is what `loadStrictLegacyUserData` refuses. -/
inductive LegacyImage (δ : Type)
  | absent
  | empty
  | rejected
  | state (s : δ)
  deriving DecidableEq, Repr

structure LegacyFiles (δ : Type) where
  legacy : LegacyImage δ
  legacyMigrated : LegacyImage δ
  deriving DecidableEq, Repr

inductive LegacyOp
  | read
  | replace

def LegacyOp.Ans (δ : Type) : LegacyOp → Type
  | .read => Option (LegacyImage δ)
  | .replace => Bool

def LegacyOp.exec : (op : LegacyOp) → Choice → LegacyFiles δ → op.Ans δ × LegacyFiles δ
  | .read, .ok, l => (some l.legacy, l)
  | .read, .fail, l => (none, l)
  | .replace, .ok, l => (true, ⟨.absent, l.legacy⟩)
  | .replace, .fail, l => (false, l)

/-- The directory has the legacy file next to the user data and its backup. -/
def legacyFiles (δ : Type) : Others where
  Files := LegacyFiles δ
  Op := LegacyOp
  Ans := LegacyOp.Ans δ
  exec := LegacyOp.exec

abbrev Disk (δ : Type) := TwoFiles.Disk (Envelope δ) (legacyFiles δ)

def Disk.legacy (d : Disk δ) : LegacyImage δ := LegacyFiles.legacy d.others

def Disk.retireLegacy (d : Disk δ) : Disk δ := { d with others := ⟨.absent, d.legacy⟩ }

/-- The crash points of the tests, which production runs pass through. -/
inductive KPoint
  | userBackupTempWrite
  | userBackupTempFsync
  | userBackupBeforeReplace
  | userBackupAfterReplace
  | userBackupDirFsync
  | userAfterBackupDirFsync
  | userPrimaryTempWrite
  | userPrimaryTempFsync
  | userMigrationBeforeNewRename
  | userMigrationAfterNewRename
  | userPrimaryDirFsync
  | userAfterPrimaryDirFsync
  | userMigrationAfterReadback
  | userMigrationBeforeLegacyRename
  | userMigrationAfterLegacyRename
  deriving DecidableEq, Repr

inductive Inert
  | mkdirAll
  | openTemp
  | writeTemp
  | syncTemp
  | closeTemp
  | syncDir
  | hit (point : KPoint)
  deriving DecidableEq, Repr

abbrev FileOp (δ : Type) := TwoFiles.FileOp Inert (Envelope δ) (legacyFiles δ)

/-- A directory in order: no operation fails. -/
def exec (op : FileOp δ) (d : Disk δ) : op.Ans × Disk δ := TwoFiles.exec op .ok d

inductive UserDataErr
  | io
  | corruptEvidenceExists
  | futureSchema (schemaVersion : Int)
  | legacyRejected
  | validationMismatch
  deriving DecidableEq, Repr

abbrev UserProg (δ α : Type) := FileProg Inert (Envelope δ) (legacyFiles δ) UserDataErr α

abbrev steps (os : List Inert) : UserProg δ Unit := TwoFiles.steps .io os

/-- `writeUserArtifactAtomic` on `path + ".bak"`, its only target. -/
def writeUserArtifactAtomic (raw : FileImage δ) : UserProg δ Unit := do
  steps [.hit .userBackupTempWrite, .openTemp, .writeTemp, .hit .userBackupTempFsync, .syncTemp,
    .closeTemp, .hit .userBackupBeforeReplace]
  replaceTemp .io .backup raw
  steps [.hit .userBackupAfterReplace, .hit .userBackupDirFsync, .syncDir,
    .hit .userAfterBackupDirFsync]

/-- `writeUserDataAtomic` behind the read: the backup first, then the primary. -/
def replaceUserData (current raw : FileImage δ) : UserProg δ Unit := do
  writeUserArtifactAtomic current
  steps [.hit .userPrimaryTempWrite, .openTemp, .writeTemp, .hit .userPrimaryTempFsync, .syncTemp,
    .closeTemp, .hit .userMigrationBeforeNewRename]
  replaceTemp .io .primary raw
  steps [.hit .userMigrationAfterNewRename, .hit .userPrimaryDirFsync, .syncDir,
    .hit .userAfterPrimaryDirFsync]

def encode (S : DiskStates δ) (state : δ) : FileImage δ :=
  .valid ⟨currentUserDataSchema, S.normalizePluginDiskState state⟩

def backupSource (raw : FileImage δ) : FileImage δ → FileImage δ
  | .absent => raw
  | current => current

/-- `writeUserDataAtomic`, and `SaveUserData`, which calls it without crash points. -/
def writeUserDataAtomic (S : DiskStates δ) (state : δ) : UserProg δ Unit := do
  steps [.mkdirAll]
  .call (.read .primary) fun
    | none => .raise .io
    | some current => replaceUserData (backupSource (encode S state) current) (encode S state)

/-- `quarantineUserArtifact`, which looks for the two files with `os.Stat`. -/
def quarantineUserArtifact (f : FileName) : UserProg δ Unit :=
  TwoFiles.quarantine .io .corruptEvidenceExists [.syncDir] f

structure LoadedState (δ : Type) where
  state : δ
  loaded : Bool
  deriving DecidableEq, Repr

structure UserDataRecoveryReport where
  migrated : Bool := false
  usedBackup : Bool := false
  recoveredDefault : Bool := false
  deriving DecidableEq, Repr

/-- The errors of `readUserData`; a missing file reads as the defaults. -/
inductive ReadErr
  | notExist
  | futureSchema (schemaVersion : Int)
  | other
  deriving DecidableEq, Repr

def readUserData (S : DiskStates δ) (f : FileName) : UserProg δ (Except ReadErr (LoadedState δ)) :=
  .call (.read f) fun
    | none => pure (.error .other)
    | some .absent => pure (.ok ⟨S.defaults, false⟩)
    | some .corrupt => pure (.error .other)
    | some (.valid ⟨v, s⟩) =>
      if currentUserDataSchema < v then pure (.error (.futureSchema v))
      else pure (.ok ⟨S.normalizePluginDiskState s, true⟩)

def reread : UserProg δ Int :=
  .call (.read .primary) fun
    | some (.valid ⟨v, _⟩) => pure v
    | _ => pure 0

def quarantineFound (err : ReadErr) (f : FileName) : UserProg δ Unit :=
  if err = .notExist then pure () else quarantineUserArtifact f

/-- `loadUserDataRecover` once the primary could not be read. -/
def recoverUserData (S : DiskStates δ) (err : ReadErr) :
    UserProg δ (LoadedState δ × UserDataRecoveryReport) := do
  match ← readUserData S .backup with
  | .ok backup =>
    quarantineFound err .primary
    writeUserDataAtomic S backup.state
    pure (backup, { usedBackup := true })
  | .error backupErr =>
    if err = .notExist ∧ backupErr = .notExist then pure (⟨S.defaults, false⟩, {})
    else
      quarantineFound err .primary
      quarantineFound backupErr .backup
      pure (⟨S.defaults, false⟩, { recoveredDefault := true })

/-- `loadUserDataRecover` for a readable primary: an old schema is written anew. -/
def migrateSchema (S : DiskStates δ) (r : LoadedState δ) (schemaVersion : Int) :
    UserProg δ (LoadedState δ × UserDataRecoveryReport) :=
  if r.loaded && decide (schemaVersion < currentUserDataSchema) then do
    writeUserDataAtomic S r.state
    pure (r, { migrated := true })
  else pure (r, {})

def loadUserDataRecover (S : DiskStates δ) :
    UserProg δ (LoadedState δ × UserDataRecoveryReport) := do
  match ← readUserData S .primary with
  | .ok r =>
    let schemaVersion ← reread
    migrateSchema S r schemaVersion
  | .error (.futureSchema v) => .raise (.futureSchema v)
  | .error err => recoverUserData S err

def loadUserData (S : DiskStates δ) : UserProg δ (LoadedState δ) := do
  let r ← loadUserDataRecover S
  pure r.1

def loadStrictLegacyUserData (S : DiskStates δ) : UserProg δ (LoadedState δ) :=
  .call (.other .read) fun
    | none => .raise .io
    | some .absent => pure ⟨S.defaults, false⟩
    | some .empty => pure ⟨S.defaults, false⟩
    | some .rejected => .raise .legacyRejected
    | some (.state s) => pure ⟨S.normalizePluginDiskState s, true⟩

def replaceLegacy : UserProg δ Unit :=
  .call (.other .replace) fun
    | true => pure ()
    | false => .raise .io

def syncLegacyDir : UserProg δ Unit := .call (.inert .syncDir) fun _ => pure ()

/-- The legacy state is written, read back and compared before it leaves its path. -/
def migrateLegacy [DecidableEq δ] (S : DiskStates δ) (legacy : δ) : UserProg δ (LoadedState δ) := do
  writeUserDataAtomic S legacy
  let verified ← loadUserData S
  steps [.hit .userMigrationAfterReadback]
  if S.normalizePluginDiskState legacy ≠ verified.state then .raise .validationMismatch
  else
    steps [.hit .userMigrationBeforeLegacyRename]
    replaceLegacy
    steps [.hit .userMigrationAfterLegacyRename]
    syncLegacyDir
    pure ⟨verified.state, true⟩

def loadUserDataWithMigration [DecidableEq δ] (S : DiskStates δ) : UserProg δ (LoadedState δ) :=
  .call (.read .primary) fun
    | none => .raise .io
    | some image =>
      if image.present then loadUserData S
      else do
        let legacy ← loadStrictLegacyUserData S
        if legacy.loaded then migrateLegacy S legacy.state
        else pure legacy

def imageData (S : DiskStates δ) : FileImage δ → Option δ
  | .valid ⟨v, s⟩ =>
    if currentUserDataSchema < v then none else some (S.normalizePluginDiskState s)
  | _ => none

def LegacyImage.data (S : DiskStates δ) : LegacyImage δ → Option δ
  | .state s => some (S.normalizePluginDiskState s)
  | _ => none

end QuotaScheduler.UserData

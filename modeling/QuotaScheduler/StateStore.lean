/- The two-file state store of state_store.go, one file operation at a time. -/

import QuotaScheduler.Lib.TwoFiles

namespace QuotaScheduler.StateStore

open Lib Lib.Resumable
open Lib.TwoFiles (FileProg replaceTemp)

export Lib.TwoFiles (FileName Choice exec)

variable {ρ : Type}

def currentStateSchema : Int := 2

/-- `PersistentState`; the store reads three fields, the others travel as `rest`. -/
structure PersistentState (ρ : Type) where
  schemaVersion : Int
  reservedCeiling : UInt64
  fenceUnsafe : Bool
  rest : ρ
  deriving DecidableEq, Repr

def newPersistentState (empty : ρ) : PersistentState ρ :=
  { schemaVersion := currentStateSchema, reservedCeiling := 0, fenceUnsafe := false, rest := empty }

abbrev FileImage (ρ : Type) := TwoFiles.FileImage (PersistentState ρ)

abbrev Disk (ρ : Type) := TwoFiles.Disk (PersistentState ρ) .none

def Disk.blank : Disk ρ := ⟨.absent, .absent, .absent, .absent, ()⟩

/-- Operations that leave every named file: temporary files, events, crash points, directory syncs.
-/
inductive Inert
  | mkdirAll
  | openTemp
  | writeEvent
  | writeTemp
  | fsyncEvent
  | syncTemp
  | closeTemp
  | kStateBeforeRename
  | renameBeforeEvent
  | renameAfterEvent
  | kStateAfterRename
  | dirFsyncEvent
  | syncDir
  | kFenceCeilingWrite
  | kFenceAfterCeiling
  deriving DecidableEq, Repr

inductive StoreErr
  | io
  | corruptEvidenceExists
  | stateReadOnly
  | fenceOverflow
  | fenceUnsafe
  | rejected
  deriving DecidableEq, Repr

abbrev StoreProg (ρ α : Type) := FileProg Inert (PersistentState ρ) .none StoreErr α

structure RecoveryReport where
  migrated : Bool := false
  readOnly : Bool := false
  usedBackup : Bool := false
  recoveredEmpty : Bool := false
  fenceUnsafe : Bool := false
  deriving DecidableEq, Repr

/-- The mutable fields of `StateStore`, which are lost in a crash. -/
structure Store (ρ : Type) where
  readOnly : Bool
  loaded : Bool
  state : PersistentState ρ
  deriving DecidableEq, Repr

/-- `NewStateStore`; the zero state is never used before a load. -/
def newStateStore (empty : ρ) : Store ρ :=
  { readOnly := false, loaded := false
    state := { schemaVersion := 0, reservedCeiling := 0, fenceUnsafe := false, rest := empty } }

abbrev steps (os : List Inert) : StoreProg ρ Unit := TwoFiles.steps .io os

inductive ReadResult (ρ : Type)
  | state (s : PersistentState ρ)
  | notExist
  | corrupt
  | otherErr
  deriving DecidableEq, Repr

def ReadResult.ofImage : Option (FileImage ρ) → ReadResult ρ
  | some (.valid s) => .state s
  | some .absent => .notExist
  | some .corrupt => .corrupt
  | none => .otherErr

def readPersistentState (f : FileName) : StoreProg ρ (ReadResult ρ) :=
  .call (.read f) fun r => pure (.ofImage r)

/-- `writeAtomic` before the rename; the crash point and the event are the primary's alone. -/
def beforeRename : FileName → List Inert
  | .primary => [.openTemp, .writeEvent, .writeTemp, .fsyncEvent, .syncTemp, .closeTemp,
      .kStateBeforeRename, .renameBeforeEvent]
  | .backup => [.openTemp, .writeEvent, .writeTemp, .fsyncEvent, .syncTemp, .closeTemp]

def afterRename : FileName → List Inert
  | .primary => [.renameAfterEvent, .kStateAfterRename, .dirFsyncEvent, .syncDir]
  | .backup => [.dirFsyncEvent, .syncDir]

/-- `writeAtomic`; the source's `prefix` argument always agrees with the target. -/
def writeAtomic (target : FileName) (raw : FileImage ρ) : StoreProg ρ Unit := do
  steps (beforeRename target)
  replaceTemp .io target raw
  steps (afterRename target)

def quarantine (f : FileName) : StoreProg ρ Unit :=
  TwoFiles.quarantine .io .corruptEvidenceExists [.syncDir] f

def sealState (s : Store ρ) (state : PersistentState ρ) : PersistentState ρ :=
  { state with
    fenceUnsafe := state.fenceUnsafe || (s.loaded && s.state.fenceUnsafe)
    schemaVersion := currentStateSchema }

/-- The bytes for the backup: the primary's, or the new ones if mirrored or none. `none`: a read
error. -/
def backupSource (mirrorBackup : Bool) (raw : FileImage ρ) :
    Option (FileImage ρ) → Option (FileImage ρ)
  | none => if mirrorBackup then some raw else none
  | some .absent => some raw
  | some current => some (if mirrorBackup then raw else current)

/-- `writeLockedMode`.  The memory changes only after both files are in place. -/
def writeLockedMode (s : Store ρ) (state : PersistentState ρ) (mirrorBackup : Bool) :
    StoreProg ρ (Store ρ) :=
  if s.readOnly then .raise .stateReadOnly
  else do
    let raw := TwoFiles.FileImage.valid (sealState s state)
    steps [.mkdirAll]
    .call (.read .primary) fun r =>
      match backupSource mirrorBackup raw r with
      | none => .raise .io
      | some current => do
        writeAtomic .backup current
        writeAtomic .primary raw
        pure { s with state := sealState s state, loaded := true }

def writeLocked (s : Store ρ) (state : PersistentState ρ) : StoreProg ρ (Store ρ) :=
  writeLockedMode s state false

structure Loaded (ρ : Type) where
  store : Store ρ
  state : PersistentState ρ
  report : RecoveryReport

/-- The end of `loadLocked`: schema check, migration, and the memory takes the state. -/
def acceptState (s : Store ρ) (state : PersistentState ρ) (report : RecoveryReport) : Loaded ρ :=
  let readOnly := decide (currentStateSchema < state.schemaVersion)
  let migrated := decide (state.schemaVersion < currentStateSchema)
  let state := if migrated then { state with schemaVersion := currentStateSchema } else state
  { store := { readOnly := s.readOnly || readOnly, loaded := true, state := state }
    state := state
    report := { report with
      readOnly := readOnly
      migrated := migrated
      fenceUnsafe := report.fenceUnsafe || state.fenceUnsafe } }

/-- No readable file and a corrupt one: it is moved aside for a state marked unsafe. -/
def recoverEmpty (s : Store ρ) (empty : ρ) (primaryCorrupt backupCorrupt : Bool) :
    StoreProg ρ (Loaded ρ) := do
  if primaryCorrupt then quarantine .primary
  if backupCorrupt then quarantine .backup
  let state := { newPersistentState empty with fenceUnsafe := true }
  let s ← writeLocked s state
  pure { store := s, state := state, report := { recoveredEmpty := true, fenceUnsafe := true } }

def recoverBackup (s : Store ρ) (state : PersistentState ρ) (primaryCorrupt : Bool) :
    StoreProg ρ (Loaded ρ) := do
  if primaryCorrupt then
    quarantine .primary
    writeAtomic .primary (.valid state)
  pure (acceptState s state { usedBackup := true })

def loadLocked (s : Store ρ) (empty : ρ) : StoreProg ρ (Loaded ρ) := do
  match ← readPersistentState .primary with
  | .state state => pure (acceptState s state {})
  | .otherErr => .raise .io
  | .notExist =>
    match ← readPersistentState .backup with
    | .state state => recoverBackup s state false
    | .notExist => pure (acceptState s (newPersistentState empty) {})
    | .otherErr => .raise .io
    | .corrupt => recoverEmpty s empty false true
  | .corrupt =>
    match ← readPersistentState .backup with
    | .state state => recoverBackup s state true
    | .notExist => recoverEmpty s empty true false
    | .otherErr => .raise .io
    | .corrupt => recoverEmpty s empty true true

/-- The memory, the state a load returned, the one an update wrote, and the caller's result. -/
structure CallResult (ρ α : Type) where
  store : Store ρ
  loaded : Option (PersistentState ρ)
  stored : Option (PersistentState ρ)
  result : Except StoreErr α

def load (s : Store ρ) (empty : ρ) : StoreProg ρ (CallResult ρ (PersistentState ρ)) := do
  match ← (loadLocked s empty).attempt with
  | .error e => pure ⟨s, none, none, .error e⟩
  | .ok l => pure ⟨l.store, some l.state, none, .ok l.state⟩

def persistentSnapshot (s : Store ρ) (empty : ρ) : StoreProg ρ (CallResult ρ (PersistentState ρ)) :=
  if s.loaded then pure ⟨s, none, none, .ok s.state⟩
  else do
    match ← (loadLocked s empty).attempt with
    | .error e => pure ⟨s, none, none, .error e⟩
    | .ok l => pure ⟨l.store, some l.state, none, .ok l.store.state⟩

def applyUpdate (mirrorBackup : Bool) (s : Store ρ) (loaded : Option (PersistentState ρ))
    (fn : PersistentState ρ → Except StoreErr (PersistentState ρ)) :
    StoreProg ρ (CallResult ρ (PersistentState ρ)) :=
  match fn s.state with
  | .error e => pure ⟨s, loaded, none, .error e⟩
  | .ok next => do
    match ← (writeLockedMode s next mirrorBackup).attempt with
    | .error e => pure ⟨s, loaded, none, .error e⟩
    | .ok s' => pure ⟨s', loaded, some s'.state, .ok s'.state⟩

/-- `Update` (`mirrorBackup` off) and `UpdateMirrored` (on). -/
def updateMode (mirrorBackup : Bool) (s : Store ρ) (empty : ρ)
    (fn : PersistentState ρ → Except StoreErr (PersistentState ρ)) :
    StoreProg ρ (CallResult ρ (PersistentState ρ)) :=
  if s.loaded then applyUpdate mirrorBackup s none fn
  else do
    match ← (loadLocked s empty).attempt with
    | .error e => pure ⟨s, none, none, .error e⟩
    | .ok l => applyUpdate mirrorBackup l.store (some l.state) fn

end QuotaScheduler.StateStore

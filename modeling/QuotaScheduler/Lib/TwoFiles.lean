/- A file and its backup: each is replaced by a rename, and moved aside when it is damaged. -/

import QuotaScheduler.Lib.Resumable

namespace QuotaScheduler.Lib.TwoFiles

open Resumable

inductive FileName
  | primary
  | backup
  deriving DecidableEq, Repr

inductive FileImage (κ : Type)
  | absent
  | corrupt
  | valid (content : κ)
  deriving DecidableEq, Repr

def FileImage.present {κ : Type} : FileImage κ → Bool
  | .absent => false
  | _ => true

inductive Choice
  | ok
  | fail
  deriving DecidableEq, Repr

/-- The files of other names in the directory, and the operations on them. -/
structure Others where
  Files : Type
  Op : Type
  Ans : Op → Type
  exec : (op : Op) → Choice → Files → Ans op × Files

def Others.none : Others where
  Files := Unit
  Op := Empty
  Ans _ := Unit
  exec op := op.elim

/-- The directory. Temporary files are truncated before use; `.corrupt` ones hold quarantined bytes.
-/
structure Disk (κ : Type) (O : Others) where
  primary : FileImage κ
  backup : FileImage κ
  primaryCorrupt : FileImage κ
  backupCorrupt : FileImage κ
  others : O.Files

variable {ι κ ε : Type} {O : Others}

namespace Disk

def get (d : Disk κ O) : FileName → FileImage κ
  | .primary => d.primary
  | .backup => d.backup

def set (d : Disk κ O) (f : FileName) (image : FileImage κ) : Disk κ O :=
  match f with
  | .primary => { d with primary := image }
  | .backup => { d with backup := image }

def evidence (d : Disk κ O) : FileName → FileImage κ
  | .primary => d.primaryCorrupt
  | .backup => d.backupCorrupt

def moveAside (d : Disk κ O) : FileName → Disk κ O
  | .primary => { d with primary := .absent, primaryCorrupt := d.primary }
  | .backup => { d with backup := .absent, backupCorrupt := d.backup }

end Disk

/-- The operations; those of `ι` leave every named file as it is. -/
inductive FileOp (ι κ : Type) (O : Others)
  | read (f : FileName)
  | readEvidence (f : FileName)
  | inert (o : ι)
  | replaceTemp (f : FileName) (image : FileImage κ)
  | replaceAside (f : FileName)
  | other (op : O.Op)

/-- A read answers `none` for an error but a missing file; the next three whether they succeeded. -/
def FileOp.Ans : FileOp ι κ O → Type
  | .read _ => Option (FileImage κ)
  | .readEvidence _ => Option (FileImage κ)
  | .inert _ => Bool
  | .replaceTemp _ _ => Bool
  | .replaceAside _ => Bool
  | .other op => O.Ans op

/-- File replacement is atomic: it happens or it fails with nothing changed. -/
def exec : (op : FileOp ι κ O) → Choice → Disk κ O → op.Ans × Disk κ O
  | .read f, .ok, d => (some (d.get f), d)
  | .read _, .fail, d => (none, d)
  | .readEvidence f, .ok, d => (some (d.evidence f), d)
  | .readEvidence _, .fail, d => (none, d)
  | .inert _, .ok, d => (true, d)
  | .inert _, .fail, d => (false, d)
  | .replaceTemp f image, .ok, d => (true, d.set f image)
  | .replaceTemp _ _, .fail, d => (false, d)
  | .replaceAside f, .ok, d => (true, d.moveAside f)
  | .replaceAside _, .fail, d => (false, d)
  | .other op, c, d => ((O.exec op c d.others).1, { d with others := (O.exec op c d.others).2 })

/-- A routine, cut at its file operations. -/
abbrev FileProg (ι κ : Type) (O : Others) (ε α : Type) := Prog (FileOp ι κ O) FileOp.Ans ε α

def steps (io : ε) : List ι → FileProg ι κ O ε Unit
  | [] => pure ()
  | o :: os => .call (.inert o) fun
    | true => steps io os
    | false => .raise io

def replaceTemp (io : ε) (f : FileName) (raw : FileImage κ) : FileProg ι κ O ε Unit :=
  .call (.replaceTemp f raw) fun
    | true => pure ()
    | false => .raise io

def replaceAside (io : ε) (sync : List ι) (f : FileName) : FileProg ι κ O ε Unit :=
  .call (.replaceAside f) fun
    | true => steps io sync
    | false => .raise io

/-- A file that exists is moved aside, where evidence is never overwritten. -/
def quarantine (io evidenceExists : ε) (sync : List ι) (f : FileName) : FileProg ι κ O ε Unit :=
  .call (.read f) fun
    | none => .raise io
    | some image =>
      if image.present then
        .call (.readEvidence f) fun
          | none => .raise io
          | some kept => if kept.present then .raise evidenceExists else replaceAside io sync f
      else pure ()

end QuotaScheduler.Lib.TwoFiles

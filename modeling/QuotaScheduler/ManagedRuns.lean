/- The writers of an auth file, one call at a time (managed_lifecycle.go, refresh.go). -/

import QuotaScheduler.Lib.Runs
import QuotaScheduler.Lib.Tables
import QuotaScheduler.ManagedLifecycle

namespace QuotaScheduler.ManagedRuns

open Identity AuthFile Account ManagedLifecycle Lib.Tables

/-- What a writer read from the host: the text, and the number of writes before. -/
structure Reading where
  text : AuthText
  version : Nat

inductive ApplyThread
  | read (event : QuotaFailureEvent)
  | decide (event : QuotaFailureEvent) (reading : Reading) (doc : Option Fields)
  | release (index : String)
  | plan (event : QuotaFailureEvent) (reading : Reading) (doc : Option Fields)
      (fingerprint : CredentialFingerprint)
  | save (index : String) (reading : Reading) (doc : Option Fields)
  | confirm (index : String)

inductive RecoveryStage
  | idle
  | reconcile (todo : List String)
  | settle (index : String) (disabled : Bool) (todo : List String)
  | select
  | read (todo : List String)
  | decide (index : String) (reading : Reading) (doc : Option Fields) (now : Time)
      (todo : List String)
  | drop (index : String) (todo : List String)
  | check (index : String) (now : Time) (todo : List String)
  | ask (index : String) (reading : Reading) (doc : Fields) (now : Time) (todo : List String)
  | save (index : String) (reading : Reading) (doc : Fields) (todo : List String)
  | release (index : String) (todo : List String)

structure RefreshThread where
  index : String
  reading : Reading

inductive Author
  | plugin
  | other
  deriving DecidableEq

/-- The files, records and writers under way; for each file its writes, who set the flag, the
plugin's last save, and the credential it disabled. -/
structure World where
  clock : Time := 0
  files : String → AuthText := fun _ => .empty
  ledger : Ledger := ∅
  applies : AList (fun _ : Nat => ApplyThread) := ∅
  recovery : RecoveryStage := .idle
  refreshes : AList (fun _ : Nat => RefreshThread) := ∅
  versions : String → Nat := fun _ => 0
  flagBy : String → Author := fun _ => .other
  savedToken : String → Option String := fun _ => none
  savedFlag : String → Option Bool := fun _ => none
  disabledWith : String → Option CredentialFingerprint := fun _ => none

/-- How a call went; a lost save took effect although the caller saw an error. -/
inductive Outcome
  | ok
  | failed
  | lost
  deriving DecidableEq

inductive Event
  | elapse (d : Nat)
  | crash
  | startApply (n : Nat) (event : QuotaFailureEvent)
  | apply (n : Nat) (outcome : Outcome)
  | startRecovery
  | recover (outcome : Outcome) (answer : Option ParsedQuota)
  | startRefresh (n : Nat) (index : String)
  | refresh (n : Nat) (refreshed : CodexCredentials) (outcome : Outcome)
  | endRefresh (n : Nat)
  | operator (index : String) (disabled : Bool)
  | rotate (index : String) (fields : Fields)

def World.reading (w : World) (index : String) : Reading := ⟨w.files index, w.versions index⟩

def World.write (w : World) (index : String) (fields : Fields) : World :=
  { w with
    files := Function.update w.files index (.json (.object fields))
    versions := Function.update w.versions index (w.versions index + 1) }

def World.saveFlag (env : Env) (w : World) (index : String) (doc : Fields) (disabled : Bool) :
    World :=
  { w.write index (doc.set "disabled" (.bool disabled)) with
    flagBy := Function.update w.flagBy index .plugin
    savedFlag := Function.update w.savedFlag index (some disabled)
    disabledWith := if disabled then
        Function.update w.disabledWith index (fingerprintOf env index (w.files index))
      else w.disabledWith }

def World.saveCredentials (w : World) (index : String) (doc : Fields) (token : String) : World :=
  { w.write index doc with savedToken := Function.update w.savedToken index (some token) }

/-- An edit of the flag by someone else; only a JSON object has one. -/
def World.editFlag (w : World) (index : String) (disabled : Bool) : World :=
  match w.files index with
  | .json (.object fields) =>
    { w.write index (Fields.set fields "disabled" (.bool disabled)) with
      flagBy := Function.update w.flagBy index .other }
  | _ => w

def World.rotateCredential (w : World) (index : String) (fields : Fields) : World :=
  w.write index (fields.set "disabled" (.bool (flagOf (w.files index))))

def World.crash (w : World) : World :=
  { w with applies := ∅, recovery := .idle, refreshes := ∅ }

def World.setApply (w : World) (n : Nat) (t : Option ApplyThread) : World :=
  { w with applies := put w.applies n t }

def World.actApply (env : Env) (w : World) (n : Nat) (outcome : Outcome) : ApplyThread → World
  | .read event =>
    match outcome, decodeManaged (w.files event.authIndex) with
    | .ok, some doc => w.setApply n (some (.decide event (w.reading event.authIndex) doc))
    | _, _ => w.setApply n none
  | .decide event reading doc =>
    match outcome, decideApply env event.authIndex reading.text doc
        (w.ledger.lookup event.authIndex) with
    | .ok, .release => w.setApply n (some (.release event.authIndex))
    | .ok, .plan fingerprint => w.setApply n (some (.plan event reading doc fingerprint))
    | _, _ => w.setApply n none
  | .release index =>
    match outcome with
    | .ok => { w with ledger := w.ledger.erase index }.setApply n none
    | _ => w.setApply n none
  | .plan event reading doc fingerprint =>
    match outcome with
    | .ok =>
      { w with
        ledger := w.ledger.insert event.authIndex
          (planRecord env event fingerprint w.clock (w.ledger.lookup event.authIndex)) }.setApply n
        (if disabledFlag doc then none else some (.save event.authIndex reading doc))
    | _ => w.setApply n none
  | .save index _ doc =>
    match doc with
    -- assigning to the nil map of a `null` file ends the process
    | none => w.crash
    | some fields =>
      match outcome with
      | .ok => (w.saveFlag env index fields true).setApply n (some (.confirm index))
      | .failed => w.setApply n none
      | .lost => (w.saveFlag env index fields true).setApply n none
  | .confirm index =>
    match outcome with
    | .ok =>
      { w with
        ledger := w.ledger.insert index
          (confirmRecord env .disabled w.clock ((w.ledger.lookup index).getD {})) }.setApply n none
    | _ => w.setApply n none

def reconcileNext : List String → RecoveryStage
  | [] => .select
  | index :: todo => .reconcile (index :: todo)

def readNext : List String → RecoveryStage
  | [] => .idle
  | index :: todo => .read (index :: todo)

def settleLedger (env : Env) (ledger : Ledger) (index : String) (disabled : Bool) (now : Time) :
    Ledger :=
  match ledger.lookup index with
  | none => ledger
  | some record =>
    if disabled then ledger.insert index (confirmRecord env .disableConfirmed now record)
    else ledger.erase index

def checkLedger (env : Env) (ledger : Ledger) (index : String) (now : Time) : Ledger :=
  match ledger.lookup index with
  | none => ledger
  | some record => ledger.insert index (checkRecord env now record)

def World.actRecovery (env : Env) (w : World) (outcome : Outcome) (answer : Option ParsedQuota) :
    World :=
  match w.recovery with
  | .idle => w
  | .reconcile [] => { w with recovery := .select }
  | .reconcile (index :: todo) =>
    match outcome, decodeManaged (w.files index) with
    | .ok, some doc => { w with recovery := .settle index (disabledFlag doc) todo }
    | _, _ => { w with recovery := reconcileNext todo }
  | .settle index disabled todo =>
    match outcome with
    | .ok =>
      { w with
        ledger := settleLedger env w.ledger index disabled w.clock
        recovery := reconcileNext todo }
    | _ => { w with recovery := .idle }
  | .select =>
    match outcome with
    | .ok => { w with recovery := readNext (dueIndices w.ledger w.clock) }
    | _ => { w with recovery := .idle }
  | .read [] => { w with recovery := .idle }
  | .read (index :: todo) =>
    match outcome, decodeManaged (w.files index) with
    | .ok, some doc => { w with recovery := .decide index (w.reading index) doc w.clock todo }
    | _, _ => { w with recovery := .idle }
  | .decide index reading doc now todo =>
    match outcome, decideRecover env index reading.text doc (w.ledger.lookup index), doc with
    | .ok, .drop, _ => { w with recovery := .drop index todo }
    | .ok, .check, _ => { w with recovery := .check index now todo }
    | .ok, .ask, some fields => { w with recovery := .ask index reading fields now todo }
    | _, _, _ => { w with recovery := .idle }
  | .drop index todo =>
    match outcome with
    | .ok => { w with ledger := w.ledger.erase index, recovery := readNext todo }
    | _ => { w with recovery := .idle }
  | .check index now todo =>
    match outcome with
    | .ok => { w with ledger := checkLedger env w.ledger index now, recovery := readNext todo }
    | _ => { w with recovery := .idle }
  | .ask index reading fields now todo =>
    if enables env answer now then { w with recovery := .save index reading fields todo }
    else { w with recovery := .check index now todo }
  | .save index _ fields todo =>
    match outcome with
    | .ok => { w.saveFlag env index fields false with recovery := .release index todo }
    | .failed => { w with recovery := .idle }
    | .lost => { w.saveFlag env index fields false with recovery := .idle }
  | .release index todo =>
    match outcome with
    | .ok => { w with ledger := w.ledger.erase index, recovery := readNext todo }
    | _ => { w with recovery := .idle }

def World.setRefresh (w : World) (n : Nat) (t : Option RefreshThread) : World :=
  { w with refreshes := put w.refreshes n t }

def World.actRefresh (env : Env) (w : World) (n : Nat) (t : RefreshThread)
    (refreshed : CodexCredentials) (outcome : Outcome) : World :=
  match outcome, updateCodexAuthJSON env.formats t.reading.text refreshed w.clock with
  | .failed, _ | _, none => w.setRefresh n none
  | _, some doc => (w.saveCredentials t.index doc refreshed.refreshToken).setRefresh n none

/-- One event; one for a writer not under way does nothing. -/
def step (env : Env) (w : World) : Event → World
  | .elapse d => { w with clock := w.clock + d }
  | .crash => w.crash
  | .startApply n event =>
    if env.enableManagedQuotaDisable && decide (event.authIndex ≠ "") &&
        (w.applies.lookup n).isNone then
      w.setApply n (some (.read event))
    else w
  | .apply n outcome =>
    match w.applies.lookup n with
    | none => w
    | some t => w.actApply env n outcome t
  | .startRecovery =>
    match env.enableManagedQuotaDisable, w.recovery with
    | true, .idle => { w with recovery := reconcileNext (plannedIndices w.ledger) }
    | _, _ => w
  | .recover outcome answer => w.actRecovery env outcome answer
  | .startRefresh n index =>
    if (w.refreshes.lookup n).isNone then w.setRefresh n (some ⟨index, w.reading index⟩) else w
  | .refresh n refreshed outcome =>
    match w.refreshes.lookup n with
    | none => w
    | some t => w.actRefresh env n t refreshed outcome
  | .endRefresh n => w.setRefresh n none
  | .operator index disabled => w.editFlag index disabled
  | .rotate index fields => w.rotateCredential index fields

def saveIndex : RecoveryStage → Option String
  | .save index _ _ _ => some index
  | .idle | .select | .reconcile _ | .read _ | .settle _ _ _ | .decide _ _ _ _ _ | .drop _ _
  | .check _ _ _ | .ask _ _ _ _ _ | .release _ _ => none

theorem saveIndex_eq_some {stage : RecoveryStage} {index : String}
    (h : saveIndex stage = some index) :
    ∃ reading doc todo, stage = .save index reading doc todo := by
  cases stage with
  | save i reading doc todo =>
    obtain rfl := Option.some.inj h
    exact ⟨reading, doc, todo, rfl⟩
  | _ => cases h

def plainEnv : Env where
  formats := plainFormats
  hashing := lengthHashing
  lifecycleEventLimit := 10
  quotaRefreshInterval := hour

def oneFile : World where
  clock := hour
  files _ := .json (.object [("access_token", .text "t0"), ("refresh_token", .text "r0"),
    ("account_id", .text "a")])

/-- No disable is on record, and nobody is at work. -/
structure Unrecorded (w : World) : Prop where
  ledger : w.ledger = ∅
  applies : w.applies = ∅
  recovery : w.recovery = .idle

theorem oneFile_unrecorded : Unrecorded oneFile := ⟨rfl, rfl, rfl⟩

def planRun : List Event :=
  [.startApply 0 { authIndex := "x" }, .apply 0 .ok, .apply 0 .ok, .apply 0 .ok]

def disableRun : List Event := planRun ++ [.apply 0 .ok]

def recoverRun : List Event :=
  [.recover .ok none, .recover .ok none, .recover .ok none,
    .recover .ok (some { longWindow := some {} })]

def disableAndRecover : List Event := disableRun ++ [.apply 0 .ok, .startRecovery] ++ recoverRun

end QuotaScheduler.ManagedRuns

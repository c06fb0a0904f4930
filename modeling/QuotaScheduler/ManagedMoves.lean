/- What one step of a managed disable and of the recovery can do. -/

import QuotaScheduler.ManagedRuns

namespace QuotaScheduler.ManagedMoves

open Account (QuotaFailureEvent)
open AuthFile Identity ManagedLifecycle ManagedRuns

inductive ApplyMove (env : Env) (w : World) (n : Nat) : ApplyThread → World → Prop
  | stop (t : ApplyThread) : ApplyMove env w n t (w.setApply n none)
  | read (event : QuotaFailureEvent) (doc : Option Fields)
      (hdoc : decodeManaged (w.files event.authIndex) = some doc) :
      ApplyMove env w n (.read event)
        (w.setApply n (some (.decide event (w.reading event.authIndex) doc)))
  | release (event : QuotaFailureEvent) (reading : Reading) (doc : Option Fields)
      (hverdict : decideApply env event.authIndex reading.text doc
        (w.ledger.lookup event.authIndex) = .release) :
      ApplyMove env w n (.decide event reading doc) (w.setApply n (some (.release event.authIndex)))
  | plan (event : QuotaFailureEvent) (reading : Reading) (doc : Option Fields)
      (fingerprint : CredentialFingerprint)
      (hverdict : decideApply env event.authIndex reading.text doc
        (w.ledger.lookup event.authIndex) = .plan fingerprint) :
      ApplyMove env w n (.decide event reading doc)
        (w.setApply n (some (.plan event reading doc fingerprint)))
  | erase (index : String) :
      ApplyMove env w n (.release index) ({ w with ledger := w.ledger.erase index }.setApply n none)
  | record (event : QuotaFailureEvent) (reading : Reading) (doc : Option Fields)
      (fingerprint : CredentialFingerprint) :
      ApplyMove env w n (.plan event reading doc fingerprint)
        ({ w with
          ledger := w.ledger.insert event.authIndex (planRecord env event fingerprint w.clock
              (w.ledger.lookup event.authIndex)) }.setApply n
          (if disabledFlag doc then none else some (.save event.authIndex reading doc)))
  | crash (index : String) (reading : Reading) :
      ApplyMove env w n (.save index reading none) w.crash
  | save (index : String) (reading : Reading) (fields : Fields) (next : Option ApplyThread)
      (hnext : ∀ t, next = some t → t = .confirm index) :
      ApplyMove env w n (.save index reading (some fields))
        ((w.saveFlag env index fields true).setApply n next)
  | confirm (index : String) :
      ApplyMove env w n (.confirm index)
        ({ w with
          ledger := w.ledger.insert index (confirmRecord env .disabled w.clock
              ((w.ledger.lookup index).getD {})) }.setApply n none)

variable {env : Env} {outcome : Outcome}

theorem actApply_move (w : World) (n : Nat) (t : ApplyThread) :
    ApplyMove env w n t (w.actApply env n outcome t) := by
  cases t with
  | read event =>
    simp only [World.actApply]
    split
    case h_1 doc hdoc => exact .read event doc hdoc
    case h_2 => exact .stop _
  | decide event reading doc =>
    simp only [World.actApply]
    split
    case h_1 hverdict => exact .release event reading doc hverdict
    case h_2 fingerprint hverdict => exact .plan event reading doc fingerprint hverdict
    case h_3 => exact .stop _
  | release index =>
    cases outcome with
    | ok => exact .erase index
    | failed | lost => exact .stop _
  | plan event reading doc fingerprint =>
    cases outcome with
    | ok => exact .record event reading doc fingerprint
    | failed | lost => exact .stop _
  | save index reading doc =>
    cases doc with
    | none => exact .crash index reading
    | some fields =>
      cases outcome with
      | ok => exact .save index reading fields _ fun t ht => (Option.some.inj ht).symm
      | failed => exact .stop _
      | lost => exact .save index reading fields none fun t ht => by cases ht
  | confirm index =>
    cases outcome with
    | ok => exact .confirm index
    | failed | lost => exact .stop _

/-- The steps of the recovery, by where it stands; any call may fail and end the pass. -/
inductive RecoveryMove (env : Env) (w : World) : RecoveryStage → World → Prop
  | stop (stage : RecoveryStage) : RecoveryMove env w stage { w with recovery := .idle }
  | reconciled : RecoveryMove env w (.reconcile []) { w with recovery := .select }
  | skip (index : String) (todo : List String) :
      RecoveryMove env w (.reconcile (index :: todo)) { w with recovery := reconcileNext todo }
  | found (index : String) (todo : List String) (doc : Option Fields)
      (hdoc : decodeManaged (w.files index) = some doc) :
      RecoveryMove env w (.reconcile (index :: todo))
        { w with recovery := .settle index (disabledFlag doc) todo }
  | settle (index : String) (disabled : Bool) (todo : List String) :
      RecoveryMove env w (.settle index disabled todo)
        { w with
          ledger := settleLedger env w.ledger index disabled w.clock
          recovery := reconcileNext todo }
  | select :
      RecoveryMove env w .select { w with recovery := readNext (dueIndices w.ledger w.clock) }
  | read (index : String) (todo : List String) (doc : Option Fields)
      (hdoc : decodeManaged (w.files index) = some doc) :
      RecoveryMove env w (.read (index :: todo))
        { w with recovery := .decide index (w.reading index) doc w.clock todo }
  | drop (index : String) (reading : Reading) (doc : Option Fields) (now : Time)
      (todo : List String) :
      RecoveryMove env w (.decide index reading doc now todo)
        { w with recovery := .drop index todo }
  | check (index : String) (reading : Reading) (doc : Option Fields) (now : Time)
      (todo : List String) :
      RecoveryMove env w (.decide index reading doc now todo)
        { w with recovery := .check index now todo }
  | ask (index : String) (reading : Reading) (fields : Fields) (now : Time) (todo : List String)
      (hverdict : decideRecover env index reading.text (some fields) (w.ledger.lookup index) =
        .ask) :
      RecoveryMove env w (.decide index reading (some fields) now todo)
        { w with recovery := .ask index reading fields now todo }
  | dropped (index : String) (todo : List String) :
      RecoveryMove env w (.drop index todo)
        { w with ledger := w.ledger.erase index, recovery := readNext todo }
  | checked (index : String) (now : Time) (todo : List String) :
      RecoveryMove env w (.check index now todo)
        { w with ledger := checkLedger env w.ledger index now, recovery := readNext todo }
  | enable (index : String) (reading : Reading) (fields : Fields) (now : Time)
      (todo : List String) :
      RecoveryMove env w (.ask index reading fields now todo)
        { w with recovery := .save index reading fields todo }
  | postpone (index : String) (reading : Reading) (fields : Fields) (now : Time)
      (todo : List String) :
      RecoveryMove env w (.ask index reading fields now todo)
        { w with recovery := .check index now todo }
  | save (index : String) (reading : Reading) (fields : Fields) (todo : List String) :
      RecoveryMove env w (.save index reading fields todo)
        { w.saveFlag env index fields false with recovery := .release index todo }
  | lost (index : String) (reading : Reading) (fields : Fields) (todo : List String) :
      RecoveryMove env w (.save index reading fields todo)
        { w.saveFlag env index fields false with recovery := .idle }
  | released (index : String) (todo : List String) :
      RecoveryMove env w (.release index todo)
        { w with ledger := w.ledger.erase index, recovery := readNext todo }

theorem setRecovery_idle {w : World} (h : w.recovery = .idle) :
    { w with recovery := .idle } = w := by
  cases w
  cases h
  rfl

variable {answer : Option Account.ParsedQuota}

theorem actRecovery_move {w : World} {stage : RecoveryStage} (hstage : w.recovery = stage) :
    RecoveryMove env w stage (w.actRecovery env outcome answer) := by
  unfold World.actRecovery
  rw [hstage]
  cases stage with
  | idle =>
    have hstop : RecoveryMove env w .idle { w with recovery := .idle } := .stop .idle
    rwa [setRecovery_idle hstage] at hstop
  | reconcile todo =>
    cases todo with
    | nil => exact .reconciled
    | cons index todo =>
      dsimp only
      split
      case h_1 doc hdoc => exact .found index todo doc hdoc
      case h_2 => exact .skip index todo
  | settle index disabled todo =>
    cases outcome with
    | ok => exact .settle index disabled todo
    | failed | lost => exact .stop _
  | select =>
    cases outcome with
    | ok => exact .select
    | failed | lost => exact .stop _
  | read todo =>
    cases todo with
    | nil => exact .stop _
    | cons index todo =>
      dsimp only
      split
      case h_1 doc hdoc => exact .read index todo doc hdoc
      case h_2 => exact .stop _
  | decide index reading doc now todo =>
    dsimp only
    split
    case h_1 => exact .drop index reading _ now todo
    case h_2 => exact .check index reading _ now todo
    case h_3 fields hverdict => exact .ask index reading fields now todo hverdict
    case h_4 => exact .stop _
  | drop index todo =>
    cases outcome with
    | ok => exact .dropped index todo
    | failed | lost => exact .stop _
  | check index now todo =>
    cases outcome with
    | ok => exact .checked index now todo
    | failed | lost => exact .stop _
  | ask index reading fields now todo =>
    dsimp only
    split
    · exact .enable index reading fields now todo
    · exact .postpone index reading fields now todo
  | save index reading fields todo =>
    cases outcome with
    | ok => exact .save index reading fields todo
    | failed => exact .stop _
    | lost => exact .lost index reading fields todo
  | release index todo =>
    cases outcome with
    | ok => exact .released index todo
    | failed | lost => exact .stop _

end QuotaScheduler.ManagedMoves

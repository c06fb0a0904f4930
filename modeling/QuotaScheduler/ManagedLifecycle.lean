/- Ownership records of disabled accounts and their use (managed_lifecycle.go). -/

import QuotaScheduler.AuthFile

namespace QuotaScheduler.ManagedLifecycle

open Identity AuthFile Account List

inductive LifecycleKind
  | quota429
  | disabled
  | disableConfirmed
  | quotaChecked
  deriving DecidableEq

structure LifecycleEvent where
  kind : LifecycleKind
  happenedAt : Time
  detail : String := ""
  deriving DecidableEq

structure ManagedDisableRecord where
  disabledAt : Time := .zero
  disableApplied : Bool := false
  fingerprint : CredentialFingerprint := {}
  last429At : Time := .zero
  resetAt : Time := .zero
  lastQuotaCheckAt : Time := .zero
  nextQuotaCheckAt : Time := .zero
  events : List LifecycleEvent := []
  deriving DecidableEq

abbrev Ledger := AList fun _ : String => ManagedDisableRecord

structure Env where
  formats : Formats
  hashing : Hashing
  enableManagedQuotaDisable : Bool := true
  lifecycleEventLimit : Int
  quotaRefreshInterval : Duration

def appendLifecycleEvent (record : ManagedDisableRecord) (event : LifecycleEvent) (limit : Int) :
    ManagedDisableRecord :=
  if limit ≤ 0 then record
  else
    let events := record.events ++ [event]
    { record with events := events.drop (events.length - limit.toNat) }

def managedAuthFingerprint (env : Env) (authIndex : String) (credentials : CodexCredentials) :
    CredentialFingerprint :=
  newCredentialFingerprint env.hashing credentials.chatGPTAccountID credentials.refreshToken
    authIndex

def fingerprintOf (env : Env) (authIndex : String) (text : AuthText) :
    Option CredentialFingerprint :=
  (extractCodexCredentials env.formats text).map (managedAuthFingerprint env authIndex)

/-- The object the managed lifecycle decodes; the inner `none` is the nil map of `null`, the outer
an error. -/
def decodeManaged : AuthText → Option (Option Fields)
  | .json (.object fields) => some (some fields)
  | .json .null => some none
  | .empty | .invalid | .json (.bool _) | .json (.number _) | .json (.text _) | .json (.array _) =>
    none

/-- The `disabled` field; a value that is not a boolean reads as false. -/
def disabledFlag (doc : Option Fields) : Bool :=
  match doc.bind fun fields => fields.lookup "disabled" with
  | some (.bool disabled) => disabled
  | _ => false

def flagOf (text : AuthText) : Bool := disabledFlag ((decodeManaged text).getD none)

theorem flagOf_of_decodeManaged {text : AuthText} {doc : Option Fields}
    (h : decodeManaged text = some doc) : flagOf text = disabledFlag doc := by
  rw [flagOf, h, Option.getD_some]

@[simp]
theorem disabledFlag_set (fields : Fields) (b : Bool) :
    disabledFlag (some (fields.set "disabled" (.bool b))) = b := by
  simp [disabledFlag]

def rotatedAway (env : Env) (authIndex : String) (record : Option ManagedDisableRecord)
    (credentials : Option CodexCredentials) : Bool :=
  match record, credentials with
  | some r, some c =>
    r.fingerprint.validHashes env.hashing.composite &&
      decide (r.fingerprint ≠ managedAuthFingerprint env authIndex c)
  | _, _ => false

/-- What `ApplyManagedQuotaDisable` does with what it read. -/
inductive ApplyVerdict
  | ignore
  | release
  | plan (fingerprint : CredentialFingerprint)
  deriving DecidableEq

/-- The fingerprint a plan writes; the zero value is one that writes none. -/
def plannedFingerprint (env : Env) (authIndex : String) (record : Option ManagedDisableRecord)
    (credentials : Option CodexCredentials) : CredentialFingerprint :=
  match credentials, record with
  | some c, _ => managedAuthFingerprint env authIndex c
  | none, some r => r.fingerprint
  | none, none => {}

def decideApply (env : Env) (authIndex : String) (text : AuthText) (doc : Option Fields)
    (record : Option ManagedDisableRecord) : ApplyVerdict :=
  let credentials := extractCodexCredentials env.formats text
  if disabledFlag doc && record.isNone then .ignore
  else if rotatedAway env authIndex record credentials then .release
  else .plan (plannedFingerprint env authIndex record credentials)

def planRecord (env : Env) (event : QuotaFailureEvent) (fingerprint : CredentialFingerprint)
    (now : Time) (record : Option ManagedDisableRecord) : ManagedDisableRecord :=
  let r := record.getD {}
  appendLifecycleEvent
    { r with
      disabledAt := if r.disabledAt.isZero then now else r.disabledAt
      last429At := now
      resetAt := event.resetAt
      nextQuotaCheckAt := event.resetAt
      fingerprint :=
        if fingerprint.validHashes env.hashing.composite then fingerprint else r.fingerprint }
    ⟨.quota429, now, event.reason⟩ env.lifecycleEventLimit

def confirmRecord (env : Env) (kind : LifecycleKind) (now : Time)
    (record : ManagedDisableRecord) : ManagedDisableRecord :=
  appendLifecycleEvent { record with disableApplied := true } ⟨kind, now, ""⟩
    env.lifecycleEventLimit

/-- What `recoverManagedQuotaAccount` does with what it read. -/
inductive RecoverVerdict
  | drop
  | check
  | ask
  deriving DecidableEq

def decideRecover (env : Env) (authIndex : String) (text : AuthText) (doc : Option Fields)
    (record : Option ManagedDisableRecord) : RecoverVerdict :=
  if !disabledFlag doc then .drop
  else
    match extractCodexCredentials env.formats text with
    | none => .check
    | some c =>
      if c.chatGPTAccountID = "" then .check
      else if rotatedAway env authIndex record (some c) then .drop
      else .ask

def checkRecord (env : Env) (now : Time) (record : ManagedDisableRecord) : ManagedDisableRecord :=
  appendLifecycleEvent
    { record with
      lastQuotaCheckAt := now
      nextQuotaCheckAt := now + env.quotaRefreshInterval }
    ⟨.quotaChecked, now, ""⟩ env.lifecycleEventLimit

def managedQuotaUsable (quota : ParsedQuota) (observedAt now : Time) (staleAfter : Duration) :
    Bool :=
  match quota.longWindow with
  | none => false
  | some window =>
    !(observedAt.isZero || observedAt.after now || decide (staleAfter ≤ 0) ||
        decide (staleAfter < now - observedAt)) &&
      !windowExhausted (some window) now &&
      !(window.usedPercent.any fun used => Float64.le 100 used) &&
      !windowExhausted quota.fiveHour now

/-- The quota answer lets the account be enabled; `none` is a failed request. -/
def enables (env : Env) (answer : Option ParsedQuota) (now : Time) : Bool :=
  answer.any fun quota => managedQuotaUsable quota now now env.quotaRefreshInterval

def plannedIndices (ledger : Ledger) : List String :=
  (ledger.entries.filter fun e => !e.2.disableApplied).map (·.1)

def dueIndices (ledger : Ledger) (now : Time) : List String :=
  ((ledger.entries.filter fun e => e.2.disableApplied &&
      (e.2.nextQuotaCheckAt.isZero || !e.2.nextQuotaCheckAt.after now)).map (·.1)).insertionSort
    (· ≤ ·)

variable {record : ManagedDisableRecord}

@[simp]
theorem fingerprint_appendLifecycleEvent (event : LifecycleEvent)
    (limit : Int) : (appendLifecycleEvent record event limit).fingerprint = record.fingerprint := by
  unfold appendLifecycleEvent
  split <;> rfl

@[simp]
theorem fingerprint_confirmRecord (env : Env) (kind : LifecycleKind) (now : Time)
    (record : ManagedDisableRecord) :
    (confirmRecord env kind now record).fingerprint = record.fingerprint := by
  simp [confirmRecord]

@[simp]
theorem fingerprint_checkRecord (env : Env) (now : Time) :
    (checkRecord env now record).fingerprint = record.fingerprint := by
  simp [checkRecord]

section Indices

variable {ledger : Ledger} {index : String} {now : Time}
  {p : Sigma (fun _ : String => ManagedDisableRecord) → Bool}

theorem mem_filter_keys : index ∈ (ledger.entries.filter p).map (·.1) ↔
      ∃ record, ledger.lookup index = some record ∧ p ⟨index, record⟩ = true := by
  simp only [List.mem_map, mem_filter]
  constructor
  · rintro ⟨⟨key, record⟩, ⟨hmem, hp⟩, rfl⟩
    exact ⟨record, AList.mem_lookup_iff.mpr hmem, hp⟩
  · rintro ⟨record, hlookup, hp⟩
    exact ⟨⟨index, record⟩, ⟨AList.mem_lookup_iff.mp hlookup, hp⟩, rfl⟩

theorem mem_dueIndices (h : index ∈ dueIndices ledger now) : (ledger.lookup index).isSome = true :=
  Option.isSome_iff_exists.mpr
    ((mem_filter_keys.mp ((mem_insertionSort _).mp h)).imp fun _ h => h.1)

theorem nodup_filter_keys : ((ledger.entries.filter p).map (·.1)).Nodup :=
  ledger.nodupKeys.sublist filter_sublist

theorem nodup_dueIndices : (dueIndices ledger now).Nodup :=
  (perm_insertionSort _ _).nodup_iff.mpr nodup_filter_keys

end Indices

end QuotaScheduler.ManagedLifecycle

/- The account table, the CPA admission and their updates (state.go). -/

import QuotaScheduler.Account
import QuotaScheduler.Lib.RankSort
import Mathlib.Data.Finset.Card
import Mathlib.Data.List.AList
import Mathlib.Data.String.Basic

namespace QuotaScheduler.State

open Lib.RankSort Account List

structure TierAdmission where
  priority : Int
  authIDs : Finset String
  deriving DecidableEq

structure CPAAdmissionState where
  observed : Bool := false
  priority : Int := 0
  authIDs : Finset String := ∅
  tiers : List TierAdmission := []
  deriving DecidableEq

def equalTier (tier other : TierAdmission) : Bool :=
  decide (tier.priority = other.priority) && decide (tier.authIDs.card = other.authIDs.card) &&
    decide (tier.authIDs ⊆ other.authIDs)

def equalCPAAdmission (left right : CPAAdmissionState) : Bool :=
  decide (left.observed = right.observed) && decide (left.priority = right.priority) &&
    decide (left.authIDs.card = right.authIDs.card) &&
    decide (left.tiers.length = right.tiers.length) &&
    decide (left.authIDs ⊆ right.authIDs) &&
    (left.tiers.zip right.tiers).all fun pair => equalTier pair.1 pair.2

theorem equalTier_iff (tier other : TierAdmission) :
    equalTier tier other = true ↔ tier = other := by
  constructor
  · intro h
    simp only [equalTier, Bool.and_eq_true, decide_eq_true_eq] at h
    obtain ⟨⟨hpriority, hcard⟩, hsub⟩ := h
    have hids : tier.authIDs = other.authIDs :=
      Finset.eq_of_subset_of_card_le hsub (Nat.le_of_eq hcard.symm)
    cases tier
    simp_all
  · rintro rfl
    simp [equalTier]

theorem zip_all_equalTier (left right : List TierAdmission) (hlen : left.length = right.length) :
    (left.zip right).all (fun pair => equalTier pair.1 pair.2) = true ↔ left = right := by
  induction left generalizing right with
  | nil =>
    have hnil : right = [] := eq_nil_of_length_eq_zero hlen.symm
    simp [hnil]
  | cons tier left ih =>
    cases right with
    | nil => simp at hlen
    | cons other right =>
      have htail : left.length = right.length := by simpa using hlen
      simp only [zip_cons_cons, all_cons, Bool.and_eq_true, equalTier_iff, ih right htail,
        cons.injEq]

/-- The maps are sets, so the comparison by size and inclusion is equality. -/
theorem equalCPAAdmission_iff (left right : CPAAdmissionState) :
    equalCPAAdmission left right = true ↔ left = right := by
  constructor
  · intro h
    simp only [equalCPAAdmission, Bool.and_eq_true, decide_eq_true_eq] at h
    obtain ⟨⟨⟨⟨⟨hobserved, hpriority⟩, hcard⟩, hlen⟩, hsub⟩, htiers⟩ := h
    have hids : left.authIDs = right.authIDs :=
      Finset.eq_of_subset_of_card_le hsub (Nat.le_of_eq hcard.symm)
    have hsame : left.tiers = right.tiers := (zip_all_equalTier _ _ hlen).mp htiers
    cases left
    simp_all
  · rintro rfl
    have htiers := (zip_all_equalTier left.tiers left.tiers rfl).mpr rfl
    simp [equalCPAAdmission, htiers]

abbrev AccountTable := AList fun _ : String => AccountState

/-- `PluginState`; `annotations` gives the priority under an annotation key. -/
structure PluginState where
  cfg : Config
  accounts : AccountTable := ∅
  cpaAdmission : CPAAdmissionState := {}
  cpaAdmissionVersion : Nat := 0
  annotations : String → Option Int := fun _ => none

structure StateSnapshot where
  config : Config
  accounts : List AccountState
  cpaAdmission : CPAAdmissionState
  now : Time

def newPluginState (cfg : Config) : PluginState := { cfg := normalizeConfig cfg }

def snapshotAccount (cfg : Config) (now : Time) (a : AccountState) : AccountState :=
  { a with
    stale := !a.lastSuccessAt.isZero && decide (cfg.staleAfter < now - a.lastSuccessAt)
    circuit := effectiveCircuitState a.circuit now }

def annotateAccount (annotations : String → Option Int) (a : AccountState) : AccountState :=
  match annotations (resolveAnnotationKey a) with
  | some p => { a with schedulerPriority := p }
  | none => a

namespace PluginState

def replaceConfig (s : PluginState) (cfg : Config) : PluginState :=
  { s with cfg := normalizeConfig cfg }

def setAnnotations (s : PluginState) (annotations : String → Option Int) : PluginState :=
  { s with annotations := annotations }

def setAccount (s : PluginState) (key : String) (a : AccountState) : PluginState :=
  { s with accounts := s.accounts.insert key a }

def snapshot (s : PluginState) (now : Time) : StateSnapshot where
  config := s.cfg
  accounts :=
    (sortSlice (fun a b => decide (accountStateKey a < accountStateKey b))
      (s.accounts.entries.map fun e => snapshotAccount s.cfg now e.2)).map
        (annotateAccount s.annotations)
  cpaAdmission := s.cpaAdmission
  now := now

/-- The priority a tiered admission gives an account: later tiers overwrite earlier ones. -/
def tierPriority (tiers : List TierAdmission) (authID : String) : Option Int :=
  tiers.foldl (fun p tier => if authID ∈ tier.authIDs then some tier.priority else p) none

def admitAccounts (value : CPAAdmissionState) (accounts : AccountTable) : AccountTable :=
  accounts.entries.foldl (fun table e =>
    if e.2.authID ∈ value.authIDs then
      table.insert e.1
        { e.2 with priority := (tierPriority value.tiers e.2.authID).getD value.priority }
    else table.erase e.1) accounts

def replaceCPAAdmission (s : PluginState) (value : CPAAdmissionState) : PluginState :=
  if equalCPAAdmission s.cpaAdmission value then s
  else
    { s with
      cpaAdmissionVersion := s.cpaAdmissionVersion + 1
      cpaAdmission := value
      accounts := if value.observed then admitAccounts value s.accounts else s.accounts }

@[simp]
theorem cpaAdmission_replaceCPAAdmission (s : PluginState) (value : CPAAdmissionState) :
    (s.replaceCPAAdmission value).cpaAdmission = value := by
  unfold replaceCPAAdmission
  split
  · rename_i hequal
    exact (equalCPAAdmission_iff _ _).mp hequal
  · rfl

def admissionCurrentLocked (s : PluginState) (authID : String) (version : Nat) : Bool :=
  decide (s.cpaAdmissionVersion = version) && s.cpaAdmission.observed && decide (authID ≠ "") &&
    decide (authID ∈ s.cpaAdmission.authIDs)

def admissionPriorityLocked (s : PluginState) (authID : String) : Int :=
  match s.cpaAdmission.tiers.find? fun tier => decide (authID ∈ tier.authIDs) with
  | some tier => tier.priority
  | none => s.cpaAdmission.priority

/-- `findAccountLocked`; a map has no fixed order, so any account of the index may be hit. -/
def findAccountLocked (s : PluginState) (authID authIndex : String) (hit : Nat) :
    Option (String × AccountState) :=
  match (if authID ≠ "" then s.accounts.lookup ("auth:" ++ authID) else none) with
  | some a => some ("auth:" ++ authID, a)
  | none =>
    if authIndex ≠ "" then
      let matching := s.accounts.entries.filter fun e => decide (e.2.authIndex = authIndex)
      matching[hit % matching.length]?.map fun e => (e.1, e.2)
    else none

def markAccountTemporaryExhausted (s : PluginState) (authID : String) (resetAt : Time)
    (reason : String) : PluginState :=
  if authID = "" then s
  else
    let a := (s.accounts.lookup ("auth:" ++ authID)).getD { authID := authID }
    s.setAccount ("auth:" ++ authID) (markTemporaryExhausted a resetAt reason)

def markAccountTemporaryExhaustedByAuthIndex (s : PluginState) (authIndex : String) (hit : Nat)
    (resetAt : Time) (reason : String) : PluginState :=
  match s.findAccountLocked "" authIndex hit with
  | none => s
  | some (key, a) => s.setAccount key (markTemporaryExhausted a resetAt reason)

def accountSuccess (cfg : Config) (a : AccountState) (now : Time) : AccountState :=
  applyCircuitSuccess { a with temporaryExhausted := false, temporaryResetAt := Time.zero }
    (normalizeConfig cfg) now

def recordAccountSuccess (s : PluginState) (authID authIndex : String) (hit : Nat) (now : Time) :
    PluginState :=
  match s.findAccountLocked authID authIndex hit with
  | none => s
  | some (key, a) => s.setAccount key (accountSuccess s.cfg a now)

/-- `none` stands for the answer `false`, here and below. -/
def clearAccountTemporaryExhausted (s : PluginState) (authID : String) : Option PluginState :=
  match s.findAccountLocked authID "" 0 with
  | none => none
  | some (key, a) =>
    if a.temporaryExhausted then
      some (s.setAccount key { a with temporaryExhausted := false, temporaryResetAt := Time.zero })
    else none

def clearAccountAuthFailure (s : PluginState) (authID : String) : Option PluginState :=
  match s.findAccountLocked authID "" 0 with
  | none => none
  | some (key, a) =>
    if a.refresh.authFailure then
      some (s.setAccount key
        { a with refresh := { a.refresh with
            authFailure := false
            retryAttempt := 0
            nextRetryAt := Time.zero } })
    else none

def reconcileMarker (a : AccountState) (now : Time) : AccountState :=
  if a.temporaryExhausted && quotaRefreshConfirmsReset a now then
    { a with temporaryExhausted := false, temporaryResetAt := Time.zero, lastError := "" }
  else a

def observedAccount (a : AccountState) (quota : ParsedQuota) (now : Time) : AccountState :=
  reconcileMarker
    { a with
      quota :=
        { family := if quota.family = .unset then a.quota.family else quota.family
          fiveHour := if quota.fiveHour.isSome then quota.fiveHour else a.quota.fiveHour
          longWindow := if quota.longWindow.isSome then quota.longWindow else a.quota.longWindow }
      family := if quota.family = .unset then a.family else quota.family
      lastRefreshAt := now
      lastSuccessAt := now
      lastObservedAt := now
      stale := false } now

def observeAccountQuota (s : PluginState) (authID authIndex : String) (hit : Nat)
    (quota : ParsedQuota) (now : Time) : Option PluginState :=
  match s.findAccountLocked authID authIndex hit with
  | none => none
  | some (key, a) => some (s.setAccount key (observedAccount a quota now))

def storeAccount (s : PluginState) (a : AccountState) : Option PluginState :=
  if accountStateKey a = "" then none else some (s.setAccount (accountStateKey a) a)

def applyQuotaRefreshFailureIfAdmissionCurrent (s : PluginState) (a : AccountState)
    (version : Nat) (kind : RefreshFailureKind) (message : String) (now : Time) :
    Option PluginState :=
  if s.admissionCurrentLocked a.authID version then
    s.storeAccount (refreshFailure s.cfg
      { a with priority := s.admissionPriorityLocked a.authID } kind message now)
  else none

def refreshSuccess (cfg : Config) (a : AccountState) (now : Time) : AccountState :=
  let a := { a with
    refresh := if !a.lastSuccessAt.isZero && decide (a.lastError = "") then {} else a.refresh }
  applyCircuitSuccess (reconcileMarker a now) (normalizeConfig cfg) now

def applyQuotaRefreshSuccessIfAdmissionCurrent (s : PluginState) (a : AccountState)
    (version : Nat) (now : Time) : Option PluginState :=
  if s.admissionCurrentLocked a.authID version then
    s.storeAccount (refreshSuccess s.cfg
      { a with priority := s.admissionPriorityLocked a.authID } now)
  else none

/-- `legacyEffectJournal`: the accounts of one auth in an overlay. -/
def legacyEffectJournal (s : PluginState) (authID : String) : List AccountState :=
  (s.accounts.entries.map fun e => e.2).filter fun a => decide (a.authID = authID)

def applyLegacyEffectJournal (s : PluginState) (journal : List AccountState) : PluginState :=
  journal.foldl (fun s a =>
    if accountStateKey a = "" then s else s.setAccount (accountStateKey a) a) s

end PluginState

end QuotaScheduler.State

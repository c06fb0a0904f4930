/- Account records, quota windows and circuit breakers (models.go, state.go, config.go). -/

import QuotaScheduler.Models

namespace QuotaScheduler.Account

structure QuotaWindow where
  kind : WindowKind := .unset
  usedPercent : Option Float64 := none
  limitWindowSeconds : Option Int := none
  resetAt : Time := .zero
  exhausted : Bool := false
  deriving DecidableEq

/-- Code-review and additional windows are parsed and copied; nothing else reads them. -/
structure ParsedQuota where
  family : AccountFamily := .unset
  fiveHour : Option QuotaWindow := none
  longWindow : Option QuotaWindow := none
  deriving DecidableEq

inductive CircuitState
  | unset
  | closed
  | opened
  | halfOpen
  deriving DecidableEq

structure CircuitBreakerState where
  state : CircuitState := .unset
  effectiveState : CircuitState := .unset
  failureCount : Nat := 0
  successCount : Nat := 0
  openedAt : Time := .zero
  nextProbeAt : Time := .zero
  reason : String := ""
  lastFailureAt : Time := .zero
  lastSuccessAt : Time := .zero
  deriving DecidableEq

inductive RefreshFailureKind
  | none
  | transient
  | auth
  | localOnly
  deriving DecidableEq

structure AccountRefreshState where
  lastFailureKind : RefreshFailureKind := .none
  retryAttempt : Nat := 0
  nextRetryAt : Time := .zero
  authFailure : Bool := false
  lastFailureAt : Time := .zero
  deriving DecidableEq

/-- `AccountState`; `schedulerPriority` is the field of that name of its annotation. -/
structure AccountState where
  inst : AuthInstanceID := 0
  authID : String := ""
  authIndex : String := ""
  displayName : String := ""
  email : String := ""
  provider : String := ""
  priority : Int := 0
  chatGPTAccountID : String := ""
  family : AccountFamily := .unset
  quota : ParsedQuota := {}
  lastRefreshAt : Time := .zero
  lastSuccessAt : Time := .zero
  lastObservedAt : Time := .zero
  lastError : String := ""
  stale : Bool := false
  temporaryExhausted : Bool := false
  temporaryResetAt : Time := .zero
  circuit : CircuitBreakerState := {}
  refresh : AccountRefreshState := {}
  schedulerPriority : Int := 0
  deriving DecidableEq

structure QuotaFailureEvent where
  authID : String := ""
  authIndex : String := ""
  resetAt : Time := .zero
  reason : String := ""
  deriving DecidableEq

structure Config where
  handleEnabled : Bool
  quotaRefreshInterval : Duration
  staleAfter : Duration
  monthlyMode : MonthlyMode
  fallback : FallbackMode
  enableUsageFeedback : Bool
  refreshRetryDelays : List Duration
  authFailureRetryInterval : Duration
  circuitHalfOpenSuccessThreshold : Int
  scheduleAcrossPriorities : Bool
  enableResetProbe : Bool
  deriving DecidableEq

def defaultConfig : Config where
  handleEnabled := true
  quotaRefreshInterval := 30 * minute
  staleAfter := 5 * hour
  monthlyMode := .expiryOrder
  fallback := .fillFirst
  enableUsageFeedback := true
  refreshRetryDelays := [minute, 5 * minute, 15 * minute]
  authFailureRetryInterval := 30 * minute
  circuitHalfOpenSuccessThreshold := 2
  scheduleAcrossPriorities := true
  enableResetProbe := false

def normalizeRetryDelays (values fallback : List Duration) : List Duration :=
  let normalized := values.filter (0 < ·)
  if normalized.isEmpty then fallback else normalized

def normalizeConfig (cfg : Config) : Config :=
  { cfg with
    quotaRefreshInterval :=
      if cfg.quotaRefreshInterval ≤ 0 then defaultConfig.quotaRefreshInterval
      else cfg.quotaRefreshInterval
    staleAfter := if cfg.staleAfter ≤ 0 then defaultConfig.staleAfter else cfg.staleAfter
    fallback := if cfg.fallback = .empty then defaultConfig.fallback else cfg.fallback
    refreshRetryDelays :=
      normalizeRetryDelays cfg.refreshRetryDelays defaultConfig.refreshRetryDelays
    authFailureRetryInterval :=
      if cfg.authFailureRetryInterval ≤ 0 then defaultConfig.authFailureRetryInterval
      else cfg.authFailureRetryInterval
    circuitHalfOpenSuccessThreshold :=
      if cfg.circuitHalfOpenSuccessThreshold ≤ 0 then
        defaultConfig.circuitHalfOpenSuccessThreshold
      else cfg.circuitHalfOpenSuccessThreshold }

def retryDelayForAttempt (cfg : Config) (attempt : Nat) : Duration :=
  let delays := (normalizeConfig cfg).refreshRetryDelays
  delays.getD (min (attempt - 1) (delays.length - 1)) minute

def accountStateKey (a : AccountState) : String :=
  if a.authID ≠ "" then "auth:" ++ a.authID
  else if a.chatGPTAccountID ≠ "" then "chatgpt:" ++ a.chatGPTAccountID
  else if a.inst ≠ 0 then "instance:" ++ toString a.inst.toNat
  else if a.email ≠ "" then "email:" ++ a.email
  else if a.authIndex ≠ "" then "index:" ++ a.authIndex
  else ""

def resolveAnnotationKey (a : AccountState) : String :=
  if a.chatGPTAccountID = "" ∧ a.inst ≠ 0 then "instance:" ++ toString a.inst.toNat
  else if a.authID ≠ "" then "auth:" ++ a.authID
  else if a.chatGPTAccountID ≠ "" then "chatgpt:" ++ a.chatGPTAccountID
  else if a.email ≠ "" then "email:" ++ a.email
  else if a.authIndex ≠ "" then "index:" ++ a.authIndex
  else ""

def effectiveCircuitState (circuit : CircuitBreakerState) (now : Time) : CircuitBreakerState :=
  let state := if circuit.state = .unset then .closed else circuit.state
  let effective :=
    if state = .opened && !circuit.nextProbeAt.isZero && !circuit.nextProbeAt.after now then
      .halfOpen
    else state
  { circuit with state := state, effectiveState := effective }

def markTemporaryExhausted (a : AccountState) (resetAt : Time) (reason : String) : AccountState :=
  { a with
    temporaryExhausted := true
    temporaryResetAt := resetAt
    lastError := reason
    circuit := { state := .closed, effectiveState := .closed } }

def applyCircuitSuccess (a : AccountState) (cfg : Config) (now : Time) : AccountState :=
  let circuit := effectiveCircuitState a.circuit now
  if circuit.effectiveState = .halfOpen then
    let threshold :=
      if cfg.circuitHalfOpenSuccessThreshold ≤ 0 then 1
      else cfg.circuitHalfOpenSuccessThreshold
    if threshold ≤ circuit.successCount + 1 then
      { a with circuit := { state := .closed, effectiveState := .closed }, lastError := "" }
    else
      { a with
        circuit := { circuit with
          state := .halfOpen
          effectiveState := .halfOpen
          successCount := circuit.successCount + 1
          lastSuccessAt := now
          nextProbeAt := Time.zero }
        lastError := "" }
  else if circuit.effectiveState = .opened then
    { a with circuit := { circuit with lastSuccessAt := now } }
  else
    { a with
      circuit := { state := .closed, effectiveState := .closed, lastSuccessAt := now }
      lastError := "" }

def windowExhausted (window : Option QuotaWindow) (now : Time) : Bool :=
  match window with
  | none => false
  | some w => w.exhausted && (w.resetAt.isZero || w.resetAt.after now)

def windowShowsRemainingCapacity (window : Option QuotaWindow) (now : Time) : Bool :=
  match window with
  | none => false
  | some w =>
    if w.exhausted && (w.resetAt.isZero || w.resetAt.after now) then false
    else
      match w.usedPercent with
      | some used => Float64.lt 0 (used.map (100 - ·))
      | none => true

def quotaRefreshConfirmsReset (a : AccountState) (now : Time) : Bool :=
  if a.lastSuccessAt.isZero then false
  else if a.quota.longWindow.isSome && !windowShowsRemainingCapacity a.quota.longWindow now then
    false
  else
    match a.quota.fiveHour, a.quota.longWindow with
    | some five, _ =>
      windowShowsRemainingCapacity (some five) now && decide (five.resetAt ≠ a.temporaryResetAt)
    | none, some long => !long.resetAt.isZero && long.resetAt.after a.temporaryResetAt
    | none, none => false

def quotaSnapshotShowsRecovery (quota : ParsedQuota) (now : Time) : Bool :=
  let known := [quota.fiveHour, quota.longWindow].filter (·.isSome)
  !known.isEmpty && known.all (windowShowsRemainingCapacity · now)

/-- What `RecordRefreshFailure` and its conditional variant both write. -/
def refreshFailure (cfg : Config) (a : AccountState) (kind : RefreshFailureKind)
    (message : String) (now : Time) : AccountState :=
  let terminal := decide (kind = .auth ∨ kind = .localOnly)
  let attempt := if terminal then a.refresh.retryAttempt else a.refresh.retryAttempt + 1
  let nextRetryAt :=
    if terminal then
      if kind = .auth then now + (normalizeConfig cfg).authFailureRetryInterval else Time.zero
    else now + retryDelayForAttempt cfg attempt
  { a with
    lastError := message
    refresh := { a.refresh with
      lastFailureKind := kind
      lastFailureAt := now
      authFailure := decide (kind = .auth)
      retryAttempt := attempt
      nextRetryAt := nextRetryAt } }

end QuotaScheduler.Account

/- The scheduler snapshot computed from the state (scheduler_snapshot.go). -/

import QuotaScheduler.Selection
import QuotaScheduler.State

namespace QuotaScheduler.Published

open Trial Selection Account State

def windowResetAt (window : Option QuotaWindow) : Time :=
  match window with
  | some w => w.resetAt
  | none => Time.zero

def accountExhaustion (a : AccountState) (now : Time) : Bool × Time :=
  if windowExhausted a.quota.longWindow now then (true, windowResetAt a.quota.longWindow)
  else if windowExhausted a.quota.fiveHour now then (true, windowResetAt a.quota.fiveHour)
  else (false, Time.zero)

def accountSortTime (a : AccountState) : Time := windowResetAt a.quota.longWindow

def remainingQuota (a : AccountState) : Float64 :=
  match a.quota.longWindow.bind (·.usedPercent), a.quota.fiveHour.bind (·.usedPercent) with
  | some used, _ => used.map (100 - ·)
  | none, some used => used.map (100 - ·)
  | none, none => 0

def minimumQuotaPressureWindow : Duration := 30 * minute

/-- `quotaPressure`: the share of the long window to use per hour until its reset. -/
def quotaPressure (a : AccountState) (now : Time) : Float64 :=
  match a.quota.longWindow with
  | none => 0
  | some w =>
    match w.usedPercent with
    | none => 0
    | some used =>
      if w.resetAt.isZero then 0
      else if w.resetAt - now ≤ 0 then 0
      else
        let untilReset : Duration := max (w.resetAt - now) minimumQuotaPressureWindow
        let remaining := used.map (100 - ·)
        let remaining :=
          if remaining.lt 0 then 0 else if Float64.lt 100 remaining then 100 else remaining
        remaining.map (· / ((untilReset : Rat) / (hour : Rat)))

def cacheClass (a : AccountState) (cfg : Config) (now : Time) : CacheClass :=
  if a.lastSuccessAt.isZero then .unknown
  else if a.stale then .stale
  else if cfg.quotaRefreshInterval < now - a.lastSuccessAt then .aging
  else .fresh

def circuitClass (circuit : CircuitBreakerState) (now : Time) : CircuitClass :=
  match (effectiveCircuitState circuit now).effectiveState with
  | .opened => .opened
  | .halfOpen => .halfOpen
  | .closed => .closed
  | .unset => .closed

def accountViewFromState (a : AccountState) (cfg : Config) (now : Time)
    (trials : TrialRegistry) : AccountView where
  id := a.authID
  authIndex := a.authIndex
  inst := a.inst
  pluginPriority := a.schedulerPriority
  cpaPriority := a.priority
  family := a.family
  cache := cacheClass a cfg now
  lastKnownAvailable := decide (a.lastError = "")
  exhausted := (accountExhaustion a now).1
  resetAt := (accountExhaustion a now).2
  authBlocked := a.refresh.authFailure
  circuit := circuitClass a.circuit now
  temporaryUnavailable := a.temporaryExhausted && a.temporaryResetAt.after now
  trial := trials.state a.inst now
  expiry := accountSortTime a
  remainingQuota := remainingQuota a
  quotaPressure := quotaPressure a now

def schedulerSnapshotFromState (s : StateSnapshot) (trials : TrialRegistry) :
    SchedulerSnapshot where
  handleEnabled := s.config.handleEnabled
  fallback := s.config.fallback
  monthlyMode := s.config.monthlyMode
  accounts := s.accounts.map fun a => accountViewFromState a s.config s.now trials
  activeHighestTier := s.cpaAdmission.authIDs
  trials := true
  admissionVersion := 0

def publishSchedulerState (state : PluginState) (active : Option (Finset String)) (now : Time)
    (trials : TrialRegistry) : SchedulerSnapshot :=
  let s := state.snapshot now
  let s :=
    match active with
    | some ids => { s with cpaAdmission := { observed := true, authIDs := ids } }
    | none => s
  { schedulerSnapshotFromState s trials with admissionVersion := state.cpaAdmissionVersion }

end QuotaScheduler.Published

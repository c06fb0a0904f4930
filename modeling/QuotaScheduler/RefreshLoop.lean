/- The timer loop of the refresher (refresh.go, refresh_controller.go, state.go). -/

import QuotaScheduler.ManagedRecovery
import QuotaScheduler.ProbeStore
import QuotaScheduler.RefreshRequests

namespace QuotaScheduler.RefreshLoop

open Account ManagedLifecycle ManagedRecovery
open ManagedRuns (plainEnv)
open ProbeState ProbeStore List Option
open RefreshRequests (Refresher DueRefresh)

/-- `if next.IsZero() || t.Before(next) { next = t }`. -/
def earlier (next t : Time) : Time := if next.isZero || t.before next then t else next

def merge (deadline source : Time) : Time :=
  if source.isZero then deadline else earlier deadline source

def Late (now t : Time) : Prop := t = Time.zero ∨ now < t

attribute [local simp] Time.isZero Time.before Time.after Late

variable {next : Time} {windows : List ProbeWindow}

theorem late_earlier {now t : Time} (ht : t ≠ .zero) :
    Late now (earlier next t) ↔ Late now next ∧ Late now t := by
  unfold earlier Late
  by_cases hnext : next = .zero
  · simp [hnext]
  · by_cases hbefore : t < next
    · simp only [Time.isZero, hnext, Time.before, hbefore, decide_false, decide_true, Bool.false_or,
        if_true, ht, false_or]
      exact ⟨fun h => ⟨h.trans hbefore, h⟩, fun h => h.2⟩
    · simp only [Time.isZero, hnext, Time.before, hbefore, decide_false, Bool.false_or,
        Bool.false_eq_true, if_false, ht, false_or]
      exact ⟨fun h => ⟨h, h.trans_le (not_lt.mp hbefore)⟩, fun h => h.1⟩

theorem late_merge {now deadline source : Time} :
    Late now (merge deadline source) ↔ Late now deadline ∧ Late now source := by
  unfold merge
  by_cases hzero : source = .zero
  · simp [hzero]
  · rw [if_neg (by simpa using hzero), late_earlier hzero]

theorem late_foldl_earlier {now : Time} {ts : List Time} (hts : ∀ t ∈ ts, t ≠ .zero) :
    Late now (ts.foldl earlier next) ↔ Late now next ∧ ∀ t ∈ ts, Late now t := by
  induction ts generalizing next with
  | nil => simp
  | cons t ts ih =>
    obtain ⟨ht, hrest⟩ := forall_mem_cons.mp hts
    rw [foldl_cons, ih hrest, late_earlier ht, forall_mem_cons, and_assoc]

inductive RefreshMode
  | dormant
  | active
  deriving DecidableEq

/-- `RefreshController`; `NewRefreshController` makes both durations positive. -/
structure RefreshController where
  interval : Duration
  activeWindow : Duration
  mode : RefreshMode := .dormant
  lastActivity : Time := .zero
  nextInterval : Time := .zero
  interval_pos : 0 < interval
  activeWindow_pos : 0 < activeWindow

def nextAfter (interval : Duration) (hpos : 0 < interval) (now next : Time) : Time :=
  if now < next then next else nextAfter interval hpos now (next + interval)
termination_by (now + 1 - next).toNat
decreasing_by
  simp only [Time, Duration] at *
  omega

theorem lt_nextAfter (interval : Duration) (hpos : 0 < interval) (now next : Time) :
    now < nextAfter interval hpos now next := by
  fun_induction nextAfter interval hpos now next with
  | case1 next h => exact h
  | case2 next h ih => exact ih

/-- `OnDeadline`; the loop drops the intents it returns. -/
def RefreshController.onDeadline (c : RefreshController) (now : Time) : RefreshController :=
  if decide (c.mode ≠ .active) || c.lastActivity.isZero ||
      !now.before (c.lastActivity + c.activeWindow) then
    { c with mode := .dormant, nextInterval := Time.zero }
  else if c.nextInterval.isZero || now.before c.nextInterval then c
  else { c with nextInterval := nextAfter c.interval c.interval_pos now c.nextInterval }

def RefreshController.nextDeadline (c : RefreshController) (now : Time) :
    Time × RefreshController :=
  if decide (c.mode ≠ .active) || c.lastActivity.isZero then (Time.zero, c)
  else
    let activeDeadline := c.lastActivity + c.activeWindow
    if !now.before activeDeadline then
      (Time.zero, { c with mode := .dormant, nextInterval := Time.zero })
    else if c.nextInterval.isZero || activeDeadline.before c.nextInterval then (activeDeadline, c)
    else (c.nextInterval, c)

open RefreshController

theorem late_nextDeadline_onDeadline (c : RefreshController) (now : Time) :
    Late now ((c.onDeadline now).nextDeadline now).1 := by
  have hzero : ∀ c : RefreshController, c.mode = .dormant → Late now (c.nextDeadline now).1 := by
    intro c hc
    rw [nextDeadline, if_pos (by simp [hc])]
    exact .inl rfl
  have hactive : ∀ c : RefreshController, (c.nextInterval = .zero ∨ now < c.nextInterval) →
      Late now (c.nextDeadline now).1 := by
    intro c hc
    unfold nextDeadline
    dsimp only
    split
    · exact .inl rfl
    split
    · exact .inl rfl
    next hbefore =>
      split
      · exact .inr (by simpa using hbefore)
      · exact hc
  unfold onDeadline
  split
  · exact hzero _ rfl
  split
  next hnext =>
    refine hactive c ?_
    simpa using hnext
  · exact hactive _ (.inr (lt_nextAfter _ _ _ _))

inductive ResetProbeStatus
  | none
  | pending
  | confirmedActive
  | verified
  | failed
  deriving DecidableEq

structure ResetProbeState where
  status : ResetProbeStatus := .none
  nextCheckAt : Time := .zero
  deriving DecidableEq

structure RefreshAccount where
  account : AccountState
  resetProbes : List ResetProbeState := []

structure RefreshSettings where
  refreshActiveWindow : Duration := hour
  refreshAfterResetDelay : Duration := minute
  enableResetProbe : Bool := false

def RefreshSettings.normalize (cfg : RefreshSettings) : RefreshSettings :=
  { cfg with
    refreshActiveWindow := if cfg.refreshActiveWindow ≤ 0 then hour else cfg.refreshActiveWindow
    refreshAfterResetDelay :=
      if cfg.refreshAfterResetDelay ≤ 0 then minute else cfg.refreshAfterResetDelay }

def refreshTriggerPending (lastSuccessAt triggerAt : Time) : Bool :=
  !triggerAt.isZero && (lastSuccessAt.isZero || lastSuccessAt.before triggerAt)

def resetTrigger (delay : Duration) (lastSuccessAt resetAt : Time) : List Time :=
  if !resetAt.isZero && refreshTriggerPending lastSuccessAt (resetAt + delay) then
    [resetAt + delay]
  else []

def considered (cfg : RefreshSettings) (a : RefreshAccount) : List Time :=
  if a.account.refresh.lastFailureKind = .localOnly then []
  else if !a.account.circuit.nextProbeAt.isZero then [a.account.circuit.nextProbeAt]
  else if !a.account.refresh.nextRetryAt.isZero then [a.account.refresh.nextRetryAt]
  else if a.account.lastSuccessAt.isZero then []
  else
    (if cfg.enableResetProbe then
      (a.resetProbes.filter fun p => decide (p.status = .pending) && !p.nextCheckAt.isZero).map
        (·.nextCheckAt)
      else []) ++
    (match a.account.quota.fiveHour with
      | some w => resetTrigger cfg.refreshAfterResetDelay a.account.lastSuccessAt w.resetAt
      | none => []) ++
    (match a.account.quota.longWindow with
      | some w => resetTrigger cfg.refreshAfterResetDelay a.account.lastSuccessAt w.resetAt
      | none => []) ++
    (if a.account.temporaryExhausted then
      resetTrigger cfg.refreshAfterResetDelay a.account.lastSuccessAt a.account.temporaryResetAt
      else [])

/-- The clamp of `consider`: a time that has passed counts as now. -/
def clamp (now t : Time) : Time := if t.after now then t else now

def consider (now next t : Time) : Time := if t.isZero then next else earlier next (clamp now t)

/-- `NextRefreshDueAt`, but for its replacement of a zero time, which no clock reads. -/
def nextRefreshDueAt (settings : RefreshSettings) (accounts : List RefreshAccount)
    (lastCodexActivityAt now : Time) : Time :=
  let cfg := settings.normalize
  if lastCodexActivityAt.isZero ||
      !now.before (lastCodexActivityAt + cfg.refreshActiveWindow) then Time.zero
  else (accounts.flatMap (considered cfg)).foldl (consider now) Time.zero

/-- `ProbeController.NextDeadline` over the windows of all instances. -/
def probeNextDeadline (windows : List ProbeWindow) : Time :=
  ((windows.filter fun w => w.waits && !w.deadline.isZero).map (·.deadline)).foldl earlier Time.zero

def recoveryDeadline (attempts : List ProbeAttempt) : Option Time :=
  let times := (attempts.filter fun a => decide (a.phase ∈ sentPhases)).map (·.verifyNotBefore)
  if times.isEmpty then none
  else if times.any Time.isZero then some Time.zero
  else some (times.foldl earlier Time.zero)

/-- The fields the loop reads. `probeWAL` is `none` also if unreadable; managed settings are
normalised. -/
structure QuotaRefresher extends Refresher where
  env : Env
  interval_pos : 0 < env.quotaRefreshInterval
  settings : RefreshSettings
  refreshController : RefreshController
  accounts : List RefreshAccount := []
  lastCodexActivityAt : Time := .zero
  runtimeStore : Option RuntimeStore := none
  probeController : Option (List ProbeWindow) := none
  probeWAL : Option (List ProbeAttempt) := none
  probeLaunchActive : Bool := false
  probeRerunPending : Bool := false
  probeRecoveryPending : Bool := false
  probeOwnerRetryPending : Bool := false
  probeRetryAt : Time := .zero

namespace QuotaRefresher

variable (r : QuotaRefresher)

def recoverManaged (host : Option HostAnswers) (now : Time) : QuotaRefresher :=
  { r with runtimeStore := r.runtimeStore.map (recoverManagedQuotaAccounts r.env now host) }

def onDeadline (now : Time) : QuotaRefresher :=
  { r with refreshController := r.refreshController.onDeadline now }

def refreshDueSoon (allowed : Bool) (refresh : DueRefresh) : QuotaRefresher :=
  { r with toRefresher := r.toRefresher.refreshDueSoon allowed refresh }

/-- `launchProbeWithAdmission` up to the start of its goroutine. -/
def launchProbeWithAdmission (recoverFirst timerAdmission : Bool) (now : Time) : QuotaRefresher :=
  if !r.settings.enableResetProbe || r.stopping then r
  else if r.probeLaunchActive then
    { r with
      probeRerunPending := true
      probeRecoveryPending := r.probeRecoveryPending || recoverFirst }
  else
    let retryDue := !r.probeRetryAt.isZero && !now.before r.probeRetryAt
    if !r.probeRetryAt.isZero && (!timerAdmission || !retryDue) then
      { r with probeRecoveryPending := r.probeRecoveryPending || recoverFirst }
    else
      { r with
        probeOwnerRetryPending := r.probeOwnerRetryPending && !(timerAdmission && retryDue)
        probeRecoveryPending := false
        probeLaunchActive := true }

def timerBranch (host : Option HostAnswers) (allowed : Bool) (refresh : DueRefresh) (now : Time) :
    QuotaRefresher :=
  let r := ((r.recoverManaged host now).onDeadline now).refreshDueSoon allowed refresh
  if r.probeController.isSome then r.launchProbeWithAdmission false true now else r

/-- The probe part of `nextRefreshLoopDelay`; an attempt that is due does not count. -/
def probeDeadline (windows : List ProbeWindow) (now : Time) : Time :=
  if r.probeLaunchActive then Time.zero
  else if !r.probeRetryAt.isZero then r.probeRetryAt
  else
    match r.probeWAL.bind recoveryDeadline with
    | none => probeNextDeadline windows
    | some due =>
      if due.after now then earlier (probeNextDeadline windows) due else probeNextDeadline windows

def managedRecoveryDeadline (now : Time) : Time :=
  match r.runtimeStore with
  | none => Time.zero
  | some store =>
    if r.env.enableManagedQuotaDisable && store.readable then
      ((store.ledger.entries.filter fun e => e.2.disableApplied).map fun e =>
        if e.2.nextQuotaCheckAt.isZero || e.2.nextQuotaCheckAt.before now then now
        else e.2.nextQuotaCheckAt).foldl earlier Time.zero
    else Time.zero

def loopDeadline (now : Time) : Time :=
  let deadline := (r.refreshController.nextDeadline now).1
  let deadline :=
    match r.probeController with
    | some windows =>
      if r.settings.enableResetProbe then merge deadline (r.probeDeadline windows now) else deadline
    | none => deadline
  let deadline :=
    merge deadline (nextRefreshDueAt r.settings r.accounts r.lastCodexActivityAt now)
  merge deadline (r.managedRecoveryDeadline now)

def nextRefreshLoopDelay (now : Time) : Option Duration :=
  let deadline := r.loopDeadline now
  if deadline.isZero then none else some (max 0 (deadline - now))

end QuotaRefresher

structure ClockReading where
  now : Time
  after_zero : .zero < now

variable {r : QuotaRefresher} {now : Time}

open QuotaRefresher

theorem positive_delay_iff :
    (∀ delay, r.nextRefreshLoopDelay now = some delay → 0 < delay) ↔
      Late now (r.loopDeadline now) := by
  unfold nextRefreshLoopDelay
  by_cases hzero : r.loopDeadline now = .zero
  · simp [hzero]
  · simp only [Time.isZero, hzero, decide_false, Bool.false_eq_true, if_false, some.injEq,
      forall_eq', Late, false_or, lt_max_iff, lt_self_iff_false]
    exact Int.sub_pos

theorem late_foldl_consider {ts : List Time} (hnow : .zero < now) :
    Late now (ts.foldl (consider now) next) ↔ Late now next ∧ ∀ t ∈ ts, t ≠ .zero → now < t := by
  induction ts generalizing next with
  | nil => simp
  | cons t ts ih =>
    rw [foldl_cons, ih, forall_mem_cons, ← and_assoc]
    refine and_congr_left fun _ => ?_
    unfold consider
    by_cases hzero : t = .zero
    · simp [hzero]
    · have hclamp : clamp now t ≠ .zero := by
        unfold clamp
        split
        · exact hzero
        · exact hnow.ne'
      rw [if_neg (by simpa using hzero), late_earlier hclamp]
      unfold clamp
      by_cases hafter : now < t
      · simp [hafter]
      · simp [hafter, hzero, hnow.ne']

def AccountsWait (r : QuotaRefresher) (now : Time) : Prop :=
  r.lastCodexActivityAt ≠ Time.zero →
    now < r.lastCodexActivityAt + r.settings.normalize.refreshActiveWindow →
    ∀ a ∈ r.accounts, ∀ t ∈ considered r.settings.normalize a, t ≠ Time.zero → now < t

theorem late_nextRefreshDueAt_iff (hnow : .zero < now) :
    Late now (nextRefreshDueAt r.settings r.accounts r.lastCodexActivityAt now) ↔
      AccountsWait r now := by
  unfold nextRefreshDueAt AccountsWait
  by_cases hactivity : r.lastCodexActivityAt = .zero
  · simp [hactivity]
  · by_cases hwindow : now < r.lastCodexActivityAt + r.settings.normalize.refreshActiveWindow
    · rw [if_neg (by simp [hactivity, hwindow]), late_foldl_consider hnow]
      simp only [mem_flatMap, Late, true_or, true_and, ne_eq, hactivity, not_false_eq_true,
        hwindow, forall_const]
      constructor
      · intro h a ha t ht
        exact h t ⟨a, ha, ht⟩
      · rintro h t ⟨a, ha, ht⟩
        exact h a ha t ht
    · rw [if_pos (by simp [hwindow])]
      simp [hwindow]

theorem late_managedRecoveryDeadline_iff (hnow : .zero < now) {store : RuntimeStore}
    (hstore : r.runtimeStore = some store) (henabled : r.env.enableManagedQuotaDisable = true)
    (hreadable : store.readable = true) :
    Late now (r.managedRecoveryDeadline now) ↔ ∀ index, ¬ Overdue store.ledger now index := by
  unfold managedRecoveryDeadline
  simp only [hstore, henabled, hreadable, Bool.and_self, if_true]
  have hcandidate : ∀ record : ManagedDisableRecord,
      (if record.nextQuotaCheckAt.isZero || record.nextQuotaCheckAt.before now then now
        else record.nextQuotaCheckAt) ≠ .zero ∧
      (Late now (if record.nextQuotaCheckAt.isZero || record.nextQuotaCheckAt.before now then now
        else record.nextQuotaCheckAt) ↔ checkDue now record = false) := by
    intro record
    by_cases hzero : record.nextQuotaCheckAt = .zero
    · simp [hzero, checkDue, hnow.ne']
    · by_cases hafter : now < record.nextQuotaCheckAt
      · simp [hzero, checkDue, hafter, hafter.asymm]
      · by_cases hbefore : record.nextQuotaCheckAt < now
        · simp [checkDue, hafter, hbefore, hnow.ne']
        · simp [hzero, checkDue, hafter, hbefore]
  rw [late_foldl_earlier]
  · simp only [List.forall_mem_map, mem_filter]
    constructor
    · rintro ⟨-, h⟩ index ⟨record, hrecord, happlied, hdue⟩
      have hlate := h ⟨index, record⟩ ⟨AList.mem_lookup_iff.mp hrecord, happlied⟩
      rw [(hcandidate record).2, hdue] at hlate
      cases hlate
    · intro h
      refine ⟨.inl rfl, fun e he => ?_⟩
      rw [(hcandidate e.2).2, ← Bool.not_eq_true]
      exact fun hdue => h e.1 ⟨e.2, AList.mem_lookup_iff.mpr he.1, he.2, hdue⟩
  · intro t ht
    obtain ⟨e, -, rfl⟩ := List.mem_map.mp ht
    exact (hcandidate e.2).1

theorem late_probeNextDeadline_iff : Late now (probeNextDeadline windows) ↔
      ∀ w ∈ windows, w.waits = true → w.deadline ≠ .zero → now < w.deadline := by
  unfold probeNextDeadline
  rw [late_foldl_earlier]
  · simp only [List.forall_mem_map, mem_filter, Bool.and_eq_true, Bool.not_eq_true',
      Time.isZero, decide_eq_false_iff_not, Late, true_or, true_and]
    constructor
    · intro h w hw hwaits hdeadline
      exact (h w ⟨hw, hwaits, hdeadline⟩).resolve_left hdeadline
    · rintro h w ⟨hw, hwaits, hdeadline⟩
      exact .inr (h w hw hwaits hdeadline)
  · intro t ht
    obtain ⟨w, hw, rfl⟩ := List.mem_map.mp ht
    have hwaits := (mem_filter.mp hw).2
    simp only [Bool.and_eq_true, Bool.not_eq_true', Time.isZero, decide_eq_false_iff_not] at hwaits
    exact hwaits.2

def ProbesWait (r : QuotaRefresher) (windows : List ProbeWindow) (now : Time) : Prop :=
  (r.probeRetryAt ≠ Time.zero → now < r.probeRetryAt) ∧ (r.probeRetryAt = Time.zero →
      ∀ w ∈ windows, w.waits = true → w.deadline ≠ Time.zero → now < w.deadline)

theorem late_probeDeadline_iff (hnow : .zero < now) : Late now (r.probeDeadline windows now) ↔
      (r.probeLaunchActive = false → ProbesWait r windows now) := by
  unfold probeDeadline ProbesWait
  cases hactive : r.probeLaunchActive with
  | true => simp
  | false =>
    by_cases hretry : r.probeRetryAt = .zero
    · rw [← late_probeNextDeadline_iff]
      simp only [hretry, Time.isZero, Bool.false_eq_true, if_false, decide_true, Bool.not_true,
        ne_eq, not_true_eq_false, false_implies, true_and, forall_const]
      split
      · rfl
      next due _ =>
        by_cases hafter : now < due
        · rw [if_pos (by simpa using hafter), late_earlier (hnow.trans hafter).ne']
          exact and_iff_left (.inr hafter)
        · rw [if_neg (by simpa using hafter)]
    · simp [hretry]

theorem launched_or_retry (henabled : r.settings.enableResetProbe = true)
    (hstopping : r.stopping = false) (windows : List ProbeWindow) :
    (r.launchProbeWithAdmission false true now).probeLaunchActive = false →
      ProbesWait (r.launchProbeWithAdmission false true now) windows now := by
  unfold launchProbeWithAdmission ProbesWait
  simp only [henabled, hstopping, Bool.not_true, Bool.or_self, Bool.false_eq_true, if_false]
  cases hactive : r.probeLaunchActive with
  | true => simp
  | false =>
    by_cases hretry : r.probeRetryAt = .zero
    · simp [hretry]
    · by_cases hbefore : now < r.probeRetryAt <;> simp [hretry, hbefore]

theorem timerBranch_eq (r : QuotaRefresher) (host : Option HostAnswers) (allowed : Bool)
    (refresh : DueRefresh) (now : Time) :
    ∃ refreshing pendingDue, r.timerBranch host allowed refresh now =
      let v := { (r.recoverManaged host now).onDeadline now with
        refreshing := refreshing, pendingDue := pendingDue }
      if r.probeController.isSome then v.launchProbeWithAdmission false true now else v := by
  obtain ⟨refreshing, pendingDue, hsoon⟩ :=
    ((r.recoverManaged host now).onDeadline now).toRefresher.refreshDueSoon_eq allowed refresh
  refine ⟨refreshing, pendingDue, ?_⟩
  unfold timerBranch refreshDueSoon
  rw [hsoon]
  rfl

structure Branched (r : QuotaRefresher) (host : Option HostAnswers) (now : Time)
    (r' : QuotaRefresher) : Prop where
  env : r'.env = r.env
  settings : r'.settings = r.settings
  accounts : r'.accounts = r.accounts
  lastCodexActivityAt : r'.lastCodexActivityAt = r.lastCodexActivityAt
  probeController : r'.probeController = r.probeController
  probeRetryAt : r'.probeRetryAt = r.probeRetryAt
  refreshController : r'.refreshController = r.refreshController.onDeadline now
  runtimeStore : r'.runtimeStore = r.runtimeStore.map (recoverManagedQuotaAccounts r.env now host)

theorem timerBranch_branched (r : QuotaRefresher) (host : Option HostAnswers) (allowed : Bool)
    (refresh : DueRefresh) (now : Time) :
    Branched r host now (r.timerBranch host allowed refresh now) := by
  obtain ⟨refreshing, pendingDue, hbranch⟩ := timerBranch_eq r host allowed refresh now
  rw [hbranch]
  unfold launchProbeWithAdmission
  dsimp only
  split_ifs <;> exact ⟨rfl, rfl, rfl, rfl, rfl, rfl, rfl, rfl⟩

theorem late_probe_after_iff (hnow : .zero < now) (hwindows : r.probeController = some windows)
    (henabled : r.settings.enableResetProbe = true) (host : Option HostAnswers) (allowed : Bool)
    (refresh : DueRefresh) :
    Late now ((r.timerBranch host allowed refresh now).probeDeadline windows now) ↔
      (r.stopping = true → r.probeLaunchActive = false → ProbesWait r windows now) := by
  rw [late_probeDeadline_iff hnow]
  obtain ⟨refreshing, pendingDue, hbranch⟩ := timerBranch_eq r host allowed refresh now
  rw [hbranch, hwindows, isSome_some, if_pos rfl]
  cases hstopping : r.stopping with
  | false =>
    refine iff_of_true (launched_or_retry ?_ ?_ windows) ?_
    · exact henabled
    · exact hstopping
    · intro h
      cases h
  | true =>
    -- a stopping refresher launches nothing
    rw [launchProbeWithAdmission, if_pos (by simpa using .inr hstopping)]
    exact ⟨fun h _ => h, fun h => h rfl⟩

theorem readable_recoverManagedQuotaAccounts (env : Env) (now : Time) (host : Option HostAnswers)
    (store : RuntimeStore) :
    (recoverManagedQuotaAccounts env now host store).readable = store.readable := by
  unfold recoverManagedQuotaAccounts
  split
  · rfl
  · split <;> rfl

theorem late_managed_after_iff {r' : QuotaRefresher} {host : Option HostAnswers}
    (hnow : .zero < now) (h : Branched r host now r') :
    Late now (r'.managedRecoveryDeadline now) ↔
      (r.env.enableManagedQuotaDisable = true → ∀ store, r.runtimeStore = some store →
        store.readable = true → Recovers r.env host now store) := by
  cases hstore : r.runtimeStore with
  | none =>
    have hnone : r'.runtimeStore = none := by rw [h.runtimeStore, hstore]; rfl
    refine iff_of_true ?_ fun _ store hs => ?_
    · rw [managedRecoveryDeadline, hnone]
      exact .inl rfl
    · cases hs
  | some store =>
    have hsome : r'.runtimeStore = some (recoverManagedQuotaAccounts r.env now host store) := by
      rw [h.runtimeStore, hstore]
      rfl
    by_cases hon : r.env.enableManagedQuotaDisable = true ∧ store.readable = true
    · rw [late_managedRecoveryDeadline_iff hnow hsome (h.env ▸ hon.1)
          ((readable_recoverManagedQuotaAccounts _ _ _ _).trans hon.2),
        overdue_after_pass_iff r.interval_pos hnow hon.1 hon.2 host]
      constructor
      · intro hrecovers _ s hs _
        exact some.inj hs ▸ hrecovers
      · intro hall
        exact hall hon.1 store rfl hon.2
    · refine iff_of_true ?_ fun henabled s hs hreadable => ?_
      · have hoff : (r'.env.enableManagedQuotaDisable &&
            (recoverManagedQuotaAccounts r.env now host store).readable) = false := by
          rw [h.env, readable_recoverManagedQuotaAccounts, ← Bool.not_eq_true, Bool.and_eq_true]
          exact hon
        simp only [managedRecoveryDeadline, hsome, hoff, Bool.false_eq_true, if_false]
        exact .inl rfl
      · exact absurd ⟨henabled, some.inj hs ▸ hreadable⟩ hon

structure Rests (r : QuotaRefresher) (host : Option HostAnswers) (now : Time) : Prop where
  accounts : AccountsWait r now
  managed : r.env.enableManagedQuotaDisable = true → ∀ store, r.runtimeStore = some store →
    store.readable = true → Recovers r.env host now store
  probes : r.settings.enableResetProbe = true → r.stopping = true → r.probeLaunchActive = false →
    ∀ windows, r.probeController = some windows → ProbesWait r windows now

/-- The loop rests after the timer branch iff no account is due in the active window, every due
managed record is checked without a failed call, and a stopping refresher has no due probe. -/
theorem loop_rests_iff (r : QuotaRefresher) (clock : ClockReading) (host : Option HostAnswers)
    (allowed : Bool) (refresh : DueRefresh) :
    (∀ delay, (r.timerBranch host allowed refresh clock.now).nextRefreshLoopDelay clock.now =
      some delay → 0 < delay) ↔ Rests r host clock.now := by
  have hnow := clock.after_zero
  have hbranch := timerBranch_branched r host allowed refresh clock.now
  rw [positive_delay_iff]
  have hcontroller : Late clock.now (((r.timerBranch host allowed refresh
      clock.now).refreshController.nextDeadline clock.now).1) := by
    rw [hbranch.refreshController]
    exact late_nextDeadline_onDeadline _ _
  have haccounts : Late clock.now (nextRefreshDueAt
      (r.timerBranch host allowed refresh clock.now).settings
      (r.timerBranch host allowed refresh clock.now).accounts
      (r.timerBranch host allowed refresh clock.now).lastCodexActivityAt clock.now) ↔
      AccountsWait r clock.now := by
    rw [hbranch.settings, hbranch.accounts, hbranch.lastCodexActivityAt]
    exact late_nextRefreshDueAt_iff hnow
  unfold loopDeadline
  rw [late_merge, late_merge, haccounts, late_managed_after_iff hnow hbranch,
    hbranch.probeController, hbranch.settings]
  refine .trans (and_congr_left' (and_congr_left' ?_))
    ⟨fun h => ⟨h.1.2, h.2, h.1.1⟩, fun h => ⟨⟨h.probes, h.accounts⟩, h.managed⟩⟩
  cases hwindows : r.probeController with
  | none => exact iff_of_true hcontroller nofun
  | some windows =>
    dsimp only
    cases henabled : r.settings.enableResetProbe with
    | false => exact iff_of_true hcontroller nofun
    | true =>
      rw [if_pos rfl, late_merge, late_probe_after_iff hnow hwindows henabled]
      refine ⟨fun h _ hstop hactive ws hw => ?_,
        fun h => ⟨hcontroller, fun hstop hactive => h rfl hstop hactive windows rfl⟩⟩
      exact some.inj hw ▸ h.2 hstop hactive

def plainRefresher : QuotaRefresher where
  env := plainEnv
  interval_pos := by decide
  settings := {}
  refreshController := ⟨30 * minute, hour, .dormant, Time.zero, Time.zero, by decide, by decide⟩

def retryDue : QuotaRefresher :=
  { plainRefresher with
    accounts := [{ account := { authID := "a", refresh := { nextRetryAt := hour } } }]
    lastCodexActivityAt := hour
    refreshing := some (.all, 0) }

def recordDue : QuotaRefresher :=
  { plainRefresher with
    runtimeStore := some { ledger := AList.insert "a" { disableApplied := true } ∅ } }

def silentHost : HostAnswers := ⟨fun _ => none, fun _ => none, fun _ => none, fun _ => false⟩

/-- The delay is zero during a refresh, without background work, and after a failed managed read. -/
theorem refresh_loop_spins :
    (retryDue.timerBranch (some silentHost) true ⟨0, []⟩ (2 * minute + hour)).nextRefreshLoopDelay
        (2 * minute + hour) = some 0 ∧
      (retryDue.timerBranch (some silentHost) false ⟨0, []⟩
        (2 * minute + hour)).nextRefreshLoopDelay
        (2 * minute + hour) = some 0 ∧
      (recordDue.timerBranch (some silentHost) true ⟨0, []⟩ hour).nextRefreshLoopDelay hour
        = some 0 := by
  decide +kernel

end QuotaScheduler.RefreshLoop

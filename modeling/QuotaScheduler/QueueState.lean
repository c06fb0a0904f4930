/- The queue's verdict on an account and its class (scheduler.go, selection.go). -/

import QuotaScheduler.Published

namespace QuotaScheduler.QueueState

open Trial Selection Account State Published

inductive QueueStatus
  | available
  | unavailable
  | longWindowExhausted
  | fiveHourExhausted
  deriving DecidableEq

structure QueueVerdict where
  status : QueueStatus
  available : Bool
  reason : String
  sortTime : Time
  deriving DecidableEq

def unavailable (reason : String) : QueueVerdict := ⟨.unavailable, false, reason, Time.zero⟩

def temporaryExhaustedAt (a : AccountState) (now : Time) : Bool :=
  a.temporaryExhausted && (a.temporaryResetAt.isZero || a.temporaryResetAt.after now)

def quotaProbeWait (circuit : CircuitBreakerState) (now : Time) : Bool :=
  decide (circuit.effectiveState = .closed) && decide (0 < circuit.failureCount) &&
    !circuit.nextProbeAt.isZero && circuit.nextProbeAt.after now

def familyQueueState (missingWindow missingReset exhausted : String) (a : AccountState)
    (now : Time) : QueueVerdict :=
  match a.quota.longWindow with
  | none => unavailable missingWindow
  | some long =>
    if long.resetAt.isZero then unavailable missingReset
    else if windowExhausted (some long) now then
      ⟨.longWindowExhausted, false, exhausted, long.resetAt⟩
    else if temporaryExhaustedAt a now then
      ⟨.fiveHourExhausted, false, "temporary_exhausted", a.temporaryResetAt⟩
    else
      match a.quota.fiveHour with
      | none => ⟨.available, true, "", long.resetAt⟩
      | some five =>
        if five.resetAt.isZero then unavailable "missing_five_hour_reset"
        else if windowExhausted (some five) now then
          ⟨.fiveHourExhausted, false, "five_hour_exhausted", five.resetAt⟩
        else ⟨.available, true, "", long.resetAt⟩

def accountQueueState (a : AccountState) (now : Time) : QueueVerdict :=
  if a.refresh.authFailure then unavailable "auth_failure"
  else if a.refresh.lastFailureKind = .localOnly then unavailable "local_failure"
  else if a.stale then unavailable "stale_quota"
  else
    let circuit := effectiveCircuitState a.circuit now
    if circuit.effectiveState = .opened then
      ⟨.unavailable, false, "circuit_open", circuit.nextProbeAt⟩
    else if quotaProbeWait circuit now then
      ⟨.unavailable, false, "quota_probe_wait", circuit.nextProbeAt⟩
    else
      match a.family with
      | .weekly =>
        familyQueueState "missing_weekly_window" "missing_weekly_reset" "weekly_exhausted" a now
      | .monthly =>
        familyQueueState "missing_monthly_window" "missing_monthly_reset" "monthly_exhausted" a now
      | .unset | .unknown =>
        if temporaryExhaustedAt a now then
          ⟨.fiveHourExhausted, false, "temporary_exhausted", a.temporaryResetAt⟩
        else unavailable "unknown_family"

def windowBars (window : Option QuotaWindow) (now : Time) : Bool :=
  windowExhausted window now && (windowResetAt window).after now

/-- No long window of a known family, or one without a reset. -/
def lacksLongWindow (a : AccountState) : Bool :=
  decide (a.family ≠ .weekly ∧ a.family ≠ .monthly) || (windowResetAt a.quota.longWindow).isZero

def barredForBoth (a : AccountState) (now : Time) : Bool :=
  a.refresh.authFailure ||
    decide ((effectiveCircuitState a.circuit now).effectiveState = .opened) ||
    (a.temporaryExhausted && a.temporaryResetAt.after now) ||
    windowBars a.quota.longWindow now ||
    (!windowExhausted a.quota.longWindow now && windowBars a.quota.fiveHour now)

def barredForQueue (a : AccountState) (now : Time) : Bool :=
  decide (a.refresh.lastFailureKind = .localOnly) ||
    quotaProbeWait (effectiveCircuitState a.circuit now) now ||
    lacksLongWindow a ||
    (a.temporaryExhausted && a.temporaryResetAt.isZero) ||
    (a.quota.fiveHour.any fun five => five.resetAt.isZero)

theorem windowBars_of_reset {w : QuotaWindow} {now : Time} (hreset : w.resetAt.isZero = false) :
    windowBars (some w) now = windowExhausted (some w) now := by
  cases hexhausted : w.exhausted <;> cases hafter : w.resetAt.after now <;>
    simp [windowBars, windowExhausted, windowResetAt, hexhausted, hafter, hreset]

variable {a : AccountState} {now : Time}

theorem temporaryExhaustedAt_eq :
    temporaryExhaustedAt a now = (a.temporaryExhausted && a.temporaryResetAt.isZero ||
      a.temporaryExhausted && a.temporaryResetAt.after now) := by
  rw [temporaryExhaustedAt, Bool.and_or_distrib_left]

theorem available_familyQueueState (missingWindow missingReset exhausted : String) :
    (familyQueueState missingWindow missingReset exhausted a now).available =
      !((windowResetAt a.quota.longWindow).isZero ||
        (a.temporaryExhausted && a.temporaryResetAt.isZero) ||
        (a.quota.fiveHour.any fun five => five.resetAt.isZero) ||
        (a.temporaryExhausted && a.temporaryResetAt.after now) ||
        windowBars a.quota.longWindow now ||
        (!windowExhausted a.quota.longWindow now && windowBars a.quota.fiveHour now)) := by
  unfold familyQueueState
  cases hlong : a.quota.longWindow with
  | none => simp [unavailable, windowResetAt, Time.isZero]
  | some long =>
    dsimp only [windowResetAt]
    cases hreset : long.resetAt.isZero with
    | true => simp [unavailable]
    | false =>
      rw [windowBars_of_reset hreset, temporaryExhaustedAt_eq]
      -- a marker without a deadline, and one whose deadline is still to come
      generalize (a.temporaryExhausted && a.temporaryResetAt.isZero) = endless
      generalize (a.temporaryExhausted && a.temporaryResetAt.after now) = limited
      cases windowExhausted (some long) now with
      | true => simp
      | false =>
        cases a.quota.fiveHour with
        | none => cases endless <;> cases limited <;> simp [windowBars, windowExhausted]
        | some five =>
          dsimp only [Option.any_some]
          cases hfive : five.resetAt.isZero with
          | true => cases endless <;> cases limited <;> simp [unavailable]
          | false =>
            rw [windowBars_of_reset hfive]
            cases endless <;> cases limited <;> cases windowExhausted (some five) now <;> simp

theorem available_accountQueueState {a : AccountState} (hstale : a.stale = false) (now : Time) :
    (accountQueueState a now).available = (!barredForBoth a now && !barredForQueue a now) := by
  unfold accountQueueState barredForBoth barredForQueue lacksLongWindow
  dsimp only
  cases a.refresh.authFailure with
  | true => simp [unavailable]
  | false =>
    by_cases hlocal : a.refresh.lastFailureKind = .localOnly
    · simp [hlocal, unavailable]
    · by_cases hopen : (effectiveCircuitState a.circuit now).effectiveState = .opened
      · simp [hlocal, hstale, hopen]
      · cases quotaProbeWait (effectiveCircuitState a.circuit now) now with
        | true => simp [hlocal, hstale, hopen]
        | false =>
          simp only [hlocal, hstale, hopen, Bool.false_eq_true, if_false]
          cases a.family with
          | weekly | monthly => rw [available_familyQueueState]; grind
          | unset | unknown => cases temporaryExhaustedAt a now <;> simp [unavailable]

theorem circuitClass_opened (circuit : CircuitBreakerState) : circuitClass circuit now = .opened ↔
      (effectiveCircuitState circuit now).effectiveState = .opened := by
  unfold circuitClass
  cases (effectiveCircuitState circuit now).effectiveState <;> simp

theorem classifyAccount_accountViewFromState {a : AccountState} (cfg : Config) {now : Time}
    {trials : TrialRegistry} (hsuccess : a.lastSuccessAt.isZero = false) (hstale : a.stale = false)
    (htrial : trials.state a.inst now = .none) :
    classifyAccount (accountViewFromState a cfg now trials) now = .excluded ↔
      barredForBoth a now = true := by
  have hcache : cacheClass a cfg now = .fresh ∨ cacheClass a cfg now = .aging := by
    unfold cacheClass
    rw [hsuccess, hstale]
    simp only [Bool.false_eq_true, if_false]
    split
    · exact .inr rfl
    · exact .inl rfl
  have hbars : ((accountExhaustion a now).1 && (accountExhaustion a now).2.after now) =
      (windowBars a.quota.longWindow now ||
        (!windowExhausted a.quota.longWindow now && windowBars a.quota.fiveHour now)) := by
    unfold accountExhaustion windowBars
    cases windowExhausted a.quota.longWindow now <;>
      cases windowExhausted a.quota.fiveHour now <;> simp
  have hsplit : barredForBoth a now = (a.refresh.authFailure ||
      decide (circuitClass a.circuit now = .opened) ||
      (a.temporaryExhausted && a.temporaryResetAt.after now) ||
      ((accountExhaustion a now).1 && (accountExhaustion a now).2.after now)) := by
    rw [hbars, ← Bool.or_assoc]
    simp only [circuitClass_opened, barredForBoth]
  unfold classifyAccount accountViewFromState
  rcases hcache with hcache | hcache <;> grind

/-- Available in the queue iff it can be selected, and never taken without a long window. -/
structure QueueAgrees (a : AccountState) (cfg : Config) (now : Time) (trials : TrialRegistry) :
    Prop where
  available : (accountQueueState a now).available = true ↔
    classifyAccount (accountViewFromState a cfg now trials) now ≠ .excluded
  long : lacksLongWindow a = true →
    classifyAccount (accountViewFromState a cfg now trials) now = .excluded

/-- They agree exactly on accounts barred for a reason of both, or for none of the queue alone. -/
theorem queueAgrees_iff (a : AccountState) (cfg : Config) (now : Time) (trials : TrialRegistry)
    (hsuccess : a.lastSuccessAt.isZero = false) (hstale : a.stale = false)
    (htrial : trials.state a.inst now = .none) :
    QueueAgrees a cfg now trials ↔ barredForBoth a now = true ∨ barredForQueue a now = false := by
  have hqueue := available_accountQueueState hstale now
  have hclass := classifyAccount_accountViewFromState cfg hsuccess hstale htrial
  have hlong : lacksLongWindow a = true → barredForQueue a now = true := by
    intro h
    simp [barredForQueue, h]
  constructor
  · rintro ⟨hagree, -⟩
    by_contra hne
    obtain ⟨hboth, honly⟩ := not_or.mp hne
    have havailable := hagree.mpr (mt hclass.mp hboth)
    rw [hqueue, Bool.eq_true_of_not_eq_false honly] at havailable
    simp at havailable
  · rintro (hboth | honly)
    · have hexcluded := hclass.mpr hboth
      exact ⟨by simp [hqueue, hboth, hexcluded], fun _ => hexcluded⟩
    · refine ⟨?_, fun h => ?_⟩
      · rw [hqueue, honly, ne_eq, hclass]
        simp
      · rw [hlong h] at honly
        cases honly

private def refreshed (long : Option QuotaWindow) : AccountState where
  authID := "a"
  family := .weekly
  quota := { family := .weekly, longWindow := long }
  lastSuccessAt := hour

theorem queueAgrees_with_long_window :
    QueueAgrees (refreshed (some { usedPercent := some 40, resetAt := 10 * hour })) defaultConfig
      hour newTrialRegistry :=
  (queueAgrees_iff _ defaultConfig hour newTrialRegistry (by decide) (by decide) (by decide)).mpr
    (.inr (by decide))

private def onlyAccount : PluginState :=
  (newPluginState defaultConfig).setAccount "auth:a" (refreshed none)

/-- Without a long window it is unavailable in the queue, and preferred and selected in production.
-/
theorem selected_without_long_window :
    accountQueueState (refreshed none) hour = unavailable "missing_weekly_window" ∧
      classifyAccount (accountViewFromState (refreshed none) defaultConfig hour newTrialRegistry)
        hour = .preferred ∧
      (selectFrom (publishSchedulerState onlyAccount (some {"a"}) hour newTrialRegistry) hour
        (publishSchedulerState onlyAccount (some {"a"}) hour newTrialRegistry).accounts).authID =
        "a" := by
  decide +kernel

end QuotaScheduler.QueueState

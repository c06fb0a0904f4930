/- The evidence that re-enables an account and the queue's verdict (managed_lifecycle.go). -/

import QuotaScheduler.ManagedLifecycle
import QuotaScheduler.QueueState
import QuotaScheduler.QuotaReadings

namespace QuotaScheduler.ManagedEvidence

open Account ManagedLifecycle Published QueueState QuotaReadings Option

def full (window : QuotaWindow) : Bool := window.usedPercent.any fun used => Float64.le 100 used

/-- An account with the quota, refreshed at `now`, without failure, marker or open circuit. -/
structure Holds (a : AccountState) (parsed : ParsedQuota) (now : Time) : Prop where
  quota : a.quota = parsed
  family : a.family = parsed.family
  refreshed : a.lastRefreshAt = now ∧ a.lastSuccessAt = now ∧ a.stale = false
  refresh : a.refresh = {}
  marker : a.temporaryExhausted = false
  failures : a.circuit.failureCount = 0
  circuit : (effectiveCircuitState a.circuit now).effectiveState ≠ .opened

theorem family_foldl_fillWindow (windows : List QuotaWindow) {q : ParsedQuota}
    (h : q.longWindow.isSome = true → q.family = .weekly ∨ q.family = .monthly)
    (hlong : (windows.foldl fillWindow q).longWindow.isSome = true) :
    (windows.foldl fillWindow q).family = .weekly ∨
      (windows.foldl fillWindow q).family = .monthly := by
  induction windows generalizing q with
  | nil => exact h hlong
  | cons w windows ih =>
    refine ih (fun hfilled => ?_) hlong
    unfold fillWindow at hfilled ⊢
    split at hfilled
    · exact h hfilled
    · exact .inl rfl
    · exact .inr rfl
    · exact h hfilled

/-- A payload that fills a long window names its family. -/
theorem family_parseCodexUsagePayload {rateLimit : Option RateLimitObject} {now : Time}
    (h : (parseCodexUsagePayload rateLimit now).longWindow.isSome = true) :
    (parseCodexUsagePayload rateLimit now).family = .weekly ∨
      (parseCodexUsagePayload rateLimit now).family = .monthly := by
  cases rateLimit with
  | none => cases h
  | some o => exact family_foldl_fillWindow _ (fun h => by cases h) h

/-- Quota that re-enables an account makes it available, with no full window, iff its windows have
resets and the five-hour one is not full. -/
theorem available_of_usable_iff {rateLimit : Option RateLimitObject} {now : Time}
    {staleAfter : Duration} {a : AccountState}
    (husable : managedQuotaUsable (parseCodexUsagePayload rateLimit now) now now staleAfter = true)
    (h : Holds a (parseCodexUsagePayload rateLimit now) now) :
    ((accountQueueState a now).available = true ∧
      (∀ w ∈ a.quota.longWindow, full w = false) ∧ ∀ w ∈ a.quota.fiveHour, full w = false) ↔
    (∀ w ∈ a.quota.longWindow, w.resetAt.isZero = false) ∧
      ∀ w ∈ a.quota.fiveHour, w.resetAt.isZero = false ∧ full w = false := by
  have hfamily := @family_parseCodexUsagePayload rateLimit now
  rw [← h.family, ← h.quota] at hfamily
  rw [← h.quota] at husable
  rw [available_accountQueueState h.refreshed.2.2]
  unfold managedQuotaUsable at husable
  split at husable
  · cases husable
  next long hlong =>
    simp only [Bool.and_eq_true, Bool.not_eq_true'] at husable
    obtain ⟨⟨⟨-, hexhausted⟩, hfull⟩, hfive⟩ := husable
    have hknown := hfamily (by rw [hlong]; rfl)
    have hlacks : lacksLongWindow a = long.resetAt.isZero := by
      simp only [lacksLongWindow, hlong, windowResetAt]
      rcases hknown with hf | hf <;> simp [hf]
    have hboth : barredForBoth a now = false := by
      simp [barredForBoth, windowBars, h.refresh, h.circuit, h.marker, hlong, hexhausted, hfive]
    have hprobe : quotaProbeWait (effectiveCircuitState a.circuit now) now = false := by
      simp [quotaProbeWait, effectiveCircuitState, h.failures]
    have hqueue : barredForQueue a now = (long.resetAt.isZero ||
        a.quota.fiveHour.any fun five => five.resetAt.isZero) := by
      simp [barredForQueue, h.refresh, hprobe, hlacks, h.marker]
    rw [hboth, hqueue, hlong]
    cases a.quota.fiveHour with
    | none => simp [full, hfull]
    | some five => simp [full, hfull, and_assoc]

/-- The long window of the payload has no reset, and neither window is used up. -/
def withoutReset : RateLimitObject where
  primaryWindow := some { usedPercent := some 10, resetAfterSeconds := some 60 }
  secondaryWindow := some { usedPercent := some 10 }

def holder (now : Time) : AccountState where
  family := .weekly
  quota := parseCodexUsagePayload (some withoutReset) now
  lastRefreshAt := now
  lastSuccessAt := now

theorem usable_unavailable :
    managedQuotaUsable (parseCodexUsagePayload (some withoutReset) hour) hour hour hour = true ∧
      (accountQueueState (holder hour) hour).available = false := by decide +kernel

theorem usable_unavailable_of_reset : ¬ ((accountQueueState (holder hour) hour).available = true ∧
    (∀ w ∈ (holder hour).quota.longWindow, full w = false) ∧
      ∀ w ∈ (holder hour).quota.fiveHour, full w = false) := by
  rw [@available_of_usable_iff (some withoutReset) hour hour _ (by decide +kernel)
    ⟨rfl, rfl, by decide, rfl, rfl, rfl, by decide⟩]
  intro h
  exact absurd (h.1 _ rfl) (by decide +kernel)

end QuotaScheduler.ManagedEvidence

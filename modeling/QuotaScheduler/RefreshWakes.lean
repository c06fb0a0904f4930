/- The accounts a refresh finds due at the time the loop wakes up (state.go). -/

import QuotaScheduler.CircuitBreaker
import QuotaScheduler.RefreshLoop

namespace QuotaScheduler.RefreshWakes

open Lib.RankSort Account RefreshLoop List

def resetProbeDue (now : Time) (probe : ResetProbeState) : Bool :=
  decide (probe.status = .pending) && !probe.nextCheckAt.isZero && !probe.nextCheckAt.after now

def resetDueAt (delay : Duration) (lastSuccessAt now resetAt : Time) : Bool :=
  !resetAt.isZero && refreshTriggerPending lastSuccessAt (resetAt + delay) &&
    !(resetAt + delay).after now

def resetDue (window : Option QuotaWindow) (delay : Duration) (lastSuccessAt now : Time) : Bool :=
  match window with
  | none => false
  | some w => resetDueAt delay lastSuccessAt now w.resetAt

/-- `accountRefreshDue`, with the reason it gives; the two records are parts of one `Config`. -/
def accountRefreshDue (cfg : Config) (settings : RefreshSettings) (now : Time)
    (a : RefreshAccount) : Bool × String :=
  let cfg := normalizeConfig cfg
  let settings := settings.normalize
  let account := a.account
  let probeAt := account.circuit.nextProbeAt
  let retryAt := account.refresh.nextRetryAt
  if account.refresh.lastFailureKind = .localOnly then (false, "local_failure")
  else if !probeAt.isZero && probeAt.after now then (false, "circuit_wait")
  else if !probeAt.isZero && (decide (account.circuit.state = .opened) ||
      decide (account.circuit.effectiveState = .halfOpen) ||
      decide (0 < account.circuit.failureCount)) then (true, "circuit_probe_due")
  else if !retryAt.isZero && retryAt.after now then (false, "retry_wait")
  else if !retryAt.isZero && !retryAt.after now then (true, "retry_due")
  else if account.lastSuccessAt.isZero then (true, "never_refreshed")
  else if cfg.staleAfter < now - account.lastSuccessAt then (true, "stale")
  else if !(account.lastSuccessAt + cfg.quotaRefreshInterval).after now then
    (true, "refresh_interval_due")
  else if settings.enableResetProbe && a.resetProbes.any (resetProbeDue now) then
    (true, "reset_probe_check_due")
  else if resetDue account.quota.fiveHour settings.refreshAfterResetDelay account.lastSuccessAt
      now then (true, "five_hour_reset_due")
  else if resetDue account.quota.longWindow settings.refreshAfterResetDelay account.lastSuccessAt
      now then (true, "long_window_reset_due")
  else if account.temporaryExhausted && resetDueAt settings.refreshAfterResetDelay
      account.lastSuccessAt now account.temporaryResetAt then (true, "temporary_reset_due")
  else (false, "")

def dueAccounts (cfg : Config) (settings : RefreshSettings) (accounts : List RefreshAccount)
    (now : Time) : List (RefreshAccount × String) :=
  sortSlice (fun a b =>
      if a.1.account.priority ≠ b.1.account.priority then
        decide (b.1.account.priority < a.1.account.priority)
      else decide (accountStateKey a.1.account < accountStateKey b.1.account))
    ((accounts.filter fun a => (accountRefreshDue cfg settings now a).1).map fun a =>
      (a, (accountRefreshDue cfg settings now a).2))

/-- The circuits of the program. -/
inductive Arises : CircuitBreakerState → Prop
  | zero : Arises {}
  | exhausted (a : AccountState) (resetAt : Time) (reason : String) (h : Arises a.circuit) :
      Arises (markTemporaryExhausted a resetAt reason).circuit
  | failure (a : AccountState) (cfg : CircuitBreaker.FailureSettings) (reason : String)
      (resetAt now : Time) (h : Arises a.circuit) :
      Arises (CircuitBreaker.applyCircuitFailure a cfg reason resetAt now).circuit
  | success (a : AccountState) (cfg : Config) (now : Time) (h : Arises a.circuit) :
      Arises (applyCircuitSuccess a cfg now).circuit

theorem Arises.failureCount_pos {c : CircuitBreakerState} (h : Arises c)
    (hprobe : c.nextProbeAt ≠ .zero) : 0 < c.failureCount := by
  induction h with
  | zero => exact absurd rfl hprobe
  | exhausted a resetAt reason _ ih => exact absurd rfl hprobe
  | failure a cfg reason resetAt now _ ih =>
    simp only [CircuitBreaker.applyCircuitFailure]
    split_ifs <;> exact Nat.succ_pos _
  | success a cfg now _ ih =>
    simp only [applyCircuitSuccess] at hprobe ⊢
    -- only an open breaker keeps its probe time, and with it the failures
    split_ifs at hprobe ⊢ <;> first | exact absurd rfl hprobe | exact ih hprobe

variable {cfg : Config} {settings : RefreshSettings} {a : RefreshAccount} {t due : Time}

theorem resetDueAt_of_trigger {delay : Duration} {lastSuccessAt resetAt : Time}
    (h : due ∈ resetTrigger delay lastSuccessAt resetAt) (hle : due ≤ t) :
    resetDueAt delay lastSuccessAt t resetAt = true := by
  unfold resetTrigger at h
  split at h
  · rename_i hpending
    rw [mem_singleton] at h
    subst h
    simp only [resetDueAt, hpending, Bool.true_and, Time.after, Bool.not_eq_true',
      decide_eq_false_iff_not]
    exact Int.not_lt.mpr hle
  · cases h

theorem accountRefreshDue_of_considered (hcircuit : Arises a.account.circuit)
    (h : due ∈ considered settings.normalize a) (hle : due ≤ t) :
    (accountRefreshDue cfg settings t a).1 = true := by
  have hnot : ∀ {s : Time}, s = due → s.after t = false := by
    rintro s rfl
    exact decide_eq_false (Int.not_lt.mpr hle)
  unfold considered at h
  split at h
  · cases h
  rename_i hlocal
  split at h
  · rename_i hprobe
    have hafter := hnot (mem_singleton.mp h).symm
    have hpos := hcircuit.failureCount_pos (by simpa [Time.isZero] using hprobe)
    simp [accountRefreshDue, hlocal, hprobe, hafter, hpos]
  rename_i hprobe
  split at h
  · rename_i hretry
    have hafter := hnot (mem_singleton.mp h).symm
    simp [accountRefreshDue, hlocal, hprobe, hretry, hafter]
  rename_i hretry
  split at h
  · cases h
  rename_i hsuccess
  have hsome : (settings.normalize.enableResetProbe && a.resetProbes.any (resetProbeDue t)) = true ∨
      resetDue a.account.quota.fiveHour settings.normalize.refreshAfterResetDelay
        a.account.lastSuccessAt t = true ∨
      resetDue a.account.quota.longWindow settings.normalize.refreshAfterResetDelay
        a.account.lastSuccessAt t = true ∨
      (a.account.temporaryExhausted && resetDueAt settings.normalize.refreshAfterResetDelay
        a.account.lastSuccessAt t a.account.temporaryResetAt) = true := by
    simp only [mem_append, or_assoc] at h
    rcases h with hprobes | hfive | hlong | htemporary
    · left
      split at hprobes
      · rename_i henabled
        obtain ⟨p, hp, hdue⟩ := List.mem_map.mp hprobes
        obtain ⟨hmem, hpending⟩ := mem_filter.mp hp
        simp only [henabled, Bool.true_and]
        refine List.any_eq_true.mpr ⟨p, hmem, ?_⟩
        rw [resetProbeDue, hpending, hnot hdue]
        rfl
      · cases hprobes
    · right; left
      cases hwindow : a.account.quota.fiveHour with
      | none => simp [hwindow] at hfive
      | some w => exact resetDueAt_of_trigger (by simpa [hwindow] using hfive) hle
    · right; right; left
      cases hwindow : a.account.quota.longWindow with
      | none => simp [hwindow] at hlong
      | some w => exact resetDueAt_of_trigger (by simpa [hwindow] using hlong) hle
    · right; right; right
      split at htemporary
      · rename_i hexhausted
        simpa [hexhausted] using resetDueAt_of_trigger htemporary hle
      · cases htemporary
  simp only [Bool.not_eq_true, Bool.not_eq_false'] at hprobe hretry
  unfold accountRefreshDue
  simp only [hlocal, hprobe, hretry, hsuccess, if_false, Bool.not_true, Bool.false_and,
    Bool.false_eq_true]
  split_ifs <;> first | rfl | simp_all

theorem foldl_consider (now : Time) (ts : List Time) (next : Time) :
    ts.foldl (consider now) next = next ∨ ∃ t ∈ ts, ts.foldl (consider now) next = clamp now t := by
  induction ts generalizing next with
  | nil => exact .inl rfl
  | cons t ts ih =>
    rw [foldl_cons]
    rcases ih (consider now next t) with hsame | ⟨u, hu, hmin⟩
    · rw [hsame]
      unfold consider earlier
      split
      · exact .inl rfl
      split
      · exact .inr ⟨t, mem_cons_self, rfl⟩
      · exact .inl rfl
    · exact .inr ⟨u, mem_cons_of_mem t hu, hmin⟩

/-- From the time `NextRefreshDueAt` gives on, some account is due. -/
theorem wake_finds_work (cfg : Config) (settings : RefreshSettings)
    (accounts : List RefreshAccount) (lastCodexActivityAt now t : Time)
    (hcircuits : ∀ a ∈ accounts, Arises a.account.circuit)
    (hwake : nextRefreshDueAt settings accounts lastCodexActivityAt now ≠ Time.zero)
    (ht : nextRefreshDueAt settings accounts lastCodexActivityAt now ≤ t) :
    dueAccounts cfg settings accounts t ≠ [] := by
  unfold nextRefreshDueAt at hwake ht
  dsimp only at hwake ht
  split at hwake
  · exact absurd rfl hwake
  rename_i hactive
  rw [if_neg hactive] at ht
  rcases foldl_consider now (accounts.flatMap (considered settings.normalize)) .zero with
    hnone | ⟨due, hdue, hnext⟩
  · exact absurd hnone hwake
  obtain ⟨a, ha, hconsidered⟩ := mem_flatMap.mp hdue
  have hle : due ≤ t := by
    rw [hnext] at ht
    refine le_trans ?_ ht
    unfold clamp Time.after
    split
    · exact le_rfl
    · rename_i hpast
      exact Int.not_lt.mp (by simpa using hpast)
  have hmem : (a, (accountRefreshDue cfg settings t a).2) ∈
      dueAccounts cfg settings accounts t := by
    refine (perm_sortSlice _ _).mem_iff.mpr (List.mem_map.mpr ⟨a, mem_filter.mpr ⟨ha, ?_⟩, rfl⟩)
    exact accountRefreshDue_of_considered (hcircuits a ha) hconsidered hle
  exact ne_nil_of_mem hmem

def waiting : RefreshAccount where
  account := CircuitBreaker.applyCircuitFailure { authID := "a" } ⟨1, 30 * minute⟩ "" Time.zero hour

theorem wake_finds_open_breaker :
    dueAccounts defaultConfig {} [waiting] (hour + 30 * minute) ≠ [] := by
  refine wake_finds_work defaultConfig {} [waiting] hour hour _ ?_ (by decide +kernel)
    (by decide +kernel)
  rintro a ha
  cases mem_singleton.mp ha
  exact .failure _ _ _ _ _ .zero

end QuotaScheduler.RefreshWakes

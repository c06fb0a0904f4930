/- Failures and successes of a circuit breaker (state.go). -/

import QuotaScheduler.AccountUpdates

namespace QuotaScheduler.CircuitBreaker

open Account State StateUpdates
open PluginState

structure FailureSettings where
  circuitFailureThreshold : Int
  circuitOpenDuration : Duration

def FailureSettings.normalize (cfg : FailureSettings) : FailureSettings where
  circuitFailureThreshold :=
    if cfg.circuitFailureThreshold ≤ 0 then 5 else cfg.circuitFailureThreshold
  circuitOpenDuration :=
    if cfg.circuitOpenDuration ≤ 0 then 30 * minute else cfg.circuitOpenDuration

def usageLimitNoResetReason : String := "usage_limit_reached_no_reset"

def openedProbeAt (cfg : FailureSettings) (reason : String) (resetAt now : Time) : Time :=
  let nextProbeAt := now + cfg.circuitOpenDuration
  let nextProbeAt :=
    if decide (reason = usageLimitNoResetReason) && !resetAt.isZero && resetAt.after now then
      resetAt
    else nextProbeAt
  if !resetAt.isZero && resetAt.after nextProbeAt then resetAt else nextProbeAt

def applyCircuitFailure (a : AccountState) (cfg : FailureSettings) (reason : String)
    (resetAt now : Time) : AccountState :=
  let circuit := effectiveCircuitState a.circuit now
  let nextProbeAt := openedProbeAt cfg reason resetAt now
  let failed := { circuit with
    failureCount := circuit.failureCount + 1
    successCount := 0
    reason := reason
    lastFailureAt := now
    nextProbeAt :=
      if !resetAt.isZero && resetAt.after now && circuit.nextProbeAt.before nextProbeAt then
        nextProbeAt
      else circuit.nextProbeAt }
  let threshold := if cfg.circuitFailureThreshold ≤ 0 then 1 else cfg.circuitFailureThreshold
  if circuit.state = .halfOpen ∨ circuit.effectiveState = .halfOpen ∨
      threshold ≤ failed.failureCount then
    { a with
      circuit := { failed with
        state := .opened
        effectiveState := .opened
        openedAt := now
        nextProbeAt := nextProbeAt }
      lastError := reason }
  else { a with circuit := failed, lastError := reason }

def recordAccountFailure (s : PluginState) (authID authIndex : String) (hit : Nat)
    (cfg : FailureSettings) (reason : String) (resetAt now : Time) : PluginState :=
  match s.findAccountLocked authID authIndex hit with
  | some (key, a) => s.setAccount key (applyCircuitFailure a cfg.normalize reason resetAt now)
  | none =>
    if authID = "" then s
    else
      s.setAccount ("auth:" ++ authID) (applyCircuitFailure
        { authID := authID, authIndex := authIndex, provider := "codex" } cfg.normalize reason
        resetAt now)

theorem identity_applyCircuitFailure (a : AccountState) (cfg : FailureSettings) (reason : String)
    (resetAt now : Time) :
    (applyCircuitFailure a cfg reason resetAt now).authID = a.authID ∧
      (applyCircuitFailure a cfg reason resetAt now).inst = a.inst := by
  simp only [applyCircuitFailure]
  constructor <;> split_ifs <;> rfl

theorem recordAccountFailure_written (s : PluginState) (authID authIndex : String) (hit : Nat)
    (cfg : FailureSettings) (reason : String) (resetAt now : Time) :
    Written s (recordAccountFailure s authID authIndex hit cfg reason resetAt now) := by
  unfold recordAccountFailure
  split
  · next key a hfound =>
    obtain ⟨hid, hinst⟩ := identity_applyCircuitFailure a cfg.normalize reason resetAt now
    exact .wrote _ _ fun htidy => (findAccountLocked_proper hfound htidy).of_same hid hinst
  · split
    · exact .same
    · next hne =>
      obtain ⟨hid, hinst⟩ := identity_applyCircuitFailure
        { authID := authID, authIndex := authIndex, provider := "codex" } cfg.normalize reason
        resetAt now
      exact .wrote _ _ fun _ => ⟨by rw [hid]; exact hne, by rw [hid], hinst⟩

def storedState (c : CircuitBreakerState) : CircuitState :=
  if c.state = .unset then .closed else c.state

structure SameBreaker (c c' : CircuitBreakerState) : Prop where
  state : storedState c' = storedState c
  successCount : c'.successCount = c.successCount
  nextProbeAt : c'.nextProbeAt = c.nextProbeAt

theorem SameBreaker.refl (c : CircuitBreakerState) : SameBreaker c c := ⟨rfl, rfl, rfl⟩

theorem SameBreaker.trans {c c' c'' : CircuitBreakerState} (h : SameBreaker c c')
    (h' : SameBreaker c' c'') : SameBreaker c c'' :=
  ⟨h'.state.trans h.state, h'.successCount.trans h.successCount, h'.nextProbeAt.trans h.nextProbeAt⟩

theorem sameBreaker_effectiveCircuitState (c : CircuitBreakerState) (now : Time) :
    SameBreaker c (effectiveCircuitState c now) := by
  refine ⟨?_, rfl, rfl⟩
  cases hstate : c.state <;> simp [storedState, effectiveCircuitState, hstate]

def effectiveState (c : CircuitBreakerState) (now : Time) : CircuitState :=
  (effectiveCircuitState c now).effectiveState

variable {now : Time}

theorem effectiveState_eq (c : CircuitBreakerState) : effectiveState c now =
      if storedState c = .opened ∧ c.nextProbeAt.isZero = false ∧ c.nextProbeAt.after now = false
      then .halfOpen else storedState c := by
  cases hstate : c.state <;> simp [effectiveState, effectiveCircuitState, storedState, hstate]

theorem SameBreaker.effectiveState {c c' : CircuitBreakerState} (h : SameBreaker c c')
    (now : Time) : effectiveState c' now = effectiveState c now := by
  rw [effectiveState_eq, effectiveState_eq, h.state, h.nextProbeAt]

theorem effectiveState_ne_unset (c : CircuitBreakerState) (now : Time) :
    effectiveState c now ≠ .unset := by
  rw [effectiveState_eq]
  split
  · decide
  · unfold storedState
    split
    · decide
    · assumption

theorem effectiveState_eq_closed (c : CircuitBreakerState) (now : Time) :
    effectiveState c now = .closed ↔ storedState c = .closed := by
  rw [effectiveState_eq]
  split
  · next h => simp [h.1]
  · rfl

theorem effectiveState_of_halfOpen {c : CircuitBreakerState} (h : storedState c = .halfOpen) :
    effectiveState c now = .halfOpen := by
  rw [effectiveState_eq, if_neg (by simp [h]), h]

/-- Only a breaker that is stored as half-open has counted successes. -/
def Counts (c : CircuitBreakerState) : Prop := storedState c ≠ .halfOpen → c.successCount = 0

theorem circuit_reconcileMarker (a : AccountState) (now : Time) :
    (reconcileMarker a now).circuit = a.circuit := by
  unfold reconcileMarker
  split <;> rfl

theorem circuit_observedAccount (a : AccountState) (quota : ParsedQuota) :
    (observedAccount a quota now).circuit = a.circuit :=
  circuit_reconcileMarker _ _

inductive Succeeded (threshold : Int) (now : Time) (c c' : CircuitBreakerState) : Prop
  | counted (half : effectiveState c now = .halfOpen) (state : storedState c' = .halfOpen)
      (count : c'.successCount = c.successCount + 1)
  | closes (half : effectiveState c now = .halfOpen) (enough : threshold ≤ c.successCount + 1)
      (state : storedState c' = .closed) (count : c'.successCount = 0)
  | kept (same : SameBreaker c c') (state : effectiveState c now = .opened)
  | closed (before : effectiveState c now = .closed) (state : storedState c' = .closed)
      (count : c'.successCount = 0)

theorem succeeded_applyCircuitSuccess (a : AccountState) (cfg : Config) (now : Time) :
    Succeeded (normalizeConfig cfg).circuitHalfOpenSuccessThreshold now a.circuit
      (applyCircuitSuccess a (normalizeConfig cfg) now).circuit := by
  have hpositive : ¬(normalizeConfig cfg).circuitHalfOpenSuccessThreshold ≤ 0 := by
    simp only [normalizeConfig]
    split
    · decide
    · assumption
  have hsame := sameBreaker_effectiveCircuitState a.circuit now
  unfold applyCircuitSuccess
  dsimp only
  rw [if_neg hpositive]
  cases heffective : (effectiveCircuitState a.circuit now).effectiveState with
  | halfOpen =>
    rw [if_pos rfl]
    split
    · next henough => exact .closes heffective henough rfl rfl
    · exact .counted heffective rfl rfl
  | opened =>
    exact .kept ⟨hsame.state, rfl, rfl⟩ heffective
  | closed =>
    exact .closed heffective rfl rfl
  | unset => exact absurd heffective (effectiveState_ne_unset _ _)

theorem applyCircuitFailure_breaker (a : AccountState) (cfg : FailureSettings) (reason : String)
    (resetAt now : Time) :
    (applyCircuitFailure a cfg reason resetAt now).circuit.successCount = 0 ∧
      storedState (applyCircuitFailure a cfg reason resetAt now).circuit ≠ .halfOpen ∧
      (storedState a.circuit ≠ .closed →
        storedState (applyCircuitFailure a cfg reason resetAt now).circuit ≠ .closed) := by
  have hsame := sameBreaker_effectiveCircuitState a.circuit now
  unfold applyCircuitFailure
  dsimp only
  generalize (if cfg.circuitFailureThreshold ≤ 0 then 1 else cfg.circuitFailureThreshold) =
    threshold
  split
  · refine ⟨rfl, ?_, fun _ => ?_⟩ <;> simp [storedState]
  · next hstays =>
    obtain ⟨hstate, -⟩ := not_or.mp hstays
    refine ⟨rfl, ?_, fun h => ?_⟩
    · simp only [storedState]
      split
      · decide
      · exact hstate
    · exact ne_of_eq_of_ne hsame.state h

end QuotaScheduler.CircuitBreaker

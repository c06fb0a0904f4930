/- Failures that report no usage limit leave every breaker closed (usage.go, state.go). -/

import QuotaScheduler.CircuitRecovery

namespace QuotaScheduler.FailureStreak

open Selection Account State PluginRuntime StateUpdates
open RefreshWrites TrialIsolation AccountUpdates CircuitBreaker List

def plainFailure (record : UsageRecord) (now : Time) : Bool :=
  decide (record.provider = "codex") && record.failed && (detectQuotaFailure record now).isNone

structure Untripped (c : CircuitBreakerState) : Prop where
  state : storedState c = .closed
  failureCount : c.failureCount = 0

theorem untripped_fresh : Untripped {} := ⟨rfl, rfl⟩

theorem Untripped.effective {c : CircuitBreakerState} (h : Untripped c) (now : Time) :
    Untripped (effectiveCircuitState c now) :=
  ⟨(sameBreaker_effectiveCircuitState c now).state.trans h.state, h.failureCount⟩

variable {a : AccountState} {s : PluginState} {w : Plugin}

theorem Untripped.success (h : Untripped a.circuit) (cfg : Config) (now : Time) :
    Untripped (applyCircuitSuccess a cfg now).circuit := by
  have hclosed : (effectiveCircuitState a.circuit now).effectiveState = .closed :=
    (effectiveState_eq_closed a.circuit now).mpr h.state
  unfold applyCircuitSuccess
  dsimp only
  rw [hclosed, if_neg (by decide), if_neg (by decide)]
  exact ⟨rfl, rfl⟩

open Untripped

theorem Untripped.accountSuccess (h : Untripped a.circuit) (cfg : Config) (now : Time) :
    Untripped (PluginState.accountSuccess cfg a now).circuit :=
  success (a := { a with temporaryExhausted := false, temporaryResetAt := .zero }) h
    _ _

def Calm (s : PluginState) : Prop :=
  ∀ authID a, s.accounts.lookup ("auth:" ++ authID) = some a → Untripped a.circuit

theorem Calm.entry (h : Calm s) (htidy : Tidy s) {e : Sigma fun _ : String => AccountState}
    (he : e ∈ s.accounts.entries) : Untripped e.2.circuit := by
  refine h e.2.authID e.2 ?_
  rw [← (htidy e he).keyed]
  exact AList.mem_lookup_iff.mpr he

theorem Calm.setAccount (h : Calm s) (key : String) (ha : Untripped a.circuit) :
    Calm (s.setAccount key a) := by
  intro authID b hb
  rw [lookup_setAccount] at hb
  split at hb
  · cases hb
    exact ha
  · exact h authID b hb

theorem circuit_annotateAccount (annotations : String → Option Int) :
    (annotateAccount annotations a).circuit = a.circuit := by
  unfold annotateAccount
  split <;> rfl

theorem Calm.refreshBase (h : Calm s) (htidy : Tidy s) (auth : HostAuthFileEntry) (now : Time) :
    Untripped (refreshBase s auth now).circuit := by
  unfold RefreshWrites.refreshBase mergeExistingAccount
  split
  · exact untripped_fresh
  · split
    · next existing hfind =>
      obtain ⟨e, he, rfl⟩ := mem_snapshot_accounts (mem_of_find?_eq_some hfind)
      change Untripped (annotateAccount _ _).circuit
      rw [circuit_annotateAccount]
      exact (h.entry htidy he).effective now
    · exact untripped_fresh

theorem Calm.refreshed (h : Calm s) (htidy : Tidy s) {auth : HostAuthFileEntry} {now : Time}
    {outcome : RefreshOutcome} (ha : Refreshed s auth now outcome a) : Untripped a.circuit := by
  have hbase := h.refreshBase htidy auth now
  have hsuccess : ∀ b : AccountState, b.circuit = (RefreshWrites.refreshBase s auth now).circuit →
      Untripped (PluginState.refreshSuccess s.cfg b now).circuit := by
    intro b hb
    refine success ?_ _ _
    rw [circuit_reconcileMarker, hb]
    exact hbase
  cases ha with
  | failed b accountID kind message keeps quota =>
    change Untripped b.circuit
    rw [keeps.circuit]
    exact hbase
  | noAccountID b keeps quota lastSuccessAt | read b id keeps lastSuccessAt =>
    exact hsuccess b keeps.circuit

theorem untripped_updates {key : String} {e : Event} {f : AccountState → AccountState}
    (hf : Updates key w e f) (ha : Untripped a.circuit) : Untripped (f a).circuit := by
  cases hf with
  | observe id index hit quota b found | headers record hit quota codex named read =>
    rw [circuit_observedAccount]
    exact ha
  | success record hit codex named | complete id named => exact ha.accountSuccess _ _
  | mark record hit event detected named => exact ⟨rfl, rfl⟩
  | clearTemporary id version named | clearAuth id named | admits files wired priority => exact ha

structure CalmAll (w : Plugin) : Prop where
  bare : Bare w
  state : Calm w.state
  txns : ∀ t ∈ w.txns, Calm t.overlay

theorem CalmAll.step (h : CalmAll w) (e : Event) : CalmAll (w.step e) := by
  refine ⟨h.bare.step e, fun authID a ha => ?_, fun t ht => ?_⟩
  · have hmoved := moved_step h.bare authID e
    rw [ha] at hmoved
    have hstored := h.state authID
    generalize w.state.accounts.lookup ("auth:" ++ authID) = o at hmoved hstored
    cases hmoved with
    | kept => exact hstored a rfl
    | updated b f update => exact untripped_updates update (hstored b rfl)
    | observed b record hit quota usage codex named read =>
      refine accountSuccess ?_ _ _
      rw [circuit_observedAccount]
      exact hstored b rfl
    | marked record hit event usage detected named => exact ⟨rfl, rfl⟩
    | written i t o b applies txn ran id copy =>
      exact h.txns t (mem_of_getElem? txn) authID a copy
  · cases txnFrom_step e ht with
    | old t mem => exact h.txns t mem
    | copied auth version begins => exact h.state
    | stopped i outcome t runs txn => exact h.txns t (mem_of_getElem? txn)
    | refreshed i outcome t a runs txn writes =>
      have hmem := mem_of_getElem? txn
      exact (h.txns t hmem).setAccount _ ((h.txns t hmem).refreshed (h.bare.txns t hmem) writes)

theorem CalmAll.run (h : CalmAll w) (events : List Event) : CalmAll (w.run events) := by
  induction events generalizing w with
  | nil => exact h
  | cons e events ih => exact ih (h.step e)

theorem state_plainFailure {record : UsageRecord} (h : plainFailure record w.clock = true)
    (hit : Nat) : (w.step (.usage record hit)).state = w.state := by
  simp only [plainFailure, Bool.and_eq_true, decide_eq_true_eq, Option.isNone_iff_eq_none] at h
  obtain ⟨⟨hprovider, hfailed⟩, hnone⟩ := h
  simp only [Plugin.step, Plugin.handleUsageHandle]
  rw [state_finishUsageHandle]
  simp [Plugin.handleUsageFeedback, hprovider, hfailed, hnone]

/-- No breaker opens or counts a failure: a plain one changes no account, a usage limit starts it
anew. -/
theorem failures_never_open_breaker (now : Time) (events : List Event) :
    (∀ record hit, plainFailure record ((initial now).run events).clock = true →
      (((initial now).run events).step (.usage record hit)).state =
        ((initial now).run events).state) ∧
      ∀ authID a, ((initial now).run events).state.accounts.lookup ("auth:" ++ authID) = some a →
        a.circuit.failureCount = 0 ∧ ∀ later, effectiveState a.circuit later = .closed := by
  have hstart : CalmAll (initial now) := by
    refine ⟨bare_run now [], fun authID a ha => ?_, fun t ht => ?_⟩
    · cases ha
    · cases ht
  have hcalm := hstart.run events
  refine ⟨fun record hit hplain => state_plainFailure hplain hit, fun authID a ha => ?_⟩
  have hquiet := hcalm.state authID a ha
  exact ⟨hquiet.failureCount, fun later => (effectiveState_eq_closed _ _).mpr hquiet.state⟩

private def refreshed : List Event :=
  [.sync [⟨"a", "", "codex", none⟩] true, .refreshBegin ⟨"a", "", "", "", "codex", 0⟩ 1,
    .refreshRun 0 (.read "acct" ⟨.weekly, none,
      some { usedPercent := some 40, resetAt := 10 * hour }⟩),
    .refreshApply 0 true]

private def failedRequest : Event := .usage ⟨"codex", true, "a", "", none, none⟩ 0

private def fiveFailures : List Event := refreshed ++ List.replicate 5 failedRequest

private def failedAccount : AccountState :=
  (((initial 1).run fiveFailures).state.accounts.lookup ("auth:" ++ "a")).get (by decide +kernel)

theorem fiveFailures_closed :
    failedAccount.circuit.failureCount = 0 ∧ effectiveState failedAccount.circuit 1 = .closed :=
  have h := (failures_never_open_breaker 1 fiveFailures).2 "a" failedAccount
    (Option.some_get _).symm
  ⟨h.1, h.2 1⟩

/-- The account stays preferred; the failure function, which nothing calls, would open its breaker.
-/
theorem failures_are_not_counted :
    CircuitRecovery.breaker ((initial 1).run fiveFailures) "a" = some .closed ∧
      (((initial 1).run fiveFailures).republish.published.map fun snapshot =>
        snapshot.accounts.map (classifyAccount · 1)) = some [.preferred] ∧
      CircuitRecovery.breaker ((List.replicate 5 (CircuitRecovery.Event.failure "a" "" 0
        ⟨5, 30 * minute⟩ "upstream status 500" Time.zero)).foldl CircuitRecovery.step
          ((initial 1).run refreshed)) "a" = some .opened := by
  decide +kernel

end QuotaScheduler.FailureStreak

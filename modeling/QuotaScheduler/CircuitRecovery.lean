/- The signals after which a breaker closes (state.go, usage.go, request_complete.go). -/

import QuotaScheduler.CircuitBreaker
import QuotaScheduler.Lib.Runs
import Mathlib.Order.Interval.Finset.Nat

namespace QuotaScheduler.CircuitRecovery

open Lib.Runs Selection Account State PluginRuntime StateUpdates
open PluginActs RefreshWrites TrialIsolation AccountUpdates CircuitBreaker Option Plugin

/-- A refresh is one event: nothing comes between its copy and its write-back. -/
inductive Event
  | single (e : PluginRuntime.Event) (whole : ofTxn e = false)
  | refresh (auth : HostAuthFileEntry) (version : Nat) (outcome : RefreshOutcome) (accepted : Bool)
  | failure (authID authIndex : String) (hit : Nat) (cfg : FailureSettings) (reason : String)
      (resetAt : Time)

def step (w : Plugin) : Event → Plugin
  | .single e _ => w.step e
  | .refresh auth version outcome accepted =>
    ((w.refreshBegin auth version).refreshRun w.txns.length outcome).refreshApply w.txns.length
      accepted
  | .failure authID authIndex hit cfg reason resetAt =>
    { w with
      state := recordAccountFailure w.state authID authIndex hit cfg reason resetAt w.clock }

def pluginAt (now : Time) (events : Nat → Event) (k : Nat) : Plugin :=
  stateAt step (initial now) events k

def breaker (w : Plugin) (authID : String) : Option CircuitState :=
  (w.state.accounts.lookup ("auth:" ++ authID)).map fun a => effectiveState a.circuit w.clock

def refreshSucceeds : RefreshOutcome → Bool
  | .read _ _ => true
  | .noAccountID => true
  | _ => false

/-- A success signal of the account: usage, a completed request or a refresh. -/
def succeeds (authID : String) (w : Plugin) : Event → Bool
  | .single (.usage record _) _ =>
    decide (record.provider = "codex") && !record.failed &&
      concerns w.state record ("auth:" ++ authID)
  | .single (.requestComplete id) _ => decide (id = authID)
  | .refresh auth _ outcome _ => decide (auth.id = authID) && refreshSucceeds outcome
  | _ => false

def limits (authID : String) (w : Plugin) : Event → Bool
  | .single (.usage record _) _ =>
    (detectQuotaFailure record w.clock).isSome && concerns w.state record ("auth:" ++ authID)
  | _ => false

def signals (now : Time) (events : Nat → Event) (authID : String) (j k : Nat) : Nat :=
  ((Finset.Ico j k).filter fun i => succeeds authID (pluginAt now events i) (events i) = true).card

theorem signals_succ (now : Time) (events : Nat → Event) (authID : String) {j k : Nat}
    (hjk : j ≤ k) :
    signals now events authID j (k + 1) = signals now events authID j k +
      if succeeds authID (pluginAt now events k) (events k) = true then 1 else 0 := by
  unfold signals
  rw [Nat.Ico_succ_right_eq_insert_Ico hjk, Finset.filter_insert]
  split
  · rw [Finset.card_insert_of_notMem (by simp)]
  · rfl

/-- The breaker of an account, never used if it is not stored. -/
def circuitOf (w : Plugin) (authID : String) : CircuitBreakerState :=
  ((w.state.accounts.lookup ("auth:" ++ authID)).map (·.circuit)).getD {}

inductive Changed (authID : String) (w : Plugin) (e : Event) (c : CircuitBreakerState) :
    CircuitBreakerState → Prop
  | same (c' : CircuitBreakerState) (same : SameBreaker c c') : Changed authID w e c c'
  | success (b : AccountState) (same : SameBreaker c b.circuit)
      (signal : succeeds authID w e = true) :
      Changed authID w e c (applyCircuitSuccess b (normalizeConfig w.state.cfg) w.clock).circuit
  | failure (b : AccountState) (same : SameBreaker c b.circuit) (cfg : FailureSettings)
      (reason : String) (resetAt : Time) :
      Changed authID w e c (applyCircuitFailure b cfg reason resetAt w.clock).circuit
  | reset (limit : limits authID w e = true) (a : AccountState) (resetAt : Time)
      (reason : String) : Changed authID w e c (markTemporaryExhausted a resetAt reason).circuit

variable {authID : String} {w : Plugin}

theorem changed_updates {e : PluginRuntime.Event} (whole : ofTxn e = false)
    {f : AccountState → AccountState} (hf : Updates ("auth:" ++ authID) w e f) (a : AccountState) :
    Changed authID w (.single e whole) a.circuit (f a).circuit := by
  have hname : ∀ id, "auth:" ++ authID = "auth:" ++ id → id = authID := by
    intro id hid
    simpa using hid.symm
  cases hf with
  | observe id index hit quota b found | headers record hit quota codex named read =>
    refine .same _ ?_
    rw [circuit_observedAccount]
    exact .refl _
  | success record hit codex named =>
    exact .success _ (.refl _) (by simp [succeeds, codex, named])
  | complete id named => exact .success _ (.refl _) (by simp [succeeds, hname id named])
  | mark record hit event detected named =>
    exact .reset (by simp [limits, detected, named]) a _ _
  | clearTemporary id version named | clearAuth id named | admits files wired priority =>
    exact .same _ (.refl _)

variable {a : AccountState}

theorem changed_single (hbare : Bare w) {e : PluginRuntime.Event} (whole : ofTxn e = false)
    (ha : (w.step e).state.accounts.lookup ("auth:" ++ authID) = some a) :
    Changed authID w (.single e whole) (circuitOf w authID) a.circuit := by
  have hmoved := moved_step hbare authID e
  rw [ha] at hmoved
  unfold circuitOf
  generalize w.state.accounts.lookup ("auth:" ++ authID) = o at hmoved
  cases hmoved with
  | kept => exact .same _ (.refl _)
  | updated a f update => exact changed_updates whole update a
  | observed a record hit quota usage codex named read =>
    subst usage
    refine .success _ ?_ (by simp [succeeds, codex, named])
    rw [circuit_observedAccount]
    exact .refl _
  | marked record hit event usage detected named =>
    subst usage
    exact .reset (by simp [limits, detected, named]) _ _ _
  | written i t o b applies txn ran id copy =>
    subst applies
    cases whole

theorem state_refresh (w : Plugin) (auth : HostAuthFileEntry) (version : Nat)
    (outcome : RefreshOutcome)
    (accepted : Bool) :
    (step w (.refresh auth version outcome accepted)).state =
      if accepted then
        w.state.applyLegacyEffectJournal
          ((((refreshAuthVersionedHeld w.state auth version outcome w.clock).map Prod.fst).getD
            w.state).legacyEffectJournal auth.id)
      else w.state := by
  have hbegun : (w.refreshBegin auth version).txns[w.txns.length]? =
      some ⟨auth, version, w.state, false⟩ := List.getElem?_concat_length
  have hlength : w.txns.length < (w.refreshBegin auth version).txns.length :=
    (List.getElem?_eq_some_iff.mp hbegun).1
  have hclock : (w.refreshBegin auth version).clock = w.clock := rfl
  simp only [step, refreshRun, hbegun, hclock, Bool.false_eq_true, if_false]
  cases refreshAuthVersionedHeld w.state auth version outcome w.clock with
  | none =>
    simp only [refreshApply, setTxn, List.getElem?_set_self hlength, Bool.and_true]
    split <;> rfl
  | some result =>
    simp only [refreshApply, setTxn, setTrials, publishOverlay,
      List.getElem?_set_self hlength, Bool.and_true]
    split <;> rfl

theorem lookup_refresh (hbare : Bare w) (auth : HostAuthFileEntry) (version : Nat)
    (outcome : RefreshOutcome) (accepted : Bool) (key : String) :
    (step w (.refresh auth version outcome accepted)).state.accounts.lookup key =
        w.state.accounts.lookup key ∨
      ∃ a, key = "auth:" ++ auth.id ∧ auth.id ≠ "" ∧ Refreshed w.state auth w.clock outcome a ∧
        (step w (.refresh auth version outcome accepted)).state.accounts.lookup key = some a := by
  rw [state_refresh]
  cases accepted with
  | false => exact .inl rfl
  | true =>
    rw [if_pos rfl]
    cases hstops : stops w.state auth version outcome with
    | true =>
      rw [refreshAuthVersionedHeld_of_stops hstops, map_none, getD_none, lookup_journal hbare.state]
      refine .inl ?_
      split
      · exact Option.or_self
      · rfl
    | false =>
      obtain ⟨a, notice, hwrites, hheld⟩ := refreshAuthVersionedHeld_writes hstops w.clock
      have htidy := (refreshAuthVersionedHeld_written hheld).1.tidy hbare.state
      rw [hheld, map_some, getD_some, lookup_journal htidy]
      split
      · next hkey =>
        refine .inr ⟨a, hkey, named_of_not_stops hstops, hwrites, ?_⟩
        rw [lookup_setAccount, if_pos hkey, some_or]
      · exact .inl rfl

theorem changed_refreshed (htidy : Tidy w.state) {auth : HostAuthFileEntry} (hne : auth.id ≠ "")
    (version : Nat) {outcome : RefreshOutcome} (accepted : Bool)
    (h : Refreshed w.state auth w.clock outcome a) :
    Changed auth.id w (.refresh auth version outcome accepted) (circuitOf w auth.id) a.circuit := by
  have hbase : SameBreaker (circuitOf w auth.id) (refreshBase w.state auth w.clock).circuit := by
    unfold circuitOf
    cases hlookup : w.state.accounts.lookup ("auth:" ++ auth.id) with
    | none =>
      rw [refreshBase_of_none htidy hne hlookup]
      exact .refl _
    | some b =>
      rw [(refreshBase_of_lookup htidy hne hlookup w.clock).circuit]
      exact sameBreaker_effectiveCircuitState _ _
  have hsuccess : ∀ b, Keeps (refreshBase w.state auth w.clock) b → refreshSucceeds outcome = true →
      Changed auth.id w (.refresh auth version outcome accepted) (circuitOf w auth.id)
        (PluginState.refreshSuccess w.state.cfg b w.clock).circuit := by
    intro b hkeeps houtcome
    refine .success _ ?_ (by simp [succeeds, houtcome])
    rw [circuit_reconcileMarker]
    rw [hkeeps.circuit]
    exact hbase
  cases h with
  | failed b accountID kind message keeps quota =>
    refine .same _ ?_
    change SameBreaker _ b.circuit
    rw [keeps.circuit]
    exact hbase
  | noAccountID b keeps quota lastSuccessAt | read b id keeps lastSuccessAt =>
    exact hsuccess b keeps rfl

theorem changed_failure {id index : String} {hit : Nat} {cfg : FailureSettings} {reason : String}
    {resetAt : Time} (ha : (step w (.failure id index hit cfg reason resetAt)).state.accounts.lookup
      ("auth:" ++ authID) = some a) :
    Changed authID w (.failure id index hit cfg reason resetAt) (circuitOf w authID) a.circuit := by
  unfold circuitOf
  simp only [step, recordAccountFailure] at ha
  split at ha
  · next key b hfound =>
    rcases lookup_found hfound (applyCircuitFailure · cfg.normalize reason resetAt w.clock) with
      hsame | ⟨hkey, hbefore, hafter⟩
    · rw [hsame] at ha
      rw [ha]
      exact .same _ (.refl _)
    · rw [hafter] at ha
      cases ha
      rw [hbefore]
      exact .failure b (.refl _) _ _ _
  · next hnone =>
    split at ha
    · rw [ha]
      exact .same _ (.refl _)
    · next hne =>
      rw [lookup_setAccount] at ha
      split at ha
      · next hkey =>
        obtain rfl : authID = id := by simpa using hkey
        have habsent : w.state.accounts.lookup ("auth:" ++ authID) = none := by
          unfold PluginState.findAccountLocked at hnone
          rw [if_pos hne] at hnone
          cases hlookup : w.state.accounts.lookup ("auth:" ++ authID) with
          | none => rfl
          | some b => simp [hlookup] at hnone
        cases ha
        rw [habsent]
        exact .failure { authID := authID, authIndex := index, provider := "codex" } (.refl _) _ _ _
      · rw [ha]
        exact .same _ (.refl _)

theorem changed_step (hbare : Bare w) (e : Event)
    (ha : (step w e).state.accounts.lookup ("auth:" ++ authID) = some a) :
    Changed authID w e (circuitOf w authID) a.circuit := by
  cases e with
  | single e whole => exact changed_single hbare whole ha
  | refresh auth version outcome accepted =>
    rcases lookup_refresh hbare auth version outcome accepted ("auth:" ++ authID) with
      hsame | ⟨b, hkey, hne, hwrites, hafter⟩
    · rw [hsame] at ha
      unfold circuitOf
      rw [ha]
      exact .same _ (.refl _)
    · obtain rfl : authID = auth.id := by simpa using hkey
      rw [hafter] at ha
      cases ha
      exact changed_refreshed hbare.state hne version accepted hwrites
  | failure id index hit cfg reason resetAt => exact changed_failure ha

theorem bare_step (h : Bare w) (e : Event) : Bare (step w e) := by
  cases e with
  | single e whole => exact h.step e
  | refresh auth version outcome accepted =>
    have hbegun := h.step (.refreshBegin auth version)
    have hran := hbegun.step (.refreshRun w.txns.length outcome)
    exact hran.step (.refreshApply w.txns.length accepted)
  | failure id index hit cfg reason resetAt =>
    exact h.act (.write _ (recordAccountFailure_written _ _ _ _ _ _ _ _))

section

variable (now : Time) (events : Nat → Event) (authID : String)

def HalfOpen (j k : Nat) : Prop :=
  j ≤ k ∧ ∀ i, j ≤ i → i ≤ k → breaker (pluginAt now events i) authID = some .halfOpen

variable {now events authID} {j k : Nat}

theorem halfOpen_self (h : breaker (pluginAt now events k) authID = some .halfOpen) :
    HalfOpen now events authID k k := by
  refine ⟨Nat.le_refl k, fun i hki hik => ?_⟩
  rw [Nat.le_antisymm hik hki]
  exact h

theorem HalfOpen.succ (h : HalfOpen now events authID j k)
    (hnext : breaker (pluginAt now events (k + 1)) authID = some .halfOpen) :
    HalfOpen now events authID j (k + 1) := by
  refine ⟨Nat.le_succ_of_le h.1, fun i hji hik => ?_⟩
  rcases Nat.lt_or_ge i (k + 1) with hlt | hge
  · exact h.2 i hji (Nat.le_of_lt_succ hlt)
  · rw [Nat.le_antisymm hik hge]
    exact hnext

/-- The successes a breaker has counted are signals of its half-open period. -/
structure Accounted (now : Time) (events : Nat → Event) (authID : String) (k : Nat)
    (c : CircuitBreakerState) : Prop where
  counts : Counts c
  since : storedState c = .halfOpen →
    ∃ j, HalfOpen now events authID j k ∧ c.successCount ≤ signals now events authID j k

variable {c : CircuitBreakerState}

theorem Accounted.idle (hcount : c.successCount = 0) (hstate : storedState c ≠ .halfOpen) :
    Accounted now events authID k c :=
  ⟨fun _ => hcount, fun h => absurd h hstate⟩

theorem Accounted.period (h : Accounted now events authID k c)
    (hhalf : breaker (pluginAt now events k) authID = some .halfOpen) :
    ∃ j, HalfOpen now events authID j k ∧ c.successCount ≤ signals now events authID j k := by
  by_cases hstate : storedState c = .halfOpen
  · exact h.since hstate
  · exact ⟨k, halfOpen_self hhalf, by rw [h.counts hstate]; exact Nat.zero_le _⟩

theorem Accounted.same {c' : CircuitBreakerState} (h : Accounted now events authID k c)
    (hsame : SameBreaker c c') (hnext : storedState c' = .halfOpen →
      breaker (pluginAt now events (k + 1)) authID = some .halfOpen) :
    Accounted now events authID (k + 1) c' := by
  refine ⟨fun hstate => ?_, fun hstate => ?_⟩
  · rw [hsame.successCount]
    rw [hsame.state] at hstate
    exact h.counts hstate
  · rw [hsame.successCount]
    obtain ⟨j, hperiod, hle⟩ := h.since (hsame.state ▸ hstate)
    refine ⟨j, hperiod.succ (hnext hstate), hle.trans ?_⟩
    rw [signals_succ now events authID hperiod.1]
    exact Nat.le_add_right _ _

end

theorem breaker_of_lookup (h : w.state.accounts.lookup ("auth:" ++ authID) = some a) :
    breaker w authID = some (effectiveState a.circuit w.clock) := by
  rw [breaker, h, map_some]

theorem effectiveState_circuitOf {state : CircuitState} (h : breaker w authID = some state) :
    effectiveState (circuitOf w authID) w.clock = state := by
  obtain ⟨a, ha, hstate⟩ := map_eq_some_iff.mp h
  rw [circuitOf, ha]
  exact hstate

theorem breaker_of_circuitOf {state : CircuitState} (hne : state ≠ .closed)
    (h : effectiveState (circuitOf w authID) w.clock = state) : breaker w authID = some state := by
  subst h
  unfold circuitOf breaker at *
  cases hlookup : w.state.accounts.lookup ("auth:" ++ authID) with
  | none => exact absurd (by rw [hlookup]; rfl) hne
  | some a => rfl

section

variable {now : Time} {events : Nat → Event} {k : Nat}

theorem bare_pluginAt (now : Time) (events : Nat → Event) (k : Nat) :
    Bare (pluginAt now events k) :=
  invariant_stateAt (bare_run now []) (fun _ e h => bare_step h e) k

theorem accounted_succ {a : AccountState}
    (h : Accounted now events authID k (circuitOf (pluginAt now events k) authID))
    (ha : (pluginAt now events (k + 1)).state.accounts.lookup ("auth:" ++ authID) = some a) :
    Accounted now events authID (k + 1) a.circuit := by
  have hnext : storedState a.circuit = .halfOpen →
      breaker (pluginAt now events (k + 1)) authID = some .halfOpen := by
    intro hstate
    rw [breaker_of_lookup ha, effectiveState_of_halfOpen hstate]
  have hchanged := changed_step (bare_pluginAt now events k) (events k) ha
  generalize a.circuit = c at hnext hchanged ⊢
  cases hchanged with
  | same _ same => exact h.same same hnext
  | success b same signal =>
    have hsucceeded := succeeded_applyCircuitSuccess b (pluginAt now events k).state.cfg
      (pluginAt now events k).clock
    cases hsucceeded with
    | counted half state count =>
      refine ⟨fun hstate => absurd state hstate, fun _ => ?_⟩
      rw [same.effectiveState] at half
      obtain ⟨j, hperiod, hle⟩ := h.period (breaker_of_circuitOf (by decide) half)
      refine ⟨j, hperiod.succ (hnext state), ?_⟩
      rw [signals_succ now events authID hperiod.1, if_pos signal, count, same.successCount]
      exact Nat.add_le_add_right hle 1
    | closes half enough state count | closed before state count =>
      exact .idle count (by rw [state]; decide)
    | kept kept state => exact h.same (same.trans kept) hnext
  | failure b same cfg reason resetAt =>
    obtain ⟨hcount, hstate, -⟩ := applyCircuitFailure_breaker b cfg reason resetAt
      (pluginAt now events k).clock
    exact .idle hcount hstate
  | reset limit b resetAt reason => exact .idle rfl (by simp [markTemporaryExhausted, storedState])

theorem accounted_circuitOf {w : Plugin}
    (h : ∀ a, w.state.accounts.lookup ("auth:" ++ authID) = some a →
      Accounted now events authID k a.circuit) :
    Accounted now events authID k (circuitOf w authID) := by
  unfold circuitOf
  cases hlookup : w.state.accounts.lookup ("auth:" ++ authID) with
  | none => exact .idle rfl (by decide)
  | some a => exact h a hlookup

theorem accounted_at (now : Time) (events : Nat → Event) (authID : String) (k : Nat) :
    Accounted now events authID k (circuitOf (pluginAt now events k) authID) := by
  induction k with
  | zero => exact accounted_circuitOf fun a ha => by cases ha
  | succ k ih => exact accounted_circuitOf fun a ha => accounted_succ ih ha

end

/-- A breaker closes by a usage limit, or after the threshold of success signals while half-open. -/
theorem breaker_closes_after_signals (now : Time) (events : Nat → Event) (authID : String) (k : Nat)
    (hbefore : breaker (pluginAt now events k) authID = some .opened ∨
      breaker (pluginAt now events k) authID = some .halfOpen)
    (hafter : breaker (pluginAt now events (k + 1)) authID = some .closed) :
    limits authID (pluginAt now events k) (events k) = true ∨
      ∃ j, HalfOpen now events authID j k ∧
        (normalizeConfig (pluginAt now events k).state.cfg).circuitHalfOpenSuccessThreshold ≤
          signals now events authID j (k + 1) := by
  obtain ⟨a, ha, hclosed⟩ := map_eq_some_iff.mp hafter
  rw [effectiveState_eq_closed] at hclosed
  have hstored : storedState (circuitOf (pluginAt now events k) authID) ≠ .closed := by
    intro hstate
    have hnow := (effectiveState_eq_closed _ (pluginAt now events k).clock).mpr hstate
    rcases hbefore with hopen | hhalf
    · rw [effectiveState_circuitOf hopen] at hnow
      cases hnow
    · rw [effectiveState_circuitOf hhalf] at hnow
      cases hnow
  have hchanged := changed_step (bare_pluginAt now events k) (events k) ha
  generalize a.circuit = c at hclosed hchanged
  cases hchanged with
  | same _ same =>
    rw [same.state] at hclosed
    exact absurd hclosed hstored
  | success b same signal =>
    have hsucceeded := succeeded_applyCircuitSuccess b (pluginAt now events k).state.cfg
      (pluginAt now events k).clock
    cases hsucceeded with
    | counted half state count =>
      rw [state] at hclosed
      cases hclosed
    | closes half enough state count =>
      refine .inr ?_
      rw [same.effectiveState] at half
      obtain ⟨j, hperiod, hle⟩ := (accounted_at now events authID k).period
        (breaker_of_circuitOf (by decide) half)
      refine ⟨j, hperiod, enough.trans ?_⟩
      rw [signals_succ now events authID hperiod.1, if_pos signal, same.successCount]
      exact_mod_cast Nat.add_le_add_right hle 1
    | kept kept state =>
      rw [(same.trans kept).state] at hclosed
      exact absurd hclosed hstored
    | closed before state count =>
      rw [effectiveState_eq_closed, same.state] at before
      exact absurd before hstored
  | failure b same cfg reason resetAt =>
    obtain ⟨-, -, hopen⟩ := applyCircuitFailure_breaker b cfg reason resetAt
      (pluginAt now events k).clock
    rw [same.state] at hopen
    exact absurd hclosed (hopen hstored)
  | reset limit b resetAt reason => exact .inl limit

private def quotaRefresh : Event :=
  .refresh ⟨"a", "", "", "", "codex", 0⟩ 1
    (.read "acct" ⟨.weekly, none, some { usedPercent := some 40, resetAt := 10 * hour }⟩) true

private def opened : List Event :=
  [.single (.sync [⟨"a", "", "codex", none⟩] true) rfl, quotaRefresh,
    .failure "a" "" 0 ⟨1, minute⟩ "upstream 502" Time.zero]

private def probeDue : List Event := opened ++ [.single (.tick 60000000000) rfl]

private def twoRefreshes : Nat → Event :=
  script (.single .lifecycle rfl) (probeDue ++ [quotaRefresh, quotaRefresh])

theorem two_refreshes_close_breaker :
    limits "a" (pluginAt 1 twoRefreshes 5) (twoRefreshes 5) = true ∨
      ∃ j, HalfOpen 1 twoRefreshes "a" j 5 ∧
        (normalizeConfig (pluginAt 1 twoRefreshes 5).state.cfg).circuitHalfOpenSuccessThreshold ≤
          signals 1 twoRefreshes "a" j 6 :=
  breaker_closes_after_signals 1 twoRefreshes "a" 5 (.inr (by decide +kernel)) (by decide +kernel)

private def oneRequest : List Event :=
  [.single (.usage ⟨"codex", false, "a", "", none, none⟩ 0) rfl, .single (.requestComplete "a") rfl]

private def usageLimit : Event := .single (.usage ⟨"codex", true, "a", "", none, some none⟩ 0) rfl

/-- Two refreshes close a half-open breaker, so does one request counted twice; a usage limit closes
an open one. -/
theorem breaker_closes_without_two_requests :
    defaultConfig.circuitHalfOpenSuccessThreshold = 2 ∧
      breaker (probeDue.foldl step (initial 1)) "a" = some .halfOpen ∧
      breaker ((probeDue ++ [quotaRefresh, quotaRefresh]).foldl step (initial 1)) "a" =
        some .closed ∧
      breaker ((probeDue ++ oneRequest).foldl step (initial 1)) "a" = some .closed ∧
      breaker (opened.foldl step (initial 1)) "a" = some .opened ∧
      breaker ((opened ++ [usageLimit]).foldl step (initial 1)) "a" = some .closed := by
  decide +kernel

end QuotaScheduler.CircuitRecovery

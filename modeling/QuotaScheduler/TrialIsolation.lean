/- No account the runtime builds has an instance, so all of them share one trial cell. -/

import QuotaScheduler.PluginActs
import QuotaScheduler.PickContract

namespace QuotaScheduler.TrialIsolation

open Trial Selection Pick State Published Roster PluginRuntime StateUpdates
open PluginActs List Option TrialRecord

def BareSnapshot (published : Option SchedulerSnapshot) : Prop :=
  ∀ snapshot, published = some snapshot → ∀ v ∈ snapshot.accounts, v.inst = 0

/-- No account has an instance: in the state, an overlay, the snapshot, or that of a pick. -/
structure Bare (w : Plugin) : Prop where
  state : Tidy w.state
  txns : ∀ t ∈ w.txns, Tidy t.overlay
  published : BareSnapshot w.published
  picks : ∀ p ∈ w.picks, BareSnapshot p.1.published

theorem bareSnapshot_publish {s : PluginState} (htidy : Tidy s) (active : Option (Finset String))
    (now : Time) (trials : TrialRegistry) :
    BareSnapshot (some (publishSchedulerState s active now trials)) := by
  intro snapshot hsnap v hv
  cases hsnap
  have hmem : ∃ a ∈ (s.snapshot now).accounts, v = accountViewFromState a s.cfg now trials := by
    cases active with
    | none | some ids =>
      obtain ⟨a, ha, rfl⟩ := List.mem_map.mp hv
      exact ⟨a, ha, rfl⟩
  obtain ⟨a, ha, rfl⟩ := hmem
  exact htidy.inst_snapshot ha

variable {w : Plugin} {trials : TrialRegistry} {now : Time} {a : AccountView}

theorem Bare.act {w' : Plugin} (h : Bare w) (hact : Act w w') : Bare w' := by
  cases hact with
  | clock now | settings cfg annotations | trials trials =>
    exact ⟨h.state, h.txns, h.published, h.picks⟩
  | write s hwritten => exact ⟨hwritten.tidy h.state, h.txns, h.published, h.picks⟩
  | publish active hactive =>
    exact ⟨h.state, h.txns, bareSnapshot_publish h.state _ _ _, h.picks⟩
  | lifecycle =>
    unfold Plugin.advanceLifecycle Plugin.observeRosterLifecycle
    split <;> exact ⟨h.state, h.txns, h.published, h.picks⟩
  | txnBegin auth version =>
    refine ⟨h.state, ?_, h.published, h.picks⟩
    intro t ht
    rcases mem_append.mp ht with ht | ht
    · exact h.txns t ht
    · rw [mem_singleton.mp ht]
      exact h.state
  | txnRan i t t' ht hwritten =>
    refine ⟨h.state, ?_, h.published, h.picks⟩
    intro u hu
    rcases mem_or_eq_of_mem_set hu with hu | rfl
    · exact h.txns u hu
    · exact hwritten.tidy (h.txns t ht)
  | publishOverlay t ht =>
    exact ⟨h.state, h.txns, bareSnapshot_publish (h.txns t ht) _ _ _, h.picks⟩
  | journal t ht =>
    exact ⟨tidy_applyLegacyEffectJournal h.state (journal_bare (h.txns t ht)), h.txns,
      h.published, h.picks⟩
  | txnDrop i =>
    exact ⟨h.state, fun t ht => h.txns t (mem_of_mem_eraseIdx ht), h.published, h.picks⟩
  | pickStart req =>
    refine ⟨h.state, h.txns, h.published, ?_⟩
    intro p hp
    rcases mem_append.mp hp with hp | hp
    · exact h.picks p hp
    · rw [mem_singleton.mp hp]
      exact h.published
  | pickStep i room =>
    unfold Plugin.pickStep
    split
    · exact h
    · rename_i call p hp
      refine ⟨h.state, h.txns, h.published, ?_⟩
      intro q hq
      rcases mem_or_eq_of_mem_set hq with hq | rfl
      · exact h.picks q hq
      · exact h.picks (call, p) (mem_of_getElem? hp)
  | consumeIntent =>
    unfold Plugin.consumeIntent
    split
    · exact h
    · exact ⟨h.state, h.txns, h.published, h.picks⟩

theorem Bare.step (h : Bare w) (e : Event) : Bare (w.step e) := by
  by_cases he : publishesRoster e = false
  · exact invariant_step (fun _ _ hw hact => hw.act hact) h e he
  · cases e with
    | sync files wired =>
      simp only [Plugin.step]
      rcases finishSync_cases w (listHostAuths files) wired with heq | ⟨admission, _, _, heq⟩
      · rw [heq]
        exact h.act .lifecycle
      · rw [heq]
        have htidy := tidy_replaceCPAAdmission h.state admission
        exact ⟨htidy, h.txns, bareSnapshot_publish htidy _ _ _, h.picks⟩
    | _ => exact absurd rfl he

theorem Bare.run (h : Bare w) (events : List Event) : Bare (w.run events) := by
  induction events generalizing w with
  | nil => exact h
  | cons e events ih => exact ih (h.step e)

theorem bare_run (now : Time) (events : List Event) : Bare ((initial now).run events) := by
  apply Bare.run
  exact ⟨by simp [Tidy, initial, newPluginState], by simp [initial], nofun, by simp [initial]⟩

def liveClass (trials : TrialRegistry) (a : AccountView) (now : Time) : AvailabilityClass :=
  classifyAccount { a with trial := trials.state a.inst now } now

/-- The pick's next operation begins a trial for `a`, which the call returns. -/
structure BeginsTrial (w : Plugin) (i : Nat) (call : PickCall) (snapshot : SchedulerSnapshot)
    (a : AccountView) : Prop where
  works : call.published = some snapshot
  account : a ∈ snapshot.accounts
  next : ∃ k, w.picks[i]? = some (call, .call (.tryBegin a.inst call.now) k) ∧
    (k true).Always fun trace => trace.decision.authID = a.id
  begun : (w.shared.trials.tryBegin a.inst call.now).1 = true

inductive EvidenceOp
  | observe (kind : EvidenceKind)
  | retry

structure Evidence where
  authID : String
  inst : AuthInstanceID
  op : EvidenceOp

def EvidenceOp.apply (op : EvidenceOp) (trials : TrialRegistry) (id : AuthInstanceID)
    (now : Time) : TrialRegistry :=
  match op with
  | .observe kind => trials.observeEvidence id kind
  | .retry => trials.observeRetry id now

def noticeEvidence (authID : String) : RefreshNotice → Option Evidence
  | .nothing => none
  | .writeback id => some ⟨authID, id, .observe .reliableQuotaWriteback⟩
  | .retry id => some ⟨authID, id, .retry⟩

/-- The evidence of an event: a usage record about the snapshot's account, a refresh about its own.
-/
def evidence (w : Plugin) : Event → Option Evidence
  | .usage record hit =>
    (w.handleUsageFeedback record hit).published.bind fun snapshot =>
      (Plugin.evidenceAccount snapshot.accounts record).bind fun a =>
        if Plugin.usageEvidence record w.clock = .unknown then none
        else some ⟨a.id, a.inst, .observe (Plugin.usageEvidence record w.clock)⟩
  | .refreshRun i outcome =>
    w.txns[i]?.bind fun t =>
      if t.ran then none
      else
        (refreshAuthVersionedHeld t.overlay t.auth t.version outcome w.clock).bind fun r =>
          noticeEvidence t.auth.id r.2
  | _ => none

variable {record : UsageRecord}

theorem handleUsageFeedback_frame (hit : Nat) :
    (w.handleUsageFeedback record hit).shared = w.shared ∧
      (w.handleUsageFeedback record hit).clock = w.clock := by
  have hheaders : (w.applyObservedCodexHeaders record hit).shared = w.shared ∧
      (w.applyObservedCodexHeaders record hit).clock = w.clock := by
    unfold Plugin.applyObservedCodexHeaders
    split
    · exact ⟨rfl, rfl⟩
    · rename_i quota _
      cases hobs : w.observeQuota record.authID record.authIndex hit quota with
      | none => exact ⟨rfl, rfl⟩
      | some w' =>
        obtain ⟨s, -, rfl⟩ := map_eq_some_iff.mp hobs
        exact ⟨rfl, rfl⟩
  unfold Plugin.handleUsageFeedback
  split
  · exact ⟨rfl, rfl⟩
  · split
    · unfold Plugin.recordUsageSuccess
      split
      · exact hheaders
      · exact hheaders
    · split
      · exact ⟨rfl, rfl⟩
      · exact ⟨rfl, rfl⟩

theorem trials_finishUsageHandle (snapshot : SchedulerSnapshot)
    (hsnap : w.published = some snapshot)
    (ha : Plugin.evidenceAccount snapshot.accounts record = some a) :
    (w.finishUsageHandle record).shared.trials =
      w.shared.trials.observeEvidence a.inst (Plugin.usageEvidence record w.clock) := by
  unfold Plugin.finishUsageHandle
  simp only [hsnap, Plugin.observeUsageEvidence, ha]
  split <;> rfl

theorem evidence_spec (hw : Bare w) {e : Event} {ev : Evidence} (h : evidence w e = some ev) :
    ev.inst = 0 ∧ (w.step e).shared.trials = ev.op.apply w.shared.trials ev.inst w.clock ∧
      ∀ kind, ev.op = .observe kind → kind ≠ .unknown := by
  cases e with
  | usage record hit =>
    obtain ⟨snapshot, hsnap, hrest⟩ := bind_eq_some_iff.mp h
    obtain ⟨a, ha, hev⟩ := bind_eq_some_iff.mp hrest
    obtain ⟨hshared, hclock⟩ := handleUsageFeedback_frame hit
    have hbare : Bare (w.handleUsageFeedback record hit) :=
      invariant_acts (fun _ _ hw hact => hw.act hact) hw (acts_handleUsageFeedback w record hit)
    split at hev
    · cases hev
    · rename_i hkind
      cases hev
      refine ⟨hbare.published snapshot hsnap a (mem_of_find?_eq_some ha), ?_, ?_⟩
      · simp only [Plugin.step, Plugin.handleUsageHandle]
        rw [trials_finishUsageHandle snapshot hsnap ha, hshared, hclock]
        rfl
      · intro kind hop
        cases hop
        exact hkind
  | refreshRun i outcome =>
    obtain ⟨t, ht, hrest⟩ := bind_eq_some_iff.mp h
    split at hrest
    · cases hrest
    · rename_i hran
      obtain ⟨⟨overlay, notice⟩, hrun, hev⟩ := bind_eq_some_iff.mp hrest
      have hinst := (refreshAuthVersionedHeld_written hrun).2 (hw.txns t (mem_of_getElem? ht))
      have hstep : (w.step (.refreshRun i outcome)).shared.trials =
          Plugin.noticed w.shared.trials w.clock notice := by
        simp [Plugin.step, Plugin.refreshRun, ht, hran, hrun, Plugin.setTrials,
          Plugin.publishOverlay]
      cases notice with
      | nothing => cases hev
      | writeback id =>
        cases hev
        refine ⟨hinst, hstep, ?_⟩
        intro kind hop
        cases hop
        intro hkind
        cases hkind
      | retry id =>
        cases hev
        refine ⟨hinst, hstep, ?_⟩
        intro kind hop
        cases hop
  | _ => cases h

def EvidenceOp.Quiet (op : EvidenceOp) (cell : Option TrialRecord) (now : Time) : Prop :=
  match op, cell with
  | .observe _, cell => TrialRecord.stateAt cell now = .none
  | .retry, none => True
  | .retry, some v =>
    v.retries + 1 < trialEvidenceMaxRetries ∨ TrialRecord.stateAt (some v) now = .unknown

theorem stateAt_retry_iff (v : TrialRecord) :
    stateAt (some (v.retry now)) now = stateAt (some v) now ↔
      v.retries + 1 < trialEvidenceMaxRetries ∨ stateAt (some v) now = .unknown := by
  unfold retry
  simp only
  split
  · rename_i hmax
    rw [stateAt_unknownTrial]
    constructor
    · intro h
      exact .inr h.symm
    · rintro (hlt | h)
      · omega
      · exact h.symm
  · rename_i hmax
    constructor
    · intro _
      exact .inl (by omega)
    · intro _
      rfl

theorem quiet_iff (op : EvidenceOp) (id : AuthInstanceID)
    (hop : ∀ kind, op = .observe kind → kind ≠ .unknown) :
    (op.apply trials id now).state id now = trials.state id now ↔ op.Quiet (trials id) now := by
  cases op with
  | observe kind =>
    have hset : trials.observeEvidence id kind = trials.set id none := by
      cases kind with
      | unknown => exact absurd rfl (hop .unknown rfl)
      | usageFeedback | reliableQuotaWriteback | requestSuccess => rfl
    simp only [EvidenceOp.apply, hset, TrialRegistry.state, TrialRegistry.set, if_true,
      EvidenceOp.Quiet]
    exact eq_comm
  | retry =>
    simp only [EvidenceOp.apply, TrialRegistry.observeRetry, TrialRegistry.update,
      TrialRegistry.state, TrialRegistry.set, if_true]
    cases hcell : trials id with
    | none => simp [EvidenceOp.Quiet]
    | some v =>
      rw [map_some]
      exact stateAt_retry_iff v

theorem tryBegin_state {id : AuthInstanceID} (h : (trials.tryBegin id now).1 = true) :
    trials.state id now = .none ∧ (trials.tryBegin id now).2.state id now = .active := by
  unfold TrialRegistry.tryBegin at h ⊢
  cases hcell : trials id with
  | none =>
    simp [begin, TrialRegistry.state, TrialRegistry.set, hcell, stateAt]
  | some v =>
    rw [hcell] at h
    by_cases hrefused : (v.state = .active || Time.before now v.nextRetry) = true
    · simp [begin, hrefused] at h
    · have hidle : v.state ≠ .active ∧ Time.before now v.nextRetry = false := by
        simpa using hrefused
      have hnone : stateAt (some v) now = .none := by
        unfold stateAt
        cases hstate : v.state with
        | none => simp [hstate]
        | active => exact absurd hstate hidle.1
        | unknown => simp [hstate, hidle.2]
      refine ⟨?_, ?_⟩
      · rw [TrialRegistry.state, hcell]
        exact hnone
      · simp [begin, hidle.1, hidle.2, TrialRegistry.state, TrialRegistry.set,
          stateAt]

theorem liveClass_of_none (h : trials.state a.inst now = .none) :
    liveClass trials a now = classifyAccount { a with trial := .none } now := by
  rw [liveClass, h]

theorem liveClass_of_active (h : trials.state a.inst now = .active) :
    liveClass trials a now = .excluded := by
  rw [liveClass, h]
  simp [classifyAccount]

theorem trials_begin {i : Nat} {call : PickCall} {snapshot : SchedulerSnapshot}
    (h : BeginsTrial w i call snapshot a) (room : Bool) :
    (w.step (.pickStep i room)).shared.trials = (w.shared.trials.tryBegin a.inst call.now).2 := by
  obtain ⟨k, hk, -⟩ := h.next
  simp only [Plugin.step, Plugin.pickStep, hk]
  rfl

/-- A trial leaves another account's class iff that is excluded for its own reason, and evidence its
trial state iff their common cell shows no trial it could end. -/
theorem trial_isolation_iff (now : Time) (events : List Event) :
    (∀ i room call snapshot a b, BeginsTrial ((initial now).run events) i call snapshot a →
        b ∈ snapshot.accounts → b.id ≠ a.id →
        (liveClass (((initial now).run events).step (.pickStep i room)).shared.trials b call.now =
            liveClass ((initial now).run events).shared.trials b call.now ↔
          classifyAccount { b with trial := .none } call.now = .excluded)) ∧
      ∀ e ev snapshot b, evidence ((initial now).run events) e = some ev →
        ((initial now).run events).published = some snapshot → b ∈ snapshot.accounts →
        b.id ≠ ev.authID →
        ((((initial now).run events).step e).shared.trials.state b.inst
              ((initial now).run events).clock =
            ((initial now).run events).shared.trials.state b.inst ((initial now).run events).clock ↔
          ev.op.Quiet (((initial now).run events).shared.trials b.inst)
            ((initial now).run events).clock) := by
  have hbare := bare_run now events
  generalize (initial now).run events = w at hbare ⊢
  constructor
  · intro i room call snapshot a b hbegin hb _
    obtain ⟨k, hk, -⟩ := hbegin.next
    have hzero := hbare.picks _ (mem_of_getElem? hk) snapshot hbegin.works
    have hsame : b.inst = a.inst := (hzero b hb).trans (hzero a hbegin.account).symm
    obtain ⟨hnone, hactive⟩ := tryBegin_state hbegin.begun
    have hbefore : liveClass w.shared.trials b call.now =
        classifyAccount { b with trial := .none } call.now :=
      liveClass_of_none (by rw [hsame]; exact hnone)
    have hafter : liveClass (w.shared.trials.tryBegin a.inst call.now).2 b call.now = .excluded :=
      liveClass_of_active (by rw [hsame]; exact hactive)
    rw [trials_begin hbegin room, hbefore, hafter]
    exact eq_comm
  · intro e ev snapshot b hev hsnap hb _
    obtain ⟨hinst, hstep, hkind⟩ := evidence_spec hbare hev
    have hsame : b.inst = ev.inst := (hbare.published snapshot hsnap b hb).trans hinst.symm
    rw [hstep, hsame]
    exact quiet_iff ev.op ev.inst hkind

private def hostAuth (id : String) : HostAuthFileEntry := ⟨id, "", "", "", "codex", 0⟩

private def refresh (id : String) (outcome : RefreshOutcome) : List Event :=
  [.refreshBegin (hostAuth id) 1, .refreshRun 0 outcome, .refreshApply 0 true]

/-- Two accounts of one tier are refreshed; a pick has read both, before its first `TryBegin`. -/
private def pickOfTwo (second : RefreshOutcome) : List Event :=
  .sync [⟨"a", "", "codex", none⟩, ⟨"b", "", "codex", none⟩] true ::
    (refresh "a" .noAccountID ++ refresh "b" second ++
      .pickStart ⟨"codex", [], [⟨"a", "codex"⟩, ⟨"b", "codex"⟩]⟩ ::
        List.replicate 4 (.pickStep 0 true))

private def view (id : String) (blocked : Bool) : AccountView where
  id := id
  authIndex := ""
  inst := 0
  pluginPriority := 0
  cpaPriority := 0
  family := .unset
  cache := .unknown
  lastKnownAvailable := !blocked
  exhausted := false
  resetAt := 0
  authBlocked := blocked
  circuit := .closed
  temporaryUnavailable := false
  trial := .none
  expiry := 0
  remainingQuota := 0
  quotaPressure := 0

private def blockedRun : Plugin := (initial 1).run (pickOfTwo (.failed none .auth "401"))

private def success : UsageRecord := ⟨"codex", false, "a", "", none, none⟩

theorem trial_isolation_blocked_account :
    liveClass (blockedRun.step (.pickStep 0 true)).shared.trials (view "b" true) 1 =
        liveClass blockedRun.shared.trials (view "b" true) 1 ∧
      (blockedRun.step (.usage success 0)).shared.trials.state 0 blockedRun.clock =
        blockedRun.shared.trials.state 0 blockedRun.clock := by
  obtain ⟨hbegin, hevidence⟩ := trial_isolation_iff 1 (pickOfTwo (.failed none .auth "401"))
  constructor
  · refine (hbegin 0 true _ _ (view "a" false) (view "b" true) ⟨rfl, ?_, ⟨_, rfl, ?_⟩, ?_⟩
      ?_ (by decide)).mpr ?_
    · decide +kernel
    · intro sent
      cases sent with
      | true => exact fun _ => rfl
      | false => rfl
    · decide +kernel
    · decide +kernel
    · decide +kernel
  · refine (hevidence (.usage success 0) ⟨"a", 0, .observe .requestSuccess⟩ _ (view "b" true)
      rfl rfl ?_ (by decide)).mpr ?_
    · decide +kernel
    · exact rfl

/-- The trial begun for the first account excludes the second one too. -/
theorem trial_excludes_other_account :
    ∃ call snapshot,
      BeginsTrial ((initial 1).run (pickOfTwo .noAccountID)) 0 call snapshot (view "a" false) ∧
        view "b" false ∈ snapshot.accounts ∧
        liveClass ((initial 1).run (pickOfTwo .noAccountID)).shared.trials (view "b" false) 1 =
          .opportunistic ∧
        liveClass (((initial 1).run (pickOfTwo .noAccountID)).step
          (.pickStep 0 true)).shared.trials (view "b" false) 1 = .excluded := by
  refine ⟨_, _, ⟨rfl, ?_, ⟨_, rfl, ?_⟩, ?_⟩, ?_, ?_, ?_⟩
  · decide +kernel
  · intro sent
    cases sent with
    | true => exact fun _ => rfl
    | false => rfl
  · decide +kernel
  · decide +kernel
  · decide +kernel
  · decide +kernel

end QuotaScheduler.TrialIsolation

/- Snapshots after a refresh that failed with an auth error (refresh.go, state.go). -/

import QuotaScheduler.AccountUpdates

namespace QuotaScheduler.AuthPark

open Trial Selection Account State Published Roster PluginRuntime StateUpdates PluginActs
open RefreshWrites TrialIsolation AccountUpdates List Plugin PluginState

def parked (s : PluginState) (authID : String) : Bool :=
  (s.accounts.lookup ("auth:" ++ authID)).any (·.refresh.authFailure)

def authFailed : RefreshOutcome → Bool
  | .failed _ .auth _ => true
  | _ => false

/-- The account is not unparked, its refreshes stop or fail so again, no older one is written back,
and rosters keep it. -/
def parkStep (authID : String) (w : Plugin) : Event → Bool
  | .refreshRun i outcome =>
    w.txns[i]?.all fun t => t.ran || stops t.overlay t.auth t.version outcome ||
      parked t.overlay authID && (decide (t.auth.id ≠ authID) || authFailed outcome)
  | .refreshApply i accepted =>
    !accepted || w.txns[i]?.all fun t =>
      decide (t.auth.id ≠ authID) || parked t.overlay authID
  | .unpark id => decide (id ≠ authID)
  | e => keepsAdmitted authID w e

def parks (authID : String) (w : Plugin) : List Event → Bool
  | [] => true
  | e :: es => parkStep authID w e && parks authID (w.step e) es

inductive PublishedFrom (w : Plugin) (e : Event) : Option SchedulerSnapshot → Prop
  | kept : PublishedFrom w e w.published
  | state (active : Option (Finset String)) (now : Time) (trials : TrialRegistry) :
      PublishedFrom w e (some (publishSchedulerState (w.step e).state active now trials))
  | headers (record : UsageRecord) (hit : Nat) (usage : e = .usage record hit)
      (codex : record.provider = "codex" ∧ record.failed = false)
      (active : Option (Finset String)) (now : Time) (trials : TrialRegistry) :
      PublishedFrom w e (some (publishSchedulerState
        (w.applyObservedCodexHeaders record hit).state active now trials))
  | overlay (i : Nat) (outcome : RefreshOutcome) (t : Txn) (a : AccountState)
      (runs : e = .refreshRun i outcome) (txn : w.txns[i]? = some t) (ran : t.ran = false)
      (goesOn : stops t.overlay t.auth t.version outcome = false)
      (writes : Refreshed t.overlay t.auth w.clock outcome a)
      (tidy : Tidy t.overlay → Tidy (t.overlay.setAccount ("auth:" ++ t.auth.id) a))
      (active : Option (Finset String)) (now : Time) (trials : TrialRegistry) :
      PublishedFrom w e (some (publishSchedulerState
        (t.overlay.setAccount ("auth:" ++ t.auth.id) a) active now trials))

variable {e : Event} {s : PluginState}

theorem publishedFrom_of {w : Plugin} {p : Option SchedulerSnapshot} (h : (w.step e).published = p)
    (hp : PublishedFrom w e p) : PublishedFrom w e (w.step e).published := by
  rw [h]
  exact hp

theorem publishedFrom_sync (w : Plugin) (files : List HostFile) (wired : Bool) :
    PublishedFrom w (.sync files wired) (w.step (.sync files wired)).published := by
  rcases finishSync_cases w (listHostAuths files) wired with heq | ⟨admission, current, roster, heq⟩
  · have hkept : (w.step (.sync files wired)).published = w.published := by
      simp only [step, heq, advanceLifecycle, observeRosterLifecycle]
      split <;> rfl
    exact publishedFrom_of hkept .kept
  · have hpublished : (w.step (.sync files wired)).published = some (publishSchedulerState
        (w.step (.sync files wired)).state (some admission.authIDs) w.clock w.shared.trials) := by
      simp only [step, heq, publish]
    exact publishedFrom_of hpublished (.state _ _ _)

variable {record : UsageRecord}

theorem published_handleUsageFeedback (w : Plugin) (hit : Nat) :
    (w.handleUsageFeedback record hit).published = w.published ∨
      (record.provider = "codex" ∧ record.failed = false) ∧
        (w.handleUsageFeedback record hit).published = some (publishSchedulerState
          (w.applyObservedCodexHeaders record hit).state (highestTierSet w.roster.entries) w.clock
          w.shared.trials) := by
  have hheaders : (w.applyObservedCodexHeaders record hit).published = w.published ∨
      (w.applyObservedCodexHeaders record hit).published = some (publishSchedulerState
        (w.applyObservedCodexHeaders record hit).state (highestTierSet w.roster.entries) w.clock
        w.shared.trials) := by
    simp only [applyObservedCodexHeaders, observeQuota]
    split
    · exact .inl rfl
    · next quota _ =>
      cases w.state.observeAccountQuota record.authID record.authIndex hit quota w.clock with
      | none => exact .inl rfl
      | some s => exact .inr rfl
  have hsuccess : ∀ v : Plugin, (v.recordUsageSuccess record hit).published = v.published := by
    intro v
    unfold recordUsageSuccess
    split <;> rfl
  simp only [handleUsageFeedback]
  split
  · exact .inl rfl
  · split
    · next hcodex =>
      rw [hsuccess]
      exact hheaders.imp_right fun h => ⟨by simpa using hcodex, h⟩
    · split <;> exact .inl rfl

theorem published_finishUsageHandle (w : Plugin) :
    (w.finishUsageHandle record).published = w.published ∨
      ∃ active now trials, (w.finishUsageHandle record).published =
        some (publishSchedulerState w.state active now trials) := by
  have hevidence : ∀ snapshot, (w.observeUsageEvidence snapshot record).published = w.published ∧
      (w.observeUsageEvidence snapshot record).state = w.state := by
    intro snapshot
    unfold observeUsageEvidence
    split <;> exact ⟨rfl, rfl⟩
  unfold finishUsageHandle
  split
  · exact .inl rfl
  · next snapshot _ =>
    dsimp only
    split
    · refine .inr ?_
      rw [← (hevidence snapshot).2]
      exact ⟨_, _, _, rfl⟩
    · exact .inl (hevidence snapshot).1

theorem publishedFrom_usage (w : Plugin) (hit : Nat) :
    PublishedFrom w (.usage record hit) (w.step (.usage record hit)).published := by
  rcases published_finishUsageHandle (w.handleUsageFeedback record hit) with
    hsame | ⟨active, now, trials, hagain⟩
  · rcases published_handleUsageFeedback w hit with hkept | ⟨hcodex, hheaders⟩
    · exact publishedFrom_of (hsame.trans hkept) .kept
    · exact publishedFrom_of (hsame.trans hheaders) (.headers record hit rfl hcodex _ _ _)
  · rw [← state_finishUsageHandle (w.handleUsageFeedback record hit)] at hagain
    exact publishedFrom_of hagain (.state active now trials)

theorem publishedFrom_refreshRun (w : Plugin) (i : Nat) (outcome : RefreshOutcome) :
    PublishedFrom w (.refreshRun i outcome) (w.step (.refreshRun i outcome)).published := by
  cases htxn : w.txns[i]? with
  | none => exact publishedFrom_of (p := w.published) (by simp [step, refreshRun, htxn]) .kept
  | some t =>
    cases hran : t.ran with
    | true =>
      exact publishedFrom_of (p := w.published) (by simp [step, refreshRun, htxn, hran]) .kept
    | false =>
      cases hstops : stops t.overlay t.auth t.version outcome with
      | true =>
        refine publishedFrom_of (p := w.published) ?_ .kept
        simp [step, refreshRun, htxn, hran, refreshAuthVersionedHeld_of_stops hstops, setTxn]
      | false =>
        obtain ⟨a, notice, ha, hwrites⟩ := refreshAuthVersionedHeld_writes hstops w.clock
        have htidy := (refreshAuthVersionedHeld_written hwrites).1.tidy
        refine publishedFrom_of ?_ (.overlay i outcome t a rfl htxn hran hstops ha htidy
          (highestTierSet w.roster.entries) w.clock (noticed w.shared.trials w.clock notice))
        simp [step, refreshRun, htxn, hran, hwrites, setTxn, setTrials, publishOverlay]

theorem publishedFrom_step (w : Plugin) (e : Event) : PublishedFrom w e (w.step e).published := by
  cases e with
  | tick d | refreshBegin auth version | requestComplete authID | saveSettings cfg
  | saveAnnotations annotations | importState cfg annotations | pickStart req => exact .kept
  | configure cfg annotations => exact .state _ _ _
  | sync files wired => exact publishedFrom_sync w files wired
  | lifecycle =>
    simp only [step, advanceLifecycle, observeRosterLifecycle]
    split <;> exact .kept
  | refreshRun i outcome => exact publishedFrom_refreshRun w i outcome
  | refreshApply i accepted =>
    simp only [step, refreshApply]
    split
    · exact .kept
    · split <;> exact .kept
  | usage record hit => exact publishedFrom_usage w hit
  | streamObserve authID authIndex hit quota =>
    by_cases hempty : authID = "" ∧ authIndex = "" ∨ quota.fiveHour = none ∧ quota.longWindow = none
    · refine publishedFrom_of (p := w.published) ?_ .kept
      simp only [step, streamObserve, if_pos hempty]
    · refine publishedFrom_of ?_ (.state (highestTierSet w.roster.entries) w.clock w.shared.trials)
      simp only [step, streamObserve, if_neg hempty, observeQuota]
      cases w.state.observeAccountQuota authID authIndex hit quota w.clock <;> rfl
  | reconcileTemporary authID version =>
    have hcases : w.reconcileTemporaryExhausted authID version = w ∨
        ∃ s, w.reconcileTemporaryExhausted authID version = { w with state := s }.republish := by
      unfold reconcileTemporaryExhausted
      split
      · exact .inl rfl
      · split
        · split
          · exact .inr ⟨_, rfl⟩
          · exact .inl rfl
        · exact .inl rfl
    rcases hcases with hsame | ⟨s, hagain⟩
    · exact publishedFrom_of (congrArg published hsame) .kept
    · refine publishedFrom_of ?_ (.state (highestTierSet w.roster.entries) w.clock w.shared.trials)
      simp only [step, hagain]
      rfl
  | unpark authID =>
    cases hclear : w.state.clearAccountAuthFailure authID with
    | none =>
      refine publishedFrom_of (p := w.published) ?_ .kept
      simp only [step, unparkAfterExternalLogin, hclear]
    | some s =>
      refine publishedFrom_of ?_ (.state (highestTierSet w.roster.entries) w.clock w.shared.trials)
      simp only [step, unparkAfterExternalLogin, hclear]
      rfl
  | pickStep i room =>
    simp only [step, pickStep]
    split <;> exact .kept
  | consumeIntent =>
    simp only [step, consumeIntent]
    split <;> exact .kept

def Blocks (authID : String) (p : Option SchedulerSnapshot) : Prop :=
  ∀ snapshot, p = some snapshot → ∀ v ∈ snapshot.accounts, v.id = authID → v.authBlocked = true

theorem holds_of_parked {authID : String} (h : parked s authID = true) :
    Holds (·.refresh.authFailure = true) authID s := by
  unfold parked at h
  cases hlookup : s.accounts.lookup ("auth:" ++ authID) with
  | none => simp [hlookup] at h
  | some a => exact ⟨a, hlookup, by simpa [hlookup] using h⟩

variable {annotations : String → Option Int} {a : AccountState}

theorem authID_annotateAccount : (annotateAccount annotations a).authID = a.authID := by
  unfold annotateAccount
  split <;> rfl

theorem refresh_annotateAccount : (annotateAccount annotations a).refresh = a.refresh := by
  unfold annotateAccount
  split <;> rfl

theorem blocks_publish {authID : String} (htidy : Tidy s)
    (h : Holds (·.refresh.authFailure = true) authID s) (active : Option (Finset String))
    (now : Time) (trials : TrialRegistry) :
    Blocks authID (some (publishSchedulerState s active now trials)) := by
  rintro snapshot hsnapshot v hv hid
  cases hsnapshot
  have haccounts : (publishSchedulerState s active now trials).accounts =
      (s.snapshot now).accounts.map fun a => accountViewFromState a s.cfg now trials := by
    cases active <;> rfl
  rw [haccounts] at hv
  obtain ⟨b, hb, rfl⟩ := List.mem_map.mp hv
  obtain ⟨e, he, rfl⟩ := mem_snapshot_accounts hb
  obtain ⟨a, hlookup, hfailed⟩ := h
  have hkey : e.1 = "auth:" ++ authID := by
    rw [(htidy e he).keyed, ← hid]
    simp only [accountViewFromState, authID_annotateAccount]
    rfl
  have hsame : s.accounts.lookup e.1 = some e.2 := AList.mem_lookup_iff.mpr he
  rw [hkey, hlookup] at hsame
  cases hsame
  simp only [accountViewFromState, refresh_annotateAccount]
  exact hfailed

structure Parked (authID : String) (w : Plugin) : Prop where
  bare : Bare w
  state : Holds (·.refresh.authFailure = true) authID w.state
  published : Blocks authID w.published

variable {authID : String} {w : Plugin} {now : Time}

theorem refresh_reconcileMarker : (reconcileMarker a now).refresh = a.refresh := by
  unfold reconcileMarker
  split_ifs <;> rfl

theorem refresh_applyCircuitSuccess (cfg : Config) :
    (applyCircuitSuccess a cfg now).refresh = a.refresh := by
  unfold applyCircuitSuccess
  simp only
  split_ifs <;> rfl

theorem authFailure_updates (he : parkStep authID w e = true) {f : AccountState → AccountState}
    (hf : Updates ("auth:" ++ authID) w e f) (a : AccountState) (h : a.refresh.authFailure = true) :
    (f a).refresh.authFailure = true := by
  cases hf with
  | observe id index hit quota b found | headers record hit quota codex named read =>
    simp only [observedAccount, refresh_reconcileMarker]
    exact h
  | success record hit codex named | complete id named =>
    simp only [accountSuccess, refresh_applyCircuitSuccess]
    exact h
  | mark record hit event detected named | clearTemporary id version named
  | admits files wired priority => exact h
  | clearAuth id named =>
    have hid : id = authID := by simpa using named.symm
    simp [parkStep, hid] at he

theorem authFailure_refreshed {auth : HostAuthFileEntry} {now : Time} {outcome : RefreshOutcome}
    {a : AccountState} (h : authFailed outcome = true) (ha : Refreshed s auth now outcome a) :
    a.refresh.authFailure = true := by
  cases ha with
  | failed b accountID kind message keeps quota =>
    cases kind with
    | auth => rfl
    | none | transient | localOnly => cases h
  | noAccountID b keeps quota | read b id keeps => cases h

theorem keepsAdmitted_of_parkStep (he : parkStep authID w e = true) :
    keepsAdmitted authID w e = true := by
  cases e <;> first | rfl | exact he

theorem Parked.step (h : Parked authID w) (e : Event) (he : parkStep authID w e = true) :
    Parked authID (w.step e) := by
  have hbare := h.bare.step e
  have hstate : Holds (·.refresh.authFailure = true) authID (w.step e).state := by
    refine h.state.step h.bare e (keepsAdmitted_of_parkStep he)
      (fun f hf => authFailure_updates he hf) ?_
    rintro i t a rfl ht _ hid hlookup
    have hparked : parked t.overlay authID = true := by
      simpa [parkStep, ht, hid] using he
    simpa [parked, hlookup] using hparked
  refine ⟨hbare, hstate, ?_⟩
  have hfrom := publishedFrom_step w e
  generalize (w.step e).published = p at hfrom ⊢
  cases hfrom with
  | kept => exact h.published
  | state active now trials => exact blocks_publish hbare.state hstate active now trials
  | headers record hit usage codex active now trials =>
    subst usage
    have hheaders := h.state.applyObservedCodexHeaders codex fun f hf => authFailure_updates he hf
    have htidy : Tidy (w.applyObservedCodexHeaders record hit).state :=
      (invariant_acts (fun _ _ hw hact => .act hw hact) h.bare
        (acts_applyObservedCodexHeaders w record hit)).state
    exact blocks_publish htidy hheaders active now trials
  | overlay i outcome t a runs txn ran goesOn writes tidy active now trials =>
    subst runs
    have hmem := mem_of_getElem? txn
    obtain ⟨hparked, hother⟩ : parked t.overlay authID = true ∧
        (t.auth.id ≠ authID ∨ authFailed outcome = true) := by
      simpa [parkStep, txn, ran, goesOn] using he
    have hoverlay : Holds (·.refresh.authFailure = true) authID
        (t.overlay.setAccount ("auth:" ++ t.auth.id) a) := by
      refine (holds_of_parked hparked).setAccount fun hkey => ?_
      have hid : t.auth.id = authID := by simpa using hkey
      exact authFailure_refreshed (hother.resolve_left fun hne => hne hid) writes
    exact blocks_publish (tidy (h.bare.txns t hmem)) hoverlay active now trials

theorem Parked.run (h : Parked authID w) (es : List Event) (hes : parks authID w es = true) :
    Parked authID (w.run es) := by
  induction es generalizing w with
  | nil => exact h
  | cons e es ih =>
    simp only [parks, Bool.and_eq_true] at hes
    exact ih (h.step e hes.1) hes.2

theorem classifyAccount_of_authBlocked {v : AccountView} (h : v.authBlocked = true) :
    classifyAccount v now = .excluded := by
  simp [classifyAccount, h]

def silent : Event → Bool
  | .tick _ => true
  | .requestComplete _ => true
  | .saveSettings _ => true
  | .saveAnnotations _ => true
  | .importState _ _ => true
  | .pickStart _ => true
  | .pickStep _ _ => true
  | .consumeIntent => true
  | _ => false

theorem silent_run (es : List Event) (hes : es.all silent = true) (w : Plugin) :
    (w.run es).published = w.published ∧ (w.run es).txns = w.txns := by
  induction es generalizing w with
  | nil => exact ⟨rfl, rfl⟩
  | cons e es ih =>
    rw [all_cons, Bool.and_eq_true] at hes
    have hstep : (w.step e).published = w.published ∧ (w.step e).txns = w.txns := by
      cases e with
      | pickStep i room =>
        simp only [step, pickStep]
        split <;> exact ⟨rfl, rfl⟩
      | consumeIntent =>
        simp only [step, consumeIntent]
        split <;> exact ⟨rfl, rfl⟩
      | _ => first | exact ⟨rfl, rfl⟩ | cases hes.1
    obtain ⟨hpublished, htxns⟩ := ih hes.2 (w.step e)
    exact ⟨hpublished.trans hstep.1, htxns.trans hstep.2⟩

/-- A refresh of `t.auth.id` fails with an auth error and is written back. -/
def failAndApply (w : Plugin) (i : Nat) (accountID : Option String) (message : String)
    (middle : List Event) : Plugin :=
  ((w.step (.refreshRun i (.failed accountID .auth message))).run middle).step
    (.refreshApply i true)

theorem parked_failAndApply (hbare : Bare w) {i : Nat} {t : Txn} (htxn : w.txns[i]? = some t)
    (hran : t.ran = false) (hadmitted : t.overlay.admissionCurrentLocked t.auth.id t.version = true)
    (accountID : Option String) (message : String) {middle : List Event}
    (hmiddle : middle.all silent = true) :
    Parked t.auth.id (failAndApply w i accountID message middle) := by
  have hstops : stops t.overlay t.auth t.version (.failed accountID .auth message) = false := by
    simp [stops, hadmitted]
  obtain ⟨a, notice, ha, hwrites⟩ := refreshAuthVersionedHeld_writes hstops w.clock
  have hfailed := authFailure_refreshed rfl ha
  have hoverlay : Holds (·.refresh.authFailure = true) t.auth.id
      (t.overlay.setAccount ("auth:" ++ t.auth.id) a) := ⟨a, AList.lookup_insert _, hfailed⟩
  have htidy := (refreshAuthVersionedHeld_written hwrites).1.tidy
    (hbare.txns t (mem_of_getElem? htxn))
  obtain ⟨hsame, htxns⟩ := silent_run middle hmiddle
    (w.step (.refreshRun i (.failed accountID .auth message)))
  have hready : ((w.step (.refreshRun i (.failed accountID .auth message))).run middle).txns[i]? =
      some { t with overlay := t.overlay.setAccount ("auth:" ++ t.auth.id) a, ran := true } := by
    rw [htxns]
    simp only [step, refreshRun, htxn, hran, hwrites, Bool.false_eq_true, if_false]
    exact getElem?_set_self (List.getElem?_eq_some_iff.mp htxn).1
  have hshown : ((w.step (.refreshRun i (.failed accountID .auth message))).run
      middle).published = some (publishSchedulerState
        (t.overlay.setAccount ("auth:" ++ t.auth.id) a) (highestTierSet w.roster.entries) w.clock
        (noticed w.shared.trials w.clock notice)) := by
    rw [hsame]
    simp [step, refreshRun, htxn, hran, hwrites, setTxn, setTrials, publishOverlay]
  have hbare' := ((hbare.step (.refreshRun i (.failed accountID .auth message))).run middle).step
    (.refreshApply i true)
  unfold failAndApply
  generalize (w.step (.refreshRun i (.failed accountID .auth message))).run middle = next at *
  refine ⟨hbare', ⟨a, ?_, hfailed⟩, ?_⟩
  · simp only [step, refreshApply, hready, Bool.and_true, if_true]
    rw [lookup_journal htidy, if_pos rfl]
    simp [setAccount]
  · simp only [step, refreshApply, hready, Bool.and_true, if_true]
    rw [hshown]
    exact blocks_publish htidy hoverlay _ _ _

/-- From an auth failure on, the account is shown only as excluded, under the condition. -/
theorem parked_account_excluded (now : Time) (before middle after : List Event) (i : Nat) (t : Txn)
    (accountID : Option String) (message : String)
    (htxn : ((initial now).run before).txns[i]? = some t) (hran : t.ran = false)
    (hadmitted : t.overlay.admissionCurrentLocked t.auth.id t.version = true)
    (hmiddle : middle.all silent = true)
    (hafter : parks t.auth.id (failAndApply ((initial now).run before) i accountID message middle)
      after = true)
    (snapshot : SchedulerSnapshot)
    (hpublished : ((failAndApply ((initial now).run before) i accountID message middle).run
      after).published = some snapshot)
    (v : AccountView) (hv : v ∈ snapshot.accounts) (hid : v.id = t.auth.id) (later : Time) :
    classifyAccount v later = .excluded := by
  have hparked := parked_failAndApply (bare_run now before) htxn hran hadmitted accountID message
    hmiddle
  have hblocks := (hparked.run after hafter).published
  exact classifyAccount_of_authBlocked (hblocks snapshot hpublished v hv hid)

private def refreshing : List Event :=
  [.sync [⟨"a", "", "codex", none⟩] true, .refreshBegin ⟨"a", "", "", "", "codex", 0⟩ 1,
    .refreshRun 0 (.read "acct" ⟨.weekly, none,
      some { usedPercent := some 40, resetAt := 10 * hour }⟩),
    .refreshApply 0 true,
    .refreshBegin ⟨"a", "", "", "", "codex", 0⟩ 1]

private def refused : Plugin :=
  failAndApply ((initial 1).run refreshing) 0 none "refresh access token: 401" [.tick 60000000000]

private def secondRefresh : Txn :=
  ((initial 1).run refreshing).txns[0]?.get (by decide +kernel)

private def stillRefused : List Event :=
  [.usage ⟨"codex", true, "a", "", none, some none⟩ 0,
    .refreshBegin ⟨"a", "", "", "", "codex", 0⟩ 1,
    .refreshRun 0 (.failed none .auth "refresh access token: 401"),
    .refreshApply 0 true, .tick 60000000000]

private def lastShown : SchedulerSnapshot :=
  (refused.run stillRefused).published.get (by decide +kernel)

theorem refused_account_excluded :
    classifyAccount (lastShown.accounts.head (by decide +kernel)) (3 * hour) = .excluded :=
  parked_account_excluded 1 refreshing [.tick 60000000000] stillRefused 0 secondRefresh none
    "refresh access token: 401" (Option.some_get _).symm (by decide +kernel) (by decide +kernel)
    (by decide) (by decide +kernel) lastShown (Option.some_get _).symm _ (head_mem _)
    (by decide +kernel) _

private def shownClasses (w : Plugin) : Option (List AvailabilityClass) :=
  w.published.map fun snapshot => snapshot.accounts.map (classifyAccount · w.clock)

/-- It is a candidate again after an external login, and after a timed out refresh. -/
theorem refused_account_shown_again :
    shownClasses refused = some [.excluded] ∧
      shownClasses (refused.step (.unpark "a")) = some [.preferred] ∧
      shownClasses (refused.run
        [.refreshBegin ⟨"a", "", "", "", "codex", 0⟩ 1,
          .refreshRun 0 (.failed none .transient "timeout"),
          .refreshApply 0 true]) = some [.preferred] := by
  decide +kernel

end QuotaScheduler.AuthPark

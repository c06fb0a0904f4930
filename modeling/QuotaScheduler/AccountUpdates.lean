/- What one event can do to one account, in the state and in the copies of refreshes. -/

import QuotaScheduler.RefreshWrites
import QuotaScheduler.TrialIsolation

namespace QuotaScheduler.AccountUpdates

open Selection Account State Roster PluginRuntime StateUpdates PluginActs
open RefreshWrites TrialIsolation List Option Plugin PluginState

def Holds (P : AccountState → Prop) (authID : String) (s : PluginState) : Prop :=
  ∃ a, s.accounts.lookup ("auth:" ++ authID) = some a ∧ P a

/-- The record names the account of a key, by its auth ID or index. -/
def concerns (s : PluginState) (record : UsageRecord) (key : String) : Bool :=
  decide (key = "auth:" ++ record.authID) || (s.accounts.lookup key).any fun b =>
    decide (record.authIndex ≠ "") && decide (b.authIndex = record.authIndex)

/-- The changes an event may make to the account stored under a key. -/
inductive Updates (key : String) (w : Plugin) : Event → (AccountState → AccountState) → Prop
  | observe (authID authIndex : String) (hit : Nat) (quota : ParsedQuota) (a : AccountState)
      (found : w.state.findAccountLocked authID authIndex hit = some (key, a)) :
      Updates key w (.streamObserve authID authIndex hit quota)
        (PluginState.observedAccount · quota w.clock)
  | headers (record : UsageRecord) (hit : Nat) (quota : ParsedQuota)
      (codex : record.provider = "codex" ∧ record.failed = false)
      (named : concerns w.state record key = true) (read : record.headers = some quota) :
      Updates key w (.usage record hit) (PluginState.observedAccount · quota w.clock)
  | success (record : UsageRecord) (hit : Nat)
      (codex : record.provider = "codex" ∧ record.failed = false)
      (named : concerns w.state record key = true) :
      Updates key w (.usage record hit) (PluginState.accountSuccess w.state.cfg · w.clock)
  | complete (authID : String) (named : key = "auth:" ++ authID) :
      Updates key w (.requestComplete authID) (PluginState.accountSuccess w.state.cfg · w.clock)
  | mark (record : UsageRecord) (hit : Nat) (event : QuotaFailureEvent)
      (detected : detectQuotaFailure record w.clock = some event)
      (named : concerns w.state record key = true) :
      Updates key w (.usage record hit) (markTemporaryExhausted · event.resetAt event.reason)
  | clearTemporary (authID : String) (version : Nat) (named : key = "auth:" ++ authID) :
      Updates key w (.reconcileTemporary authID version)
        fun a => { a with temporaryExhausted := false, temporaryResetAt := Time.zero }
  | clearAuth (authID : String) (named : key = "auth:" ++ authID) :
      Updates key w (.unpark authID)
        fun a => { a with refresh := { a.refresh with
          authFailure := false
          retryAttempt := 0
          nextRetryAt := Time.zero } }
  | admits (files : List HostFile) (wired : Bool) (priority : Int) :
      Updates key w (.sync files wired) fun a => { a with priority := priority }

def keepsAdmitted (authID : String) (w : Plugin) : Event → Bool
  | .sync files _ =>
    (highestCodexTier (listHostAuths files)).all fun top =>
      (rosterAdmission w.state.cfg (filterRosterEntries (listHostAuths files) top.2)).all
        fun admission => decide (authID ∈ admission.authIDs)
  | _ => true

/-- What is stored of an auth's account before and after an event. -/
inductive Moved (authID : String) (w : Plugin) (e : Event) :
    Option AccountState → Option AccountState → Prop
  | kept (o : Option AccountState) : Moved authID w e o o
  | updated (a : AccountState) (f : AccountState → AccountState)
      (update : Updates ("auth:" ++ authID) w e f) : Moved authID w e (some a) (some (f a))
  | observed (a : AccountState) (record : UsageRecord) (hit : Nat) (quota : ParsedQuota)
      (usage : e = .usage record hit) (codex : record.provider = "codex" ∧ record.failed = false)
      (named : concerns w.state record ("auth:" ++ authID) = true)
      (read : record.headers = some quota) :
      Moved authID w e (some a) (some (PluginState.accountSuccess w.state.cfg
        (PluginState.observedAccount a quota w.clock) w.clock))
  | marked (record : UsageRecord) (hit : Nat) (event : QuotaFailureEvent)
      (usage : e = .usage record hit) (detected : detectQuotaFailure record w.clock = some event)
      (named : concerns w.state record ("auth:" ++ authID) = true) :
      Moved authID w e none
        (some (markTemporaryExhausted { authID := authID } event.resetAt event.reason))
  | dropped (a : AccountState) (unadmitted : keepsAdmitted authID w e = false) :
      Moved authID w e (some a) none
  | written (i : Nat) (t : Txn) (o : Option AccountState) (b : AccountState)
      (applies : e = .refreshApply i true) (txn : w.txns[i]? = some t) (ran : t.ran = true)
      (id : t.auth.id = authID) (copy : t.overlay.accounts.lookup ("auth:" ++ authID) = some b) :
      Moved authID w e o (some b)

/-- The auth's account moves from the plugin's to the state's. -/
abbrev MovesTo (authID : String) (w : Plugin) (e : Event) (s : PluginState) : Prop :=
  Moved authID w e (w.state.accounts.lookup ("auth:" ++ authID))
    (s.accounts.lookup ("auth:" ++ authID))

theorem lookup_setAccount (s : PluginState) (key key' : String) (a : AccountState) :
    (s.setAccount key a).accounts.lookup key' =
      if key' = key then some a else s.accounts.lookup key' := by
  by_cases hkey : key' = key
  · subst hkey
    rw [if_pos rfl]
    exact AList.lookup_insert _
  · rw [if_neg hkey]
    exact AList.lookup_insert_ne hkey

variable {s : PluginState} {key : String} {hit : Nat} {record : UsageRecord} {b : AccountState}

theorem findAccountLocked_named {authID : String} {a : AccountState}
    (h : s.findAccountLocked authID "" hit = some (key, a)) : key = "auth:" ++ authID := by
  unfold findAccountLocked at h
  split at h
  · cases h
    rfl
  · simp at h

theorem state_finishUsageHandle (w : Plugin) : (w.finishUsageHandle record).state = w.state := by
  have hevidence : ∀ snapshot, (w.observeUsageEvidence snapshot record).state = w.state := by
    intro snapshot
    unfold observeUsageEvidence
    split <;> rfl
  unfold finishUsageHandle
  split
  · rfl
  · dsimp only
    split
    · exact hevidence _
    · exact hevidence _

theorem names_detectQuotaFailure {now : Time} {event : QuotaFailureEvent}
    (h : detectQuotaFailure record now = some event) :
    event.authID = record.authID ∧ event.authIndex = record.authIndex := by
  unfold detectQuotaFailure at h
  split at h
  · split at h
    · cases h
    · cases h
      exact ⟨rfl, rfl⟩
    · cases h
      exact ⟨rfl, rfl⟩
  · cases h

theorem concerns_of_found {authID : String} (hid : authID = record.authID ∨ authID = "")
    (h : s.findAccountLocked authID record.authIndex hit = some (key, b)) :
    concerns s record key = true := by
  have hlookup := findAccountLocked_lookup h
  unfold findAccountLocked at h
  split at h
  · next c hc =>
    cases h
    rcases hid with rfl | rfl
    · simp [concerns]
    · cases hc
  · split at h
    · next hindex =>
      obtain ⟨e, he, heq⟩ := map_eq_some_iff.mp h
      cases heq
      have hsame := (mem_filter.mp (mem_of_getElem? he)).2
      simp [concerns, hlookup, hindex, hsame]
    · cases h

theorem authIndex_reconcileMarker (a : AccountState) (now : Time) :
    (reconcileMarker a now).authIndex = a.authIndex := by
  unfold reconcileMarker
  split_ifs <;> rfl

theorem authIndex_observedAccount (a : AccountState) (quota : ParsedQuota) (now : Time) :
    (observedAccount a quota now).authIndex = a.authIndex :=
  authIndex_reconcileMarker _ _

variable {authID : String} {w : Plugin}

theorem lookup_found {id index key' : String}
    (hfound : s.findAccountLocked id index hit = some (key, b)) (f : AccountState → AccountState) :
    (s.setAccount key (f b)).accounts.lookup key' = s.accounts.lookup key' ∨
      key = key' ∧ s.accounts.lookup key' = some b ∧
        (s.setAccount key (f b)).accounts.lookup key' = some (f b) := by
  rw [lookup_setAccount]
  by_cases hkey : key' = key
  · subst hkey
    exact .inr ⟨rfl, findAccountLocked_lookup hfound, if_pos rfl⟩
  · exact .inl (if_neg hkey)

theorem moved_found {e : Event} {id index : String}
    (hfound : w.state.findAccountLocked id index hit = some (key, b))
    {f : AccountState → AccountState}
    (hf : key = "auth:" ++ authID → Updates ("auth:" ++ authID) w e f) :
    MovesTo authID w e (w.state.setAccount key (f b)) := by
  unfold MovesTo
  rcases lookup_found hfound f with hsame | ⟨hkey, hbefore, hafter⟩
  · rw [hsame]
    exact .kept _
  · rw [hbefore, hafter]
    exact .updated b f (hf hkey)

theorem moved_sync (hbare : Bare w) (files : List HostFile) (wired : Bool) :
    MovesTo authID w (.sync files wired) (w.step (.sync files wired)).state := by
  have hlifecycle : MovesTo authID w (.sync files wired) w.advanceLifecycle.state := by
    simp only [advanceLifecycle, observeRosterLifecycle]
    split <;> exact .kept _
  simp only [step, finishSync, publishAuthoritativeRoster]
  split
  · exact hlifecycle
  · next priority ids htop =>
    cases hroster : rosterAdmission w.state.cfg
      (filterRosterEntries (listHostAuths files) ids) with
    | none => exact hlifecycle
    | some admission =>
      cases wired with
      | false => exact hlifecycle
      | true =>
        have hmoved : MovesTo authID w (.sync files true)
            (w.state.replaceCPAAdmission admission) := by
          unfold MovesTo
          rcases lookup_replaceCPAAdmission w.state admission ("auth:" ++ authID) with
            hsame | hadmitted
          · rw [hsame]
            exact .kept _
          · rw [hadmitted]
            cases hlookup : w.state.accounts.lookup ("auth:" ++ authID) with
            | none => exact .kept _
            | some a =>
              have hid : a.authID = authID := by
                simpa using (hbare.state.lookup hlookup).keyed.symm
              rw [bind_some, admitted]
              split
              · exact .updated a _ (.admits files true _)
              · next hout =>
                rw [hid] at hout
                refine .dropped a ?_
                simp [keepsAdmitted, htop, hroster, hout]
        simp only [if_true, observeRosterLifecycle]
        split <;> exact hmoved

structure SameRecords (record : UsageRecord) (w w' : Plugin) : Prop where
  cfg : w'.state.cfg = w.state.cfg
  clock : w'.clock = w.clock
  concerns : ∀ key, concerns w'.state record key = concerns w.state record key

theorem applyObservedCodexHeaders_cases (w : Plugin) (authID : String) (record : UsageRecord)
    (hit : Nat) :
    SameRecords record w (w.applyObservedCodexHeaders record hit) ∧
      ((w.applyObservedCodexHeaders record hit).state.accounts.lookup ("auth:" ++ authID) =
          w.state.accounts.lookup ("auth:" ++ authID) ∨
        ∃ a quota, w.state.accounts.lookup ("auth:" ++ authID) = some a ∧
          (w.applyObservedCodexHeaders record hit).state.accounts.lookup ("auth:" ++ authID) =
            some (observedAccount a quota w.clock) ∧
          concerns w.state record ("auth:" ++ authID) = true ∧ record.headers = some quota) := by
  simp only [applyObservedCodexHeaders, observeQuota, observeAccountQuota]
  split
  · exact ⟨⟨rfl, rfl, fun _ => rfl⟩, .inl rfl⟩
  · next quota hquota =>
    cases hfound : w.state.findAccountLocked record.authID record.authIndex hit with
    | none => exact ⟨⟨rfl, rfl, fun _ => rfl⟩, .inl rfl⟩
    | some found =>
      have hnamed := concerns_of_found (.inl rfl) hfound
      refine ⟨⟨rfl, rfl, fun key => ?_⟩, ?_⟩
      · simp only [map_some, getD_some, concerns, republish, publish,
          lookup_setAccount]
        split
        · next hkey =>
          rw [hkey, findAccountLocked_lookup hfound]
          simp [authIndex_observedAccount]
        · rfl
      · rcases lookup_found hfound (observedAccount · quota w.clock) with
          hsame | ⟨hkey, hbefore, hafter⟩
        · exact .inl hsame
        · exact .inr ⟨found.2, quota, hbefore, hafter, hkey ▸ hnamed, hquota⟩

theorem moved_usageSuccess (hit : Nat)
    (hcodex : record.provider = "codex" ∧ record.failed = false) :
    MovesTo authID w (.usage record hit)
      ((w.applyObservedCodexHeaders record hit).recordUsageSuccess record hit).state := by
  obtain ⟨hsame, hheaders⟩ := applyObservedCodexHeaders_cases w authID record hit
  generalize w.applyObservedCodexHeaders record hit = observed at hsame hheaders ⊢
  unfold MovesTo
  have hobserved : MovesTo authID w (.usage record hit) observed.state := by
    unfold MovesTo
    rcases hheaders with hkept | ⟨a, quota, hbefore, hafter, hnamed, hread⟩
    · rw [hkept]
      exact .kept _
    · rw [hbefore, hafter]
      exact .updated a _ (.headers record hit quota hcodex hnamed hread)
  simp only [recordUsageSuccess]
  split
  · simp only [recordAccountSuccess]
    split
    · exact hobserved
    · next key b hfound =>
      have hnamed := concerns_of_found (.inl rfl) hfound
      rw [hsame.concerns] at hnamed
      rw [hsame.cfg, hsame.clock]
      rcases lookup_found hfound (accountSuccess w.state.cfg · w.clock) with
        hother | ⟨hkey, hstored, hafter⟩
      · rw [hother]
        exact hobserved
      · subst hkey
        rw [hafter]
        rcases hheaders with hkept | ⟨a, quota, hbefore, hobserves, -, hread⟩
        · rw [← hkept, hstored]
          exact .updated b _ (.success record hit hcodex hnamed)
        · rw [hobserves] at hstored
          cases hstored
          rw [hbefore]
          exact .observed a record hit quota rfl hcodex hnamed hread
  · exact hobserved

theorem moved_usageFailure (hit : Nat) {event : QuotaFailureEvent}
    (hdetected : detectQuotaFailure record w.clock = some event) :
    MovesTo authID w (.usage record hit) (markUsageFailure w.state event hit) := by
  unfold MovesTo
  obtain ⟨hid, hindex⟩ := names_detectQuotaFailure hdetected
  simp only [markUsageFailure]
  split
  · simp only [markAccountTemporaryExhausted]
    split
    · exact .kept _
    · rw [lookup_setAccount]
      split
      · next hkey =>
        have hnamed : concerns w.state record ("auth:" ++ authID) = true := by
          rw [hkey, hid]
          simp [concerns]
        obtain rfl : authID = event.authID := by simpa using hkey
        cases w.state.accounts.lookup ("auth:" ++ event.authID) with
        | none => exact .marked record hit event rfl hdetected hnamed
        | some a => exact .updated a _ (.mark record hit event hdetected hnamed)
      · exact .kept _
  · simp only [markAccountTemporaryExhaustedByAuthIndex]
    split
    · exact .kept _
    · next key b hfound =>
      rw [hindex] at hfound
      have hnamed := concerns_of_found (.inr rfl) hfound
      exact moved_found (f := (markTemporaryExhausted · event.resetAt event.reason)) hfound
        fun hkey => .mark record hit event hdetected (hkey ▸ hnamed)

theorem moved_usage (hit : Nat) :
    MovesTo authID w (.usage record hit) (w.step (.usage record hit)).state := by
  simp only [step, handleUsageHandle]
  rw [state_finishUsageHandle]
  simp only [handleUsageFeedback]
  split
  · exact .kept _
  · split
    · next hcodex => exact moved_usageSuccess hit (by simpa using hcodex)
    · split
      · exact .kept _
      · next event hdetected => exact moved_usageFailure hit hdetected

theorem moved_refreshApply (hbare : Bare w) (i : Nat) (accepted : Bool) :
    MovesTo authID w (.refreshApply i accepted) (w.step (.refreshApply i accepted)).state := by
  unfold MovesTo
  simp only [step, refreshApply]
  split
  · exact .kept _
  · next t ht =>
    split
    · next hran =>
      obtain ⟨rfl, hran⟩ : accepted = true ∧ t.ran = true := by simpa using hran
      rw [lookup_journal (hbare.txns t (mem_of_getElem? ht))]
      split
      · next hkey =>
        have hid : t.auth.id = authID := by simpa using hkey.symm
        cases hcopy : t.overlay.accounts.lookup ("auth:" ++ authID) with
        | none => exact .kept _
        | some b => exact .written i t _ b rfl ht hran hid hcopy
      · exact .kept _
    · exact .kept _

theorem moved_step (hbare : Bare w) (authID : String) (e : Event) :
    Moved authID w e (w.state.accounts.lookup ("auth:" ++ authID))
      ((w.step e).state.accounts.lookup ("auth:" ++ authID)) := by
  cases e with
  | sync files wired => exact moved_sync hbare files wired
  | lifecycle =>
    simp only [step, advanceLifecycle, observeRosterLifecycle]
    split <;> exact .kept _
  | refreshRun i outcome =>
    simp only [step, refreshRun]
    split
    · exact .kept _
    · split
      · exact .kept _
      · split <;> exact .kept _
  | refreshApply i accepted => exact moved_refreshApply hbare i accepted
  | usage record hit => exact moved_usage hit
  | requestComplete id =>
    simp only [step, recordAccountSuccess]
    split
    · exact .kept _
    · next key b hfound =>
      exact moved_found (f := (accountSuccess w.state.cfg · w.clock)) hfound
        fun hkey => .complete id (hkey ▸ findAccountLocked_named hfound)
  | streamObserve id index hit quota =>
    simp only [step, streamObserve, observeQuota, observeAccountQuota]
    split
    · exact .kept _
    · cases hfound : w.state.findAccountLocked id index hit with
      | none => exact .kept _
      | some found =>
        exact moved_found (f := (observedAccount · quota w.clock)) hfound fun hkey =>
          .observe id index hit quota found.2 (by rw [hfound, ← hkey])
  | reconcileTemporary id version =>
    simp only [step, reconcileTemporaryExhausted, clearAccountTemporaryExhausted]
    split
    · exact .kept _
    · split
      · split
        · next s hs =>
          split at hs
          · cases hs
          · next key b hfound =>
            split at hs
            · cases hs
              exact moved_found
                (f := fun a => { a with temporaryExhausted := false, temporaryResetAt := .zero })
                hfound fun hkey =>
                  .clearTemporary id version (hkey ▸ findAccountLocked_named hfound)
            · cases hs
        · exact .kept _
      · exact .kept _
  | unpark id =>
    simp only [step, unparkAfterExternalLogin, clearAccountAuthFailure]
    split
    · next s hs =>
      split at hs
      · cases hs
      · next key b hfound =>
        split at hs
        · cases hs
          exact moved_found
            (f := fun a => { a with refresh := { a.refresh with
              authFailure := false
              retryAttempt := 0
              nextRetryAt := .zero } })
            hfound fun hkey => .clearAuth id (hkey ▸ findAccountLocked_named hfound)
        · cases hs
    · exact .kept _
  | pickStep i room =>
    simp only [step, pickStep]
    split <;> exact .kept _
  | consumeIntent =>
    simp only [step, consumeIntent]
    split <;> exact .kept _
  | _ => exact .kept _

variable {P : AccountState → Prop}

theorem Holds.setAccount (h : Holds P authID s) (hb : key = "auth:" ++ authID → P b) :
    Holds P authID (s.setAccount key b) := by
  obtain ⟨a, hlookup, ha⟩ := h
  unfold Holds
  rw [lookup_setAccount]
  split
  · next hkey => exact ⟨b, rfl, hb hkey.symm⟩
  · exact ⟨a, hlookup, ha⟩

theorem Holds.applyObservedCodexHeaders (h : Holds P authID w.state)
    (hcodex : record.provider = "codex" ∧ record.failed = false)
    (hupdates : ∀ f, Updates ("auth:" ++ authID) w (.usage record hit) f → ∀ a, P a → P (f a)) :
    Holds P authID (w.applyObservedCodexHeaders record hit).state := by
  obtain ⟨a, hlookup, ha⟩ := h
  unfold Holds
  rcases (applyObservedCodexHeaders_cases w authID record hit).2 with
    hkept | ⟨b, quota, hbefore, hafter, hnamed, hread⟩
  · rw [hkept]
    exact ⟨a, hlookup, ha⟩
  · rw [hlookup] at hbefore
    cases hbefore
    exact ⟨_, hafter, hupdates _ (.headers record hit quota hcodex hnamed hread) a ha⟩

theorem Holds.step (hbare : Bare w) (h : Holds P authID w.state) (e : Event)
    (hadmits : keepsAdmitted authID w e = true)
    (hupdates : ∀ f, Updates ("auth:" ++ authID) w e f → ∀ a, P a → P (f a))
    (hjournal : ∀ i t a, e = .refreshApply i true → w.txns[i]? = some t → t.ran = true →
      t.auth.id = authID → t.overlay.accounts.lookup ("auth:" ++ authID) = some a → P a) :
    Holds P authID (w.step e).state := by
  obtain ⟨a, hlookup, ha⟩ := h
  have hmoved := moved_step hbare authID e
  rw [hlookup] at hmoved
  unfold Holds
  generalize (w.step e).state.accounts.lookup ("auth:" ++ authID) = o at hmoved ⊢
  cases hmoved with
  | kept => exact ⟨a, rfl, ha⟩
  | updated a f update => exact ⟨f a, rfl, hupdates f update a ha⟩
  | observed a record hit quota usage codex named read =>
    subst usage
    have hobserved := hupdates _ (.headers record hit quota codex named read) a ha
    exact ⟨_, rfl, hupdates _ (.success record hit codex named) _ hobserved⟩
  | dropped a unadmitted =>
    rw [hadmits] at unadmitted
    cases unadmitted
  | written i t o b applies txn ran id copy =>
    exact ⟨b, rfl, hjournal i t b applies txn ran id copy⟩

/-- Where a transaction that is open after an event comes from. -/
inductive TxnFrom (w : Plugin) (e : Event) : Txn → Prop
  | old (t : Txn) (mem : t ∈ w.txns) : TxnFrom w e t
  | copied (auth : HostAuthFileEntry) (version : Nat) (begins : e = .refreshBegin auth version) :
      TxnFrom w e ⟨auth, version, w.state, false⟩
  | stopped (i : Nat) (outcome : RefreshOutcome) (t : Txn) (runs : e = .refreshRun i outcome)
      (txn : w.txns[i]? = some t) : TxnFrom w e { t with ran := true }
  | refreshed (i : Nat) (outcome : RefreshOutcome) (t : Txn) (a : AccountState)
      (runs : e = .refreshRun i outcome) (txn : w.txns[i]? = some t)
      (writes : Refreshed t.overlay t.auth w.clock outcome a) :
      TxnFrom w e { t with overlay := t.overlay.setAccount ("auth:" ++ t.auth.id) a, ran := true }

theorem txnFrom_step (e : Event) {t : Txn} (h : t ∈ (w.step e).txns) : TxnFrom w e t := by
  by_cases he : ofTxn e = false
  · rw [(step_txns w [] e he).2] at h
    exact .old t h
  · cases e with
    | refreshBegin auth version =>
      rcases mem_append.mp h with hold | hnew
      · exact .old t hold
      · rw [mem_singleton.mp hnew]
        exact .copied auth version rfl
    | refreshRun i outcome =>
      simp only [step, refreshRun] at h
      split at h
      · exact .old t h
      · next u hu =>
        split at h
        · exact .old t h
        · split at h
          · rcases mem_or_eq_of_mem_set h with hold | rfl
            · exact .old t hold
            · exact .stopped i outcome u rfl hu
          · next overlay notice hrun =>
            obtain ⟨a, ha, rfl⟩ := refreshAuthVersionedHeld_some hrun
            rcases mem_or_eq_of_mem_set h with hold | rfl
            · exact .old t hold
            · exact .refreshed i outcome u a rfl hu ha
    | refreshApply i accepted =>
      simp only [step, refreshApply] at h
      split at h
      · exact .old t h
      · split at h
        · exact .old t (mem_of_mem_eraseIdx h)
        · exact .old t (mem_of_mem_eraseIdx h)
    | _ => exact absurd rfl he

end QuotaScheduler.AccountUpdates

/- What a refresh and its journal write (refresh.go, state.go). -/

import QuotaScheduler.StateUpdates

namespace QuotaScheduler.RefreshWrites

open Account State PluginRuntime StateUpdates List AList PluginState RefreshNotice

/-- The stored account of an auth under the names of the host, or a new one. -/
def refreshBase (s : PluginState) (auth : HostAuthFileEntry) (now : Time) : AccountState :=
  mergeExistingAccount s
    { accountStateFromAuth auth now with priority := s.admissionPriorityLocked auth.id } now

variable {a : AccountState}

theorem accountStateKey_annotateAccount (annotations : String → Option Int) :
    accountStateKey (annotateAccount annotations a) = accountStateKey a := by
  unfold annotateAccount
  split <;> rfl

variable {b : AccountState} {auth : HostAuthFileEntry} {outcome : RefreshOutcome} {now : Time}
  {s : PluginState}

theorem mem_snapshot_of_lookup {key : String} (h : s.accounts.lookup key = some b) (now : Time) :
    annotateAccount s.annotations (snapshotAccount s.cfg now b) ∈ (s.snapshot now).accounts := by
  refine List.mem_map_of_mem ((Lib.RankSort.perm_sortSlice _ _).mem_iff.mpr ?_)
  exact List.mem_map.mpr ⟨⟨key, b⟩, mem_lookup_iff.mp h, rfl⟩

variable {key : String}

theorem find_snapshot (htidy : Tidy s) :
    ((s.snapshot now).accounts.find? fun e => decide (accountStateKey e = key)) =
      (s.accounts.lookup key).map fun b =>
        annotateAccount s.annotations (snapshotAccount s.cfg now b) := by
  have hfound : ∀ y ∈ (s.snapshot now).accounts, accountStateKey y = key →
      ∃ b, s.accounts.lookup key = some b ∧
        y = annotateAccount s.annotations (snapshotAccount s.cfg now b) := by
    intro y hy hkey
    obtain ⟨e, he, rfl⟩ := mem_snapshot_accounts hy
    have hproper := htidy e he
    rw [accountStateKey_annotateAccount] at hkey
    have hsame : accountStateKey (snapshotAccount s.cfg now e.2) = e.1 := by
      rw [hproper.keyed]
      exact accountStateKey_of_named hproper.named
    rw [hsame] at hkey
    subst hkey
    exact ⟨e.2, mem_lookup_iff.mpr he, rfl⟩
  cases hlookup : s.accounts.lookup key with
  | none =>
    rw [Option.map_none, find?_eq_none]
    intro y hy hkey
    obtain ⟨b, hb, -⟩ := hfound y hy (of_decide_eq_true hkey)
    rw [hlookup] at hb
    cases hb
  | some b =>
    have hmem := mem_snapshot_of_lookup hlookup now
    have hkey : accountStateKey (annotateAccount s.annotations (snapshotAccount s.cfg now b)) =
        key := by
      have hproper := htidy.lookup hlookup
      rw [accountStateKey_annotateAccount, hproper.keyed]
      exact accountStateKey_of_named hproper.named
    cases hfind : (s.snapshot now).accounts.find? fun e => decide (accountStateKey e = key) with
    | none => exact absurd (decide_eq_true hkey) (find?_eq_none.mp hfind _ hmem)
    | some y =>
      have hy : accountStateKey y = key := by simpa using find?_some hfind
      obtain ⟨b', hb', rfl⟩ := hfound y (mem_of_find?_eq_some hfind) hy
      rw [hlookup] at hb'
      cases hb'
      rfl

structure Keeps (a b : AccountState) : Prop where
  authID : b.authID = a.authID
  temporaryExhausted : b.temporaryExhausted = a.temporaryExhausted
  temporaryResetAt : b.temporaryResetAt = a.temporaryResetAt
  circuit : b.circuit = a.circuit

theorem authID_mergeExistingAccount (s : PluginState) (a : AccountState) (now : Time) :
    (mergeExistingAccount s a now).authID = a.authID := by
  unfold mergeExistingAccount
  split
  · rfl
  · split <;> rfl

@[simp]
theorem authID_refreshBase (s : PluginState) (auth : HostAuthFileEntry) (now : Time) :
    (refreshBase s auth now).authID = auth.id :=
  authID_mergeExistingAccount _ _ _

theorem mergeExistingAccount_eq (htidy : Tidy s) (hne : a.authID ≠ "") (now : Time) :
    mergeExistingAccount s a now =
      match s.accounts.lookup ("auth:" ++ a.authID) with
      | some b => mergeIdentity (annotateAccount s.annotations (snapshotAccount s.cfg now b)) a
      | none => a := by
  have hkey := accountStateKey_of_named hne
  have hkey' : accountStateKey a ≠ "" := by
    rw [hkey]
    simp
  unfold mergeExistingAccount
  rw [if_neg hkey', find_snapshot htidy, hkey]
  cases s.accounts.lookup ("auth:" ++ a.authID) <;> rfl

structure FromStored (now : Time) (b base : AccountState) : Prop where
  temporaryExhausted : base.temporaryExhausted = b.temporaryExhausted
  temporaryResetAt : base.temporaryResetAt = b.temporaryResetAt
  quota : base.quota = b.quota
  lastSuccessAt : base.lastSuccessAt = b.lastSuccessAt
  circuit : base.circuit = effectiveCircuitState b.circuit now

theorem refreshBase_of_lookup (htidy : Tidy s) (hne : auth.id ≠ "")
    (h : s.accounts.lookup ("auth:" ++ auth.id) = some b) (now : Time) :
    FromStored now b (refreshBase s auth now) := by
  have hbase := mergeExistingAccount_eq htidy
    (a := { accountStateFromAuth auth now with priority := s.admissionPriorityLocked auth.id })
    hne now
  simp only [accountStateFromAuth, h] at hbase
  unfold refreshBase
  simp only [accountStateFromAuth, hbase, mergeIdentity]
  unfold annotateAccount
  split <;> exact ⟨rfl, rfl, rfl, rfl, rfl⟩

theorem refreshBase_of_none (htidy : Tidy s) (hne : auth.id ≠ "")
    (h : s.accounts.lookup ("auth:" ++ auth.id) = none) (now : Time) :
    refreshBase s auth now =
      { accountStateFromAuth auth now with priority := s.admissionPriorityLocked auth.id } := by
  have hbase := mergeExistingAccount_eq htidy
    (a := { accountStateFromAuth auth now with priority := s.admissionPriorityLocked auth.id })
    hne now
  simp only [accountStateFromAuth, h] at hbase
  exact hbase

theorem keeps_mergeExistingAccount (s : PluginState) (hne : auth.id ≠ "") (accountID : String) :
    Keeps (refreshBase s auth now)
        (mergeExistingAccount s { refreshBase s auth now with chatGPTAccountID := accountID } now) ∧
      (mergeExistingAccount s { refreshBase s auth now with chatGPTAccountID := accountID }
        now).quota = (refreshBase s auth now).quota := by
  have hkey : ∀ a : AccountState, a.authID = auth.id → accountStateKey a = "auth:" ++ auth.id := by
    intro a ha
    rw [← ha] at hne ⊢
    exact accountStateKey_of_named hne
  have hfresh := hkey
    { accountStateFromAuth auth now with priority := s.admissionPriorityLocked auth.id } rfl
  have hagain := hkey { refreshBase s auth now with chatGPTAccountID := accountID }
    (authID_refreshBase s auth now)
  have hnil : "auth:" ++ auth.id ≠ "" := by simp
  refine ⟨⟨authID_mergeExistingAccount _ _ _, ?_, ?_, ?_⟩, ?_⟩ <;>
  · unfold mergeExistingAccount
    rw [hagain, if_neg hnil]
    unfold refreshBase mergeExistingAccount
    rw [hfresh, if_neg hnil]
    cases (s.snapshot now).accounts.find? fun e =>
      decide (accountStateKey e = "auth:" ++ auth.id) <;> rfl

/-- The account a refresh writes, by the outcome of its host calls. -/
inductive Refreshed (s : PluginState) (auth : HostAuthFileEntry) (now : Time) :
    RefreshOutcome → AccountState → Prop
  | failed (b : AccountState) (accountID : Option String) (kind : RefreshFailureKind)
      (message : String) (keeps : Keeps (refreshBase s auth now) b)
      (quota : b.quota = (refreshBase s auth now).quota) :
      Refreshed s auth now (.failed accountID kind message)
        (refreshFailure s.cfg b kind message now)
  | noAccountID (b : AccountState) (keeps : Keeps (refreshBase s auth now) b)
      (quota : b.quota = (refreshBase s auth now).quota)
      (lastSuccessAt : b.lastSuccessAt = (refreshBase s auth now).lastSuccessAt) :
      Refreshed s auth now .noAccountID (PluginState.refreshSuccess s.cfg b now)
  | read (b : AccountState) (id : String) (keeps : Keeps (refreshBase s auth now) b)
      (lastSuccessAt : b.lastSuccessAt = now) :
      Refreshed s auth now (.read id b.quota) (PluginState.refreshSuccess s.cfg b now)

theorem storeAccount_eq (h : a.authID ≠ "") :
    s.storeAccount a = some (s.setAccount ("auth:" ++ a.authID) a) := by
  have hkey := accountStateKey_of_named h
  have hnil : "auth:" ++ a.authID ≠ "" := by simp
  unfold storeAccount
  rw [hkey, if_neg hnil]

variable {cfg : Config}

theorem authID_refreshSuccess : (refreshSuccess cfg a now).authID = a.authID := by
  simp [refreshSuccess]

section

variable {authID : String} {version : Nat}

theorem applyQuotaRefreshSuccess_eq (hid : a.authID = authID)
    (h : s.admissionCurrentLocked authID version = true) (now : Time) :
    s.applyQuotaRefreshSuccessIfAdmissionCurrent a version now =
      some (s.setAccount ("auth:" ++ authID) (refreshSuccess s.cfg
        { a with priority := s.admissionPriorityLocked authID } now)) := by
  subst hid
  unfold applyQuotaRefreshSuccessIfAdmissionCurrent
  rw [if_pos h, storeAccount_eq]
  · rw [authID_refreshSuccess]
  · rw [authID_refreshSuccess]
    exact named_of_admissionCurrent h

theorem applyQuotaRefreshFailure_eq (hid : a.authID = authID)
    (h : s.admissionCurrentLocked authID version = true) (kind : RefreshFailureKind)
    (message : String) (now : Time) :
    s.applyQuotaRefreshFailureIfAdmissionCurrent a version kind message now =
      some (s.setAccount ("auth:" ++ authID) (refreshFailure s.cfg
        { a with priority := s.admissionPriorityLocked authID } kind message now)) := by
  subst hid
  unfold applyQuotaRefreshFailureIfAdmissionCurrent
  rw [if_pos h]
  exact storeAccount_eq (named_of_admissionCurrent h)

end

/-- The refresh stops before its first effect: it is not admitted, or the admission changes. -/
def stops (s : PluginState) (auth : HostAuthFileEntry) (version : Nat) (outcome : RefreshOutcome) :
    Bool :=
  match outcome with
  | .admissionChanged => true
  | _ => !s.admissionCurrentLocked auth.id version

variable {version : Nat}

theorem current_of_not_stops (h : stops s auth version outcome = false) :
    s.admissionCurrentLocked auth.id version = true := by
  cases outcome <;> simp_all [stops]

theorem named_of_not_stops (h : stops s auth version outcome = false) : auth.id ≠ "" :=
  named_of_admissionCurrent (current_of_not_stops h)

theorem refreshAuthVersionedHeld_of_stops (h : stops s auth version outcome = true) :
    refreshAuthVersionedHeld s auth version outcome now = none := by
  unfold refreshAuthVersionedHeld
  split
  · next hcurrent =>
    cases outcome with
    | admissionChanged => rfl
    | failed accountID kind message | noAccountID | read id quota => simp [stops, hcurrent] at h
  · rfl

theorem refreshAuthVersionedHeld_writes (h : stops s auth version outcome = false) (now : Time) :
    ∃ a notice, Refreshed s auth now outcome a ∧
      refreshAuthVersionedHeld s auth version outcome now =
        some (s.setAccount ("auth:" ++ auth.id) a, notice) := by
  have hcurrent := current_of_not_stops h
  have hne := named_of_admissionCurrent hcurrent
  have hbase := authID_refreshBase s auth now
  unfold refreshAuthVersionedHeld
  rw [if_pos hcurrent]
  cases outcome with
  | admissionChanged => cases h
  | failed accountID kind message =>
    -- The account is merged with the stored one, for the second time once its ID is known.
    have hfailed : ∀ a : AccountState,
        Keeps (refreshBase s auth now) (mergeExistingAccount s a now) →
        (mergeExistingAccount s a now).quota = (refreshBase s auth now).quota →
        ∃ b notice, Refreshed s auth now (.failed accountID kind message) b ∧
          upsertRefreshFailure s a version kind message now =
            some (s.setAccount ("auth:" ++ auth.id) b, notice) := by
      intro a hkeeps hquota
      have happly := applyQuotaRefreshFailure_eq
        (a := { mergeExistingAccount s a now with
          lastRefreshAt := a.lastRefreshAt, lastError := message })
        (hkeeps.authID.trans hbase) hcurrent kind message now
      refine ⟨_, .retry (mergeExistingAccount s a now).inst, .failed _ accountID kind message
        ⟨?_, ?_, ?_, ?_⟩ ?_, congrArg (Option.map fun s' =>
          (s', retry (mergeExistingAccount s a now).inst)) happly⟩
      · exact hkeeps.authID
      · exact hkeeps.temporaryExhausted
      · exact hkeeps.temporaryResetAt
      · exact hkeeps.circuit
      · exact hquota
    cases accountID with
    | none => exact hfailed _ ⟨rfl, rfl, rfl, rfl⟩ rfl
    | some id =>
      obtain ⟨hkeeps, hquota⟩ := keeps_mergeExistingAccount s hne id
      exact hfailed _ hkeeps hquota
  | noAccountID =>
    have happly := applyQuotaRefreshSuccess_eq
      (a := { refreshBase s auth now with chatGPTAccountID := "", lastError := "", refresh := {} })
      hbase hcurrent now
    refine ⟨_, _, ?_, congrArg (Option.map fun s' => (s', nothing)) happly⟩
    exact .noAccountID _ ⟨rfl, rfl, rfl, rfl⟩ rfl rfl
  | read id quota =>
    have happly := applyQuotaRefreshSuccess_eq
      (a := { refreshBase s auth now with
        chatGPTAccountID := id
        quota := quota
        family := quota.family
        lastError := ""
        lastSuccessAt := now })
      hbase hcurrent now
    refine ⟨_, _, ?_, congrArg (Option.map fun s' =>
      (s', writeback (refreshBase s auth now).inst)) happly⟩
    exact .read { refreshBase s auth now with
      chatGPTAccountID := id
      quota := quota
      family := quota.family
      lastError := ""
      lastSuccessAt := now
      priority := s.admissionPriorityLocked auth.id } id ⟨rfl, rfl, rfl, rfl⟩ rfl

def marked (s : PluginState) (authID : String) : Bool :=
  (s.accounts.lookup ("auth:" ++ authID)).any (·.temporaryExhausted)

@[simp]
theorem temporaryExhausted_applyCircuitSuccess :
    (applyCircuitSuccess a cfg now).temporaryExhausted = a.temporaryExhausted := by
  unfold applyCircuitSuccess
  simp only
  split_ifs <;> rfl

theorem quotaRefreshConfirmsReset_congr (hquota : a.quota = b.quota)
    (hsuccess : a.lastSuccessAt = b.lastSuccessAt)
    (hreset : a.temporaryResetAt = b.temporaryResetAt) :
    quotaRefreshConfirmsReset a now = quotaRefreshConfirmsReset b now := by
  unfold quotaRefreshConfirmsReset
  rw [hquota, hsuccess, hreset]

theorem temporaryExhausted_reconcileMarker : (reconcileMarker a now).temporaryExhausted =
      (a.temporaryExhausted && !quotaRefreshConfirmsReset a now) := by
  unfold reconcileMarker
  cases hmarked : a.temporaryExhausted <;>
    cases hconfirms : quotaRefreshConfirmsReset a now <;> simp [hmarked]

theorem temporaryExhausted_refreshSuccess : (refreshSuccess cfg a now).temporaryExhausted =
      (a.temporaryExhausted && !quotaRefreshConfirmsReset a now) := by
  simp only [refreshSuccess, temporaryExhausted_applyCircuitSuccess,
    temporaryExhausted_reconcileMarker]
  rfl

def confirmsReset (s : PluginState) (authID : String) (outcome : RefreshOutcome) (now : Time) :
    Bool :=
  (s.accounts.lookup ("auth:" ++ authID)).any fun b =>
    match outcome with
    | .read _ quota =>
      quotaRefreshConfirmsReset { b with quota := quota, lastSuccessAt := now } now
    | .noAccountID => quotaRefreshConfirmsReset b now
    | _ => false

theorem Refreshed.temporaryExhausted (htidy : Tidy s) (hne : auth.id ≠ "")
    (h : Refreshed s auth now outcome a) :
    a.temporaryExhausted = (marked s auth.id && !confirmsReset s auth.id outcome now) := by
  unfold marked confirmsReset
  cases hfound : s.accounts.lookup ("auth:" ++ auth.id) with
  | none =>
    have hbase := refreshBase_of_none htidy hne hfound now
    have hmarker : ∀ b, Keeps (refreshBase s auth now) b → b.temporaryExhausted = false := by
      intro b hkeeps
      rw [hkeeps.temporaryExhausted, hbase]
      rfl
    cases h with
    | failed b accountID kind message keeps => exact hmarker b keeps
    | noAccountID b keeps | read b id keeps =>
      rw [temporaryExhausted_refreshSuccess, hmarker b keeps]
      rfl
  | some b =>
    have hbase := refreshBase_of_lookup htidy hne hfound now
    cases h with
    | failed c accountID kind message keeps =>
      simpa [refreshFailure] using keeps.temporaryExhausted.trans hbase.temporaryExhausted
    | noAccountID c keeps hquota hsuccess =>
      rw [temporaryExhausted_refreshSuccess, keeps.temporaryExhausted, hbase.temporaryExhausted,
        quotaRefreshConfirmsReset_congr (hquota.trans hbase.quota)
          (hsuccess.trans hbase.lastSuccessAt)
          (keeps.temporaryResetAt.trans hbase.temporaryResetAt)]
      simp
    | read c id keeps hsuccess =>
      have hconfirms : quotaRefreshConfirmsReset c now =
          quotaRefreshConfirmsReset { b with quota := c.quota, lastSuccessAt := now } now := by
        apply quotaRefreshConfirmsReset_congr
        · rfl
        · exact hsuccess
        · exact keeps.temporaryResetAt.trans hbase.temporaryResetAt
      rw [temporaryExhausted_refreshSuccess, keeps.temporaryExhausted, hbase.temporaryExhausted,
        hconfirms]
      simp

def WroteAuth (s s' : PluginState) (authID : String) : Prop :=
  ∃ a : AccountState, a.authID = authID ∧ s' = s.setAccount ("auth:" ++ authID) a

theorem Refreshed.authID (h : Refreshed s auth now outcome a) : a.authID = auth.id := by
  have hbase := authID_refreshBase s auth now
  cases h with
  | failed b accountID kind message keeps => exact keeps.authID.trans hbase
  | noAccountID b keeps | read b id keeps =>
    exact authID_refreshSuccess.trans (keeps.authID.trans hbase)

theorem refreshAuthVersionedHeld_some {s s' : PluginState} {notice : RefreshNotice}
    (h : refreshAuthVersionedHeld s auth version outcome now = some (s', notice)) :
    ∃ a, Refreshed s auth now outcome a ∧ s' = s.setAccount ("auth:" ++ auth.id) a := by
  cases hstops : stops s auth version outcome with
  | true =>
    rw [refreshAuthVersionedHeld_of_stops hstops] at h
    cases h
  | false =>
    obtain ⟨a, notice', ha, hsome⟩ := refreshAuthVersionedHeld_writes hstops now
    rw [hsome] at h
    cases h
    exact ⟨a, ha, rfl⟩

theorem refreshAuthVersionedHeld_wroteAuth {s s' : PluginState} {notice : RefreshNotice}
    (h : refreshAuthVersionedHeld s auth version outcome now = some (s', notice)) :
    WroteAuth s s' auth.id := by
  obtain ⟨a, ha, rfl⟩ := refreshAuthVersionedHeld_some h
  exact ⟨a, ha.authID, rfl⟩

theorem settings_applyLegacyEffectJournal (s : PluginState) (journal : List AccountState) :
    (s.applyLegacyEffectJournal journal).cfg = s.cfg ∧
      (s.applyLegacyEffectJournal journal).annotations = s.annotations := by
  unfold applyLegacyEffectJournal
  induction journal generalizing s with
  | nil => exact ⟨rfl, rfl⟩
  | cons a journal ih =>
    rw [foldl_cons]
    split
    · exact ih s
    · exact ih _

theorem lookup_applyLegacyEffectJournal (hne : b.authID ≠ "") (journal : List AccountState)
    (hall : ∀ a ∈ journal, a = b) (s : PluginState) (key : String) :
    (s.applyLegacyEffectJournal journal).accounts.lookup key =
      if key = "auth:" ++ b.authID ∧ journal ≠ [] then some b else s.accounts.lookup key := by
  induction journal generalizing s with
  | nil => simp [applyLegacyEffectJournal]
  | cons a journal ih =>
    have hkey : accountStateKey a = "auth:" ++ b.authID := by
      rw [hall a mem_cons_self]
      exact accountStateKey_of_named hne
    have hkey' : accountStateKey a ≠ "" := by
      rw [hkey]
      intro h
      have hlength := congrArg String.length h
      simp [String.length_append] at hlength
    have hrest := ih (fun a' ha' => hall a' (mem_cons_of_mem a ha'))
      (s.setAccount (accountStateKey a) a)
    have hstep : s.applyLegacyEffectJournal (a :: journal) =
        (s.setAccount (accountStateKey a) a).applyLegacyEffectJournal journal := by
      simp only [applyLegacyEffectJournal, foldl_cons, if_neg hkey']
    rw [hstep, hrest, hkey]
    by_cases heq : key = "auth:" ++ b.authID
    · subst heq
      by_cases hnil : journal = []
      · simp [hnil, setAccount, hall a mem_cons_self]
      · simp [hnil]
    · simp [heq, setAccount, lookup_insert_ne heq]

theorem lookup_journal {s o : PluginState} (htidy : Tidy o) (authID key : String) :
    (s.applyLegacyEffectJournal (o.legacyEffectJournal authID)).accounts.lookup key =
      if key = "auth:" ++ authID then (o.accounts.lookup key).or (s.accounts.lookup key)
      else s.accounts.lookup key := by
  have hjournal : ∀ a ∈ o.legacyEffectJournal authID,
      o.accounts.lookup ("auth:" ++ authID) = some a := by
    intro a ha
    obtain ⟨hmem, hid⟩ := mem_filter.mp ha
    obtain ⟨e, he, rfl⟩ := List.mem_map.mp hmem
    have hkey : e.1 = "auth:" ++ authID := by
      rw [(htidy e he).keyed, of_decide_eq_true hid]
    rw [← hkey]
    exact mem_lookup_iff.mpr he
  cases hfound : o.accounts.lookup ("auth:" ++ authID) with
  | none =>
    have hnil : o.legacyEffectJournal authID = [] := by
      apply eq_nil_iff_forall_not_mem.mpr
      intro a ha
      have hsome := hjournal a ha
      rw [hfound] at hsome
      cases hsome
    rw [hnil]
    by_cases hkey : key = "auth:" ++ authID
    · subst hkey
      simp [hfound, applyLegacyEffectJournal]
    · simp [hkey, applyLegacyEffectJournal]
  | some b =>
    have hproper := htidy.lookup hfound
    have hid : b.authID = authID := by
      simpa using hproper.keyed.symm
    have hmem : b ∈ o.legacyEffectJournal authID := by
      refine mem_filter.mpr ⟨?_, decide_eq_true hid⟩
      exact List.mem_map.mpr ⟨⟨_, b⟩, mem_lookup_iff.mp hfound, rfl⟩
    have hall : ∀ a ∈ o.legacyEffectJournal authID, a = b := by
      intro a ha
      have hsome := hjournal a ha
      rw [hfound] at hsome
      cases hsome
      rfl
    rw [lookup_applyLegacyEffectJournal hproper.named _ hall, hid]
    by_cases hkey : key = "auth:" ++ authID
    · subst hkey
      simp [hfound, ne_nil_of_mem hmem]
    · simp [hkey]

end QuotaScheduler.RefreshWrites

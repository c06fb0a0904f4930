/- Every update of the account table writes at most one account. -/

import QuotaScheduler.PluginRuntime

namespace QuotaScheduler.StateUpdates

open Account State PluginRuntime List Option AList PluginState

structure Proper (key : String) (a : AccountState) : Prop where
  named : a.authID ≠ ""
  keyed : key = "auth:" ++ a.authID
  inst : a.inst = 0

def Tidy (s : PluginState) : Prop := ∀ e ∈ s.accounts.entries, Proper e.1 e.2

inductive Written (s : PluginState) : PluginState → Prop
  | same : Written s s
  | wrote (key : String) (a : AccountState) (proper : Tidy s → Proper key a) :
      Written s (s.setAccount key a)

namespace Written

variable {s s' : PluginState}

theorem cpaAdmission (h : Written s s') : s'.cpaAdmission = s.cpaAdmission := by
  cases h <;> rfl

theorem tidy (h : Written s s') (htidy : Tidy s) : Tidy s' := by
  cases h with
  | same => exact htidy
  | wrote key a proper =>
    intro e he
    rw [setAccount, entries_insert, mem_cons] at he
    rcases he with rfl | he
    · exact proper htidy
    · exact htidy e ((kerase_sublist key _).subset he)

end Written

variable {key authID authIndex : String} {a : AccountState} {hit version : Nat} {now : Time}
  {s : PluginState}

theorem Tidy.lookup (htidy : Tidy s) (h : s.accounts.lookup key = some a) : Proper key a :=
  htidy ⟨key, a⟩ (mem_lookup_iff.mp h)

theorem Proper.of_same {b : AccountState} (h : Proper key a) (hid : b.authID = a.authID)
    (hinst : b.inst = a.inst) : Proper key b :=
  ⟨hid ▸ h.named, hid ▸ h.keyed, hinst ▸ h.inst⟩

theorem findAccountLocked_lookup (h : s.findAccountLocked authID authIndex hit = some (key, a)) :
    s.accounts.lookup key = some a := by
  unfold findAccountLocked at h
  split at h
  · rename_i b hb
    cases h
    split at hb
    · exact hb
    · cases hb
  · split at h
    · obtain ⟨e, he, heq⟩ := map_eq_some_iff.mp h
      cases heq
      exact mem_lookup_iff.mpr (mem_of_mem_filter (mem_of_getElem? he))
    · cases h

theorem findAccountLocked_proper
    (h : s.findAccountLocked authID authIndex hit = some (key, a)) (htidy : Tidy s) :
    Proper key a :=
  htidy.lookup (findAccountLocked_lookup h)

variable {cfg : Config}

@[simp]
theorem authID_applyCircuitSuccess : (applyCircuitSuccess a cfg now).authID = a.authID := by
  unfold applyCircuitSuccess
  simp only
  split_ifs <;> rfl

@[simp]
theorem inst_applyCircuitSuccess : (applyCircuitSuccess a cfg now).inst = a.inst := by
  unfold applyCircuitSuccess
  simp only
  split_ifs <;> rfl

@[simp]
theorem authID_reconcileMarker : (reconcileMarker a now).authID = a.authID := by
  unfold reconcileMarker
  split_ifs <;> rfl

@[simp]
theorem inst_reconcileMarker : (reconcileMarker a now).inst = a.inst := by
  unfold reconcileMarker
  split_ifs <;> rfl

variable {resetAt : Time} {reason : String}

theorem markAccountTemporaryExhausted_written :
    Written s (s.markAccountTemporaryExhausted authID resetAt reason) := by
  unfold markAccountTemporaryExhausted
  split
  · exact .same
  · rename_i hne
    refine .wrote _ _ fun htidy => ?_
    cases hfound : s.accounts.lookup ("auth:" ++ authID) with
    | none => exact ⟨hne, rfl, rfl⟩
    | some a => exact (htidy.lookup hfound).of_same rfl rfl

theorem markAccountTemporaryExhaustedByAuthIndex_written (hit : Nat) :
    Written s (s.markAccountTemporaryExhaustedByAuthIndex authIndex hit resetAt reason) := by
  unfold markAccountTemporaryExhaustedByAuthIndex
  split
  · exact .same
  · rename_i key a hfound
    exact .wrote _ _ fun htidy => (findAccountLocked_proper hfound htidy).of_same rfl rfl

theorem recordAccountSuccess_written (s : PluginState) (authID authIndex : String) (hit : Nat)
    (now : Time) : Written s (s.recordAccountSuccess authID authIndex hit now) := by
  unfold recordAccountSuccess
  split
  · exact .same
  · rename_i key a hfound
    refine .wrote _ _ fun htidy => (findAccountLocked_proper hfound htidy).of_same ?_ ?_
    · simp [accountSuccess]
    · simp [accountSuccess]

variable {s' : PluginState}

theorem clearAccountTemporaryExhausted_written
    (h : s.clearAccountTemporaryExhausted authID = some s') : Written s s' := by
  unfold clearAccountTemporaryExhausted at h
  split at h
  · cases h
  · rename_i key a hfound
    split at h
    · cases h
      exact .wrote _ _ fun htidy => (findAccountLocked_proper hfound htidy).of_same rfl rfl
    · cases h

theorem clearAccountAuthFailure_written
    (h : s.clearAccountAuthFailure authID = some s') : Written s s' := by
  unfold clearAccountAuthFailure at h
  split at h
  · cases h
  · rename_i key a hfound
    split at h
    · cases h
      exact .wrote _ _ fun htidy => (findAccountLocked_proper hfound htidy).of_same rfl rfl
    · cases h

theorem observeAccountQuota_written {quota : ParsedQuota}
    (h : s.observeAccountQuota authID authIndex hit quota now = some s') : Written s s' := by
  unfold observeAccountQuota at h
  split at h
  · cases h
  · rename_i key a hfound
    cases h
    refine .wrote _ _ fun htidy => (findAccountLocked_proper hfound htidy).of_same ?_ ?_
    · simp [observedAccount]
    · simp [observedAccount]

theorem accountStateKey_of_named (h : a.authID ≠ "") : accountStateKey a = "auth:" ++ a.authID := by
  exact if_pos h

theorem storeAccount_written (h : s.storeAccount a = some s')
    (hne : a.authID ≠ "") (hinst : Tidy s → a.inst = 0) : Written s s' := by
  unfold storeAccount at h
  split at h
  · cases h
  · cases h
    exact .wrote _ _ fun htidy => ⟨hne, accountStateKey_of_named hne, hinst htidy⟩

theorem named_of_admissionCurrent
    (h : s.admissionCurrentLocked authID version = true) : authID ≠ "" := by
  simp only [admissionCurrentLocked, Bool.and_eq_true, decide_eq_true_eq] at h
  exact h.1.2

theorem applyQuotaRefreshFailure_written {kind : RefreshFailureKind} {message : String}
    (h : s.applyQuotaRefreshFailureIfAdmissionCurrent a version kind message now = some s')
    (hinst : Tidy s → a.inst = 0) : Written s s' := by
  unfold applyQuotaRefreshFailureIfAdmissionCurrent at h
  split at h
  · rename_i hcurrent
    exact storeAccount_written h (named_of_admissionCurrent hcurrent) hinst
  · cases h

theorem applyQuotaRefreshSuccess_written
    (h : s.applyQuotaRefreshSuccessIfAdmissionCurrent a version now = some s')
    (hinst : Tidy s → a.inst = 0) : Written s s' := by
  unfold applyQuotaRefreshSuccessIfAdmissionCurrent at h
  split at h
  · rename_i hcurrent
    have hne := named_of_admissionCurrent hcurrent
    refine storeAccount_written h ?_ ?_
    · simpa [refreshSuccess] using hne
    · simpa [refreshSuccess] using hinst
  · cases h

theorem mem_snapshot_accounts (h : a ∈ (s.snapshot now).accounts) :
    ∃ e ∈ s.accounts.entries, a = annotateAccount s.annotations
      (snapshotAccount s.cfg now e.2) := by
  obtain ⟨b, hb, rfl⟩ := List.mem_map.mp h
  obtain ⟨e, he, rfl⟩ := List.mem_map.mp ((Lib.RankSort.perm_sortSlice _ _).mem_iff.mp hb)
  exact ⟨e, he, rfl⟩

theorem inst_annotateAccount (annotations : String → Option Int) :
    (annotateAccount annotations a).inst = a.inst := by
  unfold annotateAccount
  split <;> rfl

theorem Tidy.inst_snapshot (htidy : Tidy s) (h : a ∈ (s.snapshot now).accounts) : a.inst = 0 := by
  obtain ⟨e, he, rfl⟩ := mem_snapshot_accounts h
  rw [inst_annotateAccount]
  exact (htidy e he).inst

theorem inst_mergeExistingAccount (hinst : a.inst = 0) (htidy : Tidy s) :
    (mergeExistingAccount s a now).inst = 0 := by
  unfold mergeExistingAccount
  split
  · exact hinst
  · split
    · rename_i existing hfound
      have hexisting := htidy.inst_snapshot (mem_of_find?_eq_some hfound)
      exact hexisting
    · exact hinst

def noticeInst : RefreshNotice → AuthInstanceID
  | .nothing => 0
  | .writeback id => id
  | .retry id => id

theorem upsertRefreshFailure_written {kind : RefreshFailureKind}
    {message : String} {notice : RefreshNotice}
    (h : upsertRefreshFailure s a version kind message now = some (s', notice))
    (hinst : Tidy s → a.inst = 0) : Written s s' ∧ (Tidy s → noticeInst notice = 0) := by
  obtain ⟨s'', hstore, heq⟩ := map_eq_some_iff.mp h
  cases heq
  have hmerged : Tidy s → (mergeExistingAccount s a now).inst = 0 := fun htidy =>
    inst_mergeExistingAccount (hinst htidy) htidy
  exact ⟨applyQuotaRefreshFailure_written hstore hmerged, hmerged⟩

theorem refreshAuthVersionedHeld_written {auth : HostAuthFileEntry}
    {outcome : RefreshOutcome} {notice : RefreshNotice}
    (h : refreshAuthVersionedHeld s auth version outcome now = some (s', notice)) :
    Written s s' ∧ (Tidy s → noticeInst notice = 0) := by
  unfold refreshAuthVersionedHeld at h
  split at h
  · have hmerged : Tidy s → (mergeExistingAccount s
        { accountStateFromAuth auth now with priority := s.admissionPriorityLocked auth.id }
          now).inst = 0 := fun htidy => inst_mergeExistingAccount rfl htidy
    cases outcome with
    | admissionChanged => cases h
    | failed accountID kind message =>
      cases accountID with
      | none => exact upsertRefreshFailure_written h fun _ => rfl
      | some id => exact upsertRefreshFailure_written h hmerged
    | noAccountID =>
      obtain ⟨s'', hstore, heq⟩ := map_eq_some_iff.mp h
      cases heq
      exact ⟨applyQuotaRefreshSuccess_written hstore hmerged, fun _ => rfl⟩
    | read id quota =>
      obtain ⟨s'', hstore, heq⟩ := map_eq_some_iff.mp h
      cases heq
      exact ⟨applyQuotaRefreshSuccess_written hstore hmerged, hmerged⟩
  · cases h

theorem tidy_setAccount (htidy : Tidy s) (h : Proper key a) : Tidy (s.setAccount key a) :=
  (Written.wrote key a fun _ => h).tidy htidy

variable {journal : List AccountState}

theorem tidy_applyLegacyEffectJournal (htidy : Tidy s)
    (hjournal : ∀ a ∈ journal, a.authID ≠ "" ∧ a.inst = 0) :
    Tidy (s.applyLegacyEffectJournal journal) := by
  unfold applyLegacyEffectJournal
  induction journal generalizing s with
  | nil => exact htidy
  | cons a journal ih =>
    rw [foldl_cons]
    have hrest : ∀ b ∈ journal, b.authID ≠ "" ∧ b.inst = 0 := fun b hb =>
      hjournal b (mem_cons_of_mem a hb)
    obtain ⟨hne, hinst⟩ := hjournal a mem_cons_self
    refine ih ?_ hrest
    split
    · exact htidy
    · exact tidy_setAccount htidy ⟨hne, accountStateKey_of_named hne, hinst⟩

theorem journal_bare (htidy : Tidy s) :
    ∀ a ∈ s.legacyEffectJournal authID, a.authID ≠ "" ∧ a.inst = 0 := by
  intro a ha
  obtain ⟨e, he, rfl⟩ := List.mem_map.mp (mem_of_mem_filter ha)
  exact ⟨(htidy e he).named, (htidy e he).inst⟩

def admitted (value : CPAAdmissionState) (a : AccountState) : Option AccountState :=
  if a.authID ∈ value.authIDs then
    some { a with priority := (PluginState.tierPriority value.tiers a.authID).getD value.priority }
  else none

theorem lookup_admitAccounts (value : CPAAdmissionState) (accounts : AccountTable) :
    (admitAccounts value accounts).lookup key = (accounts.lookup key).bind (admitted value) := by
  -- the loop meets every key once
  have hloop : ∀ (es : List (Sigma fun _ : String => AccountState)) (table : AccountTable),
      es.NodupKeys →
      (es.foldl (fun table e =>
        if e.2.authID ∈ value.authIDs then
          table.insert e.1
            { e.2 with
              priority := (tierPriority value.tiers e.2.authID).getD value.priority }
        else table.erase e.1) table).lookup key =
        (es.dlookup key).elim (table.lookup key) (admitted value) := by
    intro es
    induction es with
    | nil => exact fun _ _ => rfl
    | cons e es ih =>
      intro table hnodup
      obtain ⟨hfresh, hrest⟩ := nodupKeys_cons.mp hnodup
      rw [foldl_cons, ih _ hrest]
      by_cases hkey : key = e.1
      · subst hkey
        rw [dlookup_eq_none.mpr hfresh, dlookup_cons_eq, elim_none, elim_some, admitted]
        by_cases hin : e.2.authID ∈ value.authIDs
        · rw [if_pos hin, if_pos hin]
          exact lookup_insert _
        · rw [if_neg hin, if_neg hin]
          exact lookup_erase _ _
      · rw [dlookup_cons_ne _ _ hkey]
        cases es.dlookup key with
        | some a => rfl
        | none =>
          split
          · exact lookup_insert_ne hkey
          · exact lookup_erase_ne hkey
  have hall : (admitAccounts value accounts).lookup key =
      (accounts.lookup key).elim (accounts.lookup key) (admitted value) :=
    hloop accounts.entries accounts accounts.nodupKeys
  rw [hall]
  cases accounts.lookup key <;> rfl

theorem lookup_replaceCPAAdmission (s : PluginState) (value : CPAAdmissionState) (key : String) :
    (s.replaceCPAAdmission value).accounts.lookup key = s.accounts.lookup key ∨
      (s.replaceCPAAdmission value).accounts.lookup key =
        (s.accounts.lookup key).bind (admitted value) := by
  unfold replaceCPAAdmission
  split
  · exact .inl rfl
  · split
    · exact .inr (lookup_admitAccounts _ _)
    · exact .inl rfl

theorem tidy_replaceCPAAdmission (htidy : Tidy s) (value : CPAAdmissionState) :
    Tidy (s.replaceCPAAdmission value) := by
  intro e he
  have hstored := mem_lookup_iff.mpr he
  rcases lookup_replaceCPAAdmission s value e.1 with hsame | hadmitted
  · exact htidy.lookup (hsame.symm.trans hstored)
  · obtain ⟨a, ha, hb⟩ := bind_eq_some_iff.mp (hadmitted.symm.trans hstored)
    unfold admitted at hb
    split at hb
    · rw [← some.inj hb]
      exact (htidy.lookup ha).of_same rfl rfl
    · cases hb

theorem cpaAdmission_applyLegacyEffectJournal :
    (s.applyLegacyEffectJournal journal).cpaAdmission = s.cpaAdmission := by
  unfold applyLegacyEffectJournal
  induction journal generalizing s with
  | nil => rfl
  | cons a journal ih =>
    rw [foldl_cons, ih]
    split <;> rfl

end QuotaScheduler.StateUpdates

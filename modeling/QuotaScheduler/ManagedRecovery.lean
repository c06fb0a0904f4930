/- One whole pass of the managed-quota recovery (managed_lifecycle.go). -/

import QuotaScheduler.ManagedRuns

namespace QuotaScheduler.ManagedRecovery

open AuthFile Account ManagedLifecycle ManagedRuns List Option AList

/-- The host's answers to a pass's reads, quota requests and saves; `none` is a failed call. -/
structure HostAnswers where
  getPlanned : String → Option AuthText
  getAuth : String → Option AuthText
  quota : String → Option ParsedQuota
  saveAuth : String → Bool

/-- The runtime store as a pass meets it; one not writable fails every update. -/
structure RuntimeStore where
  ledger : Ledger
  readable : Bool := true
  writable : Bool := true

/-- A loop over indices whose round can end it; `false` is an error. -/
def visitAll (visit : Ledger → String → Ledger × Bool) : Ledger → List String → Ledger × Bool
  | ledger, [] => (ledger, true)
  | ledger, index :: todo =>
    match visit ledger index with
    | (ledger', true) => visitAll visit ledger' todo
    | (ledger', false) => (ledger', false)

def update (writable : Bool) (ledger next : Ledger) : Ledger × Bool :=
  if writable then (next, true) else (ledger, false)

variable (env : Env) (host : HostAnswers) (now : Time) (writable : Bool)

/-- One round of `reconcilePlannedManagedRecords`; an unreadable file leaves its record. -/
def reconcileRecord (ledger : Ledger) (index : String) : Ledger × Bool :=
  match (host.getPlanned index).bind decodeManaged with
  | none => (ledger, true)
  | some doc => update writable ledger (settleLedger env ledger index (disabledFlag doc) now)

def recoverManagedQuotaAccount (ledger : Ledger) (index : String) : Ledger × Bool :=
  match host.getAuth index with
  | none => (ledger, false)
  | some text =>
    match decodeManaged text with
    | none => (ledger, false)
    | some doc =>
      match decideRecover env index text doc (ledger.lookup index) with
      | .drop => update writable ledger (ledger.erase index)
      | .check => update writable ledger (checkLedger env ledger index now)
      | .ask =>
        if enables env (host.quota index) now then
          if host.saveAuth index then update writable ledger (ledger.erase index)
          else (ledger, false)
        else update writable ledger (checkLedger env ledger index now)

/-- `RecoverManagedQuotaAccounts` behind its first checks: it ends at the first error. -/
def recoverLedger (ledger : Ledger) : Ledger :=
  match visitAll (reconcileRecord env host now writable) ledger (plannedIndices ledger) with
  | (ledger', false) => ledger'
  | (ledger', true) =>
    (visitAll (recoverManagedQuotaAccount env host now writable) ledger' (dueIndices ledger' now)).1

def recoverManagedQuotaAccounts (host : Option HostAnswers) (store : RuntimeStore) :
    RuntimeStore :=
  match host with
  | none => store
  | some h =>
    if env.enableManagedQuotaDisable && store.readable then
      { store with ledger := recoverLedger env h now store.writable store.ledger }
    else store

def checkDue (now : Time) (record : ManagedDisableRecord) : Bool :=
  record.nextQuotaCheckAt.isZero || !record.nextQuotaCheckAt.after now

def Overdue (ledger : Ledger) (now : Time) (index : String) : Prop :=
  ∃ record, ledger.lookup index = some record ∧ record.disableApplied = true ∧
    checkDue now record = true

def confirms (index : String) : Bool :=
  ((host.getPlanned index).bind decodeManaged).any disabledFlag

def settles (record : ManagedDisableRecord) (index : String) : Bool :=
  match host.getAuth index with
  | none => false
  | some text =>
    match decodeManaged text with
    | none => false
    | some doc =>
      match decideRecover env index text doc (some record) with
      | .drop => true
      | .check => true
      | .ask => !enables env (host.quota index) now || host.saveAuth index

variable {env host now writable} {ledger : Ledger} {index : String}

theorem mem_dueIndices_iff : index ∈ dueIndices ledger now ↔ Overdue ledger now index := by
  simp only [dueIndices, mem_insertionSort, mem_filter_keys, Bool.and_eq_true]
  rfl

theorem mem_plannedIndices_iff : index ∈ plannedIndices ledger ↔
      ∃ record, ledger.lookup index = some record ∧ record.disableApplied = false := by
  simp only [plannedIndices, mem_filter_keys, Bool.not_eq_true']

theorem nodup_plannedIndices : (plannedIndices ledger).Nodup := nodup_filter_keys

theorem sorted_dueIndices : (dueIndices ledger now).Pairwise (· < ·) :=
  ((pairwise_insertionSort (· ≤ ·) _).and nodup_dueIndices).imp fun h => lt_of_le_of_ne h.1 h.2

theorem mem_takeWhile_of_sorted {p : String → Bool} {l : List String} (h : l.Pairwise (· < ·)) :
    index ∈ l.takeWhile p ↔ index ∈ l ∧ ∀ other ∈ l, other ≤ index → p other = true := by
  induction l with
  | nil => simp
  | cons first l ih =>
    obtain ⟨hfirst, hrest⟩ := pairwise_cons.mp h
    rw [takeWhile_cons]
    split <;> grind

def reconciled (env : Env) (host : HostAnswers) (now : Time) (index : String)
    (record : ManagedDisableRecord) : Option ManagedDisableRecord :=
  match (host.getPlanned index).bind decodeManaged with
  | none => some record
  | some doc =>
    if disabledFlag doc then some (confirmRecord env .disableConfirmed now record) else none

theorem lookup_reconcileRecord_self :
    (reconcileRecord env host now true ledger index).1.lookup index =
      (ledger.lookup index).bind (reconciled env host now index) := by
  unfold reconcileRecord
  cases hdoc : (host.getPlanned index).bind decodeManaged with
  | none =>
    cases hrecord : ledger.lookup index with
    | none => simp
    | some record => simp [reconciled, hdoc]
  | some doc =>
    cases hrecord : ledger.lookup index with
    | none => simp [update, settleLedger, hrecord]
    | some record =>
      cases hflag : disabledFlag doc <;>
        simp [update, settleLedger, hrecord, reconciled, hdoc, hflag]

theorem lookup_reconcileRecord_ne {other : String} (hne : other ≠ index) :
    (reconcileRecord env host now true ledger index).1.lookup other = ledger.lookup other := by
  unfold reconcileRecord
  cases (host.getPlanned index).bind decodeManaged with
  | none => rfl
  | some doc =>
    simp only [update, settleLedger, if_true]
    split
    · rfl
    · split
      · exact lookup_insert_ne hne
      · exact lookup_erase_ne hne

theorem reconcileRecord_goes_on : (reconcileRecord env host now true ledger index).2 = true := by
  unfold reconcileRecord
  split <;> rfl

theorem visitAll_cons_of_goes_on {visit : Ledger → String → Ledger × Bool}
    (h : (visit ledger index).2 = true) (todo : List String) :
    visitAll visit ledger (index :: todo) = visitAll visit (visit ledger index).1 todo := by
  rw [visitAll]
  split
  next hvisit => rw [hvisit]
  next hvisit =>
    rw [hvisit] at h
    cases h

variable {todo : List String} {r' record : ManagedDisableRecord}

theorem visitAll_reconcileRecord (hnodup : todo.Nodup) :
    (visitAll (reconcileRecord env host now true) ledger todo).2 = true ∧
      ∀ other, (visitAll (reconcileRecord env host now true) ledger todo).1.lookup other =
        if other ∈ todo then (ledger.lookup other).bind (reconciled env host now other)
        else ledger.lookup other := by
  induction todo generalizing ledger with
  | nil => exact ⟨rfl, fun _ => rfl⟩
  | cons index todo ih =>
    obtain ⟨hfresh, htodo⟩ := nodup_cons.mp hnodup
    rw [visitAll_cons_of_goes_on reconcileRecord_goes_on]
    obtain ⟨hon, hlookup⟩ := @ih (reconcileRecord env host now true ledger index).1 htodo
    refine ⟨hon, fun other => ?_⟩
    rw [hlookup other]
    by_cases hother : other = index
    · subst hother
      rw [if_neg hfresh, if_pos mem_cons_self, lookup_reconcileRecord_self]
    · rw [lookup_reconcileRecord_ne hother]
      simp [hother]

theorem decideRecover_of_fingerprint {text : AuthText} {doc : Option Fields}
    {r : ManagedDisableRecord} (h : r.fingerprint = r'.fingerprint) :
    decideRecover env index text doc (some r) = decideRecover env index text doc (some r') := by
  have hrotated : ∀ c, rotatedAway env index (some r) c = rotatedAway env index (some r') c := by
    rintro (_ | c) <;> simp [rotatedAway, h]
  simp only [decideRecover, hrotated]

theorem settles_of_fingerprint {r : ManagedDisableRecord} (h : r.fingerprint = r'.fingerprint) :
    settles env host now r index = settles env host now r' index := by
  simp only [settles, decideRecover_of_fingerprint h]

theorem lookup_checkLedger_self (h : ledger.lookup index = some record) :
    (checkLedger env ledger index now).lookup index = some (checkRecord env now record) := by
  simp [checkLedger, h]

theorem lookup_checkLedger_ne {other : String} (hne : other ≠ index) :
    (checkLedger env ledger index now).lookup other = ledger.lookup other := by
  unfold checkLedger
  split
  · rfl
  · exact lookup_insert_ne hne

@[simp]
theorem nextQuotaCheckAt_appendLifecycleEvent (record : ManagedDisableRecord)
    (event : LifecycleEvent) (limit : Int) :
    (appendLifecycleEvent record event limit).nextQuotaCheckAt = record.nextQuotaCheckAt := by
  unfold appendLifecycleEvent
  split <;> rfl

@[simp]
theorem disableApplied_appendLifecycleEvent (record : ManagedDisableRecord)
    (event : LifecycleEvent) (limit : Int) :
    (appendLifecycleEvent record event limit).disableApplied = record.disableApplied := by
  unfold appendLifecycleEvent
  split <;> rfl

theorem checkDue_eq (hnow : 0 < now) (record : ManagedDisableRecord) :
    checkDue now record = !record.nextQuotaCheckAt.after now := by
  by_cases hzero : record.nextQuotaCheckAt = 0 <;>
    simp [checkDue, Time.isZero, Time.after, Time.zero, hzero, hnow.le]

theorem checkDue_checkRecord (hinterval : 0 < env.quotaRefreshInterval) (hnow : 0 < now)
    (record : ManagedDisableRecord) : checkDue now (checkRecord env now record) = false := by
  rw [checkDue_eq hnow, checkRecord, nextQuotaCheckAt_appendLifecycleEvent, Bool.not_eq_false']
  exact decide_eq_true (Int.lt_add_of_pos_right now hinterval)

/-- A check with a failed call changes nothing and ends the pass; others drop the record or note the
check. -/
theorem recoverManagedQuotaAccount_eq (hrecord : ledger.lookup index = some record) :
    ∃ next, (next = ledger.erase index ∨ next = checkLedger env ledger index now) ∧
      recoverManagedQuotaAccount env host now writable ledger index =
        bif settles env host now record index then update writable ledger next
        else (ledger, false) := by
  unfold recoverManagedQuotaAccount settles
  cases host.getAuth index with
  | none => exact ⟨_, .inl rfl, rfl⟩
  | some text =>
    dsimp only
    cases decodeManaged text with
    | none => exact ⟨_, .inl rfl, rfl⟩
    | some doc =>
      simp only [hrecord]
      cases decideRecover env index text doc (some record) with
      | drop => exact ⟨_, .inl rfl, rfl⟩
      | check => exact ⟨_, .inr rfl, rfl⟩
      | ask =>
        cases enables env (host.quota index) now with
        | false => exact ⟨_, .inr rfl, rfl⟩
        | true =>
          refine ⟨_, .inl rfl, ?_⟩
          cases host.saveAuth index <;> rfl

theorem recoverManagedQuotaAccount_settled (hrecord : ledger.lookup index = some record)
    (h : settles env host now record index = true) :
    (recoverManagedQuotaAccount env host now true ledger index).2 = true ∧
      (∀ r, (recoverManagedQuotaAccount env host now true ledger index).1.lookup index = some r →
        r = checkRecord env now record) ∧
      ∀ other, other ≠ index →
        (recoverManagedQuotaAccount env host now true ledger index).1.lookup other =
          ledger.lookup other := by
  obtain ⟨next, hnext, heq⟩ := recoverManagedQuotaAccount_eq hrecord
  rw [heq, h, cond_true]
  rcases hnext with rfl | rfl
  · refine ⟨rfl, fun r hr => ?_, fun other hne => lookup_erase_ne hne⟩
    simp [update] at hr
  · refine ⟨rfl, fun r hr => ?_, fun other hne => lookup_checkLedger_ne hne⟩
    exact some.inj (hr.symm.trans (lookup_checkLedger_self hrecord))

/-- The loop checks the records before the first failure and leaves the others. -/
theorem lookup_visitAll_recover {p : String → Bool} (hnodup : todo.Nodup)
    (htodo : ∀ i ∈ todo, ∃ record, ledger.lookup i = some record ∧
      settles env host now record i = p i) (i : String) :
    (i ∈ todo.takeWhile p → ∀ r,
      (visitAll (recoverManagedQuotaAccount env host now true) ledger todo).1.lookup i = some r →
        ∃ record, r = checkRecord env now record) ∧
      (i ∉ todo.takeWhile p →
        (visitAll (recoverManagedQuotaAccount env host now true) ledger todo).1.lookup i =
          ledger.lookup i) := by
  induction todo generalizing ledger with
  | nil => exact ⟨fun h => absurd h not_mem_nil, fun _ => rfl⟩
  | cons index todo ih =>
    obtain ⟨hfresh, hrest⟩ := nodup_cons.mp hnodup
    obtain ⟨record, hrecord, hp⟩ := htodo index mem_cons_self
    cases hsettles : p index with
    | false =>
      obtain ⟨next, -, hround⟩ := recoverManagedQuotaAccount_eq hrecord
      rw [visitAll, hround, hp, hsettles, takeWhile_cons_of_neg (by simp [hsettles])]
      exact ⟨fun h => absurd h not_mem_nil, fun _ => rfl⟩
    | true =>
      obtain ⟨hon, hself, hothers⟩ := recoverManagedQuotaAccount_settled hrecord (hp.trans hsettles)
      rw [visitAll_cons_of_goes_on hon, takeWhile_cons_of_pos hsettles]
      have hne : ∀ j ∈ todo, j ≠ index := fun j hj heq => hfresh (heq ▸ hj)
      obtain ⟨hin, hout⟩ := ih hrest fun j hj => by
        rw [hothers j (hne j hj)]
        exact htodo j (mem_cons_of_mem _ hj)
      by_cases hi : i = index
      · subst hi
        rw [hout fun h => hfresh (takeWhile_subset _ h)]
        exact ⟨fun _ r hr => ⟨record, hself r hr⟩, fun h => absurd mem_cons_self h⟩
      · rw [mem_cons, or_iff_right hi, ← hothers i hi]
        exact ⟨hin, hout⟩

/-- The ledger the loop over the due records starts from. -/
def reconcilePlanned (env : Env) (host : HostAnswers) (now : Time) (ledger : Ledger) : Ledger :=
  (visitAll (reconcileRecord env host now true) ledger (plannedIndices ledger)).1

/-- The applied records that are due, and the planned ones the host shows disabled. -/
def Found (host : HostAnswers) (now : Time) (ledger : Ledger) (index : String) : Prop :=
  ∃ record, ledger.lookup index = some record ∧ checkDue now record = true ∧
    (record.disableApplied = true ∨ confirms host index = true)

theorem lookup_reconciled (ledger : Ledger) : (reconcilePlanned env host now ledger).lookup index =
      (ledger.lookup index).bind fun record =>
        if record.disableApplied then some record else reconciled env host now index record := by
  rw [reconcilePlanned, (visitAll_reconcileRecord nodup_plannedIndices).2 index]
  cases hrecord : ledger.lookup index with
  | none => simp
  | some record =>
    cases happlied : record.disableApplied with
    | true =>
      have hnot : index ∉ plannedIndices ledger := by
        rw [mem_plannedIndices_iff]
        rintro ⟨r, hr, hplanned⟩
        rw [hrecord] at hr
        rw [← some.inj hr, happlied] at hplanned
        cases hplanned
      simp [hnot, happlied]
    | false =>
      have hin : index ∈ plannedIndices ledger :=
        mem_plannedIndices_iff.mpr ⟨record, hrecord, happlied⟩
      simp [hin, happlied]

theorem overdue_reconcilePlanned_iff :
    Overdue (reconcilePlanned env host now ledger) now index ↔ Found host now ledger index := by
  rw [Overdue, Found, lookup_reconciled]
  cases hrecord : ledger.lookup index with
  | none => simp
  | some record =>
    cases happlied : record.disableApplied with
    | true => simp [happlied, and_comm]
    | false =>
      cases hdoc : (host.getPlanned index).bind decodeManaged with
      | none => simp [happlied, reconciled, confirms, hdoc]
      | some doc =>
        cases hflag : disabledFlag doc <;>
          simp [happlied, reconciled, confirms, hdoc, hflag, confirmRecord, checkDue]

theorem visitAll_reconcile_readOnly (env : Env) (host : HostAnswers) (now : Time) (ledger : Ledger)
    (todo : List String) :
    (visitAll (reconcileRecord env host now false) ledger todo).1 = ledger := by
  induction todo with
  | nil => rfl
  | cons index todo ih =>
    rw [visitAll]
    unfold reconcileRecord at ih ⊢
    cases (host.getPlanned index).bind decodeManaged with
    | none => exact ih
    | some doc => rfl

theorem recoverLedger_readOnly : recoverLedger env host now false ledger = ledger := by
  have hplanned := visitAll_reconcile_readOnly env host now ledger (plannedIndices ledger)
  unfold recoverLedger
  split
  next h => rwa [h] at hplanned
  next l h =>
    obtain rfl : l = ledger := by rwa [h] at hplanned
    cases htodo : dueIndices l now with
    | nil => rfl
    | cons index todo =>
      have hdue : Overdue l now index := by
        rw [← mem_dueIndices_iff, htodo]
        exact mem_cons_self
      obtain ⟨record, hrecord, -⟩ := hdue
      obtain ⟨next, -, hround⟩ := recoverManagedQuotaAccount_eq hrecord
      rw [visitAll, hround]
      cases settles env host now record index <;> rfl

theorem recoverLedger_writable : recoverLedger env host now true ledger =
      (visitAll (recoverManagedQuotaAccount env host now true)
        (reconcilePlanned env host now ledger)
        (dueIndices (reconcilePlanned env host now ledger) now)).1 := by
  have hplanned : (visitAll (reconcileRecord env host now true) ledger
      (plannedIndices ledger)).2 = true :=
    (visitAll_reconcileRecord nodup_plannedIndices).1
  unfold recoverLedger reconcilePlanned
  split
  next h =>
    rw [h] at hplanned
    cases hplanned
  next h => rw [h]

theorem fingerprint_of_reconciled (hrecord : ledger.lookup index = some record)
    (hr' : (reconcilePlanned env host now ledger).lookup index = some r') :
    r'.fingerprint = record.fingerprint := by
  rw [lookup_reconciled, hrecord, bind_some] at hr'
  split at hr'
  · rw [some.inj hr']
  · unfold reconciled at hr'
    split at hr'
    · rw [some.inj hr']
    · split at hr'
      · rw [← some.inj hr', fingerprint_confirmRecord]
      · cases hr'

/-- Every record that is or becomes due is checked without a failure. -/
def Recovers (env : Env) (host : Option HostAnswers) (now : Time) (store : RuntimeStore) : Prop :=
  ∀ index record, store.ledger.lookup index = some record → checkDue now record = true →
    (record.disableApplied = true ∨
      ∃ h, host = some h ∧ store.writable = true ∧ confirms h index = true) →
    ∃ h, host = some h ∧ store.writable = true ∧ settles env h now record index = true

/-- The host calls of the record's check succeed. -/
def settled (env : Env) (host : HostAnswers) (now : Time) (ledger : Ledger) (index : String) :
    Bool :=
  (ledger.lookup index).any fun record => settles env host now record index

/-- The indices whose check a pass over a writable store completes. -/
def checkedIndices (env : Env) (host : HostAnswers) (now : Time) (ledger : Ledger) : List String :=
  (dueIndices (reconcilePlanned env host now ledger) now).takeWhile (settled env host now ledger)

theorem mem_checkedIndices_iff :
    index ∈ checkedIndices env host now ledger ↔ Found host now ledger index ∧
      ∀ other, Found host now ledger other → other ≤ index →
        settled env host now ledger other = true := by
  simp only [checkedIndices, mem_takeWhile_of_sorted sorted_dueIndices, mem_dueIndices_iff,
    overdue_reconcilePlanned_iff]

theorem lookup_recoverLedger (env : Env) (host : HostAnswers) (now : Time) (ledger : Ledger)
    (index : String) :
    (index ∈ checkedIndices env host now ledger → ∀ r,
      (recoverLedger env host now true ledger).lookup index = some r →
        ∃ record, r = checkRecord env now record) ∧
      (index ∉ checkedIndices env host now ledger →
        (recoverLedger env host now true ledger).lookup index =
          (reconcilePlanned env host now ledger).lookup index) := by
  rw [recoverLedger_writable]
  refine lookup_visitAll_recover nodup_dueIndices (fun i hi => ?_) index
  have hoverdue := mem_dueIndices_iff.mp hi
  obtain ⟨record, hrecord, -⟩ := overdue_reconcilePlanned_iff.mp hoverdue
  obtain ⟨r', hr', -⟩ := hoverdue
  refine ⟨r', hr', ?_⟩
  rw [settles_of_fingerprint (fingerprint_of_reconciled hrecord hr'), settled, hrecord, any_some]

theorem overdue_recoverLedger_iff (hinterval : 0 < env.quotaRefreshInterval) (hnow : 0 < now) :
    Overdue (recoverLedger env host now true ledger) now index ↔
      Found host now ledger index ∧ index ∉ checkedIndices env host now ledger := by
  obtain ⟨hin, hout⟩ := lookup_recoverLedger env host now ledger index
  by_cases hchecked : index ∈ checkedIndices env host now ledger
  · refine iff_of_false ?_ fun h => h.2 hchecked
    rintro ⟨r, hr, -, hdue⟩
    obtain ⟨record, rfl⟩ := hin hchecked r hr
    rw [checkDue_checkRecord hinterval hnow] at hdue
    cases hdue
  · rw [Overdue, hout hchecked, and_iff_left hchecked]
    exact overdue_reconcilePlanned_iff

/-- No applied record is due after a pass iff each was checked without a failure; it ends at the
first. -/
theorem overdue_after_pass_iff (hinterval : 0 < env.quotaRefreshInterval) (hnow : 0 < now)
    (henabled : env.enableManagedQuotaDisable = true) {store : RuntimeStore}
    (hreadable : store.readable = true) (host : Option HostAnswers) :
    (∀ index, ¬ Overdue (recoverManagedQuotaAccounts env now host store).ledger now index) ↔
      Recovers env host now store := by
  have hidle : (∀ index, ¬ Overdue store.ledger now index) ↔
      ∀ index record, store.ledger.lookup index = some record → checkDue now record = true →
        record.disableApplied = true → False :=
    ⟨fun h index record hr hdue happ => h index ⟨record, hr, happ, hdue⟩,
      fun h index ⟨record, hr, happ, hdue⟩ => h index record hr hdue happ⟩
  cases host with
  | none =>
    rw [recoverManagedQuotaAccounts, hidle]
    simp [Recovers]
  | some h =>
    rw [recoverManagedQuotaAccounts, henabled, hreadable]
    cases hwritable : store.writable with
    | false =>
      simp only [Bool.and_self, if_true, recoverLedger_readOnly]
      rw [hidle]
      simp [Recovers, hwritable]
    | true =>
      simp only [Bool.and_self, if_true]
      simp only [overdue_recoverLedger_iff hinterval hnow, not_and_not_right]
      constructor
      · intro hall index record hrecord hdue hcond
        have hfound : Found h now store.ledger index := by
          refine ⟨record, hrecord, hdue, hcond.imp id ?_⟩
          rintro ⟨h', hh, -, hconfirms⟩
          exact some.inj hh ▸ hconfirms
        have hsettled := (mem_checkedIndices_iff.mp (hall index hfound)).2 index hfound le_rfl
        rw [settled, hrecord, any_some] at hsettled
        exact ⟨h, rfl, hwritable, hsettled⟩
      · intro hrecovers index hindex
        refine mem_checkedIndices_iff.mpr ⟨hindex, ?_⟩
        rintro other ⟨record, hrecord, hdue, hfound⟩ -
        obtain ⟨h', hh, -, hsettles⟩ := hrecovers other record hrecord hdue
          (hfound.imp id fun hconfirms => ⟨h, rfl, hwritable, hconfirms⟩)
        obtain rfl := some.inj hh
        rw [settled, hrecord, any_some, hsettles]

/-- Each due applied record whose host calls succeed is removed or gets a later check. -/
def Isolates (env : Env) (host : HostAnswers) (now : Time) (store : RuntimeStore) : Prop :=
  ∀ index record, store.ledger.lookup index = some record → record.disableApplied = true →
    checkDue now record = true → settles env host now record index = true →
    ∀ after, (recoverManagedQuotaAccounts env now (some host) store).ledger.lookup index =
      some after → after.nextQuotaCheckAt.after now = true

/-- A pass isolates failures iff every record whose calls fail sorts behind all that would be
checked. -/
theorem isolates_iff (hinterval : 0 < env.quotaRefreshInterval) (hnow : 0 < now)
    (henabled : env.enableManagedQuotaDisable = true) {store : RuntimeStore}
    (hreadable : store.readable = true) (hwritable : store.writable = true) (host : HostAnswers) :
    Isolates env host now store ↔
      ∀ index record, store.ledger.lookup index = some record → record.disableApplied = true →
        checkDue now record = true → settles env host now record index = true →
        ∀ other, Found host now store.ledger other →
          settled env host now store.ledger other = false → index < other := by
  have hpass : (recoverManagedQuotaAccounts env now (some host) store).ledger =
      recoverLedger env host now true store.ledger := by
    simp [recoverManagedQuotaAccounts, henabled, hreadable, hwritable]
  rw [Isolates, hpass]
  refine forall_congr' fun index => forall_congr' fun record => forall_congr' fun hrecord =>
    forall_congr' fun happlied => forall_congr' fun hdue => forall_congr' fun _ => ?_
  have hfound : Found host now store.ledger index := ⟨record, hrecord, hdue, .inl happlied⟩
  obtain ⟨hin, hout⟩ := lookup_recoverLedger env host now store.ledger index
  constructor
  · intro hlater other hother hfails
    by_contra hle
    have hnot : index ∉ checkedIndices env host now store.ledger := by
      intro hchecked
      rw [(mem_checkedIndices_iff.mp hchecked).2 other hother (not_lt.mp hle)] at hfails
      cases hfails
    obtain ⟨r, hr, -, hdue'⟩ := overdue_reconcilePlanned_iff.mpr hfound
    rw [checkDue_eq hnow, hlater r ((hout hnot).trans hr)] at hdue'
    cases hdue'
  · intro hbehind after hafter
    have hchecked : index ∈ checkedIndices env host now store.ledger := by
      refine mem_checkedIndices_iff.mpr ⟨hfound, fun other hother hle => ?_⟩
      by_contra hfails
      exact (hbehind other hother (Bool.not_eq_true _ ▸ hfails)).not_ge hle
    obtain ⟨r, rfl⟩ := hin hchecked after hafter
    have hlater := checkDue_checkRecord hinterval hnow r
    rwa [checkDue_eq hnow, Bool.not_eq_false'] at hlater

def firstFails : HostAnswers where
  getPlanned _ := none
  getAuth index := if index = "a" then none else some (.json (.object []))
  quota _ := none
  saveAuth _ := true

def twoDue : RuntimeStore where
  ledger := (insert "b" { disableApplied := true } ∅ : Ledger).insert "a" { disableApplied := true }

theorem not_isolates_twoDue : ¬ Isolates plainEnv firstFails hour twoDue := fun h =>
  absurd ((isolates_iff (by decide) (by decide) rfl rfl rfl _).mp h "b" _ rfl rfl rfl rfl "a"
    ⟨_, rfl, rfl, .inl rfl⟩ rfl) (by decide)

theorem second_unchecked : settles plainEnv firstFails hour { disableApplied := true } "b" = true ∧
    (recoverManagedQuotaAccounts plainEnv hour (some firstFails) twoDue).ledger.lookup "b" =
      some { disableApplied := true } := by decide +kernel

end QuotaScheduler.ManagedRecovery

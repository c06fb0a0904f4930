/- The list of the management status (scheduler.go) and production selection. -/

import QuotaScheduler.QueueState
import QuotaScheduler.QuotaReadings
import QuotaScheduler.Roster
import QuotaScheduler.SelectionTotal

namespace QuotaScheduler.ManagementQueue

open Lib.RankSort Trial Selection SelectionOrder SelectionTotal Account State
open Published QueueState Roster List Prod.Lex

structure AuthCandidate where
  id : String
  provider : String
  priority : Int
  deriving DecidableEq

def toCandidates (candidates : List AuthCandidate) : List Candidate :=
  candidates.map fun c => ⟨c.id, c.provider⟩

def ignored (c : AuthCandidate) : Bool := decide (c.id = "") || decide (c.provider ≠ "codex")

/-- The entries `CodexAdmissionFromRequest` hands to `CodexTierGroups`. -/
def candidateEntries (candidates : List AuthCandidate) : List RosterEntry :=
  (candidates.filter fun c => !ignored c).map fun c => ⟨c.id, "", c.provider, some c.priority⟩

/-- `CodexAdmissionFromRequest`; without codex candidates it is empty and not ok. -/
def codexAdmissionFromRequest (candidates : List AuthCandidate) (acrossPriorities : Bool) :
    CPAAdmissionState × Bool :=
  match codexTierGroups (candidateEntries candidates) with
  | none => ({}, false)
  | some groups =>
    let tiers := if acrossPriorities then groups else groups.take 1
    ({ observed := true
       priority := (tiers.head?.map (·.priority)).getD 0
       authIDs := tiers.foldl (fun union tier => union ∪ tier.authIDs) ∅
       tiers := tiers }, true)

structure ScheduledAccount where
  authID : String
  cpaPriority : Int
  schedulerPriority : Int := 0
  family : AccountFamily
  queueStatus : QueueStatus
  available : Bool := false
  unavailableReason : String
  sortTime : Time := .zero
  selectionClass : AvailabilityClass
  selectionView : AccountView

def accountsByAuthID (accounts : List AccountState) (id : String) : Option AccountState :=
  accounts.reverse.find? fun a => a.authID ≠ "" && a.authID = id

def priorityByAuthID (tiers : List TierAdmission) (id : String) : Option Int :=
  tiers.foldl (fun existing tier =>
    if id ∈ tier.authIDs ∧ existing.all (· < tier.priority) then some tier.priority
    else existing) none

def unknownView (id : String) : AccountView where
  id := id
  authIndex := ""
  inst := 0
  pluginPriority := 0
  cpaPriority := 0
  family := .unset
  cache := .fresh
  lastKnownAvailable := false
  exhausted := false
  resetAt := Time.zero
  authBlocked := false
  circuit := .closed
  temporaryUnavailable := false
  trial := .none
  expiry := Time.zero
  remainingQuota := 0
  quotaPressure := 0

def scheduledAccount (s : StateSnapshot) (now : Time) (trials : TrialRegistry)
    (tiers : List TierAdmission) (c : AuthCandidate) : ScheduledAccount :=
  let candidatePriority := (priorityByAuthID tiers c.id).getD c.priority
  match accountsByAuthID s.accounts c.id with
  | none =>
    { authID := c.id
      cpaPriority := candidatePriority
      family := .unknown
      queueStatus := .unavailable
      unavailableReason := "unknown_account"
      selectionClass := .excluded
      selectionView := unknownView c.id }
  | some account =>
    let view := { accountViewFromState account s.config now trials with
      cpaPriority := candidatePriority }
    let cls := classifyAccount view now
    let verdict := accountQueueState account now
    -- the queue does not look at trials itself
    let verdict :=
      if cls = .excluded && verdict.available && view.trial ≠ .none then
        unavailable "quota_probe_wait"
      else verdict
    { authID := c.id
      cpaPriority := candidatePriority
      schedulerPriority := account.schedulerPriority
      family := account.family
      queueStatus := verdict.status
      available := verdict.available
      unavailableReason := verdict.reason
      sortTime := verdict.sortTime
      selectionClass := cls
      selectionView := view }

/-- The loop over the candidates; `seen` holds the IDs that have their entry. -/
def collectScheduled (s : StateSnapshot) (now : Time) (trials : TrialRegistry)
    (admission : CPAAdmissionState) :
    List AuthCandidate → List String → List ScheduledAccount
  | [], _ => []
  | c :: rest, seen =>
    if ignored c || c.id ∉ admission.authIDs || c.id ∈ seen then
      collectScheduled s now trials admission rest seen
    else
      scheduledAccount s now trials admission.tiers c ::
        collectScheduled s now trials admission rest (c.id :: seen)

def classRank : AvailabilityClass → Nat
  | .preferred => 0
  | .opportunistic => 1
  | .excluded => 2

def scheduledLess (mode : MonthlyMode) (left right : ScheduledAccount) : Bool :=
  if left.selectionClass ≠ right.selectionClass then
    decide (classRank left.selectionClass < classRank right.selectionClass)
  else if left.selectionClass ≠ .excluded then
    if left.cpaPriority ≠ right.cpaPriority then decide (right.cpaPriority < left.cpaPriority)
    else accountViewLess left.selectionView right.selectionView mode
  else if left.sortTime ≠ right.sortTime then
    if left.sortTime.isZero then false
    else if right.sortTime.isZero then true
    else left.sortTime.before right.sortTime
  else decide (left.authID < right.authID)

def buildOrderedAccounts (candidates : List AuthCandidate) (s : StateSnapshot) (now : Time)
    (trials : TrialRegistry) : List ScheduledAccount :=
  let (admission, ok) := codexAdmissionFromRequest candidates s.config.scheduleAcrossPriorities
  if ok then
    sortSlice (scheduledLess s.config.monthlyMode)
      (collectScheduled s now trials admission candidates [])
  else []

def Listed (candidates : List AuthCandidate) (admission : CPAAdmissionState)
    (c : AuthCandidate) : Prop :=
  c ∈ candidates ∧ ignored c = false ∧ c.id ∈ admission.authIDs

variable {candidates : List AuthCandidate} {admission : CPAAdmissionState} {seen : List String}
  {s : StateSnapshot} {trials : TrialRegistry} {now : Time} {id : String} {c : AuthCandidate}

theorem ne_empty_of_listed (h : Listed candidates admission c) : c.id ≠ "" := by
  have hkept := h.2.1
  simp only [ignored, Bool.or_eq_false_iff, decide_eq_false_iff_not] at hkept
  exact hkept.1

theorem authID_scheduledAccount (tiers : List TierAdmission) :
    (scheduledAccount s now trials tiers c).authID = c.id := by
  unfold scheduledAccount
  cases accountsByAuthID s.accounts c.id <;> rfl

theorem exists_of_mem_collectScheduled {e : ScheduledAccount}
    (h : e ∈ collectScheduled s now trials admission candidates seen) :
    ∃ c, Listed candidates admission c ∧ e = scheduledAccount s now trials admission.tiers c := by
  induction candidates generalizing seen with
  | nil => cases h
  | cons c rest ih =>
    have hlift : ∀ c', Listed rest admission c' → Listed (c :: rest) admission c' :=
      fun c' hc => ⟨mem_cons_of_mem c hc.1, hc.2⟩
    unfold collectScheduled at h
    split at h
    · obtain ⟨c', hc', he⟩ := ih h
      exact ⟨c', hlift c' hc', he⟩
    · rename_i hguard
      simp only [Bool.or_eq_true, decide_eq_true_eq, not_or, not_not, Bool.not_eq_true] at hguard
      rcases mem_cons.mp h with rfl | h
      · exact ⟨c, ⟨mem_cons_self, hguard.1.1, hguard.1.2⟩, rfl⟩
      · obtain ⟨c', hc', he⟩ := ih h
        exact ⟨c', hlift c' hc', he⟩

theorem exists_mem_collectScheduled (hc : Listed candidates admission c) (hseen : c.id ∉ seen) :
    ∃ c', Listed candidates admission c' ∧ c'.id = c.id ∧
      scheduledAccount s now trials admission.tiers c' ∈
        collectScheduled s now trials admission candidates seen := by
  induction candidates generalizing seen with
  | nil => cases hc.1
  | cons d rest ih =>
    have hlift : ∀ c', Listed rest admission c' → Listed (d :: rest) admission c' :=
      fun c' hc => ⟨mem_cons_of_mem d hc.1, hc.2⟩
    obtain ⟨hmem, hkept, hadmitted⟩ := hc
    unfold collectScheduled
    split
    · rename_i hguard
      -- the skipped candidate is not the one looked for
      have hne : c ≠ d := by
        rintro rfl
        simp [hkept, hadmitted, hseen] at hguard
      have hrest : Listed rest admission c :=
        ⟨(mem_cons.mp hmem).resolve_left hne, hkept, hadmitted⟩
      obtain ⟨c', hc', hid, he⟩ := ih hrest hseen
      exact ⟨c', hlift c' hc', hid, he⟩
    · rename_i hguard
      simp only [Bool.or_eq_true, decide_eq_true_eq, not_or, not_not, Bool.not_eq_true] at hguard
      by_cases hid : d.id = c.id
      · exact ⟨d, ⟨mem_cons_self, hguard.1.1, hguard.1.2⟩, hid, mem_cons_self⟩
      · have hne : c ≠ d := fun heq => hid (congrArg (·.id) heq.symm)
        have hrest : Listed rest admission c :=
          ⟨(mem_cons.mp hmem).resolve_left hne, hkept, hadmitted⟩
        have hseen' : c.id ∉ d.id :: seen := by
          simp only [mem_cons, not_or]
          exact ⟨fun heq => hid heq.symm, hseen⟩
        obtain ⟨c', hc', hid', he⟩ := ih hrest hseen'
        exact ⟨c', hlift c' hc', hid', mem_cons_of_mem _ he⟩

theorem tier_of_priorityByAuthID {tiers : List TierAdmission} {p : Int}
    (h : priorityByAuthID tiers id = some p) : ∃ t ∈ tiers, t.priority = p ∧ id ∈ t.authIDs := by
  refine foldlRecOn tiers _
    (motive := fun existing => existing = some p → ∃ t ∈ tiers, t.priority = p ∧ id ∈ t.authIDs)
    (fun h => by cases h) ?_ h
  intro existing hexisting t ht hq
  split at hq
  · rename_i hin
    cases hq
    exact ⟨t, ht, rfl, hin.1⟩
  · exact hexisting hq

theorem candidate_of_tier {across : Bool} {t : TierAdmission}
    (ht : t ∈ (codexAdmissionFromRequest candidates across).1.tiers) (hid : id ∈ t.authIDs) :
    ∃ c ∈ candidates, c.id = id ∧ c.priority = t.priority := by
  unfold codexAdmissionFromRequest at ht
  split at ht
  · cases ht
  · rename_i groups hgroups
    have hmem : t ∈ groups := by
      cases across with
      | true => exact ht
      | false => exact mem_of_mem_take ht
    obtain ⟨e, he, hide, hp⟩ := (mem_codexTierGroups hgroups id t.priority).mp ⟨t, hmem, rfl, hid⟩
    obtain ⟨c, hc, rfl⟩ := mem_map.mp he
    refine ⟨c, (mem_filter.mp hc).1, hide, ?_⟩
    unfold codexPriority at hp
    split at hp
    · cases hp
    · exact Option.some.inj hp

/-- The candidates carry the priorities the state has for their accounts. -/
def CarryStored (candidates : List AuthCandidate) (s : StateSnapshot) : Prop :=
  ∀ c ∈ candidates, ∀ a ∈ s.accounts, a.authID = c.id → c.priority = a.priority

variable {a : AccountState}

theorem candidatePriority_eq (hcarry : CarryStored candidates s) {across : Bool}
    (hc : c ∈ candidates) (ha : a ∈ s.accounts) (hid : a.authID = c.id) :
    (priorityByAuthID (codexAdmissionFromRequest candidates across).1.tiers c.id).getD c.priority =
      a.priority := by
  cases hp : priorityByAuthID (codexAdmissionFromRequest candidates across).1.tiers c.id with
  | none => exact hcarry c hc a ha hid
  | some p =>
    obtain ⟨t, ht, rfl, hin⟩ := tier_of_priorityByAuthID hp
    obtain ⟨d, hd, hdid, hdp⟩ := candidate_of_tier ht hin
    exact hdp.symm.trans (hcarry d hd a ha (hid.trans hdid.symm))

theorem accountsByAuthID_eq_some {accounts : List AccountState}
    (hids : (accounts.map (·.authID)).Nodup) (hid : id ≠ "") :
    accountsByAuthID accounts id = some a ↔ a ∈ accounts ∧ a.authID = id := by
  unfold accountsByAuthID
  constructor
  · intro h
    have hmem := mem_reverse.mp (mem_of_find?_eq_some h)
    have hprop := find?_some h
    simp only [Bool.and_eq_true, decide_eq_true_eq] at hprop
    exact ⟨hmem, hprop.2⟩
  · rintro ⟨ha, rfl⟩
    cases hfind : accounts.reverse.find? fun b => b.authID ≠ "" && b.authID = a.authID with
    | none =>
      have := find?_eq_none.mp hfind a (mem_reverse.mpr ha)
      simp [hid] at this
    | some b =>
      have hb := mem_reverse.mp (mem_of_find?_eq_some hfind)
      have hprop := find?_some hfind
      simp only [Bool.and_eq_true, decide_eq_true_eq] at hprop
      rw [inj_on_of_nodup_map hids hb ha hprop.2]

variable {v : AccountView}

theorem trial_of_selectable (h : classifyAccount v now ≠ .excluded) : v.trial = .none := by
  by_contra hne
  exact h (by simp [classifyAccount, hne])

theorem passView_of_untried (h : trials.state a.inst s.now = .none) :
    passView (schedulerSnapshotFromState s trials) trials s.now
        (accountViewFromState a s.config s.now trials) =
      accountViewFromState a s.config s.now trials := by
  have hadvanced := (stateAt_advance_eq_none (trials a.inst) s.now).mpr h
  unfold passView accountViewFromState schedulerSnapshotFromState
  simp only [if_true, hadvanced, h]

abbrev storedView (s : StateSnapshot) (trials : TrialRegistry) (a : AccountState) : AccountView :=
  accountViewFromState a s.config s.now trials

abbrev requestAdmission (candidates : List AuthCandidate) (s : StateSnapshot) :
    CPAAdmissionState :=
  (codexAdmissionFromRequest candidates s.config.scheduleAcrossPriorities).1

theorem scheduledAccount_of_account (trials : TrialRegistry) (hcarry : CarryStored candidates s)
    (hc : c ∈ candidates) (ha : a ∈ s.accounts) (hid : a.authID = c.id)
    (hfound : accountsByAuthID s.accounts c.id = some a) :
    let e := scheduledAccount s s.now trials (requestAdmission candidates s).tiers c
    e.selectionView = storedView s trials a ∧ e.authID = a.authID ∧
      e.cpaPriority = a.priority ∧
      e.selectionClass = classifyAccount (storedView s trials a) s.now := by
  have hp : (priorityByAuthID (requestAdmission candidates s).tiers c.id).getD c.priority =
      a.priority := candidatePriority_eq hcarry hc ha hid
  have hview : { storedView s trials a with
      cpaPriority := (priorityByAuthID (requestAdmission candidates s).tiers c.id).getD
        c.priority } = storedView s trials a := by
    rw [hp]
    rfl
  unfold scheduledAccount
  rw [hfound]
  dsimp only
  rw [hview, hp]
  exact ⟨rfl, hid.symm, rfl, rfl⟩

theorem scheduledAccount_unknown (hfound : accountsByAuthID s.accounts c.id = none) :
    (scheduledAccount s s.now trials (requestAdmission candidates s).tiers c).selectionClass =
      .excluded := by
  unfold scheduledAccount
  rw [hfound]

/-- The selection works on the published views, each with its trial advanced first. -/
abbrev selectionViews (candidates : List AuthCandidate) (s : StateSnapshot)
    (trials : TrialRegistry) : List AccountView :=
  (passAccounts (schedulerSnapshotFromState s trials) (toCandidates candidates) []).map
    (passView (schedulerSnapshotFromState s trials) trials s.now)

theorem mem_selectionViews (hset : (requestAdmission candidates s).authIDs = s.cpaAdmission.authIDs)
    :
    v ∈ selectionViews candidates s trials ↔
      ∃ a ∈ s.accounts, (∃ c, Listed candidates (requestAdmission candidates s) c ∧
        c.id = a.authID) ∧ v = passView (schedulerSnapshotFromState s trials) trials s.now
          (storedView s trials a) := by
  have helig : ∀ a : AccountState,
      eligibleID (schedulerSnapshotFromState s trials) (toCandidates candidates) a.authID = true ↔
        ∃ c, Listed candidates (requestAdmission candidates s) c ∧ c.id = a.authID := by
    intro a
    unfold Listed
    rw [hset]
    simp only [eligibleID, toCandidates, any_map, any_eq_true, Function.comp_apply,
      Bool.and_eq_true, decide_eq_true_eq, ignored, Bool.or_eq_false_iff, decide_eq_false_iff_not,
      not_not]
    constructor
    · rintro ⟨c, hc, ⟨⟨hne, hcodex⟩, hin⟩, hid⟩
      exact ⟨c, ⟨hc, ⟨hne, hcodex⟩, hin⟩, hid⟩
    · rintro ⟨c, ⟨hc, ⟨hne, hcodex⟩, hin⟩, hid⟩
      exact ⟨c, hc, ⟨⟨hne, hcodex⟩, hin⟩, hid⟩
  simp only [selectionViews, passAccounts, mem_map, mem_filter, not_mem_nil,
    not_false_eq_true, decide_true, Bool.true_and]
  constructor
  · rintro ⟨w, ⟨hw, hid⟩, rfl⟩
    obtain ⟨a, ha, rfl⟩ := mem_map.mp hw
    exact ⟨a, ha, (helig a).mp hid, rfl⟩
  · rintro ⟨a, ha, hlisted, rfl⟩
    exact ⟨storedView s trials a, ⟨mem_map.mpr ⟨a, ha, rfl⟩, (helig a).mpr hlisted⟩, rfl⟩

structure Faithful (now : Time) (e : ScheduledAccount) : Prop where
  authID : e.authID = e.selectionView.id
  cpaPriority : e.cpaPriority = e.selectionView.cpaPriority
  cls : e.selectionClass = classifyAccount e.selectionView now

theorem selectable_entry (hids : (s.accounts.map (·.authID)).Nodup)
    (hcarry : CarryStored candidates s)
    (hset : (requestAdmission candidates s).authIDs = s.cpaAdmission.authIDs) {e : ScheduledAccount}
    (he : e ∈ collectScheduled s s.now trials (requestAdmission candidates s) candidates [])
    (hcls : e.selectionClass ≠ .excluded) :
    Faithful s.now e ∧ e.selectionView ∈ selectionViews candidates s trials := by
  obtain ⟨c, hlisted, rfl⟩ := exists_of_mem_collectScheduled he
  have hne := ne_empty_of_listed hlisted
  cases hfound : accountsByAuthID s.accounts c.id with
  | none => exact absurd (scheduledAccount_unknown hfound) hcls
  | some a =>
    obtain ⟨ha, hid⟩ := (accountsByAuthID_eq_some hids hne).mp hfound
    obtain ⟨hview, hauth, hcpa, hclass⟩ :=
      scheduledAccount_of_account trials hcarry hlisted.1 ha hid hfound
    refine ⟨⟨?_, ?_, ?_⟩, ?_⟩
    · rw [hview, hauth]
      rfl
    · rw [hview, hcpa]
      rfl
    · rw [hview, hclass]
    · rw [hclass] at hcls
      rw [hview, mem_selectionViews hset]
      refine ⟨a, ha, ⟨c, hlisted, hid.symm⟩, ?_⟩
      exact (passView_of_untried (trial_of_selectable hcls)).symm

theorem entry_of_selectable (hids : (s.accounts.map (·.authID)).Nodup)
    (hcarry : CarryStored candidates s)
    (hset : (requestAdmission candidates s).authIDs = s.cpaAdmission.authIDs)
    (hv : v ∈ selectionViews candidates s trials) (hcls : classifyAccount v s.now ≠ .excluded) :
    ∃ e ∈ collectScheduled s s.now trials (requestAdmission candidates s) candidates [],
      e.selectionClass ≠ .excluded ∧ e.selectionView = v := by
  obtain ⟨a, ha, ⟨c, hlisted, hid⟩, rfl⟩ := (mem_selectionViews hset).mp hv
  have hsame : passView (schedulerSnapshotFromState s trials) trials s.now
      (storedView s trials a) = storedView s trials a :=
    passView_of_untried ((stateAt_advance_eq_none (trials a.inst) s.now).mp
      (trial_of_selectable hcls))
  rw [hsame] at hcls ⊢
  obtain ⟨c', hlisted', hid', he⟩ :=
    exists_mem_collectScheduled hlisted not_mem_nil
  have hne := ne_empty_of_listed hlisted'
  have hid₂ : a.authID = c'.id := hid.symm.trans hid'.symm
  have hfound := (accountsByAuthID_eq_some hids hne).mpr ⟨ha, hid₂⟩
  obtain ⟨hview, -, -, hclass⟩ :=
    scheduledAccount_of_account trials hcarry hlisted'.1 ha hid₂ hfound
  exact ⟨_, he, by rw [hclass]; exact hcls, hview⟩

def scheduledRank (e : ScheduledAccount) : Nat ×ₗ Intᵒᵈ ×ₗ SelectionKey :=
  toLex (classRank e.selectionClass,
    if e.selectionClass = .excluded then toLex (OrderDual.toDual 0, selectionKey (unknownView ""))
    else toLex (OrderDual.toDual e.cpaPriority, selectionKey e.selectionView))

/-- No window of the account has a used percentage of NaN. -/
def NumericUse (a : AccountState) : Prop :=
  a.quota.longWindow.bind (·.usedPercent) ≠ some .nan ∧
    a.quota.fiveHour.bind (·.usedPercent) ≠ some .nan

instance (a : AccountState) : Decidable (NumericUse a) := by
  unfold NumericUse
  infer_instance

theorem numeric_storedView (h : NumericUse a) : Numeric (storedView s trials a) := by
  constructor
  · change quotaPressure a s.now ≠ .nan
    unfold quotaPressure
    split
    · decide
    · next w hlong =>
      split
      · decide
      · next used hused =>
        have hnum : used ≠ .nan := fun hnan => h.1 (by simp [hlong, hused, hnan])
        split_ifs
        · decide
        · decide
        · refine Float64.map_ne_nan ?_
          split_ifs
          · decide
          · decide
          · exact Float64.map_ne_nan hnum
  · change remainingQuota a ≠ .nan
    unfold remainingQuota
    split
    · next used _ hlong =>
      exact Float64.map_ne_nan fun hnan => h.1 (hlong.trans (congrArg some hnan))
    · next used _ hfive =>
      exact Float64.map_ne_nan fun hnan => h.2 (hfive.trans (congrArg some hnan))
    · decide

theorem numeric_scheduled {entries : List AuthCandidate} {admission : CPAAdmissionState}
    (hnum : ∀ a ∈ s.accounts, NumericUse a) {e : ScheduledAccount}
    (he : e ∈ collectScheduled s s.now trials admission entries []) : Numeric e.selectionView := by
  obtain ⟨c, -, rfl⟩ := exists_of_mem_collectScheduled he
  unfold scheduledAccount
  cases hfound : accountsByAuthID s.accounts c.id with
  | none =>
    have hunknown : ∀ id, Numeric (unknownView id) := by
      intro id
      constructor <;> exact Float64.noConfusion
    exact hunknown c.id
  | some a =>
    have hmem : a ∈ s.accounts := mem_reverse.mp (mem_of_find?_eq_some hfound)
    have hview : Numeric (storedView s trials a) := numeric_storedView (hnum a hmem)
    exact hview

theorem classRank_inj {c d : AvailabilityClass} (h : classRank c = classRank d) : c = d := by
  cases c <;> cases d <;> first | rfl | cases h

theorem respects_scheduledRank {entries : List ScheduledAccount}
    (hnum : ∀ e ∈ entries, Numeric e.selectionView) :
    Respects (scheduledLess .expiryOrder) scheduledRank entries where
  less_of_rank a ha b hb h := by
    rw [scheduledRank, scheduledRank, toLex_lt_toLex] at h
    rcases h with hlt | ⟨heq, hlt⟩
    · have hne : a.selectionClass ≠ b.selectionClass := by
        intro heq
        rw [heq] at hlt
        exact lt_irrefl _ hlt
      simp [scheduledLess, hne, hlt]
    · have hcls := classRank_inj heq
      by_cases hex : a.selectionClass = .excluded
      · rw [if_pos hex, if_pos (hcls ▸ hex)] at hlt
        exact absurd hlt (lt_irrefl _)
      · rw [if_neg hex, if_neg (hcls ▸ hex), toLex_lt_toLex] at hlt
        rcases hlt with hlt | ⟨hcpa, hlt⟩
        · have hcpa : b.cpaPriority < a.cpaPriority := hlt
          simp [scheduledLess, ← hcls, hex, ne_of_gt hcpa, hcpa]
        · have hcpa : a.cpaPriority = b.cpaPriority := hcpa
          simpa [scheduledLess, ← hcls, hex, hcpa] using
            (accountViewLess_iff_key (hnum a ha) (hnum b hb)).mpr hlt
  rank_of_less a ha b hb h := by
    unfold scheduledLess at h
    rw [scheduledRank, scheduledRank, toLex_le_toLex]
    by_cases hcls : a.selectionClass = b.selectionClass
    · right
      rw [hcls]
      refine ⟨rfl, ?_⟩
      by_cases hex : b.selectionClass = .excluded
      · simp [hex]
      · simp only [hcls, ne_eq, not_true_eq_false, if_false, hex, not_false_eq_true, if_true] at h ⊢
        rw [toLex_le_toLex]
        by_cases hcpa : a.cpaPriority = b.cpaPriority
        · simp only [hcpa, not_true_eq_false, if_false] at h
          have hlt := (accountViewLess_iff_key (hnum a ha) (hnum b hb)).mp h
          exact .inr ⟨congrArg OrderDual.toDual hcpa, le_of_lt hlt⟩
        · simp only [hcpa, not_false_eq_true, if_true, decide_eq_true_eq] at h
          exact .inl h
    · simp only [ne_eq, hcls, not_false_eq_true, if_true, decide_eq_true_eq] at h
      exact .inl h

def queueHead (entries : List ScheduledAccount) : Option (String × AuthInstanceID) :=
  (entries.find? fun e => e.selectionClass ≠ .excluded).map fun e =>
    (e.authID, e.selectionView.inst)

def pickedAccount (r : SelectionResult) : Option (String × AuthInstanceID) :=
  if r.authID = "" then none else some (r.authID, r.inst)

theorem buildOrderedAccounts_eq :
    buildOrderedAccounts candidates s now trials = sortSlice (scheduledLess s.config.monthlyMode)
      (collectScheduled s now trials (requestAdmission candidates s) candidates []) := by
  have hempty : ∀ admission : CPAAdmissionState, admission.authIDs = ∅ →
      collectScheduled s now trials admission candidates [] = [] := by
    intro admission hnone
    refine eq_nil_iff_forall_not_mem.mpr fun e he => ?_
    obtain ⟨c, hlisted, -⟩ := exists_of_mem_collectScheduled he
    have hin := hlisted.2.2
    simp [hnone] at hin
  unfold buildOrderedAccounts requestAdmission codexAdmissionFromRequest
  cases codexTierGroups (candidateEntries candidates) with
  | none =>
    rw [hempty _ rfl]
    rfl
  | some groups => rfl

theorem selectionKey_le_of_rank {a b : ScheduledAccount} (ha : Faithful now a)
    (hb : Faithful now b) (hcls : a.selectionClass = b.selectionClass)
    (hne : a.selectionClass ≠ .excluded) (h : scheduledRank a ≤ scheduledRank b) :
    selectionKey a.selectionView ≤ selectionKey b.selectionView := by
  rw [scheduledRank, scheduledRank, ← hcls, if_neg hne, if_neg hne, toLex_le_toLex] at h
  rcases h with hlt | ⟨-, h⟩
  · exact absurd hlt (lt_irrefl _)
  · rw [toLex_le_toLex, ha.cpaPriority, hb.cpaPriority] at h
    rcases h with hlt | ⟨-, hle⟩
    · exact le_of_lt (toLex_lt_toLex.mpr (.inl hlt))
    · exact hle

theorem view_eq_of_first (hids : (s.accounts.map (·.authID)).Nodup)
    (hnum : ∀ v ∈ selectionViews candidates s trials, Numeric v)
    (hmode : s.config.monthlyMode = .expiryOrder) {result : SelectionResult}
    {e e' : ScheduledAccount}
    (ha : Chosen (schedulerSnapshotFromState s trials) s.now (selectionViews candidates s trials)
      result e'.selectionView)
    (hmem : e.selectionView ∈ selectionViews candidates s trials) (he : Faithful s.now e)
    (he' : Faithful s.now e') (hne : e.selectionClass ≠ .excluded)
    (hrank : scheduledRank e ≤ scheduledRank e') : e.selectionView = e'.selectionView := by
  have hcls' : e'.selectionClass = result.cls := he'.cls.trans ha.cls
  have hle : classRank e.selectionClass ≤ classRank e'.selectionClass := by
    rcases toLex_le_toLex.mp hrank with hlt | ⟨heq, -⟩
    · exact le_of_lt hlt
    · exact le_of_eq heq
  have hcls : e.selectionClass = e'.selectionClass := by
    rw [hcls'] at hle ⊢
    rcases ha.best with hp | ⟨hp, hbest⟩
    · rw [hp] at hle ⊢
      exact classRank_inj (Nat.le_zero.mp hle)
    · rw [hp]
      cases hcls : e.selectionClass with
      | preferred => exact absurd (he.cls.symm.trans hcls) (hbest _ hmem)
      | opportunistic => rfl
      | excluded => exact absurd hcls hne
  have hkey := selectionKey_le_of_rank he he' hcls hne hrank
  have hfirst := ha.first hmode hnum hmem (he.cls.symm.trans (hcls.trans hcls'))
  change accountViewLess _ _ s.config.monthlyMode = false at hfirst
  rw [hmode, ← Bool.not_eq_true, accountViewLess_iff_key (hnum _ hmem) (hnum _ ha.mem),
    not_lt] at hfirst
  have hsnapshot : ((schedulerSnapshotFromState s trials).accounts.map (·.id)).Nodup := by
    change ((s.accounts.map fun a => storedView s trials a).map (·.id)).Nodup
    rw [map_map]
    exact hids
  exact inj_on_of_nodup_map (nodup_passViews hsnapshot (toCandidates candidates) s.now [] trials)
    hmem ha.mem (id_eq_of_selectionKey_eq (le_antisymm hkey hfirst))

private def weekly (id : String) (window : Option QuotaWindow) : AccountState where
  authID := id
  family := .weekly
  lastSuccessAt := hour
  quota := { longWindow := window }

private def snapshotOf (accounts : List AccountState) : StateSnapshot where
  config := { defaultConfig with monthlyMode := .expiryOrder }
  accounts := accounts
  cpaAdmission := { observed := true, authIDs := (accounts.map (·.authID)).toFinset }
  now := hour

private def used (percent : Float64) : Option QuotaWindow :=
  some { usedPercent := some percent, resetAt := 10 * hour }

private def twoAccounts : StateSnapshot := snapshotOf [weekly "a" (used 90), weekly "b" (used 20)]

-- the window of a response whose X-Codex-Secondary-Used-Percent is the text NaN
private def nanHeaders : QuotaReadings.CodexHeaders where
  secondary := { usedPercent := some .nan, resetAfterSeconds := some 32400 }

private def nanBetween : StateSnapshot :=
  snapshotOf [weekly "a" (used 90),
    weekly "b" (QuotaReadings.codexQuotaFromHeaders nanHeaders hour).longWindow,
    weekly "c" (used 20)]

private def reversed : List AuthCandidate :=
  [⟨"c", "codex", 0⟩, ⟨"b", "codex", 0⟩, ⟨"a", "codex", 0⟩]

end QuotaScheduler.ManagementQueue

/- The priority of an account that is offered at several: stored, looked up and queued. -/

import Mathlib.Order.Bounds.Basic
import QuotaScheduler.ManagementQueue
import QuotaScheduler.RosterAdmission

namespace QuotaScheduler.AdmissionPriority

open List Option

open Lib.RankSort Trial Account State Roster ManagementQueue StateUpdates RosterAdmission

def admittedCPAPriorityVersioned (s : PluginState) (authID : String) : Int × Nat × Bool :=
  if s.cpaAdmission.observed && authID ≠ "" && authID ∈ s.cpaAdmission.authIDs then
    (s.admissionPriorityLocked authID, s.cpaAdmissionVersion, true)
  else (0, s.cpaAdmissionVersion, false)

def heldAt (tiers : List TierAdmission) (id : String) : List Int :=
  (tiers.filter fun t => id ∈ t.authIDs).map (·.priority)

variable {tiers : List TierAdmission} {id : String} {g : Int} {candidates : List AuthCandidate}

theorem mem_heldAt {p : Int} :
    p ∈ heldAt tiers id ↔ ∃ t ∈ tiers, t.priority = p ∧ id ∈ t.authIDs := by
  simp only [heldAt, List.mem_map, mem_filter, decide_eq_true_eq]
  constructor
  · rintro ⟨t, ⟨ht, hid⟩, hp⟩
    exact ⟨t, ht, hp, hid⟩
  · rintro ⟨t, ht, hp, hid⟩
    exact ⟨t, ⟨ht, hid⟩, hp⟩

open PluginState

theorem tierPriority_eq_getLast : tierPriority tiers id = (heldAt tiers id).getLast? := by
  unfold tierPriority heldAt
  induction tiers using reverseRecOn with
  | nil => rfl
  | append_singleton tiers t ih =>
    rw [foldl_append, ih, filter_append, map_append]
    by_cases hid : id ∈ t.authIDs <;> simp [hid]

theorem admissionPriority_eq_head {s : PluginState}
    (h : (heldAt s.cpaAdmission.tiers id).head? = some g) : s.admissionPriorityLocked id = g := by
  rw [heldAt, head?_map, head?_filter] at h
  obtain ⟨t, ht, rfl⟩ := map_eq_some_iff.mp h
  rw [admissionPriorityLocked, ht]

theorem priorityByAuthID_eq_head (hdesc : tiers.Pairwise fun t u => u.priority ≤ t.priority) :
    priorityByAuthID tiers id = (heldAt tiers id).head? := by
  induction tiers with
  | nil => rfl
  | cons t tiers ih =>
    obtain ⟨hfirst, hrest⟩ := pairwise_cons.mp hdesc
    unfold priorityByAuthID heldAt at ih ⊢
    by_cases hid : id ∈ t.authIDs
    · simp only [foldl_cons, hid, all_none, and_self, if_true, decide_true,
        filter_cons_of_pos, map_cons, head?_cons]
      -- no later tier is higher
      refine foldlRecOn tiers _ (motive := fun r => r = some t.priority) rfl ?_
      rintro _ rfl u hu
      have hle := hfirst u hu
      simp [Int.not_lt.mpr hle]
    · simp only [foldl_cons, hid, false_and, if_false, decide_false, Bool.false_eq_true,
        not_false_eq_true, filter_cons_of_neg]
      exact ih hrest

theorem pairwise_codexTierGroups {entries : List RosterEntry}
    (h : codexTierGroups entries = some tiers) :
    tiers.Pairwise fun t u => u.priority < t.priority := by
  have hle : (tierPriorities entries).Pairwise fun p q => -p ≤ -q :=
    pairwise_sortSlice ⟨fun _ _ _ _ h => decide_eq_true (neg_lt_neg_iff.mp h),
      fun _ _ _ _ h => neg_le_neg (of_decide_eq_true h).le⟩
  have hne : (tierPriorities entries).Nodup :=
    (perm_sortSlice _ _).nodup_iff.mpr (nodup_dedup _)
  unfold codexTierGroups at h
  split at h
  · cases h
  · cases h
    refine pairwise_map.mpr ((hle.and hne).imp ?_)
    rintro p q ⟨hpq, hdiff⟩
    exact lt_of_le_of_ne (neg_le_neg_iff.mp hpq) (.symm hdiff)

/-- The greatest priority an ID is offered at comes first, and last only if alone. -/
theorem heldAt_of_greatest {entries : List RosterEntry} (h : codexTierGroups entries = some tiers)
    (hg : IsGreatest { p | Offered entries id p } g) :
    (heldAt tiers id).head? = some g ∧
      ((heldAt tiers id).getLast? = some g ↔ ∀ p, Offered entries id p → p = g) := by
  have hmem : ∀ p, p ∈ heldAt tiers id ↔ Offered entries id p := fun p =>
    mem_heldAt.trans (mem_codexTierGroups h id p)
  have hdesc : (heldAt tiers id).Pairwise (· > ·) :=
    pairwise_map.mpr ((pairwise_codexTierGroups h).filter _)
  cases hheld : heldAt tiers id with
  | nil =>
    have hin := (hmem g).mpr hg.1
    rw [hheld] at hin
    cases hin
  | cons p rest =>
    simp only [hheld] at hmem hdesc
    obtain ⟨hlt, -⟩ := pairwise_cons.mp hdesc
    have hp : p = g := by
      refine le_antisymm (hg.2 ((hmem p).mp mem_cons_self)) ?_
      rcases mem_cons.mp ((hmem g).mpr hg.1) with hsame | hrest
      · exact hsame.le
      · exact (hlt g hrest).le
    subst hp
    refine ⟨rfl, ?_, ?_⟩
    · intro hlast q hq
      rcases mem_cons.mp ((hmem q).mpr hq) with hsame | hrest
      · exact hsame
      · -- the last of a longer list is below the first
        rw [getLast?_cons_of_ne_nil (ne_nil_of_mem hrest)] at hlast
        exact absurd (hlt p (mem_of_getLast? hlast)) (lt_irrefl p)
    · intro hall
      cases rest with
      | nil => rfl
      | cons q rest =>
        have hq := hlt q mem_cons_self
        rw [hall q ((hmem q).mp (by simp))] at hq
        exact absurd hq (lt_irrefl p)

theorem cpaPriority_scheduledAccount (s : StateSnapshot) (now : Time) (trials : TrialRegistry)
    (c : AuthCandidate) : (scheduledAccount s now trials tiers c).cpaPriority =
      (priorityByAuthID tiers c.id).getD c.priority := by
  unfold scheduledAccount
  cases accountsByAuthID s.accounts c.id <;> rfl

theorem mem_authIDs_of_offered {p : Int} (h : Offered (candidateEntries candidates) id p) :
    id ≠ "" ∧ (codexAdmissionFromRequest candidates true).1.observed = true ∧
      id ∈ (codexAdmissionFromRequest candidates true).1.authIDs := by
  obtain ⟨tiers, htiers⟩ := codexTierGroups_isSome h
  obtain ⟨t, ht, -, hid⟩ := (mem_codexTierGroups htiers id p).mpr h
  obtain ⟨e, -, rfl, hp⟩ := h
  refine ⟨?_, by simp [codexAdmissionFromRequest, htiers], ?_⟩
  · intro hempty
    simp [codexPriority, hempty] at hp
  · simp only [codexAdmissionFromRequest, htiers, if_true]
    exact (mem_union_tiers tiers ∅ e.id).mpr (.inr ⟨t, ht, hid⟩)

/-- An account is stored with its greatest priority iff nothing is written, or it has one only. -/
theorem one_priority_iff (s : PluginState) (snapshot : StateSnapshot)
    (candidates : List AuthCandidate) (now : Time) (trials : TrialRegistry)
    (hacross : snapshot.config.scheduleAcrossPriorities = true) {key : String} {a : AccountState}
    (hstored : (s.replaceCPAAdmission (codexAdmissionFromRequest candidates true).1).accounts.lookup
      key = some a)
    {g : Int} (hg : IsGreatest { p | Offered (candidateEntries candidates) a.authID p } g) :
    (a.priority = g ∧
      (∃ version, admittedCPAPriorityVersioned
        (s.replaceCPAAdmission (codexAdmissionFromRequest candidates true).1) a.authID =
          (g, version, true)) ∧
      ∀ e ∈ buildOrderedAccounts candidates snapshot now trials, e.authID = a.authID →
        e.cpaPriority = g) ↔
    if equalCPAAdmission s.cpaAdmission (codexAdmissionFromRequest candidates true).1 then
      a.priority = g
    else ∀ p, Offered (candidateEntries candidates) a.authID p → p = g := by
  obtain ⟨tiers, htiers⟩ := codexTierGroups_isSome hg.1
  have hadm : (codexAdmissionFromRequest candidates true).1.tiers = tiers := by
    simp [codexAdmissionFromRequest, htiers]
  obtain ⟨hne, hobserved, hin⟩ := mem_authIDs_of_offered hg.1
  obtain ⟨hhead, hlast⟩ := heldAt_of_greatest htiers hg
  have hlooked : ∃ version, admittedCPAPriorityVersioned
      (s.replaceCPAAdmission (codexAdmissionFromRequest candidates true).1) a.authID =
        (g, version, true) := by
    unfold admittedCPAPriorityVersioned
    rw [admissionPriority_eq_head (g := g) (by simpa [hadm] using hhead)]
    simp [hne, hobserved, hin]
  have hqueued : ∀ e ∈ buildOrderedAccounts candidates snapshot now trials,
      e.authID = a.authID → e.cpaPriority = g := by
    intro e he hid
    rw [buildOrderedAccounts_eq, (perm_sortSlice _ _).mem_iff] at he
    obtain ⟨c, -, rfl⟩ := exists_of_mem_collectScheduled he
    rw [authID_scheduledAccount] at hid
    rw [cpaPriority_scheduledAccount, requestAdmission, hacross, hadm, hid,
      priorityByAuthID_eq_head ((pairwise_codexTierGroups htiers).imp le_of_lt), hhead]
    rfl
  refine .trans ⟨fun h => h.1, fun h => ⟨h, hlooked, hqueued⟩⟩ ?_
  split
  · exact .rfl
  · rename_i hchanged
    simp only [replaceCPAAdmission, hchanged, hobserved, if_true, Bool.false_eq_true,
      if_false, lookup_admitAccounts] at hstored
    obtain ⟨b, -, hb⟩ := bind_eq_some_iff.mp hstored
    unfold admitted at hb
    split at hb
    · cases hb
      rw [← hlast, tierPriority_eq_getLast, hadm]
      cases hpriority : (heldAt tiers b.authID).getLast? with
      | none =>
        rw [getLast?_eq_none_iff.mp hpriority] at hhead
        cases hhead
      | some p => simp
    · cases hb

def storing : PluginState :=
  (newPluginState defaultConfig).setAccount "auth:a" { authID := "a" }

theorem one_priority_offered_once :
    (storing.replaceCPAAdmission (codexAdmissionFromRequest [⟨"a", "codex", 10⟩]
      true).1).accounts.lookup "auth:a" = some { authID := "a", priority := 10 } ∧
    ∀ e ∈ buildOrderedAccounts [⟨"a", "codex", 10⟩] (storing.snapshot 0) 0 newTrialRegistry,
      e.authID = "a" → e.cpaPriority = 10 := by
  have hone : ∀ p, Offered (candidateEntries [⟨"a", "codex", 10⟩]) "a" p → p = 10 := by
    rintro p ⟨e, he, -, hp⟩
    cases mem_singleton.mp he
    exact (some.inj hp).symm
  have hg : IsGreatest { p | Offered (candidateEntries [⟨"a", "codex", 10⟩]) "a" p } 10 :=
    ⟨⟨_, mem_singleton_self _, rfl, rfl⟩, fun p hp => (hone p hp).le⟩
  have hstored : (storing.replaceCPAAdmission (codexAdmissionFromRequest [⟨"a", "codex", 10⟩]
      true).1).accounts.lookup "auth:a" = some { authID := "a", priority := 10 } := by
    decide +kernel
  exact ⟨hstored, ((one_priority_iff storing (storing.snapshot 0) _ 0 newTrialRegistry rfl
    hstored hg).mpr
    hone).2.2⟩

/-- An ID offered at 10 and 5 is stored with 5, and queued with 10. -/
theorem stored_priority_differs :
    let s := storing.replaceCPAAdmission
      (codexAdmissionFromRequest [⟨"a", "codex", 10⟩, ⟨"a", "codex", 5⟩] true).1
    (s.accounts.lookup "auth:a").map (·.priority) = some 5 ∧
      admittedCPAPriorityVersioned s "a" = (10, 1, true) ∧
      (buildOrderedAccounts [⟨"a", "codex", 10⟩, ⟨"a", "codex", 5⟩] (s.snapshot 0) 0
        newTrialRegistry).map (·.cpaPriority) = [10] := by
  decide +kernel

end QuotaScheduler.AdmissionPriority

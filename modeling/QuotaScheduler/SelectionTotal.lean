/- When the comparison of accounts is total, and what an undisturbed pass returns. -/

import QuotaScheduler.SelectionOrder

namespace QuotaScheduler.SelectionTotal

open Lib.RankSort Lib.Resumable Trial Selection SelectionOrder List TrialRecord

theorem advance_advance (v : TrialRecord) (now : Time) :
    (v.advance now).advance now = v.advance now := by
  unfold advance
  split
  · exact if_neg (by simp [unknownTrial])
  · rfl

theorem stateAt_advance_eq_none (v : Option TrialRecord) (now : Time) :
    stateAt (v.map (·.advance now)) now = .none ↔ stateAt v now = .none := by
  cases v with
  | none => rfl
  | some v =>
    change stateAt (some (v.advance now)) now = .none ↔ _
    unfold advance
    split
    · rename_i hguard
      have hactive : v.state = .active := by
        simp only [Bool.and_eq_true, decide_eq_true_eq] at hguard
        exact hguard.1
      rw [stateAt_unknownTrial]
      simp [stateAt, hactive]
    · rfl

def AdvancedFrom (trials : TrialRegistry) (now : Time) (r : TrialRegistry) : Prop :=
  ∀ i, r i = trials i ∨ r i = (trials i).map (·.advance now)

variable {trials r : TrialRegistry} {now : Time} {mode : MonthlyMode} {a b : AccountView}
  {views : List AccountView}

theorem AdvancedFrom.cell (h : AdvancedFrom trials now r) (i : AuthInstanceID) :
    (r i).map (·.advance now) = (trials i).map (·.advance now) := by
  rcases h i with hi | hi
  · rw [hi]
  · rw [hi]
    cases trials i with
    | none => rfl
    | some v => exact congrArg some (advance_advance v now)

theorem AdvancedFrom.advance (h : AdvancedFrom trials now r) (id : AuthInstanceID) :
    AdvancedFrom trials now (r.advance id now) := by
  intro i
  by_cases hi : i = id
  · subst hi
    right
    simp only [TrialRegistry.advance, TrialRegistry.update, TrialRegistry.set, if_true]
    exact h.cell i
  · simpa [TrialRegistry.advance, TrialRegistry.update, TrialRegistry.set, hi] using h i

/-- The view a pass classifies, when nobody else writes the registry. -/
def passView (snapshot : SchedulerSnapshot) (trials : TrialRegistry) (now : Time)
    (a : AccountView) : AccountView :=
  if snapshot.trials then
    { a with trial := TrialRecord.stateAt ((trials a.inst).map (·.advance now)) now }
  else a

def soloExec (op : PickOp) (s : Shared) : op.Ans × Shared := op.exec true s

variable {snapshot : SchedulerSnapshot} {intents : List EvidenceIntent}

theorem eval_observe (h : AdvancedFrom trials now r) : ∃ r', AdvancedFrom trials now r' ∧
      (observe snapshot now a).eval soloExec ⟨r, intents⟩ =
        (.ok (passView snapshot trials now a), ⟨r', intents⟩) := by
  unfold observe passView
  split
  · refine ⟨r.advance a.inst now, h.advance a.inst, ?_⟩
    have hstate : (r.advance a.inst now).state a.inst now =
        stateAt ((trials a.inst).map (·.advance now)) now := by
      rw [← h.cell a.inst]
      simp [TrialRegistry.state, TrialRegistry.advance, TrialRegistry.update, TrialRegistry.set]
    rw [← hstate]
    rfl
  · exact ⟨r, h, rfl⟩

variable {accounts : List AccountView}

theorem eval_observeAll (h : AdvancedFrom trials now r) : ∃ r', AdvancedFrom trials now r' ∧
      (observeAll snapshot now accounts).eval soloExec ⟨r, intents⟩ =
        (.ok (accounts.map (passView snapshot trials now)), ⟨r', intents⟩) := by
  induction accounts generalizing r with
  | nil => exact ⟨r, h, rfl⟩
  | cons a rest ih =>
    obtain ⟨r₁, h₁, heval₁⟩ := eval_observe h
    obtain ⟨r₂, h₂, heval₂⟩ := ih h₁
    refine ⟨r₂, h₂, ?_⟩
    change (observe snapshot now a >>= _).eval soloExec _ = _
    rw [Prog.eval_bind, heval₁]
    simp [heval₂]

def selectAlone (snapshot : SchedulerSnapshot) (candidates : List Candidate) (now : Time)
    (skip : List AuthInstanceID) (s : Shared) : Except Empty SelectionResult :=
  (((selectAccountSkipping snapshot candidates now skip).eval soloExec s).1).map (·.2)

theorem selectAlone_eq (snapshot : SchedulerSnapshot) (candidates : List Candidate) (now : Time)
    (skip : List AuthInstanceID) (s : Shared) :
    selectAlone snapshot candidates now skip s = .ok (selectFrom snapshot now
      ((passAccounts snapshot candidates skip).map (passView snapshot s.trials now))) := by
  have hstart : AdvancedFrom s.trials now s.trials := fun _ => .inl rfl
  obtain ⟨r, -, heval⟩ :=
    eval_observeAll hstart
  unfold selectAlone selectAccountSkipping
  rw [Prog.eval_bind, heval]
  rfl

def familyKey (mode : MonthlyMode) (family : AccountFamily) : Bool :=
  decide (mode = .priority ∧ family ≠ .monthly)

def orderKey (mode : MonthlyMode) (a : AccountView) : Intᵒᵈ ×ₗ Intᵒᵈ ×ₗ Bool ×ₗ SelectionKey :=
  toLex (OrderDual.toDual a.cpaPriority, toLex (OrderDual.toDual a.pluginPriority,
    toLex (familyKey mode a.family, selectionKey a)))

/-- The family settles the comparison or does not enter it: where it differs, one is monthly. -/
def FamilyDecides (mode : MonthlyMode) (a b : AccountView) : Prop :=
  mode = .priority → a.cpaPriority = b.cpaPriority → a.pluginPriority = b.pluginPriority →
    a.family ≠ b.family → a.family = .monthly ∨ b.family = .monthly

theorem accountViewLess_of_family_eq (h : mode = .priority → a.family = b.family) :
    accountViewLess a b mode = accountViewLess a b .expiryOrder := by
  unfold accountViewLess
  have hfamily : ¬(mode = .priority ∧ a.family ≠ b.family) := fun hne => hne.2 (h hne.1)
  simp [hfamily]

theorem accountViewLess_iff_orderKey (ha : Numeric a) (hb : Numeric b)
    (h : FamilyDecides mode a b) :
    accountViewLess a b mode = true ↔ orderKey mode a < orderKey mode b := by
  simp only [orderKey, Prod.Lex.toLex_lt_toLex, OrderDual.toDual_lt_toDual, OrderDual.toDual_inj]
  by_cases hcpa : a.cpaPriority = b.cpaPriority
  · by_cases hplugin : a.pluginPriority = b.pluginPriority
    · by_cases hfamily : mode = .priority ∧ a.family ≠ b.family
      · obtain ⟨rfl, hne⟩ := hfamily
        rcases h rfl hcpa hplugin hne with hm | hm
        · have hother : b.family ≠ .monthly := fun hb => hne (hm.trans hb.symm)
          simp [accountViewLess, familyKey, hcpa, hplugin, hm, hother, Ne.symm hother]
        · have hother : a.family ≠ .monthly := fun ha => hne (ha.trans hm.symm)
          simp [accountViewLess, familyKey, hcpa, hplugin, hm, hother]
      · have hkey : familyKey mode a.family = familyKey mode b.family := by
          by_cases hmode : mode = .priority
          · have hsame : a.family = b.family := by
              by_contra hne
              exact hfamily ⟨hmode, hne⟩
            rw [hsame]
          · simp [familyKey, hmode]
        have hsame : mode = .priority → a.family = b.family := by
          intro hmode
          by_contra hne
          exact hfamily ⟨hmode, hne⟩
        rw [accountViewLess_of_family_eq hsame, accountViewLess_iff_key ha hb]
        simp [hcpa, hplugin, hkey]
    · simp [accountViewLess, hcpa, hplugin]
  · simp [accountViewLess, hcpa]

theorem id_eq_of_selectionKey_eq {a b : AccountView} (h : selectionKey a = selectionKey b) :
    a.id = b.id :=
  congrArg (fun k => (ofLex (ofLex (ofLex (ofLex (ofLex k).2).2).2).2).2) h

theorem id_eq_of_orderKey_eq (h : orderKey mode a = orderKey mode b) : a.id = b.id :=
  id_eq_of_selectionKey_eq (congrArg (fun k => (ofLex (ofLex (ofLex k).2).2).2) h)

structure StrictTotalOn (mode : MonthlyMode) (views : List AccountView) : Prop where
  irrefl : ∀ a ∈ views, accountViewLess a a mode = false
  trans : ∀ a ∈ views, ∀ b ∈ views, ∀ c ∈ views,
    accountViewLess a b mode = true → accountViewLess b c mode = true →
      accountViewLess a c mode = true
  oneWay : ∀ a ∈ views, ∀ b ∈ views, a.id ≠ b.id →
    (accountViewLess a b mode = true ↔ accountViewLess b a mode = false)

/-- Two accounts of equal priorities have one family, or one is monthly, or no family is compared.
-/
def FamiliesDecide (mode : MonthlyMode) (views : List AccountView) : Prop :=
  ∀ a ∈ views, ∀ b ∈ views, FamilyDecides mode a b

instance (mode : MonthlyMode) (a b : AccountView) : Decidable (FamilyDecides mode a b) := by
  unfold FamilyDecides
  infer_instance

instance (mode : MonthlyMode) (views : List AccountView) :
    Decidable (FamiliesDecide mode views) := by
  unfold FamiliesDecide
  infer_instance

theorem less_iff_orderKey (hnum : ∀ v ∈ views, Numeric v) (h : FamiliesDecide mode views)
    (ha : a ∈ views) (hb : b ∈ views) :
    accountViewLess a b mode = true ↔ orderKey mode a < orderKey mode b :=
  accountViewLess_iff_orderKey (hnum a ha) (hnum b hb) (h a ha b hb)

theorem strictTotalOn_of_familiesDecide (hnum : ∀ v ∈ views, Numeric v)
    (h : FamiliesDecide mode views) : StrictTotalOn mode views where
  irrefl a ha := by
    rw [← Bool.not_eq_true, less_iff_orderKey hnum h ha ha]
    exact lt_irrefl _
  trans a ha b hb c hc hab hbc := by
    rw [less_iff_orderKey hnum h ha hb] at hab
    rw [less_iff_orderKey hnum h hb hc] at hbc
    exact (less_iff_orderKey hnum h ha hc).mpr (hab.trans hbc)
  oneWay a ha b hb hid := by
    rw [← Bool.not_eq_true, less_iff_orderKey hnum h ha hb, less_iff_orderKey hnum h hb ha, not_lt]
    refine ⟨le_of_lt, fun hle => lt_of_le_of_ne hle fun heq => ?_⟩
    exact hid (id_eq_of_orderKey_eq heq)

theorem accountViewLess_undecided (h : ¬FamilyDecides mode a b) :
    accountViewLess a b mode = false ∧ accountViewLess b a mode = false := by
  simp only [FamilyDecides, not_forall, not_or] at h
  obtain ⟨rfl, hcpa, hplugin, hne, ha, hb⟩ := h
  simp [accountViewLess, hcpa, hplugin, hne, Ne.symm hne, ha, hb]

theorem familiesDecide_of_strictTotalOn (hids : (views.map (·.id)).Nodup)
    (h : StrictTotalOn mode views) : FamiliesDecide mode views := by
  intro a ha b hb
  by_contra hundecided
  obtain ⟨hab, hba⟩ := accountViewLess_undecided hundecided
  have hid : a.id ≠ b.id := by
    intro hid
    have heq : a = b := inj_on_of_nodup_map hids ha hb hid
    subst heq
    exact hundecided fun _ _ _ hne => absurd rfl hne
  have hless := (h.oneWay a ha b hb hid).mpr hba
  rw [hab] at hless
  cases hless

theorem familiesDecide_pass {snapshot : SchedulerSnapshot}
    (h : FamiliesDecide snapshot.monthlyMode snapshot.accounts) (candidates : List Candidate)
    (now : Time) (skip : List AuthInstanceID) (trials : TrialRegistry) :
    FamiliesDecide snapshot.monthlyMode
      ((passAccounts snapshot candidates skip).map (passView snapshot trials now)) := by
  have hfields : ∀ a, (passView snapshot trials now a).cpaPriority = a.cpaPriority ∧
      (passView snapshot trials now a).pluginPriority = a.pluginPriority ∧
      (passView snapshot trials now a).family = a.family := by
    intro a
    unfold passView
    split <;> exact ⟨rfl, rfl, rfl⟩
  intro v hv w hw
  obtain ⟨a, ha, rfl⟩ := List.mem_map.mp hv
  obtain ⟨b, hb, rfl⟩ := List.mem_map.mp hw
  obtain ⟨hcpa, hplugin, hfamily⟩ := hfields a
  obtain ⟨hcpa', hplugin', hfamily'⟩ := hfields b
  unfold FamilyDecides
  rw [hcpa, hplugin, hfamily, hcpa', hplugin', hfamily']
  exact h a (mem_filter.mp ha).1 b (mem_filter.mp hb).1

theorem numeric_pass (h : ∀ a ∈ snapshot.accounts, Numeric a) (candidates : List Candidate)
    (skip : List AuthInstanceID) :
    ∀ v ∈ (passAccounts snapshot candidates skip).map (passView snapshot trials now),
      Numeric v := by
  intro v hv
  obtain ⟨a, ha, rfl⟩ := List.mem_map.mp hv
  unfold passView
  split <;> exact h a (mem_filter.mp ha).1

theorem id_passView : (passView snapshot trials now a).id = a.id := by
  unfold passView
  split <;> rfl

theorem nodup_passViews {snapshot : SchedulerSnapshot}
    (hids : (snapshot.accounts.map (·.id)).Nodup) (candidates : List Candidate) (now : Time)
    (skip : List AuthInstanceID) (trials : TrialRegistry) :
    (((passAccounts snapshot candidates skip).map (passView snapshot trials now)).map
      (·.id)).Nodup := by
  have hsame : ((·.id) ∘ passView snapshot trials now : AccountView → String) = (·.id) :=
    funext fun a => id_passView
  rw [List.map_map, hsame]
  exact hids.sublist (List.filter_sublist.map _)

theorem orderedClass_eq_of_perm {views' : List AccountView} (hnum : ∀ v ∈ views, Numeric v)
    (h : FamiliesDecide mode views) (hids : (views.map (·.id)).Nodup)
    (hperm : views'.Perm views) (now : Time)
    (cls : AvailabilityClass) :
    orderedClass mode now cls views' = orderedClass mode now cls views := by
  have hrespects : Respects (fun a b => accountViewLess a b mode) (orderKey mode) views :=
    ⟨fun a ha b hb => (less_iff_orderKey hnum h ha hb).mpr,
      fun a ha b hb hlt => le_of_lt ((less_iff_orderKey hnum h ha hb).mp hlt)⟩
  have hfilter := hperm.filter fun v => decide (classifyAccount v now = cls)
  have hmem : ∀ v, v ∈ views.filter (fun v => classifyAccount v now = cls) → v ∈ views :=
    fun v hv => (mem_filter.mp hv).1
  refine (sortSlice_eq_of_perm (hrespects.mono fun v => hmem v) hfilter.symm ?_).symm
  intro a ha b hb heq
  exact inj_on_of_nodup_map hids (hmem a ha) (hmem b hb) (id_eq_of_orderKey_eq heq)

variable {candidates : List Candidate}

theorem selectAlone_eq_of_perm {snapshot : SchedulerSnapshot}
    (hnum : ∀ a ∈ snapshot.accounts, Numeric a)
    (h : FamiliesDecide snapshot.monthlyMode snapshot.accounts)
    (hids : (snapshot.accounts.map (·.id)).Nodup) {accounts : List AccountView}
    (hperm : accounts.Perm snapshot.accounts) (skip : List AuthInstanceID) (s : Shared) :
    selectAlone { snapshot with accounts := accounts } candidates now skip s =
      selectAlone snapshot candidates now skip s := by
  have hpass : ((passAccounts { snapshot with accounts := accounts } candidates skip).map
      (passView { snapshot with accounts := accounts } s.trials now)).Perm
      ((passAccounts snapshot candidates skip).map (passView snapshot s.trials now)) :=
    (hperm.filter _).map _
  have hviews := nodup_passViews hids candidates now skip s.trials
  have hdecide := familiesDecide_pass h candidates now skip s.trials
  have hnumeric : ∀ v ∈ (passAccounts snapshot candidates skip).map
      (passView snapshot s.trials now), Numeric v := numeric_pass hnum candidates skip
  rw [selectAlone_eq, selectAlone_eq]
  unfold selectFrom
  rw [orderedClass_eq_of_perm hnumeric hdecide hviews hpass,
    orderedClass_eq_of_perm hnumeric hdecide hviews hpass]

def selectedAccount (snapshot : SchedulerSnapshot) (candidates : List Candidate) (now : Time)
    (skip : List AuthInstanceID) (s : Shared) : Except Empty (String × AuthInstanceID) :=
  (selectAlone snapshot candidates now skip s).map fun r => (r.authID, r.inst)

/-- The order is total, and the choice independent of the accounts' order, iff the families decide.
-/
theorem selection_total_iff (snapshot : SchedulerSnapshot)
    (hnum : ∀ a ∈ snapshot.accounts, Numeric a) (hids : (snapshot.accounts.map (·.id)).Nodup) :
    (StrictTotalOn snapshot.monthlyMode snapshot.accounts ∧
      ∀ accounts : List AccountView, accounts.Perm snapshot.accounts →
        ∀ (candidates : List Candidate) (now : Time) (skip : List AuthInstanceID) (s : Shared),
          selectedAccount { snapshot with accounts := accounts } candidates now skip s =
            selectedAccount snapshot candidates now skip s) ↔
      FamiliesDecide snapshot.monthlyMode snapshot.accounts := by
  constructor
  · rintro ⟨htotal, -⟩
    exact familiesDecide_of_strictTotalOn hids htotal
  · intro h
    refine ⟨strictTotalOn_of_familiesDecide hnum h, ?_⟩
    intro accounts hperm candidates now skip s
    exact congrArg (Except.map _) (selectAlone_eq_of_perm hnum h hids hperm skip s)

private def oneTier (families : List (String × AccountFamily)) : SchedulerSnapshot where
  handleEnabled := true
  fallback := .empty
  monthlyMode := .priority
  accounts := families.map fun p => { plainAccount p.1 0 0 .fresh with family := p.2 }
  activeHighestTier := (families.map (·.1)).toFinset
  trials := true
  admissionVersion := 0

theorem selection_total_monthly_first :
    StrictTotalOn .priority (oneTier [("m", .monthly), ("w", .weekly)]).accounts :=
  ((selection_total_iff (oneTier [("m", .monthly), ("w", .weekly)]) (by decide +kernel)
    (by decide +kernel)).mpr (by decide +kernel)).1

/-- A weekly and an unknown family precede each other in neither direction; the first is selected.
-/
theorem selected_by_position :
    (∀ a ∈ (oneTier [("u", .unknown), ("w", .weekly)]).accounts,
      ∀ b ∈ (oneTier [("u", .unknown), ("w", .weekly)]).accounts, a.id ≠ b.id →
        accountViewLess a b .priority = false) ∧
      (oneTier [("w", .weekly), ("u", .unknown)]).accounts.Perm
        (oneTier [("u", .unknown), ("w", .weekly)]).accounts ∧
      (selectedAccount (oneTier [("u", .unknown), ("w", .weekly)])
        [⟨"u", "codex"⟩, ⟨"w", "codex"⟩] 1 [] ⟨newTrialRegistry, []⟩).toOption =
          some ("u", 0) ∧
      (selectedAccount (oneTier [("w", .weekly), ("u", .unknown)])
        [⟨"u", "codex"⟩, ⟨"w", "codex"⟩] 1 [] ⟨newTrialRegistry, []⟩).toOption =
          some ("w", 0) := by
  refine ⟨by decide +kernel, ?_, by decide +kernel, by decide +kernel⟩
  exact .swap _ _ _

end QuotaScheduler.SelectionTotal

/- What one selection pass returns: the first of the best class under a total order. -/

import QuotaScheduler.Selection

namespace QuotaScheduler.SelectionOrder

open Lib.RankSort Selection List OrderDual

def expiryKey (t : Time) : Bool ×ₗ Int := toLex (t.isZero, t)

abbrev SelectionKey := Intᵒᵈ ×ₗ Intᵒᵈ ×ₗ Ratᵒᵈ ×ₗ (Bool ×ₗ Int) ×ₗ Ratᵒᵈ ×ₗ String

/-- The fields `accountViewLess` compares in expiry order, as a lexicographic key. -/
def selectionKey (a : AccountView) : SelectionKey :=
  toLex (OrderDual.toDual a.cpaPriority, toLex (OrderDual.toDual a.pluginPriority,
    toLex (OrderDual.toDual a.quotaPressure.value, toLex (expiryKey a.expiry,
      toLex (OrderDual.toDual a.remainingQuota.value, a.id)))))

/-- Neither float of the view is NaN. -/
def Numeric (a : AccountView) : Prop := a.quotaPressure ≠ .nan ∧ a.remainingQuota ≠ .nan

instance (a : AccountView) : Decidable (Numeric a) := by
  unfold Numeric
  infer_instance

private theorem expiryKey_lt_iff {t u : Time} (hne : t ≠ u) : expiryKey t < expiryKey u ↔
      (if t.isZero then false else if u.isZero then true else t.before u) = true := by
  rw [expiryKey, expiryKey, Prod.Lex.toLex_lt_toLex]
  by_cases ht : t.isZero = true
  · have hu : u.isZero = false := by
      simp only [Time.isZero, decide_eq_true_eq, decide_eq_false_iff_not] at ht ⊢
      intro hu
      exact hne (ht.trans hu.symm)
    simp [ht, hu]
  · by_cases hu : u.isZero = true
    · simp [ht, hu]
    · simp [ht, hu, Time.before]

private theorem expiryKey_eq_iff {t u : Time} : expiryKey t = expiryKey u ↔ t = u := by
  constructor
  · intro h
    exact congrArg (fun k => (ofLex k).2) h
  · intro h
    rw [h]

theorem accountViewLess_iff_key {a b : AccountView} (ha : Numeric a) (hb : Numeric b) :
    accountViewLess a b .expiryOrder = true ↔ selectionKey a < selectionKey b := by
  simp only [selectionKey, Prod.Lex.toLex_lt_toLex, toDual_lt_toDual, toDual_inj, expiryKey_eq_iff,
    ← Float64.eq_iff_value ha.1 hb.1, ← Float64.eq_iff_value ha.2 hb.2,
    ← Float64.lt_iff_value hb.1 ha.1, ← Float64.lt_iff_value hb.2 ha.2]
  unfold accountViewLess
  by_cases h₁ : a.cpaPriority = b.cpaPriority
  · by_cases h₂ : a.pluginPriority = b.pluginPriority
    · by_cases h₃ : a.quotaPressure.eq b.quotaPressure = true
      · have hpressure := (Float64.eq_iff.mp h₃).2.2.2
        by_cases h₄ : a.expiry = b.expiry
        · by_cases h₅ : a.remainingQuota.eq b.remainingQuota = true
          · simp [h₁, h₂, h₃, h₄, h₅, hpressure, (Float64.eq_iff.mp h₅).2.2.2]
          · simp [h₁, h₂, h₃, h₄, h₅, hpressure]
        · simp [h₁, h₂, h₃, h₄, hpressure, expiryKey_lt_iff h₄]
      · simp [h₁, h₂, h₃]
    · simp [h₁, h₂]
  · simp [h₁]

variable {mode : MonthlyMode} {now : Time} {views : List AccountView} {v a : AccountView}
  {snapshot : SchedulerSnapshot}

theorem respects_key (h : ∀ a ∈ views, Numeric a) :
    Respects (fun a b => accountViewLess a b .expiryOrder) selectionKey views where
  less_of_rank a ha b hb hlt := (accountViewLess_iff_key (h a ha) (h b hb)).mpr hlt
  rank_of_less a ha b hb hlt := le_of_lt ((accountViewLess_iff_key (h a ha) (h b hb)).mp hlt)

theorem respects_cpaPriority :
    Respects (fun a b => accountViewLess a b mode) (fun a => toDual a.cpaPriority) views where
  less_of_rank a _ b _ h := by
    have hlt : b.cpaPriority < a.cpaPriority := h
    simp [accountViewLess, hlt, ne_of_gt hlt]
  rank_of_less a _ b _ h := by
    change b.cpaPriority ≤ a.cpaPriority
    by_cases heq : a.cpaPriority = b.cpaPriority
    · exact le_of_eq heq.symm
    · simp only [accountViewLess, ne_eq, heq, not_false_eq_true, if_true,
        decide_eq_true_eq] at h
      exact le_of_lt h

theorem mem_orderedClass {cls : AvailabilityClass} :
    v ∈ orderedClass mode now cls views ↔ v ∈ views ∧ classifyAccount v now = cls := by
  unfold orderedClass
  rw [(perm_sortSlice _ _).mem_iff, mem_filter, decide_eq_true_eq]

structure Chosen (snapshot : SchedulerSnapshot) (now : Time) (views : List AccountView)
    (result : SelectionResult) (a : AccountView) : Prop where
  mem : a ∈ views
  authID : result.authID = a.id
  inst : result.inst = a.inst
  cls : classifyAccount a now = result.cls
  head : ∃ rest, orderedClass snapshot.monthlyMode now result.cls views = a :: rest
  best : result.cls = .preferred ∨
    result.cls = .opportunistic ∧ ∀ v ∈ views, classifyAccount v now ≠ .preferred

theorem Chosen.selectable {snapshot : SchedulerSnapshot} {now : Time} {views : List AccountView}
    {result : SelectionResult} {a : AccountView} (h : Chosen snapshot now views result a) :
    classifyAccount a now ≠ .excluded := by
  rw [h.cls]
  rcases h.best with hp | ⟨hp, -⟩ <;> rw [hp] <;> decide

theorem selectFrom_cases (snapshot : SchedulerSnapshot) (now : Time) (views : List AccountView) :
    (∃ a, Chosen snapshot now views (selectFrom snapshot now views) a) ∨
      ((selectFrom snapshot now views).authID = "" ∧
        (selectFrom snapshot now views).reason = "no_selectable_account" ∧
        ∀ v ∈ views, classifyAccount v now = .excluded) := by
  have hmem : ∀ cls v, v ∈ orderedClass snapshot.monthlyMode now cls views ↔
      v ∈ views ∧ classifyAccount v now = cls := fun cls v => mem_orderedClass
  cases hp : orderedClass snapshot.monthlyMode now .preferred views with
  | cons a rest =>
    have ha := (hmem .preferred a).mp (by simp [hp])
    refine .inl ⟨a, ha.1, ?_, ?_, ?_, ?_, ?_⟩ <;> simp [selectFrom, hp, ha.2]
  | nil =>
    have hnone : ∀ v ∈ views, classifyAccount v now ≠ .preferred := by
      intro v hv hcls
      have := (hmem .preferred v).mpr ⟨hv, hcls⟩
      simp [hp] at this
    cases ho : orderedClass snapshot.monthlyMode now .opportunistic views with
    | cons a rest =>
      have ha := (hmem .opportunistic a).mp (by simp [ho])
      refine .inl ⟨a, ha.1, ?_, ?_, ?_, ?_, ?_⟩ <;> simp [selectFrom, hp, ho, ha.2]
      exact hnone
    | nil =>
      refine .inr ⟨by simp [selectFrom, hp, ho], by simp [selectFrom, hp, ho], ?_⟩
      intro v hv
      cases hcls : classifyAccount v now with
      | preferred => exact absurd hcls (hnone v hv)
      | opportunistic =>
        have := (hmem .opportunistic v).mpr ⟨hv, hcls⟩
        simp [ho] at this
      | excluded => rfl

theorem Chosen.cpaPriority_le {result : SelectionResult} (h : Chosen snapshot now views result a)
    (hv : v ∈ views) (hcls : classifyAccount v now = result.cls) :
    v.cpaPriority ≤ a.cpaPriority := by
  obtain ⟨rest, hhead⟩ := h.head
  exact rank_head_le respects_cpaPriority hhead (mem_filter.mpr ⟨hv, decide_eq_true hcls⟩)

theorem Chosen.first {result : SelectionResult} (hmode : snapshot.monthlyMode = .expiryOrder)
    (hnum : ∀ v ∈ views, Numeric v) (h : Chosen snapshot now views result a) (hv : v ∈ views)
    (hcls : classifyAccount v now = result.cls) :
    accountViewLess v a snapshot.monthlyMode = false := by
  obtain ⟨rest, hhead⟩ := h.head
  rw [hmode] at hhead ⊢
  have hfilter : ∀ u ∈ views.filter (fun u => classifyAccount u now = result.cls), Numeric u :=
    fun u hu => hnum u (mem_filter.mp hu).1
  have hle := rank_head_le (respects_key hfilter) hhead (mem_filter.mpr ⟨hv, decide_eq_true hcls⟩)
  rw [← Bool.not_eq_true, accountViewLess_iff_key (hnum v hv) (hnum a h.mem)]
  exact not_lt.mpr hle

def Views (snapshot : SchedulerSnapshot) : List AccountView → List AccountView → Prop :=
  List.Forall₂ fun a v => ∃ t, v = { a with trial := t } ∧ (snapshot.trials = false → v = a)

theorem Views.exists_account {accounts : List AccountView} (h : Views snapshot accounts views)
    (hv : v ∈ views) : ∃ a ∈ accounts, ∃ t, v = { a with trial := t } := by
  induction h with
  | nil => cases hv
  | cons hhead _ ih =>
    rcases mem_cons.mp hv with rfl | hv
    · obtain ⟨t, ht, -⟩ := hhead
      exact ⟨_, mem_cons_self, t, ht⟩
    · obtain ⟨a, ha, t, ht⟩ := ih hv
      exact ⟨a, mem_cons_of_mem _ ha, t, ht⟩

theorem Views.exists_view {accounts : List AccountView} (h : Views snapshot accounts views)
    (ha : a ∈ accounts) : ∃ v ∈ views, ∃ t, v = { a with trial := t } := by
  induction h with
  | nil => cases ha
  | cons hhead _ ih =>
    rcases mem_cons.mp ha with rfl | ha
    · obtain ⟨t, ht, -⟩ := hhead
      exact ⟨_, mem_cons_self, t, ht⟩
    · obtain ⟨v, hv, t, ht⟩ := ih ha
      exact ⟨v, mem_cons_of_mem _ hv, t, ht⟩

theorem always_pure {α : Type} {Q : α → Prop} {a : α} (h : Q a) :
    (pure a : PickProg α).Always Q := h

theorem observeAll_always (accounts : List AccountView) :
    (observeAll snapshot now accounts).Always (Views snapshot accounts) := by
  induction accounts with
  | nil => exact .nil
  | cons a rest ih =>
    have hobserve : (observe snapshot now a).Always fun v =>
        ∃ t, v = { a with trial := t } ∧ (snapshot.trials = false → v = a) := by
      unfold observe
      split
      · rename_i htrials
        exact fun _ t => ⟨t, rfl, fun hf => absurd hf (by simp [htrials])⟩
      · exact ⟨a.trial, rfl, fun _ => rfl⟩
    refine hobserve.bind fun v hv => ih.bind fun views hviews => ?_
    exact always_pure (.cons hv hviews)

variable {candidates : List Candidate}

theorem selectAccountSkipping_always (skip : List AuthInstanceID) :
    (selectAccountSkipping snapshot candidates now skip).Always fun r =>
      Views snapshot (passAccounts snapshot candidates skip) r.1 ∧
        r.2 = selectFrom snapshot now r.1 :=
  (observeAll_always _).bind fun _ hviews => always_pure ⟨hviews, rfl⟩

/-- A pass selects the highest CPA priority of its class, and none of a worse class than there is.
-/
theorem selected_tier_leads_class (snapshot : SchedulerSnapshot) (candidates : List Candidate)
    (now : Time) (skip : List AuthInstanceID) :
    (selectAccountSkipping snapshot candidates now skip).Always fun r =>
      Views snapshot (passAccounts snapshot candidates skip) r.1 ∧
        (r.2.authID ≠ "" → ∃ a ∈ r.1, r.2.authID = a.id ∧ r.2.inst = a.inst ∧
          classifyAccount a now = r.2.cls ∧
          (∀ v ∈ r.1, classifyAccount v now = r.2.cls → v.cpaPriority ≤ a.cpaPriority) ∧
          (r.2.cls ≠ .preferred → ∀ v ∈ r.1, classifyAccount v now ≠ .preferred)) := by
  refine .mono (selectAccountSkipping_always skip) ?_
  rintro ⟨views, result⟩ ⟨hviews, hresult⟩
  change result = selectFrom snapshot now views at hresult
  subst hresult
  refine ⟨hviews, fun hid => ?_⟩
  rcases selectFrom_cases snapshot now views with ⟨a, ha⟩ | ⟨hempty, -, -⟩
  · refine ⟨a, ha.mem, ha.authID, ha.inst, ha.cls, fun v hv => ha.cpaPriority_le hv, ?_⟩
    intro hcls
    rcases ha.best with hp | ⟨-, hbest⟩
    · exact absurd hp hcls
    · exact hbest
  · exact absurd hempty hid

def plainAccount (id : String) (inst : AuthInstanceID) (cpaPriority : Int)
    (cache : CacheClass) : AccountView where
  id := id
  authIndex := id
  inst := inst
  pluginPriority := 0
  cpaPriority := cpaPriority
  family := .weekly
  cache := cache
  lastKnownAvailable := true
  exhausted := false
  resetAt := Time.zero
  authBlocked := false
  circuit := .closed
  temporaryUnavailable := false
  trial := .none
  expiry := Time.zero
  remainingQuota := 50
  quotaPressure := 1

private def twoTiers : SchedulerSnapshot where
  handleEnabled := true
  fallback := .empty
  monthlyMode := .expiryOrder
  accounts := [plainAccount "high" 1 10 .unknown, plainAccount "low" 2 0 .fresh]
  activeHighestTier := {"high", "low"}
  trials := false
  admissionVersion := 0

/-- The class leads the tier: the low tier is selected though the high one could be. -/
theorem class_before_tier :
    ∃ views result, selectAccountSkipping twoTiers [⟨"high", "codex"⟩, ⟨"low", "codex"⟩] 1 [] =
        .done (views, result) ∧
      ∃ a ∈ views, a.id = result.authID ∧ ∃ b ∈ views,
        classifyAccount b 1 = .opportunistic ∧ a.cpaPriority < b.cpaPriority :=
  ⟨twoTiers.accounts, selectFrom twoTiers 1 twoTiers.accounts, rfl,
    plainAccount "low" 2 0 .fresh, by decide +kernel, by decide +kernel,
    plainAccount "high" 1 10 .unknown, by decide +kernel, by decide +kernel, by decide +kernel⟩

end QuotaScheduler.SelectionOrder

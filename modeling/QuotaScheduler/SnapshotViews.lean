/- When two states, or one at two times, publish views no pick can tell apart. -/

import QuotaScheduler.PickLockstep
import QuotaScheduler.StateUpdates

namespace QuotaScheduler.SnapshotViews

open List Option AList

open Lib.RankSort Trial Selection Account State Published StateUpdates PickLockstep PluginState

variable {s s' : PluginState} {now now' : Time} {trials trials' : TrialRegistry}

def storedView (s : PluginState) (now : Time) (trials : TrialRegistry) (a : AccountState) :
    AccountView :=
  accountViewFromState (annotateAccount s.annotations (snapshotAccount s.cfg now a))
    s.cfg now trials

def views (s : PluginState) (now : Time) (trials : TrialRegistry) : List AccountView :=
  (s.snapshot now).accounts.map fun a => accountViewFromState a s.cfg now trials

theorem accounts_publishSchedulerState (active : Option (Finset String)) :
    (publishSchedulerState s active now trials).accounts = views s now trials := by
  cases active <;> rfl

/-- The accounts of another table, in the order of the first one's keys. -/
def aligned (table other : AccountTable) : List (Sigma fun _ : String => AccountState) :=
  table.entries.map fun e => ⟨e.1, (other.lookup e.1).getD e.2⟩

theorem keys_aligned (table other : AccountTable) :
    (aligned table other).map Sigma.fst = table.entries.map Sigma.fst := by
  simp [aligned, Function.comp_def]

theorem perm_aligned {table other : AccountTable}
    (h : ∀ key, (table.lookup key).isSome = (other.lookup key).isSome) :
    (aligned table other).Perm other.entries := by
  have hnodup : (aligned table other).Nodup := by
    apply Nodup.of_map Sigma.fst
    rw [keys_aligned]
    exact table.nodupKeys
  refine (perm_ext_iff_of_nodup hnodup other.nodupKeys.nodup).mpr ?_
  rintro ⟨key, a⟩
  constructor
  · intro hmem
    obtain ⟨e, he, heq⟩ := List.mem_map.mp hmem
    have hkey : (table.lookup e.1).isSome := by
      rw [mem_lookup_iff.mpr (show (⟨e.1, e.2⟩ : Sigma fun _ => AccountState) ∈ _ from he)]
      rfl
    rw [h, isSome_iff_exists] at hkey
    obtain ⟨b, hb⟩ := hkey
    rw [hb] at heq
    cases heq
    exact mem_lookup_iff.mp hb
  · intro hmem
    have hb : other.lookup key = some a := mem_lookup_iff.mpr hmem
    have hkey : (table.lookup key).isSome := by
      rw [h, hb]
      rfl
    obtain ⟨b, hb'⟩ := isSome_iff_exists.mp hkey
    refine List.mem_map.mpr ⟨⟨key, b⟩, mem_lookup_iff.mp hb', ?_⟩
    rw [hb]
    rfl

def keyLess (a b : AccountState) : Bool := decide (accountStateKey a < accountStateKey b)

theorem respects_keyLess {accounts : List AccountState} :
    Respects keyLess accountStateKey accounts where
  less_of_rank _ _ _ _ h := decide_eq_true h
  rank_of_less _ _ _ _ h := le_of_lt (of_decide_eq_true h)

structure SameKey (R : AccountState → AccountState → Prop) (a a' : AccountState) : Prop where
  key : accountStateKey a = accountStateKey a'
  related : R a a'

theorem keyLess_sameKey {R : AccountState → AccountState → Prop} (a b a' b' : AccountState)
    (ha : SameKey R a a') (hb : SameKey R b b') : keyLess a b = keyLess a' b' := by
  unfold keyLess
  rw [ha.key, hb.key]

theorem Tidy.accountStateKey {e : Sigma fun _ : String => AccountState} (htidy : Tidy s)
    (he : e ∈ s.accounts.entries) : Account.accountStateKey e.2 = e.1 := by
  have hproper := htidy e he
  rw [accountStateKey_of_named hproper.named, hproper.keyed]

theorem views_eq_of_perm (htidy : Tidy s) {entries : List (Sigma fun _ : String => AccountState)}
    (hperm : entries.Perm s.accounts.entries) :
    views s now trials =
      ((sortSlice keyLess (entries.map fun e => snapshotAccount s.cfg now e.2)).map
        (annotateAccount s.annotations)).map fun a => accountViewFromState a s.cfg now trials := by
  have hsort := sortSlice_eq_of_perm respects_keyLess
    (hperm.symm.map fun e => snapshotAccount s.cfg now e.2) ?_
  · rw [← hsort]
    rfl
  · intro a ha b hb hab
    obtain ⟨e, he, rfl⟩ := List.mem_map.mp ha
    obtain ⟨f, hf, rfl⟩ := List.mem_map.mp hb
    have hkey : e.1 = f.1 := by
      rw [← Tidy.accountStateKey htidy he, ← Tidy.accountStateKey htidy hf]
      exact hab
    have hef : e = f := s.accounts.nodupKeys.eq_of_fst_eq he hf hkey
    rw [hef]

theorem alike_views {pressures : Set (Float64 × Float64)} (htidy : Tidy s) (htidy' : Tidy s')
    (hmatch : OrderMatch pressures) (h : ∀ key, Rel
      (fun a a' => Twin pressures (storedView s now trials a) (storedView s' now' trials' a'))
      (s.accounts.lookup key) (s'.accounts.lookup key)) :
    Alike (views s now trials) (views s' now' trials') := by
  have hkeys : ∀ key, (s.accounts.lookup key).isSome = (s'.accounts.lookup key).isSome := by
    intro key
    have hrel := h key
    revert hrel
    generalize s.accounts.lookup key = a
    generalize s'.accounts.lookup key = a'
    intro hrel
    cases hrel <;> rfl
  have hperm := perm_aligned hkeys
  refine ⟨pressures, hmatch, ?_⟩
  rw [views_eq_of_perm htidy .rfl, views_eq_of_perm htidy' hperm]
  -- related accounts have one key, so that both sorts put them in the same place
  rw [List.map_map, List.map_map, forall₂_map_left_iff, forall₂_map_right_iff]
  refine .imp (fun a a' => SameKey.related) (forall₂_sortSlice keyLess_sameKey ?_)
  rw [forall₂_map_left_iff, forall₂_map_right_iff, aligned, forall₂_map_right_iff]
  refine forall₂_same.mpr fun e he => ?_
  have hlookup : s.accounts.lookup e.1 = some e.2 := mem_lookup_iff.mpr he
  have hrel := h e.1
  rw [hlookup] at hrel
  cases hother : s'.accounts.lookup e.1 with
  | none =>
    rw [hother] at hrel
    cases hrel
  | some a' =>
    rw [hother] at hrel
    obtain ⟨htwin⟩ := hrel
    have hkey := Tidy.accountStateKey htidy he
    have hkey' := Tidy.accountStateKey htidy' (mem_lookup_iff.mp hother)
    exact ⟨hkey.trans hkey'.symm, htwin⟩

def circuitBlocks (circuit : CircuitBreakerState) (now : Time) : Bool :=
  decide (circuit.state = .opened) && (circuit.nextProbeAt.isZero || circuit.nextProbeAt.after now)

def annotatedPriority (annotations : String → Option Int) (a : AccountState) : Int :=
  (annotations (resolveAnnotationKey a)).getD a.schedulerPriority

def staleAt (cfg : Config) (now : Time) (a : AccountState) : Bool :=
  !a.lastSuccessAt.isZero && decide (cfg.staleAfter < now - a.lastSuccessAt)

def storedCache (cfg : Config) (now : Time) (a : AccountState) : CacheClass :=
  if a.lastSuccessAt.isZero then .unknown else if staleAt cfg now a then .stale else .fresh

def storedFacts (s : PluginState) (now : Time) (a : AccountState) : AccountView where
  id := a.authID
  authIndex := a.authIndex
  inst := a.inst
  pluginPriority := annotatedPriority s.annotations a
  cpaPriority := a.priority
  family := a.family
  cache := storedCache s.cfg now a
  lastKnownAvailable := decide (a.lastError = "")
  exhausted := (accountExhaustion a now).1
  resetAt := (accountExhaustion a now).2
  authBlocked := a.refresh.authFailure
  circuit := if circuitBlocks a.circuit now then .opened else .closed
  temporaryUnavailable := a.temporaryExhausted && a.temporaryResetAt.after now
  trial := .none
  expiry := accountSortTime a
  remainingQuota := remainingQuota a
  quotaPressure := 0

theorem annotateAccount_eq (annotations : String → Option Int) (a : AccountState) :
    annotateAccount annotations a =
      { a with schedulerPriority := annotatedPriority annotations a } := by
  unfold annotateAccount annotatedPriority
  cases annotations (resolveAnnotationKey a) <;> rfl

theorem circuitClass_effectiveCircuitState (circuit : CircuitBreakerState) :
    (if circuitClass (effectiveCircuitState circuit now) now = .opened then CircuitClass.opened
      else .closed) = if circuitBlocks circuit now then .opened else .closed := by
  obtain ⟨state, effective, failures, successes, opened, nextProbeAt, reason, failure, success⟩ :=
    circuit
  cases state with
  | opened =>
    cases hzero : nextProbeAt.isZero <;> cases hafter : nextProbeAt.after now <;>
      simp [circuitClass, effectiveCircuitState, circuitBlocks, hzero, hafter]
  | _ => simp [circuitClass, effectiveCircuitState, circuitBlocks]

theorem facts_storedView
    (a : AccountState) : facts (storedView s now trials a) = storedFacts s now a := by
  have hcache : ∀ a : AccountState, a.stale = staleAt s.cfg now a →
      (if cacheClass a s.cfg now = .aging then .fresh else cacheClass a s.cfg now) =
        storedCache s.cfg now a := by
    intro a hstale
    simp only [cacheClass, storedCache, hstale]
    split_ifs <;> simp_all
  simp only [facts, storedView, annotateAccount_eq, accountViewFromState, storedFacts,
    AccountView.mk.injEq]
  exact ⟨rfl, rfl, rfl, rfl, rfl, rfl, hcache _ rfl, rfl, rfl, rfl, rfl,
    circuitClass_effectiveCircuitState a.circuit, rfl, trivial, rfl, rfl, trivial⟩

variable {a : AccountState}

theorem storedFacts_settings (hstale : s.cfg.staleAfter = s'.cfg.staleAfter)
    (hpriority : annotatedPriority s.annotations a = annotatedPriority s'.annotations a) :
    storedFacts s now a = storedFacts s' now a := by
  have hcache : storedCache s.cfg now a = storedCache s'.cfg now a := by
    unfold storedCache staleAt
    rw [hstale]
  unfold storedFacts
  rw [hcache, hpriority]

def windowDeadline (window : Option QuotaWindow) : List Time :=
  match window with
  | none => []
  | some w => if w.exhausted && !w.resetAt.isZero then [w.resetAt] else []

def deadlines (cfg : Config) (a : AccountState) : List Time :=
  (if a.lastSuccessAt.isZero then [] else [a.lastSuccessAt + cfg.staleAfter + 1]) ++
    (if a.temporaryExhausted then [a.temporaryResetAt] else []) ++
    (if a.circuit.state = .opened ∧ a.circuit.nextProbeAt.isZero = false then
      [a.circuit.nextProbeAt] else []) ++
    windowDeadline a.quota.fiveHour ++ windowDeadline a.quota.longWindow

theorem after_eq_of_passed {t : Time} (h : t ≤ now ↔ t ≤ now') : t.after now = t.after now' := by
  simp only [Time.after, decide_eq_decide]
  rw [← not_le, ← not_le, h]

theorem windowExhausted_eq {window : Option QuotaWindow}
    (h : ∀ t ∈ windowDeadline window, t ≤ now ↔ t ≤ now') :
    windowExhausted window now = windowExhausted window now' := by
  cases window with
  | none => rfl
  | some w =>
    simp only [windowExhausted, windowDeadline] at h ⊢
    cases hexhausted : w.exhausted with
    | false => rfl
    | true =>
      cases hzero : w.resetAt.isZero with
      | true => rfl
      | false =>
        have hpassed := h w.resetAt (by simp [hexhausted, hzero])
        rw [after_eq_of_passed hpassed]

theorem staleAt_eq {cfg : Config} (h : a.lastSuccessAt.isZero = false →
      (a.lastSuccessAt + cfg.staleAfter + 1 ≤ now ↔ a.lastSuccessAt + cfg.staleAfter + 1 ≤ now')) :
    staleAt cfg now a = staleAt cfg now' a := by
  unfold staleAt
  cases hzero : a.lastSuccessAt.isZero with
  | true => rfl
  | false =>
    have hpassed := h hzero
    have hlater : cfg.staleAfter < now - a.lastSuccessAt ↔
        cfg.staleAfter < now' - a.lastSuccessAt := by
      dsimp only [Time, Duration] at *
      omega
    simp only [hlater]

theorem circuitBlocks_eq {circuit : CircuitBreakerState}
    (h : circuit.state = .opened → circuit.nextProbeAt.isZero = false →
      (circuit.nextProbeAt ≤ now ↔ circuit.nextProbeAt ≤ now')) :
    circuitBlocks circuit now = circuitBlocks circuit now' := by
  unfold circuitBlocks
  by_cases hopened : circuit.state = .opened
  · cases hzero : circuit.nextProbeAt.isZero with
    | true => rfl
    | false => rw [after_eq_of_passed (h hopened hzero)]
  · simp [hopened]

theorem storedFacts_time (h : ∀ t ∈ deadlines s.cfg a, t ≤ now ↔ t ≤ now') :
    storedFacts s now a = storedFacts s now' a := by
  simp only [deadlines, mem_append] at h
  have hcache : storedCache s.cfg now a = storedCache s.cfg now' a := by
    unfold storedCache
    rw [staleAt_eq fun hzero => h _ (by simp [hzero])]
  have hmarker : (a.temporaryExhausted && a.temporaryResetAt.after now) =
      (a.temporaryExhausted && a.temporaryResetAt.after now') := by
    cases hmarked : a.temporaryExhausted with
    | false => rfl
    | true => rw [after_eq_of_passed (h _ (by simp [hmarked]))]
  have hcircuit : circuitBlocks a.circuit now = circuitBlocks a.circuit now' :=
    circuitBlocks_eq fun hopened hzero => h _ (by simp [hopened, hzero])
  have hlong : windowExhausted a.quota.longWindow now = windowExhausted a.quota.longWindow now' :=
    windowExhausted_eq fun t ht => h t (by simp [ht])
  have hfive : windowExhausted a.quota.fiveHour now = windowExhausted a.quota.fiveHour now' :=
    windowExhausted_eq fun t ht => h t (by simp [ht])
  unfold storedFacts
  rw [hcache, hmarker, hcircuit]
  simp only [accountExhaustion, hlong, hfive]

/-- A success changes nothing a pick looks at: no marker is in force, no error to clear. -/
def SuccessQuiet (a : AccountState) (now : Time) : Prop :=
  (a.temporaryExhausted && a.temporaryResetAt.after now) = false ∧
    (a.lastError = "" ∨ circuitBlocks a.circuit now = true)

theorem effectiveState_opened_iff (circuit : CircuitBreakerState) (now : Time) :
    (effectiveCircuitState circuit now).effectiveState = .opened ↔
      circuitBlocks circuit now = true := by
  obtain ⟨state, effective, failures, successes, opened, nextProbeAt, reason, failure, success⟩ :=
    circuit
  cases state with
  | opened =>
    cases hzero : nextProbeAt.isZero <;> cases hafter : nextProbeAt.after now <;>
      simp [effectiveCircuitState, circuitBlocks, hzero, hafter]
  | _ => simp [effectiveCircuitState, circuitBlocks]

variable {cfg : Config}

theorem applyCircuitSuccess_eq :
    applyCircuitSuccess a cfg now =
      { a with
        circuit := (applyCircuitSuccess a cfg now).circuit
        lastError := (applyCircuitSuccess a cfg now).lastError } := by
  unfold applyCircuitSuccess
  simp only
  split_ifs <;> rfl

theorem circuitBlocks_applyCircuitSuccess (a : AccountState) (cfg : Config) (now : Time) :
    circuitBlocks (applyCircuitSuccess a cfg now).circuit now = circuitBlocks a.circuit now := by
  have hiff := effectiveState_opened_iff a.circuit now
  cases hblocks : circuitBlocks a.circuit now with
  | false =>
    have hne : (effectiveCircuitState a.circuit now).effectiveState ≠ .opened := by
      rw [ne_eq, hiff, hblocks]
      exact Bool.false_ne_true
    unfold applyCircuitSuccess
    simp only [hne, if_false]
    split_ifs <;> rfl
  | true =>
    have hopened : (effectiveCircuitState a.circuit now).effectiveState = .opened :=
      hiff.mpr hblocks
    have hstate : a.circuit.state = .opened := by
      simp only [circuitBlocks, Bool.and_eq_true, decide_eq_true_eq] at hblocks
      exact hblocks.1
    unfold applyCircuitSuccess
    simp only [hopened]
    rw [← hblocks]
    simp [circuitBlocks, effectiveCircuitState, hstate]

theorem lastError_applyCircuitSuccess (a : AccountState) (cfg : Config) (now : Time) :
    (applyCircuitSuccess a cfg now).lastError =
      if circuitBlocks a.circuit now then a.lastError else "" := by
  have hiff := effectiveState_opened_iff a.circuit now
  by_cases hblocks : circuitBlocks a.circuit now = true
  · have hopened := hiff.mpr hblocks
    simp [applyCircuitSuccess, hopened, hblocks]
  · have hne := mt hiff.mp hblocks
    unfold applyCircuitSuccess
    simp only [hne, if_false]
    split_ifs <;> rfl

theorem storedFacts_accountSuccess (h : SuccessQuiet a now) :
    storedFacts s now (accountSuccess cfg a now) = storedFacts s now a := by
  have hcircuit := circuitBlocks_applyCircuitSuccess
    { a with temporaryExhausted := false, temporaryResetAt := .zero } (normalizeConfig cfg) now
  have herror := lastError_applyCircuitSuccess
    { a with temporaryExhausted := false, temporaryResetAt := .zero } (normalizeConfig cfg) now
  have hkept : (if circuitBlocks a.circuit now then a.lastError else "") = a.lastError := by
    rcases h.2 with hnone | hblocks
    · rw [hnone, ite_self]
    · rw [if_pos hblocks]
  unfold accountSuccess
  rw [applyCircuitSuccess_eq]
  simp only [storedFacts, hcircuit, herror, hkept, h.1]
  rfl

theorem quotaPressure_storedView :
    (storedView s now trials a).quotaPressure = quotaPressure a now := by
  unfold storedView
  rw [annotateAccount_eq]
  rfl

theorem quotaPressure_accountSuccess :
    quotaPressure (accountSuccess cfg a now) now' = quotaPressure a now' := by
  unfold accountSuccess
  rw [applyCircuitSuccess_eq]
  rfl

theorem alike_views_of_facts (htidy : Tidy s) (htidy' : Tidy s') (h : ∀ key, Rel
      (fun a a' => storedFacts s now a = storedFacts s' now a' ∧
        quotaPressure a now = quotaPressure a' now)
      (s.accounts.lookup key) (s'.accounts.lookup key)) :
    Alike (views s now trials) (views s' now trials') := by
  refine alike_views htidy htidy' orderMatch_samePressure fun key => ?_
  have hrel := h key
  revert hrel
  generalize s.accounts.lookup key = a
  generalize s'.accounts.lookup key = a'
  intro hrel
  cases hrel with
  | none => exact .none
  | some hsame =>
    refine .some ⟨?_, ?_⟩
    · rw [facts_storedView, facts_storedView, hsame.1]
    · rw [quotaPressure_storedView, quotaPressure_storedView]
      exact hsame.2

end QuotaScheduler.SnapshotViews

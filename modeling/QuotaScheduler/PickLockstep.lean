/- Picks on snapshots that agree in what a pick looks at run in lockstep. -/

import QuotaScheduler.Pick

namespace QuotaScheduler.PickLockstep

open Lib.RankSort Lib.Resumable Prog Selection Pick List

/-- What a selection looks at but the trial state; half-open counts as closed, aging as fresh. -/
def facts (v : AccountView) : AccountView :=
  { v with
    cache := if v.cache = .aging then .fresh else v.cache
    circuit := if v.circuit = .opened then .opened else .closed
    trial := .none
    quotaPressure := 0 }

/-- Two readings of the pressures compare alike. -/
def OrderMatch (pressures : Set (Float64 × Float64)) : Prop :=
  ∀ x ∈ pressures, ∀ y ∈ pressures, x.1.lt y.1 = x.2.lt y.2 ∧ x.1.eq y.1 = x.2.eq y.2

variable {pressures : Set (Float64 × Float64)}

structure Twin (pressures : Set (Float64 × Float64)) (v v' : AccountView) : Prop where
  same : facts v = facts v'
  pressure : (v.quotaPressure, v'.quotaPressure) ∈ pressures

def Alike (vs vs' : List AccountView) : Prop :=
  ∃ pressures, OrderMatch pressures ∧ List.Forall₂ (Twin pressures) vs vs'

structure AlikeSnapshots (s s' : SchedulerSnapshot) : Prop where
  handleEnabled : s.handleEnabled = s'.handleEnabled
  fallback : s.fallback = s'.fallback
  monthlyMode : s.monthlyMode = s'.monthlyMode
  activeHighestTier : s.activeHighestTier = s'.activeHighestTier
  registry : s.trials = true ∧ s'.trials = true
  accounts : Alike s.accounts s'.accounts

def samePressure : Set (Float64 × Float64) := {x | x.1 = x.2}

theorem orderMatch_samePressure : OrderMatch samePressure := by
  intro x hx y hy
  rw [hx, hy]
  exact ⟨rfl, rfl⟩

variable {vs : List AccountView} {v v' : AccountView}

theorem Alike.trans {us ws : List AccountView} (h : Alike us vs) (h' : Alike vs ws) :
    Alike us ws := by
  obtain ⟨before, hbefore, hus⟩ := h
  obtain ⟨after, hafter, hvs⟩ := h'
  refine ⟨{x | ∃ p, (x.1, p) ∈ before ∧ (p, x.2) ∈ after}, ?_, ?_⟩
  · rintro ⟨p, r⟩ ⟨q, hpq, hqr⟩ ⟨p', r'⟩ ⟨q', hpq', hqr'⟩
    obtain ⟨hlt, heq⟩ := hbefore _ hpq _ hpq'
    obtain ⟨hlt', heq'⟩ := hafter _ hqr _ hqr'
    exact ⟨hlt.trans hlt', heq.trans heq'⟩
  · induction hus generalizing ws with
    | nil =>
      cases hvs
      exact .nil
    | @cons u v us vs huv _ ih =>
      cases hvs with
      | @cons _ w _ ws hvw hrest =>
        refine .cons ⟨?_, ?_⟩ (ih hrest)
        · exact huv.same.trans hvw.same
        · exact ⟨v.quotaPressure, huv.pressure, hvw.pressure⟩

structure Seen (pressures : Set (Float64 × Float64)) (v v' : AccountView) : Prop extends
    Twin pressures v v' where
  trial : v.trial = v'.trial

theorem Twin.id (h : Twin pressures v v') : v.id = v'.id := by
  have hid : (facts v).id = (facts v').id := by rw [h.same]
  exact hid

theorem Twin.inst (h : Twin pressures v v') : v.inst = v'.inst := by
  have hinst : (facts v).inst = (facts v').inst := by rw [h.same]
  exact hinst

theorem classifyAccount_facts (v : AccountView) (now : Time) :
    classifyAccount v now = classifyAccount { facts v with trial := v.trial } now := by
  unfold classifyAccount facts
  cases v.cache <;> cases v.circuit <;> rfl

theorem Seen.classifyAccount (h : Seen pressures v v') (now : Time) :
    classifyAccount v now = classifyAccount v' now := by
  rw [classifyAccount_facts v, classifyAccount_facts v', h.same, h.trial]

theorem accountViewLess_facts (a b : AccountView) (mode : MonthlyMode) :
    accountViewLess a b mode = accountViewLess { facts a with quotaPressure := a.quotaPressure }
        { facts b with quotaPressure := b.quotaPressure } mode :=
  rfl

theorem Seen.accountViewLess (hmatch : OrderMatch pressures) (mode : MonthlyMode)
    (a b a' b' : AccountView) (ha : Seen pressures a a') (hb : Seen pressures b b') :
    accountViewLess a b mode = accountViewLess a' b' mode := by
  have heq := (hmatch _ ha.pressure _ hb.pressure).2
  have hlt := (hmatch _ hb.pressure _ ha.pressure).1
  rw [accountViewLess_facts a, accountViewLess_facts a', ha.same, hb.same]
  simp only [Selection.accountViewLess, heq, hlt]

theorem orderedClass_alike {vs' : List AccountView} (hmatch : OrderMatch pressures)
    (h : Forall₂ (Seen pressures) vs vs') (mode : MonthlyMode) (now : Time)
    (cls : AvailabilityClass) :
    Forall₂ (Seen pressures) (orderedClass mode now cls vs) (orderedClass mode now cls vs') := by
  refine forall₂_sortSlice (Seen.accountViewLess hmatch mode) (rel_filter ?_ h)
  intro v v' hv
  simp only [hv.classifyAccount now]

structure SameChoice (r r' : SelectionResult) : Prop where
  authID : r.authID = r'.authID
  inst : r.inst = r'.inst
  cls : r.cls = r'.cls

theorem selectFrom_alike {s s' : SchedulerSnapshot} (hs : AlikeSnapshots s s')
    (hmatch : OrderMatch pressures) {vs' : List AccountView}
    (h : Forall₂ (Seen pressures) vs vs') (now : Time) :
    SameChoice (selectFrom s now vs) (selectFrom s' now vs') := by
  have hpreferred := orderedClass_alike hmatch h s.monthlyMode now .preferred
  have hopportunistic := orderedClass_alike hmatch h s.monthlyMode now .opportunistic
  unfold selectFrom
  rw [← hs.monthlyMode]
  revert hpreferred hopportunistic
  generalize orderedClass s.monthlyMode now .preferred vs = p
  generalize orderedClass s.monthlyMode now .preferred vs' = p'
  generalize orderedClass s.monthlyMode now .opportunistic vs = o
  generalize orderedClass s.monthlyMode now .opportunistic vs' = o'
  intro hpreferred hopportunistic
  cases hpreferred with
  | cons hv _ => exact ⟨hv.id, hv.inst, rfl⟩
  | nil =>
    cases hopportunistic with
    | cons hv _ => exact ⟨hv.id, hv.inst, rfl⟩
    | nil => exact ⟨rfl, rfl, rfl⟩

theorem passAccounts_alike {s s' : SchedulerSnapshot} (hs : AlikeSnapshots s s')
    (h : Forall₂ (Twin pressures) s.accounts s'.accounts) (candidates : List Candidate)
    (skip : List AuthInstanceID) :
    Forall₂ (Twin pressures) (passAccounts s candidates skip)
      (passAccounts s' candidates skip) := by
  refine rel_filter ?_ h
  intro v v' hv
  simp only [eligibleID, hv.id, hv.inst, hs.activeHighestTier]

theorem announceTrial_lockstep {r r' : SelectionResult} (h : SameChoice r r') (now : Time) :
    Lockstep (fun _ _ => True) (announceTrial now r) (announceTrial now r') := by
  unfold announceTrial
  rw [h.authID, h.cls]
  split
  · refine .call_of_eq (by rw [h.inst]) fun sent => ?_
    cases sent with
    | true => exact .call_of_eq (by rw [h.inst]) fun _ => .done trivial
    | false => exact .done trivial
  · exact .done trivial

section Passes

variable {s s' : SchedulerSnapshot} (hs : AlikeSnapshots s s') (now : Time)

include hs

theorem observe_lockstep {v v' : AccountView} (h : Twin pressures v v') :
    Lockstep (Seen pressures) (observe s now v) (observe s' now v') := by
  unfold observe
  rw [if_pos hs.registry.1, if_pos hs.registry.2]
  refine .call_of_eq (by rw [h.inst]) fun _ => .call_of_eq (by rw [h.inst]) fun t => ?_
  exact .done ⟨⟨h.same, h.pressure⟩, rfl⟩

theorem observeAll_lockstep {vs vs' : List AccountView} (h : Forall₂ (Twin pressures) vs vs') :
    Lockstep (Forall₂ (Seen pressures)) (observeAll s now vs) (observeAll s' now vs') := by
  induction h with
  | nil => exact .done .nil
  | cons hv _ ih =>
    refine (observe_lockstep hs now hv).bind fun v v' hv => ?_
    exact ih.bind fun vs vs' hvs => .done (.cons hv hvs)

theorem selectAccountSkipping_lockstep (hmatch : OrderMatch pressures)
    (h : Forall₂ (Twin pressures) s.accounts s'.accounts) (candidates : List Candidate)
    (skip : List AuthInstanceID) :
    Lockstep (fun r r' => SameChoice r.2 r'.2) (selectAccountSkipping s candidates now skip)
      (selectAccountSkipping s' candidates now skip) := by
  have hpass := observeAll_lockstep hs now (passAccounts_alike hs h candidates skip)
  exact hpass.bind fun vs vs' hvs => .done (selectFrom_alike hs hmatch hvs now)

structure SameEnd (e e' : LoopEnd) : Prop where
  result : SameChoice e.result e'.result
  skipped : e.skipped = e'.skipped

omit hs now in
inductive SameOutcome : Option LoopEnd → Option LoopEnd → Prop
  | none : SameOutcome none none
  | some {e e' : LoopEnd} (h : SameEnd e e') : SameOutcome (some e) (some e')

theorem loopCondition_lockstep {e e' : LoopEnd} (he : SameEnd e e')
    {again again' : LoopEnd → PickProg (Option LoopEnd)}
    (hagain : ∀ f f', SameEnd f f' → Lockstep SameOutcome (again f) (again' f')) :
    Lockstep SameOutcome (loopCondition s now e again) (loopCondition s' now e' again') := by
  unfold loopCondition
  simp only [← he.result.authID, ← he.result.cls, if_pos hs.registry.1, if_pos hs.registry.2]
  split
  · refine .call_of_eq (by rw [he.result.inst]) fun began => ?_
    cases began with
    | true => exact .done (.some ⟨he.result, he.skipped⟩)
    | false => exact hagain _ _ ⟨he.result, he.skipped⟩
  · exact .done (.some he)

theorem retryLoop_lockstep (hmatch : OrderMatch pressures)
    (h : Forall₂ (Twin pressures) s.accounts s'.accounts) (candidates : List Candidate)
    (fuel : Nat) {e e' : LoopEnd} (he : SameEnd e e') :
    Lockstep SameOutcome (retryLoop s candidates now fuel e)
      (retryLoop s' candidates now fuel e') := by
  induction fuel generalizing e e' with
  | zero => exact loopCondition_lockstep hs now he fun _ _ _ => .done .none
  | succ fuel ih =>
    refine loopCondition_lockstep hs now he fun f f' hf => ?_
    refine .bind (R := SameEnd) ?_ fun _ _ hend => ih hend
    unfold skipAndSelect
    rw [← hf.result.inst, ← hf.skipped]
    exact (selectAccountSkipping_lockstep hs now hmatch h candidates _).bind
      fun _ _ hchoice => .done ⟨hchoice, rfl⟩

theorem authID_decisionOf {r r' : SelectionResult} (h : SameChoice r r')
    (candidates : List Candidate) :
    (decisionOf s candidates now r).authID = (decisionOf s' candidates now r').authID := by
  unfold decisionOf
  rw [← h.authID, ← hs.fallback]
  split
  · rfl
  · split <;> rfl

theorem schedulerPickPublished_lockstep (req : SchedulerPickRequest) :
    Lockstep (fun t t' => t.decision.authID = t'.decision.authID)
      (schedulerPickPublished (some s) req now) (schedulerPickPublished (some s') req now) := by
  obtain ⟨pressures, hmatch, h⟩ := hs.accounts
  have hlength := (passAccounts_alike hs h req.candidates []).length_eq
  unfold schedulerPickPublished
  dsimp only
  rw [← hs.handleEnabled, ← hlength]
  split
  · exact .done rfl
  split
  · exact .done rfl
  refine (selectAccountSkipping_lockstep hs now hmatch h req.candidates []).bind
    fun pass pass' hpass => ?_
  have hstart : SameEnd ⟨pass.1, pass.2, [], []⟩ ⟨pass'.1, pass'.2, [], []⟩ := ⟨hpass, rfl⟩
  refine (retryLoop_lockstep hs now hmatch h req.candidates _ hstart).bind
    fun outcome outcome' houtcome => ?_
  cases houtcome with
  | none => exact .done rfl
  | @some e e' hend =>
    exact (announceTrial_lockstep hend.result now).bind fun _ _ _ =>
      .done (authID_decisionOf hs now hend.result req.candidates)

end Passes

structure SysLockstep (w w' : PickSys) : Prop where
  shared : w.shared = w'.shared
  picks : List.Forall₂ (Lockstep fun t t' => t.decision.authID = t'.decision.authID)
    w.picks w'.picks

theorem getElem?_forall₂ {α β : Type} {R : α → β → Prop} {xs : List α} {ys : List β}
    (h : Forall₂ R xs ys) (i : Nat) : Option.Rel R xs[i]? ys[i]? := by
  induction h generalizing i with
  | nil => exact .none
  | cons hxy _ ih =>
    cases i with
    | zero => exact .some hxy
    | succ i => exact ih i

theorem forall₂_set {α β : Type} {R : α → β → Prop} {xs : List α} {ys : List β}
    (h : Forall₂ R xs ys) (i : Nat) {x : α} {y : β} (hxy : R x y) :
    Forall₂ R (xs.set i x) (ys.set i y) := by
  induction h generalizing i with
  | nil => exact .nil
  | cons hhead hrest ih =>
    cases i with
    | zero => exact .cons hxy hrest
    | succ i => exact .cons hhead (ih i)

theorem SysLockstep.step {w w' : PickSys} (h : SysLockstep w w') (label : PickLabel) :
    SysLockstep (w.step label) (w'.step label) := by
  cases label with
  | pick i room =>
    have hrel := getElem?_forall₂ h.picks i
    simp only [PickSys.step, ← h.shared]
    revert hrel
    generalize w.picks[i]? = p
    generalize w'.picks[i]? = q
    intro hrel
    cases hrel with
    | none => exact h
    | some hpq =>
      have hnext := hpq.advance PickOp.exec room w.shared
      exact ⟨hnext.2, forall₂_set h.picks i hnext.1⟩
  | evidence id kind | retry id now => exact ⟨by simp only [PickSys.step, h.shared], h.picks⟩

def selected : PickProg PickTrace → Option String
  | .done t => some t.decision.authID
  | _ => none

theorem selected_lockstep {p q : PickProg PickTrace}
    (h : Lockstep (fun t t' => t.decision.authID = t'.decision.authID) p q) :
    selected p = selected q := by
  cases h with
  | done h => exact congrArg some h
  | raise e | call op h => rfl

theorem selected_runPicks {s s' : SchedulerSnapshot} (hs : AlikeSnapshots s s')
    (req : SchedulerPickRequest) (now : Time) (others : List PickCall) (shared : Shared)
    (labels : List PickLabel) :
    ((runPicks (⟨some s, req, now⟩ :: others) shared labels).picks[0]?).bind selected =
      ((runPicks (⟨some s', req, now⟩ :: others) shared labels).picks[0]?).bind selected := by
  have hrun : ∀ w w', SysLockstep w w' →
      SysLockstep (labels.foldl .step w) (labels.foldl .step w') := by
    induction labels with
    | nil => exact fun w w' h => h
    | cons label labels ih => exact fun w w' h => ih _ _ (h.step label)
  have hothers : Forall₂ (Lockstep fun t t' => t.decision.authID = t'.decision.authID)
      (others.map fun c => schedulerPickPublished c.published c.req c.now)
      (others.map fun c => schedulerPickPublished c.published c.req c.now) :=
    forall₂_same.mpr fun p _ => (lockstep_refl p).mono fun _ _ h => by rw [h]
  have hstart : SysLockstep (runPicks (⟨some s, req, now⟩ :: others) shared labels)
      (runPicks (⟨some s', req, now⟩ :: others) shared labels) :=
    hrun _ _ ⟨rfl, .cons (schedulerPickPublished_lockstep hs now req) hothers⟩
  have hfirst := getElem?_forall₂ hstart.picks 0
  revert hfirst
  generalize (runPicks (⟨some s, req, now⟩ :: others) shared labels).picks[0]? = p
  generalize (runPicks (⟨some s', req, now⟩ :: others) shared labels).picks[0]? = q
  intro hfirst
  cases hfirst with
  | none => rfl
  | some h => exact selected_lockstep h

end QuotaScheduler.PickLockstep

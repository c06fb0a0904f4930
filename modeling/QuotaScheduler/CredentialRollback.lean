/- What a reconciliation restores when its AfterCommit hook fails (credential_wal.go). -/

import QuotaScheduler.CredentialChain

namespace QuotaScheduler.CredentialRollback

open Identity CredentialWal CredentialChain List Option Function

/-- The manager's state in memory: a write through a copy of a chain is seen in it. -/
structure CachedState where
  state : CredentialStore
  arrays : AuthInstanceID → List CredentialTransition

/-- `PersistentSnapshot`: the decoded state has fresh arrays. -/
def persistentSnapshot (s : CredentialStore) : CachedState where
  state := s
  arrays inst := ((s.chains inst).map (·.transitions)).getD []

/-- `clonePersistentState`: the chains are encoded with what their arrays hold now. -/
def CachedState.clone (m : CachedState) : CredentialStore :=
  { m.state with
    chains := fun inst =>
      (m.state.chains inst).map fun chain => { chain with transitions := m.arrays inst } }

def CachedState.settle (m : CachedState) (inst : AuthInstanceID)
    (observed : CredentialFingerprint) : CachedState :=
  match settleLast (m.arrays inst) observed with
  | none => m
  | some (transitions, _) => { m with arrays := Function.update m.arrays inst transitions }

structure RollbackOutcome where
  persisted : CredentialStore
  rollbackFailed : Bool

/-- `reconcile` with a failing AfterCommit hook; `restored`: its second update succeeds. `none`: no
commit. -/
def reconcileRolledBack (sha : Nat → Nat → Nat → Nat) (s : CredentialStore) (inst : AuthInstanceID)
    (observed : CredentialFingerprint) (now : Time) (requireUnresolved restored : Bool) :
    Option RollbackOutcome :=
  match prepareReconcile sha s inst observed now requireUnresolved with
  | none => none
  | some (nextChain, report) =>
    match report.observation with
    | none => none
    | some observation =>
      let before := ((persistentSnapshot s).settle inst observed).clone
      let committed := s.commitReconcile inst nextChain observation observed
      some <|
        if restored then
          ⟨{ committed with
              tierGeneration := before.tierGeneration
              admissionEpochs := before.admissionEpochs
              chains := before.chains
              bindings := before.bindings }, false⟩
        else ⟨committed, true⟩

def SameCredentials (s t : CredentialStore) : Prop :=
  s.tierGeneration = t.tierGeneration ∧ s.admissionEpochs = t.admissionEpochs ∧
    s.chains = t.chains ∧ s.bindings = t.bindings

variable {sha : Nat → Nat → Nat → Nat} {s : CredentialStore} {inst : AuthInstanceID}
  {observed : CredentialFingerprint} {now : Time} {requireUnresolved restored : Bool}
  {outcome : RollbackOutcome} {chain : TransitionChain}

theorem clone_settle (hchain : s.chains inst = some chain) :
    ((persistentSnapshot s).settle inst observed).clone =
      s.setChain inst (rolledBackChain chain observed) := by
  have harray : (persistentSnapshot s).arrays inst = chain.transitions := by
    simp [persistentSnapshot, hchain]
  have hclone : ∀ ts, ({ persistentSnapshot s with
      arrays := update (persistentSnapshot s).arrays inst ts } : CachedState).clone =
        s.setChain inst { chain with transitions := ts } := by
    intro ts
    simp only [CachedState.clone, CredentialStore.setChain, persistentSnapshot]
    congr 1
    funext other
    by_cases hother : other = inst
    · subst hother
      simp [hchain]
    · cases hstored : s.chains other <;> simp [hother, hstored]
  unfold CachedState.settle rolledBackChain
  rw [harray]
  cases settleLast chain.transitions observed with
  | none =>
    rw [← harray]
    simpa using hclone ((persistentSnapshot s).arrays inst)
  | some settled => exact hclone settled.1

theorem settleLast_eq_iff {ts ts' : List CredentialTransition} {phase : Option TransitionPhase}
    (h : settleLast ts observed = some (ts', phase)) :
    ts' = ts ↔ ts.getLast?.any unsettled = false := by
  unfold settleLast at h
  cases hlast : ts.getLast? with
  | none =>
    rw [hlast] at h
    cases h
    simp
  | some tr =>
    rw [hlast] at h
    dsimp only at h
    have hts : ts = ts.dropLast ++ [tr] := (dropLast_append_getLast? tr hlast).symm
    have hchanged : ∀ p, unsettled { tr with phase := p } = false → unsettled tr = true →
        ts.dropLast ++ [{ tr with phase := p }] ≠ ts := by
      intro p hp hopen hsame
      rw [hts, dropLast_concat] at hsame
      have hphase := append_inj_right' hsame rfl
      rw [cons.injEq] at hphase
      rw [hphase.1, hopen] at hp
      cases hp
    split at h
    · rename_i hopen
      have htrue : unsettled tr = true := decide_eq_true hopen
      split at h
      · cases h
        exact iff_of_false (hchanged _ rfl htrue) (by simp [htrue])
      split at h
      · cases h
        exact iff_of_false (hchanged _ rfl htrue) (by simp [htrue])
      · cases h
    · cases h
      exact iff_of_true rfl (decide_eq_false ‹_›)

/-- A commit taken back leaves the credentials, or says it did not, iff the second update fails or
the last transition was settled. -/
theorem rollback_exact_iff (sha : Nat → Nat → Nat → Nat) (s : CredentialStore)
    (inst : AuthInstanceID) (observed : CredentialFingerprint) (now : Time)
    (requireUnresolved restored : Bool) {outcome : RollbackOutcome} {chain : TransitionChain}
    (hchain : s.chains inst = some chain)
    (hcommit : reconcileRolledBack sha s inst observed now requireUnresolved restored =
      some outcome) :
    SameCredentials outcome.persisted s ∨ outcome.rollbackFailed = true ↔
      restored = false ∨ chain.transitions.getLast?.any unsettled = false := by
  unfold reconcileRolledBack at hcommit
  split at hcommit
  · cases hcommit
  rename_i nextChain report hprepared
  split at hcommit
  · cases hcommit
  rename_i observation hobservation
  obtain ⟨chain', hchain', hreconciled⟩ := prepareReconcile_spec hprepared
  cases some.inj (hchain.symm.trans hchain')
  rw [clone_settle hchain, some.injEq] at hcommit
  cases restored with
  | false =>
    cases hcommit
    exact iff_of_true (.inr rfl) (.inl rfl)
  | true =>
    cases hcommit
    unfold reconcileCredentialObservation at hreconciled
    cases hsettled : settleLast chain.transitions observed with
    | none =>
      rw [hsettled] at hreconciled
      cases hreconciled
      cases hobservation
    | some settled =>
      rw [← settleLast_eq_iff hsettled]
      simp only [Bool.true_eq_false, Bool.false_eq_true, or_false, false_or, if_true]
      constructor
      · rintro ⟨-, -, hchains, -⟩
        have hstored := congrFun hchains inst
        simp only [CredentialStore.setChain, update_self, hchain, rolledBackChain,
          hsettled, some.injEq] at hstored
        exact congrArg (·.transitions) hstored
      · intro hsame
        have hback : rolledBackChain chain observed = chain := by
          rw [rolledBackChain, hsettled]
          exact congrArg (TransitionChain.mk chain.cursor) hsame
        refine ⟨rfl, rfl, ?_, rfl⟩
        rw [hback]
        exact update_eq_self_iff.mpr hchain.symm

def storing (phase : TransitionPhase) : CredentialStore where
  chains _ := some ⟨rotated 0, [⟨rotated 0, rotated 1, 1, phase, hour⟩]⟩

def takenBack (phase : TransitionPhase) : RollbackOutcome :=
  (reconcileRolledBack digits (storing phase) 7 (rotated 1) hour false true).get
    (by cases phase <;> decide +kernel)

theorem rollback_of_applied : SameCredentials (takenBack .applied).persisted (storing .applied) :=
  ((rollback_exact_iff digits (storing .applied) 7 (rotated 1) hour false true rfl
    (some_get _).symm).mpr (.inr rfl)).resolve_right (by decide +kernel)

/-- A planned transition comes back as an applied one, and no failure is reported. -/
theorem rollback_settles_planned :
    ((takenBack .planned).persisted.chains 7).map (·.transitions) =
        some [⟨rotated 0, rotated 1, 1, .applied, hour⟩] ∧
      ((storing .planned).chains 7).map (·.transitions) =
        some [⟨rotated 0, rotated 1, 1, .planned, hour⟩] ∧
      (takenBack .planned).rollbackFailed = false := by
  decide +kernel

end QuotaScheduler.CredentialRollback

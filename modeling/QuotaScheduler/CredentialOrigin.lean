/- When a rotation of the plugin's own is recognised. -/

import QuotaScheduler.CredentialChain

namespace QuotaScheduler.CredentialOrigin

open Identity CredentialWal Lib.Runs
open List CredentialWal
open CredentialChain hiding Event step

/-- The stored credentials, the host's of each instance, and the generations the plugin recorded. -/
structure World where
  clock : Time := 0
  store : CredentialStore := {}
  host : AuthInstanceID → CredentialFingerprint := fun _ => {}
  recorded : AuthInstanceID → List CredentialFingerprint := fun _ => []

inductive Event
  | elapse (d : Nat)
  | save (inst : AuthInstanceID) (next : CredentialFingerprint) (token : ExecutionToken)
      (cut : SaveCut) (reply : SaveReply) (took : Bool)
  | reconcile (inst : AuthInstanceID) (requireUnresolved committed : Bool)
  | hostChange (inst : AuthInstanceID) (observed : CredentialFingerprint)

def step (sha : Nat → Nat → Nat → Nat) (w : World) : Event → World
  | .elapse d => { w with clock := w.clock + d }
  | .save inst next token cut reply took =>
    let out := saveVersionedWithHost w.store inst next token w.clock w.clock cut reply
    { w with
      store := out.store
      recorded := if out.planned then
          Function.update w.recorded inst (next :: w.recorded inst) else w.recorded
      host := if out.saved && took then Function.update w.host inst next else w.host }
  | .reconcile inst requireUnresolved committed =>
    { w with
      store := (CredentialWal.reconcile sha w.store inst (w.host inst) w.clock requireUnresolved
        committed).1 }
  | .hostChange inst observed => { w with host := Function.update w.host inst observed }

def World.initial (w : World) : Prop :=
  ∀ inst chain, w.store.chains inst = some chain → chain.transitions = []

def Linked (current : CredentialFingerprint) : List CredentialTransition → Prop
  | [] => True
  | tr :: rest =>
    tr.prev.compositeHash = current.compositeHash ∧ (rest ≠ [] → tr.phase = .applied) ∧
      Linked tr.next rest

variable {c observed : CredentialFingerprint} {ts ts' : List CredentialTransition}
  {t : CredentialTransition} {now : Time} {n : Nat} {phase : Option TransitionPhase}
  {chain : TransitionChain} {s : CredentialStore} {inst : AuthInstanceID}
  {o : CredentialObservation} {sha : Nat → Nat → Nat → Nat} {require : Bool}

theorem linked_of_chained (h : Chained c ts) (happ : ∀ tr ∈ ts.dropLast, tr.phase = .applied) :
    Linked c ts := by
  induction ts generalizing c with
  | nil => trivial
  | cons tr rest ih =>
    obtain ⟨hprev, -, hrest⟩ := h
    cases rest with
    | nil => exact ⟨hprev, fun hne => absurd rfl hne, trivial⟩
    | cons u rest =>
      obtain ⟨hphase, happ⟩ := forall_mem_cons.mp happ
      rw [advance, if_pos hphase] at hrest
      exact ⟨hprev, fun _ => hphase, ih hrest happ⟩

structure Ordered (n : Nat) (c : TransitionChain) : Prop where
  kept : Kept n c
  applied : ∀ tr ∈ c.transitions.dropLast, tr.phase = .applied

theorem applied_suffix (h : ∀ tr ∈ ts.dropLast, tr.phase = .applied) (hsuffix : ts' <:+ ts) :
    ∀ tr ∈ ts'.dropLast, tr.phase = .applied := by
  obtain ⟨old, rfl⟩ := hsuffix
  intro tr htr
  have hne : ts' ≠ [] := by
    rintro rfl
    cases htr
  rw [dropLast_append_of_ne_nil hne] at h
  exact h tr (mem_append_right _ htr)

theorem applied_settleLast (hsettle : settleLast ts observed = some (ts', phase))
    (h : ∀ tr ∈ ts.dropLast, tr.phase = .applied) : ∀ tr ∈ ts'.dropLast, tr.phase = .applied := by
  rcases settleLast_spec hsettle with rfl | ⟨init, t, p, rfl, rfl, -⟩
  · exact h
  · rw [dropLast_concat] at h ⊢
    exact h

theorem applied_reconcile (h : ∀ tr ∈ chain.transitions.dropLast, tr.phase = .applied) :
    ∀ tr ∈ (reconcileCredentialObservation chain observed now).1.transitions.dropLast,
      tr.phase = .applied := by
  unfold reconcileCredentialObservation
  split
  · exact h
  case h_2 ts phase hsettle =>
    have hts := applied_settleLast hsettle h
    refine applied_suffix ?_ (dropWhile_suffix _)
    generalize classifyObservedCredential { chain with transitions := ts } observed now = o
    cases o with
    | same | metadataOnly | ambiguous => exact hts
    | externalLogin => exact applied_suffix hts nil_suffix
    | ownedRotation k => exact applied_suffix hts (drop_suffix _ _)

theorem stable_ordered : Stable Ordered where
  kept h := h.kept
  mono h hle := ⟨stable_kept.mono h.kept hle, h.applied⟩
  settle phase h := by
    have happ := h.applied
    rw [dropLast_concat] at happ
    refine ⟨stable_kept.settle phase h.kept, ?_⟩
    rw [dropLast_concat]
    exact happ
  reconcile observed now h :=
    ⟨stable_kept.reconcile observed now h.kept, applied_reconcile h.applied⟩

theorem Ordered.appendAt (h : Ordered n chain) (hab : ∀ tr ∈ chain.transitions, tr.phase ≠ .aborted)
    (htail : chain.saveTail = some t.prev) (hplanned : t.phase = .planned)
    (hseq : t.saveSeq = n + 1) (now : Time) : Ordered (n + 1) (chain.appendAt t now) := by
  refine ⟨h.kept.appendAt htail rfl hplanned hseq now, ?_⟩
  obtain ⟨init, hinit, hsuffix⟩ := appendAt_concat chain
  rw [hinit, dropLast_concat]
  intro tr htr
  have hmem := hsuffix.subset htr
  have hsettled := (h.kept.chained.saveTail htail).2 tr hmem
  cases hphase : tr.phase with
  | applied => rfl
  | aborted => exact absurd hphase (hab tr hmem)
  | planned | outcomeUnknown => simp [unsettled, hphase] at hsettled

theorem Linked.found (passed : Nat) (h : Linked c ts) (hfresh : ∀ tr ∈ ts, tr.stale now = false)
    (hin : ∃ tr ∈ ts, tr.phase ≠ .aborted ∧ tr.next.compositeHash = observed.compositeHash) :
    ∃ o, classifyFrom observed now c passed ts = some o ∧ o ≠ .externalLogin := by
  induction ts generalizing c passed with
  | nil =>
    obtain ⟨tr, htr, -⟩ := hin
    cases htr
  | cons tr rest ih =>
    obtain ⟨hprev, happ, hrest⟩ := h
    have hhead : tr.stale now = false := hfresh tr (mem_cons_self ..)
    rw [classifyFrom, if_neg (not_not_intro hprev), if_neg (by simp [hhead])]
    by_cases hobs : observed.compositeHash = tr.next.compositeHash
    · cases hph : tr.phase with
      | applied | planned | outcomeUnknown => exact ⟨_, if_pos hobs, by simp⟩
      | aborted =>
        -- an aborted transition is the last, so no other could be the one observed
        obtain ⟨u, hu, huab, hunext⟩ := hin
        rcases mem_cons.mp hu with rfl | hu
        · exact absurd hph huab
        · have := happ (ne_nil_of_mem hu)
          rw [hph] at this
          cases this
    · obtain ⟨u, hu, huab, hunext⟩ := hin
      have hu : u ∈ rest := by
        rcases mem_cons.mp hu with rfl | hu
        · exact absurd hunext.symm hobs
        · exact hu
      rw [happ (ne_nil_of_mem hu)]
      rw [if_neg hobs]
      exact ih (passed + 1) hrest (fun t ht => hfresh t (mem_cons_of_mem _ ht))
        ⟨u, hu, huab, hunext⟩

theorem Linked.classify_ne_externalLogin {c : TransitionChain} (h : Linked c.cursor c.transitions)
    (hfresh : ∀ tr ∈ c.transitions, tr.stale now = false)
    (hown : observed.compositeHash = c.cursor.compositeHash ∨
      ∃ tr ∈ c.transitions, tr.phase ≠ .aborted ∧ tr.next.compositeHash = observed.compositeHash) :
    classifyObservedCredential c observed now ≠ .externalLogin := by
  unfold classifyObservedCredential
  split
  · simp
  case isFalse hne =>
    obtain ⟨o, ho, hext⟩ := h.found 0 hfresh (hown.resolve_left hne)
    rw [ho]
    exact hext

theorem settleLast_holds (h : settleLast ts observed = some (ts', phase))
    (hin : ∃ tr ∈ ts, tr.phase ≠ .aborted ∧ tr.next.compositeHash = observed.compositeHash) :
    ∃ tr ∈ ts', tr.phase ≠ .aborted ∧ tr.next.compositeHash = observed.compositeHash := by
  rcases settleLast_spec h with rfl | ⟨init, t, p, rfl, rfl, hp⟩
  · exact hin
  · obtain ⟨u, hu, huab, hunext⟩ := hin
    rcases mem_append.mp hu with hu | hu
    · exact ⟨u, mem_append_left _ hu, huab, hunext⟩
    · obtain rfl := mem_singleton.mp hu
      exact ⟨_, mem_append_right _ (mem_singleton_self _), fun hab => hp hab hunext.symm, hunext⟩

theorem reconcileCredentialObservation_ne_externalLogin (h : Ordered n chain)
    (hfresh : ∀ tr ∈ chain.transitions, tr.stale now = false)
    (hown : observed.compositeHash = chain.cursor.compositeHash ∨
      ∃ tr ∈ chain.transitions, tr.phase ≠ .aborted ∧
        tr.next.compositeHash = observed.compositeHash) :
    (reconcileCredentialObservation chain observed now).2.observation ≠ some .externalLogin := by
  unfold reconcileCredentialObservation
  split
  · simp
  case h_2 ts phase hsettle =>
    have hfresh' : ∀ tr ∈ ts, tr.stale now = false := by
      rcases settleLast_spec hsettle with rfl | ⟨init, t, p, hts, rfl, -⟩
      · exact hfresh
      · intro tr htr
        rcases mem_append.mp htr with htr | htr
        · exact hfresh tr (hts ▸ mem_append_left _ htr)
        · obtain rfl := mem_singleton.mp htr
          exact hfresh t (hts ▸ mem_append_right _ (mem_singleton_self _))
    have hext := Linked.classify_ne_externalLogin (c := { chain with transitions := ts })
      (linked_of_chained (h.kept.chained.settleLast hsettle)
        (applied_settleLast hsettle h.applied)) hfresh' (hown.imp_right (settleLast_holds hsettle))
    intro hobs
    exact hext (Option.some.inj hobs)

def loginFields (b : RuntimeBinding) : Nat × Nat × Bool := (b.login, b.admission, b.authBlocked)

structure LoginUntouched (s t : CredentialStore) : Prop where
  tierGeneration : t.tierGeneration = s.tierGeneration
  admissionEpochs : t.admissionEpochs = s.admissionEpochs
  bindings : ∀ id, (t.bindings.lookup id).map loginFields = (s.bindings.lookup id).map loginFields

theorem LoginUntouched.refl (s : CredentialStore) : LoginUntouched s s := ⟨rfl, rfl, fun _ => rfl⟩

theorem LoginUntouched.trans {t u : CredentialStore} (hst : LoginUntouched s t)
    (htu : LoginUntouched t u) : LoginUntouched s u :=
  ⟨htu.1.trans hst.1, htu.2.trans hst.2, fun id => (htu.3 id).trans (hst.3 id)⟩

theorem reconcileBinding_loginUntouched (ho : o ≠ .externalLogin) (s : CredentialStore)
    (authID : String) : LoginUntouched s (reconcileBinding inst o observed s authID) := by
  unfold reconcileBinding
  split
  · exact .refl s
  case h_2 b hb =>
    split
    · exact .refl s
    cases o with
    | same | metadataOnly | ambiguous => exact .refl s
    | externalLogin => exact absurd rfl ho
    | ownedRotation n =>
      refine ⟨rfl, rfl, fun id => ?_⟩
      by_cases hid : id = authID
      · subst hid
        rw [AList.lookup_insert, hb]
        rfl
      · rw [AList.lookup_insert_ne hid]

theorem commitReconcile_loginUntouched (ho : o ≠ .externalLogin) :
    LoginUntouched s (s.commitReconcile inst chain o observed) := by
  have hset : LoginUntouched s (s.setChain inst chain) := ⟨rfl, rfl, fun _ => rfl⟩
  exact hset.trans (foldl_relates .refl (fun _ _ _ => .trans) (reconcileBinding_loginUntouched ho)
    s.bindings.keys (s.setChain inst chain))

def World.own (w : World) (inst : AuthInstanceID) : Prop :=
  (∃ chain, w.store.chains inst = some chain ∧
      (w.host inst).compositeHash = chain.cursor.compositeHash) ∨
    ∃ g ∈ w.recorded inst, g.compositeHash = (w.host inst).compositeHash

/-- Saves meet no aborted transition; a reconciliation meets none over a day old, and the host's
recorded generation on the chain. -/
def orderly (w : World) : Event → Prop
  | .elapse _ => True
  | .hostChange _ _ => True
  | .save inst _ _ _ _ _ =>
    ∀ chain ∈ w.store.chains inst, ∀ tr ∈ chain.transitions, tr.phase ≠ .aborted
  | .reconcile inst _ _ =>
    ∀ chain ∈ w.store.chains inst, (∀ tr ∈ chain.transitions, tr.stale w.clock = false) ∧
        ((∃ g ∈ w.recorded inst, g.compositeHash = (w.host inst).compositeHash) →
          (w.host inst).compositeHash = chain.cursor.compositeHash ∨
            ∃ tr ∈ chain.transitions, tr.phase ≠ .aborted ∧
              tr.next.compositeHash = (w.host inst).compositeHash)

instance (w : World) (e : Event) : Decidable (orderly w e) := by
  cases e <;> unfold orderly <;> infer_instance

theorem held_step {w : World} {e : Event} (h : Held Ordered w.store) (horderly : orderly w e) :
    Held Ordered (step sha w e).store := by
  cases e with
  | elapse d | hostChange inst observed => exact h
  | save inst next token cut reply took =>
    refine h.save stable_ordered next token w.clock w.clock cut reply fun chain t hchain htail
      hplanned hseq => ?_
    exact (h inst chain hchain).appendAt (horderly chain hchain) htail hplanned hseq w.clock
  | reconcile inst require committed =>
    exact h.reconcile stable_ordered sha inst (w.host inst) w.clock require committed

theorem reconcile_own {w : World} {committed : Bool} (h : Held Ordered w.store)
    (horderly : orderly w (.reconcile inst require committed)) (hown : w.own inst) :
    (reconcile sha w.store inst (w.host inst) w.clock require
        committed).2.observation ≠ some .externalLogin ∧
      LoginUntouched w.store (reconcile sha w.store inst (w.host inst) w.clock require
        committed).1 := by
  unfold reconcile
  split
  · exact ⟨by simp, .refl _⟩
  case h_2 nextChain report hprep =>
    obtain ⟨chain, hchain, hrec⟩ := prepareReconcile_spec hprep
    obtain ⟨hfresh, hkept⟩ := horderly chain hchain
    have hheld : (w.host inst).compositeHash = chain.cursor.compositeHash ∨
        ∃ tr ∈ chain.transitions, tr.phase ≠ .aborted ∧
          tr.next.compositeHash = (w.host inst).compositeHash := by
      rcases hown with ⟨chain', hchain', hcursor⟩ | hrecorded
      · obtain rfl : chain = chain' := Option.some.inj (hchain.symm.trans hchain')
        exact .inl hcursor
      · exact hkept hrecorded
    have hext : report.observation ≠ some .externalLogin := by
      obtain rfl : _ = report := congrArg Prod.snd hrec
      exact reconcileCredentialObservation_ne_externalLogin (h inst chain hchain) hfresh hheld
    split
    · exact ⟨hext, .refl _⟩
    case h_2 o ho =>
      split
      · exact ⟨hext, commitReconcile_loginUntouched fun heq => hext (heq ▸ ho)⟩
      · exact ⟨hext, .refl _⟩

/-- Under the condition, reconciling an own credential records no login. -/
theorem own_rotation_is_not_a_login (sha : Nat → Nat → Nat → Nat) (start : World)
    (events : Nat → Event) (hinitial : start.initial)
    (horderly : ∀ k, orderly (stateAt (step sha) start events k) (events k)) (k : Nat)
    (inst : AuthInstanceID) (require committed : Bool)
    (hevent : events k = .reconcile inst require committed)
    (hown : (stateAt (step sha) start events k).own inst) :
    (CredentialWal.reconcile sha (stateAt (step sha) start events k).store inst
        ((stateAt (step sha) start events k).host inst) (stateAt (step sha) start events k).clock
        require committed).2.observation ≠ some .externalLogin ∧
      LoginUntouched (stateAt (step sha) start events k).store
        (stateAt (step sha) start events (k + 1)).store := by
  have hstart : Held Ordered start.store := by
    intro i c hc
    have hnil := hinitial i c hc
    exact ⟨kept_of_nil hnil _, by simp [hnil]⟩
  have hsound := invariant_stateAt_of (P := fun w : World => Held Ordered w.store) (C := orderly)
    hstart (fun _ _ => held_step) horderly k
  have hstep := horderly k
  rw [stateAt_succ]
  rw [hevent] at hstep ⊢
  exact reconcile_own hsound hstep hown

def boundWorld : World where
  clock := hour
  store :=
    { tierGeneration := 1
      chains := fun _ => some ⟨rotated 0, []⟩
      bindings := (∅ : BindingTable).insert "a"
        { authID := "a", inst := 1, admission := 1, generation := 1, login := 1, token := 1,
          fingerprint := rotated 0, authBlocked := true } }
  host := fun _ => rotated 0

def saveOf (n : Nat) (reply : SaveReply) (took : Bool) : Event :=
  .save 1 (rotated n) ⟨1, 1, 1, 0⟩ .complete reply took

def twoRotations : List Event :=
  [saveOf 1 .ok true, saveOf 2 .failed true, .reconcile 1 false true]

theorem twoRotations_are_not_a_login :
    (CredentialWal.reconcile digits
        (stateAt (step digits) boundWorld (script (.elapse 0) twoRotations) 2).store 1 (rotated 2)
        hour false true).2.observation = some (.ownedRotation 2) ∧
      LoginUntouched (stateAt (step digits) boundWorld (script (.elapse 0) twoRotations) 2).store
        (stateAt (step digits) boundWorld (script (.elapse 0) twoRotations) 3).store := by
  have horderly : ∀ k, orderly
      (stateAt (step digits) boundWorld (script (.elapse 0) twoRotations) k)
      (script (.elapse 0) twoRotations k) :=
    script_meets (fun _ => trivial) (by decide +kernel)
  refine ⟨by decide +kernel, (own_rotation_is_not_a_login digits boundWorld _ ?_ horderly 2 1 false
    true rfl ?_).2⟩
  · intro inst chain hchain
    cases hchain
    rfl
  · exact .inr ⟨rotated 2, by decide +kernel, by decide +kernel⟩

def rejectedThenSaved : List Event :=
  [saveOf 1 .rejected false, saveOf 2 .ok true, .reconcile 1 false true]

theorem rotation_after_rejected_save_is_a_login :
    ¬ ∀ (sha : Nat → Nat → Nat → Nat) (start : World) (events : Nat → Event), start.initial →
      ∀ (k : Nat) (inst : AuthInstanceID) (require committed : Bool),
        events k = .reconcile inst require committed →
        (stateAt (step sha) start events k).own inst →
        (CredentialWal.reconcile sha (stateAt (step sha) start events k).store inst
            ((stateAt (step sha) start events k).host inst)
            (stateAt (step sha) start events k).clock require committed).2.observation ≠
              some .externalLogin ∧
          LoginUntouched (stateAt (step sha) start events k).store
            (stateAt (step sha) start events (k + 1)).store := by
  intro h
  have hinitial : boundWorld.initial := by
    intro inst chain hchain
    cases hchain
    rfl
  have hown : (stateAt (step digits) boundWorld (script (.elapse 0) rejectedThenSaved) 2).own 1 :=
    .inr ⟨rotated 2, by decide +kernel, by decide +kernel⟩
  have hlogin := (h digits boundWorld _ hinitial 2 1 false true rfl hown).2.bindings "a"
  revert hlogin
  decide +kernel

end QuotaScheduler.CredentialOrigin

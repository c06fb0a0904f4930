/- The shape of a stored transition chain (identity.go, credential_wal.go). -/

import QuotaScheduler.CredentialWal

namespace QuotaScheduler.CredentialChain

open Lib.Runs Identity CredentialWal List Option Sublist Prod

inductive Ending
  | refused
  | committed
  | rolledBack
  deriving DecidableEq

/-- What a rollback stores: `before` is copied if the last transition was settled. -/
def rolledBackChain (chain : TransitionChain) (observed : CredentialFingerprint) :
    TransitionChain :=
  { chain with
    transitions := ((settleLast chain.transitions observed).map (·.1)).getD chain.transitions }

def reconcileAt (sha : Nat → Nat → Nat → Nat) (s : CredentialStore) (inst : AuthInstanceID)
    (observed : CredentialFingerprint) (now : Time) (requireUnresolved : Bool) :
    Ending → CredentialStore
  | .refused => s
  | .committed => (reconcile sha s inst observed now requireUnresolved true).1
  | .rolledBack =>
    match s.chains inst with
    | none => s
    | some chain =>
      if (prepareReconcile sha s inst observed now requireUnresolved).isSome then
        s.setChain inst (rolledBackChain chain observed)
      else s

inductive Event
  | save (inst : AuthInstanceID) (next : CredentialFingerprint) (token : ExecutionToken)
      (created now : Time) (cut : SaveCut) (reply : SaveReply)
  | reconcile (inst : AuthInstanceID) (observed : CredentialFingerprint) (now : Time)
      (requireUnresolved : Bool) (ending : Ending)

def step (sha : Nat → Nat → Nat → Nat) (s : CredentialStore) : Event → CredentialStore
  | .save inst next token created now cut reply =>
    (saveVersionedWithHost s inst next token created now cut reply).store
  | .reconcile inst observed now requireUnresolved ending =>
    reconcileAt sha s inst observed now requireUnresolved ending

def advance (current : CredentialFingerprint) (tr : CredentialTransition) :
    CredentialFingerprint :=
  if tr.phase = .applied then tr.next else current

def walk (cursor : CredentialFingerprint) (ts : List CredentialTransition) :
    CredentialFingerprint :=
  ts.foldl advance cursor

def unsettled (tr : CredentialTransition) : Bool :=
  decide (tr.phase = .planned ∨ tr.phase = .outcomeUnknown)

/-- The shape of a stored chain; fingerprints are compared by their composite hash. -/
structure Shaped (c : TransitionChain) : Prop where
  short : c.transitions.length ≤ 11
  increasing : c.transitions.Pairwise (·.saveSeq < ·.saveSeq)
  contiguous : ∀ i tr, c.transitions[i]? = some tr →
    tr.prev.compositeHash = (walk c.cursor (c.transitions.take i)).compositeHash
  unsettledLast : ∀ i tr, c.transitions[i]? = some tr → unsettled tr = true →
    i + 1 = c.transitions.length

/-- Along the chain: each transition starts where the walk is, and only the last may be unsettled.
-/
def Chained (current : CredentialFingerprint) : List CredentialTransition → Prop
  | [] => True
  | tr :: rest =>
    tr.prev.compositeHash = current.compositeHash ∧ (rest ≠ [] → unsettled tr = false) ∧
      Chained (advance current tr) rest

variable {c d observed : CredentialFingerprint} {ts ts' init : List CredentialTransition}
  {t : CredentialTransition} {chain : TransitionChain} {seq n : Nat} {s : CredentialStore}
  {now : Time} {phase : Option TransitionPhase} {inst : AuthInstanceID}
  {o : CredentialObservation} {sha : Nat → Nat → Nat → Nat} {require : Bool}

theorem advance_congr (h : d.compositeHash = c.compositeHash) (tr : CredentialTransition) :
    (advance d tr).compositeHash = (advance c tr).compositeHash := by
  unfold advance
  split
  · rfl
  · exact h

theorem walk_congr (h : d.compositeHash = c.compositeHash) :
    (walk d ts).compositeHash = (walk c ts).compositeHash := by
  induction ts generalizing c d with
  | nil => exact h
  | cons tr rest ih => exact ih (advance_congr h tr)

theorem Chained.of_same (h : Chained c ts) (hcd : d.compositeHash = c.compositeHash) :
    Chained d ts := by
  induction ts generalizing c d with
  | nil => trivial
  | cons tr rest ih => exact ⟨h.1.trans hcd.symm, h.2.1, ih h.2.2 (advance_congr hcd tr)⟩

theorem Chained.getElem? (h : Chained c ts) {i : Nat} {tr : CredentialTransition}
    (hi : ts[i]? = some tr) :
    tr.prev.compositeHash = (walk c (ts.take i)).compositeHash ∧
      (unsettled tr = true → i + 1 = ts.length) := by
  induction ts generalizing c i with
  | nil => cases hi
  | cons u rest ih =>
    obtain ⟨hprev, hsettled, hrest⟩ := h
    cases i with
    | zero =>
      obtain rfl : u = tr := by simpa using hi
      refine ⟨hprev, fun hopen => ?_⟩
      have hlast : rest = [] := by
        by_contra hne
        rw [hsettled hne] at hopen
        cases hopen
      rw [hlast]
      rfl
    | succ i =>
      obtain ⟨hcont, hlast⟩ := ih hrest (by simpa using hi)
      refine ⟨hcont, fun hopen => ?_⟩
      rw [length_cons, hlast hopen]

theorem Chained.saveTail {tail : CredentialFingerprint} (h : Chained c ts)
    (htail : saveTailFrom c ts = some tail) :
    tail = walk c ts ∧ ∀ tr ∈ ts, unsettled tr = false := by
  induction ts generalizing c with
  | nil => exact ⟨(some.inj htail).symm, by simp⟩
  | cons tr rest ih =>
    obtain ⟨hprev, -, hrest⟩ := h
    rw [saveTailFrom, if_neg (not_not_intro hprev)] at htail
    cases hphase : tr.phase with
    | planned | outcomeUnknown => simp [hphase] at htail
    | applied =>
      simp only [hphase] at htail
      rw [advance, if_pos hphase] at hrest
      obtain ⟨hwalk, hsettled⟩ := ih hrest htail
      refine ⟨?_, forall_mem_cons.mpr ⟨by simp [unsettled, hphase], hsettled⟩⟩
      rw [hwalk, walk, walk, foldl_cons, advance, if_pos hphase]
    | aborted =>
      simp only [hphase] at htail
      rw [advance, if_neg (by simp [hphase])] at hrest
      obtain ⟨hwalk, hsettled⟩ := ih hrest htail
      refine ⟨?_, forall_mem_cons.mpr ⟨by simp [unsettled, hphase], hsettled⟩⟩
      rw [hwalk, walk, walk, foldl_cons, advance, if_neg (by simp [hphase])]

theorem Chained.tail (h : Chained c ts) : tailFrom c ts = walk c ts := by
  induction ts generalizing c with
  | nil => rfl
  | cons tr rest ih =>
    obtain ⟨hprev, -, hrest⟩ := h
    rw [tailFrom, if_neg (not_not_intro hprev), walk, foldl_cons]
    unfold advance at hrest ⊢
    split
    · next happlied =>
      rw [if_pos happlied] at hrest
      exact ih hrest
    · next hother =>
      rw [if_neg hother] at hrest
      exact ih hrest

theorem dropStale_suffix (now : Time) (c : CredentialFingerprint) (ts : List CredentialTransition) :
    (dropStale now c ts).transitions <:+ ts := by
  induction ts generalizing c with
  | nil => exact suffix_rfl
  | cons tr rest ih =>
    rw [dropStale]
    split
    · exact (ih tr.next).trans (suffix_cons tr rest)
    · exact suffix_rfl

theorem capped_concat (c : CredentialFingerprint) (ts : List CredentialTransition)
    (t : CredentialTransition) :
    ∃ init, (TransitionChain.capped ⟨c, ts ++ [t]⟩).transitions = init ++ [t] ∧ init <:+ ts := by
  unfold TransitionChain.capped
  split
  case isTrue hlong =>
    refine ⟨ts.drop ((ts ++ [t]).length - chainCapacity), ?_, drop_suffix _ _⟩
    apply drop_append_of_le_length
    simp only [length_append, length_singleton, chainCapacity]
    omega
  case isFalse => exact ⟨ts, rfl, suffix_rfl⟩

theorem appendAt_concat (c : TransitionChain) :
    ∃ init, (c.appendAt t now).transitions = init ++ [t] ∧ init <:+ c.transitions := by
  unfold TransitionChain.appendAt
  generalize (if now.isZero then t.createdAt else now) = at_
  obtain ⟨init, hinit, hsuffix⟩ := capped_concat (dropStale at_ c.cursor c.transitions).cursor
    (dropStale at_ c.cursor c.transitions).transitions t
  exact ⟨init, hinit, hsuffix.trans (dropStale_suffix _ _ _)⟩

theorem Chained.concat (h : Chained c ts) (hsettled : ∀ tr ∈ ts, unsettled tr = false)
    (hprev : t.prev.compositeHash = (walk c ts).compositeHash) : Chained c (ts ++ [t]) := by
  induction ts generalizing c with
  | nil => exact ⟨hprev, fun hne => absurd rfl hne, trivial⟩
  | cons tr rest ih =>
    exact ⟨h.1, fun _ => hsettled tr (mem_cons_self ..),
      ih h.2.2 (fun u hu => hsettled u (mem_cons_of_mem _ hu)) hprev⟩

theorem Chained.dropStale (now : Time) (h : Chained c ts) :
    Chained (dropStale now c ts).cursor (dropStale now c ts).transitions ∧
      walk (dropStale now c ts).cursor (dropStale now c ts).transitions = walk c ts := by
  induction ts generalizing c with
  | nil => exact ⟨trivial, rfl⟩
  | cons tr rest ih =>
    rw [Identity.dropStale]
    split
    · next hold =>
      have hrest := h.2.2
      rw [advance, if_pos hold.2.1] at hrest
      obtain ⟨hchained, hwalk⟩ := ih hrest
      refine ⟨hchained, hwalk.trans ?_⟩
      rw [walk, walk, foldl_cons, advance, if_pos hold.2.1]
    · exact ⟨h, rfl⟩

theorem Chained.drop (h : Chained c ts) (n : Nat) : Chained (walk c (ts.take n)) (ts.drop n) := by
  induction n generalizing c ts with
  | zero => exact h
  | succ n ih =>
    cases ts with
    | nil => trivial
    | cons tr rest => exact ih h.2.2

theorem Chained.capped {c : TransitionChain} (h : Chained c.cursor c.transitions) :
    Chained c.capped.cursor c.capped.transitions ∧
      (walk c.capped.cursor c.capped.transitions).compositeHash =
        (walk c.cursor c.transitions).compositeHash := by
  unfold TransitionChain.capped
  split
  · next hlong =>
    generalize hn : c.transitions.length - chainCapacity = n
    have hdrop := h.drop n
    cases hkept : c.transitions.drop n with
    | nil =>
      have hlen := drop_eq_nil_iff.mp hkept
      simp only [chainCapacity] at hlong hn
      omega
    | cons tr rest =>
      rw [hkept] at hdrop
      have hstart : tr.prev.compositeHash = (walk c.cursor (c.transitions.take n)).compositeHash :=
        hdrop.1
      refine ⟨hdrop.of_same hstart, (walk_congr hstart).trans ?_⟩
      unfold walk
      rw [← hkept, ← foldl_append, take_append_drop]
  · exact ⟨h, rfl⟩

theorem length_capped (c : TransitionChain) : c.capped.transitions.length ≤ 11 := by
  unfold TransitionChain.capped
  split
  · rw [length_drop]
    simp only [chainCapacity]
    omega
  · next hshort =>
    simp only [chainCapacity] at hshort
    omega

theorem Chained.appendAt {c : TransitionChain} {tail : CredentialFingerprint}
    (h : Chained c.cursor c.transitions) (htail : c.saveTail = some tail) (hprev : t.prev = tail)
    (hplanned : t.phase = .planned) (now : Time) :
    Chained (c.appendAt t now).cursor (c.appendAt t now).transitions ∧
      (walk (c.appendAt t now).cursor (c.appendAt t now).transitions).compositeHash =
        (walk c.cursor c.transitions).compositeHash := by
  obtain ⟨rfl, hsettled⟩ := h.saveTail htail
  unfold TransitionChain.appendAt
  generalize (if now.isZero then t.createdAt else now) = at_
  obtain ⟨hchained, hwalk⟩ := h.dropStale at_
  have hstill : ∀ tr ∈ (Identity.dropStale at_ c.cursor c.transitions).transitions,
      unsettled tr = false := fun tr htr => hsettled tr ((dropStale_suffix _ _ _).subset htr)
  have hconcat := hchained.concat hstill (t := t) (by rw [hwalk, hprev])
  obtain ⟨hcapped, hsame⟩ := Chained.capped (c := ⟨(Identity.dropStale at_ c.cursor
    c.transitions).cursor, (Identity.dropStale at_ c.cursor c.transitions).transitions ++ [t]⟩)
    hconcat
  refine ⟨hcapped, hsame.trans ?_⟩
  -- the planned transition is not walked over
  rw [walk, foldl_append, foldl_cons, foldl_nil, advance, if_neg (by simp [hplanned])]
  exact congrArg _ hwalk

theorem settleLast_spec (h : settleLast ts observed = some (ts', phase)) :
    ts' = ts ∨ ∃ init t p, ts = init ++ [t] ∧ ts' = init ++ [{ t with phase := p }] ∧
      (p = .aborted → observed.compositeHash ≠ t.next.compositeHash) := by
  unfold settleLast at h
  split at h
  case h_1 =>
    rw [some.injEq, mk.injEq] at h
    exact .inl h.1.symm
  case h_2 t hlast =>
    have hts : ts = ts.dropLast ++ [t] := (dropLast_append_getLast? t hlast).symm
    split at h
    case isFalse =>
      rw [some.injEq, mk.injEq] at h
      exact .inl h.1.symm
    case isTrue =>
      split at h
      case isTrue =>
        rw [some.injEq, mk.injEq] at h
        exact .inr ⟨_, t, .applied, hts, h.1.symm, by simp⟩
      case isFalse hne =>
        split at h
        · rw [some.injEq, mk.injEq] at h
          exact .inr ⟨_, t, .aborted, hts, h.1.symm, fun _ => hne⟩
        · cases h

theorem ownedRotation_found (h : classifyObservedCredential chain observed now = .ownedRotation n) :
    classifyFrom observed now chain.cursor 0 chain.transitions = some (.ownedRotation n) := by
  unfold classifyObservedCredential at h
  split at h
  · cases h
  · cases hfound : classifyFrom observed now chain.cursor 0 chain.transitions with
    | none =>
      rw [hfound, getD_none] at h
      split at h <;> cases h
    | some o =>
      rw [hfound, getD_some] at h
      rw [h]

theorem Chained.replace_last {init : List CredentialTransition} {u : CredentialTransition}
    (h : Chained c (init ++ [t])) (hprev : u.prev = t.prev) : Chained c (init ++ [u]) := by
  induction init generalizing c with
  | nil => exact ⟨hprev ▸ h.1, fun hne => absurd rfl hne, trivial⟩
  | cons tr rest ih => exact ⟨h.1, fun _ => h.2.1 (by simp), ih h.2.2⟩

theorem Chained.settleLast {ts' : List CredentialTransition} {phase : Option TransitionPhase}
    (h : Chained c ts) (hsettle : settleLast ts observed = some (ts', phase)) : Chained c ts' := by
  rcases settleLast_spec hsettle with rfl | ⟨init, t, p, rfl, rfl, -⟩
  · exact h
  · exact h.replace_last rfl

theorem Chained.after_rotation {now : Time} {passed n : Nat} (h : Chained c ts)
    (hfound : classifyFrom observed now c passed ts = some (.ownedRotation n)) :
    ∃ k, n = passed + k ∧ Chained observed (ts.drop k) := by
  induction ts generalizing c passed with
  | nil => cases hfound
  | cons tr rest ih =>
    rw [classifyFrom] at hfound
    split at hfound
    · cases hfound
    split at hfound
    · split at hfound <;> cases hfound
    split at hfound
    · next hphase =>
      have hrest := h.2.2
      rw [advance, if_pos hphase] at hrest
      split at hfound
      case isTrue hobs =>
        obtain rfl : passed + 1 = n := by simpa using hfound
        exact ⟨1, rfl, hrest.of_same hobs⟩
      case isFalse =>
        obtain ⟨k, rfl, hk⟩ := ih hrest hfound
        exact ⟨k + 1, by omega, hk⟩
    · split at hfound <;> cases hfound
    · split at hfound <;> cases hfound
    · cases hfound

theorem Chained.dropWhile {p : CredentialTransition → Bool}
    (hp : ∀ tr, p tr = true → tr.phase = .aborted) (h : Chained c ts) :
    Chained c (ts.dropWhile p) := by
  induction ts with
  | nil => trivial
  | cons tr rest ih =>
    rw [dropWhile_cons]
    split
    · next hpt =>
      have hrest := h.2.2
      rw [advance, if_neg (by simp [hp tr hpt])] at hrest
      exact ih hrest
    · exact h

theorem Chained.reconcile (observed : CredentialFingerprint) (now : Time)
    (h : Chained chain.cursor chain.transitions) :
    Chained (reconcileCredentialObservation chain observed now).1.cursor
      (reconcileCredentialObservation chain observed now).1.transitions := by
  unfold reconcileCredentialObservation
  split
  · exact h
  · next ts phase hsettle =>
    have hsettled := h.settleLast hsettle
    dsimp only [dropAborted]
    refine .dropWhile (by simp) ?_
    cases hobs : classifyObservedCredential { chain with transitions := ts } observed now with
    | same | metadataOnly | ambiguous => exact hsettled
    | externalLogin => trivial
    | ownedRotation n =>
      obtain ⟨k, rfl, hk⟩ := Chained.after_rotation hsettled (ownedRotation_found hobs)
      rw [Nat.zero_add]
      exact hk

theorem saveSeq_settleLast {ts' : List CredentialTransition} {phase : Option TransitionPhase}
    (h : settleLast ts observed = some (ts', phase)) :
    ts'.map (·.saveSeq) = ts.map (·.saveSeq) := by
  rcases settleLast_spec h with rfl | ⟨init, t, p, rfl, rfl, -⟩
  · rfl
  · simp

theorem saveSeq_reconcile :
    ((reconcileCredentialObservation chain observed now).1.transitions.map (·.saveSeq)).Sublist
      (chain.transitions.map (·.saveSeq)) := by
  unfold reconcileCredentialObservation
  split
  · exact refl _
  · next ts phase hsettle =>
    rw [← saveSeq_settleLast hsettle]
    refine .map _ ((dropWhile_sublist _).trans ?_)
    generalize classifyObservedCredential { chain with transitions := ts } observed now = o
    cases o with
    | same | metadataOnly | ambiguous => exact refl _
    | externalLogin => exact nil_sublist _
    | ownedRotation n => exact drop_sublist _ _

theorem chains_setChain : (s.setChain inst chain).chains inst = some chain := by
  simp [CredentialStore.setChain]

theorem map_recordPhase (phase : TransitionPhase) (hinit : ∀ tr ∈ init, tr.saveSeq < t.saveSeq) :
    (init ++ [t]).map
        (fun tr => if tr.saveSeq = t.saveSeq then { tr with phase := phase } else tr) =
      init ++ [{ t with phase := phase }] := by
  rw [map_append]
  congr 1
  · exact map_congr_left (fun tr htr => if_neg (hinit tr htr).ne) |>.trans (List.map_id _)
  · simp

theorem prepareReconcile_spec {nextChain : TransitionChain} {report : CredentialRecoveryReport}
    (h : prepareReconcile sha s inst observed now require = some (nextChain, report)) :
    ∃ chain, s.chains inst = some chain ∧
      reconcileCredentialObservation chain observed now = (nextChain, report) := by
  unfold prepareReconcile at h
  split at h
  · cases h
  case h_2 chain hchain =>
    split at h
    · cases h
    split at h
    · cases h
    · exact ⟨chain, hchain, some.inj h⟩

theorem commitReconcile_chains :
    (s.commitReconcile inst chain o observed).chains = (s.setChain inst chain).chains ∧
      (s.commitReconcile inst chain o observed).nextSaveSeq = s.nextSaveSeq := by
  refine foldl_relates (R := fun t u : CredentialStore =>
      u.chains = t.chains ∧ u.nextSaveSeq = t.nextSaveSeq) (fun _ => ⟨rfl, rfl⟩)
    (fun _ _ _ hst htu => ⟨htu.1.trans hst.1, htu.2.trans hst.2⟩) (fun t key => ?_)
    s.bindings.keys (s.setChain inst chain)
  unfold reconcileBinding
  split
  · exact ⟨rfl, rfl⟩
  split
  · exact ⟨rfl, rfl⟩
  cases o <;> exact ⟨rfl, rfl⟩

structure Kept (seq : Nat) (c : TransitionChain) : Prop where
  chained : Chained c.cursor c.transitions
  short : c.transitions.length ≤ 11
  increasing : (c.transitions.map (·.saveSeq)).Pairwise (· < ·)
  given : ∀ n ∈ c.transitions.map (·.saveSeq), n ≤ seq

theorem kept_of_nil (h : chain.transitions = []) (seq : Nat) : Kept seq chain where
  chained := by
    rw [h]
    trivial
  short := by simp [h]
  increasing := by simp [h]
  given := by simp [h]

theorem Kept.shaped {c : TransitionChain} (h : Kept seq c) : Shaped c where
  short := h.short
  increasing := pairwise_map.mp h.increasing
  contiguous _ _ hi := (h.chained.getElem? hi).1
  unsettledLast _ _ hi := (h.chained.getElem? hi).2

theorem Kept.of_sublist {c d : TransitionChain} (h : Kept seq c)
    (hchained : Chained d.cursor d.transitions)
    (hsub : (d.transitions.map (·.saveSeq)).Sublist (c.transitions.map (·.saveSeq))) :
    Kept seq d where
  chained := hchained
  short := by
    have hlen := hsub.length_le
    rw [length_map, length_map] at hlen
    exact hlen.trans h.short
  increasing := h.increasing.sublist hsub
  given n hn := h.given n (hsub.subset hn)

theorem Kept.appendAt {c : TransitionChain} {tail : CredentialFingerprint} (h : Kept seq c)
    (htail : c.saveTail = some tail) (hprev : t.prev = tail) (hplanned : t.phase = .planned)
    (hseq : t.saveSeq = seq + 1) (now : Time) : Kept (seq + 1) (c.appendAt t now) := by
  obtain ⟨init, hinit, hsuffix⟩ := appendAt_concat c
  have hsub : (init.map (·.saveSeq)).Sublist (c.transitions.map (·.saveSeq)) :=
    hsuffix.sublist.map _
  have hgiven : ∀ n ∈ init.map (·.saveSeq), n ≤ seq := fun n hn => h.given n (hsub.subset hn)
  refine ⟨(h.chained.appendAt htail hprev hplanned now).1, length_capped _, ?_, ?_⟩
  · rw [hinit, map_append, pairwise_append]
    refine ⟨h.increasing.sublist hsub, pairwise_singleton _ _, fun n hn m hm => ?_⟩
    obtain rfl : m = t.saveSeq := by simpa using hm
    rw [hseq]
    exact Nat.lt_succ_of_le (hgiven n hn)
  · rw [hinit, map_append]
    intro n hn
    rcases mem_append.mp hn with hold | hnew
    · exact (hgiven n hold).trans (Nat.le_succ seq)
    · obtain rfl : n = t.saveSeq := by simpa using hnew
      exact hseq.le

def Held (P : Nat → TransitionChain → Prop) (s : CredentialStore) : Prop :=
  ∀ inst chain, s.chains inst = some chain → P s.nextSaveSeq chain

structure Stable (P : Nat → TransitionChain → Prop) : Prop where
  kept : ∀ {n c}, P n c → Kept n c
  mono : ∀ {n m c}, P n c → n ≤ m → P m c
  settle : ∀ {n c init t} (phase : TransitionPhase), P n ⟨c, init ++ [t]⟩ →
    P n ⟨c, init ++ [{ t with phase := phase }]⟩
  reconcile : ∀ {n c} (observed : CredentialFingerprint) (now : Time), P n c →
    P n (reconcileCredentialObservation c observed now).1

theorem stable_kept : Stable Kept where
  kept h := h
  mono h hle := { h with given := fun n hn => (h.given n hn).trans hle }
  settle phase h := h.of_sublist (h.chained.replace_last rfl) (by simp)
  reconcile observed now h :=
    h.of_sublist (h.chained.reconcile observed now) saveSeq_reconcile

variable {P : Nat → TransitionChain → Prop}

theorem Held.setChain (hP : Stable P) (h : Held P s) (inst : AuthInstanceID)
    (hseq : s.nextSaveSeq ≤ seq) (hchain : P seq chain) :
    Held P { s.setChain inst chain with nextSaveSeq := seq } := by
  intro i c hc
  by_cases hi : i = inst
  · subst hi
    obtain rfl : chain = c := by simpa [CredentialStore.setChain] using hc
    exact hchain
  · have hc : s.chains i = some c := by simpa [CredentialStore.setChain, hi] using hc
    exact hP.mono (h i c hc) hseq

theorem Held.recordPhase (hP : Stable P) (h : Held P s) {cursor : CredentialFingerprint}
    {init : List CredentialTransition} (hchain : s.chains inst = some ⟨cursor, init ++ [t]⟩)
    (hinit : ∀ tr ∈ init, tr.saveSeq < t.saveSeq) (phase : TransitionPhase) :
    Held P (s.recordPhase inst t.saveSeq phase) := by
  unfold CredentialStore.recordPhase
  dsimp only
  rw [hchain, getD_some]
  rw [map_recordPhase phase hinit]
  exact h.setChain hP inst (Nat.le_refl s.nextSaveSeq) (hP.settle phase (h inst _ hchain))

theorem Held.save (hP : Stable P) (h : Held P s) (next : CredentialFingerprint)
    (token : ExecutionToken) (created now : Time) (cut : SaveCut) (reply : SaveReply)
    (happend : ∀ chain t, s.chains inst = some chain → chain.saveTail = some t.prev →
      t.phase = .planned → t.saveSeq = s.nextSaveSeq + 1 →
        P (s.nextSaveSeq + 1) (chain.appendAt t now)) :
    Held P (saveVersionedWithHost s inst next token created now cut reply).store := by
  unfold saveVersionedWithHost
  split
  · exact h
  split
  · exact h
  next chain hchain =>
  split
  · exact h
  · next tail htail =>
    generalize ht : (⟨tail, next, s.nextSaveSeq + 1, .planned, created⟩ : CredentialTransition) = t
    have hseq : t.saveSeq = s.nextSaveSeq + 1 := by rw [← ht]
    have hplan : s.plan inst tail next created now =
        { s.setChain inst (chain.appendAt t now) with nextSaveSeq := s.nextSaveSeq + 1 } := by
      rw [CredentialStore.plan, hchain, ht]
      rfl
    have hplanned : Held P (s.plan inst tail next created now) := by
      rw [hplan]
      exact h.setChain hP inst (Nat.le_succ _)
        (happend chain t hchain (by rw [htail, ← ht]) (by rw [← ht]) hseq)
    cases cut with
    | beforePlanned => exact h
    | afterPlanned | beforeTerminal => exact hplanned
    | complete =>
      obtain ⟨init, hinit, hsuffix⟩ := appendAt_concat chain
      have hlast : (s.plan inst tail next created now).chains inst =
          some ⟨(chain.appendAt t now).cursor, init ++ [t]⟩ := by
        rw [hplan, ← hinit]
        exact chains_setChain
      have hbelow : ∀ tr ∈ init, tr.saveSeq < t.saveSeq := fun tr htr => by
        rw [hseq]
        exact Nat.lt_succ_of_le ((hP.kept (h inst chain hchain)).given _
          (List.mem_map_of_mem (hsuffix.subset htr)))
      have hnumber : (s.plan inst tail next created now).nextSaveSeq = t.saveSeq := by
        rw [hplan, hseq]
      dsimp only
      rw [hnumber]
      exact hplanned.recordPhase hP hlast hbelow reply.phase

theorem Held.reconcile (hP : Stable P) (h : Held P s) (sha : Nat → Nat → Nat → Nat)
    (inst : AuthInstanceID) (observed : CredentialFingerprint) (now : Time)
    (requireUnresolved committed : Bool) :
    Held P (CredentialWal.reconcile sha s inst observed now requireUnresolved committed).1 := by
  unfold CredentialWal.reconcile
  split
  · exact h
  · next nextChain report hprep =>
    obtain ⟨chain, hchain, hrec⟩ := prepareReconcile_spec hprep
    obtain rfl : _ = nextChain := congrArg fst hrec
    split
    · exact h
    split
    · have hnext := h.setChain hP inst (Nat.le_refl s.nextSaveSeq)
        (hP.reconcile observed now (h inst chain hchain))
      intro i c hc
      rw [commitReconcile_chains.1] at hc
      rw [commitReconcile_chains.2]
      exact hnext i c hc
    · exact h

theorem Kept.rolledBackChain {c : TransitionChain} (h : Kept seq c)
    (observed : CredentialFingerprint) : Kept seq (rolledBackChain c observed) := by
  unfold CredentialChain.rolledBackChain
  cases hsettle : settleLast c.transitions observed with
  | none => exact h.of_sublist h.chained (refl _)
  | some settled =>
    refine h.of_sublist (h.chained.settleLast hsettle) ?_
    rw [← saveSeq_settleLast hsettle]
    exact refl _

theorem Held.step (sha : Nat → Nat → Nat → Nat) (h : Held Kept s) (e : Event) :
    Held Kept (step sha s e) := by
  cases e with
  | save inst next token created now cut reply =>
    refine h.save stable_kept next token created now cut reply fun chain t hchain htail hplanned
      hseq => ?_
    exact (h inst chain hchain).appendAt htail rfl hplanned hseq now
  | reconcile inst observed now requireUnresolved ending =>
    cases ending with
    | refused => exact h
    | committed => exact h.reconcile stable_kept sha inst observed now requireUnresolved true
    | rolledBack =>
      simp only [CredentialChain.step, reconcileAt]
      split
      · exact h
      · next chain hchain =>
        split
        · exact h.setChain stable_kept inst (Nat.le_refl s.nextSaveSeq)
            ((h inst chain hchain).rolledBackChain _)
        · exact h

/-- A chain that started as a cursor keeps its shape, and a plan from its tail leaves it. -/
theorem stored_chain_shaped (sha : Nat → Nat → Nat → Nat) (start : CredentialStore)
    (events : Nat → Event)
    (hstart : ∀ inst chain, start.chains inst = some chain → chain.transitions = []) (k : Nat)
    (inst : AuthInstanceID) (chain : TransitionChain)
    (hchain : (stateAt (step sha) start events k).chains inst = some chain) :
    Shaped chain ∧ ∀ (t : CredentialTransition) (now : Time) (tail : CredentialFingerprint),
      chain.saveTail = some tail → t.prev = tail → t.phase = .planned →
        (chain.appendAt t now).tail.compositeHash = chain.tail.compositeHash := by
  have hempty : Held Kept start := by
    intro i c hc
    exact kept_of_nil (hstart i c hc) _
  have hkept := invariant_stateAt hempty (fun _ e h => h.step sha e) k inst chain hchain
  refine ⟨hkept.shaped, fun t now tail htail hprev hplanned => ?_⟩
  obtain ⟨hchained, hwalk⟩ := hkept.chained.appendAt htail hprev hplanned now
  have hafter : (chain.appendAt t now).tail = _ := hchained.tail
  have hbefore : chain.tail = _ := hkept.chained.tail
  rw [hafter, hbefore, hwalk]

def digits (s r m : Nat) : Nat := s * 10000 + r * 100 + m

def rotated (n : Nat) : CredentialFingerprint := ⟨1, n + 1, 1, digits 1 (n + 1) 1⟩

private def bare : CredentialStore where
  chains inst := if inst = 7 then some ⟨rotated 0, []⟩ else none

private def saved (n : Nat) (reply : SaveReply) : Event :=
  .save 7 (rotated n) ⟨7, 1, 1, 0⟩ (n * hour) (n * hour) .complete reply

/-- Twelve saves, one of them rejected, and one that stays open until it is reconciled. -/
private def thirteenSaves : List Event :=
  [saved 1 .ok, saved 2 .rejected, saved 3 .ok, saved 4 .ok, saved 5 .ok, saved 6 .ok, saved 7 .ok,
    saved 8 .ok, saved 9 .ok, saved 10 .ok, saved 11 .ok, saved 12 .ok, saved 13 .failed,
    .reconcile 7 (rotated 13) (14 * hour) false .rolledBack]

private def longChain : TransitionChain :=
  ((thirteenSaves.foldl (step digits) bare).chains 7).get (by decide +kernel)

theorem thirteenSaves_shaped :
    longChain.transitions.length = 11 ∧ Shaped longChain ∧
      (longChain.appendAt ⟨rotated 13, rotated 14, 14, .planned, 40 * hour⟩
        (40 * hour)).tail.compositeHash = longChain.tail.compositeHash := by
  have hstored : (stateAt (step digits) bare
      (script (.reconcile 7 (rotated 0) 0 false .refused) thirteenSaves)
      thirteenSaves.length).chains 7 = some longChain := by
    rw [stateAt_script]
    exact (some_get _).symm
  have hempty : ∀ inst chain, bare.chains inst = some chain → chain.transitions = [] := by
    intro inst chain hchain
    simp only [bare] at hchain
    split at hchain
    · cases hchain
      rfl
    · cases hchain
  obtain ⟨hshaped, htail⟩ := stored_chain_shaped digits bare _ hempty _ 7 longChain hstored
  exact ⟨by decide +kernel, hshaped, htail _ _ (rotated 13) (by decide +kernel) rfl rfl⟩

end QuotaScheduler.CredentialChain

/- The stored epochs under interleaved roster passes, blocks and reconciliations. -/

import QuotaScheduler.BindingRegistry

namespace QuotaScheduler.BindingEpochs

open Roster (HostRosterSnapshot)
open Identity CredentialWal BindingRegistry Lib.Runs Lib.Tables Option AList

/-- The store, the table, the roster pass under way, and the table that is stored but not published.
-/
structure World where
  store : CredentialStore := {}
  cache : BindingTable := ∅
  pass : Option (HostRosterSnapshot × CredentialStore) := none
  unpublished : Option BindingTable := none

inductive Event
  | beginPass (roster : HostRosterSnapshot)
  | commitPass (getAuth : AuthInstanceID → Option HostAuth) (stored : Bool)
  | markBlocked (authID : String) (stored : Bool)
  | commitReconcile (inst : AuthInstanceID) (nextChain : TransitionChain)
      (observation : CredentialObservation) (observed : CredentialFingerprint)
  | publish

/-- The observations after which the reconciliation publishes its table. -/
def publishes : CredentialObservation → Bool
  | .ownedRotation _ | .externalLogin => true
  | .same | .metadataOnly | .ambiguous => false

/-- One atomic step; a step that has to wait for a lock does nothing. -/
def step (hash : String → UInt64) (w : World) : Event → World
  | .beginPass roster =>
    if w.pass.isSome then w else { w with pass := some (roster, w.store) }
  | .commitPass getAuth stored =>
    match w.pass with
    | none => w
    | some (roster, snapshot) =>
      match reconcileRosterTiers hash w.cache snapshot w.store roster getAuth with
      | none => { w with pass := none }
      | some (s, result) =>
        if stored then { w with store := s, cache := result.bindings, pass := none }
        else { w with pass := none }
  | .markBlocked authID stored =>
    if w.pass.isSome || !stored then w
    else
      let s := markAuthBlocked w.cache w.store authID
      { w with store := s, cache := s.bindings }
  | .commitReconcile inst nextChain observation observed =>
    if w.unpublished.isSome then w
    else
      let s := w.store.commitReconcile inst nextChain observation observed
      { w with store := s, unpublished := if publishes observation then some s.bindings else none }
  | .publish =>
    match w.unpublished with
    | none => w
    | some bindings =>
      if w.pass.isSome then w else { w with cache := bindings, unpublished := none }

structure EpochsLe (b c : RuntimeBinding) : Prop where
  login : b.login ≤ c.login
  admission : b.admission ≤ c.admission
  token : b.token ≤ c.token

theorem EpochsLe.refl (b : RuntimeBinding) : EpochsLe b b :=
  ⟨le_rfl, le_rfl, le_rfl⟩

theorem EpochsLe.trans {b c d : RuntimeBinding} (hbc : EpochsLe b c) (hcd : EpochsLe c d) :
    EpochsLe b d :=
  ⟨hbc.1.trans hcd.1, hbc.2.trans hcd.2, hbc.3.trans hcd.3⟩

structure NoneFalls (s t : CredentialStore) : Prop where
  tierGeneration : s.tierGeneration ≤ t.tierGeneration
  bindings : ∀ id b c, s.bindings.lookup id = some b → t.bindings.lookup id = some c →
    c.inst = b.inst → EpochsLe b c

theorem NoneFalls.refl (s : CredentialStore) : NoneFalls s s := by
  refine ⟨le_rfl, fun id b c hb hc _ => ?_⟩
  obtain rfl : b = c := some.inj (hb.symm.trans hc)
  exact .refl b

/-- Every binding stays, for its instance and with no lower epochs. -/
structure Raised (s t : CredentialStore) : Prop where
  tierGeneration : s.tierGeneration ≤ t.tierGeneration
  bindings : ∀ id b, s.bindings.lookup id = some b →
    ∃ c, t.bindings.lookup id = some c ∧ c.inst = b.inst ∧ EpochsLe b c

theorem Raised.refl (s : CredentialStore) : Raised s s :=
  ⟨le_rfl, fun _ b hb => ⟨b, hb, rfl, .refl b⟩⟩

theorem Raised.trans {s t u : CredentialStore} (hst : Raised s t) (htu : Raised t u) :
    Raised s u := by
  refine ⟨hst.1.trans htu.1, fun id b hb => ?_⟩
  obtain ⟨c, hc, hinst, hle⟩ := hst.bindings id b hb
  obtain ⟨d, hd, hinst', hle'⟩ := htu.bindings id c hc
  exact ⟨d, hd, hinst'.trans hinst, hle.trans hle'⟩

theorem Raised.noneFalls {s t : CredentialStore} (h : Raised s t) : NoneFalls s t := by
  refine ⟨h.1, fun id b c hb hc _ => ?_⟩
  obtain ⟨d, hd, -, hle⟩ := h.bindings id b hb
  obtain rfl : d = c := some.inj (hd.symm.trans hc)
  exact hle

theorem raised_reconcileBinding (inst : AuthInstanceID) (o : CredentialObservation)
    (observed : CredentialFingerprint) (s : CredentialStore) (authID : String) :
    Raised s (reconcileBinding inst o observed s authID) := by
  unfold reconcileBinding
  split
  · exact .refl s
  case h_2 b hb =>
    split
    · exact .refl s
    cases o with
    | same | metadataOnly | ambiguous => exact .refl s
    | ownedRotation n =>
      refine ⟨le_rfl, fun id c hc => ?_⟩
      by_cases hid : id = authID
      · subst hid
        obtain rfl : b = c := some.inj (hb.symm.trans hc)
        exact ⟨_, lookup_insert _, rfl, le_rfl, le_rfl, Nat.le_succ _⟩
      · exact ⟨c, (lookup_insert_ne hid).trans hc, rfl, .refl c⟩
    | externalLogin =>
      refine ⟨Nat.le_succ _, fun id c hc => ?_⟩
      by_cases hid : id = authID
      · subst hid
        obtain rfl : b = c := some.inj (hb.symm.trans hc)
        exact ⟨_, lookup_insert _, rfl, Nat.le_succ _, Nat.le_succ _, le_rfl⟩
      · refine ⟨{ c with generation := s.tierGeneration + 1 }, ?_, rfl,
          le_rfl, le_rfl, le_rfl⟩
        rw [lookup_insert_ne hid, lookup_mapValues, hc, map_some]

variable {s : CredentialStore} {inst : AuthInstanceID} {chain : TransitionChain}
  {observed : CredentialFingerprint}

theorem raised_commitReconcile (o : CredentialObservation) :
    Raised s (s.commitReconcile inst chain o observed) := by
  have hset : Raised s (s.setChain inst chain) :=
    ⟨le_rfl, fun _ b hb => ⟨b, hb, rfl, .refl b⟩⟩
  exact hset.trans (foldl_relates .refl (fun _ _ _ => .trans)
    (raised_reconcileBinding inst o observed) s.bindings.keys (s.setChain inst chain))

theorem noneFalls_markAuthBlocked (authID : String) :
    NoneFalls s (markAuthBlocked s.bindings s authID) := by
  refine ⟨le_rfl, fun id b c hb hc _ => ?_⟩
  unfold markAuthBlocked at hc
  by_cases hid : id = authID
  · subst hid
    rw [lookup_insert, hb, getD_some, some.injEq] at hc
    subst hc
    exact ⟨le_rfl, le_rfl, le_rfl⟩
  · rw [lookup_insert_ne hid, hb, some.injEq] at hc
    subst hc
    exact .refl b

theorem noneFalls_reconcileRosterTiers {hash : String → UInt64} {s s' : CredentialStore}
    {roster : HostRosterSnapshot} {getAuth : AuthInstanceID → Option HostAuth}
    {result : RosterReconcileResult}
    (h : reconcileRosterTiers hash s.bindings s s roster getAuth = some (s', result)) :
    NoneFalls s s' := by
  obtain ⟨-, htier, -, hissued⟩ := reconcileRosterTiers_spec h
  refine ⟨htier, fun id b c hb hc hinst => ?_⟩
  cases hissued id c hc with
  | kept existing held hi hadm hindex hlogin htoken =>
    obtain rfl : b = existing := some.inj (hb.symm.trans held)
    exact ⟨hlogin.ge, hadm.ge, htoken.ge⟩
  | moved existing held hi hadm hepoch hlogin htoken =>
    obtain rfl : b = existing := some.inj (hb.symm.trans held)
    exact ⟨hlogin.ge, hadm.le, htoken.ge⟩
  | fresh unheld hne => exact absurd (hinst.trans (unheld b hb)) hne

/-- No pass or block while a reconciliation is unpublished, and none during a pass. -/
def takesTurns (w : World) : Event → Bool
  | .beginPass _ => w.unpublished.isNone
  | .markBlocked _ _ => w.unpublished.isNone
  | .commitReconcile _ _ _ _ => w.pass.isNone
  | .commitPass _ _ => true
  | .publish => true

/-- The registry's table is the stored one, up to what is about to be published. -/
structure Synced (w : World) : Prop where
  apart : w.pass = none ∨ w.unpublished = none
  cache : w.unpublished = none → w.cache = w.store.bindings
  unpublished : ∀ bindings, w.unpublished = some bindings → bindings = w.store.bindings
  pass : ∀ roster snapshot, w.pass = some (roster, snapshot) → snapshot = w.store

theorem publishes_eq_false {o : CredentialObservation} (h : publishes o = false) :
    (s.commitReconcile inst chain o observed).bindings = s.bindings := by
  have hturn : ∀ t key, (reconcileBinding inst o observed t key).bindings = t.bindings := by
    intro t key
    unfold reconcileBinding
    split
    · rfl
    split
    · rfl
    cases o with
    | same | metadataOnly | ambiguous => rfl
    | ownedRotation n | externalLogin => cases h
  exact foldl_relates (R := fun t u : CredentialStore => u.bindings = t.bindings) (fun _ => rfl)
    (fun _ _ _ hst htu => htu.trans hst) hturn s.bindings.keys (s.setChain inst chain)

theorem Synced.step {hash : String → UInt64} {w : World} (h : Synced w) {e : Event}
    (hturn : takesTurns w e = true) :
    Synced (BindingEpochs.step hash w e) ∧
      NoneFalls w.store (BindingEpochs.step hash w e).store := by
  cases e with
  | beginPass roster =>
    have hun : w.unpublished = none := isNone_iff_eq_none.mp hturn
    unfold BindingEpochs.step
    dsimp only
    split
    · exact ⟨h, .refl _⟩
    · refine ⟨⟨.inr hun, h.cache, h.unpublished, ?_⟩, .refl _⟩
      intro roster' snapshot hpass
      cases hpass
      rfl
  | commitPass getAuth stored =>
    unfold BindingEpochs.step
    dsimp only
    split
    · exact ⟨h, .refl _⟩
    case h_2 roster snapshot hpass =>
      have hun : w.unpublished = none := h.apart.resolve_left (by simp [hpass])
      obtain rfl := h.pass roster snapshot hpass
      have hreleased : Synced { w with pass := none } :=
        ⟨.inl rfl, h.cache, h.unpublished, by simp⟩
      split
      · exact ⟨hreleased, .refl _⟩
      case h_2 s result hrec =>
        rw [h.cache hun] at hrec
        split
        · have hmirror := (reconcileRosterTiers_spec hrec).1.symm
          exact ⟨⟨.inl rfl, fun _ => hmirror, by simp [hun], by simp⟩,
            noneFalls_reconcileRosterTiers hrec⟩
        · exact ⟨hreleased, .refl _⟩
  | markBlocked authID stored =>
    have hun : w.unpublished = none := isNone_iff_eq_none.mp hturn
    unfold BindingEpochs.step
    dsimp only
    split
    · exact ⟨h, .refl _⟩
    case isFalse hfree =>
      obtain ⟨hpass, -⟩ : w.pass = none ∧ stored = true := by simpa using hfree
      rw [h.cache hun]
      exact ⟨⟨.inl hpass, fun _ => rfl, by simp [hun], by simp [hpass]⟩,
        noneFalls_markAuthBlocked authID⟩
  | commitReconcile inst chain o observed =>
    have hpass : w.pass = none := isNone_iff_eq_none.mp hturn
    unfold BindingEpochs.step
    dsimp only
    split
    · exact ⟨h, .refl _⟩
    case isFalse hfree =>
      have hun : w.unpublished = none := by simpa using hfree
      refine ⟨⟨.inl hpass, ?_, ?_, by simp [hpass]⟩, (raised_commitReconcile o).noneFalls⟩
      · intro hquiet
        have ho : publishes o = false := by
          cases hpub : publishes o with
          | false => rfl
          | true => simp [hpub] at hquiet
        exact (h.cache hun).trans (publishes_eq_false ho).symm
      · intro bindings hb
        split at hb
        · exact (some.inj hb).symm
        · cases hb
  | publish =>
    unfold BindingEpochs.step
    dsimp only
    split
    · exact ⟨h, .refl _⟩
    case h_2 bindings hun =>
      split
      · exact ⟨h, .refl _⟩
      · exact ⟨⟨.inr rfl, fun _ => h.unpublished bindings hun, by simp, h.pass⟩, .refl _⟩

def StaysBound (hash : String → UInt64) (start : World) (events : Nat → Event) (id : String)
    (inst : AuthInstanceID) (i k : Nat) : Prop :=
  ∀ m, i ≤ m → m ≤ k →
    ∃ b, (stateAt (step hash) start events m).store.bindings.lookup id = some b ∧ b.inst = inst

/-- If the two take turns, the generation and the epochs of a bound ID never fall. -/
theorem epochs_never_fall (hash : String → UInt64) (start : World) (events : Nat → Event)
    (hstart : Synced start)
    (hturns : ∀ k, takesTurns (stateAt (step hash) start events k) (events k) = true) (i k : Nat)
    (hik : i ≤ k) :
    (stateAt (step hash) start events i).store.tierGeneration ≤
        (stateAt (step hash) start events k).store.tierGeneration ∧
      ∀ id inst, StaysBound hash start events id inst i k → ∀ b c,
        (stateAt (step hash) start events i).store.bindings.lookup id = some b →
        (stateAt (step hash) start events k).store.bindings.lookup id = some c → EpochsLe b c := by
  have hsynced : ∀ m, Synced (stateAt (step hash) start events m) :=
    invariant_stateAt_of (C := fun w e => takesTurns w e = true) hstart
      (fun _ _ h hturn => (h.step hturn).1) hturns
  have hfall : ∀ m, NoneFalls (stateAt (step hash) start events m).store
      (stateAt (step hash) start events (m + 1)).store :=
    fun m => ((hsynced m).step (hturns m)).2
  induction k, hik using Nat.le_induction with
  | base =>
    refine ⟨le_rfl, fun id inst _ b c hb hc => ?_⟩
    obtain rfl : b = c := some.inj (hb.symm.trans hc)
    exact .refl b
  | succ k hik ih =>
    refine ⟨ih.1.trans (hfall k).tierGeneration, fun id inst hbound b c hb hc => ?_⟩
    obtain ⟨d, hd, hdinst⟩ := hbound k hik (Nat.le_succ k)
    obtain ⟨c', hc', hcinst⟩ := hbound (k + 1) (hik.trans (Nat.le_succ k)) le_rfl
    obtain rfl : c' = c := some.inj (hc'.symm.trans hc)
    have hbd := ih.2 id inst (fun m him hmk => hbound m him (hmk.trans (Nat.le_succ k))) b d hb hd
    exact hbd.trans ((hfall k).bindings id d c' hd hc' (hcinst.trans hdinst.symm))

def boundStore : CredentialStore where
  tierGeneration := 1
  bindings := (∅ : BindingTable).insert "a"
    { authID := "a", authIndex := "0", inst := 1, admission := 1, generation := 1, login := 1,
      token := 1, fingerprint := ⟨1, 2, 3, 4⟩ }

def boundStart : World := { store := boundStore, cache := boundStore.bindings }

theorem boundStart_synced : Synced boundStart :=
  ⟨.inl rfl, fun _ => rfl, by simp [boundStart], by simp [boundStart]⟩

def soleHash (_ : String) : UInt64 := 1

def beginSole : Event :=
  .beginPass { capability := .capabilityA, entries := [⟨"a", "0", "codex", some 0⟩] }

def loginSeen : Event :=
  .commitReconcile 1 ⟨⟨5, 6, 7, 8⟩, []⟩ .externalLogin ⟨5, 6, 7, 8⟩

def loginThenPass : List Event :=
  [loginSeen, .publish, beginSole, .commitPass (fun _ => none) true]

theorem loginThenPass_keeps_epochs :
    (stateAt (step soleHash) boundStart (script .publish loginThenPass) 1).store.tierGeneration
      = 2 ∧
      2 ≤ (stateAt (step soleHash) boundStart (script .publish loginThenPass)
        4).store.tierGeneration := by
  have hturns : ∀ k, takesTurns
      (stateAt (step soleHash) boundStart (script .publish loginThenPass) k)
      (script .publish loginThenPass k) = true :=
    script_meets (C := fun w e => takesTurns w e = true) (fun _ => rfl) (by decide +kernel)
  have hfirst : (stateAt (step soleHash) boundStart (script .publish loginThenPass)
      1).store.tierGeneration = 2 := by decide +kernel
  have hle := (epochs_never_fall soleHash boundStart _ boundStart_synced hturns 1 4 (by decide)).1
  exact ⟨hfirst, hle⟩

def loginDuringPass : List Event := [beginSole, loginSeen, .commitPass (fun _ => none) true]

theorem login_during_pass_is_lost :
    ¬ ∀ (hash : String → UInt64) (start : World) (events : Nat → Event), Synced start →
      ∀ i k, i ≤ k →
        (stateAt (step hash) start events i).store.tierGeneration ≤
            (stateAt (step hash) start events k).store.tierGeneration ∧
          ∀ id inst, StaysBound hash start events id inst i k → ∀ b c,
            (stateAt (step hash) start events i).store.bindings.lookup id = some b →
            (stateAt (step hash) start events k).store.bindings.lookup id = some c →
              EpochsLe b c := by
  intro h
  have hle := (h soleHash boundStart (script .publish loginDuringPass) boundStart_synced 2 3
    (by decide)).1
  revert hle
  decide +kernel

end QuotaScheduler.BindingEpochs

/- Write-backs of a retired incarnation of a binding stay refused. -/

import QuotaScheduler.BindingRegistry

namespace QuotaScheduler.BindingFence

open Roster (HostRosterSnapshot)
open Identity CredentialWal BindingRegistry Lib.Runs

structure World where
  store : CredentialStore := {}
  cache : BindingTable := ∅

inductive Event
  | pass (roster : HostRosterSnapshot) (getAuth : AuthInstanceID → Option HostAuth)
  | restart

/-- A roster pass, which an error leaves without effect, or `NewBindingRegistry`. -/
def step (hash : String → UInt64) (w : World) : Event → World
  | .pass roster getAuth =>
    match reconcileRosterTiers hash w.cache w.store w.store roster getAuth with
    | none => w
    | some (s, result) => ⟨s, result.bindings⟩
  | .restart => { w with cache := w.store.bindings }

def World.epoch (w : World) (inst : AuthInstanceID) : Nat :=
  (raiseEpochs w.store).admissionEpochs inst

def World.mirrored (w : World) : Prop := w.cache = w.store.bindings

variable {w : World} {id : String} {b : RuntimeBinding}

theorem step_spec (hash : String → UInt64) (hw : w.mirrored) (e : Event) :
    (step hash w e).mirrored ∧ (∀ inst, w.epoch inst ≤ (step hash w e).epoch inst) ∧
      ((step hash w e).cache = w.cache ∨
        ∀ id b, (step hash w e).cache.lookup id = some b → Issued w.cache w.epoch id b) := by
  cases e with
  | restart => exact ⟨rfl, fun _ => le_rfl, .inl hw.symm⟩
  | pass roster getAuth =>
    unfold step
    dsimp only
    split
    · exact ⟨hw, fun _ => le_rfl, .inl rfl⟩
    case h_2 s result hpass =>
      obtain ⟨hbind, -, hepoch, hissued⟩ := reconcileRosterTiers_spec hpass
      rw [hbind] at hissued
      exact ⟨hbind.symm,
        fun inst => (hepoch inst).trans (le_foldl_raiseBinding _ s inst).1, .inr hissued⟩

def Follows (w : World) (id : String) (b : RuntimeBinding) : Prop :=
  b.admission ≤ w.epoch b.inst ∧ ∀ c, w.cache.lookup id = some c → c.inst = b.inst →
    b.admission < c.admission ∨ b.admission = c.admission ∧ b.authIndex = c.authIndex

def Retired (w : World) (id : String) (b : RuntimeBinding) : Prop :=
  b.admission ≤ w.epoch b.inst ∧
    ∀ c, w.cache.lookup id = some c → c.inst = b.inst → b.admission < c.admission

theorem Follows.of_held (hw : w.mirrored) (hb : w.cache.lookup id = some b) : Follows w id b := by
  refine ⟨admission_le_raiseEpochs (hw ▸ hb), fun c hc _ => .inr ?_⟩
  obtain rfl : b = c := Option.some.inj (hb.symm.trans hc)
  exact ⟨rfl, rfl⟩

theorem Follows.step {hash : String → UInt64} (hw : w.mirrored) (h : Follows w id b) (e : Event) :
    Follows (BindingFence.step hash w e) id b := by
  obtain ⟨-, hepoch, hcache⟩ := step_spec hash hw e
  refine ⟨h.1.trans (hepoch _), fun c hc hinst => ?_⟩
  rcases hcache with hsame | hissued
  · exact h.2 c (hsame ▸ hc) hinst
  · cases hissued id c hc with
    | kept existing held hi hadm hindex =>
      rw [hadm, hindex]
      exact h.2 existing held (hi ▸ hinst)
    | moved existing held hi hadm hepoch' =>
      exact .inl (h.1.trans_lt (hinst ▸ hepoch'))
    | fresh unheld hne hepoch' => exact .inl (h.1.trans_lt (hinst ▸ hepoch'))

theorem Retired.step {hash : String → UInt64} (hw : w.mirrored) (h : Retired w id b) (e : Event) :
    Retired (BindingFence.step hash w e) id b := by
  obtain ⟨-, hepoch, hcache⟩ := step_spec hash hw e
  refine ⟨h.1.trans (hepoch _), fun c hc hinst => ?_⟩
  rcases hcache with hsame | hissued
  · exact h.2 c (hsame ▸ hc) hinst
  · cases hissued id c hc with
    | kept existing held hi hadm =>
      rw [hadm]
      exact h.2 existing held (hi ▸ hinst)
    | moved existing held hi hadm hepoch' | fresh unheld hne hepoch' =>
      exact h.1.trans_lt (hinst ▸ hepoch')

theorem Follows.retired (h : Follows w id b)
    (hgone : ∀ c, w.cache.lookup id = some c → c.authIndex ≠ b.authIndex) : Retired w id b := by
  refine ⟨h.1, fun c hc hinst => ?_⟩
  rcases h.2 c hc hinst with hlt | ⟨-, hindex⟩
  · exact hlt
  · exact absurd hindex.symm (hgone c hc)

theorem Retired.refused (h : Retired w id b) (fence : Nat) :
    applyIfCurrent w.cache id (writebackOf b fence) = false := by
  unfold applyIfCurrent
  split
  · rfl
  case h_2 c hc =>
    -- the instance is another one, or the admission is
    by_cases hinst : c.inst = b.inst
    · have hne : b.admission ≠ c.admission := (h.2 c hc hinst).ne
      simp [validateWriteback, ExecutionToken.validFor, writebackOf, RuntimeBinding.executionToken,
        hne]
    · have hne : b.inst ≠ c.inst := fun heq => hinst heq.symm
      simp [validateWriteback, ExecutionToken.validFor, writebackOf, RuntimeBinding.executionToken,
        hne]

/-- A write-back from before an ID was removed, or its auth index changed, is refused. -/
theorem stale_incarnation_is_refused (hash : String → UInt64) (start : World)
    (events : Nat → Event) (hstart : start.mirrored) (id : String) (b : RuntimeBinding)
    (fence i j k : Nat) (hij : i ≤ j) (hjk : j ≤ k)
    (hheld : (stateAt (step hash) start events i).cache.lookup id = some b)
    (hgone : ((stateAt (step hash) start events j).cache.lookup id).map (·.authIndex) ≠
      some b.authIndex) :
    applyIfCurrent (stateAt (step hash) start events k).cache id (writebackOf b fence) = false := by
  have hmirrored : ∀ m, (stateAt (step hash) start events m).mirrored :=
    invariant_stateAt hstart fun _ e hw => (step_spec hash hw e).1
  have hfollows : Follows (stateAt (step hash) start events j) id b :=
    stateAt_of_le (P := fun w => Follows w id b) hmirrored (fun _ e hw h => h.step hw e) hij
      (.of_held (hmirrored i) hheld)
  have hretired : Retired (stateAt (step hash) start events k) id b :=
    stateAt_of_le (P := fun w => Retired w id b) hmirrored (fun _ e hw h => h.step hw e) hjk
      (hfollows.retired fun c hc hindex => hgone (by rw [hc, Option.map_some, hindex]))
  exact hretired.refused fence

def oneCredential (_ : AuthInstanceID) : Option HostAuth := some ⟨"auth.json", ⟨1, 2, 3, 4⟩⟩

def rosterOf (ids : List String) : HostRosterSnapshot where
  capability := .capabilityA
  entries := ids.map fun id => ⟨id, "0", "codex", some 0⟩

def leaveAndReturn : List Event :=
  [.pass (rosterOf ["a", "b"]) oneCredential, .pass (rosterOf ["b"]) oneCredential, .restart,
    .pass (rosterOf ["a", "b"]) oneCredential]

def firstIncarnation : RuntimeBinding where
  authID := "a"
  authIndex := "0"
  authName := "auth.json"
  inst := 1
  admission := 1
  generation := 1
  login := 1
  token := 1
  fingerprint := ⟨1, 2, 3, 4⟩

def letterHash (id : String) : UInt64 := if id = "a" then 1 else 2

theorem returned_account_refuses_first_incarnation :
    ((stateAt (step letterHash) {} (script .restart leaveAndReturn) 4).cache.lookup "a").isSome ∧
      applyIfCurrent (stateAt (step letterHash) {} (script .restart leaveAndReturn) 4).cache "a"
        (writebackOf firstIncarnation 0) = false := by
  have hstart : World.mirrored {} := rfl
  exact ⟨by decide +kernel, stale_incarnation_is_refused letterHash {} _ hstart "a" firstIncarnation
    0 1 2 4 (by decide) (by decide) (by decide +kernel) (by decide +kernel)⟩

end QuotaScheduler.BindingFence

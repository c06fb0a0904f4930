/- Write-ahead saves of credentials and the reconciliation with them (credential_wal.go). -/

import QuotaScheduler.Identity
import QuotaScheduler.Lib.Tables
import QuotaScheduler.Lib.Runs

namespace QuotaScheduler.CredentialWal

open Identity Lib.Tables

structure RuntimeBinding where
  authID : String := ""
  authIndex : String := ""
  authName : String := ""
  inst : AuthInstanceID := 0
  admission : Nat := 0
  generation : Nat := 0
  login : Nat := 0
  token : Nat := 0
  fingerprint : CredentialFingerprint := {}
  authBlocked : Bool := false
  deriving DecidableEq

def RuntimeBinding.executionToken (b : RuntimeBinding) (fence : Nat) : ExecutionToken :=
  ⟨b.inst, b.admission, b.generation, fence⟩

abbrev BindingTable := AList fun _ : String => RuntimeBinding

structure CredentialStore where
  nextSaveSeq : Nat := 0
  tierGeneration : Nat := 0
  admissionEpochs : AuthInstanceID → Nat := fun _ => 0
  chains : AuthInstanceID → Option TransitionChain := fun _ => none
  bindings : BindingTable := ∅

def CredentialStore.setChain (s : CredentialStore) (inst : AuthInstanceID)
    (chain : TransitionChain) : CredentialStore :=
  { s with chains := Function.update s.chains inst (some chain) }

/-- The first update of `saveVersionedWithHost`: the planned transition. The clock is read twice. -/
def CredentialStore.plan (s : CredentialStore) (inst : AuthInstanceID)
    (tail next : CredentialFingerprint) (created now : Time) : CredentialStore :=
  let seq := s.nextSaveSeq + 1
  let chain := (s.chains inst).getD ⟨{}, []⟩
  { s.setChain inst (chain.appendAt ⟨tail, next, seq, .planned, created⟩ now) with
    nextSaveSeq := seq }

def CredentialStore.recordPhase (s : CredentialStore) (inst : AuthInstanceID) (seq : Nat)
    (phase : TransitionPhase) : CredentialStore :=
  let chain := (s.chains inst).getD ⟨{}, []⟩
  s.setChain inst { chain with
    transitions := chain.transitions.map fun tr =>
      if tr.saveSeq = seq then { tr with phase := phase } else tr }

inductive SaveReply
  | ok
  | rejected
  | failed
  deriving DecidableEq

def SaveReply.phase : SaveReply → TransitionPhase
  | .ok => .applied
  | .rejected => .aborted
  | .failed => .outcomeUnknown

inductive SaveCut
  | beforePlanned
  | afterPlanned
  | beforeTerminal
  | complete
  deriving DecidableEq

structure SaveOutcome where
  store : CredentialStore
  planned : Bool := false
  saved : Bool := false

def saveVersionedWithHost (s : CredentialStore) (inst : AuthInstanceID)
    (next : CredentialFingerprint) (token : ExecutionToken) (created now : Time) (cut : SaveCut)
    (reply : SaveReply) : SaveOutcome :=
  if token.inst ≠ inst then ⟨s, false, false⟩
  else
    match s.chains inst with
    | none => ⟨s, false, false⟩
    | some chain =>
      match chain.saveTail with
      | none => ⟨s, false, false⟩
      | some tail =>
        let planned := s.plan inst tail next created now
        match cut with
        | .beforePlanned => ⟨s, false, false⟩
        | .afterPlanned => ⟨planned, true, false⟩
        | .beforeTerminal => ⟨planned, true, true⟩
        | .complete => ⟨planned.recordPhase inst planned.nextSaveSeq reply.phase, true, true⟩

def unresolvedFrom (current : CredentialFingerprint) : List CredentialTransition → Bool
  | [] => false
  | tr :: rest =>
    if tr.prev.compositeHash ≠ current.compositeHash then false
    else
      match tr.phase with
      | .applied => unresolvedFrom tr.next rest
      | .planned | .outcomeUnknown => true
      | .aborted => false

def credentialChainUnresolved (chain : TransitionChain) : Bool :=
  unresolvedFrom chain.cursor chain.transitions

/-- `CredentialRecoveryReport`; an absent phase or observation is the zero value. -/
structure CredentialRecoveryReport where
  ambiguous : Bool := false
  phase : Option TransitionPhase := none
  observation : Option CredentialObservation := none
  deriving DecidableEq

def settleLast (transitions : List CredentialTransition) (observed : CredentialFingerprint) :
    Option (List CredentialTransition × Option TransitionPhase) :=
  match transitions.getLast? with
  | none => some (transitions, none)
  | some tr =>
    if tr.phase = .planned ∨ tr.phase = .outcomeUnknown then
      if observed.compositeHash = tr.next.compositeHash then
        some (transitions.dropLast ++ [{ tr with phase := .applied }], some .applied)
      else if observed.compositeHash = tr.prev.compositeHash then
        some (transitions.dropLast ++ [{ tr with phase := .aborted }], some .aborted)
      else none
    else some (transitions, some tr.phase)

def followObservation (c : TransitionChain) (observed : CredentialFingerprint) :
    CredentialObservation → TransitionChain
  | .ownedRotation advance => ⟨observed, c.transitions.drop advance⟩
  | .externalLogin => ⟨observed, []⟩
  | .same | .metadataOnly | .ambiguous => c

def dropAborted (c : TransitionChain) : TransitionChain :=
  { c with transitions := c.transitions.dropWhile fun tr =>
      decide (tr.prev = c.cursor) && decide (tr.phase = .aborted) }

def reconcileCredentialObservation (chain : TransitionChain) (observed : CredentialFingerprint)
    (now : Time) : TransitionChain × CredentialRecoveryReport :=
  match settleLast chain.transitions observed with
  | none => (chain, { ambiguous := true, phase := chain.transitions.getLast?.map (·.phase) })
  | some (transitions, phase) =>
    let chain := { chain with transitions := transitions }
    let observation := classifyObservedCredential chain observed now
    (dropAborted (followObservation chain observed observation),
      { phase := phase, observation := some observation })

def reconcileBinding (inst : AuthInstanceID) (observation : CredentialObservation)
    (observed : CredentialFingerprint) (s : CredentialStore) (authID : String) : CredentialStore :=
  match s.bindings.lookup authID with
  | none => s
  | some b =>
    if b.inst ≠ inst then s
    else
      match observation with
      | .ownedRotation _ =>
        { s with bindings :=
            s.bindings.insert authID { b with token := b.token + 1, fingerprint := observed } }
      | .externalLogin =>
        let generation := s.tierGeneration + 1
        { s with
          tierGeneration := generation
          admissionEpochs := Function.update s.admissionEpochs inst (b.admission + 1)
          bindings :=
            (mapValues (fun _ active => { active with generation := generation }) s.bindings).insert
              authID
              { b with
                login := b.login + 1
                admission := b.admission + 1
                fingerprint := observed
                authBlocked := false
                generation := generation } }
      | .same | .metadataOnly | .ambiguous => s

def CredentialStore.commitReconcile (s : CredentialStore) (inst : AuthInstanceID)
    (nextChain : TransitionChain) (observation : CredentialObservation)
    (observed : CredentialFingerprint) : CredentialStore :=
  s.bindings.keys.foldl (reconcileBinding inst observation observed) (s.setChain inst nextChain)

/-- `reconcile` up to its commit: the chain and the report; `none` is a refusal. -/
def prepareReconcile (sha : Nat → Nat → Nat → Nat) (s : CredentialStore) (inst : AuthInstanceID)
    (observed : CredentialFingerprint) (now : Time) (requireUnresolved : Bool) :
    Option (TransitionChain × CredentialRecoveryReport) :=
  match s.chains inst with
  | none => none
  | some chain =>
    if !chain.cursor.validHashes sha then none
    else if requireUnresolved && !credentialChainUnresolved chain then none
    else some (reconcileCredentialObservation chain observed now)

/-- `reconcile`; `committed`: the hooks and the store let the update through. -/
def reconcile (sha : Nat → Nat → Nat → Nat) (s : CredentialStore) (inst : AuthInstanceID)
    (observed : CredentialFingerprint) (now : Time) (requireUnresolved committed : Bool) :
    CredentialStore × CredentialRecoveryReport :=
  match prepareReconcile sha s inst observed now requireUnresolved with
  | none => (s, {})
  | some (nextChain, report) =>
    match report.observation with
    | none => (s, report)
    | some observation =>
      if committed then (s.commitReconcile inst nextChain observation observed, report)
      else (s, report)

end QuotaScheduler.CredentialWal

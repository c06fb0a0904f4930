/- Credential fingerprints and the chain of the plugin's own rotations (identity.go). -/

import QuotaScheduler.Models

namespace QuotaScheduler.Identity

/-- `CredentialFingerprint`; a hash is kept as a number. -/
structure CredentialFingerprint where
  subjectHash : Nat := 0
  refreshTokenHash : Nat := 0
  metadataHash : Nat := 0
  compositeHash : Nat := 0
  deriving DecidableEq

def CredentialFingerprint.validHashes (sha : Nat → Nat → Nat → Nat) (f : CredentialFingerprint) :
    Bool :=
  decide (f.subjectHash ≠ 0 ∧ f.refreshTokenHash ≠ 0 ∧ f.metadataHash ≠ 0 ∧ f.compositeHash ≠ 0) &&
    decide (sha f.subjectHash f.refreshTokenHash f.metadataHash = f.compositeHash)

structure ExecutionToken where
  inst : AuthInstanceID
  admission : Nat
  tier : Nat
  fence : Nat := 0
  deriving DecidableEq

def ExecutionToken.validFor (t : ExecutionToken) (inst : AuthInstanceID) (admission tier : Nat) :
    Bool :=
  decide (t.inst = inst ∧ t.admission = admission ∧ t.tier = tier)

structure BindingVersion where
  inst : AuthInstanceID
  admission : Nat
  tier : Nat
  login : Nat
  fingerprint : CredentialFingerprint
  deriving DecidableEq

structure WritebackVersion where
  token : ExecutionToken
  login : Nat
  fingerprint : CredentialFingerprint
  deriving DecidableEq

def validateWriteback (current : BindingVersion) (write : WritebackVersion) : Bool :=
  write.token.validFor current.inst current.admission current.tier &&
    decide (write.login = current.login) &&
    decide (write.fingerprint.compositeHash = current.fingerprint.compositeHash)

inductive TransitionPhase
  | planned
  | applied
  | aborted
  | outcomeUnknown
  deriving DecidableEq

structure CredentialTransition where
  prev : CredentialFingerprint
  next : CredentialFingerprint
  saveSeq : Nat
  phase : TransitionPhase
  createdAt : Time
  deriving DecidableEq

structure TransitionChain where
  cursor : CredentialFingerprint
  transitions : List CredentialTransition := []
  deriving DecidableEq

def tailFrom (current : CredentialFingerprint) : List CredentialTransition → CredentialFingerprint
  | [] => current
  | tr :: rest =>
    if tr.prev.compositeHash ≠ current.compositeHash then current
    else if tr.phase = .applied then tailFrom tr.next rest
    else tailFrom current rest

def TransitionChain.tail (c : TransitionChain) : CredentialFingerprint :=
  tailFrom c.cursor c.transitions

def saveTailFrom (current : CredentialFingerprint) :
    List CredentialTransition → Option CredentialFingerprint
  | [] => some current
  | tr :: rest =>
    if tr.prev.compositeHash ≠ current.compositeHash then some current
    else
      match tr.phase with
      | .applied => saveTailFrom tr.next rest
      | .planned | .outcomeUnknown => none
      | .aborted => saveTailFrom current rest

def TransitionChain.saveTail (c : TransitionChain) : Option CredentialFingerprint :=
  saveTailFrom c.cursor c.transitions

def chainCapacity : Nat := 11

def CredentialTransition.stale (tr : CredentialTransition) (now : Time) : Bool :=
  !tr.createdAt.isZero && decide (24 * hour < now - tr.createdAt)

/-- The first loop of `AppendAt`: applied transitions over a day old move the cursor. -/
def dropStale (now : Time) (cursor : CredentialFingerprint) :
    List CredentialTransition → TransitionChain
  | [] => ⟨cursor, []⟩
  | tr :: rest =>
    if tr.prev.compositeHash = cursor.compositeHash ∧ tr.phase = .applied ∧ tr.stale now = true then
      dropStale now tr.next rest
    else ⟨cursor, tr :: rest⟩

def TransitionChain.capped (c : TransitionChain) : TransitionChain :=
  if chainCapacity < c.transitions.length then
    let kept := c.transitions.drop (c.transitions.length - chainCapacity)
    ⟨(kept.head?.map (·.prev)).getD c.cursor, kept⟩
  else c

def TransitionChain.appendAt (c : TransitionChain) (t : CredentialTransition) (now : Time) :
    TransitionChain :=
  let now := if now.isZero then t.createdAt else now
  let c := dropStale now c.cursor c.transitions
  TransitionChain.capped { c with transitions := c.transitions ++ [t] }

inductive CredentialObservation
  | same
  | ownedRotation (advance : Nat)
  | metadataOnly
  | externalLogin
  | ambiguous
  deriving DecidableEq

/-- The loop of `ClassifyObservedCredentialAt`, with what it has passed; `none` is a `break`. -/
def classifyFrom (observed : CredentialFingerprint) (now : Time) (current : CredentialFingerprint)
    (passed : Nat) : List CredentialTransition → Option CredentialObservation
  | [] => none
  | tr :: rest =>
    if tr.prev.compositeHash ≠ current.compositeHash then none
    else if tr.stale now then
      if observed.compositeHash = tr.next.compositeHash then some .ambiguous else none
    else
      match tr.phase with
      | .applied =>
        if observed.compositeHash = tr.next.compositeHash then some (.ownedRotation (passed + 1))
        else classifyFrom observed now tr.next (passed + 1) rest
      | .planned | .outcomeUnknown =>
        if observed.compositeHash = tr.next.compositeHash then some .ambiguous else none
      | .aborted => none

def classifyObservedCredential (chain : TransitionChain) (observed : CredentialFingerprint)
    (now : Time) : CredentialObservation :=
  if observed.compositeHash = chain.cursor.compositeHash then .same
  else
    (classifyFrom observed now chain.cursor 0 chain.transitions).getD
      (if observed.subjectHash = chain.cursor.subjectHash ∧
          observed.refreshTokenHash = chain.cursor.refreshTokenHash then .metadataOnly
      else .externalLogin)

end QuotaScheduler.Identity

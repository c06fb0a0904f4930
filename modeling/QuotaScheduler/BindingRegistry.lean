/- The registry of roster-confirmed bindings (binding_registry.go). -/

import Mathlib.Data.List.Sort
import QuotaScheduler.CredentialWal
import QuotaScheduler.Roster

namespace QuotaScheduler.BindingRegistry

open Identity CredentialWal Roster Lib.Runs Option

structure HostAuth where
  name : String
  fingerprint : CredentialFingerprint
  deriving DecidableEq

def legacyAuthInstanceID (hash : String → UInt64) (authID : String) : AuthInstanceID :=
  if hash authID = 0 then 1 else hash authID

theorem legacyAuthInstanceID_ne_zero (hash : String → UInt64) (authID : String) :
    legacyAuthInstanceID hash authID ≠ 0 := by
  unfold legacyAuthInstanceID
  split
  · decide
  case isFalse h => exact h

def writebackOf (b : RuntimeBinding) (fence : Nat) : WritebackVersion :=
  ⟨b.executionToken fence, b.login, b.fingerprint⟩

def applyIfCurrent (bindings : BindingTable) (authID : String) (write : WritebackVersion) : Bool :=
  match bindings.lookup authID with
  | none => false
  | some b => validateWriteback ⟨b.inst, b.admission, b.generation, b.login, b.fingerprint⟩ write

def markAuthBlocked (cache : BindingTable) (s : CredentialStore) (authID : String) :
    CredentialStore :=
  let b := (cache.lookup authID).getD {}
  { s with bindings := s.bindings.insert authID { b with authID := authID, authBlocked := true } }

/-- The IDs `ReconcileRosterTiers` confirms: the prioritised codex entries, each once. -/
def rosterIDs (roster : HostRosterSnapshot) : List String :=
  (((roster.entries.filter fun entry =>
    decide (entry.id ≠ "") && decide (entry.provider = "codex") && entry.priority.isSome).map
      (·.id)).dedup).insertionSort (· ≤ ·)

/-- The entry kept for an ID is the last one that names it. -/
def authIndexOf (roster : HostRosterSnapshot) (id : String) : String :=
  ((roster.entries.filter fun entry => decide (entry.id = id)).getLast?.map (·.authIndex)).getD ""

/-- One turn of the loop that raises the snapshot's epochs to those of its bindings. -/
def raiseBinding (s : CredentialStore) (b : RuntimeBinding) : CredentialStore :=
  { s with
    admissionEpochs := Function.update s.admissionEpochs b.inst
      (max (s.admissionEpochs b.inst) b.admission)
    tierGeneration := max s.tierGeneration b.generation }

def raiseEpochs (s : CredentialStore) : CredentialStore :=
  (s.bindings.entries.map (·.2)).foldl raiseBinding s

def rosterChanged (cache : BindingTable) (roster : HostRosterSnapshot) : Bool :=
  decide (cache.entries.length ≠ (rosterIDs roster).length) || (rosterIDs roster).any fun id =>
      match cache.lookup id with
      | none => true
      | some existing => decide (existing.authIndex ≠ authIndexOf roster id)

def nextGeneration (tierGeneration : Nat) (changed : Bool) (incoming : Nat) : Nat :=
  if tierGeneration = 0 then (if incoming = 0 then 1 else incoming)
  else if changed then (if tierGeneration < incoming then incoming else tierGeneration + 1)
  else if tierGeneration < incoming then incoming
  else tierGeneration

structure RosterDraft where
  epochs : AuthInstanceID → Nat
  next : BindingTable := ∅
  chains : AuthInstanceID → Option TransitionChain := fun _ => none

/-- A binding that is given a new admission starts a new chain. -/
def RosterDraft.place (d : RosterDraft) (id : String) (b : RuntimeBinding) : RosterDraft where
  epochs := Function.update d.epochs b.inst b.admission
  next := d.next.insert id b
  chains := Function.update d.chains b.inst (some ⟨b.fingerprint, []⟩)

section Pass

variable (hash : String → UInt64) (cache : BindingTable)
  (seen : AuthInstanceID → Option TransitionChain) (generation : Nat) (roster : HostRosterSnapshot)
  (getAuth : AuthInstanceID → Option HostAuth)

def firstAdmission (d : RosterDraft) (inst : AuthInstanceID) : Nat :=
  if d.epochs inst = 0 then (if (seen inst).isSome then 2 else 1) else d.epochs inst + 1

/-- One turn of the loop over the IDs; `none` is a failed host read. -/
def draftEntry (d : RosterDraft) (id : String) : Option RosterDraft :=
  let existing := (cache.lookup id).getD {}
  let authIndex := authIndexOf roster id
  if existing.inst ≠ 0 then
    if existing.authIndex ≠ authIndex then
      (getAuth existing.inst).map fun observed =>
        d.place id { existing with
          admission := max (d.epochs existing.inst) existing.admission + 1
          authName := observed.name
          fingerprint := observed.fingerprint
          authIndex := authIndex
          generation := generation }
    else
      some { d with next :=
        d.next.insert id { existing with authIndex := authIndex, generation := generation } }
  else
    let inst := legacyAuthInstanceID hash id
    (getAuth inst).map fun observed =>
      d.place id
        { authID := id
          authIndex := authIndex
          authName := observed.name
          inst := inst
          admission := firstAdmission seen d inst
          generation := generation
          login := 1
          token := 1
          fingerprint := observed.fingerprint
          authBlocked := existing.authBlocked }

end Pass

structure RosterReconcileResult where
  bindings : BindingTable
  removed : List RuntimeBinding
  generation : Nat

def CredentialStore.commitRoster (s : CredentialStore) (generation : Nat) (d : RosterDraft) :
    CredentialStore :=
  { s with
    tierGeneration := generation
    admissionEpochs := fun inst => max (s.admissionEpochs inst) (d.epochs inst)
    bindings := d.next
    chains := fun inst => (d.chains inst).orElse fun _ => s.chains inst }

/-- `ReconcileRosterTiers` with its snapshot and the store its update meets; `none`: an error. -/
def reconcileRosterTiers (hash : String → UInt64) (cache : BindingTable)
    (snapshot s : CredentialStore) (roster : HostRosterSnapshot)
    (getAuth : AuthInstanceID → Option HostAuth) :
    Option (CredentialStore × RosterReconcileResult) :=
  if decide (roster.capability ≠ .capabilityA) || (rosterIDs roster).isEmpty then none
  else
    let durable := raiseEpochs snapshot
    let generation :=
      nextGeneration durable.tierGeneration (rosterChanged cache roster) roster.generation
    ((rosterIDs roster).foldlM (draftEntry hash cache durable.chains generation roster getAuth)
        { epochs := durable.admissionEpochs }).map fun d =>
      (CredentialStore.commitRoster s generation d,
        { bindings := d.next
          removed := (cache.entries.filter fun e =>
            (d.next.lookup e.1).isNone && decide (e.2.inst ≠ 0)).map (·.2)
          generation := generation })

theorem le_foldl_raiseBinding (l : List RuntimeBinding) (s : CredentialStore)
    (inst : AuthInstanceID) :
    s.admissionEpochs inst ≤ (l.foldl raiseBinding s).admissionEpochs inst ∧
      s.tierGeneration ≤ (l.foldl raiseBinding s).tierGeneration := by
  refine foldl_relates (R := fun t u : CredentialStore =>
      t.admissionEpochs inst ≤ u.admissionEpochs inst ∧ t.tierGeneration ≤ u.tierGeneration)
    (fun _ => ⟨le_rfl, le_rfl⟩)
    (fun _ _ _ hst htu => ⟨hst.1.trans htu.1, hst.2.trans htu.2⟩) (fun t b => ?_) l s
  by_cases hinst : inst = b.inst
  · subst hinst
    simp [raiseBinding]
  · simp [raiseBinding, hinst]

variable {b : RuntimeBinding} {id : String} {epochs : AuthInstanceID → Nat} {d : RosterDraft}

theorem admission_le_foldl_raiseBinding {l : List RuntimeBinding} (h : b ∈ l)
    (s : CredentialStore) :
    b.admission ≤ (l.foldl raiseBinding s).admissionEpochs b.inst := by
  induction l generalizing s with
  | nil => cases h
  | cons c l ih =>
    rcases List.mem_cons.mp h with rfl | h
    · refine le_trans ?_ (le_foldl_raiseBinding l (raiseBinding s b) b.inst).1
      simp [raiseBinding]
    · exact ih h _

theorem admission_le_raiseEpochs {s : CredentialStore} (h : s.bindings.lookup id = some b) :
    b.admission ≤ (raiseEpochs s).admissionEpochs b.inst := by
  have hmem : b ∈ s.bindings.entries.map (·.2) :=
    List.mem_map_of_mem (f := fun e => e.2) (AList.mem_lookup_iff.mp h)
  exact admission_le_foldl_raiseBinding hmem s

theorem le_nextGeneration (tierGeneration : Nat) (changed : Bool) (incoming : Nat) :
    tierGeneration ≤ nextGeneration tierGeneration changed incoming := by
  unfold nextGeneration
  split_ifs <;> omega

/-- A binding is kept, kept under a new admission, or issued to a new ID. -/
inductive Issued (cache : BindingTable) (epochs : AuthInstanceID → Nat) (id : String)
    (b : RuntimeBinding) : Prop
  | kept (existing : RuntimeBinding) (held : cache.lookup id = some existing)
      (inst : b.inst = existing.inst) (admission : b.admission = existing.admission)
      (authIndex : b.authIndex = existing.authIndex)
      (login : b.login = existing.login) (token : b.token = existing.token)
  | moved (existing : RuntimeBinding) (held : cache.lookup id = some existing)
      (inst : b.inst = existing.inst) (admission : existing.admission < b.admission)
      (epoch : epochs b.inst < b.admission)
      (login : b.login = existing.login) (token : b.token = existing.token)
  | fresh (unheld : ∀ existing, cache.lookup id = some existing → existing.inst = 0)
      (inst : b.inst ≠ 0) (epoch : epochs b.inst < b.admission)

structure Drafted (cache : BindingTable) (epochs : AuthInstanceID → Nat) (d : RosterDraft) :
    Prop where
  epochs_le : ∀ inst, epochs inst ≤ d.epochs inst
  issued : ∀ id b, d.next.lookup id = some b → Issued cache epochs id b

variable {cache : BindingTable}

theorem Drafted.insert {epochs' : AuthInstanceID → Nat}
    (h : Drafted cache epochs d) {chains : AuthInstanceID → Option TransitionChain}
    (hle : ∀ inst, d.epochs inst ≤ epochs' inst) (hb : Issued cache epochs id b) :
    Drafted cache epochs ⟨epochs', d.next.insert id b, chains⟩ := by
  refine ⟨fun inst => (h.epochs_le inst).trans (hle inst), fun id' b' hb' => ?_⟩
  by_cases hid : id' = id
  · subst hid
    obtain rfl : b = b' := by simpa using hb'
    exact hb
  · exact h.issued id' b' (by simpa [AList.lookup_insert_ne hid] using hb')

theorem Drafted.place (h : Drafted cache epochs d)
    (hle : d.epochs b.inst ≤ b.admission) (hb : Issued cache epochs id b) :
    Drafted cache epochs (d.place id b) := by
  refine h.insert (fun inst => ?_) hb
  by_cases hinst : inst = b.inst
  · subst hinst
    simpa using hle
  · simp [hinst]

theorem lt_firstAdmission (seen : AuthInstanceID → Option TransitionChain) (d : RosterDraft)
    (inst : AuthInstanceID) : d.epochs inst < firstAdmission seen d inst := by
  unfold firstAdmission
  split_ifs <;> omega

theorem Drafted.draftEntry {hash : String → UInt64}
    {seen : AuthInstanceID → Option TransitionChain} {generation : Nat}
    {roster : HostRosterSnapshot} {getAuth : AuthInstanceID → Option HostAuth} {d' : RosterDraft}
    (h : Drafted cache epochs d)
    (hturn : BindingRegistry.draftEntry hash cache seen generation roster getAuth d id = some d') :
    Drafted cache epochs d' := by
  unfold BindingRegistry.draftEntry at hturn
  dsimp only at hturn
  split at hturn
  case isTrue hinst =>
    -- an instance other than zero is one the registry holds
    obtain ⟨existing, hheld⟩ : ∃ existing, cache.lookup id = some existing := by
      cases hlook : cache.lookup id with
      | none => simp [hlook] at hinst
      | some existing => exact ⟨existing, rfl⟩
    rw [hheld, getD_some] at hturn
    split at hturn
    · obtain ⟨observed, -, rfl⟩ := map_eq_some_iff.mp hturn
      refine h.place ?_ (.moved existing hheld rfl ?_ ?_ rfl rfl)
      · exact (Nat.le_max_left _ _).trans (Nat.le_succ _)
      · exact Nat.lt_succ_of_le (Nat.le_max_right _ _)
      · exact Nat.lt_succ_of_le ((h.epochs_le _).trans (Nat.le_max_left _ _))
    case isFalse hindex =>
      obtain rfl := some.inj hturn
      exact h.insert (fun _ => le_rfl)
        (.kept existing hheld rfl rfl (not_not.mp hindex).symm rfl rfl)
  case isFalse hinst =>
    have hunheld : ∀ existing, cache.lookup id = some existing → existing.inst = 0 := by
      intro existing hheld
      simpa [hheld] using hinst
    obtain ⟨observed, -, rfl⟩ := map_eq_some_iff.mp hturn
    have hlt := lt_firstAdmission seen d (legacyAuthInstanceID hash id)
    exact h.place hlt.le
      (.fresh hunheld (legacyAuthInstanceID_ne_zero hash id) ((h.epochs_le _).trans_lt hlt))

/-- A pass stores what it issued and lowers no generation or admission epoch. -/
theorem reconcileRosterTiers_spec {hash : String → UInt64}
    {snapshot s s' : CredentialStore} {roster : HostRosterSnapshot}
    {getAuth : AuthInstanceID → Option HostAuth} {result : RosterReconcileResult}
    (h : reconcileRosterTiers hash cache snapshot s roster getAuth = some (s', result)) :
    s'.bindings = result.bindings ∧ snapshot.tierGeneration ≤ s'.tierGeneration ∧
      (∀ inst, (raiseEpochs snapshot).admissionEpochs inst ≤ s'.admissionEpochs inst) ∧
      ∀ id b, s'.bindings.lookup id = some b →
        Issued cache (raiseEpochs snapshot).admissionEpochs id b := by
  unfold reconcileRosterTiers at h
  split at h
  · cases h
  obtain ⟨d, hd, heq⟩ := map_eq_some_iff.mp h
  obtain ⟨rfl, rfl⟩ := heq
  have hdraft : Drafted cache (raiseEpochs snapshot).admissionEpochs d :=
    foldlM_invariant (P := Drafted cache (raiseEpochs snapshot).admissionEpochs)
      (fun _ _ _ => .draftEntry) (rosterIDs roster)
      ⟨fun _ => le_rfl, fun _ _ hnone => by simp at hnone⟩ hd
  exact ⟨rfl, (le_foldl_raiseBinding _ snapshot 0).2.trans (le_nextGeneration _ _ _),
    fun inst => (hdraft.epochs_le inst).trans (Nat.le_max_right _ _), hdraft.issued⟩

end QuotaScheduler.BindingRegistry

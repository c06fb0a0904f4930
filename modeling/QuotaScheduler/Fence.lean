/- The fence allocator of fence.go and the process that runs it over the state store. -/

import QuotaScheduler.StateStore

namespace QuotaScheduler.Fence

open StateStore

variable {ρ : Type}

def fenceBlockSize : UInt64 := 1048576

def maxUint64 : UInt64 := 18446744073709551615

structure FenceAllocator (ρ : Type) where
  state : PersistentState ρ
  next : UInt64
  ceiling : UInt64
  initialized : Bool
  deriving DecidableEq, Repr

def newFenceAllocator (state : PersistentState ρ) : FenceAllocator ρ :=
  { state := state, next := 0, ceiling := 0, initialized := false }

def reserveBlock (s : PersistentState ρ) : Except StoreErr (PersistentState ρ) :=
  if s.fenceUnsafe then .error .fenceUnsafe
  else if s.reservedCeiling > maxUint64 - fenceBlockSize then .error .fenceOverflow
  else .ok { s with reservedCeiling := s.reservedCeiling + fenceBlockSize }

theorem reserveBlock_ok {s n : PersistentState ρ} (h : reserveBlock s = .ok n) :
    s.fenceUnsafe = false ∧ n.reservedCeiling.toNat = s.reservedCeiling.toNat + 1048576 ∧
      n = { s with reservedCeiling := n.reservedCeiling } := by
  unfold reserveBlock at h
  split at h
  · cases h
  · rename_i hsafe
    split at h
    · cases h
    · rename_i hover
      cases h
      have hle : s.reservedCeiling.toNat ≤ 18446744073708503039 := by
        exact Nat.le_of_not_lt fun hlt => hover (UInt64.lt_iff_toNat_lt.mpr hlt)
      have hblock : fenceBlockSize.toNat = 1048576 := by decide
      refine ⟨by simpa using hsafe, ?_, rfl⟩
      rw [UInt64.toNat_add, hblock]
      omega

def FenceAllocator.ensureInitialized (a : FenceAllocator ρ) : FenceAllocator ρ :=
  if a.initialized then a
  else { a with
    next := a.state.reservedCeiling + 1, ceiling := a.state.reservedCeiling, initialized := true }

/-- The end of `Next`: hand out the cached value.  The increment wraps, as `a.next++` does. -/
def FenceAllocator.issue (a : FenceAllocator ρ) : FenceAllocator ρ × UInt64 :=
  ({ a with next := a.next + 1 }, a.next)

structure NextResult (ρ : Type) where
  alloc : FenceAllocator ρ
  call : CallResult ρ UInt64

/-- The branch of `Next` that reserves a block before it issues a value. -/
def reserveAndIssue (a : FenceAllocator ρ) (s : Store ρ) (empty : ρ) :
    StoreProg ρ (NextResult ρ) := do
  match ← (steps [.kFenceCeilingWrite]).attempt with
  | .error e => pure ⟨a, ⟨s, none, none, .error e⟩⟩
  | .ok () =>
    let u ← updateMode false s empty reserveBlock
    match u.result with
    | .error e => pure ⟨a, ⟨u.store, u.loaded, u.stored, .error e⟩⟩
    | .ok committed =>
      -- the allocator's copy moves before the crash point, the cached ceiling only after it
      let a := { a with state := { a.state with reservedCeiling := committed.reservedCeiling } }
      match ← (steps [.kFenceAfterCeiling]).attempt with
      | .error e => pure ⟨a, ⟨u.store, u.loaded, u.stored, .error e⟩⟩
      | .ok () =>
        let (a, value) := { a with ceiling := a.state.reservedCeiling }.issue
        pure ⟨a, ⟨u.store, u.loaded, u.stored, .ok value⟩⟩

def next (a : FenceAllocator ρ) (s : Store ρ) (empty : ρ) : StoreProg ρ (NextResult ρ) :=
  if !a.initialized && a.state.fenceUnsafe then
    pure ⟨a, ⟨s, none, none, .error .fenceUnsafe⟩⟩
  else
    let a := a.ensureInitialized
    if a.next > a.ceiling then
      if a.state.reservedCeiling > maxUint64 - fenceBlockSize then
        pure ⟨a, ⟨s, none, none, .error .fenceOverflow⟩⟩
      else reserveAndIssue a s empty
    else
      let (a, value) := a.issue
      pure ⟨a, ⟨s, none, none, .ok value⟩⟩

/-! The process: one store, at most one live allocator, at most one call in flight, which holds the
store's mutex; a crash drops everything but the directory. -/

inductive Request (ρ : Type)
  | load
  | update (mirrorBackup : Bool) (fn : ρ → Except StoreErr ρ)
  | newAllocator
  | next

inductive Event (ρ : Type)
  | loaded (state : PersistentState ρ)
  | stored (state : PersistentState ρ)
  | issued (value : UInt64) (primary : FileImage ρ)
  deriving DecidableEq, Repr

structure Return (ρ : Type) where
  store : Store ρ
  alloc : Option (FenceAllocator ρ)
  loaded : Option (PersistentState ρ)
  stored : Option (PersistentState ρ)
  issued : Option UInt64

structure Process (ρ : Type) where
  store : Store ρ
  alloc : Option (FenceAllocator ρ)
  inflight : Option (StoreProg ρ (Return ρ))

/-- The directory, the process if one runs, and the events, the latest first. -/
structure Sys (ρ : Type) where
  disk : Disk ρ
  process : Option (Process ρ)
  log : List (Event ρ)

def liftUpdate (fn : ρ → Except StoreErr ρ) (s : PersistentState ρ) :
    Except StoreErr (PersistentState ρ) :=
  (fn s.rest).map fun rest => { s with rest := rest }

theorem liftUpdate_ok {fn : ρ → Except StoreErr ρ} {s n : PersistentState ρ}
    (h : liftUpdate fn s = .ok n) : ∃ rest, fn s.rest = .ok rest ∧ n = { s with rest := rest } := by
  unfold liftUpdate at h
  cases hf : fn s.rest with
  | error e => simp [hf, Except.map] at h
  | ok rest =>
    rw [hf] at h
    cases h
    exact ⟨rest, rfl, rfl⟩

def Request.program (store : Store ρ) (alloc : Option (FenceAllocator ρ)) (empty : ρ) :
    Request ρ → StoreProg ρ (Return ρ)
  | .load => do
    let r ← StateStore.load store empty
    pure ⟨r.store, alloc, r.loaded, r.stored, none⟩
  | .update mirrorBackup fn => do
    let r ← updateMode mirrorBackup store empty (liftUpdate fn)
    pure ⟨r.store, alloc, r.loaded, r.stored, none⟩
  | .newAllocator => do
    let r ← persistentSnapshot store empty
    let alloc := match r.result with
      | .ok state => some (newFenceAllocator state)
      | .error _ => alloc
    pure ⟨r.store, alloc, r.loaded, r.stored, none⟩
  | .next =>
    match alloc with
    | none => pure ⟨store, none, none, none, none⟩
    | some a => do
      let r ← Fence.next a store empty
      pure ⟨r.call.store, some r.alloc, r.call.loaded, r.call.stored, r.call.result.toOption⟩

def Return.events (r : Return ρ) (primary : FileImage ρ) : List (Event ρ) :=
  (r.issued.map (Event.issued · primary)).toList ++
    ((r.stored.map Event.stored).toList ++ (r.loaded.map Event.loaded).toList)

inductive Label (ρ : Type)
  | boot
  | request (q : Request ρ)
  | io (c : Choice)
  | finish
  | crash
  | corrupt (f : FileName)

def Label.Clean : Label ρ → Prop
  | .corrupt _ => False
  | _ => True

def corruptFile (d : Disk ρ) (f : FileName) : Disk ρ :=
  match d.get f with
  | .absent => d
  | _ => d.set f .corrupt

/-- A label that is not enabled changes nothing. -/
def step (empty : ρ) (w : Sys ρ) : Label ρ → Sys ρ
  | .boot =>
    match w.process with
    | none => { w with process := some ⟨newStateStore empty, none, none⟩ }
    | some _ => w
  | .request q =>
    match w.process with
    | some ⟨store, alloc, none⟩ =>
      { w with process := some ⟨store, alloc, some (q.program store alloc empty)⟩ }
    | _ => w
  | .io c =>
    match w.process with
    | some ⟨store, alloc, some p⟩ =>
      let r := p.advance exec c w.disk
      { w with disk := r.2, process := some ⟨store, alloc, some r.1⟩ }
    | _ => w
  | .finish =>
    match w.process with
    | some ⟨_, _, some (.done r)⟩ =>
      { w with process := some ⟨r.store, r.alloc, none⟩, log := r.events w.disk.primary ++ w.log }
    | _ => w
  | .crash => { w with process := none }
  | .corrupt f => { w with disk := corruptFile w.disk f }

def initial : Sys ρ := ⟨Disk.blank, none, []⟩

def run (empty : ρ) (labels : List (Label ρ)) : Sys ρ := labels.foldl (step empty) initial

def completedCall (q : Request ρ) (ops : Nat) : List (Label ρ) :=
  .request q :: (List.replicate ops (.io .ok) ++ [.finish])

end QuotaScheduler.Fence

/- Fence values grow over all incarnations and never pass the stored ceiling. -/

import QuotaScheduler.Fence
import QuotaScheduler.StoreRules

namespace QuotaScheduler.FenceSequence

open Lib Lib.Resumable StateStore StoreRules Fence List Option UInt64 Safe

variable {ρ : Type}

/-! Ceilings are multiples of the block size, and the overflow test refuses to pass `2^64 - 2^20`,
so neither `ceiling + 1` nor `next + 1` can wrap. -/

def Aligned (p : PersistentState ρ) : Prop := p.reservedCeiling.toNat % 1048576 = 0

def loadCeiling (d : Disk ρ) : Nat :=
  match d.primary, d.backup with
  | .valid p, _ => p.reservedCeiling.toNat
  | _, .valid b => b.reservedCeiling.toNat
  | _, _ => 0

/-- Between operations: nothing corrupt, whole blocks, a load gives at least `low`, the primary if
needed. -/
structure Files (low : Nat) (live : Prop) (d : Disk ρ) : Prop where
  primary_aligned : ∀ p, d.primary = .valid p → Aligned p
  backup_aligned : ∀ b, d.backup = .valid b → Aligned b
  primary_clean : d.primary ≠ .corrupt
  backup_clean : d.backup ≠ .corrupt
  low_le : low ≤ loadCeiling d
  present : live → d.primary ≠ .absent

/-- Nobody touches the files between two operations, and every operation may fail. -/
def undisturbed : Contract Choice (Disk ρ) := ⟨fun _ _ => False, fun _ _ => True⟩

theorem undisturbed_stable (P : Disk ρ → Prop) : (@undisturbed ρ).Stable P :=
  fun _ _ h _ => h.elim

variable {low : Nat} {live started : Prop} {d t : Disk ρ} {p n : PersistentState ρ} {s s' : Store ρ}
  {fn : PersistentState ρ → Except StoreErr (PersistentState ρ)} {a : FenceAllocator ρ}
  {alloc : Option (FenceAllocator ρ)} {w : Sys ρ}

theorem undisturbed_star : Relation.ReflTransGen (@undisturbed ρ).rely d t ↔ t = d := by
  refine ⟨fun h => (undisturbed_stable (· = d)).star h rfl, ?_⟩
  rintro rfl
  exact .refl

section Weakest

variable {α β : Type} {I : Disk ρ → Prop} {Q : α → Disk ρ → Prop} {E : StoreErr → Disk ρ → Prop}

@[simp]
theorem safe_pure_iff (a : α) : StoreSafe undisturbed I Q E (pure a) d ↔ I d ∧ Q a d := by
  change (∀ t, Relation.ReflTransGen _ _ _ → _) ↔ _
  simp [undisturbed_star]

theorem safe_pure_of {a : α} (hI : I d) (hQ : Q a d) : StoreSafe undisturbed I Q E (pure a) d :=
  (safe_pure_iff a).mpr ⟨hI, hQ⟩

@[simp]
theorem safe_raise_iff (e : StoreErr) : StoreSafe undisturbed I Q E (.raise e) d ↔ I d ∧ E e d := by
  simp [Safe, undisturbed_star]

@[simp]
theorem safe_call_iff (op : TwoFiles.FileOp Inert (PersistentState ρ) .none)
    (k : op.Ans → StoreProg ρ α) :
    StoreSafe undisturbed I Q E (.call op k) d ↔ I d ∧
      StoreSafe undisturbed I Q E (k (exec op .ok d).1) (exec op .ok d).2 ∧
      StoreSafe undisturbed I Q E (k (exec op .fail d).1) (exec op .fail d).2 := by
  simp only [Safe, undisturbed_star, forall_eq]
  refine and_congr .rfl ⟨fun h => ⟨h _ trivial, h _ trivial⟩, fun h c _ => ?_⟩
  cases c with
  | ok => exact h.1
  | fail => exact h.2

@[simp]
theorem safe_bind_iff (p : StoreProg ρ α) (f : α → StoreProg ρ β) {Q : β → Disk ρ → Prop} :
    StoreSafe undisturbed I Q E (p >>= f) d ↔
      StoreSafe undisturbed I (fun a => StoreSafe undisturbed I Q E (f a)) E p d := by
  refine ⟨fun h => ?_, fun h => h.bind fun _ _ ha => ha⟩
  induction p generalizing d with
  | done a => exact (safe_pure_iff a).mpr ⟨h.now, h⟩
  | raise e => exact h
  | call op k ih =>
    rw [safe_call_iff]
    obtain ⟨hI, hok, hfail⟩ := (safe_call_iff op fun r => k r >>= f).mp h
    exact ⟨hI, ih _ hok, ih _ hfail⟩

@[simp]
theorem safe_attempt_iff (p : StoreProg ρ α) {Q : Except StoreErr α → Disk ρ → Prop} :
    StoreSafe undisturbed I Q E p.attempt d ↔
      StoreSafe undisturbed I (fun a => Q (.ok a)) (fun e => Q (.error e)) p d := by
  refine ⟨fun h => ?_, fun h => h.attempt⟩
  induction p generalizing d with
  | done a | raise e => exact h
  | call op k ih =>
    rw [safe_call_iff]
    obtain ⟨hI, hok, hfail⟩ := (safe_call_iff op fun r => (k r).attempt).mp h
    exact ⟨hI, ih _ hok, ih _ hfail⟩

@[simp]
theorem safe_steps_iff (o : Inert) (os : List Inert) {Q : Unit → Disk ρ → Prop} :
    StoreSafe undisturbed I Q E (steps (o :: os)) d ↔ I d ∧ E .io d ∧ Q () d := by
  induction os generalizing o with
  | nil =>
    simp only [TwoFiles.steps, exec, safe_call_iff, safe_pure_iff, safe_raise_iff]
    grind
  | cons o' os ih =>
    rw [steps, TwoFiles.steps]
    simp only [exec, safe_call_iff, safe_raise_iff, ih]
    grind

@[simp]
theorem safe_readPersistentState_iff (f : FileName) {Q : ReadResult ρ → Disk ρ → Prop} :
    StoreSafe undisturbed I Q E (readPersistentState f) d ↔
      I d ∧ Q (.ofImage (some (d.get f))) d ∧ Q .otherErr d := by
  simp only [readPersistentState, exec, safe_call_iff, safe_pure_iff]
  exact ⟨fun h => ⟨h.1, h.2.1.2, h.2.2.2⟩, fun h => ⟨h.1, ⟨h.1, h.2.1⟩, h.1, h.2.2⟩⟩

@[simp]
theorem safe_writeAtomic_iff (f : FileName) (raw : FileImage ρ) {Q : Unit → Disk ρ → Prop} :
    StoreSafe undisturbed I Q E (writeAtomic f raw) d ↔ I d ∧ E .io d ∧ I (d.set f raw) ∧
      E .io (d.set f raw) ∧ Q () (d.set f raw) := by
  cases f with
  | primary | backup =>
    simp only [writeAtomic, beforeRename, afterRename, TwoFiles.replaceTemp, exec, safe_bind_iff,
      safe_steps_iff, safe_call_iff, safe_pure_iff, safe_raise_iff]
    grind

theorem backupSource_some {mirrorBackup : Bool} {raw image : FileImage ρ}
    {r : Option (FileImage ρ)} (h : backupSource mirrorBackup raw r = some image) :
    image = raw ∨ mirrorBackup = false ∧ r = some image ∧ image ≠ .absent := by
  unfold backupSource at h
  grind

/-- The backup's bytes come from the read of the primary or, mirrored, without it. -/
theorem safe_writeLockedMode {mirrorBackup : Bool} {Q : Store ρ → Disk ρ → Prop} (hI : I d)
    (hE : ∀ e, E e d) (h : ∀ image, (image = .valid (sealState s n) ∨ mirrorBackup = false ∧
      d.primary = image ∧ image ≠ .absent) → ∀ t, t = d.set .backup image → (I t ∧ E .io t) ∧
        ∀ u, u = t.set .primary (.valid (sealState s n)) → I u ∧ E .io u ∧
          Q { s with state := sealState s n, loaded := true } u) :
    StoreSafe undisturbed I Q E (writeLockedMode s n mirrorBackup) d := by
  have hwrite : ∀ image, (image = .valid (sealState s n) ∨ mirrorBackup = false ∧
      d.primary = image ∧ image ≠ .absent) → StoreSafe undisturbed I Q E (do
        writeAtomic .backup image
        writeAtomic .primary (.valid (sealState s n))
        pure { s with state := sealState s n, loaded := true }) d := by
    intro image himage
    obtain ⟨⟨hb, hbE⟩, hrest⟩ := h image himage _ rfl
    obtain ⟨hp, hpE, hQ⟩ := hrest _ rfl
    simp only [safe_bind_iff, safe_writeAtomic_iff, safe_pure_iff]
    exact ⟨hI, hE _, hb, hbE, hb, hbE, hp, hpE, hp, hQ⟩
  have hraise : StoreSafe undisturbed I Q E (.raise .io) d := (safe_raise_iff _).mpr ⟨hI, hE _⟩
  unfold writeLockedMode
  split
  · exact (safe_raise_iff _).mpr ⟨hI, hE _⟩
  · simp only [safe_bind_iff, safe_steps_iff, safe_call_iff, exec]
    refine ⟨hI, hE _, hI, ?_, ?_⟩
    · split
      next => exact hraise
      next image hsource =>
        refine hwrite image ((backupSource_some hsource).imp id fun hi => ⟨hi.1, ?_, hi.2.2⟩)
        exact some.inj hi.2.1
    · split
      next => exact hraise
      next image hsource =>
        exact hwrite image ((backupSource_some hsource).imp id fun hi => by cases hi.2.1)

end Weakest

theorem Files.mono {low' : Nat} {live' : Prop} (h : Files low live d) (hlow : low' ≤ low)
    (hlive : live' → live) : Files low' live' d :=
  { h with low_le := Nat.le_trans hlow h.low_le, present := fun hl => h.present (hlive hl) }

theorem loadCeiling_of_primary (h : d.primary = .valid p) :
    loadCeiling d = p.reservedCeiling.toNat := by
  simp only [loadCeiling, h]

theorem aligned_sealState (h : Aligned n) : Aligned (sealState s n) := h

private theorem Files.set_backup {image : FileImage ρ} (h : Files low live d) (hn : Aligned n)
    (hlow : low ≤ n.reservedCeiling.toNat)
    (himage : image = .valid n ∨ d.primary = image ∧ image ≠ .absent) :
    Files low live (d.set .backup image) := by
  have haligned : ∀ b, image = .valid b → Aligned b := by
    rintro b rfl
    rcases himage with hi | ⟨hi, -⟩
    · cases hi
      exact hn
    · exact h.primary_aligned b hi
  have hclean : image ≠ .corrupt := by
    rintro rfl
    rcases himage with hi | ⟨hi, -⟩
    · cases hi
    · exact h.primary_clean hi
  refine ⟨h.primary_aligned, haligned, h.primary_clean, hclean, ?_, h.present⟩
  have hload := h.low_le
  revert hload
  unfold loadCeiling
  cases hp : d.primary with
  | valid p => simp [TwoFiles.Disk.set, hp]
  | corrupt => exact absurd hp h.primary_clean
  | absent =>
    rcases himage with rfl | ⟨hi, hne⟩
    · simp [TwoFiles.Disk.set, hp, hlow]
    · exact absurd (hi.symm.trans hp) hne

private theorem Files.set_primary (h : Files low live d) (hn : Aligned n) :
    Files n.reservedCeiling.toNat True (d.set .primary (.valid n)) := by
  refine ⟨?_, h.backup_aligned, nofun, h.backup_clean, ?_, fun _ => nofun⟩
  · intro p hp
    cases hp
    exact hn
  · exact Nat.le_of_eq (loadCeiling_of_primary (d := d.set .primary (.valid n)) rfl).symm

/-- After a write the primary holds the state; after an error the files give the old level. -/
theorem writeLockedMode_files (s : Store ρ) (mirrorBackup : Bool) (hn : Aligned n)
    (hlow : low ≤ n.reservedCeiling.toNat) (h : Files low live d) :
    StoreSafe undisturbed (Files low live)
      (fun s' t => s' = { s with state := sealState s n, loaded := true } ∧
        Files n.reservedCeiling.toNat True t)
      (fun _ => Files low live) (writeLockedMode s n mirrorBackup) d := by
  refine safe_writeLockedMode h (fun _ => h) ?_
  rintro image himage _ rfl
  have hbackup := h.set_backup (aligned_sealState hn) hlow (himage.imp_right And.right)
  refine ⟨⟨hbackup, hbackup⟩, ?_⟩
  rintro _ rfl
  have hprimary := hbackup.set_primary (aligned_sealState (s := s) hn)
  have hweak : Files low live _ := hprimary.mono hlow fun _ => trivial
  exact ⟨hweak, hweak, rfl, hprimary⟩

variable {empty : ρ}

theorem aligned_newPersistentState : Aligned (newPersistentState empty) := rfl

variable {r : RecoveryReport}

@[simp] theorem reservedCeiling_acceptState_store :
    (acceptState s p r).store.state.reservedCeiling = p.reservedCeiling := by
  simp only [acceptState]
  split <;> rfl

/-- What a load that only reads accepts: the primary, or before its first write backup or empty
state. -/
def found (empty : ρ) (d : Disk ρ) : Option (PersistentState ρ × RecoveryReport) :=
  match d.primary, d.backup with
  | .valid p, _ => some (p, {})
  | .absent, .valid b => some (b, { usedBackup := true })
  | .absent, .absent => some (newPersistentState empty, {})
  | _, _ => none

theorem safe_loadLocked_iff {I : Disk ρ → Prop} {Q : Loaded ρ → Disk ρ → Prop}
    {E : StoreErr → Disk ρ → Prop} (h : found empty d = some (p, r)) :
    StoreSafe undisturbed I Q E (loadLocked s empty) d ↔
      I d ∧ E .io d ∧ Q (acceptState s p r) d := by
  simp only [loadLocked, safe_bind_iff, safe_readPersistentState_iff, safe_raise_iff,
    TwoFiles.Disk.get]
  unfold found at h
  cases hp : d.primary with
  | corrupt => simp [hp] at h
  | valid p' =>
    simp only [hp, some.injEq, Prod.mk.injEq] at h
    obtain ⟨rfl, rfl⟩ := h
    simp only [ReadResult.ofImage, safe_pure_iff]
    grind
  | absent =>
    cases hb : d.backup with
    | corrupt => simp [hp, hb] at h
    | valid b | absent =>
      simp only [hp, hb, some.injEq, Prod.mk.injEq] at h
      obtain ⟨rfl, rfl⟩ := h
      simp only [ReadResult.ofImage, safe_bind_iff, safe_readPersistentState_iff, safe_raise_iff,
        TwoFiles.Disk.get, hb, recoverBackup, Bool.false_eq_true, if_false, safe_pure_iff]
      grind

theorem Files.found (h : Files low live d) (empty : ρ) :
    ∃ p r, found empty d = some (p, r) ∧ Aligned p ∧ loadCeiling d = p.reservedCeiling.toNat := by
  unfold FenceSequence.found loadCeiling
  cases hp : d.primary with
  | corrupt => exact absurd hp h.primary_clean
  | valid p => exact ⟨p, _, rfl, h.primary_aligned p hp, rfl⟩
  | absent =>
    cases hb : d.backup with
    | corrupt => exact absurd hb h.backup_clean
    | valid b => exact ⟨b, _, rfl, h.backup_aligned b hb, rfl⟩
    | absent => exact ⟨_, _, rfl, aligned_newPersistentState, rfl⟩

def level (top : Nat) (s : Store ρ) : Nat :=
  if s.loaded then s.state.reservedCeiling.toNat else top

structure StoreOk (top : Nat) (live : Prop) (s : Store ρ) (d : Disk ρ) : Prop where
  aligned : s.loaded = true → Aligned s.state
  top_le : top ≤ level top s
  files : Files (level top s) live d

theorem level_loaded {top : Nat} (h : s.loaded = true) :
    level top s = s.state.reservedCeiling.toNat := if_pos h

def Raises (fn : PersistentState ρ → Except StoreErr (PersistentState ρ)) : Prop :=
  ∀ s n, fn s = .ok n → Aligned s → Aligned n ∧ s.reservedCeiling.toNat ≤ n.reservedCeiling.toNat

theorem raises_liftUpdate (fn : ρ → Except StoreErr ρ) : Raises (liftUpdate fn) := by
  intro s n hn hs
  obtain ⟨rest, -, rfl⟩ := liftUpdate_ok hn
  exact ⟨hs, le_rfl⟩

theorem raises_reserveBlock : Raises (@reserveBlock ρ) := by
  intro s n hn hs
  have h := (reserveBlock_ok hn).2.1
  unfold Aligned at hs ⊢
  omega

/-- Memory and files in order, no lower than before; after a success the primary has the new state.
-/
structure Updated (top : Nat) (live : Prop) (s : Store ρ)
    (fn : PersistentState ρ → Except StoreErr (PersistentState ρ))
    (r : CallResult ρ (PersistentState ρ)) (t : Disk ρ) : Prop where
  store : StoreOk top live r.store t
  grows : level top s ≤ level top r.store
  keeps : s.loaded = true → r.store.loaded = true
  result : ∀ p, r.result = .ok p → r.store.loaded = true ∧
    p.reservedCeiling = r.store.state.reservedCeiling ∧ Files (level top r.store) True t ∧
    ∃ q n, fn q = .ok n ∧ level top s ≤ q.reservedCeiling.toNat ∧
      p.reservedCeiling = n.reservedCeiling

private theorem updated_error {top : Nat} {l : Option (PersistentState ρ)} {e : StoreErr}
    (h : StoreOk top live s' t) (hgrows : level top s ≤ level top s')
    (hkeeps : s.loaded = true → s'.loaded = true) :
    Updated top live s fn ⟨s', l, none, .error e⟩ t :=
  ⟨h, hgrows, hkeeps, nofun⟩

theorem StoreOk.files_top {top : Nat} (h : StoreOk top live s t) : Files top live t :=
  h.files.mono h.top_le id

variable {mirrorBackup : Bool} {l : Option (PersistentState ρ)}

theorem applyUpdate_ok {top : Nat}
    (hfn : Raises fn) (hs : s.loaded = true) (h : StoreOk top live s d) :
    StoreSafe undisturbed (Files top live) (Updated top live s fn) (fun _ _ => False)
      (applyUpdate mirrorBackup s l fn) d := by
  unfold applyUpdate
  cases hn : fn s.state with
  | error e => exact safe_pure_of h.files_top (updated_error h le_rfl id)
  | ok n =>
    obtain ⟨haligned, hraise⟩ := hfn _ _ hn (h.aligned hs)
    have hlevel : level top s ≤ n.reservedCeiling.toNat := by
      rw [level_loaded hs]
      exact hraise
    have hwrite := writeLockedMode_files s mirrorBackup haligned hlevel h.files
    simp only [safe_bind_iff, safe_attempt_iff]
    refine hwrite.mono (fun t ht => ht.mono h.top_le id) ?_ fun e t ht => ?_
    · rintro _ t ⟨rfl, hfiles⟩
      have htop : top ≤ n.reservedCeiling.toNat := Nat.le_trans h.top_le hlevel
      refine safe_pure_of (hfiles.mono htop fun _ => trivial) ⟨⟨fun _ => haligned, htop, ?_⟩,
        hlevel, fun _ => rfl, ?_⟩
      · exact hfiles.mono le_rfl fun _ => trivial
      · intro p hp
        cases hp
        exact ⟨rfl, rfl, hfiles, s.state, n, hn, Nat.le_of_eq (level_loaded hs), rfl⟩
    · exact safe_pure_of (ht.mono h.top_le id)
        (updated_error ⟨h.aligned, h.top_le, ht⟩ le_rfl id)

/-- With nothing corrupt a load only reads: an error changes nothing, a success loads a store no
lower. -/
theorem loadLocked_ok {top : Nat} {I : Disk ρ → Prop} {Q : Loaded ρ → Disk ρ → Prop}
    {E : StoreErr → Disk ρ → Prop} (h : StoreOk top live s d) (hI : I d) (hE : E .io d)
    (hQ : ∀ l : Loaded ρ, l.store.loaded = true →
      StoreOk top live l.store d → level top s ≤ level top l.store → Q l d) :
    StoreSafe undisturbed I Q E (loadLocked s empty) d := by
  obtain ⟨p, r, hfound, haligned, hload⟩ := h.files.found empty
  have hlow := hload ▸ h.files.low_le
  have hlevel : level top (acceptState s p r).store = p.reservedCeiling.toNat := by
    rw [level_loaded rfl, reservedCeiling_acceptState_store]
  refine (safe_loadLocked_iff hfound).mpr ⟨hI, hE, hQ _ rfl ⟨fun _ => ?_, ?_, ?_⟩ ?_⟩
  · rwa [Aligned, reservedCeiling_acceptState_store]
  · rw [hlevel]
    exact Nat.le_trans h.top_le hlow
  · rw [hlevel]
    exact { h.files with low_le := hload.ge }
  · rwa [hlevel]

theorem updateMode_ok {top : Nat} (hfn : Raises fn) (h : StoreOk top live s d) :
    StoreSafe undisturbed (Files top live) (Updated top live s fn) (fun _ _ => False)
      (updateMode mirrorBackup s empty fn) d := by
  unfold updateMode
  split
  · rename_i hs
    exact applyUpdate_ok hfn hs h
  · rename_i hs
    simp only [safe_bind_iff, safe_attempt_iff]
    refine loadLocked_ok h h.files_top
      (safe_pure_of h.files_top (updated_error h le_rfl id)) ?_
    intro l hloaded hstore hgrows
    refine (applyUpdate_ok hfn hloaded hstore).mono
      (fun _ ht => ht) (fun r t hr => ?_) fun _ _ ht => ht
    refine ⟨hr.store, Nat.le_trans hgrows hr.grows, fun hsl => absurd hsl hs, fun p hp => ?_⟩
    obtain ⟨h₁, h₂, h₃, q, n, hq, hle, hpn⟩ := hr.result p hp
    exact ⟨h₁, h₂, h₃, q, n, hq, Nat.le_trans hgrows hle, hpn⟩

/-- The allocator lags behind the store, and its block starts above the values issued. -/
structure AllocOk (top : Nat) (s : Store ρ) (a : FenceAllocator ρ) : Prop where
  loaded : s.loaded = true
  aligned : Aligned a.state
  top_le : top ≤ a.state.reservedCeiling.toNat
  le_store : a.state.reservedCeiling.toNat ≤ s.state.reservedCeiling.toNat
  block : a.initialized = true → top < a.next.toNat ∧ a.next.toNat ≤ a.ceiling.toNat + 1 ∧
    a.ceiling.toNat ≤ a.state.reservedCeiling.toNat

def HasBlock (a : FenceAllocator ρ) : Prop := a.initialized = true ∧ a.next ≤ a.ceiling

structure Ok (top : Nat) (started : Prop) (s : Store ρ) (alloc : Option (FenceAllocator ρ))
    (d : Disk ρ) : Prop where
  store : StoreOk top (started ∨ ∃ a, alloc = some a ∧ HasBlock a) s d
  alloc : ∀ a, alloc = some a → AllocOk top s a

def Settled (top : Nat) (started : Prop) (r : Return ρ) (t : Disk ρ) : Prop :=
  match r.issued with
  | none => Ok top started r.store r.alloc t
  | some v => top < v.toNat ∧ Ok v.toNat True r.store r.alloc t ∧
      ∃ p, t.primary = .valid p ∧ v ≤ p.reservedCeiling

theorem Aligned.le_max (h : Aligned p) : p.reservedCeiling.toNat ≤ 18446744073708503040 := by
  have := p.reservedCeiling.toNat_lt
  unfold Aligned at h
  omega

theorem Files.primary_valid (h : Files low live d) (hlive : live) :
    ∃ p, d.primary = .valid p ∧ low ≤ p.reservedCeiling.toNat := by
  have hlow := h.low_le
  cases hp : d.primary with
  | absent => exact absurd hp (h.present hlive)
  | corrupt => exact absurd hp h.primary_clean
  | valid p => exact ⟨p, rfl, loadCeiling_of_primary hp ▸ hlow⟩

theorem StoreOk.mono_live {top : Nat} {live' : Prop} (h : StoreOk top live s d)
    (hlive : live' → live) : StoreOk top live' s d :=
  ⟨h.aligned, h.top_le, h.files.mono le_rfl hlive⟩

private theorem toNat_one : (1 : UInt64).toNat = 1 := rfl

theorem AllocOk.ensureInitialized {top : Nat} (h : AllocOk top s a) :
    AllocOk top s a.ensureInitialized ∧ a.ensureInitialized.initialized = true ∧
      (HasBlock a.ensureInitialized → HasBlock a) := by
  unfold FenceAllocator.ensureInitialized
  split
  · rename_i hi
    exact ⟨h, hi, id⟩
  · have hmax := h.aligned.le_max
    have htop := h.top_le
    have hnext : (a.state.reservedCeiling + 1).toNat = a.state.reservedCeiling.toNat + 1 := by
      rw [UInt64.toNat_add, toNat_one]
      omega
    refine ⟨⟨h.loaded, h.aligned, h.top_le, h.le_store, fun _ => ?_⟩, rfl, ?_⟩
    · simp only
      omega
    · rintro ⟨-, hle⟩
      have := le_iff_toNat_le.mp hle
      simp only at this
      omega

theorem issue_settled {top : Nat} {l st : Option (PersistentState ρ)} (ha : AllocOk top s a)
    (hs : StoreOk top live s t) (hlive : live) (hblock : HasBlock a) :
    Settled top started ⟨s, some a.issue.1, l, st, some a.issue.2⟩ t := by
  obtain ⟨hnext, hceil, hstate⟩ := ha.block hblock.1
  have hle := le_iff_toNat_le.mp hblock.2
  have hmax := ha.aligned.le_max
  have hstore := ha.le_store
  have hlevel : level top s = s.state.reservedCeiling.toNat := level_loaded ha.loaded
  have hlevel' : level a.next.toNat s = s.state.reservedCeiling.toNat := level_loaded ha.loaded
  have hincr : (a.next + 1).toNat = a.next.toNat + 1 := by
    rw [UInt64.toNat_add, toNat_one]
    omega
  obtain ⟨p, hp, hlow⟩ := hs.files.primary_valid hlive
  refine ⟨hnext, ⟨⟨fun h => hs.aligned h, ?_, ?_⟩, ?_⟩, p, hp, ?_⟩
  · show a.next.toNat ≤ level a.next.toNat s
    omega
  · show Files (level a.next.toNat s) _ t
    rw [hlevel', ← hlevel]
    exact hs.files.mono le_rfl fun _ => hlive
  · intro b hb
    cases hb
    refine ⟨ha.loaded, ha.aligned, ?_, ha.le_store, fun _ => ⟨?_, ?_, hstate⟩⟩
    · show a.next.toNat ≤ a.state.reservedCeiling.toNat
      omega
    · show a.next.toNat < (a.next + 1).toNat
      omega
    · show (a.next + 1).toNat ≤ a.ceiling.toNat + 1
      omega
  · exact le_iff_toNat_le.mpr (show a.next.toNat ≤ _ by omega)

theorem AllocOk.grow {top : Nat} (h : AllocOk top s a) (hs : s'.loaded = true)
    (hgrows : level top s ≤ level top s') : AllocOk top s' a := by
  rw [level_loaded h.loaded, level_loaded hs] at hgrows
  exact ⟨hs, h.aligned, h.top_le, Nat.le_trans h.le_store hgrows, h.block⟩

def nextReturn (r : NextResult ρ) : Return ρ :=
  ⟨r.call.store, some r.alloc, r.call.loaded, r.call.stored, r.call.result.toOption⟩

/-- Only a successful update moves the allocator's ceiling, only a passed crash point its cached
one. -/
theorem reserveAndIssue_settled {top : Nat} (hinit : a.initialized = true)
    (hempty : ¬ HasBlock a) (h : Ok top started s (some a) d) :
    StoreSafe undisturbed (Files top started) (fun r t => Settled top started (nextReturn r) t)
      (fun _ _ => False) (reserveAndIssue a s empty) d := by
  have ha := h.alloc a rfl
  obtain ⟨hnext, hceil, hstate⟩ := ha.block hinit
  have hstore : StoreOk top started s d := h.store.mono_live .inl
  have hok : ∀ {s' : Store ρ} {b : FenceAllocator ρ} {t : Disk ρ}, AllocOk top s' b →
      ¬ HasBlock b → StoreOk top started s' t → Ok top started s' (some b) t := by
    intro s' b t hb hno hs'
    refine ⟨hs'.mono_live ?_, fun c hc => ?_⟩
    · rintro (hstarted | ⟨c, hc, hblock⟩)
      · exact hstarted
      · cases hc
        exact absurd hblock hno
    · cases hc
      exact hb
  simp only [reserveAndIssue, safe_bind_iff, safe_attempt_iff, safe_steps_iff, safe_pure_iff]
  refine ⟨hstore.files_top, ⟨hstore.files_top, hok ha hempty hstore⟩, ?_⟩
  refine (updateMode_ok raises_reserveBlock hstore).mono (fun _ ht => ht) (fun u t hu => ?_)
    fun _ _ ht => ht
  have hgrown : AllocOk top u.store a := ha.grow (hu.keeps ha.loaded) hu.grows
  cases hres : u.result with
  | error e => exact safe_pure_of hu.store.files_top (hok hgrown hempty hu.store)
  | ok committed =>
    obtain ⟨hloaded, hcommitted, hfiles, q, n, hq, hle, hn⟩ := hu.result committed hres
    have hblock := (reserveBlock_ok hq).2.1
    rw [level_loaded ha.loaded] at hle
    have hsle := ha.le_store
    -- the new ceiling lies a whole block above the value to be issued
    have hroom : a.next.toNat ≤ committed.reservedCeiling.toNat := by
      rw [hn]
      omega
    have hmove : AllocOk top u.store
        { a with state := { a.state with reservedCeiling := committed.reservedCeiling } } := by
      refine ⟨hloaded, ?_, ?_, ?_, fun _ => ⟨hnext, hceil, ?_⟩⟩
      · rw [hcommitted]
        exact hu.store.aligned hloaded
      · show top ≤ committed.reservedCeiling.toNat
        omega
      · exact Nat.le_of_eq (congrArg toNat hcommitted)
      · show a.ceiling.toNat ≤ committed.reservedCeiling.toNat
        rw [hn]
        omega
    have hready : AllocOk top u.store
        { a with
          state := { a.state with reservedCeiling := committed.reservedCeiling }
          ceiling := committed.reservedCeiling } :=
      { hmove with block := fun _ => ⟨hnext, Nat.le_succ_of_le hroom, le_rfl⟩ }
    have hissue : Settled top started ⟨u.store, _, u.loaded, u.stored, _⟩ t := issue_settled hready
      ⟨hu.store.aligned, hu.store.top_le, hfiles⟩ trivial ⟨hinit, le_iff_toNat_le.mpr hroom⟩
    simp only [safe_bind_iff, safe_attempt_iff, safe_steps_iff, safe_pure_iff]
    have hfiles := hu.store.files_top
    exact ⟨hfiles, ⟨hfiles, hok hmove hempty hu.store⟩, hfiles, hissue⟩

theorem next_settled {top : Nat} (h : Ok top started s (some a) d) :
    StoreSafe undisturbed (Files top started) (fun r t => Settled top started (nextReturn r) t)
      (fun _ _ => False) (next a s empty) d := by
  have hfiles : Files top started d := h.store.files_top.mono le_rfl .inl
  unfold Fence.next
  split
  · exact safe_pure_of hfiles h
  obtain ⟨ha, hinit, hblock⟩ := (h.alloc a rfl).ensureInitialized
  have h' : Ok top started s (some a.ensureInitialized) d := by
    refine ⟨h.store.mono_live ?_, fun b hb => by cases hb; exact ha⟩
    rintro (hstarted | ⟨b, hb, hhas⟩)
    · exact .inl hstarted
    · cases hb
      exact .inr ⟨a, rfl, hblock hhas⟩
  simp only
  split
  · rename_i hgt
    have hempty : ¬ HasBlock a.ensureInitialized := fun hhas =>
      absurd hgt (UInt64.not_lt.mpr hhas.2)
    split
    · exact safe_pure_of hfiles h'
    · exact reserveAndIssue_settled hinit hempty h'
  · rename_i hle
    have hhas : HasBlock a.ensureInitialized := ⟨hinit, UInt64.not_lt.mp hle⟩
    exact safe_pure_of hfiles (issue_settled ha h.store (.inr ⟨a, rfl, hblock hhas⟩) hhas)

private theorem Ok.grow {top : Nat} (h : Ok top started s alloc d)
    (hs : StoreOk top (started ∨ ∃ a, alloc = some a ∧ HasBlock a) s' t)
    (hkeeps : s.loaded = true → s'.loaded = true) (hgrows : level top s ≤ level top s') :
    Ok top started s' alloc t :=
  ⟨hs, fun a ha => (h.alloc a ha).grow (hkeeps (h.alloc a ha).loaded) hgrows⟩

private theorem ok_newFenceAllocator {top : Nat} (hs : s.loaded = true) (h : StoreOk top live s t)
    (hlive : started → live) : Ok top started s (some (newFenceAllocator s.state)) t := by
  have htop := h.top_le
  rw [level_loaded hs] at htop
  refine ⟨h.mono_live ?_, fun a ha => ?_⟩
  · rintro (hstarted | ⟨a, ha, hblock⟩)
    · exact hlive hstarted
    · cases ha
      cases hblock.1
  · cases ha
    exact ⟨hs, h.aligned hs, htop, le_rfl, nofun⟩

theorem program_settled {top : Nat} (q : Request ρ) (h : Ok top started s alloc d) :
    StoreSafe undisturbed (Files top started) (Settled top started) (fun _ _ => False)
      (q.program s alloc empty) d := by
  have hweak : ∀ {t : Disk ρ} {live : Prop}, Files top (started ∨ live) t →
      Files top started t := fun ht => ht.mono le_rfl .inl
  have hfiles : Files top started d := hweak h.store.files_top
  cases q with
  | load =>
    simp only [Request.program, load, safe_bind_iff, safe_attempt_iff]
    refine loadLocked_ok h.store hfiles (safe_pure_of hfiles (safe_pure_of hfiles h)) ?_
    intro l hloaded hs hgrows
    exact safe_pure_of hfiles (safe_pure_of hfiles (h.grow hs (fun _ => hloaded) hgrows))
  | update mirrorBackup fn =>
    simp only [Request.program, safe_bind_iff]
    refine (updateMode_ok (raises_liftUpdate fn) h.store).mono (fun _ => hweak)
      (fun r t hr => ?_) fun _ _ ht => ht
    exact safe_pure_of (hweak hr.store.files_top) (h.grow hr.store hr.keeps hr.grows)
  | newAllocator =>
    simp only [Request.program, safe_bind_iff, persistentSnapshot]
    split
    · rename_i hs
      exact safe_pure_of hfiles (safe_pure_of hfiles (ok_newFenceAllocator hs h.store .inl))
    · simp only [safe_bind_iff, safe_attempt_iff]
      refine loadLocked_ok h.store hfiles (safe_pure_of hfiles (safe_pure_of hfiles h)) ?_
      intro l hloaded hs _
      exact safe_pure_of hfiles (safe_pure_of hfiles (ok_newFenceAllocator hloaded hs .inl))
  | next =>
    cases alloc with
    | none => exact safe_pure_of hfiles h
    | some a =>
      simp only [Request.program, safe_bind_iff]
      refine (next_settled h).mono (fun _ ht => ht) (fun r t hr => safe_pure_of ?_ hr)
        fun _ _ ht => ht
      -- the issued value only raises the level
      revert hr
      unfold Settled
      split
      · exact fun hr => hweak hr.store.files_top
      · exact fun hr => hr.2.1.store.files_top.mono (Nat.le_of_lt hr.1) fun _ => .inl trivial

def values (log : List (Event ρ)) : List UInt64 :=
  log.filterMap fun
    | .issued v _ => some v
    | _ => none

def top (log : List (Event ρ)) : Nat := (values log).head?.elim 0 UInt64.toNat

structure Inv (w : Sys ρ) : Prop where
  sorted : (values w.log).Pairwise (· > ·)
  covered : ∀ v image, Event.issued v image ∈ w.log → ∃ p, image = .valid p ∧ v ≤ p.reservedCeiling
  process : match w.process with
    | none => Files (top w.log) (values w.log ≠ []) w.disk
    | some ⟨s, alloc, none⟩ => Ok (top w.log) (values w.log ≠ []) s alloc w.disk
    | some ⟨_, _, some p⟩ => StoreSafe undisturbed (Files (top w.log) (values w.log ≠ []))
        (Settled (top w.log) (values w.log ≠ [])) (fun _ _ => False) p w.disk

theorem values_events (r : Return ρ) (image : FileImage ρ) (log : List (Event ρ)) :
    values (r.events image ++ log) = r.issued.toList ++ values log := by
  obtain ⟨s, a, l, st, v⟩ := r
  cases v <;> cases st <;> cases l <;> rfl

theorem Inv.files (h : Inv w) : Files (top w.log) (values w.log ≠ []) w.disk := by
  have hp := h.process
  revert hp
  split
  · exact id
  · exact fun hok => hok.store.files_top.mono le_rfl .inl
  · exact fun hsafe => hsafe.now

theorem inv_initial : Inv (initial : Sys ρ) :=
  ⟨.nil, nofun, ⟨nofun, nofun, nofun, nofun, le_rfl, fun h => absurd rfl h⟩⟩

private theorem inv_finish {r : Return ρ} (h : Inv w)
    (hp : w.process = some ⟨s, alloc, some (.done r)⟩) :
    Inv { w with process := some ⟨r.store, r.alloc, none⟩
                 log := r.events w.disk.primary ++ w.log } := by
  have hsafe := h.process
  simp only [hp] at hsafe
  have hr : Settled (top w.log) (values w.log ≠ []) r w.disk := (hsafe w.disk .refl).2
  have hvalues := values_events r w.disk.primary w.log
  unfold Settled at hr
  cases hv : r.issued with
  | none =>
    simp only [hv, toList_none, nil_append] at hr hvalues
    refine ⟨?_, ?_, ?_⟩
    · simpa only [hvalues] using h.sorted
    · intro v image hmem
      refine h.covered v image ?_
      rcases mem_append.mp hmem with hnew | hold
      · simp [Return.events, hv] at hnew
      · exact hold
    · simpa only [top, hvalues] using hr
  | some v =>
    simp only [hv, toList_some, singleton_append] at hr hvalues
    obtain ⟨hgt, hok, p, hprimary, hle⟩ := hr
    have htop : top (r.events w.disk.primary ++ w.log) = v.toNat := by
      simp only [top, hvalues, head?_cons, elim_some]
    refine ⟨?_, ?_, ?_⟩
    · simp only [hvalues]
      refine pairwise_cons.mpr ⟨fun u hu => ?_, h.sorted⟩
      -- the head of the old list bounds its tail, and the new value lies above the head
      have hsorted := h.sorted
      unfold top at hgt
      cases hlog : values w.log with
      | nil => simp [hlog] at hu
      | cons x xs =>
        rw [hlog] at hu hgt hsorted
        have hx : x < v := lt_iff_toNat_lt.mpr hgt
        rcases mem_cons.mp hu with rfl | hu
        · exact hx
        · exact UInt64.lt_trans ((pairwise_cons.mp hsorted).1 u hu) hx
    · intro u image hmem
      rcases mem_append.mp hmem with hnew | hold
      · simp only [Return.events, hv, map_some, toList_some, singleton_append,
          mem_cons, Event.issued.injEq, mem_append, mem_toList,
          map_eq_some_iff, reduceCtorEq, and_false, exists_false, or_false] at hnew
        obtain ⟨rfl, rfl⟩ := hnew
        exact ⟨p, hprimary, hle⟩
      · exact h.covered u image hold
    · simp only [htop, hvalues]
      exact ⟨hok.store.mono_live fun hl => hl.imp (fun _ => trivial) id, hok.alloc⟩

theorem inv_step (empty : ρ) {l : Label ρ} (hl : l.Clean) (h : Inv w) : Inv (step empty w l) := by
  cases l with
  | corrupt f => exact hl.elim
  | crash => exact ⟨h.sorted, h.covered, h.files⟩
  | boot =>
    simp only [step]
    split
    · refine ⟨h.sorted, h.covered, ⟨⟨nofun, le_rfl, ?_⟩, nofun⟩⟩
      exact h.files.mono le_rfl fun hlive => hlive.elim id fun ⟨_, ha, _⟩ => nomatch ha
    · exact h
  | request q =>
    simp only [step]
    split
    · rename_i s alloc hp
      have hok := h.process
      simp only [hp] at hok
      exact ⟨h.sorted, h.covered, program_settled q hok⟩
    · exact h
  | io c =>
    simp only [step]
    split
    · rename_i s alloc p hp
      have hsafe := h.process
      simp only [hp] at hsafe
      exact ⟨h.sorted, h.covered, hsafe.advance trivial⟩
    · exact h
  | finish =>
    simp only [step]
    split
    · rename_i s alloc r hp
      exact inv_finish h hp
    · exact h

theorem inv_run (empty : ρ) (labels : List (Label ρ)) (h : ∀ l ∈ labels, l.Clean) :
    Inv (run empty labels) := by
  have hfold : ∀ (ls : List (Label ρ)) (w : Sys ρ), (∀ l ∈ ls, l.Clean) → Inv w →
      Inv (ls.foldl (step empty) w) := by
    intro ls
    induction ls with
    | nil => exact fun w _ hw => hw
    | cons l ls ih =>
      intro w hls hw
      have hhead := inv_step empty (hls l mem_cons_self) hw
      exact ih _ (fun k hk => hls k (mem_cons_of_mem l hk)) hhead
  exact hfold labels initial h inv_initial

def Exhausted (s : Store ρ) (a : FenceAllocator ρ) : Prop :=
  a.ensureInitialized.ceiling < a.ensureInitialized.next ∧
    maxUint64 - fenceBlockSize < s.state.reservedCeiling

theorem next_exhausted (hs : s.loaded = true) (h : Exhausted s a) :
    (next a s empty).Always fun r => ∃ e, r.call.result = .error e := by
  obtain ⟨hused, hfull⟩ := h
  have hreserve : ∃ e, reserveBlock s.state = .error e := by
    unfold reserveBlock
    split
    · exact ⟨_, rfl⟩
    · exact ⟨_, rfl⟩
  unfold Fence.next
  split
  · exact ⟨_, rfl⟩
  simp only [gt_iff_lt, hused, if_true]
  split
  · exact ⟨_, rfl⟩
  · refine (Prog.always_attempt _).bind ?_
    rintro (e | ⟨⟩) -
    · exact ⟨_, rfl⟩
    · obtain ⟨e, he⟩ := hreserve
      simp only [updateMode, hs, if_true, applyUpdate, he]
      exact ⟨_, rfl⟩

/-- Issued values grow strictly, up to the primary's ceiling; an exhausted allocator fails. -/
theorem fence_values_increase (empty : ρ) (labels : List (Label ρ))
    (hclean : ∀ l ∈ labels, l.Clean) :
    (values (run empty labels).log).reverse.Pairwise (· < ·) ∧
      (∀ v image, Event.issued v image ∈ (run empty labels).log →
        ∃ p, image = .valid p ∧ v ≤ p.reservedCeiling) ∧
      ∀ s a, (run empty labels).process = some ⟨s, some a, none⟩ → Exhausted s a →
        (next a s empty).Always fun r => ∃ e, r.call.result = .error e := by
  have hinv := inv_run empty labels hclean
  refine ⟨pairwise_reverse.mpr hinv.sorted, hinv.covered, fun s a hp hex => ?_⟩
  have hok := hinv.process
  simp only [hp] at hok
  exact next_exhausted (hok.alloc a rfl).loaded hex

private def twoStarts : List (Label Unit) :=
  .boot :: (completedCall .newAllocator 2 ++ completedCall .next 26 ++
    .crash :: .boot :: (completedCall .newAllocator 1 ++ completedCall .next 26))

theorem fence_values_increase_two_starts :
    values (run () twoStarts).log = [1048577, 1] ∧
      (values (run () twoStarts).log).reverse.Pairwise (· < ·) :=
  ⟨by decide +kernel, (fence_values_increase () twoStarts (by
    simp [twoStarts, completedCall, Label.Clean])).1⟩

end QuotaScheduler.FenceSequence

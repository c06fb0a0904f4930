/- An update of the state store is atomic for a load after any failure or crash. -/

import QuotaScheduler.FenceSequence

namespace QuotaScheduler.StoreAtomicity

open Lib Lib.Resumable StateStore StoreRules FenceSequence Option Except

variable {ρ : Type} {empty : ρ} {s : Store ρ} {d t : Disk ρ}

/-- A fresh store that loads from the disk, some operations failing perhaps, can return the state.
-/
def Loads (empty : ρ) (d : Disk ρ) (state : PersistentState ρ) : Prop :=
  ∃ cs r d', (load (newStateStore empty) empty).run exec cs d = (.done r, d') ∧
    r.result = .ok state

/-- A store and its disk after any calls, with a result or an error, from any disk. -/
inductive Served (empty : ρ) : Store ρ → Disk ρ → Prop
  | fresh (d : Disk ρ) : Served empty (newStateStore empty) d
  | load {s : Store ρ} {d d' : Disk ρ} {cs : List Choice} {r} (h : Served empty s d)
      (hrun : (load s empty).run exec cs d = (.done r, d')) : Served empty r.store d'
  | update {s : Store ρ} {d d' : Disk ρ} {cs : List Choice} {r} {fn} {mirrorBackup : Bool}
      (h : Served empty s d)
      (hrun : (updateMode mirrorBackup s empty fn).run exec cs d = (.done r, d')) :
      Served empty r.store d'
  | writeThrough {s s' : Store ρ} {d d' : Disk ρ} {cs : List Choice} {state : PersistentState ρ}
      (h : Served empty s d)
      (hrun : (writeLocked s state).run exec cs d = (.done s', d')) : Served empty s' d'
  | writeFailed {s : Store ρ} {d d' : Disk ρ} {cs : List Choice} {state : PersistentState ρ} {e}
      (h : Served empty s d)
      (hrun : (writeLocked s state).run exec cs d = (.raise e, d')) : Served empty s d'

def migrate (p : PersistentState ρ) : PersistentState ρ :=
  if p.schemaVersion < currentStateSchema then { p with schemaVersion := currentStateSchema } else p

def visible (empty : ρ) (d : Disk ρ) : Option (PersistentState ρ) :=
  match d.primary, d.backup with
  | .valid p, _ => some (migrate p)
  | .absent, .valid b => some (migrate b)
  | .absent, .absent => some (newPersistentState empty)
  | _, _ => none

theorem visible_of_primary {p : PersistentState ρ} (h : d.primary = .valid p) :
    visible empty d = some (migrate p) := by
  simp [visible, h]

theorem migrate_sealState (s : Store ρ) (n : PersistentState ρ) :
    migrate (sealState s n) = sealState s n := by
  simp [migrate, sealState]

theorem state_acceptState_eq (p : PersistentState ρ) (report : RecoveryReport) :
    (acceptState s p report).state = migrate p := by
  simp [acceptState, migrate]

theorem visible_eq_map (empty : ρ) (d : Disk ρ) :
    visible empty d = (found empty d).map (migrate ·.1) := by
  obtain ⟨primary, backup, _, _⟩ := d
  cases primary <;> cases backup <;> rfl

variable {α : Type} {state before : PersistentState ρ} {I : Disk ρ → Prop}

/-- A load that has a state to show only reads, and returns that state. -/
theorem safe_loadLocked {Q : Loaded ρ → Disk ρ → Prop} {E : StoreErr → Disk ρ → Prop}
    (h : visible empty d = some state) (hI : I d) (hE : E .io d)
    (hQ : ∀ l : Loaded ρ, l.state = state → l.store.loaded = true → Q l d) :
    StoreSafe undisturbed I Q E (loadLocked s empty) d := by
  rw [visible_eq_map, map_eq_some_iff] at h
  obtain ⟨⟨p, r⟩, hfound, hp⟩ := h
  exact (safe_loadLocked_iff hfound).mpr ⟨hI, hE, hQ _ ((state_acceptState_eq p r).trans hp) rfl⟩

theorem load_visible (s : Store ρ) (h : visible empty d = some state) :
    StoreSafe undisturbed (· = d) (fun r t => t = d ∧ ∀ st, r.result = .ok st → st = state)
      (fun _ => (· = d)) (load s empty) d := by
  simp only [load, safe_bind_iff, safe_attempt_iff]
  refine safe_loadLocked h rfl (safe_pure_of rfl ⟨rfl, by simp⟩) fun l hl _ => ?_
  exact safe_pure_of rfl ⟨rfl, by simp [hl]⟩

theorem loads_iff {st : PersistentState ρ} (h : visible empty d = some state) :
    Loads empty d st ↔ st = state := by
  constructor
  · rintro ⟨cs, r, d', hrun, hr⟩
    have hsafe := (load_visible (newStateStore empty) h).run (fun _ _ => trivial) cs
    rw [hrun] at hsafe
    exact (hsafe.result rfl).2 st hr
  · rintro rfl
    -- every operation of the load succeeds
    obtain ⟨primary, backup, evidence, evidence'⟩ := d
    cases primary with
    | corrupt => cases backup <;> cases h
    | valid p =>
      refine ⟨[.ok], _, _, rfl, ?_⟩
      rw [state_acceptState_eq, some.inj ((visible_of_primary rfl).symm.trans h)]
    | absent =>
      cases backup with
      | corrupt => cases h
      | valid b =>
        refine ⟨[.ok, .ok], _, _, rfl, ?_⟩
        rw [state_acceptState_eq]
        exact congrArg ok (some.inj h)
      | absent =>
        refine ⟨[.ok, .ok], _, _, rfl, ?_⟩
        exact congrArg ok (some.inj h)

def Between (empty : ρ) (before after : PersistentState ρ) (d : Disk ρ) : Prop :=
  visible empty d = some before ∨ visible empty d = some after

def Holds (mirrorBackup : Bool) (state : PersistentState ρ) (d : Disk ρ) : Prop :=
  d.primary = .valid state ∧ (mirrorBackup = true → d.backup = .valid state)

theorem between_set_backup {new : PersistentState ρ} {mirrorBackup : Bool} {image : FileImage ρ}
    (h : visible empty d = some before) (hnew : migrate new = new)
    (himage : image = .valid new ∨ mirrorBackup = false ∧ d.primary = image ∧ image ≠ .absent) :
    Between empty before new (d.set .backup image) := by
  cases hp : d.primary with
  | valid p =>
    rw [visible_of_primary hp] at h
    exact .inl (h ▸ visible_of_primary (d := d.set .backup image) hp)
  | corrupt => simp [visible, hp] at h
  | absent =>
    -- without a primary the load takes the backup, which is the new state already
    rcases himage with rfl | ⟨-, hsame, hpresent⟩
    · refine .inr ?_
      simp [visible, TwoFiles.Disk.set, hp, hnew]
    · exact absurd (hsame.symm.trans hp) hpresent

theorem writeLockedMode_atomic (s : Store ρ) (n : PersistentState ρ) (mirrorBackup : Bool)
    (h : visible empty d = some before) :
    StoreSafe undisturbed (Between empty before (sealState s n))
      (fun s' t => s' = { s with state := sealState s n, loaded := true } ∧
        Holds mirrorBackup (sealState s n) t)
      (fun _ => Between empty before (sealState s n)) (writeLockedMode s n mirrorBackup) d := by
  refine safe_writeLockedMode (.inl h) (fun _ => .inl h) ?_
  rintro image himage _ rfl
  have hbackup := between_set_backup h (migrate_sealState s n) himage
  refine ⟨⟨hbackup, hbackup⟩, ?_⟩
  rintro _ rfl
  have hafter : Between empty before (sealState s n)
      ((d.set .backup image).set .primary (.valid (sealState s n))) :=
    .inr ((visible_of_primary rfl).trans (congrArg some (migrate_sealState s n)))
  refine ⟨hafter, hafter, rfl, rfl, fun hmirror => ?_⟩
  rcases himage with rfl | ⟨hno, -⟩
  · rfl
  · rw [hmirror] at hno
    cases hno

structure Kept (mirrorBackup : Bool) (s : Store ρ)
    (fn : PersistentState ρ → Except StoreErr (PersistentState ρ))
    (r : CallResult ρ (PersistentState ρ)) (d : Disk ρ) : Prop where
  failed : ∀ e, r.result = .error e → r.store = s
  stored : ∀ st, r.result = .ok st → r.store.state = st ∧
    (∃ next, fn s.state = .ok next ∧ st = sealState s next) ∧ Holds mirrorBackup st d

def Shows (empty : ρ) (s : Store ρ) (fn : PersistentState ρ → Except StoreErr (PersistentState ρ))
    (before : PersistentState ρ) (d : Disk ρ) : Prop :=
  ∃ st, visible empty d = some st ∧
    (st = before ∨ ∃ next, fn s.state = .ok next ∧ st = sealState s next)

theorem applyUpdate_atomic (mirrorBackup : Bool) (loaded : Option (PersistentState ρ))
    (fn : PersistentState ρ → Except StoreErr (PersistentState ρ))
    (h : visible empty d = some before) :
    StoreSafe undisturbed (Shows empty s fn before)
      (fun r t => Shows empty s fn before t ∧ Kept mirrorBackup s fn r t)
      (fun _ => Shows empty s fn before) (applyUpdate mirrorBackup s loaded fn) d := by
  unfold applyUpdate
  split
  next e hfn =>
    have hshows : Shows empty s fn before d := ⟨before, h, .inl rfl⟩
    exact safe_pure_of hshows ⟨hshows, fun _ _ => rfl, by simp⟩
  next next hfn =>
    have hshows : ∀ t, Between empty before (sealState s next) t → Shows empty s fn before t := by
      rintro t (ht | ht)
      · exact ⟨before, ht, .inl rfl⟩
      · exact ⟨_, ht, .inr ⟨next, hfn, rfl⟩⟩
    simp only [safe_bind_iff, safe_attempt_iff]
    refine (writeLockedMode_atomic s next mirrorBackup h).mono hshows ?_ ?_
    · rintro _ t ⟨rfl, hholds⟩
      have hshow : Shows empty s fn before t := by
        refine hshows t (.inr ?_)
        rw [visible_of_primary hholds.1, migrate_sealState]
      refine safe_pure_of hshow ⟨hshow, by simp, fun st hst => ?_⟩
      obtain rfl := ok.inj hst
      exact ⟨rfl, ⟨next, hfn, rfl⟩, hholds⟩
    · intro e t ht
      exact safe_pure_of (hshows t ht) ⟨hshows t ht, fun _ _ => rfl, by simp⟩

def Readable (empty : ρ) (d : Disk ρ) : Prop := ∃ st, visible empty d = some st

theorem readable_of_primary {p : PersistentState ρ} (h : d.primary = .valid p) :
    Readable empty d := ⟨_, visible_of_primary h⟩

/-- Anything may happen to the disk on the way. -/
abbrev Ends (Q : α → Disk ρ → Prop) (p : StoreProg ρ α) (d : Disk ρ) : Prop :=
  StoreSafe undisturbed (fun _ => True) Q (fun _ _ => True) p d

theorem ends_bind {β : Type} {Q : β → Disk ρ → Prop} (p : StoreProg ρ α) {f : α → StoreProg ρ β}
    (h : ∀ a t, Ends Q (f a) t) : Ends Q (p >>= f) d :=
  (safe_bind_iff p f).mpr (safe_of_forall (fun _ => trivial) h (fun _ _ => trivial) p)

theorem writeLocked_readable (empty : ρ) (s : Store ρ) (n : PersistentState ρ) :
    Ends (fun s' t => s'.loaded = true ∧ Readable empty t) (writeLocked s n) d := by
  refine safe_writeLockedMode trivial (fun _ => trivial) fun image _ t _ => ⟨⟨trivial, trivial⟩, ?_⟩
  rintro _ rfl
  exact ⟨trivial, trivial, rfl, readable_of_primary rfl⟩

abbrev LoadSafe (empty : ρ) (p : StoreProg ρ (Loaded ρ)) (d : Disk ρ) : Prop :=
  Ends (fun l t => l.store.loaded = true ∧ Readable empty t) p d

variable {primaryCorrupt backupCorrupt : Bool}

theorem recoverEmpty_readable :
    LoadSafe empty (recoverEmpty s empty primaryCorrupt backupCorrupt) d := by
  have hwrite : ∀ t, LoadSafe empty (do
      let s ← writeLocked s { newPersistentState empty with fenceUnsafe := true }
      pure ⟨s, { newPersistentState empty with fenceUnsafe := true },
        { recoveredEmpty := true, fenceUnsafe := true }⟩) t := by
    intro t
    exact (writeLocked_readable empty s _).bind fun s' u hu => safe_pure_of trivial hu
  cases primaryCorrupt <;> cases backupCorrupt
  · exact hwrite d
  · exact ends_bind _ fun _ => hwrite
  · exact ends_bind _ fun _ => hwrite
  · exact ends_bind _ fun _ _ => ends_bind _ fun _ => hwrite

theorem recoverBackup_readable (st : PersistentState ρ) :
    LoadSafe empty (recoverBackup s st true) d := by
  refine ends_bind (quarantine .primary) fun _ t => ?_
  simp only [safe_bind_iff, safe_writeAtomic_iff]
  exact ⟨trivial, trivial, trivial, trivial, safe_pure_of trivial ⟨rfl, readable_of_primary rfl⟩⟩

theorem loadLocked_readable : LoadSafe empty (loadLocked s empty) d := by
  by_cases hreadable : Readable empty d
  · obtain ⟨st, hst⟩ := hreadable
    exact safe_loadLocked hst trivial trivial fun l _ hloaded => ⟨hloaded, st, hst⟩
  · -- without a state to show some file is corrupt
    simp only [loadLocked, safe_bind_iff, safe_readPersistentState_iff, TwoFiles.Disk.get]
    refine ⟨trivial, ?_, by simp⟩
    obtain ⟨primary, backup, primaryCorrupt', backupCorrupt'⟩ := d
    cases primary with
    | valid p => exact absurd ⟨_, rfl⟩ hreadable
    | absent =>
      cases backup with
      | valid b => exact absurd ⟨_, rfl⟩ hreadable
      | absent => exact absurd ⟨_, rfl⟩ hreadable
      | corrupt =>
        simp only [ReadResult.ofImage, safe_bind_iff, safe_readPersistentState_iff,
          TwoFiles.Disk.get]
        exact ⟨trivial, recoverEmpty_readable, by simp⟩
    | corrupt =>
      simp only [ReadResult.ofImage, safe_bind_iff, safe_readPersistentState_iff, TwoFiles.Disk.get]
      refine ⟨trivial, ?_, by simp⟩
      cases backup with
      | valid b => exact recoverBackup_readable b
      | absent => exact recoverEmpty_readable
      | corrupt => exact recoverEmpty_readable

/-- A caller that fails with the load keeps its store. -/
theorem load_then {Q : α → Disk ρ → Prop} {f : Except StoreErr (Loaded ρ) → StoreProg ρ α}
    (herr : ∀ e t, Ends Q (f (.error e)) t)
    (hok : ∀ l t, Readable empty t → Ends Q (f (.ok l)) t) :
    Ends Q ((loadLocked s empty).attempt >>= f) d := by
  simp only [safe_bind_iff, safe_attempt_iff]
  exact loadLocked_readable.mono (fun _ h => h) (fun l t ht => hok l t ht.2) fun e t _ => herr e t

theorem served_readable (h : Served empty s d) : s.loaded = true → Readable empty d := by
  induction h with
  | fresh d =>
    intro hloaded
    cases hloaded
  | @load s d d' cs r _ hrun ih =>
    intro hloaded
    by_cases hs : s.loaded = true
    · obtain ⟨st, hst⟩ := ih hs
      have hsafe := (load_visible s hst).run (fun _ _ => trivial) cs
      rw [hrun] at hsafe
      obtain ⟨rfl, -⟩ := hsafe.result rfl
      exact ⟨st, hst⟩
    · have hload : Ends (fun r t => r.store.loaded = true → Readable empty t) (load s empty) d :=
        load_then (fun _ _ => safe_pure_of trivial fun h => absurd h hs)
          fun _ _ ht => safe_pure_of trivial fun _ => ht
      have hsafe := hload.run (fun _ _ => trivial) cs
      rw [hrun] at hsafe
      exact hsafe.result rfl hloaded
  | @update s d d' cs r fn mirrorBackup _ hrun ih =>
    intro hloaded
    have happly : ∀ (s : Store ρ) loaded t, Readable empty t →
        Ends (fun r t => r.store.loaded = true → Readable empty t)
          (applyUpdate mirrorBackup s loaded fn) t := by
      rintro s loaded t ⟨st, hst⟩
      refine (applyUpdate_atomic mirrorBackup loaded fn hst).mono (fun _ _ => trivial) ?_
        fun _ _ _ => trivial
      rintro r u ⟨⟨st', hst', -⟩, -⟩ -
      exact ⟨st', hst'⟩
    have hupdate : Ends (fun r t => r.store.loaded = true → Readable empty t)
        (updateMode mirrorBackup s empty fn) d := by
      unfold updateMode
      split
      next hs => exact happly s none d (ih hs)
      next hs =>
        exact load_then (fun _ _ => safe_pure_of trivial fun h => absurd h hs)
          fun l t ht => happly l.store _ t ht
    have hsafe := hupdate.run (fun _ _ => trivial) cs
    rw [hrun] at hsafe
    exact hsafe.result rfl hloaded
  | @writeThrough s s' d d' cs state _ hrun _ =>
    intro _
    have hsafe := (writeLocked_readable empty s state (d := d)).run (fun _ _ => trivial) cs
    rw [hrun] at hsafe
    exact (hsafe.result rfl).2
  | @writeFailed s d d' cs state e _ hrun ih =>
    intro hloaded
    obtain ⟨st, hst⟩ := ih hloaded
    have hsafe := (writeLockedMode_atomic s state false hst).run (fun _ _ => trivial) cs
    have hd : ((writeLockedMode s state false).run exec cs d).2 = d' :=
      congrArg Prod.snd hrun
    have hbetween := hsafe.now
    rw [hd] at hbetween
    rcases hbetween with h | h
    · exact ⟨_, h⟩
    · exact ⟨_, h⟩

/-- After any number of its file operations a fresh store loads the old state or the new one; an
error leaves the memory, and a success is in the primary, and in a mirrored backup. -/
theorem update_is_atomic (empty : ρ) {s : Store ρ} {d d' : Disk ρ} (hserved : Served empty s d)
    (hloaded : s.loaded = true) (mirrorBackup : Bool)
    (fn : PersistentState ρ → Except StoreErr (PersistentState ρ)) (cs : List Choice)
    {p : StoreProg ρ (CallResult ρ (PersistentState ρ))}
    (hrun : (updateMode mirrorBackup s empty fn).run exec cs d = (p, d')) :
    (∃ after, Loads empty d' after) ∧
    (∀ before after, Loads empty d before → Loads empty d' after →
      after = before ∨ ∃ next, fn s.state = .ok next ∧ after = sealState s next) ∧
    ∀ r, p = .done r →
      (∀ e, r.result = .error e → r.store = s) ∧
      ∀ st, r.result = .ok st → r.store.state = st ∧
        (∃ next, fn s.state = .ok next ∧ st = sealState s next) ∧ Loads empty d' st ∧
        d'.primary = .valid st ∧ (mirrorBackup = true → d'.backup = .valid st) := by
  obtain ⟨before, hbefore⟩ := served_readable hserved hloaded
  have hmode : updateMode mirrorBackup s empty fn = applyUpdate mirrorBackup s none fn :=
    if_pos hloaded
  have hsafe := (applyUpdate_atomic mirrorBackup none fn hbefore (s := s)).run
    (fun _ _ => trivial) cs
  rw [← hmode, hrun] at hsafe
  obtain ⟨st, hst, hcases⟩ := hsafe.now
  refine ⟨⟨st, (loads_iff hst).mpr rfl⟩, ?_, ?_⟩
  · intro b a hb ha
    rw [(loads_iff hst).mp ha, (loads_iff hbefore).mp hb]
    exact hcases
  · intro r hr
    obtain ⟨-, hkept⟩ := hsafe.result hr
    refine ⟨hkept.failed, fun x hx => ?_⟩
    obtain ⟨hmemory, ⟨next, hnext, rfl⟩, hholds⟩ := hkept.stored x hx
    refine ⟨hmemory, ⟨next, hnext, rfl⟩, ?_, hholds⟩
    exact (loads_iff (by rw [visible_of_primary hholds.1, migrate_sealState])).mpr rfl

def firstStore : Store Nat := (acceptState (newStateStore 0) (newPersistentState 0) {}).store

theorem firstStore_served : Served 0 firstStore Disk.blank := by
  have hrun : (load (newStateStore 0) 0).run exec [.ok, .ok] Disk.blank =
      (.done ⟨firstStore, some firstStore.state, none, .ok firstStore.state⟩, Disk.blank) := rfl
  exact .load (.fresh Disk.blank) hrun

def setRest (n : Nat) (s : PersistentState Nat) : Except StoreErr (PersistentState Nat) :=
  .ok { s with rest := n }

def firstUpdate : Store Nat :=
  { firstStore with state := sealState firstStore { firstStore.state with rest := 7 } }

theorem first_mirrored_update_is_atomic :
    ∃ d', d'.primary = .valid firstUpdate.state ∧ d'.backup = .valid firstUpdate.state ∧
      Loads 0 d' firstUpdate.state := by
  have hrun : (updateMode true firstStore 0 (setRest 7)).run exec (.replicate 24 .ok)
      Disk.blank = (.done ⟨firstUpdate, none, some firstUpdate.state, .ok firstUpdate.state⟩,
        ⟨.valid firstUpdate.state, .valid firstUpdate.state, .absent, .absent, ()⟩) := rfl
  obtain ⟨-, -, hdone⟩ := update_is_atomic 0 firstStore_served rfl true (setRest 7)
    (.replicate 24 .ok) hrun
  obtain ⟨-, -, hloads, hprimary, hbackup⟩ := (hdone _ rfl).2 firstUpdate.state rfl
  exact ⟨_, hprimary, hbackup rfl, hloads⟩

end QuotaScheduler.StoreAtomicity

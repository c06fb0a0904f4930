/- When a recovering load can return a ceiling below one already stored. -/

import QuotaScheduler.Fence
import QuotaScheduler.StoreRules

namespace QuotaScheduler.FenceRecovery

open Lib Lib.Resumable StateStore StoreRules Fence List

variable {ρ : Type}

/-- The backup parses and would be trusted, but is older than the primary. -/
def backupBehind (d : Disk ρ) : Bool :=
  match d.primary, d.backup with
  | .valid p, .valid b =>
    !b.fenceUnsafe && (p.fenceUnsafe || decide (b.reservedCeiling < p.reservedCeiling))
  | _, _ => false

def EvidenceOnly (d : Disk ρ) : Prop :=
  d.primary = .absent ∧ d.backup = .absent ∧
    (d.primaryCorrupt ≠ .absent ∨ d.backupCorrupt ≠ .absent)

instance [DecidableEq ρ] (d : Disk ρ) : Decidable (EvidenceOnly d) :=
  inferInstanceAs (Decidable (_ ∧ _ ∧ (_ ∨ _)))

/-- The primary stays while the backup is behind; nothing fails while only quarantined bytes are
left. -/
def Permitted (w : Sys ρ) : Label ρ → Prop
  | .corrupt .primary => backupBehind w.disk = false
  | .io .fail => ¬ EvidenceOnly w.disk
  | .crash => ¬ EvidenceOnly w.disk
  | _ => True

instance [DecidableEq ρ] (w : Sys ρ) : (l : Label ρ) → Decidable (Permitted w l)
  | .corrupt .primary => inferInstanceAs (Decidable (_ = _))
  | .corrupt .backup => .isTrue trivial
  | .io .fail => inferInstanceAs (Decidable (¬ _))
  | .io .ok => .isTrue trivial
  | .crash => inferInstanceAs (Decidable (¬ _))
  | .boot => .isTrue trivial
  | .request _ => .isTrue trivial
  | .finish => .isTrue trivial

def PermittedFrom (empty : ρ) : Sys ρ → List (Label ρ) → Prop
  | _, [] => True
  | w, l :: labels => Permitted w l ∧ PermittedFrom empty (step empty w l) labels

instance decidablePermittedFrom [DecidableEq ρ] (empty : ρ) :
    (w : Sys ρ) → (labels : List (Label ρ)) → Decidable (PermittedFrom empty w labels)
  | _, [] => .isTrue trivial
  | w, l :: labels =>
    have := decidablePermittedFrom empty (step empty w l) labels
    inferInstanceAs (Decidable (_ ∧ _))

/-- The state is marked unsafe or has every stored ceiling below its own. -/
def Covers (stored : List UInt64) (p : PersistentState ρ) : Prop :=
  p.fenceUnsafe = true ∨ ∀ c ∈ stored, c ≤ p.reservedCeiling

/-- What a load would read covers the stored ceilings; no file has a newer schema. -/
structure Kept (stored : List UInt64) (d : Disk ρ) : Prop where
  schema : ∀ f p, d.get f = .valid p → p.schemaVersion ≤ currentStateSchema
  primary : ∀ p, d.primary = .valid p → Covers stored p
  backup : (∀ p, d.primary ≠ .valid p) → ∀ b, d.backup = .valid b → Covers stored b
  fresh : d.primary = .absent → d.backup = .absent → stored = []

def corrupting : Contract Choice (Disk ρ) where
  rely d d' := ∃ f, d' = corruptFile d f ∧ (f = .primary → backupBehind d = false)
  allow d c := c = .fail → ¬ EvidenceOnly d

variable {image : FileImage ρ}

theorem get_set_of_ne {d : Disk ρ} {f g : FileName} (h : f ≠ g) :
    (d.set f image).get g = d.get g := by
  cases f <;> cases g <;> first | exact absurd rfl h | rfl

@[simp] theorem get_set_self (d : Disk ρ) (f : FileName) :
    (d.set f image).get f = image := by
  cases f <;> rfl

theorem schema_set {d : Disk ρ} {f : FileName}
    (h : ∀ g p, d.get g = .valid p → p.schemaVersion ≤ currentStateSchema)
    (himage : ∀ p, image = .valid p → p.schemaVersion ≤ currentStateSchema) :
    ∀ g p, (d.set f image).get g = .valid p → p.schemaVersion ≤ currentStateSchema := by
  intro g p hp
  by_cases hfg : f = g
  · rw [hfg, get_set_self] at hp
    exact himage p hp
  · exact h g p (by rwa [get_set_of_ne hfg] at hp)

theorem corruptFile_cases (d : Disk ρ) (f : FileName) :
    corruptFile d f = d ∨ d.get f ≠ .absent ∧ corruptFile d f = d.set f .corrupt := by
  unfold corruptFile
  cases hf : d.get f with
  | absent => exact .inl rfl
  | corrupt | valid p => exact .inr ⟨nofun, rfl⟩

variable {P : Disk ρ → Prop}

theorem stable_of_set
    (h : ∀ d f, P d → d.get f ≠ .absent → (f = .primary → backupBehind d = false) →
      P (d.set f .corrupt)) : (@corrupting ρ).Stable P := by
  rintro d _ ⟨f, rfl, hf⟩ hd
  rcases corruptFile_cases d f with heq | ⟨hne, heq⟩
  · rwa [heq]
  · rw [heq]
    exact h d f hd hne hf

variable {stored : List UInt64}

theorem Covers.of_le {p b : PersistentState ρ} (h : Covers stored p)
    (hmark : p.fenceUnsafe = true → b.fenceUnsafe = true)
    (hle : p.reservedCeiling ≤ b.reservedCeiling) : Covers stored b := by
  rcases h with hp | hp
  · exact .inl (hmark hp)
  · exact .inr fun c hc => UInt64.le_trans (hp c hc) hle

theorem kept_stable (stored : List UInt64) : (@corrupting ρ).Stable (Kept stored) := by
  refine stable_of_set fun d f h hne hbehind => ?_
  have hschema : ∀ g p, (d.set f .corrupt).get g = .valid p →
      p.schemaVersion ≤ currentStateSchema := schema_set h.schema fun p hp => by cases hp
  cases f with
  | backup => exact ⟨hschema, h.primary, fun _ b hb => (by cases hb), fun _ hb => by cases hb⟩
  | primary =>
    refine ⟨hschema, fun p hp => (by cases hp), fun _ b hb => ?_, fun hp => by cases hp⟩
    change d.backup = .valid b at hb
    cases hp : d.primary with
    | absent => exact absurd hp hne
    | corrupt => exact h.backup (fun p hv => by rw [hp] at hv; cases hv) b hb
    | valid p =>
      -- the backup is trusted only if it is not behind the bytes that are lost
      have hnot := hbehind rfl
      simp only [backupBehind, hp, hb] at hnot
      by_cases hb' : b.fenceUnsafe = true
      · exact .inl hb'
      · simp only [hb', Bool.not_false, Bool.true_and, Bool.or_eq_false_iff,
          decide_eq_false_iff_not] at hnot
        refine (h.primary p hp).of_le (fun hu => ?_) (UInt64.not_lt.mp hnot.2)
        rw [hnot.1] at hu
        cases hu

theorem corrupt_stable (g : FileName) : (@corrupting ρ).Stable fun d => d.get g = .corrupt := by
  refine stable_of_set fun d f h _ _ => ?_
  by_cases hfg : f = g
  · rw [hfg, get_set_self]
  · rwa [get_set_of_ne hfg]

theorem absent_stable (g : FileName) : (@corrupting ρ).Stable fun d => d.get g = .absent := by
  refine stable_of_set fun d f h hne _ => ?_
  have hfg : f ≠ g := fun he => hne (he ▸ h)
  rwa [get_set_of_ne hfg]

theorem present_stable (g : FileName) : (@corrupting ρ).Stable fun d => d.get g ≠ .absent := by
  refine stable_of_set fun d f h _ _ => ?_
  by_cases hfg : f = g
  · rw [hfg, get_set_self]
    exact nofun
  · rwa [get_set_of_ne hfg]

theorem evidenceOnly_stable : (@corrupting ρ).Stable EvidenceOnly := by
  refine stable_of_set fun d f h hne _ => ?_
  cases f with
  | primary => exact absurd h.1 hne
  | backup => exact absurd h.2.1 hne

def Recovering (stored : List UInt64) (d : Disk ρ) : Prop := Kept stored d ∨ EvidenceOnly d

theorem cut_kept (hP : (@corrupting ρ).Stable P)
    (h : ∀ t, P t → Kept stored t) : Cut corrupting (Recovering stored) (fun _ => Kept stored) P :=
  .of_stable hP (fun t ht => .inl (h t ht)) (fun _ => kept_stable stored) (fun _ _ => .inl)
    fun t ht _ => h t ht

theorem cut_evidenceOnly (hP : (@corrupting ρ).Stable P)
    (h : ∀ t, P t → EvidenceOnly t) : Cut corrupting (Recovering stored) (fun _ => Kept stored) P :=
  .of_stable hP (fun t ht => .inr (h t ht)) (fun _ => kept_stable stored) (fun _ _ => .inl)
    fun t ht hc => absurd (h t ht) (hc rfl)

section Write

variable {d : Disk ρ} {s : Store ρ} {n : PersistentState ρ}

theorem covers_sealState (h : Covers stored n) : Covers stored (sealState s n) :=
  h.of_le (fun hu => by simp [sealState, hu]) (UInt64.le_refl _)

theorem Covers.cons (h : Covers stored n) : Covers (n.reservedCeiling :: stored) n := by
  rcases h with hu | hle
  · exact .inl hu
  · refine .inr fun c hc => ?_
    rcases mem_cons.mp hc with rfl | hc
    · exact UInt64.le_refl _
    · exact hle c hc

theorem Covers.tail {c : UInt64} (h : Covers (c :: stored) n) : Covers stored n :=
  h.imp id fun hle x hx => hle x (mem_cons_of_mem c hx)

theorem Kept.tail {c : UInt64} (h : Kept (c :: stored) d) : Kept stored d :=
  ⟨h.schema, fun p hp => (h.primary p hp).tail, fun hv b hb => (h.backup hv b hb).tail,
    fun hp hb => absurd (h.fresh hp hb) (cons_ne_nil _ _)⟩

structure Fit (stored : List UInt64) (image : FileImage ρ) : Prop where
  present : image ≠ .absent
  schema : ∀ p, image = .valid p → p.schemaVersion ≤ currentStateSchema
  covers : ∀ p, image = .valid p → Covers stored p

theorem fit_valid (hschema : n.schemaVersion ≤ currentStateSchema) (h : Covers stored n) :
    Fit stored (.valid n) :=
  ⟨nofun, fun p hp => by cases hp; exact hschema, fun p hp => by cases hp; exact h⟩

theorem fit_sealState (h : Covers stored n) : Fit stored (.valid (sealState s n)) :=
  fit_valid (Int.le_refl _) (covers_sealState h)

theorem Kept.set_backup (h : Kept stored d) (himage : Fit stored image) :
    Kept stored (d.set .backup image) :=
  ⟨schema_set h.schema himage.schema, h.primary, fun _ b hb => himage.covers b hb,
    fun _ hb => absurd hb himage.present⟩

theorem Kept.set_primary {stored' : List UInt64} (h : Kept stored d)
    (hn : Fit stored' (.valid n)) : Kept stored' (d.set .primary (.valid n)) :=
  ⟨schema_set h.schema hn.schema, fun p hp => hn.covers p hp, fun hv => absurd rfl (hv n),
    fun hp => by cases hp⟩

variable {mirrorBackup : Bool}

theorem writeLockedMode_kept (hn : Covers stored n) (h : Kept stored d) :
    StoreSafe corrupting (Recovering stored)
      (fun s' t => s' = { s with state := sealState s n, loaded := true } ∧
        Kept (n.reservedCeiling :: stored) t)
      (fun _ => Kept stored) (writeLockedMode s n mirrorBackup) d := by
  have hcut := cut_kept (@kept_stable ρ stored) fun _ ht => ht
  have hraw : Fit stored (.valid (sealState s n)) := fit_sealState hn
  refine writeLockedMode_safe (P := Kept stored) (A := Kept stored)
    (R := Kept (n.reservedCeiling :: stored)) (B := fun image t => Kept stored t ∧ Fit stored image)
    hcut (fun image => cut_kept ((kept_stable stored).and (Contract.stable_const _))
      fun _ ht => ht.1) hcut (cut_kept (kept_stable _) fun _ ht => ht.tail) ?_ ?_
    (fun t ht _ => ⟨ht, hraw⟩) (fun t image ht => ht.1.set_backup ht.2)
    (fun t ht => ht.set_primary (fit_sealState hn.cons)) h
  · exact fun _ => safe_raise (kept_stable stored) (fun _ ht => .inl ht) (fun _ ht => ht) h
  · intro t ht
    refine ⟨ht, ?_⟩
    cases hp : t.primary with
    | absent => exact hraw
    | corrupt =>
      cases mirrorBackup with
      | true => exact hraw
      | false => exact ⟨nofun, fun p hv => (by cases hv), fun p hv => by cases hv⟩
    | valid p =>
      cases mirrorBackup with
      | true => exact hraw
      | false => exact fit_valid (ht.schema .primary p hp) (ht.primary p hp)

theorem writeLocked_marked (hs : s.readOnly = false) (hn : n.fenceUnsafe = true)
    (h : EvidenceOnly d) :
    StoreSafe corrupting (Recovering stored)
      (fun s' t => s' = { s with state := sealState s n, loaded := true } ∧ Kept stored t)
      (fun _ => Kept stored) (writeLocked s n) d := by
  have hraw : Fit stored (.valid (sealState s n)) := fit_sealState (.inl hn)
  have hcut := cut_kept (@kept_stable ρ stored) fun _ ht => ht
  refine writeLockedMode_safe (P := EvidenceOnly) (A := Kept stored) (R := Kept stored)
    (B := fun image t => EvidenceOnly t ∧ image = .valid (sealState s n))
    (cut_evidenceOnly evidenceOnly_stable fun _ ht => ht)
    (fun image => cut_evidenceOnly (evidenceOnly_stable.and (Contract.stable_const _))
      fun _ ht => ht.1) hcut hcut (fun hro => by rw [hs] at hro; cases hro) ?_
    (fun _ _ hm => by cases hm) ?_ (fun t ht => ht.set_primary hraw) h
  · intro t ht
    rw [ht.1]
    exact ⟨ht, rfl⟩
  · -- the first file that reappears is the backup, already marked unsafe
    rintro t image ⟨⟨hp, hb, -⟩, rfl⟩
    have hschema : ∀ g p, t.get g = .valid p → p.schemaVersion ≤ currentStateSchema := by
      intro g p hv
      cases g with
      | primary => rw [show t.get .primary = .absent from hp] at hv; cases hv
      | backup => rw [show t.get .backup = .absent from hb] at hv; cases hv
    refine ⟨schema_set hschema hraw.schema, fun p hv => ?_, fun _ b hv => hraw.covers b hv,
      fun _ hv => by cases hv⟩
    change t.primary = .valid p at hv
    rw [hp] at hv
    cases hv

end Write

section Load

variable {d : Disk ρ} {s : Store ρ}

theorem Kept.moveAside_primary (h : Kept stored d) (hp : d.primary = .corrupt)
    (hb : d.backup ≠ .absent) : Kept stored (d.moveAside .primary) := by
  have hcovers := h.backup fun p hv => by rw [hp] at hv; cases hv
  refine ⟨fun g p hv => ?_, fun p hv => (by cases hv), fun _ b hv => hcovers b hv,
    fun _ hv => absurd hv hb⟩
  cases g with
  | primary => cases hv
  | backup => exact h.schema .backup p hv

variable {t : Disk ρ}

private theorem keptRaise {α : Type} {Q : α → Disk ρ → Prop} {e : StoreErr} (h : Kept stored t) :
    StoreSafe corrupting (Recovering stored) Q (fun _ => Kept stored) (.raise e) t :=
  safe_raise (kept_stable stored) (fun _ ht => .inl ht) (fun _ ht => ht) h

theorem quarantine_last (f g : FileName) (hfg : f ≠ g)
    (h : Kept stored d ∧ d.get f = .corrupt ∧ d.get g = .absent) :
    StoreSafe corrupting (Recovering stored) (fun _ => EvidenceOnly) (fun _ => Kept stored)
      (quarantine f) d := by
  refine quarantine_safe (P := fun t => Kept stored t ∧ t.get f = .corrupt ∧ t.get g = .absent)
    (cut_kept ((kept_stable stored).and ((corrupt_stable f).and (absent_stable g))) fun _ ht =>
      ht.1)
    (cut_evidenceOnly evidenceOnly_stable fun _ ht => ht) (fun t ht => by simp [ht.2.1])
    (fun t ht => keptRaise ht.1) ?_ h
  rintro t ⟨-, hf, hg⟩
  have hthere : t.get f ≠ .absent := by simp [hf]
  cases f <;> cases g
  · exact absurd rfl hfg
  · exact ⟨rfl, hg, .inl hthere⟩
  · exact ⟨hg, rfl, .inr hthere⟩
  · exact absurd rfl hfg

theorem quarantine_primary_first {R : Disk ρ → Prop} (hR : (@corrupting ρ).Stable R)
    (hbackup : ∀ t, R t → t.backup ≠ .absent) (hmove : ∀ t, R t → R (t.moveAside .primary))
    (h : Kept stored d ∧ d.primary = .corrupt ∧ R d) :
    StoreSafe corrupting (Recovering stored)
      (fun _ t => Kept stored t ∧ t.primary = .absent ∧ R t) (fun _ => Kept stored)
      (quarantine .primary) d := by
  refine quarantine_safe (P := fun t => Kept stored t ∧ t.primary = .corrupt ∧ R t)
    (cut_kept ((kept_stable stored).and ((corrupt_stable .primary).and hR)) fun _ ht => ht.1)
    (cut_kept ((kept_stable stored).and ((absent_stable .primary).and hR)) fun _ ht => ht.1)
    (fun t ht => by simp [TwoFiles.Disk.get, ht.2.1]) (fun t ht => keptRaise ht.1) ?_ h
  rintro t ⟨hk, hp, hr⟩
  exact ⟨hk.moveAside_primary hp (hbackup t hr), rfl, hmove t hr⟩

structure LoadOk (stored : List UInt64) (l : Loaded ρ) (t : Disk ρ) : Prop where
  kept : Kept stored t
  writable : l.store.readOnly = false
  state : Covers stored l.state
  memory : Covers stored l.store.state

abbrev LoadSafe (stored : List UInt64) (p : StoreProg ρ (Loaded ρ)) (t : Disk ρ) : Prop :=
  StoreSafe corrupting (Recovering stored) (LoadOk stored) (fun _ => Kept stored) p t

theorem safe_load {l : Loaded ρ} (hk : Kept stored t) (hw : l.store.readOnly = false)
    (hs : Covers stored l.state) (hm : Covers stored l.store.state) :
    LoadSafe stored (pure l) t :=
  safe_pure (kept_stable stored) (fun _ ht => .inl ht) (fun _ ht => ⟨ht, hw, hs, hm⟩) hk

theorem safe_acceptState {p : PersistentState ρ} (r : RecoveryReport) (hs : s.readOnly = false)
    (hk : Kept stored t) (hp : Covers stored p) (hschema : p.schemaVersion ≤ currentStateSchema) :
    LoadSafe stored (pure (acceptState s p r)) t := by
  have hstate : Covers stored (acceptState s p r).store.state := by
    refine hp.of_le (fun hu => ?_) ?_
    · simp only [acceptState]
      split <;> exact hu
    · simp only [acceptState]
      split <;> exact UInt64.le_refl _
  refine safe_load hk ?_ hstate hstate
  simp only [acceptState, hs, Bool.false_or, decide_eq_false_iff_not, Int.not_lt]
  exact hschema

variable {empty : ρ}

theorem recoverEmpty_tail (hs : s.readOnly = false) (h : EvidenceOnly t) :
    LoadSafe stored
      (do let s ← writeLocked s { newPersistentState empty with fenceUnsafe := true }
          pure ({ store := s, state := { newPersistentState empty with fenceUnsafe := true }
                  report := { recoveredEmpty := true, fenceUnsafe := true } } : Loaded ρ)) t := by
  refine (writeLocked_marked hs rfl h).bind ?_
  rintro s' u ⟨rfl, hk⟩
  exact safe_load hk hs (.inl rfl) (.inl rfl)

theorem loadLocked_kept (hs : s.readOnly = false) (h : Kept stored d) :
    LoadSafe stored (loadLocked s empty) d := by
  have hcut := cut_kept (@kept_stable ρ stored) fun _ ht => ht
  refine readPersistentState_safe hcut ?_ ?_ ?_ (fun t ht _ => keptRaise ht) h
  · exact fun t p ht hp => safe_acceptState _ hs ht (ht.primary p hp) (ht.schema .primary p hp)
  · intro t ht hp
    refine readPersistentState_safe (P := fun t => Kept stored t ∧ t.primary = .absent)
      (cut_kept ((kept_stable stored).and (absent_stable .primary)) fun _ hu => hu.1)
      ?_ ?_ ?_ (fun t ht _ => keptRaise ht.1) ⟨ht, hp⟩
    · intro u b hu hb
      have hcovers := hu.1.backup (fun p hv => by rw [hu.2] at hv; cases hv) b hb
      exact safe_acceptState _ hs hu.1 hcovers (hu.1.schema .backup b hb)
    · intro u hu hb
      have hnone := hu.1.fresh hu.2 hb
      subst hnone
      exact safe_acceptState _ hs hu.1 (.inr nofun) (Int.le_refl _)
    · intro u hu hb
      refine (quarantine_last .backup .primary nofun ⟨hu.1, hb, hu.2⟩).bind fun _ v hv => ?_
      exact recoverEmpty_tail hs hv
  · intro t ht hp
    refine readPersistentState_safe (P := fun t => Kept stored t ∧ t.primary = .corrupt)
      (cut_kept ((kept_stable stored).and (corrupt_stable .primary)) fun _ hu => hu.1)
      ?_ ?_ ?_ (fun t ht _ => keptRaise ht.1) ⟨ht, hp⟩
    · intro u b hu hb
      have hcovers := hu.1.backup (fun p hv => by rw [hu.2] at hv; cases hv) b hb
      have hschema := hu.1.schema .backup b hb
      have hthere : u.backup ≠ .absent := by
        rw [show u.backup = .valid b from hb]
        exact nofun
      refine (quarantine_primary_first (present_stable .backup) (fun _ hv => hv)
        (fun _ hv => hv) ⟨hu.1, hu.2, hthere⟩).bind fun _ v hv => ?_
      refine (writeAtomic_safe hcut hcut (fun w hw => hw.set_primary (fit_valid hschema hcovers))
        hv.1).bind fun _ w hw => ?_
      exact safe_acceptState _ hs hw hcovers hschema
    · intro u hu hb
      refine (quarantine_last .primary .backup nofun ⟨hu.1, hu.2, hb⟩).bind fun _ v hv => ?_
      exact recoverEmpty_tail hs hv
    · intro u hu hb
      refine (quarantine_primary_first (corrupt_stable .backup)
        (fun v (hv : v.backup = _) => by rw [hv]; exact nofun)
        (fun _ hv => hv) ⟨hu.1, hu.2, hb⟩).bind fun _ v hv => ?_
      refine (quarantine_last .backup .primary nofun ⟨hv.1, hv.2.2, hv.2.1⟩).bind fun _ w hw => ?_
      exact recoverEmpty_tail hs hw

end Load

section Calls

variable {α : Type} {d : Disk ρ} {s : Store ρ}

structure MemoryOk (stored : List UInt64) (s : Store ρ) : Prop where
  writable : s.readOnly = false
  covers : s.loaded = true → Covers stored s.state

def withStored (st : Option (PersistentState ρ)) (stored : List UInt64) : List UInt64 :=
  (st.map PersistentState.reservedCeiling).toList ++ stored

structure CallOk (stored : List UInt64) (r : CallResult ρ α) (t : Disk ρ) : Prop where
  kept : Kept (withStored r.stored stored) t
  memory : MemoryOk (withStored r.stored stored) r.store
  loaded : ∀ st, r.loaded = some st → Covers stored st

def Upholds (fn : PersistentState ρ → Except StoreErr (PersistentState ρ)) : Prop :=
  ∀ p n, fn p = .ok n → (p.fenceUnsafe = true → n.fenceUnsafe = true) ∧
    p.reservedCeiling ≤ n.reservedCeiling

theorem upholds_liftUpdate (fn : ρ → Except StoreErr ρ) : Upholds (liftUpdate fn) := by
  intro p n hn
  obtain ⟨rest, -, rfl⟩ := liftUpdate_ok hn
  exact ⟨id, UInt64.le_refl _⟩

theorem upholds_reserveBlock : Upholds (@reserveBlock ρ) := by
  intro p n hn
  obtain ⟨hsafe, hceiling, -⟩ := reserveBlock_ok hn
  refine ⟨fun hu => ?_, UInt64.le_iff_toNat_le.mpr (by omega)⟩
  rw [hsafe] at hu
  cases hu

variable {t : Disk ρ}

theorem Kept.of_withStored {st : Option (PersistentState ρ)} (h : Kept (withStored st stored) t) :
    Kept stored t := by
  cases st with
  | none => exact h
  | some st => exact h.tail

/-- The call never fails, and returns what `Q` asks for. -/
abbrev CallSafe (stored : List UInt64) (Q : α → Disk ρ → Prop) (p : StoreProg ρ α) (d : Disk ρ) :
    Prop :=
  StoreSafe corrupting (Recovering stored) Q (fun _ _ => False) p d

theorem safe_kept {st : Option (PersistentState ρ)} {Q : α → Disk ρ → Prop} {a : α}
    (hQ : ∀ u, Kept (withStored st stored) u → Q a u) (h : Kept (withStored st stored) t) :
    CallSafe stored Q (pure a) t :=
  safe_pure (kept_stable _) (fun _ hu => .inl hu.of_withStored) hQ h

theorem safe_callOk {r : CallResult ρ α} (h : CallOk stored r t) :
    CallSafe stored (CallOk stored) (pure r) t :=
  safe_kept (fun _ hu => ⟨hu, h.memory, h.loaded⟩) h.kept

variable {mirrorBackup : Bool}

theorem applyUpdate_callOk {l : Option (PersistentState ρ)}
    {fn : PersistentState ρ → Except StoreErr (PersistentState ρ)} (hfn : Upholds fn)
    (hm : MemoryOk stored s) (hs : Covers stored s.state)
    (hl : ∀ st, l = some st → Covers stored st) (h : Kept stored d) :
    CallSafe stored (CallOk stored) (applyUpdate mirrorBackup s l fn) d := by
  unfold applyUpdate
  cases hn : fn s.state with
  | error e => exact safe_callOk ⟨h, hm, hl⟩
  | ok n =>
    obtain ⟨hmark, hle⟩ := hfn _ _ hn
    have hcovers : Covers stored n := hs.of_le hmark hle
    refine .bind (Q := fun r t => (∀ e, r = .error e → Kept stored t) ∧
      ∀ s', r = .ok s' → s' = { s with state := sealState s n, loaded := true } ∧
        Kept (n.reservedCeiling :: stored) t)
      (.attempt ((writeLockedMode_kept hcovers h).mono (fun _ ht => ht) ?_ ?_)) ?_
    · exact fun s' t ht => ⟨nofun, fun _ he => by cases he; exact ht⟩
    · exact fun e t ht => ⟨fun _ _ => ht, fun _ he => by cases he⟩
    · rintro (e | s') t ⟨herr, hok⟩
      · exact safe_callOk ⟨herr e rfl, hm, hl⟩
      · obtain ⟨rfl, hk⟩ := hok s' rfl
        exact safe_callOk ⟨hk, ⟨hm.writable, fun _ => covers_sealState hcovers.cons⟩, hl⟩

variable {empty : ρ}

variable {l : Loaded ρ}

theorem LoadOk.memoryOk (h : LoadOk stored l t) : MemoryOk stored l.store :=
  ⟨h.writable, fun _ => h.memory⟩

theorem LoadOk.loaded (h : LoadOk stored l t) : ∀ st, some l.state = some st → Covers stored st :=
  fun st hst => by cases hst; exact h.state

theorem loadLocked_then {k : Except StoreErr (Loaded ρ) → StoreProg ρ (CallResult ρ α)}
    (hm : MemoryOk stored s) (h : Kept stored d)
    (herr : ∀ e t, Kept stored t → CallSafe stored (CallOk stored) (k (.error e)) t)
    (hok : ∀ l t, LoadOk stored l t → CallSafe stored (CallOk stored) (k (.ok l)) t) :
    CallSafe stored (CallOk stored) ((loadLocked s empty).attempt >>= k) d := by
  refine .bind (Q := fun r t => CallSafe stored (CallOk stored) (k r) t) ?_ fun _ _ hr => hr
  exact .attempt ((loadLocked_kept hm.writable h).mono (fun _ ht => ht) hok herr)

theorem updateMode_callOk {fn : PersistentState ρ → Except StoreErr (PersistentState ρ)}
    (hfn : Upholds fn) (hm : MemoryOk stored s) (h : Kept stored d) :
    CallSafe stored (CallOk stored) (updateMode mirrorBackup s empty fn) d := by
  unfold updateMode
  split
  · rename_i hs
    exact applyUpdate_callOk hfn hm (hm.covers hs) nofun h
  · refine loadLocked_then hm h (fun e t hk => safe_callOk ⟨hk, hm, nofun⟩) fun l t hl => ?_
    exact applyUpdate_callOk hfn hl.memoryOk hl.memory hl.loaded hl.kept

theorem load_callOk (hm : MemoryOk stored s) (h : Kept stored d) :
    CallSafe stored (CallOk stored) (StateStore.load s empty) d := by
  refine loadLocked_then hm h (fun e t hk => safe_callOk ⟨hk, hm, nofun⟩) fun l t hl => ?_
  exact safe_callOk ⟨hl.kept, hl.memoryOk, hl.loaded⟩

theorem persistentSnapshot_callOk (hm : MemoryOk stored s) (h : Kept stored d) :
    CallSafe stored (CallOk stored) (persistentSnapshot s empty) d := by
  unfold persistentSnapshot
  split
  · exact safe_callOk ⟨h, hm, nofun⟩
  · refine loadLocked_then hm h (fun e t hk => safe_callOk ⟨hk, hm, nofun⟩) fun l t hl => ?_
    exact safe_callOk ⟨hl.kept, hl.memoryOk, hl.loaded⟩

private theorem attempt_steps_kept {stored' : List UInt64} (os : List Inert)
    (hsub : ∀ u : Disk ρ, Kept stored' u → Kept stored u) (h : Kept stored' d) :
    CallSafe stored (fun _ => Kept stored') (steps os).attempt d := by
  refine .attempt ((steps_safe (P := Kept stored') (E := fun _ => Kept stored') ?_ os h).mono
    (fun t ht => ht) (fun _ _ ht => ht) fun _ _ ht => ht)
  exact .of_stable (kept_stable stored') (fun t ht => .inl (hsub t ht))
    (fun _ => kept_stable stored') (fun _ t ht => .inl (hsub t ht)) fun _ ht _ => ht

theorem next_callOk (a : FenceAllocator ρ) (hm : MemoryOk stored s) (h : Kept stored d) :
    CallSafe stored (fun r t => CallOk stored r.call t) (next a s empty) d := by
  have hpure : ∀ {r : NextResult ρ} {t : Disk ρ}, CallOk stored r.call t →
      CallSafe stored (fun r t => CallOk stored r.call t) (pure r) t :=
    fun hr => safe_kept (fun _ hu => ⟨hu, hr.memory, hr.loaded⟩) hr.kept
  unfold Fence.next
  split
  · exact hpure ⟨h, hm, nofun⟩
  simp only
  split
  · split
    · exact hpure ⟨h, hm, nofun⟩
    · refine (attempt_steps_kept _ (fun _ hu => hu) h).bind ?_
      rintro (e | ⟨⟩) t ht
      · exact hpure ⟨ht, hm, nofun⟩
      refine (updateMode_callOk upholds_reserveBlock hm ht).bind fun u t hu => ?_
      cases hres : u.result with
      | error e => exact hpure ⟨hu.kept, hu.memory, hu.loaded⟩
      | ok committed =>
        refine (attempt_steps_kept _ (fun _ hv => hv.of_withStored) hu.kept).bind ?_
        rintro (e | ⟨⟩) t' ht'
        · exact hpure ⟨ht', hu.memory, hu.loaded⟩
        · exact hpure ⟨ht', hu.memory, hu.loaded⟩
  · exact hpure ⟨h, hm, nofun⟩

structure ReturnOk (stored : List UInt64) (r : Return ρ) (t : Disk ρ) : Prop where
  kept : Kept (withStored r.stored stored) t
  memory : MemoryOk (withStored r.stored stored) r.store
  loaded : ∀ st, r.loaded = some st → Covers stored st

theorem program_returnOk (alloc : Option (FenceAllocator ρ)) (q : Request ρ)
    (hm : MemoryOk stored s) (h : Kept stored d) :
    CallSafe stored (ReturnOk stored) (q.program s alloc empty) d := by
  have hpure : ∀ {r : Return ρ} {t : Disk ρ}, ReturnOk stored r t →
      CallSafe stored (ReturnOk stored) (pure r) t :=
    fun hr => safe_kept (fun _ hu => ⟨hu, hr.memory, hr.loaded⟩) hr.kept
  cases q with
  | load =>
    exact (load_callOk hm h).bind fun r t hr => hpure ⟨hr.kept, hr.memory, hr.loaded⟩
  | update mirrorBackup fn =>
    exact (updateMode_callOk (upholds_liftUpdate fn) hm h).bind
      fun r t hr => hpure ⟨hr.kept, hr.memory, hr.loaded⟩
  | newAllocator =>
    exact (persistentSnapshot_callOk hm h).bind fun r t hr => hpure ⟨hr.kept, hr.memory, hr.loaded⟩
  | next =>
    cases alloc with
    | none => exact hpure ⟨h, hm, nofun⟩
    | some a =>
      exact (next_callOk a hm h).bind fun r t hr => hpure ⟨hr.kept, hr.memory, hr.loaded⟩

end Calls

def storedCeilings (log : List (Event ρ)) : List UInt64 :=
  log.filterMap fun
    | .stored p => some p.reservedCeiling
    | _ => none

def Faithful : List (Event ρ) → Prop
  | [] => True
  | .loaded p :: log => Covers (storedCeilings log) p ∧ Faithful log
  | _ :: log => Faithful log

structure Inv (w : Sys ρ) : Prop where
  faithful : Faithful w.log
  process : match w.process with
    | none => Kept (storedCeilings w.log) w.disk
    | some ⟨s, _, none⟩ => MemoryOk (storedCeilings w.log) s ∧ Kept (storedCeilings w.log) w.disk
    | some ⟨_, _, some p⟩ => StoreSafe corrupting (Recovering (storedCeilings w.log))
        (ReturnOk (storedCeilings w.log)) (fun _ _ => False) p w.disk

theorem inv_initial : Inv (initial : Sys ρ) :=
  ⟨trivial, ⟨fun f p hp => (by cases f <;> cases hp), nofun, fun _ => nofun, fun _ _ => rfl⟩⟩

theorem storedCeilings_events (r : Return ρ) (log : List (Event ρ)) :
    storedCeilings (r.events image ++ log) = withStored r.stored (storedCeilings log) := by
  obtain ⟨s, a, l, st, v⟩ := r
  cases v <;> cases st <;> cases l <;> rfl

theorem faithful_events {r : Return ρ} {log : List (Event ρ)}
    (h : Faithful log) (hl : ∀ st, r.loaded = some st → Covers (storedCeilings log) st) :
    Faithful (r.events image ++ log) := by
  obtain ⟨s, a, l, st, v⟩ := r
  cases l with
  | none => cases v <;> cases st <;> exact h
  | some p => cases v <;> cases st <;> exact ⟨hl p rfl, h⟩

theorem Inv.kept {w : Sys ρ} (h : Inv w) (hw : ¬ EvidenceOnly w.disk) :
    Kept (storedCeilings w.log) w.disk := by
  have hp := h.process
  revert hp
  split
  · exact id
  · exact And.right
  · exact fun hsafe => hsafe.now.resolve_right hw

theorem inv_step (empty : ρ) {w : Sys ρ} {l : Label ρ} (hl : Permitted w l) (h : Inv w) :
    Inv (step empty w l) := by
  cases l with
  | crash => exact ⟨h.faithful, h.kept hl⟩
  | corrupt f =>
    have hrely : corrupting.rely w.disk (corruptFile w.disk f) :=
      ⟨f, rfl, fun hf => by subst hf; exact hl⟩
    refine ⟨h.faithful, ?_⟩
    have hp := h.process
    simp only [step]
    revert hp
    split
    · exact fun hk => kept_stable _ _ _ hrely hk
    · exact fun hk => ⟨hk.1, kept_stable _ _ _ hrely hk.2⟩
    · exact fun hsafe => hsafe.rely (.single hrely)
  | boot =>
    simp only [step]
    split
    · rename_i hp
      have hk := h.process
      simp only [hp] at hk
      exact ⟨h.faithful, ⟨rfl, nofun⟩, hk⟩
    · exact h
  | request q =>
    simp only [step]
    split
    · rename_i s alloc hp
      have hk := h.process
      simp only [hp] at hk
      exact ⟨h.faithful, program_returnOk alloc q hk.1 hk.2⟩
    · exact h
  | io c =>
    simp only [step]
    split
    · rename_i s alloc p hp
      have hsafe := h.process
      simp only [hp] at hsafe
      refine ⟨h.faithful, hsafe.advance ?_⟩
      rintro rfl
      exact hl
    · exact h
  | finish =>
    simp only [step]
    split
    · rename_i s alloc r hp
      have hsafe := h.process
      simp only [hp] at hsafe
      have hr : ReturnOk (storedCeilings w.log) r w.disk := (hsafe w.disk .refl).2
      refine ⟨faithful_events h.faithful hr.loaded, ?_⟩
      simp only [storedCeilings_events]
      exact ⟨hr.memory, hr.kept⟩
    · exact h

theorem inv_run (empty : ρ) (labels : List (Label ρ))
    (h : PermittedFrom empty initial labels) : Inv (run empty labels) := by
  have hfold : ∀ (ls : List (Label ρ)) (w : Sys ρ), PermittedFrom empty w ls → Inv w →
      Inv (ls.foldl (step empty) w) := by
    intro ls
    induction ls with
    | nil => exact fun w _ hw => hw
    | cons l ls ih => exact fun w hls hw => ih _ hls.2 (inv_step empty hls.1 hw)
  exact hfold labels initial h inv_initial

theorem Faithful.covers {log post pre : List (Event ρ)} {p : PersistentState ρ} (h : Faithful log)
    (hlog : log = post ++ .loaded p :: pre) : Covers (storedCeilings pre) p := by
  subst hlog
  induction post with
  | nil => exact h.1
  | cons e post ih =>
    refine ih ?_
    cases e with
    | loaded q => exact h.2
    | stored q | issued v image => exact h

/-- Under the condition, a load not marked unsafe returns a ceiling no lower than any stored before.
-/
theorem load_covers_stored (empty : ρ) (labels : List (Label ρ))
    (hrun : PermittedFrom empty initial labels) (post pre : List (Event ρ)) (p : PersistentState ρ)
    (hlog : (run empty labels).log = post ++ .loaded p :: pre) (hsafe : p.fenceUnsafe = false)
    (q : PersistentState ρ) (hq : Event.stored q ∈ pre) :
    q.reservedCeiling ≤ p.reservedCeiling := by
  have hcovers := (inv_run empty labels hrun).faithful.covers hlog
  rcases hcovers with hmark | hle
  · rw [hsafe] at hmark
    cases hmark
  · exact hle _ (mem_filterMap.mpr ⟨_, hq, rfl⟩)

private def firstStart : List (Label Unit) :=
  .boot :: (completedCall .newAllocator 2 ++ completedCall .next 26)

private def blocksReserved (blocks : UInt64) : PersistentState Unit :=
  { newPersistentState () with reservedCeiling := blocks * fenceBlockSize }

private def levelBackup : List (Label Unit) :=
  firstStart ++ .corrupt .primary :: .crash :: .boot :: completedCall .load 19

theorem load_covers_stored_level_backup :
    PermittedFrom () initial levelBackup ∧
      (blocksReserved 1).reservedCeiling ≤ (blocksReserved 1).reservedCeiling :=
  ⟨by decide +kernel,
    load_covers_stored () levelBackup (by decide +kernel) [] (run () firstStart).log
      (blocksReserved 1) (by decide +kernel) rfl (blocksReserved 1) (by decide +kernel)⟩

/-- A load returned a state not marked unsafe below a ceiling stored before it. -/
def Lowered (log : List (Event ρ)) : Prop :=
  ∃ post pre p q, log = post ++ .loaded p :: pre ∧ p.fenceUnsafe = false ∧
    Event.stored q ∈ pre ∧ p.reservedCeiling < q.reservedCeiling

/-- Two starts leave the backup a block behind; the primary is lost and the next start loads. -/
private def laggingBackup : List (Label Unit) :=
  firstStart ++ .crash :: .boot :: (completedCall .newAllocator 1 ++ completedCall .next 26) ++
    .corrupt .primary :: .crash :: .boot :: completedCall .load 19

/-- Both files are lost, and the recovery is cut before its unsafe marker. -/
private def cutRecovery : List (Label Unit) :=
  firstStart ++ .corrupt .primary :: .corrupt .backup :: .crash :: .boot :: .request .load ::
    (List.replicate 9 (.io .ok) ++ .crash :: .boot :: completedCall .load 2)

theorem load_lowers_ceiling :
    Lowered (run () laggingBackup).log ∧ Lowered (run () cutRecovery).log :=
  ⟨⟨[], (run () laggingBackup).log.tail, blocksReserved 1, blocksReserved 2, by decide +kernel⟩,
    ⟨[], (run () cutRecovery).log.tail, blocksReserved 0, blocksReserved 1, by decide +kernel⟩⟩

end QuotaScheduler.FenceRecovery

/- What user data survives a damaged primary file, at every crash point and restart. -/

import Mathlib.Tactic.Tauto
import QuotaScheduler.DiskState

namespace QuotaScheduler.UserDataRecovery

open Lib UserData Option Set Except
open DiskState (PluginDiskState defaultConfig asciiLowering diskStates)
open Lib.TwoFiles (FileName)
open Lib.TwoFiles.FileImage (present)
open Relation (ReflTransGen)

variable {δ : Type}

section Routines

variable {d u : Disk δ} {S : DiskStates δ} {image : FileImage δ} {x : δ}

section Operations

variable (f : FileName) (d : Disk δ)

@[simp]
theorem exec_read : exec (.read f) d = (some (d.get f), d) := rfl

@[simp]
theorem exec_readEvidence : exec (.readEvidence f) d = (some (d.evidence f), d) := rfl

@[simp]
theorem exec_replaceTemp (image : FileImage δ) :
    exec (.replaceTemp f image) d = (true, d.set f image) := rfl

@[simp]
theorem exec_replaceAside : exec (.replaceAside f) d = (true, d.moveAside f) := rfl

@[simp]
theorem exec_inert (o : Inert) : exec (.inert o) d = (true, d) := rfl

@[simp]
theorem exec_readLegacy : exec (.other .read) d = (some d.legacy, d) := rfl

@[simp]
theorem exec_replaceLegacy : exec (.other .replace) d = (true, d.retireLegacy) := rfl

end Operations

@[simp]
theorem eval_steps (os : List Inert) : (steps os).eval exec d = (.ok (), d) := by
  induction os with
  | nil => rfl
  | cons o os ih => exact ih

@[simp]
theorem visits_steps (os : List Inert) : (steps os).Visits exec d u ↔ u = d := by
  induction os with
  | nil => rfl
  | cons o os ih => exact (or_congr .rfl ih).trans or_self_iff

/-- The disk after `writeUserDataAtomic`, and the one between its two renames. -/
def backedUp (S : DiskStates δ) (state : δ) (d : Disk δ) : Disk δ :=
  d.set .backup (backupSource (encode S state) d.primary)

def saved (S : DiskStates δ) (state : δ) (d : Disk δ) : Disk δ :=
  (backedUp S state d).set .primary (encode S state)

attribute [local simp] TwoFiles.Disk.get

section Writes

attribute [local simp] writeUserDataAtomic replaceUserData writeUserArtifactAtomic
  TwoFiles.replaceTemp saved backedUp

@[simp]
theorem eval_writeUserDataAtomic (state : δ) :
    (writeUserDataAtomic S state).eval exec d = (.ok (), saved S state d) := by simp

@[simp]
theorem visits_writeUserDataAtomic (state : δ) : (writeUserDataAtomic S state).Visits exec d u ↔
      u = d ∨ u = backedUp S state d ∨ u = saved S state d := by
  simp
  tauto

end Writes

def readImage (S : DiskStates δ) : FileImage δ → Except ReadErr (LoadedState δ)
  | .absent => .ok ⟨S.defaults, false⟩
  | .corrupt => .error .other
  | .valid ⟨v, s⟩ =>
    if currentUserDataSchema < v then .error (.futureSchema v)
    else .ok ⟨S.normalizePluginDiskState s, true⟩

@[simp]
theorem readImage_corrupt : readImage S .corrupt = .error .other := rfl

@[simp]
theorem present_corrupt : (.corrupt : FileImage δ).present = true := rfl

theorem readUserData_eq (f : FileName) : readUserData S f = .call (.read f) fun
      | none => pure (.error .other)
      | some image => pure (readImage S image) := by
  refine congrArg _ (funext fun r => ?_)
  rcases r with - | - | - | ⟨v, s⟩
  · rfl
  · rfl
  · rfl
  · simp only [readImage]
    split <;> rfl

@[simp]
theorem eval_readUserData (f : FileName) :
    (readUserData S f).eval exec d = (.ok (readImage S (d.get f)), d) := by simp [readUserData_eq]

@[simp]
theorem visits_readUserData (f : FileName) : (readUserData S f).Visits exec d u ↔ u = d := by
  simp [readUserData_eq]

theorem readImage_of_data (h : imageData S image = some x) : readImage S image = .ok ⟨x, true⟩ := by
  cases image with
  | absent | corrupt => cases h
  | valid c =>
    simp only [imageData] at h
    split at h
    · cases h
    · rename_i hv
      simp only [readImage, if_neg hv, some.inj h]

theorem data_encode (state : δ) :
    imageData S (encode S state) = some (S.normalizePluginDiskState state) := by
  simp [imageData, encode, S.normalize_normalize]

theorem readImage_error (h : imageData S image = none) (hp : image.present = true) :
    ∃ e, readImage S image = .error e ∧ e ≠ .notExist := by
  cases image with
  | absent => cases hp
  | corrupt => exact ⟨_, rfl, by decide⟩
  | valid c =>
    simp only [imageData] at h
    split at h
    · rename_i hv
      exact ⟨_, if_pos hv, by simp⟩
    · cases h

theorem normalize_of_data (h : imageData S image = some x) : S.normalizePluginDiskState x = x := by
  cases image with
  | absent | corrupt => cases h
  | valid c =>
    rw [imageData] at h
    split at h
    · cases h
    · rw [← some.inj h, S.normalize_normalize]

theorem data_saved (hx : S.normalizePluginDiskState x = x) :
    imageData S (saved S x d).primary = some x := by
  change imageData S (encode S x) = some x
  rw [data_encode, hx]

theorem data_backedUp (hx : S.normalizePluginDiskState x = x)
    (h : d.primary = .absent ∨ imageData S d.primary = some x) :
    imageData S (backedUp S x d).backup = some x := by
  change imageData S (backupSource (encode S x) d.primary) = some x
  rcases h with h | h
  · rw [h, backupSource, data_encode, hx]
  · cases hd : d.primary with
    | absent | corrupt =>
      rw [hd] at h
      cases h
    | valid c => rwa [hd] at h

end Routines

section Loads

variable [DecidableEq δ] {d : Disk δ} {S : DiskStates δ} {x : δ}

/-- A load ends with the outcome `r` in the disk `t`, and can be cut in the disks of `V`. -/
structure Takes (S : DiskStates δ) (d : Disk δ) (V : Set (Disk δ))
    (r : Except UserDataErr (LoadedState δ)) (t : Disk δ) : Prop where
  ends : (loadUserDataWithMigration S).eval exec d = (r, t)
  cuts : ∀ u, (loadUserDataWithMigration S).Visits exec d u ↔ u ∈ V

attribute [local simp] TwoFiles.Disk.get TwoFiles.Disk.evidence
  loadUserDataWithMigration loadUserData
  loadUserDataRecover recoverUserData quarantineFound quarantineUserArtifact
  TwoFiles.quarantine TwoFiles.replaceAside reread migrateSchema loadStrictLegacyUserData

theorem takes_load_readable (h : imageData S d.primary = some x) :
    ∃ V t, Takes S d V (.ok ⟨x, true⟩) t ∧
      ∀ u ∈ V, u = d ∨ u = backedUp S x d ∨ u = saved S x d := by
  cases hd : d.primary with
  | absent | corrupt =>
    rw [hd] at h
    cases h
  | valid c =>
    rw [hd, imageData] at h
    split at h
    · cases h
    next hv =>
      have hx := some.inj h
      by_cases hold : c.schemaVersion < currentUserDataSchema
      · refine ⟨{d, backedUp S x d, saved S x d}, saved S x d, ⟨?_, fun u => ?_⟩, fun u hu => hu⟩
        · simp [hd, hv, hold, hx, present, readImage]
        · simp [hd, hv, hold, hx, present, readImage]
          tauto
      · refine ⟨{d}, d, ⟨?_, fun u => ?_⟩, fun u hu => .inl hu⟩
        · simp [hd, hv, hold, hx, present, readImage]
        · simp [hd, hv, hold, present, readImage]
          exact Eq.symm

theorem takes_load_newer {v : Int} {s : δ} (h : d.primary = .valid ⟨v, s⟩)
    (hv : currentUserDataSchema < v) : Takes S d {d} (.error (.futureSchema v)) d :=
  ⟨by simp [h, hv, present, readImage], fun u => by simp [h, hv, present, readImage]⟩

theorem takes_load_kept (h : d.primary = .corrupt) (hkept : d.primaryCorrupt.present = true) :
    Takes S d {d} (.error .corruptEvidenceExists) d := by
  cases hb : readImage S d.backup with
  | ok b | error e => exact ⟨by simp [h, hb, hkept], fun u => by simp [h, hb, hkept]⟩

/-- Next to a backup that reads as `b`: the primary is moved aside, `b` takes both places. -/
theorem takes_load_backup {b : LoadedState δ} (h : d.primary = .corrupt)
    (hnew : d.primaryCorrupt.present = false) (hb : readImage S d.backup = .ok b) :
    Takes S d {d, d.moveAside .primary, backedUp S b.state (d.moveAside .primary),
      saved S b.state (d.moveAside .primary)} (.ok b) (saved S b.state (d.moveAside .primary)) := by
  refine ⟨by simp [h, hb, hnew], fun u => ?_⟩
  simp [h, hb, hnew]
  tauto

/-- Next to an unreadable backup: both are moved aside, no defaults are loaded. -/
theorem takes_load_unreadable (h : d.primary = .corrupt)
    (hnew : d.primaryCorrupt.present = false) (hb : imageData S d.backup = none)
    (hbp : d.backup.present = true) :
    ∃ V r t, Takes S d V r t ∧ (∀ x, r = .ok x → x = ⟨S.defaults, false⟩) ∧
      ∀ u ∈ V, u = d ∨ u = d.moveAside .primary ∨
        u = (d.moveAside .primary).moveAside .backup := by
  obtain ⟨e, he, hne⟩ := readImage_error hb hbp
  have hbp' : (d.moveAside .primary).backup.present = true := hbp
  cases hev : d.backupCorrupt.present with
  | true =>
    have hev' : (d.moveAside .primary).backupCorrupt.present = true := hev
    refine ⟨{d, d.moveAside .primary}, .error .corruptEvidenceExists, d.moveAside .primary,
      ⟨by simp [h, he, hne, hnew, hbp', hev'], fun u => ?_⟩, fun x hx => ?_, fun u hu => ?_⟩
    · simp [h, he, hne, hnew, hbp', hev']
    · cases hx
    · exact hu.imp id .inl
  | false =>
    have hev' : (d.moveAside .primary).backupCorrupt.present = false := hev
    refine ⟨{d, d.moveAside .primary, (d.moveAside .primary).moveAside .backup}, _, _,
      ⟨by simp [h, he, hne, hnew, hbp', hev']; rfl, fun u => ?_⟩, fun x hx => (ok.inj hx).symm,
      fun u hu => hu⟩
    simp [h, he, hne, hnew, hbp', hev']
    tauto

theorem takes_load_fresh (h : d.primary = .absent)
    (hlegacy : d.legacy = .absent ∨ d.legacy = .empty) :
    Takes S d {d} (.ok ⟨S.defaults, false⟩) d := by
  rcases hlegacy with hl | hl <;>
    exact ⟨by simp [h, hl, present], fun u => by simp [h, hl, present]⟩

theorem takes_load_rejected (h : d.primary = .absent) (hlegacy : d.legacy = .rejected) :
    Takes S d {d} (.error .legacyRejected) d :=
  ⟨by simp [h, hlegacy, present], fun u => by simp [h, hlegacy, present]⟩

/-- The legacy state is stored, and what is read back is what was just written. -/
theorem takes_load_legacy {s : δ} (h : d.primary = .absent) (hlegacy : d.legacy = .state s)
    (hx : S.normalizePluginDiskState s = x) :
    Takes S d {d, backedUp S x d, saved S x d, (saved S x d).retireLegacy} (.ok ⟨x, true⟩)
      (saved S x d).retireLegacy := by
  have hnormal : S.normalizePluginDiskState x = x := by rw [← hx, S.normalize_normalize]
  have hsaved : (saved S x d).primary = .valid ⟨currentUserDataSchema, x⟩ := by
    change encode S x = _
    rw [encode, hnormal]
  refine ⟨?_, fun u => ?_⟩
  · simp [h, hlegacy, hx, hsaved, hnormal, present, readImage, migrateLegacy,
      UserData.replaceLegacy, syncLegacyDir]
  · simp [h, hlegacy, hx, hsaved, hnormal, present, readImage, migrateLegacy,
      UserData.replaceLegacy, syncLegacyDir]
    tauto

end Loads

section Damage

variable {d : Disk δ} {S : DiskStates δ}

/-- Bytes damage can leave in the primary: no user data to the loader. -/
structure Damage (S : DiskStates δ) where
  image : FileImage δ
  unreadable : imageData S image = none

def Damage.of {S : DiskStates δ} (damage : Damage S) (d : Disk δ) : Disk δ :=
  { d with primary := damage.image }

def Stuck (d : Disk δ) : Prop :=
  (∃ v s, d.primary = .valid ⟨v, s⟩ ∧ currentUserDataSchema < v) ∨
    d.primary = .corrupt ∧ d.primaryCorrupt.present = true

def Recoverable (S : DiskStates δ) (d : Disk δ) : Prop :=
  Stuck d ∨ (∀ b, imageData S d.backup = some b → d.legacy = .rejected ∨ d.legacy.data S = some b) ∧
    (d.primary = .corrupt → d.backup = .absent → d.legacy.data S = some S.defaults)

theorem missing_or_corrupt (h : imageData S d.primary = none) (hstuck : ¬ Stuck d) :
    d.primary = .absent ∨ d.primary = .corrupt ∧ d.primaryCorrupt.present = false := by
  cases hp : d.primary with
  | absent => exact .inl rfl
  | corrupt =>
    refine .inr ⟨rfl, ?_⟩
    cases hk : d.primaryCorrupt.present with
    | false => rfl
    | true => exact absurd (.inr ⟨hp, hk⟩) hstuck
  | valid c =>
    rw [hp, imageData] at h
    split at h
    next hv => exact absurd (.inl ⟨_, _, hp, hv⟩) hstuck
    · cases h

end Damage

section Restarts

variable [DecidableEq δ] (S : DiskStates δ)

/-- The disk of a plugin started, cut off or ended, and started again, any number of times. -/
def Restarts : Disk δ → Disk δ → Prop :=
  ReflTransGen ((loadUserDataWithMigration S).Visits exec)

def Loads (d : Disk δ) (r : LoadedState δ) : Prop :=
  ∃ t, (loadUserDataWithMigration S).eval exec d = (.ok r, t)

/-- Every load returns a valid backup's data; without one, defaults come only from the legacy file.
-/
def Survives (d : Disk δ) : Prop :=
  ∀ t r, Restarts S d t → Loads S t r → (∀ b, imageData S d.backup = some b → r = ⟨b, true⟩) ∧
    (imageData S d.backup = none → r = ⟨S.defaults, true⟩ → d.legacy.data S = some S.defaults)

variable {S} {d : Disk δ}

def Keeps (S : DiskStates δ) (P : Disk δ → Prop) (Q : LoadedState δ → Prop) (d : Disk δ) : Prop :=
  (∀ t, (loadUserDataWithMigration S).Visits exec d t → P t) ∧ ∀ r, Loads S d r → Q r

variable {P : Disk δ → Prop} {Q : LoadedState δ → Prop} {t : Disk δ} {l : Option δ}

theorem keeps_of_takes {V : Set (Disk δ)} {r : Except UserDataErr (LoadedState δ)}
    (h : Takes S d V r t) (hV : ∀ u ∈ V, P u)
    (hr : ∀ x, r = .ok x → Q x) : Keeps S P Q d := by
  refine ⟨fun u hu => hV u ((h.cuts u).mp hu), ?_⟩
  rintro x ⟨u, hu⟩
  exact hr x (congrArg Prod.fst (h.ends.symm.trans hu))

theorem keeps_of_fails {e : UserDataErr}
    (h : Takes S d {d} (.error e) d) (hd : P d) : Keeps S P Q d := by
  refine keeps_of_takes h ?_ fun x hx => ?_
  · rintro u rfl
    exact hd
  · cases hx

theorem loads_of_takes {V : Set (Disk δ)} {r : LoadedState δ}
    (h : Takes S d V (.ok r) t) : Loads S d r :=
  ⟨t, h.ends⟩

theorem restarts_keep (hkeeps : ∀ d, P d → Keeps S P Q d) (h : P d) (ht : Restarts S d t) :
    P t ∧ ∀ r, Loads S t r → Q r := by
  have hP : P t := by
    induction ht with
    | refl => exact h
    | tail _ hstep ih => exact (hkeeps _ ih).1 _ hstep
  exact ⟨hP, (hkeeps t hP).2⟩

theorem stuck_keeps (h : Stuck d) : Keeps S (fun t => t = d) (fun _ => False) d := by
  rcases h with ⟨v, s, hd, hv⟩ | ⟨hd, hkept⟩
  · refine keeps_of_takes (takes_load_newer hd hv) (fun _ hu => hu) fun x hx => ?_
    cases hx
  · refine keeps_of_takes (takes_load_kept hd hkept) (fun _ hu => hu) fun x hx => ?_
    cases hx

/-- A valid backup `b`, and a primary with the same, or none and no other legacy data. -/
structure Backed (S : DiskStates δ) (b : δ) (d : Disk δ) : Prop where
  backup : imageData S d.backup = some b
  primary : imageData S d.primary = some b ∨ (d.primary = .absent ∨ d.primary = .corrupt) ∧
      (d.legacy = .rejected ∨ d.legacy.data S = some b)

theorem backed_keeps {b : δ} (h : Backed S b d) : Keeps S (Backed S b) (· = ⟨b, true⟩) d := by
  have hnormal := normalize_of_data h.backup
  have hsaved : ∀ t, t.primary = .absent ∨ imageData S t.primary = some b →
    Backed S b (saved S b t) :=
    fun t ht => ⟨data_backedUp hnormal ht, .inl (data_saved hnormal)⟩
  rcases h.primary with hp | ⟨hp | hp, hlegacy⟩
  · obtain ⟨V, t, htakes, hV⟩ := takes_load_readable hp
    refine keeps_of_takes htakes (fun u hu => ?_) fun x hx => (ok.inj hx).symm
    rcases hV u hu with rfl | rfl | rfl
    · exact h
    · exact ⟨data_backedUp hnormal (.inr hp), .inl hp⟩
    · exact hsaved d (.inr hp)
  · rcases hlegacy with hl | hl
    · exact keeps_of_fails (takes_load_rejected hp hl) h
    · cases hs : d.legacy with
      | state s =>
        rw [hs] at hl
        refine keeps_of_takes (takes_load_legacy hp hs (some.inj hl)) ?_
          fun x hx => (ok.inj hx).symm
        rintro u (rfl | rfl | rfl | rfl)
        · exact h
        · exact ⟨data_backedUp hnormal (.inl hp), h.primary⟩
        · exact hsaved d (.inl hp)
        · exact ⟨(hsaved d (.inl hp)).backup, .inl (data_saved (d := d) hnormal)⟩
      | _ =>
        rw [hs] at hl
        cases hl
  · cases hkept : d.primaryCorrupt.present with
    | true => exact keeps_of_fails (takes_load_kept hp hkept) h
    | false =>
      refine keeps_of_takes (takes_load_backup hp hkept (readImage_of_data h.backup)) ?_
        fun x hx => (ok.inj hx).symm
      rintro u (rfl | rfl | rfl | rfl)
      · exact h
      · exact ⟨h.backup, .inr ⟨.inl rfl, hlegacy⟩⟩
      · exact ⟨data_backedUp hnormal (.inl rfl), .inr ⟨.inl rfl, hlegacy⟩⟩
      · exact hsaved _ (.inl rfl)

/-- Only the legacy file's user data has got into the primary, and no recovery puts defaults there.
-/
inductive Unbacked (S : DiskStates δ) (l : Option δ) (d : Disk δ) : Prop
  | missing (h : d.primary = .absent) (hl : d.legacy.data S = l)
  | corrupt (h : d.primary = .corrupt) (hl : d.legacy.data S = l)
      (hb : imageData S d.backup = none) (habsent : d.backup = .absent → l = some S.defaults)
  | migrated {x : δ} (h : imageData S d.primary = some x) (hl : l = some x)

omit [DecidableEq δ] in
theorem unloaded_tells_nothing :
    ∀ x : LoadedState δ, (.ok ⟨S.defaults, false⟩ : Except UserDataErr _) = .ok x →
      x.loaded = true → l = some x.state := by
  rintro x hx hloaded
  rw [← ok.inj hx] at hloaded
  cases hloaded

theorem unbacked_keeps_missing (h : d.primary = .absent) (hl : d.legacy.data S = l) :
    Keeps S (Unbacked S l) (fun r => r.loaded = true → l = some r.state) d := by
  cases hs : d.legacy with
  | absent =>
    refine keeps_of_takes (takes_load_fresh h (.inl hs)) ?_ unloaded_tells_nothing
    rintro u rfl
    exact .missing h hl
  | empty =>
    refine keeps_of_takes (takes_load_fresh h (.inr hs)) ?_ unloaded_tells_nothing
    rintro u rfl
    exact .missing h hl
  | rejected => exact keeps_of_fails (takes_load_rejected h hs) (.missing h hl)
  | state s =>
    have hl' := hl
    rw [hs, LegacyImage.data] at hl'
    refine keeps_of_takes (takes_load_legacy h hs rfl) ?_ fun y hy _ => by
      rw [← ok.inj hy, hl']
    rintro u (rfl | rfl | rfl | rfl)
    · exact .missing h hl
    · exact .missing h hl
    · exact .migrated (data_saved (S.normalize_normalize s)) hl'.symm
    · exact .migrated (data_saved (d := d) (S.normalize_normalize s)) hl'.symm

theorem unbacked_keeps_corrupt (h : d.primary = .corrupt) (hl : d.legacy.data S = l)
    (hb : imageData S d.backup = none) (habsent : d.backup = .absent → l = some S.defaults) :
    Keeps S (Unbacked S l) (fun r => r.loaded = true → l = some r.state) d := by
  cases hkept : d.primaryCorrupt.present with
  | true => exact keeps_of_fails (takes_load_kept h hkept) (.corrupt h hl hb habsent)
  | false =>
    cases hbp : d.backup.present with
    | true =>
      obtain ⟨V, r, t, htakes, hr, hV⟩ := takes_load_unreadable h hkept hb hbp
      refine keeps_of_takes htakes (fun u hu => ?_) fun x hx hloaded => ?_
      · rcases hV u hu with rfl | rfl | rfl
        · exact .corrupt h hl hb habsent
        · exact .missing rfl hl
        · exact .missing rfl hl
      · rw [hr x hx] at hloaded
        cases hloaded
    | false =>
      have hba : d.backup = .absent := by
        cases hd : d.backup with
        | absent => rfl
        | _ =>
          rw [hd] at hbp
          cases hbp
      have hread : readImage S d.backup = .ok ⟨S.defaults, false⟩ := by rw [hba]; rfl
      refine keeps_of_takes (takes_load_backup h hkept hread) ?_ unloaded_tells_nothing
      rintro u (rfl | rfl | rfl | rfl)
      · exact .corrupt h hl hb habsent
      · exact .missing rfl hl
      · exact .missing rfl hl
      · exact .migrated (data_saved (S.normalize_normalize _)) (habsent hba)

theorem unbacked_keeps (h : Unbacked S l d) :
    Keeps S (Unbacked S l) (fun r => r.loaded = true → l = some r.state) d := by
  cases h with
  | @migrated x h hl =>
    have hnormal := normalize_of_data h
    obtain ⟨V, t, htakes, hV⟩ := takes_load_readable h
    refine keeps_of_takes htakes (fun u hu => ?_) fun y hy _ => by rw [← ok.inj hy, hl]
    rcases hV u hu with rfl | rfl | rfl
    · exact .migrated h hl
    · exact .migrated h hl
    · exact .migrated (data_saved hnormal) hl
  | missing h hl => exact unbacked_keeps_missing h hl
  | corrupt h hl hb habsent => exact unbacked_keeps_corrupt h hl hb habsent

/-- Recovery keeps user data exactly in these states: with the primary gone no load reads the
backup, and a missing backup reads as defaults, which are then stored. -/
theorem user_data_survives_iff (d : Disk δ) (damage : Damage S) :
    Survives S (damage.of d) ↔ Recoverable S (damage.of d) := by
  have hdamaged : imageData S (damage.of d).primary = none := damage.unreadable
  generalize damage.of d = d at hdamaged ⊢
  by_cases hstuck : Stuck d
  · refine iff_of_true (fun t r ht hr => ?_) (.inl hstuck)
    have hkeeps : ∀ u, u = d → Keeps S (· = d) (fun _ => False) u := by
      rintro u rfl
      exact stuck_keeps hstuck
    exact ((restarts_keep hkeeps rfl ht).2 r hr).elim
  have hprimary := missing_or_corrupt hdamaged hstuck
  constructor
  · intro h
    refine .inr ⟨fun b hb => ?_, fun hp hba => ?_⟩
    · -- a disk with no primary and the same legacy file can be reached
      obtain ⟨t, ht, hmissing, hlegacy⟩ :
          ∃ t, Restarts S d t ∧ t.primary = .absent ∧ t.legacy = d.legacy := by
        rcases hprimary with hp | ⟨hp, hkept⟩
        · exact ⟨d, .refl, hp, rfl⟩
        · have hload := takes_load_backup hp hkept (readImage_of_data hb)
          exact ⟨_, .single ((hload.cuts _).mpr (.inr (.inl rfl))), rfl, rfl⟩
      cases hl : d.legacy with
      | rejected => exact .inl rfl
      | absent =>
        have hr := (h t _ ht (loads_of_takes
          (takes_load_fresh hmissing (.inl (hlegacy.trans hl))))).1 b hb
        cases hr
      | empty =>
        have hr := (h t _ ht (loads_of_takes
          (takes_load_fresh hmissing (.inr (hlegacy.trans hl))))).1 b hb
        cases hr
      | state s =>
        have hr := (h t _ ht (loads_of_takes
          (takes_load_legacy hmissing (hlegacy.trans hl) rfl))).1 b hb
        exact .inr (congrArg some (congrArg LoadedState.state hr))
    · -- the defaults are stored, and the next load finds them
      obtain hp' | ⟨-, hkept⟩ := hprimary
      · rw [hp] at hp'
        cases hp'
      have hread : readImage S d.backup = .ok ⟨S.defaults, false⟩ := by rw [hba]; rfl
      have hload := takes_load_backup hp hkept hread
      have hstored : imageData S (saved S S.defaults (d.moveAside .primary)).primary =
          some S.defaults := data_saved (S.normalize_normalize _)
      obtain ⟨V, t, htakes, -⟩ := takes_load_readable hstored
      refine (h _ _ (.single ((hload.cuts _).mpr (.inr (.inr (.inr rfl)))))
        (loads_of_takes htakes)).2 ?_ rfl
      rw [hba]
      rfl
  · rintro (hstuck' | ⟨hbackup, hdefaults⟩) t r ht hr
    · exact absurd hstuck' hstuck
    refine ⟨fun b hb => ?_, fun hb hdef => ?_⟩
    · have hbacked : Backed S b d :=
        ⟨hb, .inr ⟨hprimary.imp id And.left, hbackup b hb⟩⟩
      exact (restarts_keep (fun _ h => backed_keeps h) hbacked ht).2 r hr
    · have hunbacked : Unbacked S (d.legacy.data S) d := by
        rcases hprimary with hp | ⟨hp, -⟩
        · exact .missing hp rfl
        · exact .corrupt hp rfl hb (hdefaults hp)
      have hl := (restarts_keep (fun _ h => unbacked_keeps h) hunbacked ht).2 r hr
      rw [hdef] at hl
      exact hl rfl

abbrev asciiStates : DiskStates PluginDiskState := diskStates asciiLowering

def truncated : Damage asciiStates := ⟨.corrupt, rfl⟩

def backedUpState : PluginDiskState := ⟨defaultConfig, [("auth:a", ⟨"spare", "", [], "", 0⟩)], []⟩

def withBackup : Disk PluginDiskState :=
  ⟨.valid ⟨1, backedUpState⟩, .valid ⟨1, backedUpState⟩, .absent, .absent, ⟨.absent, .absent⟩⟩

def noBackup : Disk PluginDiskState := { withBackup with backup := .absent }

/-- A crash behind the quarantine loses the valid backup; with none a second load reports defaults.
-/
theorem recovery_loses_backup :
    (∃ t b, Restarts asciiStates (truncated.of withBackup) t ∧
      imageData asciiStates t.backup = some b ∧ b ≠ asciiStates.defaults ∧
      Loads asciiStates t ⟨asciiStates.defaults, false⟩) ∧
    ∃ t, Restarts asciiStates (truncated.of noBackup) t ∧
      Loads asciiStates t ⟨asciiStates.defaults, true⟩ := by
  have hload := takes_load_backup (S := asciiStates) (d := truncated.of withBackup)
    (b := ⟨asciiStates.normalizePluginDiskState backedUpState, true⟩) rfl rfl rfl
  have hdefault := takes_load_backup (S := asciiStates) (d := truncated.of noBackup)
    (b := ⟨asciiStates.defaults, false⟩) rfl rfl rfl
  obtain ⟨V, u, htakes, -⟩ := takes_load_readable (S := asciiStates)
    (d := saved _ asciiStates.defaults ((truncated.of noBackup).moveAside .primary))
    (data_saved (asciiStates.normalize_normalize _))
  refine ⟨⟨_, _, .single ((hload.cuts _).mpr (.inr (.inl rfl))), rfl, fun h => ?_,
      loads_of_takes (takes_load_fresh rfl (.inl rfl))⟩,
    ⟨_, .single ((hdefault.cuts _).mpr (.inr (.inr (.inr rfl)))), loads_of_takes htakes⟩⟩
  cases congrArg PluginDiskState.accounts h

end Restarts

end QuotaScheduler.UserDataRecovery

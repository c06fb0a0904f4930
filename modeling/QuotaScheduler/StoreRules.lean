/- One safety rule for each routine of the state store, for any assertion on the disk. -/

import QuotaScheduler.StateStore

namespace QuotaScheduler.StoreRules

open Lib Lib.Resumable StateStore

variable {ρ α : Type} {C : Contract Choice (Disk ρ)} {I P P' : Disk ρ → Prop}
  {Q : α → Disk ρ → Prop} {E : StoreErr → Disk ρ → Prop} {d : Disk ρ}

abbrev StoreSafe (C : Contract Choice (Disk ρ)) (I : Disk ρ → Prop) (Q : α → Disk ρ → Prop)
    (E : StoreErr → Disk ρ → Prop) (p : StoreProg ρ α) (d : Disk ρ) : Prop :=
  Safe exec C I Q E p d

/-- An assertion at a cut point: it is stable, and gives the invariant and the failure assertion. -/
structure Cut (C : Contract Choice (Disk ρ)) (I : Disk ρ → Prop)
    (E : StoreErr → Disk ρ → Prop) (P : Disk ρ → Prop) : Prop where
  stable : C.Stable P
  holds : ∀ t, P t → I t
  fails : ∀ t, P t → C.allow t .fail → StoreSafe C I (fun (_ : Unit) _ => False) E (.raise .io) t

theorem Cut.of_stable (hP : C.Stable P) (hI : ∀ t, P t → I t) (hE : ∀ e, C.Stable (E e))
    (hEI : ∀ e t, E e t → I t) (hf : ∀ t, P t → C.allow t .fail → E .io t) : Cut C I E P where
  stable := hP
  holds := hI
  fails t ht hc := safe_raise (hE .io) (hEI .io) (fun _ h => h) (hf t ht hc)

theorem Cut.raise (hP : Cut C I E P) (h : P d) (hc : C.allow d .fail) :
    StoreSafe C I Q E (.raise .io) d :=
  fun t ht => hP.fails d h hc t ht

theorem Cut.pure {a : α} (hP : Cut C I E P) (hQ : ∀ t, P t → Q a t) (h : P d) :
    StoreSafe C I Q E (pure a) d :=
  safe_pure hP.stable hP.holds hQ h

theorem steps_safe (hP : Cut C I E P) (os : List Inert) (h : P d) :
    StoreSafe C I (fun _ => P) E (steps os) d := by
  induction os generalizing d with
  | nil => exact hP.pure (fun _ ht => ht) h
  | cons o os ih =>
    refine safe_call hP.stable hP.holds (fun t c ht hc => ?_) h
    cases c with
    | ok => exact ih ht
    | fail => exact hP.raise ht hc

theorem replaceTemp_safe {target : FileName} {raw : FileImage ρ} (hP : Cut C I E P)
    (hP' : Cut C I E P') (hset : ∀ t, P t → P' (t.set target raw)) (h : P d) :
    StoreSafe C I (fun _ => P') E (TwoFiles.replaceTemp .io target raw) d := by
  refine safe_call hP.stable hP.holds (fun t c ht hc => ?_) h
  cases c with
  | ok => exact hP'.pure (fun _ ht => ht) (hset t ht)
  | fail => exact hP.raise ht hc

theorem writeAtomic_safe {target : FileName} {raw : FileImage ρ} (hP : Cut C I E P)
    (hP' : Cut C I E P') (hset : ∀ t, P t → P' (t.set target raw)) (h : P d) :
    StoreSafe C I (fun _ => P') E (writeAtomic target raw) d := by
  refine (steps_safe hP _ h).bind fun _ t ht => ?_
  refine (replaceTemp_safe hP hP' hset ht).bind fun _ t ht => ?_
  exact steps_safe hP' _ ht

variable {f : FileName}

theorem readPersistentState_safe {k : ReadResult ρ → StoreProg ρ α} (hP : Cut C I E P)
    (hstate : ∀ t s, P t → t.get f = .valid s → StoreSafe C I Q E (k (.state s)) t)
    (habsent : ∀ t, P t → t.get f = .absent → StoreSafe C I Q E (k .notExist) t)
    (hcorrupt : ∀ t, P t → t.get f = .corrupt → StoreSafe C I Q E (k .corrupt) t)
    (herr : ∀ t, P t → C.allow t .fail → StoreSafe C I Q E (k .otherErr) t) (h : P d) :
    StoreSafe C I Q E (readPersistentState f >>= k) d := by
  refine safe_call hP.stable hP.holds (fun t c ht hc => ?_) h
  cases c with
  | ok =>
    change StoreSafe C I Q E (k (.ofImage (some (t.get f)))) t
    cases hf : t.get f with
    | absent => exact habsent t ht hf
    | corrupt => exact hcorrupt t ht hf
    | valid s => exact hstate t s ht hf
  | fail => exact herr t ht hc

theorem replaceAside_safe {os : List Inert} (hP : Cut C I E P) (hP' : Cut C I E P')
    (hmove : ∀ t, P t → P' (t.moveAside f)) (h : P d) :
    StoreSafe C I (fun _ => P') E (TwoFiles.replaceAside .io os f) d := by
  refine safe_call hP.stable hP.holds (fun t c ht hc => ?_) h
  cases c with
  | ok => exact steps_safe hP' _ (hmove t ht)
  | fail => exact hP.raise ht hc

theorem quarantine_safe (hP : Cut C I E P) (hP' : Cut C I E P') (hf : ∀ t, P t → t.get f ≠ .absent)
    (hkept : ∀ t, P t → StoreSafe C I (fun (_ : Unit) _ => False) E
      (.raise .corruptEvidenceExists) t) (hmove : ∀ t, P t → P' (t.moveAside f)) (h : P d) :
    StoreSafe C I (fun _ => P') E (quarantine f) d := by
  refine safe_call hP.stable hP.holds (fun t c ht hc => ?_) h
  cases c with
  | fail => exact hP.raise ht hc
  | ok =>
    have hpresent : (t.get f).present = true := by
      cases hi : t.get f with
      | absent => exact absurd hi (hf t ht)
      | corrupt | valid s => rfl
    simp only [exec, hpresent, if_true]
    refine safe_call hP.stable hP.holds (fun u c hu hc => ?_) ht
    cases c with
    | fail => exact hP.raise hu hc
    | ok =>
      simp only [exec]
      split
      · exact fun v hv => (hkept u hu) v hv
      · exact replaceAside_safe hP hP' hmove hu

/-- The assertions before the write, after the backup's bytes are read, and after each rename. -/
theorem writeLockedMode_safe {s : Store ρ} {state : PersistentState ρ} {mirrorBackup : Bool}
    {B : FileImage ρ → Disk ρ → Prop} {A R : Disk ρ → Prop} (hP : Cut C I E P)
    (hB : ∀ image, Cut C I E (B image)) (hA : Cut C I E A) (hR : Cut C I E R)
    (hro : s.readOnly = true → StoreSafe C I (fun (_ : Unit) _ => False) E
      (.raise .stateReadOnly) d) (hread : ∀ t, P t → B (match t.primary with
      | .absent => .valid (sealState s state)
      | current => if mirrorBackup then .valid (sealState s state) else current) t)
    (hmirror : ∀ t, P t → mirrorBackup = true → B (.valid (sealState s state)) t)
    (hbackup : ∀ t image, B image t → A (t.set .backup image))
    (hprimary : ∀ t, A t → R (t.set .primary (.valid (sealState s state)))) (h : P d) :
    StoreSafe C I (fun s' t => s' = { s with state := sealState s state, loaded := true } ∧ R t) E
      (writeLockedMode s state mirrorBackup) d := by
  unfold writeLockedMode
  split
  · rename_i hs
    exact fun t ht => (hro hs) t ht |>.imp id id
  have hwrite : ∀ image t, B image t → StoreSafe C I
      (fun s' t => s' = { s with state := sealState s state, loaded := true } ∧ R t) E
      (do writeAtomic .backup image
          writeAtomic .primary (.valid (sealState s state))
          pure { s with state := sealState s state, loaded := true }) t := fun image t ht => by
    refine (writeAtomic_safe (hB image) hA (hbackup · image) ht).bind fun _ t ht => ?_
    refine (writeAtomic_safe hA hR hprimary ht).bind fun _ t ht => ?_
    exact hR.pure (fun _ hu => ⟨rfl, hu⟩) ht
  refine (steps_safe hP _ h).bind fun _ t ht => ?_
  refine safe_call hP.stable hP.holds (fun u c hu hc => ?_) ht
  cases c with
  | ok =>
    have hsource := hread u hu
    simp only [exec, TwoFiles.Disk.get]
    cases hi : u.primary <;> rw [hi] at hsource <;> exact hwrite _ u hsource
  | fail =>
    cases mirrorBackup with
    | false => exact hP.raise hu hc
    | true => exact hwrite _ u (hmirror u hu rfl)

end QuotaScheduler.StoreRules

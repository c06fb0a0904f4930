/- The recovery enables an account only over its own disable. -/

import QuotaScheduler.ManagedMoves

namespace QuotaScheduler.ManagedOwnership

open Account (QuotaFailureEvent)
open AuthFile ManagedLifecycle ManagedMoves ManagedRuns Lib.Runs Lib.Tables Option AList

def Own (w : World) (index : String) : Prop :=
  flagOf (w.files index) = true ∧ w.flagBy index = .plugin

def Foreign (w : World) (index : String) : Prop :=
  flagOf (w.files index) = true ∧ w.flagBy index = .other

variable {w w' : World} {index other : String} {stage : RecoveryStage} {ledger : Ledger} {env : Env}
  {b : Bool} {todo : List String}

theorem own_of_not_foreign (hflag : flagOf (w.files index) = true) (h : ¬ Foreign w index) :
    Own w index := by
  refine ⟨hflag, ?_⟩
  cases hby : w.flagBy index with
  | plugin => rfl
  | other => exact absurd ⟨hflag, hby⟩ h

def pastRead (index : String) : ApplyThread → Bool
  | .read _ => false
  | .decide event _ _ => decide (event.authIndex = index)
  | .release i => decide (i = index)
  | .plan event _ _ _ => decide (event.authIndex = index)
  | .save i _ _ => decide (i = index)
  | .confirm i => decide (i = index)

def visits (index : String) : RecoveryStage → Bool
  | .idle | .select => false
  | .reconcile todo | .read todo => decide (index ∈ todo)
  | .settle i _ todo | .decide i _ _ _ todo | .drop i todo | .check i _ todo | .ask i _ _ _ todo
  | .save i _ _ todo | .release i todo => decide (index ∈ i :: todo)

def mayWrite (index : String) : RecoveryStage → Bool
  | .decide i _ _ _ _ | .ask i _ _ _ _ | .save i _ _ _ => decide (i = index)
  | .idle | .select | .reconcile _ | .read _ | .settle _ _ _ | .drop _ _ | .check _ _ _
  | .release _ _ => false

/-- Others set only flags the plugin leaves alone, and clear them outside the recovery's write. -/
def keepsApart (w : World) : Event → Bool
  | .operator index true =>
    (w.ledger.lookup index).isNone && (w.applies.entries.all fun e => !pastRead index e.2) &&
      !visits index w.recovery
  | .operator index false => !mayWrite index w.recovery
  | .elapse _ | .crash | .startApply _ _ | .apply _ _ | .startRecovery | .recover _ _
  | .startRefresh _ _ | .refresh _ _ _ | .endRefresh _ | .rotate _ _ => true

def Event.ofFlag : Event → Bool
  | .elapse _ | .crash | .startApply _ _ | .apply _ _ | .startRecovery | .recover _ _
  | .operator _ _ => true
  | .startRefresh _ _ | .refresh _ _ _ | .endRefresh _ | .rotate _ _ => false

/-- A disable that cannot come to own a flag someone else has set. -/
def Harmless (index : String) : ApplyThread → Prop
  | .read _ => True
  | .decide event _ doc => event.authIndex = index → disabledFlag doc = true
  | .release i => i ≠ index
  | .plan event _ _ _ => event.authIndex ≠ index
  | .save i _ _ => i ≠ index
  | .confirm i => i ≠ index

def Clears (w : World) : RecoveryStage → Prop
  | .decide index _ doc _ _ => disabledFlag doc = true → Own w index
  | .ask index _ _ _ _ => Own w index
  | .save index _ _ _ => Own w index
  | .idle | .select | .reconcile _ | .read _ | .settle _ _ _ | .drop _ _ | .check _ _ _
  | .release _ _ => True

/-- The plugin has nothing to do with a flag someone else has set. -/
structure Apart (w : World) : Prop where
  ledger : ∀ index, Foreign w index → w.ledger.lookup index = none
  applies : ∀ index, Foreign w index → ∀ n t, w.applies.lookup n = some t → Harmless index t
  recovery : ∀ index, Foreign w index → visits index w.recovery = false
  clears : Clears w w.recovery

theorem Clears.mono (h : Clears w stage)
    (hown : ∀ index, mayWrite index stage = true → Own w index → Own w' index) :
    Clears w' stage := by
  cases stage with
  | decide index reading doc now todo => exact fun hd => hown index (by simp [mayWrite]) (h hd)
  | ask index reading doc now todo | save index reading doc todo =>
    exact hown index (by simp [mayWrite]) h
  | _ => trivial

open Clears

theorem Apart.setApply (h : Apart w) (n : Nat) {t : Option ApplyThread}
    (hledger : ∀ index, Foreign w index → ledger.lookup index = none)
    (ht : ∀ index, Foreign w index → ∀ s, t = some s → Harmless index s) :
    Apart ({ w with ledger := ledger }.setApply n t) := by
  refine ⟨hledger, fun index hf m s hs => ?_, h.recovery, mono h.clears fun index _ ho => ho⟩
  rcases lookup_put hs with ⟨-, hnew⟩ | ⟨-, hold⟩
  · exact ht index hf s hnew
  · exact h.applies index hf m s hold

theorem Apart.endApply (h : Apart w) (n : Nat) : Apart (w.setApply n none) :=
  h.setApply n h.ledger fun _ _ _ hs => by cases hs

theorem Apart.setRecovery (h : Apart w)
    (hledger : ∀ index, Foreign w index → ledger.lookup index = none)
    (hvisits : ∀ index, Foreign w index → visits index stage = false) (hclears : Clears w stage) :
    Apart { w with ledger := ledger, recovery := stage } :=
  ⟨hledger, h.applies, hvisits, mono hclears fun _ _ ho => ho⟩

theorem Apart.crash (h : Apart w) : Apart w.crash :=
  ⟨h.ledger, fun _ _ _ _ hs => by simp [World.crash] at hs, fun _ _ => rfl, trivial⟩

variable {i : String}

theorem lookup_erase_none (h : ledger.lookup index = none) :
    (ledger.erase i).lookup index = none := by
  by_cases hi : index = i
  · rw [hi, lookup_erase]
  · rw [lookup_erase_ne hi, h]

variable {now : Time}

theorem lookup_settleLedger_none (h : ledger.lookup index = none) (disabled : Bool) :
    (settleLedger env ledger i disabled now).lookup index = none := by
  unfold settleLedger
  split
  · exact h
  case h_2 record hrecord =>
    split
    · rw [lookup_insert_ne, h]
      rintro rfl
      rw [h] at hrecord
      cases hrecord
    · exact lookup_erase_none h

theorem lookup_checkLedger_none (h : ledger.lookup index = none) :
    (checkLedger env ledger i now).lookup index = none := by
  unfold checkLedger
  split
  · exact h
  case h_2 record hrecord =>
    rw [lookup_insert_ne, h]
    rintro rfl
    rw [h] at hrecord
    cases hrecord

variable {doc : Fields}

theorem not_foreign_saveFlag : ¬ Foreign (w.saveFlag env index doc b) index := by
  rintro ⟨-, hby⟩
  simp [World.saveFlag, World.write] at hby

theorem foreign_saveFlag {doc : Fields} (h : Foreign (w.saveFlag env index doc b) other) :
    other ≠ index ∧ Foreign w other := by
  have hne : other ≠ index := by
    rintro rfl
    exact not_foreign_saveFlag h
  unfold Foreign at h ⊢
  simpa [World.saveFlag, World.write, hne] using h

theorem own_saveFlag_true : Own (w.saveFlag env index doc true) index := by
  unfold Own
  simp [World.saveFlag, World.write, flagOf, decodeManaged]

theorem own_saveFlag_ne {doc : Fields} (hne : other ≠ index) (h : Own w other) :
    Own (w.saveFlag env index doc b) other := by
  unfold Own at h ⊢
  simpa [World.saveFlag, World.write, hne] using h

theorem Apart.saveFlag_true (h : Apart w) (env : Env) (index : String) (doc : Fields) :
    Apart (w.saveFlag env index doc true) := by
  refine ⟨fun other hf => h.ledger other (foreign_saveFlag hf).2,
    fun other hf => h.applies other (foreign_saveFlag hf).2,
    fun other hf => h.recovery other (foreign_saveFlag hf).2,
    mono h.clears fun other _ ho => ?_⟩
  by_cases hother : other = index
  · rw [hother]
    exact own_saveFlag_true
  · exact own_saveFlag_ne hother ho

theorem Apart.saveFlag_false (h : Apart w) (env : Env) (index : String) (doc : Fields)
    (hvisits : ∀ i, Foreign w i → visits i stage = false)
    (hclears : Clears { w.saveFlag env index doc false with recovery := stage } stage) :
    Apart { w.saveFlag env index doc false with recovery := stage } := by
  have hforeign : ∀ i, Foreign { w.saveFlag env index doc false with recovery := stage } i →
      Foreign w i := by
    intro i hf
    have hf : Foreign (w.saveFlag env index doc false) i := hf
    exact (foreign_saveFlag hf).2
  exact ⟨fun i hf => h.ledger i (hforeign i hf), fun i hf => h.applies i (hforeign i hf),
    fun i hf => hvisits i (hforeign i hf), hclears⟩

theorem decideApply_ignore {text : AuthText} {doc : Option Fields}
    (hflag : disabledFlag doc = true) :
    decideApply env index text doc none = .ignore := by
  simp [decideApply, hflag]

theorem not_decides (h : Apart w) {n : Nat} {event : QuotaFailureEvent} {reading : Reading}
    {doc : Option Fields} (ht : w.applies.lookup n = some (.decide event reading doc))
    (hdecides : decideApply env event.authIndex reading.text doc
      (w.ledger.lookup event.authIndex) ≠ .ignore) (hf : Foreign w index) :
    event.authIndex ≠ index := by
  rintro rfl
  have hflag : disabledFlag doc = true := h.applies _ hf n _ ht rfl
  rw [h.ledger _ hf] at hdecides
  exact hdecides (decideApply_ignore hflag)

theorem Apart.applyMove (h : Apart w) {n : Nat} {t : ApplyThread} (ht : w.applies.lookup n = some t)
    (hmove : ApplyMove env w n t w') : Apart w' := by
  cases hmove with
  | stop => exact h.endApply n
  | read event doc hdoc =>
    refine h.setApply n h.ledger fun index hf s hs => ?_
    obtain rfl := some.inj hs
    intro heq
    rw [← flagOf_of_decodeManaged hdoc, heq]
    exact hf.1
  | release event reading doc hverdict | plan event reading doc fingerprint hverdict =>
    refine h.setApply n h.ledger fun index hf s hs => ?_
    obtain rfl := some.inj hs
    exact not_decides h ht (by rw [hverdict]; simp) hf
  | erase index =>
    exact h.setApply n (fun other hf => lookup_erase_none (h.ledger other hf))
      fun _ _ _ hs => by cases hs
  | record event reading doc fingerprint =>
    have hne : ∀ index, Foreign w index → event.authIndex ≠ index :=
      fun index hf => h.applies index hf n _ ht
    refine h.setApply n (fun index hf => ?_) fun index hf s hs => ?_
    · rw [lookup_insert_ne (hne index hf).symm, h.ledger index hf]
    · split at hs
      · cases hs
      · obtain rfl := some.inj hs
        exact hne index hf
  | crash index reading => exact h.crash
  | save index reading fields next hnext =>
    have hsaved := h.saveFlag_true env index fields
    refine hsaved.setApply n hsaved.ledger fun other hf s hs => ?_
    rw [hnext s hs]
    exact (foreign_saveFlag hf).1.symm
  | confirm index =>
    refine h.setApply n (fun other hf => ?_) fun _ _ _ hs => by cases hs
    have hne : index ≠ other := h.applies other hf n _ ht
    rw [lookup_insert_ne hne.symm, h.ledger other hf]

theorem visits_reconcileNext : visits index (reconcileNext todo) = decide (index ∈ todo) := by
  cases todo <;> simp [reconcileNext, visits]

theorem visits_readNext : visits index (readNext todo) = decide (index ∈ todo) := by
  cases todo <;> simp [readNext, visits]

theorem not_visits_reconcileNext {i : String} (h : index ∉ i :: todo) :
    visits index (reconcileNext todo) = false := by
  rw [visits_reconcileNext]
  exact decide_eq_false fun hmem => h (List.mem_cons_of_mem i hmem)

theorem not_visits_readNext {i : String} (h : index ∉ i :: todo) :
    visits index (readNext todo) = false := by
  rw [visits_readNext]
  exact decide_eq_false fun hmem => h (List.mem_cons_of_mem i hmem)

theorem clears_reconcileNext : Clears w (reconcileNext todo) := by
  cases todo <;> trivial

theorem clears_readNext : Clears w (readNext todo) := by
  cases todo <;> trivial

theorem not_mem_of_isSome {l : List String} (hl : ∀ i ∈ l, (ledger.lookup i).isSome = true)
    (h : ledger.lookup index = none) : index ∉ l := by
  intro hmem
  have := hl index hmem
  rw [h] at this
  cases this

theorem Apart.toIdle (h : Apart w) : Apart { w with recovery := .idle } :=
  h.setRecovery h.ledger (fun _ _ => rfl) trivial

theorem Apart.eraseNext (h : Apart w) (hvisits : ∀ i, Foreign w i → i ∉ index :: todo) :
    Apart { w with ledger := w.ledger.erase index, recovery := readNext todo } :=
  h.setRecovery (fun i hf => lookup_erase_none (h.ledger i hf))
    (fun i hf => not_visits_readNext (hvisits i hf)) clears_readNext

theorem Apart.recoveryMove (h : Apart w) (hstage : w.recovery = stage)
    (hmove : RecoveryMove env w stage w') : Apart w' := by
  have hclears := h.clears
  have hvisits := h.recovery
  rw [hstage] at hclears hvisits
  -- the stages up to the next one visit the same accounts
  have hnext : ∀ {next : RecoveryStage}, (∀ i, visits i next = visits i stage) → Clears w next →
      Apart { w with recovery := next } := fun hsame hnext =>
    h.setRecovery h.ledger (fun i hf => (hsame i).trans (hvisits i hf)) hnext
  cases hmove with
  | stop => exact h.toIdle
  | reconciled => exact h.setRecovery h.ledger (fun _ _ => rfl) trivial
  | skip index todo =>
    refine h.setRecovery h.ledger (fun i hf => ?_) clears_reconcileNext
    exact not_visits_reconcileNext (of_decide_eq_false (hvisits i hf))
  | found index todo doc hdoc | postpone index reading fields now todo
  | drop index reading doc now todo | check index reading doc now todo =>
    exact hnext (fun _ => rfl) trivial
  | settle index disabled todo =>
    refine h.setRecovery (fun i hf => lookup_settleLedger_none (h.ledger i hf) disabled)
      (fun i hf => ?_) clears_reconcileNext
    exact not_visits_reconcileNext (of_decide_eq_false (hvisits i hf))
  | select =>
    refine h.setRecovery h.ledger (fun i hf => ?_) clears_readNext
    rw [visits_readNext]
    exact decide_eq_false (not_mem_of_isSome (fun _ => mem_dueIndices) (h.ledger i hf))
  | read index todo doc hdoc =>
    refine hnext (fun _ => rfl) fun hflag => ?_
    rw [← flagOf_of_decodeManaged hdoc] at hflag
    refine own_of_not_foreign hflag fun hf => ?_
    exact of_decide_eq_false (hvisits index hf) List.mem_cons_self
  | ask index reading fields now todo hverdict =>
    refine hnext (fun _ => rfl) (hclears ?_)
    -- the recovery asks for the quota of a disabled account only
    unfold decideRecover at hverdict
    split at hverdict
    · cases hverdict
    case isFalse hflag => simpa using hflag
  | dropped index todo | released index todo =>
    exact h.eraseNext fun i hf => of_decide_eq_false (hvisits i hf)
  | checked index now todo =>
    refine h.setRecovery (fun i hf => lookup_checkLedger_none (h.ledger i hf))
      (fun i hf => ?_) clears_readNext
    exact not_visits_readNext (of_decide_eq_false (hvisits i hf))
  | enable index reading fields now todo => exact hnext (fun _ => rfl) hclears
  | save index reading fields todo => exact h.saveFlag_false env index fields hvisits trivial
  | lost index reading fields todo =>
    exact h.saveFlag_false env index fields (fun _ _ => rfl) trivial

theorem foreign_editFlag_ne (hne : other ≠ index) :
    (Foreign (w.editFlag index b) other ↔ Foreign w other) ∧
      (Own (w.editFlag index b) other ↔ Own w other) := by
  unfold World.editFlag Foreign Own
  split
  · simp [World.write, hne]
  · exact ⟨.rfl, .rfl⟩

theorem editFlag_writers (w : World) (index : String) (b : Bool) :
    (w.editFlag index b).ledger = w.ledger ∧ (w.editFlag index b).applies = w.applies ∧
      (w.editFlag index b).recovery = w.recovery := by
  unfold World.editFlag
  split <;> exact ⟨rfl, rfl, rfl⟩

theorem harmless_of_not_pastRead {t : ApplyThread} (h : pastRead index t = false) :
    Harmless index t := by
  cases t with
  | read event => trivial
  | decide event reading doc => exact fun heq => absurd heq (of_decide_eq_false h)
  | release i | plan event reading doc fingerprint | save i reading doc | confirm i =>
    exact of_decide_eq_false h

theorem visits_of_mayWrite (h : mayWrite index stage = true) : visits index stage = true := by
  cases stage <;> simp_all [mayWrite, visits]

theorem Apart.editFlag (h : Apart w) (hcond : keepsApart w (.operator index b) = true) :
    Apart (w.editFlag index b) := by
  obtain ⟨hledger, happlies, hrecovery⟩ := editFlag_writers w index b
  -- the recovery may not write the index that is edited
  have hwrite : mayWrite index w.recovery = false := by
    cases b with
    | false => simpa [keepsApart] using hcond
    | true =>
      have hvisits : visits index w.recovery = false := by
        simp only [keepsApart, Bool.and_eq_true, Bool.not_eq_true'] at hcond
        exact hcond.2
      cases hmay : mayWrite index w.recovery with
      | false => rfl
      | true => rw [visits_of_mayWrite hmay] at hvisits; cases hvisits
  -- a foreign flag of the index itself is one the edit has just set
  have hset : Foreign (w.editFlag index b) index → Foreign w index ∨ b = true := by
    intro hf
    unfold World.editFlag at hf
    split at hf
    · refine .inr ?_
      have hflag := hf.1
      simpa [World.write, flagOf, decodeManaged] using hflag
    · exact .inl hf
  have hclear : b = true → w.ledger.lookup index = none ∧
      (∀ n t, w.applies.lookup n = some t → Harmless index t) ∧
      visits index w.recovery = false := by
    rintro rfl
    simp only [keepsApart, Bool.and_eq_true, Bool.not_eq_true', List.all_eq_true,
      isNone_iff_eq_none] at hcond
    refine ⟨hcond.1.1, fun n t ht => ?_, hcond.2⟩
    exact harmless_of_not_pastRead (hcond.1.2 ⟨n, t⟩ (mem_lookup_iff.mp ht))
  refine ⟨fun i hf => ?_, fun i hf => ?_, fun i hf => ?_, ?_⟩
  · rw [hledger]
    by_cases hi : i = index
    · subst hi
      exact (hset hf).elim (h.ledger i) fun hb => (hclear hb).1
    · exact h.ledger i ((foreign_editFlag_ne hi).1.mp hf)
  · rw [happlies]
    by_cases hi : i = index
    · subst hi
      exact (hset hf).elim (h.applies i) fun hb => (hclear hb).2.1
    · exact h.applies i ((foreign_editFlag_ne hi).1.mp hf)
  · rw [hrecovery]
    by_cases hi : i = index
    · subst hi
      exact (hset hf).elim (h.recovery i) fun hb => (hclear hb).2.2
    · exact h.recovery i ((foreign_editFlag_ne hi).1.mp hf)
  · rw [hrecovery]
    refine mono h.clears fun i hi ho => (foreign_editFlag_ne ?_).2.mpr ho
    rintro rfl
    rw [hwrite] at hi
    cases hi

open Event

theorem Apart.step (h : Apart w) (env : Env) {e : Event} (hscope : ofFlag e = true)
    (hcond : keepsApart w e = true) : Apart (ManagedRuns.step env w e) := by
  cases e with
  | elapse d => exact ⟨h.ledger, h.applies, h.recovery, mono h.clears fun _ _ ho => ho⟩
  | crash => exact h.crash
  | startApply n event =>
    simp only [ManagedRuns.step]
    split
    · exact h.setApply n h.ledger fun _ _ s hs => by obtain rfl := some.inj hs; trivial
    · exact h
  | apply n outcome =>
    simp only [ManagedRuns.step]
    split
    · exact h
    case h_2 t ht => exact h.applyMove ht (actApply_move w n t)
  | startRecovery =>
    simp only [ManagedRuns.step]
    split
    · refine h.setRecovery h.ledger (fun i hf => ?_) clears_reconcileNext
      rw [visits_reconcileNext]
      exact decide_eq_false (not_mem_of_isSome (fun _ hin => isSome_iff_exists.mpr
        ((mem_filter_keys.mp hin).imp fun _ h => h.1)) (h.ledger i hf))
    · exact h
  | recover outcome answer => exact h.recoveryMove rfl (actRecovery_move rfl)
  | operator index disabled => exact h.editFlag hcond
  | startRefresh n index | refresh n refreshed outcome | endRefresh n | rotate index fields =>
    cases hscope

theorem apart_unrecorded (h : Unrecorded w) : Apart w := by
  refine ⟨fun i _ => ?_, fun i _ n t ht => ?_, fun i _ => ?_, ?_⟩
  · rw [h.ledger]
    rfl
  · rw [h.applies] at ht
    cases ht
  · rw [h.recovery]
    rfl
  · rw [h.recovery]
    trivial

/-- If flag edits keep away, the recovery clears only a flag the plugin has set. -/
theorem recovery_clears_own_flag (env : Env) (start : World) (events : Nat → Event)
    (hstart : Unrecorded start) (hscope : ∀ k, Event.ofFlag (events k) = true)
    (hcond : ∀ k, keepsApart (stateAt (step env) start events k) (events k) = true) (k : Nat)
    (index : String) (reading : Reading) (doc : Fields) (todo : List String)
    (hsave : (stateAt (step env) start events k).recovery = .save index reading doc todo) :
    flagOf ((stateAt (step env) start events k).files index) = true ∧
      (stateAt (step env) start events k).flagBy index = .plugin := by
  have hboth : ∀ m, ofFlag (events m) = true ∧
      keepsApart (stateAt (step env) start events m) (events m) = true :=
    fun m => ⟨hscope m, hcond m⟩
  have hapart := invariant_stateAt_of (C := fun w e => ofFlag e = true ∧ keepsApart w e = true)
    (apart_unrecorded hstart) (fun _ _ h hm => h.step env hm.1 hm.2) hboth k
  have hclears := hapart.clears
  rw [hsave] at hclears
  exact hclears

theorem ownDisable_is_cleared :
    saveIndex (stateAt (step plainEnv) oneFile (script .crash disableAndRecover) 11).recovery
      = some "x" ∧
      (stateAt (step plainEnv) oneFile (script .crash disableAndRecover) 11).flagBy "x"
        = .plugin := by
  have hscope : ∀ k, ofFlag (script .crash disableAndRecover k) = true :=
    script_all (p := fun e => ofFlag e = true) rfl
      (by simp [disableAndRecover, disableRun, planRun, recoverRun, ofFlag])
  have hcond : ∀ k, keepsApart (stateAt (step plainEnv) oneFile (script .crash disableAndRecover) k)
      (script .crash disableAndRecover k) = true :=
    script_meets (C := fun w e => keepsApart w e = true) (fun _ => rfl) (by decide +kernel)
  have hsave : saveIndex (stateAt (step plainEnv) oneFile (script .crash disableAndRecover)
      11).recovery = some "x" := by decide +kernel
  obtain ⟨reading, doc, todo, hstage⟩ := saveIndex_eq_some hsave
  exact ⟨hsave, (recovery_clears_own_flag plainEnv oneFile _ oneFile_unrecorded hscope hcond 11 "x"
    reading doc todo hstage).2⟩

/-- The plugin stops before it saves the flag, and an operator sets it. -/
def adoptedDisable : List Event :=
  planRun ++ [.crash, .operator "x" true, .startRecovery, .recover .ok none, .recover .ok none] ++
    recoverRun

theorem operator_flag_is_cleared :
    ¬ ∀ (env : Env) (start : World) (events : Nat → Event), Unrecorded start →
      (∀ k, Event.ofFlag (events k) = true) → ∀ k index reading doc todo,
        (stateAt (step env) start events k).recovery = .save index reading doc todo →
        flagOf ((stateAt (step env) start events k).files index) = true ∧
          (stateAt (step env) start events k).flagBy index = .plugin := by
  intro h
  have hscope : ∀ k, ofFlag (script .crash adoptedDisable k) = true :=
    script_all (p := fun e => ofFlag e = true) rfl
      (by simp [adoptedDisable, planRun, recoverRun, ofFlag])
  have hsave : saveIndex (stateAt (step plainEnv) oneFile (script .crash adoptedDisable)
      13).recovery = some "x" := by decide +kernel
  obtain ⟨reading, doc, todo, hstage⟩ := saveIndex_eq_some hsave
  have hplugin := (h plainEnv oneFile _ oneFile_unrecorded hscope 13 "x" reading doc todo hstage).2
  revert hplugin
  decide +kernel

end QuotaScheduler.ManagedOwnership

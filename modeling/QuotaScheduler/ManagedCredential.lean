/- The recovery enables the credential that was disabled. -/

import QuotaScheduler.ManagedMoves

namespace QuotaScheduler.ManagedCredential

open Account (QuotaFailureEvent)
open Identity AuthFile ManagedLifecycle ManagedMoves ManagedRuns Lib.Runs Lib.Tables Option AList

def isIdle : RecoveryStage → Bool
  | .idle => true
  | .reconcile _ | .settle _ _ _ | .select | .read _ | .decide _ _ _ _ _ | .drop _ _ | .check _ _ _
  | .ask _ _ _ _ _ | .save _ _ _ _ | .release _ _ => false

def quiet (w : World) : Bool := w.applies.entries.isEmpty && isIdle w.recovery

/-- Quota failures, recovery passes and rotations one after the other; each may end early. -/
def inSequence (w : World) : Event → Bool
  | .startApply _ _ | .startRecovery | .rotate _ _ => quiet w
  | .elapse _ | .crash | .apply _ _ | .recover _ _ => true
  | .startRefresh _ _ | .refresh _ _ _ | .endRefresh _ | .operator _ _ => false

/-- A disable of an account that is not disabled can read the account's credential. -/
def readable (env : Env) (w : World) : Event → Bool
  | .apply n _ =>
    match w.applies.lookup n with
    | some (.read event) =>
      (decodeManaged (w.files event.authIndex)).isNone || flagOf (w.files event.authIndex) ||
        (fingerprintOf env event.authIndex (w.files event.authIndex)).isSome
    | _ => true
  | .elapse _ | .crash | .startApply _ _ | .startRecovery | .recover _ _ | .startRefresh _ _
  | .refresh _ _ _ | .endRefresh _ | .operator _ _ | .rotate _ _ => true

def Names (env : Env) (w : World) (index : String) : Prop :=
  ∃ r, w.ledger.lookup index = some r ∧ fingerprintOf env index (w.files index) = some r.fingerprint

def Recorded (env : Env) (w : World) : Prop :=
  ∀ index r, w.ledger.lookup index = some r →
    r.fingerprint.validHashes env.hashing.composite = true ∧
      (flagOf (w.files index) = true → w.disabledWith index = some r.fingerprint)

structure Held (w : World) (index : String) (reading : Reading) (doc : Option Fields) : Prop where
  text : reading.text = w.files index
  decoded : decodeManaged (w.files index) = some doc

def ApplyOk (env : Env) (w : World) : ApplyThread → Prop
  | .read _ | .release _ => True
  | .decide event reading doc =>
    Held w event.authIndex reading doc ∧ (disabledFlag doc = false →
      (fingerprintOf env event.authIndex (w.files event.authIndex)).isSome = true)
  | .plan event reading doc fingerprint =>
    Held w event.authIndex reading doc ∧ fingerprint.validHashes env.hashing.composite = true ∧
      (disabledFlag doc = true →
        ∃ r, w.ledger.lookup event.authIndex = some r ∧ r.fingerprint = fingerprint) ∧
      (disabledFlag doc = false →
        fingerprintOf env event.authIndex (w.files event.authIndex) = some fingerprint)
  | .save index _ _ => Names env w index
  | .confirm index => (w.ledger.lookup index).isSome = true

def Listed (w : World) (todo : List String) : Prop :=
  todo.Nodup ∧ ∀ index ∈ todo, (w.ledger.lookup index).isSome = true

def RecoveryOk (env : Env) (w : World) : RecoveryStage → Prop
  | .idle | .reconcile _ | .settle _ _ _ | .select => True
  | .read todo => Listed w todo
  | .decide index reading doc _ todo => Held w index reading doc ∧ Listed w (index :: todo)
  | .drop index todo | .check index _ todo | .release index todo => Listed w (index :: todo)
  | .ask index _ _ _ todo | .save index _ _ todo =>
    Names env w index ∧ flagOf (w.files index) = true ∧ Listed w (index :: todo)

/-- One procedure at a time, over the state it has read; records name credentials. -/
structure Faithful (env : Env) (w : World) : Prop where
  recorded : Recorded env w
  applies : ∀ n t, w.applies.lookup n = some t → ApplyOk env w t
  sole : ∀ m n, (w.applies.lookup m).isSome = true → (w.applies.lookup n).isSome = true → m = n
  apart : w.recovery = .idle ∨ ∀ n, w.applies.lookup n = none
  recovery : RecoveryOk env w w.recovery

variable {env : Env} {index : String} {text : AuthText} {fingerprint : CredentialFingerprint}
  {r : ManagedDisableRecord} {w w' : World} {todo : List String} {n : Nat}

theorem validHashes_fingerprintOf (h : fingerprintOf env index text = some fingerprint) :
    fingerprint.validHashes env.hashing.composite = true := by
  obtain ⟨c, -, rfl⟩ := map_eq_some_iff.mp h
  exact validHashes_newCredentialFingerprint _ _ _ _

theorem fingerprint_of_not_rotatedAway {c : CodexCredentials}
    (hvalid : r.fingerprint.validHashes env.hashing.composite = true)
    (h : rotatedAway env index (some r) (some c) = false) :
    r.fingerprint = managedAuthFingerprint env index c := by
  simpa [rotatedAway, hvalid] using h

theorem decideApply_plan {doc : Option Fields} {record : Option ManagedDisableRecord}
    (hrecord : ∀ r, record = some r → r.fingerprint.validHashes env.hashing.composite = true)
    (hread : disabledFlag doc = false → (fingerprintOf env index text).isSome = true)
    (h : decideApply env index text doc record = .plan fingerprint) :
    fingerprint.validHashes env.hashing.composite = true ∧
      (disabledFlag doc = true → ∃ r, record = some r ∧ r.fingerprint = fingerprint) ∧
      (disabledFlag doc = false → fingerprintOf env index text = some fingerprint) := by
  unfold decideApply at h
  dsimp only at h
  split at h
  · cases h
  case isFalse hkeep =>
    split at h
    · cases h
    case isFalse hrotated =>
      obtain rfl := ApplyVerdict.plan.inj h
      have howned : disabledFlag doc = true → ∃ r, record = some r := by
        intro hflag
        cases record with
        | none => simp [hflag] at hkeep
        | some r => exact ⟨r, rfl⟩
      cases hc : extractCodexCredentials env.formats text with
      | some c =>
        rw [hc] at hrotated
        have hprint : fingerprintOf env index text = some (managedAuthFingerprint env index c) := by
          rw [fingerprintOf, hc, map_some]
        refine ⟨validHashes_fingerprintOf hprint, fun hflag => ?_, fun _ => hprint⟩
        obtain ⟨r, rfl⟩ := howned hflag
        exact ⟨r, rfl, fingerprint_of_not_rotatedAway (hrecord r rfl)
          (Bool.eq_false_of_not_eq_true hrotated)⟩
      | none =>
        -- without a credential the account is disabled, and the record keeps its fingerprint
        have hflag : disabledFlag doc = true := by
          cases hd : disabledFlag doc with
          | true => rfl
          | false => simp [fingerprintOf, hc] at hread; exact absurd hd (by simp [hread])
        obtain ⟨r, rfl⟩ := howned hflag
        exact ⟨hrecord r rfl, fun _ => ⟨r, rfl, rfl⟩, fun hd => by rw [hflag] at hd; cases hd⟩

theorem decideRecover_ask {doc : Option Fields}
    (hvalid : r.fingerprint.validHashes env.hashing.composite = true)
    (h : decideRecover env index text doc (some r) = .ask) :
    disabledFlag doc = true ∧ fingerprintOf env index text = some r.fingerprint := by
  unfold decideRecover at h
  split at h
  · cases h
  case isFalse hflag =>
    split at h
    · cases h
    case h_2 c hc =>
      split at h
      · cases h
      split at h
      · cases h
      case isFalse hrotated =>
        refine ⟨by simpa using hflag, ?_⟩
        rw [fingerprintOf, hc, map_some,
          fingerprint_of_not_rotatedAway hvalid (Bool.eq_false_of_not_eq_true hrotated)]

theorem fingerprint_planRecord (event : QuotaFailureEvent) (now : Time)
    (record : Option ManagedDisableRecord)
    (h : fingerprint.validHashes env.hashing.composite = true) :
    (planRecord env event fingerprint now record).fingerprint = fingerprint := by
  simp [planRecord, h]

def Kept (ledger ledger' : Ledger) : Prop :=
  ∀ index r', ledger'.lookup index = some r' →
    ∃ r, ledger.lookup index = some r ∧ r'.fingerprint = r.fingerprint

theorem Kept.refl (ledger : Ledger) : Kept ledger ledger := fun _ r hr => ⟨r, hr, rfl⟩

variable {ledger : Ledger}

theorem kept_erase : Kept ledger (ledger.erase index) := by
  intro i r hr
  by_cases hi : i = index
  · rw [hi, lookup_erase] at hr
    cases hr
  · rw [lookup_erase_ne hi] at hr
    exact ⟨r, hr, rfl⟩

theorem kept_insert {ledger : Ledger} {r' : ManagedDisableRecord}
    (hr : ledger.lookup index = some r) (hprint : r'.fingerprint = r.fingerprint) :
    Kept ledger (ledger.insert index r') := by
  intro i s hs
  by_cases hi : i = index
  · subst hi
    rw [lookup_insert, some.injEq] at hs
    exact ⟨r, hr, hs ▸ hprint⟩
  · rw [lookup_insert_ne hi] at hs
    exact ⟨s, hs, rfl⟩

variable {now : Time}

theorem kept_settleLedger (disabled : Bool) :
    Kept ledger (settleLedger env ledger index disabled now) := by
  unfold settleLedger
  split
  · exact .refl ledger
  case h_2 record hrecord =>
    split
    · exact kept_insert hrecord (fingerprint_confirmRecord _ _ _ _)
    · exact kept_erase

theorem kept_checkLedger : Kept ledger (checkLedger env ledger index now) := by
  unfold checkLedger
  split
  · exact .refl ledger
  case h_2 record hrecord => exact kept_insert hrecord (fingerprint_checkRecord _ _)

theorem Recorded.kept (h : Recorded env w) (hledger : Kept w.ledger w'.ledger)
    (hfiles : w'.files = w.files) (hwith : w'.disabledWith = w.disabledWith) : Recorded env w' := by
  intro index r' hr'
  obtain ⟨r, hr, hprint⟩ := hledger index r' hr'
  rw [hprint, hfiles, hwith]
  exact h index r hr

theorem isSome_checkLedger {ledger : Ledger} {i : String} {now : Time}
    (h : (ledger.lookup i).isSome = true) :
    ((checkLedger env ledger index now).lookup i).isSome = true := by
  unfold checkLedger
  split
  · exact h
  · by_cases hi : i = index
    · rw [hi, lookup_insert]
      rfl
    · rw [lookup_insert_ne hi]
      exact h

theorem Listed.tail (h : Listed w (index :: todo))
    (hkeep : ∀ i, i ≠ index → (w.ledger.lookup i).isSome = true →
      (w'.ledger.lookup i).isSome = true) : Listed w' todo := by
  obtain ⟨hnot, hnodup⟩ := List.nodup_cons.mp h.1
  refine ⟨hnodup, fun i hi => hkeep i ?_ (h.2 i (List.mem_cons_of_mem _ hi))⟩
  rintro rfl
  exact hnot hi

theorem recoveryOk_readNext (h : Listed w todo) : RecoveryOk env w (readNext todo) := by
  cases todo with
  | nil => trivial
  | cons index todo => exact h

theorem recoveryOk_reconcileNext : RecoveryOk env w (reconcileNext todo) := by
  cases todo <;> trivial

theorem ApplyOk.setApply {t : Option ApplyThread} {s : ApplyThread} (h : ApplyOk env w s) :
    ApplyOk env (w.setApply n t) s := by
  cases s with
  | read event | release index => trivial
  | decide event reading doc | plan event reading doc fingerprint =>
    exact ⟨⟨h.1.text, h.1.decoded⟩, h.2⟩
  | save index reading doc | confirm index => exact h

theorem Faithful.setApply (h : Faithful env w) (hn : (w.applies.lookup n).isSome = true) {v : World}
    (happlies : v.applies = w.applies) (hrecovery : v.recovery = w.recovery)
    (hrecorded : Recorded env v) {t : Option ApplyThread} (ht : ∀ s, t = some s → ApplyOk env v s) :
    Faithful env (v.setApply n t) := by
  have hidle : v.recovery = .idle := by
    rw [hrecovery]
    refine h.apart.resolve_right fun hnone => ?_
    rw [hnone n] at hn
    cases hn
  -- any other disable would have been under way before
  have honly : ∀ m s, (v.setApply n t).applies.lookup m = some s → m = n ∧ t = some s := by
    intro m s hs
    rcases lookup_put hs with hnew | ⟨hne, hold⟩
    · exact hnew
    · rw [happlies] at hold
      exact absurd (h.sole m n (by rw [hold]; rfl) hn) hne
  have hstage : RecoveryOk env (v.setApply n t) v.recovery := by
    rw [hidle]
    trivial
  refine ⟨hrecorded, fun m s hs => (ht s (honly m s hs).2).setApply, fun l m hl hm => ?_,
    .inl hidle, hstage⟩
  obtain ⟨s, hs⟩ := isSome_iff_exists.mp hl
  obtain ⟨u, hu⟩ := isSome_iff_exists.mp hm
  exact (honly l s hs).1.trans (honly m u hu).1.symm

theorem Faithful.endApply (h : Faithful env w) (hn : (w.applies.lookup n).isSome = true) :
    Faithful env (w.setApply n none) :=
  h.setApply hn rfl rfl h.recorded fun _ hs => by cases hs

theorem Faithful.crash (h : Faithful env w) : Faithful env w.crash :=
  ⟨h.recorded, fun n t ht => by simp [World.crash] at ht, fun m n hm => by simp [World.crash] at hm,
    .inl rfl, trivial⟩

variable {doc : Fields}

theorem recorded_saveFlag_true (h : Recorded env w) (hnames : Names env w index) :
    Recorded env (w.saveFlag env index doc true) := by
  intro i r hr
  refine ⟨(h i r hr).1, fun hflag => ?_⟩
  by_cases hi : i = index
  · subst hi
    obtain ⟨r', hr', hprint⟩ := hnames
    obtain rfl : r' = r := some.inj (hr'.symm.trans hr)
    simpa [World.saveFlag] using hprint
  · have hold := (h i r hr).2
    simp only [World.saveFlag, World.write, Function.update_of_ne hi, if_true] at hflag ⊢
    exact hold hflag

theorem recorded_saveFlag_false (h : Recorded env w) :
    Recorded env (w.saveFlag env index doc false) := by
  intro i r hr
  refine ⟨(h i r hr).1, fun hflag => ?_⟩
  by_cases hi : i = index
  · subst hi
    simp [World.saveFlag, World.write, flagOf, decodeManaged] at hflag
  · have hold := (h i r hr).2
    simp only [World.saveFlag, World.write, Function.update_of_ne hi] at hflag
    exact hold hflag

theorem Faithful.applyMove (h : Faithful env w) {outcome : Outcome} {t : ApplyThread}
    (ht : w.applies.lookup n = some t) (hread : readable env w (.apply n outcome) = true)
    (hmove : ApplyMove env w n t w') : Faithful env w' := by
  have hn : (w.applies.lookup n).isSome = true := by rw [ht]; rfl
  have hok := h.applies n t ht
  cases hmove with
  | stop => exact h.endApply hn
  | read event doc hdoc =>
    simp only [readable, ht] at hread
    refine h.setApply hn rfl rfl h.recorded fun s hs => ?_
    obtain rfl := some.inj hs
    refine ⟨⟨rfl, hdoc⟩, fun hflag => ?_⟩
    rw [hdoc, flagOf_of_decodeManaged hdoc, hflag] at hread
    simpa using hread
  | release event reading doc hverdict =>
    refine h.setApply hn rfl rfl h.recorded fun s hs => ?_
    obtain rfl := some.inj hs
    trivial
  | plan event reading doc fingerprint hverdict =>
    obtain ⟨hheld, hcred⟩ := hok
    refine h.setApply hn rfl rfl h.recorded fun s hs => ?_
    obtain rfl := some.inj hs
    rw [hheld.text] at hverdict
    have hplan := decideApply_plan (fun r hr => (h.recorded event.authIndex r hr).1) hcred hverdict
    exact ⟨⟨hheld.text, hheld.decoded⟩, hplan⟩
  | erase index =>
    have hrecorded : Recorded env { w with ledger := w.ledger.erase index } :=
      h.recorded.kept kept_erase rfl rfl
    exact h.setApply (v := { w with ledger := w.ledger.erase index }) (t := none) hn rfl rfl
      hrecorded fun _ hs => by cases hs
  | record event reading doc fingerprint =>
    obtain ⟨hheld, hvalid, hset, hunset⟩ := hok
    have hprint := fingerprint_planRecord event w.clock (w.ledger.lookup event.authIndex) hvalid
    refine h.setApply (v := { w with ledger := w.ledger.insert event.authIndex _ }) hn rfl rfl ?_
      fun s hs => ?_
    · intro i r hr
      by_cases hi : i = event.authIndex
      · subst hi
        rw [lookup_insert, some.injEq] at hr
        rw [← hr, hprint]
        refine ⟨hvalid, fun hflag => ?_⟩
        rw [flagOf_of_decodeManaged hheld.decoded] at hflag
        obtain ⟨old, hold, rfl⟩ := hset hflag
        exact (h.recorded _ old hold).2 (by rw [flagOf_of_decodeManaged hheld.decoded, hflag])
      · rw [lookup_insert_ne hi] at hr
        exact h.recorded i r hr
    · split at hs
      · cases hs
      case isFalse hflag =>
        obtain rfl := some.inj hs
        refine ⟨_, lookup_insert _, ?_⟩
        rw [hprint]
        exact hunset (Bool.eq_false_of_not_eq_true hflag)
  | crash index reading => exact h.crash
  | save index reading fields next hnext =>
    refine h.setApply (v := w.saveFlag env index fields true) (t := next) hn rfl rfl
      (recorded_saveFlag_true h.recorded hok) fun s hs => ?_
    rw [hnext s hs]
    obtain ⟨r, hr, -⟩ := hok
    exact isSome_iff_exists.mpr ⟨r, hr⟩
  | confirm index =>
    obtain ⟨r, hr⟩ := isSome_iff_exists.mp hok
    rw [hr, getD_some]
    have hkept := kept_insert hr (fingerprint_confirmRecord env .disabled w.clock r)
    exact h.setApply (v := { w with ledger := w.ledger.insert index _ }) (t := none) hn rfl rfl
      (h.recorded.kept hkept rfl rfl) fun _ hs => by cases hs

theorem Faithful.ofRecovery (hnone : ∀ n, w.applies.lookup n = none) {v : World}
    (happlies : v.applies = w.applies) (hrecorded : Recorded env v)
    (hstage : RecoveryOk env v v.recovery) : Faithful env v := by
  have hnone' : ∀ n, v.applies.lookup n = none := by
    rw [happlies]
    exact hnone
  refine ⟨hrecorded, fun n t ht => ?_, fun m n hm => ?_, .inr hnone', hstage⟩
  · rw [hnone' n] at ht
    cases ht
  · rw [hnone' m] at hm
    cases hm

open Faithful

theorem Faithful.eraseNext (h : Faithful env w) (hnone : ∀ n, w.applies.lookup n = none)
    (hlisted : Listed w (index :: todo)) :
    Faithful env { w with ledger := w.ledger.erase index, recovery := readNext todo } := by
  have hrecorded : Recorded env { w with ledger := w.ledger.erase index } :=
    h.recorded.kept kept_erase rfl rfl
  refine ofRecovery hnone rfl hrecorded (recoveryOk_readNext (hlisted.tail ?_))
  intro i hi hsome
  rwa [lookup_erase_ne hi]

theorem Faithful.recoveryMove (h : Faithful env w) (hnone : ∀ n, w.applies.lookup n = none)
    {stage : RecoveryStage} (hok : RecoveryOk env w stage) (hmove : RecoveryMove env w stage w') :
    Faithful env w' := by
  have hnext : ∀ {next : RecoveryStage}, RecoveryOk env { w with recovery := next } next →
      Faithful env { w with recovery := next } := fun hok =>
    ofRecovery hnone rfl h.recorded hok
  cases hmove with
  | stop | reconciled | found index todo doc hdoc => exact hnext trivial
  | skip index todo => exact hnext recoveryOk_reconcileNext
  | settle index disabled todo =>
    exact ofRecovery hnone rfl (h.recorded.kept (kept_settleLedger disabled) rfl rfl)
      recoveryOk_reconcileNext
  | select =>
    exact hnext (recoveryOk_readNext ⟨nodup_dueIndices, fun _ => mem_dueIndices⟩)
  | read index todo doc hdoc => exact hnext ⟨⟨rfl, hdoc⟩, hok⟩
  | drop index reading doc now todo | check index reading doc now todo => exact hnext hok.2
  | ask index reading fields now todo hverdict =>
    obtain ⟨hheld, hlisted⟩ := hok
    obtain ⟨r, hr⟩ := isSome_iff_exists.mp (hlisted.2 index List.mem_cons_self)
    rw [hr, hheld.text] at hverdict
    obtain ⟨hflag, hprint⟩ := decideRecover_ask (h.recorded index r hr).1 hverdict
    refine hnext ⟨⟨r, hr, hprint⟩, ?_, hlisted⟩
    rw [← hflag]
    exact flagOf_of_decodeManaged hheld.decoded
  | dropped index todo | released index todo => exact h.eraseNext hnone hok
  | checked index now todo =>
    refine ofRecovery hnone rfl (h.recorded.kept kept_checkLedger rfl rfl)
      (recoveryOk_readNext (.tail hok ?_))
    exact fun i _ hsome => isSome_checkLedger hsome
  | enable index reading fields now todo => exact hnext hok
  | postpone index reading fields now todo => exact hnext hok.2.2
  | save index reading fields todo =>
    exact ofRecovery hnone rfl (recorded_saveFlag_false h.recorded) hok.2.2
  | lost index reading fields todo =>
    exact ofRecovery hnone rfl (recorded_saveFlag_false h.recorded) trivial

theorem Faithful.actRecovery (h : Faithful env w) (outcome : Outcome)
    (answer : Option Account.ParsedQuota) : Faithful env (w.actRecovery env outcome answer) := by
  by_cases hidle : w.recovery = .idle
  · unfold World.actRecovery
    rw [hidle]
    exact h
  · exact h.recoveryMove (h.apart.resolve_left hidle) h.recovery
      (actRecovery_move rfl)

theorem lookup_of_quiet (h : quiet w = true) :
    (∀ n, w.applies.lookup n = none) ∧ w.recovery = .idle := by
  simp only [quiet, Bool.and_eq_true, List.isEmpty_iff] at h
  refine ⟨fun n => ?_, ?_⟩
  · rw [AList.lookup, h.1]
    rfl
  · have hidle := h.2
    cases hstage : w.recovery with
    | idle => rfl
    | _ => rw [hstage] at hidle; cases hidle

theorem Faithful.startApply (h : Faithful env w) (hnone : ∀ n, w.applies.lookup n = none)
    (hidle : w.recovery = .idle) (n : Nat) (event : QuotaFailureEvent) :
    Faithful env (w.setApply n (some (.read event))) := by
  have honly : ∀ m s, (w.setApply n (some (.read event))).applies.lookup m = some s →
      m = n ∧ s = .read event := by
    intro m s hs
    rcases lookup_put hs with ⟨hm, hnew⟩ | ⟨-, hold⟩
    · exact ⟨hm, (some.inj hnew).symm⟩
    · rw [hnone m] at hold
      cases hold
  have hstage : RecoveryOk env (w.setApply n (some (.read event))) w.recovery := by
    rw [hidle]
    trivial
  refine ⟨h.recorded, fun m s hs => ?_, fun l m hl hm => ?_, .inl hidle, hstage⟩
  · rw [(honly m s hs).2]
    trivial
  · obtain ⟨s, hs⟩ := isSome_iff_exists.mp hl
    obtain ⟨u, hu⟩ := isSome_iff_exists.mp hm
    exact (honly l s hs).1.trans (honly m u hu).1.symm

theorem flagOf_rotateCredential (index other : String) (fields : Fields) :
    flagOf ((w.rotateCredential index fields).files other) = flagOf (w.files other) := by
  by_cases hother : other = index
  · subst hother
    simp [World.rotateCredential, World.write, flagOf, decodeManaged]
  · simp [World.rotateCredential, World.write, hother]

theorem Faithful.step (h : Faithful env w) {e : Event} (hseq : inSequence w e = true)
    (hread : readable env w e = true) : Faithful env (ManagedRuns.step env w e) := by
  cases e with
  | elapse d =>
    refine ⟨h.recorded, fun n t ht => ?_, h.sole, h.apart, ?_⟩
    · have hok := h.applies n t ht
      cases t with
      | decide event reading doc | plan event reading doc fingerprint =>
        exact ⟨⟨hok.1.text, hok.1.decoded⟩, hok.2⟩
      | _ => exact hok
    · have hok := h.recovery
      dsimp only [ManagedRuns.step]
      cases hstage : w.recovery with
      | decide index reading doc now todo =>
        rw [hstage] at hok
        exact ⟨⟨hok.1.text, hok.1.decoded⟩, hok.2⟩
      | _ => rw [hstage] at hok; exact hok
  | crash => exact h.crash
  | startApply n event =>
    obtain ⟨hnone, hidle⟩ := lookup_of_quiet hseq
    simp only [ManagedRuns.step]
    split
    · exact h.startApply hnone hidle n event
    · exact h
  | apply n outcome =>
    simp only [ManagedRuns.step]
    split
    · exact h
    case h_2 t ht => exact h.applyMove ht hread (actApply_move w n t)
  | startRecovery =>
    obtain ⟨hnone, hidle⟩ := lookup_of_quiet hseq
    simp only [ManagedRuns.step]
    split
    · exact ofRecovery hnone rfl h.recorded recoveryOk_reconcileNext
    · exact h
  | recover outcome answer => exact h.actRecovery outcome answer
  | rotate index fields =>
    obtain ⟨hnone, hidle⟩ := lookup_of_quiet hseq
    have hstage : RecoveryOk env (w.rotateCredential index fields) w.recovery := by
      rw [hidle]
      trivial
    have hrecorded : Recorded env (w.rotateCredential index fields) := by
      intro i r hr
      rw [flagOf_rotateCredential]
      exact h.recorded i r hr
    exact ofRecovery hnone rfl hrecorded hstage
  | startRefresh n index | refresh n refreshed outcome | endRefresh n | operator index disabled =>
    cases hseq

theorem faithful_unrecorded (h : Unrecorded w) : Faithful env w := by
  have hnone : ∀ n, w.applies.lookup n = none := by
    intro n
    rw [h.applies]
    rfl
  have hstage : RecoveryOk env w w.recovery := by
    rw [h.recovery]
    trivial
  refine ofRecovery hnone rfl (fun i r hr => ?_) hstage
  rw [h.ledger] at hr
  cases hr

/-- If each disable of an enabled account reads its credential, the recovery enables what it
disabled. -/
theorem recovery_enables_disabled_credential (env : Env) (start : World) (events : Nat → Event)
    (hstart : Unrecorded start)
    (hseq : ∀ k, inSequence (stateAt (step env) start events k) (events k) = true)
    (hread : ∀ k, readable env (stateAt (step env) start events k) (events k) = true) (k : Nat)
    (index : String) (reading : Reading) (doc : Fields) (todo : List String)
    (hsave : (stateAt (step env) start events k).recovery = .save index reading doc todo) :
    ∃ fingerprint,
      fingerprintOf env index ((stateAt (step env) start events k).files index) =
          some fingerprint ∧
        (stateAt (step env) start events k).disabledWith index = some fingerprint := by
  have hfaithful := invariant_stateAt_of
    (C := fun w e => inSequence w e = true ∧ readable env w e = true) (faithful_unrecorded hstart)
    (fun _ _ h hm => h.step hm.1 hm.2) (fun m => ⟨hseq m, hread m⟩) k
  have hok := hfaithful.recovery
  rw [hsave] at hok
  obtain ⟨⟨r, hr, hprint⟩, hflag, -⟩ := hok
  exact ⟨r.fingerprint, hprint, (hfaithful.recorded index r hr).2 hflag⟩

theorem disabled_credential_is_enabled :
    saveIndex (stateAt (step plainEnv) oneFile (script .crash disableAndRecover)
        11).recovery = some "x" ∧
      ∃ fingerprint, (stateAt (step plainEnv) oneFile (script .crash disableAndRecover)
        11).disabledWith "x" = some fingerprint := by
  have hseq : ∀ k, inSequence
      (stateAt (step plainEnv) oneFile (script .crash disableAndRecover) k)
      (script .crash disableAndRecover k) = true :=
    script_meets (C := fun w e => inSequence w e = true) (fun _ => rfl) (by decide +kernel)
  have hread : ∀ k, readable plainEnv
      (stateAt (step plainEnv) oneFile (script .crash disableAndRecover) k)
      (script .crash disableAndRecover k) = true :=
    script_meets (C := fun w e => readable plainEnv w e = true) (fun _ => rfl) (by decide +kernel)
  have hsave : saveIndex (stateAt (step plainEnv) oneFile
      (script .crash disableAndRecover) 11).recovery = some "x" := by decide +kernel
  obtain ⟨reading, doc, todo, hstage⟩ := saveIndex_eq_some hsave
  obtain ⟨fingerprint, -, hwith⟩ := recovery_enables_disabled_credential plainEnv oneFile _
    oneFile_unrecorded hseq hread 11 "x" reading doc todo hstage
  exact ⟨hsave, fingerprint, hwith⟩

def brokenFile : World where
  clock := hour
  files _ := .json (.object [("refresh_token", .text "r0")])

def replacedCredential : List Event :=
  disableRun ++ [.apply 0 .ok, .rotate "x" [("access_token", .text "t1"),
    ("account_id", .text "b")], .startRecovery] ++ recoverRun

theorem replaced_credential_is_enabled :
    ¬ ∀ (env : Env) (start : World) (events : Nat → Event), Unrecorded start →
      (∀ k, inSequence (stateAt (step env) start events k) (events k) = true) →
      ∀ k index reading doc todo,
        (stateAt (step env) start events k).recovery = .save index reading doc todo →
        ∃ fingerprint,
          fingerprintOf env index ((stateAt (step env) start events k).files index) =
              some fingerprint ∧
            (stateAt (step env) start events k).disabledWith index = some fingerprint := by
  intro h
  have hseq : ∀ k, inSequence
      (stateAt (step plainEnv) brokenFile (script .crash replacedCredential) k)
      (script .crash replacedCredential k) = true :=
    script_meets (C := fun w e => inSequence w e = true) (fun _ => rfl) (by decide +kernel)
  have hsave : saveIndex (stateAt (step plainEnv) brokenFile
      (script .crash replacedCredential) 12).recovery = some "x" := by decide +kernel
  obtain ⟨reading, doc, todo, hstage⟩ := saveIndex_eq_some hsave
  obtain ⟨fingerprint, -, hwith⟩ := h plainEnv brokenFile _ ⟨rfl, rfl, rfl⟩ hseq 12 "x" reading doc
    todo hstage
  have hnone : (stateAt (step plainEnv) brokenFile (script .crash replacedCredential)
      12).disabledWith "x" = none := by decide +kernel
  rw [hnone] at hwith
  cases hwith

end QuotaScheduler.ManagedCredential

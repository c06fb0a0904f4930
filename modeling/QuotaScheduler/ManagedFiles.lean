/- Lost updates of an auth file, while no writer saves over a newer file than it read. -/

import QuotaScheduler.ManagedMoves

namespace QuotaScheduler.ManagedFiles

open AuthFile ManagedLifecycle ManagedMoves ManagedRuns Lib.Runs Lib.Tables Option Function

inductive Writer
  | managed
  | credentials
  deriving DecidableEq

def Writer.keys : Writer → List String
  | .managed => ["disabled"]
  | .credentials => credentialKeys

/-- A save that takes effect: the writer, the file, and the version it was read at. -/
structure Save where
  writer : Writer
  index : String
  version : Nat
  deriving DecidableEq

def applySave (outcome : Outcome) : ApplyThread → Option Save
  | .save index reading (some _) =>
    if outcome = .failed then none else some ⟨.managed, index, reading.version⟩
  | .save _ _ none | .read _ | .decide _ _ _ | .release _ | .plan _ _ _ _ | .confirm _ => none

def recoverySave (outcome : Outcome) : RecoveryStage → Option Save
  | .save index reading _ _ =>
    if outcome = .failed then none else some ⟨.managed, index, reading.version⟩
  | .idle | .reconcile _ | .settle _ _ _ | .select | .read _ | .decide _ _ _ _ _ | .drop _ _
  | .check _ _ _ | .ask _ _ _ _ _ | .release _ _ => none

def saveOf (env : Env) (w : World) : Event → Option Save
  | .apply n outcome => (w.applies.lookup n).bind (applySave outcome)
  | .recover outcome _ => recoverySave outcome w.recovery
  | .refresh n refreshed outcome =>
    (w.refreshes.lookup n).bind fun t =>
      if outcome ≠ .failed ∧
          (updateCodexAuthJSON env.formats t.reading.text refreshed w.clock).isSome = true then
        some ⟨.credentials, t.index, t.reading.version⟩
      else none
  | .elapse _ | .crash | .startApply _ _ | .startRecovery | .startRefresh _ _ | .endRefresh _
  | .operator _ _ | .rotate _ _ => none

def field (text : AuthText) (key : String) : Option Json :=
  match text with
  | .json (.object fields) => fields.lookup key
  | .empty | .invalid | .json .null | .json (.bool _) | .json (.number _) | .json (.text _)
  | .json (.array _) => none

variable {text : AuthText} {w w' : World} {t : ApplyThread} {stage : RecoveryStage} {env : Env}
  {n : Nat} {outcome : Outcome} {s : Save} {e : Event} {key : String}

theorem field_of_decodeManaged {fields : Fields} (h : decodeManaged text = some (some fields)) :
    field text key = fields.lookup key := by
  unfold decodeManaged at h
  split at h
  · obtain rfl := some.inj (some.inj h)
    rfl
  all_goals cases h

theorem field_of_fields {fields : Fields} (h : text.fields = some fields) :
    field text key = fields.lookup key := by
  unfold AuthText.fields at h
  split at h
  all_goals
    cases h
    try rfl

structure Current (w : World) (index : String) (r : Reading) : Prop where
  version_le : r.version ≤ w.versions index
  text_eq : r.version = w.versions index → r.text = w.files index

variable {index : String}

theorem current_reading : Current w index (w.reading index) :=
  ⟨le_rfl, fun _ => rfl⟩

structure Later (w w' : World) : Prop where
  version_le : ∀ index, w.versions index ≤ w'.versions index
  file_eq : ∀ index, w.versions index = w'.versions index → w'.files index = w.files index

theorem Later.of_eq (hfiles : w'.files = w.files) (hversions : w'.versions = w.versions) :
    Later w w' :=
  ⟨fun index => (congrFun hversions index).ge, fun index _ => congrFun hfiles index⟩

theorem later_write (w : World) (index : String) (fields : Fields) :
    Later w (w.write index fields) := by
  refine ⟨fun other => ?_, fun other heq => ?_⟩ <;> by_cases hother : other = index
  · subst hother
    simp [World.write]
  · simp [World.write, hother]
  · subst hother
    simp [World.write] at heq
  · simp [World.write, hother]

variable {fields : Fields}

theorem Later.of_write (hfiles : w'.files = (w.write index fields).files)
    (hversions : w'.versions = (w.write index fields).versions) : Later w w' := by
  have hwrite := later_write w index fields
  exact ⟨fun other => hversions ▸ hwrite.version_le other,
    fun other heq => by rw [hfiles]; exact hwrite.file_eq other (hversions ▸ heq)⟩

theorem Current.later {index : String} {r : Reading} (h : Current w index r) (hlater : Later w w') :
    Current w' index r := by
  refine ⟨h.version_le.trans (hlater.version_le index), fun heq => ?_⟩
  have hsame : r.version = w.versions index :=
    Nat.le_antisymm h.version_le (heq ▸ hlater.version_le index)
  rw [h.text_eq hsame, hlater.file_eq index (hsame ▸ heq)]

structure HoldsDoc (w : World) (index : String) (r : Reading) (doc : Option Fields) : Prop where
  current : Current w index r
  decoded : decodeManaged r.text = some doc

theorem HoldsDoc.later {index : String} {r : Reading} {doc : Option Fields}
    (h : HoldsDoc w index r doc) (hlater : Later w w') : HoldsDoc w' index r doc :=
  ⟨h.current.later hlater, h.decoded⟩

def ApplyThread.holds (w : World) : ApplyThread → Prop
  | .decide event reading doc => HoldsDoc w event.authIndex reading doc
  | .plan event reading doc _ => HoldsDoc w event.authIndex reading doc
  | .save index reading doc => HoldsDoc w index reading doc
  | .read _ | .release _ | .confirm _ => True

def RecoveryStage.holds (w : World) : RecoveryStage → Prop
  | .decide index reading doc _ _ => HoldsDoc w index reading doc
  | .ask index reading doc _ _ => HoldsDoc w index reading (some doc)
  | .save index reading doc _ => HoldsDoc w index reading (some doc)
  | .idle | .reconcile _ | .settle _ _ _ | .select | .read _ | .drop _ _ | .check _ _ _
  | .release _ _ => True

open ApplyThread

theorem ApplyThread.holds_later (hlater : Later w w') (h : holds w t) : holds w' t := by
  cases t with
  | decide event reading doc | plan event reading doc fingerprint | save index reading doc =>
    exact .later h hlater
  | read event | release index | confirm index => trivial

open RecoveryStage

theorem RecoveryStage.holds_later (hlater : Later w w') {t : RecoveryStage}
    (h : holds w t) : holds w' t := by
  cases t with
  | decide index reading doc now todo | ask index reading doc now todo
  | save index reading doc todo => exact .later h hlater
  | idle | reconcile todo | settle index disabled todo | select | read todo | drop index todo
  | check index now todo | release index todo => trivial

structure Reads (w : World) : Prop where
  applies : ∀ n t, w.applies.lookup n = some t → ApplyThread.holds w t
  recovery : RecoveryStage.holds w w.recovery
  refreshes : ∀ n t, w.refreshes.lookup n = some t → Current w t.index t.reading

theorem Reads.later (h : Reads w) (hlater : Later w w')
    (happlies : ∀ n t, w'.applies.lookup n = some t → w.applies.lookup n = some t ∨ holds w' t)
    (hrecovery : w'.recovery = w.recovery ∨ holds w' w'.recovery)
    (hrefreshes : ∀ n t, w'.refreshes.lookup n = some t →
      w.refreshes.lookup n = some t ∨ Current w' t.index t.reading) : Reads w' := by
  refine ⟨fun n t ht => ?_, ?_, fun n t ht => ?_⟩
  · rcases happlies n t ht with hold | hnew
    · exact holds_later hlater (h.applies n t hold)
    · exact hnew
  · rcases hrecovery with hold | hnew
    · rw [hold]
      exact holds_later hlater h.recovery
    · exact hnew
  · rcases hrefreshes n t ht with hold | hnew
    · exact (h.refreshes n t hold).later hlater
    · exact hnew

theorem Reads.of_same (h : Reads w) (hlater : Later w w') (happlies : w'.applies = w.applies)
    (hrecovery : w'.recovery = w.recovery) (hrefreshes : w'.refreshes = w.refreshes) : Reads w' :=
  h.later hlater (fun _ _ ht => .inl (happlies ▸ ht)) (.inl hrecovery)
    (fun _ _ ht => .inl (hrefreshes ▸ ht))

theorem Reads.setApply (h : Reads w) (n : Nat) {t : Option ApplyThread}
    (ht : ∀ s, t = some s → holds w s) : Reads (w.setApply n t) := by
  refine h.later (.of_eq rfl rfl) (fun m s hs => ?_) (.inl rfl) (fun _ _ hs => .inl hs)
  rcases lookup_put hs with ⟨-, hnew⟩ | ⟨-, hold⟩
  · have hlater : Later w (w.setApply n t) := .of_eq rfl rfl
    exact .inr (holds_later hlater (ht s hnew))
  · exact .inl hold

theorem Reads.setApply_none (h : Reads w) (n : Nat) : Reads (w.setApply n none) :=
  h.setApply n fun _ hs => by cases hs

theorem Reads.setRefresh (h : Reads w) (n : Nat) {t : Option RefreshThread}
    (ht : ∀ s, t = some s → Current w s.index s.reading) : Reads (w.setRefresh n t) := by
  refine h.later (.of_eq rfl rfl) (fun _ _ hs => .inl hs) (.inl rfl) (fun m s hs => ?_)
  rcases lookup_put hs with ⟨-, hnew⟩ | ⟨-, hold⟩
  · exact .inr ((ht s hnew).later (.of_eq rfl rfl))
  · exact .inl hold

theorem Reads.setRecovery (h : Reads w) (hstage : holds w stage) :
    Reads { w with recovery := stage } := by
  have hlater : Later w { w with recovery := stage } := .of_eq rfl rfl
  exact h.later hlater (fun _ _ hs => .inl hs)
    (.inr (holds_later hlater hstage)) (fun _ _ hs => .inl hs)

theorem Reads.setLedger (h : Reads w) (ledger : Ledger) : Reads { w with ledger := ledger } :=
  h.of_same (.of_eq rfl rfl) rfl rfl rfl

theorem Reads.setStage (h : Reads w) (ledger : Ledger) (hstage : holds w stage) :
    Reads { w with ledger := ledger, recovery := stage } :=
  (h.setRecovery hstage).of_same (.of_eq rfl rfl) rfl rfl rfl

theorem later_saveFlag (doc : Fields) (disabled : Bool) :
    Later w (w.saveFlag env index doc disabled) :=
  .of_write rfl rfl

theorem Reads.saveFlag (h : Reads w) (env : Env) (index : String) (doc : Fields) (disabled : Bool) :
    Reads (w.saveFlag env index doc disabled) :=
  h.of_same (later_saveFlag doc disabled) rfl rfl rfl

theorem Reads.saveCredentials (h : Reads w) (index : String) (doc : Fields) (token : String) :
    Reads (w.saveCredentials index doc token) :=
  h.of_same (.of_write rfl rfl) rfl rfl rfl

theorem Reads.crash (h : Reads w) : Reads w.crash :=
  h.later (.of_eq rfl rfl) (fun _ _ hs => by simp [World.crash] at hs) (.inr trivial)
    (fun _ _ hs => by simp [World.crash] at hs)

theorem Reads.editFlag (h : Reads w) (index : String) (disabled : Bool) :
    Reads (w.editFlag index disabled) := by
  unfold World.editFlag
  split
  case h_1 fields hfile =>
    exact h.of_same (.of_write rfl rfl) rfl rfl rfl
  case h_2 => exact h

theorem Reads.applyMove (h : Reads w) (ht : holds w t) (hmove : ApplyMove env w n t w') :
    Reads w' := by
  cases hmove with
  | stop => exact h.setApply_none n
  | read event doc hdoc =>
    refine h.setApply n fun s hs => ?_
    obtain rfl := some.inj hs
    exact ⟨current_reading, hdoc⟩
  | release event reading doc hverdict =>
    refine h.setApply n fun s hs => ?_
    obtain rfl := some.inj hs
    trivial
  | plan event reading doc fingerprint hverdict =>
    refine h.setApply n fun s hs => ?_
    obtain rfl := some.inj hs
    exact ht
  | erase index | confirm index => exact (h.setLedger _).setApply_none n
  | record event reading doc fingerprint =>
    refine (h.setLedger _).setApply n fun s hs => ?_
    split at hs
    · cases hs
    · obtain rfl := some.inj hs
      exact .later ht (.of_eq rfl rfl)
  | crash index reading => exact h.crash
  | save index reading fields next hnext =>
    refine (h.saveFlag env index fields true).setApply n fun s hs => ?_
    rw [hnext s hs]
    trivial

variable {todo : List String}

theorem holds_reconcileNext : holds w (reconcileNext todo) := by
  cases todo <;> trivial

theorem holds_readNext : holds w (readNext todo) := by
  cases todo <;> trivial

theorem Reads.recoveryMove (h : Reads w) (hholds : holds w stage)
    (hmove : RecoveryMove env w stage w') : Reads w' := by
  cases hmove with
  | stop | reconciled | found index todo doc hdoc | postpone index reading fields now todo
  | drop index reading doc now todo | check index reading doc now todo =>
    exact h.setRecovery trivial
  | skip index todo => exact h.setRecovery holds_reconcileNext
  | settle index disabled todo => exact h.setStage _ holds_reconcileNext
  | select => exact h.setRecovery holds_readNext
  | read index todo doc hdoc => exact h.setRecovery ⟨current_reading, hdoc⟩
  | ask index reading fields now todo hverdict | enable index reading fields now todo =>
    exact h.setRecovery hholds
  | dropped index todo | checked index now todo | released index todo =>
    exact h.setStage _ holds_readNext
  | save index reading fields todo | lost index reading fields todo =>
    exact (h.saveFlag env index fields false).setRecovery trivial

theorem Reads.actRefresh (h : Reads w) (env : Env) (n : Nat) (t : RefreshThread)
    (refreshed : CodexCredentials) (outcome : Outcome) :
    Reads (w.actRefresh env n t refreshed outcome) := by
  have hnone : ∀ v : World, Reads v → Reads (v.setRefresh n none) :=
    fun v hv => hv.setRefresh n fun s hs => by cases hs
  unfold World.actRefresh
  split
  · exact hnone w h
  · exact hnone w h
  · exact hnone _ (h.saveCredentials _ _ _)

theorem Reads.step (h : Reads w) (env : Env) (e : Event) : Reads (ManagedRuns.step env w e) := by
  cases e with
  | elapse d => exact h.of_same (.of_eq rfl rfl) rfl rfl rfl
  | crash => exact h.crash
  | startApply n event =>
    simp only [ManagedRuns.step]
    split
    · exact h.setApply n fun s hs => by obtain rfl := some.inj hs; trivial
    · exact h
  | apply n outcome =>
    simp only [ManagedRuns.step]
    split
    · exact h
    case h_2 t ht => exact h.applyMove (h.applies n t ht) (actApply_move w n t)
  | startRecovery =>
    simp only [ManagedRuns.step]
    split
    · exact h.setRecovery holds_reconcileNext
    · exact h
  | recover outcome answer =>
    exact h.recoveryMove h.recovery (actRecovery_move rfl)
  | startRefresh n index =>
    simp only [ManagedRuns.step]
    split
    · refine h.setRefresh n fun s hs => ?_
      obtain rfl := some.inj hs
      exact current_reading
    · exact h
  | refresh n refreshed outcome =>
    simp only [ManagedRuns.step]
    split
    · exact h
    case h_2 t ht => exact h.actRefresh env n t refreshed outcome
  | endRefresh n => exact h.setRefresh n fun s hs => by cases hs
  | operator index disabled => exact h.editFlag index disabled
  | rotate index fields => exact h.of_same (later_write w index _) rfl rfl rfl

def fresh (env : Env) (w : World) (e : Event) : Bool :=
  (saveOf env w e).all fun s => decide (s.version = w.versions s.index)

def Event.byPlugin : Event → Bool
  | .operator _ _ | .rotate _ _ => false
  | .elapse _ | .crash | .startApply _ _ | .apply _ _ | .startRecovery | .recover _ _
  | .startRefresh _ _ | .refresh _ _ _ | .endRefresh _ => true

inductive Effect (env : Env) (w w' : World) (s : Save) : Prop
  | flag (fields : Fields) (disabled : Bool) (writer : s.writer = .managed)
      (decoded : decodeManaged (w.files s.index) = some (some fields))
      (files : w'.files = Function.update w.files s.index
        (.json (.object (fields.set "disabled" (.bool disabled)))))
      (savedFlag : w'.savedFlag = Function.update w.savedFlag s.index (some disabled))
      (savedToken : w'.savedToken = w.savedToken)
  | credentials (refreshed : CodexCredentials) (doc : Fields) (writer : s.writer = .credentials)
      (updated : updateCodexAuthJSON env.formats (w.files s.index) refreshed w.clock = some doc)
      (files : w'.files = Function.update w.files s.index (.json (.object doc)))
      (savedToken : w'.savedToken = Function.update w.savedToken s.index
        (some refreshed.refreshToken))
      (savedFlag : w'.savedFlag = w.savedFlag)

theorem effect_of_apply (env : Env) (n : Nat) (ht : holds w t)
    (hsave : applySave outcome t = some s) (hfresh : s.version = w.versions s.index) :
    Effect env w (w.actApply env n outcome t) s := by
  unfold applySave at hsave
  split at hsave
  case h_1 index reading fields =>
    split at hsave
    · cases hsave
    case isFalse hdone =>
      obtain rfl := some.inj hsave
      have htext : reading.text = w.files index := ht.current.text_eq hfresh
      have hdecoded := ht.decoded
      rw [htext] at hdecoded
      cases outcome with
      | ok | lost => exact .flag fields true rfl hdecoded rfl rfl rfl
      | failed => exact absurd rfl hdone
  all_goals cases hsave

theorem effect_of_recovery {answer : Option Account.ParsedQuota} (h : Reads w)
    (hsave : recoverySave outcome w.recovery = some s) (hfresh : s.version = w.versions s.index) :
    Effect env w (w.actRecovery env outcome answer) s := by
  have hholds := h.recovery
  cases hstage : w.recovery with
  | save index reading fields todo =>
    rw [hstage] at hsave hholds
    simp only [recoverySave] at hsave
    split at hsave
    · cases hsave
    case isFalse hdone =>
      obtain rfl := some.inj hsave
      have htext : reading.text = w.files index := hholds.current.text_eq hfresh
      have hdecoded := hholds.decoded
      rw [htext] at hdecoded
      unfold World.actRecovery
      rw [hstage]
      cases outcome with
      | ok | lost => exact .flag fields false rfl hdecoded rfl rfl rfl
      | failed => exact absurd rfl hdone
  | _ => rw [hstage] at hsave; cases hsave

theorem effect_of_refresh {t : RefreshThread} {refreshed : CodexCredentials} {doc : Fields}
    (ht : Current w t.index t.reading) (hdone : outcome ≠ .failed)
    (hdoc : updateCodexAuthJSON env.formats t.reading.text refreshed w.clock = some doc)
    (hfresh : t.reading.version = w.versions t.index) :
    Effect env w (w.actRefresh env n t refreshed outcome)
      ⟨.credentials, t.index, t.reading.version⟩ := by
  unfold World.actRefresh
  have hupdated := hdoc
  rw [ht.text_eq hfresh] at hupdated
  rw [hdoc]
  cases outcome with
  | ok | lost => exact .credentials refreshed doc rfl hupdated rfl rfl rfl
  | failed => exact absurd rfl hdone

theorem effect_of_save (h : Reads w) (hfresh : fresh env w e = true)
    (hsave : saveOf env w e = some s) : Effect env w (step env w e) s := by
  have hversion : s.version = w.versions s.index := by
    unfold fresh at hfresh
    rw [hsave] at hfresh
    simpa using hfresh
  cases e with
  | apply n outcome =>
    obtain ⟨t, ht, hsave⟩ := bind_eq_some_iff.mp hsave
    have heffect := effect_of_apply env n (h.applies n t ht) hsave hversion
    simpa only [step, ht] using heffect
  | recover outcome answer => exact effect_of_recovery h hsave hversion
  | refresh n refreshed outcome =>
    obtain ⟨t, ht, hsave⟩ := bind_eq_some_iff.mp hsave
    split at hsave
    case isTrue hdone =>
      obtain rfl := some.inj hsave
      obtain ⟨doc, hdoc⟩ := isSome_iff_exists.mp hdone.2
      have heffect := effect_of_refresh (n := n) (h.refreshes n t ht) hdone.1 hdoc hversion
      simpa only [step, ht] using heffect
    · cases hsave
  | _ => cases hsave

theorem Effect.keeps (h : Effect env w w' s) (key : String) (hkey : key ∉ s.writer.keys) :
    field (w'.files s.index) key = field (w.files s.index) key := by
  cases h with
  | flag fields disabled writer decoded files =>
    rw [writer] at hkey
    rw [files, update_self, field_of_decodeManaged decoded]
    exact Fields.lookup_set_ne (by simpa [Writer.keys] using hkey)
  | credentials refreshed doc writer updated files =>
    rw [writer] at hkey
    obtain ⟨-, fields, hfields, hkeep⟩ := updateCodexAuthJSON_spec updated
    rw [files, update_self, field_of_fields hfields]
    exact hkeep key hkey

theorem flagOf_congr {text' : AuthText} (h : field text "disabled" = field text' "disabled") :
    flagOf text = flagOf text' := by
  have hfield : ∀ t, (((decodeManaged t).getD none).bind fun fields => fields.lookup "disabled") =
      field t "disabled" := by
    intro t
    cases t with
    | empty | invalid => rfl
    | json value => cases value <;> rfl
  simp only [flagOf, disabledFlag]
  rw [hfield, hfield, h]

/-- Each file holds the last refresh token and flag saved to it. -/
def HoldsSaved (w : World) : Prop :=
  ∀ index, (∀ token, w.savedToken index = some token →
      field (w.files index) "refresh_token" = some (.text token)) ∧
    ∀ disabled, w.savedFlag index = some disabled → flagOf (w.files index) = disabled

theorem Effect.holdsSaved (h : Effect env w w' s) (hsaved : HoldsSaved w) : HoldsSaved w' := by
  intro index
  by_cases hindex : index = s.index
  · subst hindex
    have hkeeps := h.keeps
    cases h with
    | flag fields disabled writer decoded files savedFlag savedToken =>
      have htoken := hkeeps "refresh_token" (by rw [writer]; decide)
      rw [savedFlag, savedToken, htoken]
      refine ⟨(hsaved s.index).1, fun b hb => ?_⟩
      rw [update_self, some.injEq] at hb
      subst hb
      rw [files, update_self]
      exact disabledFlag_set fields disabled
    | credentials refreshed doc writer updated files savedToken savedFlag =>
      have hflag := hkeeps "disabled" (by rw [writer]; decide)
      rw [savedFlag, savedToken, flagOf_congr hflag]
      refine ⟨fun token ht => ?_, (hsaved s.index).2⟩
      rw [update_self, some.injEq] at ht
      subst ht
      rw [files, update_self]
      exact (updateCodexAuthJSON_spec updated).1
  · cases h with
    | flag fields disabled writer decoded files savedFlag savedToken
    | credentials refreshed doc writer updated files savedToken savedFlag =>
      rw [files, savedFlag, savedToken, update_of_ne hindex, update_of_ne hindex]
      exact hsaved index

def SameFiles (w w' : World) : Prop :=
  w'.files = w.files ∧ w'.savedToken = w.savedToken ∧ w'.savedFlag = w.savedFlag

theorem sameFiles_actApply (hsave : applySave outcome t = none) :
    SameFiles w (w.actApply env n outcome t) := by
  cases t with
  | save index reading doc =>
    cases doc with
    | none => exact ⟨rfl, rfl, rfl⟩
    | some fields =>
      cases outcome with
      | ok | lost => cases hsave
      | failed => exact ⟨rfl, rfl, rfl⟩
  | _ =>
    simp only [World.actApply]
    (repeat' split) <;> exact ⟨rfl, rfl, rfl⟩

theorem sameFiles_actRecovery {answer : Option Account.ParsedQuota}
    (hsave : recoverySave outcome w.recovery = none) :
    SameFiles w (w.actRecovery env outcome answer) := by
  unfold World.actRecovery
  split
  case h_12 index reading fields todo hstage =>
    rw [hstage] at hsave
    cases outcome with
    | ok | lost => cases hsave
    | failed => exact ⟨rfl, rfl, rfl⟩
  all_goals (repeat' split) <;> exact ⟨rfl, rfl, rfl⟩

open Event

theorem sameFiles_step (he : byPlugin e = true) (hsave : saveOf env w e = none) :
    SameFiles w (step env w e) := by
  cases e with
  | apply n outcome =>
    simp only [step]
    split
    · exact ⟨rfl, rfl, rfl⟩
    case h_2 t ht =>
      refine sameFiles_actApply ?_
      simpa only [saveOf, ht, bind_some] using hsave
  | recover outcome answer => exact sameFiles_actRecovery hsave
  | refresh n refreshed outcome =>
    simp only [step]
    split
    · exact ⟨rfl, rfl, rfl⟩
    case h_2 t ht =>
      simp only [saveOf, ht, bind_some] at hsave
      unfold World.actRefresh
      split
      · exact ⟨rfl, rfl, rfl⟩
      · exact ⟨rfl, rfl, rfl⟩
      case h_3 doc hfailed hdoc =>
        rw [if_pos ⟨hfailed, by rw [hdoc]; rfl⟩] at hsave
        cases hsave
  | operator index disabled | rotate index fields => cases he
  | _ =>
    simp only [step]
    (repeat' split) <;> exact ⟨rfl, rfl, rfl⟩

theorem HoldsSaved.step (h : HoldsSaved w) (hreads : Reads w) (he : byPlugin e = true)
    (hfresh : fresh env w e = true) : HoldsSaved (ManagedRuns.step env w e) := by
  cases hsave : saveOf env w e with
  | none =>
    obtain ⟨hfiles, htoken, hflag⟩ := sameFiles_step he hsave
    intro index
    rw [hfiles, htoken, hflag]
    exact h index
  | some s => exact (effect_of_save hreads hfresh hsave).holdsSaved h

structure Untouched (w : World) : Prop where
  applies : w.applies = ∅
  recovery : w.recovery = .idle
  refreshes : w.refreshes = ∅
  savedToken : w.savedToken = fun _ => none
  savedFlag : w.savedFlag = fun _ => none

theorem Untouched.reads (h : Untouched w) : Reads w := by
  refine ⟨fun n t ht => ?_, ?_, fun n t ht => ?_⟩
  · rw [h.applies] at ht
    cases ht
  · rw [h.recovery]
    trivial
  · rw [h.refreshes] at ht
    cases ht

/-- If each save goes over the version its writer read, it changes its own fields only; files hold
the last token and flag. -/
theorem no_update_is_lost (env : Env) (start : World) (events : Nat → Event)
    (hstart : Untouched start) (hplugin : ∀ k, Event.byPlugin (events k) = true)
    (hfresh : ∀ k, fresh env (stateAt (step env) start events k) (events k) = true) (k : Nat) :
    HoldsSaved (stateAt (step env) start events k) ∧
      ∀ s, saveOf env (stateAt (step env) start events k) (events k) = some s →
        ∀ key, key ∉ s.writer.keys →
          field ((stateAt (step env) start events (k + 1)).files s.index) key =
            field ((stateAt (step env) start events k).files s.index) key := by
  have hreads : ∀ m, Reads (stateAt (step env) start events m) :=
    invariant_stateAt hstart.reads fun _ e h => h.step env e
  refine ⟨?_, fun s hs key hkey => (effect_of_save (hreads k) (hfresh k) hs).keeps key hkey⟩
  induction k with
  | zero =>
    intro index
    refine ⟨fun token ht => ?_, fun b hb => ?_⟩
    · rw [stateAt, hstart.savedToken] at ht
      cases ht
    · rw [stateAt, hstart.savedFlag] at hb
      cases hb
  | succ k ih => exact ih.step (hreads k) (hplugin k) (hfresh k)

theorem oneFile_untouched : Untouched oneFile := ⟨rfl, rfl, rfl, rfl, rfl⟩

def newCredentials : CodexCredentials := { accessToken := "t1", refreshToken := "r1" }

def disableThenRefresh : List Event :=
  disableRun ++ [.startRefresh 0 "x", .refresh 0 newCredentials .ok]

theorem disableThenRefresh_holds_both :
    (stateAt (step plainEnv) oneFile (script .crash disableThenRefresh) 7).savedFlag "x" =
        some true ∧
      flagOf ((stateAt (step plainEnv) oneFile (script .crash disableThenRefresh) 7).files "x") =
        true := by
  have hplugin : ∀ k, byPlugin (script .crash disableThenRefresh k) = true :=
    script_all (p := fun e => byPlugin e = true) rfl
      (by simp [disableThenRefresh, disableRun, planRun, byPlugin])
  have hfresh : ∀ k, fresh plainEnv
      (stateAt (step plainEnv) oneFile (script .crash disableThenRefresh) k)
      (script .crash disableThenRefresh k) = true :=
    script_meets (C := fun w e => fresh plainEnv w e = true) (fun _ => rfl) (by decide +kernel)
  have hflag : (stateAt (step plainEnv) oneFile (script .crash disableThenRefresh) 7).savedFlag
      "x" = some true := by decide +kernel
  exact ⟨hflag, ((no_update_is_lost plainEnv oneFile _ oneFile_untouched hplugin hfresh 7).1
    "x").2 true hflag⟩

def disableDuringRefresh : List Event :=
  [.startRefresh 0 "x"] ++ disableRun ++ [.refresh 0 newCredentials .ok]

theorem disable_during_refresh_is_lost :
    ¬ ∀ (env : Env) (start : World) (events : Nat → Event), Untouched start →
      (∀ k, Event.byPlugin (events k) = true) → ∀ k,
        HoldsSaved (stateAt (step env) start events k) ∧
          ∀ s, saveOf env (stateAt (step env) start events k) (events k) = some s →
            ∀ key, key ∉ s.writer.keys →
              field ((stateAt (step env) start events (k + 1)).files s.index) key =
                field ((stateAt (step env) start events k).files s.index) key := by
  intro h
  have hplugin : ∀ k, byPlugin (script .crash disableDuringRefresh k) = true :=
    script_all (p := fun e => byPlugin e = true) rfl
      (by simp [disableDuringRefresh, disableRun, planRun, byPlugin])
  have hflag := ((h plainEnv oneFile _ oneFile_untouched hplugin 7).1 "x").2 true
    (by decide +kernel)
  revert hflag
  decide +kernel

end QuotaScheduler.ManagedFiles

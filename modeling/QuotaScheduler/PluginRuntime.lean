/- The scheduler runtime as one state machine. -/

import QuotaScheduler.Pick
import QuotaScheduler.Published
import QuotaScheduler.RosterController

namespace QuotaScheduler.PluginRuntime

open Trial Selection Pick Account State Published Roster

structure HostAuthFileEntry where
  id : String
  authIndex : String
  label : String
  email : String
  provider : String
  priority : Int

def accountStateFromAuth (auth : HostAuthFileEntry) (now : Time) : AccountState where
  authID := auth.id
  authIndex := auth.authIndex
  displayName := auth.label
  email := auth.email
  provider := auth.provider
  priority := auth.priority
  lastRefreshAt := now

def mergeIdentity (existing a : AccountState) : AccountState :=
  { existing with
    authID := a.authID
    authIndex := a.authIndex
    displayName := a.displayName
    email := a.email
    provider := a.provider
    priority := a.priority
    chatGPTAccountID :=
      if a.chatGPTAccountID ≠ "" then a.chatGPTAccountID else existing.chatGPTAccountID }

def mergeExistingAccount (s : PluginState) (a : AccountState) (now : Time) : AccountState :=
  if accountStateKey a = "" then a
  else
    match (s.snapshot now).accounts.find? fun e =>
        decide (accountStateKey e = accountStateKey a) with
    | some existing => mergeIdentity existing a
    | none => a

/-- How a refresh's host calls went: `failed` before the credentials were read, or after, with their
ID. -/
inductive RefreshOutcome
  | admissionChanged
  | failed (accountID : Option String) (kind : RefreshFailureKind) (message : String)
  | noAccountID
  | read (accountID : String) (quota : ParsedQuota)

/-- What the trial registry learns from a refresh before the publication. -/
inductive RefreshNotice
  | nothing
  | writeback (id : AuthInstanceID)
  | retry (id : AuthInstanceID)

def upsertRefreshFailure (s : PluginState) (a : AccountState) (version : Nat)
    (kind : RefreshFailureKind) (message : String) (now : Time) :
    Option (PluginState × RefreshNotice) :=
  let merged := { mergeExistingAccount s a now with
    lastRefreshAt := a.lastRefreshAt
    lastError := message }
  (s.applyQuotaRefreshFailureIfAdmissionCurrent merged version kind message now).map fun s =>
    (s, .retry merged.inst)

/-- `refreshAuthVersionedHeld` on its overlay: the one it publishes, if any. -/
def refreshAuthVersionedHeld (s : PluginState) (auth : HostAuthFileEntry) (version : Nat)
    (outcome : RefreshOutcome) (now : Time) : Option (PluginState × RefreshNotice) :=
  if s.admissionCurrentLocked auth.id version then
    let fresh := { accountStateFromAuth auth now with
      priority := s.admissionPriorityLocked auth.id }
    let merged := mergeExistingAccount s fresh now
    match outcome with
    | .admissionChanged => none
    | .failed none kind message => upsertRefreshFailure s fresh version kind message now
    | .failed (some id) kind message =>
      upsertRefreshFailure s { merged with chatGPTAccountID := id } version kind message now
    | .noAccountID =>
      (s.applyQuotaRefreshSuccessIfAdmissionCurrent
        { merged with chatGPTAccountID := "", lastError := "", refresh := {} } version now).map
          fun s => (s, .nothing)
    | .read id quota =>
      (s.applyQuotaRefreshSuccessIfAdmissionCurrent
        { merged with
          chatGPTAccountID := id
          quota := quota
          family := quota.family
          lastError := ""
          lastSuccessAt := now } version now).map fun s => (s, .writeback merged.inst)
  else none

/-- `headers`: the quota of the headers, `limit`: the reset of a `usage_limit_reached` 429's body.
-/
structure UsageRecord where
  provider : String
  failed : Bool
  authID : String
  authIndex : String
  headers : Option ParsedQuota
  limit : Option (Option Time)

def detectQuotaFailure (record : UsageRecord) (now : Time) : Option QuotaFailureEvent :=
  if record.provider = "codex" && record.failed then
    match record.limit with
    | none => none
    | some (some resetAt) =>
      some ⟨record.authID, record.authIndex, resetAt, "usage_limit_reached"⟩
    | some none =>
      some ⟨record.authID, record.authIndex, now + 2 * minute, "usage_limit_reached_no_reset"⟩
  else none

def successMatters (a : AccountState) (now : Time) : Bool :=
  let circuit := effectiveCircuitState a.circuit now
  decide (circuit.effectiveState ≠ .closed) || decide (0 < circuit.failureCount) ||
    decide (0 < circuit.successCount) || a.temporaryExhausted

def recordNames (record : UsageRecord) (authID authIndex : String) : Bool :=
  if record.authID ≠ "" then decide (authID = record.authID)
  else decide (record.authIndex = "") || decide (authIndex = record.authIndex)

def shouldRecordCircuitSuccess (s : PluginState) (record : UsageRecord) (now : Time) : Bool :=
  match (s.snapshot now).accounts.find? fun a => recordNames record a.authID a.authIndex with
  | some a => successMatters a now
  | none => false

structure Txn where
  auth : HostAuthFileEntry
  version : Nat
  overlay : PluginState
  ran : Bool

/-- What the plugin's steps read of a roster; `viewOf` takes it from the refresher's. -/
structure RosterView where
  entries : List RosterEntry := []
  lifecycleRevision : Nat := 0

/-- The plugin at runtime: `current` is the controller's roster and `roster` the refresher's. -/
structure Plugin where
  clock : Time
  state : PluginState
  current : RosterView
  roster : RosterView
  published : Option SchedulerSnapshot
  shared : Shared
  txns : List Txn
  picks : List (PickCall × PickProg PickTrace)

inductive Event
  | tick (d : Nat)
  | configure (cfg : Config) (annotations : String → Option Int)
  | sync (files : List HostFile) (wired : Bool)
  | lifecycle
  | refreshBegin (auth : HostAuthFileEntry) (version : Nat)
  | refreshRun (i : Nat) (outcome : RefreshOutcome)
  | refreshApply (i : Nat) (accepted : Bool)
  | usage (record : UsageRecord) (hit : Nat)
  | requestComplete (authID : String)
  | streamObserve (authID authIndex : String) (hit : Nat) (quota : ParsedQuota)
  | reconcileTemporary (authID : String) (version : Nat)
  | unpark (authID : String)
  | saveSettings (cfg : Config)
  | saveAnnotations (annotations : String → Option Int)
  | importState (cfg : Config) (annotations : String → Option Int)
  | pickStart (req : SchedulerPickRequest)
  | pickStep (i : Nat) (room : Bool)
  | consumeIntent

namespace Plugin

def publish (w : Plugin) (active : Option (Finset String)) : Plugin :=
  { w with published := some (publishSchedulerState w.state active w.clock w.shared.trials) }

/-- The publication of the refresher, whose tier set comes from its own roster. -/
def republish (w : Plugin) : Plugin := w.publish (highestTierSet w.roster.entries)

def setTrials (w : Plugin) (trials : TrialRegistry) : Plugin :=
  { w with shared := { w.shared with trials := trials } }

/-- `ObserveRosterLifecycle`: an older revision does not replace a newer one. -/
def observeRosterLifecycle (w : Plugin) : Plugin :=
  if w.current.lifecycleRevision ≤ w.roster.lifecycleRevision then w
  else { w with roster := w.current }

/-- `PublishAuthoritativeRoster`; `wired`: its other steps succeed. `none`: it failed. -/
def publishAuthoritativeRoster (w : Plugin) (roster : RosterView) (wired : Bool) : Option Plugin :=
  match rosterAdmission w.state.cfg roster.entries with
  | none => none
  | some admission =>
    if wired then
      let w := { w with state := w.state.replaceCPAAdmission admission }
      let w := w.publish (some admission.authIDs)
      some { w with roster :=
        { roster with entries := roster.entries.filter fun e => e.id ∈ admission.authIDs } }
    else none

/-- `degradedRoster` and the other moves of the lifecycle keep the entries. -/
def advanceLifecycle (w : Plugin) : Plugin :=
  { w with current := { w.current with
      lifecycleRevision := w.current.lifecycleRevision + 1 } }.observeRosterLifecycle

def finishSync (w : Plugin) (entries : List RosterEntry) (wired : Bool) : Plugin :=
  match highestCodexTier entries with
  | none => w.advanceLifecycle
  | some (_, ids) =>
    let next : RosterView :=
      { entries := filterRosterEntries entries ids
        lifecycleRevision := w.current.lifecycleRevision + 1 }
    match w.publishAuthoritativeRoster next wired with
    | some w => { w with current := next }.observeRosterLifecycle
    | none => w.advanceLifecycle

def refreshBegin (w : Plugin) (auth : HostAuthFileEntry) (version : Nat) : Plugin :=
  { w with txns := w.txns ++ [⟨auth, version, w.state, false⟩] }

def noticed (trials : TrialRegistry) (now : Time) : RefreshNotice → TrialRegistry
  | .nothing => trials
  | .writeback id => trials.observeEvidence id .reliableQuotaWriteback
  | .retry id => trials.observeRetry id now

def publishOverlay (w : Plugin) (overlay : PluginState) : Plugin :=
  { w with
    published := some (publishSchedulerState overlay (highestTierSet w.roster.entries) w.clock
      w.shared.trials) }

def setTxn (w : Plugin) (i : Nat) (t : Txn) : Plugin := { w with txns := w.txns.set i t }

def refreshRun (w : Plugin) (i : Nat) (outcome : RefreshOutcome) : Plugin :=
  match w.txns[i]? with
  | none => w
  | some t =>
    if t.ran then w
    else
      match refreshAuthVersionedHeld t.overlay t.auth t.version outcome w.clock with
      | none => w.setTxn i { t with ran := true }
      | some (overlay, notice) =>
        ((w.setTxn i { t with overlay := overlay, ran := true }).setTrials
          (noticed w.shared.trials w.clock notice)).publishOverlay overlay

def refreshApply (w : Plugin) (i : Nat) (accepted : Bool) : Plugin :=
  match w.txns[i]? with
  | none => w
  | some t =>
    let w := { w with txns := w.txns.eraseIdx i }
    if accepted && t.ran then
      { w with
        state := w.state.applyLegacyEffectJournal (t.overlay.legacyEffectJournal t.auth.id) }
    else w

/-- `publishObservedSchedulerState` after `ObserveAccountQuota`, if that found the account. -/
def observeQuota (w : Plugin) (authID authIndex : String) (hit : Nat) (quota : ParsedQuota) :
    Option Plugin :=
  (w.state.observeAccountQuota authID authIndex hit quota w.clock).map fun s =>
    { w with state := s }.republish

def applyObservedCodexHeaders (w : Plugin) (record : UsageRecord) (hit : Nat) : Plugin :=
  match record.headers with
  | none => w
  | some quota => (w.observeQuota record.authID record.authIndex hit quota).getD w

def recordUsageSuccess (w : Plugin) (record : UsageRecord) (hit : Nat) : Plugin :=
  if shouldRecordCircuitSuccess w.state record w.clock then
    { w with state := w.state.recordAccountSuccess record.authID record.authIndex hit w.clock }
  else w

def markUsageFailure (s : PluginState) (event : QuotaFailureEvent) (hit : Nat) : PluginState :=
  if event.authID ≠ "" then
    s.markAccountTemporaryExhausted event.authID event.resetAt event.reason
  else
    s.markAccountTemporaryExhaustedByAuthIndex event.authIndex hit event.resetAt event.reason

def handleUsageFeedback (w : Plugin) (record : UsageRecord) (hit : Nat) : Plugin :=
  if !w.state.cfg.enableUsageFeedback then w
  else if record.provider = "codex" && !record.failed then
    (w.applyObservedCodexHeaders record hit).recordUsageSuccess record hit
  else
    match detectQuotaFailure record w.clock with
    | none => w
    | some event => { w with state := markUsageFailure w.state event hit }

def usageEvidence (record : UsageRecord) (now : Time) : EvidenceKind :=
  if record.provider = "codex" && !record.failed then .requestSuccess
  else if (detectQuotaFailure record now).isSome then .usageFeedback
  else .unknown

def evidenceAccount (accounts : List AccountView) (record : UsageRecord) : Option AccountView :=
  accounts.find? fun a =>
    if record.authID ≠ "" then decide (a.id = record.authID)
    else decide (record.authIndex ≠ "") && decide (a.authIndex = record.authIndex)

def observeUsageEvidence (w : Plugin) (snapshot : SchedulerSnapshot) (record : UsageRecord) :
    Plugin :=
  match evidenceAccount snapshot.accounts record with
  | none => w
  | some a => w.setTrials (w.shared.trials.observeEvidence a.inst (usageEvidence record w.clock))

def finishUsageHandle (w : Plugin) (record : UsageRecord) : Plugin :=
  match w.published with
  | none => w
  | some snapshot =>
    let w := w.observeUsageEvidence snapshot record
    if (detectQuotaFailure record w.clock).isSome then
      w.publish (some snapshot.activeHighestTier)
    else w

def handleUsageHandle (w : Plugin) (record : UsageRecord) (hit : Nat) : Plugin :=
  (w.handleUsageFeedback record hit).finishUsageHandle record

def streamObserve (w : Plugin) (authID authIndex : String) (hit : Nat) (quota : ParsedQuota) :
    Plugin :=
  if authID = "" ∧ authIndex = "" ∨ quota.fiveHour = none ∧ quota.longWindow = none then w
  else (w.observeQuota authID authIndex hit quota).getD w.republish

def reconcileTemporaryExhausted (w : Plugin) (authID : String) (version : Nat) : Plugin :=
  match (w.state.snapshot w.clock).accounts.find? fun a =>
      decide (a.authID = authID) && quotaSnapshotShowsRecovery a.quota w.clock with
  | none => w
  | some a =>
    if a.temporaryExhausted && w.state.admissionCurrentLocked authID version then
      match w.state.clearAccountTemporaryExhausted authID with
      | some s => { w with state := s }.republish
      | none => w
    else w

def unparkAfterExternalLogin (w : Plugin) (authID : String) : Plugin :=
  match w.state.clearAccountAuthFailure authID with
  | some s => { w with state := s }.republish
  | none => w

def pickStart (w : Plugin) (req : SchedulerPickRequest) : Plugin :=
  { w with picks := w.picks ++
      [(⟨w.published, req, w.clock⟩, schedulerPickPublished w.published req w.clock)] }

def pickStep (w : Plugin) (i : Nat) (room : Bool) : Plugin :=
  match w.picks[i]? with
  | none => w
  | some (call, p) =>
    let r := p.advance PickOp.exec room w.shared
    { w with shared := r.2, picks := w.picks.set i (call, r.1) }

def consumeIntent (w : Plugin) : Plugin :=
  match w.shared.intents with
  | [] => w
  | intent :: rest =>
    { w with shared := ⟨w.shared.trials.markEvidencePending intent.inst true, rest⟩ }

def step (w : Plugin) : Event → Plugin
  | .tick d => { w with clock := w.clock + d }
  | .configure cfg annotations =>
    { w with state := (w.state.replaceConfig cfg).setAnnotations annotations }.publish none
  | .sync files wired => w.finishSync (listHostAuths files) wired
  | .lifecycle => w.advanceLifecycle
  | .refreshBegin auth version => w.refreshBegin auth version
  | .refreshRun i outcome => w.refreshRun i outcome
  | .refreshApply i accepted => w.refreshApply i accepted
  | .usage record hit => w.handleUsageHandle record hit
  | .requestComplete authID =>
    { w with state := w.state.recordAccountSuccess authID "" 0 w.clock }
  | .streamObserve authID authIndex hit quota => w.streamObserve authID authIndex hit quota
  | .reconcileTemporary authID version => w.reconcileTemporaryExhausted authID version
  | .unpark authID => w.unparkAfterExternalLogin authID
  | .saveSettings cfg => { w with state := w.state.replaceConfig cfg }
  | .saveAnnotations annotations => { w with state := w.state.setAnnotations annotations }
  | .importState cfg annotations =>
    { w with state := (w.state.replaceConfig cfg).setAnnotations annotations }
  | .pickStart req => w.pickStart req
  | .pickStep i room => w.pickStep i room
  | .consumeIntent => w.consumeIntent

def run (w : Plugin) (events : List Event) : Plugin := events.foldl step w

end Plugin

def initial (now : Time) : Plugin where
  clock := now
  state := newPluginState defaultConfig
  current := {}
  roster := {}
  published := none
  shared := ⟨newTrialRegistry, []⟩
  txns := []
  picks := []

def viewOf (roster : HostRosterSnapshot) : RosterView := ⟨roster.entries, roster.lifecycleRevision⟩

open RosterController (ActiveRoster ProbeSettings Publication hostRosterSnapshotFromActive)

/-- The plugin observes a change of the lifecycle as the roster's owner does. -/
theorem observeRosterLifecycle_view (w : Plugin) (stored : HostRosterSnapshot)
    (active : ActiveRoster) (settings : Option ProbeSettings) (now : Time)
    (hroster : w.roster = viewOf stored)
    (hcurrent : w.current = viewOf (hostRosterSnapshotFromActive active))
    (hrevision : active.lifecycleRevision ≠ 0) :
    w.observeRosterLifecycle.roster =
      viewOf (RosterController.observeRosterLifecycle stored active settings now) := by
  have hnewer : ∀ next : HostRosterSnapshot, viewOf next = w.current →
      w.observeRosterLifecycle.roster =
        viewOf (if next.lifecycleRevision ≤ stored.lifecycleRevision then stored else next) := by
    intro next hnext
    rw [Plugin.observeRosterLifecycle, ← hnext, hroster]
    unfold viewOf
    split
    · exact hroster
    · rfl
  have hchanged : (hostRosterSnapshotFromActive active).lifecycleRevision ≠ 0 := hrevision
  unfold RosterController.observeRosterLifecycle
  dsimp only
  by_cases hclosed : (hostRosterSnapshotFromActive active).provisional = true ∧
      (RosterController.provisionalAgeValid now
          (hostRosterSnapshotFromActive active).confirmedAt = false ∨
        settings.any (·.probeOnProvisionalRoster) = false)
  · rw [if_pos hclosed]
    dsimp only
    rw [if_neg hchanged]
    exact hnewer _ hcurrent.symm
  · rw [if_neg hclosed, if_neg hchanged]
    exact hnewer _ hcurrent.symm

/-- The plugin publishes a roster as its owner does, if it is the roster of a full listing. -/
theorem publishAuthoritativeRoster_view (w : Plugin) (p : Publication) (now : Time)
    (stored roster : HostRosterSnapshot) (hcfg : p.cfg = w.state.cfg)
    (hfull : roster.capability = .capabilityA) :
    (w.publishAuthoritativeRoster (viewOf roster) (p.held && p.reconciled.isSome)).map (·.roster) =
      let r := RosterController.publishAuthoritativeRoster p now stored roster
      if r.2 then some (viewOf r.1) else none := by
  have hcapability : (RosterController.normalizeHostRosterLifecycle roster).capability =
      .capabilityA := by
    unfold RosterController.normalizeHostRosterLifecycle
    split <;> exact hfull
  have hview : viewOf (RosterController.normalizeHostRosterLifecycle roster) = viewOf roster := by
    unfold RosterController.normalizeHostRosterLifecycle
    split <;> rfl
  unfold Plugin.publishAuthoritativeRoster RosterController.publishAuthoritativeRoster
  rw [← hview, hcfg]
  generalize RosterController.normalizeHostRosterLifecycle roster = r at hcapability
  cases hadmission : rosterAdmission w.state.cfg r.entries <;> cases p.held <;>
    cases p.reconciled <;> simp [viewOf, hadmission, hcapability]

end QuotaScheduler.PluginRuntime

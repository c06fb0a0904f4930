/- The windows of one instance under the controller's events (probe_state.go). -/

import QuotaScheduler.ProbeClassify

namespace QuotaScheduler.ProbeState

open Account ProbeClassify

inductive ProbeWindowState
  | idle
  | waitingReset
  | pendingCheck
  | sentAwaitingVerify
  | sentUnknown
  | retryWait
  | confirmed
  | authBlocked
  | anomalyHold
  | waitingRoster
  deriving DecidableEq

inductive ProbeWindowKind
  | fiveHour
  | long
  deriving DecidableEq

def probeWindowKinds : List ProbeWindowKind := [.fiveHour, .long]

/-- `ProbeWindow`; its `AttemptID` is written and never read. -/
structure ProbeWindow where
  state : ProbeWindowState
  baseline : ProbeBaseline
  deadline : Time := .zero
  retryCount : Nat := 0
  authBlockedAtLogin : Nat := 0
  deriving DecidableEq

abbrev Windows := ProbeWindowKind → Option ProbeWindow

inductive ProbeEventKind
  | deadline
  | precheckResult
  | verifyResult
  | authFailed
  | externalLogin
  | rosterConfirmed
  | instanceRemoved
  deriving DecidableEq

structure ProbeEvent where
  kind : ProbeEventKind
  window : Option ProbeWindowKind := none
  now : Time
  snapshots : ProbeWindowKind → Option QuotaSnapshot := fun _ => none
  observationInterval : Duration := 0

def compatibleLegacyProbeWindowKind (slot : ProbeWindowKind) (baseline : ProbeBaseline)
    (snap : QuotaSnapshot) : Bool :=
  if baseline.windowLength ≤ 0 ∨ snap.windowKind = .unset ∨ snap.windowLengthKnown = false ∨
      snap.windowLength ≤ 0 ∨
      probeSkewTolerance < absDuration (snap.windowLength - baseline.windowLength) then false
  else
    match slot with
    | .fiveHour => decide (snap.windowKind = .fiveHour)
    | .long => decide (snap.windowKind = .weekly ∨ snap.windowKind = .monthly)

def deadlineFor (b : ProbeBaseline) (now : Time) (observationInterval : Duration) : Time :=
  if b.kind = .usageOnly then b.nextRecheckAt
  else if b.resetAt.isZero then now
  else
    let resetMaturity := b.resetAt + probeRefreshAfterResetDelay
    if b.windowLength ≤ 0 ∨ observationInterval ≤ 0 then resetMaturity
    else if Time.before (now + observationInterval) resetMaturity then now + observationInterval
    else resetMaturity

def readOnlyObservationDeadline (b : ProbeBaseline) (now : Time) (observationInterval : Duration) :
    Time :=
  if (deadlineFor b now observationInterval).after now then deadlineFor b now observationInterval
  else now + if observationInterval ≤ 0 then probeUnknownResetRecheck else observationInterval

def probeBackoff (n : Nat) : Duration :=
  if n ≤ 1 then minute else if n = 2 then 5 * minute else 15 * minute

def strictWindow (snap : QuotaSnapshot) (reset : Time) : QuotaWindow :=
  { kind := snap.windowKind, usedPercent := snap.usage, resetAt := reset }

def externalResetRebaseApplies (baseline : ProbeBaseline) (snap : QuotaSnapshot) (now : Time) :
    Bool :=
  match snap.resetAt with
  | none => false
  | some reset =>
    let delta := reset.sub baseline.resetAt
    let length :=
      if snap.windowLengthKnown ∧ 0 < snap.windowLength then snap.windowLength
      else baseline.windowLength
    decide (baseline.kind = .reset) && snap.valid && decide (snap.usage = some 0) &&
      reset.after (baseline.resetAt + probeSkewTolerance) &&
      !(decide (0 < baseline.windowLength) && decide (delta ≤ 2 * baseline.windowLength)) &&
      !(decide (baseline.windowLength = 0) && decide (delta ≤ probeMaxPlausibleWindow)) &&
      !(decide (baseline.windowKind ≠ .unset) &&
        decide (snap.windowKind ≠ baseline.windowKind)) &&
      decide (0 < length) && looksLikeStrictLazyObservation now (strictWindow snap reset) length

structure Precheck where
  baseline : ProbeBaseline
  shiftedZeroCandidate : Bool
  strictAuthorized : Bool

def precheckBaseline (k : ProbeWindowKind) (base : ProbeBaseline) (snap : QuotaSnapshot)
    (now : Time) : Precheck :=
  match snap.resetAt, snap.usage with
  | some reset, some usage =>
    if base.kind = .reset ∧ snap.valid = true then
      let shifted := reset.after (base.resetAt + probeSkewTolerance)
      let baseline :=
        if base.windowKind = .unset ∧ compatibleLegacyProbeWindowKind k base snap = true then
          { base with windowKind := snap.windowKind }
        else base
      let authorized :=
        (shifted || base.suspectedLazy) && (decide (baseline.windowKind ≠ .unset) &&
            decide (snap.windowKind = baseline.windowKind)) &&
          snap.windowLengthKnown &&
          looksLikeStrictLazyObservation now (strictWindow snap reset) snap.windowLength
      { baseline :=
          if authorized then
            { baseline with resetAt := reset, usage := usage, suspectedLazy := true }
          else baseline
        shiftedZeroCandidate := shifted && decide (usage = 0)
        strictAuthorized := authorized }
    else ⟨base, false, false⟩
  | _, _ => ⟨base, false, false⟩

def ProbeWindow.retry (w : ProbeWindow) (now : Time) : ProbeWindow :=
  { w with
    state := .retryWait
    retryCount := w.retryCount + 1
    deadline := now + probeBackoff (w.retryCount + 1) }

def settle (w : ProbeWindow) (cl : ProbeClassification) (now : Time) (obs : Duration)
    (lazy : ProbeWindow → ProbeWindow) : ProbeWindow :=
  match cl.kind with
  | .activatedNew | .activatedInferred =>
    { w with baseline := cl.baseline, state := .confirmed, deadline := Time.zero }
  | .notDueYet =>
    { w with
      baseline := cl.baseline
      state := .waitingReset
      deadline := deadlineFor cl.baseline now obs }
  | .anomaly =>
    { w with
      baseline := cl.baseline
      state := .anomalyHold
      deadline := now + probeUnknownResetRecheck }
  | .stillLazy | .ambiguous => lazy { w with baseline := cl.baseline }
  | .invalid => ProbeWindow.retry { w with baseline := cl.baseline } now

def advancePrecheck (k : ProbeWindowKind) (w : ProbeWindow) (snap : QuotaSnapshot) (now : Time)
    (obs : Duration) : ProbeWindow :=
  let pre := precheckBaseline k w.baseline snap now
  let cl := classifyProbeWindow pre.baseline snap now
  let unauthorized :=
    !pre.strictAuthorized && (decide (cl.kind = .stillLazy) || decide (cl.kind = .ambiguous) ||
        (pre.shiftedZeroCandidate && decide (cl.kind = .activatedNew)))
  if unauthorized then
    let baseline := { cl.baseline with suspectedLazy := false }
    { w with
      baseline := baseline
      state := .waitingReset
      deadline := readOnlyObservationDeadline baseline now obs }
  else settle w cl now obs fun w => { w with state := .sentAwaitingVerify }

def verifyBaseline (base : ProbeBaseline) (snap : QuotaSnapshot) (now : Time) : ProbeBaseline :=
  match snap.resetAt, snap.usage with
  | some reset, some usage =>
    if externalResetRebaseApplies base snap now then
      { base with resetAt := reset, usage := usage, suspectedLazy := true }
    else base
  | _, _ => base

def advanceVerify (w : ProbeWindow) (snap : QuotaSnapshot) (now : Time) (obs : Duration) :
    ProbeWindow :=
  settle w (classifyProbeWindow (verifyBaseline w.baseline snap now) snap now) now obs
    fun w => w.retry now

def ProbeWindow.sent (w : ProbeWindow) : Bool :=
  decide (w.state = .sentAwaitingVerify ∨ w.state = .sentUnknown)

def ProbeWindow.waits (w : ProbeWindow) : Bool :=
  decide (w.state = .waitingReset ∨ w.state = .retryWait ∨ w.state = .anomalyHold)

def ProbeWindow.pend (w : ProbeWindow) : ProbeWindow :=
  { w with state := .pendingCheck, deadline := Time.zero }

def advanceWindow (k : ProbeWindowKind) (w : ProbeWindow) (e : ProbeEvent) : Option ProbeWindow :=
  match e.kind with
  | .deadline => some (if w.waits && !w.deadline.after e.now then w.pend else w)
  | .precheckResult =>
    match e.snapshots k with
    | some snap =>
      some (if w.state = .pendingCheck then advancePrecheck k w snap e.now e.observationInterval
        else w)
    | none => some w
  | .verifyResult =>
    match e.snapshots k with
    | some snap => some (if w.sent then advanceVerify w snap e.now e.observationInterval else w)
    | none => some w
  | .authFailed => some (if w.state = .idle then w else { w with state := .authBlocked })
  | .externalLogin =>
    some (if w.state = .authBlocked then { w with state := .pendingCheck } else w)
  | .rosterConfirmed =>
    some (if w.state = .waitingRoster then
        if w.baseline.suspectedLazy then w.pend
        else
          { w with
            state := .waitingReset
            deadline := deadlineFor w.baseline e.now e.observationInterval }
      else w)
  | .instanceRemoved => none

def advance (ws : Windows) (e : ProbeEvent) : Windows := fun k =>
  (ws k).bind fun w =>
    if e.kind ≠ .instanceRemoved ∧ e.window.any (· ≠ k) then some w else advanceWindow k w e

/-- `probeSnapshots`. -/
def windowSnapshot (w : QuotaWindow) : QuotaSnapshot where
  valid := true
  resetAt := some w.resetAt
  usage := w.usedPercent
  windowKind := w.kind
  windowLength := (probeWindowDuration w).getD 0
  windowLengthKnown := (probeWindowDuration w).isSome

def observedWindow (q : ParsedQuota) : ProbeWindowKind → Option QuotaWindow
  | .fiveHour => q.fiveHour
  | .long => q.longWindow

def probeSnapshots (q : ParsedQuota) (k : ProbeWindowKind) : Option QuotaSnapshot :=
  (observedWindow q k).map windowSnapshot

def rearmConfirmedProbeWindow (w : ProbeWindow) (observedAt : Time) (observation : QuotaWindow)
    (now : Time) (obs : Duration) : Option ProbeWindow :=
  match observation.usedPercent, probeWindowDuration observation with
  | some usage, some duration =>
    if w.state ≠ .confirmed ∨ observation.resetAt.isZero = true ∨ observedAt.isZero = true ∨
        observedAt.after now = true ∨ duration ≤ 0 ∨
        (w.baseline.kind = .reset ∧ w.baseline.resetAt.isZero = false ∧
          observation.resetAt.after (w.baseline.resetAt + probeSkewTolerance) = false) then none
    else
      let base :=
        { resetProbeBaseline observation.resetAt usage duration with
          windowKind := observation.kind }
      if looksLikeStrictLazyObservation observedAt observation duration then
        some (ProbeWindow.pend
          { w with baseline := { base with suspectedLazy := true }, retryCount := 0 })
      else
        some
          { w with
            baseline := base
            retryCount := 0
            state := .waitingReset
            deadline := deadlineFor base now obs }
  | _, _ => none

end QuotaScheduler.ProbeState

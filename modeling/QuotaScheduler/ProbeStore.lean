/- What the probe runtime holds about one instance (probe_wal.go, probe_runtime.go). -/

import QuotaScheduler.CredentialWal
import QuotaScheduler.ProbeState

namespace QuotaScheduler.ProbeStore

open Account ProbeClassify ProbeState

export CredentialWal (RuntimeBinding)

inductive ProbeAttemptPhase
  | prepared
  | sending
  | sent
  | sentUnknown
  deriving DecidableEq

/-- `ProbeAttempt`; the ID "probe-<instance>-<n>" is kept as `n`, `none` is empty. -/
structure ProbeAttempt where
  attemptID : Option Nat := none
  windows : List ProbeWindowKind := []
  phase : ProbeAttemptPhase := .prepared
  sendFenceSeq : Nat := 0
  createdAt : Time := .zero
  verifyNotBefore : Time := .zero
  suppressUntil : Time := .zero
  deriving DecidableEq

/-- The persisted attempt and windows of one instance, and its controller windows. -/
structure ProbeSlot where
  attempt : Option ProbeAttempt := none
  persisted : Windows := fun _ => none
  controller : Windows := fun _ => none

def sentPhases : List ProbeAttemptPhase := [.sending, .sent, .sentUnknown]

def exactProbeAttempt (attempt : Option ProbeAttempt) (attemptID : Option Nat)
    (phases : List ProbeAttemptPhase) : Option ProbeAttempt :=
  attempt.filter fun a =>
    attemptID.isSome && decide (a.attemptID = attemptID) && decide (a.phase ∈ phases)

def nonterminalProbeAttempt (a : ProbeAttempt) : Bool :=
  match a.phase with
  | .prepared | .sending | .sent | .sentUnknown => true

/-- What `persistProbeSentUnknown` and `persistProbeFailure` do to a sent attempt. -/
def ProbeAttempt.toSentUnknown (a : ProbeAttempt) (suppress : Time) : ProbeAttempt :=
  { a with
    phase := .sentUnknown
    suppressUntil := if suppress.after a.suppressUntil then suppress else a.suppressUntil }

namespace ProbeSlot

def sync (s : ProbeSlot) : ProbeSlot := { s with controller := s.persisted }

def store (s : ProbeSlot) (windows : Windows) (stored : Bool) : ProbeSlot :=
  if stored then { s with persisted := windows } else s

def persist (s : ProbeSlot) (stored : Bool) : ProbeSlot := s.store s.controller stored

def persistProbeSentUnknown (s : ProbeSlot) (attemptID : Option Nat) (suppress : Time)
    (stored : Bool) : Option ProbeSlot :=
  if stored then
    (exactProbeAttempt s.attempt attemptID sentPhases).map fun a =>
      { s with attempt := some (a.toSentUnknown suppress) }
  else none

def persistSending (s : ProbeSlot) (a : ProbeAttempt) (stored : Bool) : Option ProbeSlot :=
  if stored then
    (exactProbeAttempt s.attempt a.attemptID [.prepared]).map fun _ =>
      { s with
        attempt := some
          { a with
            phase := .sending
            suppressUntil :=
              if a.suppressUntil.isZero then a.createdAt + 10 * minute else a.suppressUntil } }
  else none

def persistSent (s : ProbeSlot) (attemptID : Option Nat) (stored : Bool) : Option ProbeSlot :=
  if stored then
    (exactProbeAttempt s.attempt attemptID [.sending]).map fun a =>
      { s with attempt := some { a with phase := .sent } }
  else none

def persistTerminalProbeCompletion (s : ProbeSlot) (attemptID : Option Nat) (quota : ParsedQuota)
    (phases : List ProbeAttemptPhase) (stored : Bool) : ProbeSlot :=
  if stored && (exactProbeAttempt s.attempt attemptID phases).isSome then
    let windows := fun k => if (observedWindow quota k).isSome then s.controller k else none
    { attempt := none, persisted := windows, controller := windows }
  else s.sync

/-- The controller after a read of the quota; prechecks pass an observation interval. -/
def advanceRead (s : ProbeSlot) (kind : ProbeEventKind) (quota : ParsedQuota) (now : Time)
    (obs : Duration) : ProbeSlot :=
  { s with
    controller := advance s.controller
      { kind := kind, now := now, snapshots := probeSnapshots quota, observationInterval := obs } }

def persistVerifiedProbeCompletion (s : ProbeSlot) (attemptID : Option Nat) (quota : ParsedQuota)
    (phases : List ProbeAttemptPhase) (now : Time) (stored : Bool) : ProbeSlot :=
  (s.advanceRead .verifyResult quota now 0).persistTerminalProbeCompletion attemptID quota phases
    stored

def lazyWindows (s : ProbeSlot) (windows : List ProbeWindowKind) : List ProbeWindowKind :=
  windows.filter fun k => (s.controller k).any fun w => decide (w.state = .sentAwaitingVerify)

def raiseWindow (suppress : Time) (w : ProbeWindow) : ProbeWindow :=
  if w.state = .retryWait ∧ w.deadline.before suppress = true then { w with deadline := suppress }
  else w

def raise (s : ProbeSlot) (lazy : List ProbeWindowKind) (suppress : Time) : ProbeSlot :=
  { s with
    controller := fun k =>
      if k ∈ lazy then (s.controller k).map (raiseWindow suppress) else s.controller k }

/-- The critical section after the verification read of a sequence. -/
def completeVerification (s : ProbeSlot) (attempt : ProbeAttempt) (quota : ParsedQuota)
    (now : Time) (stored : Bool) : ProbeSlot :=
  ((s.advanceRead .verifyResult quota now 0).raise attempt.windows attempt.suppressUntil)
    |>.persistTerminalProbeCompletion attempt.attemptID quota [.sent] stored

end ProbeSlot

structure ProbeFailure where
  attemptID : Option Nat
  windows : List ProbeWindowKind
  sent : Bool
  authBlocked : Bool
  login : Nat
  suppressUntil : Time

def ProbeFailure.phases (f : ProbeFailure) : List ProbeAttemptPhase :=
  if f.sent then sentPhases else [.prepared, .sending]

def ProbeFailure.window (f : ProbeFailure) (w : ProbeWindow) (now : Time) : ProbeWindow :=
  if f.authBlocked then
    { w with state := .authBlocked, authBlockedAtLogin := f.login, deadline := Time.zero }
  else if f.sent then { w.retry now with state := .sentUnknown }
  else w.retry now

/-- The persisted windows after a failure; the controller's window comes first. -/
def ProbeFailure.next (f : ProbeFailure) (s : ProbeSlot) (now : Time) : Windows := fun k =>
  if k ∈ f.windows then
    match (s.controller k).or (s.persisted k) with
    | some w => if w.state = .waitingRoster then s.persisted k else some (f.window w now)
    | none => none
  else s.persisted k

namespace ProbeSlot

def persistProbeFailure (s : ProbeSlot) (f : ProbeFailure) (now : Time) (stored : Bool) :
    ProbeSlot :=
  match if stored then exactProbeAttempt s.attempt f.attemptID f.phases else none with
  | none => s.sync
  | some a =>
    { attempt :=
        if f.sent then some (a.toSentUnknown f.suppressUntil)
        else if a.phase = .prepared then none else some a
      persisted := f.next s now
      controller := f.next s now }

def recorded (s : ProbeSlot) : Bool :=
  s.attempt.isSome || probeWindowKinds.any fun k => (s.persisted k).isSome

/-- The removal of an instance: the controller drops it before the store. -/
def remove (s : ProbeSlot) (stored : Bool) : ProbeSlot :=
  if stored then {} else { s with controller := fun _ => none }

def sentWindows (s : ProbeSlot) : List ProbeWindowKind :=
  match s.attempt with
  | some a => if a.phase ∈ sentPhases then a.windows else []
  | none => []

def holdWindow (sent : List ProbeWindowKind) (k : ProbeWindowKind) (w : ProbeWindow) :
    ProbeWindow :=
  if k ∈ sent then { w with state := .sentUnknown, deadline := Time.zero }
  else if w.state = .confirmed then { w with deadline := Time.zero }
  else { w with state := .waitingRoster, deadline := Time.zero }

/-- `holdProbeForRoster` for one instance; one without windows is not visited. -/
def holdProbeForRoster (s : ProbeSlot) (stored : Bool) : ProbeSlot :=
  if stored && probeWindowKinds.any fun k => (s.controller k).isSome then
    let next := fun k => (s.controller k).map (holdWindow s.sentWindows k)
    { attempt := s.attempt.filter fun a => decide (a.phase ∈ sentPhases)
      persisted := next
      controller := next }
  else s

def reloginWindow (login : Nat) (w : ProbeWindow) : ProbeWindow :=
  if w.state = .authBlocked ∧ w.authBlockedAtLogin < login then w.pend else w

def confirmWindow (b : RuntimeBinding) (now : Time) (w : ProbeWindow) : ProbeWindow :=
  let w := reloginWindow b.login w
  if w.state = .waitingReset ∧ w.deadline.after now = false then w.pend else w

def confirm (s : ProbeSlot) (b : RuntimeBinding) (now : Time) (obs : Duration) : ProbeSlot :=
  { s with
    controller := fun k =>
      (advance s.controller { kind := .rosterConfirmed, now := now, observationInterval := obs }
        k).map (confirmWindow b now) }

def unprepare (s : ProbeSlot) (windows : List ProbeWindowKind) (now : Time) : ProbeSlot :=
  { s with
    controller := fun k =>
      if k ∈ windows then
        (s.controller k).map fun w =>
          { w with state := .retryWait, retryCount := w.retryCount + 1, deadline := now }
      else s.controller k }

/-- The attempt goes only if it is still the prepared one; the windows are written anyway. -/
def dropPrepared (s : ProbeSlot) (attemptID : Option Nat) (windows : Windows) (stored : Bool) :
    ProbeSlot :=
  if stored then
    { s with
      attempt := s.attempt.filter fun a => !decide (a.attemptID = attemptID ∧ a.phase = .prepared)
      persisted := windows }
  else s

def markSentUnknown (s : ProbeSlot) (windows : List ProbeWindowKind) : ProbeSlot :=
  { s with
    controller := fun k =>
      if k ∈ windows then
        (s.controller k).map fun w => { w with state := .sentUnknown, deadline := Time.zero }
      else s.controller k }

def blockWindow (b : RuntimeBinding) (w : ProbeWindow) : ProbeWindow :=
  { w with state := .authBlocked, authBlockedAtLogin := b.login }

/-- The due pass skips a blocked credential after it has blocked its windows. -/
def block (s : ProbeSlot) (b : RuntimeBinding) : ProbeSlot :=
  { s with controller := fun k => (s.controller k).map (blockWindow b) }

def armWindow (b : RuntimeBinding) (now : Time) (w : ProbeWindow) : ProbeWindow :=
  let w := reloginWindow b.login w
  if w.deadline.isZero = false ∧ w.deadline.after now = false ∧ w.waits then w.pend else w

def arm (s : ProbeSlot) (b : RuntimeBinding) (now : Time) : ProbeSlot :=
  { s with controller := fun k => (s.controller k).map (armWindow b now) }

def dueWindows (s : ProbeSlot) : List ProbeWindowKind :=
  probeWindowKinds.filter fun k =>
    (s.controller k).any fun w => decide (w.state = .pendingCheck)

def claimedAttempt (attemptID : Nat) (due : List ProbeWindowKind) (now : Time) : ProbeAttempt :=
  { attemptID := some attemptID, windows := due, createdAt := now, verifyNotBefore := now }

def reconcileWindow (s : ProbeSlot) (quota : ParsedQuota) (now : Time) (obs : Duration)
    (k : ProbeWindowKind) : Option ProbeWindow :=
  match observedWindow quota k with
  | some observation =>
    (s.persisted k).map fun w =>
      (rearmConfirmedProbeWindow w now observation now obs).getD w
  | none =>
    (s.persisted k).filter fun w =>
      decide (w.state = .confirmed) ||
        s.attempt.any fun a => nonterminalProbeAttempt a && decide (k ∈ a.windows)

def reconcileObservedProbeWindows (s : ProbeSlot) (quota : ParsedQuota) (now : Time)
    (obs : Duration) (stored : Bool) : ProbeSlot :=
  if stored then
    { s with
      persisted := s.reconcileWindow quota now obs
      controller := s.reconcileWindow quota now obs }
  else s

end ProbeSlot

def probeObservationInterval (cfg : Config) : Duration :=
  let interval := (normalizeConfig cfg).quotaRefreshInterval
  if interval < probeUnknownResetRecheck then probeUnknownResetRecheck else interval

structure ObservedAccount where
  inst : AuthInstanceID
  lastSuccessAt : Time
  quota : ParsedQuota

namespace Bootstrap

structure Context where
  enableResetProbe : Bool
  now : Time
  obs : Duration
  capabilityA : Bool

variable (c : Context)

/-- Without a confirmed roster a window that changes waits for it. -/
def admitted (w : ProbeWindow) : ProbeWindow :=
  if c.capabilityA then w else { w with state := .waitingRoster, deadline := Time.zero }

/-- The first loop: a waiting window gets its baseline's deadline, if earlier. -/
def hasten (w : ProbeWindow) : Option ProbeWindow :=
  if w.state = .waitingReset ∧ w.baseline.kind = .reset ∧ 0 < w.baseline.windowLength then
    let deadline := deadlineFor w.baseline c.now c.obs
    if w.deadline.isZero ∨ deadline.before w.deadline then some { w with deadline := deadline }
    else none
  else none

/-- The time an account was observed at; `none` if it is no strict observation. -/
def strictObservation (a : ObservedAccount) : Option Time :=
  if a.lastSuccessAt.isZero || a.lastSuccessAt.after c.now then none else some a.lastSuccessAt

def ripen (w : ProbeWindow) : ProbeWindow :=
  if w.deadline.after c.now then w else w.pend

/-- A window whose baseline has a reset and no length yet learns the length. -/
def learn (w : ProbeWindow) (observedAt : Option Time) (q : QuotaWindow) (duration : Duration) :
    ProbeWindow :=
  let baseline :=
    { w.baseline with
      windowLength := duration
      windowKind := if w.baseline.windowKind = .unset then q.kind else w.baseline.windowKind }
  if observedAt.any fun t => looksLikeStrictLazyObservation t q duration then
    ProbeWindow.pend
      { w with
        baseline := { baseline with
          resetAt := q.resetAt
          usage := q.usedPercent.getD 0
          suspectedLazy := true } }
  else if w.state = .waitingReset then
    ripen c { w with baseline := baseline, deadline := deadlineFor baseline c.now c.obs }
  else { w with baseline := baseline }

/-- The second loop on a controller window; `none` where it does not change. -/
def revise (w : ProbeWindow) (observedAt : Option Time) (q : QuotaWindow) : Option ProbeWindow :=
  match rearmConfirmedProbeWindow w (observedAt.getD Time.zero) q c.now c.obs with
  | some rearmed => some (admitted c rearmed)
  | none =>
    if w.baseline.kind = .reset ∧ w.baseline.windowLength = 0 then
      (probeWindowDuration q).map fun duration => admitted c (learn c w observedAt q duration)
    else none

def create (observedAt : Option Time) (q : QuotaWindow) : ProbeWindow :=
  let base :=
    { resetProbeBaseline q.resetAt (q.usedPercent.getD 0) ((probeWindowDuration q).getD 0) with
      windowKind := q.kind }
  let w : ProbeWindow :=
    { state := .waitingReset, baseline := base, deadline := deadlineFor base c.now c.obs }
  admitted c (if observedAt.any fun t => firstObservationLazyWindow t q then
      ProbeWindow.pend { w with baseline := { base with suspectedLazy := true } }
    else ripen c w)

def observe (a : ObservedAccount) (ws : Windows) (k : ProbeWindowKind) : Option ProbeWindow :=
  (observedWindow a.quota k).bind fun q =>
    match ws k with
    | some w => revise c w (strictObservation c a) q
    | none => some (create c (strictObservation c a) q)

def place (set : ProbeWindowKind → Option ProbeWindow) (acc : Windows × Bool) : Windows × Bool :=
  (fun k => (set k).or (acc.1 k), acc.2 || probeWindowKinds.any fun k => (set k).isSome)

/-- An instance's controller windows after a bootstrap, and whether it was touched. -/
def windows (ws : Windows) (accounts : List ObservedAccount) : Windows × Bool :=
  if c.enableResetProbe then
    accounts.foldl (fun acc a => place (observe c a acc.1) acc)
      (place (fun k => (ws k).bind (hasten c)) (ws, false))
  else (ws, false)

end Bootstrap

namespace ProbeSlot

def bootstrapController (s : ProbeSlot) (c : Bootstrap.Context) (accounts : List ObservedAccount) :
    ProbeSlot :=
  { s with controller := (Bootstrap.windows c s.controller accounts).1 }

/-- A bootstrap writes the instances it touched, and those it could not write before. -/
def bootstrapTouched (s : ProbeSlot) (c : Bootstrap.Context) (accounts : List ObservedAccount)
    (pending : Bool) : Bool :=
  pending || (Bootstrap.windows c s.controller accounts).2

def bootstrap (s : ProbeSlot) (c : Bootstrap.Context) (accounts : List ObservedAccount)
    (pending stored : Bool) : ProbeSlot :=
  (s.bootstrapController c accounts).persist (s.bootstrapTouched c accounts pending && stored)

end ProbeSlot

end QuotaScheduler.ProbeStore

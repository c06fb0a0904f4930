/- The controller, its copy and their readers (roster_controller.go, refresh.go). -/

import QuotaScheduler.Roster

namespace QuotaScheduler.RosterController

open Account Roster

def rosterActiveTTL : Duration := 5 * minute

def rosterDegradedLimit : Duration := 30 * minute

def provisionalMaxAge : Duration := 4 * hour

def provisionalAgeValid (now confirmedAt : Time) : Bool :=
  if confirmedAt.isZero then false
  else decide (0 ≤ now - confirmedAt) && decide (now - confirmedAt < provisionalMaxAge)

structure ActiveRoster where
  capability : HostCapability := .capabilityB
  confirmed : Bool := false
  provisional : Bool := false
  highestPriority : Int := 0
  generation : Nat := 0
  lifecycleRevision : Nat := 0
  instances : List String := []
  entries : List RosterEntry := []
  confirmedAt : Time := .zero
  lastSyncAt : Time := .zero
  degradedSince : Time := .zero
  health : RosterHealth := .unset
  backgroundAllowed : Bool := false
  deriving DecidableEq

def newRosterController (now : Time) (provisional : Option ActiveRoster) : ActiveRoster :=
  match provisional with
  | none => { health := .waiting }
  | some p =>
    if !provisionalAgeValid now p.confirmedAt then { health := .waiting }
    else
      { p with
        capability := .capabilityB, confirmed := false, provisional := true, health := .waiting,
        backgroundAllowed := false }

def limitReached (active : ActiveRoster) (now : Time) : Bool :=
  active.confirmed && decide (active.health = .degraded) && !active.degradedSince.isZero &&
    !now.before (active.degradedSince + rosterDegradedLimit)

def closedRoster (active : ActiveRoster) : ActiveRoster :=
  { active with
    health := .failClosed, backgroundAllowed := false,
    lifecycleRevision := active.lifecycleRevision + 1 }

def degradedRoster (old : ActiveRoster) (now : Time) : ActiveRoster :=
  let old := { old with lastSyncAt := now, backgroundAllowed := false }
  if old.provisional then
    { old with capability := .capabilityB, confirmed := false, health := .waiting }
  else if old.confirmedAt.isZero then
    { old with capability := .capabilityB, confirmed := false, health := .waiting }
  else
    let old := if old.degradedSince.isZero then { old with degradedSince := now } else old
    if now - old.degradedSince < rosterDegradedLimit then
      { old with health := .degraded, backgroundAllowed := true }
    else { old with health := .failClosed }

def failedRoster (old : ActiveRoster) (start : Time) : ActiveRoster :=
  { degradedRoster old start with lifecycleRevision := old.lifecycleRevision + 1 }

def sameEntry (a b : RosterEntry) : Bool :=
  decide (a.id = b.id) && decide (a.authIndex = b.authIndex) && decide (a.provider = b.provider) &&
    match a.priority, b.priority with
    | some p, some q => decide (p = q)
    | _, _ => false

def sameRoster (old : ActiveRoster) (priority : Int) (entries : List RosterEntry)
    (ids : List String) : Bool :=
  old.confirmed && decide (old.highestPriority = priority) && decide (old.instances = ids) &&
    decide (old.entries.length = entries.length) &&
    (old.entries.zip entries).all fun p => sameEntry p.1 p.2

def nextRoster (old : ActiveRoster) (start : Time) (entries : List RosterEntry) :
    Option ActiveRoster :=
  match highestCodexTier entries with
  | none => none
  | some (priority, ids) =>
    let filtered := filterRosterEntries entries ids
    some
      { capability := .capabilityA
        confirmed := true
        highestPriority := priority
        generation :=
          if sameRoster old priority filtered ids then old.generation else old.generation + 1
        lifecycleRevision := old.lifecycleRevision + 1
        instances := ids
        entries := filtered
        confirmedAt := start
        lastSyncAt := start
        health := .healthy
        backgroundAllowed := true }

def committedRoster (current next : ActiveRoster) (generation : Nat) : ActiveRoster :=
  { next with
    generation := if next.generation < generation then generation else next.generation
    lifecycleRevision :=
      if next.lifecycleRevision ≤ current.lifecycleRevision then current.lifecycleRevision + 1
      else next.lifecycleRevision }

def hostRosterSnapshotFromActive (active : ActiveRoster) : HostRosterSnapshot where
  capability := active.capability
  confirmed := active.confirmed
  provisional := active.provisional
  backgroundAllowed := active.backgroundAllowed
  health := active.health
  generation := active.generation
  lifecycleRevision := active.lifecycleRevision
  entries := active.entries
  confirmedAt := active.confirmedAt
  degradedSince := active.degradedSince

def normalizeHostRosterLifecycle (roster : HostRosterSnapshot) : HostRosterSnapshot :=
  if roster.capability = .capabilityA ∧ roster.health = .unset then
    { roster with confirmed := true, backgroundAllowed := true, health := .healthy }
  else roster

def failClosedRosterAt (roster : HostRosterSnapshot) (now : Time) : HostRosterSnapshot × Bool :=
  let roster := normalizeHostRosterLifecycle roster
  if roster.capability ≠ .capabilityA ∨ roster.confirmed = false ∨ roster.health ≠ .degraded ∨
      roster.degradedSince.isZero ∨ now.before (roster.degradedSince + rosterDegradedLimit) then
    (roster, false)
  else
    ({ roster with
        health := .failClosed, backgroundAllowed := false,
        lifecycleRevision := roster.lifecycleRevision + 1 }, true)

def normalRosterBackgroundAllowed (roster : HostRosterSnapshot) : Bool :=
  decide (roster.capability = .capabilityA) && roster.confirmed && roster.backgroundAllowed &&
    (decide (roster.health = .healthy) || decide (roster.health = .degraded))

def provisionalProbeBackgroundAllowed (roster : HostRosterSnapshot) : Bool :=
  decide (roster.capability = .capabilityB) && roster.provisional && roster.backgroundAllowed &&
    decide (roster.health = .waiting)

structure ProbeSettings where
  enableResetProbe : Bool
  probeOnProvisionalRoster : Bool
  deriving DecidableEq

/-- The roster `ObserveRosterLifecycle` leaves; no settings: the refresher has no state. -/
def observeRosterLifecycle (roster : HostRosterSnapshot) (active : ActiveRoster)
    (settings : Option ProbeSettings) (now : Time) : HostRosterSnapshot :=
  let next := hostRosterSnapshotFromActive active
  let next :=
    if next.provisional = true ∧ (provisionalAgeValid now next.confirmedAt = false ∨
        settings.any (·.probeOnProvisionalRoster) = false) then
      { next with backgroundAllowed := false }
    else next
  let next :=
    if next.lifecycleRevision = 0 then
      { next with lifecycleRevision := roster.lifecycleRevision + 1 }
    else next
  if next.lifecycleRevision ≤ roster.lifecycleRevision then roster else next

/-- The answers in `PublishAuthoritativeRoster`: of `retryProbeRosterHold`, and the generation. -/
structure Publication where
  cfg : Config
  held : Bool
  reconciled : Option Nat

/-- The roster `PublishAuthoritativeRoster` leaves in the refresher, and whether it succeeds. -/
def publishAuthoritativeRoster (p : Publication) (now : Time) (stored roster : HostRosterSnapshot) :
    HostRosterSnapshot × Bool :=
  let roster := normalizeHostRosterLifecycle roster
  if !p.held then (stored, false)
  else
    match rosterAdmission p.cfg roster.entries with
    | none => ({ capability := .capabilityB }, false)
    | some admission =>
      if roster.capability ≠ .capabilityA then ({ capability := .capabilityB }, false)
      else
        match p.reconciled with
        | none => (stored, false)
        | some generation =>
          ({ roster with
              entries := roster.entries.filter fun e => decide (e.id ∈ admission.authIDs)
              generation := generation
              confirmedAt := if roster.confirmedAt.isZero then now else roster.confirmedAt }, true)

inductive Marker
  | none
  | degraded
  | provisional
  deriving DecidableEq, Repr

inductive RequestOutcome
  | expired
  | refused
  | issued (marker : Marker)
  deriving DecidableEq, Repr

/-- `doBackgroundHTTPRequest` behind the lifecycle gate; `issued` is the call of `host.Do`. -/
def doBackgroundHTTPRequest (stored : HostRosterSnapshot) (settings : Option ProbeSettings)
    (now : Time) (probe : Bool) : RequestOutcome :=
  let roster := normalizeHostRosterLifecycle stored
  if (failClosedRosterAt roster now).2 then .expired
  else if settings.isNone && probe then .refused
  else if probe && settings.any (fun s => !s.enableResetProbe) then .refused
  else if roster.provisional && settings.isNone then .refused
  else
    let allowed := normalRosterBackgroundAllowed roster ||
      (probe && provisionalProbeBackgroundAllowed roster)
    let allowed :=
      if roster.provisional && (settings.any (fun s => !s.probeOnProvisionalRoster) ||
          !provisionalAgeValid now roster.confirmedAt) then false
      else allowed
    if !allowed then .refused
    else if roster.health = .degraded then .issued .degraded
    else if probe && roster.provisional then .issued .provisional
    else .issued .none

/-- In the list call, in `PublishAuthoritativeRoster`, behind it, or before the last lock. -/
inductive SyncPhase
  | listing (start : Time)
  | publishing (start : Time) (old next : ActiveRoster)
  | published (old next : ActiveRoster)
  | committed (old next : ActiveRoster) (generation : Nat)

inductive Notice
  | unsent
  | pending
  | observed
  deriving DecidableEq, Repr

structure Change where
  active : ActiveRoster
  notice : Notice
  deriving DecidableEq

inductive SyncResult
  | succeeded
  | failed (start : Time)
  deriving DecidableEq, Repr

/-- `changes` lists the roster's changes in order, `results` the finished syncs, last first. -/
structure Shared where
  current : ActiveRoster
  lastErr : Bool := false
  inFlight : Option SyncPhase := none
  changes : List Change := []
  results : List SyncResult := []
  roster : HostRosterSnapshot

/-- Where a call of `WakeForProbe` is; after the reset it keeps the change it made. -/
inductive ProbePhase
  | idle
  | synced (got : ActiveRoster)
  | reset (got : ActiveRoster) (change : Option Nat)
  | verified (got : ActiveRoster)

/-- Where a background request is; behind the gate it keeps the change that made. -/
inductive RequestPhase
  | idle
  | gated (change : Option Nat)

structure System where
  shared : Shared
  probeOnProvisional : Bool := true
  probes : Nat → ProbePhase := fun _ => .idle
  requests : Nat → RequestPhase := fun _ => .idle

inductive Action
  | startSync (force : Bool)
  | listed (answer : Option (List RosterEntry))
  | published (p : Publication)
  | committed
  | finish
  | enforce
  | probeSynced (n : Nat)
  | probeReset (n : Nat)
  | probeVerify (n : Nat) (verified : Bool)
  | probeCommit (n : Nat) (permitted : Bool)
  | notify (i : Nat) (settings : Option ProbeSettings)
  | failClosed
  | gate (n : Nat)
  | check (n : Nat) (settings : Option ProbeSettings) (probe : Bool)

structure Event where
  now : Time
  act : Action

namespace Shared

def change (s : Shared) (active : ActiveRoster) (notice : Notice) : Shared :=
  { s with current := active, changes := s.changes ++ [⟨active, notice⟩] }

def starts (s : Shared) (force : Bool) (now : Time) : Bool :=
  if force && !s.lastErr && !s.current.lastSyncAt.isZero && decide (s.current.lastSyncAt = now) then
    false
  else if !force && !s.current.lastSyncAt.isZero &&
      decide (now - s.current.lastSyncAt < rosterActiveTTL) then false
  else s.inFlight.isNone

def fail (s : Shared) (start : Time) (old : ActiveRoster) : Shared :=
  { s.change (failedRoster old start) .pending with
    lastErr := true, inFlight := none, results := .failed start :: s.results }

def succeed (s : Shared) (next : ActiveRoster) (generation : Nat) : Shared :=
  { s.change (committedRoster s.current next generation) .pending with
    lastErr := false, inFlight := none, results := .succeeded :: s.results }

def list (s : Shared) (answer : Option (List RosterEntry)) : Shared :=
  match s.inFlight with
  | some (.listing start) =>
    -- a failed listing is finished in the same critical section
    match answer.bind (nextRoster s.current start) with
    | none => s.fail start s.current
    | some next => { s with inFlight := some (.publishing start s.current next) }
  | _ => s

def publish (s : Shared) (p : Publication) (now : Time) : Shared :=
  match s.inFlight with
  | some (.publishing start old next) =>
    let r := publishAuthoritativeRoster p now s.roster (hostRosterSnapshotFromActive next)
    if r.2 then { s with roster := r.1, inFlight := some (.published old next) }
    else { s with roster := r.1 }.fail start old
  | _ => s

def commit (s : Shared) : Shared :=
  match s.inFlight with
  | some (.published old next) =>
    { s with inFlight := some (.committed old next s.roster.generation) }
  | _ => s

def finish (s : Shared) : Shared :=
  match s.inFlight with
  | some (.committed _ next generation) => s.succeed next generation
  | _ => s

def enforceLifecycle (s : Shared) (now : Time) : Shared × Option Nat :=
  if limitReached s.current now then
    (s.change (closedRoster s.current) .pending, some s.changes.length)
  else (s, none)

def flagged (active : ActiveRoster) (allowed : Bool) : ActiveRoster :=
  { active with
    backgroundAllowed := allowed, lifecycleRevision := active.lifecycleRevision + 1 }

def resetProvisional (s : Shared) (got : ActiveRoster) : Shared × ActiveRoster × Option Nat :=
  if got.provisional && s.current.provisional &&
      decide (s.current.generation = got.generation) && s.current.backgroundAllowed then
    (s.change (flagged s.current false) .unsent, flagged s.current false, some s.changes.length)
  else (s, got, none)

def commitProvisional (s : Shared) (got : ActiveRoster) (now : Time) : Shared :=
  if s.current.provisional && decide (s.current.generation = got.generation) &&
      provisionalAgeValid now got.confirmedAt then
    s.change (flagged s.current true) .pending
  else s

/-- A change whose notification was left open is to be notified. -/
def send (s : Shared) (i : Nat) : Shared :=
  match s.changes[i]? with
  | some c =>
    if c.notice = .unsent then { s with changes := s.changes.set i { c with notice := .pending } }
    else s
  | none => s

def notify (s : Shared) (i : Nat) (settings : Option ProbeSettings) (now : Time) : Shared :=
  match s.changes[i]? with
  | some c =>
    if c.notice = .pending then
      { s with
        changes := s.changes.set i { c with notice := .observed }
        roster := observeRosterLifecycle s.roster c.active settings now }
    else s
  | none => s

def expire (s : Shared) (now : Time) : Shared :=
  if (failClosedRosterAt s.roster now).2 then
    { s with roster := (failClosedRosterAt s.roster now).1 }
  else s

def delivered (s : Shared) (change : Option Nat) : Bool :=
  match change with
  | none => true
  | some i => (s.changes[i]?).any fun c => decide (c.notice = .observed)

end Shared

def update {α : Type} (f : Nat → α) (n : Nat) (a : α) : Nat → α :=
  fun m => if m = n then a else f m

/-- `WakeForProbe` after the reset: whether it goes on to commit. -/
def goesOn (w : System) (got : ActiveRoster) (now : Time) (verified : Bool) : Bool :=
  got.provisional && w.probeOnProvisional && provisionalAgeValid now got.confirmedAt && verified

def step (w : System) (e : Event) : System :=
  match e.act with
  | .startSync force =>
    if w.shared.starts force e.now then
      { w with shared := { w.shared with inFlight := some (.listing e.now) } }
    else w
  | .listed answer => { w with shared := w.shared.list answer }
  | .published p => { w with shared := w.shared.publish p e.now }
  | .committed => { w with shared := w.shared.commit }
  | .finish => { w with shared := w.shared.finish }
  | .enforce => { w with shared := (w.shared.enforceLifecycle e.now).1 }
  | .probeSynced n =>
    match w.probes n with
    | .idle => { w with probes := update w.probes n (.synced w.shared.current) }
    | _ => w
  | .probeReset n =>
    match w.probes n with
    | .synced got =>
      let r := w.shared.resetProvisional got
      { w with shared := r.1, probes := update w.probes n (.reset r.2.1 r.2.2) }
    | _ => w
  | .probeVerify n verified =>
    match w.probes n with
    | .reset got change =>
      if goesOn w got e.now verified then
        { w with probes := update w.probes n (.verified got) }
      else
        match change with
        | some i => { w with shared := w.shared.send i, probes := update w.probes n .idle }
        | none => { w with probes := update w.probes n .idle }
    | _ => w
  | .probeCommit n permitted =>
    match w.probes n with
    | .verified got =>
      { w with
        shared := if permitted then w.shared.commitProvisional got e.now else w.shared
        probes := update w.probes n .idle }
    | _ => w
  | .notify i settings => { w with shared := w.shared.notify i settings e.now }
  | .failClosed => { w with shared := w.shared.expire e.now }
  | .gate n =>
    match w.requests n with
    | .idle =>
      let r := w.shared.enforceLifecycle e.now
      { w with shared := r.1, requests := update w.requests n (.gated r.2) }
    | _ => w
  | .check n _ _ =>
    match w.requests n with
    | .gated change =>
      -- what the check finds is `outcome`; nothing shared changes
      if w.shared.delivered change then { w with requests := update w.requests n .idle } else w
    | _ => w

def outcome (w : System) (e : Event) : Option RequestOutcome :=
  match e.act with
  | .check n settings probe =>
    match w.requests n with
    | .gated change =>
      if w.shared.delivered change then
        some (doBackgroundHTTPRequest w.shared.roster settings e.now probe)
      else none
    | .idle => none
  | _ => none

end QuotaScheduler.RosterController

/- Passes, workers, roster changes and crashes (probe_runtime.go, coordinator.go). -/

import QuotaScheduler.ProbeStore
import Mathlib.Logic.Function.Basic

namespace QuotaScheduler.ProbeRuntime

open Account ProbeState ProbeStore

structure RecoveryIntent where
  startedAfter : Nat
  windows : List ProbeWindowKind

/-- The intent a recovery pass takes up, with the attempt it then reads. -/
structure Recovering where
  inst : AuthInstanceID
  intent : RecoveryIntent
  attempt : ProbeAttempt

/-- The owner of `probeRunMu`: what it has read and decided, and the job whose future it awaits. -/
structure Pass where
  recovery : Bool
  now : Time
  persisted : Option (AuthInstanceID → ProbeSlot) := none
  bindings : Option (AuthInstanceID → Option RuntimeBinding) := none
  prepared : List (AuthInstanceID × ProbeAttempt) := []
  intents : AuthInstanceID → Option RecoveryIntent := fun _ => none
  recovering : Option Recovering := none
  claiming : Option (AuthInstanceID × List ProbeWindowKind) := none
  touched : List AuthInstanceID := []
  /-- The `Snapshot` of the controller that the next update of the store writes. -/
  windows : Option (AuthInstanceID → Windows) := none
  awaits : Option Nat := none

/-- A run of `recoverProbeFromRoster`: its instances and its `Snapshot` of the controller. -/
structure Publication where
  touched : List AuthInstanceID
  windows : Option (AuthInstanceID → Windows) := none

inductive Position
  | begin
  | prechecked (quota : ParsedQuota)
  | authorized (lazy : List ProbeWindowKind)
  | fenced
  | sending
  | posted
  | sent
  | verifying (seq : Nat)
  | verified (seq : Nat) (quota : ParsedQuota)
  | failing (sent authBlocked : Bool)
  | finished
  deriving DecidableEq

/-- A job of class `probe_sequence`: its payload and the variables of `runTypedHeld`. -/
structure Worker where
  inst : AuthInstanceID
  attempt : ProbeAttempt
  windows : List ProbeWindowKind
  recovery : Bool
  startedAfter : Nat := 0
  login : Nat
  probeSent : Bool := false
  pos : Position := .begin

/-- A job runs exactly while the pass that submitted it awaits its future. -/
structure World where
  clock : Time
  config : Config
  fence : Nat
  attemptSeq : Nat
  slots : AuthInstanceID → ProbeSlot
  persistPending : AuthInstanceID → Bool
  /-- `activeProbeBindings`: the bindings of the instances in the roster. -/
  roster : AuthInstanceID → Option RuntimeBinding
  /-- The instances the coordinator takes no jobs of. -/
  cancelled : AuthInstanceID → Bool
  publications : Nat → Option Publication
  pass : Option Pass
  workers : Nat → Option Worker
  jobs : Nat

/-- `ok`: an update or allocation succeeds; `withheld`: a send never leaves, a failure is not
recorded. -/
inductive Outcome
  | ok
  | quota (q : ParsedQuota)
  | error (unauthorized : Bool)
  | withheld
  deriving DecidableEq

inductive Event
  | elapse (time reads : Nat)
  | configure (cfg : Config)
  | openPass (recovery : Bool)
  | readStore
  | readBindings
  | orphan (i : AuthInstanceID) (stored : Bool)
  | readControllers
  | due (i : AuthInstanceID)
  | claim (stored submitted : Bool)
  | readPrepared (instances : List AuthInstanceID)
  | unprepare
  | dropPrepared (stored : Bool)
  | recoverChecked (i : AuthInstanceID) (stored : Bool)
  | readAttempt (i : AuthInstanceID)
  | recover (submitted : Bool)
  | persistTouched (stored : Bool)
  | release
  | closePass
  | work (n : Nat) (o : Outcome)
  | inherit (n : Nat) (stored : Bool)
  | hold (stored : Bool)
  | confirm (n : Nat) (bindings : List (AuthInstanceID × RuntimeBinding))
  | readConfirmed (n : Nat)
  | persistConfirmed (n : Nat) (stored : Bool)
  | bootstrap (accounts : List ObservedAccount) (capabilityA stored : Bool)
  | observe (i : AuthInstanceID) (quota : ParsedQuota) (stored : Bool)
  | rebind (i : AuthInstanceID) (b : RuntimeBinding)
  | enroll (i : AuthInstanceID) (b : RuntimeBinding)
  | withdraw (i : AuthInstanceID)
  | cancel (i : AuthInstanceID)
  | activate (i : AuthInstanceID)
  | discard (i : AuthInstanceID) (stored : Bool)
  | crash (reads : Nat)

def Outcome.stored (o : Outcome) : Bool := decide (o = .ok)

def Outcome.unauthorized : Outcome → Bool
  | .error b => b
  | _ => false

def Pass.visit (p : Pass) (i : AuthInstanceID) (recovering : Option Recovering) : Pass :=
  { p with
    intents := Function.update p.intents i none
    recovering := recovering
    touched := i :: p.touched
    windows := none }

namespace World

def setSlot (w : World) (i : AuthInstanceID) (s : ProbeSlot) : World :=
  { w with slots := Function.update w.slots i s }

def setWorker (w : World) (n : Nat) (k : Worker) : World :=
  { w with workers := Function.update w.workers n (some k) }

def setPass (w : World) (p : Pass) : World := { w with pass := some p }

def obs (w : World) : Duration := probeObservationInterval w.config

def idlePass (w : World) : Option Pass := w.pass.filter fun p => p.awaits.isNone

/-- A step of the owner of `probeRunMu`, who takes none while it awaits a job. -/
def withPass (w : World) (f : Pass → World) : World :=
  match w.idlePass with
  | some p => f p
  | none => w

def live (w : World) (n : Nat) : Bool := w.pass.any fun p => decide (p.awaits = some n)

def controllers (w : World) : AuthInstanceID → Windows := fun i => (w.slots i).controller

/-- The update of `persistProbeInstances`. -/
def store (w : World) (touched : List AuthInstanceID) (windows : AuthInstanceID → Windows)
    (stored : Bool) : World :=
  { w with
    slots := fun i => if i ∈ touched then (w.slots i).store (windows i) stored else w.slots i }

/-- `SubmitTyped` and `Await`: the job is taken, unless the coordinator drains or cancelled the
instance. -/
def submit (w : World) (p : Pass) (k : Worker) (submitted : Bool) : World :=
  if submitted && !w.cancelled k.inst then
    { w with
      pass := some { p with awaits := some w.jobs }
      workers := Function.update w.workers w.jobs (some k)
      jobs := w.jobs + 1 }
  else w

def orphan (w : World) (i : AuthInstanceID) (stored : Bool) : World :=
  w.withPass fun p =>
    match p.persisted, p.bindings with
    | some snapshot, some bound =>
      if (snapshot i).recorded && (bound i).isNone then w.setSlot i ((w.slots i).remove stored)
      else w
    | _, _ => w

def due (w : World) (i : AuthInstanceID) : World :=
  w.withPass fun p =>
    match p.persisted, p.bindings.bind fun bound => bound i with
    | some snapshot, some b =>
      if p.recovery || (snapshot i).attempt.any fun a => decide (a.phase ∈ sentPhases) then w
      else if b.authBlocked then w.setSlot i ((w.slots i).block b)
      else
        let s := (w.slots i).arm b p.now
        (w.setSlot i s).setPass { p with
          claiming := if s.dueWindows.isEmpty then none else some (i, s.dueWindows)
          windows := none }
    | _, _ => w

def prepare (w : World) (i : AuthInstanceID) (due : List ProbeWindowKind) (windows : Windows)
    (now : Time) : World :=
  { w with attemptSeq := w.attemptSeq + 1 }.setSlot i
    { w.slots i with
      attempt := some (ProbeSlot.claimedAttempt (w.attemptSeq + 1) due now)
      persisted := windows }

def claimDue (w : World) (p : Pass) (i : AuthInstanceID) (b : RuntimeBinding)
    (due : List ProbeWindowKind) (windows : Windows) (submitted : Bool) : World :=
  match (w.slots i).attempt.filter fun a => a.attemptID.isSome with
  | some a =>
    if a.phase = .prepared then
      w.submit p ⟨i, a, due, false, 0, b.login, false, .begin⟩ submitted
    else w
  | none =>
    let a := ProbeSlot.claimedAttempt (w.attemptSeq + 1) due p.now
    (w.prepare i due windows p.now).submit p ⟨i, a, due, false, 0, b.login, false, .begin⟩
      submitted

/-- The claim of the due windows; the controller may have changed since its `Snapshot`. -/
def claim (w : World) (stored submitted : Bool) : World :=
  w.withPass fun p =>
    match p.claiming, p.windows with
    | some (i, due), some windows =>
      match p.bindings.bind fun bound => bound i with
      | some b =>
        if p.recovery then w
        else
          let p := { p with claiming := none }
          if stored then (w.setPass p).claimDue p i b due (windows i) submitted else w.setPass p
      | none => w
    | _, _ => w

/-- `recoverPreparedProbeAttempts` lists the prepared attempts of the store, ... -/
def readPrepared (w : World) (instances : List AuthInstanceID) : World :=
  w.withPass fun p =>
    if p.recovery && p.bindings.isNone then
      w.setPass { p with
        prepared := instances.filterMap fun i =>
          ((w.slots i).attempt.filter fun a => decide (a.phase = .prepared)).map (i, ·)
        windows := none }
    else w

/-- ... gives their windows a retry in the controller, ... -/
def unprepare (w : World) : World :=
  w.withPass fun p =>
    { w with
      slots := fun i =>
        match p.prepared.lookup i with
        | some a => (w.slots i).unprepare a.windows w.clock
        | none => w.slots i }

/-- ... and writes a `Snapshot` of the controller, without those attempts. -/
def dropPrepared (w : World) (stored : Bool) : World :=
  w.withPass fun p =>
    match p.windows with
    | some windows =>
      { w with
        slots := fun i =>
          match p.prepared.lookup i with
          | some a => (w.slots i).dropPrepared a.attemptID (windows i) stored
          | none => w.slots i }
    | none => w

def recoverChecked (w : World) (i : AuthInstanceID) (stored : Bool) : World :=
  w.withPass fun p =>
    match p.persisted.bind fun snapshot => (snapshot i).attempt with
    | none => w
    | some a =>
      let intend (w : World) (a : ProbeAttempt) : World :=
        w.setPass { p with
          intents := Function.update p.intents i (some ⟨a.sendFenceSeq, a.windows⟩) }
      if p.recovery && p.bindings.isNone && decide (a.phase ∈ sentPhases) &&
          !w.clock.before a.verifyNotBefore then
        if a.phase = .sending then
          match (w.slots i).persistProbeSentUnknown a.attemptID a.suppressUntil stored with
          | some s => intend (w.setSlot i s) (s.attempt.getD a)
          | none => w
        else intend w a
      else w

/-- The attempt of an intent is read again, if its instance has an open binding. -/
def readAttempt (w : World) (i : AuthInstanceID) : World :=
  w.withPass fun p =>
    match p.intents i, p.bindings with
    | some intent, some bound =>
      w.setPass (p.visit i (((bound i).filter fun b => !b.authBlocked).map fun _ =>
        ⟨i, intent, (w.slots i).attempt.getD {}⟩))
    | _, _ => w

/-- The windows of the attempt that was read are marked, and its verification is submitted. -/
def recover (w : World) (submitted : Bool) : World :=
  w.withPass fun p =>
    match p.recovering with
    | some r =>
      match p.bindings.bind fun bound => bound r.inst with
      | some b =>
        let p := { p with recovering := none }
        ((w.setPass p).setSlot r.inst ((w.slots r.inst).markSentUnknown r.attempt.windows)).submit p
          ⟨r.inst, r.attempt, r.intent.windows, true, r.intent.startedAfter, b.login, false, .begin⟩
          submitted
      | none => w
    | none => w

def persistTouched (w : World) (stored : Bool) : World :=
  w.withPass fun p =>
    match p.windows with
    | some windows => w.store p.touched windows stored
    | none => w

end World

def Worker.failure (k : Worker) (sent authBlocked : Bool) : ProbeFailure where
  attemptID := k.attempt.attemptID
  windows := k.windows
  sent := sent
  authBlocked := authBlocked
  login := k.login
  suppressUntil := k.attempt.suppressUntil

def Worker.fencedAttempt (k : Worker) (lazy : List ProbeWindowKind) (fence : Nat) (now : Time) :
    ProbeAttempt :=
  { k.attempt with
    windows := lazy
    sendFenceSeq := fence
    createdAt := now
    verifyNotBefore := now + 3 * second
    suppressUntil := now + 10 * minute }

def Worker.recoveryFence (k : Worker) : Nat :=
  if k.attempt.sendFenceSeq = 0 then k.startedAfter else k.attempt.sendFenceSeq

namespace World

/-- The fence allocation before a verification read, which comes after the send. -/
def beginVerify (w : World) (n : Nat) (k : Worker) (sendFenceSeq : Nat) (o : Outcome) : World :=
  match o with
  | .ok =>
    let k := { k with attempt := { k.attempt with sendFenceSeq := sendFenceSeq } }
    let w := { w with fence := w.fence + 1 }
    if w.fence ≤ sendFenceSeq then w.setWorker n { k with pos := .failing true false }
    else w.setWorker n { k with pos := .verifying w.fence }
  | _ => w.setWorker n { k with pos := .failing true false }

def beginRecovery (w : World) (n : Nat) (k : Worker) (o : Outcome) : World :=
  if k.recoveryFence = 0 then w.setWorker n { k with pos := .failing true false }
  else w.beginVerify n k k.recoveryFence o

def beginSend (w : World) (n : Nat) (k : Worker) (o : Outcome) : World :=
  match o, w.live n with
  | .quota q, true => { w with fence := w.fence + 1 }.setWorker n { k with pos := .prechecked q }
  | _, _ => w.setWorker n { k with pos := .failing false o.unauthorized }

def applyPrecheck (w : World) (n : Nat) (k : Worker) (q : ParsedQuota) (stored : Bool) : World :=
  let s := (w.slots k.inst).advanceRead .precheckResult q w.clock w.obs
  match s.lazyWindows k.windows with
  | [] =>
    (w.setSlot k.inst
      (s.persistTerminalProbeCompletion k.attempt.attemptID q [.prepared] stored)).setWorker n
      { k with pos := .finished }
  | lazy => (w.setSlot k.inst s).setWorker n { k with pos := .authorized lazy }

def advanceWith (w : World) (n : Nat) (k : Worker) (next : Option ProbeSlot) (done : Worker)
    (sent : Bool) : World :=
  match next with
  | some s => (w.setSlot k.inst s).setWorker n done
  | none => w.setWorker n { k with pos := .failing sent false }

/-- One critical section, store update or call of `runTypedHeld`. -/
def workStep (w : World) (n : Nat) (k : Worker) (o : Outcome) : World :=
  let s := w.slots k.inst
  match k.pos with
  | .begin => if k.recovery then w.beginRecovery n k o else w.beginSend n k o
  | .prechecked q => w.applyPrecheck n k q o.stored
  | .authorized lazy =>
    if o.stored then
      { w with fence := w.fence + 1 }.setWorker n
        { k with attempt := k.fencedAttempt lazy (w.fence + 1) w.clock, pos := .fenced }
    else w.setWorker n { k with pos := .failing false false }
  | .fenced =>
    w.advanceWith n k (s.persistSending k.attempt o.stored)
      { k with pos := .sending, probeSent := true } false
  | .sending =>
    w.setWorker n { k with pos := if w.live n && o.stored then .posted else .failing true false }
  | .posted =>
    w.advanceWith n k (s.persistSent k.attempt.attemptID o.stored) { k with pos := .sent } true
  | .sent => w.beginVerify n k k.attempt.sendFenceSeq o
  | .verifying seq =>
    match o, w.live n with
    | .quota q, true => w.setWorker n { k with pos := .verified seq q }
    | _, _ => w.setWorker n { k with pos := .failing true o.unauthorized }
  | .verified _ q =>
    (w.setSlot k.inst (if k.recovery then
        s.persistVerifiedProbeCompletion k.attempt.attemptID q sentPhases w.clock o.stored
      else s.completeVerification k.attempt q w.clock o.stored)).setWorker n
      { k with pos := .finished }
  | .failing sent authBlocked =>
    (if o = .withheld then w
    else w.setSlot k.inst (s.persistProbeFailure (k.failure sent authBlocked) w.clock o.stored))
      |>.setWorker n { k with pos := .finished }
  | .finished => w

/-- `InheritSentUnknown`: the coordinator takes over the send of a lost job. -/
def inheritSentUnknown (w : World) (k : Worker) (stored : Bool) : World :=
  match (w.slots k.inst).persistProbeSentUnknown k.attempt.attemptID k.attempt.suppressUntil
      stored with
  | some s => w.setSlot k.inst s.sync
  | none => w

def cancel (w : World) (i : AuthInstanceID) : World :=
  { w with
    cancelled := Function.update w.cancelled i true
    pass := w.pass.map fun p =>
      if (p.awaits.bind w.workers).any fun k => decide (k.inst = i) then { p with awaits := none }
      else p }

/-- The process stops; the next one loads the persisted windows. -/
def crash (w : World) (reads : Nat) : World :=
  { w with
    fence := w.fence + reads
    slots := fun i => (w.slots i).sync
    persistPending := fun _ => false
    cancelled := fun _ => false
    publications := fun _ => none
    pass := none
    workers := fun _ => none }

def bootstrapContext (w : World) (capabilityA : Bool) : Bootstrap.Context :=
  ⟨w.config.enableResetProbe, w.clock, w.obs, capabilityA⟩

def bootstrap (w : World) (accounts : List ObservedAccount) (capabilityA stored : Bool) : World :=
  let c := w.bootstrapContext capabilityA
  let bound i := accounts.filter fun a => decide (a.inst = i)
  if w.config.enableResetProbe then
    { w with
      slots := fun i => (w.slots i).bootstrap c (bound i) (w.persistPending i) stored
      persistPending := fun i =>
        (w.slots i).bootstrapTouched c (bound i) (w.persistPending i) && !stored }
  else w

/-- `recoverProbeFromRoster` changes the controller, ... -/
def confirm (w : World) (n : Nat) (bindings : List (AuthInstanceID × RuntimeBinding)) : World :=
  { w with
    slots := fun i =>
      match bindings.lookup i with
      | some b => (w.slots i).confirm b w.clock w.obs
      | none => w.slots i
    publications := Function.update w.publications n (some { touched := bindings.map (·.1) }) }

def readConfirmed (w : World) (n : Nat) : World :=
  { w with
    publications := Function.update w.publications n
      ((w.publications n).map fun r => { r with windows := some w.controllers }) }

/-- ... and writes its `Snapshot` of it; nothing keeps other steps out in between. -/
def persistConfirmed (w : World) (n : Nat) (stored : Bool) : World :=
  match w.publications n with
  | some ⟨touched, some windows⟩ =>
    { w.store touched windows stored with publications := Function.update w.publications n none }
  | _ => w

/-- One step; an event that is not enabled changes nothing. -/
def step (w : World) : Event → World
  | .elapse time reads => { w with clock := w.clock + time, fence := w.fence + reads }
  | .configure cfg => { w with config := cfg }
  | .openPass recovery =>
    if w.pass.isNone && w.config.enableResetProbe then
      w.setPass { recovery := recovery, now := w.clock }
    else w
  | .readStore => w.withPass fun p => w.setPass { p with persisted := some w.slots }
  | .readBindings => w.withPass fun p => w.setPass { p with bindings := some w.roster }
  | .orphan i stored => w.orphan i stored
  | .readControllers => w.withPass fun p => w.setPass { p with windows := some w.controllers }
  | .due i => w.due i
  | .claim stored submitted => w.claim stored submitted
  | .readPrepared instances => w.readPrepared instances
  | .unprepare => w.unprepare
  | .dropPrepared stored => w.dropPrepared stored
  | .recoverChecked i stored => w.recoverChecked i stored
  | .readAttempt i => w.readAttempt i
  | .recover submitted => w.recover submitted
  | .persistTouched stored => w.persistTouched stored
  | .release => { w with pass := w.pass.map fun p => { p with awaits := none } }
  | .closePass => w.withPass fun _ => { w with pass := none }
  | .work n o =>
    match w.workers n with
    | some k => w.workStep n k o
    | none => w
  | .inherit n stored =>
    match w.workers n with
    | some k => if k.probeSent && !w.live n then w.inheritSentUnknown k stored else w
    | none => w
  | .hold stored => { w with slots := fun i => (w.slots i).holdProbeForRoster stored }
  | .confirm n bindings => w.confirm n bindings
  | .readConfirmed n => w.readConfirmed n
  | .persistConfirmed n stored => w.persistConfirmed n stored
  | .bootstrap accounts capabilityA stored => w.bootstrap accounts capabilityA stored
  | .observe i quota stored =>
    w.setSlot i ((w.slots i).reconcileObservedProbeWindows quota w.clock w.obs stored)
  | .rebind i b =>
    if (w.roster i).isSome then { w with roster := Function.update w.roster i (some b) } else w
  | .enroll i b => { w with roster := Function.update w.roster i (some b) }
  | .withdraw i => { w with roster := Function.update w.roster i none }
  | .cancel i => w.cancel i
  | .activate i => { w with cancelled := Function.update w.cancelled i false }
  | .discard i stored =>
    if (w.roster i).isNone && w.cancelled i then w.setSlot i ((w.slots i).remove stored) else w
  | .crash reads => w.crash reads

/-- The activation POST of an event, if any; one that fails may have gone out. -/
def posted (w : World) : Event → Option (AuthInstanceID × ProbeAttempt)
  | .work n o =>
    (w.workers n).bind fun k =>
      if o ≠ .withheld ∧ w.live n = true ∧ k.pos = .sending then some (k.inst, k.attempt) else none
  | _ => none

def initial (now : Time) : World where
  clock := now
  config := { defaultConfig with enableResetProbe := true }
  fence := 0
  attemptSeq := 0
  slots := fun _ => {}
  persistPending := fun _ => false
  roster := fun _ => none
  cancelled := fun _ => false
  publications := fun _ => none
  pass := none
  workers := fun _ => none
  jobs := 0

end World

end QuotaScheduler.ProbeRuntime

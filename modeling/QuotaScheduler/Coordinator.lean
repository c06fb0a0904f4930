/- The command loop of the coordinator: jobs, queues and leases (coordinator.go). -/

import QuotaScheduler.Identity
import QuotaScheduler.Lib.Runs
import QuotaScheduler.Lib.Tables

namespace QuotaScheduler.Coordinator

open Identity Lib.Tables

inductive OperationClass
  | legacyRefresh
  | quotaRead
  | probePrecheck
  | probeVerify
  | probeSequence
  | probeSend
  deriving DecidableEq

/-- The sources of `formalSource`; every other text is `other`. -/
inductive Source
  | legacyEnvelope
  | schedulerInitial
  | schedulerInterval
  | schedulerStaleRecovery
  | manualRefresh
  | probeStartup
  | probePrecheck
  | probeActivation
  | probeVerify
  | other
  deriving DecidableEq

structure Intent where
  authID : String := ""
  inst : AuthInstanceID
  generation : Nat
  cls : OperationClass
  source : Source
  startedAfter : Nat := 0
  attemptID : String := ""
  token : ExecutionToken
  deriving DecidableEq

inductive ResultDisposition
  | unset
  | applied
  | discardedStale
  | cancelled
  deriving DecidableEq

inductive OperationError
  | worker
  | deadlineExceeded
  | canceled
  | apply
  | callback
  | inherit
  deriving DecidableEq

/-- The fields of `OperationResult` the loop uses; `hostLogs` tells whether the journal has any. -/
structure OperationResult where
  value : Nat := 0
  err : Option OperationError := none
  token : ExecutionToken
  probeSendPhase : Bool := false
  suppressUntil : Time := .zero
  disposition : ResultDisposition := .unset
  hostLogs : Bool := false
  callbackFailed : Bool := false
  deriving DecidableEq

structure OperationKey where
  inst : AuthInstanceID
  cls : OperationClass
  generation : Nat
  attemptID : String
  nonce : Nat
  deriving DecidableEq

/-- `coordinatorJob`; a started job has a context and a held lease. -/
structure Job where
  key : OperationKey
  intent : Intent
  future : Option OperationResult := none
  started : Bool := false
  ctxCancelled : Bool := false
  probeSent : Bool := false
  suppressUntil : Time := .zero
  expired : Bool := false
  invalidated : Bool := false

structure DrainReport where
  completed : Nat := 0
  cancelled : Nat := 0
  invalidated : Nat := 0
  sentUnknown : Nat := 0
  persistenceFailures : Nat := 0
  handoffBlocked : Bool := false
  deriving DecidableEq

/-- The variables of `loop`; jobs are numbered as accepted. The last four record results sent to
itself, log dispatches, calls of `Apply` and completions. -/
structure LoopState where
  accepting : Bool := true
  jobs : Nat → Job
  nextJob : Nat := 0
  inflight : AList (fun _ : OperationKey => Nat) := ∅
  leases : AuthInstanceID → Option Nat := fun _ => none
  queue : AList (fun _ : AuthInstanceID => List Nat) := ∅
  completedFence : AuthInstanceID → Nat := fun _ => 0
  instanceGeneration : AuthInstanceID → Nat := fun _ => 0
  cancelledThrough : AuthInstanceID → Option Nat := fun _ => none
  cancelTokens : AuthInstanceID → Nat := fun _ => 0
  cancelNonce : Nat := 0
  drains : List DrainReport := []
  posted : List (Nat × OperationResult) := []
  launched : List Nat := []
  applied : List Nat := []
  completions : List (Nat × OperationResult) := []

namespace LoopState

def queueOf (s : LoopState) (inst : AuthInstanceID) : List Nat := (s.queue.lookup inst).getD []

def inFlight (s : LoopState) (j : Nat) : Bool :=
  decide (s.inflight.lookup (s.jobs j).key = some j)

def modifyJob (s : LoopState) (j : Nat) (f : Job → Job) : LoopState :=
  { s with jobs := Function.update s.jobs j (f (s.jobs j)) }

/-- `completeFuture` on each of the jobs; the first completion of a future stays. -/
def complete (s : LoopState) (js : List Nat) (result : Job → OperationResult) : LoopState :=
  { s with
    jobs := fun m => if m ∈ js then
        { s.jobs m with future := some ((s.jobs m).future.getD (result (s.jobs m))) }
      else s.jobs m
    completions := js.map (fun m => (m, result (s.jobs m))) ++ s.completions }

def raiseFence (s : LoopState) (inst : AuthInstanceID) (fence : Nat) : LoopState :=
  { s with completedFence :=
      Function.update s.completedFence inst (max (s.completedFence inst) fence) }

def tryStart (s : LoopState) (inst : AuthInstanceID) : LoopState :=
  if !s.accepting then s
  else if (s.leases inst).isSome then s
  else
    match s.queueOf inst with
    | [] => { s with queue := s.queue.erase inst }
    | j :: rest =>
      let intent := (s.jobs j).intent
      if intent.cls = .legacyRefresh ∧ s.completedFence inst < intent.startedAfter then s
      else
        { s with
          queue := s.queue.insert inst rest
          leases := Function.update s.leases intent.inst (some j) }.modifyJob j
          fun job => { job with started := true }

def finishDrains (s : LoopState) : LoopState :=
  if s.inflight.entries.isEmpty then { s with drains := [] } else s

def reportDrains (s : LoopState) (f : DrainReport → DrainReport) : LoopState :=
  { s with drains := s.drains.map f }

def keyOf (intent : Intent) (nonce : Nat) : OperationKey where
  inst := intent.inst
  cls := intent.cls
  generation := intent.generation
  attemptID := intent.attemptID
  nonce := if intent.cls = .probeSend then nonce else 0

def refuses (s : LoopState) (intent : Intent) : Bool :=
  !s.accepting || (s.cancelledThrough intent.inst).isSome || decide (intent.source = .other) ||
    (decide (intent.source = .legacyEnvelope) && decide (intent.cls ≠ .legacyRefresh))

/-- The job whose future the submission gets; `none` is a refusal. -/
def reply (s : LoopState) (intent : Intent) (nonce : Nat) : Option Nat :=
  match s.inflight.lookup (keyOf intent nonce) with
  | some j => some j
  | none => if s.refuses intent then none else some s.nextJob

def accept (s : LoopState) (intent : Intent) (key : OperationKey) : LoopState :=
  { s with
    jobs := Function.update s.jobs s.nextJob { key := key, intent := intent }
    nextJob := s.nextJob + 1
    inflight := s.inflight.insert key s.nextJob
    queue := s.queue.insert intent.inst (s.queueOf intent.inst ++ [s.nextJob])
    instanceGeneration := Function.update s.instanceGeneration intent.inst
      (max (s.instanceGeneration intent.inst) intent.generation) }

def submit (s : LoopState) (intent : Intent) (nonce : Nat) : LoopState :=
  match s.inflight.lookup (keyOf intent nonce) with
  | some _ => s
  | none =>
    if s.refuses intent then s else (s.accept intent (keyOf intent nonce)).tryStart intent.inst

def retire (s : LoopState) (j : Nat) (result : OperationResult) : LoopState :=
  let inst := (s.jobs j).intent.inst
  { s with
    inflight := s.inflight.erase (s.jobs j).key
    leases := if s.leases inst = some j then Function.update s.leases inst none
      else s.leases }.complete [j] fun _ => result

/-- `expireCommand`; `inheritFails` is the answer of `InheritSentUnknown`. -/
def expire (s : LoopState) (j : Nat) (inheritFails : Bool) : LoopState :=
  let job := s.jobs j
  if !job.started || !s.inFlight j || job.expired then s
  else
    let inst := job.intent.inst
    let failed := job.probeSent && inheritFails
    let result : OperationResult :=
      { token := job.intent.token
        probeSendPhase := job.probeSent
        suppressUntil := job.suppressUntil
        err := some (if failed then .inherit else .deadlineExceeded)
        disposition := .discardedStale }
    let s := s.modifyJob j fun job => { job with expired := true, ctxCancelled := true }
    let s := (s.retire j result).raiseFence inst job.intent.token.fence
    let s := s.reportDrains fun d =>
      { d with
        completed := d.completed + 1
        invalidated := d.invalidated + 1
        sentUnknown := if job.probeSent && !failed then d.sentUnknown + 1 else d.sentUnknown
        persistenceFailures := if failed then d.persistenceFailures + 1 else d.persistenceFailures
        handoffBlocked := d.handoffBlocked || failed }
    (s.tryStart inst).finishDrains

structure Answers where
  validates : Bool
  applyFails : Bool := false
  inheritFails : Bool := false

def withProbe (job : Job) (result : OperationResult) : OperationResult :=
  { result with
    probeSendPhase := result.probeSendPhase || job.probeSent
    suppressUntil := max result.suppressUntil job.suppressUntil }

def valid (s : LoopState) (j : Nat) (result : OperationResult) (answers : Answers) : Bool :=
  let job := s.jobs j
  !job.expired && !job.invalidated && !result.callbackFailed &&
    decide (result.token = job.intent.token) && answers.validates

def delivers (s : LoopState) (j : Nat) : Bool := (s.jobs j).started && s.inFlight j

def result (s : LoopState) (j : Nat) (result : OperationResult) (answers : Answers) : LoopState :=
  if !s.delivers j then s
  else
    let job := s.jobs j
    let inst := job.intent.inst
    let result := withProbe job result
    let valid := s.valid j result answers
    if valid && result.hostLogs then { s with launched := j :: s.launched }
    else if valid && !answers.applyFails then
      let s := { s with applied := j :: s.applied }
      let s := (s.retire j { result with disposition := .applied }).raiseFence inst
        result.token.fence
      let s := s.reportDrains fun d => { d with completed := d.completed + 1 }
      (s.tryStart inst).finishDrains
    else
      let failed := result.probeSendPhase && answers.inheritFails
      let err := if failed then some .inherit else if valid then some .apply else result.err
      let s := if valid then { s with applied := j :: s.applied } else s
      let s := (s.retire j { result with disposition := .discardedStale, err := err }).raiseFence
        inst job.intent.token.fence
      let s := s.reportDrains fun d =>
        { d with
          completed := d.completed + 1
          invalidated := d.invalidated + 1
          sentUnknown := if result.probeSendPhase && !failed then d.sentUnknown + 1
            else d.sentUnknown
          persistenceFailures := if failed then d.persistenceFailures + 1
            else d.persistenceFailures
          handoffBlocked := d.handoffBlocked || failed }
      (s.tryStart inst).finishDrains

/-- `logCallbackCommand`: the result, without its logs, goes back into the channel. -/
def logCallback (s : LoopState) (j : Nat) (result : OperationResult) (fails : Bool) : LoopState :=
  if !s.delivers j then s
  else
    { s with posted := (j, { result with
        hostLogs := false
        callbackFailed := fails
        err := if fails then some .callback else result.err }) :: s.posted }

def cancelledResult (job : Job) : OperationResult :=
  { token := job.intent.token, err := some .canceled, disposition := .cancelled }

def dropFromFlight (s : LoopState) (js : List Nat) : AList (fun _ : OperationKey => Nat) :=
  dropAll (fun j => (s.jobs j).key) s.inflight js

def invalidate (s : LoopState) (js : List Nat) : LoopState :=
  { s with jobs := fun m => if m ∈ js then { s.jobs m with invalidated := true } else s.jobs m }

def cancelQueue (s : LoopState) (inst : AuthInstanceID) : LoopState :=
  let js := s.queueOf inst
  let s := { s with inflight := s.dropFromFlight js, queue := s.queue.erase inst }
  (s.invalidate js).complete js cancelledResult

def cancelLease (s : LoopState) (inst : AuthInstanceID) : LoopState :=
  match s.leases inst with
  | none => s
  | some j =>
    (s.modifyJob j fun job =>
      { job with invalidated := true, ctxCancelled := true }).retire j (cancelledResult (s.jobs j))

def cancelInstance (s : LoopState) (inst : AuthInstanceID) : LoopState :=
  let s := { s with
    cancelNonce := s.cancelNonce + 1
    cancelTokens := Function.update s.cancelTokens inst (s.cancelNonce + 1)
    cancelledThrough := Function.update s.cancelledThrough inst
      (some (s.instanceGeneration inst)) }
  (s.cancelQueue inst).cancelLease inst

def cancel (s : LoopState) (instances : List AuthInstanceID) : LoopState :=
  (instances.foldl cancelInstance s).finishDrains

def uncancel (s : LoopState) (inst : AuthInstanceID) : LoopState :=
  { s with
    cancelledThrough := Function.update s.cancelledThrough inst none
    cancelTokens := Function.update s.cancelTokens inst 0 }

def activateInstance (s : LoopState) (g : AuthInstanceID × Nat) : LoopState :=
  let s := { s with
    instanceGeneration :=
      Function.update s.instanceGeneration g.1 (max (s.instanceGeneration g.1) g.2) }
  if (s.cancelledThrough g.1).getD 0 < g.2 then s.uncancel g.1 else s

def activate (s : LoopState) (generations : List (AuthInstanceID × Nat)) : LoopState :=
  generations.foldl activateInstance s

def restoreInstance (s : LoopState) (g : AuthInstanceID × Nat × Nat) : LoopState :=
  if (s.cancelledThrough g.1).getD 0 = g.2.1 ∧ s.cancelTokens g.1 = g.2.2 then s.uncancel g.1
  else s

def restore (s : LoopState) (generations : List (AuthInstanceID × Nat × Nat)) : LoopState :=
  generations.foldl restoreInstance s

def queuedJobs (s : LoopState) : List Nat := s.queue.entries.flatMap fun e => e.2

def stopRemaining (s : LoopState) : LoopState :=
  let js := s.inflight.entries.map fun e => e.2
  { s with jobs := fun m => if m ∈ js ∧ (s.jobs m).started = true then
      { s.jobs m with ctxCancelled := true, invalidated := true } else s.jobs m }

def drain (s : LoopState) : LoopState :=
  let js := s.queuedJobs
  let s := { s with accepting := false, inflight := s.dropFromFlight js, queue := ∅ }
  let s := s.complete js cancelledResult
  let stopped := s.inflight.entries.countP fun e => (s.jobs e.2).started
  let s := s.stopRemaining
  if s.inflight.entries.isEmpty then s
  else
    { s with drains := s.drains ++
        [{ cancelled := js.length + stopped, completed := js.length }] }

end LoopState

open LoopState

/-- The commands in the channel, a worker marking its probe as sent, and a log dispatch at its call.
-/
inductive Event
  | submit (intent : Intent) (nonce : Nat)
  | expire (j : Nat) (inheritFails : Bool)
  | result (j : Nat) (result : OperationResult) (answers : Answers)
  | logCallback (j : Nat) (result : OperationResult) (fails : Bool)
  | cancel (instances : List AuthInstanceID)
  | activate (generations : List (AuthInstanceID × Nat))
  | restore (generations : List (AuthInstanceID × Nat × Nat))
  | drain
  | markProbeSent (j : Nat) (suppressUntil : Time)
  | dispatchLogs (j : Nat)

def step (s : LoopState) : Event → LoopState
  | .submit intent nonce => s.submit intent nonce
  | .expire j inheritFails => s.expire j inheritFails
  | .result j result answers => s.result j result answers
  | .logCallback j result fails => s.logCallback j result fails
  | .cancel instances => s.cancel instances
  | .activate generations => s.activate generations
  | .restore generations => s.restore generations
  | .drain => s.drain
  | .markProbeSent j suppressUntil =>
    if (s.jobs j).started then
      s.modifyJob j fun job =>
        { job with
          probeSent := true
          suppressUntil := max job.suppressUntil suppressUntil }
    else s
  | .dispatchLogs j => { s with launched := s.launched.erase j }

def initial (unused : Job) : LoopState := { jobs := fun _ => unused }

end QuotaScheduler.Coordinator

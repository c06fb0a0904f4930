/- The loop with its channel, callers, workers, timers and logs (coordinator.go). -/

import QuotaScheduler.Coordinator

namespace QuotaScheduler.CoordinatorSystem

open Coordinator Coordinator.LoopState

/-- The commands of the methods that hold `lifecycleMu`; one of `SubmitTyped` carries its entry. -/
inductive Request
  | submit (intent : Intent) (entry : Option Nat)
  | snapshot
  | cancel (instances : List AuthInstanceID)
  | activate (generations : List (AuthInstanceID × Nat))
  | restore (generations : List (AuthInstanceID × Nat × Nat))
  deriving DecidableEq

inductive Command
  | request (q : Request)
  | expire (j : Nat)
  | result (j : Nat) (r : OperationResult)
  | logCallback (j : Nat) (r : OperationResult) (fails : Bool)
  | drain
  deriving DecidableEq

def commandBuffer : Nat := 128

/-- `typedReadEntry`. A future is known by its job; a refusal's is completed, and `none`. -/
structure ReadEntry where
  cls : OperationClass
  attemptID : String
  seq : Nat := 0
  done : Bool := false
  future : Option Nat := none

/-- The goroutine of `start`: before `AllocateReadSeq`, in `Execute`, and at its send. -/
inductive WorkerPhase
  | starting
  | executing
  | sending (r : OperationResult)
  deriving DecidableEq

/-- A method that holds `lifecycleMu`, sends its command and awaits the reply (a submission's
future). -/
structure LifecycleCall where
  request : Request
  sent : Bool := false
  reply : Option (Option Nat) := none

structure TypedCall where
  entry : Nat
  intent : Intent
  submitted : Bool := false
  reply : Option (Option Nat) := none

inductive CloseStage
  | running
  | closing
  | drained
  | closed
  deriving DecidableEq

structure World where
  loop : LoopState
  channel : List Command := []
  /-- The result the loop is about to send into its own channel. -/
  resending : Option (Nat × OperationResult) := none
  workers : List Nat := []
  phase : Nat → WorkerPhase := fun _ => .starting
  entryOf : Nat → Option Nat := fun _ => none
  timers : List Nat := []
  logs : Nat → OperationResult := fun _ => { token := ⟨0, 0, 0, 0⟩ }
  lifecycle : Option LifecycleCall := none
  typed : Option TypedCall := none
  typedNonce : Nat := 0
  entries : Nat → ReadEntry := fun _ => { cls := .quotaRead, attemptID := "" }
  typedReads : AuthInstanceID → List Nat := fun _ => []
  /-- The cancels that are answered and have not cleared their typed reads. -/
  clears : List (List AuthInstanceID) := []
  stage : CloseStage := .running
  exited : Bool := false

namespace World

def closing (w : World) : Bool := decide (w.stage ≠ .running)

def room (w : World) : Bool := decide (w.channel.length < commandBuffer)

def push (w : World) (c : Command) : World := { w with channel := w.channel ++ [c] }

def setEntry (w : World) (n : Nat) (f : ReadEntry → ReadEntry) : World :=
  { w with entries := Function.update w.entries n (f (w.entries n)) }

def setPhase (w : World) (j : Nat) (p : WorkerPhase) : World :=
  { w with phase := Function.update w.phase j p }

/-- A method takes `lifecycleMu`; it returns at once if the coordinator is closing. -/
def call (w : World) (q : Request) : World :=
  if w.lifecycle.isSome || w.closing then w else { w with lifecycle := some { request := q } }

def isTypedRead (cls : OperationClass) : Bool :=
  decide (cls = .quotaRead) || decide (cls = .probePrecheck) || decide (cls = .probeVerify)

def liveReads (w : World) (inst : AuthInstanceID) : List Nat :=
  (w.typedReads inst).filter fun n => !(w.entries n).done

def joins (intent : Intent) (entry : ReadEntry) : Bool :=
  (decide (intent.startedAfter < entry.seq) ||
    decide (entry.seq = 0 ∧ intent.startedAfter = 0 ∧ entry.cls = intent.cls)) &&
  (decide (intent.cls ≠ .probeVerify) || decide (entry.attemptID = "") ||
    decide (entry.attemptID = intent.attemptID))

/-- The entry whose future `SubmitTyped` returns, if it submits no read of its own. -/
def joined (w : World) (intent : Intent) : Option Nat :=
  (w.liveReads intent.inst).find? fun n => joins intent (w.entries n)

def callTyped (w : World) (intent : Intent) : World :=
  if isTypedRead intent.cls then
    if w.typed.isSome then w
    else
      let w := { w with
        typedReads := Function.update w.typedReads intent.inst (w.liveReads intent.inst) }
      match w.joined intent with
      | some n =>
        w.setEntry n fun entry =>
          if intent.cls = .probeVerify ∧ entry.attemptID = "" then
            { entry with attemptID := intent.attemptID }
          else entry
      | none =>
        let n := w.typedNonce + 1
        { w with
          typedNonce := n
          entries := Function.update w.entries n
            { cls := intent.cls, attemptID := intent.attemptID }
          typed := some
            { entry := n, intent := { intent with attemptID := "read-" ++ toString n } } }
  else if intent.cls = .probeSend then
    let n := w.typedNonce + 1
    let w := { w with typedNonce := n }
    w.call (.submit { intent with attemptID := intent.attemptID ++ "#" ++ toString n } none)
  else w.call (.submit intent none)

def submitTyped (w : World) : World :=
  match w.typed with
  | none => w
  | some t =>
    if t.submitted then w
    else if w.closing then { w with typed := some { t with submitted := true, reply := some none } }
    else if w.lifecycle.isSome then w
    else
      { w with
        typed := some { t with submitted := true }
        lifecycle := some { request := .submit t.intent (some t.entry) } }

def send (w : World) : World :=
  match w.lifecycle with
  | none => w
  | some l =>
    if l.sent || !w.room then w
    else { w.push (.request l.request) with lifecycle := some { l with sent := true } }

def callReturn (w : World) : World :=
  match w.lifecycle with
  | none => w
  | some l =>
    match l.reply with
    | none => w
    | some f =>
      let w := { w with lifecycle := none }
      match l.request with
      | .submit _ (some n) =>
        { w with typed := w.typed.map fun t =>
            if t.entry = n then { t with reply := some f } else t }
      | .cancel instances => { w with clears := instances :: w.clears }
      | _ => w

/-- `SubmitTyped` enters its read in the table and gives `typedMu` back. -/
def typedReturn (w : World) : World :=
  match w.typed with
  | none => w
  | some t =>
    match t.reply with
    | none => w
    | some f =>
      let w := w.setEntry t.entry fun entry => { entry with future := f }
      { w with
        typed := none
        typedReads := Function.update w.typedReads t.intent.inst
          (w.typedReads t.intent.inst ++ [t.entry]) }

def clearTypedReads (w : World) (instances : List AuthInstanceID) : World :=
  if w.typed.isSome || !w.clears.contains instances then w
  else
    { w with
      clears := w.clears.erase instances
      entries := fun n =>
        if instances.any fun i => (w.typedReads i).contains n then
          { w.entries n with done := true }
        else w.entries n
      typedReads := fun i => if i ∈ instances then [] else w.typedReads i }

def drainLegacy (w : World) : World := if w.room then w.push .drain else w

def close (w : World) : World :=
  match w.stage with
  | .running => if w.lifecycle.isSome then w else { w with stage := .closing }
  | .closing => if w.room then { w.push .drain with stage := .drained } else w
  | .drained => { w with stage := .closed }
  | .closed => w

def launch (w : World) (before : LoopState) (inst : AuthInstanceID) : World :=
  if w.loop.leases inst = before.leases inst then w
  else
    match w.loop.leases inst with
    | none => w
    | some j => { w.setPhase j .starting with workers := j :: w.workers, timers := j :: w.timers }

def answer (w : World) (f : Option Nat) : World :=
  { w with lifecycle := w.lifecycle.map fun l => { l with reply := some f } }

def serve (w : World) : Request → World
  | .submit intent entry =>
    let nonce := if intent.cls = .probeSend then w.typedNonce + 1 else w.typedNonce
    let f := w.loop.reply intent nonce
    let w' := { w with
      loop := step w.loop (.submit intent nonce)
      typedNonce := nonce
      entryOf := if f = some w.loop.nextJob then Function.update w.entryOf w.loop.nextJob entry
        else w.entryOf }
    (w'.answer f).launch w.loop intent.inst
  | .snapshot => w.answer none
  | .cancel instances => { w with loop := step w.loop (.cancel instances) }.answer none
  | .activate generations => { w with loop := step w.loop (.activate generations) }.answer none
  | .restore generations => { w with loop := step w.loop (.restore generations) }.answer none

def handle (w : World) (answers : Answers) : Command → World
  | .request q => w.serve q
  | .expire j =>
    { w with loop := step w.loop (.expire j answers.inheritFails) }.launch w.loop
      (w.loop.jobs j).intent.inst
  | .result j r =>
    let w' := { w with
      loop := step w.loop (.result j r answers)
      logs := Function.update w.logs j (withProbe (w.loop.jobs j) r) }
    w'.launch w.loop (w.loop.jobs j).intent.inst
  | .logCallback j r fails =>
    let loop := step w.loop (.logCallback j r fails)
    { w with
      loop := loop
      resending := if w.loop.delivers j then loop.posted.head? else none }
  | .drain => { w with loop := step w.loop .drain }

def receive (w : World) (answers : Answers) : World :=
  if w.exited || w.resending.isSome then w
  else
    match w.channel with
    | [] => w
    | c :: rest => { w with channel := rest }.handle answers c

def resend (w : World) : World :=
  match w.resending with
  | none => w
  | some (j, r) => if w.room then { w.push (.result j r) with resending := none } else w

/-- The jobs in flight are stopped and completed; the maps go with the loop. -/
def shutDown (l : LoopState) : LoopState :=
  let js := l.inflight.entries.map fun e => e.2
  let l := { l with
    jobs := fun m => if m ∈ js ∧ (l.jobs m).started = true then
      { l.jobs m with ctxCancelled := true } else l.jobs m
    inflight := ∅
    queue := ∅
    leases := fun _ => none }
  l.complete js fun _ =>
    { token := ⟨0, 0, 0, 0⟩, err := some .canceled, disposition := .cancelled }

def exit (w : World) : World :=
  if w.exited || w.resending.isSome || decide (w.stage ≠ .closed) then w
  else { w with exited := true, loop := shutDown w.loop }

def allocate (w : World) (j : Nat) (seq : Option Nat) : World :=
  if j ∈ w.workers ∧ w.phase j = .starting then
    match w.entryOf j with
    | none => w.setPhase j .executing
    | some n =>
      match seq with
      | some seq => (w.setEntry n fun entry => { entry with seq := seq }).setPhase j .executing
      | none =>
        w.setPhase j (.sending { token := (w.loop.jobs j).intent.token, err := some .worker })
  else w

def finish (w : World) (j : Nat) (r : OperationResult) : World :=
  if j ∈ w.workers ∧ w.phase j = .executing then
    match w.entryOf j with
    | none => w.setPhase j (.sending r)
    | some n => (w.setEntry n fun entry => { entry with done := true }).setPhase j (.sending r)
  else w

def workerSend (w : World) (j : Nat) : World :=
  match w.phase j with
  | .sending r =>
    if j ∈ w.workers ∧ w.room = true then
      { w.push (.result j r) with workers := w.workers.erase j }
    else w
  | _ => w

def timer (w : World) (j : Nat) : World :=
  if j ∈ w.timers ∧ w.room = true then { w.push (.expire j) with timers := w.timers.erase j } else w

def logsSend (w : World) (j : Nat) (fails : Bool) : World :=
  if j ∈ w.loop.launched ∧ w.room = true then
    { w.push (.logCallback j (w.logs j) fails) with loop := step w.loop (.dispatchLogs j) }
  else w

/-- `DoHTTP` of the held lease is under way, in `Execute` or for its logs. -/
def holds (w : World) (j : Nat) : Bool :=
  decide (j ∈ w.workers) && decide (w.phase j = .executing) || decide (j ∈ w.loop.launched)

def markProbeSent (w : World) (j : Nat) (suppressUntil : Time) : World :=
  if w.holds j then { w with loop := step w.loop (.markProbeSent j suppressUntil) } else w

end World

open World

inductive Event
  | call (q : Request)
  | callTyped (intent : Intent)
  | submitTyped
  | send
  | callReturn
  | typedReturn
  | clearTypedReads (instances : List AuthInstanceID)
  | drainLegacy
  | close
  | receive (answers : Answers)
  | resend
  | exit
  | allocate (j : Nat) (seq : Option Nat)
  | finish (j : Nat) (r : OperationResult)
  | workerSend (j : Nat)
  | timer (j : Nat)
  | logsSend (j : Nat) (fails : Bool)
  | markProbeSent (j : Nat) (suppressUntil : Time)
  | doHTTP (j : Nat)

def Request.typed : Request → Bool
  | .submit _ entry => entry.isSome
  | _ => false

/-- One step of one of them; a step that is not enabled changes nothing. -/
def World.step (w : World) : Event → World
  | .call q => if q.typed then w else w.call q
  | .callTyped intent => w.callTyped intent
  | .submitTyped => w.submitTyped
  | .send => w.send
  | .callReturn => w.callReturn
  | .typedReturn => w.typedReturn
  | .clearTypedReads instances => w.clearTypedReads instances
  | .drainLegacy => w.drainLegacy
  | .close => w.close
  | .receive answers => w.receive answers
  | .resend => w.resend
  | .exit => w.exit
  | .allocate j seq => w.allocate j seq
  | .finish j r => w.finish j r
  | .workerSend j => w.workerSend j
  | .timer j => w.timer j
  | .logsSend j fails => w.logsSend j fails
  | .markProbeSent j suppressUntil => w.markProbeSent j suppressUntil
  | .doHTTP _ => w

def World.initial (unused : Job) : World := { loop := Coordinator.initial unused }

/-- The last check of the context in `DoHTTP` passes, and the call begins. -/
def HTTPBegins (w : World) (e : Event) (j : Nat) : Prop :=
  e = .doHTTP j ∧ w.holds j = true ∧ (w.loop.jobs j).ctxCancelled = false

end QuotaScheduler.CoordinatorSystem

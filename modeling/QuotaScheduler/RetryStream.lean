/- One request of the retry chain (retry_runtime.go), against any behaviour of the host. -/

import QuotaScheduler.FrameAssembler
import QuotaScheduler.RetryChain

namespace QuotaScheduler.RetryStream

open Lib.ByteStrings RetryFrames FrameAssembler RetryChain

/-- An error of a host call: its status, zero without one, and its text. -/
structure HostError where
  status : Int := 0
  text : Bytes

def classifyRetryStatus (status : Int) : RetryClassification :=
  let reason := "upstream status " ++ toString status
  if status ∈ retryableStatuses.map Int.ofNat then
    { retryable := true
      kind := if status = 429 then .rateLimit else .overload
      reason := reason
      status := status.toNat }
  else { reason := reason, status := status.toNat }

def classifyAttemptError (e : HostError) : RetryClassification :=
  if 0 < e.status then classifyRetryStatus e.status else classifyRetryFailure e.text

def retryFailureText (raw : Bytes) (classification : RetryClassification) : Bytes :=
  let trimmed := trimSpace raw
  let text := if trimmed.isEmpty then ascii "upstream failure" else trimmed
  let reason := ascii classification.reason
  if reason.isEmpty then text
  else if contains (toLower text) (toLower reason) then text
  else text ++ ascii " (" ++ reason ++ ascii ")"

structure AttemptResult where
  retryable : Bool := false
  reason : Bytes := []
  kind : RetryFailureKind := .none
  status : Nat := 0
  held : List Bytes := []
  heldFailure : Bool := false

def failed (classified : RetryClassification) (text : Bytes) (held : List Bytes) :
    AttemptResult where
  retryable := classified.retryable
  reason := retryFailureText text classified
  kind := classified.kind
  status := classified.status
  held := held

inductive OpenAnswer
  | error (e : HostError)
  | undecodable (text : Bytes)
  | response (status : Int) (streamID : Bytes)

def openNestedStream (answer : OpenAnswer) : Option AttemptResult :=
  match answer with
  | .error e => some (failed (classifyAttemptError e) e.text [])
  | .undecodable text =>
    some { reason := ascii "decode host model stream response: " ++ text, kind := .transport }
  | .response status streamID =>
    if 400 ≤ status then
      let classified := classifyRetryStatus status
      some
        { retryable := classified.retryable
          reason := ascii ("upstream status " ++ toString status)
          kind := classified.kind
          status := status.toNat }
    else if (trimSpace streamID).isEmpty then
      some
        { retryable := true
          kind := .transport
          reason := ascii "host model stream bridge returned an empty stream id" }
    else none

structure Chunk where
  payload : Bytes := []
  error : Bytes := []
  done : Bool := false

inductive ReadAnswer
  | error (e : HostError)
  | chunk (c : Chunk)

/-- The terminators in a payload, and what is behind the last; fuel for its bytes. -/
def terminators : Nat → Bytes → Nat × Bytes
  | 0, tail => (0, tail)
  | n + 1, tail =>
    match index blank tail with
    | none => (0, tail)
    | some i => ((terminators n (tail.drop (i + 2))).1 + 1, (terminators n (tail.drop (i + 2))).2)

def countSSEFrames (payload : Bytes) : Nat :=
  let r := terminators payload.length payload
  if (trimSpace r.2).isEmpty then r.1 else r.1 + 1

structure RetryHoldBuffer where
  payloads : List Bytes := []
  bytes : Nat := 0
  frames : Nat := 0

def RetryHoldBuffer.add (b : RetryHoldBuffer) (payload : Bytes) : RetryHoldBuffer where
  payloads := b.payloads ++ [payload]
  bytes := b.bytes + payload.length
  frames := b.frames + countSSEFrames payload

/-- The settings of a request; `stallText` is the stall timeout as `fmt` prints it. -/
structure RetrySettings where
  retryShadow : Bool := false
  retryStallTimeout : Duration
  stallText : Bytes := []
  retryHoldTimeout : Duration
  retryChainDeadline : Duration
  retryMaxFrames : Int
  retryMaxBytes : Int

def RetryHoldBuffer.overBudget (b : RetryHoldBuffer) (cfg : RetrySettings) : Bool :=
  (decide (0 < cfg.retryMaxFrames) && decide (cfg.retryMaxFrames < b.frames)) ||
    (decide (0 < cfg.retryMaxBytes) && decide (cfg.retryMaxBytes < b.bytes))

/-- A request for `runRetryChain`, with the plan that `executedPlan` finds for it. -/
structure Request where
  cfg : RetrySettings
  plan : RetryPlan
  protocol : String

def Request.classifier (r : Request) : Protocol :=
  if r.protocol = "claude" then .claude
  else if r.protocol = "openai" then .openAI
  else .responses

structure Holding where
  attempt : Nat
  deadline : Time
  holdDeadline : Time
  hold : RetryHoldBuffer := {}
  pending : Bytes := []

/-- Where the request is; `closed` keeps the attempt that ended normally. -/
inductive Phase
  | entering
  | choosing (attempt : Nat) (deadline : Time) (last : AttemptResult)
  | opening (attempt : Nat) (deadline : Time)
  | holding (h : Holding)
  | reading (h : Holding)
  | flushing (attempt : Nat) (payload : Bytes) (rest : List Bytes)
  | committing (attempt : Nat)
  | forwarding (attempt : Nat)
  | passing (attempt : Nat) (payload : Bytes) (done : Bool)
  | failing (payload : Bytes) (rest : List Bytes) (result : AttemptResult)
  | shadowOpening
  | shadowLoop
  | shadowReading
  | shadowPassing (payload : Bytes) (done : Bool)
  | closed (normal : Option Nat)

def Phase.returned : Phase → Bool
  | .closed _ => true
  | _ => false

inductive Act
  | opened (attempt : Nat)
  | delivered (attempt : Nat) (payload : Bytes)
  | emitted (payload : Bytes)
  | closed (message : Bytes)
  deriving DecidableEq

/-- A request in progress; `abandoned`: the attempts with a read timed out and not yet answered. -/
structure Chain where
  phase : Phase := .entering
  trace : List Act := []
  abandoned : List Nat := []

inductive Event
  | begin (now : Time)
  | next (now : Time)
  | opened (answer : OpenAnswer) (now : Time)
  | checked (ctxErr : Option Bytes) (now : Time)
  | read (answer : ReadAnswer)
  | timedOut
  | emitted (err : Option Bytes)
  | late (attempt : Nat) (answer : ReadAnswer)

namespace Chain

/-- A payload has come from the host; an empty one is none. -/
def deliver (w : Chain) (attempt : Nat) (payload : Bytes) : Chain :=
  if payload.isEmpty then w else { w with trace := w.trace ++ [.delivered attempt payload] }

/-- `emitPluginStream`: the payload is handed to the host, whatever it answers. -/
def emit (w : Chain) (payload : Bytes) : Chain :=
  { w with trace := w.trace ++ [.emitted payload] }

def close (w : Chain) (message : Bytes) (normal : Option Nat) : Chain :=
  { w with phase := .closed normal, trace := w.trace ++ [.closed (trimSpace message)] }

/-- `finishFailedAttempt`, with the payloads it still has to replay. -/
def finishFailedAttempt (w : Chain) (rest : List Bytes) (flushed : Bool) (result : AttemptResult) :
    Chain :=
  match rest with
  | [] => w.close (if flushed && result.heldFailure then [] else result.reason) none
  | payload :: rest => { w with phase := .failing payload rest result }

def conclude (w : Chain) (attempt : Nat) (deadline : Time) (result : AttemptResult) : Chain :=
  if result.retryable then { w with phase := .choosing (attempt + 1) deadline result }
  else w.finishFailedAttempt result.held false result

/-- `forwardCommitted`, with the payloads it still has to flush. -/
def forwardCommitted (w : Chain) (attempt : Nat) (rest : List Bytes) : Chain :=
  match rest with
  | [] => { w with phase := .committing attempt }
  | payload :: rest => { w with phase := .flushing attempt payload rest }

def heldChunk (r : Request) (w : Chain) (h : Holding) (c : Chunk) : Chain :=
  if !c.error.isEmpty then
    w.conclude h.attempt h.deadline (failed (classifyRetryFailure c.error) c.error h.hold.payloads)
  else if !c.payload.isEmpty then
    let hold := h.hold.add c.payload
    match absorb r.classifier h.pending c.payload with
    | (_, some verdict) =>
      if verdict.disposition = .failure then
        w.conclude h.attempt h.deadline
          { failed verdict.failure c.payload hold.payloads with heldFailure := true }
      else w.forwardCommitted h.attempt hold.payloads
    | (pending, none) =>
      if hold.overBudget r.cfg || c.done then w.forwardCommitted h.attempt hold.payloads
      else { w with phase := .holding { h with hold := hold, pending := pending } }
  else if c.done then w.forwardCommitted h.attempt h.hold.payloads
  else { w with phase := .holding h }

def forwardedChunk (w : Chain) (attempt : Nat) (c : Chunk) : Chain :=
  if !c.error.isEmpty then w.close c.error none
  else if !c.payload.isEmpty then { w with phase := .passing attempt c.payload c.done }
  else if c.done then w.close [] (some attempt)
  else { w with phase := .forwarding attempt }

def shadowChunk (w : Chain) (c : Chunk) : Chain :=
  if !c.error.isEmpty then w.close c.error none
  else if !c.payload.isEmpty then { w with phase := .shadowPassing c.payload c.done }
  else if c.done then w.close [] (some 0)
  else { w with phase := .shadowLoop }

def read (r : Request) (w : Chain) (answer : ReadAnswer) : Chain :=
  match w.phase with
  | .reading h =>
    match answer with
    | .error e =>
      w.conclude h.attempt h.deadline (failed (classifyAttemptError e) e.text h.hold.payloads)
    | .chunk c => heldChunk r (w.deliver h.attempt c.payload) h c
  | .forwarding attempt =>
    match answer with
    | .error e => w.close e.text none
    | .chunk c => (w.deliver attempt c.payload).forwardedChunk attempt c
  | .shadowReading =>
    match answer with
    | .error e => w.close e.text none
    | .chunk c => (w.deliver 0 c.payload).shadowChunk c
  | _ => w

/-- The read in flight outlasts its timeout; its goroutine still waits. -/
def timedOut (r : Request) (w : Chain) : Chain :=
  match w.phase with
  | .reading h =>
    let w := { w with abandoned := h.attempt :: w.abandoned }
    if h.hold.payloads.isEmpty then
      w.conclude h.attempt h.deadline
        { retryable := true
          kind := .transport
          reason := ascii "no upstream output within the " ++ r.cfg.stallText ++
            ascii " stall timeout" }
    else w.forwardCommitted h.attempt h.hold.payloads
  | .shadowReading =>
    -- a timeout that is not positive blocks
    if 0 < r.cfg.retryStallTimeout then
      { w with abandoned := 0 :: w.abandoned }.close
        (ascii "upstream stalled for " ++ r.cfg.stallText) none
    else w
  | _ => w

def emitted (w : Chain) (err : Option Bytes) : Chain :=
  match w.phase with
  | .flushing attempt payload rest =>
    let w := w.emit payload
    match err with
    | some text => w.close text none
    | none => w.forwardCommitted attempt rest
  | .passing attempt payload done =>
    let w := w.emit payload
    match err with
    | some text => w.close text none
    | none => if done then w.close [] (some attempt) else { w with phase := .forwarding attempt }
  | .failing payload rest result =>
    let w := w.emit payload
    match err with
    | some text => w.close text none
    | none => w.finishFailedAttempt rest true result
  | .shadowPassing payload done =>
    let w := w.emit payload
    match err with
    | some text => w.close text none
    | none => if done then w.close [] (some 0) else { w with phase := .shadowLoop }
  | _ => w

/-- The top of a loop, or of the forwarding: the context, and the time left to hold. -/
def checked (r : Request) (w : Chain) (ctxErr : Option Bytes) (now : Time) : Chain :=
  match w.phase with
  | .holding h =>
    match ctxErr with
    | some text => w.conclude h.attempt h.deadline { reason := text, kind := .transport }
    | none =>
      if r.cfg.retryStallTimeout ≤ 0 ∨ h.holdDeadline - now ≤ 0 then
        w.forwardCommitted h.attempt h.hold.payloads
      else { w with phase := .reading h }
  | .committing attempt =>
    match ctxErr with
    | some text => w.close text none
    | none => { w with phase := .forwarding attempt }
  | .shadowLoop =>
    match ctxErr with
    | some text => w.close text none
    | none => { w with phase := .shadowReading }
  | _ => w

def begin (r : Request) (w : Chain) (now : Time) : Chain :=
  match w.phase with
  | .entering =>
    if r.protocol = "" then w.close (ascii "retry chain: request has no source protocol") none
    else if r.cfg.retryShadow then
      { w with phase := .shadowOpening, trace := w.trace ++ [.opened 0] }
    else { w with phase := .choosing 0 (now + r.cfg.retryChainDeadline) {} }
  | _ => w

def next (r : Request) (w : Chain) (now : Time) : Chain :=
  match w.phase with
  | .choosing attempt deadline last =>
    if r.plan.targetCount ≤ attempt ∨ r.plan.target attempt = none ∨ deadline - now ≤ 0 then
      w.finishFailedAttempt last.held false last
    else { w with phase := .opening attempt deadline, trace := w.trace ++ [.opened attempt] }
  | _ => w

def opened (r : Request) (w : Chain) (answer : OpenAnswer) (now : Time) : Chain :=
  match w.phase with
  | .opening attempt deadline =>
    match openNestedStream answer with
    | some result => w.conclude attempt deadline result
    | none =>
      { w with
        phase := .holding
          { attempt := attempt, deadline := deadline,
            holdDeadline := min (now + r.cfg.retryHoldTimeout) deadline } }
  | .shadowOpening =>
    match openNestedStream answer with
    | some result => w.close result.reason none
    | none => { w with phase := .shadowLoop }
  | _ => w

/-- An abandoned read is answered; nobody takes the answer. -/
def late (w : Chain) (attempt : Nat) (answer : ReadAnswer) : Chain :=
  if attempt ∈ w.abandoned then
    match answer with
    | .error _ => { w with abandoned := w.abandoned.erase attempt }
    | .chunk c => { w with abandoned := w.abandoned.erase attempt }.deliver attempt c.payload
  else w

end Chain

def step (r : Request) (w : Chain) (e : Event) : Chain :=
  match e with
  | .begin now => w.begin r now
  | .next now => w.next r now
  | .opened answer now => w.opened r answer now
  | .checked ctxErr now => w.checked r ctxErr now
  | .read answer => w.read r answer
  | .timedOut => w.timedOut r
  | .emitted err => w.emitted err
  | .late attempt answer => w.late attempt answer

end QuotaScheduler.RetryStream

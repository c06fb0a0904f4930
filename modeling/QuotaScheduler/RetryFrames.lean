/- What the retry chain makes of one frame (retry_classify.go, retry_frames.go). -/

import QuotaScheduler.Lib.JsonText

namespace QuotaScheduler.RetryFrames

open Lib.ByteStrings Lib.JsonText

def formatInt (value : Int) : Bytes :=
  if value = 0 then ascii "0"
  else if value = -(2 ^ 63 : Int) then ascii "-"
  else
    let digits := (Nat.toDigits 10 value.natAbs).map fun c => c.toNat.toUInt8
    if value < 0 then ascii "-" ++ digits else digits

def valueAt : Json → List Bytes → Option Json
  | v, [] => some v
  | .object members, key :: path =>
    match member members key with
    | some v => valueAt v path
    | none => none
  | _, _ :: _ => none

def stringField (body : Json) (path : List Bytes) : Bytes :=
  if decodes body then
    match valueAt body path with
    | some (.string s) => s
    | some (.number text) =>
      match int64Of text with
      | some n => formatInt n
      | none => []
    | _ => []
  else []

def jsonStringField (body : Bytes) (path : List Bytes) : Bytes :=
  match parse body with
  | some v => stringField v path
  | none => []

/-- `jsonField`, of a value that has been parsed; a raw value is never empty. -/
def field (data : Json) (name : Bytes) : Option Json :=
  match data with
  | .object members => member members name
  | _ => none

def jsonField (data name : Bytes) : Option Json :=
  match parse data with
  | some v => field v name
  | none => none

inductive RetryFailureKind
  | none
  | capacity
  | overload
  | rateLimit
  | httpStatus
  | transport
  deriving DecidableEq, Repr

structure RetryClassification where
  retryable : Bool := false
  kind : RetryFailureKind := .none
  reason : String := ""
  status : Nat := 0
  deriving DecidableEq

def retryableStatuses : List Nat := [429, 500, 502, 503, 504, 529]

def retryTransportMarkers : List String :=
  ["connection reset", "connection refused", "broken pipe", "unexpected eof", "i/o timeout",
    "deadline exceeded", "context deadline", "no such host", "tls handshake", "transport failure",
    "stream closed before", "upstream stream closed"]

/-- The bytes up to the end of the first object, brackets inside strings apart. -/
def objectEnd : Bytes → Nat → Bool → Bool → Option Nat
  | [], _, _, _ => none
  | b :: s, depth, inString, escaped =>
    let rest := fun depth inString escaped => (objectEnd s depth inString escaped).map (· + 1)
    if inString then
      if escaped then rest depth true false
      else if b = 92 then rest depth true true
      else if b = 34 then rest depth false false
      else rest depth true false
    else if b = 34 then rest depth true false
    else if b = 123 then rest (depth + 1) false false
    else if b = 125 then if depth = 1 then some 1 else rest (depth - 1) false false
    else rest depth false false

def extractJSONErrorObject (text : Bytes) : Bytes :=
  let trimmed := trimSpace text
  if (ascii "\x7b").isPrefixOf trimmed && valid trimmed then trimmed
  else
    match index (ascii "\x7b") trimmed with
    | none => []
    | some start =>
      match objectEnd (trimmed.drop start) 0 false false with
      | none => []
      | some n =>
        let candidate := (trimmed.drop start).take n
        if valid candidate then candidate else []

def firstNonEmpty (values : List Bytes) : Bytes :=
  (values.find? fun value => !(trimSpace value).isEmpty).getD []

def isModelCapacityText (text : Bytes) : Bool :=
  contains text (ascii "model is at capacity") || contains text (ascii "model_at_capacity") ||
    contains text (ascii "model_is_at_capacity") || contains text (ascii "at capacity") ||
    (contains text (ascii "model") && contains text (ascii "capacity"))

def numericTokens (text : Bytes) : List (List Nat) :=
  ((runes text).splitOnP fun r => !isDigit r).filter fun token => !token.isEmpty

def tokenStatus (token : List Nat) : UInt64 :=
  token.foldl (fun status digit => status * 10 + (digit - 48).toUInt64) 0

def retryableStatusInText (text : Bytes) : Option Nat :=
  ((numericTokens text).map fun token => (tokenStatus token).toNat).find? fun status =>
    retryableStatuses.contains status

def transportMarkerInText (text : Bytes) : Option String :=
  retryTransportMarkers.find? fun marker => contains text (ascii marker)

def classifyRetryFailure (text : Bytes) : RetryClassification :=
  let trimmed := trimSpace text
  if trimmed.isEmpty then { reason := "empty failure text" }
  else
    let body := extractJSONErrorObject trimmed
    let nested := fun (name : String) =>
      firstNonEmpty [jsonStringField body [ascii "error", ascii name],
        jsonStringField body [ascii "response", ascii "error", ascii name]]
    let errorType := toLower (trimSpace (nested "type"))
    let errorCode := toLower (trimSpace (nested "code"))
    let message := toLower (trimSpace (nested "message"))
    let errorMessage :=
      if message.isEmpty then toLower (trimSpace (jsonStringField body [ascii "message"]))
      else message
    let topType := toLower (trimSpace (jsonStringField body [ascii "type"]))
    let topCode := toLower (trimSpace (jsonStringField body [ascii "code"]))
    let lower := toLower trimmed
    if isModelCapacityText errorMessage || isModelCapacityText lower then
      { retryable := true, kind := .capacity, reason := "model at capacity" }
    else if errorType = ascii "service_unavailable_error" ∨
        errorCode = ascii "server_is_overloaded" then
      { retryable := true, kind := .overload, reason := "server overloaded" }
    else if errorType = ascii "rate_limit_error" ∨ errorCode = ascii "rate_limit_exceeded" then
      { retryable := true, kind := .rateLimit, reason := "rate limited" }
    else if (errorType = ascii "server_error" ∨ errorCode = ascii "server_error") ∧
        contains errorMessage (ascii "you can retry your request") = true then
      { retryable := true, kind := .overload, reason := "server error with retry hint" }
    else if errorType = ascii "overloaded_error" ∨ topType = ascii "overloaded_error" ∨
        errorCode = ascii "overloaded_error" then
      { retryable := true, kind := .overload, reason := "overloaded" }
    else if errorCode = ascii "resource_exhausted" ∨ topCode = ascii "resource_exhausted" then
      { retryable := true, kind := .overload, reason := "resource exhausted" }
    else
      match retryableStatusInText lower with
      | some status =>
        { retryable := true, kind := .httpStatus, reason := "upstream status", status := status }
      | none =>
        match transportMarkerInText lower with
        | some marker => { retryable := true, kind := .transport, reason := marker }
        | none => { reason := "unrecognized failure" }

inductive FrameDisposition
  | handshake
  | content
  | terminal
  | failure
  deriving DecidableEq, Repr

structure FrameVerdict where
  disposition : FrameDisposition
  failure : RetryClassification := {}
  deriving DecidableEq

/-- The protocols `classifyFrame` tells apart; the responses and codex formats are read alike. -/
inductive Protocol
  | claude
  | openAI
  | responses
  deriving DecidableEq, Repr

def splitLine (acc : Bytes × Bytes × Bool) (line : Bytes) : Bytes × Bytes × Bool :=
  let line := trimRight cr line
  if line.isEmpty then acc
  else if (ascii "event:").isPrefixOf line then (trimSpace (line.drop 6), acc.2)
  else if (ascii "data:").isPrefixOf line then
    let data := if acc.2.1.isEmpty then acc.2.1 else acc.2.1 ++ [lf]
    (acc.1, data ++ trimSpace (line.drop 5), true)
  else acc

def splitSSEFrame (frame : Bytes) : Bytes × Bytes × Bool :=
  (frame.splitOn lf).foldl splitLine ([], [], false)

def isControlLine (line : Bytes) : Bool :=
  (ascii ":").isPrefixOf line || (ascii "event:").isPrefixOf line ||
    (ascii "id:").isPrefixOf line ||
    (ascii "retry:").isPrefixOf line || (ascii "comment:").isPrefixOf line

def isSSEControlFrame (frame : Bytes) : Bool :=
  let lines := ((frame.splitOn lf).map fun line => trimSpace (trimRight cr line)).filter fun line =>
    !line.isEmpty
  !lines.isEmpty && lines.all isControlLine

def objectsOf (v : Json) : Option (List (List (Bytes × Json))) :=
  match v with
  | .null => some []
  | .array items =>
    if decodesItems items then
      items.mapM fun item =>
        match item with
        | .object members => some members
        | .null => some []
        | _ => none
    else none
  | _ => none

def textOf (members : List (Bytes × Json)) (name : String) : Option Bytes :=
  match member members (ascii name) with
  | some (.string s) => some s
  | _ => none

def isTextType (type : Bytes) : Bool :=
  [ascii "output_text", ascii "summary_text", ascii "text", ascii "reasoning_text"].contains type

def isEmptyContentList (raw : Option Json) : Bool :=
  match raw with
  | none => true
  | some v =>
    match objectsOf v with
    | none => false
    | some entries =>
      entries.all fun entry =>
        let entryType := (textOf entry "type").getD []
        if isTextType entryType then ((textOf entry "text").getD []).isEmpty
        else if entryType = ascii "refusal" then ((textOf entry "refusal").getD []).isEmpty
        else false

def isBufferableOutputItem (data : Bytes) : Bool :=
  match jsonField data (ascii "item") with
  | none => false
  | some item =>
    let type := trimSpace (stringField item [ascii "type"])
    let blank := fun (name : String) => (trimSpace (stringField item [ascii name])).isEmpty
    if type = ascii "message" then isEmptyContentList (field item (ascii "content"))
    else if type = ascii "reasoning" then
      blank "encrypted_content" && isEmptyContentList (field item (ascii "summary")) &&
        isEmptyContentList (field item (ascii "content"))
    else if type = ascii "function_call" then blank "arguments"
    else if type = ascii "custom_tool_call" then blank "input"
    else false

def isBufferablePart (data : Bytes) : Bool :=
  match jsonField data (ascii "part") with
  | none => false
  | some part =>
    let type := trimSpace (stringField part [ascii "type"])
    if isTextType type then (trimSpace (stringField part [ascii "text"])).isEmpty
    else if type = ascii "refusal" then (trimSpace (stringField part [ascii "refusal"])).isEmpty
    else false

def messageOf (choice : List (Bytes × Json)) : Option (List (Bytes × Json)) :=
  match member choice (ascii "message") with
  | some (.object message) => some message
  | _ =>
    match member choice (ascii "delta") with
    | some (.object delta) => some delta
    | _ => none

def choiceHasContent (choice : List (Bytes × Json)) : Bool :=
  if (textOf choice "finish_reason").any fun finish => !(trimSpace finish).isEmpty then true
  else
    match messageOf choice with
    | none => false
    | some message =>
      ((textOf message "content").any fun content => !content.isEmpty) ||
        (match member message (ascii "tool_calls") with
          | some (.array calls) => !calls.isEmpty
          | _ => false) ||
        (match member message (ascii "function_call") with
          | some (.object call) => !call.isEmpty
          | _ => false) ||
        (textOf message "refusal").any fun refusal => !refusal.isEmpty

def hasChatCompletionContent (choices : Json) : Bool :=
  match objectsOf choices with
  | none => true
  | some parsed => parsed.any choiceHasContent

def responsesFailure (data : Bytes) : Option RetryClassification :=
  if equalFold (trimSpace (jsonStringField data [ascii "type"])) (ascii "response.failed") then
    some (classifyRetryFailure data)
  else if (jsonField data (ascii "error")).isSome then some (classifyRetryFailure data)
  else none

def classifyResponsesFrame (data : Bytes) : FrameVerdict :=
  match responsesFailure data with
  | some failure => ⟨.failure, failure⟩
  | none =>
    let eventType := trimSpace (jsonStringField data [ascii "type"])
    if [ascii "response.created", ascii "response.in_progress", ascii "response.queued",
        ascii "keepalive", ascii "codex.rate_limits"].contains eventType then ⟨.handshake, {}⟩
    else if eventType = ascii "response.output_item.added" then
      if isBufferableOutputItem data then ⟨.handshake, {}⟩ else ⟨.content, {}⟩
    else if eventType = ascii "response.content_part.added" ∨
        eventType = ascii "response.reasoning_summary_part.added" then
      if isBufferablePart data then ⟨.handshake, {}⟩ else ⟨.content, {}⟩
    else if eventType = ascii "response.completed" ∨ eventType = ascii "response.incomplete" then
      ⟨.terminal, {}⟩
    else ⟨.content, {}⟩

def classifyClaudeFrame (eventName data : Bytes) : FrameVerdict :=
  let type := trimSpace (jsonStringField data [ascii "type"])
  let eventType := if type.isEmpty then eventName else type
  if eventType = ascii "error" then ⟨.failure, classifyRetryFailure data⟩
  else if [ascii "ping", ascii "message_start", ascii "content_block_start",
      ascii "content_block_stop", ascii "message_delta"].contains eventType then
    if (jsonField data (ascii "error")).isSome then ⟨.failure, classifyRetryFailure data⟩
    else ⟨.handshake, {}⟩
  else if eventType = ascii "message_stop" then ⟨.terminal, {}⟩
  else ⟨.content, {}⟩

def classifyChatCompletionFrame (data : Bytes) : FrameVerdict :=
  if (jsonField data (ascii "error")).isSome then ⟨.failure, classifyRetryFailure data⟩
  else
    match jsonField data (ascii "choices") with
    | some choices =>
      if hasChatCompletionContent choices then ⟨.content, {}⟩ else ⟨.handshake, {}⟩
    | none => ⟨.content, {}⟩

def isResponsesEventBody (data : Bytes) : Bool :=
  let eventType := trimSpace (jsonStringField data [ascii "type"])
  !eventType.isEmpty &&
    ((ascii "response.").isPrefixOf eventType || (ascii "codex.").isPrefixOf eventType)

def classifyFrame (frame : Bytes) (protocol : Protocol) : FrameVerdict :=
  let (eventName, data, found) := splitSSEFrame frame
  if !found && isSSEControlFrame frame then ⟨.handshake, {}⟩
  else
    let trimmedData := trimSpace (if found then data else frame)
    if trimmedData.isEmpty then ⟨.handshake, {}⟩
    else if trimmedData = ascii "[DONE]" then ⟨.terminal, {}⟩
    else if !valid trimmedData then ⟨.content, {}⟩
    else if isResponsesEventBody trimmedData then classifyResponsesFrame trimmedData
    else
      match protocol with
      | .claude => classifyClaudeFrame eventName trimmedData
      | .openAI => classifyChatCompletionFrame trimmedData
      | .responses => classifyResponsesFrame trimmedData

end QuotaScheduler.RetryFrames

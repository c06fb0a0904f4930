/- The reset that a failed request reports in its body (usage.go). -/

import QuotaScheduler.Lib.JsonText
import QuotaScheduler.PluginRuntime

namespace QuotaScheduler.UsageFailures

open Account (QuotaFailureEvent)
open Lib.ByteStrings Lib.JsonText PluginRuntime

structure QuotaFailureDetails where
  type : Bytes := []
  resetsAt : Option Json := none
  resetsInSeconds : Option Json := none

structure QuotaFailureBody extends QuotaFailureDetails where
  error : Option QuotaFailureDetails := none

def decodeDetail (d : QuotaFailureDetails) (member : Bytes × Json) : Option QuotaFailureDetails :=
  let named := fun name => equalFold member.1 (ascii name)
  if named "type" then
    match member.2 with
    | .string s => some { d with type := s }
    | .null => some d
    | _ => none
  else if named "resets_at" then some { d with resetsAt := some member.2 }
  else if named "resets_in_seconds" then some { d with resetsInSeconds := some member.2 }
  else some d

def decodeMember (body : QuotaFailureBody) (member : Bytes × Json) : Option QuotaFailureBody :=
  if equalFold member.1 (ascii "error") then
    match member.2 with
    | .null => some { body with error := none }
    | .object members => do
      let d ← members.foldlM decodeDetail (body.error.getD {})
      return { body with error := some d }
    | _ => none
  else do
    let d ← decodeDetail body.toQuotaFailureDetails member
    return { body with toQuotaFailureDetails := d }

/-- The body as `json.Unmarshal` fills it; `none` is an error. -/
def unmarshalBody (text : Bytes) : Option QuotaFailureBody :=
  match parse text with
  | some (.object members) => members.foldlM decodeMember {}
  | some .null => some {}
  | _ => none

def parseJSONScalar : Option Json → Option Bytes
  | some (.string s) => if (trimSpace s).isEmpty then none else some (trimSpace s)
  | some (.number text) => some text
  | _ => none

/-- `strconv.ParseInt` in base ten with 64 bits. -/
def parseInt (s : Bytes) : Option Int :=
  let negative := s.head? == some 45
  let digits := if negative || s.head? == some 43 then s.drop 1 else s
  let v : Int := if negative then -natOfDigits digits else natOfDigits digits
  if !digits.isEmpty && digits.all isAsciiDigit && decide (-2 ^ 63 ≤ v) && decide (v < 2 ^ 63) then
    some v
  else none

def parseResetAt (parseTime : Bytes → Option Time) (raw : Option Json) : Option Time :=
  (parseJSONScalar raw).bind fun value =>
    parseTime value <|> (parseInt value).map fun unix => (62135596800 + unix) * second

def secondsOf (raw : Option Json) : Option Int := (parseJSONScalar raw).bind parseInt

/-- The product of two durations has 64 bits. -/
def parseResetSeconds (raw : Option Json) : Option Duration :=
  (secondsOf raw).map fun seconds => (seconds * second).bmod (2 ^ 64)

/-- The two places of a reset, in the order they are read. -/
def QuotaFailureBody.details (body : QuotaFailureBody) : List QuotaFailureDetails :=
  body.error.toList ++ [body.toQuotaFailureDetails]

def quotaFailureResetAt (parseTime : Bytes → Option Time) (body : QuotaFailureBody) (now : Time) :
    Option Time :=
  body.details.findSome? fun d =>
    parseResetAt parseTime d.resetsAt <|> (parseResetSeconds d.resetsInSeconds).map (now + ·)

def isUsageLimitReached (body : QuotaFailureBody) : Bool :=
  let reached := fun d : QuotaFailureDetails =>
    equalFold (trimSpace d.type) (ascii "usage_limit_reached")
  reached body.toQuotaFailureDetails || body.error.any reached

/-- A failed request as the host reports it; `parseTime` reads the times of RFC 3339. -/
structure FailedRequest where
  record : UsageRecord
  statusCode : Int
  body : Bytes

def FailedRequest.limit (parseTime : Bytes → Option Time) (now : Time) (f : FailedRequest) :
    Option (Option Time) := do
  let body ← if f.statusCode = 429 then unmarshalBody f.body else none
  if isUsageLimitReached body then some (quotaFailureResetAt parseTime body now) else none

def FailedRequest.detect (parseTime : Bytes → Option Time) (now : Time) (f : FailedRequest) :
    Option QuotaFailureEvent :=
  detectQuotaFailure { f.record with limit := f.limit parseTime now } now

/-- A usage limit without a readable `resets_at` that gives a delay in seconds. -/
structure FailedRequest.Delays (parseTime : Bytes → Option Time) (f : FailedRequest)
    (seconds : Int) : Prop where
  codex : f.record.provider = "codex" ∧ f.record.failed = true ∧ f.statusCode = 429
  body : ∃ body, unmarshalBody f.body = some body ∧ isUsageLimitReached body = true ∧
    (∀ d ∈ body.details, parseResetAt parseTime d.resetsAt = none) ∧
    (body.details.findSome? fun d => secondsOf d.resetsInSeconds) = some seconds
  nonneg : 0 ≤ seconds

variable {parseTime : Bytes → Option Time} {now : Time} {f f' : FailedRequest}
  {seconds seconds' : Int}

theorem findSome?_resetAt {details : List QuotaFailureDetails}
    (h : ∀ d ∈ details, parseResetAt parseTime d.resetsAt = none) :
    (details.findSome? fun d => parseResetAt parseTime d.resetsAt <|>
      (parseResetSeconds d.resetsInSeconds).map (now + ·)) =
      (details.findSome? fun d => secondsOf d.resetsInSeconds).map
        fun seconds => now + (seconds * second).bmod (2 ^ 64) := by
  induction details with
  | nil => rfl
  | cons d details ih =>
    obtain ⟨hd, hdetails⟩ := List.forall_mem_cons.mp h
    simp only [List.findSome?_cons, hd, parseResetSeconds]
    cases secondsOf d.resetsInSeconds with
    | none => exact ih hdetails
    | some seconds => rfl

theorem FailedRequest.Delays.resetAt (h : f.Delays parseTime seconds) :
    ∃ event, f.detect parseTime now = some event ∧
      event.resetAt = now + (seconds * second).bmod (2 ^ 64) := by
  obtain ⟨⟨hprovider, hfailed, hstatus⟩, ⟨body, hbody, hlimit, hno, hseconds⟩, -⟩ := h
  have hreset : quotaFailureResetAt parseTime body now =
      some (now + (seconds * second).bmod (2 ^ 64)) := by
    rw [quotaFailureResetAt, findSome?_resetAt hno, hseconds, Option.map_some]
  refine ⟨⟨f.record.authID, f.record.authIndex, _, "usage_limit_reached"⟩, ?_, rfl⟩
  simp [detect, limit, detectQuotaFailure, hprovider, hfailed, hstatus, hbody, hlimit, hreset]

theorem bmod_seconds (hnonneg : 0 ≤ seconds) (hbound : seconds ≤ 9223372036) :
    (seconds * second).bmod (2 ^ 64) = seconds * second := by
  refine Int.bmod_eq_of_le ?_ ?_
  · simp only [second]
    omega
  · simp only [second]
    omega

/-- Delays of at most 9223372036 seconds, the most a `time.Duration` holds, lead to resets that are
not in the past and keep the order of the delays. -/
theorem resets_in_order (now : Time) (h : f.Delays parseTime seconds)
    (h' : f'.Delays parseTime seconds') (hle : seconds ≤ seconds')
    (hbound : seconds' ≤ 9223372036) :
    ∃ event event', f.detect parseTime now = some event ∧ f'.detect parseTime now = some event' ∧
      now ≤ event.resetAt ∧ event.resetAt ≤ event'.resetAt := by
  obtain ⟨event, hevent, hreset⟩ := h.resetAt
  obtain ⟨event', hevent', hreset'⟩ := h'.resetAt
  have hnonneg := h.nonneg
  refine ⟨event, event', hevent, hevent', ?_⟩
  rw [hreset, hreset', bmod_seconds hnonneg (hle.trans hbound), bmod_seconds h'.nonneg hbound]
  simp only [second, Time, Duration] at *
  omega

def limitReached (seconds : String) : FailedRequest where
  record := ⟨"codex", true, "a", "", none, none⟩
  statusCode := 429
  body := ascii ("\x7b\"type\":\"usage_limit_reached\",\"resets_in_seconds\":" ++ seconds ++ "\x7d")

theorem resets_of_shortest_and_longest : ∃ event event',
    (limitReached "60").detect (fun _ => none) hour = some event ∧
      (limitReached "9223372036").detect (fun _ => none) hour = some event' ∧
      hour ≤ event.resetAt ∧ event.resetAt ≤ event'.resetAt :=
  resets_in_order hour
    ⟨by decide, ⟨_, rfl, by decide +kernel, by decide +kernel, by decide +kernel⟩, by decide⟩
    ⟨by decide, ⟨_, rfl, by decide +kernel, by decide +kernel, by decide +kernel⟩, by decide⟩
    (show (60 : Int) ≤ 9223372036 by decide) (by decide)

theorem delay_in_the_past :
    ((limitReached "9223372037").detect (fun _ => none) hour).map
      (fun event => decide (event.resetAt < hour)) = some true := by decide +kernel

end QuotaScheduler.UsageFailures

/- schedulerPickPublished and its retry loop, run concurrently over one registry. -/

import QuotaScheduler.SelectionOrder

namespace QuotaScheduler.Pick

open Lib.RankSort Trial Selection

structure SchedulerPickRequest where
  provider : String
  providers : List String
  candidates : List Candidate

def requestIncludesCodex (req : SchedulerPickRequest) : Bool :=
  req.provider = "codex" || req.providers.any (· = "codex")

inductive SchedulerBuiltin
  | none
  | fillFirst
  deriving DecidableEq

structure PickDecision where
  authID : String := ""
  handled : Bool := false
  delegateBuiltin : SchedulerBuiltin := .none
  reason : String := ""
  unavailableSummary : String := ""
  deriving DecidableEq

def accountExclusionReason (a : AccountView) (now : Time) : String :=
  if a.authBlocked then "auth_failure"
  else if a.circuit = .opened then "circuit_open"
  else if a.circuit = .halfOpen then "circuit_half_open"
  else if a.temporaryUnavailable then "temporary_exhausted"
  else if a.trial ≠ .none then "trial_pending"
  else if a.exhausted && (a.resetAt.isZero || a.resetAt.after now) then "window_exhausted"
  else if a.cache = .stale && !a.lastKnownAvailable then "stale_quota"
  else "available"

def fallbackUnavailableSummary (snapshot : SchedulerSnapshot) (candidates : List Candidate)
    (now : Time) : String :=
  if candidates.all (fun c => !eligibleID snapshot candidates c.id) then "no ordered candidates"
  else
    let reasons := (passAccounts snapshot candidates []).map (accountExclusionReason · now)
    let parts := reasons.dedup.map fun r => r ++ "=" ++ toString (reasons.count r)
    ",".intercalate (sortSlice (fun a b => decide (a < b)) parts)

/-- Where the retry loop ended: its last pass, the skipped instances, its `TryBegin` outcomes,
latest first. -/
structure LoopEnd where
  views : List AccountView
  result : SelectionResult
  skipped : List AuthInstanceID
  attempts : List (AuthInstanceID × Bool)

def loopCondition (snapshot : SchedulerSnapshot) (now : Time) (e : LoopEnd)
    (again : LoopEnd → PickProg (Option LoopEnd)) : PickProg (Option LoopEnd) :=
  if e.result.authID ≠ "" ∧ e.result.cls = .opportunistic then
    if snapshot.trials then
      .call (.tryBegin e.result.inst now) fun
        | true => pure (some { e with attempts := (e.result.inst, true) :: e.attempts })
        | false => again { e with attempts := (e.result.inst, false) :: e.attempts }
    else again e
  else pure (some e)

def skipAndSelect (snapshot : SchedulerSnapshot) (candidates : List Candidate) (now : Time)
    (e : LoopEnd) : PickProg LoopEnd := do
  let skipped := e.result.inst :: e.skipped
  let pass ← selectAccountSkipping snapshot candidates now skipped
  pure { e with views := pass.1, result := pass.2, skipped := skipped }

/-- The retry loop with at most `fuel` rounds; `none` when they do not suffice. -/
def retryLoop (snapshot : SchedulerSnapshot) (candidates : List Candidate) (now : Time) :
    Nat → LoopEnd → PickProg (Option LoopEnd)
  | 0, e => loopCondition snapshot now e fun _ => pure none
  | fuel + 1, e => loopCondition snapshot now e fun e => do
    let e ← skipAndSelect snapshot candidates now e
    retryLoop snapshot candidates now fuel e

structure PickTrace where
  decision : PickDecision
  loop : Option LoopEnd

def decisionOf (snapshot : SchedulerSnapshot) (candidates : List Candidate) (now : Time)
    (result : SelectionResult) : PickDecision :=
  if result.authID ≠ "" then
    { authID := result.authID, handled := true, reason := "selected" }
  else if snapshot.fallback = .fillFirst then
    { handled := true, delegateBuiltin := .fillFirst, reason := result.reason
      unavailableSummary := fallbackUnavailableSummary snapshot candidates now }
  else { reason := result.reason }

/-- Hand the evidence intent over if the channel takes it without blocking. -/
def announceTrial (now : Time) (result : SelectionResult) : PickProg Unit :=
  if result.authID ≠ "" ∧ result.cls = .opportunistic then
    .call (.sendIntent ⟨result.authID, result.inst, now⟩) fun
      | true => .call (.markEvidencePending result.inst) fun _ => pure ()
      | false => pure ()
  else pure ()

/-- `schedulerPickPublished`; one round per eligible account suffices. -/
def schedulerPickPublished (published : Option SchedulerSnapshot) (req : SchedulerPickRequest)
    (now : Time) : PickProg PickTrace :=
  match published with
  | none => pure ⟨{ reason := "handle_disabled" }, none⟩
  | some snapshot =>
    if !requestIncludesCodex req then pure ⟨{ reason := "provider_not_codex" }, none⟩
    else if !snapshot.handleEnabled then pure ⟨{ reason := "handle_disabled" }, none⟩
    else do
      let pass ← selectAccountSkipping snapshot req.candidates now []
      let e ← retryLoop snapshot req.candidates now
        (passAccounts snapshot req.candidates []).length ⟨pass.1, pass.2, [], []⟩
      match e with
      | none => pure ⟨{}, none⟩
      | some e => do
        announceTrial now e.result
        pure ⟨decisionOf snapshot req.candidates now e.result, some e⟩

structure PickCall where
  published : Option SchedulerSnapshot
  req : SchedulerPickRequest
  now : Time

structure PickSys where
  shared : Shared
  picks : List (PickProg PickTrace)

inductive PickLabel
  | pick (i : Nat) (room : Bool)
  | evidence (id : AuthInstanceID) (kind : EvidenceKind)
  | retry (id : AuthInstanceID) (now : Time)

def PickSys.step (w : PickSys) : PickLabel → PickSys
  | .pick i room =>
    match w.picks[i]? with
    | none => w
    | some p =>
      let r := p.advance PickOp.exec room w.shared
      { shared := r.2, picks := w.picks.set i r.1 }
  | .evidence id kind =>
    { w with shared := { w.shared with trials := w.shared.trials.observeEvidence id kind } }
  | .retry id now =>
    { w with shared := { w.shared with trials := w.shared.trials.observeRetry id now } }

def runPicks (calls : List PickCall) (shared : Shared) (labels : List PickLabel) : PickSys :=
  labels.foldl PickSys.step
    ⟨shared, calls.map fun c => schedulerPickPublished c.published c.req c.now⟩

end QuotaScheduler.Pick

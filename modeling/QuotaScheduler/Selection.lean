/- Classification and choice of an account (selection.go). -/

import QuotaScheduler.Lib.RankSort
import QuotaScheduler.Lib.Resumable
import QuotaScheduler.Trial
import Mathlib.Data.Finset.Insert
import Mathlib.Data.Prod.Lex
import Mathlib.Data.String.Basic

namespace QuotaScheduler.Selection

open Lib.RankSort Lib.Resumable Trial

inductive AvailabilityClass
  | preferred
  | opportunistic
  | excluded
  deriving DecidableEq, Repr

inductive CacheClass
  | fresh
  | aging
  | unknown
  | stale
  deriving DecidableEq, Repr

inductive CircuitClass
  | closed
  | opened
  | halfOpen
  deriving DecidableEq, Repr

/-- `AccountView`; a used percentage of NaN, which a response header can hold, makes its floats NaN.
-/
structure AccountView where
  id : String
  authIndex : String
  inst : AuthInstanceID
  pluginPriority : Int
  cpaPriority : Int
  family : AccountFamily
  cache : CacheClass
  lastKnownAvailable : Bool
  exhausted : Bool
  resetAt : Time
  authBlocked : Bool
  circuit : CircuitClass
  temporaryUnavailable : Bool
  trial : TrialState
  expiry : Time
  remainingQuota : Float64
  quotaPressure : Float64
  deriving DecidableEq

structure Candidate where
  id : String
  provider : String
  deriving DecidableEq

/-- `SelectionResult`; an empty `authID` means that no account was found. -/
structure SelectionResult where
  authID : String := ""
  inst : AuthInstanceID := 0
  cls : AvailabilityClass := .preferred
  trial : Bool := false
  fallback : Bool := false
  evidenceSource : String := ""
  reason : String := ""
  ordered : List AccountView := []
  deriving DecidableEq

/-- `SchedulerSnapshot`; `trials`: there is a registry, whose content all picks share. -/
structure SchedulerSnapshot where
  handleEnabled : Bool
  fallback : FallbackMode
  monthlyMode : MonthlyMode
  accounts : List AccountView
  activeHighestTier : Finset String
  trials : Bool
  admissionVersion : Nat
  deriving DecidableEq

def classifyAccount (a : AccountView) (now : Time) : AvailabilityClass :=
  if a.authBlocked || a.circuit = .opened || a.temporaryUnavailable || a.trial ≠ .none then
    .excluded
  else if a.exhausted && a.resetAt.after now then .excluded
  else if a.cache = .fresh || a.cache = .aging then
    if !a.exhausted then .preferred else .opportunistic
  else if a.cache = .unknown || (a.cache = .stale && a.lastKnownAvailable) then .opportunistic
  else .excluded

def accountViewLess (a b : AccountView) (mode : MonthlyMode) : Bool :=
  if a.cpaPriority ≠ b.cpaPriority then decide (b.cpaPriority < a.cpaPriority)
  else if a.pluginPriority ≠ b.pluginPriority then decide (b.pluginPriority < a.pluginPriority)
  else if mode = .priority ∧ a.family ≠ b.family then decide (a.family = .monthly)
  else if !a.quotaPressure.eq b.quotaPressure then b.quotaPressure.lt a.quotaPressure
  else if a.expiry ≠ b.expiry then
    if a.expiry.isZero then false
    else if b.expiry.isZero then true
    else a.expiry.before b.expiry
  else if !a.remainingQuota.eq b.remainingQuota then b.remainingQuota.lt a.remainingQuota
  else decide (a.id < b.id)

/-- The `eligible` map of `selectAccountSkipping`. -/
def eligibleID (snapshot : SchedulerSnapshot) (candidates : List Candidate) (id : String) : Bool :=
  candidates.any fun c =>
    c.id ≠ "" && c.provider = "codex" && c.id ∈ snapshot.activeHighestTier && c.id = id

structure EvidenceIntent where
  authID : String
  inst : AuthInstanceID
  beganAt : Time
  deriving DecidableEq

/-- The atomic operations of a pick on what it shares with other picks. -/
inductive PickOp
  | advance (id : AuthInstanceID) (now : Time)
  | state (id : AuthInstanceID) (now : Time)
  | tryBegin (id : AuthInstanceID) (now : Time)
  | sendIntent (intent : EvidenceIntent)
  | markEvidencePending (id : AuthInstanceID)

def PickOp.Ans : PickOp → Type
  | .advance _ _ => Unit
  | .state _ _ => TrialState
  | .tryBegin _ _ => Bool
  | .sendIntent _ => Bool
  | .markEvidencePending _ => Unit

abbrev PickProg (α : Type) := Prog PickOp PickOp.Ans Empty α

structure Shared where
  trials : TrialRegistry
  intents : List EvidenceIntent

/-- `room` says whether the intent channel takes one more value without blocking. -/
def PickOp.exec : (op : PickOp) → (room : Bool) → Shared → op.Ans × Shared
  | .advance id now, _, s => ((), { s with trials := s.trials.advance id now })
  | .state id now, _, s => (s.trials.state id now, s)
  | .tryBegin id now, _, s =>
    ((s.trials.tryBegin id now).1, { s with trials := (s.trials.tryBegin id now).2 })
  | .sendIntent intent, true, s => (true, { s with intents := s.intents ++ [intent] })
  | .sendIntent _, false, s => (false, s)
  | .markEvidencePending id, _, s => ((), { s with trials := s.trials.markEvidencePending id true })

def observe (snapshot : SchedulerSnapshot) (now : Time) (a : AccountView) : PickProg AccountView :=
  if snapshot.trials then
    .call (.advance a.inst now) fun _ => .call (.state a.inst now) fun t =>
      pure { a with trial := t }
  else pure a

def observeAll (snapshot : SchedulerSnapshot) (now : Time) :
    List AccountView → PickProg (List AccountView)
  | [] => pure []
  | a :: rest => do
    let view ← observe snapshot now a
    let views ← observeAll snapshot now rest
    pure (view :: views)

def passAccounts (snapshot : SchedulerSnapshot) (candidates : List Candidate)
    (skip : List AuthInstanceID) : List AccountView :=
  snapshot.accounts.filter fun a => a.inst ∉ skip && eligibleID snapshot candidates a.id

def orderedClass (mode : MonthlyMode) (now : Time) (cls : AvailabilityClass)
    (views : List AccountView) : List AccountView :=
  sortSlice (fun a b => accountViewLess a b mode)
    (views.filter fun v => classifyAccount v now = cls)

/-- The end of `selectAccountSkipping`: the first preferred, else the first opportunistic account.
-/
def selectFrom (snapshot : SchedulerSnapshot) (now : Time) (views : List AccountView) :
    SelectionResult :=
  match orderedClass snapshot.monthlyMode now .preferred views with
  | a :: rest =>
    { authID := a.id, inst := a.inst, cls := .preferred, reason := "selected"
      ordered := a :: rest }
  | [] =>
    match orderedClass snapshot.monthlyMode now .opportunistic views with
    | a :: rest =>
      { authID := a.id, inst := a.inst, cls := .opportunistic, trial := true
        evidenceSource := "trial_evidence", reason := "selected", ordered := a :: rest }
    | [] =>
      { reason := "no_selectable_account", fallback := decide (snapshot.fallback = .fillFirst) }

/-- `selectAccountSkipping`, with the views it classified beside the result. -/
def selectAccountSkipping (snapshot : SchedulerSnapshot) (candidates : List Candidate)
    (now : Time) (skip : List AuthInstanceID) :
    PickProg (List AccountView × SelectionResult) := do
  let views ← observeAll snapshot now (passAccounts snapshot candidates skip)
  pure (views, selectFrom snapshot now views)

end QuotaScheduler.Selection

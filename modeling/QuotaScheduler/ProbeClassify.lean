/- Baselines of probe windows and their classification (probe.go, probe_classify.go). -/

import Mathlib.Algebra.Order.Group.Abs
import QuotaScheduler.Account

namespace QuotaScheduler.ProbeClassify

open Account

def probeSkewTolerance : Duration := 120 * second

def probeMaxPlausibleWindow : Duration := 120 * (24 * hour)

def probeUnknownResetRecheck : Duration := 30 * minute

def probeRefreshAfterResetDelay : Duration := minute

def resetProbeCloseThreshold : Duration := 3 * minute

inductive ProbeBaselineKind
  | none
  | reset
  | usageOnly
  deriving DecidableEq

structure ProbeBaseline where
  kind : ProbeBaselineKind := .none
  windowKind : WindowKind := .unset
  resetAt : Time := .zero
  usage : Float64 := 0
  nextRecheckAt : Time := .zero
  windowLength : Duration := 0
  candidateLength : Duration := 0
  stableIntervals : Nat := 0
  suspectedLazy : Bool := false
  deriving DecidableEq

def resetProbeBaseline (reset : Time) (usage : Float64) (length : Duration) : ProbeBaseline :=
  { kind := .reset, resetAt := reset, usage := usage, windowLength := length }

def usageOnlyProbeBaseline (usage : Float64) (next : Time) : ProbeBaseline :=
  { kind := .usageOnly, usage := usage, nextRecheckAt := next }

structure QuotaSnapshot where
  valid : Bool
  resetAt : Option Time
  usage : Option Float64
  windowKind : WindowKind
  windowLength : Duration
  windowLengthKnown : Bool
  deriving DecidableEq

inductive ProbeClassificationKind
  | invalid
  | activatedNew
  | activatedInferred
  | notDueYet
  | stillLazy
  | ambiguous
  | anomaly
  deriving DecidableEq

structure ProbeClassification where
  kind : ProbeClassificationKind
  baseline : ProbeBaseline
  deriving DecidableEq

/-- The least duration is its own negation. -/
def absDuration (d : Duration) : Duration :=
  if d < 0 then if d = minDuration then d else -d else d

def usageActivated (old new : Float64) : Bool := Float64.lt 0 old && new.eq 0

def implausibleReset (base : ProbeBaseline) (resetAt : Time) : Bool :=
  resetAt.before (base.resetAt - probeSkewTolerance) ||
    (decide (0 < base.windowLength) && decide (2 * base.windowLength < resetAt.sub base.resetAt)) ||
    (decide (base.windowLength = 0) && decide (probeMaxPlausibleWindow < resetAt.sub base.resetAt))

def firstResetBaseline (snap : QuotaSnapshot) (resetAt : Time) (usage : Float64) : ProbeBaseline :=
  { resetProbeBaseline resetAt usage (if snap.windowLengthKnown then snap.windowLength else 0) with
    windowKind := snap.windowKind }

def classifySuspected (base : ProbeBaseline) (resetAt : Option Time) (usage : Float64) :
    Option ProbeClassification :=
  match resetAt with
  | some reset =>
    if implausibleReset base reset then some ⟨.anomaly, base⟩
    else if reset.after (base.resetAt + probeSkewTolerance) then
      some ⟨.activatedNew, { base with resetAt := reset, usage := usage, suspectedLazy := false }⟩
    else if Float64.lt 0 usage then
      some ⟨.activatedInferred, { base with usage := usage, suspectedLazy := false }⟩
    else if absDuration (reset.sub base.resetAt) ≤ probeSkewTolerance then some ⟨.stillLazy, base⟩
    else none
  | none =>
    if Float64.lt 0 usage then
      some ⟨.activatedInferred, { base with usage := usage, suspectedLazy := false }⟩
    else none

def classifyFirstReset (snap : QuotaSnapshot) (reset : Time) (usage : Float64) (now : Time) :
    ProbeClassification :=
  ⟨if reset.after now then .notDueYet else .stillLazy, firstResetBaseline snap reset usage⟩

def classifyUsageOnly (base : ProbeBaseline) (snap : QuotaSnapshot) (usage : Float64) (now : Time) :
    ProbeClassification :=
  match snap.resetAt with
  | some reset => classifyFirstReset snap reset usage now
  | none =>
    if usageActivated base.usage usage then
      ⟨.activatedInferred,
        { base with
          usage := usage
          nextRecheckAt := now + probeUnknownResetRecheck
          suspectedLazy := false }⟩
    else if now.before base.nextRecheckAt then ⟨.notDueYet, base⟩
    else ⟨.notDueYet, { base with nextRecheckAt := now + probeUnknownResetRecheck }⟩

def learnLength (base : ProbeBaseline) (delta : Duration) : ProbeBaseline :=
  if base.windowLength = 0 then
    if 0 < base.candidateLength ∧ absDuration (base.candidateLength - delta) ≤
      probeSkewTolerance then
      { base with
        stableIntervals := base.stableIntervals + 1
        windowLength := if 2 ≤ base.stableIntervals + 1 then delta else base.windowLength }
    else { base with candidateLength := delta, stableIntervals := 1 }
  else base

def classifyMatured (base : ProbeBaseline) (resetAt : Option Time) (usage : Float64) (now : Time) :
    ProbeClassification :=
  if now.before (base.resetAt + probeRefreshAfterResetDelay) then ⟨.notDueYet, base⟩
  else
    match resetAt with
    | none =>
      if usageActivated base.usage usage then
        ⟨.activatedInferred, { base with usage := usage, suspectedLazy := false }⟩
      else ⟨.ambiguous, base⟩
    | some reset =>
      if absDuration (reset.sub base.resetAt) ≤ probeSkewTolerance ∧
          usageActivated base.usage usage = false then
        ⟨.stillLazy, base⟩
      else ⟨.ambiguous, base⟩

def classifyReset (base : ProbeBaseline) (resetAt : Option Time) (usage : Float64) (now : Time) :
    ProbeClassification :=
  match resetAt with
  | some reset =>
    if implausibleReset base reset then ⟨.anomaly, base⟩
    else if reset.after (base.resetAt + probeSkewTolerance) then
      ⟨.activatedNew,
        learnLength { base with resetAt := reset, usage := usage, suspectedLazy := false }
          (reset.sub base.resetAt)⟩
    else classifyMatured base resetAt usage now
  | none => classifyMatured base none usage now

def classifyProbeWindow (base : ProbeBaseline) (snap : QuotaSnapshot) (now : Time) :
    ProbeClassification :=
  match snap.valid, snap.usage with
  | true, some usage =>
    match if base.suspectedLazy then classifySuspected base snap.resetAt usage else none with
    | some c => c
    | none =>
      match base.kind with
      | .none =>
        match snap.resetAt with
        | none =>
          ⟨.notDueYet, usageOnlyProbeBaseline usage (now + probeUnknownResetRecheck)⟩
        | some reset => classifyFirstReset snap reset usage now
      | .usageOnly => classifyUsageOnly base snap usage now
      | .reset => classifyReset base snap.resetAt usage now
  | _, _ => ⟨.invalid, base⟩

def looksLikeStrictLazyObservation (observedAt : Time) (window : QuotaWindow)
    (length : Duration) : Bool :=
  decide (window.usedPercent = some 0) && !observedAt.isZero && !window.resetAt.isZero &&
    decide (0 < length) &&
    decide (absDuration (window.resetAt.sub (observedAt + length)) ≤ resetProbeCloseThreshold)

def probeWindowDuration (window : QuotaWindow) : Option Duration :=
  match window.limitWindowSeconds.filter (0 < ·) with
  | some s => some (s * second)
  | none =>
    match window.kind with
    | .fiveHour => some (5 * hour)
    | .weekly => some (7 * (24 * hour))
    | _ => none

/-- What the code takes for a reset at the time: one near it, or so early that `Time.Sub` saturates.
-/
theorem absDuration_sub_le_iff {t u : Time} {d : Duration} (h : 0 ≤ d) (hmax : d < maxDuration) :
    absDuration (t.sub u) ≤ d ↔ |t - u| ≤ d ∨ t - u ≤ minDuration := by
  simp only [absDuration, Time.sub, minDuration, maxDuration, abs_le, Time, Duration] at *
  split_ifs <;> omega

/-- `firstObservationLazyWindow`, whose duration the runtime does not use. -/
def firstObservationLazyWindow (observedAt : Time) (window : QuotaWindow) : Bool :=
  match probeWindowDuration window with
  | none => false
  | some duration =>
    decide (window.usedPercent = some 0) && !window.resetAt.isZero && decide (0 < duration) &&
      decide (absDuration (window.resetAt.sub (observedAt + duration)) ≤ resetProbeCloseThreshold)

end QuotaScheduler.ProbeClassify

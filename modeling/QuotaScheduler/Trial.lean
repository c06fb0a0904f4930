/- The trial registry of trial.go; each operation is atomic on one cell. -/

import QuotaScheduler.Models

namespace QuotaScheduler.Trial

def trialEvidencePendingGrace : Duration := 60 * second

def trialEvidenceBudget : Duration := 5 * minute

def trialEvidenceMaxRetries : Nat := 3

inductive TrialState
  | none
  | active
  | unknown
  deriving DecidableEq, Repr

inductive EvidenceKind
  | unknown
  | usageFeedback
  | reliableQuotaWriteback
  | requestSuccess
  deriving DecidableEq, Repr

structure TrialRecord where
  state : TrialState
  began : Time
  pending : Bool
  retries : Nat
  backoffs : Nat
  nextRetry : Time
  deriving DecidableEq, Repr

/-- `TrialRegistry`: one cell per instance; a cell never touched holds no record. -/
abbrev TrialRegistry := AuthInstanceID → Option TrialRecord

def newTrialRegistry : TrialRegistry := fun _ => none

def trialDelays : List Duration := [minute, 2 * minute, 5 * minute, 10 * minute, 15 * minute]

variable {n : Nat}

theorem trialDelays_pos : 0 < trialDelays.getD (min n 4) 0 := by
  have hcases : min n 4 = 0 ∨ min n 4 = 1 ∨ min n 4 = 2 ∨ min n 4 = 3 ∨ min n 4 = 4 := by omega
  rcases hcases with h | h | h | h | h <;> rw [h] <;> decide

def unknownTrial (v : TrialRecord) (now : Time) : TrialRecord :=
  { v with
    state := .unknown
    backoffs := v.backoffs + 1
    nextRetry := now + trialDelays.getD (min v.backoffs 4) 0 }

def TrialRecord.begin (old : Option TrialRecord) (now : Time) : Option TrialRecord :=
  match old with
  | none => some ⟨.active, now, false, 0, 0, Time.zero⟩
  | some v =>
    if v.state = .active || now.before v.nextRetry then none
    else some ⟨.active, now, false, 0, v.backoffs, Time.zero⟩

def TrialRecord.advance (v : TrialRecord) (now : Time) : TrialRecord :=
  if v.state = .active && (!now.before (v.began + trialEvidenceBudget) ||
        (!v.pending && !now.before (v.began + trialEvidencePendingGrace))) then
    unknownTrial v now
  else v

def TrialRecord.retry (v : TrialRecord) (now : Time) : TrialRecord :=
  let v := { v with retries := v.retries + 1 }
  if trialEvidenceMaxRetries ≤ v.retries then unknownTrial v now else v

def TrialRecord.stateAt (v : Option TrialRecord) (now : Time) : TrialState :=
  match v with
  | none => .none
  | some v => if v.state = .unknown && !now.before v.nextRetry then .none else v.state

theorem stateAt_unknownTrial (v : TrialRecord) (now : Time) :
    TrialRecord.stateAt (some (unknownTrial v now)) now = .unknown := by
  have hbefore : Time.before now (unknownTrial v now).nextRetry = true :=
    decide_eq_true (Int.lt_add_of_pos_right now trialDelays_pos)
  simp only [TrialRecord.stateAt, hbefore]
  simp [unknownTrial]

namespace TrialRegistry

def set (r : TrialRegistry) (id : AuthInstanceID) (v : Option TrialRecord) : TrialRegistry :=
  fun i => if i = id then v else r i

def tryBegin (r : TrialRegistry) (id : AuthInstanceID) (now : Time) : Bool × TrialRegistry :=
  match TrialRecord.begin (r id) now with
  | none => (false, r)
  | some v => (true, r.set id (some v))

def update (r : TrialRegistry) (id : AuthInstanceID) (f : TrialRecord → TrialRecord) :
    TrialRegistry :=
  r.set id ((r id).map f)

theorem update_self (r : TrialRegistry) (id : AuthInstanceID) (f : TrialRecord → TrialRecord) :
    r.update id f id = (r id).map f := if_pos rfl

def observeEvidence (r : TrialRegistry) (id : AuthInstanceID) (kind : EvidenceKind) :
    TrialRegistry :=
  match kind with
  | .unknown => r
  | _ => r.set id none

def markEvidencePending (r : TrialRegistry) (id : AuthInstanceID) (p : Bool) : TrialRegistry :=
  r.update id fun v => { v with pending := p }

def observeRetry (r : TrialRegistry) (id : AuthInstanceID) (now : Time) : TrialRegistry :=
  r.update id (·.retry now)

def advance (r : TrialRegistry) (id : AuthInstanceID) (now : Time) : TrialRegistry :=
  r.update id (·.advance now)

def state (r : TrialRegistry) (id : AuthInstanceID) (now : Time) : TrialState :=
  TrialRecord.stateAt (r id) now

end TrialRegistry

end QuotaScheduler.Trial

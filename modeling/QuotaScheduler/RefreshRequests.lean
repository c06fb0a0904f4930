/- The single flight of refreshes and the requests that meet one under way (refresh.go). -/

import QuotaScheduler.Lib.Runs

namespace QuotaScheduler.RefreshRequests

open Lib.Runs

/-- A due refresh: the admission version it was asked with, and the accounts it will find due. -/
structure DueRefresh where
  version : Nat
  accounts : List String
  deriving DecidableEq

inductive Refresh
  | one (authID : String)
  | all
  | due (refresh : DueRefresh)
  deriving DecidableEq

def Refresh.covers (authID : String) : Refresh → Bool
  | .one a => decide (a = authID)
  | .all => true
  | .due refresh => decide (authID ∈ refresh.accounts)

/-- The fields of `QuotaRefresher` for its refreshes; the one under way has the `clock` (requests
and ends) at its start. -/
structure Refresher where
  refreshing : Option (Refresh × Nat) := none
  pendingDue : Option DueRefresh := none
  stopping : Bool := false
  clock : Nat := 0
  deriving DecidableEq

namespace Refresher

variable (r : Refresher)

def start (refresh : Refresh) : Refresher := { r with refreshing := some (refresh, r.clock) }

/-- `RefreshOneSoon` and `RefreshSoon`; `allowed` is the answer of `normalBackgroundAllowed`. -/
def refreshSoon (allowed : Bool) (refresh : Refresh) : Refresher :=
  if !allowed || r.refreshing.isSome || r.stopping then r else r.start refresh

def refreshDueSoon (allowed : Bool) (refresh : DueRefresh) : Refresher :=
  if !allowed || r.stopping then r
  else if r.refreshing.isSome then
    if r.pendingDue.all fun pending => decide (pending.version ≤ refresh.version) then
      { r with pendingDue := some refresh }
    else r
  else r.start (.due refresh)

def finishRefresh : Refresher :=
  match r.stopping, r.pendingDue with
  | false, some pending => { r with pendingDue := none }.start (.due pending)
  | _, _ => { r with refreshing := none, pendingDue := none }

theorem refreshDueSoon_eq (allowed : Bool) (refresh : DueRefresh) :
    ∃ refreshing pendingDue, r.refreshDueSoon allowed refresh =
      { r with refreshing := refreshing, pendingDue := pendingDue } := by
  unfold refreshDueSoon
  split
  · exact ⟨r.refreshing, r.pendingDue, rfl⟩
  split
  · split
    · exact ⟨r.refreshing, some refresh, rfl⟩
    · exact ⟨r.refreshing, r.pendingDue, rfl⟩
  · exact ⟨some (.due refresh, r.clock), r.pendingDue, rfl⟩

end Refresher

inductive Event
  | refreshOneSoon (authID : String)
  | refreshSoon
  | refreshDueSoon (refresh : DueRefresh)
  | finishRefresh
  deriving DecidableEq

/-- Background work is allowed; a refresh ends only if one is under way. -/
def step (r : Refresher) (e : Event) : Refresher :=
  let next := match e with
    | .refreshOneSoon authID => r.refreshSoon true (.one authID)
    | .refreshSoon => r.refreshSoon true .all
    | .refreshDueSoon refresh => r.refreshDueSoon true refresh
    | .finishRefresh => if r.refreshing.isSome then r.finishRefresh else r
  { next with clock := r.clock + 1 }

def requestsAt (events : Nat → Event) (k : Nat) : Refresher := stateAt step {} events k

/-- A refresh that covers the account is pending, or under way since event `k`. -/
def assured (authID : String) (k : Nat) (r : Refresher) : Bool :=
  r.refreshing.any (fun p => decide (k ≤ p.2) && p.1.covers authID) ||
    r.pendingDue.any fun p => decide (authID ∈ p.accounts)

structure Counted (k : Nat) (r : Refresher) : Prop where
  stopping : r.stopping = false
  clock : r.clock = k
  earlier : ∀ refresh start, r.refreshing = some (refresh, start) → start < k

open Refresher

theorem step_cases (r : Refresher) (e : Event) : (step r e).stopping = r.stopping ∧
      ((step r e).refreshing = r.refreshing ∨ (step r e).refreshing = none ∨
        ∃ refresh, (step r e).refreshing = some (refresh, r.clock)) := by
  cases e with
  | refreshOneSoon | refreshSoon =>
    simp only [step, refreshSoon]
    split
    · exact ⟨rfl, .inl rfl⟩
    · exact ⟨rfl, .inr (.inr ⟨_, rfl⟩)⟩
  | refreshDueSoon =>
    simp only [step, refreshDueSoon]
    split
    · exact ⟨rfl, .inl rfl⟩
    split
    · split <;> exact ⟨rfl, .inl rfl⟩
    · exact ⟨rfl, .inr (.inr ⟨_, rfl⟩)⟩
  | finishRefresh =>
    simp only [step, finishRefresh]
    split
    · split
      · exact ⟨rfl, .inr (.inr ⟨_, rfl⟩)⟩
      · exact ⟨rfl, .inr (.inl rfl)⟩
    · exact ⟨rfl, .inl rfl⟩

theorem counted_requestsAt (events : Nat → Event) (k : Nat) : Counted k (requestsAt events k) := by
  induction k with
  | zero => exact ⟨rfl, rfl, fun _ _ h => by cases h⟩
  | succ k ih =>
    obtain ⟨hstopping, hcases⟩ := step_cases (requestsAt events k) (events k)
    refine ⟨hstopping.trans ih.stopping, congrArg (· + 1) ih.clock, ?_⟩
    intro refresh start hrun
    rcases hcases with hsame | hnone | ⟨new, hnew⟩
    · exact Nat.lt_succ_of_lt (ih.earlier refresh start (hsame.symm.trans hrun))
    · cases hnone.symm.trans hrun
    · cases Option.some.inj (hnew.symm.trans hrun)
      exact ih.clock.trans_lt (Nat.lt_succ_self k)

/-- A request is answered iff it meets no refresh, or a pending one finds the account due. -/
theorem request_assured_iff (events : Nat → Event) (k : Nat) (authID : String)
    (hcall : events k = .refreshOneSoon authID) :
    assured authID k (requestsAt events (k + 1)) = true ↔
      (requestsAt events k).refreshing = none ∨
        (requestsAt events k).pendingDue.any (fun p => decide (authID ∈ p.accounts)) = true := by
  have hcounted := counted_requestsAt events k
  have hnext : requestsAt events (k + 1) =
      { (requestsAt events k).refreshSoon true (.one authID) with
        clock := (requestsAt events k).clock + 1 } := by
    change step (requestsAt events k) (events k) = _
    rw [hcall]
    rfl
  rw [hnext, refreshSoon, hcounted.stopping]
  cases hrun : (requestsAt events k).refreshing with
  | none => simp [assured, start, Refresh.covers, hcounted.clock]
  | some current =>
    have hearlier := hcounted.earlier current.1 current.2 hrun
    simp [assured, hrun, Nat.not_le.mpr hearlier]

/-- One refresh is under way and another pending, which finds the account due. -/
def dueBehindRefresh : Nat → Event :=
  script .refreshSoon [.refreshOneSoon "b", .refreshDueSoon ⟨1, ["a"]⟩, .refreshOneSoon "a"]

theorem request_assured_with_pending :
    assured "a" 0 (requestsAt (fun _ => .refreshOneSoon "a") 1) = true ∧
      (requestsAt dueBehindRefresh 2).refreshing = some (.one "b", 0) ∧
      assured "a" 2 (requestsAt dueBehindRefresh 3) = true :=
  ⟨(request_assured_iff _ 0 "a" rfl).mpr (.inl rfl), by decide +kernel,
    (request_assured_iff dueBehindRefresh 2 "a" rfl).mpr (.inr (by decide +kernel))⟩

/-- A request that meets another account's refresh is dropped. -/
theorem request_lost :
    assured "a" 1 (requestsAt (script .refreshSoon [.refreshOneSoon "b", .refreshOneSoon "a"]) 2) =
        false ∧
      requestsAt (script .refreshSoon
        [.refreshOneSoon "b", .refreshOneSoon "a", .finishRefresh]) 3 = { clock := 3 } := by
  decide +kernel

end QuotaScheduler.RefreshRequests

/- Stop and Start of the refresher (refresh.go, quota_provider.go). -/

import QuotaScheduler.CoordinatorPhases
import QuotaScheduler.RefreshRequests

namespace QuotaScheduler.RefresherLifecycle

open Coordinator hiding Event
open CoordinatorBooks CoordinatorSystem
open CoordinatorCalls
open CoordinatorPhases Lib.Runs

inductive StopPhase
  | idle
  | draining
  | waiting
  | drained
  | closing
  | returned
  deriving DecidableEq

/-- `QuotaRefresher` with the flags and the coordinator that `Start` and `Stop` deal with. -/
structure Lifecycle extends RefreshRequests.Refresher where
  running : Bool := false
  startRequested : Bool := false
  stop : StopPhase := .idle
  coordinator : World

namespace Lifecycle

def start (r : Lifecycle) (allowed : Bool) : Lifecycle :=
  let r := { r with startRequested := true }
  if !allowed || r.running then r else { r with running := true, stopping := false }

def beginStop (r : Lifecycle) : Lifecycle :=
  if r.stop = .idle ∨ r.stop = .returned then
    { r with stopping := true, running := false, stop := .draining }
  else r

def sendDrain (r : Lifecycle) : Lifecycle :=
  if r.stop ≠ .draining then r
  else if r.coordinator.stage = .closed then { r with stop := .drained }
  else if r.coordinator.room then
    { r with stop := .waiting, coordinator := r.coordinator.step .drainLegacy }
  else r

/-- The drain is answered: the loop has taken it, and has no job in flight. -/
def drainReply (r : Lifecycle) : Lifecycle :=
  if r.stop = .waiting ∧ Command.drain ∉ r.coordinator.channel ∧
      r.coordinator.loop.accepting = false ∧ r.coordinator.loop.drains = [] then
    { r with stop := .drained }
  else r

def goroutinesEnd (r : Lifecycle) : Lifecycle :=
  if r.stop = .drained then { r with stop := .closing } else r

def close (r : Lifecycle) : Lifecycle :=
  if r.stop = .closing then
    let w := r.coordinator.step .close
    { r with coordinator := w, stop := if w.stage = .closed then .returned else .closing }
  else r

end Lifecycle

inductive Event
  | start (allowed : Bool)
  | beginStop
  | sendDrain
  | drainReply
  | goroutinesEnd
  | close
  | coordinator (e : CoordinatorSystem.Event)

def Lifecycle.step (r : Lifecycle) : Event → Lifecycle
  | .start allowed => r.start allowed
  | .beginStop => r.beginStop
  | .sendDrain => r.sendDrain
  | .drainReply => r.drainReply
  | .goroutinesEnd => r.goroutinesEnd
  | .close => r.close
  | .coordinator e => { r with coordinator := r.coordinator.step e }

/-- The disposition of the future that `Submit` returns at once, if it does. -/
def submitAtOnce (w : World) (_ : Intent) : Option ResultDisposition :=
  if w.closing then some .cancelled else none

theorem stage_closed_step {w : World} (e : CoordinatorSystem.Event) (h : w.stage = .closed) :
    (w.step e).stage = .closed := by
  by_cases he : e = .close
  · subst he
    simp only [World.step, World.close, h]
  · rw [(workerStep_step w e).stage he, h]

theorem closed_step (r : Lifecycle) (e : Event) (h : r.coordinator.stage = .closed) :
    (r.step e).coordinator.stage = .closed := by
  cases e with
  | start allowed =>
    simp only [Lifecycle.step, Lifecycle.start]
    split <;> exact h
  | beginStop =>
    simp only [Lifecycle.step, Lifecycle.beginStop]
    split <;> exact h
  | sendDrain =>
    simp only [Lifecycle.step, Lifecycle.sendDrain]
    split
    · exact h
    · simp only [h]
  | drainReply =>
    simp only [Lifecycle.step, Lifecycle.drainReply]
    split <;> exact h
  | goroutinesEnd =>
    simp only [Lifecycle.step, Lifecycle.goroutinesEnd]
    split <;> exact h
  | close =>
    simp only [Lifecycle.step, Lifecycle.close]
    split
    · exact stage_closed_step .close h
    · exact h
  | coordinator e => exact stage_closed_step e h

theorem returned_step (r : Lifecycle) (e : Event)
    (h : r.stop = .returned → r.coordinator.stage = .closed) :
    (r.step e).stop = .returned → (r.step e).coordinator.stage = .closed := by
  intro hstop
  by_cases hclosed : r.coordinator.stage = .closed
  · exact closed_step r e hclosed
  · have hne : r.stop ≠ .returned := fun heq => hclosed (h heq)
    cases e with
    | start allowed =>
      simp only [Lifecycle.step, Lifecycle.start] at hstop
      split at hstop <;> exact absurd hstop hne
    | beginStop =>
      simp only [Lifecycle.step, Lifecycle.beginStop] at hstop
      split at hstop
      · cases hstop
      · exact absurd hstop hne
    | sendDrain =>
      simp only [Lifecycle.step, Lifecycle.sendDrain] at hstop
      split at hstop
      · exact absurd hstop hne
      · split at hstop
        · cases hstop
        · exact absurd hstop hne
    | drainReply =>
      simp only [Lifecycle.step, Lifecycle.drainReply] at hstop
      split at hstop
      · cases hstop
      · exact absurd hstop hne
    | goroutinesEnd =>
      simp only [Lifecycle.step, Lifecycle.goroutinesEnd] at hstop
      split at hstop
      · cases hstop
      · exact absurd hstop hne
    | close =>
      simp only [Lifecycle.step, Lifecycle.close] at hstop ⊢
      split at hstop
      · next hphase =>
        rw [if_pos hphase]
        split at hstop
        · assumption
        · cases hstop
      · exact absurd hstop hne
    | coordinator e => exact absurd hstop hne

def Lifecycle.initial (unused : Job) : Lifecycle :=
  { coordinator := World.initial unused }

def refresherAt (unused : Job) (events : Nat → Event) (k : Nat) : Lifecycle :=
  stateAt Lifecycle.step (Lifecycle.initial unused) events k

/-- Once `Stop` has returned, every `Submit` gets a cancelled future, whatever `Start` does. -/
theorem submit_cancelled_after_stop (unused : Job) (events : Nat → Event) {k m : Nat}
    (hstop : (refresherAt unused events k).stop = .returned) (hkm : k ≤ m) (intent : Intent) :
    submitAtOnce (refresherAt unused events m).coordinator intent = some .cancelled := by
  have hreturned : (refresherAt unused events k).coordinator.stage = .closed :=
    invariant_stateAt
      (P := fun r : Lifecycle => r.stop = .returned → r.coordinator.stage = .closed)
      (fun h => by cases h) returned_step k hstop
  have hclosed : (refresherAt unused events m).coordinator.stage = .closed :=
    stateAt_of_le (I := fun _ => True) (fun _ => trivial)
      (fun r e _ => closed_step r e) hkm hreturned
  simp [submitAtOnce, World.closing, hclosed]

def quiesced : Nat → Event :=
  script (.coordinator .resend) [.start true, .beginStop, .sendDrain,
    .coordinator (.receive { validates := true }), .drainReply, .goroutinesEnd,
      .close, .close, .close,
    .start true]

theorem quiesced_submit_cancelled :
    submitAtOnce (refresherAt noJob quiesced 10).coordinator (quotaRead 8 2) = some .cancelled :=
  submit_cancelled_after_stop noJob quiesced (k := 9) (by decide +kernel) (by decide)
    (quotaRead 8 2)

/-- Before the quiesce the read is accepted; after it, with the refresher running, it is not. -/
theorem quiesce_is_not_reversed :
    submitAtOnce (refresherAt noJob quiesced 1).coordinator (quotaRead 7 1) = none ∧
      (refresherAt noJob quiesced 1).coordinator.loop.refuses (quotaRead 7 1) = false ∧
      (refresherAt noJob quiesced 9).stop = .returned ∧
      (refresherAt noJob quiesced 10).running = true ∧
      (refresherAt noJob quiesced 10).stopping = false ∧
      (refresherAt noJob quiesced 10).coordinator.loop.cancelledThrough 7 = none ∧
      submitAtOnce (refresherAt noJob quiesced 10).coordinator (quotaRead 7 1) = some .cancelled :=
  ⟨by decide +kernel, by decide +kernel, by decide +kernel, by decide +kernel, by decide +kernel,
    by decide +kernel, by decide +kernel⟩

end QuotaScheduler.RefresherLifecycle

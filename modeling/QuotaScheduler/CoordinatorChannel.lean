/- When the loop of the coordinator can wait for itself. -/

import QuotaScheduler.CancelBarrier

namespace QuotaScheduler.CoordinatorChannel

open Coordinator hiding Event
open Coordinator.LoopState CoordinatorBooks CoordinatorFence CoordinatorSystem
open CoordinatorSystem.World CoordinatorWorkers CoordinatorCalls CancelBarrier Lib.Runs List Option

/-- The loop, the only receiver, waits to send into the full channel. -/
def Stuck (w : World) : Prop := w.resending.isSome = true ∧ w.room = false

def others (channel : List Command) : Nat := channel.countP fun c => (asRequest c).isNone

def load (w : World) : Nat :=
  others w.channel + w.workers.length + w.timers.length + w.loop.launched.length

def drains (w : World) : Event → Bool
  | .drainLegacy => true
  | .close => decide (w.stage = .closing)
  | _ => false

/-- A callback is taken only with room for all that may come; no drain comes while the loop waits.
-/
def roomy (w : World) (e : Event) : Bool :=
  (match taken w e with
    | some (.logCallback j _ _) => !w.loop.delivers j || decide (load w < commandBuffer)
    | _ => true) &&
  (w.resending.isNone || !drains w e)

variable {w : World} {e : Event}

theorem roomy_callback (h : roomy w e = true) {j : Nat} {r : OperationResult} {fails : Bool}
    (htaken : taken w e = some (.logCallback j r fails)) (hdelivers : w.loop.delivers j = true) :
    load w < commandBuffer := by
  rw [roomy, htaken, Bool.and_eq_true] at h
  simpa [hdelivers] using h.1

theorem roomy_drain (h : roomy w e = true) (hresending : w.resending.isSome = true) :
    drains w e = false := by
  rw [roomy, Bool.and_eq_true, isNone_eq_false_iff.2 hresending] at h
  simpa using h.2

variable {c : Command} {channel : List Command}

theorem others_cons :
    others (c :: channel) = others channel + if (asRequest c).isNone then 1 else 0 := by
  simp [others, countP_cons]

theorem length_eq_others (channel : List Command) :
    channel.length = others channel + (requests channel).length := by
  induction channel with
  | nil => rfl
  | cons c channel ih =>
    rw [others_cons, length_cons, ih]
    cases h : asRequest c with
    | none =>
      simp only [requests, filterMap_cons, h, isNone_none, if_true]
      omega
    | some q =>
      simp only [requests, filterMap_cons, h, isNone_some, Bool.false_eq_true, if_false,
        length_cons]
      omega

theorem others_append :
    others (channel ++ [c]) = others channel + if (asRequest c).isNone then 1 else 0 := by
  simp [others, countP_append, countP_cons]

theorem requests_length_le (h : Serialised w) : (requests w.channel).length ≤ 1 := by
  rw [h.channel]
  cases w.lifecycle with
  | none => exact Nat.zero_le 1
  | some l =>
    rw [waiting]
    split
    · exact le_rfl
    · exact Nat.zero_le 1

/-- While the loop waits to send, at most 126 commands are there or may come. -/
def Slack (w : World) : Prop := w.resending.isSome = true → load w + 1 < commandBuffer

theorem Slack.move {w' : World} (h : Slack w) (hroomy : roomy w e = true) (hmove : Move w e w') :
    Slack w' := by
  cases hmove with
  | quiet same channel =>
    intro hw
    rw [same.resending] at hw
    rw [load, channel, same.workers, same.timers, same.loop]
    exact h hw
  | request q room same channel =>
    intro hw
    rw [same.resending] at hw
    rw [load, channel, same.workers, same.timers, same.loop, others_append]
    exact h hw
  | drain event room same channel =>
    intro hw
    rw [same.resending] at hw
    have hnot := roomy_drain hroomy hw
    rcases event with rfl | ⟨rfl, hstage⟩
    · cases hnot
    · simp [drains, hstage] at hnot
  | workerSend j r mem phase room step | timer j mem room step =>
    subst step
    intro hw
    have hload := h hw
    have hpos := length_pos_of_mem mem
    simp only [load, World.push, others_append, asRequest, isNone_none, if_true,
      length_erase_of_mem mem] at hload ⊢
    omega
  | logsSend j fails mem room step =>
    subst step
    intro hw
    have hload := h hw
    have hpos := length_pos_of_mem mem
    simp only [load, World.push, others_append, asRequest, isNone_none, if_true,
      Coordinator.step, length_erase_of_mem mem] at hload ⊢
    omega
  | probe j suppressUntil step =>
    subst step
    intro hw
    have hload := h hw
    simp only [load, Coordinator.step] at hload ⊢
    split <;> exact hload
  | resend j r resending room step =>
    subst step
    intro hw
    cases hw
  | exit event running resending closed step =>
    subst step
    intro hw
    rw [resending] at hw
    cases hw
  | take c rest answers event running resending channel step =>
    subst step
    intro hw
    rcases resending_handle { w with channel := rest } answers c resending with
      hnone | ⟨j, r, fails, r', rfl, hdelivers, -⟩
    · rw [hnone] at hw
      cases hw
    · have hload := roomy_callback hroomy
        (event ▸ taken_of_head running resending channel answers) hdelivers
      have hlaunched : ({ w with channel := rest }.handle answers
          (.logCallback j r fails)).loop.launched = w.loop.launched := by
        simp only [handle, Coordinator.step, logCallback]
        split <;> rfl
      rw [load, channel, others_cons] at hload
      rw [load, hlaunched]
      simp only [asRequest, isNone_none, if_true] at hload
      simp only [handle]
      omega

/-- In a run whose steps leave room, the loop never waits for itself. -/
theorem loop_never_stuck (unused : Job) (events : Nat → Event)
    (hroomy : ∀ k, roomy (worldAt unused events k) (events k) = true) (k : Nat) :
    ¬ Stuck (worldAt unused events k) := by
  rintro ⟨hresending, hroom⟩
  have hslack : Slack (worldAt unused events k) :=
    invariant_stateAt_of (fun hw => by cases hw)
      (fun w e h hC => .move h hC (move_step w e)) hroomy k
  have hload := hslack hresending
  have hlength := length_eq_others (worldAt unused events k).channel
  have hrequests := requests_length_le (serialised_worldAt unused events k)
  simp only [room, decide_eq_false_iff_not, not_lt] at hroom
  unfold load at hload
  omega

def logged (j : Nat) : List Event :=
  method (.submit (quotaRead 7 j) none) ++ [.allocate j none, .finish j (readResult 7 j true),
    .workerSend j, .receive { validates := true }, .logsSend j false]

def oneCallback : Nat → Event :=
  script .resend (logged 0 ++ [.receive { validates := true }, .timer 0])

theorem oneCallback_never_stuck :
    (worldAt noJob oneCallback 10).resending.isSome = true ∧
      ¬ Stuck (worldAt noJob oneCallback 11) := by
  refine ⟨by decide +kernel, loop_never_stuck noJob oneCallback (fun k => ?_) 11⟩
  refine script_meets (C := fun w e => roomy w e = true) (fun w => ?_) (by decide +kernel) k
  simp [roomy, taken, drains]

def finished (j : Nat) : List Event :=
  method (.submit (quotaRead 7 j) none) ++ [.allocate j none, .finish j (readResult 7 j false),
    .workerSend j, .receive { validates := true }]

/-- 128 jobs of one instance, one with logs; timers fill the channel behind callback and loop. -/
def crowded : List Event :=
  (List.range 128).flatMap finished ++ logged 128 ++
    (List.range 127).map (fun n => .timer (128 - n)) ++
    [.receive { validates := true }, .timer 1]

set_option maxRecDepth 100000 in
theorem crowded_stuck : Stuck (worldAt noJob (script .resend crowded) crowded.length) := by
  rw [worldAt, stateAt_script]
  unfold Stuck
  decide +kernel

end QuotaScheduler.CoordinatorChannel

/- The pump that hands scheduler picks to the refresher (pick_activity.go). -/

import QuotaScheduler.Lib.Runs

namespace QuotaScheduler.PickPump

open Lib.Runs List

/-- Where `run` is; an intent is known by the number of its store, from one. -/
inductive Position
  | waiting
  | swapping
  | waking (intent : Nat)
  | handing (intent : Nat)
  | returned (intent : Option Nat)
  deriving DecidableEq

/-- Callers of `enqueue` are `entering` behind its check and `signalling` behind its store. -/
structure Pump where
  latest : Option Nat := none
  wake : Bool := false
  stopped : Bool := false
  cancelled : Bool := false
  entering : Nat := 0
  signalling : Nat := 0
  stored : Nat := 0
  position : Position := .waiting
  handed : List Nat := []

/-- `select true` is the branch of `ctx.Done`. -/
inductive Event
  | enter
  | store
  | signal
  | stop
  | cancel
  | select (done : Bool)
  | swap
  | wakeForActivity
  | onSchedulerPick

def step (p : Pump) (e : Event) : Pump :=
  match e, p.position with
  | .enter, _ => if p.stopped then p else { p with entering := p.entering + 1 }
  | .store, _ =>
    if p.entering = 0 then p
    else
      { p with
        entering := p.entering - 1
        signalling := p.signalling + 1
        latest := some (p.stored + 1)
        stored := p.stored + 1 }
  | .signal, _ =>
    if p.signalling = 0 then p else { p with signalling := p.signalling - 1, wake := true }
  | .stop, _ => { p with stopped := true }
  | .cancel, _ => if p.stopped then { p with cancelled := true } else p
  | .select true, .waiting => if p.cancelled then { p with position := .returned none } else p
  | .select false, .waiting => if p.wake then { p with wake := false, position := .swapping } else p
  | .swap, .swapping =>
    match p.latest with
    | none => { p with position := .waiting }
    | some n => { p with latest := none, position := .waking n }
  | .wakeForActivity, .waking n =>
    { p with position := if p.cancelled then .returned (some n) else .handing n }
  | .onSchedulerPick, .handing n => { p with handed := n :: p.handed, position := .swapping }
  | _, _ => p

@[simp]
def Position.held : Position → Option Nat
  | .waking n | .handing n => some n
  | .returned intent => intent
  | _ => none

/-- The stored intents that are not superseded, the newest first. -/
@[simp]
def queue (p : Pump) : List Nat := p.latest.toList ++ (p.position.held.toList ++ p.handed)

structure Sound (p : Pump) : Prop where
  ordered : ((p.stored + 1) :: queue p).Pairwise (· > ·)
  newest : (queue p).headD 0 = p.stored
  woken : p.latest ≠ none → p.wake = true ∨ p.signalling ≠ 0 ∨ p.position ≠ .waiting

variable {p q : Pump}

theorem Sound.of_queue (h : Sound p) (hqueue : queue q = queue p) (hstored : q.stored = p.stored)
    (hwoken : q.latest ≠ none → q.wake = true ∨ q.signalling ≠ 0 ∨ q.position ≠ .waiting) :
    Sound q :=
  ⟨by rw [hqueue, hstored]; exact h.ordered, by rw [hqueue, hstored, h.newest], hwoken⟩

/-- The store alone changes the queue: it supersedes an intent not taken. -/
theorem Sound.step (h : Sound p) (e : Event) : Sound (step p e) := by
  have hwoken := h.woken
  unfold PickPump.step
  split
  next =>
    split
    · exact h
    · exact h.of_queue rfl rfl hwoken
  next =>
    split
    · exact h
    · have hrest := h.ordered.sublist
        ((sublist_append_right p.latest.toList _).cons_cons (p.stored + 1))
      refine ⟨hrest.cons (forall_mem_cons.mpr ⟨Nat.lt_succ_self _, fun n hn => ?_⟩), rfl, by simp⟩
      exact (rel_of_pairwise_cons hrest hn).trans (Nat.lt_succ_self _)
  next =>
    split
    · exact h
    · exact h.of_queue rfl rfl fun _ => .inl rfl
  next => exact h.of_queue rfl rfl hwoken
  next =>
    split
    · exact h.of_queue rfl rfl hwoken
    · exact h
  case h_6 hpos | h_7 hpos =>
    split
    · exact h.of_queue (by simp [hpos]) rfl (by simp)
    · exact h
  next hpos =>
    split
    next hnone =>
      exact h.of_queue (by simp [hpos]) rfl fun hl => absurd hnone hl
    next n hsome => exact h.of_queue (by simp [hpos, hsome]) rfl (by simp)
  next n hpos =>
    cases hcancelled : p.cancelled <;>
      exact h.of_queue (by simp [hpos]) rfl (by simp)
  next n hpos => exact h.of_queue (by simp [hpos]) rfl (by simp)
  next => exact h

theorem sound_stateAt (events : Nat → Event) (k : Nat) : Sound (stateAt step {} events k) :=
  invariant_stateAt ⟨pairwise_singleton _ _, rfl, by simp⟩ (fun _ e h => h.step e) k

/-- Intents are handed on in the order of their stores, none twice; a pump that waits with no wake-
up on its way has handed on the newest. -/
theorem newest_pick_is_handed (events : Nat → Event) (k : Nat) :
    (stateAt step {} events k).handed.Pairwise (· > ·) ∧
      ((stateAt step {} events k).position = .waiting → (stateAt step {} events k).wake = false →
        (stateAt step {} events k).signalling = 0 →
        (stateAt step {} events k).handed.headD 0 = (stateAt step {} events k).stored) := by
  obtain ⟨ordered, newest, woken⟩ := sound_stateAt events k
  rw [queue, ← append_assoc] at ordered
  refine ⟨ordered.of_cons.sublist (sublist_append_right _ _), fun hpos hwake hsignal => ?_⟩
  have hnone : (stateAt step {} events k).latest = none := by
    by_contra hlatest
    simpa [hpos, hwake, hsignal] using woken hlatest
  simpa [hnone, hpos] using newest

/-- Of three picks one is superseded, and one in hand when the pump is stopped. -/
def picks : Nat → Event :=
  script .swap [.enter, .enter, .store, .signal, .store, .signal, .select false, .swap,
    .wakeForActivity, .onSchedulerPick, .swap, .enter, .store, .signal, .select false, .swap,
    .stop, .cancel, .wakeForActivity]

theorem picks_are_handed : (stateAt step {} picks 11).handed.headD 0 = 2 :=
  (newest_pick_is_handed picks 11).2 (by decide) (by decide) (by decide)

/-- The intents handed on or being handed on. -/
def begun (p : Pump) : List Nat :=
  match p.position with
  | .handing n => n :: p.handed
  | _ => p.handed

theorem begun_step {l : List Nat} (h : p.cancelled = true ∧ begun p = l) (e : Event) :
    (step p e).cancelled = true ∧ begun (step p e) = l := by
  obtain ⟨h, rfl⟩ := h
  unfold step
  split <;> (try split) <;> simp_all [begun]

theorem none_begun_after_cancel (events : Nat → Event) {a b : Nat} (hab : a ≤ b)
    (h : (stateAt step {} events a).cancelled = true) :
    begun (stateAt step {} events b) = begun (stateAt step {} events a) :=
  (stateAt_of_le (P := fun p => p.cancelled = true ∧ begun p = begun (stateAt step {} events a))
    (sound_stateAt events) (fun _ e _ h => begun_step h e) hab ⟨h, rfl⟩).2

theorem picks_after_cancel : begun (stateAt step {} picks 19) = [2] :=
  (none_begun_after_cancel picks (show 18 ≤ 19 by decide) (by decide)).trans (by decide)

end QuotaScheduler.PickPump

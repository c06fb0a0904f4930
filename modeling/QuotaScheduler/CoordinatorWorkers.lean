/- Each started job has at most one goroutine or message that speaks for it. -/

import QuotaScheduler.CoordinatorMoves
import QuotaScheduler.CoordinatorSystem

namespace QuotaScheduler.CoordinatorWorkers

open Coordinator hiding Event
open Coordinator.LoopState CoordinatorBooks CoordinatorMoves CoordinatorSystem
open CoordinatorSystem.World Lib.Runs List Option AList

/-- The branches that change something, each with the world it leads to. -/
inductive Branch (w : World) : Event → World → Prop
  | idle (e : Event) : Branch w e w
  | called (e : Event) (q : Request) (plain : q.typed = false) (free : w.lifecycle = none) :
      Branch w e { w with lifecycle := some { request := q } }
  | joined (intent : Intent) (n : Nat) : Branch w (.callTyped intent)
      (setEntry { w with
        typedReads := Function.update w.typedReads intent.inst (w.liveReads intent.inst) } n
        fun entry => if intent.cls = .probeVerify ∧ entry.attemptID = "" then
          { entry with attemptID := intent.attemptID } else entry)
  | opened (intent : Intent) (free : w.typed = none) : Branch w (.callTyped intent)
      { w with
        typedReads := Function.update w.typedReads intent.inst (w.liveReads intent.inst)
        typedNonce := w.typedNonce + 1
        entries := Function.update w.entries (w.typedNonce + 1)
          { cls := intent.cls, attemptID := intent.attemptID }
        typed := some { entry := w.typedNonce + 1, intent :=
          { intent with attemptID := "read-" ++ toString (w.typedNonce + 1) } } }
  | numbered (e : Event) : Branch w e { w with typedNonce := w.typedNonce + 1 }
  | numberedCall (e : Event) (q : Request) (plain : q.typed = false) (free : w.lifecycle = none) :
      Branch w e { w with typedNonce := w.typedNonce + 1, lifecycle := some { request := q } }
  | turnedAway (t : TypedCall) (waits : w.typed = some t) (unsent : t.submitted = false)
      (closing : w.closing = true) :
      Branch w .submitTyped
        { w with typed := some { t with submitted := true, reply := some none } }
  | submitted (t : TypedCall) (waits : w.typed = some t) (unsent : t.submitted = false)
      (free : w.lifecycle = none) :
      Branch w .submitTyped { w with
        typed := some { t with submitted := true }
        lifecycle := some { request := .submit t.intent (some t.entry) } }
  | sent (l : LifecycleCall) (waits : w.lifecycle = some l) (unsent : l.sent = false)
      (room : w.room = true) :
      Branch w .send { w.push (.request l.request) with lifecycle := some { l with sent := true } }
  | returned (l : LifecycleCall) (f : Option Nat) (waits : w.lifecycle = some l)
      (replied : l.reply = some f) : Branch w .callReturn w.callReturn
  | registered (t : TypedCall) (f : Option Nat) (waits : w.typed = some t)
      (replied : t.reply = some f) :
      Branch w .typedReturn { w.setEntry t.entry fun entry => { entry with future := f } with
        typed := none
        typedReads := Function.update w.typedReads t.intent.inst
          (w.typedReads t.intent.inst ++ [t.entry]) }
  | cleared (instances : List AuthInstanceID) (free : w.typed = none) (mem : instances ∈ w.clears) :
      Branch w (.clearTypedReads instances) { w with
        clears := w.clears.erase instances
        entries := fun n =>
          if instances.any fun i => (w.typedReads i).contains n then
            { w.entries n with done := true }
          else w.entries n
        typedReads := fun i => if i ∈ instances then [] else w.typedReads i }
  | drainLegacy (room : w.room = true) : Branch w .drainLegacy (w.push .drain)
  | closes (stage : CloseStage) : Branch w .close { w with stage := stage }
  | closeDrain (closing : w.stage = .closing) (room : w.room = true) :
      Branch w .close { w.push .drain with stage := .drained }
  | take (answers : Answers) (c : Command) (rest : List Command) (running : w.exited = false)
      (resending : w.resending = none) (channel : w.channel = c :: rest) :
      Branch w (.receive answers) ({ w with channel := rest }.handle answers c)
  | resend (j : Nat) (r : OperationResult) (resending : w.resending = some (j, r))
      (room : w.room = true) : Branch w .resend { w.push (.result j r) with resending := none }
  | exit (running : w.exited = false) (resending : w.resending = none)
      (closed : w.stage = .closed) :
      Branch w .exit { w with exited := true, loop := shutDown w.loop }
  | executes (j : Nat) (seq : Option Nat) :
      Branch w (.allocate j seq) (w.setPhase j .executing)
  | allocates (j n seq : Nat) :
      Branch w (.allocate j (some seq))
        ((w.setEntry n fun entry => { entry with seq := seq }).setPhase j .executing)
  | unallocated (j : Nat) (mem : j ∈ w.workers) (starting : w.phase j = .starting) :
      Branch w (.allocate j none)
        (w.setPhase j (.sending { token := (w.loop.jobs j).intent.token, err := some .worker }))
  | finishes (j : Nat) (r : OperationResult) (mem : j ∈ w.workers) (plain : w.entryOf j = none) :
      Branch w (.finish j r) (w.setPhase j (.sending r))
  | finishesRead (j : Nat) (r : OperationResult) (n : Nat) (mem : j ∈ w.workers)
      (entry : w.entryOf j = some n) :
      Branch w (.finish j r)
        ((w.setEntry n fun entry => { entry with done := true }).setPhase j (.sending r))
  | workerSend (j : Nat) (r : OperationResult) (mem : j ∈ w.workers)
      (phase : w.phase j = .sending r) (room : w.room = true) :
      Branch w (.workerSend j) { w.push (.result j r) with workers := w.workers.erase j }
  | timer (j : Nat) (mem : j ∈ w.timers) (room : w.room = true) :
      Branch w (.timer j) { w.push (.expire j) with timers := w.timers.erase j }
  | logsSend (j : Nat) (fails : Bool) (mem : j ∈ w.loop.launched) (room : w.room = true) :
      Branch w (.logsSend j fails) { w.push (.logCallback j (w.logs j) fails) with
        loop := Coordinator.step w.loop (.dispatchLogs j) }
  | probe (j : Nat) (suppressUntil : Time) : Branch w (.markProbeSent j suppressUntil)
      { w with loop := Coordinator.step w.loop (.markProbeSent j suppressUntil) }

variable {w : World} {e : Event}

theorem branch_call {q : Request} (hq : q.typed = false) : Branch w e (w.call q) := by
  unfold World.call
  split
  · exact .idle e
  · next h =>
    simp only [Bool.or_eq_true, not_or, Bool.not_eq_true, isSome_eq_false_iff,
      isNone_iff_eq_none] at h
    exact .called e q hq h.1

theorem branch_callTyped (intent : Intent) : Branch w (.callTyped intent) (w.callTyped intent) := by
  unfold World.callTyped
  split
  · split
    · exact .idle _
    · next hfree =>
      rw [Bool.not_eq_true, isSome_eq_false_iff, isNone_iff_eq_none] at hfree
      dsimp only
      split
      · exact .joined intent _
      · exact .opened intent hfree
  · split
    · unfold World.call
      dsimp only
      split
      · exact .numbered _
      · next h =>
        simp only [Bool.or_eq_true, not_or, Bool.not_eq_true, isSome_eq_false_iff,
          isNone_iff_eq_none] at h
        exact .numberedCall _ _ rfl h.1
    · exact branch_call rfl

theorem branch_submitTyped : Branch w .submitTyped w.submitTyped := by
  unfold World.submitTyped
  split
  · exact .idle _
  · next t ht =>
    split
    · exact .idle _
    · next hsent =>
      rw [Bool.not_eq_true] at hsent
      split
      · next hclosing => exact .turnedAway t ht hsent hclosing
      · split
        · exact .idle _
        · next hfree =>
          rw [Bool.not_eq_true, isSome_eq_false_iff, isNone_iff_eq_none] at hfree
          exact .submitted t ht hsent hfree

theorem branch_close : Branch w .close w.close := by
  unfold World.close
  split
  · split
    · exact .idle _
    · exact .closes .closing
  · next hstage =>
    split
    · next hroom => exact .closeDrain hstage hroom
    · exact .idle _
  · exact .closes .closed
  · exact .idle _

theorem branch_receive (answers : Answers) : Branch w (.receive answers) (w.receive answers) := by
  unfold World.receive
  split
  · exact .idle _
  · next hfree =>
    simp only [Bool.or_eq_true, not_or, Bool.not_eq_true, isSome_eq_false_iff,
      isNone_iff_eq_none] at hfree
    split
    · exact .idle _
    · next c rest hchannel => exact .take answers c rest hfree.1 hfree.2 hchannel

variable {j : Nat}

theorem branch_allocate (seq : Option Nat) : Branch w (.allocate j seq) (w.allocate j seq) := by
  unfold World.allocate
  split
  · next h =>
    split
    · exact .executes j seq
    · split
      · exact .allocates j _ _
      · exact .unallocated j h.1 h.2
  · exact .idle _

theorem branch_finish (r : OperationResult) : Branch w (.finish j r) (w.finish j r) := by
  unfold World.finish
  split
  · next h =>
    split
    · next hn => exact .finishes j r h.1 hn
    · next n hn => exact .finishesRead j r n h.1 hn
  · exact .idle _

theorem branch_step : Branch w e (w.step e) := by
  cases e with
  | call q =>
    unfold World.step
    dsimp only
    split
    · exact .idle _
    · next hq => exact branch_call (Bool.eq_false_iff.2 hq)
  | callTyped intent => exact branch_callTyped intent
  | submitTyped => exact branch_submitTyped
  | send =>
    unfold World.step World.send
    dsimp only
    split
    · exact .idle _
    · next l hl =>
      split
      · exact .idle _
      · next h =>
        simp only [Bool.or_eq_true, Bool.not_eq_true', not_or, Bool.not_eq_true,
          Bool.not_eq_false] at h
        exact .sent l hl h.1 h.2
  | callReturn =>
    cases hl : w.lifecycle with
    | none =>
      have hstep : w.step .callReturn = w := by simp only [World.step, World.callReturn, hl]
      exact hstep.symm ▸ .idle _
    | some l =>
      cases hr : l.reply with
      | none =>
        have hstep : w.step .callReturn = w := by simp only [World.step, World.callReturn, hl, hr]
        exact hstep.symm ▸ .idle _
      | some f => exact .returned l f hl hr
  | typedReturn =>
    unfold World.step World.typedReturn
    dsimp only
    split
    · exact .idle _
    · next t ht =>
      split
      · exact .idle _
      · next f hf => exact .registered t f ht hf
  | clearTypedReads instances =>
    unfold World.step World.clearTypedReads
    dsimp only
    split
    · exact .idle _
    · next h =>
      simp only [Bool.or_eq_true, Bool.not_eq_true', not_or, Bool.not_eq_true,
        Bool.not_eq_false, isSome_eq_false_iff, isNone_iff_eq_none,
        contains_iff_mem] at h
      exact .cleared instances h.1 h.2
  | drainLegacy =>
    unfold World.step World.drainLegacy
    dsimp only
    split
    · next hroom => exact .drainLegacy hroom
    · exact .idle _
  | close => exact branch_close
  | receive answers => exact branch_receive answers
  | resend =>
    unfold World.step World.resend
    dsimp only
    split
    · exact .idle _
    · next j r hr =>
      split
      · next hroom => exact .resend j r hr hroom
      · exact .idle _
  | exit =>
    unfold World.step World.exit
    dsimp only
    split
    · exact .idle _
    · next hfree =>
      simp only [Bool.or_eq_true, decide_eq_true_eq, not_or, Bool.not_eq_true, not_not,
        isSome_eq_false_iff, isNone_iff_eq_none] at hfree
      exact .exit hfree.1.1 hfree.1.2 hfree.2
  | allocate j seq => exact branch_allocate seq
  | finish j r => exact branch_finish r
  | workerSend j =>
    unfold World.step World.workerSend
    dsimp only
    split
    · next r hr =>
      split
      · next h => exact .workerSend j r h.1 hr h.2
      · exact .idle _
    · exact .idle _
  | timer j =>
    unfold World.step World.timer
    dsimp only
    split
    · next h => exact .timer j h.1 h.2
    · exact .idle _
  | logsSend j fails =>
    unfold World.step World.logsSend
    dsimp only
    split
    · next h => exact .logsSend j fails h.1 h.2
    · exact .idle _
  | markProbeSent j suppressUntil =>
    unfold World.step World.markProbeSent
    dsimp only
    split
    · exact .probe j suppressUntil
    · exact .idle _
  | doHTTP j => exact .idle _

def carries : Command → Option Nat
  | .result j _ => some j
  | .logCallback j _ _ => some j
  | _ => none

structure Same (w w' : World) : Prop where
  loop : w'.loop = w.loop
  resending : w'.resending = w.resending
  workers : w'.workers = w.workers
  timers : w'.timers = w.timers

inductive Move (w : World) (e : Event) (w' : World) : Prop
  | quiet (same : Same w w') (channel : w'.channel = w.channel)
  | request (q : Request) (room : w.room = true) (same : Same w w')
      (channel : w'.channel = w.channel ++ [.request q])
  | drain (event : e = .drainLegacy ∨ e = .close ∧ w.stage = .closing) (room : w.room = true)
      (same : Same w w') (channel : w'.channel = w.channel ++ [.drain])
  | workerSend (j : Nat) (r : OperationResult) (mem : j ∈ w.workers)
      (phase : w.phase j = .sending r) (room : w.room = true)
      (step : w' = { w.push (.result j r) with workers := w.workers.erase j })
  | timer (j : Nat) (mem : j ∈ w.timers) (room : w.room = true)
      (step : w' = { w.push (.expire j) with timers := w.timers.erase j })
  | logsSend (j : Nat) (fails : Bool) (mem : j ∈ w.loop.launched) (room : w.room = true)
      (step : w' = { w.push (.logCallback j (w.logs j) fails) with
        loop := Coordinator.step w.loop (.dispatchLogs j) })
  | probe (j : Nat) (suppressUntil : Time)
      (step : w' = { w with loop := Coordinator.step w.loop (.markProbeSent j suppressUntil) })
  | resend (j : Nat) (r : OperationResult) (resending : w.resending = some (j, r))
      (room : w.room = true) (step : w' = { w.push (.result j r) with resending := none })
  | exit (event : e = .exit) (running : w.exited = false) (resending : w.resending = none)
      (closed : w.stage = .closed)
      (step : w' = { w with exited := true, loop := shutDown w.loop })
  | take (c : Command) (rest : List Command) (answers : Answers) (event : e = .receive answers)
      (running : w.exited = false)
      (resending : w.resending = none) (channel : w.channel = c :: rest)
      (step : w' = { w with channel := rest }.handle answers c)

theorem Branch.move {w w' : World} {e : Event} (h : Branch w e w') : Move w e w' := by
  cases h with
  | sent l waits unsent room => exact .request l.request room ⟨rfl, rfl, rfl, rfl⟩ rfl
  | returned l f waits replied =>
    simp only [World.callReturn, waits, replied]
    split <;> exact .quiet ⟨rfl, rfl, rfl, rfl⟩ rfl
  | drainLegacy room => exact .drain (.inl rfl) room ⟨rfl, rfl, rfl, rfl⟩ rfl
  | closeDrain closing room => exact .drain (.inr ⟨rfl, closing⟩) room ⟨rfl, rfl, rfl, rfl⟩ rfl
  | take answers c rest running resending channel =>
    exact .take c rest answers rfl running resending channel rfl
  | resend j r resending room => exact .resend j r resending room rfl
  | exit running resending closed => exact .exit rfl running resending closed rfl
  | workerSend j r mem phase room => exact .workerSend j r mem phase room rfl
  | timer j mem room => exact .timer j mem room rfl
  | logsSend j fails mem room => exact .logsSend j fails mem room rfl
  | probe j suppressUntil => exact .probe j suppressUntil rfl
  | _ => exact .quiet ⟨rfl, rfl, rfl, rfl⟩ rfl

theorem move_step (w : World) (e : Event) : Move w e (w.step e) := branch_step.move

def loopEvent (w : World) (answers : Answers) : Command → Option Coordinator.Event
  | .request (.submit intent _) =>
    some (.submit intent (if intent.cls = .probeSend then w.typedNonce + 1 else w.typedNonce))
  | .request .snapshot => none
  | .request (.cancel instances) => some (.cancel instances)
  | .request (.activate generations) => some (.activate generations)
  | .request (.restore generations) => some (.restore generations)
  | .expire j => some (.expire j answers.inheritFails)
  | .result j r => some (.result j r answers)
  | .logCallback j r fails => some (.logCallback j r fails)
  | .drain => some .drain

theorem launch_field {α : Type} (f : World → α) (hf : ∀ w phase workers timers,
      f { w with phase := phase, workers := workers, timers := timers } = f w) (w : World)
    (before : LoopState) (i : AuthInstanceID) : f (w.launch before i) = f w := by
  unfold launch
  split
  · rfl
  · split
    · rfl
    · exact hf w _ _ _

variable {i : AuthInstanceID}

theorem launch_cases (before : LoopState) :
    ((w.launch before i).workers = w.workers ∧ (w.launch before i).timers = w.timers) ∨
      ∃ j, w.loop.leases i = some j ∧ before.leases i ≠ some j ∧
        (w.launch before i).workers = j :: w.workers ∧
        (w.launch before i).timers = j :: w.timers := by
  unfold launch
  split
  · exact .inl ⟨rfl, rfl⟩
  · next hne =>
    split
    · exact .inl ⟨rfl, rfl⟩
    · next j hj =>
      rw [hj] at hne
      exact .inr ⟨j, hj, fun h => hne h.symm, rfl, rfl⟩

variable {before : LoopState}

theorem loop_launch : (w.launch before i).loop = w.loop :=
  launch_field World.loop (by intros; rfl) w before i

theorem loop_handle (w : World) (answers : Answers) (c : Command) :
    (w.handle answers c).loop = (loopEvent w answers c).elim w.loop (Coordinator.step w.loop) := by
  cases c with
  | request q =>
    cases q with
    | submit intent entry => exact loop_launch
    | _ => rfl
  | expire j | result j r => exact loop_launch
  | logCallback j r fails | drain => rfl

theorem handle_field {α : Type} (f : World → α)
    (hf : ∀ w loop resending workers phase entryOf timers logs lifecycle nonce, f { w with
      loop := loop, resending := resending, workers := workers, phase := phase, entryOf := entryOf,
      timers := timers, logs := logs, lifecycle := lifecycle, typedNonce := nonce } = f w)
    (w : World) (answers : Answers) (c : Command) : f (w.handle answers c) = f w := by
  have hlaunch : ∀ w before i, f (launch w before i) = f w :=
    launch_field f fun w _ _ _ => hf w _ _ _ _ _ _ _ _ _
  cases c with
  | request q =>
    cases q with
    | submit intent entry => exact (hlaunch _ _ _).trans (hf w _ _ _ _ _ _ _ _ _)
    | _ => exact hf w _ _ _ _ _ _ _ _ _
  | expire j | result j r => exact (hlaunch _ _ _).trans (hf w _ _ _ _ _ _ _ _ _)
  | logCallback j r fails | drain => exact hf w _ _ _ _ _ _ _ _ _

theorem channel_handle (w : World) (answers : Answers) (c : Command) :
    (w.handle answers c).channel = w.channel :=
  handle_field World.channel (by intros; rfl) w answers c

theorem workers_handle (w : World) (answers : Answers) (c : Command) :
    ((w.handle answers c).workers = w.workers ∧ (w.handle answers c).timers = w.timers) ∨
      ∃ i j, (w.handle answers c).loop.leases i = some j ∧ w.loop.leases i ≠ some j ∧
        (w.handle answers c).workers = j :: w.workers ∧
        (w.handle answers c).timers = j :: w.timers := by
  have hlaunch : ∀ (w' : World) (i : AuthInstanceID), w'.workers = w.workers →
      w'.timers = w.timers →
      ((w'.launch w.loop i).workers = w.workers ∧ (w'.launch w.loop i).timers = w.timers) ∨
        ∃ i' j, (w'.launch w.loop i).loop.leases i' = some j ∧ w.loop.leases i' ≠ some j ∧
          (w'.launch w.loop i).workers = j :: w.workers ∧
          (w'.launch w.loop i).timers = j :: w.timers := by
    intro w' i hw ht
    rw [loop_launch]
    rcases launch_cases w.loop with ⟨hsame, hsame'⟩ | ⟨j, hj, hne, hnew, hnew'⟩
    · exact .inl ⟨hsame.trans hw, hsame'.trans ht⟩
    · exact .inr ⟨i, j, hj, hne, hnew.trans (by rw [hw]), hnew'.trans (by rw [ht])⟩
  cases c with
  | request q =>
    cases q with
    | submit intent entry => exact hlaunch _ _ rfl rfl
    | _ => exact .inl ⟨rfl, rfl⟩
  | expire j | result j r => exact hlaunch _ _ rfl rfl
  | logCallback j r fails | drain => exact .inl ⟨rfl, rfl⟩

theorem resending_handle (w : World) (answers : Answers) (c : Command)
    (hfree : w.resending = none) :
    (w.handle answers c).resending = none ∨
      ∃ j r fails r', c = .logCallback j r fails ∧ w.loop.delivers j = true ∧
        (w.handle answers c).resending = some (j, r') := by
  cases c with
  | request q =>
    cases q with
    | submit intent entry =>
      exact .inl ((launch_field World.resending (by intros; rfl) _ _ _).trans hfree)
    | _ => exact .inl hfree
  | expire j | result j r =>
    exact .inl ((launch_field World.resending (by intros; rfl) _ _ _).trans hfree)
  | logCallback j r fails =>
    cases hd : w.loop.delivers j with
    | false => exact .inl (by simp [handle, hd])
    | true =>
      refine .inr ⟨j, r, fails, { r with
        hostLogs := false
        callbackFailed := fails
        err := if fails then some .callback else r.err }, rfl, hd, ?_⟩
      simp only [handle, hd, if_true, Coordinator.step, logCallback, Bool.not_true,
        Bool.false_eq_true, if_false, head?_cons]
  | drain => exact .inl hfree

variable {s : LoopState}

theorem values_nodup (h : Books s) : (s.inflight.entries.map fun e => e.2).Nodup := by
  refine .map_on (fun e he e' he' heq => ?_) ?_
  · have hk := h.keyed e.1 e.2 (mem_lookup_iff.2 he)
    have hk' := h.keyed e'.1 e'.2 (mem_lookup_iff.2 he')
    rw [heq, hk'] at hk
    exact Sigma.ext hk.symm (heq_of_eq heq)
  · exact List.NodupKeys.nodup s.inflight.nodupKeys

theorem mem_values {j : Nat} : j ∈ (s.inflight.entries.map fun e => e.2) ↔ InFlight s j := by
  simp only [List.mem_map]
  constructor
  · rintro ⟨e, he, rfl⟩
    exact ⟨e.1, mem_lookup_iff.2 he⟩
  · rintro ⟨k, hk⟩
    exact ⟨⟨k, j⟩, mem_lookup_iff.1 hk, rfl⟩

theorem follows_shutDown (h : Books s) : Follows s (shutDown s) := by
  have hremoves : Removes s (shutDown s) (s.inflight.entries.map fun e => e.2) fun _ =>
      { token := ⟨0, 0, 0, 0⟩, err := some .canceled, disposition := .cancelled } :=
    { next := rfl
      launched := rfl
      inflight := fun k x => by
        simp only [shutDown, complete, lookup_empty, mem_values, reduceCtorEq, false_iff,
          not_and, not_not]
        exact fun hk => ⟨k, hk⟩
      leases := fun i x => by
        simp only [shutDown, complete, mem_values, reduceCtorEq, false_iff, not_and, not_not]
        exact fun hl => (h.leased i x hl).1
      queue := fun i x => by
        simp only [shutDown, complete, queueOf, lookup_empty, getD_none,
          not_mem_nil, mem_values, false_iff, not_and, not_not]
        exact fun hq => (h.queued i x hq).1
      nodup := fun i => by simp [shutDown, complete, queueOf]
      log := rfl
      done := fun j hj => by
        have hnone := h.future_none (mem_values.1 hj)
        simp only [shutDown, complete, if_pos hj]
        split <;> simp [hnone]
      later := fun j hj => by
        simp only [shutDown, complete, if_pos hj]
        split
        · exact ⟨rfl, rfl, id, id, id, fun _ => rfl, fun _ _ => .inl rfl⟩
        · exact ⟨rfl, rfl, id, id, id, id, fun hs hstop => .inr ⟨hs, hstop⟩⟩
      other := fun j hj => by
        have hne : ¬ (j ∈ (s.inflight.entries.map fun e => e.2) ∧ (s.jobs j).started = true) :=
          fun hboth => hj hboth.1
        simp only [shutDown, complete, if_neg hj, if_neg hne] }
  exact hremoves.follows h (values_nodup h) fun j hj => mem_values.1 hj

theorem loop_move {w w' : World} {e : Event} (h : Move w e w') :
    w'.loop = w.loop ∨ (∃ le, w'.loop = Coordinator.step w.loop le) ∨
      w'.loop = shutDown w.loop := by
  cases h with
  | quiet same | request q room same | drain event room same => exact .inl same.loop
  | workerSend j r mem phase room step | timer j mem room step | resend j r resending room step =>
    exact .inl (by rw [step]; rfl)
  | logsSend j fails mem room step => exact .inr (.inl ⟨.dispatchLogs j, by rw [step]⟩)
  | probe j suppressUntil step => exact .inr (.inl ⟨.markProbeSent j suppressUntil, by rw [step]⟩)
  | exit event running resending closed step => exact .inr (.inr (by rw [step]))
  | take c rest answers event running resending channel step =>
    have hloop := loop_handle { w with channel := rest } answers c
    rw [← step] at hloop
    cases hevent : loopEvent { w with channel := rest } answers c with
    | none => exact .inl (by rw [hloop, hevent]; rfl)
    | some le => exact .inr (.inl ⟨le, by rw [hloop, hevent]; rfl⟩)

theorem follows_move {w w' : World} {e : Event} (hbooks : Books w.loop) (h : Move w e w') :
    Follows w.loop w'.loop := by
  rcases loop_move h with hsame | ⟨le, hstep⟩ | hend
  · rw [hsame]
    exact .refl hbooks
  · rw [hstep]
    exact follows_step hbooks le
  · rw [hend]
    exact follows_shutDown hbooks

def messages (channel : List Command) (j : Nat) : Nat := (channel.filterMap carries).count j

def speaks (w : World) (j : Nat) : Nat :=
  messages w.channel j + w.loop.launched.count j + (w.resending.map Prod.fst).toList.count j

/-- What speaks for the job: its worker, its result, its log dispatch or the callback of that. -/
def batons (w : World) (j : Nat) : Nat := w.workers.count j + speaks w j

variable {c : Command} {channel : List Command}

theorem messages_cons :
    messages (c :: channel) j = messages channel j + (carries c).toList.count j := by
  cases h : carries c with
  | none => simp [messages, h]
  | some m => simp [messages, h, count_cons]

theorem messages_append :
    messages (channel ++ [c]) j = messages channel j + (carries c).toList.count j := by
  cases h : carries c with
  | none => simp [messages, h]
  | some m => simp [messages, h, filterMap_append]

/-- One speaker per started job, whose context is cancelled while it is not in flight. -/
structure Sound (w : World) : Prop where
  books : Books w.loop
  single : ∀ j, batons w j ≤ 1
  known : ∀ j, 0 < batons w j → j < w.loop.nextJob ∧ (w.loop.jobs j).started = true
  guarded : ∀ j, 0 < batons w j → InFlight w.loop j ∨ (w.loop.jobs j).ctxCancelled = true

section Step

variable {w' : World}

theorem Sound.of_batons (h : Sound w) (hfollows : Follows w.loop w'.loop)
    (hbatons : ∀ j, 0 < batons w' j → batons w' j ≤ batons w j ∧
        (InFlight w.loop j → InFlight w'.loop j ∨ (w'.loop.jobs j).ctxCancelled = true) ∨
      batons w' j = 1 ∧ ∃ i, w'.loop.leases i = some j) : Sound w' where
  books := hfollows.books
  single j := by
    rcases Nat.eq_zero_or_pos (batons w' j) with hzero | hpos
    · rw [hzero]
      exact Nat.zero_le 1
    · rcases hbatons j hpos with ⟨hle, -⟩ | ⟨hone, -⟩
      · exact hle.trans (h.single j)
      · exact hone.le
  known j hpos := by
    rcases hbatons j hpos with ⟨hle, -⟩ | ⟨-, i, hl⟩
    · obtain ⟨hlt, hs⟩ := h.known j (hpos.trans_le hle)
      exact ⟨hlt.trans_le hfollows.grows.next, (hfollows.grows.jobs j hlt).started hs⟩
    · obtain ⟨hin, -, hs⟩ := hfollows.books.leased i j hl
      exact ⟨hfollows.books.bounded j hin, hs⟩
  guarded j hpos := by
    rcases hbatons j hpos with ⟨hle, hkeep⟩ | ⟨-, i, hl⟩
    · have hpos' := hpos.trans_le hle
      rcases h.guarded j hpos' with hin | hc
      · exact hkeep hin
      · exact .inr ((hfollows.grows.jobs j (h.known j hpos').1).ctxCancelled hc)
    · exact .inl (hfollows.books.leased i j hl).1

theorem Sound.shift (h : Sound w) (hfollows : Follows w.loop w'.loop)
    (hflight : w'.loop.inflight = w.loop.inflight) (hbatons : ∀ j, batons w' j = batons w j) :
    Sound w' := by
  refine h.of_batons hfollows fun j _ => .inl ⟨(hbatons j).le, fun hin => .inl ?_⟩
  rw [InFlight, hflight]
  exact hin

variable {rest : List Command} {answers : Answers}

theorem speaks_take (hfree : w.resending = none) (hchannel : w.channel = c :: rest) (j : Nat) :
    speaks w j = messages rest j + w.loop.launched.count j + (carries c).toList.count j := by
  rw [speaks, hfree, hchannel, messages_cons]
  simp only [map_none, toList_none, count_nil]
  omega

theorem loopEvent_result {answers' : Answers} {r : OperationResult}
    (h : loopEvent w answers c = some (.result j r answers')) : ∃ r', c = .result j r' := by
  cases c with
  | request q => cases q <;> cases h
  | result m r' =>
    simp only [loopEvent, some.injEq, Coordinator.Event.result.injEq] at h
    exact ⟨r', by rw [h.1]⟩
  | _ => cases h

theorem loopEvent_ne_dispatchLogs : loopEvent w answers c ≠ some (.dispatchLogs j) := by
  cases c with
  | request q => cases q <;> exact fun h => by cases h
  | _ => exact fun h => by cases h

theorem lease_fresh (h : Sound w) {i : AuthInstanceID} {n : Nat}
    (hl : ({ w with channel := rest }.handle answers c).loop.leases i = some n)
    (hne : w.loop.leases i ≠ some n) : batons w n = 0 := by
  by_contra hpos
  have hknown := h.known n (Nat.pos_of_ne_zero hpos)
  rw [loop_handle] at hl
  cases hevent : loopEvent { w with channel := rest } answers c with
  | none =>
    rw [hevent] at hl
    exact hne hl
  | some le =>
    rw [hevent] at hl
    exact (lease_step h.books hl).elim hne fun hnot => hnot hknown

theorem speaks_handle (answers : Answers) (hfree : w.resending = none)
    (hchannel : w.channel = c :: rest) (j : Nat) :
    speaks ({ w with channel := rest }.handle answers c) j ≤ speaks w j := by
  have hloop := loop_handle { w with channel := rest } answers c
  have hresend := resending_handle { w with channel := rest } answers c hfree
  rw [speaks_take hfree hchannel, speaks, channel_handle]
  generalize ({ w with channel := rest } : World).handle answers c = w' at *
  have hlaunched : w'.loop.launched = w.loop.launched ∨
      ∃ n, carries c = some n ∧ w'.loop.launched = n :: w.loop.launched := by
    cases hevent : loopEvent { w with channel := rest } answers c with
    | none =>
      rw [hevent] at hloop
      exact .inl (congrArg LoopState.launched hloop)
    | some le =>
      rw [hevent] at hloop
      have hloop' : w'.loop = Coordinator.step w.loop le := hloop
      rcases launched_step w.loop le with hsame | ⟨n, r, a, rfl, -, hnew, -⟩ | ⟨n, rfl, -⟩
      · exact .inl (hloop' ▸ hsame)
      · obtain ⟨r', rfl⟩ := loopEvent_result hevent
        exact .inr ⟨n, rfl, hloop' ▸ hnew⟩
      · exact absurd hevent loopEvent_ne_dispatchLogs
  rcases hresend with hnone | ⟨n, r, fails, r', rfl, -, hsome⟩
  · rw [hnone]
    simp only [map_none, toList_none, count_nil, Nat.add_zero]
    rcases hlaunched with hsame | ⟨n, hn, hnew⟩
    · rw [hsame]
      omega
    · rw [hnew, hn, count_cons, toList_some, count_singleton]
      omega
  · have hsame : w'.loop.launched = w.loop.launched := by
      rw [hloop]
      simp only [loopEvent, elim_some, Coordinator.step, logCallback]
      split <;> rfl
    rw [hsome, hsame]
    simp [carries]

theorem batons_handle (h : Sound w) (hfree : w.resending = none)
    (hchannel : w.channel = c :: rest) :
    batons ({ w with channel := rest }.handle answers c) j ≤ batons w j ∨
      batons ({ w with channel := rest }.handle answers c) j = 1 ∧
        ∃ i, ({ w with channel := rest }.handle answers c).loop.leases i = some j := by
  have hspeaks := speaks_handle answers hfree hchannel j
  rcases workers_handle { w with channel := rest } answers c with
    ⟨hsame, -⟩ | ⟨i, n, hl, hne, hnew, -⟩
  · refine .inl ?_
    rw [batons, batons, hsame]
    exact Nat.add_le_add_left hspeaks _
  · by_cases hj : n = j
    · subst hj
      have hfresh : batons w n = 0 := lease_fresh h hl hne
      refine .inr ⟨?_, i, hl⟩
      rw [batons] at hfresh
      rw [batons, hnew, count_cons]
      simp only [beq_self_eq_true, if_true]
      omega
    · refine .inl ?_
      rw [batons, batons, hnew, count_cons]
      simp only [beq_iff_eq, hj, if_false, Nat.add_zero]
      exact Nat.add_le_add_left hspeaks _

theorem inflight_result (h : Sound w) {r : OperationResult} (hfree : w.resending = none)
    (hchannel : w.channel = .result j r :: rest)
    (hpos : 0 < batons ({ w with channel := rest }.handle answers (.result j r)) j) :
    ({ w with channel := rest }.handle answers (.result j r)).loop.inflight = w.loop.inflight := by
  have hbefore : batons w j = w.workers.count j +
      (messages rest j + w.loop.launched.count j + 1) := by
    rw [batons, speaks_take hfree hchannel, carries, toList_some, count_singleton_self]
  have hone := h.single j
  have hloop := loop_handle { w with channel := rest } answers (.result j r)
  rw [hloop]
  rcases launched_step w.loop (.result j r answers) with hsame |
    ⟨n, r', a, he, -, -, hin⟩ | ⟨n, he, -⟩
  · -- no dispatch: the message was the only speaker
    refine absurd hpos ?_
    have hworkers : ({ w with channel := rest }.handle answers (.result j r)).workers.count j =
        w.workers.count j := by
      rcases workers_handle { w with channel := rest } answers (.result j r) with
        ⟨hw, -⟩ | ⟨i, n, hl, hne, hw, -⟩
      · rw [hw]
      · have hfresh := lease_fresh h hl hne
        have hn : n ≠ j := by
          rintro rfl
          omega
        rw [hw, count_cons_of_ne hn]
    have hresend : ({ w with channel := rest }.handle answers (.result j r)).resending = none :=
      (launch_field World.resending (by intros; rfl) _ _ _).trans hfree
    have hlaunched : ({ w with channel := rest }.handle answers (.result j r)).loop.launched =
        w.loop.launched := by
      rw [hloop]
      exact hsame
    rw [batons, speaks, hworkers, channel_handle, hlaunched, hresend]
    simp only [map_none, toList_none, count_nil]
    omega
  · exact hin
  · cases he

theorem guarded_handle (h : Sound w) (hrun : w.exited = false) (hfree : w.resending = none)
    (hchannel : w.channel = c :: rest) (hin : InFlight w.loop j)
    (hs : (w.loop.jobs j).started = true)
    (hpos : 0 < batons ({ w with channel := rest }.handle answers c) j) :
    InFlight ({ w with channel := rest }.handle answers c).loop j ∨
      (({ w with channel := rest }.handle answers c).loop.jobs j).ctxCancelled = true := by
  have hloop := loop_handle { w with channel := rest } answers c
  have hfollows := follows_move (w := w) h.books (.take c rest answers rfl hrun hfree hchannel rfl)
  have hlt := h.books.bounded j hin
  cases hevent : loopEvent { w with channel := rest } answers c with
  | none =>
    rw [hevent] at hloop
    rw [hloop]
    exact .inl hin
  | some le =>
    rw [hevent] at hloop
    have hstep := holdsOn_step h.books (e := le) hin hs
    rw [show Coordinator.step w.loop le = _ from hloop.symm] at hstep
    rcases hstep with hkeep | hstop | ⟨r, a, rfl⟩
    · exact .inl hkeep
    · exact .inr (hfollows.books.fenced j (hlt.trans_le hfollows.grows.next)
        ((hfollows.grows.jobs j hlt).started hs) hstop)
    · obtain ⟨r', rfl⟩ := loopEvent_result hevent
      refine .inl ?_
      rw [InFlight, inflight_result h hfree hchannel hpos]
      exact hin

theorem Sound.move (h : Sound w) {e : Event} (hmove : Move w e w') : Sound w' := by
  have hfollows := follows_move h.books hmove
  cases hmove with
  | quiet same channel =>
    refine h.shift hfollows (by rw [same.loop]) fun j => ?_
    rw [batons, batons, speaks, speaks, same.workers, channel, same.loop, same.resending]
  | request q room same channel | drain event room same channel =>
    refine h.shift hfollows (by rw [same.loop]) fun j => ?_
    rw [batons, batons, speaks, speaks, same.workers, channel, same.loop, same.resending,
      messages_append]
    rfl
  | workerSend j r mem phase room step =>
    subst step
    refine h.shift hfollows rfl fun m => ?_
    have hmem : 0 < w.workers.count j := count_pos_iff.2 mem
    simp only [batons, speaks, World.push, messages_append, carries, toList_some]
    by_cases hm : j = m
    · subst hm
      rw [count_erase_self, count_singleton_self]
      omega
    · rw [count_erase_of_ne (.symm hm), count_singleton, if_neg (by simpa using hm)]
      omega
  | timer j mem room step =>
    subst step
    refine h.shift hfollows rfl fun m => ?_
    simp [batons, speaks, World.push, messages_append, carries]
  | logsSend j fails mem room step =>
    subst step
    refine h.shift hfollows rfl fun m => ?_
    have hmem : 0 < w.loop.launched.count j := count_pos_iff.2 mem
    simp only [batons, speaks, World.push, messages_append, carries, toList_some, Coordinator.step]
    by_cases hm : j = m
    · subst hm
      rw [count_erase_self, count_singleton_self]
      omega
    · rw [count_erase_of_ne (.symm hm), count_singleton, if_neg (by simpa using hm)]
      omega
  | probe j suppressUntil step =>
    subst step
    refine h.shift hfollows ?_ fun m => ?_
    · simp only [Coordinator.step]
      split <;> rfl
    · simp only [batons, speaks, Coordinator.step]
      split <;> rfl
  | resend j r resending room step =>
    subst step
    refine h.shift hfollows rfl fun m => ?_
    simp only [batons, speaks, World.push, messages_append, carries, resending, map_some,
      map_none, toList_some, toList_none, count_nil]
    omega
  | exit event running resending closed step =>
    subst step
    refine h.of_batons hfollows fun j hpos => .inl ⟨le_rfl, fun hin => .inr ?_⟩
    have hs := (h.known j hpos).2
    simp [shutDown, complete, mem_values.2 hin, hs]
  | take c rest answers event running resending channel step =>
    subst step
    refine h.of_batons hfollows fun j hpos => ?_
    rcases batons_handle h resending channel with hle | hnew
    · exact .inl ⟨hle, fun hin =>
        guarded_handle h running resending channel hin (h.known j (hpos.trans_le hle)).2 hpos⟩
    · exact .inr hnew

theorem sound_initial (unused : Job) : Sound (World.initial unused) where
  books := books_initial unused
  single j := by simp [batons, speaks, World.initial, messages, Coordinator.initial]
  known j hpos := by simp [batons, speaks, World.initial, messages, Coordinator.initial] at hpos
  guarded j hpos := by simp [batons, speaks, World.initial, messages, Coordinator.initial] at hpos

end Step

def worldAt (unused : Job) (events : Nat → Event) (k : Nat) : World :=
  stateAt World.step (World.initial unused) events k

theorem sound_worldAt (unused : Job) (events : Nat → Event) (k : Nat) :
    Sound (worldAt unused events k) :=
  invariant_stateAt (sound_initial unused) (fun w e h => .move h (move_step w e)) k

theorem one_speaker_per_job (unused : Job) (events : Nat → Event) (k j : Nat) :
    batons (worldAt unused events k) j = 0 ∨ batons (worldAt unused events k) j = 1 ∧
      (InFlight (worldAt unused events k).loop j ∨
        ((worldAt unused events k).loop.jobs j).ctxCancelled = true) := by
  obtain ⟨-, single, -, guarded⟩ := sound_worldAt unused events k
  rcases Nat.eq_zero_or_pos (batons (worldAt unused events k) j) with hzero | hpos
  · exact .inl hzero
  · exact .inr ⟨(single j).antisymm hpos, guarded j hpos⟩

end QuotaScheduler.CoordinatorWorkers

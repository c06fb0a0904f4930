/- Which step moves a worker to its send, gives a job its entry, or closes. -/

import QuotaScheduler.CoordinatorCalls

namespace QuotaScheduler.CoordinatorPhases

open Coordinator hiding Event
open Coordinator.LoopState CoordinatorSystem CoordinatorSystem.World CoordinatorCalls
open CoordinatorWorkers Function

theorem phase_launch (w : World) (before : LoopState) (i : AuthInstanceID) {j : Nat}
    {r : OperationResult} (h : (w.launch before i).phase j = .sending r) :
    w.phase j = .sending r := by
  unfold launch at h
  split at h
  · exact h
  · split at h
    · exact h
    · next m _ =>
      by_cases hj : j = m
      · subst hj
        simp [setPhase] at h
      · simpa [setPhase, hj] using h

variable {answers : Answers}

theorem phase_handle (w : World) (c : Command) {j : Nat} {r : OperationResult}
    (h : (w.handle answers c).phase j = .sending r) : w.phase j = .sending r := by
  cases c with
  | request q =>
    cases q with
    | submit intent entry =>
      have hbefore := phase_launch _ _ _ h
      exact hbefore
    | _ => exact h
  | expire m | result m r' =>
    have hbefore := phase_launch _ _ _ h
    exact hbefore
  | logCallback m r' fails | drain => exact h

theorem entryOf_handle (w : World) (answers : Answers) (c : Command) :
    (w.handle answers c).entryOf = w.entryOf ∨ ∃ intent entry, c = .request (.submit intent entry) ∧
        w.loop.reply intent (nonceOf w intent) = some w.loop.nextJob ∧
        (w.handle answers c).entryOf = update w.entryOf w.loop.nextJob entry := by
  have hlaunch := launch_field World.entryOf (by intros; rfl)
  cases c with
  | request q =>
    cases q with
    | submit intent entry =>
      have hentry : (w.handle answers (.request (.submit intent entry))).entryOf =
          if w.loop.reply intent (nonceOf w intent) = some w.loop.nextJob then
            update w.entryOf w.loop.nextJob entry else w.entryOf :=
        hlaunch _ _ _
      by_cases hf : w.loop.reply intent (nonceOf w intent) = some w.loop.nextJob
      · rw [if_pos hf] at hentry
        exact .inr ⟨intent, entry, rfl, hf, hentry⟩
      · rw [if_neg hf] at hentry
        exact .inl hentry
    | _ => exact .inl rfl
  | expire m | result m r' => exact .inl (hlaunch _ _ _)
  | logCallback m r' fails | drain => exact .inl rfl

/-- What a step does to a job's worker and entry; only `Close` closes the coordinator. -/
structure WorkerStep (w : World) (e : Event) (w' : World) : Prop where
  entryOf : w'.entryOf = w.entryOf ∨ ∃ intent entry, handles w e = some (.submit intent entry) ∧
      replyTo w (.submit intent entry) = some w.loop.nextJob ∧
      w'.entryOf = Function.update w.entryOf w.loop.nextJob entry
  phase : ∀ j r, w'.phase j = .sending r → w.phase j = .sending r ∨
    j ∈ w.workers ∧ (∀ n, w.entryOf j = some n →
      e = .allocate j none ∧ w.phase j = .starting ∨ (w'.entries n).done = true)
  stage : e ≠ .close → w'.stage = w.stage

variable {w w' : World}

theorem WorkerStep.same {e : Event} (hentry : w'.entryOf = w.entryOf) (hphase : w'.phase = w.phase)
    (hstage : w'.stage = w.stage) : WorkerStep w e w' :=
  ⟨.inl hentry, fun j r h => .inl (by rw [← hphase]; exact h), fun _ => hstage⟩

theorem workerStep_close (hentry : w'.entryOf = w.entryOf) (hphase : w'.phase = w.phase) :
    WorkerStep w .close w' :=
  ⟨.inl hentry, fun j r h => .inl (by rw [← hphase]; exact h), fun h => absurd rfl h⟩

theorem workerStep_take {c : Command} {rest : List Command}
    (hrun : w.exited = false) (hfree : w.resending = none) (hchannel : w.channel = c :: rest) :
    WorkerStep w (.receive answers) ({ w with channel := rest }.handle answers c) := by
  refine ⟨?_, fun j r h => .inl (phase_handle { w with channel := rest } c h),
    fun _ => handle_field World.stage (by intros; rfl) { w with channel := rest } answers c⟩
  rcases entryOf_handle { w with channel := rest } answers c with
    hsame | ⟨intent, entry, rfl, hreply, hnew⟩
  · exact .inl hsame
  · refine .inr ⟨intent, entry, ?_, hreply, hnew⟩
    rw [handles, taken_of_head hrun hfree hchannel]
    rfl

theorem WorkerStep.worker {e : Event} {j : Nat} {p : WorkerPhase} (hentry : w'.entryOf = w.entryOf)
    (hphase : w'.phase = update w.phase j p) (hstage : w'.stage = w.stage)
    (hsends : ∀ r, p = .sending r → j ∈ w.workers ∧ ∀ n, w.entryOf j = some n →
      e = .allocate j none ∧ w.phase j = .starting ∨ (w'.entries n).done = true) :
    WorkerStep w e w' := by
  refine ⟨.inl hentry, fun m r hm => ?_, fun _ => hstage⟩
  rw [hphase] at hm
  by_cases hj : m = j
  · subst hj
    rw [update_self] at hm
    exact .inr (hsends r hm)
  · rw [update_of_ne hj] at hm
    exact .inl hm

theorem workerStep_of_branch {e : Event} (h : Branch w e w') : WorkerStep w e w' := by
  cases h with
  | returned l f waits replied =>
    simp only [World.callReturn, waits, replied]
    split <;> exact .same rfl rfl rfl
  | closes | closeDrain => exact workerStep_close rfl rfl
  | take answers c rest running resending channel =>
    exact workerStep_take running resending channel
  | executes j seq | allocates j n seq => exact .worker rfl rfl rfl fun r hr => by cases hr
  | unallocated j mem starting =>
    exact .worker rfl rfl rfl fun r _ => ⟨mem, fun n _ => .inl ⟨rfl, starting⟩⟩
  | finishes j r mem plain =>
    refine .worker rfl rfl rfl fun _ _ => ⟨mem, fun n hn => ?_⟩
    rw [plain] at hn
    cases hn
  | finishesRead j r n mem entry =>
    refine .worker rfl rfl rfl fun _ _ => ⟨mem, fun n' hn => .inr ?_⟩
    rw [entry, Option.some.injEq] at hn
    subst hn
    simp [setPhase, setEntry]
  | _ => exact .same rfl rfl rfl

theorem workerStep_step (w : World) (e : Event) : WorkerStep w e (w.step e) :=
  workerStep_of_branch branch_step

end QuotaScheduler.CoordinatorPhases

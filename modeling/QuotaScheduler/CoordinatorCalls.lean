/- A cancel that returns has been handled by the loop. -/

import QuotaScheduler.CoordinatorWorkers

namespace QuotaScheduler.CoordinatorCalls

open Coordinator hiding Event
open Coordinator.LoopState CoordinatorMoves CoordinatorSystem CoordinatorSystem.World
open CoordinatorWorkers Lib.Runs List Option

def asRequest : Command → Option Request
  | .request q => some q
  | _ => none

def requests (channel : List Command) : List Request := channel.filterMap asRequest

def taken (w : World) : Event → Option Command
  | .receive _ => if w.exited || w.resending.isSome then none else w.channel.head?
  | _ => none

def handles (w : World) (e : Event) : Option Request := (taken w e).bind asRequest

def nonceOf (w : World) (intent : Intent) : Nat :=
  if intent.cls = .probeSend then w.typedNonce + 1 else w.typedNonce

def replyTo (w : World) : Request → Option Nat
  | .submit intent _ => w.loop.reply intent (nonceOf w intent)
  | _ => none

def cancelled : Request → Option (List AuthInstanceID)
  | .cancel instances => some instances
  | _ => none

variable {w : World} {c : Command} {e : Event} {q : Request}

theorem taken_of_head {rest : List Command} (hrun : w.exited = false) (hfree : w.resending = none)
    (hchannel : w.channel = c :: rest) (answers : Answers) :
    taken w (.receive answers) = some c := by
  simp [taken, hrun, hfree, hchannel]

inductive CallMove (w : World) (e : Event) (w' : World) : Prop
  | same (lifecycle : w'.lifecycle = w.lifecycle)
      (requests : requests w'.channel = requests w.channel) (clears : w'.clears = w.clears)
  | called (q : Request) (free : w.lifecycle = none)
      (lifecycle : w'.lifecycle = some { request := q })
      (requests : requests w'.channel = requests w.channel) (clears : w'.clears = w.clears)
  | sent (l : LifecycleCall) (waits : w.lifecycle = some l) (unsent : l.sent = false)
      (lifecycle : w'.lifecycle = some { l with sent := true })
      (requests : requests w'.channel = requests w.channel ++ [l.request])
      (clears : w'.clears = w.clears)
  | served (q : Request) (handles : handles w e = some q)
      (lifecycle : w'.lifecycle = w.lifecycle.map fun l => { l with reply := some (replyTo w q) })
      (requests : requests w.channel = q :: requests w'.channel) (clears : w'.clears = w.clears)
  | returned (l : LifecycleCall) (f : Option Nat) (waits : w.lifecycle = some l)
      (replied : l.reply = some f) (lifecycle : w'.lifecycle = none)
      (requests : requests w'.channel = requests w.channel)
      (clears : w'.clears = (cancelled l.request).toList ++ w.clears)
  | cleared (instances : List AuthInstanceID) (event : e = .clearTypedReads instances)
      (free : w.typed = none) (mem : instances ∈ w.clears) (lifecycle : w'.lifecycle = w.lifecycle)
      (requests : requests w'.channel = requests w.channel)
      (clears : w'.clears = w.clears.erase instances)

theorem requests_append_of_none {channel : List Command} (h : asRequest c = none) :
    requests (channel ++ [c]) = requests channel := by
  simp [requests, h]

variable {answers : Answers}

theorem callMove_take {rest : List Command} (hrun : w.exited = false)
    (hfree : w.resending = none) (hchannel : w.channel = c :: rest) :
    CallMove w (.receive answers) ({ w with channel := rest }.handle answers c) := by
  have hrest : requests ({ w with channel := rest }.handle answers c).channel = requests rest := by
    rw [channel_handle]
  have hclears := handle_field World.clears (by intros; rfl) { w with channel := rest } answers c
  have hlaunch := launch_field World.lifecycle (by intros; rfl)
  cases c with
  | request q =>
    refine .served q (by rw [handles, taken_of_head hrun hfree hchannel]; rfl) ?_
      (by rw [hrest, hchannel]; rfl) hclears
    cases q with
    | submit intent entry => exact hlaunch _ _ _
    | _ => rfl
  | expire j | result j r => exact .same (hlaunch _ _ _) (by rw [hrest, hchannel]; rfl) hclears
  | logCallback j r fails | drain => exact .same rfl (by rw [hrest, hchannel]; rfl) hclears

theorem callMove_of_branch {w' : World} (h : Branch w e w') : CallMove w e w' := by
  cases h with
  | called e q plain free | numberedCall e q plain free => exact .called q free rfl rfl rfl
  | submitted t waits unsent free => exact .called _ free rfl rfl rfl
  | sent l waits unsent room =>
    exact .sent l waits unsent rfl (by simp [World.push, requests, asRequest]) rfl
  | returned l f waits replied =>
    simp only [World.callReturn, waits, replied]
    refine .returned l f waits replied ?_ ?_ ?_ <;> cases l.request with
      | submit intent entry => cases entry <;> rfl
      | _ => rfl
  | cleared instances free mem => exact .cleared instances rfl free mem rfl rfl rfl
  | drainLegacy | closeDrain | resend | workerSend | timer | logsSend =>
    exact .same rfl (requests_append_of_none rfl) rfl
  | take answers c rest running resending channel =>
    exact callMove_take running resending channel
  | _ => exact .same rfl rfl rfl

theorem callMove_step (w : World) (e : Event) : CallMove w e (w.step e) :=
  callMove_of_branch branch_step

theorem taken_cases (h : taken w e = some c) :
    ∃ answers rest, e = .receive answers ∧ w.exited = false ∧ w.resending = none ∧
      w.channel = c :: rest ∧ w.step e = { w with channel := rest }.handle answers c := by
  cases e with
  | receive answers =>
    simp only [taken] at h
    split at h
    · cases h
    · next hfree =>
      cases hc : w.channel with
      | nil =>
        rw [hc] at h
        cases h
      | cons c' rest =>
        rw [hc, head?_cons, some.injEq] at h
        subst h
        have hstep : w.step (.receive answers) = { w with channel := rest }.handle answers c' := by
          simp only [World.step, World.receive, hfree, hc, Bool.false_eq_true, if_false]
        simp only [Bool.or_eq_true, not_or, Bool.not_eq_true, isSome_eq_false_iff,
          isNone_iff_eq_none] at hfree
        exact ⟨answers, rest, rfl, hfree.1, hfree.2, rfl, hstep⟩
  | _ => cases h

theorem taken_of_handles (h : handles w e = some q) : taken w e = some (.request q) := by
  obtain ⟨c, hc, hq⟩ := bind_eq_some_iff.1 h
  cases c with
  | request q' =>
    rw [hc]
    exact congrArg (fun q => some (Command.request q)) (some.inj hq)
  | _ => cases hq

theorem served_of_handles (h : handles w e = some q) :
    (w.step e).lifecycle = w.lifecycle.map (fun l => { l with reply := some (replyTo w q) }) ∧
      ∃ rest, requests w.channel = q :: rest := by
  obtain ⟨answers, rest, -, -, -, hchannel, hstep⟩ := taken_cases (taken_of_handles h)
  rw [hstep, hchannel]
  refine ⟨?_, requests rest, rfl⟩
  cases q with
  | submit intent entry => exact launch_field World.lifecycle (by intros; rfl) _ _ _
  | _ => rfl

def requestLoop (w : World) : Request → LoopState
  | .submit intent _ => w.loop.submit intent (nonceOf w intent)
  | .snapshot => w.loop
  | .cancel instances => w.loop.cancel instances
  | .activate generations => w.loop.activate generations
  | .restore generations => w.loop.restore generations

inductive LoopMove (w : World) (e : Event) (t : LoopState) : Prop
  | request (q : Request) (handles : handles w e = some q) (step : t = requestLoop w q)
  | other (le : Coordinator.Event) (handles : handles w e = none) (plain : ofMethod le = false)
      (step : t = Coordinator.step w.loop le)
  | same (handles : handles w e = none) (step : t = w.loop)
  | ended (handles : handles w e = none) (step : t = shutDown w.loop)

theorem handles_of_ne (he : ∀ answers, e ≠ .receive answers) : handles w e = none := by
  cases e with
  | receive answers => exact absurd rfl (he answers)
  | _ => rfl

theorem loopMove_receive : LoopMove w (.receive answers) (w.receive answers).loop := by
  unfold World.receive
  split
  · next h => exact .same (by simp only [handles, taken, h, if_true, bind_none]) rfl
  · next h =>
    have hhead : handles w (.receive answers) = w.channel.head?.bind asRequest := by
      simp only [handles, taken, h, Bool.false_eq_true, if_false]
    split
    · next hc => exact .same (by rw [hhead, hc]; rfl) rfl
    · next c rest hc =>
      rw [hc] at hhead
      have hloop := loop_handle { w with channel := rest } answers c
      cases c with
      | request q =>
        refine .request q hhead (hloop.trans ?_)
        cases q <;> rfl
      | expire j => exact .other (.expire j answers.inheritFails) hhead rfl hloop
      | result j r => exact .other (.result j r answers) hhead rfl hloop
      | logCallback j r fails => exact .other (.logCallback j r fails) hhead rfl hloop
      | drain => exact .other .drain hhead rfl hloop

theorem loopMove_step (w : World) (e : Event) : LoopMove w e (w.step e).loop := by
  by_cases he : ∃ answers, e = .receive answers
  · obtain ⟨answers, rfl⟩ := he
    exact loopMove_receive
  · have hnone := handles_of_ne (w := w) fun answers h => he ⟨answers, h⟩
    cases move_step w e with
    | quiet same | request q room same | drain event room same => exact .same hnone same.loop
    | workerSend j r mem phase room step | timer j mem room step =>
      exact .same hnone (by rw [step]; rfl)
    | logsSend j fails mem room step => exact .other (.dispatchLogs j) hnone rfl (by rw [step])
    | probe j suppressUntil step =>
      exact .other (.markProbeSent j suppressUntil) hnone rfl (by rw [step])
    | resend j r resending room step => exact .same hnone (by rw [step]; rfl)
    | exit event running resending closed step => exact .ended hnone (by rw [step])
    | take c rest answers event => exact absurd ⟨answers, event⟩ he

theorem loop_of_handles (h : handles w e = some q) : (w.step e).loop = requestLoop w q := by
  cases loopMove_step w e with
  | request q' handles step =>
    rw [h, some.injEq] at handles
    rw [step, handles]
  | other le handles | same handles | ended handles => rw [h] at handles; cases handles

def waiting : Option LifecycleCall → List Request
  | some l => if l.sent && l.reply.isNone then [l.request] else []
  | none => []

/-- The channel has at most the request of the method that waits; a reply follows the send. -/
structure Serialised (w : World) : Prop where
  channel : requests w.channel = waiting w.lifecycle
  replied : ∀ l f, w.lifecycle = some l → l.reply = some f → l.sent = true

theorem Serialised.caller (h : Serialised w) {rest : List Request}
    (hq : requests w.channel = q :: rest) :
    rest = [] ∧ ∃ l, w.lifecycle = some l ∧ l.request = q ∧ l.sent = true ∧ l.reply = none := by
  rw [h.channel] at hq
  cases hl : w.lifecycle with
  | none => simp [hl, waiting] at hq
  | some l =>
    rw [hl, waiting] at hq
    split at hq
    · next hsent =>
      simp only [Bool.and_eq_true, isNone_iff_eq_none] at hsent
      simp only [cons.injEq] at hq
      exact ⟨hq.2.symm, l, rfl, hq.1, hsent.1, hsent.2⟩
    · cases hq

theorem Serialised.move {w' : World} (h : Serialised w) (hmove : CallMove w e w') :
    Serialised w' := by
  cases hmove with
  | same lifecycle requests clears | cleared instances event free mem lifecycle requests clears =>
    exact ⟨by rw [requests, lifecycle, h.channel], by rw [lifecycle]; exact h.replied⟩
  | called q free lifecycle requests clears =>
    refine ⟨by rw [requests, lifecycle, h.channel, free]; rfl, fun l f hl hf => ?_⟩
    rw [lifecycle, some.injEq] at hl
    subst hl
    cases hf
  | sent l waits unsent lifecycle requests clears =>
    have hnone : l.reply = none := by
      cases hr : l.reply with
      | none => rfl
      | some f =>
        have := h.replied l f waits hr
        rw [unsent] at this
        cases this
    refine ⟨?_, fun l' f hl hf => ?_⟩
    · rw [requests, lifecycle, h.channel, waits]
      simp [waiting, unsent, hnone]
    · rw [lifecycle, some.injEq] at hl
      rw [← hl]
  | served q handles lifecycle requests clears =>
    obtain ⟨hrest, l, hl, hreq, hsent, -⟩ := h.caller requests
    rw [hl, map_some] at lifecycle
    refine ⟨?_, fun l' f hl' hf => ?_⟩
    · rw [hrest, lifecycle]
      simp [waiting]
    · rw [lifecycle, some.injEq] at hl'
      rw [← hl']
      exact hsent
  | returned l f waits replied lifecycle requests clears =>
    refine ⟨?_, fun l' f hl => ?_⟩
    · rw [requests, lifecycle, h.channel, waits]
      simp [waiting, replied]
    · rw [lifecycle] at hl
      cases hl

theorem serialised_worldAt (unused : Job) (events : Nat → Event) (k : Nat) :
    Serialised (worldAt unused events k) :=
  invariant_stateAt (P := Serialised) ⟨rfl, fun l f hl => by cases hl⟩
    (fun w e h => h.move (callMove_step w e)) k

theorem lifecycle_requests_take_turns (unused : Job) (events : Nat → Event) (k : Nat) :
    (requests (worldAt unused events k).channel).length ≤ 1 := by
  rw [(serialised_worldAt unused events k).channel]
  unfold waiting
  repeat' split
  all_goals simp

def Answered (w : World) (instances : List AuthInstanceID) : Prop :=
  instances ∈ w.clears ∨
    ∃ l, w.lifecycle = some l ∧ l.request = .cancel instances ∧ l.reply.isSome = true

theorem answered_move {w' : World} (h : Serialised w) (hmove : CallMove w e w')
    {instances : List AuthInstanceID} (hw : Answered w' instances) :
    Answered w instances ∨ handles w e = some (.cancel instances) := by
  cases hmove with
  | same lifecycle requests clears =>
    rw [Answered, lifecycle, clears] at hw
    exact .inl hw
  | called q free lifecycle requests clears =>
    rcases hw with hm | ⟨l, hl, hreq, hr⟩
    · exact .inl (.inl (clears ▸ hm))
    · rw [lifecycle, some.injEq] at hl
      subst hl
      cases hr
  | sent l waits unsent lifecycle requests clears =>
    rcases hw with hm | ⟨l', hl, hreq, hr⟩
    · exact .inl (.inl (clears ▸ hm))
    · rw [lifecycle, some.injEq] at hl
      subst hl
      exact .inl (.inr ⟨l, waits, hreq, hr⟩)
  | served q handles lifecycle requests clears =>
    obtain ⟨-, l, hl, rfl, -⟩ := h.caller requests
    rcases hw with hm | ⟨l', hl', hreq, -⟩
    · exact .inl (.inl (clears ▸ hm))
    · rw [lifecycle, hl, map_some, some.injEq] at hl'
      subst hl'
      rw [handles]
      exact .inr (congrArg some hreq)
  | returned l f waits replied lifecycle requests clears =>
    rcases hw with hm | ⟨l', hl, -⟩
    · rw [clears, mem_append] at hm
      rcases hm with hreq | hm
      · refine .inl (.inr ⟨l, waits, ?_, by rw [replied]; rfl⟩)
        cases hq : l.request with
        | cancel ids =>
          rw [hq] at hreq
          simp only [cancelled, toList_some, mem_singleton] at hreq
          rw [hreq]
        | _ =>
          rw [hq] at hreq
          simp [cancelled] at hreq
      · exact .inl (.inl hm)
    · rw [lifecycle] at hl
      cases hl
  | cleared ids event free mem lifecycle requests clears =>
    rw [Answered, lifecycle, clears] at hw
    exact .inl (hw.imp_left mem_of_mem_erase)

theorem handled_of_answered (unused : Job) (events : Nat → Event) {instances : List AuthInstanceID}
    {k : Nat} (h : Answered (worldAt unused events k) instances) :
    ∃ m, m < k ∧ handles (worldAt unused events m) (events m) = some (.cancel instances) := by
  induction k with
  | zero =>
    rcases h with hm | ⟨l, hl, -⟩
    · cases hm
    · cases hl
  | succ k ih =>
    rcases answered_move (serialised_worldAt unused events k) (callMove_step _ (events k)) h with
      hk | hk
    · obtain ⟨m, hm, hh⟩ := ih hk
      exact ⟨m, hm.trans k.lt_succ_self, hh⟩
    · exact ⟨k, k.lt_succ_self, hk⟩

end QuotaScheduler.CoordinatorCalls

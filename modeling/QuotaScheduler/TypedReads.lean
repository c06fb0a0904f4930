/- Which future `SubmitTyped` hands out when it joins a read. -/

import QuotaScheduler.CancelBarrier
import QuotaScheduler.CoordinatorPhases

namespace QuotaScheduler.TypedReads

open Coordinator hiding Event
open Coordinator.LoopState CoordinatorBooks CoordinatorMoves CoordinatorSystem
open CoordinatorSystem.World CoordinatorWorkers CoordinatorCalls CoordinatorReads CoordinatorPhases
open CancelBarrier Lib.Runs List Option Function

/-- A cancel of the instance is answered and has not cleared its typed reads. -/
def cancelPending (w : World) (i : AuthInstanceID) : Bool :=
  (w.clears.any fun instances => instances.contains i) ||
    (w.lifecycle.bind fun l => if l.reply.isSome then cancelled l.request else none).any
      fun instances => instances.contains i

def ended (w : World) (j : Nat) : Bool := (w.entryOf j).all fun n => (w.entries n).done

/-- A typed submission is a new job, no open read's lease runs out, and a drain finds none waiting.
-/
def orderlyCommand (w : World) : Command → Bool
  | .request (.submit intent (some _)) =>
    !w.loop.refuses intent && (w.loop.inflight.lookup (keyOf intent (nonceOf w intent))).isNone
  | .expire j => !w.loop.delivers j || ended w j
  | .drain => w.loop.queuedJobs.all (ended w)
  | _ => true

def orderly (w : World) : Event → Bool
  | .callTyped intent => !isTypedRead intent.cls || !cancelPending w intent.inst
  | .submitTyped => !w.closing || w.typed.all fun t => t.submitted
  | .receive answers => (taken w (.receive answers)).all (orderlyCommand w)
  | .exit => w.exited || w.resending.isSome || decide (w.stage ≠ .closed) ||
      w.loop.inflight.entries.all fun e => ended w e.2
  | .allocate j none => (w.entryOf j).isNone || !decide (j ∈ w.workers ∧ w.phase j = .starting)
  | _ => true

theorem speaks_step {w : World} {e : Event} {j : Nat} (h : 0 < speaks (w.step e) j) :
    0 < speaks w j ∨ ∃ r, w.phase j = .sending r := by
  have hmove := move_step w e
  generalize w.step e = w' at h hmove
  cases hmove with
  | quiet same channel =>
    rw [speaks, channel, same.loop, same.resending] at h
    exact .inl h
  | request q room same channel | drain event room same channel =>
    rw [speaks, channel, same.loop, same.resending, messages_append] at h
    exact .inl h
  | workerSend m r mem phase room step =>
    by_cases hj : m = j
    · subst hj
      exact .inr ⟨r, phase⟩
    · subst step
      rw [speaks, World.push, messages_append, carries, toList_some,
        count_singleton, if_neg (by simpa using hj)] at h
      exact .inl h
  | timer m mem room step =>
    subst step
    rw [speaks, World.push, messages_append] at h
    exact .inl h
  | logsSend m fails mem room step =>
    subst step
    refine .inl ?_
    by_cases hj : m = j
    · subst hj
      have := count_pos_iff.2 mem
      rw [speaks]
      omega
    · rw [speaks, World.push, messages_append, carries, toList_some, count_singleton,
        if_neg (by simpa using hj)] at h
      simp only [Coordinator.step, count_erase_of_ne (.symm hj)] at h
      exact h
  | probe m suppressUntil step =>
    subst step
    simp only [speaks, Coordinator.step] at h
    split at h <;> exact .inl h
  | resend m r resending room step =>
    subst step
    rw [speaks, World.push, messages_append, carries] at h
    rw [speaks, resending]
    simp only [map_none, toList_none, count_nil, map_some] at h ⊢
    omega
  | exit event running resending closed step =>
    subst step
    exact .inl h
  | take c rest answers event running resending channel step =>
    subst step
    exact .inl (h.trans_le (speaks_handle answers resending channel j))

def Owns (w : World) (j n : Nat) (i : AuthInstanceID) : Prop :=
  w.entryOf j = some n ∧ (w.loop.jobs j).intent.inst = i

/-- What ties the entries of the typed reads to their jobs. -/
structure Joinable (w : World) : Prop where
  numbered : ∀ j n, w.entryOf j = some n → n ≤ w.typedNonce
  bounded : ∀ j, w.loop.nextJob ≤ j → w.entryOf j = none ∧ ∀ r, w.phase j ≠ .sending r
  placed : ∀ j n, w.entryOf j = some n → (w.entries n).done = false →
    n ∈ w.typedReads (w.loop.jobs j).intent.inst ∨
      ∃ t, w.typed = some t ∧ t.entry = n ∧ t.intent.inst = (w.loop.jobs j).intent.inst
  silent : ∀ j n, w.entryOf j = some n → (w.entries n).done = false →
    speaks w j = 0 ∧ ∀ r, w.phase j ≠ .sending r
  live : ∀ j n, w.entryOf j = some n → (w.entries n).done = false →
    InFlight w.loop j ∨ ∃ instances, (w.loop.jobs j).intent.inst ∈ instances ∧ Answered w instances
  answered : ∀ l intent n f, w.lifecycle = some l → l.request = .submit intent (some n) →
    l.reply = some f → ∃ j, f = some j ∧ Owns w j n intent.inst
  replied : ∀ t f, w.typed = some t → t.reply = some f →
    ∃ j, f = some j ∧ Owns w j t.entry t.intent.inst
  tabled : ∀ i, ∀ n ∈ w.typedReads i, ∃ j, (w.entries n).future = some j ∧ Owns w j n i

theorem Joinable.bounded_of_some {w : World} (h : Joinable w) {j n : Nat}
    (hj : w.entryOf j = some n) : j < w.loop.nextJob := by
  by_contra hle
  rw [(h.bounded j (Nat.le_of_not_lt hle)).1] at hj
  cases hj

structure Accepted (w : World) (e : Event) (intent : Intent) (n : Nat) : Prop where
  handles : handles w e = some (.submit intent (some n))
  reply : replyTo w (.submit intent (some n)) = some w.loop.nextJob
  entryOf : (w.step e).entryOf = Function.update w.entryOf w.loop.nextJob (some n)

section Step

variable {w : World} {e : Event} {intent : Intent} {j n : Nat} {i : AuthInstanceID}
  {instances : List AuthInstanceID} {answers : Answers} {c : Command}

theorem accepted_step (hbooks : Books w.loop) {entry : Option Nat}
    (hq : handles w e = some (.submit intent entry))
    (hreply : replyTo w (.submit intent entry) = some w.loop.nextJob) :
    InFlight (w.step e).loop w.loop.nextJob ∧ w.loop.nextJob < (w.step e).loop.nextJob ∧
      ((w.step e).loop.jobs w.loop.nextJob).intent = intent := by
  rw [loop_of_handles hq, requestLoop]
  rw [replyTo] at hreply
  rcases submit_cases intent with
    ⟨-, ⟨j, hj, hreply'⟩ | ⟨-, hreply'⟩⟩ | ⟨hkey, -, -, hsubmit⟩
  · rw [hreply, some.injEq] at hreply'
    exact absurd (hbooks.bounded j ⟨_, hj⟩) (hreply' ▸ lt_irrefl _)
  · rw [hreply] at hreply'
    cases hreply'
  · obtain ⟨hintent, -, hnext⟩ := accepted_job hbooks hkey
    rw [hsubmit]
    refine ⟨⟨keyOf intent (nonceOf w intent), ?_⟩, hnext ▸ Nat.lt_succ_self _, hintent⟩
    rw [inflight_tryStart]
    simp [accept]

theorem entry_cases (hsound : Sound w) (h : Joinable w) (hj : (w.step e).entryOf j = some n) :
    w.entryOf j = some n ∧ j < w.loop.nextJob ∧
        ((w.step e).loop.jobs j).intent = (w.loop.jobs j).intent ∨
      ∃ intent, Accepted w e intent n ∧ j = w.loop.nextJob := by
  have hold : w.entryOf j = some n → w.entryOf j = some n ∧ j < w.loop.nextJob ∧
      ((w.step e).loop.jobs j).intent = (w.loop.jobs j).intent := fun hj =>
    have hlt := h.bounded_of_some hj
    ⟨hj, hlt, ((follows_move hsound.books (move_step w e)).grows.jobs j hlt).intent⟩
  rcases (workerStep_step w e).entryOf with hsame | ⟨intent, entry, hq, hreply, hnew⟩
  · rw [hsame] at hj
    exact .inl (hold hj)
  · by_cases hjob : j = w.loop.nextJob
    · subst hjob
      rw [hnew, update_self] at hj
      subst hj
      exact .inr ⟨intent, ⟨hq, hreply, hnew⟩, rfl⟩
    · rw [hnew, update_of_ne hjob] at hj
      exact .inl (hold hj)

theorem Owns.step (hsound : Sound w) (h : Joinable w) (hown : Owns w j n i) :
    Owns (w.step e) j n i := by
  have hlt := h.bounded_of_some hown.1
  refine ⟨?_, ?_⟩
  · rcases (workerStep_step w e).entryOf with hsame | ⟨intent, entry, hq, hreply, hnew⟩
    · rw [hsame]
      exact hown.1
    · rw [hnew, update_of_ne hlt.ne]
      exact hown.1
  · rw [((follows_move hsound.books (move_step w e)).grows.jobs j hlt).intent]
    exact hown.2

theorem nonce_step_le : w.typedNonce ≤ (w.step e).typedNonce := by
  cases readMove_step w e with
  | quiet typed keeps nonce request => exact nonce
  | opened t free typed fresh unsent open_ keeps reads nonce request =>
    rw [nonce, fresh]
    exact Nat.le_succ _
  | turnedAway t event closing waits unsent typed same => exact same.2.2.1.symm.le
  | submitted t waits unsent typed free lifecycle same
  | replied l intent n f waits request reply lifecycle typed same => exact same.2.2.symm.le
  | registered t f waits reply typed entries reads same => exact same.1.symm.le

theorem done_step (hn : n ≤ w.typedNonce) (hd : ((w.step e).entries n).done = false) :
    (w.entries n).done = false := by
  cases readMove_step w e with
  | quiet typed keeps nonce request => exact (keeps n).done hd
  | opened t free typed fresh unsent open_ keeps reads nonce request =>
    exact (keeps n (by omega)).done hd
  | turnedAway t event closing waits unsent typed same
  | submitted t waits unsent typed free lifecycle same
  | replied l intent n f waits request reply lifecycle typed same => rwa [same.1] at hd
  | registered t f waits reply typed entries reads same =>
    rw [entries] at hd
    by_cases hm : n = t.entry
    · subst hm
      rwa [update_self] at hd
    · rwa [update_of_ne hm] at hd

theorem caller_of_accepted (hserial : Serialised w) (hreg : Registered w)
    (h : Accepted w e intent n) :
    ∃ t, w.typed = some t ∧ (w.step e).typed = some t ∧ t.entry = n ∧ t.intent = intent := by
  obtain ⟨-, rest, hrest⟩ := served_of_handles h.handles
  obtain ⟨-, l, hl, hreq, -⟩ := hserial.caller hrest
  obtain ⟨t, ht, hn, hintent, -⟩ := hreg.own intent n (typedRequest_submit hl hreq)
  obtain ⟨answers, rest', -, -, -, -, hstep⟩ := taken_cases (taken_of_handles h.handles)
  refine ⟨t, ht, ?_, hn, hintent⟩
  rw [hstep, handle_field World.typed (by intros; rfl), ht]

theorem placed_step (hn : n ≤ w.typedNonce) (hd : ((w.step e).entries n).done = false)
    (h : n ∈ w.typedReads i ∨ ∃ t, w.typed = some t ∧ t.entry = n ∧ t.intent.inst = i) :
    n ∈ (w.step e).typedReads i ∨
      ∃ t, (w.step e).typed = some t ∧ t.entry = n ∧ t.intent.inst = i := by
  cases readMove_step w e with
  | quiet typed keeps nonce request =>
    rw [typed]
    exact h.imp_left fun hmem => (keeps n).kept i hmem hd
  | opened t free typed fresh unsent open_ keeps reads nonce request =>
    rcases h with hmem | ⟨t', ht', -⟩
    · exact .inl ((keeps n (by omega)).kept i hmem hd)
    · rw [free] at ht'
      cases ht'
  | turnedAway t event closing waits unsent typed same
  | submitted t waits unsent typed free lifecycle same =>
    rw [same.2.1]
    refine h.imp_right ?_
    rintro ⟨t', ht', hentry, hinst⟩
    rw [waits, some.injEq] at ht'
    subst ht'
    exact ⟨_, typed, hentry, hinst⟩
  | replied l intent m f waits request reply lifecycle typed same =>
    rw [same.2.1]
    refine h.imp_right ?_
    rintro ⟨t', ht', hentry, hinst⟩
    rw [ht', map_some] at typed
    refine ⟨_, typed, ?_, ?_⟩
    · split <;> exact hentry
    · split <;> exact hinst
  | registered t f waits reply typed entries reads same =>
    refine .inl ?_
    rw [reads]
    by_cases hi : i = t.intent.inst
    · subst hi
      rw [update_self, mem_append, mem_singleton]
      refine h.imp_right ?_
      rintro ⟨t', ht', hentry, -⟩
      rw [waits, some.injEq] at ht'
      rw [← hentry, ht']
    · rw [update_of_ne hi]
      refine h.resolve_right ?_
      rintro ⟨t', ht', -, hinst⟩
      rw [waits, some.injEq] at ht'
      exact hi (ht' ▸ hinst.symm)

theorem answered_or_clears (h : Answered w instances) : Answered (w.step e) instances ∨
      e = .clearTypedReads instances ∧ w.typed = none ∧ instances ∈ w.clears := by
  cases callMove_step w e with
  | same lifecycle requests clears =>
    refine .inl ?_
    rw [Answered, lifecycle, clears]
    exact h
  | called q free lifecycle requests clears =>
    rcases h with hm | ⟨l, hl, -⟩
    · exact .inl (.inl (clears ▸ hm))
    · rw [free] at hl
      cases hl
  | sent l waits unsent lifecycle requests clears =>
    rcases h with hm | ⟨l', hl, hreq, hr⟩
    · exact .inl (.inl (clears ▸ hm))
    · rw [waits, some.injEq] at hl
      subst hl
      exact .inl (.inr ⟨_, lifecycle, hreq, hr⟩)
  | served q hq lifecycle requests clears =>
    rcases h with hm | ⟨l', hl, hreq, -⟩
    · exact .inl (.inl (clears ▸ hm))
    · rw [hl, map_some] at lifecycle
      exact .inl (.inr ⟨_, lifecycle, hreq, rfl⟩)
  | returned l f waits replied lifecycle requests clears =>
    refine .inl (.inl ?_)
    rw [clears, mem_append]
    rcases h with hm | ⟨l', hl, hreq, -⟩
    · exact .inr hm
    · rw [waits, some.injEq] at hl
      subst hl
      rw [hreq]
      exact .inl (mem_singleton_self _)
  | cleared ids event free mem lifecycle requests clears =>
    by_cases hids : instances = ids
    · subst hids
      exact .inr ⟨event, free, mem⟩
    · refine .inl ?_
      rw [Answered, lifecycle, clears]
      exact h.imp_left fun hm => (mem_erase_of_ne hids).2 hm

theorem done_of_cleared (hfree : w.typed = none) (hmem : instances ∈ w.clears) (hi : i ∈ instances)
    (hn : n ∈ w.typedReads i) : ((w.step (.clearTypedReads instances)).entries n).done = true := by
  have hclears : (w.typed.isSome || !w.clears.contains instances) = false := by simp [hfree, hmem]
  have hany : (instances.any fun i => (w.typedReads i).contains n) = true :=
    List.any_eq_true.2 ⟨i, hi, by simpa using hn⟩
  simp only [World.step, clearTypedReads, hclears, Bool.false_eq_true, if_false, hany, if_true]

theorem loopEvent_expire {b : Bool} (h : loopEvent w answers c = some (.expire j b)) :
    c = .expire j := by
  cases c with
  | request q => cases q <;> cases h
  | expire m =>
    simp only [loopEvent, some.injEq, Coordinator.Event.expire.injEq] at h
    rw [h.1]
  | _ => cases h

theorem loopEvent_cancel (h : loopEvent w answers c = some (.cancel instances)) :
    c = .request (.cancel instances) := by
  cases c with
  | request q =>
    cases q with
    | cancel ids =>
      simp only [loopEvent, some.injEq, Coordinator.Event.cancel.injEq] at h
      rw [h]
    | _ => cases h
  | _ => cases h

theorem loopEvent_drain (h : loopEvent w answers c = some .drain) : c = .drain := by
  cases c with
  | request q => cases q <;> cases h
  | drain => rfl
  | _ => cases h

theorem not_ended (hj : w.entryOf j = some n) (hd : (w.entries n).done = false) :
    ended w j = false := by
  rw [ended, hj, all_some, hd]

/-- An open read stays in flight, or a cancel of its instance is on its way. -/
theorem live_step (hsound : Sound w) (hserial : Serialised w) (h : Joinable w)
    (horderly : orderly w e = true) (hj : w.entryOf j = some n) (hd : (w.entries n).done = false)
    (hin : InFlight w.loop j) :
    InFlight (w.step e).loop j ∨ ∃ instances, (w.loop.jobs j).intent.inst ∈ instances ∧
      Answered (w.step e) instances := by
  have hopen := not_ended hj hd
  have hmove := move_step w e
  have hserved : ∀ q, handles w e = some q → (w.step e).lifecycle =
      w.lifecycle.map fun l => { l with reply := some (replyTo w q) } :=
    fun q hq => (served_of_handles hq).1
  generalize w.step e = w' at hmove hserved ⊢
  cases hmove with
  | quiet same | request q room same | drain event room same => exact .inl (same.loop ▸ hin)
  | workerSend m r mem phase room step | timer m mem room step | logsSend m fails mem room step =>
    exact .inl (by rw [step]; exact hin)
  | probe m suppressUntil step =>
    refine .inl ?_
    rw [step, InFlight, Coordinator.step]
    split <;> exact hin
  | resend m r resending room step => exact .inl (by rw [step]; exact hin)
  | exit event running resending closed step =>
    subst event
    simp only [orderly, running, resending, closed, isSome_none, ne_eq, not_true_eq_false,
      decide_false, Bool.or_self, Bool.false_or, List.all_eq_true] at horderly
    obtain ⟨k, hk⟩ := hin
    have hended := horderly ⟨k, j⟩ (AList.mem_lookup_iff.1 hk)
    rw [hopen] at hended
    cases hended
  | take c rest answers event running resending channel step =>
    have htaken := taken_of_head running resending channel answers
    rw [← event] at htaken
    have hcommand : orderlyCommand w c = true := by
      subst event
      rwa [orderly, htaken, all_some] at horderly
    have hloop := loop_handle { w with channel := rest } answers c
    rw [← step] at hloop
    cases hevent : loopEvent { w with channel := rest } answers c with
    | none =>
      rw [hevent] at hloop
      rw [hloop]
      exact .inl hin
    | some le =>
      rw [hevent] at hloop
      have hloop' : w'.loop = Coordinator.step w.loop le := hloop
      rw [hloop']
      rcases inFlight_or_leaves hsound.books hin with hkeep | hleaves
      · exact .inl hkeep
      · cases hleaves with
        | result r answers' hle =>
          subst hle
          obtain ⟨r', rfl⟩ := loopEvent_result hevent
          have hsilent := (h.silent j n hj hd).1
          rw [speaks_take resending channel, carries, toList_some, count_singleton_self] at hsilent
          omega
        | expire b hle delivers expired =>
          subst hle
          rw [loopEvent_expire hevent, orderlyCommand, delivers, hopen] at hcommand
          cases hcommand
        | cancel instances hle mem invalidated =>
          subst hle
          have hc := loopEvent_cancel hevent
          subst hc
          have hq : handles w e = some (.cancel instances) := by rw [handles, htaken]; rfl
          have hrequests : requests w.channel = .cancel instances :: requests rest := by
            rw [channel]
            rfl
          obtain ⟨-, l, hl, hreq, -⟩ := hserial.caller hrequests
          have hreply := hserved _ hq
          rw [hl, map_some] at hreply
          exact .inr ⟨instances, mem, .inr ⟨_, hreply, hreq, rfl⟩⟩
        | drain hle queued =>
          subst hle
          rw [loopEvent_drain hevent, orderlyCommand, List.all_eq_true] at hcommand
          have hended := hcommand j queued
          rw [hopen] at hended
          cases hended

theorem accepted_of_handles (hsound : Sound w) (horderly : orderly w e = true)
    (hq : handles w e = some (.submit intent (some n))) :
    replyTo w (.submit intent (some n)) = some w.loop.nextJob ∧
      Owns (w.step e) w.loop.nextJob n intent.inst := by
  have htaken := taken_of_handles hq
  obtain ⟨answers, rest, hevent, -, -, hchannel, hstep⟩ := taken_cases htaken
  have hcommand : orderlyCommand w (.request (.submit intent (some n))) = true := by
    subst hevent
    rwa [orderly, htaken, all_some] at horderly
  simp only [orderlyCommand, Bool.and_eq_true, Bool.not_eq_true', isNone_iff_eq_none] at hcommand
  have hreply : replyTo w (.submit intent (some n)) = some w.loop.nextJob := by
    rw [replyTo, LoopState.reply, hcommand.2, hcommand.1]
    rfl
  refine ⟨hreply, ?_, by rw [(accepted_step hsound.books hq hreply).2.2]⟩
  have hentry : (w.step e).entryOf = if w.loop.reply intent (nonceOf w intent) = some w.loop.nextJob
      then update w.entryOf w.loop.nextJob (some n) else w.entryOf := by
    rw [hstep]
    exact launch_field World.entryOf (by intros; rfl) _ _ _
  have hreply' : w.loop.reply intent (nonceOf w intent) = some w.loop.nextJob := hreply
  rw [hentry, if_pos hreply', update_self]

theorem Joinable.answered_step (hsound : Sound w) (hserial : Serialised w) (h : Joinable w)
    (horderly : orderly w e = true) (l : LifecycleCall) (intent : Intent) (n : Nat) (f : Option Nat)
    (hl : (w.step e).lifecycle = some l) (hreq : l.request = .submit intent (some n))
    (hf : l.reply = some f) : ∃ j, f = some j ∧ Owns (w.step e) j n intent.inst := by
  cases callMove_step w e with
  | same lifecycle requests clears | cleared instances event free mem lifecycle requests clears =>
    rw [lifecycle] at hl
    obtain ⟨j, hj, hown⟩ := h.answered l intent n f hl hreq hf
    exact ⟨j, hj, hown.step hsound h⟩
  | called q free lifecycle requests clears =>
    rw [lifecycle, some.injEq] at hl
    rw [← hl] at hf
    cases hf
  | sent l' waits unsent lifecycle requests clears =>
    rw [lifecycle, some.injEq] at hl
    rw [← hl] at hreq hf
    obtain ⟨j, hj, hown⟩ := h.answered l' intent n f waits hreq hf
    exact ⟨j, hj, hown.step hsound h⟩
  | served q hq lifecycle requests clears =>
    obtain ⟨-, l', hl', rfl, -⟩ := hserial.caller requests
    rw [lifecycle, hl', map_some, some.injEq] at hl
    rw [← hl] at hreq hf
    have hreq' : l'.request = .submit intent (some n) := hreq
    have hf' : some (replyTo w l'.request) = some f := hf
    rw [hreq'] at hq hf'
    obtain ⟨hreply, hown⟩ := accepted_of_handles hsound horderly hq
    rw [hreply, some.injEq] at hf'
    exact ⟨_, hf'.symm, hown⟩
  | returned l' f' waits replied lifecycle requests clears =>
    rw [lifecycle] at hl
    cases hl

theorem Joinable.replied_step (hsound : Sound w) (hreg : Registered w) (h : Joinable w)
    (horderly : orderly w e = true) (t : TypedCall) (f : Option Nat)
    (ht : (w.step e).typed = some t) (hf : t.reply = some f) :
    ∃ j, f = some j ∧ Owns (w.step e) j t.entry t.intent.inst := by
  cases readMove_step w e with
  | quiet typed keeps nonce request =>
    rw [typed] at ht
    obtain ⟨j, hj, hown⟩ := h.replied t f ht hf
    exact ⟨j, hj, hown.step hsound h⟩
  | opened t' free typed fresh unsent open_ keeps reads nonce request =>
    rw [typed, some.injEq] at ht
    rw [← ht, open_] at hf
    cases hf
  | turnedAway t' event closing waits unsent typed same =>
    subst event
    simp [orderly, closing, waits, unsent] at horderly
  | submitted t' waits unsent typed free lifecycle same =>
    rw [typed, some.injEq] at ht
    rw [← ht, (hreg.open_ t' waits).2.2 unsent] at hf
    cases hf
  | replied l intent n f' waits request reply lifecycle typed same =>
    obtain ⟨t', ht', hn, hintent, -, -⟩ := hreg.own intent n (typedRequest_submit waits request)
    rw [ht', map_some, if_pos hn] at typed
    rw [typed, some.injEq] at ht
    rw [← ht] at hf ⊢
    obtain rfl : f' = f := some.inj hf
    obtain ⟨j, hj, hown⟩ := h.answered l intent n f' waits request reply
    refine ⟨j, hj, ?_⟩
    have hown' := hown.step (e := e) hsound h
    rw [← hn, ← hintent] at hown'
    exact hown'
  | registered t' f' waits reply typed entries reads same =>
    rw [typed] at ht
    cases ht

theorem Joinable.tabled_step (hsound : Sound w) (hreg : Registered w) (h : Joinable w)
    (i : AuthInstanceID) (n : Nat) (hn : n ∈ (w.step e).typedReads i) :
    ∃ j, ((w.step e).entries n).future = some j ∧ Owns (w.step e) j n i := by
  cases readMove_step w e with
  | quiet typed keeps nonce request =>
    obtain ⟨j, hj, hown⟩ := h.tabled i n ((keeps n).reads i hn)
    exact ⟨j, (keeps n).future.trans hj, hown.step hsound h⟩
  | opened t free typed fresh unsent open_ keeps reads nonce request =>
    obtain ⟨j, hj, hown⟩ := h.tabled i n (reads i hn)
    have hne : n ≠ t.entry := by
      have := hreg.numbered i n (reads i hn)
      omega
    exact ⟨j, (keeps n hne).future.trans hj, hown.step hsound h⟩
  | turnedAway t event closing waits unsent typed same
  | submitted t waits unsent typed free lifecycle same
  | replied l intent m f waits request reply lifecycle typed same =>
    rw [same.2.1] at hn
    rw [same.1]
    obtain ⟨j, hj, hown⟩ := h.tabled i n hn
    exact ⟨j, hj, hown.step hsound h⟩
  | registered t f waits reply typed entries reads same =>
    have hout := (hreg.open_ t waits).2.1
    have hkept : n ∈ w.typedReads i → ∃ j, ((w.step e).entries n).future = some j ∧
        Owns (w.step e) j n i := by
      intro hmem
      obtain ⟨j, hj, hown⟩ := h.tabled i n hmem
      have hne : n ≠ t.entry := fun heq => hout i (heq ▸ hmem)
      refine ⟨j, ?_, hown.step hsound h⟩
      rw [entries, update_of_ne hne]
      exact hj
    rw [reads] at hn
    by_cases hi : i = t.intent.inst
    · subst hi
      rw [update_self, mem_append, mem_singleton] at hn
      rcases hn with hmem | rfl
      · exact hkept hmem
      · obtain ⟨j, hj, hown⟩ := h.replied t f waits reply
        refine ⟨j, ?_, hown.step hsound h⟩
        rw [entries, update_self]
        exact hj
    · rw [update_of_ne hi] at hn
      exact hkept hn

theorem Joinable.step (hsound : Sound w) (hserial : Serialised w) (hreg : Registered w)
    (h : Joinable w) (horderly : orderly w e = true) : Joinable (w.step e) := by
  have hworker := workerStep_step w e
  have hnext := (follows_move hsound.books (move_step w e)).grows.next
  -- a job that is not accepted yet has no speaker
  have hfresh : speaks w w.loop.nextJob = 0 := by
    by_contra hpos
    have hbaton : 0 < batons w w.loop.nextJob := by
      unfold batons
      omega
    exact lt_irrefl _ (hsound.known _ hbaton).1
  have hold : ∀ {j n}, w.entryOf j = some n → ((w.step e).entries n).done = false →
      (w.entries n).done = false := fun hj hd => done_step (h.numbered _ _ hj) hd
  refine ⟨fun j n hj => ?_, fun j hj => ⟨?_, fun r hr => ?_⟩, fun j n hj hd => ?_,
    fun j n hj hd => ?_, fun j n hj hd => ?_, h.answered_step hsound hserial horderly,
    h.replied_step hsound hreg horderly, h.tabled_step hsound hreg⟩
  · -- numbered
    rcases entry_cases hsound h hj with ⟨hj', -, -⟩ | ⟨intent, hacc, -⟩
    · exact (h.numbered j n hj').trans nonce_step_le
    · obtain ⟨t, ht, -, rfl, -⟩ := caller_of_accepted hserial hreg hacc
      exact (hreg.open_ t ht).1.trans nonce_step_le
  · -- bounded
    have hle := hnext.trans hj
    rcases hworker.entryOf with hsame | ⟨intent, entry, hq, hreply, hnew⟩
    · rw [hsame]
      exact (h.bounded j hle).1
    · have hlt := (accepted_step hsound.books hq hreply).2.1.trans_le hj
      rw [hnew, update_of_ne hlt.ne']
      exact (h.bounded j hle).1
  · rcases hworker.phase j r hr with hphase | ⟨hmem, -⟩
    · exact (h.bounded j (hnext.trans hj)).2 r hphase
    · have hbaton : 0 < batons w j := by
        have := count_pos_iff.2 hmem
        unfold batons
        omega
      exact absurd (hsound.known j hbaton).1 (not_lt.2 (hnext.trans hj))
  · -- placed
    rcases entry_cases hsound h hj with ⟨hj', -, hintent⟩ | ⟨intent, hacc, rfl⟩
    · rw [hintent]
      exact placed_step (h.numbered j n hj') hd (h.placed j n hj' (hold hj' hd))
    · obtain ⟨t, -, ht, hn, hintent⟩ := caller_of_accepted hserial hreg hacc
      rw [(accepted_step hsound.books hacc.handles hacc.reply).2.2]
      exact .inr ⟨t, ht, hn, by rw [hintent]⟩
  · -- silent
    have hquiet : speaks w j = 0 ∧ ∀ r, w.phase j ≠ .sending r := by
      rcases entry_cases hsound h hj with ⟨hj', -, -⟩ | ⟨intent, -, rfl⟩
      · exact h.silent j n hj' (hold hj' hd)
      · exact ⟨hfresh, (h.bounded _ le_rfl).2⟩
    refine ⟨?_, fun r hr => ?_⟩
    · by_contra hpos
      rcases speaks_step (Nat.pos_of_ne_zero hpos) with hspeaks | ⟨r, hr⟩
      · rw [hquiet.1] at hspeaks
        exact lt_irrefl _ hspeaks
      · exact hquiet.2 r hr
    · rcases hworker.phase j r hr with hphase | ⟨hmem, hends⟩
      · exact hquiet.2 r hphase
      · have hbaton : 0 < batons w j := by
          have := count_pos_iff.2 hmem
          unfold batons
          omega
        rcases entry_cases hsound h hj with ⟨hj', -, -⟩ | ⟨intent, -, rfl⟩
        · rcases hends n hj' with ⟨hevent, hphase⟩ | hdone
          · rw [hevent] at horderly
            simp [orderly, hj', hmem, hphase] at horderly
          · rw [hd] at hdone
            cases hdone
        · exact lt_irrefl _ (hsound.known _ hbaton).1
  · -- live
    rcases entry_cases hsound h hj with ⟨hj', -, hintent⟩ | ⟨intent, hacc, rfl⟩
    · have hopen := hold hj' hd
      rw [hintent]
      rcases h.live j n hj' hopen with hin | ⟨instances, hi, hanswered⟩
      · exact live_step hsound hserial h horderly hj' hopen hin
      · rcases answered_or_clears (e := e) hanswered with hkeep | ⟨hevent, hfree, hmem⟩
        · exact .inr ⟨instances, hi, hkeep⟩
        · -- the cancel clears its reads, and this one is among them
          have hplaced := (h.placed j n hj' hopen).resolve_right fun ⟨t, ht, _⟩ => by
            rw [hfree] at ht
            cases ht
          subst hevent
          rw [done_of_cleared hfree hmem hi hplaced] at hd
          cases hd
    · exact .inl (accepted_step hsound.books hacc.handles hacc.reply).1

theorem joinable_initial (unused : Job) : Joinable (World.initial unused) where
  numbered j n hj := by cases hj
  bounded j hj := ⟨rfl, fun r hr => by cases hr⟩
  placed j n hj := by cases hj
  silent j n hj := by cases hj
  live j n hj := by cases hj
  answered l intent n f hl := by cases hl
  replied t f ht := by cases ht
  tabled i n hn := by cases hn

theorem cancelPending_of_answered (h : Answered w instances) (hi : i ∈ instances) :
    cancelPending w i = true := by
  rw [cancelPending, Bool.or_eq_true]
  rcases h with hmem | ⟨l, hl, hreq, hr⟩
  · exact .inl (List.any_eq_true.2 ⟨instances, hmem, by simpa using hi⟩)
  · refine .inr ?_
    rw [hl, bind_some, if_pos hr, hreq]
    simpa [cancelled] using hi

theorem joined_pruned (w : World) (intent : Intent) :
    World.joined { w with
      typedReads := update w.typedReads intent.inst (w.liveReads intent.inst) } intent =
        w.joined intent := by
  simp [World.joined, liveReads, List.filter_filter]

end Step

theorem joinable_worldAt (unused : Job) (events : Nat → Event)
    (horderly : ∀ k, orderly (worldAt unused events k) (events k) = true) (k : Nat) :
    Joinable (worldAt unused events k) := by
  induction k with
  | zero => exact joinable_initial unused
  | succ k ih =>
    exact ih.step (sound_worldAt unused events k) (serialised_worldAt unused events k)
      (registered_worldAt k) (horderly k)

/-- If no step ends an open read behind its entry, `SubmitTyped` opens a read or joins an open one.
-/
theorem typed_read_joins_open (unused : Job) (events : Nat → Event)
    (horderly : ∀ k, orderly (worldAt unused events k) (events k) = true) {k : Nat}
    {intent : Intent}
    (hcall : events k = .callTyped intent) (hread : isTypedRead intent.cls = true)
    (hfree : (worldAt unused events k).typed = none) :
    (∃ t, (worldAt unused events (k + 1)).typed = some t ∧ t.submitted = false) ∨
      ∃ n j, (worldAt unused events k).joined intent = some n ∧
        ((worldAt unused events k).entries n).future = some j ∧
        ((worldAt unused events k).loop.jobs j).future = none := by
  have hjoinable := joinable_worldAt unused events horderly k
  cases hjoined : (worldAt unused events k).joined intent with
  | none =>
    refine .inl ?_
    have hstep : worldAt unused events (k + 1) = (worldAt unused events k).callTyped intent :=
      congrArg (World.step (worldAt unused events k)) hcall
    have hpruned := (joined_pruned (worldAt unused events k) intent).trans hjoined
    rw [hstep, callTyped, if_pos hread, if_neg (by rw [hfree]; exact Bool.false_ne_true)]
    simp only [hpruned]
    exact ⟨_, rfl, rfl⟩
  | some n =>
    refine .inr ⟨n, ?_⟩
    have hlive : n ∈ (worldAt unused events k).liveReads intent.inst :=
      mem_of_find?_eq_some hjoined
    obtain ⟨hmem, hdone⟩ := mem_filter.1 hlive
    obtain ⟨j, hj, hown⟩ := hjoinable.tabled intent.inst n hmem
    refine ⟨j, rfl, hj, ?_⟩
    rcases hjoinable.live j n hown.1 (by simpa using hdone) with hin | ⟨instances, hi, hanswered⟩
    · exact (sound_worldAt unused events k).books.future_none hin
    · have hpending := cancelPending_of_answered hanswered (hown.2 ▸ hi)
      have hstep := horderly k
      rw [hcall, orderly, hread, hpending] at hstep
      cases hstep

def typedCall (intent : Intent) : List Event :=
  [.callTyped intent, .submitTyped, .send, .receive { validates := true },
    .callReturn, .typedReturn]

def secondRead : Nat → Event :=
  script .resend (typedCall (quotaRead 7 1) ++ [.allocate 0 (some 5), .callTyped (quotaRead 7 1)])

theorem secondRead_joins_open :
    (worldAt noJob secondRead 7).joined (quotaRead 7 1) = some 1 ∧
      ((worldAt noJob secondRead 7).loop.jobs 0).future = none := by
  have hjoined : (worldAt noJob secondRead 7).joined (quotaRead 7 1) = some 1 := by decide +kernel
  have horderly : ∀ k, orderly (worldAt noJob secondRead k) (secondRead k) = true :=
    script_meets (C := fun w e => orderly w e = true) (fun _ => rfl) (by decide +kernel)
  refine ⟨hjoined, ?_⟩
  rcases typed_read_joins_open noJob secondRead horderly (k := 7) rfl rfl
    (isNone_iff_eq_none.1 (by decide +kernel)) with ⟨t, ht, -⟩ | ⟨n, j, hn, hj, hopen⟩
  · have hnone : (worldAt noJob secondRead 8).typed.isNone = true := by decide +kernel
    rw [ht] at hnone
    cases hnone
  · rw [hjoined, some.injEq] at hn
    subst hn
    have hfuture : ((worldAt noJob secondRead 7).entries 1).future = some 0 := by decide +kernel
    rw [hfuture, some.injEq] at hj
    rwa [hj]

def failedAllocation : Nat → Event :=
  script .resend (typedCall (quotaRead 7 1) ++ [.allocate 0 none, .workerSend 0,
    .receive { validates := true }, .callTyped (quotaRead 7 1)])

def expiredRead : Nat → Event :=
  script .resend (typedCall (quotaRead 7 1) ++ [.allocate 0 (some 5), .timer 0,
    .receive { validates := true }, .callTyped (quotaRead 7 1)])

def refusedRead : Nat → Event :=
  script .resend (method (.cancel [7]) ++ [.clearTypedReads [7]] ++ typedCall (quotaRead 7 1) ++
    method (.activate [(7, 2)]) ++ [.callTyped (quotaRead 7 2)])

/-- After a read has failed, expired or been refused, the next one gets its future. -/
theorem typed_read_joins_ended :
    (failedAllocation 9 = .callTyped (quotaRead 7 1) ∧
      (worldAt noJob failedAllocation 9).joined (quotaRead 7 1) = some 1 ∧
      ((worldAt noJob failedAllocation 9).entries 1).future = some 0 ∧
      ((worldAt noJob failedAllocation 9).loop.jobs 0).future.isSome = true) ∧
    (expiredRead 9 = .callTyped (quotaRead 7 1) ∧
      (worldAt noJob expiredRead 9).joined (quotaRead 7 1) = some 1 ∧
      ((worldAt noJob expiredRead 9).entries 1).future = some 0 ∧
      ((worldAt noJob expiredRead 9).loop.jobs 0).future.isSome = true) ∧
    refusedRead 15 = .callTyped (quotaRead 7 2) ∧
      (worldAt noJob refusedRead 15).loop.refuses (quotaRead 7 2) = false ∧
      (worldAt noJob refusedRead 15).joined (quotaRead 7 2) = some 1 ∧
      ((worldAt noJob refusedRead 15).entries 1).future = none :=
  ⟨⟨rfl, by decide +kernel, by decide +kernel, by decide +kernel⟩,
    ⟨rfl, by decide +kernel, by decide +kernel, by decide +kernel⟩, rfl, by decide +kernel,
    by decide +kernel, by decide +kernel⟩

end QuotaScheduler.TypedReads

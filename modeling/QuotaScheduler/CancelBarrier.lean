/- After a cancel has returned, nothing of the instance runs until it is lifted. -/

import QuotaScheduler.CoordinatorBarrier

namespace QuotaScheduler.CancelBarrier

open Coordinator hiding Event
open Coordinator.LoopState CoordinatorBooks CoordinatorFence CoordinatorMoves CoordinatorSystem
open CoordinatorSystem.World CoordinatorWorkers CoordinatorCalls CoordinatorReads CoordinatorBarrier
open Lib.Runs List Option

def Returns (w : World) (e : Event) (instances : List AuthInstanceID) : Prop :=
  e = .clearTypedReads instances ∧ instances ∈ w.clears ∧ w.typed = none

/-- The step starts, accepts, joins, calls and applies nothing of the instance. -/
structure KeptOut (w : World) (e : Event) (i : AuthInstanceID) : Prop where
  started : ∀ j ∈ (w.step e).workers, ((w.step e).loop.jobs j).intent.inst = i → j ∈ w.workers
  refused : ∀ intent entry, handles w e = some (.submit intent entry) → intent.inst = i →
    replyTo w (.submit intent entry) = none
  joined : ∀ intent n, intent.inst = i → w.joined intent = some n → (w.entries n).future = none
  http : ∀ j, HTTPBegins w e j → (w.loop.jobs j).intent.inst ≠ i
  applied : ∀ j, (w.step e).loop.applied = j :: w.loop.applied → (w.loop.jobs j).intent.inst ≠ i

variable {w : World} {j : Nat}

theorem launched_inFlight (h : Sound w) {e : Event} (hj : j ∈ (w.step e).workers)
    (hnew : j ∉ w.workers) : InFlight (w.step e).loop j := by
  have hmove := move_step w e
  have hbooks := (follows_move h.books hmove).books
  generalize w.step e = w' at hj hmove hbooks ⊢
  cases hmove with
  | quiet same | request q room same | drain drained room same =>
    exact absurd (same.workers ▸ hj) hnew
  | workerSend m r mem phase room step =>
    subst step
    exact absurd (mem_of_mem_erase hj) hnew
  | timer m mem room step | logsSend m fails mem room step | probe m suppressUntil step
  | resend m r resending room step | exit event running resending closed step =>
    subst step
    exact absurd hj hnew
  | take c rest answers event running resending channel step =>
    subst step
    rcases workers_handle { w with channel := rest } answers c with ⟨hsame, -⟩ |
      ⟨i, m, hl, -, hw, -⟩
    · rw [hsame] at hj
      exact absurd hj hnew
    · rw [hw, mem_cons] at hj
      obtain rfl := hj.resolve_right hnew
      exact (hbooks.leased i j hl).1

theorem baton_of_holds (h : w.holds j = true) : 0 < batons w j := by
  simp only [holds, Bool.or_eq_true, Bool.and_eq_true, decide_eq_true_eq] at h
  unfold batons speaks
  rcases h with ⟨hj, -⟩ | hj
  · have := count_pos_iff.2 hj
    omega
  · have := count_pos_iff.2 hj
    omega

theorem inFlight_of_applied (hbooks : Books w.loop) {e : Event}
    (h : (w.step e).loop.applied = j :: w.loop.applied) : InFlight w.loop j := by
  rcases loop_move (move_step w e) with hsame | ⟨le, hstep⟩ | hend
  · rw [hsame] at h
    exact absurd h.symm (cons_ne_self _ _)
  · rw [hstep] at h
    obtain ⟨r, answers, hchecked⟩ := ApplyCall.checked h
    exact (hchecked.1.inFlight hbooks).1
  · rw [hend] at h
    exact absurd h.symm (cons_ne_self _ _)

theorem keptOut_of_barred {i : AuthInstanceID} {g token : Nat} (hsound : Sound w)
    (hkeyed : Keyed w.loop) (h : Barred w.loop i g token) (hshut : Shut w i) (e : Event) :
    KeptOut w e i where
  started j hj hi := by
    by_contra hnew
    exact h.vacated_step hsound.books hkeyed e j (launched_inFlight hsound hj hnew) hi
  refused intent entry _ hi := h.refused hsound.books hkeyed hi entry
  joined intent n hi hn := by
    have hmem : n ∈ w.liveReads i := hi ▸ mem_of_find?_eq_some hn
    exact hshut.reads n (mem_of_mem_filter hmem)
  http j hj := by
    obtain ⟨-, hholds, hctx⟩ := hj
    rcases hsound.guarded j (baton_of_holds hholds) with hin | hc
    · exact h.vacated j hin
    · rw [hctx] at hc
      cases hc
  applied j hj := h.vacated j (inFlight_of_applied hsound.books hj)

section Run

variable (unused : Job) (events : Nat → Event) (i : AuthInstanceID)

/-- The largest generation activated, or submitted and not refused, so far. -/
def highest : Nat → Nat
  | 0 => 0
  | k + 1 => max (highest k) (notedAt (worldAt unused events k) (events k) i)

/-- The instance's latest cancel: the largest generation before it, and its token. -/
def lastCancel : Nat → Option (Nat × Nat)
  | 0 => none
  | k + 1 =>
    ((issued (worldAt unused events k) (events k) i).map fun token =>
      (highest unused events i k, token)).or (lastCancel k)

/-- The step lifts the latest cancel: a larger generation, or a restore with its token. -/
def liftsAt (k : Nat) : Bool :=
  (lastCancel unused events i k).any fun c =>
    lifts (worldAt unused events k) (events k) i c.1 c.2

variable {i}

theorem keyed_worldAt (k : Nat) : Keyed (worldAt unused events k).loop := by
  induction k with
  | zero =>
    rintro j ⟨k, hk⟩
    cases hk
  | succ k ih => exact keyed_step (sound_worldAt unused events k).books ih

theorem generation_worldAt (k : Nat) :
    (worldAt unused events k).loop.instanceGeneration i = highest unused events i k := by
  induction k with
  | zero => rfl
  | succ k ih =>
    rw [highest, ← ih]
    exact generation_step (sound_worldAt unused events k).books (keyed_worldAt unused events k)

variable {h b token : Nat}

theorem barred_worldAt (hcancel : issued (worldAt unused events h) (events h) i = some token)
    (hb : h < b) (hkeep : ∀ m, h < m → m < b → liftsAt unused events i m = false) :
    ∃ g token, lastCancel unused events i b = some (g, token) ∧
      Barred (worldAt unused events b).loop i g token := by
  induction b, hb using Nat.le_induction with
  | base =>
    refine ⟨_, token, by rw [lastCancel, hcancel]; rfl, ?_⟩
    rw [← generation_worldAt]
    exact barred_cancel (sound_worldAt unused events h).books hcancel
  | succ b hb ih =>
    obtain ⟨g, token', hlast, hbarred⟩ := ih fun m hm hmb => hkeep m hm (hmb.trans b.lt_succ_self)
    have hlift := hkeep b hb b.lt_succ_self
    rw [liftsAt, hlast, any_some] at hlift
    have hnext := hbarred.step (sound_worldAt unused events b).books
      (keyed_worldAt unused events b) hlift
    refine ⟨g, _, ?_, hnext⟩
    rw [lastCancel, hlast]
    cases hissued : issued (worldAt unused events b) (events b) i with
    | none => rfl
    | some token'' =>
      have hgen : highest unused events i b = g := by
        rw [← generation_worldAt]
        exact congrArg Prod.fst hbarred.mark
      rw [map_some, some_or, hgen, getD_some]

theorem callsRefused_worldAt (hcancel : issued (worldAt unused events h) (events h) i = some token)
    (hb : h < b) (hkeep : ∀ m, h < m → m < b → liftsAt unused events i m = false) :
    CallsRefused (worldAt unused events b) i := by
  induction b, hb using Nat.le_induction with
  | base =>
    obtain ⟨instances, hq, -, -⟩ := issued_cases hcancel
    -- the method that is served is the cancel itself
    obtain ⟨hreply, rest, hrest⟩ := served_of_handles hq
    obtain ⟨-, l', hl', hcancelled, -⟩ := (serialised_worldAt unused events h).caller hrest
    intro l intent entry f hl hreq
    have hcall : (worldAt unused events (h + 1)).lifecycle = _ := hreply
    rw [hl, hl', map_some, some.injEq] at hcall
    rw [hcall] at hreq
    cases hcancelled.symm.trans hreq
  | succ b hb ih =>
    have hkeep' : ∀ m, h < m → m < b → liftsAt unused events i m = false :=
      fun m hm hmb => hkeep m hm (hmb.trans b.lt_succ_self)
    obtain ⟨g, token', -, hbarred⟩ := barred_worldAt unused events hcancel hb hkeep'
    exact (ih hkeep').step (serialised_worldAt unused events b) fun intent entry _ hi =>
      hbarred.refused (sound_worldAt unused events b).books (keyed_worldAt unused events b) hi entry

theorem shut_worldAt {r : Nat} {instances : List AuthInstanceID}
    (hcancel : issued (worldAt unused events h) (events h) i = some token) (hr : h < r)
    (hreturn : Returns (worldAt unused events r) (events r) instances) (hi : i ∈ instances)
    (hb : r < b) (hkeep : ∀ m, h < m → m < b → liftsAt unused events i m = false) :
    Shut (worldAt unused events b) i := by
  induction b, hb using Nat.le_induction with
  | base =>
    obtain ⟨hevent, hmem, hfree⟩ := hreturn
    have hstep : worldAt unused events (r + 1) =
        (worldAt unused events r).clearTypedReads instances :=
      congrArg (World.step (worldAt unused events r)) hevent
    have hcleared : ((worldAt unused events r).typed.isSome ||
        !(worldAt unused events r).clears.contains instances) = false := by
      simp [hfree, hmem]
    rw [hstep, clearTypedReads, hcleared]
    refine ⟨fun n hn => ?_, fun t f ht => ?_⟩
    · simp [hi] at hn
    · have ht' : (worldAt unused events r).typed = some t := ht
      rw [hfree] at ht'
      cases ht'
  | succ b hb ih =>
    have hkeep' : ∀ m, h < m → m < b → liftsAt unused events i m = false :=
      fun m hm hmb => hkeep m hm (hmb.trans b.lt_succ_self)
    exact (ih hkeep').move (callsRefused_worldAt unused events hcancel (hr.trans hb) hkeep')
      (registered_worldAt b) (readMove_step _ (events b))

theorem nonce_step (w : World) (e : Event) : w.loop.cancelNonce ≤ (w.step e).loop.cancelNonce := by
  rcases marks_loopMove (loopMove_step w e) with ⟨q, -, hloop⟩ | ⟨-, hmarks⟩
  · rw [hloop]
    cases q with
    | submit intent entry =>
      have hmarks := marks_submit w.loop intent (nonceOf w intent)
      split at hmarks
      · exact (congrArg (fun m => m.2.2.2) hmarks).ge
      · exact (congrArg (fun m => m.2.2.2) hmarks).ge
    | snapshot => exact le_rfl
    | cancel instances =>
      have hnonce : (requestLoop w (.cancel instances)).cancelNonce = _ :=
        congrArg (fun m => m.2.2.2) (marks_cancel instances w.loop)
      rw [hnonce]
      exact Nat.le_add_right _ _
    | activate generations =>
      refine (foldl_keeps LoopState.cancelNonce (fun s x => ?_) generations w.loop).ge
      unfold activateInstance
      dsimp only
      split <;> rfl
    | restore generations =>
      refine (foldl_keeps LoopState.cancelNonce (fun s x => ?_) generations w.loop).ge
      unfold restoreInstance
      split <;> rfl
  · exact (congrArg (fun m => m.2.2.2) hmarks).ge

theorem nonce_mono {k m : Nat} (hkm : k ≤ m) :
    (worldAt unused events k).loop.cancelNonce ≤ (worldAt unused events m).loop.cancelNonce := by
  induction m, hkm using Nat.le_induction with
  | base => exact le_rfl
  | succ m hm ih => exact ih.trans (nonce_step _ _)

theorem tokens_increase {k m token' : Nat} (hkm : k < m)
    (hk : issued (worldAt unused events k) (events k) i = some token)
    (hm : issued (worldAt unused events m) (events m) i = some token') : token < token' := by
  obtain ⟨instances, hq, hi, rfl⟩ := issued_cases hk
  obtain ⟨instances', -, hi', rfl⟩ := issued_cases hm
  have hle := (issueTokens_of_mem (worldAt unused events k).loop.cancelNonce (fun _ => 0) hi).2.2
  have hlt := (issueTokens_of_mem (worldAt unused events m).loop.cancelNonce (fun _ => 0) hi').2.1
  have hnext : (worldAt unused events (k + 1)).loop.cancelNonce =
      (worldAt unused events k).loop.cancelNonce + instances.length := by
    have hloop : (worldAt unused events (k + 1)).loop = _ := loop_of_handles hq
    rw [hloop]
    exact congrArg (fun m => m.2.2.2) (marks_cancel instances _)
  have hmono := nonce_mono unused events (show k + 1 ≤ m from hkm)
  unfold issuedTokens
  omega

/-- From a handled cancel on, nothing of the instance gets through until the latest is lifted;
tokens are not reused. -/
theorem cancel_keeps_out {r : Nat} {instances : List AuthInstanceID}
    (hreturn : Returns (worldAt unused events r) (events r) instances) (hi : i ∈ instances) :
    (∃ h, h < r ∧ handles (worldAt unused events h) (events h) = some (.cancel instances)) ∧
    (∀ h b token, h < r → r < b →
      issued (worldAt unused events h) (events h) i = some token →
      (∀ m, h < m → m < b → liftsAt unused events i m = false) →
      KeptOut (worldAt unused events b) (events b) i) ∧
    ∀ k m token token', k < m → issued (worldAt unused events k) (events k) i = some token →
      issued (worldAt unused events m) (events m) i = some token' → token ≠ token' := by
  refine ⟨?_, fun h b token hr hb hcancel hkeep => ?_, fun k m token token' hkm hk hm =>
    (tokens_increase unused events hkm hk hm).ne⟩
  · exact handled_of_answered unused events (.inl hreturn.2.1)
  · obtain ⟨g, token', -, hbarred⟩ := barred_worldAt unused events hcancel (hr.trans hb) hkeep
    exact keptOut_of_barred (sound_worldAt unused events b) (keyed_worldAt unused events b) hbarred
      (shut_worldAt unused events hcancel hr hreturn hi hb hkeep) (events b)

end Run

def method (q : Request) : List Event :=
  [.call q, .send, .receive { validates := true }, .callReturn]

def staleLifts : Nat → Event :=
  script .resend (method (.submit (quotaRead 7 3) none) ++ [.allocate 0 none] ++
    method (.cancel [7]) ++ [.clearTypedReads [7]] ++ method (.activate [(7, 3)]) ++
    method (.restore [(7, 3, 0)]) ++ method (.submit (quotaRead 7 2) none) ++ [.doHTTP 0])

theorem staleLifts_keep_out :
    replyTo (worldAt noJob staleLifts 20) (.submit (quotaRead 7 2) none) = none ∧
      ¬ HTTPBegins (worldAt noJob staleLifts 22) (staleLifts 22) 0 := by
  have hreturn : Returns (worldAt noJob staleLifts 9) (staleLifts 9) [7] :=
    ⟨rfl, by decide +kernel, isNone_iff_eq_none.1 (by decide +kernel)⟩
  have hcancel : issued (worldAt noJob staleLifts 7) (staleLifts 7) 7 = some 1 := by
    decide +kernel
  have hkeep : ∀ m < 22, 7 < m → liftsAt noJob staleLifts 7 m = false := by decide +kernel
  obtain ⟨-, hout, -⟩ := cancel_keeps_out noJob staleLifts hreturn (mem_singleton_self 7)
  have hfirst := hout 7 20 1 (by decide) (by decide) hcancel fun m hm hb =>
    hkeep m (hb.trans (by decide)) hm
  have hsecond := hout 7 22 1 (by decide) (by decide) hcancel fun m hm hb => hkeep m hb hm
  exact ⟨hfirst.refused (quotaRead 7 2) none (by decide +kernel) rfl,
    fun h => hsecond.http 0 h (by decide +kernel)⟩

def refusedBetween : Nat → Event :=
  script .resend (method (.cancel [7]) ++ [.clearTypedReads [7]] ++
    method (.submit (quotaRead 7 10) none) ++ method (.cancel [7]) ++ [.clearTypedReads [7]] ++
    method (.activate [(7, 7)]) ++ method (.submit (quotaRead 7 1) none))

def cancelledWhileClosing : Nat → Event :=
  script .resend (method (.submit (quotaRead 7 1) none) ++
    [.allocate 0 none, .close, .call (.cancel [7]), .doHTTP 0])

/-- An activation below a submitted generation lifts the cancel; a closing coordinator ignores it.
-/
theorem cancel_lets_in :
    (handles (worldAt noJob refusedBetween 7) (refusedBetween 7) =
        some (.submit (quotaRead 7 10) none) ∧
      Returns (worldAt noJob refusedBetween 13) (refusedBetween 13) [7] ∧
      handles (worldAt noJob refusedBetween 16) (refusedBetween 16) = some (.activate [(7, 7)]) ∧
      (∀ k < 20, k ≠ 16 → ∀ q ∈ handles (worldAt noJob refusedBetween k) (refusedBetween k),
        q = .cancel [7] ∨ q = .submit (quotaRead 7 10) none) ∧
      handles (worldAt noJob refusedBetween 20) (refusedBetween 20) =
        some (.submit (quotaRead 7 1) none) ∧
      replyTo (worldAt noJob refusedBetween 20) (.submit (quotaRead 7 1) none) = some 0) ∧
    ((worldAt noJob cancelledWhileClosing 6).closing = true ∧
      cancelledWhileClosing 6 = .call (.cancel [7]) ∧
      (worldAt noJob cancelledWhileClosing 7).lifecycle.isNone = true ∧
      HTTPBegins (worldAt noJob cancelledWhileClosing 7) (cancelledWhileClosing 7) 0 ∧
      ((worldAt noJob cancelledWhileClosing 7).loop.jobs 0).intent.inst = 7) := by
  have hreturn : Returns (worldAt noJob refusedBetween 13) (refusedBetween 13) [7] :=
    ⟨rfl, by decide +kernel, isNone_iff_eq_none.1 (by decide +kernel)⟩
  exact ⟨⟨by decide +kernel, hreturn, by decide +kernel, by decide +kernel, by decide +kernel,
    by decide +kernel⟩, by decide +kernel, rfl, by decide +kernel,
    ⟨rfl, by decide +kernel, by decide +kernel⟩, by decide +kernel⟩

end QuotaScheduler.CancelBarrier

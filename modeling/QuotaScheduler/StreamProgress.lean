/- A request of the retry chain comes to its end. -/

import QuotaScheduler.Lib.Runs
import QuotaScheduler.RetryStream

namespace QuotaScheduler.RetryStream

open Lib.ByteStrings Lib.Runs FrameAssembler Option Phase

/-- The event answers the call the request waits in, or is its timeout. -/
def Phase.awaits (r : Request) : Phase → Event → Bool
  | .entering, .begin _ => true
  | .choosing _ _ _, .next _ => true
  | .opening _ _, .opened _ _ => true
  | .shadowOpening, .opened _ _ => true
  | .holding _, .checked _ _ => true
  | .committing _, .checked _ _ => true
  | .shadowLoop, .checked _ _ => true
  | .reading _, .read _ => true
  | .forwarding _, .read _ => true
  | .shadowReading, .read _ => true
  | .reading _, .timedOut => true
  | .shadowReading, .timedOut => decide (0 < r.cfg.retryStallTimeout)
  | .flushing _ _ _, .emitted _ => true
  | .passing _ _ _, .emitted _ => true
  | .failing _ _ _, .emitted _ => true
  | .shadowPassing _ _, .emitted _ => true
  | _, _ => false

def Event.continues : Event → Bool
  | .read (.chunk c) => c.error.isEmpty && !c.done
  | _ => false

/-- The host answers every call in the end, and goes on only finitely often. -/
structure Served (r : Request) (events : Nat → Event) : Prop where
  answered : ∀ k, (stateAt (step r) {} events k).phase.returned = false →
    ∃ m, k ≤ m ∧ (stateAt (step r) {} events m).phase.awaits r (events m) = true
  finite : ∃ n, ∀ m, n ≤ m → (events m).continues = false

section Rank

variable {r : Request} {w : Chain}

def Request.later (r : Request) (attempt : Nat) : Nat :=
  20 * (r.plan.targetCount.toNat - (attempt + 1))

/-- The steps a request can still make, up to a bound, when no stream goes on. -/
def Phase.rank (r : Request) : Phase → Nat
  | .entering => 20 * r.plan.targetCount.toNat + 20
  | .choosing attempt _ last => 20 * (r.plan.targetCount.toNat - attempt) + last.held.length + 2
  | .opening attempt _ => r.later attempt + 12
  | .holding h => r.later h.attempt + h.hold.payloads.length + 10
  | .reading h => r.later h.attempt + h.hold.payloads.length + 9
  | .flushing _ _ rest => rest.length + 6
  | .committing _ => 5
  | .forwarding _ => 4
  | .passing _ _ done => if done then 1 else 5
  | .failing _ rest _ => rest.length + 1
  | .shadowOpening => 5
  | .shadowLoop => 4
  | .shadowReading => 3
  | .shadowPassing _ done => if done then 1 else 5
  | .closed _ => 0

@[simp]
theorem phase_deliver (w : Chain) (attempt : Nat) (payload : Bytes) :
    (w.deliver attempt payload).phase = w.phase := by
  unfold Chain.deliver
  split <;> rfl

variable {rest : List Bytes} {result : AttemptResult}

theorem rank_finishFailedAttempt (flushed : Bool) :
    (w.finishFailedAttempt rest flushed result).phase.rank r = rest.length := by
  cases rest <;> rfl

variable {attempt : Nat}

theorem rank_forwardCommitted :
    (w.forwardCommitted attempt rest).phase.rank r = rest.length + 5 := by
  cases rest <;> rfl

variable {deadline : Time}

theorem rank_conclude :
    (w.conclude attempt deadline result).phase.rank r ≤ r.later attempt +
      result.held.length + 2 := by
  unfold Chain.conclude
  split
  · exact le_rfl
  · rw [rank_finishFailedAttempt]
    omega

variable {c : Chunk}

theorem done_of_ends (hends : (c.error.isEmpty && !c.done) = false)
    (herror : ¬(!c.error.isEmpty) = true) : c.done = true := by
  cases hdone : c.done with
  | true => rfl
  | false => simp_all

theorem rank_heldChunk {h : Holding} (hends : (c.error.isEmpty && !c.done) = false) :
    (Chain.heldChunk r w h c).phase.rank r < r.later h.attempt + h.hold.payloads.length + 9 := by
  have hadd : (h.hold.add c.payload).payloads.length = h.hold.payloads.length + 1 :=
    List.length_append
  unfold Chain.heldChunk
  split
  · exact Nat.lt_of_le_of_lt rank_conclude (by simp only [failed]; omega)
  · next herror =>
    have hdone := done_of_ends hends herror
    split
    · dsimp only
      split
      · split
        · refine Nat.lt_of_le_of_lt rank_conclude ?_
          dsimp only [failed]
          omega
        · rw [rank_forwardCommitted]
          omega
      · rw [hdone, Bool.or_true, if_pos rfl, rank_forwardCommitted]
        omega
    · rw [rank_forwardCommitted]
      omega

theorem rank_forwardedChunk (hends : (c.error.isEmpty && !c.done) = false) :
    (w.forwardedChunk attempt c).phase.rank r < 4 := by
  unfold Chain.forwardedChunk
  split
  · exact Nat.zero_lt_succ 3
  · next herror =>
    have hdone := done_of_ends hends herror
    split
    · simp only [rank, hdone, if_pos]
      omega
    · exact Nat.zero_lt_succ 3

theorem rank_shadowChunk (hends : (c.error.isEmpty && !c.done) = false) :
    (w.shadowChunk c).phase.rank r < 3 := by
  unfold Chain.shadowChunk
  split
  · exact Nat.zero_lt_succ 2
  · next herror =>
    have hdone := done_of_ends hends herror
    split
    · simp only [rank, hdone, if_pos]
      omega
    · exact Nat.zero_lt_succ 2

theorem held_openNestedStream {answer : OpenAnswer} {result : AttemptResult}
    (h : openNestedStream answer = some result) : result.held = [] := by
  cases answer with
  | error e | undecodable text =>
    obtain rfl := some.inj h
    rfl
  | response status streamID =>
    unfold openNestedStream at h
    dsimp only at h
    split at h
    · obtain rfl := some.inj h
      rfl
    · split at h
      · obtain rfl := some.inj h
        rfl
      · exact absurd h (some_ne_none _).symm

/-- An event the request waits for brings it nearer to its end; others do not move it. -/
def Progress (r : Request) (w : Chain) (e : Event) (w' : Chain) : Prop :=
  (w.phase.awaits r e = true ∧ w'.phase.rank r < w.phase.rank r) ∨
    (w.phase.awaits r e = false ∧ w'.phase = w.phase)

variable {e : Event}

theorem phase_late (answer : ReadAnswer) : (w.late attempt answer).phase = w.phase := by
  unfold Chain.late
  split
  · cases answer with
    | error e => rfl
    | chunk c => exact phase_deliver _ _ _
  · rfl

theorem phase_step_of_not_awaits (h : w.phase.awaits r e = false) :
    (step r w e).phase = w.phase := by
  cases e with
  | late attempt answer => exact phase_late answer
  | timedOut =>
    cases hphase : w.phase with
    | shadowReading =>
      rw [hphase] at h
      simp only [step, Chain.timedOut, hphase, if_neg (of_decide_eq_false h)]
    | reading held =>
      rw [hphase] at h
      cases h
    | _ => simp only [step, Chain.timedOut, hphase]
  | begin | next | opened | checked | read | emitted =>
    cases hphase : w.phase <;> rw [hphase] at h <;> first
      | (cases h; done)
      | simp only [step, Chain.begin, Chain.next, Chain.opened, Chain.checked, Chain.read,
          Chain.emitted, hphase]

theorem rank_step (h : w.phase.awaits r e = true) (hends : e.continues = false) :
    (step r w e).phase.rank r < w.phase.rank r := by
  cases hphase : w.phase with
  | entering =>
    rw [hphase] at h
    cases e with
    | begin now =>
      simp only [step, Chain.begin, hphase]
      split_ifs
      · exact Nat.zero_lt_succ _
      · exact Nat.lt_add_left _ (by decide : 5 < 20)
      · exact Nat.add_lt_add_left (by decide : 2 < 20) _
    | _ => cases h
  | choosing attempt deadline last =>
    rw [hphase] at h
    cases e with
    | next now =>
      simp only [step, Chain.next, hphase]
      split
      · rw [rank_finishFailedAttempt]
        simp only [rank]
        omega
      · next hgoes =>
        simp only [rank, Request.later]
        omega
    | _ => cases h
  | opening attempt deadline =>
    rw [hphase] at h
    cases e with
    | opened answer now =>
      simp only [step, Chain.opened, hphase]
      split
      · next result hresult =>
        refine Nat.lt_of_le_of_lt rank_conclude ?_
        rw [held_openNestedStream hresult]
        exact Nat.add_lt_add_left (by decide : 0 + 2 < 12) _
      · exact Nat.add_lt_add_left (by decide : 0 + 10 < 12) _
    | _ => cases h
  | shadowOpening =>
    rw [hphase] at h
    cases e with
    | opened answer now =>
      simp only [step, Chain.opened, hphase]
      split
      · exact Nat.zero_lt_succ 4
      · exact Nat.lt_succ_self 4
    | _ => cases h
  | holding held =>
    rw [hphase] at h
    cases e with
    | checked ctxErr now =>
      simp only [step, Chain.checked, hphase]
      cases ctxErr with
      | some text =>
        refine Nat.lt_of_le_of_lt rank_conclude ?_
        simp only [rank, List.length_nil]
        omega
      | none =>
        dsimp only
        split
        · rw [rank_forwardCommitted]
          simp only [rank]
          omega
        · exact Nat.lt_succ_self _
    | _ => cases h
  | committing attempt =>
    rw [hphase] at h
    cases e with
    | checked ctxErr now =>
      simp only [step, Chain.checked, hphase]
      cases ctxErr with
      | some text => exact Nat.zero_lt_succ 4
      | none => exact Nat.lt_succ_self 4
    | _ => cases h
  | shadowLoop =>
    rw [hphase] at h
    cases e with
    | checked ctxErr now =>
      simp only [step, Chain.checked, hphase]
      cases ctxErr with
      | some text => exact Nat.zero_lt_succ 3
      | none => exact Nat.lt_succ_self 3
    | _ => cases h
  | reading held =>
    rw [hphase] at h
    cases e with
    | read answer =>
      simp only [step, Chain.read, hphase]
      cases answer with
      | error e =>
        exact Nat.lt_of_le_of_lt rank_conclude (Nat.add_lt_add_left (by decide : 2 < 9) _)
      | chunk c => exact rank_heldChunk hends
    | timedOut =>
      simp only [step, Chain.timedOut, hphase]
      split
      · refine Nat.lt_of_le_of_lt rank_conclude ?_
        simp only [rank, List.length_nil]
        omega
      · rw [rank_forwardCommitted]
        simp only [rank]
        omega
    | _ => cases h
  | forwarding attempt =>
    rw [hphase] at h
    cases e with
    | read answer =>
      simp only [step, Chain.read, hphase]
      cases answer with
      | error e => exact Nat.zero_lt_succ 3
      | chunk c => exact rank_forwardedChunk hends
    | _ => cases h
  | shadowReading =>
    rw [hphase] at h
    cases e with
    | read answer =>
      simp only [step, Chain.read, hphase]
      cases answer with
      | error e => exact Nat.zero_lt_succ 2
      | chunk c => exact rank_shadowChunk hends
    | timedOut =>
      simp only [step, Chain.timedOut, hphase, if_pos (of_decide_eq_true h)]
      exact Nat.zero_lt_succ 2
    | _ => cases h
  | flushing attempt payload rest =>
    rw [hphase] at h
    cases e with
    | emitted err =>
      simp only [step, Chain.emitted, hphase]
      cases err with
      | some text => exact Nat.zero_lt_succ _
      | none =>
        rw [rank_forwardCommitted]
        exact Nat.lt_succ_self _
    | _ => cases h
  | failing payload rest result =>
    rw [hphase] at h
    cases e with
    | emitted err =>
      simp only [step, Chain.emitted, hphase]
      cases err with
      | some text => exact Nat.zero_lt_succ _
      | none =>
        rw [rank_finishFailedAttempt]
        exact Nat.lt_succ_self _
    | _ => cases h
  | passing attempt payload done | shadowPassing payload done =>
    rw [hphase] at h
    cases e with
    | emitted err =>
      simp only [step, Chain.emitted, hphase]
      cases err with
      | some text => cases done <;> exact Nat.zero_lt_succ _
      | none => cases done <;> exact Nat.lt_succ_self _
    | _ => cases h
  | closed normal =>
    rw [hphase] at h
    cases e <;> cases h

theorem phase_step_of_returned (e : Event) (h : w.phase.returned = true) :
    (step r w e).phase = w.phase := by
  refine phase_step_of_not_awaits ?_
  cases hphase : w.phase with
  | closed normal => cases e <;> rfl
  | _ => exact absurd ((congrArg returned hphase).symm.trans h) Bool.false_ne_true

theorem step_progress (r : Request) (w : Chain) (e : Event) (hends : e.continues = false) :
    Progress r w e (step r w e) := by
  cases h : w.phase.awaits r e with
  | true => exact .inl ⟨h, rank_step h hends⟩
  | false => exact .inr ⟨h, phase_step_of_not_awaits h⟩

theorem returns_of_served {events : Nat → Event} (h : Served r events) :
    ∃ k, (stateAt (step r) {} events k).phase.returned = true := by
  obtain ⟨n, hends⟩ := h.finite
  refine reaches_of_rank (G := fun w : Chain => w.phase.returned = true)
    (fun w => w.phase.rank r) (n := n) (fun k hk _ => ?_) fun k hk hnot => ?_
  · rcases step_progress r (stateAt (step r) {} events k) (events k) (hends k hk) with
      ⟨-, hlt⟩ | ⟨-, hsame⟩
    · exact hlt.le
    · exact (congrArg (rank r) hsame).le
  · obtain ⟨m, hkm, hawaits⟩ := h.answered k (Bool.eq_false_iff.mpr hnot)
    refine ⟨m, hkm, ?_⟩
    rcases step_progress r (stateAt (step r) {} events m) (events m)
      (hends m (Nat.le_trans hk hkm)) with ⟨-, hlt⟩ | ⟨hnone, -⟩
    · exact hlt
    · exact absurd (hawaits.symm.trans hnone) Bool.noConfusion

end Rank

end QuotaScheduler.RetryStream

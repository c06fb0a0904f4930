/- Apply is reached once per job, and not by a job that expired or was cancelled. -/

import QuotaScheduler.CoordinatorBooks

namespace QuotaScheduler.CoordinatorFence

open Coordinator Coordinator.LoopState CoordinatorBooks Lib.Runs List Prod

def ApplyCall (s : LoopState) (e : Event) (j : Nat) : Prop := (step s e).applied = j :: s.applied

def LogLaunch (s : LoopState) (e : Event) (j : Nat) : Prop :=
  (step s e).launched = j :: s.launched

def LogCall (s : LoopState) (e : Event) (j : Nat) : Prop := e = .dispatchLogs j ∧ j ∈ s.launched

def calls (s : LoopState) : List Nat × List Nat := (s.applied, s.launched)

theorem tryStart_keeps {α : Type} {p : LoopState → α} {s : LoopState}
    (hp : ∀ s jobs leases queue, p { s with jobs, leases, queue } = p s) (i : AuthInstanceID) :
    p (s.tryStart i) = p s := by
  unfold tryStart
  split
  · rfl
  · split
    · rfl
    · split
      · exact hp s ..
      · dsimp only
        split
        · rfl
        · exact hp s ..

/-- What the commands that only move jobs leave alone. -/
def rest (s : LoopState) := (calls s, s.nextJob, s.instanceGeneration, s.cancelledThrough,
  s.cancelTokens, s.cancelNonce)

theorem rest_settle (s : LoopState) (i : AuthInstanceID) (fence : Nat)
    (f : DrainReport → DrainReport) :
    rest (((s.raiseFence i fence).reportDrains f).tryStart i).finishDrains = rest s := by
  have hstart : rest (((s.raiseFence i fence).reportDrains f).tryStart i) = rest s :=
    tryStart_keeps (fun _ _ _ _ => rfl) i
  unfold finishDrains
  split <;> exact hstart

def ofJobs : Event → Bool
  | .expire .. | .logCallback .. | .drain | .markProbeSent .. => true
  | _ => false

theorem rest_step {s : LoopState} {e : Event} (he : ofJobs e = true) :
    rest (step s e) = rest s := by
  cases e with
  | expire j inheritFails =>
    simp only [step, expire]
    split
    · rfl
    · exact rest_settle ..
  | logCallback j r fails =>
    simp only [step, logCallback]
    split <;> rfl
  | drain =>
    simp only [step, drain]
    split <;> rfl
  | markProbeSent j suppressUntil =>
    simp only [step]
    split <;> rfl
  | _ => cases he

def ofMarks : Event → Bool
  | .cancel _ | .activate _ | .restore _ => true
  | _ => false

theorem unmarked_step {s : LoopState} {e : Event} (he : ofMarks e = true) :
    (calls (step s e), (step s e).nextJob) = (calls s, s.nextJob) := by
  cases e with
  | cancel instances =>
    have hfold := foldl_keeps (fun s => (calls s, s.nextJob)) (f := cancelInstance) (fun s i => by
      unfold cancelInstance cancelLease
      dsimp only
      split <;> rfl) instances s
    simp only [step, cancel, finishDrains]
    split <;> exact hfold
  | activate generations =>
    refine foldl_keeps (fun s => (calls s, s.nextJob)) (fun s g => ?_) generations s
    unfold activateInstance
    dsimp only
    split <;> rfl
  | restore generations =>
    refine foldl_keeps (fun s => (calls s, s.nextJob)) (fun s g => ?_) generations s
    unfold restoreInstance
    split <;> rfl
  | _ => cases he

theorem calls_submit (s : LoopState) (intent : Intent) (nonce : Nat) :
    calls (s.submit intent nonce) = calls s := by
  unfold submit
  split
  · rfl
  · split
    · rfl
    · exact tryStart_keeps (fun _ _ _ _ => rfl) _

theorem calls_result (s : LoopState) (j : Nat) (r : OperationResult) (answers : Answers) :
    calls (s.result j r answers) =
      if s.delivers j = true ∧ s.valid j r answers = true then
        if r.hostLogs then (s.applied, j :: s.launched) else (j :: s.applied, s.launched)
      else calls s := by
  have hvalid : s.valid j (withProbe (s.jobs j) r) answers = s.valid j r answers := rfl
  have hlogs : (withProbe (s.jobs j) r).hostLogs = r.hostLogs := rfl
  unfold LoopState.result
  dsimp only
  rw [hvalid, hlogs]
  cases hd : s.delivers j with
  | false => simp
  | true =>
    cases hv : s.valid j r answers with
    | false =>
      simp only [Bool.not_true, Bool.false_eq_true, if_false, Bool.false_and, and_false]
      exact congrArg Prod.fst (rest_settle ..)
    | true =>
      cases hl : r.hostLogs with
      | true => simp [calls]
      | false =>
        simp only [Bool.not_true, Bool.false_eq_true, if_false, Bool.and_false, Bool.true_and,
          and_self, if_true]
        split <;> exact congrArg Prod.fst (rest_settle ..)

structure Checked (s : LoopState) (e : Event) (j : Nat) (r : OperationResult) (answers : Answers) :
    Prop where
  event : e = .result j r answers
  delivers : s.delivers j = true
  valid : s.valid j r answers = true

theorem calls_cases (s : LoopState) (e : Event) :
    (∃ j r answers, Checked s e j r answers ∧ calls (step s e) =
        if r.hostLogs then (s.applied, j :: s.launched) else (j :: s.applied, s.launched)) ∨
      (step s e).applied = s.applied ∧ ((step s e).launched = s.launched ∨
        ∃ j, e = .dispatchLogs j ∧ (step s e).launched = s.launched.erase j) := by
  have hsame : ∀ {t}, calls t = calls s → t.applied = s.applied ∧ (t.launched = s.launched ∨
      ∃ j, e = .dispatchLogs j ∧ t.launched = s.launched.erase j) :=
    fun h => ⟨(mk.inj h).1, .inl (mk.inj h).2⟩
  cases e with
  | result j r answers =>
    have hcalls := calls_result s j r answers
    split at hcalls
    next hok => exact .inl ⟨j, r, answers, ⟨rfl, hok.1, hok.2⟩, hcalls⟩
    next => exact .inr (hsame hcalls)
  | submit intent nonce => exact .inr (hsame (calls_submit s intent nonce))
  | expire | logCallback | drain | markProbeSent => exact .inr (hsame (mk.inj (rest_step rfl)).1)
  | cancel | activate | restore =>
    exact .inr (hsame (mk.inj (unmarked_step rfl)).1)
  | dispatchLogs j => exact .inr ⟨rfl, .inr ⟨j, rfl, rfl⟩⟩

variable {s : LoopState} {e : Event} {j : Nat}

theorem ApplyCall.checked (h : ApplyCall s e j) :
    ∃ r answers, Checked s e j r answers ∧ r.hostLogs = false := by
  have happlied : (step s e).applied = j :: s.applied := h
  rcases calls_cases s e with ⟨m, r, answers, hc, hcalls⟩ | ⟨ha, -⟩
  · cases hlogs : r.hostLogs with
    | false =>
      rw [hlogs] at hcalls
      rw [(mk.inj hcalls).1] at happlied
      obtain rfl := (cons.inj happlied).1
      exact ⟨r, answers, hc, hlogs⟩
    | true =>
      rw [hlogs] at hcalls
      rw [(mk.inj hcalls).1] at happlied
      exact absurd happlied.symm (cons_ne_self j _)
  · rw [ha] at happlied
    exact absurd happlied.symm (cons_ne_self j _)

theorem LogLaunch.checked (h : LogLaunch s e j) : ∃ r answers, Checked s e j r answers := by
  have hlaunched : (step s e).launched = j :: s.launched := h
  rcases calls_cases s e with ⟨m, r, answers, hc, hcalls⟩ | ⟨-, hl⟩
  · cases hlogs : r.hostLogs with
    | false =>
      rw [hlogs] at hcalls
      rw [(mk.inj hcalls).2] at hlaunched
      exact absurd hlaunched.symm (cons_ne_self j _)
    | true =>
      rw [hlogs] at hcalls
      rw [(mk.inj hcalls).2] at hlaunched
      obtain rfl := (cons.inj hlaunched).1
      exact ⟨r, answers, hc⟩
  · have hle : (step s e).launched.length ≤ s.launched.length := by
      rcases hl with hl | ⟨m, -, hl⟩
      · exact (congrArg length hl).le
      · exact hl ▸ length_erase_le
    rw [hlaunched, length_cons] at hle
    exact absurd hle (Nat.not_succ_le_self _)

variable {r : OperationResult} {answers : Answers}

theorem Checked.not_stopped (h : Checked s e j r answers) :
    (s.jobs j).expired = false ∧ (s.jobs j).invalidated = false ∧
      r.token = (s.jobs j).intent.token ∧ answers.validates = true := by
  have hv := h.valid
  simp only [LoopState.valid, Bool.and_eq_true, Bool.not_eq_true', decide_eq_true_eq] at hv
  exact ⟨hv.1.1.1.1, hv.1.1.1.2, hv.1.2, hv.2⟩

theorem completed_by_result (h : Books s) (hd : s.delivers j = true) (hlogs : r.hostLogs = false) :
    ∃ x, (j, x) ∈ (s.result j r answers).completions := by
  have hl := h.lease_of_delivers hd
  have happlied := (follows_applied h j).books
  have hlogs' : (withProbe (s.jobs j) r).hostLogs = false := hlogs
  -- the completion of the retired job is still in the log when the step ends
  have hdone : ∀ {t : LoopState} (_ : Books t) (_ : t.leases (t.jobs j).intent.inst = some j)
      (x : OperationResult) (i : AuthInstanceID) (fence : Nat) (f : DrainReport → DrainReport),
      (j, x) ∈ ((((t.retire j x).raiseFence i fence).reportDrains f).tryStart
        i).finishDrains.completions :=
    fun ht hlt x i fence f => (follows_settle (follows_retire ht hlt x).books i fence f).grows.log _
      mem_cons_self
  unfold LoopState.result
  dsimp only
  rw [hd, hlogs']
  simp only [Bool.not_true, Bool.false_eq_true, if_false, Bool.and_false]
  split
  · exact ⟨_, hdone happlied hl _ _ _ _⟩
  · split
    · exact ⟨_, hdone happlied hl _ _ _ _⟩
    · exact ⟨_, hdone h hl _ _ _ _⟩

section Runs

variable (unused : Job) (events : Nat → Event) {a b : Nat}

theorem not_inFlight_stays (hab : a ≤ b) (hj : j < (stateAt step (initial unused) events a).nextJob)
    (hout : ¬ InFlight (stateAt step (initial unused) events a) j) :
    ¬ InFlight (stateAt step (initial unused) events b) j := by
  have ha := books_stateAt unused events a
  obtain ⟨r, hr⟩ := Option.isSome_iff_exists.1 ((ha.future_isSome_iff hj).2 hout)
  intro hin
  have hnone := (books_stateAt unused events b).future_none hin
  rw [future_stays unused events hab hj hr] at hnone
  cases hnone

theorem Checked.inFlight {s : LoopState} {e : Event} (hs : Books s) (h : Checked s e j r answers) :
    InFlight s j ∧ s.leases (s.jobs j).intent.inst = some j :=
  ⟨(hs.leased _ j (hs.lease_of_delivers h.delivers)).1, hs.lease_of_delivers h.delivers⟩

theorem not_inFlight_of_applyCall (hab : a < b)
    (h : ApplyCall (stateAt step (initial unused) events a) (events a) j) :
    ¬ InFlight (stateAt step (initial unused) events b) j := by
  obtain ⟨r, answers, hc, hlogs⟩ := h.checked
  have ha := books_stateAt unused events a
  have ha' := books_stateAt unused events (a + 1)
  have hstate : stateAt step (initial unused) events (a + 1) =
      (stateAt step (initial unused) events a).result j r answers := by
    rw [stateAt_succ, hc.event]
    rfl
  obtain ⟨x, hx⟩ := completed_by_result ha hc.delivers hlogs
  rw [← hstate] at hx
  obtain ⟨hlt, hfuture⟩ := (ha'.logged j x).1 hx
  refine not_inFlight_stays unused events hab hlt ((ha'.future_isSome_iff hlt).1 ?_)
  rw [hfuture]
  rfl

theorem applied_nodup (k : Nat) : (stateAt step (initial unused) events k).applied.Nodup ∧
      ∀ j ∈ (stateAt step (initial unused) events k).applied,
        ∃ a < k, ApplyCall (stateAt step (initial unused) events a) (events a) j := by
  induction k with
  | zero =>
    refine ⟨nodup_nil, fun j hj => ?_⟩
    simp [stateAt, initial] at hj
  | succ k ih =>
    have hold : ∀ j ∈ (stateAt step (initial unused) events k).applied, ∃ a < k + 1,
        ApplyCall (stateAt step (initial unused) events a) (events a) j := by
      intro j hj
      obtain ⟨a, ha, hcall⟩ := ih.2 j hj
      exact ⟨a, ha.trans (Nat.lt_succ_self k), hcall⟩
    rcases calls_cases (stateAt step (initial unused) events k) (events k) with
      ⟨m, r, answers, hc, hcalls⟩ | ⟨ha, -⟩
    · cases hlogs : r.hostLogs with
      | true =>
        rw [hlogs] at hcalls
        rw [stateAt_succ, (mk.inj hcalls).1]
        exact ⟨ih.1, hold⟩
      | false =>
        rw [hlogs] at hcalls
        have hcall : ApplyCall (stateAt step (initial unused) events k) (events k) m :=
          (mk.inj hcalls).1
        rw [stateAt_succ, (mk.inj hcalls).1]
        -- a job applied before is no longer in flight
        have hnew : m ∉ (stateAt step (initial unused) events k).applied := by
          intro hm
          obtain ⟨a, ha, hbefore⟩ := ih.2 m hm
          exact not_inFlight_of_applyCall unused events ha hbefore
            (hc.inFlight (books_stateAt unused events k)).1
        refine ⟨nodup_cons.2 ⟨hnew, ih.1⟩, fun j hj => ?_⟩
        rcases mem_cons.1 hj with rfl | hj
        · exact ⟨k, Nat.lt_succ_self k, hcall⟩
        · exact hold j hj
    · rw [stateAt_succ, ha]
      exact ⟨ih.1, hold⟩

theorem stopped_stays (hab : a ≤ b) (hj : j < (stateAt step (initial unused) events a).nextJob)
    (hstop : Job.Stopped ((stateAt step (initial unused) events a).jobs j)) :
    Job.Stopped ((stateAt step (initial unused) events b).jobs j) :=
  have hlater := (grows_stateAt unused events hab).jobs j hj
  hstop.imp hlater.expired hlater.invalidated

theorem lease_kept (hab : a ≤ b) (hl : Leased (stateAt step (initial unused) events a) j)
    (hin : InFlight (stateAt step (initial unused) events b) j) :
    Leased (stateAt step (initial unused) events b) j := by
  obtain ⟨i, hl⟩ := hl
  have ha := books_stateAt unused events a
  obtain ⟨hf, -, hs⟩ := ha.leased i j hl
  have hlater := (grows_stateAt unused events hab).jobs j (ha.bounded j hf)
  exact ⟨_, (books_stateAt unused events b).lease_of_started hin (hlater.started hs)⟩

theorem no_call_after_end (hab : a ≤ b) (hj : j < (stateAt step (initial unused) events a).nextJob)
    (hend : Job.Stopped ((stateAt step (initial unused) events a).jobs j) ∨
      ((stateAt step (initial unused) events a).jobs j).started = true ∧
        ¬ Leased (stateAt step (initial unused) events a) j) :
    ¬ Checked (stateAt step (initial unused) events b) (events b) j r answers := by
  intro hc
  rcases hend with hstop | ⟨hs, hl⟩
  · obtain ⟨he, hi, -⟩ := hc.not_stopped
    rcases stopped_stays unused events hab hj hstop with h | h
    · rw [he] at h
      cases h
    · rw [hi] at h
      cases h
  · have ha := books_stateAt unused events a
    have hout : ¬ InFlight (stateAt step (initial unused) events a) j := fun hin =>
      hl ⟨_, ha.lease_of_started hin hs⟩
    exact not_inFlight_stays unused events hab hj hout
      (hc.inFlight (books_stateAt unused events b)).1

theorem holders_do_not_overlap (hab : a < b) {m : Nat}
    (hj : ApplyCall (stateAt step (initial unused) events a) (events a) j)
    (hm : ApplyCall (stateAt step (initial unused) events b) (events b) m)
    (hinst : ((stateAt step (initial unused) events b).jobs j).intent.inst =
      ((stateAt step (initial unused) events b).jobs m).intent.inst) :
    (∀ c, c ≤ a → ¬ Leased (stateAt step (initial unused) events c) m) ∧
      ∀ c, a < c → ¬ Leased (stateAt step (initial unused) events c) j := by
  have hbooks := books_stateAt unused events
  refine ⟨fun c hca hl => ?_, fun c hac hl => ?_⟩
  · obtain ⟨r, answers, hc, -⟩ := hm.checked
    obtain ⟨r', answers', hc', -⟩ := hj.checked
    have hmb := (hc.inFlight (hbooks b)).1
    obtain ⟨hja, hla⟩ := hc'.inFlight (hbooks a)
    obtain ⟨i, hl'⟩ := id hl
    have hmc := (hbooks c).bounded m ((hbooks c).leased i m hl').1
    -- the second job is in flight all the way to its call
    have hma : InFlight (stateAt step (initial unused) events a) m := by
      by_contra hout
      exact not_inFlight_stays unused events hab.le
        (hmc.trans_le (grows_stateAt unused events hca).next) hout hmb
    obtain ⟨l, hlm⟩ := lease_kept unused events hca hl hma
    have hgrows := grows_stateAt unused events hab.le
    rw [(hgrows.jobs j ((hbooks a).bounded j hja)).intent,
      (hgrows.jobs m ((hbooks a).bounded m hma)).intent, ((hbooks a).leased l m hlm).2.1] at hinst
    rw [hinst, hlm] at hla
    obtain rfl := Option.some.inj hla
    exact not_inFlight_of_applyCall unused events hab hj hmb
  · obtain ⟨i, hl⟩ := hl
    exact not_inFlight_of_applyCall unused events hac hj ((hbooks c).leased i j hl).1

/-- `Apply` is called once per job, under its lease and every check; an expired or cancelled job
reaches neither it nor a new log dispatch, and an old one finds its context cancelled. -/
theorem results_are_fenced :
    (∀ k, (stateAt step (initial unused) events k).applied.Nodup) ∧
      (∀ k j, ApplyCall (stateAt step (initial unused) events k) (events k) j →
        InFlight (stateAt step (initial unused) events k) j ∧
        (stateAt step (initial unused) events k).leases
          ((stateAt step (initial unused) events k).jobs j).intent.inst = some j ∧
        ((stateAt step (initial unused) events k).jobs j).expired = false ∧
        ((stateAt step (initial unused) events k).jobs j).invalidated = false ∧
        ∃ r answers, events k = .result j r answers ∧ answers.validates = true ∧
          r.token = ((stateAt step (initial unused) events k).jobs j).intent.token) ∧
      (∀ a b j m, a < b → ApplyCall (stateAt step (initial unused) events a) (events a) j →
        ApplyCall (stateAt step (initial unused) events b) (events b) m →
        ((stateAt step (initial unused) events b).jobs j).intent.inst =
          ((stateAt step (initial unused) events b).jobs m).intent.inst →
        (∀ c, c ≤ a → ¬ Leased (stateAt step (initial unused) events c) m) ∧
          ∀ c, a < c → ¬ Leased (stateAt step (initial unused) events c) j) ∧
      (∀ a b j, a ≤ b → j < (stateAt step (initial unused) events a).nextJob →
        (Job.Stopped ((stateAt step (initial unused) events a).jobs j) ∨
          ((stateAt step (initial unused) events a).jobs j).started = true ∧
            ¬ Leased (stateAt step (initial unused) events a) j) →
        ¬ ApplyCall (stateAt step (initial unused) events b) (events b) j ∧
          ¬ LogLaunch (stateAt step (initial unused) events b) (events b) j) ∧
      ∀ k j, LogCall (stateAt step (initial unused) events k) (events k) j →
        Job.Stopped ((stateAt step (initial unused) events k).jobs j) →
        ((stateAt step (initial unused) events k).jobs j).ctxCancelled = true := by
  have hbooks := books_stateAt unused events
  refine ⟨fun k => (applied_nodup unused events k).1, ?_, ?_, ?_, ?_⟩
  · intro k j hcall
    obtain ⟨r, answers, hc, -⟩ := hcall.checked
    obtain ⟨hin, hl⟩ := hc.inFlight (hbooks k)
    obtain ⟨he, hi, htoken, hv⟩ := hc.not_stopped
    exact ⟨hin, hl, he, hi, r, answers, hc.event, hv, htoken⟩
  · intro a b j m hab hj hm hinst
    exact holders_do_not_overlap unused events hab hj hm hinst
  · intro a b j hab hj hend
    constructor
    · intro hcall
      obtain ⟨r, answers, hc, -⟩ := hcall.checked
      exact no_call_after_end unused events hab hj hend hc
    · intro hlaunch
      obtain ⟨r, answers, hc⟩ := hlaunch.checked
      exact no_call_after_end unused events hab hj hend hc
  · rintro k j ⟨-, hmem⟩ hstop
    obtain ⟨hj, hs⟩ := (hbooks k).launched j hmem
    exact (hbooks k).fenced j hj hs hstop

end Runs

def readResult (inst : AuthInstanceID) (generation : Nat) (hostLogs : Bool) : OperationResult where
  token := (quotaRead inst generation).token
  hostLogs := hostLogs

/-- Two reads are applied; the logs of the third are under way when its lease expires. -/
def lateLogs : Nat → Event :=
  script (.activate [])
    [.submit (quotaRead 7 1) 0, .submit (quotaRead 7 2) 0, .submit (quotaRead 7 3) 0,
      .result 0 (readResult 7 1 false) { validates := true },
      .result 1 (readResult 7 2 false) { validates := true },
      .result 2 (readResult 7 3 true) { validates := true },
      .expire 2 false, .dispatchLogs 2]

theorem lateLogs_fenced :
    ((stateAt step (initial noJob) lateLogs 3).jobs 0).expired = false ∧
      ¬ Leased (stateAt step (initial noJob) lateLogs 3) 1 ∧
      ¬ ApplyCall (stateAt step (initial noJob) lateLogs 7) (lateLogs 7) 2 ∧
      ((stateAt step (initial noJob) lateLogs 7).jobs 2).ctxCancelled = true := by
  obtain ⟨-, hchecked, hholders, hend, hlate⟩ := results_are_fenced noJob lateLogs
  have hfirst : ApplyCall (stateAt step (initial noJob) lateLogs 3) (lateLogs 3) 0 := by
    unfold ApplyCall
    decide +kernel
  have hsecond : ApplyCall (stateAt step (initial noJob) lateLogs 4) (lateLogs 4) 1 := by
    unfold ApplyCall
    decide +kernel
  have hstop : Job.Stopped ((stateAt step (initial noJob) lateLogs 7).jobs 2) :=
    .inl (by decide +kernel)
  exact ⟨(hchecked 3 0 hfirst).2.2.1,
    (hholders 3 4 0 1 (by decide) hfirst hsecond (by decide +kernel)).1 3 le_rfl,
    (hend 7 7 2 le_rfl (by decide +kernel) (.inl hstop)).1,
    hlate 7 2 ⟨rfl, by decide +kernel⟩ hstop⟩

/-- A dispatch launched in time makes its call after the lease has expired. -/
theorem logs_dispatched_after_expiry :
    ((stateAt step (initial noJob) lateLogs 7).jobs 2).expired = true ∧
      LogCall (stateAt step (initial noJob) lateLogs 7) (lateLogs 7) 2 :=
  ⟨by decide +kernel, rfl, by decide +kernel⟩

end QuotaScheduler.CoordinatorFence

/- Which command lets a job in, which lets one go, and which changes the marks. -/

import QuotaScheduler.CoordinatorFence

namespace QuotaScheduler.CoordinatorMoves

open List Option Function

open Coordinator Coordinator.LoopState CoordinatorBooks CoordinatorFence Lib.Runs LoopState

variable {i : AuthInstanceID}

theorem inflight_tryStart (s : LoopState) : (s.tryStart i).inflight = s.inflight :=
  tryStart_keeps (fun _ _ _ _ => rfl) i

theorem finishDrains_frame (s : LoopState) :
    s.finishDrains.inflight = s.inflight ∧ s.finishDrains.jobs = s.jobs := by
  unfold finishDrains
  split <;> exact ⟨rfl, rfl⟩

def conclude (s : LoopState) (j : Nat) (r : OperationResult) (i : AuthInstanceID) (fence : Nat)
    (f : DrainReport → DrainReport) : LoopState :=
  ((((s.retire j r).raiseFence i fence).reportDrains f).tryStart i).finishDrains

variable {r : OperationResult} {fence : Nat} {f : DrainReport → DrainReport} {s : LoopState}
  {j m : Nat} {e : Event}

theorem follows_conclude (h : Books s) (hl : s.leases (s.jobs j).intent.inst = some j)
    (r : OperationResult) (i : AuthInstanceID) (fence : Nat) (f : DrainReport → DrainReport) :
    Follows s (conclude s j r i fence f) :=
  (follows_retire h hl r).andThen fun h' => follows_settle h' i fence f

theorem inFlight_conclude (h : Books s) (hl : s.leases (s.jobs j).intent.inst = some j)
    (r : OperationResult) (i : AuthInstanceID) (fence : Nat) (f : DrainReport → DrainReport)
    (m : Nat) : InFlight (conclude s j r i fence f) m ↔ InFlight s m ∧ m ≠ j := by
  rw [InFlight, conclude, (finishDrains_frame _).1, inflight_tryStart]
  exact ((removes_retire h hl r).inFlight_iff m).trans (by simp)

def markExpired (s : LoopState) (j : Nat) : LoopState :=
  s.modifyJob j fun job => { job with expired := true, ctxCancelled := true }

theorem expire_cases (inheritFails : Bool) :
    s.expire j inheritFails = s ∨ s.delivers j = true ∧ ∃ r i fence f,
      s.expire j inheritFails = conclude (markExpired s j) j r i fence f := by
  unfold expire
  dsimp only
  split
  · exact .inl rfl
  · next hguard =>
    simp only [Bool.or_eq_true, Bool.not_eq_true', not_or, Bool.not_eq_false] at hguard
    exact .inr ⟨by simp [delivers, hguard], _, _, _, _, rfl⟩

theorem result_cases (answers : Answers) : s.result j r answers = s ∨
      s.delivers j = true ∧ s.result j r answers = { s with launched := j :: s.launched } ∨
      s.delivers j = true ∧ ∃ t r' i fence f, (t = s ∨ t = { s with applied := j :: s.applied }) ∧
        s.result j r answers = conclude t j r' i fence f := by
  unfold result
  cases hd : s.delivers j with
  | false => exact .inl (by simp)
  | true =>
    dsimp only
    rw [Bool.not_true, if_neg Bool.false_ne_true]
    split
    · exact .inr (.inl ⟨rfl, rfl⟩)
    · split
      · exact .inr (.inr ⟨rfl, _, _, _, _, _, .inr rfl, rfl⟩)
      · refine .inr (.inr ⟨rfl, _, _, _, _, _, ?_, rfl⟩)
        split
        · exact .inr rfl
        · exact .inl rfl

theorem follows_markExpired (h : Books s) (hd : s.delivers j = true) :
    Follows s (markExpired s j) :=
  follows_modifyJob h j (.of_started (started_of_delivers hd)
    ⟨rfl, rfl, id, fun _ => rfl, id, fun _ => rfl, fun _ _ => .inl rfl⟩ rfl rfl)

theorem lease_markExpired (h : Books s) (hd : s.delivers j = true) :
    (markExpired s j).leases ((markExpired s j).jobs j).intent.inst = some j := by
  simpa [markExpired, modifyJob] using h.lease_of_delivers hd

variable {answers : Answers}

theorem rest_result : (rest (s.result j r answers)).2 = (rest s).2 := by
  rcases result_cases answers with hsame | ⟨-, hlaunch⟩ | ⟨-, t, r', i, fence, f, ht, hend⟩
  · rw [hsame]
  · rw [hlaunch]
    rfl
  · rw [hend]
    refine (congrArg Prod.snd (rest_settle ..)).trans ?_
    rcases ht with rfl | rfl <;> rfl

theorem nextJob_step (he : ∀ intent nonce, e ≠ .submit intent nonce) :
    (step s e).nextJob = s.nextJob := by
  have hjobs := rest_step (s := s) (e := e)
  have hmarks := unmarked_step (s := s) (e := e)
  cases e with
  | submit intent nonce => exact absurd rfl (he intent nonce)
  | result j r answers => exact congrArg (·.1) rest_result
  | expire | logCallback | drain | markProbeSent => exact congrArg (·.2.1) (hjobs rfl)
  | cancel | activate | restore => exact congrArg (·.2) (hmarks rfl)
  | dispatchLogs j => rfl

variable {nonce : Nat}

theorem submit_cases (intent : Intent) : (s.submit intent nonce = s ∧
      ((∃ j, s.inflight.lookup (keyOf intent nonce) = some j ∧ s.reply intent nonce = some j) ∨
        s.refuses intent = true ∧ s.reply intent nonce = none)) ∨
    (s.inflight.lookup (keyOf intent nonce) = none ∧ s.refuses intent = false ∧
      s.reply intent nonce = some s.nextJob ∧
      s.submit intent nonce = (s.accept intent (keyOf intent nonce)).tryStart intent.inst) := by
  unfold submit reply
  cases hkey : s.inflight.lookup (keyOf intent nonce) with
  | some j => exact .inl ⟨rfl, .inl ⟨j, rfl, rfl⟩⟩
  | none =>
    cases hr : s.refuses intent with
    | true => exact .inl ⟨by simp, .inr ⟨rfl, by simp⟩⟩
    | false => exact .inr ⟨rfl, rfl, by simp, by simp⟩

variable {intent : Intent}

theorem accepted_job (h : Books s) {key : OperationKey} (hkey : s.inflight.lookup key = none) :
    (((s.accept intent key).tryStart intent.inst).jobs s.nextJob).intent = intent ∧
      (((s.accept intent key).tryStart intent.inst).jobs s.nextJob).key = key ∧
      ((s.accept intent key).tryStart intent.inst).nextJob = s.nextJob + 1 := by
  have haccept := follows_accept h intent hkey
  have hlater := (follows_tryStart haccept.books intent.inst).grows.jobs s.nextJob
    (Nat.lt_succ_self _)
  refine ⟨?_, ?_, tryStart_keeps (p := LoopState.nextJob) (fun _ _ _ _ => rfl) _⟩
  · rw [hlater.intent]
    simp [accept]
  · rw [hlater.key]
    simp [accept]

theorem inFlight_of_follows {t : LoopState} (h : Books s) (hfollows : Follows s t)
    (hlt : j < s.nextJob) (hj : InFlight t j) : InFlight s j := by
  by_contra hout
  obtain ⟨r, hr⟩ := isSome_iff_exists.1 ((h.future_isSome_iff hlt).2 hout)
  have hlog := hfollows.grows.log _ ((h.logged j r).2 ⟨hlt, hr⟩)
  have hdone := ((hfollows.books.logged j r).1 hlog).2
  rw [hfollows.books.future_none hj] at hdone
  cases hdone

theorem inFlight_step (h : Books s) (hj : InFlight (step s e) j) :
    InFlight s j ∨ ∃ intent nonce, e = .submit intent nonce ∧
      s.reply intent nonce = some s.nextJob ∧ s.refuses intent = false ∧ j = s.nextJob ∧
      ((step s e).jobs j).intent = intent ∧ ((step s e).jobs j).key = keyOf intent nonce := by
  have hfollows := follows_step h e
  by_cases hlt : j < s.nextJob
  · exact .inl (inFlight_of_follows h hfollows hlt hj)
  · have hnew := hfollows.books.bounded j hj
    by_cases he : ∃ intent nonce, e = .submit intent nonce
    · obtain ⟨intent, nonce, rfl⟩ := he
      rcases submit_cases intent with ⟨hsame, -⟩ | ⟨hkey, hr, hreply, hsubmit⟩
      · have hstep : step s (.submit intent nonce) = s := hsame
        rw [hstep] at hnew
        exact absurd hnew hlt
      · have hstep : step s (.submit intent nonce) =
            (s.accept intent (keyOf intent nonce)).tryStart intent.inst := hsubmit
        obtain ⟨hintent, hjob, hnext⟩ := accepted_job h hkey
        rw [hstep, hnext] at hnew
        obtain rfl : j = s.nextJob := Nat.le_antisymm (Nat.lt_succ_iff.1 hnew)
          (Nat.le_of_not_lt hlt)
        exact .inr ⟨intent, nonce, rfl, hreply, hr, rfl, hstep ▸ hintent, hstep ▸ hjob⟩
    · rw [nextJob_step fun intent nonce h => he ⟨intent, nonce, h⟩] at hnew
      exact absurd hnew hlt

theorem lease_step (h : Books s) {i : AuthInstanceID} (hj : (step s e).leases i = some j) :
    s.leases i = some j ∨ ¬ (j < s.nextJob ∧ (s.jobs j).started = true) := by
  by_cases hold : j < s.nextJob ∧ (s.jobs j).started = true
  · obtain ⟨hlt, hs⟩ := hold
    have hfollows := follows_step h e
    obtain ⟨hin, hinst, -⟩ := hfollows.books.leased i j hj
    rcases inFlight_step h hin with hin' | ⟨intent, nonce, -, -, -, rfl, -⟩
    · have hlease := h.lease_of_started hin' hs
      rw [← (hfollows.grows.jobs j hlt).intent, hinst] at hlease
      exact .inl hlease
    · exact absurd hlt (Nat.lt_irrefl _)
  · exact .inr hold

theorem inFlight_submit (h : Books s) (hm : InFlight s m) : InFlight (s.submit intent nonce) m := by
  rcases submit_cases intent with ⟨hsame, -⟩ | ⟨hkey, -, -, hsubmit⟩
  · rwa [hsame]
  · have hk : (s.jobs m).key ≠ keyOf intent nonce := by
      intro hk
      have hlookup := h.key_lookup hm
      rw [hk, hkey] at hlookup
      cases hlookup
    refine ⟨(s.jobs m).key, ?_⟩
    rw [hsubmit, inflight_tryStart]
    simpa [accept, AList.lookup_insert_ne hk] using h.key_lookup hm

theorem inFlight_expire (h : Books s) (j : Nat) (inheritFails : Bool) (hm : InFlight s m) :
    InFlight (s.expire j inheritFails) m ∨
      m = j ∧ s.delivers m = true ∧ ((s.expire j inheritFails).jobs m).expired = true := by
  rcases expire_cases inheritFails with hsame | ⟨hd, r, i, fence, f, hend⟩
  · rw [hsame]
    exact .inl hm
  · rw [hend]
    have hmark := follows_markExpired h hd
    have hl := lease_markExpired h hd
    by_cases hne : m = j
    · -- what follows keeps the expired flag
      subst hne
      have hlater := (follows_conclude hmark.books hl r i fence f).grows.jobs m (h.bounded m hm)
      exact .inr ⟨rfl, hd, hlater.expired (by simp [markExpired, modifyJob])⟩
    · exact .inl ((inFlight_conclude hmark.books hl r i fence f m).2 ⟨hm, hne⟩)

theorem inFlight_result (h : Books s) (hm : InFlight s m)
    (hne : m ≠ j) : InFlight (s.result j r answers) m := by
  rcases result_cases answers with hsame | ⟨-, hlaunch⟩ | ⟨hd, t, r', i, fence, f, ht, hend⟩
  · rwa [hsame]
  · rw [hlaunch]
    exact hm
  · have hl := h.lease_of_delivers hd
    rw [hend]
    rcases ht with rfl | rfl
    · exact (inFlight_conclude h hl r' i fence f m).2 ⟨hm, hne⟩
    · exact (inFlight_conclude (follows_applied h j).books hl r' i fence f m).2 ⟨hm, hne⟩

theorem inFlight_cancelLease (h : Books s) (i : AuthInstanceID) (m : Nat) :
    (InFlight (s.cancelLease i) m ↔ InFlight s m ∧ s.leases i ≠ some m) ∧
      (s.leases i = some m → ((s.cancelLease i).jobs m).invalidated = true) := by
  unfold cancelLease
  split
  · next hnone => simp [hnone]
  · next j hj =>
    obtain ⟨-, hinst, hs⟩ := h.leased i j hj
    have hflag : Flagged (s.jobs j) { s.jobs j with invalidated := true, ctxCancelled := true } :=
      .of_started hs ⟨rfl, rfl, id, id, fun _ => rfl, fun _ => rfl, fun _ _ => .inl rfl⟩ rfl rfl
    have hbooks := (follows_modifyJob h j (f := fun job =>
      { job with invalidated := true, ctxCancelled := true }) hflag).books
    have hl : (s.modifyJob j fun job =>
        { job with invalidated := true, ctxCancelled := true }).leases
          ((s.modifyJob j fun job =>
            { job with invalidated := true, ctxCancelled := true }).jobs j).intent.inst =
              some j := by
      simpa [modifyJob, hinst] using hj
    constructor
    · rw [(removes_retire hbooks hl _).inFlight_iff m, hj, mem_singleton, ne_eq,
        some.injEq, eq_comm (a := m)]
      exact .rfl
    · rw [hj, some.injEq]
      rintro rfl
      simp [retire, complete, modifyJob]

theorem inFlight_cancelInstance (h : Books s) (i : AuthInstanceID) (hm : InFlight s m) :
    (InFlight (s.cancelInstance i) m ↔ (s.jobs m).intent.inst ≠ i) ∧
      ((s.jobs m).intent.inst = i → ((s.cancelInstance i).jobs m).invalidated = true) := by
  unfold cancelInstance
  generalize hs' : ({ s with
    cancelNonce := s.cancelNonce + 1
    cancelTokens := update s.cancelTokens i (s.cancelNonce + 1)
    cancelledThrough := update s.cancelledThrough i
      (some (s.instanceGeneration i)) } : LoopState) = s'
  have hmarked : Follows s s' := by
    subst hs'
    exact follows_of_same h rfl rfl rfl rfl (fun _ => rfl) rfl fun _ => id
  have hbooks := hmarked.books
  have hm' : InFlight s' m := by
    subst hs'
    exact hm
  have hinst : (s'.jobs m).intent.inst = (s.jobs m).intent.inst := by
    subst hs'
    rfl
  rw [← hinst]
  have hremoves := removes_cancelQueue hbooks i
  have hqueue := follows_cancelQueue hbooks i
  have hlease := inFlight_cancelLease hqueue.books i m
  have hleases : (s'.cancelQueue i).leases i = s'.leases i := rfl
  rw [hlease.1, hremoves.inFlight_iff m, hleases]
  constructor
  · constructor
    · rintro ⟨⟨-, hq⟩, hl⟩ hi
      rcases hbooks.placed m hm' with hl' | hq'
      · exact hl (hi ▸ hl')
      · exact hq (hi ▸ hq')
    · exact fun hi => ⟨⟨hm', fun hq => hi (hbooks.queued i m hq).2.1⟩,
        fun hl => hi (hbooks.leased i m hl).2.1⟩
  · intro hi
    rcases hbooks.placed m hm' with hl | hq
    · exact hlease.2 (hi ▸ hl)
    · have hflag : ((s'.cancelQueue i).jobs m).invalidated = true := by
        rw [hi] at hq
        simp [cancelQueue, invalidate, complete, hq]
      have hlater := (follows_cancelLease hqueue.books i).grows.jobs m (hbooks.bounded m hm')
      exact hlater.invalidated hflag

variable {instances : List AuthInstanceID}

theorem inFlight_cancel (h : Books s) (hm : InFlight s m) :
    (InFlight (s.cancel instances) m ↔ (s.jobs m).intent.inst ∉ instances) ∧
      ((s.jobs m).intent.inst ∈ instances → ((s.cancel instances).jobs m).invalidated = true) := by
  obtain ⟨hflight, hjobs⟩ := finishDrains_frame (instances.foldl cancelInstance s)
  simp only [cancel, InFlight, hflight, hjobs]
  induction instances generalizing s with
  | nil => exact ⟨⟨fun _ => not_mem_nil, fun _ => hm⟩, fun hi => absurd hi not_mem_nil⟩
  | cons i instances ih =>
    have hfollows := follows_cancelInstance h i
    have hrest := follows_foldl follows_cancelInstance instances hfollows.books
    have hlt := h.bounded m hm
    have hlater := hfollows.grows.jobs m hlt
    rw [foldl_cons, mem_cons]
    by_cases hi : (s.jobs m).intent.inst = i
    · have hone := inFlight_cancelInstance h i hm
      have hflag := (hrest.grows.jobs m (hlt.trans_le hfollows.grows.next)).invalidated (hone.2 hi)
      refine ⟨⟨fun hin => ?_, fun hout => absurd (.inl hi) hout⟩, fun _ => hflag⟩
      exact absurd hi (hone.1.1 (inFlight_of_follows hfollows.books hrest
        (hlt.trans_le hfollows.grows.next) hin))
    · have hkept := (inFlight_cancelInstance h i hm).1.2 hi
      have hnext := ih hfollows.books hkept (finishDrains_frame _).1 (finishDrains_frame _).2
      rw [hlater.intent] at hnext
      simpa only [hi, false_or] using hnext

theorem inFlight_drain (h : Books s) (hm : InFlight s m) :
    InFlight s.drain m ∨ m ∈ s.queuedJobs := by
  have hflight : s.drain.inflight = (dropQueues s).inflight := by
    unfold drain
    dsimp only
    split <;> rfl
  by_cases hq : m ∈ s.queuedJobs
  · exact .inr hq
  · refine .inl ?_
    rw [InFlight, hflight]
    exact ((removes_dropQueues h).inFlight_iff m).2 ⟨hm, hq⟩

inductive Leaves (s : LoopState) (e : Event) (m : Nat) : Prop
  | result (r : OperationResult) (answers : Answers) (event : e = .result m r answers)
  | expire (inheritFails : Bool) (event : e = .expire m inheritFails)
      (delivers : s.delivers m = true) (expired : ((step s e).jobs m).expired = true)
  | cancel (instances : List AuthInstanceID) (event : e = .cancel instances)
      (mem : (s.jobs m).intent.inst ∈ instances)
      (invalidated : ((step s e).jobs m).invalidated = true)
  | drain (event : e = .drain) (queued : m ∈ s.queuedJobs)

theorem inFlight_or_leaves (h : Books s) (hm : InFlight s m) :
    InFlight (step s e) m ∨ Leaves s e m := by
  have hsame : (step s e).inflight = s.inflight → InFlight (step s e) m ∨ Leaves s e m := by
    intro hflight
    rw [InFlight, hflight]
    exact .inl hm
  cases e with
  | submit intent nonce => exact .inl (inFlight_submit h hm)
  | expire j inheritFails =>
    rcases inFlight_expire h j inheritFails hm with hin | ⟨rfl, hd, hexpired⟩
    · exact .inl hin
    · exact .inr (.expire inheritFails rfl hd hexpired)
  | result j r answers =>
    by_cases hne : m = j
    · subst hne
      exact .inr (.result r answers rfl)
    · exact .inl (inFlight_result h hm hne)
  | logCallback j r fails =>
    refine hsame ?_
    simp only [step, logCallback]
    split <;> rfl
  | cancel instances =>
    obtain ⟨hiff, hflag⟩ := inFlight_cancel h hm
    by_cases hi : (s.jobs m).intent.inst ∈ instances
    · exact .inr (.cancel instances rfl hi (hflag hi))
    · exact .inl (hiff.2 hi)
  | activate generations =>
    refine hsame (foldl_keeps inflight (fun s g => ?_) generations s)
    unfold activateInstance
    dsimp only
    split <;> rfl
  | restore generations =>
    refine hsame (foldl_keeps inflight (fun s g => ?_) generations s)
    unfold restoreInstance
    split <;> rfl
  | drain => exact (inFlight_drain h hm).imp_right fun hq => .drain rfl hq
  | markProbeSent j suppressUntil =>
    refine hsame ?_
    simp only [step]
    split <;> rfl
  | dispatchLogs j => exact hsame rfl

theorem holdsOn_step (h : Books s) (hm : InFlight s m) (hstarted : (s.jobs m).started = true) :
    InFlight (step s e) m ∨ Job.Stopped ((step s e).jobs m) ∨
      ∃ r answers, e = .result m r answers :=
  by
  rcases inFlight_or_leaves h hm with hin | hleaves
  · exact .inl hin
  · cases hleaves with
    | result r answers event => exact .inr (.inr ⟨r, answers, event⟩)
    | expire inheritFails event delivers expired => exact .inr (.inl (.inl expired))
    | cancel instances event mem invalidated => exact .inr (.inl (.inr invalidated))
    | drain event queued =>
      obtain ⟨i, hi⟩ := mem_queuedJobs.1 queued
      rw [(h.queued i m hi).2.2.1] at hstarted
      cases hstarted

theorem launched_step (s : LoopState) (e : Event) : (step s e).launched = s.launched ∨
      (∃ j r answers, e = .result j r answers ∧ s.delivers j = true ∧
        (step s e).launched = j :: s.launched ∧ (step s e).inflight = s.inflight) ∨
      ∃ j, e = .dispatchLogs j ∧ (step s e).launched = s.launched.erase j := by
  rcases calls_cases s e with ⟨j, r, answers, hc, hcalls⟩ | ⟨-, hsame | hdispatch⟩
  · cases hlogs : r.hostLogs with
    | false =>
      rw [hlogs] at hcalls
      exact .inl (Prod.mk.inj hcalls).2
    | true =>
      have hstep : step s e = { s with launched := j :: s.launched } := by
        have hvalid : s.valid j (withProbe (s.jobs j) r) answers = true := hc.valid
        have hlogs' : (withProbe (s.jobs j) r).hostLogs = true := hlogs
        rw [hc.event]
        simp [step, LoopState.result, hc.delivers, hvalid, hlogs']
      refine .inr (.inl ⟨j, r, answers, hc.event, hc.delivers, ?_, ?_⟩) <;> rw [hstep]
  · exact .inl hsame
  · exact .inr (.inr hdispatch)

def marks (s : LoopState) : (AuthInstanceID → Nat) × (AuthInstanceID → Option Nat) ×
    (AuthInstanceID → Nat) × Nat :=
  (s.instanceGeneration, s.cancelledThrough, s.cancelTokens, s.cancelNonce)

def ofMethod : Event → Bool
  | .submit _ _ => true
  | .cancel _ => true
  | .activate _ => true
  | .restore _ => true
  | _ => false

theorem marks_step (he : ofMethod e = false) : marks (step s e) = marks s := by
  have hjobs := rest_step (s := s) (e := e)
  cases e with
  | submit | cancel | activate | restore => cases he
  | result j r answers => exact congrArg (·.2) rest_result
  | expire | logCallback | drain | markProbeSent => exact congrArg (·.2.2) (hjobs rfl)
  | dispatchLogs j => rfl

theorem marks_submit (s : LoopState) (intent : Intent) (nonce : Nat) :
    marks (s.submit intent nonce) =
      if s.reply intent nonce = some s.nextJob ∧ s.refuses intent = false ∧
          s.inflight.lookup (keyOf intent nonce) = none then
        (update s.instanceGeneration intent.inst
          (max (s.instanceGeneration intent.inst) intent.generation), (marks s).2)
      else marks s := by
  rcases submit_cases intent with
    ⟨hsame, ⟨j, hj, -⟩ | ⟨hr, -⟩⟩ | ⟨hkey, hr, hreply, hsubmit⟩
  · rw [hsame, if_neg (by simp [hj])]
  · rw [hsame, if_neg (by simp [hr])]
  · rw [hsubmit, if_pos ⟨hreply, hr, hkey⟩]
    exact tryStart_keeps (fun _ _ _ _ => rfl) _

end QuotaScheduler.CoordinatorMoves

/- Jobs in flight are the queued and the leased ones, and a future is completed once. -/

import QuotaScheduler.Coordinator

namespace QuotaScheduler.CoordinatorBooks

open Coordinator Coordinator.LoopState Lib.Runs Lib.Tables List Option Function AList

def InFlight (s : LoopState) (j : Nat) : Prop := ∃ k, s.inflight.lookup k = some j

def Queued (s : LoopState) (j : Nat) : Prop := ∃ i, j ∈ s.queueOf i

def Leased (s : LoopState) (j : Nat) : Prop := ∃ i, s.leases i = some j

def Job.Stopped (job : Job) : Prop := job.expired = true ∨ job.invalidated = true

structure Books (s : LoopState) : Prop where
  keyed : ∀ k j, s.inflight.lookup k = some j → (s.jobs j).key = k
  bounded : ∀ j, InFlight s j → j < s.nextJob
  queued : ∀ i j, j ∈ s.queueOf i → InFlight s j ∧ (s.jobs j).intent.inst = i ∧
    (s.jobs j).started = false ∧ ¬ Job.Stopped (s.jobs j)
  nodup : ∀ i, (s.queueOf i).Nodup
  leased : ∀ i j, s.leases i = some j → InFlight s j ∧ (s.jobs j).intent.inst = i ∧
    (s.jobs j).started = true
  placed : ∀ j, InFlight s j →
    s.leases (s.jobs j).intent.inst = some j ∨ j ∈ s.queueOf (s.jobs j).intent.inst
  pending : ∀ j, j < s.nextJob → ((s.jobs j).future = none ↔ InFlight s j)
  logged : ∀ j r, (j, r) ∈ s.completions ↔ j < s.nextJob ∧ (s.jobs j).future = some r
  once : (s.completions.map Prod.fst).Nodup
  launched : ∀ j ∈ s.launched, j < s.nextJob ∧ (s.jobs j).started = true
  fenced : ∀ j, j < s.nextJob → (s.jobs j).started = true → Job.Stopped (s.jobs j) →
    (s.jobs j).ctxCancelled = true

/-- What no command changes back; a started job is not stopped without its context. -/
structure Later (a b : Job) : Prop where
  key : b.key = a.key
  intent : b.intent = a.intent
  started : a.started = true → b.started = true
  expired : a.expired = true → b.expired = true
  invalidated : a.invalidated = true → b.invalidated = true
  ctxCancelled : a.ctxCancelled = true → b.ctxCancelled = true
  stopped : b.started = true → Job.Stopped b →
    b.ctxCancelled = true ∨ a.started = true ∧ Job.Stopped a

theorem Later.refl (a : Job) : Later a a :=
  ⟨rfl, rfl, id, id, id, id, fun hs h => .inr ⟨hs, h⟩⟩

variable {a b : Job} {s t : LoopState} {j : Nat} {js : List Nat} {r : Nat → OperationResult}
  {i : AuthInstanceID}

theorem Later.trans {c : Job} (h : Later a b) (h' : Later b c) : Later a c where
  key := h'.key.trans h.key
  intent := h'.intent.trans h.intent
  started := h'.started ∘ h.started
  expired := h'.expired ∘ h.expired
  invalidated := h'.invalidated ∘ h.invalidated
  ctxCancelled := h'.ctxCancelled ∘ h.ctxCancelled
  stopped hs hstop := by
    rcases h'.stopped hs hstop with hc | ⟨hb, hstop⟩
    · exact .inl hc
    · exact (h.stopped hb hstop).imp_left h'.ctxCancelled

theorem Later.fenced (h : Later a b) (ha : a.started = true → Job.Stopped a → a.ctxCancelled = true)
    (hs : b.started = true) (hstop : Job.Stopped b) : b.ctxCancelled = true := by
  rcases h.stopped hs hstop with hc | ⟨hs', hstop'⟩
  · exact hc
  · exact h.ctxCancelled (ha hs' hstop')

structure Grows (s t : LoopState) : Prop where
  next : s.nextJob ≤ t.nextJob
  log : ∀ x ∈ s.completions, x ∈ t.completions
  jobs : ∀ j, j < s.nextJob → Later (s.jobs j) (t.jobs j)

theorem Grows.refl (s : LoopState) : Grows s s := ⟨le_rfl, fun _ => id, fun _ _ => .refl _⟩

theorem Grows.trans {u : LoopState} (h : Grows s t) (h' : Grows t u) : Grows s u where
  next := h.next.trans h'.next
  log x hx := h'.log x (h.log x hx)
  jobs j hj := (h.jobs j hj).trans (h'.jobs j (hj.trans_le h.next))

structure Follows (s t : LoopState) : Prop where
  books : Books t
  grows : Grows s t

theorem Follows.refl (h : Books s) : Follows s s := ⟨h, .refl s⟩

theorem Follows.andThen {u : LoopState} (h : Follows s t) (h' : Books t → Follows t u) :
    Follows s u :=
  ⟨(h' h.books).books, h.grows.trans (h' h.books).grows⟩

theorem Books.lease_of_started (h : Books s) (hin : InFlight s j) (hs : (s.jobs j).started = true) :
    s.leases (s.jobs j).intent.inst = some j := by
  refine (h.placed j hin).resolve_right fun hq => ?_
  rw [(h.queued _ j hq).2.2.1] at hs
  cases hs

theorem Books.key_lookup (h : Books s) (hin : InFlight s j) :
    s.inflight.lookup (s.jobs j).key = some j := by
  obtain ⟨k, hk⟩ := hin
  rw [h.keyed k j hk, hk]

structure Flagged (a b : Job) : Prop extends Later a b where
  future : b.future = a.future
  same : b.started = a.started
  waiting : a.started = false → Job.Stopped b → Job.Stopped a

theorem Flagged.refl (a : Job) : Flagged a a := ⟨.refl a, rfl, rfl, fun _ => id⟩

structure Touches (s t : LoopState) : Prop where
  next : t.nextJob = s.nextJob
  inflight : t.inflight = s.inflight
  leases : t.leases = s.leases
  queue : ∀ i, t.queueOf i = s.queueOf i
  completions : t.completions = s.completions
  launched : ∀ j ∈ t.launched, j ∈ s.launched ∨ InFlight s j ∧ (s.jobs j).started = true
  jobs : ∀ j, Flagged (s.jobs j) (t.jobs j)

theorem Touches.inFlight_iff (ht : Touches s t) (j : Nat) : InFlight t j ↔ InFlight s j := by
  rw [InFlight, InFlight, ht.inflight]

theorem Touches.follows (h : Books s) (ht : Touches s t) : Follows s t where
  books :=
    { keyed := fun k j hk => by
        rw [ht.inflight] at hk
        rw [(ht.jobs j).key]
        exact h.keyed k j hk
      bounded := fun j hj => by
        rw [ht.next]
        exact h.bounded j ((ht.inFlight_iff j).1 hj)
      queued := fun i j hj => by
        rw [ht.queue] at hj
        obtain ⟨hin, hinst, hs, hfresh⟩ := h.queued i j hj
        rw [ht.inFlight_iff, (ht.jobs j).intent, (ht.jobs j).same]
        exact ⟨hin, hinst, hs, mt ((ht.jobs j).waiting hs) hfresh⟩
      nodup := fun i => by
        rw [ht.queue]
        exact h.nodup i
      leased := fun i j hj => by
        rw [ht.leases] at hj
        rw [ht.inFlight_iff, (ht.jobs j).intent, (ht.jobs j).same]
        exact h.leased i j hj
      placed := fun j hj => by
        rw [ht.leases, ht.queue, (ht.jobs j).intent]
        exact h.placed j ((ht.inFlight_iff j).1 hj)
      pending := fun j hj => by
        rw [ht.next] at hj
        rw [(ht.jobs j).future, ht.inFlight_iff]
        exact h.pending j hj
      logged := fun j r => by
        rw [ht.completions, ht.next, (ht.jobs j).future]
        exact h.logged j r
      once := by
        rw [ht.completions]
        exact h.once
      launched := fun j hj => by
        rw [ht.next, (ht.jobs j).same]
        rcases ht.launched j hj with hj | ⟨hin, hs⟩
        · exact h.launched j hj
        · exact ⟨h.bounded j hin, hs⟩
      fenced := fun j hj => (ht.jobs j).fenced (h.fenced j (ht.next ▸ hj)) }
  grows := ⟨ht.next.ge, fun x hx => ht.completions ▸ hx, fun j _ => (ht.jobs j).toLater⟩

open Touches

theorem follows_of_same (h : Books s) (hnext : t.nextJob = s.nextJob) (hjobs : t.jobs = s.jobs)
    (hflight : t.inflight = s.inflight) (hleases : t.leases = s.leases)
    (hqueue : ∀ i, t.queueOf i = s.queueOf i) (hlog : t.completions = s.completions)
    (hlaunched : ∀ j ∈ t.launched, j ∈ s.launched) : Follows s t :=
  follows h ⟨hnext, hflight, hleases, hqueue, hlog, fun j hj => .inl (hlaunched j hj),
    fun _ => hjobs ▸ .refl _⟩

theorem follows_modifyJob (h : Books s) (j : Nat) {f : Job → Job}
    (hf : Flagged (s.jobs j) (f (s.jobs j))) : Follows s (s.modifyJob j f) := by
  refine follows h ⟨rfl, rfl, rfl, fun _ => rfl, rfl, fun _ => .inl, fun m => ?_⟩
  by_cases hm : m = j
  · subst hm
    simpa [modifyJob] using hf
  · simpa [modifyJob, hm] using .refl _

theorem follows_finishDrains (h : Books s) : Follows s s.finishDrains := by
  unfold finishDrains
  split
  · exact follows_of_same h rfl rfl rfl rfl (fun _ => rfl) rfl fun _ => id
  · exact .refl h

structure Removes (s t : LoopState) (js : List Nat) (r : Nat → OperationResult) : Prop where
  next : t.nextJob = s.nextJob
  launched : t.launched = s.launched
  inflight : ∀ k x, t.inflight.lookup k = some x ↔ s.inflight.lookup k = some x ∧ x ∉ js
  leases : ∀ i x, t.leases i = some x ↔ s.leases i = some x ∧ x ∉ js
  queue : ∀ i x, x ∈ t.queueOf i ↔ x ∈ s.queueOf i ∧ x ∉ js
  nodup : ∀ i, (t.queueOf i).Nodup
  log : t.completions = js.map (fun j => (j, r j)) ++ s.completions
  done : ∀ j ∈ js, (t.jobs j).future = some (r j)
  later : ∀ j ∈ js, Later (s.jobs j) (t.jobs j)
  other : ∀ j, j ∉ js → t.jobs j = s.jobs j

theorem Removes.inFlight_iff (hr : Removes s t js r) (j : Nat) :
    InFlight t j ↔ InFlight s j ∧ j ∉ js := by
  simp only [InFlight, hr.inflight, exists_and_right]

theorem Removes.job_later (hr : Removes s t js r) (j : Nat) : Later (s.jobs j) (t.jobs j) := by
  by_cases hj : j ∈ js
  · exact hr.later j hj
  · exact hr.other j hj ▸ .refl _

theorem Removes.follows (h : Books s) (hr : Removes s t js r) (hjs : js.Nodup)
    (hin : ∀ j ∈ js, InFlight s j) : Follows s t where
  books :=
    { keyed := fun k j hk => by
        rw [(hr.job_later j).key]
        exact h.keyed k j ((hr.inflight k j).1 hk).1
      bounded := fun j hj => by
        rw [hr.next]
        exact h.bounded j ((hr.inFlight_iff j).1 hj).1
      queued := fun i j hj => by
        obtain ⟨hq, hn⟩ := (hr.queue i j).1 hj
        rw [hr.inFlight_iff, hr.other j hn]
        obtain ⟨hf, hrest⟩ := h.queued i j hq
        exact ⟨⟨hf, hn⟩, hrest⟩
      nodup := hr.nodup
      leased := fun i j hj => by
        obtain ⟨hl, hn⟩ := (hr.leases i j).1 hj
        rw [hr.inFlight_iff, hr.other j hn]
        obtain ⟨hf, hrest⟩ := h.leased i j hl
        exact ⟨⟨hf, hn⟩, hrest⟩
      placed := fun j hj => by
        obtain ⟨hf, hn⟩ := (hr.inFlight_iff j).1 hj
        rw [hr.leases, hr.queue, hr.other j hn]
        exact (h.placed j hf).imp (⟨·, hn⟩) (⟨·, hn⟩)
      pending := fun j hj => by
        rw [hr.next] at hj
        rw [hr.inFlight_iff]
        by_cases hm : j ∈ js
        · simp [hr.done j hm, hm]
        · simp [hr.other j hm, hm, h.pending j hj]
      logged := fun j x => by
        rw [hr.log, hr.next, mem_append, List.mem_map, h.logged]
        by_cases hm : j ∈ js
        · -- the job had no result before
          have hnone : (s.jobs j).future = none :=
            (h.pending j (h.bounded j (hin j hm))).2 (hin j hm)
          have hlt := h.bounded j (hin j hm)
          rw [hr.done j hm, hnone]
          constructor
          · rintro (⟨m, -, hmx⟩ | ⟨-, hx⟩)
            · obtain ⟨rfl, rfl⟩ := Prod.mk.inj hmx
              exact ⟨hlt, rfl⟩
            · cases hx
          · rintro ⟨-, hx⟩
            exact .inl ⟨j, hm, by rw [some.inj hx]⟩
        · rw [hr.other j hm]
          refine ⟨fun hx => hx.resolve_left ?_, .inr⟩
          rintro ⟨m, hmem, hmx⟩
          exact hm ((Prod.mk.inj hmx).1 ▸ hmem)
      once := by
        have hfst : (js.map fun j => (j, r j)).map Prod.fst = js := by
          simp [comp_def]
        rw [hr.log, map_append, hfst]
        refine .append hjs h.once fun j hj hlog => ?_
        obtain ⟨⟨m, x⟩, hmem, rfl⟩ := List.mem_map.1 hlog
        have hlogged := (h.logged m x).1 hmem
        rw [(h.pending m hlogged.1).2 (hin m hj)] at hlogged
        cases hlogged.2
      launched := fun j hj => by
        rw [hr.launched] at hj
        rw [hr.next]
        exact ⟨(h.launched j hj).1, (hr.job_later j).started (h.launched j hj).2⟩
      fenced := fun j hj => (hr.job_later j).fenced (h.fenced j (hr.next ▸ hj)) }
  grows :=
    { next := hr.next.ge
      log := fun x hx => hr.log ▸ mem_append_right _ hx
      jobs := fun j _ => hr.job_later j }

theorem Books.future_none (h : Books s) (hin : InFlight s j) : (s.jobs j).future = none :=
  (h.pending j (h.bounded j hin)).2 hin

theorem Books.not_queued (h : Books s) {l : AuthInstanceID} (hl : s.leases l = some j) :
    j ∉ s.queueOf i := by
  intro hq
  have hs := (h.leased l j hl).2.2
  rw [(h.queued i j hq).2.2.1] at hs
  cases hs

theorem removes_retire (h : Books s) (hl : s.leases (s.jobs j).intent.inst = some j)
    (result : OperationResult) : Removes s (s.retire j result) [j] fun _ => result where
  next := rfl
  launched := rfl
  inflight k x := by
    have herase := lookup_erase_of_keyed h.keyed (h.key_lookup (h.leased _ j hl).1) k x
    simpa [retire, complete] using herase
  leases i x := by
    simp only [retire, complete, if_pos hl, mem_singleton]
    by_cases hi : i = (s.jobs j).intent.inst
    · subst hi
      simp [hl, eq_comm]
    · rw [update_of_ne hi]
      refine ⟨fun hx => ⟨hx, ?_⟩, And.left⟩
      rintro rfl
      exact hi (h.leased i x hx).2.1.symm
  queue i x := by
    refine ⟨fun hx => ⟨hx, ?_⟩, And.left⟩
    rw [mem_singleton]
    rintro rfl
    exact h.not_queued hl hx
  nodup := h.nodup
  log := rfl
  done m hm := by
    rw [mem_singleton.1 hm]
    simp [retire, complete, h.future_none (h.leased _ j hl).1]
  later m hm := by
    rw [mem_singleton.1 hm]
    simp only [retire, complete, mem_singleton, if_true]
    exact ⟨rfl, rfl, id, id, id, id, fun hs hstop => .inr ⟨hs, hstop⟩⟩
  other m hm := by
    simp only [retire, complete, if_neg hm]

theorem follows_retire (h : Books s) (hl : s.leases (s.jobs j).intent.inst = some j)
    (result : OperationResult) : Follows s (s.retire j result) :=
  (removes_retire h hl result).follows h (nodup_singleton j) fun m hm => by
    rw [mem_singleton.1 hm]
    exact (h.leased _ j hl).1

theorem queueOf_erase (s t : LoopState) (ht : t.queue = s.queue.erase i) (l : AuthInstanceID) :
    t.queueOf l = if l = i then [] else s.queueOf l := by
  rw [queueOf, ht]
  split
  · next hl => rw [hl, lookup_erase, getD_none]
  · next hl => rw [lookup_erase_ne hl, queueOf]

theorem queueOf_insert (s t : LoopState) (ht : t.queue = s.queue.insert i js) (l : AuthInstanceID) :
    t.queueOf l = if l = i then js else s.queueOf l := by
  rw [queueOf, ht]
  split
  · next hl => rw [hl, lookup_insert, getD_some]
  · next hl => rw [lookup_insert_ne hl, queueOf]

def startFirst (s : LoopState) (i : AuthInstanceID) (j : Nat) (rest : List Nat) : LoopState :=
  { s with
    queue := s.queue.insert i rest
    leases := Function.update s.leases (s.jobs j).intent.inst (some j) }.modifyJob j
    fun job => { job with started := true }

theorem startFirst_jobs_self (s : LoopState) (i : AuthInstanceID) (j : Nat) (rest : List Nat) :
    (startFirst s i j rest).jobs j = { s.jobs j with started := true } := by
  simp [startFirst, modifyJob]

theorem startFirst_jobs_ne (s : LoopState) (i : AuthInstanceID) {m : Nat} (rest : List Nat)
    (hm : m ≠ j) : (startFirst s i j rest).jobs m = s.jobs m := by
  simp [startFirst, modifyJob, hm]

theorem startFirst_key_intent_future (s : LoopState) (i : AuthInstanceID) (j m : Nat)
    (rest : List Nat) :
    ((startFirst s i j rest).jobs m).key = (s.jobs m).key ∧
      ((startFirst s i j rest).jobs m).intent = (s.jobs m).intent ∧
      ((startFirst s i j rest).jobs m).future = (s.jobs m).future := by
  by_cases hm : m = j
  · subst hm
    rw [startFirst_jobs_self]
    exact ⟨rfl, rfl, rfl⟩
  · rw [startFirst_jobs_ne s i rest hm]
    exact ⟨rfl, rfl, rfl⟩

theorem follows_startFirst (h : Books s) {rest : List Nat} (hfree : s.leases i = none)
    (hq : s.queueOf i = j :: rest) : Follows s (startFirst s i j rest) := by
  have hmem : j ∈ s.queueOf i := hq ▸ mem_cons_self
  obtain ⟨hin, hinst, hwait, hfresh⟩ := h.queued i j hmem
  have hnodup := h.nodup i
  rw [hq, nodup_cons] at hnodup
  have hqueue : ∀ l, (startFirst s i j rest).queueOf l = if l = i then rest else s.queueOf l :=
    queueOf_insert s _ rfl
  have hleases : ∀ l, (startFirst s i j rest).leases l =
      if l = i then some j else s.leases l := by
    intro l
    simp only [startFirst, modifyJob, hinst, update_apply]
  -- a job that still waits is another one
  have hrest : ∀ l x, x ∈ (startFirst s i j rest).queueOf l → x ∈ s.queueOf l ∧ x ≠ j := by
    intro l x hx
    rw [hqueue] at hx
    by_cases hl : l = i
    · rw [if_pos hl] at hx
      rw [hl, hq]
      exact ⟨mem_cons_of_mem _ hx, fun hxj => hnodup.1 (hxj ▸ hx)⟩
    · rw [if_neg hl] at hx
      refine ⟨hx, ?_⟩
      rintro rfl
      exact hl ((h.queued l x hx).2.1.symm.trans hinst)
  have hlater : ∀ m, Later (s.jobs m) ((startFirst s i j rest).jobs m) := by
    intro m
    by_cases hm : m = j
    · subst hm
      rw [startFirst_jobs_self]
      exact ⟨rfl, rfl, fun _ => rfl, id, id, id, fun _ hstop => absurd hstop hfresh⟩
    · rw [startFirst_jobs_ne s i rest hm]
      exact .refl _
  refine ⟨?_, le_rfl, fun _ => id, fun m _ => hlater m⟩
  exact
    { keyed := fun k m hk => (hlater m).key.trans (h.keyed k m hk)
      bounded := h.bounded
      queued := fun l x hx => by
        obtain ⟨hx, hne⟩ := hrest l x hx
        rw [startFirst_jobs_ne s i rest hne]
        exact h.queued l x hx
      nodup := fun l => by
        rw [hqueue]
        split
        · exact hnodup.2
        · exact h.nodup l
      leased := fun l x hx => by
        rw [hleases] at hx
        split at hx
        · next hl =>
          rw [← some.inj hx, hl, startFirst_jobs_self]
          exact ⟨hin, hinst, rfl⟩
        · obtain ⟨hf, hi, hs⟩ := h.leased l x hx
          exact ⟨hf, (hlater x).intent ▸ hi, (hlater x).started hs⟩
      placed := fun x hx => by
        rw [(hlater x).intent, hleases, hqueue]
        rcases h.placed x hx with hl | hw
        · have hne : (s.jobs x).intent.inst ≠ i := by
            intro hi
            rw [hi, hfree] at hl
            cases hl
          exact .inl (by rw [if_neg hne, hl])
        · by_cases hi : (s.jobs x).intent.inst = i
          · rw [hi, hq] at hw
            rw [if_pos hi, if_pos hi]
            exact (mem_cons.1 hw).imp (fun hxj => by rw [hxj]) id
          · exact .inr (by rwa [if_neg hi])
      pending := fun x hx => by
        rw [(startFirst_key_intent_future s i j x rest).2.2]
        exact h.pending x hx
      logged := fun x r => by
        rw [(startFirst_key_intent_future s i j x rest).2.2]
        exact h.logged x r
      once := h.once
      launched := fun x hx => ⟨(h.launched x hx).1, (hlater x).started (h.launched x hx).2⟩
      fenced := fun x hx => (hlater x).fenced (h.fenced x hx) }

theorem follows_tryStart (h : Books s) (i : AuthInstanceID) : Follows s (s.tryStart i) := by
  unfold tryStart
  split
  · exact .refl h
  · split
    · exact .refl h
    · next hfree =>
      split
      · next hq =>
        refine follows_of_same h rfl rfl rfl rfl (fun l => ?_) rfl fun _ => id
        rw [queueOf_erase s _ rfl]
        split
        · next hl => rw [hl, hq]
        · rfl
      · next j rest hq =>
        dsimp only
        split
        · exact .refl h
        · exact follows_startFirst h (by simpa using hfree) hq

theorem follows_settle (h : Books s) (i : AuthInstanceID) (fence : Nat)
    (f : DrainReport → DrainReport) :
    Follows s (((s.raiseFence i fence).reportDrains f).tryStart i).finishDrains :=
  have hfence : Follows s ((s.raiseFence i fence).reportDrains f) :=
    follows_of_same h rfl rfl rfl rfl (fun _ => rfl) rfl fun _ => id
  (hfence.andThen fun h => follows_tryStart h i).andThen follows_finishDrains

theorem follows_accept (h : Books s) (intent : Intent) {key : OperationKey}
    (hkey : s.inflight.lookup key = none) : Follows s (s.accept intent key) := by
  have hself : (s.accept intent key).jobs s.nextJob = { key := key, intent := intent } := by
    simp [accept]
  have hne : ∀ m, m < s.nextJob → (s.accept intent key).jobs m = s.jobs m := by
    intro m hm
    simp [accept, hm.ne]
  have hflight : ∀ k x, (s.accept intent key).inflight.lookup k = some x ↔
      s.inflight.lookup k = some x ∨ k = key ∧ x = s.nextJob := by
    intro k x
    simp only [accept]
    by_cases hk : k = key
    · subst hk
      simp [hkey, eq_comm]
    · simp [lookup_insert_ne hk, hk]
  have hin : ∀ x, InFlight (s.accept intent key) x ↔ InFlight s x ∨ x = s.nextJob := by
    intro x
    simp only [InFlight, hflight, exists_or, exists_and_right, exists_eq, true_and]
  have hqueue : ∀ l, (s.accept intent key).queueOf l =
      if l = intent.inst then s.queueOf intent.inst ++ [s.nextJob] else s.queueOf l :=
    queueOf_insert s _ rfl
  have hold : ∀ l x, x ∈ s.queueOf l → x < s.nextJob := fun l x hx =>
    h.bounded x (h.queued l x hx).1
  have hmem : ∀ l x, x ∈ (s.accept intent key).queueOf l ↔
      x ∈ s.queueOf l ∨ l = intent.inst ∧ x = s.nextJob := by
    intro l x
    rw [hqueue]
    by_cases hl : l = intent.inst
    · simp [hl]
    · simp [hl]
  refine ⟨?_, Nat.le_succ _, fun _ => id, fun m hm => by rw [hne m hm]; exact .refl _⟩
  exact
    { keyed := fun k x hx => by
        rcases (hflight k x).1 hx with hx | ⟨rfl, rfl⟩
        · rw [hne x (h.bounded x ⟨k, hx⟩)]
          exact h.keyed k x hx
        · rw [hself]
      bounded := fun x hx => by
        rcases (hin x).1 hx with hx | rfl
        · exact (h.bounded x hx).trans (Nat.lt_succ_self _)
        · exact Nat.lt_succ_self _
      queued := fun l x hx => by
        rw [hin]
        rcases (hmem l x).1 hx with hx | ⟨rfl, rfl⟩
        · rw [hne x (hold l x hx)]
          obtain ⟨hf, hrest⟩ := h.queued l x hx
          exact ⟨.inl hf, hrest⟩
        · rw [hself]
          exact ⟨.inr rfl, rfl, rfl, by simp [Job.Stopped]⟩
      nodup := fun l => by
        rw [hqueue]
        split
        · refine .append (h.nodup _) (nodup_singleton _) fun x hx hx' => ?_
          exact (hold _ x hx).ne (mem_singleton.1 hx')
        · exact h.nodup l
      leased := fun l x hx => by
        obtain ⟨hf, hrest⟩ := h.leased l x hx
        rw [hin, hne x (h.bounded x hf)]
        exact ⟨.inl hf, hrest⟩
      placed := fun x hx => by
        rw [hmem]
        rcases (hin x).1 hx with hx | rfl
        · rw [hne x (h.bounded x hx)]
          exact (h.placed x hx).imp id .inl
        · rw [hself]
          exact .inr (.inr ⟨rfl, rfl⟩)
      pending := fun x hx => by
        rw [hin]
        rcases Nat.lt_succ_iff_lt_or_eq.1 hx with hx | rfl
        · simp [hne x hx, h.pending x hx, hx.ne]
        · simp [hself]
      logged := fun x r => by
        rw [show (s.accept intent key).completions = s.completions from rfl, h.logged]
        constructor
        · rintro ⟨hx, hr⟩
          exact ⟨hx.trans (Nat.lt_succ_self _), by rw [hne x hx, hr]⟩
        · rintro ⟨hx, hr⟩
          rcases Nat.lt_succ_iff_lt_or_eq.1 hx with hx | rfl
          · exact ⟨hx, by rw [← hne x hx, hr]⟩
          · rw [hself] at hr
            cases hr
      once := h.once
      launched := fun x hx => by
        obtain ⟨hlt, hs⟩ := h.launched x hx
        exact ⟨hlt.trans (Nat.lt_succ_self _), by rw [hne x hlt, hs]⟩
      fenced := fun x hx => by
        rcases Nat.lt_succ_iff_lt_or_eq.1 hx with hx | rfl
        · rw [hne x hx]
          exact h.fenced x hx
        · simp [hself] }

theorem follows_submit (h : Books s) (intent : Intent) (nonce : Nat) :
    Follows s (s.submit intent nonce) := by
  unfold submit
  split
  · exact .refl h
  · next hkey =>
    split
    · exact .refl h
    · exact (follows_accept h intent hkey).andThen fun h => follows_tryStart h intent.inst

theorem Books.lease_of_delivers (h : Books s) (hd : s.delivers j = true) :
    s.leases (s.jobs j).intent.inst = some j := by
  simp only [delivers, Bool.and_eq_true, inFlight, decide_eq_true_eq] at hd
  exact h.lease_of_started ⟨_, hd.2⟩ hd.1

theorem started_of_delivers (hd : s.delivers j = true) : (s.jobs j).started = true := by
  simp only [delivers, Bool.and_eq_true] at hd
  exact hd.1

theorem Flagged.of_started (hs : a.started = true) (hlater : Later a b)
    (hfuture : b.future = a.future) (hsame : b.started = a.started) : Flagged a b :=
  ⟨hlater, hfuture, hsame, fun hw => by rw [hs] at hw; cases hw⟩

theorem follows_expire (h : Books s) (j : Nat) (inheritFails : Bool) :
    Follows s (s.expire j inheritFails) := by
  unfold expire
  dsimp only
  split
  · exact .refl h
  · next hguard =>
    have hd : s.delivers j = true := by
      simp only [Bool.or_eq_true, Bool.not_eq_true', not_or, Bool.not_eq_false] at hguard
      simp [delivers, hguard]
    have hflag : Flagged (s.jobs j) { s.jobs j with expired := true, ctxCancelled := true } :=
      .of_started (started_of_delivers hd)
        ⟨rfl, rfl, id, fun _ => rfl, id, fun _ => rfl, fun _ _ => .inl rfl⟩ rfl rfl
    refine ((follows_modifyJob h j hflag).andThen fun h' => follows_retire h' ?_ _).andThen
      fun h' => follows_settle h' _ _ _
    simpa [modifyJob] using h.lease_of_delivers hd

theorem follows_applied (h : Books s) (j : Nat) : Follows s { s with applied := j :: s.applied } :=
  follows_of_same h rfl rfl rfl rfl (fun _ => rfl) rfl fun _ => id

theorem follows_result (h : Books s) (j : Nat) (result : OperationResult) (answers : Answers) :
    Follows s (s.result j result answers) := by
  unfold LoopState.result
  dsimp only
  split
  · exact .refl h
  · next hd =>
    have hd : s.delivers j = true := by simpa using hd
    have hl := h.lease_of_delivers hd
    split
    · refine follows h ⟨rfl, rfl, rfl, fun _ => rfl, rfl, fun m hm => ?_, fun _ => .refl _⟩
      rcases mem_cons.1 hm with rfl | hm
      · exact .inr ⟨(h.leased _ m hl).1, started_of_delivers hd⟩
      · exact .inl hm
    · have happlied := follows_applied h j
      split
      · exact (happlied.andThen fun h' => follows_retire h' hl _).andThen
          fun h' => follows_settle h' _ _ _
      · split
        · exact (happlied.andThen fun h' => follows_retire h' hl _).andThen
            fun h' => follows_settle h' _ _ _
        · exact (follows_retire h hl _).andThen fun h' => follows_settle h' _ _ _

theorem follows_logCallback (h : Books s) (j : Nat) (result : OperationResult) (fails : Bool) :
    Follows s (s.logCallback j result fails) := by
  unfold logCallback
  split
  · exact .refl h
  · exact follows_of_same h rfl rfl rfl rfl (fun _ => rfl) rfl fun _ => id

theorem removes_cancelQueue (h : Books s) (i : AuthInstanceID) :
    Removes s (s.cancelQueue i) (s.queueOf i) fun j => cancelledResult (s.jobs j) where
  next := rfl
  launched := rfl
  inflight := lookup_dropAll (s.queueOf i) h.keyed
  leases l x := ⟨fun hx => ⟨hx, h.not_queued hx⟩, And.left⟩
  queue l x := by
    rw [queueOf_erase s _ rfl]
    by_cases hl : l = i
    · simp [hl]
    · rw [if_neg hl]
      refine ⟨fun hx => ⟨hx, fun hx' => hl ?_⟩, And.left⟩
      exact (h.queued l x hx).2.1.symm.trans (h.queued i x hx').2.1
  nodup l := by
    rw [queueOf_erase s _ rfl]
    split
    · exact nodup_nil
    · exact h.nodup l
  log := by
    simp only [cancelQueue, complete, invalidate]
    congr 1
    refine map_congr_left fun j hj => ?_
    rw [if_pos hj]
    rfl
  done j hj := by
    simp [cancelQueue, complete, invalidate, hj, h.future_none (h.queued i j hj).1, cancelledResult]
  later j hj := by
    have hwait := (h.queued i j hj).2.2.1
    simp only [cancelQueue, complete, invalidate, if_pos hj]
    exact ⟨rfl, rfl, id, id, fun _ => rfl, id, fun hs => by rw [hwait] at hs; cases hs⟩
  other j hj := by
    simp only [cancelQueue, complete, invalidate, if_neg hj]

theorem follows_cancelQueue (h : Books s) (i : AuthInstanceID) : Follows s (s.cancelQueue i) :=
  (removes_cancelQueue h i).follows h (h.nodup i) fun j hj => (h.queued i j hj).1

theorem follows_cancelLease (h : Books s) (i : AuthInstanceID) : Follows s (s.cancelLease i) := by
  unfold cancelLease
  split
  · exact .refl h
  · next j hl =>
    obtain ⟨-, hinst, hs⟩ := h.leased i j hl
    have hflag : Flagged (s.jobs j) { s.jobs j with invalidated := true, ctxCancelled := true } :=
      .of_started hs ⟨rfl, rfl, id, id, fun _ => rfl, fun _ => rfl, fun _ _ => .inl rfl⟩ rfl rfl
    refine (follows_modifyJob h j hflag).andThen fun h' => follows_retire h' ?_ _
    simpa [modifyJob, hinst] using hl

theorem follows_cancelInstance (h : Books s) (i : AuthInstanceID) :
    Follows s (s.cancelInstance i) := by
  refine .andThen ?_ fun h' => follows_cancelLease h' i
  refine .andThen ?_ fun h' => follows_cancelQueue h' i
  exact follows_of_same h rfl rfl rfl rfl (fun _ => rfl) rfl fun _ => id

theorem follows_uncancel (h : Books s) (i : AuthInstanceID) : Follows s (s.uncancel i) :=
  follows_of_same h rfl rfl rfl rfl (fun _ => rfl) rfl fun _ => id

theorem follows_activateInstance (h : Books s) (g : AuthInstanceID × Nat) :
    Follows s (s.activateInstance g) := by
  unfold activateInstance
  dsimp only
  split
  · exact follows_of_same h rfl rfl rfl rfl (fun _ => rfl) rfl fun _ => id
  · exact follows_of_same h rfl rfl rfl rfl (fun _ => rfl) rfl fun _ => id

theorem follows_restoreInstance (h : Books s) (g : AuthInstanceID × Nat × Nat) :
    Follows s (s.restoreInstance g) := by
  unfold restoreInstance
  split
  · exact follows_uncancel h g.1
  · exact .refl h

theorem follows_foldl {ι : Type} {f : LoopState → ι → LoopState}
    (hf : ∀ {s} (_ : Books s) (x : ι), Follows s (f s x)) (xs : List ι) (h : Books s) :
    Follows s (xs.foldl f s) := by
  induction xs generalizing s with
  | nil => exact .refl h
  | cons x xs ih => exact (hf h x).andThen fun h' => ih h'

theorem mem_queuedJobs : j ∈ s.queuedJobs ↔ Queued s j := by
  simp only [queuedJobs, mem_flatMap, Queued, queueOf]
  constructor
  · rintro ⟨⟨i, js⟩, he, hj⟩
    have hlookup : s.queue.lookup i = some js := mem_lookup_iff.2 he
    exact ⟨i, by rw [hlookup]; exact hj⟩
  · rintro ⟨i, hj⟩
    cases hlookup : s.queue.lookup i with
    | none => simp [hlookup] at hj
    | some js =>
      rw [hlookup] at hj
      exact ⟨⟨i, js⟩, mem_lookup_iff.1 hlookup, hj⟩

theorem queueOf_of_mem {e : Sigma fun _ : AuthInstanceID => List Nat} (he : e ∈ s.queue.entries) :
    s.queueOf e.1 = e.2 := by
  have hlookup : s.queue.lookup e.1 = some e.2 := mem_lookup_iff.2 he
  rw [queueOf, hlookup, getD_some]

theorem Books.queuedJobs_nodup (h : Books s) : s.queuedJobs.Nodup := by
  refine nodup_flatMap.2 ⟨fun e he => ?_, ?_⟩
  · rw [← queueOf_of_mem he]
    exact h.nodup e.1
  · have hkeys : s.queue.entries.Pairwise fun e e' => e.1 ≠ e'.1 :=
      nodupKeys_iff_pairwise.1 s.queue.nodupKeys
    refine hkeys.imp_of_mem fun {e e'} he he' hne j hj hj' => hne ?_
    have hq : j ∈ s.queueOf e.1 := queueOf_of_mem he ▸ hj
    have hq' : j ∈ s.queueOf e'.1 := queueOf_of_mem he' ▸ hj'
    exact (h.queued _ j hq).2.1.symm.trans (h.queued _ j hq').2.1

def dropQueues (s : LoopState) : LoopState :=
  { s with
    accepting := false
    inflight := s.dropFromFlight s.queuedJobs
    queue := ∅ }.complete s.queuedJobs cancelledResult

theorem removes_dropQueues (h : Books s) :
    Removes s (dropQueues s) s.queuedJobs fun j => cancelledResult (s.jobs j) where
  next := rfl
  launched := rfl
  inflight := lookup_dropAll s.queuedJobs h.keyed
  leases l x := by
    refine ⟨fun hx => ⟨hx, fun hq => ?_⟩, And.left⟩
    obtain ⟨i, hi⟩ := mem_queuedJobs.1 hq
    exact h.not_queued hx hi
  queue l x := by
    rw [mem_queuedJobs]
    refine ⟨fun hx => ?_, fun hx => absurd ⟨l, hx.1⟩ hx.2⟩
    simp [dropQueues, complete, queueOf] at hx
  nodup l := by simp [dropQueues, complete, queueOf]
  log := rfl
  done j hj := by
    obtain ⟨i, hi⟩ := mem_queuedJobs.1 hj
    simp [dropQueues, complete, hj, h.future_none (h.queued i j hi).1]
  later j hj := by
    simp only [dropQueues, complete, if_pos hj]
    exact ⟨rfl, rfl, id, id, id, id, fun hs hstop => .inr ⟨hs, hstop⟩⟩
  other j hj := by
    simp only [dropQueues, complete, if_neg hj]

theorem follows_dropQueues (h : Books s) : Follows s (dropQueues s) :=
  (removes_dropQueues h).follows h h.queuedJobs_nodup fun j hj => by
    obtain ⟨i, hi⟩ := mem_queuedJobs.1 hj
    exact (h.queued i j hi).1

theorem follows_stopRemaining (h : Books s) : Follows s s.stopRemaining := by
  refine follows h ⟨rfl, rfl, rfl, fun _ => rfl, rfl, fun _ => .inl, fun m => ?_⟩
  simp only [stopRemaining]
  split
  · next hm =>
    exact .of_started hm.2
      ⟨rfl, rfl, id, id, fun _ => rfl, fun _ => rfl, fun _ _ => .inl rfl⟩ rfl rfl
  · exact .refl _

theorem follows_drain (h : Books s) : Follows s s.drain := by
  have hboth : Follows s (dropQueues s).stopRemaining :=
    (follows_dropQueues h).andThen follows_stopRemaining
  unfold drain
  dsimp only
  split
  · exact hboth
  · exact hboth.andThen fun h' =>
      follows_of_same h' rfl rfl rfl rfl (fun _ => rfl) rfl fun _ => id

theorem follows_step (h : Books s) (e : Event) : Follows s (step s e) := by
  cases e with
  | submit intent nonce => exact follows_submit h intent nonce
  | expire j inheritFails => exact follows_expire h j inheritFails
  | result j result answers => exact follows_result h j result answers
  | logCallback j result fails => exact follows_logCallback h j result fails
  | cancel instances =>
    exact (follows_foldl follows_cancelInstance instances h).andThen follows_finishDrains
  | activate generations => exact follows_foldl follows_activateInstance generations h
  | restore generations => exact follows_foldl follows_restoreInstance generations h
  | drain => exact follows_drain h
  | markProbeSent j suppressUntil =>
    simp only [step]
    split
    · exact follows_modifyJob h j ⟨⟨rfl, rfl, id, id, id, id, fun hs hstop => .inr ⟨hs, hstop⟩⟩,
        rfl, rfl, fun _ => id⟩
    · exact .refl h
  | dispatchLogs j =>
    exact follows_of_same h rfl rfl rfl rfl (fun _ => rfl) rfl fun _ hm => mem_of_mem_erase hm

theorem books_initial (unused : Job) : Books (initial unused) where
  keyed k j hk := by simp [initial] at hk
  bounded j hj := by simp [InFlight, initial] at hj
  queued i j hj := by simp [queueOf, initial] at hj
  nodup i := by simp [queueOf, initial]
  leased i j hj := by simp [initial] at hj
  placed j hj := by simp [InFlight, initial] at hj
  pending j hj := absurd hj (Nat.not_lt_zero j)
  logged j r := by simp [initial]
  once := by simp [initial]
  launched j hj := by simp [initial] at hj
  fenced j hj := absurd hj (Nat.not_lt_zero j)

section Runs

variable (unused : Job) (events : Nat → Event)

theorem books_stateAt (k : Nat) : Books (stateAt step (initial unused) events k) :=
  invariant_stateAt (books_initial unused) (fun _ e h => (follows_step h e).books) k

theorem grows_stateAt {a b : Nat} (hab : a ≤ b) :
    Grows (stateAt step (initial unused) events a) (stateAt step (initial unused) events b) := by
  induction b, hab using Nat.le_induction with
  | base => exact .refl _
  | succ b _ ih =>
    exact ih.trans (follows_step (books_stateAt unused events b) (events b)).grows

theorem accepted_of_reply (h : Books s) {intent : Intent} {nonce : Nat}
    (hreply : s.reply intent nonce = some j) : j < (s.submit intent nonce).nextJob := by
  unfold reply at hreply
  unfold submit
  split at hreply
  · next m hm =>
    rw [some.inj hreply] at hm
    exact h.bounded j ⟨_, hm⟩
  · next hnone =>
    split at hreply
    · cases hreply
    · next hr =>
      rw [if_neg hr]
      have hnext := (follows_tryStart (follows_accept h intent hnone).books intent.inst).grows.next
      rw [← some.inj hreply]
      exact lt_of_lt_of_le (Nat.lt_succ_self _) hnext

theorem Books.future_isSome_iff (h : Books s) (hj : j < s.nextJob) :
    (s.jobs j).future.isSome = true ↔ ¬ InFlight s j := by
  rw [← h.pending j hj, isSome_iff_ne_none]

theorem Books.inFlight_iff (h : Books s) (j : Nat) : InFlight s j ↔ Queued s j ∨ Leased s j := by
  constructor
  · intro hin
    exact ((h.placed j hin).imp (⟨_, ·⟩) (⟨_, ·⟩)).symm
  · rintro (⟨i, hq⟩ | ⟨i, hl⟩)
    · exact (h.queued i j hq).1
    · exact (h.leased i j hl).1

theorem future_stays {a b : Nat} (hab : a ≤ b) {r : OperationResult}
    (hj : j < (stateAt step (initial unused) events a).nextJob)
    (hr : ((stateAt step (initial unused) events a).jobs j).future = some r) :
    ((stateAt step (initial unused) events b).jobs j).future = some r := by
  have hlog := ((books_stateAt unused events a).logged j r).2 ⟨hj, hr⟩
  have hlog' := (grows_stateAt unused events hab).log _ hlog
  exact (((books_stateAt unused events b).logged j r).1 hlog').2

structure Balanced (s : LoopState) : Prop where
  flight : ∀ j, InFlight s j ↔ Queued s j ∨ Leased s j
  disjoint : ∀ j, ¬ (Queued s j ∧ Leased s j)
  queues : s.queuedJobs.Nodup
  own : ∀ i j, s.leases i = some j → (s.jobs j).intent.inst = i
  holder : ∀ j j', Leased s j → Leased s j' →
    (s.jobs j).intent.inst = (s.jobs j').intent.inst → j = j'
  keys : ∀ j j', InFlight s j → InFlight s j' → (s.jobs j).key = (s.jobs j').key → j = j'
  futures : ∀ j, j < s.nextJob → ((s.jobs j).future.isSome = true ↔ ¬ InFlight s j)
  once : (s.completions.map Prod.fst).Nodup

theorem Books.balanced (h : Books s) : Balanced s where
  flight := h.inFlight_iff
  disjoint := by
    rintro j ⟨⟨i, hq⟩, l, hl⟩
    exact h.not_queued hl hq
  queues := h.queuedJobs_nodup
  own i j hl := (h.leased i j hl).2.1
  holder := by
    rintro j j' ⟨i, hl⟩ ⟨i', hl'⟩ hinst
    rw [(h.leased i j hl).2.1, (h.leased i' j' hl').2.1] at hinst
    rw [hinst, hl'] at hl
    exact (some.inj hl).symm
  keys j j' hin hin' hkey := by
    have hj := h.key_lookup hin
    rw [hkey, h.key_lookup hin'] at hj
    exact (some.inj hj).symm
  futures _ := h.future_isSome_iff
  once := h.once

/-- The books balance, a future is completed exactly if its job is not in flight, and results stay.
-/
theorem coordinator_books_balance (k : Nat) :
    Balanced (stateAt step (initial unused) events k) ∧
      (∀ a intent nonce j, a < k → events a = .submit intent nonce →
        (stateAt step (initial unused) events a).reply intent nonce = some j →
        (((stateAt step (initial unused) events k).jobs j).future.isSome = true ↔
          ¬ InFlight (stateAt step (initial unused) events k) j)) ∧
      ∀ b j r, k ≤ b → j < (stateAt step (initial unused) events k).nextJob →
        ((stateAt step (initial unused) events k).jobs j).future = some r →
        ((stateAt step (initial unused) events b).jobs j).future = some r := by
  have hbooks := books_stateAt unused events
  refine ⟨(hbooks k).balanced, ?_, fun b j r hkb => future_stays unused events hkb⟩
  intro a intent nonce j hak hevent hreply
  have hsubmit : stateAt step (initial unused) events (a + 1) =
      (stateAt step (initial unused) events a).submit intent nonce := by
    rw [stateAt_succ, hevent]
    rfl
  have haccepted : j < (stateAt step (initial unused) events (a + 1)).nextJob :=
    hsubmit ▸ accepted_of_reply (hbooks a) hreply
  exact (hbooks k).future_isSome_iff (haccepted.trans_le (grows_stateAt unused events hak).next)

end Runs

def quotaRead (inst : AuthInstanceID) (generation : Nat) : Intent where
  inst := inst
  generation := generation
  cls := .quotaRead
  source := .manualRefresh
  token := { inst := inst, admission := 1, tier := 1, fence := generation }

def cancelledReads : Nat → Event :=
  script (.activate []) [.submit (quotaRead 7 1) 0, .submit (quotaRead 7 2) 0, .cancel [7]]

def noJob : Job where
  key := keyOf (quotaRead 0 0) 0
  intent := quotaRead 0 0

theorem cancelledReads_complete_the_waiting_future :
    (((stateAt step (initial noJob) cancelledReads 3).jobs 1).future.isSome = true ↔
      ¬ InFlight (stateAt step (initial noJob) cancelledReads 3) 1) ∧
      ((stateAt step (initial noJob) cancelledReads 5).jobs 1).future =
        some (cancelledResult ((stateAt step (initial noJob) cancelledReads 3).jobs 1)) :=
  ⟨(coordinator_books_balance noJob cancelledReads 3).2.1 1 (quotaRead 7 2) 0 1 (by decide) rfl
      (by decide +kernel),
    (coordinator_books_balance noJob cancelledReads 3).2.2 5 1 _ (by decide) (by decide +kernel)
      (by decide +kernel)⟩

end QuotaScheduler.CoordinatorBooks

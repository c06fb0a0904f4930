/- What a pick returns under every interleaving with other picks. -/

import QuotaScheduler.Pick
import Mathlib.Data.List.Perm.Subperm

namespace QuotaScheduler.PickContract

open Lib.Resumable Trial Selection SelectionOrder Pick List

variable {snapshot : SchedulerSnapshot} {candidates : List Candidate} {now : Time}

def eligible (snapshot : SchedulerSnapshot) (candidates : List Candidate) : List AccountView :=
  passAccounts snapshot candidates []

variable {a : AccountView} {e : LoopEnd} {attempts : List (AuthInstanceID × Bool)}

theorem mem_passAccounts {skip : List AuthInstanceID} : a ∈ passAccounts snapshot candidates skip ↔
      a ∈ eligible snapshot candidates ∧ a.inst ∉ skip := by
  simp only [passAccounts, eligible, mem_filter, not_mem_nil, not_false_eq_true,
    decide_true, Bool.true_and, Bool.and_eq_true, decide_eq_true_eq]
  tauto

theorem eligibleID_iff {id : String} : eligibleID snapshot candidates id = true ↔
      id ≠ "" ∧ (∃ c ∈ candidates, c.id = id ∧ c.provider = "codex") ∧
        id ∈ snapshot.activeHighestTier := by
  simp only [eligibleID, List.any_eq_true, Bool.and_eq_true, decide_eq_true_eq, ne_eq]
  constructor
  · rintro ⟨c, hc, ⟨⟨hne, hcodex⟩, htier⟩, rfl⟩
    exact ⟨hne, ⟨c, hc, rfl, hcodex⟩, htier⟩
  · rintro ⟨hne, ⟨c, hc, rfl, hcodex⟩, htier⟩
    exact ⟨c, hc, ⟨⟨hne, hcodex⟩, htier⟩, rfl⟩

theorem mem_eligible : a ∈ eligible snapshot candidates ↔
      a ∈ snapshot.accounts ∧ eligibleID snapshot candidates a.id = true := by
  simp [eligible, passAccounts, mem_filter]

theorem classifyAccount_trial (t : TrialState) : classifyAccount { a with trial := t } now =
      if t = .none then classifyAccount { a with trial := .none } now else .excluded := by
  by_cases ht : t = .none
  · simp [ht]
  · simp [classifyAccount, ht]

theorem never_preferred {t : TrialState}
    (h : classifyAccount { a with trial := t } now = .opportunistic) (u : TrialState) :
    classifyAccount { a with trial := u } now ≠ .preferred := by
  rw [classifyAccount_trial] at h ⊢
  by_cases ht : t = .none
  · rw [if_pos ht] at h
    by_cases hu : u = .none
    · rw [if_pos hu, h]
      exact nofun
    · rw [if_neg hu]
      exact nofun
  · rw [if_neg ht] at h
    cases h

/-- Skipped instances are of opportunistic eligible accounts whose `TryBegin` by this call failed.
-/
structure SkippedOk (snapshot : SchedulerSnapshot) (candidates : List Candidate) (now : Time)
    (skipped : List AuthInstanceID) (attempts : List (AuthInstanceID × Bool)) : Prop where
  nodup : skipped.Nodup
  was : ∀ i ∈ skipped, ∃ a ∈ eligible snapshot candidates, a.inst = i ∧
    ∃ t, classifyAccount { a with trial := t } now = .opportunistic
  lost : snapshot.trials = true → ∀ i ∈ skipped, (i, false) ∈ attempts

/-- The loop invariant: the last pass looked at the eligible accounts not skipped. -/
structure LoopOk (snapshot : SchedulerSnapshot) (candidates : List Candidate) (now : Time)
    (e : LoopEnd) : Prop where
  views : Views snapshot (passAccounts snapshot candidates e.skipped) e.views
  result : e.result = selectFrom snapshot now e.views
  skipped : SkippedOk snapshot candidates now e.skipped e.attempts

structure Finished (snapshot : SchedulerSnapshot) (candidates : List Candidate) (now : Time)
    (e : LoopEnd) : Prop where
  loop : LoopOk snapshot candidates now e
  won : e.result.authID ≠ "" → e.result.cls = .opportunistic → (e.result.inst, true) ∈ e.attempts

theorem LoopOk.chosen (h : LoopOk snapshot candidates now e) (hid : e.result.authID ≠ "") :
    ∃ a ∈ eligible snapshot candidates, ∃ t, a.inst ∉ e.skipped ∧
      Chosen snapshot now e.views e.result { a with trial := t } := by
  rcases selectFrom_cases snapshot now e.views with ⟨v, hv⟩ | ⟨hempty, -, -⟩
  · obtain ⟨a, ha, t, rfl⟩ := h.views.exists_account hv.mem
    obtain ⟨hmem, hskip⟩ := mem_passAccounts.mp ha
    exact ⟨a, hmem, t, hskip, h.result ▸ hv⟩
  · exact absurd (h.result ▸ hempty) hid

theorem SkippedOk.more_attempts {skipped : List AuthInstanceID}
    (h : SkippedOk snapshot candidates now skipped attempts) (x : AuthInstanceID × Bool) :
    SkippedOk snapshot candidates now skipped (x :: attempts) :=
  ⟨h.nodup, h.was, fun ht i hi => mem_cons_of_mem x (h.lost ht i hi)⟩

theorem SkippedOk.length_le {skipped : List AuthInstanceID}
    (h : SkippedOk snapshot candidates now skipped attempts) :
    skipped.length ≤ (eligible snapshot candidates).length := by
  have hsub : skipped ⊆ (eligible snapshot candidates).map (·.inst) := by
    intro i hi
    obtain ⟨a, ha, rfl, -⟩ := h.was i hi
    exact List.mem_map.mpr ⟨a, ha, rfl⟩
  have hle := (List.Nodup.subperm h.nodup hsub).length_le
  simpa using hle

theorem LoopOk.skip (h : LoopOk snapshot candidates now e) (hid : e.result.authID ≠ "")
    (hcls : e.result.cls = .opportunistic)
    (hattempts : SkippedOk snapshot candidates now e.skipped attempts)
    (hlost : snapshot.trials = true → (e.result.inst, false) ∈ attempts) :
    SkippedOk snapshot candidates now (e.result.inst :: e.skipped) attempts := by
  obtain ⟨a, ha, t, hskip, hchosen⟩ := h.chosen hid
  have hinst : e.result.inst = a.inst := hchosen.inst
  refine ⟨nodup_cons.mpr ⟨hinst ▸ hskip, hattempts.nodup⟩, ?_, ?_⟩
  · intro i hi
    rcases mem_cons.mp hi with rfl | hi
    · exact ⟨a, ha, hinst.symm, t, hchosen.cls.trans hcls⟩
    · exact hattempts.was i hi
  · intro ht i hi
    rcases mem_cons.mp hi with rfl | hi
    · exact hlost ht
    · exact hattempts.lost ht i hi

theorem skipAndSelect_always
    (h : SkippedOk snapshot candidates now (e.result.inst :: e.skipped) e.attempts) :
    (skipAndSelect snapshot candidates now e).Always fun e' =>
      LoopOk snapshot candidates now e' ∧ e'.skipped.length = e.skipped.length + 1 := by
  refine (selectAccountSkipping_always _).bind fun pass hpass => ?_
  exact always_pure ⟨⟨hpass.1, hpass.2, h⟩, rfl⟩

theorem loopCondition_always {again : LoopEnd → PickProg (Option LoopEnd)}
    {Q : Option LoopEnd → Prop} (h : LoopOk snapshot candidates now e)
    (hend : ∀ e', Finished snapshot candidates now e' → Q (some e'))
    (hagain : ∀ e', e'.skipped = e.skipped →
      SkippedOk snapshot candidates now (e'.result.inst :: e'.skipped) e'.attempts →
      (again e').Always Q) : (loopCondition snapshot now e again).Always Q := by
  unfold loopCondition
  by_cases hcond : e.result.authID ≠ "" ∧ e.result.cls = .opportunistic
  · obtain ⟨hid, hcls⟩ := hcond
    rw [if_pos ⟨hid, hcls⟩]
    by_cases ht : snapshot.trials = true
    · rw [if_pos ht]
      intro began
      cases began with
      | true =>
        refine hend _ ⟨⟨h.views, h.result, h.skipped.more_attempts _⟩, fun _ _ => ?_⟩
        exact mem_cons_self
      | false =>
        refine hagain _ rfl ?_
        exact h.skip hid hcls (h.skipped.more_attempts _) fun _ => mem_cons_self
    · rw [if_neg ht]
      exact hagain e rfl (h.skip hid hcls h.skipped fun htrue => absurd htrue ht)
  · rw [if_neg hcond]
    exact hend e ⟨h, fun hid hcls => absurd ⟨hid, hcls⟩ hcond⟩

theorem retryLoop_always (fuel : Nat) (h : LoopOk snapshot candidates now e)
    (hfuel : (eligible snapshot candidates).length ≤ fuel + e.skipped.length) :
    (retryLoop snapshot candidates now fuel e).Always fun r =>
      ∃ e', r = some e' ∧ Finished snapshot candidates now e' := by
  induction fuel generalizing e with
  | zero =>
    refine loopCondition_always h (fun e' he' => ⟨e', rfl, he'⟩) fun e' heq hskip => ?_
    have hle := hskip.length_le
    rw [heq] at hle
    simp only [length_cons] at hle
    omega
  | succ fuel ih =>
    refine loopCondition_always h (fun e' he' => ⟨e', rfl, he'⟩) fun e' heq hskip => ?_
    refine (skipAndSelect_always hskip).bind fun e'' he'' => ih he''.1 ?_
    rw [he''.2, heq]
    omega

theorem authID_decisionOf (result : SelectionResult) :
    (decisionOf snapshot candidates now result).authID = result.authID := by
  unfold decisionOf
  by_cases hid : result.authID = ""
  · rw [if_neg (not_not.mpr hid), hid]
    split <;> rfl
  · rw [if_pos hid]

theorem announceTrial_always (result : SelectionResult) :
    (announceTrial now result).Always fun _ => True := by
  unfold announceTrial
  split
  · intro sent
    cases sent with
    | true => exact fun _ => trivial
    | false => trivial
  · trivial

def passesGates (snapshot : SchedulerSnapshot) (req : SchedulerPickRequest) : Bool :=
  requestIncludesCodex req && snapshot.handleEnabled

def Returned (snapshot : SchedulerSnapshot) (req : SchedulerPickRequest) (now : Time)
    (trace : PickTrace) : Prop :=
  if passesGates snapshot req then
    ∃ e, trace.loop = some e ∧ trace.decision.authID = e.result.authID ∧
      Finished snapshot req.candidates now e
  else trace.decision.authID = "" ∧ trace.loop = none

theorem schedulerPickPublished_always (req : SchedulerPickRequest) :
    (schedulerPickPublished (some snapshot) req now).Always (Returned snapshot req now) := by
  unfold schedulerPickPublished Returned
  by_cases hcodex : requestIncludesCodex req = true
  · by_cases henabled : snapshot.handleEnabled = true
    · have hgates : passesGates snapshot req = true := by simp [passesGates, hcodex, henabled]
      simp only [hcodex, henabled, hgates, Bool.not_true, Bool.false_eq_true, if_false, if_true]
      refine (selectAccountSkipping_always []).bind fun pass hpass => ?_
      have hstart : LoopOk snapshot req.candidates now ⟨pass.1, pass.2, [], []⟩ :=
        ⟨hpass.1, hpass.2, ⟨nodup_nil, nofun, fun _ => nofun⟩⟩
      refine (retryLoop_always _ hstart le_rfl).bind ?_
      rintro _ ⟨e, rfl, he⟩
      refine (announceTrial_always e.result).bind fun _ _ => ?_
      exact always_pure ⟨e, rfl, authID_decisionOf e.result, he⟩
    · have hgates : passesGates snapshot req = false := by simp [passesGates, henabled]
      simp only [hcodex, henabled, hgates]
      exact always_pure ⟨rfl, rfl⟩
  · have hgates : passesGates snapshot req = false := by simp [passesGates, hcodex]
    simp only [hcodex, hgates]
    exact always_pure ⟨rfl, rfl⟩

/-- Each pick in flight can still only return as a call on its own would. -/
def PicksOk (calls : List PickCall) (w : PickSys) : Prop :=
  ∀ (i : Nat) (c : PickCall) (p : PickProg PickTrace) (snapshot : SchedulerSnapshot),
    calls[i]? = some c → w.picks[i]? = some p → c.published = some snapshot →
      p.Always (Returned snapshot c.req c.now)

theorem picksOk_step {calls : List PickCall} {w : PickSys} (h : PicksOk calls w)
    (l : PickLabel) : PicksOk calls (w.step l) := by
  cases l with
  | evidence id kind | retry id now => exact h
  | pick j room =>
    intro i c p snapshot hc hp hsnap
    simp only [PickSys.step] at hp
    cases hj : w.picks[j]? with
    | none =>
      rw [hj] at hp
      exact h i c p snapshot hc hp hsnap
    | some q =>
      rw [hj] at hp
      by_cases hij : j = i
      · subst hij
        obtain ⟨hlen, -⟩ := List.getElem?_eq_some_iff.mp hj
        rw [getElem?_set_self hlen] at hp
        cases hp
        exact (h j c q snapshot hc hj hsnap).advance PickOp.exec room w.shared
      · rw [getElem?_set_ne hij] at hp
        exact h i c p snapshot hc hp hsnap

theorem picksOk_run (calls : List PickCall) (shared : Shared) (labels : List PickLabel) :
    PicksOk calls (runPicks calls shared labels) := by
  have hfold : ∀ (ls : List PickLabel) (w : PickSys), PicksOk calls w →
      PicksOk calls (ls.foldl .step w) := by
    intro ls
    induction ls with
    | nil => exact fun _ hw => hw
    | cons l ls ih => exact fun w hw => ih _ (picksOk_step hw l)
  refine hfold labels _ ?_
  intro i c p snapshot hc hp hsnap
  simp only [getElem?_map, hc, Option.map_some, Option.some.injEq] at hp
  rw [← hp, hsnap]
  exact schedulerPickPublished_always c.req

/-- The contract of a call behind the gates, in terms of its final pass. -/
structure Contract (snapshot : SchedulerSnapshot) (candidates : List Candidate) (now : Time)
    (e : LoopEnd) : Prop where
  /-- The pass viewed every eligible account not skipped, with its trial state then. -/
  views : Views snapshot (passAccounts snapshot candidates e.skipped) e.views
  /-- One preferred eligible account makes the result preferred; a skipped one never is. -/
  preferred : ((∃ v ∈ e.views, classifyAccount v now = .preferred) ∨
      ∃ a ∈ eligible snapshot candidates, a.inst ∈ e.skipped ∧
        ∃ t, classifyAccount { a with trial := t } now = .preferred) →
    e.result.authID ≠ "" ∧ e.result.cls = .preferred
  /-- Unless a NaN was viewed, nothing viewed in the class of the result precedes it. -/
  first : e.result.authID ≠ "" → ∃ a ∈ e.views, e.result.authID = a.id ∧
    e.result.inst = a.inst ∧ classifyAccount a now = e.result.cls ∧
    ((∀ v ∈ e.views, Numeric v) → ∀ v ∈ e.views, classifyAccount v now = e.result.cls →
      accountViewLess v a snapshot.monthlyMode = false)
  won : e.result.authID ≠ "" → e.result.cls = .opportunistic → (e.result.inst, true) ∈ e.attempts
  rounds : e.skipped.Nodup ∧ e.skipped.length ≤ (eligible snapshot candidates).length
  lost : snapshot.trials = true → ∀ i ∈ e.skipped, (i, false) ∈ e.attempts
  empty : e.result.authID = "" → ∀ a ∈ eligible snapshot candidates, a.inst ∈ e.skipped ∨
    ∃ v ∈ e.views, (∃ t, v = { a with trial := t }) ∧ classifyAccount v now = .excluded

private theorem eq_of_inst_eq {accounts : List AccountView} (h : (accounts.map (·.inst)).Nodup)
    {b : AccountView} (ha : a ∈ accounts) (hb : b ∈ accounts) (hab : a.inst = b.inst) : a = b :=
  inj_on_of_nodup_map h ha hb hab

theorem Finished.contract (h : Finished snapshot candidates now e)
    (hmode : snapshot.monthlyMode = .expiryOrder) (hinst : (snapshot.accounts.map (·.inst)).Nodup) :
    Contract snapshot candidates now e := by
  have hcases := selectFrom_cases snapshot now e.views
  rw [← h.loop.result] at hcases
  refine ⟨h.loop.views, ?_, ?_, h.won, ⟨h.loop.skipped.nodup, h.loop.skipped.length_le⟩,
    h.loop.skipped.lost, ?_⟩
  · rintro (⟨v, hv, hcls⟩ | ⟨a, ha, hskip, t, hcls⟩)
    · rcases hcases with ⟨a, ha⟩ | ⟨-, -, hall⟩
      · have hid : e.result.authID ≠ "" := by
          obtain ⟨b, hb, t, rfl⟩ := h.loop.views.exists_account ha.mem
          have helig := (mem_eligible.mp (mem_passAccounts.mp hb).1).2
          rw [ha.authID]
          exact (eligibleID_iff.mp helig).1
        rcases ha.best with hp | ⟨-, hnone⟩
        · exact ⟨hid, hp⟩
        · exact absurd hcls (hnone v hv)
      · rw [hall v hv] at hcls
        cases hcls
    · obtain ⟨b, hb, hbi, u, hopp⟩ := h.loop.skipped.was a.inst hskip
      have hab : b = a :=
        eq_of_inst_eq hinst (mem_eligible.mp hb).1 (mem_eligible.mp ha).1 hbi
      subst hab
      exact absurd hcls (never_preferred hopp t)
  · intro hid
    rcases hcases with ⟨a, ha⟩ | ⟨hempty, -, -⟩
    · exact ⟨a, ha.mem, ha.authID, ha.inst, ha.cls, fun hnum v => ha.first hmode hnum⟩
    · exact absurd hempty hid
  · intro hid a ha
    by_cases hskip : a.inst ∈ e.skipped
    · exact .inl hskip
    · obtain ⟨v, hv, hview⟩ := h.loop.views.exists_view (mem_passAccounts.mpr ⟨ha, hskip⟩)
      rcases hcases with ⟨b, hb⟩ | ⟨-, -, hall⟩
      · obtain ⟨c, hc, t, rfl⟩ := h.loop.views.exists_account hb.mem
        have helig := (mem_eligible.mp (mem_passAccounts.mp hc).1).2
        exact absurd (hb.authID.symm.trans hid) (eligibleID_iff.mp helig).1
      · exact .inr ⟨v, hv, hview, hall v hv⟩

private def oneAccount (handleEnabled : Bool) (cache : CacheClass) : SchedulerSnapshot where
  handleEnabled := handleEnabled
  fallback := .empty
  monthlyMode := .expiryOrder
  accounts := [plainAccount "a" 1 0 cache]
  activeHighestTier := {"a"}
  trials := true
  admissionVersion := 0

private def codexRequest : SchedulerPickRequest := ⟨"codex", [], [⟨"a", "codex"⟩]⟩

private def contenders : List PickCall :=
  List.replicate 2 ⟨some (oneAccount true .unknown), codexRequest, 1⟩

private def contention : List PickLabel :=
  [.pick 0 true, .pick 0 true, .pick 1 true, .pick 1 true, .pick 0 true, .pick 1 true]

end QuotaScheduler.PickContract

/- What Advance makes of the result of a precheck or a verification. -/

import QuotaScheduler.ProbeController

namespace QuotaScheduler.ProbeAuthorization

open ProbeClassify ProbeState ProbeController Option Time

variable {k : ProbeWindowKind} {base : ProbeBaseline} {snap : QuotaSnapshot} {now reset : Time}
  {e : ProbeEvent} {x : Slot} {seq : Nat}

def KindFits (k : ProbeWindowKind) (base : ProbeBaseline) (snap : QuotaSnapshot) : Prop :=
  base.windowKind ≠ .unset ∧ snap.windowKind = base.windowKind ∨
    base.windowKind = .unset ∧ compatibleLegacyProbeWindowKind k base snap = true

/-- A valid snapshot of a never-used window of the baseline's kind. -/
structure Strict (k : ProbeWindowKind) (base : ProbeBaseline) (snap : QuotaSnapshot)
    (reset now : Time) : Prop where
  kind : base.kind = .reset
  valid : snap.valid = true
  unused : snap.usage = some 0
  shows : snap.resetAt = some reset
  known : snap.windowLengthKnown = true
  length : 0 < snap.windowLength
  fits : KindFits k base snap
  clock : now ≠ .zero
  dated : reset ≠ .zero

def Close (t u : Time) : Prop := |t - u| ≤ resetProbeCloseThreshold

/-- What the code takes for close. -/
def CloseOrSaturated (t u : Time) : Prop := Close t u ∨ t - u ≤ minDuration

/-- The baseline a precheck compares with, before it moves to the snapshot's reset. -/
def migrated (k : ProbeWindowKind) (base : ProbeBaseline) (snap : QuotaSnapshot) : ProbeBaseline :=
  if base.windowKind = .unset ∧ compatibleLegacyProbeWindowKind k base snap = true then
    { base with windowKind := snap.windowKind }
  else base

theorem kindFits_iff : (migrated k base snap).windowKind ≠ .unset ∧
    snap.windowKind = (migrated k base snap).windowKind ↔ KindFits k base snap := by
  have hset : compatibleLegacyProbeWindowKind k base snap = true → snap.windowKind ≠ .unset := by
    intro h hunset
    simp [compatibleLegacyProbeWindowKind, hunset] at h
  unfold migrated KindFits
  split
  · next h => simp [h, hset h.2]
  · next h =>
    by_cases hkind : base.windowKind = .unset
    · simp_all
    · simp [hkind]

def authorizes (k : ProbeWindowKind) (base : ProbeBaseline) (snap : QuotaSnapshot)
    (reset now : Time) : Bool :=
  (reset.after (base.resetAt + probeSkewTolerance) || base.suspectedLazy) &&
    (decide ((migrated k base snap).windowKind ≠ .unset) &&
      decide (snap.windowKind = (migrated k base snap).windowKind)) &&
    snap.windowLengthKnown &&
    looksLikeStrictLazyObservation now (strictWindow snap reset) snap.windowLength

theorem precheckBaseline_eq {u : Float64} (hkind : base.kind = .reset) (hvalid : snap.valid = true)
    (hreset : snap.resetAt = some reset) (husage : snap.usage = some u) :
    precheckBaseline k base snap now =
      { baseline := if authorizes k base snap reset now then
          { migrated k base snap with resetAt := reset, usage := u, suspectedLazy := true }
        else migrated k base snap
        shiftedZeroCandidate :=
          reset.after (base.resetAt + probeSkewTolerance) && decide (u = 0)
        strictAuthorized := authorizes k base snap reset now } := by
  simp only [precheckBaseline, hreset, husage]
  rw [if_pos ⟨hkind, hvalid⟩]
  rfl

theorem looksLikeStrict_iff {length : Duration} :
    looksLikeStrictLazyObservation now (strictWindow snap reset) length = true ↔
      snap.usage = some 0 ∧ now ≠ zero ∧ reset ≠ zero ∧ 0 < length ∧
        CloseOrSaturated reset (now + length) := by
  have hclose : absDuration (reset.sub (now + length)) ≤ resetProbeCloseThreshold ↔
      CloseOrSaturated reset (now + length) := absDuration_sub_le_iff (by decide) (by decide)
  unfold looksLikeStrictLazyObservation strictWindow isZero
  simp only [Bool.and_eq_true, Bool.not_eq_true', decide_eq_true_iff, decide_eq_false_iff_not,
    and_assoc, ne_eq, hclose]

theorem authorizes_iff : authorizes k base snap reset now = true ↔
    (base.resetAt + probeSkewTolerance < reset ∨ base.suspectedLazy = true) ∧ KindFits k base snap ∧
      snap.windowLengthKnown = true ∧ snap.usage = some 0 ∧ now ≠ zero ∧ reset ≠ zero ∧
      0 < snap.windowLength ∧ CloseOrSaturated reset (now + snap.windowLength) := by
  simp only [authorizes, Bool.and_eq_true, Bool.or_eq_true, after, decide_eq_true_iff,
    kindFits_iff, looksLikeStrict_iff, and_assoc]

theorem strictAuthorized_iff : (precheckBaseline k base snap now).strictAuthorized = true ↔
    ∃ reset, Strict k base snap reset now ∧ CloseOrSaturated reset (now + snap.windowLength) ∧
      (base.suspectedLazy = true ∨ base.resetAt + probeSkewTolerance < reset) := by
  constructor
  · intro h
    cases hreset : snap.resetAt with
    | none => simp [precheckBaseline, hreset] at h
    | some r =>
      cases husage : snap.usage with
      | none => simp [precheckBaseline, hreset, husage] at h
      | some u =>
        by_cases hbase : base.kind = .reset ∧ snap.valid = true
        · rw [precheckBaseline_eq hbase.1 hbase.2 hreset husage] at h
          obtain ⟨hlazy, hfits, hknown, hunused, hclock, hdated, hlength, hclose⟩ :=
            authorizes_iff.1 h
          exact ⟨r, ⟨hbase.1, hbase.2, hunused, hreset, hknown, hlength, hfits, hclock, hdated⟩,
            hclose, hlazy.symm⟩
        · simp [precheckBaseline, hreset, husage, hbase] at h
  · rintro ⟨r, h, hclose, hlazy⟩
    rw [precheckBaseline_eq h.kind h.valid h.shows h.unused]
    exact authorizes_iff.2
      ⟨hlazy.symm, h.fits, h.known, h.unused, h.clock, h.dated, h.length, hclose⟩

theorem sub_self_time (t : Time) : t.sub t = 0 := by
  rw [Time.sub, Int.sub_self]
  decide

theorem classify_of_authorized (h : (precheckBaseline k base snap now).strictAuthorized = true) :
    classifyProbeWindow (precheckBaseline k base snap now).baseline snap now =
      ⟨.stillLazy, (precheckBaseline k base snap now).baseline⟩ := by
  obtain ⟨r, hs, -⟩ := strictAuthorized_iff.1 h
  have hself : ∀ b : ProbeBaseline, implausibleReset b b.resetAt = false := by
    intro b
    simp only [implausibleReset, before, sub_self_time, Bool.or_eq_false_iff, Bool.and_eq_false_imp,
      decide_eq_true_eq, decide_eq_false_iff_not, not_lt]
    exact ⟨⟨sub_le_self _ (by decide), fun h => Int.mul_nonneg (by decide) h.le⟩,
      fun _ => by decide⟩
  rw [precheckBaseline_eq hs.kind hs.valid hs.shows hs.unused] at h ⊢
  rw [if_pos h]
  have hfar := hself { migrated k base snap with resetAt := r, usage := 0, suspectedLazy := true }
  simp [classifyProbeWindow, hs.valid, hs.unused, hs.shows, classifySuspected, hfar, after,
    sub_self_time, absDuration, probeSkewTolerance, second]

theorem precheckOutcome_send_iff : precheckOutcome k base snap now = .send ↔
      (precheckBaseline k base snap now).strictAuthorized = true := by
  unfold precheckOutcome
  cases h : (precheckBaseline k base snap now).strictAuthorized with
  | true => simp [h, classify_of_authorized h]
  | false =>
    simp only [h, Bool.not_false, Bool.true_and, Bool.false_eq_true, iff_false]
    split
    · exact PrecheckOutcome.noConfusion
    · next hlazy =>
      rw [if_neg fun hsend => hlazy (by rw [hsend, Bool.true_or])]
      exact PrecheckOutcome.noConfusion

def Authorized (close : Time → Time → Prop) (k : ProbeWindowKind) (w : ProbeWindow)
    (e : ProbeEvent) : Prop :=
  e.kind = .precheckResult ∧ e.window.any (· ≠ k) = false ∧ w.state = .pendingCheck ∧
    ∃ snap reset, e.snapshots k = some snap ∧ Strict k w.baseline snap reset e.now ∧
      close reset (e.now + snap.windowLength) ∧
      (w.baseline.suspectedLazy = true ∨ w.baseline.resetAt + probeSkewTolerance < reset)

theorem send_mem_visitSlot_iff :
    .send k ∈ (visitSlot e k x seq).intents ↔ Authorized CloseOrSaturated k x.window e := by
  unfold visitSlot Authorized
  by_cases hwindow : e.window.any (· ≠ k) = true
  · rw [if_pos hwindow]
    simp only [hwindow, List.not_mem_nil, false_iff]
    exact fun h => by cases h.2.1
  · rw [if_neg hwindow]
    cases hkind : e.kind with
    | precheckResult =>
      cases hsnap : e.snapshots k with
      | none => simp
      | some snap =>
        by_cases hstate : x.window.state = .pendingCheck
        · have hsend : precheckOutcome k x.window.baseline snap e.now = .send ↔ _ :=
            precheckOutcome_send_iff.trans strictAuthorized_iff
          simp only [hwindow, hstate, if_true, true_and, some.injEq, exists_and_left,
            exists_eq_left', ← hsend]
          cases precheckOutcome k x.window.baseline snap e.now <;> simp
        · simp [hstate]
    | deadline =>
      dsimp only
      split <;> simp
    | _ => simp

theorem visitSlot_of_authorized (h : Authorized CloseOrSaturated k x.window e) (seq : Nat) :
    (visitSlot e k x seq).slot.window.state = .sentAwaitingVerify ∧
      (visitSlot e k x seq).slot.attemptID = .probe (seq + 1) ∧
      (visitSlot e k x seq).seq = seq + 1 := by
  obtain ⟨hkind, hwindow, hstate, snap, r, hsnap, hstrict⟩ := h
  have hauthorized := strictAuthorized_iff.2 ⟨r, hstrict⟩
  have hsend := precheckOutcome_send_iff.2 hauthorized
  unfold visitSlot
  rw [if_neg (by rw [hwindow]; exact Bool.false_ne_true)]
  simp [hkind, hsnap, hstate, hsend, advanceWindow, advancePrecheck, hauthorized,
    classify_of_authorized hauthorized, settle]

theorem send_mem_advance_iff (first : ProbeWindowKind) (c : Controller) :
    .send k ∈ (c.advance first e).2 ↔
      ∃ x, c.slots k = some x ∧ Authorized CloseOrSaturated k x.window e := by
  by_cases he : e.kind = .instanceRemoved
  · simp [Controller.advance, he, Authorized]
  · obtain ⟨seq, -, -, hintents, -⟩ := advance_spec he
    have hmem : .send k ∈ (c.advance first e).2 ↔
        .send k ∈ (c.advance first e).2.filter fun i => i.window = k := by
      simp [ProbeIntent.window]
    rw [hmem, hintents]
    cases c.slots k with
    | none => simp
    | some x => simp [send_mem_visitSlot_iff]

/-- No snapshot for the window shows a reset that is centuries before its length has passed. -/
def InRange (k : ProbeWindowKind) (e : ProbeEvent) : Prop :=
  ∀ snap reset, e.snapshots k = some snap → snap.resetAt = some reset →
    minDuration < reset - (e.now + snap.windowLength)

theorem authorized_of_inRange {w : ProbeWindow} (hrange : InRange k e) :
    Authorized CloseOrSaturated k w e ↔ Authorized Close k w e := by
  constructor
  · rintro ⟨hkind, hwindow, hstate, snap, reset, hsnap, hstrict, hclose, hlazy⟩
    have hnear := hclose.resolve_right (hrange snap reset hsnap hstrict.shows).not_ge
    exact ⟨hkind, hwindow, hstate, snap, reset, hsnap, hstrict, hnear, hlazy⟩
  · rintro ⟨hkind, hwindow, hstate, snap, reset, hsnap, hstrict, hclose, hlazy⟩
    exact ⟨hkind, hwindow, hstate, snap, reset, hsnap, hstrict, .inl hclose, hlazy⟩

def lazyWindow (reset : Time) : ProbeWindow where
  state := .pendingCheck
  baseline := { resetProbeBaseline reset 0 (5 * hour) with
    windowKind := .fiveHour, suspectedLazy := true }

def unusedSnapshot (reset : Time) : QuotaSnapshot where
  valid := true
  resetAt := some reset
  usage := some 0
  windowKind := .fiveHour
  windowLength := 5 * hour
  windowLengthKnown := true

def unusedResult (reset : Time) : ProbeEvent where
  kind := .precheckResult
  now := reset - 5 * hour
  snapshots := fun _ => some (unusedSnapshot reset)

def restarted (reset : Time) : Controller where
  slots := fun k => if k = .fiveHour then some ⟨lazyWindow reset, .probe 1⟩ else none

theorem classify_backward {u : Float64} (now : Time) (hvalid : snap.valid = true)
    (husage : snap.usage = some u)
    (hkind : base.kind = .reset) (hreset : snap.resetAt = some reset)
    (hback : reset < base.resetAt - probeSkewTolerance) :
    classifyProbeWindow base snap now = ⟨.anomaly, base⟩ := by
  have hfar : implausibleReset base reset = true := by
    simp [implausibleReset, before, hback]
  cases hlazy : base.suspectedLazy <;>
    simp [classifyProbeWindow, hvalid, husage, hlazy, hkind, hreset, classifySuspected,
      classifyReset, hfar]

theorem precheckBaseline_of_unauthorized
    (h : (precheckBaseline k base snap now).strictAuthorized = false) :
    (precheckBaseline k base snap now).baseline.kind = base.kind ∧
      (precheckBaseline k base snap now).baseline.resetAt = base.resetAt := by
  revert h
  unfold precheckBaseline
  split
  · split
    · intro h
      dsimp only at h ⊢
      rw [h]
      simp only [Bool.false_eq_true, if_false]
      split <;> exact ⟨rfl, rfl⟩
    · exact fun _ => ⟨rfl, rfl⟩
  · exact fun _ => ⟨rfl, rfl⟩

def Awaits (w : ProbeWindow) (e : ProbeEvent) : Prop :=
  e.kind = .precheckResult ∧ w.state = .pendingCheck ∨ e.kind = .verifyResult ∧ w.sent = true

theorem Awaits.removed {w : ProbeWindow} (h : Awaits w e) : e.kind ≠ .instanceRemoved := by
  rcases h with h | h <;> simp [h.1]

theorem advanceWindow_backward {u : Float64} (hsnap : e.snapshots k = some snap)
    (hdue : Awaits x.window e) (hvalid : snap.valid = true) (husage : snap.usage = some u)
    (hkind : x.window.baseline.kind = .reset) (hreset : snap.resetAt = some reset)
    (hback : reset < x.window.baseline.resetAt - probeSkewTolerance)
    (hstrict : ¬ (e.kind = .precheckResult ∧ x.window.baseline.suspectedLazy = true ∧
      Strict k x.window.baseline snap reset e.now ∧
      CloseOrSaturated reset (e.now + snap.windowLength))) :
    ∃ w, advanceWindow k x.window e = some w ∧ w.state = .anomalyHold ∧
      w.baseline.resetAt = x.window.baseline.resetAt := by
  have hskew : (0 : Duration) < probeSkewTolerance := by decide
  have hnot : ¬ x.window.baseline.resetAt + probeSkewTolerance < reset := by
    simp only [Time, Duration] at *
    omega
  rcases hdue with ⟨he, hstate⟩ | ⟨he, hsent⟩
  · have hunauthorized :
        (precheckBaseline k x.window.baseline snap e.now).strictAuthorized = false := by
      rw [Bool.eq_false_iff]
      intro h
      obtain ⟨r, hs, hclose, hlazy⟩ := strictAuthorized_iff.1 h
      obtain rfl : r = reset := some.inj (hs.shows.symm.trans hreset)
      exact hstrict ⟨he, hlazy.resolve_right hnot, hs, hclose⟩
    obtain ⟨hpre, hpre'⟩ := precheckBaseline_of_unauthorized hunauthorized
    have hcl := classify_backward e.now hvalid husage (hpre.trans hkind) hreset
      (by rw [hpre']; exact hback)
    refine ⟨_, by simp only [advanceWindow, he, hsnap, hstate, if_true]; rfl, ?_⟩
    simp [advancePrecheck, hcl, settle, hpre']
  · have hbase : verifyBaseline x.window.baseline snap e.now = x.window.baseline := by
      simp [verifyBaseline, hreset, husage, externalResetRebaseApplies, after, hnot]
    refine ⟨_, by simp only [advanceWindow, he, hsnap, hsent, if_true]; rfl, ?_⟩
    simp [advanceVerify, hbase, classify_backward e.now hvalid husage hkind hreset hback, settle]

/-- A backward reset puts the window on hold, unless a precheck finds a suspected one never used. -/
theorem backward_reset_holds_iff (first : ProbeWindowKind) (c : Controller) {u : Float64}
    (hslot : c.slots k = some x) (hwindow : e.window.any (· ≠ k) = false)
    (hsnap : e.snapshots k = some snap)
    (hdue : Awaits x.window e)
    (hvalid : snap.valid = true) (husage : snap.usage = some u)
    (hkind : x.window.baseline.kind = .reset) (hreset : snap.resetAt = some reset)
    (hback : reset < x.window.baseline.resetAt - probeSkewTolerance) :
    ((∃ x', (c.advance first e).1.slots k = some x' ∧ x'.window.state = .anomalyHold ∧
        x'.window.baseline.resetAt = x.window.baseline.resetAt) ∧
      .send k ∉ (c.advance first e).2) ↔
    ¬ (e.kind = .precheckResult ∧ x.window.baseline.suspectedLazy = true ∧
      Strict k x.window.baseline snap reset e.now ∧
      CloseOrSaturated reset (e.now + snap.windowLength)) := by
  constructor
  · rintro ⟨-, hquiet⟩ ⟨he, hlazy, hstrict, hclose⟩
    refine hquiet ((send_mem_advance_iff first c).2 ⟨x, hslot, he, hwindow, ?_, snap, reset, hsnap,
      hstrict, hclose, .inl hlazy⟩)
    exact hdue.elim And.right fun h => by rw [he] at h; cases h.1
  · intro hstrict
    obtain ⟨w, hw, hstate, hresets⟩ :=
      advanceWindow_backward hsnap hdue hvalid husage hkind hreset hback hstrict
    obtain ⟨seq, -, hafter, -⟩ := advance_spec hdue.removed
    rw [hslot, map_some] at hafter
    have hmoved := window_visitSlot e k x seq
    rw [hwindow, hw] at hmoved
    refine ⟨⟨_, hafter, by rw [hmoved]; exact hstate, by rw [hmoved]; exact hresets⟩, ?_⟩
    intro hsend
    obtain ⟨y, hy, hauthorized⟩ := (send_mem_advance_iff first c).1 hsend
    obtain rfl : x = y := some.inj (hslot.symm.trans hy)
    have hsent := (visitSlot_of_authorized hauthorized seq).1
    rw [hmoved] at hsent
    cases hstate.symm.trans hsent

def unsuspected (reset : Time) : Slot where
  window := { lazyWindow reset with
    baseline := { (lazyWindow reset).baseline with suspectedLazy := false } }

theorem backward_reset_holds_unsuspected :
    (∃ x', (Controller.advance .fiveHour ⟨fun _ => some (unsuspected (3 * hour)), 0⟩
        (unusedResult hour)).1.slots .fiveHour = some x' ∧ x'.window.state = .anomalyHold ∧
        x'.window.baseline.resetAt = 3 * hour) ∧
      .send .fiveHour ∉ (Controller.advance .fiveHour
        ⟨fun _ => some (unsuspected (3 * hour)), 0⟩ (unusedResult hour)).2 :=
  (backward_reset_holds_iff .fiveHour ⟨fun _ => some (unsuspected (3 * hour)), 0⟩ rfl rfl rfl
    (.inl ⟨rfl, rfl⟩) rfl rfl rfl rfl (by decide)).2 fun h => by cases h.2.1

theorem backward_reset_sends :
    hour < (lazyWindow (3 * hour)).baseline.resetAt - probeSkewTolerance ∧
      ((restarted (3 * hour)).advance .fiveHour (unusedResult hour)).2 = [.send .fiveHour] ∧
      (((restarted (3 * hour)).advance .fiveHour (unusedResult hour)).1.slots .fiveHour).map
        (fun x => (x.window.state, x.window.baseline.resetAt)) =
        some (.sentAwaitingVerify, hour) := by
  decide +kernel

theorem after_readOnlyObservationDeadline (b : ProbeBaseline) (obs : Duration) :
    now < readOnlyObservationDeadline b now obs := by
  unfold readOnlyObservationDeadline
  split
  · next h => exact of_decide_eq_true h
  · refine Int.lt_add_of_pos_right now ?_
    split
    · decide
    · next h => exact not_le.1 h

theorem probeBackoff_pos (n : Nat) : 0 < probeBackoff n := by
  unfold probeBackoff
  split
  · decide
  · split <;> decide

theorem after_deadlineFor {b : ProbeBaseline} {obs : Duration} (hkind : b.kind ≠ .usageOnly)
    (hdated : b.resetAt ≠ zero) (hahead : now < b.resetAt + probeRefreshAfterResetDelay) :
    now < deadlineFor b now obs := by
  unfold deadlineFor
  rw [if_neg hkind, if_neg (by simpa [isZero] using hdated)]
  dsimp only
  split
  · exact hahead
  · next hobs =>
    split
    · exact Int.lt_add_of_pos_right now (not_le.1 (not_or.1 hobs).2)
    · exact hahead

theorem after_notDueYet {obs : Duration} (hnow : probeRefreshAfterResetDelay ≤ now)
    (h : (classifyProbeWindow base snap now).kind = .notDueYet) :
    now < deadlineFor (classifyProbeWindow base snap now).baseline now obs := by
  have hpos : (0 : Duration) < probeRefreshAfterResetDelay := by decide
  have hrecheck : now < now + probeUnknownResetRecheck := Int.lt_add_of_pos_right now (by decide)
  have hfirst : ∀ (reset : Time) (u : Float64),
    (classifyFirstReset snap reset u now).kind = .notDueYet →
      now < deadlineFor (classifyFirstReset snap reset u now).baseline now obs := by
    intro reset u hc
    have hlate : now < reset := by
      by_contra hle
      simp [classifyFirstReset, after, hle] at hc
    refine after_deadlineFor (by simp [classifyFirstReset, firstResetBaseline, resetProbeBaseline])
      ?_ ?_ <;> simp only [classifyFirstReset, firstResetBaseline, resetProbeBaseline, zero,
        Time, Duration] at * <;> omega
  have hmatured : ∀ u, base.kind ≠ .usageOnly →
      (classifyMatured base snap.resetAt u now).kind = .notDueYet →
      now < deadlineFor (classifyMatured base snap.resetAt u now).baseline now obs := by
    intro u hkind hc
    by_cases hahead : now < base.resetAt + probeRefreshAfterResetDelay
    · simp only [classifyMatured, before, hahead, decide_true, if_true]
      refine after_deadlineFor hkind ?_ hahead
      simp only [zero, Time, Duration] at *
      omega
    · exact absurd hc (by simp only [classifyMatured, before, hahead]; grind)
  unfold classifyProbeWindow at h ⊢
  split at h
  · next usage _ husage =>
    split at h
    · next c hc =>
      unfold classifySuspected at hc
      grind
    · cases hkind : base.kind with
      | none =>
        rw [hkind] at h
        cases hreset : snap.resetAt with
        | none => simpa [deadlineFor, usageOnlyProbeBaseline] using hrecheck
        | some reset =>
          rw [hreset] at h
          exact hfirst reset usage h
      | usageOnly =>
        unfold classifyUsageOnly at h ⊢
        grind [deadlineFor, before]
      | reset =>
        unfold classifyReset at h ⊢
        grind
  · cases h

theorem after_settle {w : ProbeWindow} {cl : ProbeClassification} {obs : Duration}
    {lazy : ProbeWindow → ProbeWindow}
    (hdue : cl.kind = .notDueYet → now < deadlineFor cl.baseline now obs)
    (hlazy : ∀ w, (lazy w).waits = true → now < (lazy w).deadline)
    (h : (settle w cl now obs lazy).waits = true) : now < (settle w cl now obs lazy).deadline := by
  unfold settle at h ⊢
  split at h
  · cases h
  · cases h
  · next hkind => exact hdue hkind
  · exact Int.lt_add_of_pos_right now (by decide)
  · exact hlazy _ h
  · exact hlazy _ h
  · exact Int.lt_add_of_pos_right now (probeBackoff_pos _)

theorem after_advanceWindow {w w' : ProbeWindow} (hsnap : e.snapshots k = some snap)
    (hdue : Awaits w e) (hnow : probeRefreshAfterResetDelay ≤ e.now)
    (hw : advanceWindow k w e = some w') (h : w'.waits = true) : e.now < w'.deadline := by
  rcases hdue with ⟨he, hstate⟩ | ⟨he, hsent⟩
  · simp only [advanceWindow, he, hsnap, hstate, if_true, some.injEq] at hw
    subst hw
    revert h
    unfold advancePrecheck
    dsimp only
    split
    · exact fun _ => after_readOnlyObservationDeadline _ _
    · exact after_settle (after_notDueYet hnow) fun w hw => by cases hw
  · simp only [advanceWindow, he, hsnap, hsent, if_true, some.injEq] at hw
    subst hw
    exact after_settle (after_notDueYet hnow)
      (fun w _ => Int.lt_add_of_pos_right e.now (probeBackoff_pos _)) h

/-- A window that waits after a result is due strictly later, a minute past the zero time. -/
theorem deadline_after_result (first : ProbeWindowKind) (c : Controller)
    (hslot : c.slots k = some x) (hwindow : e.window.any (· ≠ k) = false)
    (hsnap : e.snapshots k = some snap) (hdue : Awaits x.window e)
    (hnow : probeRefreshAfterResetDelay ≤ e.now) :
    ∃ x', (c.advance first e).1.slots k = some x' ∧
      (x'.window.waits = true →
        x'.window.deadline ≠ Time.zero ∧ e.now < x'.window.deadline) := by
  obtain ⟨seq, -, hafter, -⟩ := advance_spec hdue.removed
  rw [hslot, map_some] at hafter
  refine ⟨_, hafter, fun hwaits => ?_⟩
  rw [window_visitSlot, if_neg (by rw [hwindow]; exact Bool.false_ne_true)] at hwaits ⊢
  have hsome : ∃ w', advanceWindow k x.window e = some w' := by
    rcases hdue with h | h <;> simp [advanceWindow, h.1, hsnap]
  obtain ⟨w', hw⟩ := hsome
  rw [hw] at hwaits ⊢
  have hlate := after_advanceWindow hsnap hdue hnow hw hwaits
  have hpos : (0 : Duration) < probeRefreshAfterResetDelay := by decide
  refine ⟨fun hzero => ?_, hlate⟩
  rw [getD_some] at hzero
  rw [hzero, zero] at hlate
  exact absurd (hpos.trans_le (hnow.trans hlate.le)) (lt_irrefl 0)

def earlyVerify (now : Time) : ProbeEvent where
  kind := .verifyResult
  now := now
  snapshots := fun _ => some (unusedSnapshot Time.zero)

def sentSlot : Slot where
  window := { lazyWindow Time.zero with
    state := .sentAwaitingVerify
    baseline := { (lazyWindow Time.zero).baseline with suspectedLazy := false } }

theorem deadline_after_result_lazy :
    ∃ x', (Controller.advance .fiveHour ⟨fun _ => some sentSlot, 0⟩ (earlyVerify hour)).1.slots
        .fiveHour = some x' ∧
      (x'.window.waits = true →
        x'.window.deadline ≠ Time.zero ∧ (earlyVerify hour).now < x'.window.deadline) :=
  deadline_after_result .fiveHour ⟨fun _ => some sentSlot, 0⟩ rfl rfl rfl (.inr ⟨rfl, rfl⟩)
    (by decide)

theorem due_at_once :
    ((Controller.advance .fiveHour ⟨fun _ => some sentSlot, 0⟩
      (earlyVerify (30 * second))).1.slots .fiveHour).map
        (fun x => (x.window.state, x.window.deadline)) =
      some (.waitingReset, 30 * second) := by
  decide +kernel

end QuotaScheduler.ProbeAuthorization

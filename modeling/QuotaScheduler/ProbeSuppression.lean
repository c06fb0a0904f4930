/- No second activation request before the suppression of the first is over. -/

import QuotaScheduler.ProbeResend
import QuotaScheduler.ProbeSlotMoves

namespace QuotaScheduler.ProbeSuppression

open Option Function Bool

open Account ProbeClassify ProbeState ProbeStore ProbeRuntime ProbeMoves ProbeSlotMoves ProbeWindow
open ProbeInvariant
open ProbeResend (Held posted_eq_some quiet_of_posted worker_of_step workers_of_workMove lazyQuota
  duePass lazyTwice)
open Relation (ReflTransGen)

/-- The window is not pending and does not wait for a time before `S`. -/
def cold (S : Time) (w : ProbeWindow) : Bool :=
  decide (w.state ≠ .pendingCheck) && (!w.waits || decide (S ≤ w.deadline))

/-- A reset that does not mature before `S`. -/
def lateReset (S t : Time) : Bool := !t.isZero && decide (S ≤ t + probeRefreshAfterResetDelay)

def lateBaseline (S : Time) (b : ProbeBaseline) : Bool :=
  if b.kind = .usageOnly then decide (S ≤ b.nextRecheckAt) else lateReset S b.resetAt

/-- A cold window that stays so when its deadline is computed again. -/
def settled (S : Time) (w : ProbeWindow) : Bool :=
  cold S w && (decide (w.state ≠ .waitingReset) || lateBaseline S w.baseline)

def busyWindow (S : Time) (o : QuotaWindow) : Bool :=
  decide (o.usedPercent ≠ some 0) && lateReset S o.resetAt

/-- The quota shows windows in use, whose resets do not mature before `S`. -/
def busyUntil (S : Time) (q : ParsedQuota) : Bool :=
  probeWindowKinds.all fun k => (observedWindow q k).all (busyWindow S)

section Windows

variable {S now : Time} {obs : Duration} {w r : ProbeWindow} {b : ProbeBaseline} {o : QuotaWindow}

theorem busyWindow_of_busyUntil {q : ParsedQuota} {k : ProbeWindowKind} (h : busyUntil S q = true)
    (ho : observedWindow q k = some o) : busyWindow S o = true := by
  simp only [busyUntil, List.all_eq_true, Option.all_eq_true] at h
  exact h k (mem_probeWindowKinds k) o ho

theorem cold_of_settled (h : settled S w = true) : cold S w = true := ((and_eq_true _ _).mp h).1

theorem not_pending_of_settled (h : settled S w = true) : w.state ≠ .pendingCheck := by
  have hcold := cold_of_settled h
  simp only [cold, and_eq_true, decide_eq_true_eq] at hcold
  exact hcold.1

theorem settled_of_state (hpending : w.state ≠ .pendingCheck) (hwaits : w.waits = false) :
    settled S w = true := by
  have hreset : w.state ≠ .waitingReset := by
    intro hstate
    simp [waits, hstate] at hwaits
  simp [settled, cold, hpending, hwaits, hreset]

theorem settled_waitingReset (hstate : w.state = .waitingReset)
    (hlate : lateBaseline S w.baseline = true) (hdeadline : S ≤ w.deadline) :
    settled S w = true := by
  simp [settled, cold, hstate, hlate, hdeadline]

theorem of_waitingReset (h : settled S w = true) (hstate : w.state = .waitingReset) :
    S ≤ w.deadline ∧ lateBaseline S w.baseline = true := by
  simpa [settled, cold, hstate, waits] using h

theorem le_deadlineFor (hb : lateBaseline S b = true) (hsoon : 0 < obs → S ≤ now + obs) :
    S ≤ deadlineFor b now obs := by
  unfold deadlineFor
  unfold lateBaseline at hb
  split
  next hkind => simpa [hkind] using hb
  next hkind =>
    simp only [if_neg hkind, lateReset, and_eq_true, not_eq_true', decide_eq_true_eq] at hb
    rw [if_neg (by simp [hb.1])]
    dsimp only
    split
    next => exact hb.2
    next hlong =>
      split
      next => exact hsoon (not_le.mp (not_or.mp hlong).2)
      next => exact hb.2

theorem lateBaseline_observed (ho : busyWindow S o = true) (usage : Float64) (length : Duration)
    (kind : WindowKind) :
    lateBaseline S { resetProbeBaseline o.resetAt usage length with windowKind := kind }
      = true := by
  simp only [busyWindow, and_eq_true] at ho
  simpa [lateBaseline, resetProbeBaseline] using ho.2

theorem not_strictLazy (ho : busyWindow S o = true) (t : Time) (length : Duration) :
    looksLikeStrictLazyObservation t o length = false := by
  simp only [busyWindow, and_eq_true, decide_eq_true_eq] at ho
  simp [looksLikeStrictLazyObservation, ho.1]

theorem settled_rearm {observedAt : Time}
    (h : rearmConfirmedProbeWindow w observedAt o now obs = some r) (ho : busyWindow S o = true)
    (hsoon : S ≤ now + obs) : settled S r = true := by
  unfold rearmConfirmedProbeWindow at h
  split at h
  next usage duration _ _ =>
    split at h
    next => cases h
    next =>
      dsimp only at h
      rw [not_strictLazy ho, if_neg Bool.false_ne_true] at h
      obtain rfl := some.inj h
      have hlate := lateBaseline_observed ho usage duration o.kind
      exact settled_waitingReset rfl hlate (le_deadlineFor hlate fun _ => hsoon)
  next => cases h

section Bootstrap

variable {c : Bootstrap.Context} {observedAt : Option Time}

open Bootstrap

theorem settled_admitted (h : settled S w = true) : settled S (admitted c w) = true := by
  unfold admitted
  split
  · exact h
  · exact settled_of_state (by simp) (by simp [waits])

theorem ripen_of_le (hnow : c.now < S) (h : S ≤ w.deadline) : ripen c w = w :=
  if_pos (decide_eq_true (lt_of_lt_of_le hnow h))

theorem settled_hasten (h : settled S w = true) (hsoon : S ≤ c.now + c.obs)
    (hr : hasten c w = some r) : settled S r = true := by
  unfold hasten at hr
  split at hr
  next hstate =>
    dsimp only at hr
    split at hr
    · obtain rfl := some.inj hr
      have hlate := (of_waitingReset h hstate.1).2
      exact settled_waitingReset hstate.1 hlate (le_deadlineFor hlate fun _ => hsoon)
    · cases hr
  next => cases hr

theorem settled_learn (h : settled S w = true) (ho : busyWindow S o = true) (hnow : c.now < S)
    (hsoon : S ≤ c.now + c.obs) (duration : Duration) :
    settled S (learn c w observedAt o duration) = true := by
  unfold learn
  dsimp only
  have hlazy : (observedAt.any fun t => looksLikeStrictLazyObservation t o duration) = false := by
    cases observedAt with
    | none => rfl
    | some t => exact not_strictLazy ho t duration
  rw [hlazy, if_neg Bool.false_ne_true]
  split
  next hstate =>
    have hlate : lateBaseline S { w.baseline with
        windowLength := duration
        windowKind := if w.baseline.windowKind = .unset then o.kind else w.baseline.windowKind } =
        true := (of_waitingReset h hstate).2
    have hdeadline := le_deadlineFor hlate fun _ : 0 < c.obs => hsoon
    rw [ripen_of_le hnow hdeadline]
    exact settled_waitingReset hstate hlate hdeadline
  next hstate =>
    exact (and_eq_true _ _).mpr ⟨cold_of_settled h, by simp [hstate]⟩

theorem settled_revise (h : settled S w = true) (ho : busyWindow S o = true) (hnow : c.now < S)
    (hsoon : S ≤ c.now + c.obs) (hr : revise c w observedAt o = some r) : settled S r = true := by
  unfold revise at hr
  split at hr
  next hrearmed =>
    obtain rfl := some.inj hr
    exact settled_admitted (settled_rearm hrearmed ho hsoon)
  next =>
    split at hr
    · obtain ⟨duration, -, rfl⟩ := map_eq_some_iff.mp hr
      exact settled_admitted (settled_learn h ho hnow hsoon duration)
    · cases hr

theorem settled_create (ho : busyWindow S o = true) (hnow : c.now < S)
    (hsoon : S ≤ c.now + c.obs) : settled S (create c observedAt o) = true := by
  unfold create
  dsimp only
  have hlazy : (observedAt.any fun t => firstObservationLazyWindow t o) = false := by
    simp only [busyWindow, and_eq_true, decide_eq_true_eq] at ho
    cases observedAt with
    | none => rfl
    | some t =>
      rw [any_some, firstObservationLazyWindow]
      split <;> simp [ho.1]
  rw [hlazy, if_neg Bool.false_ne_true]
  have hlate := lateBaseline_observed ho (o.usedPercent.getD 0) ((probeWindowDuration o).getD 0)
    o.kind
  have hdeadline := le_deadlineFor hlate fun _ : 0 < c.obs => hsoon
  rw [ripen_of_le hnow hdeadline]
  exact settled_admitted (settled_waitingReset rfl hlate hdeadline)

end Bootstrap

end Windows

def Settles (S : Time) (ws : Windows) : Prop := ∀ k w, ws k = some w → settled S w = true

section Windows

variable {S : Time} {ws : Windows} {c : Bootstrap.Context}

theorem Settles.place {acc : Windows × Bool} {set : ProbeWindowKind → Option ProbeWindow}
    (h : Settles S acc.1) (hset : ∀ k r, set k = some r → settled S r = true) :
    Settles S (Bootstrap.place set acc).1 := by
  intro k w hw
  rcases or_eq_some_iff.mp hw with hnew | ⟨-, hold⟩
  · exact hset k w hnew
  · exact h k w hold

theorem Settles.bootstrap (h : Settles S ws) (hnow : c.now < S) (hsoon : S ≤ c.now + c.obs)
    {accounts : List ObservedAccount} (hbusy : ∀ a ∈ accounts, busyUntil S a.quota = true) :
    Settles S (Bootstrap.windows c ws accounts).1 := by
  unfold Bootstrap.windows
  split
  case isFalse => exact h
  have hstart : Settles S (Bootstrap.place (fun k => (ws k).bind (Bootstrap.hasten c))
      (ws, false)).1 := by
    refine Settles.place h fun k r hr => ?_
    obtain ⟨w, hw, hhasten⟩ := bind_eq_some_iff.mp hr
    exact settled_hasten (h k w hw) hsoon hhasten
  -- every account is observed over windows that are settled
  generalize Bootstrap.place (fun k => (ws k).bind (Bootstrap.hasten c)) (ws, false) = acc at hstart
  induction accounts generalizing acc with
  | nil => exact hstart
  | cons a accounts ih =>
    refine ih (fun a ha => hbusy a (List.mem_cons_of_mem _ ha)) _ (hstart.place fun k r hr => ?_)
    obtain ⟨o, ho, hr⟩ := bind_eq_some_iff.mp hr
    have hwindow := busyWindow_of_busyUntil (hbusy a List.mem_cons_self) ho
    split at hr
    next w hw => exact settled_revise (hstart k w hw) hwindow hnow hsoon hr
    next =>
      obtain rfl := some.inj hr
      exact settled_create hwindow hnow hsoon

theorem Settles.reconcile {s : ProbeSlot} {q : ParsedQuota} {now : Time} {obs : Duration}
    (h : Settles S s.persisted) (hbusy : busyUntil S q = true) (hsoon : S ≤ now + obs) :
    Settles S (s.reconcileWindow q now obs) := by
  intro k r hr
  unfold ProbeSlot.reconcileWindow at hr
  split at hr
  next o ho =>
    obtain ⟨w, hw, rfl⟩ := map_eq_some_iff.mp hr
    cases hrearm : rearmConfirmedProbeWindow w now o now obs with
    | none => exact h k w hw
    | some v => exact settled_rearm hrearm (busyWindow_of_busyUntil hbusy ho) hsoon
  next => exact h k r (filter_eq_some_iff.mp hr).1

end Windows

section Verification

variable {S now : Time} {v : ProbeWindow} {o : QuotaWindow}

theorem lateBaseline_verify {base : ProbeBaseline} (ho : lateReset S o.resetAt = true)
    (hbase : lateBaseline S base = true) :
    lateBaseline S (verifyBaseline base (windowSnapshot o) now) = true := by
  unfold verifyBaseline
  split
  next reset usage hreset _ =>
    split
    next hrebase =>
      obtain rfl : o.resetAt = reset := some.inj hreset
      simp only [externalResetRebaseApplies, hreset, and_eq_true, decide_eq_true_eq] at hrebase
      simpa [lateBaseline, hrebase.1.1.1.1.1.1.1.1] using ho
    next => exact hbase
  next => exact hbase

theorem lateBaseline_firstReset (ho : lateReset S o.resetAt = true) (usage : Float64) :
    lateBaseline S (classifyFirstReset (windowSnapshot o) o.resetAt usage now).baseline = true := by
  simpa [lateBaseline, classifyFirstReset, firstResetBaseline, resetProbeBaseline] using ho

theorem lateBaseline_notDueYet {base : ProbeBaseline} (ho : lateReset S o.resetAt = true)
    (hbase : lateBaseline S base = true)
    (hkind : (classifyProbeWindow base (windowSnapshot o) now).kind = .notDueYet) :
    lateBaseline S (classifyProbeWindow base (windowSnapshot o) now).baseline = true := by
  unfold classifyProbeWindow at hkind ⊢
  split at hkind
  next usage _ _ =>
    split at hkind
    next cl hcl =>
      -- no suspected window is found not due
      split at hcl
      · simp only [classifySuspected, windowSnapshot] at hcl
        split_ifs at hcl <;> cases hcl <;> cases hkind
      · cases hcl
    next =>
      split at hkind
      next => exact lateBaseline_firstReset ho usage
      next => exact lateBaseline_firstReset ho usage
      next =>
        simp only [classifyReset, windowSnapshot] at hkind ⊢
        split_ifs at hkind ⊢ with hfar hnew
        simp only [classifyMatured] at hkind ⊢
        split_ifs at hkind ⊢
        exact hbase
  next => cases hkind

theorem settled_raiseWindow (h : settled S v = true ∨ v.state = .retryWait) :
    settled S (ProbeSlot.raiseWindow S v) = true := by
  unfold ProbeSlot.raiseWindow
  split
  next hraise => simp [settled, cold, hraise.1]
  next hkeep =>
    rcases h with h | hstate
    · exact h
    · have hle : S ≤ v.deadline := not_lt.mp fun hlt => hkeep ⟨hstate, decide_eq_true hlt⟩
      simp [settled, cold, hstate, hle]

/-- A sequence leaves the windows it sent for settled, after it has raised their retries. -/
theorem settled_verified (ho : lateReset S o.resetAt = true)
    (hbase : lateBaseline S v.baseline = true) (hsoon : S ≤ now + probeUnknownResetRecheck) :
    settled S (ProbeSlot.raiseWindow S (advanceVerify v (windowSnapshot o) now 0)) = true := by
  unfold advanceVerify
  generalize hcl : classifyProbeWindow _ (windowSnapshot o) now = cl
  have hlate : cl.kind = .notDueYet → lateBaseline S cl.baseline = true :=
    hcl ▸ lateBaseline_notDueYet ho (lateBaseline_verify ho hbase)
  refine settled_raiseWindow ?_
  unfold settle
  cases hkind : cl.kind with
  | activatedNew | activatedInferred =>
    exact .inl (settled_of_state (by simp) (by simp [waits]))
  | notDueYet =>
    exact .inl (settled_waitingReset rfl (hlate hkind)
      (le_deadlineFor (hlate hkind) fun h => by cases h))
  | anomaly => exact .inl (by simpa [settled, cold] using Or.inr hsoon)
  | stillLazy | ambiguous | invalid => exact .inr rfl

theorem controller_verify {s : ProbeSlot} {q : ParsedQuota} {kind : ProbeWindowKind}
    {u : ProbeWindow} (hread : observedWindow q kind = some o)
    (hu : (s.advanceRead .verifyResult q now 0).controller kind = some u) :
    ∃ v, s.controller kind = some v ∧
      u = if v.sent then advanceVerify v (windowSnapshot o) now 0 else v := by
  obtain ⟨v, hv, hvu⟩ := bind_eq_some_iff.mp hu
  refine ⟨v, hv, ?_⟩
  rw [if_neg (by simp)] at hvu
  simp only [advanceWindow, probeSnapshots, hread, map_some, some.injEq] at hvu
  exact hvu.symm

end Verification

structure Rested (S : Time) (s : ProbeSlot) : Prop where
  attempt : s.attempt = none
  controller : Settles S s.controller
  persisted : Settles S s.persisted

section Slot

variable {S : Time} {s : ProbeSlot} {ws : Windows}

theorem Rested.sync (h : Rested S s) : Rested S s.sync := ⟨h.attempt, h.persisted, h.persisted⟩

theorem Rested.persist (h : Rested S s) (hws : Settles S ws) (stored : Bool) :
    Rested S (ProbeSlot.persist { s with controller := ws } stored) := by
  unfold ProbeSlot.persist ProbeSlot.store
  split
  · exact ⟨h.attempt, hws, hws⟩
  · exact ⟨h.attempt, hws, h.persisted⟩

theorem exactProbeAttempt_none (id : Option Nat) (phases : List ProbeAttemptPhase) :
    exactProbeAttempt none id phases = none := rfl

theorem Rested.terminal (h : Rested S s) (id : Option Nat) (q : ParsedQuota)
    (phases : List ProbeAttemptPhase) (stored : Bool) :
    Rested S (ProbeSlot.persistTerminalProbeCompletion { s with controller := ws } id q phases
      stored) := by
  unfold ProbeSlot.persistTerminalProbeCompletion
  rw [h.attempt, exactProbeAttempt_none, isSome_none, Bool.and_false, if_neg Bool.false_ne_true]
  exact ⟨rfl, h.persisted, h.persisted⟩

theorem Rested.failure (h : Rested S s) (f : ProbeFailure) (now : Time) (stored : Bool) :
    Rested S (s.persistProbeFailure f now stored) := by
  have hnone : (if stored then exactProbeAttempt s.attempt f.attemptID f.phases else none) =
      none := by
    rw [h.attempt, exactProbeAttempt_none]
    split <;> rfl
  unfold ProbeSlot.persistProbeFailure
  rw [hnone]
  exact h.sync

theorem Rested.sentUnknown (h : Rested S s) (id : Option Nat) (suppress : Time) (stored : Bool) :
    s.persistProbeSentUnknown id suppress stored = none := by
  unfold ProbeSlot.persistProbeSentUnknown
  rw [h.attempt, exactProbeAttempt_none]
  split <;> rfl

theorem rested_empty : Rested S {} where
  attempt := rfl
  controller _ _ hw := by cases hw
  persisted _ _ hw := by cases hw

theorem Rested.remove (h : Rested S s) (stored : Bool) : Rested S (s.remove stored) := by
  unfold ProbeSlot.remove
  split
  · exact rested_empty
  · exact ⟨h.attempt, rested_empty.controller, h.persisted⟩

theorem Rested.block (h : Rested S s) (b : RuntimeBinding) : Rested S (s.block b) := by
  refine ⟨h.attempt, fun k w hw => ?_, h.persisted⟩
  obtain ⟨v, -, rfl⟩ := map_eq_some_iff.mp hw
  exact settled_of_state (by simp [ProbeSlot.blockWindow]) (by simp [ProbeSlot.blockWindow, waits])

theorem settled_holdWindow (sent : List ProbeWindowKind) (k : ProbeWindowKind) (w : ProbeWindow) :
    settled S (ProbeSlot.holdWindow sent k w) = true := by
  unfold ProbeSlot.holdWindow
  split
  · exact settled_of_state (by simp) (by simp [waits])
  · split
    · next hstate => exact settled_of_state (by simp [hstate]) (by simp [waits, hstate])
    · exact settled_of_state (by simp) (by simp [waits])

theorem Rested.hold (h : Rested S s) (stored : Bool) : Rested S (s.holdProbeForRoster stored) := by
  unfold ProbeSlot.holdProbeForRoster
  split
  · have hnext : Settles S fun k =>
        (s.controller k).map (ProbeSlot.holdWindow s.sentWindows k) := by
      intro k w hw
      obtain ⟨v, -, rfl⟩ := map_eq_some_iff.mp hw
      exact settled_holdWindow _ k v
    exact ⟨by simp [h.attempt], hnext, hnext⟩
  · exact h

theorem Rested.mark (h : Rested S s) (windows : List ProbeWindowKind) :
    Rested S (s.markSentUnknown windows) := by
  refine ⟨h.attempt, fun k w hw => ?_, h.persisted⟩
  unfold ProbeSlot.markSentUnknown at hw
  dsimp only at hw
  split at hw
  · obtain ⟨v, -, rfl⟩ := map_eq_some_iff.mp hw
    exact settled_of_state (by simp) (by simp [waits])
  · exact h.controller k w hw

theorem Rested.precheck (h : Rested S s) (q : ParsedQuota) (now : Time) (obs : Duration) :
    Rested S (s.advanceRead .precheckResult q now obs) := by
  refine ⟨h.attempt, fun k w hw => ?_, h.persisted⟩
  obtain ⟨v, hv, hvw⟩ := bind_eq_some_iff.mp hw
  have hsettled := h.controller k v hv
  rw [if_neg (by simp)] at hvw
  simp only [advanceWindow] at hvw
  split at hvw
  · rw [if_neg (not_pending_of_settled hsettled)] at hvw
    exact some.inj hvw ▸ hsettled
  · exact some.inj hvw ▸ hsettled

/-- No window was blocked at an older login. -/
def sameLogin (s : ProbeSlot) (login : Nat) : Bool :=
  probeWindowKinds.all fun k => (s.controller k).all fun w =>
    decide (w.state = .authBlocked → login ≤ w.authBlockedAtLogin)

/-- No window is held for the roster. -/
def unheld (s : ProbeSlot) : Bool :=
  probeWindowKinds.all fun k => (s.controller k).all fun w => decide (w.state ≠ .waitingRoster)

variable {b : RuntimeBinding} {now : Time} {w : ProbeWindow} {k : ProbeWindowKind}

theorem reloginWindow_eq (hlogin : sameLogin s b.login = true) (hw : s.controller k = some w) :
    ProbeSlot.reloginWindow b.login w = w := by
  simp only [sameLogin, List.all_eq_true, Option.all_eq_true, decide_eq_true_eq] at hlogin
  refine if_neg ?_
  rintro ⟨hstate, hlt⟩
  exact absurd (hlogin k (mem_probeWindowKinds k) w hw hstate) (Nat.not_le.mpr hlt)

theorem after_of_waits (h : settled S w = true) (hwaits : w.waits = true) (hnow : now < S) :
    w.deadline.after now = true := by
  have hcold := cold_of_settled h
  simp only [cold, hwaits, Bool.not_true, Bool.false_or, and_eq_true, decide_eq_true_eq] at hcold
  exact decide_eq_true (lt_of_lt_of_le hnow hcold.2)

theorem controller_map {f : ProbeWindowKind → ProbeWindow → ProbeWindow}
    (h : ∀ k w, s.controller k = some w → f k w = w) :
    { s with controller := fun k => (s.controller k).map (f k) } = s := by
  have hsame : (fun k => (s.controller k).map (f k)) = s.controller := by
    funext k
    cases hk : s.controller k with
    | none => rfl
    | some w => rw [map_some, h k w hk]
  rw [hsame]

theorem Rested.arm (h : Rested S s) (hlogin : sameLogin s b.login = true) (hnow : now < S) :
    s.arm b now = s := by
  refine controller_map (f := fun _ => ProbeSlot.armWindow b now) fun k w hw => ?_
  unfold ProbeSlot.armWindow
  rw [reloginWindow_eq hlogin hw, if_neg]
  rintro ⟨-, hdue, hwaits⟩
  rw [after_of_waits (h.controller k w hw) hwaits hnow] at hdue
  cases hdue

theorem Rested.confirm (h : Rested S s) (hlogin : sameLogin s b.login = true)
    (hheld : unheld s = true) (hnow : now < S) (obs : Duration) : s.confirm b now obs = s := by
  have hadvance : ∀ k, advance s.controller
      { kind := .rosterConfirmed, now := now, observationInterval := obs } k = s.controller k := by
    intro k
    cases hw : s.controller k with
    | none => simp [advance, hw]
    | some w =>
      simp only [unheld, List.all_eq_true, Option.all_eq_true, decide_eq_true_eq] at hheld
      simp [advance, hw, advanceWindow, hheld k (mem_probeWindowKinds k) w hw]
  unfold ProbeSlot.confirm
  simp only [hadvance]
  refine controller_map (f := fun _ => ProbeSlot.confirmWindow b now) fun k w hw => ?_
  unfold ProbeSlot.confirmWindow
  rw [reloginWindow_eq hlogin hw, if_neg]
  rintro ⟨hstate, hdue⟩
  rw [after_of_waits (h.controller k w hw) (by simp [waits, hstate]) hnow] at hdue
  cases hdue

theorem rested_terminal {id : Option Nat} {q : ParsedQuota} {phases : List ProbeAttemptPhase}
    {stored : Bool} (hsome : s.attempt ≠ none)
    (hnone : (s.persistTerminalProbeCompletion id q phases stored).attempt = none)
    (hsettled : stored = true → (exactProbeAttempt s.attempt id phases).isSome = true →
      ∀ k o w, observedWindow q k = some o → s.controller k = some w → settled S w = true) :
    Rested S (s.persistTerminalProbeCompletion id q phases stored) := by
  unfold ProbeSlot.persistTerminalProbeCompletion at hnone ⊢
  split at hnone
  · next hdone =>
    rw [if_pos hdone]
    simp only [and_eq_true] at hdone
    have hwindows : Settles S fun k =>
        if (observedWindow q k).isSome then s.controller k else none := by
      intro k w hw
      dsimp only at hw
      split at hw
      · next hobs =>
        obtain ⟨o, ho⟩ := isSome_iff_exists.mp hobs
        exact hsettled hdone.1 hdone.2 k o w ho hw
      · cases hw
    exact ⟨rfl, hwindows, hwindows⟩
  · exact absurd hnone hsome

end Slot

/-- The attempt is ended by its own sequence. The windows it sent for have a reset, and are read
with one, that does not mature before `S`; the others are settled. -/
def keepsCompletion (S : Time) (w : World) (k : Worker) (o : Outcome) (q : ParsedQuota) : Bool :=
  let s := w.slots k.inst
  !o.stored || (exactProbeAttempt s.attempt k.attempt.attemptID
      (if k.recovery then sentPhases else [.sent])).isNone ||
    !k.recovery && probeWindowKinds.all fun kind => (observedWindow q kind).all fun read =>
      (s.controller kind).all fun v =>
        if v.sent then
          decide (kind ∈ k.attempt.windows) && lateReset S read.resetAt && lateBaseline S v.baseline
        else settled S v

/-- Without an attempt, the quotas observed show windows in use with resets after `S`, no login is
newer than a block, no window waits for a roster that is confirmed, what is written of the
controller is what it holds, and no pass acts on what it has read of the attempt. -/
def keepsRest (i : AuthInstanceID) (S : Time) (w : World) : Event → Bool
  | .due j => decide (j ≠ i) ||
    (w.idlePass.bind fun p => p.bindings.bind fun bound => bound i).all fun b =>
      sameLogin (w.slots i) b.login
  | .claim _ _ => w.idlePass.all fun p => p.claiming.all fun c => decide (c.1 ≠ i)
  | .unprepare | .dropPrepared _ => w.idlePass.all fun p => (p.prepared.lookup i).isNone
  | .persistTouched _ =>
    w.idlePass.all fun p => p.windows.all fun windows => decide (i ∉ p.touched) || fresh w windows i
  | .confirm _ bindings =>
    (bindings.lookup i).all fun b => sameLogin (w.slots i) b.login && unheld (w.slots i)
  | .persistConfirmed n _ =>
    (w.publications n).all fun r => r.windows.all fun windows =>
      decide (i ∉ r.touched) || fresh w windows i
  | .bootstrap accounts _ _ => accounts.all fun a => decide (a.inst ≠ i) || busyUntil S a.quota
  | .observe j quota _ => decide (j ≠ i) || busyUntil S quota
  | _ => true

def keeps (i : AuthInstanceID) (S : Time) (w : World) : Event → Bool
  | .work n o =>
    (w.workers n).all fun k => decide (k.inst ≠ i) ||
      match k.pos with
      | .verified _ q => keepsCompletion S w k o q
      | _ => true
  | e => (w.slots i).attempt.isSome || keepsRest i S w e

section Rest

variable {w : World} {i : AuthInstanceID} {S : Time} {s : ProbeSlot}

theorem Rested.setSlot {j : AuthInstanceID} (h : Rested S (w.slots i))
    (hs : j = i → Rested S s) : Rested S ((w.setSlot j s).slots i) := by
  by_cases hj : i = j
  · subst hj
    rw [setSlot_self]
    exact hs rfl
  · rw [setSlot_of_ne hj]
    exact h

theorem Rested.verified (h : Rested S s) (k : Worker) (q : ParsedQuota)
    (now : Time) (stored : Bool) :
    Rested S (if k.recovery then
        s.persistVerifiedProbeCompletion k.attempt.attemptID q sentPhases now stored
      else s.completeVerification k.attempt q now stored) := by
  split
  · exact h.terminal _ q _ stored
  · exact h.terminal _ q _ stored

theorem slots_beginVerify (w : World) (n : Nat) (k : Worker) (fence : Nat) (o : Outcome) :
    (w.beginVerify n k fence o).slots = w.slots := by
  unfold World.beginVerify
  split
  · dsimp only
    split <;> rfl
  · rfl

theorem slots_begin (w : World) (n : Nat) (k : Worker) (o : Outcome) :
    (if k.recovery then w.beginRecovery n k o else w.beginSend n k o).slots = w.slots := by
  split
  · unfold World.beginRecovery
    split
    · rfl
    · exact slots_beginVerify w n k _ o
  · unfold World.beginSend
    split <;> rfl

theorem Rested.workStep (h : Rested S (w.slots i)) (n : Nat) (k : Worker) (o : Outcome) :
    Rested S ((w.workStep n k o).slots i) := by
  unfold World.workStep
  dsimp only
  split
  · rw [slots_begin]
    exact h
  · next q hpos =>
    unfold World.applyPrecheck
    dsimp only
    split
    · refine h.setSlot fun hinst => ?_
      subst hinst
      exact (h.precheck q w.clock w.obs).terminal _ q _ _
    · refine h.setSlot fun hinst => ?_
      subst hinst
      exact h.precheck q w.clock w.obs
  · split <;> exact h
  · unfold World.advanceWith
    split
    · next s hs =>
      refine h.setSlot fun hinst => ?_
      subst hinst
      unfold ProbeSlot.persistSending at hs
      rw [h.attempt, exactProbeAttempt_none] at hs
      split at hs <;> cases hs
    · exact h
  · exact h
  · unfold World.advanceWith
    split
    · next s hs =>
      refine h.setSlot fun hinst => ?_
      subst hinst
      unfold ProbeSlot.persistSent at hs
      rw [h.attempt, exactProbeAttempt_none] at hs
      split at hs <;> cases hs
    · exact h
  · rw [slots_beginVerify]
    exact h
  · split <;> exact h
  · refine h.setSlot fun hinst => ?_
    subst hinst
    exact h.verified k _ w.clock _
  · split
    · exact h
    · refine h.setSlot fun hinst => ?_
      subst hinst
      exact h.failure _ _ _
  · exact h

theorem recheck_le_obs (w : World) : probeUnknownResetRecheck ≤ w.obs := by
  unfold World.obs probeObservationInterval
  dsimp only
  split
  next => exact le_rfl
  next h => exact not_lt.mp h

theorem Rested.store (h : Rested S (w.slots i)) {windows : AuthInstanceID → Windows}
    (hfresh : fresh w windows i = true) (stored : Bool) :
    Rested S ((w.slots i).store (windows i) stored) := by
  rw [eq_of_fresh hfresh]
  exact h.persist h.controller stored

theorem Rested.slotMove {e : Event} (h : Rested S (w.slots i))
    (hnow : ∀ p, w.pass = some p → p.now < S) (hclock : w.clock < S)
    (hsoon : S ≤ w.clock + probeUnknownResetRecheck) (hkeeps : keepsRest i S w e = true)
    (hmove : SlotMove w i e s) : Rested S s := by
  have hobs : S ≤ w.clock + w.obs := hsoon.trans (Int.add_le_add_left (recheck_le_obs w) _)
  cases hmove with
  | same => exact h
  | removed stored => exact h.remove stored
  | blocked b => exact h.block b
  | armed p b idle bound =>
    have hlogin : sameLogin (w.slots i) b.login = true := by
      simpa [keepsRest, idle, bound] using hkeeps
    rw [h.arm hlogin (hnow p (idlePass_eq_some idle).1)]
    exact h
  | claimed p due windows idle claiming =>
    simp [keepsRest, idle, claiming] at hkeeps
  | unprepared p a idle prepared | dropped p a windows idle prepared =>
    simp [keepsRest, idle, prepared] at hkeeps
  | sentUnknown written | inherited written =>
    rw [h.sentUnknown] at written
    cases written
  | marked p r => exact h.mark r.attempt.windows
  | @touched stored p windows idle read mem =>
    exact h.store (by simpa [keepsRest, idle, read, mem] using hkeeps) stored
  | held stored => exact h.hold stored
  | confirmed b bound =>
    simp only [keepsRest, bound, all_some, and_eq_true] at hkeeps
    rw [h.confirm hkeeps.1 hkeeps.2 hclock]
    exact h
  | @published n stored touched windows read mem =>
    exact h.store (by simpa [keepsRest, read, mem] using hkeeps) stored
  | @bootstrapped accounts capabilityA stored =>
    refine h.persist (h.controller.bootstrap hclock hobs fun a ha => ?_) _
    obtain ⟨hmem, hinst⟩ := List.mem_filter.mp ha
    have hbusy := List.all_eq_true.mp hkeeps a hmem
    simpa [of_decide_eq_true hinst] using hbusy
  | @observed quota stored =>
    have hbusy : busyUntil S quota = true := by simpa [keepsRest] using hkeeps
    unfold ProbeSlot.reconcileObservedProbeWindows
    split
    · have hsettles := h.persisted.reconcile hbusy hobs
      exact ⟨h.attempt, hsettles, hsettles⟩
    · exact h
  | reloaded => exact h.sync

theorem Rested.step (h : Rested S (w.slots i)) (hnow : ∀ p, w.pass = some p → p.now < S)
    (hclock : w.clock < S) (hsoon : S ≤ w.clock + probeUnknownResetRecheck) {e : Event}
    (hkeeps : keeps i S w e = true) : Rested S ((w.step e).slots i) := by
  by_cases hwork : ∃ n o, e = .work n o
  · obtain ⟨n, o, rfl⟩ := hwork
    simp only [World.step]
    split
    · exact h.workStep n _ o
    · exact h
  · have hother : ∀ n o, e ≠ .work n o := fun n o he => hwork ⟨n, o, he⟩
    refine h.slotMove hnow hclock hsoon ?_ (slotMove_step hother)
    cases e with
    | work n o => exact absurd rfl (hother n o)
    | _ => simpa [keeps, h.attempt] using hkeeps

end Rest

section Hold

variable {w : World} {i : AuthInstanceID} {id : Option Nat} {fence : Nat} {S : Time}

def Owned (w : World) (i : AuthInstanceID) (id : Option Nat) (S : Time) : Prop :=
  ∀ n k, w.workers n = some k → k.inst = i → k.attempt.attemptID = id → k.probeSent = true →
    k.attempt.suppressUntil = S

variable {e : Event} {n : Nat} {o : Outcome} {k : Worker}

theorem SlotMove.settles {a : ProbeAttempt} {s : ProbeSlot} (hsound : Sound w)
    (ha : (w.slots i).attempt = some a) (hmove : SlotMove w i e s) :
    AttemptChange (w.slots i).attempt s.attempt ∨ s = {} := by
  cases hmove with
  | same | blocked | armed | unprepared | marked | confirmed | reloaded => exact .inl (.same _)
  | removed stored =>
    unfold ProbeSlot.remove
    split
    · exact .inr rfl
    · exact .inl (.same _)
  | claimed p due windows idle claiming read free =>
    -- a stored attempt has an identifier, and is not claimed again
    obtain ⟨m, hm, -⟩ := hsound.ids i a ha
    rw [ha, filter_some, if_pos (by simp [hm])] at free
    cases free
  | dropped => exact .inl (.dropPrepared _ _ _)
  | sentUnknown written => exact .inl (.persistProbeSentUnknown written)
  | inherited written =>
    have hchange := AttemptChange.persistProbeSentUnknown written
    exact .inl hchange
  | touched | published => exact .inl (.store _ _)
  | held stored => exact .inl (.holdProbeForRoster stored)
  | bootstrapped => exact .inl (.bootstrap _ _ _ _)
  | observed => exact .inl (.reconcileObservedProbeWindows _ _ _ _)

def Guarded (w : World) (i : AuthInstanceID) (id : Option Nat) (fence : Nat) (S : Time) : Prop :=
  Held w i id fence ∧ Owned w i id S ∨ Rested S (w.slots i)

theorem guarded_other (h : Held w i id fence) (howned : Owned w i id S) (hsound : Sound w)
    (hwork : ∀ n o, e ≠ .work n o) : Guarded (w.step e) i id fence S := by
  obtain ⟨a, ha, -⟩ := h.stored
  rcases SlotMove.settles hsound ha (slotMove_step hwork) with hchange | hempty
  · refine .inl ⟨h.of_change hchange fun n k hk hinst hkid => ?_, fun n k hk hinst hkid hsent => ?_⟩
    · rcases worker_of_step hwork hk with hold | hbegin
      · exact h.unposted n k hold hinst hkid
      · rw [hbegin]
        intro hpos
        cases hpos
    · rcases worker_of_step hwork hk with hold | hbegin
      · exact howned n k hold hinst hkid hsent
      · rw [((hsound.step e).placed n k hk).begin hbegin] at hsent
        cases hsent
  · exact .inr (hempty ▸ rested_empty)

theorem Owned.workMove {w' : World} (h : Owned w i id S) (hheld : Held w i id fence)
    (hsound : Sound w) (hk : w.workers n = some k) (hmove : WorkMove n o k w w') :
    Owned w' i id S := by
  intro m c hc hinst hcid hsent
  by_cases hm : m = n
  · subst hm
    cases hmove with
    | work k' rest workers hstep slots =>
      rw [workers, update_self] at hc
      obtain rfl := some.inj hc
      rw [hstep.probeSent] at hsent
      have hnotearly := (hsound.placed m k hk).not_early (.inr hsent)
      rw [hstep.suppress hnotearly]
      exact h m k hk (hstep.inst ▸ hinst) (hstep.attemptID ▸ hcid) hsent
    | send a b rest hpos workers stored hid hphase =>
      -- the stored attempt would still be prepared
      rw [workers, update_self] at hc
      obtain rfl := some.inj hc
      obtain ⟨d, hd, -, hdphase, -⟩ := hheld.stored
      obtain rfl : k.inst = i := hinst
      obtain rfl := some.inj (stored.symm.trans hd)
      exact absurd hphase (mem_sentPhases.mp hdphase)
    | complete seq q rest hpos workers =>
      rw [workers, update_self] at hc
      obtain rfl := some.inj hc
      exact h m k hk hinst hcid hsent
    | stay same => exact h m c (same ▸ hc) hinst hcid hsent
  · exact h m c (workers_of_workMove hmove hm ▸ hc) hinst hcid hsent

theorem rested_completion {seq : Nat} {q : ParsedQuota} (hk : w.workers n = some k)
    (hpos : k.pos = .verified seq q) (hsound : Sound w)
    (howned : Owned w k.inst k.attempt.attemptID S) (hsome : (w.slots k.inst).attempt ≠ none)
    (hsoon : S ≤ w.clock + probeUnknownResetRecheck)
    (hnone : ((w.workStep n k o).slots k.inst).attempt = none)
    (hkeeps : keepsCompletion S w k o q = true) : Rested S ((w.workStep n k o).slots k.inst) := by
  have hslot : (w.workStep n k o).slots k.inst =
      if k.recovery then (w.slots k.inst).persistVerifiedProbeCompletion k.attempt.attemptID q
        sentPhases w.clock o.stored
      else (w.slots k.inst).completeVerification k.attempt q w.clock o.stored := by
    simp only [World.workStep, hpos]
    exact setSlot_self
  rw [hslot] at hnone ⊢
  unfold keepsCompletion at hkeeps
  cases hrec : k.recovery with
  | true =>
    simp only [hrec, if_true] at hnone hkeeps ⊢
    refine rested_terminal hsome hnone fun hstored hexact => ?_
    have hexact' : (exactProbeAttempt (w.slots k.inst).attempt k.attempt.attemptID
      sentPhases).isSome =
      true := hexact
    simp [hstored, ← not_isSome, hexact'] at hkeeps
  | false =>
    simp only [hrec, false_eq_true, if_false] at hnone hkeeps ⊢
    have hspent := ((hsound.placed n k hk).verified seq q hpos).1
    have hsent : k.probeSent = true := hspent.resolve_left (by simp [hrec])
    have hsuppress := howned n k hk rfl rfl hsent
    refine rested_terminal hsome hnone fun hstored hexact kind read v hread hv => ?_
    have hexact' : (exactProbeAttempt (w.slots k.inst).attempt k.attempt.attemptID [.sent]).isSome =
      true := hexact
    simp only [hstored, ← not_isSome, hexact', Bool.not_true, Bool.false_or, Bool.not_false,
      Bool.true_and, List.all_eq_true, Option.all_eq_true] at hkeeps
    have hkind := hkeeps kind (mem_probeWindowKinds kind) read hread
    have hwindow : ∀ u, ((w.slots k.inst).advanceRead .verifyResult q w.clock 0).controller kind =
        some u → (kind ∈ k.attempt.windows ∧ settled S (ProbeSlot.raiseWindow S u) = true) ∨
          settled S u = true := by
      intro u hu
      obtain ⟨v, hv, rfl⟩ := controller_verify hread hu
      have hv' := hkind v hv
      split at hv'
      next hvsent =>
        simp only [and_eq_true, decide_eq_true_eq] at hv'
        rw [if_pos hvsent]
        exact .inl ⟨hv'.1.1, settled_verified hv'.1.2 hv'.2 hsoon⟩
      next hvsent =>
        rw [if_neg hvsent]
        exact .inr hv'
    -- a window of the attempt is raised after the read, the others are as they were
    simp only [ProbeSlot.raise, hsuppress] at hv
    split at hv
    next =>
      obtain ⟨u, hu, rfl⟩ := map_eq_some_iff.mp hv
      exact (hwindow u hu).elim (fun h => h.2) fun h => settled_raiseWindow (.inl h)
    next hmem => exact (hwindow v hv).resolve_left fun h => hmem h.1

theorem guarded_work (h : Held w i id fence) (howned : Owned w i id S) (hsound : Sound w)
    (hk : w.workers n = some k) (hsoon : S ≤ w.clock + probeUnknownResetRecheck)
    (hkeeps : keeps i S w (.work n o) = true) : Guarded (w.workStep n k o) i id fence S := by
  have hmove := workMove_workStep w n k o
  rcases h.workMove hmove with hheld | ⟨hnone, hinst, hkid, seq, q, hpos⟩
  · exact .inl ⟨hheld, howned.workMove h hsound hk hmove⟩
  · subst hinst
    subst hkid
    obtain ⟨a, ha, -⟩ := h.stored
    refine .inr (rested_completion hk hpos hsound howned (by simp [ha]) hsoon hnone ?_)
    simpa [keeps, hk, hpos] using hkeeps

theorem Guarded.step (h : Guarded w i id fence S) (hsound : Sound w)
    (hnow : ∀ p, w.pass = some p → p.now < S) (hclock : w.clock < S)
    (hsoon : S ≤ w.clock + probeUnknownResetRecheck) (hkeeps : keeps i S w e = true) :
    Guarded (w.step e) i id fence S := by
  rcases h with ⟨hheld, howned⟩ | hrested
  · by_cases hwork : ∃ n o, e = .work n o
    · obtain ⟨n, o, rfl⟩ := hwork
      cases hk : w.workers n with
      | some k =>
        have hstep : w.step (.work n o) = w.workStep n k o := by simp only [World.step, hk]
        rw [hstep]
        exact guarded_work hheld howned hsound hk hsoon hkeeps
      | none =>
        have hstep : w.step (.work n o) = w := by simp only [World.step, hk]
        rw [hstep]
        exact .inl ⟨hheld, howned⟩
    · exact guarded_other hheld howned hsound fun n o he => hwork ⟨n, o, he⟩
  · exact .inr (hrested.step hnow hclock hsoon hkeeps)

theorem Guarded.not_posted (h : Guarded w i id fence S) (hsound : Sound w) (e : Event)
    (a : ProbeAttempt) : w.posted e ≠ some (i, a) := by
  rcases h with ⟨hheld, -⟩ | hrested
  · exact hheld.not_posted hsound e a
  · intro hpost
    obtain ⟨n, o, k, rfl, hlive, hk, hpos, rfl, rfl⟩ := posted_eq_some hpost
    obtain ⟨⟨b, hb, -⟩, -⟩ := hsound.sending n k hlive hk hpos
    rw [hrested.attempt] at hb
    cases hb

theorem guarded_of_posted {a : ProbeAttempt} (hsound : Sound w) (hpost : w.posted e = some (i, a)) :
    Guarded (w.step e) i a.attemptID a.sendFenceSeq a.suppressUntil := by
  obtain ⟨hunverified, -⟩ := quiet_of_posted hsound hpost
  refine .inl ⟨hunverified.toHeld, fun m c hc hinst hcid hsent => ?_⟩
  obtain ⟨n, o, k, rfl, hlive, hk, hpos, rfl, rfl⟩ := posted_eq_some hpost
  have hksent : k.probeSent = true := (hsound.placed n k hk).late (by simp [hpos, late])
  obtain ⟨pos, hn⟩ : ∃ pos, (w.step (.work n o)).workers n = some { k with pos := pos } := by
    simp only [World.step, hk, World.workStep, hpos, World.setWorker, update_self]
    exact ⟨_, rfl⟩
  obtain rfl := (hsound.step (.work n o)).unique n m _ c hn hc hksent hsent hinst hcid
  rw [hn] at hc
  rw [← some.inj hc]

end Hold

variable {w w' : World}

def Past (w : World) : Prop := ∀ p, w.pass = some p → p.now ≤ w.clock

theorem Past.of_pass (h : Past w) (hpass : w'.pass = w.pass) (hclock : w.clock ≤ w'.clock) :
    w.clock ≤ w'.clock ∧ Past w' :=
  ⟨hclock, fun p hp => (h p (hpass ▸ hp)).trans hclock⟩

theorem Past.note (h : Past w) {p p' : Pass} (hidle : w.idlePass = some p)
    (hpass : w'.pass = some p') (hnow : p'.now = p.now) (hclock : w'.clock = w.clock) :
    w.clock ≤ w'.clock ∧ Past w' := by
  refine ⟨hclock.ge, fun q hq => ?_⟩
  obtain rfl := some.inj (hpass.symm.trans hq)
  rw [hclock, hnow]
  exact h p (idlePass_eq_some hidle).1

theorem Past.act (h : Past w) (hact : Act w w') : w.clock ≤ w'.clock ∧ Past w' := by
  cases hact with
  | settle rest | remove i why rest => exact h.of_pass rest.pass rest.clock
  | claim p i a idle due free written hid hphase others seq workers pass roster cancelled clock =>
    exact h.of_pass pass clock.ge
  | submit p p' k idle accepted bound hpos unsent read recovering awaits recovery bindings
      persisted intents pass workers slots seq roster cancelled now clock =>
    exact h.note idle pass now clock
  | refine p p' idle same awaits recovery bindings persisted intents recovering now =>
    exact h.note idle (same ▸ rfl) now (same ▸ rfl)
  | openPass recovery free same =>
    subst same
    refine ⟨le_rfl, fun p hp => ?_⟩
    obtain rfl := some.inj hp
    exact le_rfl
  | release same =>
    subst same
    refine ⟨le_rfl, fun p hp => ?_⟩
    obtain ⟨q, hq, rfl⟩ := map_eq_some_iff.mp hp
    exact h q hq
  | cancel i same =>
    subst same
    refine ⟨le_rfl, fun p hp => ?_⟩
    obtain ⟨q, hq, rfl | ⟨rfl, -⟩⟩ := pass_cancel hp
    · exact h q hq
    · exact h p hq
  | activate i same =>
    subst same
    exact h.of_pass rfl le_rfl
  | closePass same | crash reads same =>
    subst same
    exact ⟨le_rfl, fun p hp => by cases hp⟩

theorem Past.acts (h : Past w) (hacts : ReflTransGen Act w w') : w.clock ≤ w'.clock ∧ Past w' := by
  induction hacts with
  | refl => exact ⟨le_rfl, h⟩
  | tail _ hact ih => exact (ih.2.act hact).imp_left ih.1.trans

theorem Past.step (h : Past w) (e : Event) : w.clock ≤ (w.step e).clock ∧ Past (w.step e) := by
  by_cases hwork : ∃ n o, e = .work n o
  · obtain ⟨n, o, rfl⟩ := hwork
    simp only [World.step]
    split
    next k _ =>
      cases workMove_workStep w n k o with
      | work k' rest | send a b rest | complete seq q rest => exact h.of_pass rest.pass rest.clock
      | stay same =>
        rw [same]
        exact ⟨le_rfl, h⟩
    next => exact ⟨le_rfl, h⟩
  · cases hroster : rosterEvent e with
    | true =>
      obtain ⟨roster, hstep⟩ := step_rosterEvent hroster (w := w)
      rw [hstep]
      exact h.of_pass rfl le_rfl
    | false => exact h.acts (acts_step w e (fun n o he => hwork ⟨n, o, he⟩) hroster)

/-- An attempt whose send is on its way is suppressed for ten minutes. -/
def Stamped (w : World) : Prop :=
  ∀ n k, w.workers n = some k → k.pos = .fenced ∨ k.pos = .sending →
    k.attempt.suppressUntil ≤ w.clock + 10 * minute

theorem Stamped.step (h : Stamped w) (hpast : Past w) (e : Event) : Stamped (w.step e) := by
  intro n k hk hpos
  have hclock : w.clock + 10 * minute ≤ (w.step e).clock + 10 * minute :=
    Int.add_le_add_right (hpast.step e).1 _
  by_cases hwork : ∃ m o, e = .work m o
  · obtain ⟨m, o, rfl⟩ := hwork
    refine le_trans ?_ hclock
    cases hm : w.workers m with
    | none =>
      have hstep : w.step (.work m o) = w := by simp only [World.step, hm]
      rw [hstep] at hk
      exact h n k hk hpos
    | some c =>
      have hstep : w.step (.work m o) = w.workStep m c o := by simp only [World.step, hm]
      rw [hstep] at hk
      have hmove := workMove_workStep w m c o
      by_cases hn : n = m
      · subst hn
        cases hmove with
        | work c' rest workers hwork slots =>
          rw [workers, update_self] at hk
          obtain rfl := some.inj hk
          exact (hwork.fenced (hpos.resolve_right hwork.noSend)).le
        | send a b rest hfenced workers =>
          rw [workers, update_self] at hk
          obtain rfl := some.inj hk
          exact h n c hm (.inl hfenced)
        | complete seq q rest hverified workers =>
          rw [workers, update_self] at hk
          obtain rfl := some.inj hk
          simp at hpos
        | stay same => exact h n k (same ▸ hk) hpos
      · exact h n k (workers_of_workMove hmove hn ▸ hk) hpos
  · rcases worker_of_step (fun m o he => hwork ⟨m, o, he⟩) hk with hold | hbegin
    · exact (h n k hold hpos).trans hclock
    · simp [hbegin] at hpos

section Runs

variable (now : Time) (events : Nat → Event)

theorem past_worldAt (k : Nat) : Past (worldAt now events k) := by
  induction k with
  | zero =>
    intro p hp
    cases hp
  | succ k ih => exact (ih.step (events k)).2

theorem stamped_worldAt (k : Nat) : Stamped (worldAt now events k) := by
  induction k with
  | zero =>
    intro n k hk
    cases hk
  | succ k ih => exact ih.step (past_worldAt now events k) (events k)

theorem clock_mono {a b : Nat} (hab : a ≤ b) :
    (worldAt now events a).clock ≤ (worldAt now events b).clock := by
  induction b, hab using Nat.le_induction with
  | base => exact le_rfl
  | succ b _ ih => exact ih.trans ((past_worldAt now events b).step (events b)).1

end Runs

/-- The failing POST may have gone out; a recovery verifies it, and the window waits for its backoff
only. -/
def recoveredSend : List Event :=
  lazyTwice.take 12 ++
    [.work 0 (.error false), .work 0 .ok, .release, .closePass, .elapse 3000000000 0,
      .openPass true, .readStore, .recoverChecked 1 true, .readBindings, .readAttempt 1,
      .recover true, .work 1 .ok, .work 1 (.quota (lazyQuota (hour + 3 * second))), .work 1 .ok,
      .release, .closePass, .elapse 300000000000 0] ++
    duePass 2 (hour + 3 * second + 5 * minute)

end QuotaScheduler.ProbeSuppression

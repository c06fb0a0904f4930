/- Calls of the probe that find another run active (refresh.go, probe_runtime.go). -/

import QuotaScheduler.RefreshLoop

namespace QuotaScheduler.ProbeRerun

open ProbeState RefreshLoop Lib.Runs Option Bool

inductive RoundEnd
  | recoveryFailed
  | dueFailed
  | owned
  | declined
  deriving DecidableEq

/-- Before the recovery's lock, before its check, in the recovery, before the due call, in it, or
before `finishProbeLaunch`. -/
inductive Phase
  | recover
  | entering
  | recovering
  | due
  | passing
  | finish (ended : RoundEnd)
  deriving DecidableEq

structure Launch where
  generation : Nat
  phase : Phase

inductive Owner
  | launch
  | caller

/-- The refresher, its retry generation, the holder of `probeRunMu`, the launch, and if a call was
turned away. -/
structure World where
  r : QuotaRefresher
  probeRetryGeneration : Nat := 0
  probeRunMu : Option Owner := none
  launch : Option Launch := none
  wanted : Bool := false

def Phase.dueAhead : Phase → Bool
  | .recover | .entering | .recovering | .due => true
  | .passing | .finish _ => false

def Phase.next (err rerun : Bool) : Phase → Phase
  | .recovering => if err then .finish .recoveryFailed else if rerun then .recovering else .due
  | .passing => if err then .finish .dueFailed else if rerun then .passing else .finish .owned
  | phase => phase

namespace World

variable (w : World)

def initial (r : QuotaRefresher) : World where
  r := { r with
    settings := { r.settings with enableResetProbe := true }
    stopping := false
    probeLaunchActive := false
    probeRerunPending := false
    probeRecoveryPending := false
    probeOwnerRetryPending := false
    probeRetryAt := Time.zero }

def admissionCurrent (generation : Nat) : Bool :=
  decide (w.probeRetryGeneration = generation) && !w.r.probeOwnerRetryPending

def publishProbeRetry (now : Nat) (owner : Bool) : World :=
  { w with
    probeRetryGeneration := w.probeRetryGeneration + 1
    r := { w.r with
      probeRetryAt := now + probeBackoff 1
      probeOwnerRetryPending := w.r.probeOwnerRetryPending || owner } }

def finishProbeOwnerError (now : Nat) : World :=
  let v := w.publishProbeRetry now true
  { v with r := { v.r with probeRecoveryPending := true, probeRerunPending := false }
           probeRunMu := none }

def askRerun : World := { w with r := { w.r with probeRerunPending := true }, wanted := true }

def startPass (o : Owner) : World :=
  { w with r := { w.r with probeRerunPending := false }, probeRunMu := some o, wanted := false }

def endPass (o : Owner) (err : Bool) (now : Nat) : World :=
  if err then w.finishProbeOwnerError now
  else if w.r.probeRerunPending then w.startPass o
  else { w with probeRunMu := none }

def launchProbeWithAdmission (recoverFirst timerAdmission : Bool) (now : Nat) : World :=
  let r := w.r.launchProbeWithAdmission recoverFirst timerAdmission now
  if w.r.probeLaunchActive then
    { w with r := r, wanted := true }
  else if r.probeLaunchActive then
    { w with
      r := r
      launch := some ⟨w.probeRetryGeneration,
        if recoverFirst || w.r.probeRecoveryPending then .recover else .due⟩ }
  else { w with r := r }

def runProbeDueOnce : World :=
  if w.probeRunMu.isSome then w.askRerun else w.startPass .caller

def runProbeRecoveryOnce : World :=
  if w.probeRunMu.isSome then w else { w with probeRunMu := some .caller }

def ownerEnds (err : Bool) (now : Nat) : World :=
  match w.probeRunMu with
  | none => w
  | some .caller => w.endPass .caller err now
  | some .launch =>
    match w.launch with
    | none => w
    | some l =>
      if l.phase = .entering then w
      else { w.endPass .launch err now with
        launch := some { l with phase := l.phase.next err w.r.probeRerunPending } }

def finishProbeLaunch (l : Launch) (ended : RoundEnd) (nonterminal checkErr : Bool) (now : Nat) :
    World :=
  let owned := decide (ended = .owned)
  let recoveryRequired := decide (ended = .dueFailed) || owned && (nonterminal || checkErr)
  let failed := decide (ended = .recoveryFailed) || recoveryRequired
  let recoveryPending := w.r.probeRecoveryPending || failed
  if failed || !w.admissionCurrent l.generation then
    let v := if failed && w.admissionCurrent l.generation then w.publishProbeRetry now false else w
    { v with
      launch := none
      r := { v.r with
        probeRecoveryPending := recoveryPending
        probeRerunPending := false
        probeLaunchActive := false } }
  else if w.r.probeRerunPending && (owned || w.probeRunMu.isNone) then
    { w with
      launch := some { l with phase := if recoveryPending then .recover else .due }
      r := { w.r with
        probeRetryAt := Time.zero
        probeRecoveryPending := false
        probeRerunPending := false } }
  else
    { w with
      launch := none
      r := { w.r with probeRetryAt := Time.zero, probeLaunchActive := false } }

def launchStep (nonterminal checkErr : Bool) (now : Nat) : World :=
  match w.launch with
  | none => w
  | some l =>
    match l.phase with
    | .recover =>
      if w.probeRunMu.isSome then w
      else { w with probeRunMu := some .launch, launch := some { l with phase := .entering } }
    | .entering =>
      if w.admissionCurrent l.generation then
        { w with launch := some { l with phase := .recovering } }
      else
        { w with probeRunMu := none, launch := some { l with phase := .finish .declined } }
    | .recovering | .passing => w
    | .due =>
      if w.probeRunMu.isSome then
        { w.askRerun with launch := some { l with phase := .finish .declined } }
      else if w.admissionCurrent l.generation then
        { w.startPass .launch with launch := some { l with phase := .passing } }
      else { w with launch := some { l with phase := .finish .declined } }
    | .finish ended => w.finishProbeLaunch l ended nonterminal checkErr now

inductive Event
  | launch (recoverFirst timerAdmission : Bool) (now : Nat)
  | due
  | recovery
  | ownerEnds (err : Bool) (now : Nat)
  | launchStep (nonterminal checkErr : Bool) (now : Nat)

def step (w : World) : Event → World
  | .launch recoverFirst timerAdmission now =>
    w.launchProbeWithAdmission recoverFirst timerAdmission now
  | .due => w.runProbeDueOnce
  | .recovery => w.runProbeRecoveryOnce
  | .ownerEnds err now => w.ownerEnds err now
  | .launchStep nonterminal checkErr now => w.launchStep nonterminal checkErr now

end World

open World

/-- The call is still asked for, taken up by the launch, or waits for a retry. -/
inductive Answered (w : World) : Prop
  | rerun (pending : w.r.probeRerunPending = true)
  | ahead (l : Launch) (active : w.launch = some l) (due : l.phase.dueAhead = true)
  | retry (at_ : w.r.probeRetryAt ≠ Time.zero)
      (stale : ∀ l, w.launch = some l → w.admissionCurrent l.generation = false)

structure Kept (w : World) : Prop where
  enabled : w.r.settings.enableResetProbe = true ∧ w.r.stopping = false
  active : w.r.probeLaunchActive = w.launch.isSome
  held : w.r.probeRerunPending = true → w.launch.isSome = true ∨ w.probeRunMu.isSome = true
  owner : w.r.probeOwnerRetryPending = true → w.r.probeRetryAt ≠ .zero
  newer : ∀ l, w.launch = some l → w.admissionCurrent l.generation = false →
    w.r.probeRetryAt ≠ .zero
  answered : w.wanted = true → Answered w

variable {w : World} {l : Launch} {p : Phase} {now : Nat}

theorem retryAt_publishProbeRetry (w : World) (now : Nat) (owner : Bool) :
    (w.publishProbeRetry now owner).r.probeRetryAt ≠ .zero := by
  have hbackoff : (0 : Int) < probeBackoff 1 := by decide
  change (now : Int) + probeBackoff 1 ≠ 0
  omega

theorem kept_initial (r : QuotaRefresher) : Kept (initial r) where
  enabled := ⟨rfl, rfl⟩
  active := rfl
  held h := by cases h
  owner h := by cases h
  newer _ h := by cases h
  answered h := by cases h

theorem Kept.setMu (h : Kept w) {mu : Option Owner}
    (hmu : w.r.probeRerunPending = true → w.launch.isSome = true ∨ mu.isSome = true) :
    Kept { w with probeRunMu := mu } where
  enabled := h.enabled
  active := h.active
  held := hmu
  owner := h.owner
  newer := h.newer
  answered hw := by
    cases h.answered hw with
    | rerun pending => exact .rerun pending
    | ahead l active due => exact .ahead l active due
    | retry at_ stale => exact .retry at_ stale

theorem Kept.askRerun (h : Kept w) (hheld : w.probeRunMu.isSome = true) : Kept w.askRerun where
  enabled := h.enabled
  active := h.active
  held _ := .inr hheld
  owner := h.owner
  newer := h.newer
  answered _ := .rerun rfl

theorem Kept.startPass (h : Kept w) (o : Owner) : Kept (w.startPass o) where
  enabled := h.enabled
  active := h.active
  held hp := by cases hp
  owner := h.owner
  newer := h.newer
  answered hw := by cases hw

theorem Kept.finishProbeOwnerError (h : Kept w) (now : Nat) :
    Kept (w.finishProbeOwnerError now) where
  enabled := h.enabled
  active := h.active
  held hp := by cases hp
  owner _ := retryAt_publishProbeRetry w now true
  newer _ _ _ := retryAt_publishProbeRetry w now true
  answered _ := .retry (retryAt_publishProbeRetry w now true) fun l _ => by
    simp [admissionCurrent, World.finishProbeOwnerError, publishProbeRetry]

theorem Kept.endPass (h : Kept w) (o : Owner) (err : Bool) (now : Nat) :
    Kept (w.endPass o err now) := by
  unfold World.endPass
  split
  · exact h.finishProbeOwnerError now
  · split
    · exact h.startPass o
    · next hrerun => exact h.setMu fun hp => absurd hp hrerun

theorem Kept.setPhase (h : Kept w) (hl : w.launch = some l)
    (hp : w.wanted = true → Answered { w with launch := some { l with phase := p } }) :
    Kept { w with launch := some { l with phase := p } } where
  enabled := h.enabled
  active := by simp [h.active, hl]
  held _ := .inl rfl
  owner := h.owner
  newer l' hl' hstale := by
    obtain rfl := some.inj hl'
    exact h.newer l hl hstale
  answered := hp

theorem Kept.answered_setPhase (h : Kept w) (hl : w.launch = some l)
    (hp : l.phase.dueAhead = true → p.dueAhead = true ∨ w.admissionCurrent l.generation = false)
    (hw : w.wanted = true) : Answered { w with launch := some { l with phase := p } } := by
  have hretry : w.r.probeRetryAt ≠ .zero → w.admissionCurrent l.generation = false →
      Answered { w with launch := some { l with phase := p } } := by
    intro hat hstale
    refine .retry hat fun l' hl' => ?_
    obtain rfl := some.inj hl'
    exact hstale
  cases h.answered hw with
  | rerun pending => exact .rerun pending
  | ahead l' active due =>
    obtain rfl := some.inj (hl.symm.trans active)
    rcases hp due with hahead | hgone
    · exact .ahead _ rfl hahead
    · exact hretry (h.newer l hl hgone) hgone
  | retry at_ stale => exact hretry at_ (stale l hl)

theorem Kept.launchProbeWithAdmission (h : Kept w) (recoverFirst timerAdmission : Bool)
    (now : Nat) : Kept (w.launchProbeWithAdmission recoverFirst timerAdmission now) := by
  have hguard : ¬ (!w.r.settings.enableResetProbe || w.r.stopping) = true := by simp [h.enabled]
  unfold World.launchProbeWithAdmission QuotaRefresher.launchProbeWithAdmission
  rw [if_neg hguard]
  by_cases hactive : w.r.probeLaunchActive = true
  · rw [if_pos hactive]
    rw [if_pos hactive]
    exact ⟨h.enabled, h.active, fun _ => .inl (h.active ▸ hactive), h.owner, h.newer,
      fun _ => .rerun rfl⟩
  · rw [if_neg hactive]
    dsimp only
    rw [if_neg hactive]
    split
    · -- the launch leaves its request to the retry
      refine ⟨h.enabled, h.active, h.held, h.owner, h.newer, fun hw => ?_⟩
      cases h.answered hw with
      | rerun pending => exact .rerun pending
      | ahead l active due => exact .ahead l active due
      | retry at_ stale => exact .retry at_ stale
    · rw [if_pos rfl]
      have howner : (w.r.probeOwnerRetryPending && !(timerAdmission &&
          (!w.r.probeRetryAt.isZero && !Time.before now w.r.probeRetryAt))) = true →
          w.r.probeRetryAt ≠ .zero := by
        intro hpending
        exact h.owner (and_eq_true_iff.1 hpending).1
      refine ⟨h.enabled, rfl, fun _ => .inl rfl, howner, fun l hl hstale => ?_, fun _ => ?_⟩
      · obtain rfl := some.inj hl
        refine howner ?_
        simpa only [admissionCurrent, decide_true, Bool.true_and, not_eq_false'] using hstale
      · refine .ahead _ rfl ?_
        split <;> rfl

theorem Kept.ownerEnds (h : Kept w) (err : Bool) (now : Nat) : Kept (w.ownerEnds err now) := by
  unfold World.ownerEnds
  split
  · exact h
  · exact h.endPass .caller err now
  · split
    · exact h
    · next l hl =>
      split
      · exact h
      · next hentering =>
        have hend := h.endPass .launch err now
        have hlaunch : (w.endPass .launch err now).launch = some l := by
          unfold World.endPass
          split
          · exact hl
          · split <;> exact hl
        refine hend.setPhase hlaunch (hend.answered_setPhase hlaunch fun hahead => ?_)
        cases err with
        | true =>
          exact .inr (by simp [admissionCurrent, World.endPass, World.finishProbeOwnerError,
            publishProbeRetry])
        | false =>
          refine .inl ?_
          cases hphase : l.phase with
          | recovering => cases w.r.probeRerunPending <;> rfl
          | recover | entering | due => rfl
          | passing | finish => simp [hphase, Phase.dueAhead] at hahead

theorem Kept.finishProbeLaunch (h : Kept w) {ended : RoundEnd} (hl : w.launch = some l)
    (hphase : l.phase = .finish ended) (nonterminal checkErr : Bool) (now : Nat) :
    Kept (w.finishProbeLaunch l ended nonterminal checkErr now) := by
  unfold World.finishProbeLaunch
  dsimp only
  generalize (decide (ended = .recoveryFailed) || (decide (ended = .dueFailed) ||
    decide (ended = .owned) && (nonterminal || checkErr))) = failed
  cases hcurrent : w.admissionCurrent l.generation with
  | false =>
    have hretry := h.newer l hl hcurrent
    simp only [Bool.not_false, Bool.or_true, if_true, Bool.and_false, false_eq_true, if_false]
    exact ⟨h.enabled, rfl, (fun hp => by cases hp), h.owner, (fun l hl => by cases hl),
      fun _ => .retry hretry fun l hl => by cases hl⟩
  | true =>
    cases failed with
    | true =>
      exact ⟨h.enabled, rfl, (fun hp => by cases hp),
        fun _ => retryAt_publishProbeRetry w now false,
        (fun l hl => by cases hl),
        fun _ => .retry (retryAt_publishProbeRetry w now false) fun l hl => by cases hl⟩
    | false =>
      obtain ⟨hgeneration, howner⟩ : w.probeRetryGeneration = l.generation ∧
          w.r.probeOwnerRetryPending = false := by simpa [admissionCurrent] using hcurrent
      -- nothing but the flag can answer a call now
      have hpending : w.wanted = true → w.r.probeRerunPending = true := by
        intro hw
        cases h.answered hw with
        | rerun pending => exact pending
        | ahead l' active due =>
          obtain rfl := some.inj (hl.symm.trans active)
          simp [hphase, Phase.dueAhead] at due
        | retry at_ stale =>
          rw [stale l hl] at hcurrent
          cases hcurrent
      simp only [Bool.not_true, Bool.or_self, false_eq_true, if_false]
      split
      · refine ⟨h.enabled, ?_, fun _ => .inl rfl, fun hp => ?_,
          fun l' hl' hstale => ?_, fun _ => ?_⟩
        · simp [h.active, hl]
        · simp [howner] at hp
        · obtain rfl := some.inj hl'
          simp [admissionCurrent, hgeneration, howner] at hstale
        · refine .ahead _ rfl ?_
          split <;> rfl
      · next hrest =>
        have hheld : w.r.probeRerunPending = true → w.probeRunMu.isSome = true := by
          intro hp
          cases hmu : w.probeRunMu with
          | none => simp [hp, hmu] at hrest
          | some o => rfl
        exact ⟨h.enabled, rfl, fun hp => .inr (hheld hp), (fun hp => by simp [howner] at hp),
          (fun l hl => by cases hl), fun hw => .rerun (hpending hw)⟩

theorem Kept.launchStep (h : Kept w) (nonterminal checkErr : Bool) (now : Nat) :
    Kept (w.launchStep nonterminal checkErr now) := by
  unfold World.launchStep
  split
  · exact h
  · next l hl =>
    have hstop : w.admissionCurrent l.generation = false →
        Kept { w with launch := some { l with phase := .finish .declined } } :=
      fun hstale => h.setPhase hl (h.answered_setPhase hl fun _ => .inr hstale)
    split
    · split
      · exact h
      · have hlock : Kept { w with probeRunMu := some .launch } := h.setMu fun _ => .inr rfl
        exact hlock.setPhase hl (hlock.answered_setPhase hl fun _ => .inl rfl)
    · split
      · exact h.setPhase hl (h.answered_setPhase hl fun _ => .inl rfl)
      · next hstale => exact (hstop (eq_false_iff.2 hstale)).setMu fun _ => .inl rfl
    · exact h
    · exact h
    · split
      · next hheld => exact (h.askRerun hheld).setPhase hl fun _ => .rerun rfl
      · split
        · exact (h.startPass .launch).setPhase hl fun hw => by cases hw
        · next hstale => exact hstop (eq_false_iff.2 hstale)
    · next ended hphase => exact h.finishProbeLaunch hl hphase nonterminal checkErr now

theorem Kept.step (h : Kept w) (e : World.Event) : Kept (w.step e) := by
  cases e with
  | launch recoverFirst timerAdmission now =>
    exact h.launchProbeWithAdmission recoverFirst timerAdmission now
  | due =>
    simp only [World.step, runProbeDueOnce]
    split
    · next hheld => exact h.askRerun hheld
    · exact h.startPass .caller
  | recovery =>
    simp only [World.step, runProbeRecoveryOnce]
    split
    · exact h
    · exact h.setMu fun _ => .inr rfl
  | ownerEnds err now => exact h.ownerEnds err now
  | launchStep nonterminal checkErr now => exact h.launchStep nonterminal checkErr now

/-- The flag is set and will be read, a retry is scheduled, or the launch has its due call to make.
-/
def NotLost (w : World) : Prop :=
  w.r.probeRerunPending = true ∧ (w.r.probeLaunchActive = true ∨ w.probeRunMu.isSome = true) ∨
    w.r.probeRetryAt ≠ Time.zero ∨ ∃ l, w.launch = some l ∧ l.phase.dueAhead = true

/-- Along every interleaving, a call that found another run active is not lost. -/
theorem rerun_is_not_lost (r : QuotaRefresher) (events : Nat → World.Event) (k : Nat)
    (hwanted : (stateAt World.step (initial r) events k).wanted = true) :
    NotLost (stateAt World.step (initial r) events k) := by
  have hkept : Kept (stateAt .step (initial r) events k) :=
    invariant_stateAt (kept_initial r) (fun _ e h => h.step e) k
  cases hkept.answered hwanted with
  | rerun pending => exact .inl ⟨pending, hkept.active ▸ hkept.held pending⟩
  | ahead l active due => exact .inr (.inr ⟨l, active, due⟩)
  | retry at_ _ => exact .inr (.inl at_)

/-- A second launch comes when the first one's due call has ended, and that finishes. -/
def secondLaunch : List World.Event :=
  [.launch false false 5, .launchStep false false 5, .ownerEnds false 5, .launch false false 6,
    .launchStep false false 7]

theorem secondLaunch_is_not_lost :
    NotLost (stateAt World.step (initial plainRefresher) (script .recovery secondLaunch) 4) :=
  rerun_is_not_lost plainRefresher (script .recovery secondLaunch) 4 (by decide +kernel)

theorem secondLaunch_taken_over :
    let w := secondLaunch.foldl World.step (initial plainRefresher)
    w.wanted = true ∧ w.r.probeRerunPending = false ∧ w.r.probeRetryAt = Time.zero ∧
      w.launch.map (·.phase) = some .due := by
  decide +kernel

end QuotaScheduler.ProbeRerun

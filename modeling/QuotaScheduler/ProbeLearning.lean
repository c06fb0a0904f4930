/- The baseline of a window over a whole history of snapshots. -/

import QuotaScheduler.ProbeClassify
import QuotaScheduler.Lib.Runs

namespace QuotaScheduler.ProbeLearning

open ProbeClassify Lib.Runs

variable {base : ProbeBaseline} {snap : QuotaSnapshot} {now : Time} {cl : ProbeClassification}

structure Unlearned (b : ProbeBaseline) : Prop where
  kind : b.kind ≠ .reset
  length : b.windowLength = 0
  candidate : b.candidateLength = 0

inductive Classified (base : ProbeBaseline) (snap : QuotaSnapshot) : ProbeClassification → Prop
  | kept (kind : ProbeClassificationKind) (old : kind ≠ .activatedNew) :
      Classified base snap ⟨kind, base⟩
  | recheck (kind : ProbeClassificationKind) (b : ProbeBaseline) (old : kind ≠ .activatedNew)
      (before : base.kind ≠ .reset) (suspected : b.suspectedLazy = false)
      (unlearned : Unlearned base → Unlearned b) : Classified base snap ⟨kind, b⟩
  | first (kind : ProbeClassificationKind) (reset : Time) (usage : Float64)
      (old : kind ≠ .activatedNew) (before : base.kind ≠ .reset) :
      Classified base snap ⟨kind, firstResetBaseline snap reset usage⟩
  | inferred (usage : Float64) (before : base.kind = .reset) : Classified base snap
      ⟨.activatedInferred, { base with usage := usage, suspectedLazy := false }⟩
  | activated (reset : Time) (usage : Float64) (before : base.kind = .reset)
      (later : base.resetAt + probeSkewTolerance < reset)
      (credible : base.windowLength = 0 → reset - base.resetAt ≤ probeMaxPlausibleWindow) :
      Classified base snap
      ⟨.activatedNew,
        learnLength { base with resetAt := reset, usage := usage, suspectedLazy := false }
          (reset - base.resetAt)⟩

/-- An interval a length is learned from is too short for `Time.Sub` to saturate. -/
theorem sub_of_credible {reset : Time} (hcredible : implausibleReset base reset = false)
    (hlater : base.resetAt + probeSkewTolerance < reset) (hlength : base.windowLength = 0) :
    reset.sub base.resetAt = reset - base.resetAt ∧
      reset - base.resetAt ≤ probeMaxPlausibleWindow := by
  simp only [implausibleReset, hlength, Bool.or_eq_false_iff, Bool.and_eq_false_imp,
    decide_eq_true_eq, decide_eq_false_iff_not, forall_const] at hcredible
  obtain ⟨-, hcredible⟩ := hcredible
  simp only [Time.sub, probeMaxPlausibleWindow, probeSkewTolerance, minDuration, maxDuration, hour,
    minute, second, Time, Duration] at *
  split_ifs at hcredible ⊢ <;> omega

theorem learnLength_of_known {b : ProbeBaseline} (h : b.windowLength ≠ 0) (delta : Duration) :
    learnLength b delta = b := if_neg h

theorem classified_matured {resetAt : Option Time} {usage : Float64} (hkind : base.kind = .reset) :
    Classified base snap (classifyMatured base resetAt usage now) := by
  unfold classifyMatured
  split
  · exact .kept _ (by decide)
  · split
    · split
      · exact .inferred usage hkind
      · exact .kept _ (by decide)
    · split <;> exact .kept _ (by decide)

theorem classified_firstReset {reset : Time} {usage : Float64} (hkind : base.kind ≠ .reset) :
    Classified base snap (classifyFirstReset snap reset usage now) := by
  refine .first _ reset usage ?_ hkind
  split <;> decide

theorem classified_classifyProbeWindow (hlazy : base.suspectedLazy = false) :
    Classified base snap (classifyProbeWindow base snap now) := by
  unfold classifyProbeWindow
  split
  · next usage _ _ =>
    rw [hlazy, if_neg Bool.false_ne_true]
    dsimp only
    split
    · next hkind =>
      have hbefore : base.kind ≠ .reset := by simp [hkind]
      split
      · exact .recheck _ _ (by decide) hbefore rfl fun _ =>
          ⟨ProbeBaselineKind.noConfusion, rfl, rfl⟩
      · exact classified_firstReset hbefore
    · next hkind =>
      have hbefore : base.kind ≠ .reset := by simp [hkind]
      unfold classifyUsageOnly
      split
      · exact classified_firstReset hbefore
      · split
        · exact .recheck _ _ (by decide) hbefore rfl fun h => ⟨h.kind, h.length, h.candidate⟩
        · split
          · exact .kept _ (by decide)
          · exact .recheck _ _ (by decide) hbefore hlazy fun h => ⟨h.kind, h.length, h.candidate⟩
    · next hkind =>
      unfold classifyReset
      split
      · next reset _ =>
        split
        · exact .kept _ (by decide)
        · next hcredible =>
          have hcredible := Bool.eq_false_iff.mpr hcredible
          split
          · next hlater =>
            have hlater := of_decide_eq_true hlater
            have hlearn : Classified base snap _ := .activated reset usage hkind hlater
              fun hlength => (sub_of_credible hcredible hlater hlength).2
            by_cases hlength : base.windowLength = 0
            · rwa [(sub_of_credible hcredible hlater hlength).1]
            · rw [learnLength_of_known (by exact hlength)] at hlearn ⊢
              exact hlearn
          · exact classified_matured hkind
      · exact classified_matured hkind
  · exact .kept _ (by decide)

theorem learnLength_fields (b : ProbeBaseline) (delta : Duration) :
    (learnLength b delta).kind = b.kind ∧ (learnLength b delta).resetAt = b.resetAt ∧
      (learnLength b delta).suspectedLazy = b.suspectedLazy := by
  unfold learnLength
  split
  · split <;> exact ⟨rfl, rfl, rfl⟩
  · exact ⟨rfl, rfl, rfl⟩

theorem learnLength_cases (b : ProbeBaseline) (delta : Duration) :
    (b.windowLength = 0 ∧ 0 < b.candidateLength ∧
      absDuration (b.candidateLength - delta) ≤ probeSkewTolerance ∧
      (1 ≤ b.stableIntervals → (learnLength b delta).windowLength = delta)) ∨
    ((learnLength b delta).windowLength = b.windowLength ∧ (b.windowLength = 0 →
      (learnLength b delta).candidateLength = delta ∧
        (learnLength b delta).stableIntervals = 1)) := by
  unfold learnLength
  split
  · next hunknown =>
    split
    · next hagree =>
      exact .inl ⟨hunknown, hagree.1, hagree.2, fun hone => if_pos (Nat.succ_le_succ hone)⟩
    · exact .inr ⟨rfl, fun _ => ⟨rfl, rfl⟩⟩
  · next hknown => exact .inr ⟨rfl, fun h => absurd h hknown⟩

theorem Classified.suspectedLazy (h : Classified base snap cl)
    (hlazy : base.suspectedLazy = false) :
    cl.baseline.suspectedLazy = false := by
  cases h with
  | kept => exact hlazy
  | recheck kind b old before suspected unlearned => exact suspected
  | first | inferred => rfl
  | activated => rw [(learnLength_fields _ _).2.2]

theorem Classified.reset (h : Classified base snap cl) (hkind : base.kind = .reset) :
    cl.baseline.kind = .reset ∧ base.resetAt ≤ cl.baseline.resetAt := by
  cases h with
  | kept | inferred => exact ⟨hkind, le_rfl⟩
  | recheck kind b old before | first kind reset usage old before => exact absurd hkind before
  | activated reset usage before later credible =>
    rw [(learnLength_fields _ _).1, (learnLength_fields _ _).2.1]
    have hskew : (0 : Duration) < probeSkewTolerance := by decide
    exact ⟨hkind, ((Int.le_add_of_nonneg_right hskew.le).trans_lt later).le⟩

def baselineAt (history : Nat → QuotaSnapshot × Time) (n : Nat) : ProbeBaseline :=
  stateAt (fun b s => (classifyProbeWindow b s.1 s.2).baseline) {} history n

def verdictAt (history : Nat → QuotaSnapshot × Time) (n : Nat) : ProbeClassification :=
  classifyProbeWindow (baselineAt history n) (history n).1 (history n).2

def intervalAt (history : Nat → QuotaSnapshot × Time) (n : Nat) : Duration :=
  (baselineAt history (n + 1)).resetAt - (baselineAt history n).resetAt

def LastActivated (history : Nat → QuotaSnapshot × Time) (m n : Nat) : Prop :=
  m < n ∧ (verdictAt history m).kind = .activatedNew ∧
    ∀ j, m < j → j < n → (verdictAt history j).kind ≠ .activatedNew

/-- Snapshot `n` gives the baseline its first reset time, and supplies the length. -/
def LengthSupplied (history : Nat → QuotaSnapshot × Time) (n : Nat) : Prop :=
  (baselineAt history n).kind ≠ .reset ∧ (history n).1.windowLengthKnown = true ∧
    (baselineAt history (n + 1)).windowLength = (history n).1.windowLength

/-- Step `n` is activated-new, and agrees with the activated-new step before it. -/
def LengthLearned (history : Nat → QuotaSnapshot × Time) (n : Nat) : Prop :=
  (verdictAt history n).kind = .activatedNew ∧ ∃ m, LastActivated history m n ∧
    |intervalAt history m - intervalAt history n| ≤ probeSkewTolerance ∧
    (baselineAt history (n + 1)).windowLength = intervalAt history n

variable {history : Nat → QuotaSnapshot × Time}

theorem classified_verdictAt (history : Nat → QuotaSnapshot × Time) (n : Nat) :
    (baselineAt history n).suspectedLazy = false ∧
      Classified (baselineAt history n) (history n).1 (verdictAt history n) := by
  have hlazy : ∀ n, (baselineAt history n).suspectedLazy = false := by
    intro n
    refine invariant_stateAt (P := fun b : ProbeBaseline => b.suspectedLazy = false) rfl
      (fun b s hb => ?_) n
    exact (classified_classifyProbeWindow hb).suspectedLazy hb
  exact ⟨hlazy n, classified_classifyProbeWindow (hlazy n)⟩

/-- While the length is unknown, the candidate is the last activated-new interval. -/
def Candidate (history : Nat → QuotaSnapshot × Time) (n : Nat) (b : ProbeBaseline) : Prop :=
  b.windowLength = 0 → 0 < b.candidateLength → 1 ≤ b.stableIntervals ∧
    ∃ m, LastActivated history m n ∧ b.candidateLength = intervalAt history m

structure Learning (history : Nat → QuotaSnapshot × Time) (n : Nat) : Prop where
  before : (baselineAt history n).kind ≠ .reset → Unlearned (baselineAt history n)
  candidate : Candidate history n (baselineAt history n)

theorem LastActivated.succ {m n : Nat} (h : LastActivated history m n)
    (hn : (verdictAt history n).kind ≠ .activatedNew) : LastActivated history m (n + 1) := by
  refine ⟨Nat.lt_succ_of_lt h.1, h.2.1, fun j hmj hj => ?_⟩
  rcases Nat.lt_succ_iff_lt_or_eq.1 hj with hj | rfl
  · exact h.2.2 j hmj hj
  · exact hn

theorem Candidate.succ {n : Nat} {b : ProbeBaseline} (h : Candidate history n b)
    (hn : (verdictAt history n).kind ≠ .activatedNew) : Candidate history (n + 1) b := by
  intro hzero hpos
  obtain ⟨hone, m, hm, hinterval⟩ := h hzero hpos
  exact ⟨hone, m, hm.succ hn, hinterval⟩

theorem learning_succ {n : Nat} (h : Learning history n) : Learning history (n + 1) := by
  have hnext : baselineAt history (n + 1) = (verdictAt history n).baseline := rfl
  have hcandidate := h.candidate.succ
  obtain ⟨-, hstep⟩ := classified_verdictAt history n
  cases hv : verdictAt history n with | mk kind b =>
  rw [hv] at hstep hnext hcandidate
  cases hstep with
  | kept _ old => exact ⟨by rw [hnext]; exact h.before, by rw [hnext]; exact hcandidate old⟩
  | recheck _ _ old before suspected unlearned =>
    have hb := unlearned (h.before before)
    refine ⟨fun _ => hnext ▸ hb, fun _ hpos => ?_⟩
    rw [hnext, hb.candidate] at hpos
    exact absurd hpos (lt_irrefl 0)
  | first _ reset usage old before =>
    refine ⟨fun hkind => absurd (by rw [hnext]; rfl) hkind, fun _ hpos => ?_⟩
    rw [hnext] at hpos
    exact absurd hpos (lt_irrefl 0)
  | inferred usage before =>
    refine ⟨fun hkind => absurd (by rw [hnext]; exact before) hkind, ?_⟩
    rw [hnext]
    exact hcandidate ProbeClassificationKind.noConfusion
  | activated reset usage before later credible =>
    have hfields := learnLength_fields { baselineAt history n with
      resetAt := reset, usage := usage, suspectedLazy := false }
        (reset - (baselineAt history n).resetAt)
    refine ⟨fun hkind => absurd (by rw [hnext, hfields.1]; exact before) hkind,
      fun hzero hpos => ?_⟩
    have hinterval : intervalAt history n = reset - (baselineAt history n).resetAt := by
      rw [intervalAt, hnext, hfields.2.1]
    have hlast : LastActivated history n (n + 1) :=
      ⟨Nat.lt_succ_self n, by rw [hv], fun j hj hj' => absurd hj' (by omega)⟩
    rw [hnext] at hzero ⊢
    rcases learnLength_cases { baselineAt history n with
        resetAt := reset, usage := usage, suspectedLazy := false }
        (reset - (baselineAt history n).resetAt) with
      ⟨hunknown, hcandidate, -, hlength⟩ | ⟨hlength, hnew⟩
    · -- an agreement is the second one, so it fixes the length
      have hskew : (0 : Duration) < probeSkewTolerance := by decide
      rw [hlength (h.candidate hunknown hcandidate).1] at hzero
      simp only [Time, Duration] at *
      omega
    · obtain ⟨hcandidate, hone⟩ := hnew (hlength.symm.trans hzero)
      rw [hcandidate, hone]
      exact ⟨le_rfl, n, hlast, hinterval.symm⟩

theorem learning_all (history : Nat → QuotaSnapshot × Time) (n : Nat) : Learning history n := by
  induction n with
  | zero =>
    exact ⟨fun _ => ⟨ProbeBaselineKind.noConfusion, rfl, rfl⟩,
      fun _ hpos => absurd hpos (lt_irrefl 0)⟩
  | succ n ih => exact learning_succ ih

theorem length_change {n : Nat} (hchange :
    (baselineAt history (n + 1)).windowLength ≠ (baselineAt history n).windowLength) :
    LengthSupplied history n ∨ LengthLearned history n := by
  have hlearning := learning_all history n
  have hnext : baselineAt history (n + 1) = (verdictAt history n).baseline := rfl
  obtain ⟨-, hstep⟩ := classified_verdictAt history n
  cases hv : verdictAt history n with | mk kind b =>
  rw [hv] at hstep hnext
  cases hstep with
  | kept | inferred => exact absurd (by rw [hnext]) hchange
  | recheck _ _ old before suspected unlearned =>
    have hb := hlearning.before before
    exact absurd (by rw [hnext, (unlearned hb).length, hb.length]) hchange
  | first _ reset usage old before =>
    have hb := hlearning.before before
    rw [hnext, hb.length] at hchange
    simp only [firstResetBaseline, resetProbeBaseline] at hchange
    split at hchange
    · next hknown =>
      refine .inl ⟨before, hknown, ?_⟩
      rw [hnext]
      simp only [firstResetBaseline, resetProbeBaseline, hknown, if_true]
    · exact absurd rfl hchange
  | activated reset usage before later credible =>
    have hinterval : intervalAt history n = reset - (baselineAt history n).resetAt := by
      rw [intervalAt, hnext, (learnLength_fields _ _).2.1]
    refine .inr ⟨by rw [hv], ?_⟩
    rw [hnext] at hchange ⊢
    rcases learnLength_cases { baselineAt history n with
        resetAt := reset, usage := usage, suspectedLazy := false }
        (reset - (baselineAt history n).resetAt) with
      ⟨hunknown, hpos, hagree, hlength⟩ | ⟨hlength, -⟩
    · obtain ⟨hone, m, hm, hcandidate⟩ := hlearning.candidate hunknown hpos
      refine ⟨m, hm, ?_, (hlength hone).trans hinterval.symm⟩
      have hshort := credible hunknown
      rw [← hcandidate, hinterval, abs_le]
      simp only [absDuration, probeSkewTolerance, probeMaxPlausibleWindow,
        minDuration, hour, minute,
        second, Time, Duration] at *
      split_ifs at hagree <;> omega
    · exact absurd hlength hchange

/-- A reset does not fall, a result that activates nothing keeps a reset baseline, and a length not
supplied is the interval of two agreeing activations. -/
theorem baseline_laws (history : Nat → QuotaSnapshot × Time) (n : Nat) :
    ((baselineAt history n).kind = .reset → ∀ m, n ≤ m →
      (baselineAt history m).kind = .reset ∧
        (baselineAt history n).resetAt ≤ (baselineAt history m).resetAt) ∧
    ((baselineAt history n).kind = .reset →
      (verdictAt history n).kind ∈ [.anomaly, .stillLazy, .ambiguous, .notDueYet] →
      baselineAt history (n + 1) = baselineAt history n) ∧
    ((baselineAt history (n + 1)).windowLength ≠ (baselineAt history n).windowLength →
      LengthSupplied history n ∨ LengthLearned history n) := by
  refine ⟨fun hkind m hnm => ?_, fun hkind hverdict => ?_, length_change⟩
  · induction m, hnm using Nat.le_induction with
    | base => exact ⟨hkind, le_rfl⟩
    | succ m _ ih =>
      obtain ⟨hreset, hle⟩ := (classified_verdictAt history m).2.reset ih.1
      exact ⟨hreset, ih.2.trans hle⟩
  · have hnext : baselineAt history (n + 1) = (verdictAt history n).baseline := rfl
    obtain ⟨-, hstep⟩ := classified_verdictAt history n
    cases hv : verdictAt history n with | mk kind b =>
    rw [hv] at hstep hnext hverdict
    cases hstep with
    | kept => exact hnext
    | recheck _ _ old before | first _ reset usage old before => exact absurd hkind before
    | inferred | activated => simp at hverdict

end QuotaScheduler.ProbeLearning

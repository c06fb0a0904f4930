/- Trials of one instance without evidence: one at a time, with growing delays between. -/

import QuotaScheduler.Trial
import QuotaScheduler.Lib.Runs

namespace QuotaScheduler.TrialBackoff

open Lib.Runs Trial Option Bool

inductive Operation
  | tryBegin
  | markEvidencePending (pending : Bool)
  | observeRetry
  | advance
  | state
  deriving DecidableEq

structure Call where
  now : Time
  op : Operation
  deriving DecidableEq

def step (id : AuthInstanceID) (r : TrialRegistry) (c : Call) : TrialRegistry :=
  match c.op with
  | .tryBegin => (r.tryBegin id c.now).2
  | .markEvidencePending pending => r.markEvidencePending id pending
  | .observeRetry => r.observeRetry id c.now
  | .advance => r.advance id c.now
  | .state => r

section Notions

variable (id : AuthInstanceID) (calls : Nat → Call)

def registryAt (k : Nat) : TrialRegistry := stateAt (step id) newTrialRegistry calls k

def begins (k : Nat) : Bool :=
  decide ((calls k).op = .tryBegin) && ((registryAt id calls k).tryBegin id (calls k).now).1

def begun : Nat → Nat
  | 0 => 0
  | k + 1 => begun k + if begins id calls k then 1 else 0

structure ActiveAt (i k : Nat) : Prop where
  began : begins id calls i = true
  later : i < k
  active : ∀ m, i < m → m ≤ k → (registryAt id calls m).state id (calls m).now = .active

end Notions

/-- The delay after the trial that `n` others have preceded. -/
def backoffDelay (n : Nat) : Duration := trialDelays.getD (min n 4) 0

theorem backoffDelay_mono {m n : Nat} (h : m ≤ n) : backoffDelay m ≤ backoffDelay n := by
  have hall : ∀ b ≤ 4, ∀ a ≤ b, trialDelays.getD a 0 ≤ trialDelays.getD b 0 := by decide
  exact hall _ (Nat.min_le_right n 4) _ (by omega)

/-- What the cell holds after a trial begun at `t`, when `n` had begun before it. -/
def Since (n : Nat) (t : Time) (cell : Option TrialRecord) : Prop :=
  ∃ v, cell = some v ∧ (v.state = .active ∧ v.began = t ∧ n ≤ v.backoffs ∨
      v.state = .unknown ∧ n < v.backoffs ∧ t + backoffDelay n ≤ v.nextRetry)

variable {id : AuthInstanceID} {calls : Nat → Call} {n i j k : Nat} {t now : Time} {v : TrialRecord}

theorem since_unknownTrial (hn : n ≤ v.backoffs) (ht : t ≤ now) :
    Since n t (some (unknownTrial v now)) := by
  refine ⟨_, rfl, .inr ⟨rfl, Nat.lt_succ_of_le hn, ?_⟩⟩
  exact add_le_add ht (backoffDelay_mono hn)

theorem Since.step {r : TrialRegistry} {c : Call} (h : Since n t (r id)) (ht : t ≤ c.now)
    (hquiet : c.op = .tryBegin → (r.tryBegin id c.now).1 = false) : Since n t (step id r c id) := by
  obtain ⟨v, hv, hstate⟩ := h
  have hn : n ≤ v.backoffs := hstate.elim (·.2.2) (·.2.1.le)
  unfold TrialBackoff.step
  cases hop : c.op with
  | tryBegin =>
    have hrefused := hquiet hop
    unfold TrialRegistry.tryBegin at hrefused ⊢
    cases hbegin : TrialRecord.begin (r id) c.now with
    | none => exact ⟨v, hv, hstate⟩
    | some next => simp [hbegin] at hrefused
  | markEvidencePending pending =>
    refine ⟨{ v with pending := pending }, ?_, hstate⟩
    exact (TrialRegistry.update_self r id _).trans (by rw [hv]; rfl)
  | observeRetry =>
    change Since n t (r.update id (·.retry c.now) id)
    rw [TrialRegistry.update_self, hv, map_some, TrialRecord.retry]
    split
    · exact since_unknownTrial hn ht
    · exact ⟨_, rfl, hstate⟩
  | advance =>
    change Since n t (r.update id (·.advance c.now) id)
    rw [TrialRegistry.update_self, hv, map_some, TrialRecord.advance]
    split
    · exact since_unknownTrial hn ht
    · exact ⟨v, rfl, hstate⟩
  | state => exact ⟨v, hv, hstate⟩

theorem step_none {r : TrialRegistry} {c : Call} (h : r id = none)
    (hquiet : c.op = .tryBegin → (r.tryBegin id c.now).1 = false) : step id r c id = none := by
  unfold TrialBackoff.step
  cases hop : c.op with
  | tryBegin =>
    have hrefused := hquiet hop
    simp [TrialRegistry.tryBegin, TrialRecord.begin, h] at hrefused
  | markEvidencePending | observeRetry | advance =>
    exact (TrialRegistry.update_self r id _).trans (by rw [h]; rfl)
  | state => exact h

theorem begin_some {old : Option TrialRecord} (h : TrialRecord.begin old now = some v) :
    v.state = .active ∧ v.began = now ∧
      (old = none ∨ ∃ u, old = some u ∧ u.state ≠ .active ∧ u.nextRetry ≤ now ∧
        v.backoffs = u.backoffs) := by
  cases old with
  | none =>
    cases h
    exact ⟨rfl, rfl, .inl rfl⟩
  | some u =>
    simp only [TrialRecord.begin, Time.before, or_eq_true, decide_eq_true_eq] at h
    split at h
    · cases h
    · rename_i hfree
      cases h
      obtain ⟨hstate, hretry⟩ := not_or.mp hfree
      exact ⟨rfl, rfl, .inr ⟨u, rfl, hstate, Int.not_lt.mp hretry, rfl⟩⟩

theorem begin_of_begins (h : begins id calls k = true) :
    ∃ v, TrialRecord.begin (registryAt id calls k id) (calls k).now = some v ∧
      registryAt id calls (k + 1) id = some v := by
  simp only [begins, and_eq_true, decide_eq_true_eq, TrialRegistry.tryBegin] at h
  obtain ⟨hop, hbegin⟩ := h
  cases hnext : TrialRecord.begin (registryAt id calls k id) (calls k).now with
  | none => simp [hnext] at hbegin
  | some v =>
    refine ⟨v, rfl, ?_⟩
    change step id (registryAt id calls k) (calls k) id = some v
    simp [step, hop, TrialRegistry.tryBegin, hnext, TrialRegistry.set]

theorem begun_lt (hi : begins id calls i = true) (h : i < k) :
    begun id calls i < begun id calls k := by
  induction k, h using Nat.le_induction with
  | base => simp [begun, hi]
  | succ k _ ih => exact ih.trans_le (Nat.le_add_right _ _)

section Run

variable (htime : ∀ k, (calls k).now ≤ (calls (k + 1)).now)

include htime

theorem since_last (k : Nat) : begun id calls k = 0 ∧ registryAt id calls k id = none ∨
      ∃ i < k, begins id calls i = true ∧ begun id calls k = begun id calls i + 1 ∧
        Since (begun id calls i) (calls i).now (registryAt id calls k id) := by
  induction k with
  | zero => exact .inl ⟨rfl, rfl⟩
  | succ k ih =>
    by_cases hbegins : begins id calls k = true
    · refine .inr ⟨k, Nat.lt_succ_self k, hbegins, by simp [begun, hbegins], ?_⟩
      obtain ⟨v, hbegin, hnext⟩ := begin_of_begins hbegins
      obtain ⟨hstate, hbegan, hold⟩ := begin_some hbegin
      refine ⟨v, hnext, .inl ⟨hstate, hbegan, ?_⟩⟩
      rcases ih with ⟨hzero, -⟩ | ⟨i, -, -, hcount, u, hu, hcell⟩
      · exact hzero.trans_le (Nat.zero_le _)
      · rw [hu] at hold
        rcases hold with hnone | ⟨u', hsame, hidle, -, hbackoffs⟩
        · cases hnone
        · cases hsame
          rcases hcell with ⟨hactive, -⟩ | ⟨-, hlt, -⟩
          · exact absurd hactive hidle
          · rw [hcount, hbackoffs]
            exact hlt
    · have hcount : begun id calls (k + 1) = begun id calls k := by simp [begun, hbegins]
      have hquiet : (calls k).op = .tryBegin →
          ((registryAt id calls k).tryBegin id (calls k).now).1 = false := by
        intro hop
        simpa [begins, hop] using hbegins
      rw [hcount]
      rcases ih with ⟨hzero, hnone⟩ | ⟨i, hik, hi, hsame, hsince⟩
      · exact .inl ⟨hzero, step_none hnone hquiet⟩
      · have hle : (calls i).now ≤ (calls k).now := monotone_nat_of_le_succ htime hik.le
        exact .inr ⟨i, hik.trans (Nat.lt_succ_self k), hi, hsame, hsince.step hle hquiet⟩

theorem since_of_quiet (hi : begins id calls i = true) (hik : i < k)
    (hquiet : ∀ m, i < m → m < k → begins id calls m = false) :
    Since (begun id calls i) (calls i).now (registryAt id calls k id) := by
  have hlt := begun_lt hi hik
  rcases @since_last id calls htime k with ⟨hzero, -⟩ | ⟨m, hmk, hm, hcount, hsince⟩
  · omega
  · rcases Nat.lt_trichotomy i m with him | rfl | hmi
    · exact absurd hm (eq_false_iff.mp (hquiet m him hmk))
    · exact hsince
    · have := begun_lt hm hmi
      omega

end Run

theorem state_eq_active {r : TrialRegistry} (h : r.state id now = .active) :
    ∃ v, r id = some v ∧ v.state = .active := by
  unfold TrialRegistry.state TrialRecord.stateAt at h
  split at h
  · cases h
  · split at h
    · cases h
    · exact ⟨_, ‹_›, h⟩

theorem ActiveAt.quiet {m : Nat} (h : ActiveAt id calls i k) (him : i < m) (hmk : m ≤ k) :
    begins id calls m = false := by
  obtain ⟨v, hv, hactive⟩ := state_eq_active (h.active m him hmk)
  refine eq_false_iff.mpr fun hm => ?_
  obtain ⟨w, hbegin, -⟩ := begin_of_begins hm
  rw [hv] at hbegin
  simp [TrialRecord.begin, hactive] at hbegin

/-- Trials exclude one another, their delays grow, and an `Advance` at the budget ends one. -/
theorem trial_backoff (id : AuthInstanceID) (calls : Nat → Call)
    (htime : ∀ k, (calls k).now ≤ (calls (k + 1)).now) :
    (∀ i j k, ActiveAt id calls i k → ActiveAt id calls j k → i = j) ∧
      (∀ i j, begins id calls i = true → begins id calls j = true →
        begun id calls j = begun id calls i + 1 →
        (calls i).now + backoffDelay (begun id calls i) ≤ (calls j).now) ∧
      ∀ i j k, i < j → j < k → (calls j).op = .advance →
        (calls i).now + trialEvidenceBudget ≤ (calls j).now → ¬ActiveAt id calls i k := by
  refine ⟨?_, ?_, ?_⟩
  · intro i j k hi hj
    rcases Nat.lt_trichotomy i j with hij | hij | hji
    · exact absurd hj.began (eq_false_iff.mp (hi.quiet hij hj.later.le))
    · exact hij
    · exact absurd hi.began (eq_false_iff.mp (hj.quiet hji hi.later.le))
  · intro i j hi hj hnext
    have hij : i < j := by
      by_contra hji
      rcases (Nat.not_lt.mp hji).eq_or_lt with rfl | hlt
      · omega
      · have := begun_lt hj hlt
        omega
    obtain ⟨v, hv, hcell⟩ := since_of_quiet htime hi hij fun m him hmj =>
      eq_false_iff.mpr fun hm => by
        have := begun_lt hi him
        have := begun_lt hm hmj
        omega
    obtain ⟨w, hbegin, -⟩ := begin_of_begins hj
    rcases (begin_some hbegin).2.2 with hnone | ⟨u, hu, hidle, hretry, -⟩
    · cases hv.symm.trans hnone
    · cases some.inj (hv.symm.trans hu)
      rcases hcell with ⟨hactive, -⟩ | ⟨-, -, hdelay⟩
      · exact absurd hactive hidle
      · exact hdelay.trans hretry
  · intro i j k hij hjk hop hbudget h
    obtain ⟨v, hv, hcell⟩ := since_of_quiet htime h.began hij fun m him hmj =>
      h.quiet him (hmj.le.trans hjk.le)
    obtain ⟨u, hu, hactive⟩ := state_eq_active (h.active j hij hjk.le)
    cases some.inj (hv.symm.trans hu)
    rcases hcell with ⟨-, hbegan, -⟩ | ⟨hunknown, -⟩
    · -- the call itself makes the outcome unknown
      obtain ⟨w, hw, hstill⟩ := state_eq_active (h.active (j + 1) (by omega) hjk)
      have hended : registryAt id calls (j + 1) id = some (unknownTrial v (calls j).now) := by
        change step id (registryAt id calls j) (calls j) id = _
        have hlate : Time.before (calls j).now (v.began + trialEvidenceBudget) = false := by
          rw [hbegan]
          exact decide_eq_false (Int.not_lt.mpr hbudget)
        simp only [step, hop, TrialRegistry.advance]
        rw [TrialRegistry.update_self, hv, map_some, TrialRecord.advance, hlate]
        simp [hactive]
      cases some.inj (hended.symm.trans hw)
      cases hstill
    · cases hactive.symm.trans hunknown

def twoTrials (k : Nat) : Call :=
  ⟨k * trialEvidenceBudget, if k = 1 then .advance else .tryBegin⟩

theorem trial_backoff_twoTrials :
    begins 7 twoTrials 2 = true ∧
      (twoTrials 0).now + backoffDelay (begun 7 twoTrials 0) ≤ (twoTrials 2).now := by
  refine ⟨by decide +kernel, ?_⟩
  refine (trial_backoff 7 twoTrials fun k => ?_).2.1 0 2 (by decide +kernel) (by decide +kernel)
    (by decide +kernel)
  exact Int.mul_le_mul_of_nonneg_right (Int.ofNat_le.mpr (Nat.le_succ k)) (by decide)

end QuotaScheduler.TrialBackoff

/- Runs of a deterministic machine: invariants, and properties until an event ends them. -/

import Mathlib.Algebra.Order.Group.Nat

namespace QuotaScheduler.Lib.Runs

open List Option

variable {σ ε : Type}

def stateAt (step : σ → ε → σ) (start : σ) (events : Nat → ε) : Nat → σ
  | 0 => start
  | k + 1 => step (stateAt step start events k) (events k)

variable {step : σ → ε → σ} {start : σ} {events : Nat → ε}

@[simp]
theorem stateAt_succ (k : Nat) :
    stateAt step start events (k + 1) = step (stateAt step start events k) (events k) := rfl

variable {P : σ → Prop} {k : Nat} {idle : ε} {l : List ε}

theorem invariant_stateAt (h0 : P start) (hstep : ∀ s e, P s → P (step s e)) (k : Nat) :
    P (stateAt step start events k) := by
  induction k with
  | zero => exact h0
  | succ k ih => exact hstep _ _ ih

theorem invariant_stateAt_of {C : σ → ε → Prop} (h0 : P start)
    (hstep : ∀ s e, P s → C s e → P (step s e))
    (hC : ∀ k, C (stateAt step start events k) (events k)) (k : Nat) :
    P (stateAt step start events k) := by
  induction k with
  | zero => exact h0
  | succ k ih => exact hstep _ _ ih (hC k)

theorem stateAt_of_le {I : σ → Prop} (hI : ∀ k, I (stateAt step start events k))
    (hstep : ∀ s e, I s → P s → P (step s e)) {i : Nat} (hik : i ≤ k)
    (h : P (stateAt step start events i)) : P (stateAt step start events k) := by
  induction k, hik using Nat.le_induction with
  | base => exact h
  | succ k _ ih => exact hstep _ _ (hI k) ih

theorem holds_or_reaches {P G : Nat → Prop} {a b : Nat} (hab : a ≤ b) (ha : P a)
    (hstep : ∀ k, a ≤ k → k < b → P k → P (k + 1) ∨ G k) :
    P b ∨ ∃ c, a ≤ c ∧ c < b ∧ G c ∧ ∀ k, a ≤ k → k ≤ c → P k := by
  by_cases hgoal : ∃ c, a ≤ c ∧ c < b ∧ G c ∧ ∀ k, a ≤ k → k ≤ c → P k
  · exact .inr hgoal
  · -- all states up to `m` have the property, so the step out of `m` cannot be the goal
    have hall : ∀ m, a ≤ m → m ≤ b → ∀ k, a ≤ k → k ≤ m → P k := by
      intro m ham
      induction m, ham using Nat.le_induction with
      | base =>
        intro _ k hak hka
        obtain rfl : k = a := Nat.le_antisymm hka hak
        exact ha
      | succ m ham ih =>
        intro hmb k hak hkm
        have hprev := ih (Nat.le_of_succ_le hmb)
        rcases Nat.lt_or_ge k (m + 1) with hlt | hge
        · exact hprev k hak (Nat.le_of_lt_succ hlt)
        · obtain rfl : k = m + 1 := Nat.le_antisymm hkm hge
          rcases hstep m ham hmb (hprev m ham (Nat.le_refl m)) with hnext | hG
          · exact hnext
          · exact absurd ⟨m, ham, hmb, hG, hprev⟩ hgoal
    exact .inl (hall b hab (Nat.le_refl b) b hab (Nat.le_refl b))

theorem reaches_of_rank {G : σ → Prop} (rank : σ → Nat) {n : Nat}
    (hstay : ∀ k, n ≤ k → ¬G (stateAt step start events k) →
      rank (stateAt step start events (k + 1)) ≤ rank (stateAt step start events k))
    (hlower : ∀ k, n ≤ k → ¬G (stateAt step start events k) → ∃ m, k ≤ m ∧
      rank (stateAt step start events (m + 1)) < rank (stateAt step start events m)) :
    ∃ k, G (stateAt step start events k) := by
  by_contra hnever
  have hnot : ∀ k, ¬G (stateAt step start events k) := fun k hk => hnever ⟨k, hk⟩
  have hle : ∀ k m, n ≤ k → k ≤ m →
      rank (stateAt step start events m) ≤ rank (stateAt step start events k) := by
    intro k m hnk hkm
    induction m, hkm using Nat.le_induction with
    | base => exact le_rfl
    | succ m hkm ih => exact (hstay m (Nat.le_trans hnk hkm) (hnot m)).trans ih
  -- strong induction on the rank: a step that lowers it comes later than any step
  have hfalse : ∀ v k, n ≤ k → rank (stateAt step start events k) = v → False := by
    intro v
    induction v using Nat.strong_induction_on with
    | _ v ih =>
      intro k hnk hv
      obtain ⟨m, hkm, hm⟩ := hlower k hnk (hnot k)
      have hlt := Nat.lt_of_lt_of_le hm (hle k m hnk hkm)
      exact ih _ (hv ▸ hlt) (m + 1) (by omega) rfl
  exact hfalse _ n (Nat.le_refl n) rfl

theorem foldl_relates {R : σ → σ → Prop} {f : σ → ε → σ} (refl : ∀ s, R s s)
    (trans : ∀ s t u, R s t → R t u → R s u) (hturn : ∀ s e, R s (f s e)) (l : List ε) (s : σ) :
    R s (l.foldl f s) := by
  induction l generalizing s with
  | nil => exact refl s
  | cons e l ih => exact trans _ _ _ (hturn s e) (ih _)

theorem foldl_keeps {α : Type} {f : σ → ε → σ} (p : σ → α) (hturn : ∀ s e, p (f s e) = p s)
    (l : List ε) (s : σ) : p (l.foldl f s) = p s :=
  foldl_relates (R := fun s t => p t = p s) (fun _ => rfl) (fun _ _ _ h h' => h'.trans h) hturn l s

theorem foldlM_invariant {f : σ → ε → Option σ} (hturn : ∀ s e t, P s → f s e = some t → P t)
    (l : List ε) {s t : σ} (h : P s) (hrun : l.foldlM f s = some t) : P t := by
  induction l generalizing s with
  | nil =>
    obtain rfl : s = t := by simpa using hrun
    exact h
  | cons e l ih =>
    obtain ⟨u, hu, hrest⟩ := bind_eq_some_iff.mp hrun
    exact ih (hturn s e u h hu) hrest

def script (idle : ε) (l : List ε) (k : Nat) : ε := l.getD k idle

theorem script_of_length_le (h : l.length ≤ k) : script idle l k = idle := by
  rw [script, getD_eq_getElem?_getD, getElem?_eq_none h, getD_none]

theorem script_all {p : ε → Prop} (hidle : p idle) (h : ∀ e ∈ l, p e) (k : Nat) :
    p (script idle l k) := by
  rcases Nat.lt_or_ge k l.length with hlt | hge
  · rw [script, getD_eq_getElem?_getD, getElem?_eq_getElem hlt, getD_some]
    exact h _ (getElem_mem hlt)
  · rw [script_of_length_le hge]
    exact hidle

theorem script_meets {C : σ → ε → Prop} (hidle : ∀ s, C s idle)
    (hscript : ∀ k < l.length, C (stateAt step start (script idle l) k) (script idle l k))
    (k : Nat) :
    C (stateAt step start (script idle l) k) (script idle l k) := by
  rcases Nat.lt_or_ge k l.length with hlt | hge
  · exact hscript k hlt
  · rw [script_of_length_le hge]
    exact hidle _

theorem stateAt_script_of_le (hk : k ≤ l.length) :
    stateAt step start (script idle l) k = (l.take k).foldl step start := by
  induction k with
  | zero => rfl
  | succ k ih =>
    have hlt : k < l.length := hk
    have hevent : script idle l k = l[k] := by
      rw [script, getD_eq_getElem?_getD, getElem?_eq_getElem hlt, getD_some]
    rw [stateAt_succ, ih hlt.le, hevent, take_succ_eq_append_getElem hlt, foldl_append]
    rfl

theorem stateAt_script : stateAt step start (script idle l) l.length = l.foldl step start := by
  rw [stateAt_script_of_le le_rfl, take_length]

end QuotaScheduler.Lib.Runs

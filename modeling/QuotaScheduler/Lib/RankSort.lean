/- Insertion sort by a comparison that respects a rank puts the ranks in order. -/

import Mathlib.Data.List.Sort

namespace QuotaScheduler.Lib.RankSort

open List

variable {α β : Type} [LinearOrder β]

/-- A sort by a strict `less`: an element stays in front of a later one unless that is less. -/
def sortSlice (less : α → α → Bool) (xs : List α) : List α :=
  xs.insertionSort fun a b => less b a = false

/-- Among `xs` the comparison goes with the rank; it may leave elements of one rank unordered. -/
structure Respects (less : α → α → Bool) (rank : α → β) (xs : List α) : Prop where
  less_of_rank : ∀ a ∈ xs, ∀ b ∈ xs, rank a < rank b → less a b = true
  rank_of_less : ∀ a ∈ xs, ∀ b ∈ xs, less a b = true → rank a ≤ rank b

variable {less : α → α → Bool} {rank : α → β}

theorem perm_sortSlice (less : α → α → Bool) (xs : List α) : (sortSlice less xs).Perm xs :=
  perm_insertionSort _ xs

variable {xs : List α} {x : α}

theorem Respects.mono {ys : List α} (h : Respects less rank xs) (hsub : ys ⊆ xs) :
    Respects less rank ys where
  less_of_rank a ha b hb := h.less_of_rank a (hsub ha) b (hsub hb)
  rank_of_less a ha b hb := h.rank_of_less a (hsub ha) b (hsub hb)

private theorem pairwise_orderedInsert (h : Respects less rank (x :: xs))
    (hxs : xs.Pairwise (rank · ≤ rank ·)) :
    (xs.orderedInsert (fun a b => less b a = false) x).Pairwise (rank · ≤ rank ·) := by
  induction xs with
  | nil => exact pairwise_singleton _ x
  | cons y ys ih =>
    obtain ⟨hy, hys⟩ := pairwise_cons.mp hxs
    have hxmem : x ∈ x :: y :: ys := mem_cons_self
    have hymem : y ∈ x :: y :: ys := mem_cons_of_mem _ mem_cons_self
    by_cases hless : less y x = false
    · rw [orderedInsert_cons, if_pos hless]
      have hxy : rank x ≤ rank y := by
        by_contra hlt
        have hyx := h.less_of_rank y hymem x hxmem (not_le.mp hlt)
        rw [hless] at hyx
        cases hyx
      refine pairwise_cons.mpr ⟨?_, hxs⟩
      intro z hz
      rcases mem_cons.mp hz with rfl | hz
      · exact hxy
      · exact le_trans hxy (hy z hz)
    · rw [orderedInsert_cons, if_neg hless]
      have hyx : rank y ≤ rank x := h.rank_of_less y hymem x hxmem (by simpa using hless)
      have hsub : x :: ys ⊆ x :: y :: ys := cons_subset_cons x (subset_cons_self y ys)
      refine pairwise_cons.mpr ⟨?_, ih (h.mono hsub) hys⟩
      intro z hz
      rcases (mem_orderedInsert _).mp hz with rfl | hz
      · exact hyx
      · exact hy z hz

theorem pairwise_sortSlice (h : Respects less rank xs) :
    (sortSlice less xs).Pairwise (rank · ≤ rank ·) := by
  induction xs with
  | nil => exact .nil
  | cons x xs ih =>
    have hsub : x :: sortSlice less xs ⊆ x :: xs :=
      cons_subset_cons x (perm_sortSlice less xs).subset
    exact pairwise_orderedInsert (h.mono hsub) (ih (h.mono (subset_cons_self x xs)))

theorem rank_head_le (h : Respects less rank xs) {rest : List α}
    (hsort : sortSlice less xs = x :: rest) {y : α} (hy : y ∈ xs) : rank x ≤ rank y := by
  have hpair := pairwise_sortSlice h
  have hmem := (perm_sortSlice less xs).mem_iff.mpr hy
  rw [hsort] at hpair hmem
  rcases mem_cons.mp hmem with rfl | hmem
  · exact le_rfl
  · exact (pairwise_cons.mp hpair).1 y hmem

theorem rank_find?_le (h : Respects less rank xs) {p : α → Bool} {y : α}
    (hfind : (sortSlice less xs).find? p = some x) (hy : y ∈ xs) (hp : p y = true) :
    rank x ≤ rank y := by
  obtain ⟨-, before, after, hsplit, hbefore⟩ := find?_eq_some_iff_append.mp hfind
  have hpair := pairwise_sortSlice h
  have hmem := (perm_sortSlice less xs).mem_iff.mpr hy
  rw [hsplit] at hpair hmem
  rcases mem_append.mp hmem with hmem | hmem
  · have hnot := hbefore y hmem
    simp [hp] at hnot
  · rcases mem_cons.mp hmem with rfl | hmem
    · exact le_rfl
    · exact (pairwise_cons.mp (pairwise_append.mp hpair).2.1).1 y hmem

private theorem forall₂_orderedInsert {γ : Type} {R : α → γ → Prop} {less : α → α → Bool}
    {less' : γ → γ → Bool} (h : ∀ a b a' b', R a a' → R b b' → less a b = less' a' b') {y : γ}
    (hxy : R x y) {ys : List γ} (hxs : Forall₂ R xs ys) :
    Forall₂ R (xs.orderedInsert (fun a b => less b a = false) x)
      (ys.orderedInsert (fun a b => less' b a = false) y) := by
  induction hxs with
  | nil => exact .cons hxy .nil
  | cons hab hrest ih =>
    simp only [orderedInsert_cons, h _ _ _ _ hab hxy]
    split
    · exact .cons hxy (.cons hab hrest)
    · exact .cons hab ih

theorem forall₂_sortSlice {γ : Type} {R : α → γ → Prop} {less : α → α → Bool} {less' : γ → γ → Bool}
    (h : ∀ a b a' b', R a a' → R b b' → less a b = less' a' b') {ys : List γ}
    (hxs : Forall₂ R xs ys) : Forall₂ R (sortSlice less xs) (sortSlice less' ys) := by
  induction hxs with
  | nil => exact .nil
  | cons hab _ ih => exact forall₂_orderedInsert h hab ih

/-- Where the rank tells elements apart, their order before the sort is irrelevant. -/
theorem sortSlice_eq_of_perm (h : Respects less rank xs) {ys : List α} (hperm : xs.Perm ys)
    (hrank : ∀ a ∈ xs, ∀ b ∈ xs, rank a = rank b → a = b) :
    sortSlice less xs = sortSlice less ys := by
  have hx := perm_sortSlice less xs
  have hy := perm_sortSlice less ys
  refine Perm.eq_of_pairwise ?_ (pairwise_sortSlice h)
    (pairwise_sortSlice (h.mono hperm.symm.subset))
    (hx.trans (hperm.trans hy.symm))
  intro a b ha hb hab hba
  have hax : a ∈ xs := hx.mem_iff.mp ha
  have hbx : b ∈ xs := hperm.mem_iff.mpr (hy.mem_iff.mp hb)
  exact hrank a hax b hbx (le_antisymm hab hba)

end QuotaScheduler.Lib.RankSort

/- Association lists: one function applied to every value, and entries put or taken out. -/

import Mathlib.Data.List.AList

namespace QuotaScheduler.Lib.Tables

open List AList

variable {κ β : Type}

def mapValues (f : κ → β → β) (m : AList fun _ : κ => β) : AList fun _ : κ => β where
  entries := m.entries.map fun e => ⟨e.1, f e.1 e.2⟩
  nodupKeys := by
    have hkeys : (m.entries.map fun e => (⟨e.1, f e.1 e.2⟩ : Sigma fun _ : κ => β)).keys =
        m.entries.keys := by
      simp [List.keys, Function.comp_def]
    rw [List.NodupKeys, hkeys]
    exact m.nodupKeys

theorem dlookup_map [DecidableEq κ] (f : κ → β → β) (l : List (Sigma fun _ : κ => β)) (k : κ) :
    (l.map fun e => (⟨e.1, f e.1 e.2⟩ : Sigma fun _ : κ => β)).dlookup k =
      (l.dlookup k).map (f k) := by
  induction l with
  | nil => rfl
  | cons e l ih =>
    by_cases hk : k = e.1
    · subst hk
      rw [map_cons, dlookup_cons_eq, dlookup_cons_eq]
      rfl
    · rw [map_cons, dlookup_cons_ne _ _ (by simpa using hk),
        dlookup_cons_ne _ _ hk, ih]

@[simp]
theorem lookup_mapValues [DecidableEq κ] (f : κ → β → β) (m : AList fun _ : κ => β) (k : κ) :
    (mapValues f m).lookup k = (m.lookup k).map (f k) :=
  dlookup_map f m.entries k

def put [DecidableEq κ] (m : AList fun _ : κ => β) (k : κ) : Option β → AList fun _ : κ => β
  | none => m.erase k
  | some v => m.insert k v

@[simp]
theorem lookup_put_self [DecidableEq κ] (m : AList fun _ : κ => β) (k : κ) (v : Option β) :
    (put m k v).lookup k = v := by
  cases v with
  | none => exact lookup_erase k m
  | some v => exact lookup_insert m

theorem lookup_put_ne [DecidableEq κ] (m : AList fun _ : κ => β) {k l : κ} (h : l ≠ k)
    (v : Option β) : (put m k v).lookup l = m.lookup l := by
  cases v with
  | none => exact lookup_erase_ne h
  | some v => exact lookup_insert_ne h

theorem lookup_put [DecidableEq κ] {m : AList fun _ : κ => β} {k l : κ} {v : Option β} {x : β}
    (h : (put m k v).lookup l = some x) : l = k ∧ v = some x ∨ l ≠ k ∧ m.lookup l = some x := by
  by_cases hl : l = k
  · subst hl
    exact .inl ⟨rfl, (lookup_put_self m l v).symm.trans h⟩
  · exact .inr ⟨hl, (lookup_put_ne m hl v).symm.trans h⟩

def dropAll [DecidableEq κ] [DecidableEq β] (key : β → κ) (m : AList fun _ : κ => β)
    (xs : List β) : AList fun _ : κ => β :=
  xs.foldl (fun m x => if m.lookup (key x) = some x then m.erase (key x) else m) m

theorem lookup_erase_of_keyed [DecidableEq κ] {key : β → κ} {m : AList fun _ : κ => β}
    (hkey : ∀ k x, m.lookup k = some x → key x = k) {x : β} (hx : m.lookup (key x) = some x) (k : κ)
    (y : β) : (m.erase (key x)).lookup k = some y ↔ m.lookup k = some y ∧ y ≠ x := by
  by_cases hk : k = key x
  · subst hk
    rw [lookup_erase, hx]
    constructor
    · intro h
      cases h
    · rintro ⟨h, hne⟩
      exact absurd (Option.some.inj h).symm hne
  · rw [lookup_erase_ne hk]
    refine ⟨fun h => ⟨h, ?_⟩, And.left⟩
    rintro rfl
    exact hk (hkey k y h).symm

theorem lookup_dropAll [DecidableEq κ] [DecidableEq β] {key : β → κ} (xs : List β)
    {m : AList fun _ : κ => β} (hkey : ∀ k x, m.lookup k = some x → key x = k) (k : κ) (y : β) :
    (dropAll key m xs).lookup k = some y ↔ m.lookup k = some y ∧ y ∉ xs := by
  induction xs generalizing m with
  | nil => simp [dropAll]
  | cons x xs ih =>
    rw [dropAll, foldl_cons, ← dropAll]
    by_cases hx : m.lookup (key x) = some x
    · have herase := lookup_erase_of_keyed hkey hx
      rw [if_pos hx, ih fun k y h => hkey k y ((herase k y).1 h).1, herase, mem_cons]
      tauto
    · rw [if_neg hx, ih hkey, mem_cons]
      refine and_congr_right fun h => ?_
      have hne : y ≠ x := by
        rintro rfl
        exact hx ((hkey k y h).symm ▸ h)
      tauto

end QuotaScheduler.Lib.Tables

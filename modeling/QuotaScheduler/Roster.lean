/- The host auth list, its codex tiers and the admission (main.go, capability.go). -/

import QuotaScheduler.State

namespace QuotaScheduler.Roster

open Lib.RankSort Account State List

structure HostFile where
  id : String
  authIndex : String
  provider : String
  priority : Option Int

structure RosterEntry where
  id : String
  authIndex : String
  provider : String
  priority : Option Int
  deriving DecidableEq

inductive HostCapability
  | capabilityB
  | capabilityA
  deriving DecidableEq, Repr

inductive RosterHealth
  | unset
  | waiting
  | healthy
  | degraded
  | failClosed
  deriving DecidableEq, Repr

structure HostRosterSnapshot where
  capability : HostCapability := .capabilityB
  confirmed : Bool := false
  provisional : Bool := false
  backgroundAllowed : Bool := false
  health : RosterHealth := .unset
  generation : Nat := 0
  lifecycleRevision : Nat := 0
  entries : List RosterEntry := []
  confirmedAt : Time := .zero
  degradedSince : Time := .zero
  deriving DecidableEq

def isSpace (c : Char) : Bool :=
  let n := c.toNat
  decide (9 ≤ n ∧ n ≤ 13) || decide (8192 ≤ n ∧ n ≤ 8202) ||
    [32, 133, 160, 5760, 8232, 8233, 8239, 8287, 12288].contains n

def trimSpace (s : String) : List Char :=
  ((s.toList.dropWhile isSpace).reverse.dropWhile isSpace).reverse

/-- `strings.EqualFold` against "codex", whose letters have no case variants beyond ASCII. -/
def isCodex (provider : String) : Bool :=
  decide ((trimSpace provider).map Char.toLower = ['c', 'o', 'd', 'e', 'x'])

def listHostAuths (files : List HostFile) : List RosterEntry :=
  (files.filter fun f => isCodex f.provider).map fun f =>
    ⟨f.id, f.authIndex, "codex", some (f.priority.getD 0)⟩

/-- The entries the tier functions do not skip, with their priority. -/
def codexPriority (e : RosterEntry) : Option Int :=
  if e.id = "" ∨ e.provider ≠ "codex" then none else e.priority

def tierStep (acc : Option (Int × List String)) (e : RosterEntry) : Option (Int × List String) :=
  match codexPriority e with
  | none => acc
  | some p =>
    match acc with
    | none => some (p, [e.id])
    | some (q, ids) =>
      if q < p then some (p, [e.id])
      else if p = q then some (q, if e.id ∈ ids then ids else ids ++ [e.id])
      else some (q, ids)

def highestCodexTier (entries : List RosterEntry) : Option (Int × List String) :=
  (entries.foldl tierStep none).map fun r => (r.1, sortSlice (fun a b => decide (a < b)) r.2)

def tierIDs (entries : List RosterEntry) (priority : Int) : Finset String :=
  ((entries.filter fun e => decide (codexPriority e = some priority)).map (·.id)).toFinset

def tierPriorities (entries : List RosterEntry) : List Int :=
  sortSlice (fun a b => decide (b < a)) (entries.filterMap codexPriority).dedup

def codexTierGroups (entries : List RosterEntry) : Option (List TierAdmission) :=
  if (tierPriorities entries).isEmpty then none
  else some ((tierPriorities entries).map fun p => ⟨p, tierIDs entries p⟩)

def filterRosterEntries (entries : List RosterEntry) (ids : List String) : List RosterEntry :=
  sortSlice (fun a b => decide (a.id < b.id)) (entries.filter fun e => decide (e.id ∈ ids))

/-- The admission `PublishAuthoritativeRoster` builds. -/
def rosterAdmission (cfg : Config) (entries : List RosterEntry) : Option CPAAdmissionState :=
  match highestCodexTier entries with
  | none => none
  | some (priority, ids) =>
    match (if cfg.scheduleAcrossPriorities then codexTierGroups entries else none) with
    | some tiers =>
      some
        { observed := true
          priority := priority
          tiers := tiers
          authIDs := tiers.foldl (fun ids tier => ids ∪ tier.authIDs) ∅ }
    | none => some { observed := true, priority := priority, authIDs := ids.toFinset }

def highestTierSet (entries : List RosterEntry) : Option (Finset String) :=
  (highestCodexTier entries).map fun r => r.2.toFinset

def Offered (entries : List RosterEntry) (id : String) (p : Int) : Prop :=
  ∃ e ∈ entries, e.id = id ∧ codexPriority e = some p

def TopTier (entries : List RosterEntry) : Option (Int × List String) → Prop
  | none => ∀ id p, ¬Offered entries id p
  | some (q, ids) =>
    ids ≠ [] ∧ (∀ id p, Offered entries id p → p ≤ q) ∧ ∀ id, id ∈ ids ↔ Offered entries id q

variable {e : RosterEntry}

theorem offered_append_single (entries : List RosterEntry) (id : String) (p : Int) :
    Offered (entries ++ [e]) id p ↔ Offered entries id p ∨ e.id = id ∧
      codexPriority e = some p := by
  simp only [Offered, mem_append, mem_singleton]
  constructor
  · rintro ⟨f, hf | rfl, hid, hp⟩
    · exact .inl ⟨f, hf, hid, hp⟩
    · exact .inr ⟨hid, hp⟩
  · rintro (⟨f, hf, hid, hp⟩ | ⟨hid, hp⟩)
    · exact ⟨f, .inl hf, hid, hp⟩
    · exact ⟨e, .inr rfl, hid, hp⟩

theorem topTier_step (entries : List RosterEntry) (acc : Option (Int × List String))
    (h : TopTier entries acc) : TopTier (entries ++ [e]) (tierStep acc e) := by
  cases hp : codexPriority e with
  | none =>
    have hsame : ∀ id p, Offered (entries ++ [e]) id p ↔ Offered entries id p := by
      simp [offered_append_single, hp]
    cases acc with
    | none | some r => simpa [tierStep, hp, TopTier, hsame] using h
  | some p =>
    have hmore : ∀ id p', Offered (entries ++ [e]) id p' ↔
        Offered entries id p' ∨ e.id = id ∧ p = p' := by
      simp [offered_append_single, hp]
    cases acc with
    | none =>
      have hnone : ∀ id p', ¬Offered entries id p' := h
      simp only [tierStep, hp, TopTier, hmore, hnone, false_or]
      refine ⟨by simp, ?_, ?_⟩
      · omega
      · simp [eq_comm]
    | some r =>
      obtain ⟨q, ids⟩ := r
      obtain ⟨hne, hle, hids⟩ := h
      have htop : ∀ top, q ≤ top → p ≤ top →
          ∀ id p', Offered (entries ++ [e]) id p' → p' ≤ top := by
        intro top hq hp id p' hoff
        rcases (hmore id p').mp hoff with hold | ⟨-, rfl⟩
        · exact (hle id p' hold).trans hq
        · exact hp
      simp only [tierStep, hp]
      split_ifs with hlt heq hmem
      · -- a new highest tier: nothing seen before reaches it
        refine ⟨by simp, htop p (by omega) le_rfl, fun id => ?_⟩
        rw [hmore]
        constructor
        · intro hid
          exact .inr ⟨(mem_singleton.mp hid).symm, rfl⟩
        · rintro (hold | ⟨hid, -⟩)
          · have := hle id p hold
            omega
          · exact mem_singleton.mpr hid.symm
      · subst heq
        refine ⟨hne, htop _ le_rfl le_rfl, fun id => ?_⟩
        rw [hmore, ← hids]
        constructor
        · exact .inl
        · rintro (hid | ⟨rfl, -⟩)
          · exact hid
          · exact hmem
      · subst heq
        refine ⟨by simp, htop _ le_rfl le_rfl, fun id => ?_⟩
        rw [hmore, ← hids, mem_append, mem_singleton]
        simp [eq_comm]
      · refine ⟨hne, htop q le_rfl (by omega), fun id => ?_⟩
        rw [hmore, ← hids]
        constructor
        · exact .inl
        · rintro (hid | ⟨-, hpq⟩)
          · exact hid
          · exact absurd hpq heq

theorem topTier_foldl (entries : List RosterEntry) :
    TopTier entries (entries.foldl tierStep none) := by
  induction entries using reverseRecOn with
  | nil => simp [TopTier, Offered]
  | append_singleton entries e ih =>
    rw [foldl_append]
    exact topTier_step entries _ ih

variable {entries : List RosterEntry} {id : String} {p : Int}

theorem highestCodexTier_some {q : Int} {ids : List String}
    (h : highestCodexTier entries = some (q, ids)) :
    ids ≠ [] ∧ (∀ id p, Offered entries id p → p ≤ q) ∧ ∀ id, id ∈ ids ↔ Offered entries id q := by
  have htop := topTier_foldl entries
  unfold highestCodexTier at h
  cases hfold : entries.foldl tierStep none with
  | none => simp [hfold] at h
  | some r =>
    obtain ⟨p, found⟩ := r
    rw [hfold] at h htop
    obtain ⟨rfl, rfl⟩ := h
    obtain ⟨hne, hle, hids⟩ := htop
    have hperm := perm_sortSlice (fun a b : String => decide (a < b)) found
    refine ⟨?_, hle, ?_⟩
    · intro hnil
      rw [hnil] at hperm
      exact hne hperm.symm.eq_nil
    · intro id
      rw [hperm.mem_iff, hids]

theorem highestCodexTier_isSome (h : Offered entries id p) :
    ∃ q ids, highestCodexTier entries = some (q, ids) := by
  have htop := topTier_foldl entries
  unfold highestCodexTier
  cases hfold : entries.foldl tierStep none with
  | none =>
    rw [hfold] at htop
    exact absurd h (htop id p)
  | some r => exact ⟨r.1, _, rfl⟩

theorem mem_tierIDs : id ∈ tierIDs entries p ↔ Offered entries id p := by
  simp only [tierIDs, Offered, List.mem_toFinset, List.mem_map, mem_filter,
    decide_eq_true_eq]
  constructor
  · rintro ⟨e, ⟨he, hp⟩, hid⟩
    exact ⟨e, he, hid, hp⟩
  · rintro ⟨e, he, hid, hp⟩
    exact ⟨e, ⟨he, hp⟩, hid⟩

theorem mem_tierPriorities (h : Offered entries id p) : p ∈ tierPriorities entries := by
  obtain ⟨e, he, -, hp⟩ := h
  have hmem : p ∈ (entries.filterMap codexPriority).dedup :=
    mem_dedup.mpr (mem_filterMap.mpr ⟨e, he, hp⟩)
  exact (perm_sortSlice _ _).mem_iff.mpr hmem

theorem mem_codexTierGroups {tiers : List TierAdmission} (h : codexTierGroups entries = some tiers)
    (id : String) (p : Int) :
    (∃ t ∈ tiers, t.priority = p ∧ id ∈ t.authIDs) ↔ Offered entries id p := by
  unfold codexTierGroups at h
  split at h
  · cases h
  · cases h
    constructor
    · rintro ⟨t, ht, rfl, hid⟩
      obtain ⟨p, -, rfl⟩ := List.mem_map.mp ht
      exact mem_tierIDs.mp hid
    · intro hoff
      refine ⟨_, List.mem_map.mpr ⟨p, mem_tierPriorities hoff, rfl⟩, rfl, ?_⟩
      exact mem_tierIDs.mpr hoff

theorem codexTierGroups_isSome (h : Offered entries id p) :
    ∃ tiers, codexTierGroups entries = some tiers := by
  have hmem := mem_tierPriorities h
  unfold codexTierGroups
  split
  · rename_i hempty
    rw [List.isEmpty_iff.mp hempty] at hmem
    cases hmem
  · exact ⟨_, rfl⟩

end QuotaScheduler.Roster

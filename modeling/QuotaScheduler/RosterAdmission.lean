/- Which accounts a roster sync admits and publishes, along every later run. -/

import QuotaScheduler.PluginActs

namespace QuotaScheduler.RosterAdmission

open Lib.RankSort Trial Account State Published Roster PluginRuntime StateUpdates
open PluginActs List Option Plugin

theorem mem_union_tiers (tiers : List TierAdmission) (start : Finset String) (id : String) :
    id ∈ tiers.foldl (fun ids tier => ids ∪ tier.authIDs) start ↔
      id ∈ start ∨ ∃ t ∈ tiers, id ∈ t.authIDs := by
  induction tiers generalizing start with
  | nil => simp
  | cons tier tiers ih =>
    rw [foldl_cons, ih, Finset.mem_union]
    constructor
    · rintro ((hstart | htier) | ⟨t, ht, hid⟩)
      · exact .inl hstart
      · exact .inr ⟨tier, mem_cons_self, htier⟩
      · exact .inr ⟨t, mem_cons_of_mem tier ht, hid⟩
    · rintro (hstart | ⟨t, ht, hid⟩)
      · exact .inl (.inl hstart)
      · rcases mem_cons.mp ht with rfl | ht
        · exact .inl (.inr hid)
        · exact .inr ⟨t, ht, hid⟩

/-- An admission of exactly the IDs on offer, each in its tier. -/
structure AdmitsOffered (entries : List RosterEntry) (admission : CPAAdmissionState) : Prop where
  observed : admission.observed = true
  ids : ∀ id, id ∈ admission.authIDs ↔ ∃ p, Offered entries id p
  tiers : ∀ id p, (∃ t ∈ admission.tiers, t.priority = p ∧ id ∈ t.authIDs) ↔ Offered entries id p

variable {q : Int}

theorem rosterAdmission_across {cfg : Config} {entries : List RosterEntry} {ids : List String}
    (hacross : cfg.scheduleAcrossPriorities = true)
    (htop : highestCodexTier entries = some (q, ids)) :
    ∃ admission, rosterAdmission cfg entries = some admission ∧
      AdmitsOffered entries admission := by
  obtain ⟨hne, -, hids⟩ := highestCodexTier_some htop
  obtain ⟨id, hid⟩ := exists_mem_of_ne_nil ids hne
  obtain ⟨tiers, htiers⟩ := codexTierGroups_isSome ((hids id).mp hid)
  refine ⟨_, by simp [rosterAdmission, htop, hacross, htiers]; rfl, rfl, ?_, ?_⟩
  · intro id
    rw [mem_union_tiers]
    constructor
    · rintro (hempty | ⟨t, ht, hid⟩)
      · simp at hempty
      · exact ⟨t.priority, (mem_codexTierGroups htiers id t.priority).mp ⟨t, ht, rfl, hid⟩⟩
    · rintro ⟨p, hoff⟩
      obtain ⟨t, ht, -, hid⟩ := (mem_codexTierGroups htiers id p).mpr hoff
      exact .inr ⟨t, ht, hid⟩
  · exact mem_codexTierGroups htiers

variable {entries : List RosterEntry}

theorem offered_filterRosterEntries (ids : List String) (id : String) (p : Int) :
    Offered (filterRosterEntries entries ids) id p ↔ Offered entries id p ∧ id ∈ ids := by
  have hmem : ∀ e, e ∈ filterRosterEntries entries ids ↔ e ∈ entries ∧ e.id ∈ ids := by
    intro e
    rw [filterRosterEntries, (perm_sortSlice _ _).mem_iff, mem_filter, decide_eq_true_eq]
  constructor
  · rintro ⟨e, he, rfl, hp⟩
    have hboth := (hmem e).mp he
    exact ⟨⟨e, hboth.1, rfl, hp⟩, hboth.2⟩
  · rintro ⟨⟨e, he, rfl, hp⟩, hid⟩
    exact ⟨e, (hmem e).mpr ⟨he, hid⟩, rfl, hp⟩

variable {id : String} {p : Int}

theorem offered_filter (ids : Finset String) :
    Offered (entries.filter fun e => e.id ∈ ids) id p ↔ Offered entries id p ∧ id ∈ ids := by
  constructor
  · rintro ⟨e, he, rfl, hp⟩
    have hboth := mem_filter.mp he
    exact ⟨⟨e, hboth.1, rfl, hp⟩, of_decide_eq_true hboth.2⟩
  · rintro ⟨⟨e, he, rfl, hp⟩, hid⟩
    exact ⟨e, mem_filter.mpr ⟨he, decide_eq_true hid⟩, rfl, hp⟩

theorem highestTierSet_eq {entries : List RosterEntry} {ids : Finset String} (hne : ids.Nonempty)
    (hle : ∀ id p, Offered entries id p → p ≤ q) (hids : ∀ id, id ∈ ids ↔ Offered entries id q) :
    highestTierSet entries = some ids := by
  obtain ⟨id, hid⟩ := hne
  have hoff : Offered entries id q := (hids id).mp hid
  obtain ⟨q', ids', htop⟩ := highestCodexTier_isSome hoff
  obtain ⟨hne', hle', hids'⟩ := highestCodexTier_some htop
  obtain ⟨id', hid'⟩ := exists_mem_of_ne_nil ids' hne'
  have hle1 : q ≤ q' := hle' id q hoff
  have hle2 : q' ≤ q := hle id' q' ((hids' id').mp hid')
  have heq : q' = q := by omega
  subst heq
  have hsame : ids'.toFinset = ids := by
    ext id
    rw [List.mem_toFinset, hids', hids]
  simp [highestTierSet, htop, hsame]

theorem activeHighestTier_publishSchedulerState (s : PluginState) (active : Option (Finset String))
    (now : Time) (trials : TrialRegistry) :
    (publishSchedulerState s active now trials).activeHighestTier =
      active.getD s.cpaAdmission.authIDs := by
  cases active <;> rfl

structure Admitted (ids : Finset String) (admission : CPAAdmissionState) (w : Plugin) : Prop where
  stored : w.state.cpaAdmission = admission
  admits : admission.authIDs = ids
  current : highestTierSet w.current.entries = some ids
  roster : highestTierSet w.roster.entries = some ids
  published : ∃ snapshot, w.published = some snapshot ∧ snapshot.activeHighestTier = ids

variable {ids : Finset String} {admission : CPAAdmissionState} {w w' : Plugin}

theorem Admitted.active (h : Admitted ids admission w) {active : Option (Finset String)}
    (hactive : Active w active) : active.getD w.state.cpaAdmission.authIDs = ids := by
  have hstored : w.state.cpaAdmission.authIDs = ids := by rw [h.stored, h.admits]
  cases hactive with
  | stored => exact hstored
  | roster =>
    rw [h.roster]
    rfl
  | again snapshot hsnap =>
    obtain ⟨snapshot', hsnap', hids⟩ := h.published
    rw [hsnap] at hsnap'
    cases hsnap'
    exact hids

theorem Admitted.act (h : Admitted ids admission w) (hact : Act w w') :
    Admitted ids admission w' := by
  cases hact with
  | clock now | settings cfg annotations | trials trials | txnDrop i | pickStart req
  | txnBegin auth version | txnRan i t t' ht hwritten =>
    exact ⟨h.stored, h.admits, h.current, h.roster, h.published⟩
  | write s hwritten =>
    exact ⟨hwritten.cpaAdmission.trans h.stored, h.admits, h.current, h.roster, h.published⟩
  | publish active hactive =>
    refine ⟨h.stored, h.admits, h.current, h.roster, _, rfl, ?_⟩
    rw [activeHighestTier_publishSchedulerState]
    exact h.active hactive
  | lifecycle =>
    unfold advanceLifecycle observeRosterLifecycle
    split
    · exact ⟨h.stored, h.admits, h.current, h.roster, h.published⟩
    · exact ⟨h.stored, h.admits, h.current, h.current, h.published⟩
  | publishOverlay t ht =>
    -- the overlay's own admission does not matter: the set comes from the roster
    refine ⟨h.stored, h.admits, h.current, h.roster, _, rfl, ?_⟩
    rw [activeHighestTier_publishSchedulerState, h.roster]
    rfl
  | journal t ht =>
    refine ⟨?_, h.admits, h.current, h.roster, h.published⟩
    exact cpaAdmission_applyLegacyEffectJournal.trans h.stored
  | pickStep i room =>
    unfold pickStep
    split
    · exact h
    · exact ⟨h.stored, h.admits, h.current, h.roster, h.published⟩
  | consumeIntent =>
    unfold consumeIntent
    split
    · exact h
    · exact ⟨h.stored, h.admits, h.current, h.roster, h.published⟩

theorem admitted_sync {files : List HostFile} {top : List String}
    (hacross : w.state.cfg.scheduleAcrossPriorities = true)
    (htop : highestCodexTier (listHostAuths files) = some (q, top)) :
    ∃ admission, Admitted top.toFinset admission (w.step (.sync files true)) ∧
      AdmitsOffered (filterRosterEntries (listHostAuths files) top) admission := by
  obtain ⟨hne, hle, hids⟩ := highestCodexTier_some htop
  have hoff : ∀ id p, Offered (filterRosterEntries (listHostAuths files) top) id p ↔
      Offered (listHostAuths files) id p ∧ id ∈ top :=
    offered_filterRosterEntries _
  have hnext : highestTierSet (filterRosterEntries (listHostAuths files) top) =
      some top.toFinset := by
    apply highestTierSet_eq (q := q)
    · exact toFinset_nonempty_iff top |>.mpr hne
    · intro id p h
      exact hle id p ((hoff id p).mp h).1
    · intro id
      rw [List.mem_toFinset, hoff, ← hids, and_self]
  obtain ⟨⟨q', top'⟩, htop', -⟩ := map_eq_some_iff.mp hnext
  obtain ⟨admission, hadmission, hadmits⟩ := rosterAdmission_across hacross htop'
  have hauth : admission.authIDs = top.toFinset := by
    ext id
    rw [hadmits.ids, List.mem_toFinset]
    constructor
    · rintro ⟨p, hp⟩
      exact ((hoff id p).mp hp).2
    · intro hid
      exact ⟨q, (hoff id q).mpr ⟨(hids id).mp hid, hid⟩⟩
  refine ⟨admission, ?_, hadmits⟩
  have hroster : highestTierSet ((filterRosterEntries (listHostAuths files) top).filter
      fun e => e.id ∈ admission.authIDs) = some top.toFinset := by
    apply highestTierSet_eq (q := q)
    · exact toFinset_nonempty_iff top |>.mpr hne
    · intro id p h
      exact hle id p ((hoff id p).mp ((offered_filter _).mp h).1).1
    · intro id
      rw [offered_filter, hoff, hauth, List.mem_toFinset, ← hids, and_self, and_self]
  simp only [step, finishSync, htop, publishAuthoritativeRoster, hadmission,
    if_true, observeRosterLifecycle, le_refl]
  refine ⟨?_, hauth, hnext, hroster, _, rfl, ?_⟩
  · exact PluginState.cpaAdmission_replaceCPAAdmission _ _
  · exact hauth

/-- A codex file of the host's list names an ID at a priority, zero if missing. -/
def ListedAt (files : List HostFile) (id : String) (p : Int) : Prop :=
  ∃ f ∈ files, isCodex f.provider = true ∧ f.id ≠ "" ∧ f.id = id ∧ f.priority.getD 0 = p

theorem offered_listHostAuths (files : List HostFile) :
    Offered (listHostAuths files) id p ↔ ListedAt files id p := by
  constructor
  · rintro ⟨e, he, rfl, hp⟩
    obtain ⟨f, hf, rfl⟩ := mem_map.mp he
    have hboth := mem_filter.mp hf
    simp only [codexPriority] at hp
    split at hp
    · cases hp
    · rename_i hkept
      have hnamed : f.id ≠ "" := fun hempty => hkept (.inl hempty)
      exact ⟨f, hboth.1, hboth.2, hnamed, rfl, some.inj hp⟩
  · rintro ⟨f, hf, hcodex, hne, rfl, rfl⟩
    refine ⟨_, mem_map.mpr ⟨f, mem_filter.mpr ⟨hf, hcodex⟩, rfl⟩, rfl, ?_⟩
    simp [codexPriority, hne]

structure AdmitsAllTiers (files : List HostFile) (w : Plugin) : Prop where
  published : ∃ snapshot, w.published = some snapshot ∧
    ∀ id, id ∈ snapshot.activeHighestTier ↔ ∃ p, ListedAt files id p
  observed : w.state.cpaAdmission.observed = true
  admitted : ∀ id, id ∈ w.state.cpaAdmission.authIDs ↔ ∃ p, ListedAt files id p
  tiers : ∀ id p, (∃ t ∈ w.state.cpaAdmission.tiers, t.priority = p ∧ id ∈ t.authIDs) ↔
    ListedAt files id p

def ReachesTop (files : List HostFile) : Prop :=
  ∀ id p, ListedAt files id p → ∃ q, ListedAt files id q ∧ ∀ id' p', ListedAt files id' p' → p' ≤ q

/-- After a published sync all tiers are admitted exactly if no codex ID is confined to a lower one.
-/
theorem all_tiers_admitted_iff (w : Plugin) (files : List HostFile) (later : List Event)
    (hacross : w.state.cfg.scheduleAcrossPriorities = true)
    (hsync : publishesRoster (.sync files true) = true)
    (hlater : ∀ e ∈ later, publishesRoster e = false) :
    AdmitsAllTiers files ((w.step (.sync files true)).run later) ↔ ReachesTop files := by
  obtain ⟨⟨q, top⟩, htop⟩ : ∃ r, highestCodexTier (listHostAuths files) = some r := by
    simpa [publishesRoster, isSome_iff_exists] using hsync
  obtain ⟨hne, hle, hids⟩ := highestCodexTier_some htop
  obtain ⟨admission, hadmitted, hadmits⟩ := admitted_sync hacross htop
  have hrun := invariant_run (fun _ _ h hact => h.act hact) hadmitted later hlater
  obtain ⟨snapshot, hsnap, hset⟩ := hrun.published
  have htopID : ∀ id, id ∈ top ↔ ListedAt files id q := by
    intro id
    rw [hids, offered_listHostAuths]
  have hmax : ∀ id p, ListedAt files id p → p ≤ q := by
    intro id p h
    exact hle id p ((offered_listHostAuths files).mpr h)
  constructor
  · intro h id p hlisted
    obtain ⟨snapshot', hsnap', hall⟩ := h.published
    rw [hsnap] at hsnap'
    cases hsnap'
    have hid : id ∈ snapshot.activeHighestTier := (hall id).mpr ⟨p, hlisted⟩
    rw [hset, List.mem_toFinset] at hid
    exact ⟨q, (htopID id).mp hid, hmax⟩
  · intro h
    have hreach : ∀ id p, ListedAt files id p → id ∈ top := by
      intro id p hlisted
      obtain ⟨q', hlisted', hmax'⟩ := h id p hlisted
      obtain ⟨id₀, hid₀⟩ := exists_mem_of_ne_nil top hne
      have hle₁ : q ≤ q' := hmax' id₀ q ((htopID id₀).mp hid₀)
      have hle₂ : q' ≤ q := hmax id q' hlisted'
      have heq : q' = q := by omega
      exact (htopID id).mpr (heq ▸ hlisted')
    have hoffered : ∀ id p, Offered (filterRosterEntries (listHostAuths files) top) id p ↔
        ListedAt files id p := by
      intro id p
      rw [offered_filterRosterEntries, offered_listHostAuths]
      exact and_iff_left_of_imp (hreach id p)
    have hexact : ∀ id, id ∈ top ↔ ∃ p, ListedAt files id p := by
      intro id
      constructor
      · intro hid
        exact ⟨q, (htopID id).mp hid⟩
      · rintro ⟨p, hlisted⟩
        exact hreach id p hlisted
    refine ⟨⟨snapshot, hsnap, ?_⟩, ?_, ?_, ?_⟩
    · intro id
      rw [hset, List.mem_toFinset, hexact]
    · rw [hrun.stored]
      exact hadmits.observed
    · intro id
      rw [hrun.stored, hrun.admits, List.mem_toFinset, hexact]
    · intro id p
      rw [hrun.stored, hadmits.tiers, hoffered]

private def twoFiles (priority : Option Int) : List HostFile :=
  [⟨"a", "1", "codex", some 10⟩, ⟨"b", "2", " Codex ", priority⟩]

private theorem reachesTop_twoFiles : ReachesTop (twoFiles (some 10)) := by
  have hlisted : ∀ id p, ListedAt (twoFiles (some 10)) id p → p = 10 := by
    rintro id p ⟨f, hf, -, -, -, rfl⟩
    simp only [twoFiles, mem_cons, not_mem_nil, or_false] at hf
    rcases hf with rfl | rfl <;> rfl
  intro id p h
  have hp := hlisted id p h
  subst hp
  refine ⟨10, h, ?_⟩
  intro id' p' h'
  have hp' := hlisted id' p' h'
  omega

theorem all_tiers_admitted_one_tier :
    AdmitsAllTiers (twoFiles (some 10))
      (((initial 1).step (.sync (twoFiles (some 10)) true)).run
        [.streamObserve "a" "" 0 { fiveHour := some {} }, .unpark "b"]) :=
  (all_tiers_admitted_iff (initial 1) (twoFiles (some 10))
    [.streamObserve "a" "" 0 { fiveHour := some {} }, .unpark "b"] rfl (by decide +kernel)
    (by decide +kernel)).mpr reachesTop_twoFiles

/-- The second file has no priority, so it is in a lower tier and is left out. -/
theorem lower_tier_left_out :
    (initial 1).state.cfg.scheduleAcrossPriorities = true ∧
      ListedAt (twoFiles none) "b" 0 ∧
      ∃ snapshot, ((initial 1).run [.sync (twoFiles none) true]).published = some snapshot ∧
        "b" ∉ snapshot.activeHighestTier ∧
        "b" ∉ ((initial 1).run [.sync (twoFiles none) true]).state.cpaAdmission.authIDs :=
  ⟨rfl, ⟨⟨"b", "2", " Codex ", none⟩, by simp [twoFiles], by decide +kernel, by decide, rfl, rfl⟩,
    _, rfl, by decide +kernel, by decide +kernel⟩

end QuotaScheduler.RosterAdmission

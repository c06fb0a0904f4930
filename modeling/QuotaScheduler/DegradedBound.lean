/- How long background requests go on after the first failed sync. -/

import QuotaScheduler.RosterLifecycle
import QuotaScheduler.Lib.VersionFilter

namespace QuotaScheduler.RosterController

open Lib.Runs Lib.VersionFilter Roster List Option

/-- The start time of the first failed sync since the last successful one. -/
def firstFailure : List SyncResult → Option Time
  | [] => none
  | .succeeded :: _ => none
  | .failed t :: rest => some ((firstFailure rest).getD t)

def Shared.republished (s : Shared) : Option ActiveRoster :=
  match s.inFlight with
  | some (.published _ next) => some next
  | some (.committed _ next _) => some next
  | _ => none

def SameMembers (a b : ActiveRoster) : Prop :=
  a.instances = b.instances ∧ a.entries = b.entries ∧ a.generation = b.generation

/-- The clock is not zero, and no notification is pending when a background request is checked. -/
def Orderly (w : System) (e : Event) : Prop :=
  e.now.isZero = false ∧ ((outcome w e).isSome = true → ∀ c ∈ w.shared.changes, c.notice ≠ .pending)

instance (w : System) (e : Event) : Decidable (Orderly w e) :=
  inferInstanceAs (Decidable (_ ∧ _))

section Captures

inductive Captured (old : ActiveRoster) : ActiveRoster → Prop
  | same : Captured old old
  | closed (hprov : old.provisional = false) (hsince : old.degradedSince.isZero = false) :
      Captured old (closedRoster old)
  | flagged (hprov : old.provisional = true) (allowed : Bool) (revision : Nat) :
      Captured old { old with backgroundAllowed := allowed, lifecycleRevision := revision }

variable {old cur : ActiveRoster}

theorem Captured.members (h : Captured old cur) : SameMembers old cur := by
  cases h <;> exact ⟨rfl, rfl, rfl⟩

theorem Captured.provisional (h : Captured old cur) : old.provisional = cur.provisional := by
  cases h <;> rfl

theorem Captured.confirmed (h : Captured old cur) : old.confirmed = cur.confirmed := by
  cases h <;> rfl

theorem Captured.confirmedAt (h : Captured old cur) : old.confirmedAt = cur.confirmedAt := by
  cases h <;> rfl

theorem Captured.degradedSince (h : Captured old cur) : old.degradedSince = cur.degradedSince := by
  cases h <;> rfl

theorem Captured.revision (h : Captured old cur) (hprov : cur.provisional = false) :
    old.lifecycleRevision ≤ cur.lifecycleRevision ∧
      cur.lifecycleRevision ≤ old.lifecycleRevision + 1 := by
  cases h with
  | same => exact ⟨le_rfl, Nat.le_succ _⟩
  | closed => exact ⟨Nat.le_succ _, le_rfl⟩
  | flagged htrue => nomatch htrue.symm.trans hprov

theorem Captured.eq_of_since (h : Captured old cur) (hprov : cur.provisional = false)
    (hsince : cur.degradedSince.isZero = true) : cur = old := by
  cases h with
  | same => rfl
  | closed _ hnot => nomatch hsince.symm.trans hnot
  | flagged htrue => nomatch htrue.symm.trans hprov

theorem Captured.close {now : Time} (h : Captured old cur) (hprov : cur.provisional = false)
    (hlimit : limitReached cur now = true) : Captured old (closedRoster cur) := by
  simp only [limitReached, Bool.and_eq_true, decide_eq_true_eq, Bool.not_eq_true'] at hlimit
  obtain ⟨⟨⟨-, hhealth⟩, hsince⟩, -⟩ := hlimit
  cases h with
  | same => exact .closed hprov hsince
  | closed => simp [closedRoster] at hhealth
  | flagged htrue => cases htrue.symm.trans hprov

theorem Captured.flag (h : Captured old cur) (hprov : cur.provisional = true) (allowed : Bool) :
    Captured old (Shared.flagged cur allowed) := by
  cases h with
  | same => exact .flagged hprov allowed _
  | closed hfalse => nomatch hprov.symm.trans hfalse
  | flagged htrue => exact .flagged htrue allowed _

end Captures

structure Fresh (old next : ActiveRoster) : Prop where
  capability : next.capability = .capabilityA
  confirmed : next.confirmed = true
  provisional : next.provisional = false
  confirmedAt : next.confirmedAt.isZero = false
  degradedSince : next.degradedSince = .zero
  health : next.health = .healthy
  revision : next.lifecycleRevision = old.lifecycleRevision + 1
  tier : ∃ q ids, highestCodexTier next.entries = some (q, ids)

variable {t : Time} {w : System} {e : Event}

theorem fresh_nextRoster {old next : ActiveRoster} {entries : List RosterEntry}
    (ht : t.isZero = false) (h : nextRoster old t entries = some next) : Fresh old next := by
  unfold nextRoster at h
  split at h
  case h_1 => cases h
  case h_2 priority ids htier =>
    cases h
    obtain ⟨hne, -, hids⟩ := highestCodexTier_some htier
    -- the filter keeps an entry that offers the tier
    obtain ⟨id, hid⟩ := exists_mem_of_ne_nil ids hne
    obtain ⟨entry, hentry, hsame, hoffers⟩ := (hids id).mp hid
    have hkept : Offered (filterRosterEntries entries ids) id priority := by
      refine ⟨entry, ?_, hsame, hoffers⟩
      refine (Lib.RankSort.perm_sortSlice _ _).mem_iff.mpr (mem_filter.mpr ⟨hentry, ?_⟩)
      rw [hsame]
      exact decide_eq_true hid
    exact ⟨rfl, rfl, rfl, ht, rfl, rfl, rfl, highestCodexTier_isSome hkept⟩

section Copy

def Closed (r : HostRosterSnapshot) : Prop :=
  r.provisional = true ∨ normalRosterBackgroundAllowed (normalizeHostRosterLifecycle r) = false

def SafeAt (since : Time) (r : HostRosterSnapshot) : Prop :=
  Closed r ∨ (r.capability = .capabilityA ∧ r.confirmed = true ∧ r.health = .degraded ∧
    r.degradedSince = since)

@[simp]
theorem normalize_provisional (r : HostRosterSnapshot) :
    (normalizeHostRosterLifecycle r).provisional = r.provisional := by
  unfold normalizeHostRosterLifecycle
  split <;> rfl

@[simp]
theorem normalize_revision (r : HostRosterSnapshot) :
    (normalizeHostRosterLifecycle r).lifecycleRevision = r.lifecycleRevision := by
  unfold normalizeHostRosterLifecycle
  split <;> rfl

variable {r : HostRosterSnapshot}

theorem normalize_of_health (h : r.health ≠ .unset) :
    normalizeHostRosterLifecycle r = r := if_neg fun hunset => h hunset.2

theorem closed_of_health (h : r.health = .failClosed) : Closed r := by
  refine .inr ?_
  rw [normalize_of_health (by rw [h]; decide)]
  simp [normalRosterBackgroundAllowed, h]

theorem failClosedRosterAt_closes {now : Time} (h : (failClosedRosterAt r now).2 = true) :
    Closed (failClosedRosterAt r now).1 ∧
      (failClosedRosterAt r now).1.lifecycleRevision = r.lifecycleRevision + 1 := by
  unfold failClosedRosterAt at h ⊢
  dsimp only at h ⊢
  split at h
  · cases h
  · rename_i hnot
    rw [if_neg hnot]
    exact ⟨closed_of_health rfl, by simp⟩

theorem before_limit_of_issued {settings : Option ProbeSettings} {now since : Time} {probe : Bool}
    {m : Marker} (hsafe : SafeAt since r) (hsince : since.isZero = false)
    (hprov : r.provisional = false)
    (hissued : doBackgroundHTTPRequest r settings now probe = .issued m) :
    now < since + rosterDegradedLimit := by
  rcases hsafe with (htrue | hclosed) | ⟨hcap, hconf, hhealth, hs⟩
  · nomatch hprov.symm.trans htrue
  · -- neither kind of permission is given
    have hprobe : provisionalProbeBackgroundAllowed (normalizeHostRosterLifecycle r) = false := by
      simp [provisionalProbeBackgroundAllowed, hprov]
    simp only [doBackgroundHTTPRequest, hclosed, hprobe, Bool.and_false, Bool.or_false,
      Bool.not_false, if_true, ite_self] at hissued
    split_ifs at hissued
  · have hnorm : normalizeHostRosterLifecycle r = r :=
      normalize_of_health (by rw [hhealth]; decide)
    by_contra hpast
    have hexpired : (failClosedRosterAt r now).2 = true := by
      have hbefore : now.before (since + rosterDegradedLimit) = false := decide_eq_false hpast
      simp only [failClosedRosterAt, hnorm, hcap, hconf, hhealth, hbefore, hs, hsince]
      simp
    simp only [doBackgroundHTTPRequest, hnorm, hexpired, if_true] at hissued
    cases hissued

theorem observe_delivered (since : Time) (r : HostRosterSnapshot) {active : ActiveRoster}
    (settings : Option ProbeSettings) (now : Time) (hrev : 0 < active.lifecycleRevision) :
    Delivered (·.lifecycleRevision) (SafeAt since) r (hostRosterSnapshotFromActive active)
        (observeRosterLifecycle r active settings now) ∧
      (active.provisional = true → observeRosterLifecycle r active settings now = r ∨
        Closed (observeRosterLifecycle r active settings now)) := by
  have hne : ¬active.lifecycleRevision = 0 := Nat.pos_iff_ne_zero.mp hrev
  unfold observeRosterLifecycle
  dsimp only
  split_ifs with hdim hzero hold hold' hzero hold hold'
  · exact absurd hzero hne
  · exact absurd hzero hne
  · exact ⟨.inl ⟨rfl, hold'⟩, fun _ => .inl rfl⟩
  · exact ⟨.inr ⟨Nat.not_le.mp hold', rfl, fun _ => .inl (.inl hdim.1)⟩,
      fun hprov => .inr (.inl hprov)⟩
  · exact absurd hzero hne
  · exact absurd hzero hne
  · exact ⟨.inl ⟨rfl, hold'⟩, fun _ => .inl rfl⟩
  · exact ⟨.inr ⟨Nat.not_le.mp hold', rfl, id⟩, fun hprov => .inr (.inl hprov)⟩

variable {now : Time}

theorem publish_roster {old next : ActiveRoster} (hfresh : Fresh old next) (p : Publication) :
    (publishAuthoritativeRoster p now r (hostRosterSnapshotFromActive next) = (r, false)) ∨
      ((publishAuthoritativeRoster p now r (hostRosterSnapshotFromActive next)).2 = true ∧
        (publishAuthoritativeRoster p now r
          (hostRosterSnapshotFromActive next)).1.lifecycleRevision = next.lifecycleRevision) := by
  have hnorm : normalizeHostRosterLifecycle (hostRosterSnapshotFromActive next) =
      hostRosterSnapshotFromActive next := by
    refine normalize_of_health ?_
    change next.health ≠ .unset
    rw [hfresh.health]
    decide
  obtain ⟨q, ids, htier⟩ := hfresh.tier
  have hadmits : ∃ admission, rosterAdmission p.cfg next.entries = some admission := by
    unfold rosterAdmission
    rw [htier]
    dsimp only
    split <;> exact ⟨_, rfl⟩
  obtain ⟨admission, hadmission⟩ := hadmits
  unfold publishAuthoritativeRoster
  dsimp only
  rw [hnorm]
  split
  · exact .inl rfl
  · have hentries : (hostRosterSnapshotFromActive next).entries = next.entries := rfl
    rw [hentries, hadmission]
    dsimp only
    have hcap : ¬(hostRosterSnapshotFromActive next).capability ≠ .capabilityA :=
      not_not.mpr hfresh.capability
    rw [if_neg hcap]
    cases p.reconciled with
    | none => exact .inl rfl
    | some generation => exact .inr ⟨rfl, rfl⟩

end Copy

section Invariant

def PhaseOk (cur : ActiveRoster) : Option SyncPhase → Prop
  | none => True
  | some (.listing t) => t.isZero = false
  | some (.publishing t old next) => t.isZero = false ∧ Captured old cur ∧ Fresh old next
  | some (.published old next) => Captured old cur ∧ Fresh old next
  | some (.committed old next _) => Captured old cur ∧ Fresh old next

theorem PhaseOk.of_captured {cur cur' : ActiveRoster} {phase : Option SyncPhase}
    (h : PhaseOk cur phase) (hcur : ∀ old, Captured old cur → Captured old cur') :
    PhaseOk cur' phase := by
  cases phase with
  | none => trivial
  | some phase =>
    cases phase with
    | listing t => exact h
    | publishing t old next => exact ⟨h.1, hcur old h.2.1, h.2.2⟩
    | published old next | committed old next generation => exact ⟨hcur old h.1, h.2⟩

def Sure (s : Shared) (r : HostRosterSnapshot) : Prop :=
  ∃ c ∈ s.changes, c.notice = .pending ∧ hostRosterSnapshotFromActive c.active = r

def Possible (s : Shared) (r : HostRosterSnapshot) : Prop :=
  ∃ c ∈ s.changes, c.notice ≠ .observed ∧ hostRosterSnapshotFromActive c.active = r

def Level (r : HostRosterSnapshot) (revision : Nat) : Prop :=
  r.lifecycleRevision ≤ revision ∨ Closed r

structure Guarded (s : Shared) : Prop where
  republished : ∀ next, s.republished = some next → Level s.roster next.lifecycleRevision
  healthy : s.current.confirmed = true → s.republished = none →
    s.current.degradedSince.isZero = true → Level s.roster s.current.lifecycleRevision
  degraded : s.current.confirmed = true → s.republished = none →
    s.current.degradedSince.isZero = false →
    Shielded (·.lifecycleRevision) (SafeAt s.current.degradedSince) s.roster (Sure s) (Possible s)

structure Tracked (s : Shared) : Prop where
  phase : PhaseOk s.current s.inFlight
  confirmed : s.current.confirmed = true ↔
    s.current.provisional = false ∧ s.current.confirmedAt.isZero = false
  since : s.current.confirmed = true →
    s.current.degradedSince = (firstFailure s.results).getD .zero
  started : ∀ t, firstFailure s.results = some t → t.isZero = false
  positive : ∀ c ∈ s.changes, 0 < c.active.lifecycleRevision
  bounded : ∀ c ∈ s.changes, c.active.provisional = false →
    s.current.provisional = false ∧ c.active.lifecycleRevision ≤ s.current.lifecycleRevision

variable {s : Shared}

theorem Tracked.not_confirmed (h : Tracked s) (hprov : s.current.provisional = true) :
    s.current.confirmed = false := by
  by_contra hconf
  have := (h.confirmed.mp (Bool.eq_true_of_not_eq_false hconf)).1
  nomatch hprov.symm.trans this

theorem failedRoster_keeps (old : ActiveRoster) (t : Time) :
    SameMembers (failedRoster old t) old ∧ (failedRoster old t).provisional = old.provisional ∧
      (failedRoster old t).confirmedAt = old.confirmedAt := by
  by_cases h : old.provisional = true ∨ old.confirmedAt.isZero = true
  · rw [failedRoster_of_unconfirmed t h]
    exact ⟨⟨rfl, rfl, rfl⟩, rfl, rfl⟩
  · obtain ⟨hprov, hat⟩ := not_or.mp h
    obtain ⟨since, -, hroster⟩ := failedRoster_of_confirmed t
      (Bool.eq_false_iff.mpr hprov) (Bool.eq_false_iff.mpr hat)
    rw [hroster]
    exact ⟨⟨rfl, rfl, rfl⟩, rfl, rfl⟩

variable {old : ActiveRoster}

theorem failedRoster_safe (hprov : old.provisional = false) (hat : old.confirmedAt.isZero = false) :
    (failedRoster old t).confirmed = old.confirmed ∧ (failedRoster old t).degradedSince =
        (if old.degradedSince.isZero then t else old.degradedSince) ∧
      SafeAt (failedRoster old t).degradedSince
        (hostRosterSnapshotFromActive (failedRoster old t)) := by
  obtain ⟨since, hsince, hroster⟩ := failedRoster_of_confirmed t hprov hat
  refine ⟨by rw [hroster], by rw [hroster, hsince], ?_⟩
  rw [hroster]
  by_cases hopen : old.capability = .capabilityA ∧ old.confirmed = true ∧
      t - since < rosterDegradedLimit
  · obtain ⟨hcap, hconf, hlt⟩ := hopen
    exact .inr ⟨hcap, hconf, if_pos hlt, rfl⟩
  · refine .inl (.inr ?_)
    rw [normalize_of_health]
    rotate_left
    · change (if t - since < rosterDegradedLimit then RosterHealth.degraded else .failClosed) ≠ _
      split_ifs <;> decide
    by_cases hlt : t - since < rosterDegradedLimit
    · have hbranch : ¬(old.capability = .capabilityA ∧ old.confirmed = true) :=
        fun h => hopen ⟨h.1, h.2, hlt⟩
      by_cases hcap : old.capability = .capabilityA
      · have hconf : old.confirmed = false := Bool.eq_false_iff.mpr fun h => hbranch ⟨hcap, h⟩
        simp [normalRosterBackgroundAllowed, hostRosterSnapshotFromActive, hconf]
      · simp [normalRosterBackgroundAllowed, hostRosterSnapshotFromActive, hcap]
    · simp [normalRosterBackgroundAllowed, hostRosterSnapshotFromActive, hlt]

theorem provisional_of_not_safe {since : Time} {active : ActiveRoster}
    (h : ¬SafeAt since (hostRosterSnapshotFromActive active)) : active.provisional = false := by
  by_contra hprov
  exact h (.inl (.inl (Bool.eq_true_of_not_eq_false hprov)))

theorem Tracked.unsafe_le (h : Tracked s) {since : Time} {r : HostRosterSnapshot}
    (hr : Possible s r) (hrisk : ¬SafeAt since r) :
    r.lifecycleRevision ≤ s.current.lifecycleRevision := by
  obtain ⟨c, hc, -, rfl⟩ := hr
  exact (h.bounded c hc (provisional_of_not_safe hrisk)).2

section Changes

variable {active : ActiveRoster} {notice : Notice}

theorem mem_change {c : Change} :
    c ∈ (s.change active notice).changes ↔ c ∈ s.changes ∨ c = ⟨active, notice⟩ := by
  simp [Shared.change]

theorem Tracked.positive_change (h : Tracked s) (hrev : 0 < active.lifecycleRevision) :
    ∀ c ∈ (s.change active notice).changes, 0 < c.active.lifecycleRevision := by
  intro c hc
  rcases mem_change.mp hc with hold | rfl
  · exact h.positive c hold
  · exact hrev

theorem Tracked.bounded_change (h : Tracked s)
    (hprov : s.current.provisional = false → active.provisional = false ∧
      s.current.lifecycleRevision ≤ active.lifecycleRevision) :
    ∀ c ∈ (s.change active notice).changes, c.active.provisional = false →
      active.provisional = false ∧ c.active.lifecycleRevision ≤ active.lifecycleRevision := by
  intro c hc hcprov
  rcases mem_change.mp hc with hold | rfl
  · obtain ⟨hcur, hle⟩ := h.bounded c hold hcprov
    obtain ⟨hact, hrev⟩ := hprov hcur
    exact ⟨hact, hle.trans hrev⟩
  · exact ⟨hcprov, le_rfl⟩

theorem sure_change {r : HostRosterSnapshot} (h : Sure s r) : Sure (s.change active notice) r := by
  obtain ⟨c, hc, hpending, hr⟩ := h
  exact ⟨c, mem_change.mpr (.inl hc), hpending, hr⟩

theorem possible_change {since : Time} {r : HostRosterSnapshot}
    (hsafe : SafeAt since (hostRosterSnapshotFromActive active))
    (h : Possible (s.change active notice) r) (hrisk : ¬SafeAt since r) : Possible s r := by
  obtain ⟨c, hc, hnotice, rfl⟩ := h
  rcases mem_change.mp hc with hold | rfl
  · exact ⟨c, hold, hnotice, rfl⟩
  · exact absurd hsafe hrisk

end Changes

variable {now : Time} {i : Nat} {c : Change} {next : ActiveRoster}

theorem confirmed_of_failed (h : (failedRoster old t).confirmed = true) :
    old.provisional = false ∧ old.confirmedAt.isZero = false ∧ old.confirmed = true := by
  by_cases hor : old.provisional = true ∨ old.confirmedAt.isZero = true
  · rw [failedRoster_of_unconfirmed t hor] at h
    cases h
  · simp only [not_or, Bool.not_eq_true] at hor
    exact ⟨hor.1, hor.2, (failedRoster_safe hor.1 hor.2).1.symm.trans h⟩

theorem since_of_failed (ht : t.isZero = false)
    (hprov : old.provisional = false) (hat : old.confirmedAt.isZero = false) :
    (failedRoster old t).degradedSince.isZero = false := by
  rw [(failedRoster_safe hprov hat).2.1]
  split_ifs with hzero
  · exact ht
  · exact Bool.eq_false_iff.mpr hzero

theorem tracked_fail (h : Tracked s) (ht : t.isZero = false)
    (hcap : Captured old s.current) : Tracked (s.fail t old) := by
  obtain ⟨-, hprov, hat⟩ := failedRoster_keeps old t
  refine ⟨trivial, ⟨?_, ?_⟩, ?_, ?_, ?_, ?_⟩
  · intro hconf
    obtain ⟨hp, ha, -⟩ := confirmed_of_failed hconf
    exact ⟨hprov.trans hp, (congrArg Time.isZero hat).trans ha⟩
  · rintro ⟨hp, ha⟩
    have hp' : old.provisional = false := hprov.symm.trans hp
    have ha' : old.confirmedAt.isZero = false := (congrArg Time.isZero hat).symm.trans ha
    have hcur : s.current.confirmed = true := by
      refine h.confirmed.mpr ⟨hcap.provisional.symm.trans hp', ?_⟩
      rw [← hcap.confirmedAt]
      exact ha'
    exact ((failedRoster_safe hp' ha').1.trans hcap.confirmed).trans hcur
  · intro hconf
    obtain ⟨hp, ha, hold⟩ := confirmed_of_failed hconf
    have hsince := h.since (hcap.confirmed ▸ hold)
    change (failedRoster old t).degradedSince = (some ((firstFailure s.results).getD t)).getD _
    rw [(failedRoster_safe hp ha).2.1, hcap.degradedSince, hsince]
    cases hfirst : firstFailure s.results with
    | none => rfl
    | some first =>
      have hstarted := h.started first hfirst
      simp [hstarted]
  · intro first hfirst
    obtain rfl : (firstFailure s.results).getD t = first := some.inj hfirst
    cases hrest : firstFailure s.results with
    | none => exact ht
    | some first => exact h.started first hrest
  · exact h.positive_change (Nat.succ_pos _)
  · refine h.bounded_change fun hcur => ⟨?_, ?_⟩
    · exact hprov.trans (hcap.provisional.trans hcur)
    · exact (hcap.revision hcur).2

theorem mem_set_active {l : List Change} {c' : Change} {notice : Notice} (hc : l[i]? = some c)
    (h : c' ∈ l.set i { c with notice := notice }) : ∃ c'' ∈ l, c''.active = c'.active := by
  rcases mem_or_eq_of_mem_set h with hmem | rfl
  · exact ⟨c', hmem, rfl⟩
  · exact ⟨c, mem_of_getElem? hc, rfl⟩

variable {notice : Notice} {roster : HostRosterSnapshot}

theorem tracked_set (h : Tracked s) (hc : s.changes[i]? = some c) :
    Tracked { s with
      changes := s.changes.set i { c with notice := notice }
      roster := roster } := by
  refine ⟨h.phase, h.confirmed, h.since, h.started, ?_, ?_⟩
  · intro c' hc'
    obtain ⟨c'', hmem, hsame⟩ := mem_set_active hc hc'
    rw [← hsame]
    exact h.positive c'' hmem
  · intro c' hc' hprov
    obtain ⟨c'', hmem, hsame⟩ := mem_set_active hc hc'
    rw [← hsame] at hprov ⊢
    exact h.bounded c'' hmem hprov

variable {generation : Nat}

theorem tracked_succeed (h : Tracked s)
    (hfresh : Fresh old next) : Tracked (s.succeed next generation) := by
  refine ⟨trivial, ⟨fun _ => ⟨hfresh.provisional, hfresh.confirmedAt⟩, fun _ => hfresh.confirmed⟩,
    fun _ => hfresh.degradedSince, ?_, ?_, ?_⟩
  · intro t ht
    cases ht
  · refine h.positive_change ?_
    exact Nat.lt_of_le_of_lt (Nat.zero_le _) (lt_committedRoster s.current next generation)
  · refine h.bounded_change fun _ => ⟨hfresh.provisional, ?_⟩
    exact (lt_committedRoster s.current next generation).le

theorem tracked_close (h : Tracked s) (hlimit : limitReached s.current now = true) :
    Tracked (s.change (closedRoster s.current) .pending) := by
  have hprov : s.current.provisional = false := by
    simp only [limitReached, Bool.and_eq_true] at hlimit
    exact (h.confirmed.mp hlimit.1.1.1).1
  refine ⟨h.phase.of_captured fun old hold => hold.close hprov hlimit, h.confirmed, h.since,
    h.started, ?_, ?_⟩
  · exact h.positive_change (Nat.succ_pos _)
  · exact h.bounded_change fun hcur => ⟨hcur, Nat.le_succ _⟩

variable {allowed : Bool}

theorem tracked_flag (h : Tracked s) (hprov : s.current.provisional = true) :
    Tracked (s.change (Shared.flagged s.current allowed) notice) := by
  refine ⟨h.phase.of_captured fun old hold => hold.flag hprov allowed, h.confirmed, h.since,
    h.started, ?_, ?_⟩
  · exact h.positive_change (Nat.succ_pos _)
  · exact h.bounded_change fun hcur => ⟨hcur, Nat.le_succ _⟩

theorem tracked_move {s s' : Shared} {e : Event} (h : Tracked s) (hnow : e.now.isZero = false)
    (hmove : Move e s s') : Tracked s' := by
  have hphaseOk := h.phase
  cases hmove with
  | stays => exact h
  | starts _ => exact ⟨hnow, h.confirmed, h.since, h.started, h.positive, h.bounded⟩
  | captures t entries next _ hphase hnext =>
    rw [hphase] at hphaseOk
    exact ⟨⟨hphaseOk, .same, fresh_nextRoster hphaseOk hnext⟩, h.confirmed, h.since, h.started,
      h.positive, h.bounded⟩
  | publishes t old next p _ hphase _ =>
    rw [hphase] at hphaseOk
    exact ⟨hphaseOk.2, h.confirmed, h.since, h.started, h.positive, h.bounded⟩
  | commits old next hphase =>
    rw [hphase] at hphaseOk
    exact ⟨hphaseOk, h.confirmed, h.since, h.started, h.positive, h.bounded⟩
  | listFails t hphase _ =>
    rw [hphase] at hphaseOk
    exact tracked_fail h hphaseOk .same
  | publishFails t old next p hphase _ _ =>
    rw [hphase] at hphaseOk
    refine tracked_fail ?_ hphaseOk.1 hphaseOk.2.1
    exact ⟨h.phase, h.confirmed, h.since, h.started, h.positive, h.bounded⟩
  | succeeds old next generation _ hphase =>
    rw [hphase] at hphaseOk
    exact tracked_succeed h hphaseOk.2
  | closes hlimit => exact tracked_close h hlimit
  | flags allowed notice hprov => exact tracked_flag h hprov
  | sends i c hc _ => exact tracked_set h hc
  | notifies i c settings hc _ => exact tracked_set h hc
  | expires _ => exact ⟨h.phase, h.confirmed, h.since, h.started, h.positive, h.bounded⟩

theorem guarded_fail (hT : Tracked s) (hG : Guarded s)
    (ht : t.isZero = false) (hcap : Captured old s.current) (hnone : s.republished = none) :
    Guarded (s.fail t old) := by
  refine ⟨?_, ?_, ?_⟩
  · intro next hnext
    cases hnext
  · intro hconf _ hzero
    obtain ⟨hp, ha, -⟩ := confirmed_of_failed hconf
    exact absurd (hzero.symm.trans (since_of_failed ht hp ha)) (by decide)
  · intro hconf _ _
    obtain ⟨hp, ha, hold⟩ := confirmed_of_failed hconf
    obtain ⟨-, hsince, hsafe⟩ := failedRoster_safe (t := t) hp ha
    have hcur : s.current.confirmed = true := hcap.confirmed ▸ hold
    have hpcur : s.current.provisional = false := hcap.provisional.symm.trans hp
    by_cases hzero : s.current.degradedSince.isZero = true
    · -- the first failure: nothing unsafe is newer than the roster it replaces
      obtain rfl := hcap.eq_of_since hpcur hzero
      refine .of_send ⟨_, mem_change.mpr (.inr rfl), rfl, rfl⟩ hsafe ?_ ?_
      · rcases hG.healthy hcur hnone hzero with hle | hclosed
        · exact .inl (Nat.lt_succ_of_le hle)
        · exact .inr (.inl hclosed)
      · intro r hr hrisk
        have hposs : Possible s r := possible_change hsafe hr hrisk
        exact Nat.lt_succ_of_le (hT.unsafe_le hposs hrisk)
    · have hfalse : s.current.degradedSince.isZero = false := Bool.eq_false_iff.mpr hzero
      have hsame : (failedRoster old t).degradedSince = s.current.degradedSince := by
        rw [hsince, hcap.degradedSince, if_neg hzero]
      have hshield := hG.degraded hcur hnone hfalse
      rw [← hsame] at hshield
      exact hshield.of_messages (fun r hr => sure_change hr)
        (fun r hr hrisk => possible_change hsafe hr hrisk)

theorem guarded_succeed {generation : Nat} (hG : Guarded s)
    (hfresh : Fresh old next) (hphase : s.inFlight = some (.committed old next generation)) :
    Guarded (s.succeed next generation) := by
  have hlevel := hG.republished next (by simp [Shared.republished, hphase])
  have hle : next.lifecycleRevision ≤
      (committedRoster s.current next generation).lifecycleRevision := by
    simp only [committedRoster]
    split_ifs <;> omega
  refine ⟨?_, ?_, ?_⟩
  · intro next' hnext
    cases hnext
  · intro _ _ _
    exact hlevel.imp_left fun h => h.trans hle
  · intro _ _ hfalse
    have hsince : (s.succeed next generation).current.degradedSince = .zero :=
      hfresh.degradedSince
    rw [hsince] at hfalse
    cases hfalse

theorem guarded_close (hG : Guarded s) (hlimit : limitReached s.current now = true) :
    Guarded (s.change (closedRoster s.current) .pending) := by
  simp only [limitReached, Bool.and_eq_true, decide_eq_true_eq, Bool.not_eq_true'] at hlimit
  obtain ⟨⟨⟨hconf, -⟩, hsince⟩, -⟩ := hlimit
  refine ⟨hG.republished, ?_, ?_⟩
  · intro _ _ hzero
    cases hzero.symm.trans hsince
  · intro _ hnone _
    have hsafe : SafeAt s.current.degradedSince
        (hostRosterSnapshotFromActive (closedRoster s.current)) := .inl (closed_of_health rfl)
    exact (hG.degraded hconf hnone hsince).of_messages (fun r hr => sure_change hr)
      (fun r hr hrisk => possible_change hsafe hr hrisk)

theorem guarded_flag (hT : Tracked s) (hG : Guarded s) (hprov : s.current.provisional = true) :
    Guarded (s.change (Shared.flagged s.current allowed) notice) := by
  have hfalse := hT.not_confirmed hprov
  refine ⟨hG.republished, ?_, ?_⟩
  · intro hconf
    nomatch hconf.symm.trans hfalse
  · intro hconf
    nomatch hconf.symm.trans hfalse

theorem mem_set_of_ne {l : List Change} {c' x : Change} (hc : l[i]? = some c) (hmem : c' ∈ l)
    (hne : c' ≠ c) : c' ∈ l.set i x := by
  obtain ⟨j, hj, rfl⟩ := getElem_of_mem hmem
  have hij : i ≠ j := by
    rintro rfl
    rw [getElem?_eq_getElem hj] at hc
    exact hne (some.inj hc)
  refine mem_iff_getElem.mpr ⟨j, by rwa [length_set], ?_⟩
  exact getElem_set_of_ne hij x _

theorem guarded_send (hG : Guarded s) (hc : s.changes[i]? = some c) (hnotice : c.notice = .unsent) :
    Guarded { s with changes := s.changes.set i { c with notice := .pending } } := by
  refine ⟨hG.republished, hG.healthy, fun hconf hnone hsince => ?_⟩
  refine (hG.degraded hconf hnone hsince).of_messages ?_ ?_
  · rintro r ⟨c', hmem, hpending, hr⟩
    have hne : c' ≠ c := by
      rintro rfl
      nomatch hnotice.symm.trans hpending
    exact ⟨c', mem_set_of_ne hc hmem hne, hpending, hr⟩
  · rintro r ⟨c', hmem, hopen, rfl⟩ _
    rcases mem_or_eq_of_mem_set hmem with hold | rfl
    · exact ⟨c', hold, hopen, rfl⟩
    · exact ⟨c, mem_of_getElem? hc, by rw [hnotice]; decide, rfl⟩

variable {settings : Option ProbeSettings}

theorem level_observe {revision : Nat}
    (hlevel : Level s.roster revision) (hrev : 0 < c.active.lifecycleRevision)
    (hle : c.active.provisional = false → c.active.lifecycleRevision ≤ revision) :
    Level (observeRosterLifecycle s.roster c.active settings now) revision := by
  obtain ⟨hdelivered, hprovisional⟩ := observe_delivered .zero s.roster settings now hrev
  by_cases hprov : c.active.provisional = true
  · rcases hprovisional hprov with hsame | hclosed
    · rw [hsame]
      exact hlevel
    · exact .inr hclosed
  · rcases hdelivered with ⟨hsame, -⟩ | ⟨-, hversion, -⟩
    · rw [hsame]
      exact hlevel
    · refine .inl (hversion.trans_le ?_)
      exact hle (Bool.eq_false_iff.mpr hprov)

theorem Tracked.republished_bound (h : Tracked s) (hnext : s.republished = some next)
    (hc : c ∈ s.changes) (hprov : c.active.provisional = false) :
    c.active.lifecycleRevision ≤ next.lifecycleRevision := by
  obtain ⟨hcur, hle⟩ := h.bounded c hc hprov
  have hphase := h.phase
  have hcaptured : ∃ old, Captured old s.current ∧ Fresh old next := by
    unfold Shared.republished at hnext
    split at hnext
    case h_1 old next' hflight =>
      cases hnext
      rw [hflight] at hphase
      exact ⟨old, hphase⟩
    case h_2 old next' generation hflight =>
      cases hnext
      rw [hflight] at hphase
      exact ⟨old, hphase⟩
    case h_3 => cases hnext
  obtain ⟨old, hcap, hfresh⟩ := hcaptured
  rw [hfresh.revision]
  exact hle.trans (hcap.revision hcur).2

theorem guarded_notify (hT : Tracked s) (hG : Guarded s) (hc : s.changes[i]? = some c)
    (hnotice : c.notice = .pending) :
    Guarded { s with
        changes := s.changes.set i { c with notice := .observed }
        roster := observeRosterLifecycle s.roster c.active settings now } := by
  have hmem := mem_of_getElem? hc
  have hrev := hT.positive c hmem
  refine ⟨?_, ?_, ?_⟩
  · intro next hnext
    exact level_observe (hG.republished next hnext) hrev (hT.republished_bound hnext hmem)
  · intro hconf hnone hzero
    exact level_observe (hG.healthy hconf hnone hzero) hrev
      (fun hprov => (hT.bounded c hmem hprov).2)
  · intro hconf hnone hsince
    refine (hG.degraded hconf hnone hsince).deliver (m := hostRosterSnapshotFromActive c.active)
      ?_ ?_ ?_ (observe_delivered _ s.roster settings now hrev).1
    · exact ⟨c, hmem, by rw [hnotice]; decide, rfl⟩
    · rintro r ⟨c', hmem', hpending, hr⟩
      by_cases hsame : c' = c
      · exact .inl (by rw [← hr, hsame])
      · exact .inr ⟨c', mem_set_of_ne hc hmem' hsame, hpending, hr⟩
    · rintro r ⟨c', hmem', hopen, rfl⟩
      rcases mem_or_eq_of_mem_set hmem' with hold | rfl
      · exact ⟨c', hold, hopen, rfl⟩
      · exact absurd rfl hopen

theorem guarded_expire (hG : Guarded s) (hexpired : (failClosedRosterAt s.roster now).2 = true) :
    Guarded { s with roster := (failClosedRosterAt s.roster now).1 } := by
  obtain ⟨hclosed, hrev⟩ := failClosedRosterAt_closes hexpired
  refine ⟨fun _ _ => .inr hclosed, fun _ _ _ => .inr hclosed, fun hconf hnone hsince => ?_⟩
  refine (hG.degraded hconf hnone hsince).replace (.inl hclosed) ?_
  rw [hrev]
  exact Nat.le_succ _

theorem guarded_of_republished (next : ActiveRoster) (h : s.republished = some next)
    (hlevel : Level s.roster next.lifecycleRevision) : Guarded s where
  republished _ h' := some.inj (h.symm.trans h') ▸ hlevel
  healthy _ hnone := nomatch h.symm.trans hnone
  degraded _ hnone := nomatch h.symm.trans hnone

theorem guarded_move {s s' : Shared} {e : Event} (hT : Tracked s) (hG : Guarded s)
    (hmove : Move e s s') : Guarded s' := by
  have hphaseOk := hT.phase
  cases hmove with
  | stays => exact hG
  | starts hfree =>
    have hnone : s.republished = none := by simp [Shared.republished, hfree]
    refine ⟨?_, fun hconf _ => hG.healthy hconf hnone, fun hconf _ => hG.degraded hconf hnone⟩
    rintro next' ⟨⟩
  | captures t entries next _ hphase _ =>
    have hnone : s.republished = none := by simp [Shared.republished, hphase]
    refine ⟨?_, fun hconf _ => hG.healthy hconf hnone, fun hconf _ => hG.degraded hconf hnone⟩
    rintro next' ⟨⟩
  | publishes t old next p _ hphase hdone =>
    rw [hphase] at hphaseOk
    refine guarded_of_republished next rfl ?_
    rcases publish_roster hphaseOk.2.2 p with hfail | ⟨-, hrev⟩
    · rw [hfail] at hdone
      cases hdone
    · exact .inl (Nat.le_of_eq hrev)
  | commits old next hphase =>
    refine guarded_of_republished next rfl (hG.republished next ?_)
    rw [Shared.republished, hphase]
  | listFails t hphase _ =>
    rw [hphase] at hphaseOk
    exact guarded_fail hT hG hphaseOk .same (by simp [Shared.republished, hphase])
  | publishFails t old next p hphase herr _ =>
    have hnone : s.republished = none := by simp [Shared.republished, hphase]
    rw [hphase] at hphaseOk
    have hkept : (publishAuthoritativeRoster p e.now s.roster
        (hostRosterSnapshotFromActive next)).1 = s.roster := by
      rcases publish_roster hphaseOk.2.2 p with hfail | ⟨hdone, -⟩
      · rw [hfail]
      · nomatch herr.symm.trans hdone
    rw [hkept]
    exact guarded_fail hT hG hphaseOk.1 hphaseOk.2.1 hnone
  | succeeds old next generation _ hphase =>
    rw [hphase] at hphaseOk
    exact guarded_succeed hG hphaseOk.2 hphase
  | closes hlimit => exact guarded_close hG hlimit
  | flags allowed notice hprov => exact guarded_flag hT hG hprov
  | sends i c hc hnotice => exact guarded_send hG hc hnotice
  | notifies i c settings hc hnotice => exact guarded_notify hT hG hc hnotice
  | expires hexpired => exact guarded_expire hG hexpired

end Invariant

theorem newRosterController_confirmed (now : Time) (provisional : Option ActiveRoster) :
    (newRosterController now provisional).confirmed = false := by
  unfold newRosterController
  split
  · rfl
  · split <;> rfl

theorem tracked_initial (hw : Initial w) : Tracked w.shared := by
  obtain ⟨now, provisional, probeOnProvisional, roster, rfl⟩ := hw
  have hconf := newRosterController_confirmed now provisional
  have hopen : ¬((newRosterController now provisional).provisional = false ∧
      (newRosterController now provisional).confirmedAt.isZero = false) := by
    unfold newRosterController
    split
    · decide
    · split
      · decide
      · rintro ⟨hprov, -⟩
        cases hprov
  refine ⟨trivial, ⟨fun h => ?_, fun h => absurd h hopen⟩, fun h => ?_, ?_, ?_, ?_⟩
  · nomatch h.symm.trans hconf
  · nomatch h.symm.trans hconf
  · intro t ht
    cases ht
  · intro c hc
    cases hc
  · intro c hc
    cases hc

theorem guarded_initial (hw : Initial w) : Guarded w.shared := by
  obtain ⟨now, provisional, probeOnProvisional, roster, rfl⟩ := hw
  have hconf := newRosterController_confirmed now provisional
  refine ⟨fun next hnext => ?_, fun h => ?_, fun h => ?_⟩
  · cases hnext
  · nomatch h.symm.trans hconf
  · nomatch h.symm.trans hconf

variable {old : ActiveRoster}

theorem current_of_failing (hfails : failing w.shared e = some (t, old)) :
    (step w e).shared.current = failedRoster old t ∧
      (old = w.shared.current ∨ ∃ next, w.shared.inFlight = some (.publishing t old next)) := by
  unfold failing at hfails
  split at hfails
  case h_1 answer t' hact hphase =>
    split at hfails
    case isFalse => cases hfails
    case isTrue hnone =>
      cases hfails
      refine ⟨?_, .inl rfl⟩
      simp only [step, hact, Shared.list, hphase, isNone_iff_eq_none.mp hnone]
      rfl
  case h_2 p t' old' next hact hphase =>
    split at hfails
    case isTrue => cases hfails
    case isFalse herr =>
      cases hfails
      refine ⟨?_, .inr ⟨next, hphase⟩⟩
      simp only [step, hact, Shared.publish, hphase, herr, if_false, Bool.false_eq_true]
      rfl
  case h_3 => cases hfails

theorem members_of_failing (h : Tracked w.shared) (hfails : failing w.shared e = some (t, old)) :
    SameMembers (step w e).shared.current w.shared.current := by
  obtain ⟨hcurrent, hold⟩ := current_of_failing hfails
  have hcap : Captured old w.shared.current := by
    rcases hold with rfl | ⟨next, hphase⟩
    · exact .same
    · have hphaseOk := h.phase
      rw [hphase] at hphaseOk
      exact hphaseOk.2.1
  obtain ⟨⟨hi, he, hg⟩, -⟩ := failedRoster_keeps old t
  obtain ⟨hi', he', hg'⟩ := hcap.members
  rw [hcurrent]
  exact ⟨hi.trans hi', he.trans he', hg.trans hg'⟩

theorem issued_of_outcome {m : Marker} (h : outcome w e = some (.issued m)) :
    ∃ settings probe, doBackgroundHTTPRequest w.shared.roster settings e.now probe = .issued m := by
  unfold outcome at h
  split at h
  case h_1 n settings probe _ =>
    split at h
    case h_1 change _ =>
      split at h
      · exact ⟨settings, probe, some.inj h⟩
      · cases h
    case h_2 => cases h
  case h_2 => cases h

/-- If requests are checked with no notification pending: failed syncs keep the members, the
degradation dates from the first, and no request is issued past the limit. -/
theorem degraded_bound {w : System} (hw : Initial w) (events : Nat → Event)
    (hmeets : ∀ k, Orderly (stateAt step w events k) (events k)) (k : Nat) :
    (∀ t old, failing (stateAt step w events k).shared (events k) = some (t, old) →
        SameMembers (stateAt step w events (k + 1)).shared.current
          (stateAt step w events k).shared.current) ∧
      ((stateAt step w events k).shared.current.confirmed = true →
        (stateAt step w events k).shared.current.degradedSince =
          (firstFailure (stateAt step w events k).shared.results).getD Time.zero) ∧
      ∀ m, outcome (stateAt step w events k) (events k) = some (.issued m) →
        (stateAt step w events k).shared.roster.provisional = false →
        (stateAt step w events k).shared.current.confirmed = true →
        (stateAt step w events k).shared.current.degradedSince.isZero = false →
        (stateAt step w events k).shared.republished = none →
        (events k).now <
          (stateAt step w events k).shared.current.degradedSince + rosterDegradedLimit := by
  have hinv : Tracked (stateAt step w events k).shared ∧
      Guarded (stateAt step w events k).shared := by
    refine invariant_stateAt_of (P := fun w : System => Tracked w.shared ∧ Guarded w.shared)
      ⟨tracked_initial hw, guarded_initial hw⟩ ?_ hmeets k
    rintro w e ⟨hT, hG⟩ ⟨hnow, -⟩
    exact ⟨tracked_move hT hnow (step_moves w e), guarded_move hT hG (step_moves w e)⟩
  obtain ⟨hT, hG⟩ := hinv
  refine ⟨fun t old hfails => members_of_failing hT hfails, hT.since, ?_⟩
  intro m hissued hprov hconf hsince hnone
  obtain ⟨settings, probe, hcheck⟩ := issued_of_outcome hissued
  have hsettled := (hmeets k).2 (by rw [hissued]; rfl)
  have hsafe := (hG.degraded hconf hnone hsince).safe_of_settled (by
    rintro r ⟨c, hc, hpending, -⟩
    exact hsettled c hc hpending)
  exact before_limit_of_issued hsafe hsince hprov hcheck

/-- A request at the limit's last instant is issued as degraded; one at the limit is not. -/
def requesting : List Event :=
  degrading ++ [⟨limitAt - 1, .gate 0⟩, ⟨limitAt - 1, .check 0 none false⟩, ⟨limitAt, .gate 1⟩,
      ⟨limitAt, .notify 2 none⟩, ⟨limitAt, .check 1 none false⟩]

theorem degraded_bound_requesting :
    outcome (stateAt step fresh (script idle requesting) 10) (script idle requesting 10) =
        some (.issued .degraded) ∧
      (script idle requesting 10).now <
        (stateAt step fresh (script idle requesting) 10).shared.current.degradedSince +
          rosterDegradedLimit ∧
      outcome (stateAt step fresh (script idle requesting) 13) (script idle requesting 13) =
        some .refused := by
  have hmeets : ∀ k, Orderly (stateAt step fresh (script idle requesting) k)
      (script idle requesting k) :=
    script_meets (fun w => ⟨by decide, fun h => by simp [outcome, idle] at h⟩) (by decide +kernel)
  refine ⟨by decide +kernel, ?_, by decide +kernel⟩
  exact (degraded_bound initial_fresh _ hmeets 10).2.2 .degraded (by decide +kernel)
    (by decide +kernel) (by decide +kernel) (by decide +kernel) (by decide +kernel)

/-- A sync fails at the limit while a request closes the roster; another runs before a notification.
-/
def racing : List Event :=
  [⟨1, .startSync true⟩, ⟨1, .listed (some listing)⟩, ⟨1, .published published⟩, ⟨1, .committed⟩,
    ⟨1, .finish⟩, ⟨1, .notify 0 none⟩, ⟨2, .startSync true⟩, ⟨limitAt, .listed none⟩,
    ⟨limitAt, .gate 0⟩, ⟨limitAt, .gate 1⟩, ⟨limitAt, .check 1 none false⟩]

/-- The second request finds the gate closed already and the copy still healthy. -/
theorem request_at_limit :
    outcome (stateAt step fresh (script idle racing) 10) (script idle racing 10) =
        some (.issued .none) ∧
      (stateAt step fresh (script idle racing) 10).shared.roster.provisional = false ∧
      (stateAt step fresh (script idle racing) 10).shared.current.confirmed = true ∧
      (stateAt step fresh (script idle racing) 10).shared.current.health = .failClosed ∧
      (stateAt step fresh (script idle racing) 10).shared.current.degradedSince = 2 ∧
      (stateAt step fresh (script idle racing) 10).shared.republished = none ∧
      (script idle racing 10).now = 2 + rosterDegradedLimit ∧
      ∀ k < 10, (script idle racing k).now ≤ (script idle racing (k + 1)).now := by
  decide +kernel

end QuotaScheduler.RosterController

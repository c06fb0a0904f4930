/- Revisions and health of the roster over every interleaving. -/

import QuotaScheduler.RosterController
import QuotaScheduler.Lib.Runs

namespace QuotaScheduler.RosterController

open Lib.Runs Roster List Option Bool

def failing (s : Shared) (e : Event) : Option (Time × ActiveRoster) :=
  match e.act, s.inFlight with
  | .listed answer, some (.listing start) =>
    if (answer.bind (nextRoster s.current start)).isNone then some (start, s.current) else none
  | .published p, some (.publishing start old next) =>
    if (publishAuthoritativeRoster p e.now s.roster (hostRosterSnapshotFromActive next)).2 then none
    else some (start, old)
  | _, _ => none

inductive Move (e : Event) (s : Shared) : Shared → Prop
  | stays : Move e s s
  | starts (hfree : s.inFlight = none) :
      Move e s { s with inFlight := some (.listing e.now) }
  | captures (start : Time) (entries : List RosterEntry) (next : ActiveRoster)
      (hact : e.act = .listed (some entries)) (hphase : s.inFlight = some (.listing start))
      (hnext : nextRoster s.current start entries = some next) :
      Move e s { s with inFlight := some (.publishing start s.current next) }
  | publishes (start : Time) (old next : ActiveRoster) (p : Publication)
      (hact : e.act = .published p) (hphase : s.inFlight = some (.publishing start old next))
      (hdone : (publishAuthoritativeRoster p e.now s.roster
        (hostRosterSnapshotFromActive next)).2 = true) :
      Move e s
        { s with
          roster := (publishAuthoritativeRoster p e.now s.roster
            (hostRosterSnapshotFromActive next)).1
          inFlight := some (.published old next) }
  | commits (old next : ActiveRoster) (hphase : s.inFlight = some (.published old next)) :
      Move e s { s with inFlight := some (.committed old next s.roster.generation) }
  | listFails (start : Time) (hphase : s.inFlight = some (.listing start))
      (hfails : failing s e = some (start, s.current)) : Move e s (s.fail start s.current)
  | publishFails (start : Time) (old next : ActiveRoster) (p : Publication)
      (hphase : s.inFlight = some (.publishing start old next))
      (herr : (publishAuthoritativeRoster p e.now s.roster
        (hostRosterSnapshotFromActive next)).2 = false)
      (hfails : failing s e = some (start, old)) :
      Move e s
        ({ s with roster := (publishAuthoritativeRoster p e.now s.roster
            (hostRosterSnapshotFromActive next)).1 }.fail start old)
  | succeeds (old next : ActiveRoster) (generation : Nat) (hact : e.act = .finish)
      (hphase : s.inFlight = some (.committed old next generation)) :
      Move e s (s.succeed next generation)
  | closes (hlimit : limitReached s.current e.now = true) :
      Move e s (s.change (closedRoster s.current) .pending)
  | flags (allowed : Bool) (notice : Notice) (hprov : s.current.provisional = true) :
      Move e s (s.change (Shared.flagged s.current allowed) notice)
  | sends (i : Nat) (c : Change) (hc : s.changes[i]? = some c) (hnotice : c.notice = .unsent) :
      Move e s { s with changes := s.changes.set i { c with notice := .pending } }
  | notifies (i : Nat) (c : Change) (settings : Option ProbeSettings)
      (hc : s.changes[i]? = some c) (hnotice : c.notice = .pending) :
      Move e s
        { s with
          changes := s.changes.set i { c with notice := .observed }
          roster := observeRosterLifecycle s.roster c.active settings e.now }
  | expires (hexpired : (failClosedRosterAt s.roster e.now).2 = true) :
      Move e s { s with roster := (failClosedRosterAt s.roster e.now).1 }

section Moves

variable (s : Shared) (e : Event)

theorem list_moves (answer : Option (List RosterEntry)) (hact : e.act = .listed answer) :
    Move e s (s.list answer) := by
  unfold Shared.list
  split
  case h_2 => exact .stays
  case h_1 start hphase =>
    cases hnext : answer.bind (nextRoster s.current start) with
    | none =>
      refine .listFails start hphase ?_
      simp only [failing, hact, hphase, hnext, isNone_none, if_true]
    | some next =>
      obtain ⟨entries, rfl, hentries⟩ := bind_eq_some_iff.mp hnext
      exact .captures start entries next hact hphase hentries

theorem publish_moves (p : Publication) (hact : e.act = .published p) :
    Move e s (s.publish p e.now) := by
  unfold Shared.publish
  split
  case h_2 => exact .stays
  case h_1 start old next hphase =>
    dsimp only
    split
    case isTrue hdone => exact .publishes start old next p hact hphase hdone
    case isFalse hfail =>
      refine .publishFails start old next p hphase (eq_false_iff.mpr hfail) ?_
      simp only [failing, hact, hphase, hfail, if_false, false_eq_true]

theorem commit_moves : Move e s s.commit := by
  unfold Shared.commit
  split
  case h_1 old next hphase => exact .commits old next hphase
  case h_2 => exact .stays

theorem finish_moves (hact : e.act = .finish) : Move e s s.finish := by
  unfold Shared.finish
  split
  case h_1 old next generation hphase => exact .succeeds old next generation hact hphase
  case h_2 => exact .stays

theorem enforce_moves : Move e s (s.enforceLifecycle e.now).1 := by
  unfold Shared.enforceLifecycle
  split
  case isTrue hlimit => exact .closes hlimit
  case isFalse => exact .stays

theorem reset_moves (got : ActiveRoster) : Move e s (s.resetProvisional got).1 := by
  unfold Shared.resetProvisional
  split
  case isTrue h =>
    simp only [and_eq_true] at h
    exact .flags false .unsent h.1.1.2
  case isFalse => exact .stays

theorem commitProvisional_moves (got : ActiveRoster) :
    Move e s (s.commitProvisional got e.now) := by
  unfold Shared.commitProvisional
  split
  case isTrue h =>
    simp only [and_eq_true] at h
    exact .flags true .pending h.1.1
  case isFalse => exact .stays

theorem send_moves (i : Nat) : Move e s (s.send i) := by
  unfold Shared.send
  split
  case h_1 c hc =>
    split
    case isTrue hnotice => exact .sends i c hc hnotice
    case isFalse => exact .stays
  case h_2 => exact .stays

theorem notify_moves (i : Nat) (settings : Option ProbeSettings) :
    Move e s (s.notify i settings e.now) := by
  unfold Shared.notify
  split
  case h_1 c hc =>
    split
    case isTrue hnotice => exact .notifies i c settings hc hnotice
    case isFalse => exact .stays
  case h_2 => exact .stays

theorem expire_moves : Move e s (s.expire e.now) := by
  unfold Shared.expire
  split
  case isTrue h => exact .expires h
  case isFalse => exact .stays

end Moves

theorem start_moves (s : Shared) (e : Event) (force : Bool) (h : s.starts force e.now = true) :
    Move e s { s with inFlight := some (.listing e.now) } := by
  refine .starts ?_
  unfold Shared.starts at h
  split at h
  · cases h
  · split at h
    · cases h
    · exact isNone_iff_eq_none.mp h

theorem step_moves (w : System) (e : Event) : Move e w.shared (step w e).shared := by
  unfold step
  split
  case h_1 force _ =>
    split
    case isTrue h => exact start_moves w.shared e force h
    case isFalse => exact .stays
  case h_2 answer hact => exact list_moves w.shared e answer hact
  case h_3 p hact => exact publish_moves w.shared e p hact
  case h_4 => exact commit_moves w.shared e
  case h_5 hact => exact finish_moves w.shared e hact
  case h_6 => exact enforce_moves w.shared e
  case h_7 => split <;> exact .stays
  case h_8 =>
    split
    case h_1 got _ => exact reset_moves w.shared e got
    case h_2 => exact .stays
  case h_9 =>
    split
    case h_1 got change _ =>
      split
      · exact .stays
      · cases change with
        | some i => exact send_moves w.shared e i
        | none => exact .stays
    case h_2 => exact .stays
  case h_10 permitted _ =>
    split
    case h_1 got _ =>
      cases permitted with
      | false => exact .stays
      | true => exact commitProvisional_moves w.shared e got
    case h_2 => exact .stays
  case h_11 i settings _ => exact notify_moves w.shared e i settings
  case h_12 => exact expire_moves w.shared e
  case h_13 =>
    split
    case h_1 => exact enforce_moves w.shared e
    case h_2 => exact .stays
  case h_14 =>
    split
    case h_1 => split <;> exact .stays
    case h_2 => exact .stays

def observedRevisions (s : Shared) : List Nat :=
  (s.changes.filter fun c => decide (c.notice = .observed)).map (·.active.lifecycleRevision)

/-- No sync fails on a roster changed since its capture, nor on a closed one within the limit. -/
def Undisturbed (w : System) (e : Event) : Prop :=
  ∀ start old, failing w.shared e = some (start, old) → w.shared.current = old ∧
      (old.health = .failClosed → rosterDegradedLimit ≤ start - old.degradedSince)

instance (w : System) (e : Event) : Decidable (Undisturbed w e) :=
  decidable_of_iff (∀ r ∈ failing w.shared e, w.shared.current = r.2 ∧
      (r.2.health = .failClosed → rosterDegradedLimit ≤ r.1 - r.2.degradedSince))
    ⟨fun h start old hr => h (start, old) hr, fun h r hr => h r.1 r.2 hr⟩

def start (now : Time) (provisional : Option ActiveRoster) (probeOnProvisional : Bool)
    (roster : HostRosterSnapshot) : System where
  shared := { current := newRosterController now provisional, roster := roster }
  probeOnProvisional := probeOnProvisional

def Initial (w : System) : Prop :=
  ∃ now provisional probeOnProvisional roster, w = start now provisional probeOnProvisional roster

structure Steady (a : ActiveRoster) : Prop where
  degraded : a.health = .degraded → a.provisional = false ∧ a.confirmedAt.isZero = false
  closed : a.health = .failClosed →
    a.provisional = false ∧ a.confirmedAt.isZero = false ∧ a.degradedSince.isZero = false

theorem steady_of_health {a : ActiveRoster} (hd : a.health ≠ .degraded)
    (hc : a.health ≠ .failClosed) : Steady a :=
  ⟨fun h => absurd h hd, fun h => absurd h hc⟩

theorem steady_newRosterController (now : Time) (provisional : Option ActiveRoster) :
    Steady (newRosterController now provisional) := by
  have hhealth : (newRosterController now provisional).health = .waiting := by
    unfold newRosterController
    split
    · rfl
    · split <;> rfl
  exact steady_of_health (by rw [hhealth]; decide) (by rw [hhealth]; decide)

variable {old : ActiveRoster}

theorem nextRoster_health {next : ActiveRoster} {t : Time} {entries : List RosterEntry}
    (h : nextRoster old t entries = some next) : next.health = .healthy := by
  unfold nextRoster at h
  split at h
  · cases h
  · cases h
    rfl

theorem failedRoster_of_confirmed (t : Time) (hprov : old.provisional = false)
    (hat : old.confirmedAt.isZero = false) :
    ∃ since, since = (if old.degradedSince.isZero then t else old.degradedSince) ∧
      failedRoster old t =
        { old with
          lastSyncAt := t
          degradedSince := since
          health := if t - since < rosterDegradedLimit then .degraded else .failClosed
          backgroundAllowed := decide (t - since < rosterDegradedLimit)
          lifecycleRevision := old.lifecycleRevision + 1 } := by
  refine ⟨_, rfl, ?_⟩
  unfold failedRoster degradedRoster
  dsimp only
  rw [if_neg (by simp [hprov]), if_neg (by simp [hat])]
  by_cases hzero : old.degradedSince.isZero = true
  · split_ifs with hlt
    · simp only [decide_true, hlt]
    · simp only [decide_false, hlt]
  · split_ifs with hlt
    · simp only [decide_true, hlt]
    · simp only [decide_false, hlt]

theorem failedRoster_of_unconfirmed (t : Time)
    (h : old.provisional = true ∨ old.confirmedAt.isZero = true) :
    failedRoster old t =
      { old with
        lastSyncAt := t
        capability := .capabilityB
        confirmed := false
        health := .waiting
        backgroundAllowed := false
        lifecycleRevision := old.lifecycleRevision + 1 } := by
  unfold failedRoster degradedRoster
  by_cases hprov : old.provisional = true
  · rw [if_pos hprov]
  · rw [if_neg hprov, if_pos (h.resolve_left hprov)]

theorem steady_failedRoster (old : ActiveRoster) (t : Time) : Steady (failedRoster old t) := by
  by_cases h : old.provisional = true ∨ old.confirmedAt.isZero = true
  · rw [failedRoster_of_unconfirmed t h]
    exact steady_of_health (by simp) (by simp)
  · obtain ⟨hprov, hat⟩ := not_or.mp h
    obtain ⟨since, hsince, hroster⟩ := failedRoster_of_confirmed t
      (eq_false_iff.mpr hprov) (eq_false_iff.mpr hat)
    rw [hroster]
    refine ⟨fun _ => ⟨eq_false_iff.mpr hprov, eq_false_iff.mpr hat⟩, ?_⟩
    intro hclosed
    refine ⟨eq_false_iff.mpr hprov, eq_false_iff.mpr hat, ?_⟩
    -- a roster degraded at this very start is not closed by it
    by_cases hzero : old.degradedSince.isZero = true
    · have hsame : since = t := by rw [hsince, if_pos hzero]
      have hlt : t - since < rosterDegradedLimit := by
        rw [hsame, Int.sub_self]
        decide
      simp [hlt] at hclosed
    · have hold : since = old.degradedSince := by rw [hsince, if_neg hzero]
      simpa [hold] using hzero

theorem steady_closedRoster {a : ActiveRoster} {now : Time} (h : Steady a)
    (hlimit : limitReached a now = true) : Steady (closedRoster a) := by
  simp only [limitReached, and_eq_true, decide_eq_true_eq, not_eq_true'] at hlimit
  obtain ⟨⟨⟨-, hdegraded⟩, hsince⟩, -⟩ := hlimit
  obtain ⟨hprov, hat⟩ := h.degraded hdegraded
  exact ⟨fun hd => by simp [closedRoster] at hd, fun _ => ⟨hprov, hat, hsince⟩⟩

def SyncPhase.next : SyncPhase → Option ActiveRoster
  | .listing _ => none
  | .publishing _ _ next => some next
  | .published _ next => some next
  | .committed _ next _ => some next

structure Sound (s : Shared) : Prop where
  current : Steady s.current
  next : ∀ phase next, s.inFlight = some phase → phase.next = some next → next.health = .healthy

theorem sound_move {s s' : Shared} {e : Event} (h : Sound s) (hmove : Move e s s') : Sound s' := by
  cases hmove with
  | stays => exact h
  | starts _ =>
    refine ⟨h.current, ?_⟩
    rintro phase next ⟨⟩ hnext
    cases hnext
  | captures t entries next _ _ hnext =>
    refine ⟨h.current, ?_⟩
    rintro phase next' ⟨⟩ hphase
    cases hphase
    exact nextRoster_health hnext
  | publishes t old next p _ hphase _ | commits old next hphase =>
    refine ⟨h.current, ?_⟩
    rintro phase next' ⟨⟩ hnext
    exact h.next _ next' hphase hnext
  | listFails t _ _ | publishFails t old next p _ _ _ =>
    refine ⟨steady_failedRoster _ _, ?_⟩
    rintro phase next ⟨⟩
  | succeeds old next generation _ hphase =>
    have hhealth := h.next _ next hphase rfl
    refine ⟨steady_of_health ?_ ?_, ?_⟩
    · simp [Shared.succeed, Shared.change, committedRoster, hhealth]
    · simp [Shared.succeed, Shared.change, committedRoster, hhealth]
    · rintro phase next' ⟨⟩
  | closes hlimit => exact ⟨steady_closedRoster h.current hlimit, h.next⟩
  | flags allowed notice _ => exact ⟨⟨h.current.degraded, h.current.closed⟩, h.next⟩
  | sends i c _ _ | notifies i c settings _ _ | expires _ => exact ⟨h.current, h.next⟩

structure Ordered (s : Shared) : Prop where
  increasing : (s.changes.map (·.active.lifecycleRevision)).Pairwise (· < ·)
  bounded : ∀ c ∈ s.changes, c.active.lifecycleRevision ≤ s.current.lifecycleRevision

theorem Ordered.change {s : Shared} (h : Ordered s) {active : ActiveRoster} (notice : Notice)
    (hrev : s.current.lifecycleRevision < active.lifecycleRevision) :
    Ordered (s.change active notice) := by
  constructor
  · rw [Shared.change, map_append, pairwise_append]
    refine ⟨h.increasing, pairwise_singleton _ _, ?_⟩
    intro r hr r' hr'
    obtain ⟨c, hc, rfl⟩ := List.mem_map.mp hr
    obtain rfl := mem_singleton.mp hr'
    exact Nat.lt_of_le_of_lt (h.bounded c hc) hrev
  · intro c hc
    rcases mem_append.mp hc with hold | hnew
    · exact Nat.le_of_lt (Nat.lt_of_le_of_lt (h.bounded c hold) hrev)
    · obtain rfl := mem_singleton.mp hnew
      exact le_rfl

theorem Ordered.of_eq {s s' : Shared} (h : Ordered s)
    (hactive : s'.changes.map (·.active) = s.changes.map (·.active))
    (hcurrent : s'.current = s.current) : Ordered s' := by
  constructor
  · have hrevs : s'.changes.map (·.active.lifecycleRevision) =
        s.changes.map (·.active.lifecycleRevision) := by
      have := congrArg (map ActiveRoster.lifecycleRevision) hactive
      rwa [List.map_map, List.map_map] at this
    rw [hrevs]
    exact h.increasing
  · intro c hc
    have hmem : c.active ∈ s.changes.map (·.active) := hactive ▸ List.mem_map_of_mem hc
    obtain ⟨c', hc', hsame⟩ := List.mem_map.mp hmem
    rw [hcurrent, ← hsame]
    exact h.bounded c' hc'

theorem map_active_set {l : List Change} {i : Nat} {c : Change} (hc : l[i]? = some c)
    (notice : Notice) :
    (l.set i { c with notice := notice }).map (·.active) = l.map (·.active) := by
  obtain ⟨hi, rfl⟩ := List.getElem?_eq_some_iff.mp hc
  have hactive : (l.map (·.active))[i]? = some l[i].active := by
    rw [getElem?_map, hc]
    rfl
  obtain ⟨hi', hget⟩ := List.getElem?_eq_some_iff.mp hactive
  rw [map_set]
  rw [← hget, set_getElem_self]

theorem lt_committedRoster (current next : ActiveRoster) (generation : Nat) :
    current.lifecycleRevision < (committedRoster current next generation).lifecycleRevision := by
  simp only [committedRoster]
  split_ifs with h <;> omega

theorem ordered_step {w : System} {e : Event} (h : Ordered w.shared) (hmeets : Undisturbed w e) :
    Ordered (step w e).shared := by
  have hmove := step_moves w e
  generalize (step w e).shared = s' at hmove
  cases hmove with
  | stays => exact h
  | starts _ | captures | publishes | commits | expires _ => exact h.of_eq rfl rfl
  | listFails t _ _ => exact (h.change .pending (Nat.lt_succ_self _)).of_eq rfl rfl
  | publishFails t old next p _ _ hfails =>
    obtain ⟨hsame, -⟩ := hmeets t old hfails
    have hrev : w.shared.current.lifecycleRevision < (failedRoster old t).lifecycleRevision := by
      rw [hsame]
      exact Nat.lt_succ_self _
    exact (h.change .pending hrev).of_eq rfl rfl
  | succeeds old next generation _ _ =>
    exact (h.change .pending (lt_committedRoster _ next generation)).of_eq rfl rfl
  | closes _ => exact h.change .pending (Nat.lt_succ_self _)
  | flags allowed notice _ => exact h.change notice (Nat.lt_succ_self _)
  | sends i c hc _ => exact h.of_eq (map_active_set hc .pending) rfl
  | notifies i c settings hc _ => exact h.of_eq (map_active_set hc .observed) rfl

theorem failedRoster_closed {t : Time} (h : Steady old) (hclosed : old.health = .failClosed)
    (hpast : rosterDegradedLimit ≤ t - old.degradedSince) :
    (failedRoster old t).health = .failClosed := by
  obtain ⟨hprov, hat, hsince⟩ := h.closed hclosed
  obtain ⟨since, hs, hroster⟩ := failedRoster_of_confirmed t hprov hat
  rw [if_neg (by simp [hsince])] at hs
  rw [hroster, hs]
  exact if_neg (Int.not_lt.mpr hpast)

/-- The health leaves fail-closed only at the end of a sync in its last phase. -/
theorem failClosed_left {w : System} {e : Event} (h : Sound w.shared) (hmeets : Undisturbed w e)
    (hclosed : w.shared.current.health = .failClosed)
    (hleft : (step w e).shared.current.health ≠ .failClosed) :
    e.act = .finish ∧
      ∃ old next generation, w.shared.inFlight = some (.committed old next generation) := by
  have hmove := step_moves w e
  generalize (step w e).shared = s' at hmove hleft
  cases hmove with
  | listFails t _ hfails =>
    obtain ⟨-, hpast⟩ := hmeets t _ hfails
    exact absurd (failedRoster_closed h.current hclosed (hpast hclosed)) hleft
  | publishFails t old next p _ _ hfails =>
    obtain ⟨rfl, hpast⟩ := hmeets t old hfails
    exact absurd (failedRoster_closed h.current hclosed (hpast hclosed)) hleft
  | succeeds old next generation hact hphase => exact ⟨hact, old, next, generation, hphase⟩
  | closes => exact absurd rfl hleft
  | _ => exact absurd hclosed hleft

section SyncOfPhase

variable {w : System} {events : Nat → Event}

def ListSucceeds (s : Shared) (e : Event) : Prop :=
  ∃ t entries next, s.inFlight = some (.listing t) ∧ e.act = .listed (some entries) ∧
    nextRoster s.current t entries = some next

def PublishSucceeds (s : Shared) (e : Event) : Prop :=
  ∃ t old next p, s.inFlight = some (.publishing t old next) ∧ e.act = .published p ∧
    (publishAuthoritativeRoster p e.now s.roster (hostRosterSnapshotFromActive next)).2 = true

def ListedAt (w : System) (events : Nat → Event) (i k : Nat) : Prop :=
  i < k ∧ ListSucceeds (stateAt step w events i).shared (events i) ∧
    ∀ m, i < m → m ≤ k → (stateAt step w events m).shared.inFlight ≠ none

/-- Event `k` ends a sync whose list and publish calls both succeeded. -/
def EndsSuccessfulSync (w : System) (events : Nat → Event) (k : Nat) : Prop :=
  (events k).act = .finish ∧ ∃ i j, ListedAt w events i k ∧ i < j ∧ j < k ∧
    PublishSucceeds (stateAt step w events j).shared (events j)

def Reached (w : System) (events : Nat → Event) (k : Nat) : Option SyncPhase → Prop
  | some (.publishing _ _ _) => ∃ i, ListedAt w events i k
  | some (.published _ _) | some (.committed _ _ _) =>
    ∃ i j, ListedAt w events i k ∧ i < j ∧ j < k ∧
      PublishSucceeds (stateAt step w events j).shared (events j)
  | _ => True

theorem ListedAt.succ {i k : Nat} (h : ListedAt w events i k)
    (hflight : (stateAt step w events (k + 1)).shared.inFlight ≠ none) :
    ListedAt w events i (k + 1) := by
  refine ⟨Nat.lt_succ_of_lt h.1, h.2.1, fun m him hmk => ?_⟩
  rcases Nat.lt_or_ge m (k + 1) with hlt | hge
  · exact h.2.2 m him (Nat.le_of_lt_succ hlt)
  · obtain rfl : m = k + 1 := Nat.le_antisymm hmk hge
    exact hflight

theorem Reached.succ {k : Nat} {phase : Option SyncPhase} (h : Reached w events k phase)
    (hsame : (stateAt step w events (k + 1)).shared.inFlight = phase) :
    Reached w events (k + 1) phase := by
  cases phase with
  | none => trivial
  | some phase =>
    have hflight : (stateAt step w events (k + 1)).shared.inFlight ≠ none := by
      rw [hsame]
      exact some_ne_none _
    cases phase with
    | listing t => trivial
    | publishing t old next =>
      obtain ⟨i, hi⟩ := h
      exact ⟨i, hi.succ hflight⟩
    | published old next | committed old next generation =>
      obtain ⟨i, j, hi, hij, hjk, hj⟩ := h
      exact ⟨i, j, hi.succ hflight, hij, Nat.lt_succ_of_lt hjk, hj⟩

theorem reached_stateAt (hfree : w.shared.inFlight = none) (k : Nat) :
    Reached w events k (stateAt step w events k).shared.inFlight := by
  induction k with
  | zero =>
    rw [stateAt, hfree]
    trivial
  | succ k ih =>
    have hmove := step_moves (stateAt step w events k) (events k)
    have hsucc : stateAt step w events (k + 1) = step (stateAt step w events k) (events k) :=
      stateAt_succ k
    generalize hs : (step (stateAt step w events k) (events k)).shared = s' at hmove
    rw [← hsucc] at hs
    cases hmove with
    | starts | listFails | publishFails | succeeds =>
      rw [hs]
      trivial
    | captures t entries next hact hphase hnext =>
      rw [hs]
      refine ⟨k, Nat.lt_succ_self k, ⟨t, entries, next, hphase, hact, hnext⟩, fun m hkm hmk => ?_⟩
      obtain rfl : m = k + 1 := Nat.le_antisymm hmk hkm
      rw [hs]
      exact some_ne_none _
    | publishes t old next p hact hphase hdone =>
      rw [hphase] at ih
      obtain ⟨i, hi⟩ := ih
      have hflight : (stateAt step w events (k + 1)).shared.inFlight ≠ none := by
        rw [hs]
        exact some_ne_none _
      rw [hs]
      exact ⟨i, k, hi.succ hflight, hi.1, Nat.lt_succ_self k, t, old, next, p, hphase, hact, hdone⟩
    | commits old next hphase =>
      rw [hphase] at ih
      obtain ⟨i, j, hi, hij, hjk, hj⟩ := ih
      have hflight : (stateAt step w events (k + 1)).shared.inFlight ≠ none := by
        rw [hs]
        exact some_ne_none _
      rw [hs]
      exact ⟨i, j, hi.succ hflight, hij, Nat.lt_succ_of_lt hjk, hj⟩
    | _ =>
      have hsame : (stateAt step w events (k + 1)).shared.inFlight =
          (stateAt step w events k).shared.inFlight := by
        have hflight := congrArg Shared.inFlight hs
        exact hflight
      rw [hsame]
      exact ih.succ hsame

end SyncOfPhase

/-- If failing syncs are undisturbed, revisions increase and only successes leave fail-closed. -/
theorem lifecycle_monotonic {w : System} (hw : Initial w) (events : Nat → Event)
    (hmeets : ∀ k, Undisturbed (stateAt step w events k) (events k)) (k : Nat) :
    (observedRevisions (stateAt step w events k).shared).Pairwise (· < ·) ∧
      ((stateAt step w events k).shared.current.health = .failClosed →
        (stateAt step w events (k + 1)).shared.current.health ≠ .failClosed →
        EndsSuccessfulSync w events k) := by
  obtain ⟨now, provisional, probeOnProvisional, roster, rfl⟩ := hw
  generalize hw : start now provisional probeOnProvisional roster = w at hmeets ⊢
  have hordered : Ordered (stateAt step w events k).shared := by
    refine invariant_stateAt_of (P := fun w : System => Ordered w.shared) ?_
      (fun w e h hC => ordered_step h hC) hmeets k
    subst hw
    refine ⟨.nil, fun c hc => ?_⟩
    cases hc
  have hsound : Sound (stateAt step w events k).shared := by
    refine invariant_stateAt (P := fun w : System => Sound w.shared) ?_
      (fun w e h => sound_move h (step_moves w e)) k
    subst hw
    refine ⟨steady_newRosterController now provisional, ?_⟩
    rintro phase next ⟨⟩
  constructor
  · exact hordered.increasing.sublist (.map _ filter_sublist)
  · intro hclosed hleft
    obtain ⟨hact, old, next, generation, hphase⟩ :=
      failClosed_left hsound (hmeets k) hclosed hleft
    have hreached := @reached_stateAt w events (by rw [← hw]; rfl) k
    rw [hphase] at hreached
    exact ⟨hact, hreached⟩

def listing : List RosterEntry := [⟨"a", "1", "codex", some 0⟩]

def published : Publication := ⟨Account.defaultConfig, true, some 1⟩

def unpublished : Publication := ⟨Account.defaultConfig, true, none⟩

def limitAt : Time := 2 + rosterDegradedLimit

def fresh : System := start 1 none true {}

theorem initial_fresh : Initial fresh := ⟨1, none, true, {}, rfl⟩

def idle : Event := ⟨limitAt + 2, .committed⟩

theorem undisturbed_idle (w : System) : Undisturbed w idle := by
  intro t old h
  simp [failing, idle] at h

def degrading : List Event :=
  [⟨1, .startSync true⟩, ⟨1, .listed (some listing)⟩, ⟨1, .published published⟩, ⟨1, .committed⟩,
    ⟨1, .finish⟩, ⟨1, .notify 0 none⟩, ⟨2, .startSync true⟩, ⟨2, .listed none⟩, ⟨2, .notify 1 none⟩]

def closing : List Event :=
  degrading ++ [⟨limitAt, .enforce⟩, ⟨limitAt, .notify 2 none⟩, ⟨limitAt, .startSync true⟩,
      ⟨limitAt, .listed (some listing)⟩, ⟨limitAt, .published unpublished⟩,
        ⟨limitAt, .notify 3 none⟩,
      ⟨limitAt + 1, .startSync true⟩, ⟨limitAt + 1, .listed (some listing)⟩,
      ⟨limitAt + 1, .published published⟩, ⟨limitAt + 1, .committed⟩, ⟨limitAt + 1, .finish⟩,
      ⟨limitAt + 1, .notify 4 none⟩]

theorem lifecycle_monotonic_closing :
    (observedRevisions (stateAt step fresh (script idle closing) 21).shared = [1, 2, 3, 4, 5] ∧
      (observedRevisions (stateAt step fresh (script idle closing) 21).shared).Pairwise (· < ·)) ∧
    (stateAt step fresh (script idle closing) 19).shared.current.health = .failClosed ∧
      EndsSuccessfulSync fresh (script idle closing) 19 := by
  have hmeets : ∀ k, Undisturbed (stateAt step fresh (script idle closing) k)
      (script idle closing k) :=
    script_meets undisturbed_idle (by decide +kernel)
  refine ⟨⟨by decide +kernel, (lifecycle_monotonic initial_fresh _ hmeets 21).1⟩,
    by decide +kernel, ?_⟩
  exact (lifecycle_monotonic initial_fresh _ hmeets 19).2 (by decide +kernel) (by decide +kernel)

/-- A sync captures the degraded roster, the limit closes it meanwhile, and the publication fails.
-/
def overlapping : List Event :=
  degrading ++ [⟨3, .startSync true⟩, ⟨3, .listed (some listing)⟩, ⟨limitAt, .enforce⟩,
      ⟨limitAt, .notify 2 none⟩, ⟨limitAt, .published unpublished⟩, ⟨limitAt, .notify 3 none⟩]

/-- The failed sync reuses the revision of the closing and reopens the roster. -/
theorem failed_sync_reopens :
    observedRevisions (stateAt step fresh (script idle overlapping) 15).shared = [1, 2, 3, 3] ∧
      (stateAt step fresh (script idle overlapping) 13).shared.current.health = .failClosed ∧
      (stateAt step fresh (script idle overlapping) 14).shared.current.health = .degraded ∧
      ¬EndsSuccessfulSync fresh (script idle overlapping) 13 := by
  refine ⟨by decide +kernel, by decide +kernel, by decide +kernel, ?_⟩
  rintro ⟨hact, -⟩
  cases hact

end QuotaScheduler.RosterController

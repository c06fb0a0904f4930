/- Under which steps the published snapshot keeps up with the state it was taken from. -/

import QuotaScheduler.PluginActs
import QuotaScheduler.RefreshWrites
import QuotaScheduler.SnapshotViews

namespace QuotaScheduler.SnapshotTracking

open Trial Selection Pick Account State Published Roster PluginRuntime StateUpdates
open PluginActs PickLockstep RefreshWrites SnapshotViews List Option AList

/-- States that publish the same views: the stored order of the accounts is left open. -/
structure SameTable (s s' : PluginState) : Prop where
  cfg : s.cfg = s'.cfg
  annotations : s.annotations = s'.annotations
  lookup : ∀ key, s.accounts.lookup key = s'.accounts.lookup key

variable {s s' : PluginState} {authID authIndex : String} {p : SchedulerSnapshot} {now : Time}
  {a : AccountState}

/-- The journal of an overlay that differs from the state in one auth makes the state the overlay.
-/
theorem sameTable_journal {o : PluginState} (htidy : Tidy o) (hcfg : s.cfg = o.cfg)
    (hannotations : s.annotations = o.annotations)
    (hother : ∀ key, key ≠ "auth:" ++ authID → s.accounts.lookup key = o.accounts.lookup key)
    (hkept : o.accounts.lookup ("auth:" ++ authID) = none →
      s.accounts.lookup ("auth:" ++ authID) = none) :
    SameTable (s.applyLegacyEffectJournal (o.legacyEffectJournal authID)) o := by
  have hsettings := settings_applyLegacyEffectJournal s (o.legacyEffectJournal authID)
  refine ⟨hsettings.1.trans hcfg, hsettings.2.trans hannotations, fun key => ?_⟩
  rw [lookup_journal htidy]
  by_cases hkey : key = "auth:" ++ authID
  · subst hkey
    cases hfound : o.accounts.lookup ("auth:" ++ authID) with
    | none => simp [hkept hfound]
    | some b => simp
  · rw [if_neg hkey]
    exact hother key hkey

/-- A pick on the snapshot goes as on one taken of the state now. -/
structure Tracks (p : SchedulerSnapshot) (s : PluginState) (now : Time) : Prop where
  handleEnabled : p.handleEnabled = s.cfg.handleEnabled
  fallback : p.fallback = s.cfg.fallback
  monthlyMode : p.monthlyMode = s.cfg.monthlyMode
  registry : p.trials = true
  accounts : ∀ trials, Alike p.accounts (views s now trials)

theorem lookup_rel_refl {R : AccountState → AccountState → Prop} (hR : ∀ a, R a a)
    (table : AccountTable) (key : String) : Rel R (table.lookup key) (table.lookup key) := by
  cases table.lookup key with
  | none => exact .none
  | some a => exact .some (hR a)

theorem tracks_publishSchedulerState (htidy : Tidy s) (active : Option (Finset String))
    (trials : TrialRegistry) : Tracks (publishSchedulerState s active now trials) s now := by
  have hviews : ∀ trials', Alike (publishSchedulerState s active now trials).accounts
      (views s now trials') := by
    intro trials'
    rw [accounts_publishSchedulerState]
    exact alike_views_of_facts htidy htidy fun key => lookup_rel_refl (fun _ => ⟨rfl, rfl⟩) _ key
  cases active <;> exact ⟨rfl, rfl, rfl, rfl, hviews⟩

theorem Tracks.of_alike {now' : Time} (h : Tracks p s now)
    (hhandle : s.cfg.handleEnabled = s'.cfg.handleEnabled)
    (hfallback : s.cfg.fallback = s'.cfg.fallback)
    (hmonthly : s.cfg.monthlyMode = s'.cfg.monthlyMode)
    (halike : ∀ trials, Alike (views s now trials) (views s' now' trials)) : Tracks p s' now' :=
  ⟨h.handleEnabled.trans hhandle, h.fallback.trans hfallback, h.monthlyMode.trans hmonthly,
    h.registry, fun trials => (h.accounts trials).trans (halike trials)⟩

theorem Tracks.sameTable (h : Tracks p s now) (htidy : Tidy s) (htidy' : Tidy s')
    (hsame : SameTable s s') : Tracks p s' now := by
  refine h.of_alike (by rw [hsame.cfg]) (by rw [hsame.cfg]) (by rw [hsame.cfg]) fun trials => ?_
  refine alike_views_of_facts htidy htidy' fun key => ?_
  rw [← hsame.lookup key]
  refine lookup_rel_refl (fun a => ⟨?_, rfl⟩) _ key
  exact storedFacts_settings (by rw [hsame.cfg]) (by rw [hsame.annotations])

/-- Up to `later` no deadline passes and the pressures keep their order. -/
structure Steady (s : PluginState) (now later : Time) : Prop where
  deadlines : ∀ e ∈ s.accounts.entries, ∀ t ∈ deadlines s.cfg e.2, t ≤ now ∨ later < t
  pressures : ∀ e ∈ s.accounts.entries, ∀ f ∈ s.accounts.entries,
    (quotaPressure e.2 now).lt (quotaPressure f.2 now) =
        (quotaPressure e.2 later).lt (quotaPressure f.2 later) ∧
      (quotaPressure e.2 now).eq (quotaPressure f.2 now) =
        (quotaPressure e.2 later).eq (quotaPressure f.2 later)

def Names (authID authIndex : String) (e : Sigma fun _ : String => AccountState) : Prop :=
  e.1 = "auth:" ++ authID ∨ authIndex ≠ "" ∧ e.2.authIndex = authIndex

def QuietFor (s : PluginState) (now : Time) (authID authIndex : String) : Prop :=
  ∀ e ∈ s.accounts.entries, Names authID authIndex e → SuccessQuiet e.2 now

structure SameSettings (cfg cfg' : Config) : Prop where
  handleEnabled : cfg.handleEnabled = cfg'.handleEnabled
  fallback : cfg.fallback = cfg'.fallback
  monthlyMode : cfg.monthlyMode = cfg'.monthlyMode
  staleAfter : cfg.staleAfter = cfg'.staleAfter

def SamePriorities (s : PluginState) (annotations : String → Option Int) : Prop :=
  ∀ e ∈ s.accounts.entries, annotatedPriority s.annotations e.2 = annotatedPriority annotations e.2

/-- Nothing overlaps an open refresh, one that ran is applied, and silent steps change nothing a
pick sees. -/
def StepOk (w : Plugin) : Event → Prop
  | .tick d => ∀ s ∈ w.state :: w.txns.map (·.overlay), Steady s w.clock (w.clock + d)
  | .configure _ _ => w.txns.isEmpty
  | .sync _ _ => w.txns.isEmpty
  | .refreshBegin _ _ => w.txns.isEmpty
  | .refreshApply _ accepted => accepted
  | .usage record _ => w.txns.isEmpty ∧
      (record.failed = false → QuietFor w.state w.clock record.authID record.authIndex)
  | .requestComplete authID => w.txns.isEmpty ∧ QuietFor w.state w.clock authID ""
  | .streamObserve _ _ _ _ => w.txns.isEmpty
  | .reconcileTemporary _ _ => w.txns.isEmpty
  | .unpark _ => w.txns.isEmpty
  | .saveSettings cfg => w.txns.isEmpty ∧ SameSettings w.state.cfg (normalizeConfig cfg)
  | .saveAnnotations annotations => w.txns.isEmpty ∧ SamePriorities w.state annotations
  | .importState cfg annotations => w.txns.isEmpty ∧
      SameSettings w.state.cfg (normalizeConfig cfg) ∧ SamePriorities w.state annotations
  | _ => True

def RunOk : Plugin → List Event → Prop
  | _, [] => True
  | w, e :: events => StepOk w e ∧ RunOk (w.step e) events

/-- The state the snapshot shows: an open refresh that has run shows its overlay. -/
inductive Pending (w : Plugin) : PluginState → Prop
  | settled (h : w.txns = []) : Pending w w.state
  | started (t : Txn) (h : w.txns = [t]) (hran : t.ran = false) (hcopy : t.overlay = w.state) :
      Pending w w.state
  | ran (t : Txn) (h : w.txns = [t]) (hran : t.ran = true) (hjournal : SameTable
      (w.state.applyLegacyEffectJournal (t.overlay.legacyEffectJournal t.auth.id)) t.overlay) :
      Pending w t.overlay

structure Shown (w : Plugin) : Prop where
  tidy : Tidy w.state
  shown : ∃ s p, Pending w s ∧ Tidy s ∧ w.published = some p ∧ Tracks p s w.clock

variable {w : Plugin}

theorem Pending.state_of_empty (h : Pending w s) (hempty : w.txns = []) : s = w.state := by
  cases h with
  | settled _ => rfl
  | started t h _ _ | ran t h _ _ => cases hempty.symm.trans h

theorem Shown.frame {w' : Plugin} (h : Shown w) (hstate : w'.state = w.state)
    (htxns : w'.txns = w.txns) (hclock : w'.clock = w.clock)
    (hpublished : w'.published = w.published) : Shown w' := by
  obtain ⟨htidy, s, p, hpending, hs, hp, htracks⟩ := h
  refine ⟨hstate ▸ htidy, s, p, ?_, hs, hpublished.trans hp, hclock ▸ htracks⟩
  cases hpending with
  | settled h =>
    rw [← hstate]
    exact .settled (htxns.trans h)
  | started t h hran hcopy =>
    rw [← hstate]
    exact .started t (htxns.trans h) hran (hcopy.trans hstate.symm)
  | ran t h hran hjournal =>
    rw [← hstate] at hjournal
    exact .ran t (htxns.trans h) hran hjournal

theorem shown_publish (htidy : Tidy w.state) (hempty : w.txns = [])
    (active : Option (Finset String)) : Shown (w.publish active) :=
  ⟨htidy, w.state, _, .settled hempty, htidy, rfl, tracks_publishSchedulerState htidy _ _⟩

theorem Shown.write (h : Shown w) (hempty : w.txns = []) (htidy : Tidy s)
    (htracks : ∀ p, Tracks p w.state w.clock → Tracks p s w.clock) :
    Shown { w with state := s } := by
  obtain ⟨_, s', p, hpending, _, hp, hold⟩ := h
  rw [hpending.state_of_empty hempty] at hold
  exact ⟨htidy, s, p, .settled hempty, htidy, hp, htracks p hold⟩

theorem Tracks.later {later : Time} (h : Tracks p s now) (htidy : Tidy s) (hle : now ≤ later)
    (hsteady : Steady s now later) : Tracks p s later := by
  refine h.of_alike rfl rfl rfl fun trials => ?_
  have hmatch : OrderMatch {x : Float64 × Float64 | ∃ e ∈ s.accounts.entries,
      x = (quotaPressure e.2 now, quotaPressure e.2 later)} := by
    rintro _ ⟨e, he, rfl⟩ _ ⟨f, hf, rfl⟩
    exact hsteady.pressures e he f hf
  refine alike_views htidy htidy hmatch fun key => ?_
  cases hfound : s.accounts.lookup key with
  | none => exact .none
  | some a =>
    have hmem := mem_lookup_iff.mp hfound
    refine .some ⟨?_, ⟨key, a⟩, hmem, ?_⟩
    · rw [facts_storedView, facts_storedView]
      apply storedFacts_time
      intro t ht
      rcases hsteady.deadlines _ hmem t ht with hpast | hfuture
      · exact iff_of_true hpast (le_trans hpast hle)
      · exact iff_of_false (not_le.mpr (lt_of_le_of_lt hle hfuture)) (not_le.mpr hfuture)
    · rw [quotaPressure_storedView, quotaPressure_storedView]

theorem Shown.tick (h : Shown w) (d : Nat) (hok : StepOk w (.tick d)) :
    Shown (w.step (.tick d)) := by
  obtain ⟨htidy, s, p, hpending, hs, hp, htracks⟩ := h
  have hmem : s ∈ w.state :: w.txns.map (·.overlay) := by
    cases hpending with
    | settled _ | started t _ _ _ => exact mem_cons_self
    | ran t h _ _ => simp [h]
  have hle : w.clock ≤ w.clock + d := Int.le_add_of_nonneg_right (Int.natCast_nonneg d)
  have hlater := htracks.later hs hle (hok s hmem)
  refine ⟨htidy, s, p, ?_, hs, hp, hlater⟩
  cases hpending with
  | settled h => exact .settled h
  | started t h hran hcopy => exact .started t h hran hcopy
  | ran t h hran hjournal => exact .ran t h hran hjournal

theorem findAccountLocked_names {key : String} {hit : Nat}
    (h : s.findAccountLocked authID authIndex hit = some (key, a)) :
    s.accounts.lookup key = some a ∧ Names authID authIndex ⟨key, a⟩ := by
  unfold PluginState.findAccountLocked at h
  split at h
  · rename_i b hb
    cases h
    split at hb
    · exact ⟨hb, .inl rfl⟩
    · cases hb
  · split at h
    · rename_i hindex
      obtain ⟨e, he, heq⟩ := map_eq_some_iff.mp h
      cases heq
      obtain ⟨hmem, hnamed⟩ := mem_filter.mp (mem_of_getElem? he)
      exact ⟨mem_lookup_iff.mpr hmem, .inr ⟨hindex, of_decide_eq_true hnamed⟩⟩
    · cases h

theorem Tracks.setAccount (h : Tracks p s now) (htidy : Tidy s) {key : String} {b : AccountState}
    (htidy' : Tidy (s.setAccount key b)) (hfound : s.accounts.lookup key = some a)
    (hfacts : storedFacts s now a = storedFacts s now b)
    (hpressure : quotaPressure a now = quotaPressure b now) :
    Tracks p (s.setAccount key b) now := by
  refine h.of_alike rfl rfl rfl fun trials => alike_views_of_facts htidy htidy' fun key' => ?_
  by_cases hkey : key' = key
  · subst hkey
    rw [hfound, PluginState.setAccount, lookup_insert]
    exact .some ⟨hfacts, hpressure⟩
  · rw [PluginState.setAccount, lookup_insert_ne hkey]
    exact lookup_rel_refl (fun _ => ⟨rfl, rfl⟩) _ _

theorem Shown.recordAccountSuccess (h : Shown w) (hempty : w.txns = [])
    (hquiet : QuietFor w.state w.clock authID authIndex) (hit : Nat) :
    Shown { w with state := w.state.recordAccountSuccess authID authIndex hit w.clock } := by
  have htidy := (recordAccountSuccess_written w.state authID authIndex hit w.clock).tidy h.tidy
  unfold PluginState.recordAccountSuccess at htidy ⊢
  cases hfound : w.state.findAccountLocked authID authIndex hit with
  | none => exact h
  | some found =>
    obtain ⟨key, a⟩ := found
    rw [hfound] at htidy
    obtain ⟨hlookup, hnames⟩ := findAccountLocked_names hfound
    have hsuccess := hquiet ⟨key, a⟩ (mem_lookup_iff.mp hlookup) hnames
    refine h.write hempty htidy fun p htracks => ?_
    exact htracks.setAccount h.tidy htidy hlookup (storedFacts_accountSuccess hsuccess).symm
      quotaPressure_accountSuccess.symm

theorem successQuiet_reconcileMarker (h : SuccessQuiet a now) :
    SuccessQuiet (PluginState.reconcileMarker a now) now := by
  unfold PluginState.reconcileMarker
  split
  · exact ⟨rfl, .inl rfl⟩
  · exact h

theorem successQuiet_observedAccount (h : SuccessQuiet a now) (quota : ParsedQuota) :
    SuccessQuiet (PluginState.observedAccount a quota now) now :=
  successQuiet_reconcileMarker h

theorem QuietFor.observeAccountQuota (h : QuietFor s now authID authIndex) {hit : Nat}
    {quota : ParsedQuota}
    (hobserved : s.observeAccountQuota authID authIndex hit quota now = some s') :
    QuietFor s' now authID authIndex := by
  unfold PluginState.observeAccountQuota at hobserved
  split at hobserved
  · cases hobserved
  · rename_i key a hfound
    cases hobserved
    obtain ⟨hlookup, hnames⟩ := findAccountLocked_names hfound
    intro e he hnamed
    rw [PluginState.setAccount, entries_insert, mem_cons] at he
    rcases he with rfl | he
    · have hquiet := h ⟨key, a⟩ (mem_lookup_iff.mp hlookup) hnames
      exact successQuiet_observedAccount hquiet quota
    · exact h e ((kerase_sublist key _).subset he) hnamed

theorem Shown.applyObservedCodexHeaders (h : Shown w) (hempty : w.txns = []) (record : UsageRecord)
    (hit : Nat) (hquiet : QuietFor w.state w.clock record.authID record.authIndex) :
    ∃ w', w.applyObservedCodexHeaders record hit = w' ∧ Shown w' ∧ w'.txns = [] ∧
      QuietFor w'.state w'.clock record.authID record.authIndex := by
  refine ⟨_, rfl, ?_⟩
  unfold Plugin.applyObservedCodexHeaders
  split
  · exact ⟨h, hempty, hquiet⟩
  · rename_i quota _
    cases hobs : w.observeQuota record.authID record.authIndex hit quota with
    | none => exact ⟨h, hempty, hquiet⟩
    | some w' =>
      obtain ⟨s, hs, rfl⟩ := map_eq_some_iff.mp hobs
      have htidy := (observeAccountQuota_written hs).tidy h.tidy
      exact ⟨shown_publish (w := { w with state := s }) htidy hempty _, hempty,
        hquiet.observeAccountQuota hs⟩

theorem Shown.finishUsageHandle (htidy : Tidy w.state) (hempty : w.txns = [])
    (hp : w.published = some p) (record : UsageRecord)
    (h : detectQuotaFailure record w.clock = none → Shown w) :
    Shown (w.finishUsageHandle record) := by
  have hevidence : ∃ trials, w.observeUsageEvidence p record = w.setTrials trials := by
    unfold Plugin.observeUsageEvidence
    split
    · exact ⟨w.shared.trials, rfl⟩
    · exact ⟨_, rfl⟩
  obtain ⟨trials, htrials⟩ := hevidence
  simp only [Plugin.finishUsageHandle, hp, htrials]
  split
  · exact shown_publish (w := w.setTrials trials) htidy hempty _
  · rename_i hnone
    have hshown := h (by simpa [Plugin.setTrials] using hnone)
    exact hshown.frame rfl rfl rfl rfl

theorem Shown.usage (h : Shown w) (record : UsageRecord) (hit : Nat)
    (hok : StepOk w (.usage record hit)) : Shown (w.step (.usage record hit)) := by
  have hempty : w.txns = [] := List.isEmpty_iff.mp hok.1
  obtain ⟨_, p, _, _, hp, _⟩ := h.shown
  simp only [Plugin.step, Plugin.handleUsageHandle, Plugin.handleUsageFeedback]
  split
  · exact .finishUsageHandle h.tidy hempty hp record fun _ => h
  split
  · rename_i hsuccess
    have hfailed : record.failed = false := by
      simpa using (Bool.and_eq_true_iff.mp hsuccess).2
    obtain ⟨w', heq, hshown, hempty', hquiet⟩ :=
      h.applyObservedCodexHeaders hempty record hit (hok.2 hfailed)
    rw [heq]
    have hrecorded : Shown (w'.recordUsageSuccess record hit) ∧
        (w'.recordUsageSuccess record hit).txns = [] := by
      unfold Plugin.recordUsageSuccess
      split
      · exact ⟨hshown.recordAccountSuccess hempty' hquiet hit, hempty'⟩
      · exact ⟨hshown, hempty'⟩
    obtain ⟨_, p', _, _, hp', _⟩ := hrecorded.1.shown
    exact .finishUsageHandle hrecorded.1.tidy hrecorded.2 hp' record fun _ => hrecorded.1
  · split
    · exact .finishUsageHandle h.tidy hempty hp record fun _ => h
    · rename_i event hevent
      -- the marked state is not shown yet, but a failure is always published
      have htidy := (markUsageFailure_written w.state event hit).tidy h.tidy
      refine .finishUsageHandle
        (w := { w with state := Plugin.markUsageFailure w.state event hit }) htidy hempty hp record
        fun hnone => ?_
      rw [hevent] at hnone
      cases hnone

theorem sameTable_ownJournal (htidy : Tidy s) :
    SameTable (s.applyLegacyEffectJournal (s.legacyEffectJournal authID)) s :=
  sameTable_journal htidy rfl rfl (fun _ _ => rfl) fun h => h

theorem sameTable_wroteAuth {o : PluginState} (htidy : Tidy o) (hwrote : WroteAuth s o authID) :
    SameTable (s.applyLegacyEffectJournal (o.legacyEffectJournal authID)) o := by
  obtain ⟨a, _, rfl⟩ := hwrote
  refine sameTable_journal htidy rfl rfl ?_ ?_
  · intro key hkey
    rw [PluginState.setAccount, lookup_insert_ne hkey]
  · intro hnone
    rw [PluginState.setAccount, lookup_insert] at hnone
    cases hnone

theorem Shown.refreshRun (h : Shown w) (i : Nat) (outcome : RefreshOutcome) :
    Shown (w.refreshRun i outcome) := by
  obtain ⟨htidy, s, p, hpending, hs, hp, htracks⟩ := h
  unfold Plugin.refreshRun
  split
  · exact ⟨htidy, s, p, hpending, hs, hp, htracks⟩
  rename_i t ht
  split
  · exact ⟨htidy, s, p, hpending, hs, hp, htracks⟩
  rename_i hran
  cases hpending with
  | settled hnil => simp [hnil] at ht
  | ran t' hone hran' _ =>
    rw [hone, getElem?_singleton] at ht
    split at ht
    · cases ht
      exact absurd hran' hran
    · cases ht
  | started t' hone _ hcopy =>
    rw [hone, getElem?_singleton] at ht
    split at ht
    · rename_i hzero
      cases ht
      subst hzero
      split
      · have hset : (w.setTxn 0 { t with ran := true }).txns = [{ t with ran := true }] := by
          simp [Plugin.setTxn, hone]
        have hjournal : SameTable
            (w.state.applyLegacyEffectJournal (t.overlay.legacyEffectJournal t.auth.id))
            t.overlay := by
          rw [hcopy]
          exact sameTable_ownJournal htidy
        rw [← hcopy] at htracks hs
        exact ⟨htidy, t.overlay, p, .ran { t with ran := true } hset rfl hjournal, hs, hp, htracks⟩
      · rename_i overlay notice hrun
        have hset : (w.setTxn 0 { t with overlay := overlay, ran := true }).txns =
            [{ t with overlay := overlay, ran := true }] := by
          simp [Plugin.setTxn, hone]
        have hoverlay : Tidy overlay :=
          (refreshAuthVersionedHeld_written hrun).1.tidy (hcopy ▸ htidy)
        have hwrote := refreshAuthVersionedHeld_wroteAuth hrun
        rw [hcopy] at hwrote
        have hjournal := sameTable_wroteAuth hoverlay hwrote
        refine ⟨htidy, overlay, _, ?_, hoverlay, rfl, tracks_publishSchedulerState hoverlay _ _⟩
        apply Pending.ran { t with overlay := overlay, ran := true }
        · exact hset
        · rfl
        · exact hjournal
    · cases ht

theorem Shown.refreshApply (h : Shown w) (i : Nat) : Shown (w.refreshApply i true) := by
  obtain ⟨htidy, s, p, hpending, hs, hp, htracks⟩ := h
  unfold Plugin.refreshApply
  split
  · exact ⟨htidy, s, p, hpending, hs, hp, htracks⟩
  rename_i t ht
  cases hpending with
  | settled hnil => simp [hnil] at ht
  | started t' hone hran _ =>
    rw [hone, getElem?_singleton] at ht
    split at ht
    · rename_i hzero
      cases ht
      subst hzero
      simp only [hran, Bool.and_false, Bool.false_eq_true, if_false]
      exact ⟨htidy, w.state, p, .settled (by simp [hone]), htidy, hp, htracks⟩
    · cases ht
  | ran t' hone hran hjournal =>
    rw [hone, getElem?_singleton] at ht
    split at ht
    · rename_i hzero
      cases ht
      subst hzero
      have happlied : Tidy (w.state.applyLegacyEffectJournal
          (t.overlay.legacyEffectJournal t.auth.id)) :=
        tidy_applyLegacyEffectJournal htidy (journal_bare hs)
      have hsame : SameTable t.overlay (w.state.applyLegacyEffectJournal
          (t.overlay.legacyEffectJournal t.auth.id)) :=
        ⟨hjournal.cfg.symm, hjournal.annotations.symm, fun key => (hjournal.lookup key).symm⟩
      simp only [hran, Bool.and_true, if_true]
      exact ⟨happlied, _, p, .settled (by simp [hone]), happlied, hp,
        htracks.sameTable hs happlied hsame⟩
    · cases ht

theorem Shown.refreshBegin (h : Shown w) (hempty : w.txns = []) (auth : HostAuthFileEntry)
    (version : Nat) : Shown (w.refreshBegin auth version) := by
  obtain ⟨htidy, s, p, hpending, _, hp, htracks⟩ := h
  rw [hpending.state_of_empty hempty] at htracks
  have hone : (w.refreshBegin auth version).txns = [⟨auth, version, w.state, false⟩] := by
    simp [Plugin.refreshBegin, hempty]
  exact ⟨htidy, w.state, p, .started _ hone rfl rfl, htidy, hp, htracks⟩

theorem Shown.advanceLifecycle (h : Shown w) : Shown w.advanceLifecycle := by
  unfold Plugin.advanceLifecycle Plugin.observeRosterLifecycle
  split <;> exact h.frame rfl rfl rfl rfl

theorem Shown.finishSync (h : Shown w) (hempty : w.txns = []) (entries : List RosterEntry)
    (wired : Bool) : Shown (w.finishSync entries wired) := by
  rcases finishSync_cases w entries wired with heq | ⟨admission, current, roster, heq⟩
  · rw [heq]
    exact h.advanceLifecycle
  · rw [heq]
    have htidy := tidy_replaceCPAAdmission h.tidy admission
    have hshown := shown_publish (w := { w with state := w.state.replaceCPAAdmission admission })
      htidy hempty (some admission.authIDs)
    exact hshown.frame rfl rfl rfl rfl

theorem Shown.streamObserve (h : Shown w) (hempty : w.txns = []) (authID authIndex : String)
    (hit : Nat) (quota : ParsedQuota) : Shown (w.streamObserve authID authIndex hit quota) := by
  unfold Plugin.streamObserve
  split
  · exact h
  · cases hobs : w.observeQuota authID authIndex hit quota with
    | none => exact shown_publish h.tidy hempty _
    | some w' =>
      obtain ⟨s, hs, rfl⟩ := map_eq_some_iff.mp hobs
      have htidy := (observeAccountQuota_written hs).tidy h.tidy
      exact shown_publish (w := { w with state := s }) htidy hempty _

theorem Shown.reconcileTemporaryExhausted (h : Shown w) (hempty : w.txns = []) (authID : String)
    (version : Nat) : Shown (w.reconcileTemporaryExhausted authID version) := by
  unfold Plugin.reconcileTemporaryExhausted
  split
  · exact h
  split
  · split
    · rename_i s hs
      have htidy := (clearAccountTemporaryExhausted_written hs).tidy h.tidy
      exact shown_publish (w := { w with state := s }) htidy hempty _
    · exact h
  · exact h

theorem Shown.unparkAfterExternalLogin (h : Shown w) (hempty : w.txns = []) (authID : String) :
    Shown (w.unparkAfterExternalLogin authID) := by
  unfold Plugin.unparkAfterExternalLogin
  split
  · rename_i s hs
    have htidy := (clearAccountAuthFailure_written hs).tidy h.tidy
    exact shown_publish (w := { w with state := s }) htidy hempty _
  · exact h

theorem Shown.save (h : Shown w) (hempty : w.txns = []) {cfg : Config}
    {annotations : String → Option Int} (hcfg : SameSettings w.state.cfg cfg)
    (hpriorities : SamePriorities w.state annotations) :
    Shown { w with state := { w.state with cfg := cfg, annotations := annotations } } := by
  have htidy : Tidy { w.state with cfg := cfg, annotations := annotations } := h.tidy
  refine h.write hempty htidy fun p htracks => ?_
  refine htracks.of_alike hcfg.handleEnabled hcfg.fallback hcfg.monthlyMode fun trials => ?_
  refine alike_views_of_facts h.tidy htidy fun key => ?_
  cases hfound : w.state.accounts.lookup key with
  | none => exact .none
  | some a =>
    have hpriority := hpriorities ⟨key, a⟩ (mem_lookup_iff.mp hfound)
    exact .some ⟨storedFacts_settings hcfg.staleAfter hpriority, rfl⟩

theorem Shown.step (h : Shown w) (e : Event) (hok : StepOk w e) : Shown (w.step e) := by
  cases e with
  | tick d => exact h.tick d hok
  | configure cfg annotations =>
    exact shown_publish (w := { w with
      state := (w.state.replaceConfig cfg).setAnnotations annotations }) h.tidy
      (List.isEmpty_iff.mp hok) none
  | sync files wired => exact h.finishSync (List.isEmpty_iff.mp hok) _ wired
  | lifecycle => exact h.advanceLifecycle
  | refreshBegin auth version => exact h.refreshBegin (List.isEmpty_iff.mp hok) auth version
  | refreshRun i outcome => exact h.refreshRun i outcome
  | refreshApply i accepted =>
    have haccepted : accepted = true := hok
    subst haccepted
    exact h.refreshApply i
  | usage record hit => exact h.usage record hit hok
  | requestComplete authID =>
    exact h.recordAccountSuccess (List.isEmpty_iff.mp hok.1) hok.2 0
  | streamObserve authID authIndex hit quota =>
    exact h.streamObserve (List.isEmpty_iff.mp hok) authID authIndex hit quota
  | reconcileTemporary authID version =>
    exact h.reconcileTemporaryExhausted (List.isEmpty_iff.mp hok) authID version
  | unpark authID => exact h.unparkAfterExternalLogin (List.isEmpty_iff.mp hok) authID
  | saveSettings cfg => exact h.save (List.isEmpty_iff.mp hok.1) hok.2 fun _ _ => rfl
  | saveAnnotations annotations =>
    exact h.save (List.isEmpty_iff.mp hok.1) ⟨rfl, rfl, rfl, rfl⟩ hok.2
  | importState cfg annotations => exact h.save (List.isEmpty_iff.mp hok.1) hok.2.1 hok.2.2
  | pickStart req => exact h.frame rfl rfl rfl rfl
  | pickStep i room =>
    simp only [Plugin.step, Plugin.pickStep]
    split
    · exact h
    · exact h.frame rfl rfl rfl rfl
  | consumeIntent =>
    simp only [Plugin.step, Plugin.consumeIntent]
    split
    · exact h
    · exact h.frame rfl rfl rfl rfl

theorem Shown.run (events : List Event) (h : Shown w) (hok : RunOk w events) :
    Shown (w.run events) := by
  induction events generalizing w with
  | nil => exact h
  | cons e events ih => exact ih (h.step e hok.1) hok.2

def currentSnapshot (w : Plugin) (published : SchedulerSnapshot) : SchedulerSnapshot :=
  { schedulerSnapshotFromState (w.state.snapshot w.clock) w.shared.trials with
    activeHighestTier := published.activeHighestTier }

/-- Every pick started now selects what it would select on the current snapshot. -/
def PicksAgree (w : Plugin) : Prop :=
  ∃ published, w.published = some published ∧
    ∀ (req : SchedulerPickRequest) (others : List PickCall) (shared : Shared)
      (labels : List PickLabel),
      ((runPicks (⟨w.published, req, w.clock⟩ :: others) shared labels).picks[0]?).bind selected =
        ((runPicks (⟨some (currentSnapshot w published), req, w.clock⟩ :: others) shared
          labels).picks[0]?).bind selected

def Settled (w : Plugin) : Prop := ∀ t ∈ w.txns, t.ran = false

theorem Shown.picksAgree (h : Shown w) (hsettled : Settled w) : PicksAgree w := by
  obtain ⟨_, s, p, hpending, _, hp, htracks⟩ := h
  have hstate : s = w.state := by
    cases hpending with
    | settled _ | started t _ _ _ => rfl
    | ran t hone hran _ =>
      have hfalse := hsettled t (by simp [hone])
      rw [hran] at hfalse
      cases hfalse
  subst hstate
  have halike : AlikeSnapshots p (currentSnapshot w p) :=
    ⟨htracks.handleEnabled, htracks.fallback, htracks.monthlyMode, rfl, ⟨htracks.registry, rfl⟩,
      htracks.accounts w.shared.trials⟩
  refine ⟨p, hp, fun req others shared labels => ?_⟩
  rw [hp]
  exact selected_runPicks halike req w.clock others shared labels

def configured (now : Time) (cfg : Config) (annotations : String → Option Int) : Plugin :=
  (initial now).step (.configure cfg annotations)

/-- Under the condition, every pick between write-backs selects what the state selects. -/
theorem picks_agree_along_runs (now : Time) (cfg : Config) (annotations : String → Option Int)
    (events : List Event) (hok : RunOk (configured now cfg annotations) events)
    (hsettled : Settled ((configured now cfg annotations).run events)) :
    PicksAgree ((configured now cfg annotations).run events) := by
  have htidy : Tidy (initial now).state := by simp [Tidy, initial, newPluginState]
  have hstart : Shown (configured now cfg annotations) :=
    shown_publish (w := { initial now with
      state := ((initial now).state.replaceConfig cfg).setAnnotations annotations }) htidy rfl none
  exact (hstart.run events hok).picksAgree hsettled

private def keptUp : List Event :=
  [.sync [⟨"a", "", "codex", none⟩] true, .refreshBegin ⟨"a", "", "", "", "codex", 0⟩ 1,
    .refreshRun 0 (.read "acct" ⟨.weekly, none,
      some { usedPercent := some 40, resetAt := 10 * hour }⟩),
    .refreshApply 0 true,
    .usage ⟨"codex", false, "a", "", none, none⟩ 0,
    .tick 60000000000]

theorem picks_agree_after_refresh :
    PicksAgree ((configured 1 defaultConfig fun _ => none).run keptUp) := by
  have hquiet : QuietFor ((configured 1 defaultConfig fun _ => none).run (keptUp.take 4)).state
      1 "a" "" := by
    unfold QuietFor Names SuccessQuiet
    decide +kernel
  have hsteady : Steady ((configured 1 defaultConfig fun _ => none).run (keptUp.take 5)).state
      1 (1 + (60000000000 : Nat)) := ⟨by decide +kernel, by decide +kernel⟩
  refine picks_agree_along_runs 1 defaultConfig (fun _ => none) keptUp ?_ ?_
  · refine ⟨rfl, rfl, trivial, rfl, ⟨rfl, fun _ => hquiet⟩, ?_, trivial⟩
    intro s hs
    rw [mem_singleton.mp hs]
    exact hsteady
  · unfold Settled
    decide +kernel

private def markedThenReset : List Event :=
  [.sync [⟨"a", "", "codex", none⟩] true,
    .usage ⟨"codex", true, "a", "", none, some (some (1 * hour))⟩ 0,
    .tick 7200000000000]

/-- Two hours later the marker has expired, but picks still leave the account out. -/
theorem expired_marker_still_excludes :
    ¬PicksAgree ((configured 1 defaultConfig fun _ => none).run markedThenReset) := by
  rintro ⟨published, hpublished, hagree⟩
  have htier : published.activeHighestTier = {"a"} := by
    have hmap := congrArg (Option.map SchedulerSnapshot.activeHighestTier) hpublished
    have hvalue : .map SchedulerSnapshot.activeHighestTier
        ((configured 1 defaultConfig fun _ => none).run markedThenReset).published =
          some {"a"} := by
      decide +kernel
    exact some.inj (hmap.symm.trans hvalue)
  have hpick := hagree ⟨"codex", [], [⟨"a", "codex"⟩]⟩ [] ⟨newTrialRegistry, []⟩
    (replicate 5 (.pick 0 true))
  simp only [currentSnapshot, htier] at hpick
  revert hpick
  decide +kernel

end QuotaScheduler.SnapshotTracking

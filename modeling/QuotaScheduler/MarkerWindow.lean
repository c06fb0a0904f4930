/- When readings leave the marker of the account alone (usage.go, state.go). -/

import QuotaScheduler.AccountUpdates
import QuotaScheduler.MarkerWriteback

namespace QuotaScheduler.MarkerWindow

open Selection Account State PluginRuntime StateUpdates PluginActs
open RefreshWrites TrialIsolation AccountUpdates MarkerWriteback Option PluginState Plugin Bool

def readsWindow (resetAt : Time) : RefreshOutcome → Bool
  | .read _ quota => quota.fiveHour.any fun five => decide (five.resetAt = resetAt)
  | _ => true

/-- The account is seen with its five-hour window and that reset; no request, operator or roster
event. -/
def backgroundStep (authID : String) (resetAt : Time) (w : Plugin) : Event → Bool
  | .refreshRun i outcome =>
    w.txns[i]?.all fun t => decide (t.auth.id ≠ authID) || readsWindow resetAt outcome
  | .streamObserve id index hit quota =>
    (w.state.findAccountLocked id index hit).all fun found =>
      decide (found.1 ≠ "auth:" ++ authID) ||
        quota.fiveHour.all fun five => decide (five.resetAt = resetAt)
  | .usage record _ => !concerns w.state record ("auth:" ++ authID)
  | .requestComplete id => decide (id ≠ authID)
  | .reconcileTemporary id _ => decide (id ≠ authID)
  | .sync _ _ => false
  | _ => true

def background (authID : String) (resetAt : Time) (w : Plugin) : List Event → Bool
  | [] => true
  | e :: es => backgroundStep authID resetAt w e && background authID resetAt (w.step e) es

def reportedReset (record : UsageRecord) (now : Time) : Time :=
  match record.limit with
  | some (some resetAt) => resetAt
  | _ => now + 2 * minute

structure InWindow (resetAt : Time) (a : AccountState) : Prop where
  marked : a.temporaryExhausted = true
  deadline : a.temporaryResetAt = resetAt
  window : a.quota.fiveHour.map (·.resetAt) = some resetAt

section

variable {resetAt : Time} {a : AccountState} {now : Time}

theorem not_confirms (hdeadline : a.temporaryResetAt = resetAt)
    (hwindow : a.quota.fiveHour.map (·.resetAt) = some resetAt) :
    quotaRefreshConfirmsReset a now = false := by
  obtain ⟨five, hfive, hreset⟩ := map_eq_some_iff.mp hwindow
  unfold quotaRefreshConfirmsReset
  rw [hfive, hdeadline]
  simp [hreset]

theorem InWindow.reconciled (h : InWindow resetAt a) (now : Time) :
    InWindow resetAt (reconcileMarker a now) := by
  unfold reconcileMarker
  rw [not_confirms h.deadline h.window, Bool.and_false]
  exact h

theorem InWindow.observed (h : InWindow resetAt a) {quota : ParsedQuota}
    (hquota : (quota.fiveHour.all fun five => decide (five.resetAt = resetAt)) = true)
    (now : Time) : InWindow resetAt (observedAccount a quota now) := by
  have hwindow : (if quota.fiveHour.isSome then quota.fiveHour else a.quota.fiveHour).map
      (·.resetAt) = some resetAt := by
    cases hfive : quota.fiveHour with
    | none => exact h.window
    | some five =>
      rw [hfive, all_some, decide_eq_true_eq] at hquota
      simp [hquota]
  refine .reconciled ?_ now
  exact ⟨h.marked, h.deadline, hwindow⟩

variable {cfg : Config}

theorem inWindow_applyCircuitSuccess (h : InWindow resetAt a) :
    InWindow resetAt (applyCircuitSuccess a cfg now) := by
  obtain ⟨hmarked, hdeadline, hwindow⟩ := h
  unfold applyCircuitSuccess
  simp only
  split_ifs <;> exact ⟨hmarked, hdeadline, hwindow⟩

theorem inWindow_refreshSuccess (h : InWindow resetAt a) :
    InWindow resetAt (refreshSuccess cfg a now) := by
  refine inWindow_applyCircuitSuccess (.reconciled ?_ now)
  exact ⟨h.marked, h.deadline, h.window⟩

theorem InWindow.refreshed {s : PluginState} (htidy : Tidy s)
    {auth : HostAuthFileEntry} {now : Time}
    {outcome : RefreshOutcome} {b : AccountState} (hne : auth.id ≠ "")
    (hlookup : s.accounts.lookup ("auth:" ++ auth.id) = some b) (h : InWindow resetAt b)
    (hreads : readsWindow resetAt outcome = true) (ha : Refreshed s auth now outcome a) :
    InWindow resetAt a := by
  have hbase := refreshBase_of_lookup htidy hne hlookup now
  have hkept : ∀ c, Keeps (refreshBase s auth now) c → c.temporaryExhausted = true ∧
      c.temporaryResetAt = resetAt := fun c hkeeps =>
    ⟨(hkeeps.temporaryExhausted.trans hbase.temporaryExhausted).trans h.marked,
      (hkeeps.temporaryResetAt.trans hbase.temporaryResetAt).trans h.deadline⟩
  have hquota : ∀ c : AccountState, c.quota = (refreshBase s auth now).quota →
      c.quota.fiveHour.map (·.resetAt) = some resetAt := by
    intro c hc
    rw [hc, hbase.quota]
    exact h.window
  cases ha with
  | failed c accountID kind message keeps quota =>
    obtain ⟨hmarked, hdeadline⟩ := hkept c keeps
    exact ⟨hmarked, hdeadline, hquota c quota⟩
  | noAccountID c keeps quota =>
    obtain ⟨hmarked, hdeadline⟩ := hkept c keeps
    exact inWindow_refreshSuccess ⟨hmarked, hdeadline, hquota c quota⟩
  | read c id keeps =>
    obtain ⟨hmarked, hdeadline⟩ := hkept c keeps
    have hwindow : c.quota.fiveHour.map (·.resetAt) = some resetAt := by
      cases hfive : c.quota.fiveHour with
      | none => simp [readsWindow, hfive] at hreads
      | some five => simpa [readsWindow, hfive] using hreads
    exact inWindow_refreshSuccess ⟨hmarked, hdeadline, hwindow⟩

end

structure Watched (authID : String) (resetAt : Time) (w : Plugin) : Prop where
  bare : Bare w
  state : Holds (InWindow resetAt) authID w.state
  txns : ∀ t ∈ w.txns, t.auth.id = authID → Holds (InWindow resetAt) authID t.overlay

variable {authID : String} {resetAt : Time} {w : Plugin}

theorem inWindow_updates {e : Event} (he : backgroundStep authID resetAt w e = true)
    {f : AccountState → AccountState} (hf : Updates ("auth:" ++ authID) w e f) (a : AccountState)
    (h : InWindow resetAt a) : InWindow resetAt (f a) := by
  have hname : ∀ id, "auth:" ++ authID = "auth:" ++ id → id = authID := by
    intro id hid
    simpa using hid.symm
  cases hf with
  | observe id index hit quota b found =>
    refine h.observed ?_ _
    simpa [backgroundStep, found] using he
  | headers record hit quota codex named read | success record hit codex named =>
    simp [backgroundStep, named] at he
  | complete id named | clearTemporary id version named =>
    simp [backgroundStep, hname id named] at he
  | mark record hit event detected named => simp [backgroundStep, named] at he
  | clearAuth id named => exact ⟨h.marked, h.deadline, h.window⟩
  | admits files wired priority => cases he

theorem Watched.step (h : Watched authID resetAt w) (e : Event)
    (he : backgroundStep authID resetAt w e = true) : Watched authID resetAt (w.step e) := by
  have hne : authID ≠ "" := by
    obtain ⟨a, hlookup, -⟩ := h.state
    have hproper := h.bare.state.lookup hlookup
    have hid : a.authID = authID := by simpa using hproper.keyed.symm
    rw [← hid]
    exact hproper.named
  refine ⟨h.bare.step e, ?_, fun t ht hid => ?_⟩
  · refine h.state.step h.bare e ?_ (fun f hf => inWindow_updates he hf) ?_
    · cases e <;> first | rfl | cases he
    · intro i t a _ ht _ hid hlookup
      obtain ⟨b, hb, hin⟩ := h.txns t (List.mem_of_getElem? ht) hid
      rw [hlookup] at hb
      cases hb
      exact hin
  · cases txnFrom_step e ht with
    | old t mem => exact h.txns t mem hid
    | copied auth version begins => exact h.state
    | stopped i outcome t runs txn => exact h.txns t (List.mem_of_getElem? txn) hid
    | refreshed i outcome t a runs txn writes =>
      subst runs
      have hmem := List.mem_of_getElem? txn
      obtain ⟨b, hb, hin⟩ := h.txns t hmem hid
      have hid' : t.auth.id = authID := hid
      have hreads : readsWindow resetAt outcome = true := by
        simpa [backgroundStep, txn, hid'] using he
      subst hid'
      exact ⟨a, AList.lookup_insert _, hin.refreshed (h.bare.txns t hmem) hne hb hreads writes⟩

theorem Watched.run (h : Watched authID resetAt w) (es : List Event)
    (hes : background authID resetAt w es = true) : Watched authID resetAt (w.run es) := by
  induction es generalizing w with
  | nil => exact h
  | cons e es ih =>
    simp only [background, and_eq_true] at hes
    exact ih (h.step e hes.1) hes.2

theorem resetAt_detectQuotaFailure {record : UsageRecord} {now : Time}
    {event : QuotaFailureEvent} (h : detectQuotaFailure record now = some event) :
    event.resetAt = reportedReset record now := by
  unfold detectQuotaFailure at h
  unfold reportedReset
  split at h
  · cases hlimit : record.limit with
    | none => simp [hlimit] at h
    | some reported =>
      cases reported <;> simp only [hlimit, some.injEq] at h ⊢ <;> rw [← h]
  · cases h

theorem lookup_of_marks (htidy : Tidy w.state) {record : UsageRecord} {hit : Nat}
    (hmarks : marks authID w (.usage record hit) = true) {a : AccountState}
    (hlookup : w.state.accounts.lookup ("auth:" ++ authID) = some a) :
    ∃ reason, (w.step (.usage record hit)).state.accounts.lookup ("auth:" ++ authID) =
      some (markTemporaryExhausted a (reportedReset record w.clock) reason) := by
  simp only [marks, and_eq_true] at hmarks
  obtain ⟨henabled, hnames⟩ := hmarks
  cases hdetected : detectQuotaFailure record w.clock with
  | none => simp [hdetected] at hnames
  | some event =>
    rw [hdetected, any_some] at hnames
    have hreset := resetAt_detectQuotaFailure hdetected
    have hfailed : ¬(record.provider = "codex" && !record.failed) = true := by
      unfold detectQuotaFailure at hdetected
      simp_all
    simp only [step, handleUsageHandle]
    rw [state_finishUsageHandle]
    simp only [handleUsageFeedback, henabled, Bool.not_true, false_eq_true, if_false,
      if_neg hfailed, hdetected, markUsageFailure]
    rw [← hreset]
    split
    · next hid =>
      rw [if_pos hid, decide_eq_true_eq] at hnames
      subst hnames
      simp [markAccountTemporaryExhausted, hid, hlookup, setAccount]
    · next hid =>
      rw [if_neg hid] at hnames
      unfold markAccountTemporaryExhaustedByAuthIndex
      cases hfound : w.state.findAccountLocked "" event.authIndex hit with
      | none => simp [hfound] at hnames
      | some found =>
        rw [hfound, any_some, decide_eq_true_eq] at hnames
        have hproper := findAccountLocked_proper hfound htidy
        have hkey : found.1 = "auth:" ++ authID := by rw [hproper.keyed, hnames]
        have hsame := findAccountLocked_lookup hfound
        rw [hkey, hlookup] at hsame
        cases hsame
        simp [hkey, setAccount]

def fullReading (resetAt : Time) : ParsedQuota :=
  { fiveHour := some { resetAt := resetAt }, longWindow := some {} }

theorem marked_of_watched (h : Watched authID resetAt w) : marked w.state authID = true := by
  obtain ⟨a, hlookup, ha⟩ := h.state
  simp [marked, hlookup, ha.marked]

theorem fullReading_clears {a : AccountState} (hne : authID ≠ "")
    (hlookup : w.state.accounts.lookup ("auth:" ++ authID) = some a)
    (hdeadline : a.temporaryResetAt ≠ resetAt) (hclock : w.clock ≠ .zero) :
    marked (w.step (.streamObserve authID "" 0 (fullReading resetAt))).state authID = false := by
  have hfound : w.state.findAccountLocked authID "" 0 = some ("auth:" ++ authID, a) := by
    simp [findAccountLocked, hne, hlookup]
  have hcleared : (observedAccount a (fullReading resetAt) w.clock).temporaryExhausted =
      false := by
    unfold observedAccount
    rw [temporaryExhausted_reconcileMarker, and_eq_false_iff]
    simp [quotaRefreshConfirmsReset, fullReading, Time.isZero, hclock,
      windowShowsRemainingCapacity, Ne.symm hdeadline]
  simp only [step, streamObserve, observeQuota, observeAccountQuota, hfound]
  rw [if_neg (by simp [hne, fullReading])]
  simp [marked, setAccount, republish, publish, hcleared]

/-- Readings of the window leave the marker iff the limit reported its reset. -/
theorem marker_kept_iff (now : Time) (before : List Event) (authID : String) (a : AccountState)
    (five : QuotaWindow) (record : UsageRecord) (hit : Nat)
    (hmarks : marks authID ((initial now).run before) (.usage record hit) = true)
    (hlookup : ((initial now).run before).state.accounts.lookup ("auth:" ++ authID) = some a)
    (hfive : a.quota.fiveHour = some five)
    (hlater : ∀ t ∈ ((initial now).run before).txns, t.auth.id ≠ authID) :
    (∀ es, background authID five.resetAt (((initial now).run before).step (.usage record hit)) es =
        true →
      marked ((((initial now).run before).step (.usage record hit)).run es).state authID = true) ↔
    reportedReset record ((initial now).run before).clock = five.resetAt := by
  have hbare := bare_run now before
  generalize (initial now).run before = w at *
  obtain ⟨reason, hmarked⟩ := lookup_of_marks hbare.state hmarks hlookup
  constructor
  · intro h
    by_contra hne
    have hnamed : authID ≠ "" := by
      have hproper := hbare.state.lookup hlookup
      have hid : a.authID = authID := by simpa using hproper.keyed.symm
      rw [← hid]
      exact hproper.named
    -- the clock is past the zero time when the reading comes
    obtain ⟨d, hd⟩ : ∃ d : Nat, (w.step (.usage record hit)).clock + d ≠ .zero := by
      by_cases hzero : (w.step (.usage record hit)).clock = .zero
      · exact ⟨1, by rw [hzero]; decide⟩
      · exact ⟨0, by simpa using hzero⟩
    have hkept := h [.tick d, .streamObserve authID "" 0 (fullReading five.resetAt)]
      (by simp [background, backgroundStep, fullReading])
    have hcleared := fullReading_clears (w := (w.step (.usage record hit)).step (.tick d))
      hnamed hmarked hne hd
    rw [← not_eq_true] at hcleared
    exact hcleared hkept
  · intro hreset es hes
    have hwatched : Watched authID five.resetAt (w.step (.usage record hit)) := by
      refine ⟨hbare.step _, ⟨_, hmarked, rfl, hreset, ?_⟩, fun t ht hid => ?_⟩
      · simp [markTemporaryExhausted, hfive]
      · rw [(step_txns w [] (.usage record hit) rfl).2] at ht
        exact absurd hid (hlater t ht)
    exact marked_of_watched (hwatched.run es hes)

private def refreshedWindow : List Event :=
  [.sync [⟨"a", "", "codex", none⟩] true, .refreshBegin ⟨"a", "", "", "", "codex", 0⟩ 1,
    .refreshRun 0 (.read "acct" ⟨.weekly, some { usedPercent := some 90, resetAt := 5 * hour },
      some { usedPercent := some 40, resetAt := 10 * hour }⟩),
    .refreshApply 0 true]

private def limit (reset : Option Time) : UsageRecord := ⟨"codex", true, "a", "", none, some reset⟩

private def limited (reset : Option Time) : Plugin :=
  ((initial 1).run refreshedWindow).step (.usage (limit reset) 0)

private def stored : AccountState :=
  (((initial 1).run refreshedWindow).state.accounts.lookup ("auth:" ++ "a")).getD {}

private def sameWindow : List Event :=
  [.tick 60000000000, .refreshBegin ⟨"a", "", "", "", "codex", 0⟩ 1,
    .refreshRun 0 (.read "acct" ⟨.weekly, some { usedPercent := some 0, resetAt := 5 * hour },
      some { usedPercent := some 40, resetAt := 10 * hour }⟩),
    .refreshApply 0 true]

theorem reported_window_keeps_marker :
    marked ((limited (some (5 * hour))).run sameWindow).state "a" = true :=
  (marker_kept_iff 1 refreshedWindow "a" stored { usedPercent := some 90, resetAt := 5 * hour }
    (limit (some (5 * hour))) 0 (by decide +kernel) (by decide +kernel) (by decide +kernel)
    (by decide +kernel)).mpr rfl sameWindow (by decide +kernel)

/-- The limit named no reset: the reading of the same window clears the marker. -/
theorem same_window_clears_marker :
    marked (limited none).state "a" = true ∧
      background "a" (5 * hour) (limited none) sameWindow = true ∧
      marked ((limited none).run sameWindow).state "a" = false :=
  ⟨by decide +kernel, by decide +kernel, by decide +kernel⟩

end QuotaScheduler.MarkerWindow

/- The marker across the write-back of a refresh (state.go, auth_transaction.go). -/

import QuotaScheduler.DiscardedRefresh
import QuotaScheduler.TrialIsolation

namespace QuotaScheduler.MarkerWriteback

open Account State PluginRuntime StateUpdates PluginActs
open RefreshWrites TrialIsolation

/-- What may happen to an account while a refresh of it is in flight. -/
inductive Feedback
  | tick (d : Nat)
  | usage (record : UsageRecord) (hit : Nat)
  | requestComplete (authID : String)
  | streamObserve (authID authIndex : String) (hit : Nat) (quota : ParsedQuota)

def Feedback.event : Feedback → Event
  | .tick d => .tick d
  | .usage record hit => .usage record hit
  | .requestComplete authID => .requestComplete authID
  | .streamObserve authID authIndex hit quota => .streamObserve authID authIndex hit quota

structure Interleaving where
  auth : HostAuthFileEntry
  version : Nat
  before : List Feedback
  outcome : RefreshOutcome
  after : List Feedback

namespace Interleaving

variable (x : Interleaving) (w : Plugin)

def begun : Plugin := w.refreshBegin x.auth x.version

def copied : Plugin := (x.begun w).run (x.before.map Feedback.event)

def ran : Plugin := (x.copied w).refreshRun w.txns.length x.outcome

def fed : Plugin := (x.ran w).run (x.after.map Feedback.event)

def applied : Plugin := (x.fed w).refreshApply w.txns.length true

end Interleaving

def marks (authID : String) (w : Plugin) : Event → Bool
  | .usage record hit =>
    w.state.cfg.enableUsageFeedback && (detectQuotaFailure record w.clock).any fun event =>
      if event.authID ≠ "" then decide (event.authID = authID)
      else (w.state.findAccountLocked "" event.authIndex hit).any fun found =>
        decide (found.2.authID = authID)
  | _ => false

def reportsSuccess : Event → Bool
  | .requestComplete _ => true
  | .usage record _ => decide (record.provider = "codex") && !record.failed
  | _ => false

def clears (authID : String) (w : Plugin) (e : Event) : Bool :=
  reportsSuccess e && marked w.state authID && !marked (w.step e).state authID

def happens (p : Plugin → Event → Bool) (w : Plugin) : List Event → Bool
  | [] => false
  | e :: es => p w e || happens p (w.step e) es

namespace Interleaving

variable (x : Interleaving) (w : Plugin)

def between (p : Plugin → Event → Bool) : Bool :=
  happens p (x.begun w) (x.before.map Feedback.event) ||
    happens p (x.ran w) (x.after.map Feedback.event)

/-- The journal has the account: the copy had it, or the refresh wrote it. -/
def journals : Bool :=
  (w.state.accounts.lookup ("auth:" ++ x.auth.id)).isSome ||
    !stops w.state x.auth x.version x.outcome

/-- The copy had the marker, and the refresh reads nothing that confirms a reset. -/
def carries : Bool :=
  marked w.state x.auth.id && (stops w.state x.auth x.version x.outcome ||
      !confirmsReset w.state x.auth.id x.outcome (x.copied w).clock)

end Interleaving

structure KeepsUpdates (x : Interleaving) (w : Plugin) : Prop where
  set : x.between w (marks x.auth.id) = true → marked (x.fed w).state x.auth.id = true →
    marked (x.applied w).state x.auth.id = true
  cleared : x.between w (clears x.auth.id) = true → marked (x.fed w).state x.auth.id = false →
    marked (x.applied w).state x.auth.id = false

/-- A marker that was set meets a journal with one, a cleared one a journal with none. -/
structure Agrees (x : Interleaving) (w : Plugin) : Prop where
  set : x.between w (marks x.auth.id) = true → marked (x.fed w).state x.auth.id = true →
    x.journals w = true → x.carries w = true
  cleared : x.between w (clears x.auth.id) = true → marked (x.fed w).state x.auth.id = false →
    x.journals w = true → x.carries w = false

theorem txns_run_feedback (w : Plugin) (fs : List Feedback) :
    (w.run (fs.map Feedback.event)).txns = w.txns := by
  induction fs generalizing w with
  | nil => rfl
  | cons f fs ih =>
    have hstep : (w.step f.event).txns = w.txns := (step_txns w [] f.event (by cases f <;> rfl)).2
    exact (ih (w.step f.event)).trans hstep

variable {w : Plugin}

open Interleaving

theorem txn_fed (x : Interleaving) (w : Plugin) :
    ∃ overlay, (x.fed w).txns[w.txns.length]? = some ⟨x.auth, x.version, overlay, true⟩ ∧
      (Tidy w.state → Tidy overlay) ∧
      (stops w.state x.auth x.version x.outcome = true ∧ overlay = w.state ∨
        stops w.state x.auth x.version x.outcome = false ∧
          ∃ a, Refreshed w.state x.auth (x.copied w).clock x.outcome a ∧
            overlay = w.state.setAccount ("auth:" ++ x.auth.id) a) := by
  have hcopied : (x.copied w).txns = w.txns ++ [⟨x.auth, x.version, w.state, false⟩] :=
    txns_run_feedback _ _
  have hfed : (x.fed w).txns = (x.ran w).txns := txns_run_feedback _ _
  have hfound : (x.copied w).txns[w.txns.length]? = some ⟨x.auth, x.version, w.state, false⟩ := by
    rw [hcopied, List.getElem?_concat_length]
  have hset : ∀ t : Txn, ((x.copied w).txns.set w.txns.length t)[w.txns.length]? = some t := by
    intro t
    rw [List.getElem?_set_self (List.getElem?_eq_some_iff.mp hfound).1]
  rw [hfed]
  unfold ran Plugin.refreshRun
  simp only [hfound, Bool.false_eq_true, if_false]
  cases hstops : stops w.state x.auth x.version x.outcome with
  | true =>
    rw [refreshAuthVersionedHeld_of_stops hstops]
    exact ⟨w.state, hset _, id, .inl ⟨rfl, rfl⟩⟩
  | false =>
    obtain ⟨a, notice, ha, hwrote⟩ := refreshAuthVersionedHeld_writes hstops (x.copied w).clock
    have hwritten := (refreshAuthVersionedHeld_written hwrote).1
    rw [hwrote]
    exact ⟨_, hset _, hwritten.tidy, .inr ⟨rfl, a, ha, rfl⟩⟩

theorem state_applied (x : Interleaving) {overlay : PluginState}
    (h : (x.fed w).txns[w.txns.length]? = some ⟨x.auth, x.version, overlay, true⟩) :
    (x.applied w).state =
      (x.fed w).state.applyLegacyEffectJournal (overlay.legacyEffectJournal x.auth.id) := by
  unfold applied Plugin.refreshApply
  simp [h]

theorem marked_applied (htidy : Tidy w.state) (x : Interleaving) :
    marked (x.applied w).state x.auth.id =
      if x.journals w then x.carries w else marked (x.fed w).state x.auth.id := by
  obtain ⟨overlay, htxn, hproper, hoverlay⟩ := txn_fed x w
  have hstate := state_applied x htxn
  rcases hoverlay with ⟨hstops, rfl⟩ | ⟨hstops, a, ha, rfl⟩
  · unfold marked
    rw [hstate, lookup_journal htidy, if_pos rfl]
    unfold journals carries marked
    rw [hstops]
    cases w.state.accounts.lookup ("auth:" ++ x.auth.id) <;> simp
  · have hne := named_of_not_stops hstops
    unfold journals carries
    rw [hstops, Bool.not_false, Bool.or_true, if_pos rfl, Bool.false_or,
      ← ha.temporaryExhausted htidy hne]
    unfold marked
    rw [hstate, lookup_journal (hproper htidy), if_pos rfl]
    simp [PluginState.setAccount]

/-- A refresh's write-back keeps concurrent updates of the marker iff they agree with its journal.
-/
theorem keepsUpdates_iff (now : Time) (es : List Event) (x : Interleaving) :
    KeepsUpdates x ((initial now).run es) ↔ Agrees x ((initial now).run es) := by
  have hmarked := marked_applied (bare_run now es).state x
  constructor
  · intro h
    refine ⟨fun hset hfed hjournals => ?_, fun hcleared hfed hjournals => ?_⟩
    · have hkept := h.set hset hfed
      rw [hmarked, if_pos hjournals] at hkept
      exact hkept
    · have hkept := h.cleared hcleared hfed
      rw [hmarked, if_pos hjournals] at hkept
      exact hkept
  · intro h
    refine ⟨fun hset hfed => ?_, fun hcleared hfed => ?_⟩
    · rw [hmarked]
      split
      · next hjournals => exact h.set hset hfed hjournals
      · exact hfed
    · rw [hmarked]
      split
      · next hjournals => exact h.cleared hcleared hfed hjournals
      · exact hfed

private def refreshedOnce : List Event :=
  [.sync [⟨"a", "", "codex", none⟩] true, .refreshBegin ⟨"a", "", "", "", "codex", 0⟩ 1,
    .refreshRun 0 (.read "acct" ⟨.weekly, none,
      some { usedPercent := some 40, resetAt := 10 * hour }⟩),
    .refreshApply 0 true]

private def limitInFlight : Interleaving where
  auth := ⟨"a", "", "", "", "codex", 0⟩
  version := 1
  before := [.usage ⟨"codex", true, "a", "", none, some (some (2 * hour))⟩ 0]
  outcome := .failed none .transient "quota request: timeout"
  after := []

private def successInFlight : Interleaving where
  auth := ⟨"a", "", "", "", "codex", 0⟩
  version := 1
  before := [.requestComplete "a"]
  outcome := .failed none .transient "quota request: timeout"
  after := []

/-- The marker that was set is gone, and the cleared one is back. -/
theorem concurrent_updates_lost :
    ¬KeepsUpdates limitInFlight ((initial 1).run refreshedOnce) ∧
      ¬KeepsUpdates successInFlight ((initial 1).run (refreshedOnce ++
        [.usage ⟨"codex", true, "a", "", none, some (some (2 * hour))⟩ 0])) := by
  constructor
  · intro h
    have hlost := h.set (by decide +kernel) (by decide +kernel)
    revert hlost
    decide +kernel
  · intro h
    have hback := h.cleared (by decide +kernel) (by decide +kernel)
    revert hback
    decide +kernel

end QuotaScheduler.MarkerWriteback

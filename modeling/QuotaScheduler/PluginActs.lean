/- Every event is a sequence of a few primitive moves of the plugin. -/

import QuotaScheduler.StateUpdates
import Mathlib.Logic.Relation

namespace QuotaScheduler.PluginActs

open Trial Selection Pick Account State Roster PluginRuntime StateUpdates List Plugin
open Relation (ReflTransGen)

inductive Active (w : Plugin) : Option (Finset String) → Prop
  | stored : Active w none
  | roster : Active w (highestTierSet w.roster.entries)
  | again (snapshot : SchedulerSnapshot) (h : w.published = some snapshot) :
      Active w (some snapshot.activeHighestTier)

inductive Act (w : Plugin) : Plugin → Prop
  | clock (now : Time) : Act w { w with clock := now }
  | write (s : PluginState) (h : Written w.state s) : Act w { w with state := s }
  | settings (cfg : Config) (annotations : String → Option Int) :
      Act w { w with state := { w.state with cfg := cfg, annotations := annotations } }
  | publish (active : Option (Finset String)) (h : Active w active) : Act w (w.publish active)
  | trials (trials : TrialRegistry) : Act w (w.setTrials trials)
  | lifecycle : Act w w.advanceLifecycle
  | txnBegin (auth : HostAuthFileEntry) (version : Nat) : Act w (w.refreshBegin auth version)
  | txnRan (i : Nat) (t t' : Txn) (ht : t ∈ w.txns) (h : Written t.overlay t'.overlay) :
      Act w (w.setTxn i t')
  | publishOverlay (t : Txn) (ht : t ∈ w.txns) : Act w (w.publishOverlay t.overlay)
  | journal (t : Txn) (ht : t ∈ w.txns) :
      Act w { w with
        state := w.state.applyLegacyEffectJournal (t.overlay.legacyEffectJournal t.auth.id) }
  | txnDrop (i : Nat) : Act w { w with txns := w.txns.eraseIdx i }
  | pickStart (req : SchedulerPickRequest) : Act w (w.pickStart req)
  | pickStep (i : Nat) (room : Bool) : Act w (w.pickStep i room)
  | consumeIntent : Act w w.consumeIntent

abbrev Acts := ReflTransGen Act

variable {w w' : Plugin}

theorem republish_act (w : Plugin) : Act w w.republish := .publish _ .roster

theorem acts_refreshRun (w : Plugin) (i : Nat) (outcome : RefreshOutcome) :
    Acts w (w.refreshRun i outcome) := by
  unfold refreshRun
  split
  · exact .refl
  · rename_i t ht
    have hmem : t ∈ w.txns := mem_of_getElem? ht
    split
    · exact .refl
    · split
      · exact .single (.txnRan i t _ hmem .same)
      · rename_i overlay notice hrun
        have hwritten := (refreshAuthVersionedHeld_written hrun).1
        have hlt : i < w.txns.length := (List.getElem?_eq_some_iff.mp ht).1
        have hset : { t with overlay := overlay, ran := true } ∈
            (w.setTxn i { t with overlay := overlay, ran := true }).txns :=
          mem_set hlt _
        have hran := Act.txnRan i t { t with overlay := overlay, ran := true } hmem hwritten
        exact .tail (.tail (.single hran) (.trials _))
          (.publishOverlay { t with overlay := overlay, ran := true } hset)

theorem acts_refreshApply (w : Plugin) (i : Nat) (accepted : Bool) :
    Acts w (w.refreshApply i accepted) := by
  unfold refreshApply
  split
  · exact .refl
  · rename_i t ht
    split
    · exact .tail (.single (.journal t (mem_of_getElem? ht))) (.txnDrop i)
    · exact .single (.txnDrop i)

theorem acts_observeQuota {authID authIndex : String} {hit : Nat} {quota : ParsedQuota}
    (h : w.observeQuota authID authIndex hit quota = some w') : Acts w w' := by
  obtain ⟨s, hs, rfl⟩ := Option.map_eq_some_iff.mp h
  exact .tail (.single (.write s (observeAccountQuota_written hs))) (republish_act _)

theorem acts_applyObservedCodexHeaders (w : Plugin) (record : UsageRecord) (hit : Nat) :
    Acts w (w.applyObservedCodexHeaders record hit) := by
  unfold applyObservedCodexHeaders
  split
  · exact .refl
  · rename_i quota _
    cases hobs : w.observeQuota record.authID record.authIndex hit quota with
    | none => exact .refl
    | some w' => exact acts_observeQuota hobs

theorem acts_recordUsageSuccess (w : Plugin) (record : UsageRecord) (hit : Nat) :
    Acts w (w.recordUsageSuccess record hit) := by
  unfold recordUsageSuccess
  split
  · exact .single (.write _ (recordAccountSuccess_written _ _ _ _ _))
  · exact .refl

theorem markUsageFailure_written (s : PluginState) (event : QuotaFailureEvent) (hit : Nat) :
    Written s (markUsageFailure s event hit) := by
  unfold markUsageFailure
  split
  · exact markAccountTemporaryExhausted_written
  · exact markAccountTemporaryExhaustedByAuthIndex_written _

theorem acts_handleUsageFeedback (w : Plugin) (record : UsageRecord) (hit : Nat) :
    Acts w (w.handleUsageFeedback record hit) := by
  unfold handleUsageFeedback
  split
  · exact .refl
  · split
    · exact (acts_applyObservedCodexHeaders w record hit).trans (acts_recordUsageSuccess _ _ _)
    · split
      · exact .refl
      · exact .single (.write _ (markUsageFailure_written _ _ _))

theorem acts_finishUsageHandle (w : Plugin) (record : UsageRecord) :
    Acts w (w.finishUsageHandle record) := by
  unfold finishUsageHandle
  split
  · exact .refl
  · rename_i snapshot hsnap
    have hevidence : Acts w (w.observeUsageEvidence snapshot record) ∧
        (w.observeUsageEvidence snapshot record).published = some snapshot := by
      unfold observeUsageEvidence
      split
      · exact ⟨.refl, hsnap⟩
      · exact ⟨.single (.trials _), hsnap⟩
    simp only
    split
    · exact .tail hevidence.1 (.publish _ (.again snapshot hevidence.2))
    · exact hevidence.1

theorem acts_streamObserve (w : Plugin) (authID authIndex : String) (hit : Nat)
    (quota : ParsedQuota) : Acts w (w.streamObserve authID authIndex hit quota) := by
  unfold streamObserve
  split
  · exact .refl
  · cases hobs : w.observeQuota authID authIndex hit quota with
    | none => exact .single (republish_act w)
    | some w' => exact acts_observeQuota hobs

theorem acts_reconcileTemporaryExhausted (w : Plugin) (authID : String) (version : Nat) :
    Acts w (w.reconcileTemporaryExhausted authID version) := by
  unfold reconcileTemporaryExhausted
  split
  · exact .refl
  · split
    · split
      · rename_i s hs
        exact .tail (.single (.write s (clearAccountTemporaryExhausted_written hs)))
          (republish_act _)
      · exact .refl
    · exact .refl

theorem acts_unpark (w : Plugin) (authID : String) :
    Acts w (w.unparkAfterExternalLogin authID) := by
  unfold unparkAfterExternalLogin
  split
  · rename_i s hs
    exact .tail (.single (.write s (clearAccountAuthFailure_written hs))) (republish_act _)
  · exact .refl

def publishesRoster : Event → Bool
  | .sync files wired => wired && (highestCodexTier (listHostAuths files)).isSome
  | _ => false

theorem finishSync_eq_advanceLifecycle (w : Plugin) (files : List HostFile) (wired : Bool)
    (h : publishesRoster (.sync files wired) = false) :
    w.finishSync (listHostAuths files) wired = w.advanceLifecycle := by
  unfold finishSync
  cases htop : highestCodexTier (listHostAuths files) with
  | none => rfl
  | some r =>
    have hwired : wired = false := by
      simpa [publishesRoster, htop] using h
    subst hwired
    simp only [publishAuthoritativeRoster]
    split
    · rename_i hpublished
      split at hpublished <;> simp at hpublished
    · rfl

theorem finishSync_cases (w : Plugin) (entries : List RosterEntry) (wired : Bool) :
    w.finishSync entries wired = w.advanceLifecycle ∨
      ∃ admission current roster, w.finishSync entries wired =
        { { w with state := w.state.replaceCPAAdmission admission }.publish
            (some admission.authIDs) with current := current, roster := roster } := by
  unfold finishSync
  split
  · exact .inl rfl
  · simp only
    split
    · rename_i published hpublished
      unfold publishAuthoritativeRoster at hpublished
      split at hpublished
      · cases hpublished
      · rename_i admission _
        split at hpublished
        · cases hpublished
          unfold observeRosterLifecycle
          split <;> exact .inr ⟨admission, _, _, rfl⟩
        · cases hpublished
    · exact .inl rfl

theorem acts_step (w : Plugin) (e : Event) (he : publishesRoster e = false) :
    Acts w (w.step e) := by
  cases e with
  | tick d => exact .single (.clock _)
  | configure cfg annotations =>
    exact .tail (.single (.settings _ annotations)) (.publish _ .stored)
  | sync files wired =>
    simp only [step, finishSync_eq_advanceLifecycle w files wired he]
    exact .single .lifecycle
  | lifecycle => exact .single .lifecycle
  | refreshBegin auth version => exact .single (.txnBegin auth version)
  | refreshRun i outcome => exact acts_refreshRun w i outcome
  | refreshApply i accepted => exact acts_refreshApply w i accepted
  | usage record hit =>
    exact (acts_handleUsageFeedback w record hit).trans (acts_finishUsageHandle _ record)
  | requestComplete authID =>
    exact .single (.write _ (recordAccountSuccess_written _ _ _ _ _))
  | streamObserve authID authIndex hit quota =>
    exact acts_streamObserve w authID authIndex hit quota
  | reconcileTemporary authID version => exact acts_reconcileTemporaryExhausted w authID version
  | unpark authID => exact acts_unpark w authID
  | saveSettings cfg => exact .single (.settings _ w.state.annotations)
  | saveAnnotations annotations => exact .single (.settings w.state.cfg annotations)
  | importState cfg annotations => exact .single (.settings _ annotations)
  | pickStart req => exact .single (.pickStart req)
  | pickStep i room => exact .single (.pickStep i room)
  | consumeIntent => exact .single .consumeIntent

variable {I : Plugin → Prop}

theorem invariant_acts (hact : ∀ w w', I w → Act w w' → I w') {w w' : Plugin} (hw : I w)
    (h : Acts w w') : I w' := by
  induction h with
  | refl => exact hw
  | tail _ hlast ih => exact hact _ _ ih hlast

/-- A property kept by every primitive move is kept by events that publish no roster. -/
theorem invariant_step (hact : ∀ w w', I w → Act w w' → I w') {w : Plugin} (hw : I w) (e : Event)
    (he : publishesRoster e = false) : I (w.step e) :=
  invariant_acts hact hw (acts_step w e he)

theorem invariant_run (hact : ∀ w w', I w → Act w w' → I w') {w : Plugin} (hw : I w)
    (events : List Event) (hevents : ∀ e ∈ events, publishesRoster e = false) :
    I (w.run events) := by
  induction events generalizing w with
  | nil => exact hw
  | cons e events ih =>
    have hfirst := invariant_step hact hw e (hevents e mem_cons_self)
    exact ih hfirst fun e' he' => hevents e' (mem_cons_of_mem e he')

def ofTxn : Event → Bool
  | .refreshBegin _ _ => true
  | .refreshRun _ _ => true
  | .refreshApply _ _ => true
  | _ => false

def Blind (f : Plugin → Plugin) : Prop :=
  ∀ w txns, f { w with txns := txns } = { f w with txns := txns } ∧ (f w).txns = w.txns

theorem Blind.comp {f g : Plugin → Plugin} (hg : Blind g) (hf : Blind f) :
    Blind fun w => g (f w) := by
  intro w txns
  obtain ⟨hsame, hkept⟩ := hf w txns
  obtain ⟨hsame', hkept'⟩ := hg (f w) txns
  exact ⟨(congrArg g hsame).trans hsame', hkept'.trans hkept⟩

theorem blind_advanceLifecycle : Blind advanceLifecycle := by
  intro w txns
  simp only [advanceLifecycle, observeRosterLifecycle]
  split <;> exact ⟨rfl, rfl⟩

theorem blind_finishSync (entries : List RosterEntry) (wired : Bool) :
    Blind (·.finishSync entries wired) := by
  intro w txns
  simp only [finishSync, publishAuthoritativeRoster]
  split
  · exact blind_advanceLifecycle w txns
  · next priority ids _ =>
    cases rosterAdmission w.state.cfg (filterRosterEntries entries ids) with
    | none => exact blind_advanceLifecycle w txns
    | some admission =>
      cases wired with
      | false => exact blind_advanceLifecycle w txns
      | true =>
        simp only [if_true, observeRosterLifecycle]
        split <;> exact ⟨rfl, rfl⟩

section Usage

variable (record : UsageRecord) (hit : Nat)

theorem blind_applyObservedCodexHeaders : Blind (·.applyObservedCodexHeaders record hit) := by
  intro w txns
  simp only [applyObservedCodexHeaders, observeQuota]
  split
  · exact ⟨rfl, rfl⟩
  · next quota _ =>
    cases w.state.observeAccountQuota record.authID record.authIndex hit quota w.clock <;>
      exact ⟨rfl, rfl⟩

theorem blind_recordUsageSuccess : Blind (·.recordUsageSuccess record hit) := by
  intro w txns
  simp only [recordUsageSuccess]
  split <;> exact ⟨rfl, rfl⟩

theorem blind_handleUsageFeedback : Blind (·.handleUsageFeedback record hit) := by
  intro w txns
  simp only [handleUsageFeedback]
  split
  · exact ⟨rfl, rfl⟩
  · split
    · exact (blind_recordUsageSuccess record hit).comp (blind_applyObservedCodexHeaders record hit)
        w txns
    · split <;> exact ⟨rfl, rfl⟩

theorem blind_observeUsageEvidence (snapshot : SchedulerSnapshot) :
    Blind (·.observeUsageEvidence snapshot record) := by
  intro w txns
  simp only [observeUsageEvidence]
  split <;> exact ⟨rfl, rfl⟩

theorem blind_finishUsageHandle : Blind (·.finishUsageHandle record) := by
  intro w txns
  simp only [finishUsageHandle]
  split
  · exact ⟨rfl, rfl⟩
  · next snapshot _ =>
    obtain ⟨hsame, hkept⟩ := blind_observeUsageEvidence record snapshot w txns
    dsimp only at hsame
    rw [hsame]
    split <;> exact ⟨rfl, hkept⟩

end Usage

theorem step_txns (w : Plugin) (txns : List Txn) (e : Event) (he : ofTxn e = false) :
    { w with txns := txns }.step e = { w.step e with txns := txns } ∧ (w.step e).txns = w.txns := by
  cases e with
  | tick d | configure cfg annotations | requestComplete authID => exact ⟨rfl, rfl⟩
  | sync files wired => exact blind_finishSync (listHostAuths files) wired w txns
  | lifecycle => exact blind_advanceLifecycle w txns
  | refreshBegin auth version | refreshRun i outcome | refreshApply i accepted => cases he
  | usage record hit =>
    exact (blind_finishUsageHandle record).comp (blind_handleUsageFeedback record hit) w txns
  | streamObserve authID authIndex hit quota =>
    simp only [step, streamObserve, observeQuota]
    split
    · exact ⟨rfl, rfl⟩
    · cases w.state.observeAccountQuota authID authIndex hit quota w.clock <;> exact ⟨rfl, rfl⟩
  | reconcileTemporary authID version =>
    simp only [step, reconcileTemporaryExhausted]
    split
    · exact ⟨rfl, rfl⟩
    · split
      · split <;> exact ⟨rfl, rfl⟩
      · exact ⟨rfl, rfl⟩
  | unpark authID =>
    simp only [step, unparkAfterExternalLogin]
    split <;> exact ⟨rfl, rfl⟩
  | saveSettings cfg | saveAnnotations annotations | importState cfg annotations | pickStart req =>
    exact ⟨rfl, rfl⟩
  | pickStep i room =>
    simp only [step, pickStep]
    split <;> exact ⟨rfl, rfl⟩
  | consumeIntent =>
    simp only [step, consumeIntent]
    split <;> exact ⟨rfl, rfl⟩

end QuotaScheduler.PluginActs

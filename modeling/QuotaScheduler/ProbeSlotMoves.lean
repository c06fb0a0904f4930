/- What the steps of the probe runtime other than the workers' do to one instance. -/

import QuotaScheduler.ProbeMoves

namespace QuotaScheduler.ProbeSlotMoves

open Account ProbeState ProbeStore ProbeRuntime ProbeMoves World

inductive SlotMove (w : World) (i : AuthInstanceID) : Event → ProbeSlot → Prop
  | same {e : Event} : SlotMove w i e (w.slots i)
  | removed {e : Event} (stored : Bool) : SlotMove w i e ((w.slots i).remove stored)
  | blocked {e : Event} (b : RuntimeBinding) : SlotMove w i e ((w.slots i).block b)
  | armed (p : Pass) (b : RuntimeBinding) (idle : w.idlePass = some p)
      (bound : (p.bindings.bind fun f => f i) = some b) :
      SlotMove w i (.due i) ((w.slots i).arm b p.now)
  | claimed {submitted : Bool} (p : Pass) (due : List ProbeWindowKind)
      (windows : AuthInstanceID → Windows) (idle : w.idlePass = some p)
      (claiming : p.claiming = some (i, due)) (read : p.windows = some windows)
      (free : ((w.slots i).attempt.filter fun a => a.attemptID.isSome) = none) :
      SlotMove w i (.claim true submitted)
        { w.slots i with
          attempt := some (ProbeSlot.claimedAttempt (w.attemptSeq + 1) due p.now)
          persisted := windows i }
  | unprepared (p : Pass) (a : ProbeAttempt) (idle : w.idlePass = some p)
      (prepared : p.prepared.lookup i = some a) :
      SlotMove w i .unprepare ((w.slots i).unprepare a.windows w.clock)
  | dropped {stored : Bool} (p : Pass) (a : ProbeAttempt) (windows : AuthInstanceID → Windows)
      (idle : w.idlePass = some p) (prepared : p.prepared.lookup i = some a)
      (read : p.windows = some windows) :
      SlotMove w i (.dropPrepared stored)
        ((w.slots i).dropPrepared a.attemptID (windows i) stored)
  | sentUnknown {e : Event} {id : Option Nat} {suppress : Time} {stored : Bool} {s : ProbeSlot}
      (written : (w.slots i).persistProbeSentUnknown id suppress stored = some s) : SlotMove w i e s
  | inherited {e : Event} {id : Option Nat} {suppress : Time} {stored : Bool} {s : ProbeSlot}
      (written : (w.slots i).persistProbeSentUnknown id suppress stored = some s) :
      SlotMove w i e s.sync
  | marked {submitted : Bool} (p : Pass) (r : Recovering) (idle : w.idlePass = some p)
      (recovering : p.recovering = some r) (inst : r.inst = i) :
      SlotMove w i (.recover submitted) ((w.slots i).markSentUnknown r.attempt.windows)
  | touched {stored : Bool} (p : Pass) (windows : AuthInstanceID → Windows)
      (idle : w.idlePass = some p) (read : p.windows = some windows) (mem : i ∈ p.touched) :
      SlotMove w i (.persistTouched stored) ((w.slots i).store (windows i) stored)
  | held {e : Event} (stored : Bool) : SlotMove w i e ((w.slots i).holdProbeForRoster stored)
  | confirmed {n : Nat} {bindings : List (AuthInstanceID × RuntimeBinding)} (b : RuntimeBinding)
      (bound : bindings.lookup i = some b) :
      SlotMove w i (.confirm n bindings) ((w.slots i).confirm b w.clock w.obs)
  | published {n : Nat} {stored : Bool} (touched : List AuthInstanceID)
      (windows : AuthInstanceID → Windows) (read : w.publications n = some ⟨touched, some windows⟩)
      (mem : i ∈ touched) :
      SlotMove w i (.persistConfirmed n stored) ((w.slots i).store (windows i) stored)
  | bootstrapped {accounts : List ObservedAccount} {capabilityA stored : Bool} :
      SlotMove w i (.bootstrap accounts capabilityA stored)
        ((w.slots i).bootstrap (w.bootstrapContext capabilityA)
          (accounts.filter fun a => decide (a.inst = i)) (w.persistPending i) stored)
  | observed {quota : ParsedQuota} {stored : Bool} :
      SlotMove w i (.observe i quota stored)
        ((w.slots i).reconcileObservedProbeWindows quota w.clock w.obs stored)
  | reloaded {reads : Nat} : SlotMove w i (.crash reads) (w.slots i).sync

variable {w : World}

theorem slots_submit (p : Pass) (k : Worker) (submitted : Bool) :
    (w.submit p k submitted).slots = w.slots := by
  unfold submit
  split <;> rfl

section SlotMoves

variable {i : AuthInstanceID}

theorem SlotMove.setSlot {e : Event} {j : AuthInstanceID} {s : ProbeSlot}
    (h : j = i → SlotMove w i e s) : SlotMove w i e ((w.setSlot j s).slots i) := by
  by_cases hj : i = j
  · rw [← hj, setSlot_self]
    exact h hj.symm
  · rw [setSlot_of_ne hj]
    exact .same

theorem SlotMove.store {e : Event} (touched : List AuthInstanceID)
    (windows : AuthInstanceID → Windows) (stored : Bool)
    (h : i ∈ touched → SlotMove w i e ((w.slots i).store (windows i) stored)) :
    SlotMove w i e ((w.store touched windows stored).slots i) := by
  unfold World.store
  dsimp only
  split
  next hmem => exact h hmem
  next => exact .same

theorem slots_claimDue (p : Pass) (j : AuthInstanceID) (b : RuntimeBinding)
    (due : List ProbeWindowKind) (windows : Windows) (submitted : Bool) :
    (w.claimDue p j b due windows submitted).slots = w.slots ∨
      ((w.slots j).attempt.filter fun a => a.attemptID.isSome) = none ∧
        (w.claimDue p j b due windows submitted).slots =
          (w.prepare j due windows p.now).slots := by
  unfold claimDue
  split
  · refine .inl ?_
    split
    · rw [slots_submit]
    · rfl
  · next hfree => exact .inr ⟨hfree, slots_submit p _ submitted⟩

variable {j : AuthInstanceID} {stored submitted : Bool}

theorem slotMove_due : SlotMove w i (.due j) ((w.due j).slots i) := by
  refine withPass_of (P := fun v => SlotMove w i (.due j) (v.slots i)) .same fun p hidle => ?_
  split
  · next snapshot b _ hb =>
    split
    · exact .same
    · split
      · refine .setSlot fun hj => ?_
        subst hj
        exact .blocked b
      · refine .setSlot fun hj => ?_
        subst hj
        exact .armed p b hidle hb
  · exact .same

theorem slotMove_claim :
    SlotMove w i (.claim stored submitted) ((w.claim stored submitted).slots i) := by
  refine withPass_of (P := fun v => SlotMove w i (.claim stored submitted) (v.slots i)) .same
    fun p hidle => ?_
  split
  · next j due windows hclaiming hwindows =>
    split
    · next b hb =>
      split
      · exact .same
      · dsimp only
        split
        · next hstored =>
          subst hstored
          rcases slots_claimDue (w := w.setPass { p with claiming := none })
            { p with claiming := none } j b due (windows j) submitted with
            hsame | ⟨hfree, hprepared⟩
          · rw [hsame]
            exact .same
          · rw [hprepared]
            by_cases hj : i = j
            · subst hj
              simp only [prepare, World.setSlot, setPass, Function.update_self]
              exact .claimed p due windows hidle hclaiming hwindows hfree
            · simp only [prepare, World.setSlot, setPass, Function.update_of_ne hj]
              exact .same
        · exact .same
    · exact .same
  · exact .same

theorem slotMove_recoverChecked :
    SlotMove w i (.recoverChecked j stored) ((w.recoverChecked j stored).slots i) := by
  refine withPass_of (P := fun v => SlotMove w i (.recoverChecked j stored) (v.slots i)) .same
    fun p _ => ?_
  split
  · exact .same
  · dsimp only
    split
    · split
      · split
        · next s hs =>
          refine .setSlot fun hj => ?_
          subst hj
          exact .sentUnknown hs
        · exact .same
      · exact .same
    · exact .same

theorem slotMove_recover : SlotMove w i (.recover submitted) ((w.recover submitted).slots i) := by
  refine withPass_of (P := fun v => SlotMove w i (.recover submitted) (v.slots i)) .same
    fun p hidle => ?_
  split
  · next r hr =>
    split
    · dsimp only
      rw [slots_submit]
      refine .setSlot fun hj => ?_
      subst hj
      exact .marked p r hidle hr rfl
    · exact .same
  · exact .same

theorem slotMove_step {e : Event}
    (hwork : ∀ n o, e ≠ .work n o) : SlotMove w i e ((w.step e).slots i) := by
  cases e with
  | work n o => exact absurd rfl (hwork n o)
  | elapse time reads | configure cfg | release | enroll j b | withdraw j | cancel j | activate j =>
    exact .same
  | openPass recovery | rebind j b =>
    unfold step
    dsimp only
    split <;> exact .same
  | readStore | readBindings | readControllers | closePass =>
    exact withPass_of (P := fun v => SlotMove w i _ (v.slots i)) .same fun p _ => .same
  | readPrepared instances =>
    refine withPass_of (P := fun v => SlotMove w i _ (v.slots i)) .same fun p _ => ?_
    split <;> exact .same
  | readAttempt j =>
    refine withPass_of (P := fun v => SlotMove w i _ (v.slots i)) .same fun p _ => ?_
    split <;> exact .same
  | readConfirmed n => exact .same
  | orphan j stored =>
    refine withPass_of (P := fun v => SlotMove w i _ (v.slots i)) .same fun p _ => ?_
    split
    · split
      · refine .setSlot fun hj => ?_
        subst hj
        exact .removed stored
      · exact .same
    · exact .same
  | due j => exact slotMove_due
  | claim stored submitted => exact slotMove_claim
  | unprepare =>
    refine withPass_of (P := fun v => SlotMove w i _ (v.slots i)) .same fun p hidle => ?_
    dsimp only
    split
    · next a ha => exact .unprepared p a hidle ha
    · exact .same
  | dropPrepared stored =>
    refine withPass_of (P := fun v => SlotMove w i _ (v.slots i)) .same fun p hidle => ?_
    split
    · next windows hwindows =>
      dsimp only
      split
      · next a ha => exact .dropped p a windows hidle ha hwindows
      · exact .same
    · exact .same
  | recoverChecked j stored => exact slotMove_recoverChecked
  | recover submitted => exact slotMove_recover
  | persistTouched stored =>
    refine withPass_of (P := fun v => SlotMove w i _ (v.slots i)) .same fun p hidle => ?_
    split
    · next windows hwindows =>
      exact .store _ _ _ fun hmem => .touched p windows hidle hwindows hmem
    · exact .same
  | inherit n stored =>
    unfold step
    dsimp only
    split
    · split
      · unfold inheritSentUnknown
        split
        · next s hs =>
          refine .setSlot fun hj => ?_
          subst hj
          exact .inherited hs
        · exact .same
      · exact .same
    · exact .same
  | hold stored => exact .held stored
  | confirm n bindings =>
    unfold step confirm
    dsimp only
    split
    · next b hb => exact .confirmed b hb
    · exact .same
  | persistConfirmed n stored =>
    unfold step persistConfirmed
    dsimp only
    split
    · next touched windows hread =>
      exact .store _ _ _ fun hmem => .published touched windows hread hmem
    · exact .same
  | bootstrap accounts capabilityA stored =>
    unfold step bootstrap
    dsimp only
    split
    · exact .bootstrapped
    · exact .same
  | observe j quota stored =>
    refine .setSlot fun hj => ?_
    subst hj
    exact .observed
  | discard j stored =>
    unfold step
    dsimp only
    split
    · refine .setSlot fun hj => ?_
      subst hj
      exact .removed stored
    · exact .same
  | crash reads => exact .reloaded

end SlotMoves

/-- The controller still has the windows of an instance that a snapshot of it has. -/
def fresh (w : World) (windows : AuthInstanceID → Windows) (i : AuthInstanceID) : Bool :=
  probeWindowKinds.all fun k => decide (windows i k = (w.slots i).controller k)

theorem eq_of_fresh {i : AuthInstanceID} {windows : AuthInstanceID → Windows}
    (h : fresh w windows i = true) : windows i = (w.slots i).controller :=
  funext fun k => by simpa using List.all_eq_true.mp h k (mem_probeWindowKinds k)

end QuotaScheduler.ProbeSlotMoves

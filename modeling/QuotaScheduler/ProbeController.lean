/- Advance with its attempt counter, attempt IDs and intents (probe_state.go). -/

import QuotaScheduler.ProbeState
import QuotaScheduler.Lib.Runs

namespace QuotaScheduler.ProbeController

open ProbeClassify ProbeState Lib.Runs List Option

/-- The `AttemptID` of a window: empty, from the controller's counter ("probe-n"), or from a file.
-/
inductive AttemptID
  | empty
  | probe (n : Nat)
  | loaded (text : String)
  deriving DecidableEq

structure Slot where
  window : ProbeWindow
  attemptID : AttemptID := .empty
  deriving DecidableEq

inductive ProbeIntent
  | precheck (k : ProbeWindowKind)
  | send (k : ProbeWindowKind)
  deriving DecidableEq

def ProbeIntent.window : ProbeIntent → ProbeWindowKind
  | .precheck k => k
  | .send k => k

/-- `ProbeController` for one instance; its events touch no other. -/
structure Controller where
  slots : ProbeWindowKind → Option Slot
  seq : Nat := 0

inductive PrecheckOutcome
  | observe
  | send
  | settle
  deriving DecidableEq

def precheckOutcome (k : ProbeWindowKind) (base : ProbeBaseline) (snap : QuotaSnapshot)
    (now : Time) : PrecheckOutcome :=
  let pre := precheckBaseline k base snap now
  let cl := classifyProbeWindow pre.baseline snap now
  let lazy := decide (cl.kind = .stillLazy) || decide (cl.kind = .ambiguous)
  if !pre.strictAuthorized &&
      (lazy || (pre.shiftedZeroCandidate && decide (cl.kind = .activatedNew))) then .observe
  else if lazy then .send
  else .settle

structure Round where
  slot : Slot
  intents : List ProbeIntent := []
  seq : Nat

def visitSlot (e : ProbeEvent) (k : ProbeWindowKind) (x : Slot) (seq : Nat) : Round :=
  if e.window.any (· ≠ k) then { slot := x, seq := seq }
  else
    -- the windows move as in the model without the counter
    let moved := { x with window := (advanceWindow k x.window e).getD x.window }
    match e.kind with
    | .deadline =>
      { slot := moved
        intents := if x.window.waits && !x.window.deadline.after e.now then [.precheck k] else []
        seq := seq }
    | .precheckResult =>
      match e.snapshots k with
      | none => { slot := x, seq := seq }
      | some snap =>
        if x.window.state = .pendingCheck then
          match precheckOutcome k x.window.baseline snap e.now with
          | .observe => { slot := { moved with attemptID := .empty }, seq := seq }
          | .send =>
            { slot := { moved with attemptID := .probe (seq + 1) }
              intents := [.send k]
              seq := seq + 1 }
          | .settle => { slot := moved, seq := seq }
        else { slot := x, seq := seq }
    | _ => { slot := moved, seq := seq }

def visit (e : ProbeEvent) (c : Controller × List ProbeIntent) (k : ProbeWindowKind) :
    Controller × List ProbeIntent :=
  match c.1.slots k with
  | none => c
  | some x =>
    let r := visitSlot e k x c.1.seq
    (⟨Function.update c.1.slots k (some r.slot), r.seq⟩, c.2 ++ r.intents)

def otherWindow : ProbeWindowKind → ProbeWindowKind
  | .fiveHour => .long
  | .long => .fiveHour

/-- `Advance`; the iteration over the map starts with the window `first`. -/
def Controller.advance (first : ProbeWindowKind) (c : Controller) (e : ProbeEvent) :
    Controller × List ProbeIntent :=
  if e.kind = .instanceRemoved then ({ c with slots := fun _ => none }, [])
  else visit e (visit e (c, []) first) (otherWindow first)

variable {e : ProbeEvent} {k : ProbeWindowKind} {c : Controller}

theorem window_visitSlot (e : ProbeEvent) (k : ProbeWindowKind) (x : Slot) (seq : Nat) :
    (visitSlot e k x seq).slot.window =
      if e.window.any (· ≠ k) then x.window else (advanceWindow k x.window e).getD x.window := by
  unfold visitSlot
  split
  · rfl
  · cases hkind : e.kind with
    | precheckResult =>
      cases hsnap : e.snapshots k with
      | none => simp [advanceWindow, hkind, hsnap]
      | some snap =>
        dsimp only
        split
        · split <;> rfl
        · rename_i hstate
          simp [advanceWindow, hkind, hsnap, hstate]
    | _ => rfl

theorem intents_visitSlot_eq {x y : Slot} (h : x.window = y.window) (seq seq' : Nat) :
    (visitSlot e k x seq).intents = (visitSlot e k y seq').intents := by
  unfold visitSlot
  rw [h]
  split
  · rfl
  · cases e.kind with
    | precheckResult =>
      cases e.snapshots k with
      | none => rfl
      | some snap =>
        dsimp only
        split
        · split <;> rfl
        · rfl
    | _ => rfl

theorem window_of_mem_intents {x : Slot} {seq : Nat} {i : ProbeIntent}
    (h : i ∈ (visitSlot e k x seq).intents) : i.window = k := by
  unfold visitSlot at h
  grind [ProbeIntent.window]

variable {seq : Nat}

theorem seq_le_visitSlot (x : Slot) : seq ≤ (visitSlot e k x seq).seq := by
  unfold visitSlot
  grind

variable {first : ProbeWindowKind}

theorem advance_spec (he : e.kind ≠ .instanceRemoved) : ∃ seq, c.seq ≤ seq ∧
      (c.advance first e).1.slots k = (c.slots k).map (fun x => (visitSlot e k x seq).slot) ∧
      ((c.advance first e).2.filter fun i => i.window = k) =
        ((c.slots k).map fun x => (visitSlot e k x seq).intents).getD [] ∧
      ∀ x, c.slots k = some x → (visitSlot e k x seq).seq ≤ (c.advance first e).1.seq := by
  have hself : ∀ d : Controller × List ProbeIntent, (d.2.filter fun i => i.window = k) = [] →
      (visit e d k).1.slots k = (d.1.slots k).map (fun x => (visitSlot e k x d.1.seq).slot) ∧
      ((visit e d k).2.filter fun i => i.window = k) =
        ((d.1.slots k).map fun x => (visitSlot e k x d.1.seq).intents).getD [] ∧
      ∀ x, d.1.slots k = some x → (visitSlot e k x d.1.seq).seq = (visit e d k).1.seq := by
    intro d hd
    unfold visit
    cases hslot : d.1.slots k with
    | none => exact ⟨hslot, hd, fun x hx => by cases hx⟩
    | some x =>
      have hall : (visitSlot e k x d.1.seq).intents.filter (fun i => i.window = k) =
          (visitSlot e k x d.1.seq).intents :=
        filter_eq_self.mpr fun i hi => decide_eq_true (window_of_mem_intents hi)
      simp [filter_append, hd, hall]
  have hother : ∀ (d : Controller × List ProbeIntent) (j : ProbeWindowKind), j ≠ k →
      (visit e d j).1.slots k = d.1.slots k ∧
      ((visit e d j).2.filter fun i => i.window = k) = d.2.filter (fun i => i.window = k) ∧
      d.1.seq ≤ (visit e d j).1.seq := by
    intro d j hj
    unfold visit
    cases d.1.slots j with
    | none => exact ⟨rfl, rfl, le_rfl⟩
    | some x =>
      refine ⟨Function.update_of_ne (.symm hj) _ _, ?_, seq_le_visitSlot x⟩
      have hnone : (visitSlot e j x d.1.seq).intents.filter (fun i => i.window = k) = [] :=
        filter_eq_nil_iff.mpr fun i hi => by simp [window_of_mem_intents hi, hj]
      simp [filter_append, hnone]
  have hne : otherWindow k ≠ k := by cases k <;> decide
  unfold Controller.advance
  rw [if_neg he]
  by_cases hfirst : first = k
  · subst hfirst
    obtain ⟨hslot, hintents, hseq⟩ := hself (c, []) rfl
    obtain ⟨hslot', hintents', hle⟩ := hother (visit e (c, []) first) _ hne
    exact ⟨c.seq, le_rfl, hslot'.trans hslot, hintents'.trans hintents,
      fun x hx => (hseq x hx).trans_le hle⟩
  · obtain rfl : otherWindow first = k := by cases first <;> cases k <;> simp_all [otherWindow]
    obtain ⟨hslot, hintents, hle⟩ := hother (c, []) first hfirst
    obtain ⟨hslot', hintents', hseq⟩ := hself (visit e (c, []) first) hintents
    rw [hslot] at hslot' hintents' hseq
    exact ⟨_, hle, hslot', hintents', fun x hx => (hseq x hx).le⟩

theorem advance_windows (first : ProbeWindowKind) (c : Controller) (e : ProbeEvent) :
    (fun k => ((c.advance first e).1.slots k).map (·.window)) =
      ProbeState.advance (fun k => (c.slots k).map (·.window)) e := by
  funext k
  by_cases he : e.kind = .instanceRemoved
  · cases hslot : c.slots k with
    | none => simp [Controller.advance, he, ProbeState.advance, hslot]
    | some x => simp [Controller.advance, he, ProbeState.advance, hslot, advanceWindow]
  · obtain ⟨seq, -, hslot, -⟩ := advance_spec he
    have hsome : ∀ w, (advanceWindow k w e).isSome := by
      unfold advanceWindow
      grind
    rw [hslot, ProbeState.advance]
    cases c.slots k with
    | none => rfl
    | some x =>
      obtain ⟨w, hw⟩ := isSome_iff_exists.mp (hsome x.window)
      simp only [map_some, window_visitSlot, bind_some, hw, ne_eq, he,
        not_false_eq_true, true_and, getD_some]
      split <;> rfl

def Controller.only (c : Controller) (k : ProbeWindowKind) : Controller :=
  { c with slots := fun j => if j = k then c.slots j else none }

def callAt (start : Controller) (first : Nat → ProbeWindowKind) (events : Nat → ProbeEvent)
    (n : Nat) : Controller :=
  stateAt (fun (c : Controller) (call : ProbeWindowKind × ProbeEvent) =>
    (c.advance call.1 call.2).1)
    start (fun n => (first n, events n)) n

def SameWindow (k : ProbeWindowKind) (c d : Controller) : Prop :=
  (c.slots k).map (·.window) = (d.slots k).map (·.window)

theorem SameWindow.advance {d : Controller} (h : SameWindow k c d) (first first' : ProbeWindowKind)
    (e : ProbeEvent) :
    SameWindow k (c.advance first e).1 (d.advance first' e).1 ∧
      ((c.advance first e).2.filter fun i => i.window = k) =
        ((d.advance first' e).2.filter fun i => i.window = k) := by
  have hwindow : SameWindow k (c.advance first e).1 (d.advance first' e).1 := by
    have hc := congrFun (advance_windows first c e) k
    have hd := congrFun (advance_windows first' d e) k
    unfold SameWindow at h ⊢
    rw [hc, hd, ProbeState.advance, ProbeState.advance, h]
  refine ⟨hwindow, ?_⟩
  by_cases he : e.kind = .instanceRemoved
  · simp [Controller.advance, he]
  · obtain ⟨seq, -, -, hc, -⟩ := advance_spec he
    obtain ⟨seq', -, -, hd, -⟩ := advance_spec he
    rw [hc, hd]
    unfold SameWindow at h
    cases hx : c.slots k with
    | none =>
      rw [hx, map_none, eq_comm, map_eq_none_iff] at h
      rw [h]
      rfl
    | some x =>
      rw [hx, map_some, eq_comm, map_eq_some_iff] at h
      obtain ⟨y, hy, hwindow⟩ := h
      rw [hy]
      exact intents_visitSlot_eq hwindow.symm seq seq'

/-- A slot's window and intents are those of the run without the other window, in any order. -/
theorem windows_isolated (start : Controller) (first first' : Nat → ProbeWindowKind)
    (events : Nat → ProbeEvent) (k : ProbeWindowKind) (n : Nat) :
    ((callAt start first events n).slots k).map (·.window) =
        ((callAt (start.only k) first' events n).slots k).map (·.window) ∧
      (((callAt start first events n).advance (first n) (events n)).2.filter
          fun i => i.window = k) =
        (((callAt (start.only k) first' events n).advance (first' n) (events n)).2.filter
          fun i => i.window = k) := by
  have hrun : ∀ n, SameWindow k (callAt start first events n)
      (callAt (start.only k) first' events n) := by
    intro n
    induction n with
    | zero => simp [SameWindow, callAt, stateAt, Controller.only]
    | succ n ih => exact (ih.advance (first n) (first' n) (events n)).1
  exact ⟨hrun n, ((hrun n).advance (first n) (first' n) (events n)).2⟩

end QuotaScheduler.ProbeController

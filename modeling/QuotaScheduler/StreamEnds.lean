/- When the retry chain reads a nested stream that has ended. -/

import Mathlib.Order.WithBot
import QuotaScheduler.RetryReports

namespace QuotaScheduler.RetryStream

open Lib.ByteStrings Lib.Runs FrameAssembler Phase

def Phase.nested : Phase → Option Nat
  | .holding h | .reading h => some h.attempt
  | .flushing a _ _ | .committing a | .forwarding a | .passing a _ _ => some a
  | _ => none

def Phase.inFlight : Phase → Option Nat
  | .reading h => some h.attempt
  | .forwarding a => some a
  | _ => none

def reads (r : Request) (w : Chain) (e : Event) : Option Nat :=
  if w.phase.awaits r e then (step r w e).phase.inFlight else none

/-- The attempt the host returns a `Done` chunk for, also to a timed out read. -/
def ends (w : Chain) : Event → Option Nat
  | .read (.chunk c) => if c.done then w.phase.inFlight else none
  | .late a (.chunk c) => if c.done ∧ a ∈ w.abandoned then some a else none
  | _ => none

def Phase.hasLeft (a : Nat) : Phase → Bool
  | .choosing n _ _ | .opening n _ => a < n
  | .holding h | .reading h => a < h.attempt
  | .flushing b _ _ | .committing b | .forwarding b | .passing b _ _ => a < b
  | .failing _ _ _ | .closed _ => true
  | _ => false

def Phase.holdReads : Phase → Bool
  | .reading _ => true
  | _ => false

/-- The hold loop gets a last chunk only with an error, and a timed out read only when the request
has left its attempt. -/
def EndsForwarded (w : Chain) : Event → Prop
  | .read (.chunk c) => c.done = true → c.error = [] → w.phase.holdReads = false
  | .late a (.chunk c) => c.done = true → a ∈ w.abandoned → w.phase.hasLeft a = true
  | _ => True

instance (w : Chain) (e : Event) : Decidable (EndsForwarded w e) := by
  cases e with
  | read answer | late attempt answer => cases answer <;> unfold EndsForwarded <;> infer_instance
  | _ => exact isTrue trivial

/-- The attempt gets a last chunk, without an error or a failure verdict. -/
def EndsWell (r : Request) (w : Chain) (e : Event) (a : Nat) : Prop :=
  ∃ c, e = .read (.chunk c) ∧ c.done = true ∧ c.error = [] ∧ w.phase.inFlight = some a ∧
    ∀ h, w.phase = .reading h → ∀ verdict,
      (absorb r.classifier h.pending c.payload).2 = some verdict → verdict.disposition ≠ .failure

/-- No stream is read past its end or close, and an attempt that ended well ends the request. -/
structure ReadToEnd (r : Request) (events : Nat → Event) : Prop where
  ended : ∀ i j a, i < j → ends (stateAt (step r) {} events i) (events i) = some a →
    reads r (stateAt (step r) {} events j) (events j) ≠ some a
  closed : ∀ i j a, i < j → (stateAt (step r) {} events i).phase.nested = some a →
    (stateAt (step r) {} events (i + 1)).phase.nested ≠ some a →
    reads r (stateAt (step r) {} events j) (events j) ≠ some a
  normal : ∀ i m a, EndsWell r (stateAt (step r) {} events i) (events i) a →
    (∀ j, i < j → (events j).errorText = none) → i < m →
    (stateAt (step r) {} events m).phase.returned = true →
    (stateAt (step r) {} events m).phase = .closed (some a)

section Places

variable {r : Request} {w : Chain} {attempt n : Nat} {result : AttemptResult} {e : Event}

/-- How far a request has got; a phase that issues no more reads is at the top. -/
def Phase.place : Phase → WithTop Nat
  | .entering => .some 0
  | .choosing n _ _ => .some (5 * n)
  | .opening n _ => .some (5 * n + 1)
  | .holding h | .reading h => .some (5 * h.attempt + 2)
  | .flushing a _ _ | .committing a => .some (5 * a + 3)
  | .forwarding a => .some (5 * a + 4)
  | .passing a _ done => if done then ⊤ else .some (5 * a + 4)
  | _ => ⊤

theorem place_finishFailedAttempt {rest : List Bytes} {flushed : Bool} :
    (w.finishFailedAttempt rest flushed result).phase.place = ⊤ := by
  cases rest <;> rfl

theorem le_place_conclude {deadline : Time} (hn : n ≤ 5 * attempt + 5) :
    WithTop.some n ≤ (w.conclude attempt deadline result).phase.place := by
  unfold Chain.conclude
  split
  · exact WithTop.coe_le_coe.mpr hn
  · rw [place_finishFailedAttempt]
    exact le_top

theorem le_place_forwardCommitted {rest : List Bytes} (hn : n ≤ 5 * attempt + 3) :
    WithTop.some n ≤ (w.forwardCommitted attempt rest).phase.place := by
  cases rest <;> exact WithTop.coe_le_coe.mpr hn

theorem le_place_heldChunk {h : Holding} {c : Chunk} :
    WithTop.some (5 * h.attempt + 2) ≤ (Chain.heldChunk r w h c).phase.place := by
  unfold Chain.heldChunk
  split_ifs
  · exact le_place_conclude (by omega)
  · dsimp only
    split
    · split
      · exact le_place_conclude (by omega)
      · exact le_place_forwardCommitted (by omega)
    · split
      · exact le_place_forwardCommitted (by omega)
      · exact le_rfl
  · exact le_place_forwardCommitted (by omega)
  · exact le_rfl

theorem le_place_forwardedChunk {c : Chunk} :
    WithTop.some (5 * attempt + 4) ≤ (w.forwardedChunk attempt c).phase.place := by
  unfold Chain.forwardedChunk
  split_ifs
  · exact le_top
  · simp only [place]
    split
    · exact le_top
    · exact le_rfl
  · exact le_top
  · exact le_rfl

theorem place_step (e : Event) : w.phase.place ≤ (step r w e).phase.place := by
  cases e with
  | begin now =>
    simp only [step, Chain.begin]
    split
    · next hphase =>
      rw [hphase]
      split_ifs
      · exact le_top
      · exact le_top
      · exact le_rfl
    · exact le_rfl
  | next now =>
    simp only [step, Chain.next]
    split
    · next attempt deadline last hphase =>
      rw [hphase]
      split
      · rw [place_finishFailedAttempt]
        exact le_top
      · exact WithTop.coe_le_coe.mpr (Nat.le_succ _)
    · exact le_rfl
  | opened answer now =>
    simp only [step, Chain.opened]
    split
    · next attempt deadline hphase =>
      rw [hphase]
      split
      · exact le_place_conclude (by omega)
      · exact WithTop.coe_le_coe.mpr (Nat.le_succ _)
    · split <;> exact le_top
    · exact le_rfl
  | checked ctxErr now =>
    simp only [step, Chain.checked]
    split
    · next h hphase =>
      rw [hphase]
      cases ctxErr with
      | some text => exact le_top
      | none =>
        dsimp only
        split
        · exact le_place_forwardCommitted (by omega)
        · exact le_rfl
    · next attempt hphase =>
      rw [hphase]
      cases ctxErr with
      | some text => exact le_top
      | none => exact WithTop.coe_le_coe.mpr (Nat.le_succ _)
    · cases ctxErr <;> exact le_top
    · exact le_rfl
  | read answer =>
    simp only [step, Chain.read]
    split
    · next h hphase =>
      rw [hphase]
      cases answer with
      | error e => exact le_place_conclude (by omega)
      | chunk c => exact le_place_heldChunk
    · next attempt hphase =>
      rw [hphase]
      cases answer with
      | error e => exact le_top
      | chunk c => exact le_place_forwardedChunk
    · next hphase =>
      cases answer with
      | error e => exact le_top
      | chunk c =>
        simp only [Chain.shadowChunk]
        split_ifs <;> exact le_top
    · exact le_rfl
  | timedOut =>
    simp only [step, Chain.timedOut]
    split
    · next h hphase =>
      rw [hphase]
      split
      · exact le_place_conclude (by omega)
      · exact le_place_forwardCommitted (by omega)
    · split
      · exact le_top
      · exact le_rfl
    · exact le_rfl
  | emitted err =>
    simp only [step, Chain.emitted]
    split
    · next attempt payload rest hphase =>
      rw [hphase]
      cases err with
      | some text => exact le_top
      | none => exact le_place_forwardCommitted le_rfl
    · next attempt payload done hphase =>
      rw [hphase]
      cases err with
      | some text => exact le_top
      | none =>
        cases done with
        | true => exact le_top
        | false => exact le_rfl
    · cases err with
      | some text => exact le_top
      | none =>
        rw [place_finishFailedAttempt]
        exact le_top
    · cases err with
      | some text => exact le_top
      | none => dsimp only; split <;> exact le_top
    · exact le_rfl
  | late attempt answer => exact (congrArg place (phase_late answer)).ge

theorem place_of_inFlight {p : Phase} {a : Nat} (h : p.inFlight = some a) :
    p.place < WithTop.some (5 * a + 5) := by
  cases p with
  | reading held =>
    cases h
    exact WithTop.coe_lt_coe.mpr (by omega)
  | forwarding b =>
    cases h
    exact WithTop.coe_lt_coe.mpr (by omega)
  | _ => cases h

theorem place_of_nested {p : Phase} {a : Nat} (h : p.nested = some a) :
    WithTop.some (5 * a + 2) ≤ p.place := by
  cases p with
  | holding held | reading held =>
    cases h
    exact le_rfl
  | flushing b | committing b | forwarding b =>
    cases h
    exact WithTop.coe_le_coe.mpr (by omega)
  | passing b payload done =>
    cases h
    cases done with
    | true => exact le_top
    | false => exact WithTop.coe_le_coe.mpr (by omega)
  | _ => cases h

theorem le_place_of_hasLeft {p : Phase} {a : Nat} (h : p.hasLeft a = true) :
    WithTop.some (5 * a + 5) ≤ p.place := by
  cases p with
  | choosing n | opening n | holding held | reading held | flushing b | committing b
  | forwarding b =>
    have hlt := of_decide_eq_true h
    exact WithTop.coe_le_coe.mpr (by omega)
  | passing b payload done =>
    have hlt : a < b := of_decide_eq_true h
    cases done with
    | true => exact le_top
    | false => exact WithTop.coe_le_coe.mpr (by omega)
  | failing | closed => exact le_top
  | _ => cases h

theorem le_place_of_left {p : Phase} {a : Nat} (hle : WithTop.some (5 * a + 2) ≤ p.place)
    (hne : p.nested ≠ some a) : WithTop.some (5 * a + 5) ≤ p.place := by
  cases p with
  | entering => exact absurd (WithTop.coe_le_coe.mp hle) (by omega)
  | choosing n | opening n =>
    have := WithTop.coe_le_coe.mp hle
    exact WithTop.coe_le_coe.mpr (by omega)
  | holding h | reading h =>
    have hle' := WithTop.coe_le_coe.mp hle
    have hne' : h.attempt ≠ a := fun heq => hne (congrArg some heq)
    exact WithTop.coe_le_coe.mpr (by omega)
  | flushing b | committing b | forwarding b =>
    have hle' := WithTop.coe_le_coe.mp hle
    have hne' : b ≠ a := fun heq => hne (congrArg some heq)
    exact WithTop.coe_le_coe.mpr (by omega)
  | passing b payload done =>
    have hne' : b ≠ a := fun heq => hne (congrArg some heq)
    cases done with
    | true => exact le_top
    | false =>
      have hle' := WithTop.coe_le_coe.mp hle
      exact WithTop.coe_le_coe.mpr (by omega)
  | _ => exact le_top

end Places

section Runs

variable {r : Request} {events : Nat → Event} {i j a : Nat}

theorem reads_ne_of_place (hij : i < j)
    (h : WithTop.some (5 * a + 5) ≤ (stateAt (step r) {} events (i + 1)).phase.place) :
    reads r (stateAt (step r) {} events j) (events j) ≠ some a := by
  have hmono : Monotone fun k => (stateAt (step r) {} events k).phase.place :=
    monotone_nat_of_le_succ fun k => place_step (events k)
  intro hreads
  unfold reads at hreads
  split at hreads
  · exact absurd (h.trans (hmono (Nat.succ_le_succ hij.le))) (place_of_inFlight hreads).not_ge
  · cases hreads

variable {w : Chain} {c : Chunk} {e : Event}

/-- Where an attempt stands whose last chunk came to `forwardCommitted` and is passed on. -/
def Passed (a : Nat) (p : Phase) : Prop := p = .closed (some a) ∨ ∃ payload,
    p = .passing a payload true

theorem phase_forwarded (hphase : w.phase = .forwarding a) (hdone : c.done = true) :
    (step r w (.read (.chunk c))).phase = .closed none ∧ c.error ≠ [] ∨
      Passed a (step r w (.read (.chunk c))).phase := by
  simp only [step, Chain.read, hphase, Chain.forwardedChunk, hdone, if_true]
  split_ifs with herror hpayload
  · exact .inl ⟨rfl, fun hnil => by simp [hnil] at herror⟩
  · exact .inr (.inr ⟨c.payload, rfl⟩)
  · exact .inr (.inl rfl)

theorem passed_step (h : Passed a w.phase) (he : e.errorText = none) :
    Passed a (step r w e).phase := by
  cases hawaits : w.phase.awaits r e with
  | false => rwa [phase_step_of_not_awaits hawaits]
  | true =>
    rcases h with hphase | ⟨payload, hphase⟩ <;> rw [hphase] at hawaits
    · cases e <;> cases hawaits
    · cases e with
      | emitted err =>
        obtain rfl : err = none := he
        simp only [step, Chain.emitted, hphase]
        exact .inl rfl
      | _ => cases hawaits

theorem le_place_of_error {h : Holding} (hphase : w.phase = .reading h) (herror : c.error ≠ []) :
    WithTop.some (5 * h.attempt + 5) ≤ (step r w (.read (.chunk c))).phase.place := by
  have herror' : (!c.error.isEmpty) = true := by simpa using herror
  simp only [step, Chain.read, hphase, Chain.heldChunk, herror', if_true]
  exact le_place_conclude le_rfl

theorem le_place_of_ends (hends : ends w e = some a) (hfit : EndsForwarded w e) :
    WithTop.some (5 * a + 5) ≤ (step r w e).phase.place := by
  cases e with
  | read answer =>
    cases answer with
    | error e => cases hends
    | chunk c =>
      simp only [ends] at hends
      split at hends
      · next hdone =>
        cases hphase : w.phase with
        | reading h =>
          rw [hphase] at hends
          cases hends
          refine le_place_of_error hphase fun hnil => ?_
          exact Bool.false_ne_true ((hfit hdone hnil).symm.trans (congrArg holdReads hphase))
        | forwarding b =>
          rw [hphase] at hends
          cases hends
          rcases phase_forwarded hphase hdone with ⟨hlast, -⟩ | hlast | ⟨payload, hlast⟩ <;>
            rw [hlast] <;> exact le_top
        | _ =>
          rw [hphase] at hends
          cases hends
      · cases hends
  | late b answer =>
    cases answer with
    | error e => cases hends
    | chunk c =>
      simp only [ends] at hends
      split at hends
      · next hdone =>
        cases hends
        exact (le_place_of_hasLeft (hfit hdone.1 hdone.2)).trans (place_step _)
      · cases hends
  | _ => cases hends

theorem read_to_end (r : Request) (events : Nat → Event)
    (hfit : ∀ i, EndsForwarded (stateAt (step r) {} events i) (events i)) : ReadToEnd r events := by
  refine ⟨fun i j a hij hends => ?_, fun i j a hij hnested hleft => ?_, ?_⟩
  · exact reads_ne_of_place hij (le_place_of_ends hends (hfit i))
  · exact reads_ne_of_place hij
      (le_place_of_left ((place_of_nested hnested).trans (place_step (events i))) hleft)
  · rintro i m a ⟨c, he, hdone, herror, hflight, -⟩ hquiet him hreturned
    cases hphase : (stateAt (step r) {} events i).phase with
    | reading held =>
      have hfit' := hfit i
      rw [he] at hfit'
      exact absurd ((hfit' hdone herror).symm.trans (congrArg holdReads hphase)) Bool.false_ne_true
    | forwarding b =>
      rw [hphase] at hflight
      cases hflight
      have hpassed : ∀ k, i < k → Passed a (stateAt (step r) {} events k).phase := by
        intro k hk
        induction k, hk using Nat.le_induction with
        | base =>
          rw [Nat.succ_eq_add_one, stateAt_succ, he]
          exact (phase_forwarded hphase hdone).resolve_left fun h => h.2 herror
        | succ k hk ih => exact passed_step ih (hquiet k hk)
      rcases hpassed m him with hlast | ⟨payload, hlast⟩
      · exact hlast
      · rw [hlast] at hreturned
        cases hreturned
    | _ =>
      rw [hphase] at hflight
      cases hflight

end Runs

/-- The stream's only chunk is its last; the read after it finds the stream gone. -/
def endedAtOnce : List Event :=
  [.begin 0, .next 0, .opened (.response 200 (ascii "s")) 0, .checked none 0,
    .read (.chunk { payload := ping, done := true }), .emitted none, .checked none 1,
    .read (.error { text := ascii "stream not found" })]

theorem ended_stream_is_read :
    ends (stateAt (step request) {} (script idle endedAtOnce) 4)
    (script idle endedAtOnce 4) = some 0 ∧
      reads request (stateAt (step request) {} (script idle endedAtOnce) 6)
        (script idle endedAtOnce 6) = some 0 ∧
      (stateAt (step request) {} (script idle endedAtOnce) 8).trace =
        [.opened 0, .delivered 0 ping, .emitted ping, .closed (ascii "stream not found")] := by
  decide +kernel

/-- The last chunk comes behind content, to `forwardCommitted`. -/
def endedForwarded : List Event :=
  [.begin 0, .next 0, .opened (.response 200 (ascii "s")) 0, .checked none 0,
    .read (.chunk { payload := text }), .emitted none, .checked none 1,
    .read (.chunk { payload := more, done := true }), .emitted none]

theorem read_to_end_forwarded : ReadToEnd request (script idle endedForwarded) ∧
    (stateAt (step request) {} (script idle endedForwarded) 9).phase = .closed (some 0) := by
  have h := read_to_end request (script idle endedForwarded)
    (script_meets (C := EndsForwarded) (fun _ => trivial) ?_)
  · refine ⟨h, h.normal 7 9 0 ⟨{ payload := more, done := true }, rfl, rfl, rfl, ?_, ?_⟩ ?_ ?_ ?_⟩
    · decide +kernel
    · intro held hphase
      cases hphase
    · exact fun j _ => script_all (p := fun e : Event => e.errorText = none) rfl
        (by decide +kernel) j
    · decide
    · decide +kernel
  · decide +kernel

end QuotaScheduler.RetryStream

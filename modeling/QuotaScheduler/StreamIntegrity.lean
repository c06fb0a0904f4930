/- What a request of the retry chain emits against what the host delivered. -/

import QuotaScheduler.StreamProgress

namespace QuotaScheduler.RetryStream

open Lib.ByteStrings Lib.Runs FrameAssembler List

section Traces

def Act.emission : Act → Option Bytes
  | .emitted payload => some payload
  | _ => none

def Act.delivery (attempt : Nat) : Act → Option Bytes
  | .delivered a payload => if a = attempt then some payload else none
  | _ => none

def Act.isOpened : Act → Bool
  | .opened _ => true
  | _ => false

def Act.isClosed : Act → Bool
  | .closed _ => true
  | _ => false

def emissions (trace : List Act) : List Bytes := trace.filterMap Act.emission

def deliveries (trace : List Act) (attempt : Nat) : List Bytes :=
  trace.filterMap (Act.delivery attempt)

def closes (trace : List Act) : Nat := trace.countP Act.isClosed

/-- Nothing is opened after an emission, and nothing emitted or opened after the close. -/
def Act.Before (earlier later : Act) : Prop :=
  (earlier.emission ≠ none → later.isOpened = false) ∧
    (earlier.isClosed = true → later.emission = none ∧ later.isOpened = false)

theorem emissions_append (trace : List Act) (act : Act) :
    emissions (trace ++ [act]) = emissions trace ++ act.emission.toList := by
  rw [emissions, filterMap_append]
  cases act <;> rfl

variable {trace : List Act} {act : Act}

theorem deliveries_append (attempt : Nat) : deliveries (trace ++ [act]) attempt =
      deliveries trace attempt ++ (act.delivery attempt).toList := by
  cases h : act.delivery attempt <;> simp [deliveries, h]

theorem closes_append : closes (trace ++ [act]) = closes trace + act.isClosed.toNat := by
  rw [closes, countP_append]
  cases act <;> rfl

theorem pairwise_append_quiet {trace : List Act} {act : Act}
    (h : trace.Pairwise Act.Before) (hopen : act.isOpened = false) (hemit : act.emission = none) :
    (trace ++ [act]).Pairwise Act.Before := by
  refine pairwise_append.mpr ⟨h, pairwise_singleton _ _, fun earlier _ later hlater => ?_⟩
  obtain rfl := mem_singleton.mp hlater
  exact ⟨fun _ => hopen, fun _ => ⟨hemit, hopen⟩⟩

theorem not_isClosed_of_closes {trace : List Act} (h : closes trace = 0) {act : Act}
    (hact : act ∈ trace) : act.isClosed ≠ true := by
  exact countP_eq_zero.mp h act hact

end Traces

section Invariant

def Unopened (D : Nat → List Bytes) (A : List Nat) (attempt : Nat) : Prop :=
  ∀ a, attempt ≤ a → D a = [] ∧ a ∉ A

/-- What a phase has emitted and still has to emit, against what was delivered. -/
def Kept (E : List Bytes) (D : Nat → List Bytes) (A : List Nat) : Phase → Prop
  | .entering | .shadowOpening => E = [] ∧ Unopened D A 0
  | .choosing attempt _ last => E = [] ∧ Unopened D A attempt ∧ ∃ a, last.held <+: D a
  | .opening attempt _ => E = [] ∧ Unopened D A attempt
  | .holding h | .reading h =>
    E = [] ∧ Unopened D A (h.attempt + 1) ∧ h.attempt ∉ A ∧ D h.attempt = h.hold.payloads
  | .flushing attempt payload rest => E ++ payload :: rest = D attempt
  | .committing attempt | .forwarding attempt => E = D attempt
  | .passing attempt payload _ => E ++ [payload] = D attempt
  | .failing payload rest _ => ∃ a, E ++ payload :: rest <+: D a
  | .shadowLoop | .shadowReading => E = D 0 ∧ 0 ∉ A
  | .shadowPassing payload _ => E ++ [payload] = D 0 ∧ 0 ∉ A
  | .closed normal => (∃ a, E <+: D a) ∧ ∀ a, normal = some a → E = D a

def Phase.forwards (attempt : Nat) : Phase → Bool
  | .flushing a _ _ | .committing a | .forwarding a | .passing a _ _ | .closed (some a) =>
    decide (a = attempt)
  | _ => false

def Streaming (w : Chain) : Prop := w.trace.Pairwise Act.Before ∧ closes w.trace = 0

structure Sound (w : Chain) : Prop where
  kept : Kept (emissions w.trace) (deliveries w.trace) w.abandoned w.phase
  ordered : w.trace.Pairwise Act.Before
  closes_eq : closes w.trace = w.phase.returned.toNat

variable {phase : Phase} {D : Nat → List Bytes} {A : List Nat}

theorem Sound.at_phase {w : Chain} (h : Sound w) (hphase : w.phase = phase)
    (hopen : phase.returned = false) :
    Kept (emissions w.trace) (deliveries w.trace) w.abandoned phase ∧ Streaming w := by
  have hkept := h.kept
  have hcloses := h.closes_eq
  rw [hphase] at hkept hcloses
  exact ⟨hkept, h.ordered, hcloses.trans (congrArg Bool.toNat hopen)⟩

theorem Streaming.sound {w : Chain} (h : Streaming w) (hopen : phase.returned = false)
    (hkept : Kept (emissions w.trace) (deliveries w.trace) w.abandoned phase) :
    Sound { w with phase := phase } :=
  ⟨hkept, h.1, h.2.trans (congrArg Bool.toNat hopen).symm⟩

theorem Kept.one_attempt {E : List Bytes} (h : Kept E D A phase) : ∃ a, E <+: D a := by
  cases phase with
  | entering | choosing | opening | holding | reading | shadowOpening =>
    obtain ⟨rfl, -⟩ := h
    exact ⟨0, nil_prefix⟩
  | flushing attempt payload rest | passing attempt payload done =>
    exact ⟨attempt, _, h⟩
  | committing attempt | forwarding attempt => exact ⟨attempt, h ▸ prefix_rfl⟩
  | failing payload rest result =>
    obtain ⟨a, h⟩ := h
    exact ⟨a, (prefix_append _ _).trans h⟩
  | shadowLoop | shadowReading => exact ⟨0, h.1 ▸ prefix_rfl⟩
  | shadowPassing payload done => exact ⟨0, _, h.1⟩
  | closed normal => exact h.1

theorem Unopened.mono {D' : Nat → List Bytes} {A' : List Nat} {attempt next : Nat}
    (h : Unopened D A attempt) (hnext : attempt ≤ next) (hsub : A' ⊆ A)
    (hsame : ∀ a, a ∉ A → D' a = D a) : Unopened D' A' next := by
  intro a ha
  obtain ⟨hnil, hfree⟩ := h a (Nat.le_trans hnext ha)
  exact ⟨(hsame a hfree).trans hnil, fun hmem => hfree (hsub hmem)⟩

/-- Deliveries nobody takes: their attempts are abandoned and not forwarded. -/
theorem Kept.grow {E : List Bytes} {D' : Nat → List Bytes} {A' : List Nat} (h : Kept E D A phase)
    (hsub : A' ⊆ A) (hgrow : ∀ a, D a <+: D' a) (hsame : ∀ a, a ∉ A → D' a = D a)
    (hforwards : ∀ a, phase.forwards a = true → D' a = D a) : Kept E D' A' phase := by
  cases phase with
  | entering | shadowOpening | opening => exact ⟨h.1, h.2.mono le_rfl hsub hsame⟩
  | choosing attempt deadline last =>
    obtain ⟨hE, hunopened, a, hheld⟩ := h
    exact ⟨hE, hunopened.mono le_rfl hsub hsame, a, hheld.trans (hgrow a)⟩
  | holding held | reading held =>
    obtain ⟨hE, hunopened, hfree, hD⟩ := h
    exact ⟨hE, hunopened.mono le_rfl hsub hsame, fun hmem => hfree (hsub hmem),
      (hsame _ hfree).trans hD⟩
  | flushing attempt | committing attempt | forwarding attempt | passing attempt =>
    exact h.trans (hforwards attempt (decide_eq_true rfl)).symm
  | failing payload rest result =>
    obtain ⟨a, h⟩ := h
    exact ⟨a, h.trans (hgrow a)⟩
  | shadowLoop | shadowReading | shadowPassing =>
    exact ⟨h.1.trans (hsame 0 h.2).symm, fun hmem => h.2 (hsub hmem)⟩
  | closed normal =>
    obtain ⟨⟨a, hone⟩, hnormal⟩ := h
    refine ⟨⟨a, hone.trans (hgrow a)⟩, ?_⟩
    rintro b rfl
    exact (hnormal b rfl).trans (hforwards b (decide_eq_true rfl)).symm

end Invariant

section Operations

variable {w : Chain}

theorem emissions_deliver (w : Chain) (attempt : Nat) (payload : Bytes) :
    emissions (w.deliver attempt payload).trace = emissions w.trace := by
  unfold Chain.deliver
  split
  · rfl
  · rw [emissions_append]
    exact append_nil _

variable {payload : Bytes}

theorem deliveries_deliver_self (attempt : Nat) (h : payload.isEmpty = false) :
    deliveries (w.deliver attempt payload).trace attempt =
      deliveries w.trace attempt ++ [payload] := by
  rw [Chain.deliver, h, if_neg Bool.false_ne_true, deliveries_append, Act.delivery, if_pos rfl]
  rfl

variable {attempt : Nat}

theorem deliveries_deliver_of_ne (w : Chain) {a : Nat} (payload : Bytes) (h : attempt ≠ a) :
    deliveries (w.deliver attempt payload).trace a = deliveries w.trace a := by
  unfold Chain.deliver
  split
  · rfl
  · rw [deliveries_append, Act.delivery, if_neg h]
    exact append_nil _

theorem prefix_deliveries_deliver (w : Chain) (attempt : Nat) (payload : Bytes) (a : Nat) :
    deliveries w.trace a <+: deliveries (w.deliver attempt payload).trace a := by
  unfold Chain.deliver
  split
  · exact prefix_rfl
  · rw [deliveries_append]
    exact prefix_append _ _

theorem deliver_of_isEmpty (h : payload.isEmpty = true) : w.deliver attempt payload = w := if_pos h

@[simp]
theorem abandoned_deliver (w : Chain) (attempt : Nat) (payload : Bytes) :
    (w.deliver attempt payload).abandoned = w.abandoned := by
  unfold Chain.deliver
  split <;> rfl

theorem pairwise_deliver (h : w.trace.Pairwise Act.Before) (attempt : Nat) (payload : Bytes) :
    (w.deliver attempt payload).trace.Pairwise Act.Before := by
  unfold Chain.deliver
  split
  · exact h
  · exact pairwise_append_quiet h rfl rfl

theorem closes_deliver (w : Chain) (attempt : Nat) (payload : Bytes) :
    closes (w.deliver attempt payload).trace = closes w.trace := by
  unfold Chain.deliver
  split
  · rfl
  · exact closes_append

theorem Streaming.deliver (h : Streaming w) (attempt : Nat) (payload : Bytes) :
    Streaming (w.deliver attempt payload) :=
  ⟨pairwise_deliver h.1 attempt payload, (closes_deliver w attempt payload).trans h.2⟩

theorem emissions_emit : emissions (w.emit payload).trace = emissions w.trace ++ [payload] :=
  emissions_append _ _

theorem deliveries_emit : deliveries (w.emit payload).trace = deliveries w.trace := by
  funext a
  exact (deliveries_append a).trans (append_nil _)

theorem Streaming.emit (h : Streaming w) (payload : Bytes) : Streaming (w.emit payload) := by
  refine ⟨pairwise_append.mpr ⟨h.1, pairwise_singleton _ _, fun earlier hearlier later
    hlater => ?_⟩, closes_append.trans h.2⟩
  obtain rfl := mem_singleton.mp hlater
  exact ⟨fun _ => rfl, fun hclosed => absurd hclosed (not_isClosed_of_closes h.2 hearlier)⟩

theorem Streaming.open (h : Streaming w) (hE : emissions w.trace = []) (attempt : Nat) :
    Streaming { w with trace := w.trace ++ [.opened attempt] } := by
  refine ⟨pairwise_append.mpr ⟨h.1, pairwise_singleton _ _, fun earlier hearlier later
    _ => ?_⟩, closes_append.trans h.2⟩
  have hnone : earlier.emission = none := filterMap_eq_nil_iff.mp hE earlier hearlier
  exact ⟨fun hsome => absurd hnone hsome,
    fun hclosed => absurd hclosed (not_isClosed_of_closes h.2 hearlier)⟩

theorem Streaming.close (h : Streaming w) (message : Bytes) {normal : Option Nat}
    (hone : ∃ a, emissions w.trace <+: deliveries w.trace a)
    (hnormal : ∀ a, normal = some a → emissions w.trace = deliveries w.trace a) :
    Sound (w.close message normal) := by
  have hemit : emissions (w.close message normal).trace = emissions w.trace :=
    (emissions_append _ _).trans (append_nil _)
  have hdeliver : deliveries (w.close message normal).trace = deliveries w.trace := by
    funext a
    exact (deliveries_append a).trans (append_nil _)
  refine ⟨?_, pairwise_append_quiet h.1 rfl rfl, ?_⟩
  · rw [hemit, hdeliver]
    exact ⟨hone, hnormal⟩
  · exact closes_append.trans (congrArg (· + 1) h.2)

theorem Streaming.close_none (h : Streaming w) (message : Bytes)
    (hone : ∃ a, emissions w.trace <+: deliveries w.trace a) : Sound (w.close message none) :=
  h.close message hone fun _ hnone => absurd hnone (Option.some_ne_none _).symm

theorem Streaming.close_some (h : Streaming w) (message : Bytes)
    (hall : emissions w.trace = deliveries w.trace attempt) :
    Sound (w.close message (some attempt)) := by
  refine h.close message ⟨attempt, hall ▸ prefix_rfl⟩ ?_
  rintro a ⟨⟩
  exact hall

variable {rest : List Bytes}

theorem Streaming.finishFailedAttempt (h : Streaming w) (flushed : Bool)
    (result : AttemptResult) (hone : ∃ a, emissions w.trace ++ rest <+: deliveries w.trace a) :
    Sound (w.finishFailedAttempt rest flushed result) := by
  cases rest with
  | nil =>
    rw [append_nil] at hone
    exact h.close_none _ hone
  | cons payload rest => exact h.sound rfl hone

theorem Streaming.conclude (h : Streaming w) (deadline : Time) {result : AttemptResult}
    (hE : emissions w.trace = [])
    (hunopened : Unopened (deliveries w.trace) w.abandoned (attempt + 1))
    (hheld : ∃ a, result.held <+: deliveries w.trace a) :
    Sound (w.conclude attempt deadline result) := by
  unfold Chain.conclude
  split
  · exact h.sound rfl ⟨hE, hunopened, hheld⟩
  · refine h.finishFailedAttempt false result ?_
    rw [hE]
    exact hheld

theorem Streaming.forwardCommitted (h : Streaming w)
    (hall : emissions w.trace ++ rest = deliveries w.trace attempt) :
    Sound (w.forwardCommitted attempt rest) := by
  cases rest with
  | nil =>
    rw [append_nil] at hall
    exact h.sound rfl hall
  | cons payload rest => exact h.sound rfl hall

end Operations

section Steps

variable {w : Chain}

/-- No timed out read is answered with a payload once its attempt is forwarded or ended normally. -/
def Heeded (w : Chain) : Event → Prop
  | .late attempt (.chunk c) =>
    attempt ∈ w.abandoned → c.payload ≠ [] → w.phase.forwards attempt = false
  | _ => True

instance (w : Chain) (e : Event) : Decidable (Heeded w e) := by
  unfold Heeded
  split <;> infer_instance

variable {c : Chunk} {attempt : Nat} {r : Request}

theorem heldChunk_sound {h : Holding} (hsound : Sound w) (hphase : w.phase = .reading h) :
    Sound (Chain.heldChunk r (w.deliver h.attempt c.payload) h c) := by
  obtain ⟨⟨hE, hunopened, hfree, hD⟩, hstreaming⟩ := hsound.at_phase hphase rfl
  have hstream := hstreaming.deliver h.attempt c.payload
  have hE' := (emissions_deliver w h.attempt c.payload).trans hE
  have hheld : h.hold.payloads <+: deliveries (w.deliver h.attempt c.payload).trace h.attempt :=
    hD ▸ prefix_deliveries_deliver w h.attempt c.payload h.attempt
  have hunopened' : Unopened (deliveries (w.deliver h.attempt c.payload).trace)
      (w.deliver h.attempt c.payload).abandoned (h.attempt + 1) := by
    intro a ha
    rw [abandoned_deliver, deliveries_deliver_of_ne w c.payload (Nat.ne_of_lt ha)]
    exact hunopened a ha
  unfold Chain.heldChunk
  split
  · exact hstream.conclude _ hE' hunopened' ⟨_, hheld⟩
  · split
    · next hpayload =>
      have hempty : c.payload.isEmpty = false := by simpa using hpayload
      have hadd : deliveries (w.deliver h.attempt c.payload).trace h.attempt =
          (h.hold.add c.payload).payloads := by
        rw [deliveries_deliver_self h.attempt hempty, hD]
        rfl
      have hall : emissions (w.deliver h.attempt c.payload).trace ++
          (h.hold.add c.payload).payloads =
            deliveries (w.deliver h.attempt c.payload).trace h.attempt := by
        rw [hE', hadd, nil_append]
      dsimp only
      split
      · split
        · exact hstream.conclude _ hE' hunopened' ⟨h.attempt, hadd ▸ prefix_rfl⟩
        · exact hstream.forwardCommitted hall
      · split
        · exact hstream.forwardCommitted hall
        · refine hstream.sound rfl ⟨hE', hunopened', ?_, hadd⟩
          rw [abandoned_deliver]
          exact hfree
    · next hpayload =>
      -- without a payload nothing was delivered
      have hempty : c.payload.isEmpty = true := by simpa using hpayload
      rw [deliver_of_isEmpty hempty] at hstream ⊢
      split
      · refine hstream.forwardCommitted ?_
        rw [hE, hD, nil_append]
      · exact hstream.sound rfl ⟨hE, hunopened, hfree, hD⟩

variable {payload : Bytes}

theorem deliver_next (hall : emissions w.trace = deliveries w.trace attempt) :
    emissions (w.deliver attempt payload).trace <+:
        deliveries (w.deliver attempt payload).trace attempt ∧
      (payload.isEmpty = false → emissions (w.deliver attempt payload).trace ++ [payload] =
        deliveries (w.deliver attempt payload).trace attempt) := by
  rw [emissions_deliver, hall]
  exact ⟨prefix_deliveries_deliver w attempt payload attempt,
    fun hpayload => (deliveries_deliver_self attempt hpayload).symm⟩

theorem forwardedChunk_sound (h : Streaming w)
    (hall : emissions w.trace = deliveries w.trace attempt) :
    Sound ((w.deliver attempt c.payload).forwardedChunk attempt c) := by
  have hstream := h.deliver attempt c.payload
  obtain ⟨hlost, hnext⟩ := deliver_next hall
  unfold Chain.forwardedChunk
  split
  · exact hstream.close_none _ ⟨attempt, hlost⟩
  · split
    · next hpayload => exact hstream.sound rfl (hnext (by simpa using hpayload))
    · next hpayload =>
      have hempty : c.payload.isEmpty = true := by simpa using hpayload
      rw [deliver_of_isEmpty hempty]
      split
      · exact h.close_some _ hall
      · exact h.sound rfl hall

theorem shadowChunk_sound (h : Streaming w) (hall : emissions w.trace = deliveries w.trace 0)
    (hfree : 0 ∉ w.abandoned) : Sound ((w.deliver 0 c.payload).shadowChunk c) := by
  have hstream := h.deliver 0 c.payload
  obtain ⟨hlost, hnext⟩ := deliver_next hall
  unfold Chain.shadowChunk
  split
  · exact hstream.close_none _ ⟨0, hlost⟩
  · split
    · next hpayload =>
      refine hstream.sound rfl ⟨hnext (by simpa using hpayload), ?_⟩
      rw [abandoned_deliver]
      exact hfree
    · next hpayload =>
      have hempty : c.payload.isEmpty = true := by simpa using hpayload
      rw [deliver_of_isEmpty hempty]
      split
      · exact h.close_some _ hall
      · exact h.sound rfl ⟨hall, hfree⟩

theorem read_sound (answer : ReadAnswer) (hsound : Sound w) : Sound (w.read r answer) := by
  have hone := hsound.kept.one_attempt
  unfold Chain.read
  split
  · next h hphase =>
    cases answer with
    | error e =>
      obtain ⟨⟨hE, hunopened, -, hD⟩, hstream⟩ := hsound.at_phase hphase rfl
      exact hstream.conclude _ hE hunopened ⟨h.attempt, hD ▸ prefix_rfl⟩
    | chunk c => exact heldChunk_sound hsound hphase
  · next attempt hphase =>
    obtain ⟨hall, hstream⟩ := hsound.at_phase hphase rfl
    cases answer with
    | error e => exact hstream.close_none _ hone
    | chunk c => exact forwardedChunk_sound hstream hall
  · next hphase =>
    obtain ⟨⟨hall, hfree⟩, hstream⟩ := hsound.at_phase hphase rfl
    cases answer with
    | error e => exact hstream.close_none _ hone
    | chunk c => exact shadowChunk_sound hstream hall hfree
  · exact hsound

theorem timedOut_sound (hsound : Sound w) : Sound (w.timedOut r) := by
  unfold Chain.timedOut
  split
  · next h hphase =>
    obtain ⟨⟨hE, hunopened, -, hD⟩, hopen⟩ := hsound.at_phase hphase rfl
    have hstream : Streaming { w with abandoned := h.attempt :: w.abandoned } := hopen
    split
    · refine hstream.conclude _ hE (fun a ha => ?_) ⟨0, nil_prefix⟩
      obtain ⟨hnil, hfree⟩ := hunopened a ha
      exact ⟨hnil, not_mem_cons_of_ne_of_not_mem (Nat.ne_of_gt ha) hfree⟩
    · refine hstream.forwardCommitted ?_
      rw [hE, hD, nil_append]
  · next hphase =>
    split
    · have hstream : Streaming { w with abandoned := 0 :: w.abandoned } :=
        (hsound.at_phase hphase rfl).2
      exact hstream.close_none _ hsound.kept.one_attempt
    · exact hsound
  · exact hsound

variable {text : Bytes}

theorem emit_sound (h : Streaming w) {rest : List Bytes}
    (hone : ∃ a, emissions w.trace ++ payload :: rest <+: deliveries w.trace a) :
    Sound ((w.emit payload).close text none) := by
  obtain ⟨a, hone⟩ := hone
  refine (h.emit payload).close_none text ⟨a, ?_⟩
  rw [emissions_emit, deliveries_emit]
  refine .trans ⟨rest, ?_⟩ hone
  rw [append_assoc, singleton_append]

theorem emit_last (h : emissions w.trace ++ [payload] = deliveries w.trace attempt) :
    emissions (w.emit payload).trace = deliveries (w.emit payload).trace attempt := by
  rw [emissions_emit, deliveries_emit]
  exact h

theorem emitted_sound (err : Option Bytes) (hsound : Sound w) : Sound (w.emitted err) := by
  unfold Chain.emitted
  split
  · next attempt payload rest hphase =>
    obtain ⟨hkept, hstream⟩ := hsound.at_phase hphase rfl
    cases err with
    | some text => exact emit_sound hstream ⟨attempt, [], (append_nil _).trans hkept⟩
    | none =>
      refine (hstream.emit payload).forwardCommitted ?_
      rw [emissions_emit, deliveries_emit, append_assoc]
      exact hkept
  · next attempt payload done hphase =>
    obtain ⟨hkept, hstream⟩ := hsound.at_phase hphase rfl
    have hall := emit_last hkept
    cases err with
    | some text => exact emit_sound hstream ⟨attempt, [], (append_nil _).trans hkept⟩
    | none =>
      dsimp only
      split
      · exact (hstream.emit payload).close_some _ hall
      · exact (hstream.emit payload).sound rfl hall
  · next payload rest result hphase =>
    obtain ⟨hkept, hstream⟩ := hsound.at_phase hphase rfl
    cases err with
    | some text => exact emit_sound hstream hkept
    | none =>
      refine (hstream.emit payload).finishFailedAttempt true result ?_
      rw [emissions_emit, deliveries_emit, append_assoc]
      exact hkept
  · next payload done hphase =>
    obtain ⟨⟨hkept, hfree⟩, hstream⟩ := hsound.at_phase hphase rfl
    have hall := emit_last hkept
    cases err with
    | some text => exact emit_sound hstream ⟨0, [], (append_nil _).trans hkept⟩
    | none =>
      dsimp only
      split
      · exact (hstream.emit payload).close_some _ hall
      · exact (hstream.emit payload).sound rfl ⟨hall, hfree⟩
  · exact hsound

variable {now : Time}

theorem checked_sound (ctxErr : Option Bytes) (hsound : Sound w) :
    Sound (w.checked r ctxErr now) := by
  have hone := hsound.kept.one_attempt
  unfold Chain.checked
  split
  · next h hphase =>
    obtain ⟨⟨hE, hunopened, hfree, hD⟩, hstream⟩ := hsound.at_phase hphase rfl
    cases ctxErr with
    | some text => exact hstream.conclude _ hE hunopened ⟨0, nil_prefix⟩
    | none =>
      dsimp only
      split
      · refine hstream.forwardCommitted ?_
        rw [hE, hD, nil_append]
      · exact hstream.sound rfl ⟨hE, hunopened, hfree, hD⟩
  · next attempt hphase =>
    obtain ⟨hall, hstream⟩ := hsound.at_phase hphase rfl
    cases ctxErr with
    | some text => exact hstream.close_none _ hone
    | none => exact hstream.sound rfl hall
  · next hphase =>
    obtain ⟨hkept, hstream⟩ := hsound.at_phase hphase rfl
    cases ctxErr with
    | some text => exact hstream.close_none _ hone
    | none => exact hstream.sound rfl hkept
  · exact hsound

variable {trace : List Act}

theorem deliveries_opened : deliveries (trace ++ [.opened attempt]) = deliveries trace := by
  funext a
  exact (deliveries_append a).trans (append_nil _)

theorem emissions_opened : emissions (trace ++ [.opened attempt]) = emissions trace :=
  (emissions_append _ _).trans (append_nil _)

theorem begin_sound (hsound : Sound w) : Sound (w.begin r now) := by
  unfold Chain.begin
  split
  · next hphase =>
    obtain ⟨⟨hE, hunopened⟩, hstream⟩ := hsound.at_phase hphase rfl
    split
    · exact hstream.close_none _ ⟨0, hE ▸ nil_prefix⟩
    · split
      · refine (hstream.open hE 0).sound rfl ?_
        rw [emissions_opened, deliveries_opened]
        exact ⟨hE, hunopened⟩
      · exact hstream.sound rfl ⟨hE, hunopened, 0, nil_prefix⟩
  · exact hsound

theorem next_sound (hsound : Sound w) : Sound (w.next r now) := by
  unfold Chain.next
  split
  · next attempt deadline last hphase =>
    obtain ⟨⟨hE, hunopened, hheld⟩, hstream⟩ := hsound.at_phase hphase rfl
    split
    · refine hstream.finishFailedAttempt false last ?_
      rw [hE]
      exact hheld
    · refine (hstream.open hE attempt).sound rfl ?_
      rw [emissions_opened, deliveries_opened]
      exact ⟨hE, hunopened⟩
  · exact hsound

theorem opened_sound (answer : OpenAnswer) (hsound : Sound w) : Sound (w.opened r answer now) := by
  have hone := hsound.kept.one_attempt
  unfold Chain.opened
  split
  · next attempt deadline hphase =>
    obtain ⟨⟨hE, hunopened⟩, hstream⟩ := hsound.at_phase hphase rfl
    have hlater := hunopened.mono (Nat.le_succ attempt) (.refl _) fun _ _ => rfl
    split
    · next result hresult =>
      refine hstream.conclude deadline hE hlater ⟨0, ?_⟩
      rw [held_openNestedStream hresult]
      exact nil_prefix
    · obtain ⟨hnil, hfree⟩ := hunopened attempt (Nat.le_refl attempt)
      exact hstream.sound rfl ⟨hE, hlater, hfree, hnil⟩
  · next hphase =>
    obtain ⟨⟨hE, hunopened⟩, hstream⟩ := hsound.at_phase hphase rfl
    split
    · exact hstream.close_none _ hone
    · obtain ⟨hnil, hfree⟩ := hunopened 0 (Nat.le_refl 0)
      exact hstream.sound rfl ⟨hE.trans hnil.symm, hfree⟩
  · exact hsound

theorem late_sound {answer : ReadAnswer} (hsound : Sound w)
    (hheeded : Heeded w (.late attempt answer)) : Sound (w.late attempt answer) := by
  unfold Chain.late
  split
  · next hmem =>
    have hsub : w.abandoned.erase attempt ⊆ w.abandoned := erase_subset
    cases answer with
    | error e =>
      exact ⟨hsound.kept.grow hsub (fun _ => prefix_rfl) (fun _ _ => rfl) fun _ _ => rfl,
        hsound.ordered, hsound.closes_eq⟩
    | chunk c =>
      let v : Chain := { w with abandoned := w.abandoned.erase attempt }
      change Sound (v.deliver attempt c.payload)
      refine ⟨?_, pairwise_deliver (w := v) hsound.ordered attempt c.payload,
        (closes_deliver v attempt c.payload).trans ?_⟩
      · rw [emissions_deliver, abandoned_deliver, phase_deliver]
        refine hsound.kept.grow hsub (prefix_deliveries_deliver v attempt c.payload)
          (fun a hfree => ?_) fun a hforwards => ?_
        · exact deliveries_deliver_of_ne v c.payload fun h => hfree (h ▸ hmem)
        · by_cases hpayload : c.payload.isEmpty = true
          · rw [deliver_of_isEmpty hpayload]
          · refine deliveries_deliver_of_ne v c.payload ?_
            rintro rfl
            have hnot := hheeded hmem fun h => hpayload (h ▸ rfl)
            exact absurd (hforwards.symm.trans hnot) Bool.noConfusion
      · rw [phase_deliver]
        exact hsound.closes_eq
  · exact hsound

theorem step_sound (r : Request) (w : Chain) (e : Event) (hsound : Sound w)
    (hheeded : Heeded w e) : Sound (step r w e) := by
  cases e with
  | begin now => exact begin_sound hsound
  | next now => exact next_sound hsound
  | opened answer now => exact opened_sound answer hsound
  | checked ctxErr now => exact checked_sound ctxErr hsound
  | read answer => exact read_sound answer hsound
  | timedOut => exact timedOut_sound hsound
  | emitted err => exact emitted_sound err hsound
  | late attempt answer => exact late_sound hsound hheeded

theorem sound_start : Sound {} :=
  ⟨⟨rfl, fun _ _ => ⟨rfl, not_mem_nil⟩⟩, .nil, rfl⟩

end Steps

def Intact (w : Chain) : Prop :=
  (∃ a, emissions w.trace <+: deliveries w.trace a) ∧
    ∀ a, w.phase = .closed (some a) → emissions w.trace = deliveries w.trace a

/-- If no abandoned read takes a payload, every state is intact, nothing is opened after an emission
or emitted after the close, and the stream is closed once, on return. A served request returns. -/
theorem stream_integrity (r : Request) (events : Nat → Event)
    (hheeded : ∀ k, Heeded (stateAt (step r) {} events k) (events k)) :
    (∀ k, Intact (stateAt (step r) {} events k) ∧
      (stateAt (step r) {} events k).trace.Pairwise Act.Before ∧
      closes (stateAt (step r) {} events k).trace =
        (stateAt (step r) {} events k).phase.returned.toNat) ∧
    (Served r events → ∃ k, (stateAt (step r) {} events k).phase.returned = true) := by
  refine ⟨fun k => ?_, returns_of_served⟩
  have hsound : Sound (stateAt (step r) {} events k) :=
    invariant_stateAt_of sound_start (step_sound r) hheeded k
  refine ⟨⟨hsound.kept.one_attempt, fun a hclosed => ?_⟩, hsound.ordered, hsound.closes_eq⟩
  have hkept := hsound.kept
  rw [hclosed] at hkept
  exact hkept.2 a rfl

def request : Request where
  cfg :=
    { retryStallTimeout := 20, retryHoldTimeout := 60, retryChainDeadline := 240,
      retryMaxFrames := 4096, retryMaxBytes := 8388608 }
  plan :=
    { key := "m", requested := ⟨"", "m"⟩, fallbacks := [⟨"", "n"⟩], maxAttempts := 2 }
  protocol := "claude"

def ping : Bytes := ascii "event: ping\n\n"

def text : Bytes := ascii "data: a\n\n"

def more : Bytes := ascii "data: b\n\n"

def idle : Event := .begin 0

/-- A ping is held, the next read times out, and is answered when the attempt is forwarded. -/
def stalled (late : ReadAnswer) : List Event :=
  [.begin 0, .next 0, .opened (.response 200 (ascii "s")) 0, .checked none 0,
    .read (.chunk { payload := ping }), .checked none 1, .timedOut, .emitted none, .checked none 21,
    .late 0 late, .read (.chunk { payload := more, done := true }), .emitted none]

def stalledRun (late : ReadAnswer) : Nat → Event := script idle (stalled late)

/-- The payload of the abandoned read is missing between two that are emitted. -/
theorem late_payload_lost :
    ¬∃ a, emissions
        (stateAt (step request) {} (stalledRun (.chunk { payload := text })) 12).trace <+:
      deliveries
        (stateAt (step request) {} (stalledRun (.chunk { payload := text })) 12).trace a := by
  have htrace : (stateAt (step request) {} (stalledRun (.chunk { payload := text })) 12).trace =
      [.opened 0, .delivered 0 ping, .emitted ping, .delivered 0 text, .delivered 0 more,
        .emitted more, .closed []] := by
    decide +kernel
  rw [htrace]
  rintro ⟨a, hone⟩
  by_cases hfirst : a = 0
  · subst hfirst
    exact absurd hone (by decide +kernel)
  · have hnone : deliveries [.opened 0, .delivered 0 ping, .emitted ping, .delivered 0 text,
        .delivered 0 more, .emitted more, .closed []] a = [] := by
      simp [deliveries, Act.delivery, Ne.symm hfirst]
    rw [hnone] at hone
    exact absurd (prefix_nil.mp hone) (by decide +kernel)

def harmless : ReadAnswer := .error { text := ascii "stream closed" }

theorem served_stalledRun : Served request (stalledRun harmless) := by
  have hend : (stateAt (step request) {} (stalledRun harmless) 12).phase.returned = true := by
    decide +kernel
  refine ⟨fun k hk => ?_, 12, fun m hm => ?_⟩
  · have hlt : k < 12 := by
      by_contra hge
      have hdone := stateAt_of_le (I := fun _ => True)
        (P := fun w : Chain => w.phase.returned = true) (fun _ => trivial)
        (fun w e _ h => (congrArg Phase.returned (phase_step_of_returned e h)).trans h)
        (Nat.not_lt.mp hge) hend
      exact absurd (hk.symm.trans hdone) Bool.false_ne_true
    have hall : ∀ k < 12, ∃ m < 12, k ≤ m ∧
        (stateAt (step request) {} (stalledRun harmless) m).phase.awaits request
          (stalledRun harmless m) = true := by
      decide +kernel
    obtain ⟨m, -, hkm, hawaits⟩ := hall k hlt
    exact ⟨m, hkm, hawaits⟩
  · have hidle : stalledRun harmless m = idle := script_of_length_le hm
    rw [hidle]
    rfl

theorem stream_integrity_stalled :
    (stateAt (step request) {} (stalledRun harmless) 12).phase.returned = true ∧
      Intact (stateAt (step request) {} (stalledRun harmless) 12) ∧
      closes (stateAt (step request) {} (stalledRun harmless) 12).trace = 1 ∧
      ∃ k, (stateAt (step request) {} (stalledRun harmless) k).phase.returned = true := by
  have hheeded : ∀ k, Heeded (stateAt (step request) {} (stalledRun harmless) k)
      (stalledRun harmless k) :=
    script_meets (fun _ => trivial) (by decide +kernel)
  have hend : (stateAt (step request) {} (stalledRun harmless) 12).phase.returned = true := by
    decide +kernel
  obtain ⟨hall, hreturns⟩ := stream_integrity request (stalledRun harmless) hheeded
  obtain ⟨hintact, -, hcloses⟩ := hall 12
  exact ⟨hend, hintact, hcloses.trans (congrArg Bool.toNat hend), hreturns served_stalledRun⟩

end QuotaScheduler.RetryStream

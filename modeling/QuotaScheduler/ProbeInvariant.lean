/- The invariant between stored attempts, the positions of the workers and the pass. -/

import QuotaScheduler.ProbeMoves
import QuotaScheduler.Lib.Runs

namespace QuotaScheduler.ProbeInvariant

open Account ProbeState ProbeStore ProbeRuntime ProbeMoves Lib.Runs Option Function
open Relation (ReflTransGen)

def spent (k : Worker) : Prop := k.recovery = true ∨ k.probeSent = true

structure WellPlaced (k : Worker) : Prop where
  begin : k.pos = .begin → k.probeSent = false
  early : early k.pos = true → k.recovery = false ∧ k.probeSent = false
  late : late k.pos = true → k.probeSent = true
  verifying : ∀ seq, k.pos = .verifying seq → spent k ∧ k.attempt.sendFenceSeq < seq
  verified : ∀ seq q, k.pos = .verified seq q → spent k ∧ k.attempt.sendFenceSeq < seq

def SnapshotSent (p : Pass) (i : AuthInstanceID) : Prop :=
  ∃ snapshot a, p.persisted = some snapshot ∧ (snapshot i).attempt = some a ∧ a.phase ∈ sentPhases

def StoredSent (w : World) (i : AuthInstanceID) : Prop :=
  ∀ a, (w.slots i).attempt = some a → a.phase ∈ sentPhases

/-- What a recovery has read is an attempt that was sent, if it is still stored. -/
def Taken (w : World) (r : Recovering) : Prop :=
  (∀ m, r.attempt.attemptID = some m → m ≤ w.attemptSeq) ∧
    ∀ a, (w.slots r.inst).attempt = some a → a.attemptID = r.attempt.attemptID →
      a.phase ∈ sentPhases ∧ a.sendFenceSeq ≤ r.attempt.sendFenceSeq

structure Sound (w : World) : Prop where
  ids : ∀ i a, (w.slots i).attempt = some a → ∃ m, a.attemptID = some m ∧ m ≤ w.attemptSeq
  workerIds : ∀ n k m, w.workers n = some k → k.attempt.attemptID = some m → m ≤ w.attemptSeq
  placed : ∀ n k, w.workers n = some k → WellPlaced k
  spent : ∀ n k a, w.workers n = some k → spent k → (w.slots k.inst).attempt = some a →
    a.attemptID = k.attempt.attemptID →
    a.phase ∈ sentPhases ∧ a.sendFenceSeq ≤ k.attempt.sendFenceSeq
  unique : ∀ n n' k k', w.workers n = some k → w.workers n' = some k' → k.probeSent = true →
    k'.probeSent = true → k'.inst = k.inst → k'.attempt.attemptID = k.attempt.attemptID → n' = n
  sending : ∀ n k, w.live n = true → w.workers n = some k → k.pos = .sending →
    (∃ a, (w.slots k.inst).attempt = some a ∧ a.attemptID = k.attempt.attemptID ∧
      a.sendFenceSeq = k.attempt.sendFenceSeq) ∧
    ∀ n' k', w.workers n' = some k' → k'.recovery = true → k'.inst = k.inst →
      k'.attempt.attemptID ≠ k.attempt.attemptID
  awaited : ∀ p n k, w.pass = some p → p.awaits = some n → w.workers n = some k →
    w.cancelled k.inst = false ∧ ∃ f, p.bindings = some f ∧ (f k.inst).isSome = true
  intents : ∀ p i, w.pass = some p → (p.intents i).isSome = true → p.recovery = true
  recovering : ∀ p i, w.pass = some p → p.recovery = true →
    (p.intents i).isSome = true ∨ SnapshotSent p i → StoredSent w i
  taken : ∀ p r, w.pass = some p → p.recovering = some r → Taken w r

variable {n : Nat} {p : Pass} {o : Outcome} {k k' : Worker} {a : ProbeAttempt} {i : AuthInstanceID}
  {w : World}

theorem live_iff : w.live n = true ↔ ∃ p, w.pass = some p ∧ p.awaits = some n := by
  unfold World.live
  cases w.pass with
  | none | some p => simp

theorem not_live_of_idle (h : w.idlePass = some p) : w.live n = false := by
  obtain ⟨hpass, hawaits⟩ := idlePass_eq_some h
  simp [World.live, hpass, hawaits]

variable {w' : World}

theorem live_congr (h : w'.pass = w.pass) : w'.live n = w.live n := by
  unfold World.live
  rw [h]

theorem StoredSent.change {i : AuthInstanceID} (h : StoredSent w i)
    (hs : AttemptChange (w.slots i).attempt (w'.slots i).attempt) : StoredSent w' i := by
  intro b hb
  rw [hb] at hs
  obtain ⟨a, ha, -, -, hsent⟩ := hs.of_some
  exact hsent (h a ha)

theorem Sound.ids_change (h : Sound w) (hseq : w'.attemptSeq = w.attemptSeq)
    (slots : ∀ i, AttemptChange (w.slots i).attempt (w'.slots i).attempt) :
    ∀ i a, (w'.slots i).attempt = some a → ∃ m, a.attemptID = some m ∧ m ≤ w'.attemptSeq := by
  intro i b hb
  have hchange := slots i
  rw [hb] at hchange
  obtain ⟨a, ha, hid, -, -⟩ := hchange.of_some
  obtain ⟨m, hm, hle⟩ := h.ids i a ha
  exact ⟨m, hid.trans hm, hseq ▸ hle⟩

theorem Sound.recovering_change (h : Sound w) (hpass : w'.pass = w.pass)
    (slots : ∀ i, AttemptChange (w.slots i).attempt (w'.slots i).attempt) :
    ∀ p i, w'.pass = some p → p.recovery = true →
      (p.intents i).isSome = true ∨ SnapshotSent p i → StoredSent w' i :=
  fun p i hp hrec hi => (h.recovering p i (hpass ▸ hp) hrec hi).change (slots i)

theorem Taken.mono {r : Recovering} (h : Taken w r) (hseq : w.attemptSeq ≤ w'.attemptSeq)
    (hstored : ∀ b, (w'.slots r.inst).attempt = some b → b.attemptID = r.attempt.attemptID →
      ∃ a, (w.slots r.inst).attempt = some a ∧ b.attemptID = a.attemptID ∧
        b.sendFenceSeq = a.sendFenceSeq ∧ (a.phase ∈ sentPhases → b.phase ∈ sentPhases)) :
    Taken w' r := by
  refine ⟨fun m hm => (h.1 m hm).trans hseq, fun b hb hid => ?_⟩
  obtain ⟨a, ha, haid, hfence, hsent⟩ := hstored b hb hid
  obtain ⟨hphase, hle⟩ := h.2 a ha (haid.symm.trans hid)
  exact ⟨hsent hphase, hfence ▸ hle⟩

theorem Sound.taken_change (h : Sound w) (hpass : w'.pass = w.pass)
    (hseq : w'.attemptSeq = w.attemptSeq)
    (slots : ∀ i, AttemptChange (w.slots i).attempt (w'.slots i).attempt) :
    ∀ p r, w'.pass = some p → p.recovering = some r → Taken w' r := by
  intro p r hp hr
  refine (h.taken p r (hpass ▸ hp) hr).mono hseq.ge fun b hb _ => ?_
  have hs := slots r.inst
  rw [hb] at hs
  exact hs.of_some

theorem Sound.spent_change (h : Sound w) {n : Nat} {k : Worker} (hk : w.workers n = some k)
    (hspent : ProbeInvariant.spent k) {b : ProbeAttempt}
    (hs : AttemptChange (w.slots k.inst).attempt (w'.slots k.inst).attempt)
    (hb : (w'.slots k.inst).attempt = some b) (hid : b.attemptID = k.attempt.attemptID) :
    b.phase ∈ sentPhases ∧ b.sendFenceSeq ≤ k.attempt.sendFenceSeq := by
  rw [hb] at hs
  obtain ⟨a, ha, haid, hfence, hsent⟩ := hs.of_some
  obtain ⟨hphase, hle⟩ := h.spent n k a hk hspent ha (haid.symm.trans hid)
  exact ⟨hsent hphase, hfence ▸ hle⟩

theorem Sound.sending_change (h : Sound w) {n : Nat} {k : Worker} (hlive : w.live n = true)
    (hk : w.workers n = some k) (hpos : k.pos = .sending)
    (hs : AttemptChange (w.slots k.inst).attempt (w'.slots k.inst).attempt) :
    ∃ b, (w'.slots k.inst).attempt = some b ∧ b.attemptID = k.attempt.attemptID ∧
      b.sendFenceSeq = k.attempt.sendFenceSeq := by
  obtain ⟨⟨a, ha, hid, hfence⟩, -⟩ := h.sending n k hlive hk hpos
  have hsent : k.probeSent = true := (h.placed n k hk).late (by simp [hpos, ProbeMoves.late])
  have hphase := (h.spent n k a hk (.inr hsent) ha hid).1
  rw [ha] at hs
  obtain ⟨b, hb, -, hbid, hbfence⟩ := hs.of_sent hphase
  exact ⟨b, hb, hbid.trans hid, hbfence.trans hfence⟩

theorem Sound.settle (h : Sound w) (rest : SameRest w w') (workers : w'.workers = w.workers)
    (slots : ∀ i, AttemptChange (w.slots i).attempt (w'.slots i).attempt) : Sound w' where
  ids := h.ids_change rest.attemptSeq slots
  workerIds n k m hk hm := by
    rw [workers] at hk
    rw [rest.attemptSeq]
    exact h.workerIds n k m hk hm
  placed n k hk := h.placed n k (workers ▸ hk)
  spent n k b hk hspent hb hid :=
    h.spent_change (workers ▸ hk) hspent (slots k.inst) hb hid
  unique n n' k k' hk hk' := h.unique n n' k k' (workers ▸ hk) (workers ▸ hk')
  sending n k hlive hk hpos := by
    rw [live_congr rest.pass] at hlive
    rw [workers] at hk
    refine ⟨h.sending_change hlive hk hpos (slots k.inst), fun n' k' hk' => ?_⟩
    exact (h.sending n k hlive hk hpos).2 n' k' (workers ▸ hk')
  awaited p n k hp hn hk := by
    rw [rest.cancelled]
    exact h.awaited p n k (rest.pass ▸ hp) hn (workers ▸ hk)
  intents p i hp := h.intents p i (rest.pass ▸ hp)
  recovering := h.recovering_change rest.pass slots
  taken := h.taken_change rest.pass rest.attemptSeq slots

theorem WellPlaced.step (h : WellPlaced k) (hstep : WorkerStep w n o k k') : WellPlaced k' where
  begin hpos := absurd hpos hstep.noBegin
  early hpos := by
    rw [hstep.recovery, hstep.probeSent]
    rcases hstep.early hpos with hearly | ⟨hbegin, hrec⟩
    · exact h.early hearly
    · exact ⟨hrec, h.begin hbegin⟩
  late hpos := by
    rw [hstep.probeSent]
    exact h.late (hstep.late hpos)
  verifying seq hpos := by
    obtain ⟨hlt, -, hfrom⟩ := hstep.verifying seq hpos
    refine ⟨?_, hlt⟩
    unfold spent
    rw [hstep.recovery, hstep.probeSent]
    rcases hfrom with hsent | ⟨-, hrec⟩
    · exact .inr (h.late (by simp [hsent, ProbeMoves.late]))
    · exact .inl hrec
  verified seq q hpos := by
    obtain ⟨hfrom, hattempt, -, -⟩ := hstep.verified seq q hpos
    obtain ⟨hspent, hlt⟩ := h.verifying seq hfrom
    refine ⟨?_, hattempt ▸ hlt⟩
    unfold spent
    rw [hstep.recovery, hstep.probeSent]
    exact hspent

theorem WellPlaced.not_early (h : WellPlaced k) (hspent : spent k) :
    ProbeMoves.early k.pos = false := by
  cases hearly : ProbeMoves.early k.pos with
  | false => rfl
  | true =>
    obtain ⟨hrec, hsent⟩ := h.early hearly
    rcases hspent with h1 | h1
    · rw [hrec] at h1; cases h1
    · rw [hsent] at h1; cases h1

theorem lookup_update {workers : Nat → Option Worker} {m : Nat}
    (h : update workers n (some k') m = some k) :
    m = n ∧ k = k' ∨ m ≠ n ∧ workers m = some k := by
  by_cases hm : m = n
  · subst hm
    rw [update_self] at h
    exact .inl ⟨rfl, (some.inj h).symm⟩
  · rw [update_of_ne hm] at h
    exact .inr ⟨hm, h⟩

theorem Sound.workerIds_update (h : Sound w) (hk : w.workers n = some k)
    (rest : SameRest w w') (workers : w'.workers = update w.workers n (some k'))
    (hid : k'.attempt.attemptID = k.attempt.attemptID) :
    ∀ m c id, w'.workers m = some c → c.attempt.attemptID = some id → id ≤ w'.attemptSeq := by
  intro m c id hc hcid
  rw [workers] at hc
  rw [rest.attemptSeq]
  rcases lookup_update hc with ⟨-, rfl⟩ | ⟨-, hc⟩
  · exact h.workerIds n k id hk (hid ▸ hcid)
  · exact h.workerIds m c id hc hcid

theorem Sound.awaited_update (h : Sound w) (hk : w.workers n = some k)
    (rest : SameRest w w') (workers : w'.workers = update w.workers n (some k'))
    (hinst : k'.inst = k.inst) :
    ∀ p m c, w'.pass = some p → p.awaits = some m → w'.workers m = some c →
      w'.cancelled c.inst = false ∧ ∃ f, p.bindings = some f ∧ (f c.inst).isSome = true := by
  intro p m c hp hm hc
  rw [workers] at hc
  rw [rest.cancelled]
  rcases lookup_update hc with ⟨rfl, rfl⟩ | ⟨-, hc⟩
  · rw [hinst]
    exact h.awaited p m k (rest.pass ▸ hp) hm hk
  · exact h.awaited p m c (rest.pass ▸ hp) hm hc

theorem Sound.work (h : Sound w) (hk : w.workers n = some k) (rest : SameRest w w')
    (workers : w'.workers = update w.workers n (some k')) (hstep : WorkerStep w n o k k')
    (slots : ∀ i, AttemptChange (w.slots i).attempt (w'.slots i).attempt) : Sound w' where
  ids := h.ids_change rest.attemptSeq slots
  workerIds := h.workerIds_update hk rest workers hstep.attemptID
  placed m c hc := by
    rw [workers] at hc
    rcases lookup_update hc with ⟨-, rfl⟩ | ⟨-, hc⟩
    · exact (h.placed n k hk).step hstep
    · exact h.placed m c hc
  spent m c b hc hspent hb hid := by
    rw [workers] at hc
    rcases lookup_update hc with ⟨-, rfl⟩ | ⟨-, hc⟩
    · have hspent' : ProbeInvariant.spent k := by
        unfold ProbeInvariant.spent at hspent ⊢
        rwa [hstep.recovery, hstep.probeSent] at hspent
      have hearly := (h.placed n k hk).not_early hspent'
      rw [hstep.inst] at hb
      obtain ⟨hphase, hle⟩ :=
        h.spent_change hk hspent' (slots k.inst) hb (hid.trans hstep.attemptID)
      exact ⟨hphase, hle.trans (hstep.fence hearly)⟩
    · exact h.spent_change hc hspent (slots c.inst) hb hid
  unique m m' c c' hc hc' hsent hsent' hinst hid := by
    rw [workers] at hc hc'
    rcases lookup_update hc with ⟨rfl, rfl⟩ | ⟨-, hold⟩ <;>
      rcases lookup_update hc' with ⟨rfl, rfl⟩ | ⟨-, hold'⟩
    · rfl
    · exact h.unique m m' k c' hk hold' (hstep.probeSent ▸ hsent) hsent' (hinst.trans hstep.inst)
        (hid.trans hstep.attemptID)
    · exact h.unique m m' c k hold hk hsent (hstep.probeSent ▸ hsent')
        (hstep.inst.symm.trans hinst) (hstep.attemptID.symm.trans hid)
    · exact h.unique m m' c c' hold hold' hsent hsent' hinst hid
  sending m c hlive hc hpos := by
    rw [live_congr rest.pass] at hlive
    rw [workers] at hc
    rcases lookup_update hc with ⟨-, rfl⟩ | ⟨-, hc⟩
    · exact absurd hpos hstep.noSend
    · refine ⟨h.sending_change hlive hc hpos (slots c.inst), fun m' c' hc' hrec hinst => ?_⟩
      have hother := (h.sending m c hlive hc hpos).2
      rw [workers] at hc'
      rcases lookup_update hc' with ⟨-, rfl⟩ | ⟨-, hc'⟩
      · rw [hstep.attemptID]
        exact hother n k hk (hstep.recovery ▸ hrec) (hstep.inst ▸ hinst)
      · exact hother m' c' hc' hrec hinst
  awaited := h.awaited_update hk rest workers hstep.inst
  intents p i hp := h.intents p i (rest.pass ▸ hp)
  recovering := h.recovering_change rest.pass slots
  taken := h.taken_change rest.pass rest.attemptSeq slots

theorem Sound.no_spent_of_prepared (h : Sound w) (hk : w.workers n = some k)
    (hspent : ProbeInvariant.spent k) (ha : (w.slots k.inst).attempt = some a)
    (hphase : a.phase = .prepared) : a.attemptID ≠ k.attempt.attemptID := fun hid =>
  mem_sentPhases.mp (h.spent n k a hk hspent ha hid).1 hphase

theorem Sound.send {b : ProbeAttempt} (h : Sound w) (hk : w.workers n = some k)
    (rest : SameRest w w') (hpos : k.pos = .fenced) (workers : w'.workers =
      update w.workers n (some { k with pos := .sending, probeSent := true }))
    (stored : (w.slots k.inst).attempt = some a) (hid : a.attemptID = k.attempt.attemptID)
    (hphase : a.phase = .prepared) (written : (w'.slots k.inst).attempt = some b)
    (wid : b.attemptID = k.attempt.attemptID) (wphase : b.phase ∈ sentPhases)
    (wfence : b.sendFenceSeq = k.attempt.sendFenceSeq)
    (others : ∀ j, j ≠ k.inst → (w'.slots j).attempt = (w.slots j).attempt) : Sound w' := by
  -- no other worker works on a send of this attempt, as it was prepared until now
  have hfresh : ∀ m c, w.workers m = some c → ProbeInvariant.spent c → c.inst = k.inst →
      c.attempt.attemptID ≠ k.attempt.attemptID := by
    intro m c hc hspent hinst heq
    exact h.no_spent_of_prepared hc hspent (hinst ▸ stored) hphase (hid.trans heq.symm)
  have hrec : k.recovery = false := ((h.placed n k hk).early (by simp [hpos, early])).1
  have hrecs : ∀ m c, w'.workers m = some c → c.recovery = true → w.workers m = some c := by
    intro m c hc hcrec
    rw [workers] at hc
    rcases lookup_update hc with ⟨-, rfl⟩ | ⟨-, hc⟩
    · exact absurd hcrec (by simp [hrec])
    · exact hc
  refine
    { ids := ?_
      workerIds := h.workerIds_update hk rest workers rfl
      placed := ?_
      spent := ?_
      unique := ?_
      sending := ?_
      awaited := h.awaited_update hk rest workers rfl
      intents := fun p i hp => h.intents p i (rest.pass ▸ hp)
      recovering := ?_
      taken := ?_ }
  · intro i c hc
    rw [rest.attemptSeq]
    by_cases hi : i = k.inst
    · subst hi
      obtain rfl : b = c := some.inj (written.symm.trans hc)
      obtain ⟨m, hm, hle⟩ := h.ids k.inst a stored
      exact ⟨m, wid.trans (hid.symm.trans hm), hle⟩
    · exact h.ids i c (others i hi ▸ hc)
  · intro m c hc
    rw [workers] at hc
    rcases lookup_update hc with ⟨-, rfl⟩ | ⟨-, hc⟩
    · refine ⟨?_, ?_, fun _ => rfl, ?_, ?_⟩
      all_goals simp [early]
    · exact h.placed m c hc
  · intro m c d hc hspent hd hdid
    rw [workers] at hc
    rcases lookup_update hc with ⟨-, rfl⟩ | ⟨-, hc⟩
    · obtain rfl : b = d := some.inj (written.symm.trans hd)
      exact ⟨wphase, wfence.le⟩
    · by_cases hinst : c.inst = k.inst
      · rw [hinst, written] at hd
        obtain rfl := some.inj hd
        exact absurd (hdid.symm.trans wid) (hfresh m c hc hspent hinst)
      · exact h.spent m c d hc hspent (others c.inst hinst ▸ hd) hdid
  · intro m m' c c' hc hc' hsent hsent' hinst hcid
    rw [workers] at hc hc'
    rcases lookup_update hc with ⟨rfl, rfl⟩ | ⟨-, hold⟩ <;>
      rcases lookup_update hc' with ⟨rfl, rfl⟩ | ⟨-, hold'⟩
    · rfl
    · exact absurd hcid (hfresh m' c' hold' (.inr hsent') hinst)
    · exact absurd hcid.symm (hfresh m c hold (.inr hsent) hinst.symm)
    · exact h.unique m m' c c' hold hold' hsent hsent' hinst hcid
  · intro m c hlive hc hcpos
    rw [live_congr rest.pass] at hlive
    rw [workers] at hc
    rcases lookup_update hc with ⟨-, rfl⟩ | ⟨-, hc⟩
    · refine ⟨⟨b, written, wid, wfence⟩, fun m' c' hc' hrec' hinst => ?_⟩
      exact hfresh m' c' (hrecs m' c' hc' hrec') (.inl hrec') hinst
    · obtain ⟨⟨d, hd, hdid, hdfence⟩, hother⟩ := h.sending m c hlive hc hcpos
      refine ⟨⟨d, ?_, hdid, hdfence⟩, fun m' c' hc' hrec' => hother m' c' (hrecs m' c' hc' hrec')
        hrec'⟩
      have hsent : c.probeSent = true := (h.placed m c hc).late (by simp [hcpos, late])
      by_cases hinst : c.inst = k.inst
      · rw [hinst, stored] at hd
        obtain rfl := some.inj hd
        exact absurd (hdid.symm.trans hid) (hfresh m c hc (.inr hsent) hinst)
      · exact (others c.inst hinst).trans hd
  · intro p i hp hprec hi c hc
    by_cases hinst : i = k.inst
    · subst hinst
      obtain rfl : b = c := some.inj (written.symm.trans hc)
      exact wphase
    · exact h.recovering p i (rest.pass ▸ hp) hprec hi c (others i hinst ▸ hc)
  · intro p r hp hr
    have htaken := h.taken p r (rest.pass ▸ hp) hr
    refine htaken.mono rest.attemptSeq.ge fun c hc hcid => ?_
    by_cases hinst : r.inst = k.inst
    · -- what a recovery has read was sent, and this attempt was prepared until now
      rw [hinst, written] at hc
      obtain rfl := some.inj hc
      have hsent := (htaken.2 a (hinst ▸ stored) (hid.trans (wid.symm.trans hcid))).1
      exact absurd hphase (mem_sentPhases.mp hsent)
    · exact ⟨c, others r.inst hinst ▸ hc, rfl, rfl, id⟩

/-- Attempts can go away, as long as no live worker is about to post one of them. -/
theorem Sound.forget (h : Sound w) (rest : SameRest w w') (workers : w'.workers = w.workers)
    (slots : ∀ i a, (w'.slots i).attempt = some a → (w.slots i).attempt = some a)
    (keep : ∀ n k a, w.live n = true → w.workers n = some k → k.pos = .sending →
      (w.slots k.inst).attempt = some a → (w'.slots k.inst).attempt = some a) : Sound w' where
  ids i a ha := by
    rw [rest.attemptSeq]
    exact h.ids i a (slots i a ha)
  workerIds n k m hk hm := by
    rw [workers] at hk
    rw [rest.attemptSeq]
    exact h.workerIds n k m hk hm
  placed n k hk := h.placed n k (workers ▸ hk)
  spent n k a hk hspent ha hid := h.spent n k a (workers ▸ hk) hspent (slots k.inst a ha) hid
  unique n n' k k' hk hk' := h.unique n n' k k' (workers ▸ hk) (workers ▸ hk')
  sending n k hlive hk hpos := by
    rw [live_congr rest.pass] at hlive
    rw [workers] at hk
    obtain ⟨⟨a, ha, hid, hfence⟩, hother⟩ := h.sending n k hlive hk hpos
    exact ⟨⟨a, keep n k a hlive hk hpos ha, hid, hfence⟩,
      fun n' k' hk' => hother n' k' (workers ▸ hk')⟩
  awaited p n k hp hn hk := by
    rw [rest.cancelled]
    exact h.awaited p n k (rest.pass ▸ hp) hn (workers ▸ hk)
  intents p i hp := h.intents p i (rest.pass ▸ hp)
  recovering p i hp hrec hi a ha := h.recovering p i (rest.pass ▸ hp) hrec hi a (slots i a ha)
  taken p r hp hr := (h.taken p r (rest.pass ▸ hp) hr).mono rest.attemptSeq.ge fun b hb _ =>
    ⟨b, slots r.inst b hb, rfl, rfl, id⟩

theorem Sound.complete {seq : Nat} {q : ParsedQuota} (h : Sound w)
    (hk : w.workers n = some k) (rest : SameRest w w') (hpos : k.pos = .verified seq q)
    (workers : w'.workers = update w.workers n (some { k with pos := .finished }))
    (own : (w'.slots k.inst).attempt = (w.slots k.inst).attempt ∨ (w'.slots k.inst).attempt = none ∧
        ∃ a, (w.slots k.inst).attempt = some a ∧ a.attemptID = k.attempt.attemptID)
    (others : ∀ j, j ≠ k.inst → (w'.slots j).attempt = (w.slots j).attempt) : Sound w' := by
  have hspent := ((h.placed n k hk).verified seq q hpos).1
  have hforget : Sound { w with slots := w'.slots } := by
    refine h.forget ⟨rfl, rfl, rfl, rfl, rfl, le_rfl⟩ rfl ?_ ?_
    · intro i a ha
      by_cases hi : i = k.inst
      · subst hi
        rcases own with heq | ⟨hnone, -⟩
        · exact heq ▸ ha
        · exact absurd (hnone.symm.trans ha) (by simp)
      · exact others i hi ▸ ha
    · -- a live worker about to post is the only one that works on its send
      intro m c a hlive hc hcpos ha
      by_cases hinst : c.inst = k.inst
      · rcases own with heq | ⟨-, b, hb, hid⟩
        · rw [hinst] at ha ⊢
          exact heq.trans ha
        · obtain ⟨⟨d, hd, hdid, -⟩, hother⟩ := h.sending m c hlive hc hcpos
          rw [hinst, hb] at hd
          obtain rfl := some.inj hd
          have hsame : k.attempt.attemptID = c.attempt.attemptID := hid.symm.trans hdid
          rcases hspent with hrec | hsent
          · exact absurd hsame (hother n k hk hrec hinst.symm)
          · have hcsent : c.probeSent = true := (h.placed m c hc).late (by simp [hcpos, late])
            obtain rfl := h.unique m n c k hc hk hcsent hsent hinst.symm hsame
            rw [hk] at hc
            obtain rfl := some.inj hc
            rw [hpos] at hcpos
            cases hcpos
      · exact (others c.inst hinst).trans ha
  exact hforget.work (o := .ok) hk ⟨rest.pass, rest.roster, rest.cancelled, rest.jobs,
    rest.attemptSeq, rest.clock⟩ workers (workerStep_resting le_rfl (.inr rfl)) fun _ => .same _

theorem Sound.workMove (h : Sound w) (hk : w.workers n = some k)
    (hmove : WorkMove n o k w w') : Sound w' := by
  cases hmove with
  | work k' rest workers hstep slots => exact h.work hk rest workers hstep slots
  | send a b rest hpos workers stored hid hphase written wid wphase wfence others =>
    exact h.send hk rest hpos workers stored hid hphase written wid wphase wfence others
  | complete seq q rest hpos workers own others => exact h.complete hk rest hpos workers own others
  | stay same => exact same ▸ h

/-- The pass can change while it awaits nothing, if what it knows of sends is true. -/
theorem Sound.repass (h : Sound w) (pass : Option Pass)
    (awaits : ∀ p, pass = some p → p.awaits = none)
    (intents : ∀ p i, pass = some p → (p.intents i).isSome = true → p.recovery = true)
    (recovering : ∀ p i, pass = some p → p.recovery = true →
      (p.intents i).isSome = true ∨ SnapshotSent p i → StoredSent w i)
    (taken : ∀ p r, pass = some p → p.recovering = some r → Taken w r) :
    Sound { w with pass := pass } where
  ids := h.ids
  workerIds := h.workerIds
  placed := h.placed
  spent := h.spent
  unique := h.unique
  sending n k hlive := by
    obtain ⟨p, hp, hn⟩ := live_iff.mp hlive
    rw [awaits p hp] at hn
    cases hn
  awaited p n k hp hn := by
    rw [awaits p hp] at hn
    cases hn
  intents := intents
  recovering := recovering
  taken := taken

theorem Sound.claim (h : Sound w) (idle : w.idlePass = some p)
    (due : p.recovery = false) (written : (w'.slots i).attempt = some a)
    (hid : a.attemptID = some (w.attemptSeq + 1))
    (others : ∀ j, j ≠ i → (w'.slots j).attempt = (w.slots j).attempt)
    (seq : w'.attemptSeq = w.attemptSeq + 1) (workers : w'.workers = w.workers)
    (pass : w'.pass = w.pass) (cancelled : w'.cancelled = w.cancelled) : Sound w' where
  ids j b hb := by
    rw [seq]
    by_cases hj : j = i
    · subst hj
      obtain rfl : a = b := some.inj (written.symm.trans hb)
      exact ⟨_, hid, le_rfl⟩
    · obtain ⟨m, hm, hle⟩ := h.ids j b (others j hj ▸ hb)
      exact ⟨m, hm, Nat.le_succ_of_le hle⟩
  workerIds n k m hk hm := by
    rw [workers] at hk
    rw [seq]
    exact Nat.le_succ_of_le (h.workerIds n k m hk hm)
  placed n k hk := h.placed n k (workers ▸ hk)
  spent n k b hk hspent hb hbid := by
    rw [workers] at hk
    by_cases hinst : k.inst = i
    · rw [hinst, written] at hb
      obtain rfl := some.inj hb
      have hle := h.workerIds n k _ hk (hbid.symm.trans hid)
      omega
    · exact h.spent n k b hk hspent (others k.inst hinst ▸ hb) hbid
  unique n n' k k' hk hk' := h.unique n n' k k' (workers ▸ hk) (workers ▸ hk')
  sending n k hlive := by
    rw [live_congr pass, not_live_of_idle idle] at hlive
    cases hlive
  awaited q n k hq hn hk := by
    rw [cancelled]
    exact h.awaited q n k (pass ▸ hq) hn (workers ▸ hk)
  intents q j hq := h.intents q j (pass ▸ hq)
  recovering q j hq hrec := by
    rw [pass, (idlePass_eq_some idle).1] at hq
    obtain rfl := some.inj hq
    rw [due] at hrec
    cases hrec
  taken q r hq hr := by
    have htaken := h.taken q r (pass ▸ hq) hr
    refine htaken.mono (seq ▸ Nat.le_succ _) fun b hb hbid => ?_
    by_cases hinst : r.inst = i
    · rw [hinst, written] at hb
      obtain rfl := some.inj hb
      have hle := htaken.1 _ (hbid.symm.trans hid)
      omega
    · exact ⟨b, others r.inst hinst ▸ hb, rfl, rfl, id⟩

theorem Sound.submit {p' : Pass} (h : Sound w) (idle : w.idlePass = some p)
    (accepted : w.cancelled k.inst = false)
    (bound : ∃ f, p'.bindings = some f ∧ (f k.inst).isSome = true) (hpos : k.pos = .begin)
    (unsent : k.probeSent = false)
    (read : k.recovery = false ∧ (w.slots k.inst).attempt = some k.attempt ∨
      ∃ r, p.recovering = some r ∧ r.inst = k.inst ∧ r.attempt = k.attempt)
    (recovering : p'.recovering = p.recovering ∨ p'.recovering = none)
    (awaits : p'.awaits = some w.jobs) (recovery : p'.recovery = p.recovery)
    (persisted : p'.persisted = p.persisted)
    (intents : ∀ j, (p'.intents j).isSome = true → (p.intents j).isSome = true)
    (pass : w'.pass = some p') (workers : w'.workers = update w.workers w.jobs (some k))
    (slots : ∀ j, (w'.slots j).attempt = (w.slots j).attempt) (seq : w'.attemptSeq = w.attemptSeq)
    (cancelled : w'.cancelled = w.cancelled) : Sound w' := by
  obtain ⟨hpass, -⟩ := idlePass_eq_some idle
  refine
    { ids := fun i a ha => ?_
      workerIds := fun n c m hc hm => ?_
      placed := fun n c hc => ?_
      spent := fun n c a hc hspent ha hid => ?_
      unique := fun n n' c c' hc hc' hs hs' hinst hid => ?_
      sending := fun n c hlive hc hcpos => ?_
      awaited := fun q n c hq hn hc => ?_
      intents := fun q i hq hi => ?_
      recovering := fun q i hq hqrec hi => ?_
      taken := fun q r hq hr => ?_ }
  · rw [seq]
    exact h.ids i a (slots i ▸ ha)
  · rw [workers] at hc
    rw [seq]
    rcases lookup_update hc with ⟨-, rfl⟩ | ⟨-, hc⟩
    · rcases read with ⟨-, hstored⟩ | ⟨r, hr, -, hattempt⟩
      · obtain ⟨m', hm', hle⟩ := h.ids c.inst c.attempt hstored
        obtain rfl : m' = m := some.inj (hm'.symm.trans hm)
        exact hle
      · exact (h.taken p r hpass hr).1 m (hattempt ▸ hm)
    · exact h.workerIds n c m hc hm
  · rw [workers] at hc
    rcases lookup_update hc with ⟨-, rfl⟩ | ⟨-, hc⟩
    · refine ⟨fun _ => unsent, ?_, ?_, ?_, ?_⟩
      all_goals simp [hpos, early, late]
    · exact h.placed n c hc
  · rw [workers] at hc
    rw [slots] at ha
    rcases lookup_update hc with ⟨-, rfl⟩ | ⟨-, hc⟩
    · -- only recoveries start out spent, with an attempt that was sent when they read it
      rcases read with ⟨hrec, -⟩ | ⟨r, hr, hinst, hattempt⟩
      · simp [ProbeInvariant.spent, hrec, unsent] at hspent
      · rw [← hattempt] at hid ⊢
        exact (h.taken p r hpass hr).2 a (hinst ▸ ha) hid
    · exact h.spent n c a hc hspent ha hid
  · rw [workers] at hc hc'
    rcases lookup_update hc with ⟨-, rfl⟩ | ⟨-, hc⟩
    · rw [unsent] at hs
      cases hs
    · rcases lookup_update hc' with ⟨-, rfl⟩ | ⟨-, hc'⟩
      · rw [unsent] at hs'
        cases hs'
      · exact h.unique n n' c c' hc hc' hs hs' hinst hid
  · obtain ⟨q, hq, hn⟩ := live_iff.mp hlive
    obtain rfl : p' = q := some.inj (pass.symm.trans hq)
    obtain rfl : w.jobs = n := some.inj (awaits.symm.trans hn)
    rw [workers, update_self] at hc
    obtain rfl := some.inj hc
    rw [hpos] at hcpos
    cases hcpos
  · obtain rfl : p' = q := some.inj (pass.symm.trans hq)
    obtain rfl : w.jobs = n := some.inj (awaits.symm.trans hn)
    rw [workers, update_self] at hc
    obtain rfl := some.inj hc
    exact ⟨cancelled ▸ accepted, bound⟩
  · obtain rfl : p' = q := some.inj (pass.symm.trans hq)
    rw [recovery]
    exact h.intents p i hpass (intents i hi)
  · obtain rfl : p' = q := some.inj (pass.symm.trans hq)
    rw [recovery] at hqrec
    intro a ha
    rw [slots] at ha
    refine h.recovering p i hpass hqrec ?_ a ha
    rcases hi with hi | ⟨snapshot, b, hsnap, hb⟩
    · exact .inl (intents i hi)
    · exact .inr ⟨snapshot, b, persisted ▸ hsnap, hb⟩
  · obtain rfl : p' = q := some.inj (pass.symm.trans hq)
    rcases recovering with heq | hnone
    · exact (h.taken p r hpass (heq ▸ hr)).mono seq.ge fun b hb _ =>
        ⟨b, slots r.inst ▸ hb, rfl, rfl, id⟩
    · rw [hnone] at hr
      cases hr

theorem Sound.remove (h : Sound w)
    (why : (∃ p f, w.idlePass = some p ∧ p.bindings = some f ∧ f i = none) ∨
      w.roster i = none ∧ w.cancelled i = true) (rest : SameRest w w')
    (workers : w'.workers = w.workers)
    (own : (w'.slots i).attempt = (w.slots i).attempt ∨ (w'.slots i).attempt = none)
    (others : ∀ j, j ≠ i → (w'.slots j).attempt = (w.slots j).attempt) : Sound w' := by
  refine h.forget rest workers ?_ ?_
  · intro j a ha
    by_cases hj : j = i
    · subst hj
      rcases own with heq | hnone
      · exact heq ▸ ha
      · rw [hnone] at ha
        cases ha
    · exact others j hj ▸ ha
  · -- no job of an instance that is removed has a live context
    intro n k a hlive hk _ ha
    by_cases hinst : k.inst = i
    · rcases why with ⟨p, f, idle, -, -⟩ | ⟨-, hcancelled⟩
      · rw [not_live_of_idle idle] at hlive
        cases hlive
      · obtain ⟨p, hp, hn⟩ := live_iff.mp hlive
        have hactive := (h.awaited p n k hp hn hk).1
        rw [hinst, hcancelled] at hactive
        cases hactive
    · exact (others k.inst hinst).trans ha

theorem Sound.taken_of_read (h : Sound w) {r : Recovering}
    (hread : r.attempt = (w.slots r.inst).attempt.getD {}) (hsent : StoredSent w r.inst) :
    Taken w r := by
  cases hstored : (w.slots r.inst).attempt with
  | none =>
    rw [hstored] at hread
    refine ⟨fun m hm => ?_, fun b hb => ?_⟩
    · rw [hread] at hm
      cases hm
    · rw [hstored] at hb
      cases hb
  | some a =>
    rw [hstored] at hread
    obtain rfl : r.attempt = a := hread
    refine ⟨fun m hm => ?_, fun b hb _ => ?_⟩
    · obtain ⟨m', hm', hle⟩ := h.ids r.inst r.attempt hstored
      obtain rfl : m' = m := some.inj (hm'.symm.trans hm)
      exact hle
    · obtain rfl := some.inj (hstored.symm.trans hb)
      exact ⟨hsent _ hstored, le_rfl⟩

theorem Sound.refine {p' : Pass} (h : Sound w) (idle : w.idlePass = some p)
    (awaits : p'.awaits = none) (recovery : p'.recovery = p.recovery)
    (persisted : p'.persisted = p.persisted ∨ p'.persisted = some w.slots)
    (intents : ∀ i, (p'.intents i).isSome = true → (p.intents i).isSome = true ∨
      p.recovery = true ∧ ∃ snapshot a, p.persisted = some snapshot ∧
        (snapshot i).attempt = some a ∧ a.phase ∈ sentPhases)
    (recovering : ∀ r, p'.recovering = some r → p.recovering = some r ∨
      (p.intents r.inst).isSome = true ∧ r.attempt = (w.slots r.inst).attempt.getD {}) :
    Sound (w.setPass p') := by
  obtain ⟨hpass, -⟩ := idlePass_eq_some idle
  refine h.repass (some p') ?_ ?_ ?_ ?_
  · intro q hq
    obtain rfl := some.inj hq
    exact awaits
  · intro q i hq hi
    obtain rfl := some.inj hq
    rw [recovery]
    rcases intents i hi with hold | ⟨hrec, -⟩
    · exact h.intents p i hpass hold
    · exact hrec
  · intro q i hq hrec hi
    obtain rfl := some.inj hq
    rw [recovery] at hrec
    rcases hi with hi | ⟨snapshot, a, hsnap, ha, hphase⟩
    · rcases intents i hi with hold | ⟨-, hsent⟩
      · exact h.recovering p i hpass hrec (.inl hold)
      · exact h.recovering p i hpass hrec (.inr hsent)
    · rcases persisted with hold | hnew
      · exact h.recovering p i hpass hrec (.inr ⟨snapshot, a, hold ▸ hsnap, ha, hphase⟩)
      · -- the snapshot just taken is what is stored
        obtain rfl : w.slots = snapshot := some.inj (hnew.symm.trans hsnap)
        intro b hb
        obtain rfl := some.inj (ha.symm.trans hb)
        exact hphase
  · intro q r hq hr
    obtain rfl := some.inj hq
    rcases recovering r hr with hold | ⟨hintent, hread⟩
    · exact h.taken p r hpass hold
    · exact h.taken_of_read hread
        (h.recovering p r.inst hpass (h.intents p r.inst hpass hintent) (.inl hintent))

theorem Sound.of_empty
    (ids : ∀ i a, (w.slots i).attempt = some a → ∃ m, a.attemptID = some m ∧ m ≤ w.attemptSeq)
    (workers : ∀ n, w.workers n = none) (pass : w.pass = none) : Sound w := by
  have hworker : ∀ {n k}, w.workers n ≠ some k := by simp [workers]
  have hpass : ∀ {p}, w.pass ≠ some p := by simp [pass]
  exact
    { ids := ids
      workerIds := fun _ _ _ hk => absurd hk hworker
      placed := fun _ _ hk => absurd hk hworker
      spent := fun _ _ _ hk => absurd hk hworker
      unique := fun _ _ _ _ hk => absurd hk hworker
      sending := fun _ _ _ hk => absurd hk hworker
      awaited := fun _ _ _ hp => absurd hp hpass
      intents := fun _ _ hp => absurd hp hpass
      recovering := fun _ _ hp => absurd hp hpass
      taken := fun _ _ hp => absurd hp hpass }

theorem pass_cancel {q : Pass} (hq : (w.cancel i).pass = some q) :
    ∃ p, w.pass = some p ∧ (q = { p with awaits := none } ∨
      q = p ∧ ∀ n k, p.awaits = some n → w.workers n = some k → k.inst ≠ i) := by
  obtain ⟨p, hp, rfl⟩ := map_eq_some_iff.mp hq
  refine ⟨p, hp, ?_⟩
  split
  next => exact .inl rfl
  next h =>
    refine .inr ⟨rfl, fun n k hn hk hinst => h ?_⟩
    simp [hn, hk, hinst]

theorem Sound.cancel (h : Sound w) (i : AuthInstanceID) : Sound (w.cancel i) where
  ids := h.ids
  workerIds := h.workerIds
  placed := h.placed
  spent := h.spent
  unique := h.unique
  sending n k hlive hk hpos := by
    obtain ⟨q, hq, hn⟩ := live_iff.mp hlive
    obtain ⟨p, hp, rfl | ⟨rfl, -⟩⟩ := pass_cancel hq
    · cases hn
    · exact h.sending n k (live_iff.mpr ⟨q, hp, hn⟩) hk hpos
  awaited q n k hq hn hk := by
    obtain ⟨p, hp, rfl | ⟨rfl, hother⟩⟩ := pass_cancel hq
    · cases hn
    · obtain ⟨hactive, hbound⟩ := h.awaited q n k hp hn hk
      refine ⟨?_, hbound⟩
      simpa [World.cancel, update_of_ne (hother n k hn hk)] using hactive
  intents q j hq := by
    obtain ⟨p, hp, rfl | ⟨rfl, -⟩⟩ := pass_cancel hq
    · exact h.intents p j hp
    · exact h.intents q j hp
  recovering q j hq := by
    obtain ⟨p, hp, rfl | ⟨rfl, -⟩⟩ := pass_cancel hq
    · exact h.recovering p j hp
    · exact h.recovering q j hp
  taken q r hq := by
    obtain ⟨p, hp, rfl | ⟨rfl, -⟩⟩ := pass_cancel hq
    · exact h.taken p r hp
    · exact h.taken q r hp

theorem Sound.act (h : Sound w) (hact : Act w w') : Sound w' := by
  cases hact with
  | settle rest workers slots => exact h.settle rest workers slots
  | claim p i a idle due free written hid hphase others seq workers pass roster cancelled =>
    exact h.claim idle due written hid others seq workers pass cancelled
  | submit p p' k idle accepted bound hpos unsent read recovering awaits recovery bindings
      persisted intents pass workers slots seq roster cancelled =>
    exact h.submit idle accepted bound hpos unsent read recovering awaits recovery persisted intents
      pass workers slots seq cancelled
  | remove i why rest workers own others => exact h.remove why rest workers own others
  | refine p p' idle same awaits recovery bindings persisted intents recovering =>
    exact same ▸ h.refine idle awaits recovery persisted intents recovering
  | openPass recovery free same =>
    subst same
    refine h.repass _ ?_ ?_ ?_ ?_
    · rintro p ⟨⟩
      rfl
    · rintro p i ⟨⟩ hi
      cases hi
    · rintro p i ⟨⟩ - (hi | ⟨snapshot, a, hsnap, -⟩)
      · cases hi
      · cases hsnap
    · rintro p r ⟨⟩ hr
      cases hr
  | release same =>
    subst same
    refine h.repass _ ?_ ?_ ?_ ?_
    · intro q hq
      obtain ⟨p, -, rfl⟩ := map_eq_some_iff.mp hq
      rfl
    · intro q i hq
      obtain ⟨p, hp, rfl⟩ := map_eq_some_iff.mp hq
      exact h.intents p i hp
    · intro q i hq
      obtain ⟨p, hp, rfl⟩ := map_eq_some_iff.mp hq
      exact h.recovering p i hp
    · intro q r hq
      obtain ⟨p, hp, rfl⟩ := map_eq_some_iff.mp hq
      exact h.taken p r hp
  | closePass same =>
    subst same
    refine h.repass none ?_ ?_ ?_ ?_
    all_goals
      intros
      contradiction
  | cancel i same => exact same ▸ h.cancel i
  | activate i same =>
    subst same
    refine ⟨h.ids, h.workerIds, h.placed, h.spent, h.unique, h.sending, ?_, h.intents,
      h.recovering, h.taken⟩
    intro p n k hp hn hk
    obtain ⟨hactive, hbound⟩ := h.awaited p n k hp hn hk
    refine ⟨?_, hbound⟩
    by_cases hinst : k.inst = i
    · simp [hinst]
    · simpa [update_of_ne hinst] using hactive
  | crash reads same =>
    subst same
    exact .of_empty h.ids (fun _ => rfl) rfl

theorem Sound.acts (h : Sound w) (hacts : ReflTransGen Act w w') : Sound w' := by
  induction hacts with
  | refl => exact h
  | tail _ hact ih => exact ih.act hact

theorem Sound.step (h : Sound w) (e : Event) : Sound (w.step e) := by
  by_cases hwork : ∃ n o, e = .work n o
  · obtain ⟨n, o, rfl⟩ := hwork
    unfold World.step
    dsimp only
    split
    next k hk => exact h.workMove hk (workMove_workStep w n k o)
    next => exact h
  · cases hroster : rosterEvent e with
    | true =>
      obtain ⟨roster, hstep⟩ := step_rosterEvent hroster
      rw [hstep]
      exact ⟨h.ids, h.workerIds, h.placed, h.spent, h.unique, h.sending, h.awaited, h.intents,
        h.recovering, h.taken⟩
    | false => exact h.acts (acts_step w e (fun n o he => hwork ⟨n, o, he⟩) hroster)

theorem sound_initial (now : Time) : Sound (World.initial now) :=
  .of_empty (fun _ _ ha => by cases ha) (fun _ => rfl) rfl

def worldAt (now : Time) (events : Nat → Event) : Nat → World :=
  stateAt World.step (World.initial now) events

def scripted (script : List Event) (k : Nat) : Event := script.getD k (.elapse 0 0)

theorem sound_worldAt (now : Time) (events : Nat → Event) (k : Nat) :
    Sound (worldAt now events k) :=
  invariant_stateAt (sound_initial now) (fun _ e h => h.step e) k

end QuotaScheduler.ProbeInvariant

/- What the steps of the probe runtime do to attempts, workers and passes. -/

import QuotaScheduler.ProbeRuntime
import Mathlib.Logic.Relation

namespace QuotaScheduler.ProbeMoves

open Account ProbeState ProbeStore ProbeRuntime Option Function World
open Relation (ReflTransGen)

/-- The changes of an attempt that no send, claim, completion or removal makes. -/
inductive AttemptChange : Option ProbeAttempt → Option ProbeAttempt → Prop
  | same (a : Option ProbeAttempt) : AttemptChange a a
  | settle {a b : ProbeAttempt} (ha : a.phase ∈ sentPhases) (hb : b.phase ∈ sentPhases)
      (hid : b.attemptID = a.attemptID) (hfence : b.sendFenceSeq = a.sendFenceSeq) :
      AttemptChange (some a) (some b)
  | drop {a : ProbeAttempt} (ha : a.phase = .prepared) : AttemptChange (some a) none

theorem exactProbeAttempt_eq_some {attempt : Option ProbeAttempt} {id : Option Nat}
    {phases : List ProbeAttemptPhase} {a : ProbeAttempt}
    (h : exactProbeAttempt attempt id phases = some a) :
    attempt = some a ∧ a.attemptID = id ∧ id.isSome ∧ a.phase ∈ phases := by
  obtain ⟨hsome, hp⟩ := filter_eq_some_iff.mp h
  simp only [Bool.and_eq_true, decide_eq_true_eq] at hp
  exact ⟨hsome, hp.1.2, hp.1.1, hp.2⟩

theorem mem_probeWindowKinds (k : ProbeWindowKind) : k ∈ probeWindowKinds := by
  cases k <;> simp [probeWindowKinds]

theorem mem_sentPhases {p : ProbeAttemptPhase} : p ∈ sentPhases ↔ p ≠ .prepared := by
  cases p <;> simp [sentPhases]

variable {id : Option Nat}

theorem persistTerminalProbeCompletion_attempt (s : ProbeSlot)
    (quota : ParsedQuota) (phases : List ProbeAttemptPhase) (stored : Bool) :
    (s.persistTerminalProbeCompletion id quota phases stored).attempt = s.attempt ∨
      (s.persistTerminalProbeCompletion id quota phases stored).attempt = none ∧
        ∃ a, s.attempt = some a ∧ a.attemptID = id ∧ a.phase ∈ phases := by
  unfold ProbeSlot.persistTerminalProbeCompletion
  split
  next h =>
    simp only [Bool.and_eq_true] at h
    obtain ⟨a, ha⟩ := isSome_iff_exists.mp h.2
    obtain ⟨hs, hid, -, hphase⟩ := exactProbeAttempt_eq_some ha
    exact .inr ⟨rfl, a, hs, hid, hphase⟩
  next => exact .inl rfl

theorem verification_attempt (s : ProbeSlot) (a : ProbeAttempt) (recovery : Bool) (q : ParsedQuota)
    (now : Time) (stored : Bool) :
    let done := if recovery then
        s.persistVerifiedProbeCompletion a.attemptID q sentPhases now stored
      else s.completeVerification a q now stored
    done.attempt = s.attempt ∨
      done.attempt = none ∧ ∃ old, s.attempt = some old ∧ old.attemptID = a.attemptID := by
  have own : ∀ t : ProbeSlot, t.attempt = s.attempt → ∀ phases,
      (t.persistTerminalProbeCompletion a.attemptID q phases stored).attempt = s.attempt ∨
        (t.persistTerminalProbeCompletion a.attemptID q phases stored).attempt = none ∧
          ∃ old, s.attempt = some old ∧ old.attemptID = a.attemptID := by
    intro t ht phases
    rcases persistTerminalProbeCompletion_attempt t q phases stored with
      h | ⟨h, old, hs, hid, -⟩
    · exact .inl (h.trans ht)
    · exact .inr ⟨h, old, ht ▸ hs, hid⟩
  cases recovery with
  | true => exact own (s.advanceRead .verifyResult q now 0) rfl sentPhases
  | false =>
    exact own ((s.advanceRead .verifyResult q now 0).raise a.windows a.suppressUntil) rfl [.sent]

namespace AttemptChange

variable {s : ProbeSlot}

theorem store (windows : Windows) (stored : Bool) :
    AttemptChange s.attempt (s.store windows stored).attempt := by
  unfold ProbeSlot.store
  split <;> exact .same _

theorem persistProbeSentUnknown {id : Option Nat} {suppress : Time} {stored : Bool} {t : ProbeSlot}
    (h : s.persistProbeSentUnknown id suppress stored = some t) :
    AttemptChange s.attempt t.attempt := by
  unfold ProbeSlot.persistProbeSentUnknown at h
  split at h
  · obtain ⟨a, ha, rfl⟩ := map_eq_some_iff.mp h
    obtain ⟨hs, -, -, hphase⟩ := exactProbeAttempt_eq_some ha
    rw [hs]
    exact .settle hphase (by simp [ProbeAttempt.toSentUnknown, sentPhases]) rfl rfl
  · cases h

theorem persistSent {id : Option Nat} {stored : Bool} {t : ProbeSlot}
    (h : s.persistSent id stored = some t) : AttemptChange s.attempt t.attempt := by
  unfold ProbeSlot.persistSent at h
  split at h
  · obtain ⟨a, ha, rfl⟩ := map_eq_some_iff.mp h
    obtain ⟨hs, -, -, hphase⟩ := exactProbeAttempt_eq_some ha
    rw [hs]
    refine .settle ?_ (by simp [sentPhases]) rfl rfl
    rw [List.mem_singleton.mp hphase]
    simp [sentPhases]
  · cases h

theorem persistProbeFailure (f : ProbeFailure) (now : Time) (stored : Bool) :
    AttemptChange s.attempt (s.persistProbeFailure f now stored).attempt := by
  unfold ProbeSlot.persistProbeFailure
  split
  next => exact .same _
  next a ha =>
    have hstored : stored = true := by
      cases stored
      · simp at ha
      · rfl
    rw [if_pos hstored] at ha
    obtain ⟨hs, -, -, hphase⟩ := exactProbeAttempt_eq_some ha
    rw [hs]
    cases hsent : f.sent with
    | true =>
      simp only [ProbeFailure.phases, hsent, if_true] at hphase ⊢
      exact .settle hphase (by simp [ProbeAttempt.toSentUnknown, sentPhases]) rfl rfl
    | false =>
      simp only [Bool.false_eq_true, if_false]
      split
      · exact .drop (by assumption)
      · exact .same _

theorem completePrepared (id : Option Nat) (quota : ParsedQuota) (stored : Bool) :
    AttemptChange s.attempt
      (s.persistTerminalProbeCompletion id quota [.prepared] stored).attempt := by
  rcases persistTerminalProbeCompletion_attempt s quota [.prepared] stored with
    h | ⟨h, a, hs, -, hphase⟩
  · rw [h]
    exact .same _
  · rw [h, hs]
    exact .drop (List.mem_singleton.mp hphase)

theorem holdProbeForRoster (stored : Bool) :
    AttemptChange s.attempt (s.holdProbeForRoster stored).attempt := by
  unfold ProbeSlot.holdProbeForRoster
  split
  · cases hs : s.attempt with
    | none => exact .same _
    | some a =>
      by_cases hphase : a.phase ∈ sentPhases
      · simpa [Option.filter, hphase] using .same (some a)
      · simp only [Option.filter, hphase, decide_false, Bool.false_eq_true, if_false]
        exact .drop (Classical.not_not.mp fun h => hphase (mem_sentPhases.mpr h))
  · exact .same _

theorem dropPrepared (id : Option Nat) (windows : Windows) (stored : Bool) :
    AttemptChange s.attempt (s.dropPrepared id windows stored).attempt := by
  unfold ProbeSlot.dropPrepared
  split
  · cases hs : s.attempt with
    | none => exact .same _
    | some a =>
      by_cases ha : a.attemptID = id ∧ a.phase = .prepared
      · simpa [Option.filter, ha] using .drop ha.2
      · simpa [Option.filter, ha] using .same (some a)
  · exact .same _

theorem reconcileObservedProbeWindows (quota : ParsedQuota) (now : Time) (obs : Duration)
    (stored : Bool) :
    AttemptChange s.attempt (s.reconcileObservedProbeWindows quota now obs stored).attempt := by
  unfold ProbeSlot.reconcileObservedProbeWindows
  split <;> exact .same _

theorem bootstrap (c : Bootstrap.Context) (accounts : List ObservedAccount)
    (pending stored : Bool) :
    AttemptChange s.attempt (s.bootstrap c accounts pending stored).attempt := by
  exact store (s := s.bootstrapController c accounts) _ _

theorem of_sent {a : ProbeAttempt} {t : Option ProbeAttempt}
    (h : AttemptChange (some a) t) (ha : a.phase ∈ sentPhases) :
    ∃ b, t = some b ∧ b.phase ∈ sentPhases ∧ b.attemptID = a.attemptID ∧
      b.sendFenceSeq = a.sendFenceSeq := by
  cases h with
  | same => exact ⟨a, rfl, ha, rfl, rfl⟩
  | @settle _ b _ hb hid hfence => exact ⟨b, rfl, hb, hid, hfence⟩
  | drop hprep => exact absurd hprep (mem_sentPhases.mp ha)

theorem of_some {s : Option ProbeAttempt} {b : ProbeAttempt} (h : AttemptChange s (some b)) :
    ∃ a, s = some a ∧ b.attemptID = a.attemptID ∧ b.sendFenceSeq = a.sendFenceSeq ∧
      (a.phase ∈ sentPhases → b.phase ∈ sentPhases) := by
  cases h with
  | same => exact ⟨b, rfl, rfl, rfl, id⟩
  | @settle a _ _ hb hid hfence => exact ⟨a, rfl, hid, hfence, fun _ => hb⟩

end AttemptChange

structure SameRest (w w' : World) : Prop where
  pass : w'.pass = w.pass
  roster : w'.roster = w.roster
  cancelled : w'.cancelled = w.cancelled
  jobs : w'.jobs = w.jobs
  attemptSeq : w'.attemptSeq = w.attemptSeq
  clock : w.clock ≤ w'.clock

def early : Position → Bool
  | .prechecked _ | .authorized _ | .fenced => true
  | _ => false

def late : Position → Bool
  | .sending | .posted | .sent => true
  | _ => false

structure WorkerStep (w : World) (n : Nat) (o : Outcome) (k k' : Worker) : Prop where
  inst : k'.inst = k.inst
  attemptID : k'.attempt.attemptID = k.attempt.attemptID
  recovery : k'.recovery = k.recovery
  probeSent : k'.probeSent = k.probeSent
  fence : early k.pos = false → k.attempt.sendFenceSeq ≤ k'.attempt.sendFenceSeq
  suppress : early k.pos = false → k'.attempt.suppressUntil = k.attempt.suppressUntil
  noBegin : k'.pos ≠ .begin
  noSend : k'.pos ≠ .sending
  early : early k'.pos = true → early k.pos = true ∨ k.pos = .begin ∧ k.recovery = false
  fenced : k'.pos = .fenced → k'.attempt.suppressUntil = w.clock + 10 * minute
  late : late k'.pos = true → late k.pos = true
  verifying : ∀ seq, k'.pos = .verifying seq → k'.attempt.sendFenceSeq < seq ∧ o = .ok ∧
    (k.pos = .sent ∨ k.pos = .begin ∧ k.recovery = true)
  verified : ∀ seq q, k'.pos = .verified seq q →
    k.pos = .verifying seq ∧ k'.attempt = k.attempt ∧ o = .quota q ∧ w.live n = true

inductive WorkMove (n : Nat) (o : Outcome) (k : Worker) (w w' : World) : Prop
  | work (k' : Worker) (rest : SameRest w w')
      (workers : w'.workers = Function.update w.workers n (some k'))
      (hstep : WorkerStep w n o k k')
      (slots : ∀ i, AttemptChange (w.slots i).attempt (w'.slots i).attempt)
  | send (a b : ProbeAttempt) (rest : SameRest w w') (hpos : k.pos = .fenced)
      (workers : w'.workers =
        Function.update w.workers n (some { k with pos := .sending, probeSent := true }))
      (stored : (w.slots k.inst).attempt = some a) (hid : a.attemptID = k.attempt.attemptID)
      (hphase : a.phase = .prepared) (written : (w'.slots k.inst).attempt = some b)
      (wid : b.attemptID = k.attempt.attemptID) (wphase : b.phase ∈ sentPhases)
      (wfence : b.sendFenceSeq = k.attempt.sendFenceSeq)
      (others : ∀ j, j ≠ k.inst → (w'.slots j).attempt = (w.slots j).attempt)
  | complete (seq : Nat) (q : ParsedQuota) (rest : SameRest w w') (hpos : k.pos = .verified seq q)
      (workers : w'.workers = Function.update w.workers n (some { k with pos := .finished }))
      (own : (w'.slots k.inst).attempt = (w.slots k.inst).attempt ∨
        (w'.slots k.inst).attempt = none ∧
          ∃ a, (w.slots k.inst).attempt = some a ∧ a.attemptID = k.attempt.attemptID)
      (others : ∀ j, j ≠ k.inst → (w'.slots j).attempt = (w.slots j).attempt)
  | stay (same : w' = w)

inductive Act (w w' : World) : Prop
  | settle (rest : SameRest w w') (workers : w'.workers = w.workers)
      (slots : ∀ i, AttemptChange (w.slots i).attempt (w'.slots i).attempt)
  | claim (p : Pass) (i : AuthInstanceID) (a : ProbeAttempt) (idle : w.idlePass = some p)
      (due : p.recovery = false)
      (free : ∀ old, (w.slots i).attempt = some old → old.attemptID = none)
      (written : (w'.slots i).attempt = some a) (hid : a.attemptID = some (w.attemptSeq + 1))
      (hphase : a.phase = .prepared)
      (others : ∀ j, j ≠ i → (w'.slots j).attempt = (w.slots j).attempt)
      (seq : w'.attemptSeq = w.attemptSeq + 1) (workers : w'.workers = w.workers)
      (pass : w'.pass = w.pass) (roster : w'.roster = w.roster)
      (cancelled : w'.cancelled = w.cancelled) (clock : w'.clock = w.clock)
  | submit (p p' : Pass) (k : Worker) (idle : w.idlePass = some p)
      (accepted : w.cancelled k.inst = false)
      (bound : ∃ f, p'.bindings = some f ∧ (f k.inst).isSome = true) (hpos : k.pos = .begin)
      (unsent : k.probeSent = false)
      (read : k.recovery = false ∧ (w.slots k.inst).attempt = some k.attempt ∨
        ∃ r, p.recovering = some r ∧ r.inst = k.inst ∧ r.attempt = k.attempt)
      (recovering : p'.recovering = p.recovering ∨ p'.recovering = none)
      (awaits : p'.awaits = some w.jobs) (recovery : p'.recovery = p.recovery)
      (bindings : p'.bindings = p.bindings) (persisted : p'.persisted = p.persisted)
      (intents : ∀ j, (p'.intents j).isSome = true → (p.intents j).isSome = true)
      (pass : w'.pass = some p')
      (workers : w'.workers = Function.update w.workers w.jobs (some k))
      (slots : ∀ j, (w'.slots j).attempt = (w.slots j).attempt)
      (seq : w'.attemptSeq = w.attemptSeq) (roster : w'.roster = w.roster)
      (cancelled : w'.cancelled = w.cancelled) (now : p'.now = p.now) (clock : w'.clock = w.clock)
  | remove (i : AuthInstanceID)
      (why : (∃ p f, w.idlePass = some p ∧ p.bindings = some f ∧ f i = none) ∨
        w.roster i = none ∧ w.cancelled i = true)
      (rest : SameRest w w') (workers : w'.workers = w.workers)
      (own : (w'.slots i).attempt = (w.slots i).attempt ∨ (w'.slots i).attempt = none)
      (others : ∀ j, j ≠ i → (w'.slots j).attempt = (w.slots j).attempt)
  | refine (p p' : Pass) (idle : w.idlePass = some p) (same : w' = w.setPass p')
      (awaits : p'.awaits = none) (recovery : p'.recovery = p.recovery)
      (bindings : p'.bindings = p.bindings ∨ p'.bindings = some w.roster)
      (persisted : p'.persisted = p.persisted ∨ p'.persisted = some w.slots)
      (intents : ∀ i, (p'.intents i).isSome = true → (p.intents i).isSome = true ∨
        p.recovery = true ∧ ∃ snapshot a, p.persisted = some snapshot ∧
          (snapshot i).attempt = some a ∧ a.phase ∈ sentPhases)
      (recovering : ∀ r, p'.recovering = some r → p.recovering = some r ∨
        (p.intents r.inst).isSome = true ∧ r.attempt = (w.slots r.inst).attempt.getD {})
      (now : p'.now = p.now)
  | openPass (recovery : Bool) (free : w.pass = none)
      (same : w' = w.setPass { recovery := recovery, now := w.clock })
  | release (same : w' = { w with pass := w.pass.map fun p => { p with awaits := none } })
  | closePass (same : w' = { w with pass := none })
  | cancel (i : AuthInstanceID) (same : w' = w.cancel i)
  | activate (i : AuthInstanceID)
      (same : w' = { w with cancelled := Function.update w.cancelled i false })
  | crash (reads : Nat) (same : w' = w.crash reads)

theorem SameRest.setSlot (w : World) (i : AuthInstanceID) (s : ProbeSlot) :
    SameRest w (w.setSlot i s) := ⟨rfl, rfl, rfl, rfl, rfl, le_rfl⟩

theorem attemptChange_setSlot (w : World) (i : AuthInstanceID) {s : ProbeSlot}
    (h : AttemptChange (w.slots i).attempt s.attempt) (j : AuthInstanceID) :
    AttemptChange (w.slots j).attempt ((w.setSlot i s).slots j).attempt := by
  by_cases hj : j = i
  · subst hj
    simpa [setSlot] using h
  · simpa [setSlot, update_of_ne hj] using .same _

theorem attemptChange_store {w : World} (touched : List AuthInstanceID)
    (windows : AuthInstanceID → Windows) (stored : Bool) (i : AuthInstanceID) :
    AttemptChange (w.slots i).attempt ((w.store touched windows stored).slots i).attempt := by
  unfold store
  dsimp only
  split
  · exact .store _ stored
  · exact .same _

variable {i : AuthInstanceID} {w : World} {n : Nat} {o : Outcome} {k : Worker} {p : Pass}
  {s : ProbeSlot}

theorem setSlot_of_ne {j : AuthInstanceID} (hj : j ≠ i) : (w.setSlot i s).slots j = w.slots j := by
  simp [setSlot, update_of_ne hj]

theorem setSlot_self : (w.setSlot i s).slots i = s := by
  simp [setSlot]

theorem setSlot_attempt_of_ne {j : AuthInstanceID} (hj : j ≠ i) :
    ((w.setSlot i s).slots j).attempt = (w.slots j).attempt := by
  rw [setSlot_of_ne hj]

theorem setSlot_attempt_self : ((w.setSlot i s).slots i).attempt = s.attempt := by
  rw [setSlot_self]

theorem WorkMove.of_step (k' : Worker) (s : ProbeSlot) (reads : Nat) (hstep : WorkerStep w n o k k')
    (hs : AttemptChange (w.slots k.inst).attempt s.attempt) :
    WorkMove n o k w (({ w with fence := w.fence + reads }.setSlot k.inst s).setWorker n k') :=
  .work k' ⟨rfl, rfl, rfl, rfl, rfl, le_rfl⟩ rfl hstep (attemptChange_setSlot w k.inst hs)

variable {k' : Worker}

theorem WorkMove.of_worker {w' : World} (rest : SameRest w w')
    (slots : w'.slots = w.slots) (workers : w'.workers = update w.workers n (some k'))
    (hstep : WorkerStep w n o k k') : WorkMove n o k w w' := by
  refine .work k' rest workers hstep fun i => ?_
  rw [slots]
  exact .same _

theorem workerStep_resting {seq : Nat} {pos : Position} (hseq : k.attempt.sendFenceSeq ≤ seq)
    (hpos : (∃ sent block, pos = .failing sent block) ∨ pos = .finished) :
    WorkerStep w n o k
      { k with attempt := { k.attempt with sendFenceSeq := seq }, pos := pos } := by
  rcases hpos with ⟨sent, block, rfl⟩ | rfl <;> constructor <;> simp_all [early, late]

variable {sent block : Bool}

theorem workMove_failing : WorkMove n o k w (w.setWorker n { k with pos := .failing sent block }) :=
  .of_worker ⟨rfl, rfl, rfl, rfl, rfl, le_rfl⟩ rfl rfl
    (workerStep_resting le_rfl (.inl ⟨sent, block, rfl⟩))

theorem workMove_beginVerify (sendFenceSeq : Nat) (hfence : k.attempt.sendFenceSeq ≤ sendFenceSeq)
    (hpos : k.pos = .sent ∨ k.pos = .begin ∧ k.recovery = true) :
    WorkMove n o k w (w.beginVerify n k sendFenceSeq o) := by
  cases o with
  | quota q | error b | withheld => exact workMove_failing
  | ok =>
    unfold beginVerify
    dsimp only
    split
    next =>
      exact .of_worker ⟨rfl, rfl, rfl, rfl, rfl, le_rfl⟩ rfl rfl
        (workerStep_resting hfence (.inl ⟨true, false, rfl⟩))
    next hlt =>
      refine .of_worker ⟨rfl, rfl, rfl, rfl, rfl, le_rfl⟩ rfl rfl ?_
      constructor <;> simp_all [early, late]

theorem workMove_beginRecovery (hpos : k.pos = .begin) (hrec : k.recovery = true) :
    WorkMove n o k w (w.beginRecovery n k o) := by
  unfold beginRecovery
  split
  · exact workMove_failing
  · refine workMove_beginVerify _ ?_ (.inr ⟨hpos, hrec⟩)
    unfold Worker.recoveryFence
    split
    next hzero => rw [hzero]; exact Nat.zero_le _
    next => exact le_rfl

theorem workMove_beginSend (hpos : k.pos = .begin) (hrec : k.recovery = false) :
    WorkMove n o k w (w.beginSend n k o) := by
  unfold beginSend
  split
  next q hlive =>
    refine .of_worker ⟨rfl, rfl, rfl, rfl, rfl, le_rfl⟩ rfl rfl ?_
    constructor <;> simp_all [early, late]
  next => exact workMove_failing

theorem workMove_applyPrecheck (q : ParsedQuota)
    (hpos : k.pos = .prechecked q) : WorkMove n o k w (w.applyPrecheck n k q o.stored) := by
  unfold applyPrecheck
  dsimp only
  split
  next =>
    exact .of_step _ _ 0 (workerStep_resting le_rfl (.inr rfl))
      (.completePrepared (s := (w.slots k.inst).advanceRead _ q w.clock w.obs) _ _ _)
  next lazy _ =>
    refine .of_step { k with pos := .authorized _ } _ 0 ?_ (.same _)
    constructor <;> simp_all [early, late]

theorem workMove_workStep (w : World) (n : Nat) (k : Worker) (o : Outcome) :
    WorkMove n o k w (w.workStep n k o) := by
  unfold workStep
  dsimp only
  cases hpos : k.pos with
  | begin =>
    dsimp only
    split
    next hrec => exact workMove_beginRecovery hpos hrec
    next hrec => exact workMove_beginSend hpos (Bool.eq_false_iff.mpr hrec)
  | prechecked q => exact workMove_applyPrecheck q hpos
  | authorized lazy =>
    dsimp only
    split
    next =>
      refine .of_worker ⟨rfl, rfl, rfl, rfl, rfl, le_rfl⟩ rfl rfl ?_
      constructor <;> simp_all [early, late, Worker.fencedAttempt]
    next => exact workMove_failing
  | fenced =>
    cases hsend : (w.slots k.inst).persistSending k.attempt o.stored with
    | none => exact workMove_failing
    | some s =>
      unfold ProbeSlot.persistSending at hsend
      split at hsend
      · obtain ⟨a, ha, rfl⟩ := map_eq_some_iff.mp hsend
        obtain ⟨hs, hid, -, hphase⟩ := exactProbeAttempt_eq_some ha
        exact .send a _ ⟨rfl, rfl, rfl, rfl, rfl, le_rfl⟩ hpos rfl hs hid
          (List.mem_singleton.mp hphase)
          setSlot_attempt_self rfl (by simp [sentPhases]) rfl
          fun j hj => setSlot_attempt_of_ne hj
      · cases hsend
  | sending =>
    dsimp only
    split
    next =>
      refine .of_worker ⟨rfl, rfl, rfl, rfl, rfl, le_rfl⟩ rfl rfl ?_
      constructor <;> simp_all [early, late]
    next => exact workMove_failing
  | posted =>
    cases hsent : (w.slots k.inst).persistSent k.attempt.attemptID o.stored with
    | none => exact workMove_failing
    | some s =>
      refine .of_step { k with pos := .sent } _ 0 ?_ (.persistSent hsent)
      constructor <;> simp_all [early, late]
  | sent => exact workMove_beginVerify _ le_rfl (.inl hpos)
  | verifying seq =>
    dsimp only
    split
    next q hlive =>
      refine .of_worker ⟨rfl, rfl, rfl, rfl, rfl, le_rfl⟩ rfl rfl ?_
      constructor <;> simp_all [early, late]
    next => exact workMove_failing
  | verified seq q =>
    refine .complete seq q ⟨rfl, rfl, rfl, rfl, rfl, le_rfl⟩ hpos rfl ?_
      fun j hj => setSlot_attempt_of_ne hj
    dsimp only [setWorker]
    rw [setSlot_attempt_self]
    exact verification_attempt _ k.attempt k.recovery q w.clock o.stored
  | failing sent block =>
    dsimp only
    split
    · exact .of_worker ⟨rfl, rfl, rfl, rfl, rfl, le_rfl⟩ rfl rfl
        (workerStep_resting le_rfl (.inr rfl))
    · exact .of_step _ _ 0 (workerStep_resting le_rfl (.inr rfl))
        (.persistProbeFailure _ _ _)
  | finished => exact .stay rfl

theorem Act.setSlot (w : World) (i : AuthInstanceID) {s : ProbeSlot}
    (h : AttemptChange (w.slots i).attempt s.attempt) : Act w (w.setSlot i s) :=
  .settle (.setSlot w i s) rfl (attemptChange_setSlot w i h)

theorem idlePass_eq_some (h : w.idlePass = some p) : w.pass = some p ∧ p.awaits = none := by
  obtain ⟨hpass, hidle⟩ := filter_eq_some_iff.mp h
  exact ⟨hpass, isNone_iff_eq_none.mp hidle⟩

variable {stored : Bool}

theorem remove_attempt :
    ((w.setSlot i ((w.slots i).remove stored)).slots i).attempt = (w.slots i).attempt ∨
      ((w.setSlot i ((w.slots i).remove stored)).slots i).attempt = none := by
  rw [setSlot_attempt_self]
  unfold ProbeSlot.remove
  split
  · exact .inr rfl
  · exact .inl rfl

theorem withPass_of {P : World → Prop} {f : Pass → World} (stay : P w)
    (own : ∀ p, w.idlePass = some p → P (f p)) : P (w.withPass f) := by
  unfold withPass
  split
  next p hidle => exact own p hidle
  next => exact stay

theorem acts_orphan : ReflTransGen Act w (w.orphan i stored) := by
  refine withPass_of .refl fun p hidle => ?_
  split
  next snapshot bound _ hbound =>
    split
    next h =>
      simp only [Bool.and_eq_true] at h
      exact .single (.remove i
        (.inl ⟨p, bound, hidle, hbound, isNone_iff_eq_none.mp h.2⟩) (.setSlot w i _) rfl
        remove_attempt fun j hj => setSlot_attempt_of_ne hj)
    next => exact .refl
  next => exact .refl

/-- The pass may note what keeps its bindings, its view of the store and its intents. -/
theorem Act.note {p' : Pass} (idle : w.idlePass = some p) (awaits : p'.awaits = p.awaits)
    (recovery : p'.recovery = p.recovery) (bindings : p'.bindings = p.bindings)
    (persisted : p'.persisted = p.persisted) (intents : p'.intents = p.intents)
    (recovering : p'.recovering = p.recovering ∨ p'.recovering = none) (now : p'.now = p.now) :
    Act w (w.setPass p') := by
  refine .refine p p' idle rfl (awaits.trans (idlePass_eq_some idle).2) recovery (.inl bindings)
    (.inl persisted) (fun i hi => .inl (intents ▸ hi)) (fun r hr => ?_) now
  rcases recovering with heq | hnone
  · exact .inl (heq ▸ hr)
  · rw [hnone] at hr
    cases hr

theorem acts_submit_due {f} (submitted : Bool) (idle : w.idlePass = some p)
    (hf : p.bindings = some f) (bound : (f k.inst).isSome = true) (hpos : k.pos = .begin)
    (unsent : k.probeSent = false) (hrec : k.recovery = false)
    (stored : (w.slots k.inst).attempt = some k.attempt) :
    ReflTransGen Act w (w.submit p k submitted) := by
  unfold submit
  split
  next h =>
    simp only [Bool.and_eq_true, Bool.not_eq_true'] at h
    exact .single (.submit p { p with awaits := some w.jobs } k idle h.2 ⟨f, hf, bound⟩ hpos unsent
      (.inl ⟨hrec, stored⟩) (.inl rfl) rfl rfl rfl rfl (fun _ h => h) rfl rfl
      (fun _ => rfl) rfl rfl rfl rfl rfl)
  next => exact .refl

theorem acts_claimDue {b : RuntimeBinding} {f} (due : List ProbeWindowKind) (windows : Windows)
    (submitted : Bool) (idle : w.idlePass = some p) (hrec : p.recovery = false)
    (hf : p.bindings = some f) (hb : f i = some b) :
    ReflTransGen Act w (w.claimDue p i b due windows submitted) := by
  have hbound : (f i).isSome = true := by simp [hb]
  unfold claimDue
  split
  next a ha =>
    obtain ⟨hstored, -⟩ := filter_eq_some_iff.mp ha
    split
    · exact acts_submit_due submitted idle hf hbound rfl rfl rfl hstored
    · exact .refl
  next hnone =>
    have hfree : ∀ old, (w.slots i).attempt = some old → old.attemptID = none := by
      intro old hold
      rw [hold] at hnone
      simpa [Option.filter] using hnone
    have hclaim : Act w (w.prepare i due windows p.now) :=
      .claim p i _ idle hrec hfree setSlot_attempt_self rfl rfl
        (fun j hj => setSlot_attempt_of_ne hj) rfl rfl rfl rfl rfl rfl
    exact .head hclaim (acts_submit_due submitted idle hf hbound rfl rfl rfl setSlot_attempt_self)

theorem idlePass_setPass (h : p.awaits = none) : (w.setPass p).idlePass = some p := by
  simp [idlePass, setPass, h]

variable {submitted : Bool}

theorem acts_due : ReflTransGen Act w (w.due i) := by
  refine withPass_of .refl fun p hidle => ?_
  split
  next snapshot b _ hb =>
    split
    next => exact .refl
    next =>
      split
      next => exact .single (.setSlot w i (.same _))
      next =>
        have harm : Act w (w.setSlot i ((w.slots i).arm b p.now)) := .setSlot w i (.same _)
        exact .head harm (.single (.note hidle rfl rfl rfl rfl rfl (.inl rfl) rfl))
  next => exact .refl

theorem acts_claim : ReflTransGen Act w (w.claim stored submitted) := by
  refine withPass_of .refl fun p hidle => ?_
  split
  next i due windows _ _ =>
    split
    next b hb =>
      obtain ⟨f, hf, hfb⟩ := bind_eq_some_iff.mp hb
      split
      next => exact .refl
      next hrec =>
        have hnote : Act w (w.setPass { p with claiming := none }) :=
          .note hidle rfl rfl rfl rfl rfl (.inl rfl) rfl
        dsimp only
        split
        next =>
          exact .head hnote (acts_claimDue due _ submitted
            (idlePass_setPass (idlePass_eq_some hidle).2) (Bool.eq_false_iff.mpr hrec) hf hfb)
        next => exact .single hnote
    next => exact .refl
  next => exact .refl

theorem acts_recoverChecked : ReflTransGen Act w (w.recoverChecked i stored) := by
  refine withPass_of .refl fun p hidle => ?_
  obtain ⟨hpass, hawaits⟩ := idlePass_eq_some hidle
  split
  next => exact .refl
  next a ha =>
    obtain ⟨snapshot, hsnapshot, hattempt⟩ := bind_eq_some_iff.mp ha
    dsimp only
    split
    next h =>
      simp only [Bool.and_eq_true, decide_eq_true_eq] at h
      have hintent : ∀ (w' : World) (intent : RecoveryIntent), w'.idlePass = some p →
          Act w' (w'.setPass { p with intents := update p.intents i (some intent) }) := by
        intro w' intent hidle'
        refine .refine p _ hidle' rfl hawaits rfl (.inl rfl) (.inl rfl) (fun j hj => ?_)
          (fun r hr => .inl hr) rfl
        by_cases hji : j = i
        · subst hji
          exact .inr ⟨h.1.1.1, snapshot, a, hsnapshot, hattempt, h.1.2⟩
        · exact .inl (by simpa [update_of_ne hji] using hj)
      split
      next =>
        split
        next s hs =>
          exact .head (.setSlot w i (.persistProbeSentUnknown hs))
            (.single (hintent (w.setSlot i s) _ hidle))
        next => exact .refl
      next => exact .single (hintent w _ hidle)
    next => exact .refl

theorem acts_readAttempt : ReflTransGen Act w (w.readAttempt i) := by
  refine withPass_of .refl fun p hidle => ?_
  split
  next intent bound hintent hbound =>
    refine .single (.refine p _ hidle rfl (idlePass_eq_some hidle).2 rfl (.inl rfl) (.inl rfl)
      (fun j hj => ?_) (fun r hr => ?_) rfl)
    · by_cases hji : j = i
      · simp [Pass.visit, hji] at hj
      · exact .inl (by simpa [Pass.visit, update_of_ne hji] using hj)
    · obtain ⟨b, -, rfl⟩ := map_eq_some_iff.mp hr
      exact .inr ⟨by simp [hintent], rfl⟩
  next => exact .refl

theorem acts_recover : ReflTransGen Act w (w.recover submitted) := by
  refine withPass_of .refl fun p hidle => ?_
  split
  next r hr =>
    split
    next b hb =>
      obtain ⟨f, hf, hfb⟩ := bind_eq_some_iff.mp hb
      unfold submit
      dsimp only
      split
      next h =>
        simp only [Bool.and_eq_true, Bool.not_eq_true'] at h
        have hmark : Act w
            (w.setSlot r.inst ((w.slots r.inst).markSentUnknown r.attempt.windows)) :=
          .setSlot w r.inst (.same _)
        exact .head hmark (.single (.submit p { p with recovering := none, awaits := some w.jobs }
          ⟨r.inst, r.attempt, r.intent.windows, true, r.intent.startedAfter, b.login, false, .begin⟩
          hidle h.2 ⟨f, hf, by simp [hfb]⟩ rfl rfl (.inr ⟨r, hr, rfl, rfl⟩) (.inr rfl) rfl rfl rfl
          rfl (fun _ h => h) rfl rfl (fun _ => rfl) rfl rfl rfl rfl rfl))
      next =>
        have hnote : Act w (w.setPass { p with recovering := none }) :=
          .note hidle rfl rfl rfl rfl rfl (.inr rfl) rfl
        exact .head hnote (.single (.setSlot _ r.inst (.same _)))
    next => exact .refl
  next => exact .refl

theorem Act.roster_eq {w' : World} (h : Act w w') : w'.roster = w.roster := by
  cases h with
  | settle rest => exact rest.roster
  | claim p i a idle due free written hid hphase others seq workers pass roster => exact roster
  | submit p p' k idle accepted bound hpos unsent read recovering awaits recovery bindings
      persisted intents pass workers slots seq roster => exact roster
  | remove i why rest => exact rest.roster
  | refine p p' idle same | openPass recovery free same => rw [same]; rfl
  | release same => rw [same]
  | closePass same => rw [same]
  | cancel i same => rw [same]; rfl
  | activate i same => rw [same]
  | crash reads same => rw [same]; rfl

def rosterEvent : Event → Bool
  | .rebind _ _ | .enroll _ _ | .withdraw _ => true
  | _ => false

theorem step_rosterEvent {e : Event} (he : rosterEvent e = true) :
    ∃ roster, w.step e = { w with roster := roster } := by
  cases e with
  | rebind i b =>
    unfold step
    dsimp only
    split
    · exact ⟨_, rfl⟩
    · exact ⟨w.roster, rfl⟩
  | enroll i b | withdraw i => exact ⟨_, rfl⟩
  | _ => cases he

theorem acts_step (w : World) (e : Event) (hwork : ∀ n o, e ≠ .work n o)
    (hroster : rosterEvent e = false) : ReflTransGen Act w (w.step e) := by
  have hsettle : ∀ w' : World, SameRest w w' → w'.workers = w.workers →
      (∀ i, AttemptChange (w.slots i).attempt (w'.slots i).attempt) → ReflTransGen Act w w' :=
    fun w' rest workers slots => .single (.settle rest workers slots)
  cases e with
  | work n o => exact absurd rfl (hwork n o)
  | elapse time reads =>
    exact hsettle _ ⟨rfl, rfl, rfl, rfl, rfl, le_add_of_nonneg_right (Int.natCast_nonneg time)⟩ rfl
      fun _ => .same _
  | configure cfg => exact hsettle _ ⟨rfl, rfl, rfl, rfl, rfl, le_rfl⟩ rfl fun _ => .same _
  | openPass recovery =>
    unfold step
    dsimp only
    split
    next h =>
      simp only [Bool.and_eq_true] at h
      exact .single (.openPass recovery (isNone_iff_eq_none.mp h.1) rfl)
    next => exact .refl
  | readStore =>
    refine withPass_of .refl fun p hidle => ?_
    exact .single (.refine p _ hidle rfl (idlePass_eq_some hidle).2 rfl (.inl rfl) (.inr rfl)
      (fun _ h => .inl h) (fun _ h => .inl h) rfl)
  | readBindings =>
    refine withPass_of .refl fun p hidle => ?_
    exact .single (.refine p _ hidle rfl (idlePass_eq_some hidle).2 rfl (.inr rfl) (.inl rfl)
      (fun _ h => .inl h) (fun _ h => .inl h) rfl)
  | orphan i stored => exact acts_orphan
  | readControllers =>
    exact withPass_of .refl fun p hidle => .single (.note hidle rfl rfl rfl rfl rfl (.inl rfl) rfl)
  | due i => exact acts_due
  | claim stored submitted => exact acts_claim
  | readPrepared instances =>
    refine withPass_of .refl fun p hidle => ?_
    split
    · exact .single (.note hidle rfl rfl rfl rfl rfl (.inl rfl) rfl)
    · exact .refl
  | unprepare =>
    refine withPass_of .refl fun p hidle => ?_
    refine hsettle _ ⟨rfl, rfl, rfl, rfl, rfl, le_rfl⟩ rfl fun i => ?_
    dsimp only
    split <;> exact .same _
  | dropPrepared stored =>
    refine withPass_of .refl fun p hidle => ?_
    split
    · refine hsettle _ ⟨rfl, rfl, rfl, rfl, rfl, le_rfl⟩ rfl fun i => ?_
      dsimp only
      split
      · exact .dropPrepared _ _ stored
      · exact .same _
    · exact .refl
  | recoverChecked i stored => exact acts_recoverChecked
  | readAttempt i => exact acts_readAttempt
  | recover submitted => exact acts_recover
  | persistTouched stored =>
    refine withPass_of .refl fun p hidle => ?_
    split
    · exact hsettle _ ⟨rfl, rfl, rfl, rfl, rfl, le_rfl⟩ rfl (attemptChange_store _ _ _)
    · exact .refl
  | release => exact .single (.release rfl)
  | closePass => exact withPass_of .refl fun p _ => .single (.closePass rfl)
  | inherit n stored =>
    unfold step
    dsimp only
    split
    next k _ =>
      split
      next =>
        unfold inheritSentUnknown
        split
        next s hs => exact .single (.setSlot w k.inst (.persistProbeSentUnknown (t := s) hs))
        next => exact .refl
      next => exact .refl
    next => exact .refl
  | hold stored =>
    exact hsettle _ ⟨rfl, rfl, rfl, rfl, rfl, le_rfl⟩ rfl fun _ => .holdProbeForRoster _
  | confirm n bindings =>
    refine hsettle _ ⟨rfl, rfl, rfl, rfl, rfl, le_rfl⟩ rfl fun i => ?_
    unfold step confirm
    dsimp only
    split <;> exact .same _
  | readConfirmed n => exact hsettle _ ⟨rfl, rfl, rfl, rfl, rfl, le_rfl⟩ rfl fun _ => .same _
  | persistConfirmed n stored =>
    unfold step persistConfirmed
    dsimp only
    split
    · exact hsettle _ ⟨rfl, rfl, rfl, rfl, rfl, le_rfl⟩ rfl (attemptChange_store _ _ _)
    · exact .refl
  | bootstrap accounts capabilityA stored =>
    unfold step bootstrap
    dsimp only
    split
    · exact hsettle _ ⟨rfl, rfl, rfl, rfl, rfl, le_rfl⟩ rfl fun _ => .bootstrap _ _ _ _
    · exact .refl
  | observe i quota stored =>
    exact .single (.setSlot w i (.reconcileObservedProbeWindows _ _ _ _))
  | rebind i b | enroll i b | withdraw i => cases hroster
  | cancel i => exact .single (.cancel i rfl)
  | activate i => exact .single (.activate i rfl)
  | discard i stored =>
    unfold step
    dsimp only
    split
    next h =>
      simp only [Bool.and_eq_true] at h
      exact .single (.remove i (.inr ⟨isNone_iff_eq_none.mp h.1, h.2⟩) (.setSlot w i _) rfl
        remove_attempt fun j hj => setSlot_attempt_of_ne hj)
    next => exact .refl
  | crash reads => exact .single (.crash reads rfl)

end QuotaScheduler.ProbeMoves

/- What the client is told when no attempt of the retry chain has committed. -/

import QuotaScheduler.StreamIntegrity

namespace QuotaScheduler.RetryStream

open Lib.ByteStrings Lib.Runs RetryFrames FrameAssembler List

/-- An attempt is forwarded, or in shadow mode it was opened. -/
def Phase.committed : Phase → Bool
  | .flushing _ _ _ | .committing _ | .forwarding _ | .passing _ _ _ => true
  | .shadowLoop | .shadowReading | .shadowPassing _ _ => true
  | _ => false

def Event.errorText : Event → Option Bytes
  | .checked ctxErr _ => ctxErr
  | .emitted err => err
  | _ => none

/-- The payloads, fed to the classifier in order, show a failure of the upstream. -/
def ShowFailure (r : Request) (payloads : List Bytes) : Prop :=
  ∃ n verdict, feed r.classifier 0 [] payloads = some (n, verdict) ∧ verdict.disposition = .failure

def Reported (r : Request) (trace : List Act) : Prop :=
  (∃ message, message ≠ [] ∧ trace.getLast? = some (.closed message)) ∨
    ShowFailure r (emissions trace)

structure Blames (r : Request) (result : AttemptResult) : Prop where
  reason : trimSpace result.reason ≠ []
  shown : result.heldFailure = true → ShowFailure r result.held

/-- What a phase knows of the failures so far, and of the payloads it holds. -/
def Blamed (r : Request) (E : List Bytes) : Phase → Prop
  | .entering | .shadowOpening | .opening _ _ => E = []
  | .choosing attempt _ last => E = [] ∧ if attempt = 0 then last = {} else Blames r last
  | .holding h | .reading h => E = [] ∧ ∀ rest, ∃ n,
      feed r.classifier 0 [] (h.hold.payloads ++ rest) = feed r.classifier n h.pending rest
  | .failing payload rest result => Blames r result ∧ E ++ payload :: rest = result.held
  | _ => True

section Reasons

variable {r : Request} {s : Bytes} {c : RetryClassification} {held : List Bytes}

theorem trimSpace_ne_nil {b : UInt8} (hb : ∀ c ∈ spaces, b ∉ c) (h : b ∈ s) : trimSpace s ≠ [] :=
  ne_nil_of_mem (mem_trimSpace hb h)

theorem trimSpace_retryFailureText (raw : Bytes) : trimSpace (retryFailureText raw c) ≠ [] := by
  have htext : trimSpace (if (trimSpace raw).isEmpty then ascii "upstream failure"
      else trimSpace raw) ≠ [] := by
    split
    · decide +kernel
    · next h =>
      rw [trimSpace_trimSpace]
      exact fun hnil => h (hnil ▸ rfl)
  unfold retryFailureText
  dsimp only
  generalize (if (trimSpace raw).isEmpty then ascii "upstream failure" else trimSpace raw) = text
    at htext ⊢
  split_ifs
  · exact htext
  · exact htext
  · exact trimSpace_ne_nil (b := 41) (by decide +kernel)
      (mem_append_right _ (by decide +kernel))

theorem blames_failed : Blames r (failed c s held) :=
  ⟨trimSpace_retryFailureText s, fun h => by cases h⟩

theorem blames_openNestedStream {answer : OpenAnswer} {result : AttemptResult}
    (h : openNestedStream answer = some result) : Blames r result := by
  cases answer with
  | error e =>
    cases h
    exact blames_failed
  | undecodable text =>
    cases h
    exact ⟨trimSpace_ne_nil (b := 100) (by decide +kernel)
      (mem_append_left _ (by decide +kernel)), fun h => by cases h⟩
  | response status streamID =>
    simp only [openNestedStream] at h
    split at h
    · cases h
      refine ⟨trimSpace_ne_nil (b := 117) (by decide +kernel) ?_, fun h => by cases h⟩
      rw [ascii, String.toList_append, map_append]
      exact mem_append_left _ (by decide +kernel)
    · split at h
      · cases h
        exact ⟨by decide +kernel, fun h => by cases h⟩
      · cases h

end Reasons

section Steps

variable {r : Request} {w v : Chain} {e : Event} {p : Phase} {result : AttemptResult} {text : Bytes}

theorem emissions_close (w : Chain) (message : Bytes) (normal : Option Nat) :
    emissions (w.close message normal).trace = emissions w.trace :=
  (emissions_append _ _).trans (append_nil _)

theorem reported_close {message : Bytes} {normal : Option Nat} :
    Reported r (w.close message normal).trace ↔
      trimSpace message ≠ [] ∨ ShowFailure r (emissions w.trace) := by
  rw [Reported, emissions_close, Chain.close, getLast?_concat]
  simp

def Tells (r : Request) (v : Chain) : Prop :=
  Blamed r (emissions v.trace) v.phase ∧ (v.phase.returned = true → Reported r v.trace)

theorem tells_finishFailedAttempt {rest : List Bytes} (flushed : Bool) (h : Blames r result)
    (hheld : emissions w.trace ++ rest = result.held) :
    Tells r (w.finishFailedAttempt rest flushed result) := by
  cases rest with
  | nil =>
    rw [append_nil] at hheld
    refine ⟨trivial, fun _ => reported_close.mpr ?_⟩
    split
    · next hshown =>
      rw [hheld]
      exact .inr (h.shown (Bool.and_eq_true_iff.mp hshown).2)
    · exact .inl h.reason
  | cons payload rest => exact ⟨⟨h, hheld⟩, nofun⟩

variable {attempt : Nat}

theorem tells_conclude {deadline : Time} (hE : emissions w.trace = []) (h : Blames r result) :
    Tells r (w.conclude attempt deadline result) := by
  unfold Chain.conclude
  split
  · refine ⟨⟨hE, ?_⟩, nofun⟩
    exact h
  · refine tells_finishFailedAttempt false h ?_
    rw [hE]
    rfl

theorem tells_forwardCommitted {rest : List Bytes} : Tells r (w.forwardCommitted attempt rest) := by
  cases rest <;> exact ⟨trivial, nofun⟩

theorem tells_heldChunk {h : Holding} {c : Chunk} (hE : emissions w.trace = [])
    (hfeed : ∀ rest, ∃ n,
      feed r.classifier 0 [] (h.hold.payloads ++ rest) = feed r.classifier n h.pending rest) :
    Tells r (Chain.heldChunk r w h c) := by
  unfold Chain.heldChunk
  split
  · exact tells_conclude hE blames_failed
  · split
    · dsimp only
      split
      · next pending verdict habsorb =>
        split
        · next hfailure =>
          refine tells_conclude hE ⟨trimSpace_retryFailureText _, fun _ => ?_⟩
          obtain ⟨n, hn⟩ := hfeed [c.payload]
          exact ⟨n + c.payload.length, verdict, hn.trans (by simp only [feed, habsorb]), hfailure⟩
        · exact tells_forwardCommitted
      · next pending habsorb =>
        split
        · exact tells_forwardCommitted
        · refine ⟨⟨hE, fun rest => ?_⟩, Bool.noConfusion⟩
          obtain ⟨n, hn⟩ := hfeed (c.payload :: rest)
          refine ⟨n + c.payload.length, ?_⟩
          rw [RetryHoldBuffer.add, append_assoc, singleton_append, hn]
          simp only [feed, habsorb]
    · split
      · exact tells_forwardCommitted
      · exact ⟨⟨hE, hfeed⟩, Bool.noConfusion⟩

/-- The first attempt is started, and a failing check or emission has a text. -/
structure Answered (r : Request) (w : Chain) (e : Event) : Prop where
  started : ∀ deadline last now, w.phase = .choosing 0 deadline last → e = .next now →
    0 < r.plan.targetCount ∧ r.plan.target 0 ≠ none ∧ 0 < deadline - now
  text : ∀ text, e.errorText = some text → trimSpace text ≠ []

def Told (r : Request) (w : Chain) (e : Event) (v : Chain) : Prop :=
  Blamed r (emissions v.trace) v.phase ∧ (v.phase.returned = true → w.phase.returned = false →
    w.phase.committed = false → Answered r w e → Reported r v.trace)

theorem Tells.told (h : Tells r v) : Told r w e v := ⟨h.1, fun hreturned _ _ _ => h.2 hreturned⟩

theorem told_of_error {normal : Option Nat} (he : e.errorText = some text) :
    Told r w e (v.close text normal) :=
  ⟨trivial, fun _ _ _ hanswered => reported_close.mpr (.inl (hanswered.text text he))⟩

theorem told_of_committed (hphase : w.phase = p) (hp : p.committed = true)
    (hv : (v.phase.committed || v.phase.returned) = true) : Told r w e v := by
  refine ⟨?_, fun _ _ huncommitted => ?_⟩
  · cases hlater : v.phase <;> rw [hlater] at hv <;> trivial
  · rw [hphase, hp] at huncommitted
    cases huncommitted

open Tells

theorem told_step (e : Event) (h : Blamed r (emissions w.trace) w.phase) :
    Told r w e (step r w e) := by
  have hkeep : Told r w e w :=
    ⟨h, fun hreturned hopen => absurd (hopen.symm.trans hreturned) Bool.false_ne_true⟩
  cases e with
  | begin now =>
    simp only [step, Chain.begin]
    split
    · next hphase =>
      rw [hphase] at h
      refine told ?_
      split
      · exact ⟨trivial, fun _ => reported_close.mpr (.inl (by decide +kernel))⟩
      · split
        · exact ⟨emissions_opened.trans h, Bool.noConfusion⟩
        · exact ⟨⟨h, rfl⟩, Bool.noConfusion⟩
    · exact hkeep
  | next now =>
    simp only [step, Chain.next]
    split
    · next attempt deadline last hphase =>
      rw [hphase] at h
      obtain ⟨hE, hlast⟩ := h
      split
      · next hover =>
        by_cases hfirst : attempt = 0
        · -- the record of the last attempt is still empty
          subst hfirst hlast
          refine ⟨trivial, fun _ _ _ hanswered => ?_⟩
          obtain ⟨hcount, htarget, htime⟩ := hanswered.started deadline {} now hphase rfl
          rcases hover with h | h | h
          · exact absurd h hcount.not_ge
          · exact absurd h htarget
          · exact absurd h htime.not_ge
        · rw [if_neg hfirst] at hlast
          refine (tells_finishFailedAttempt false hlast ?_).told
          rw [hE]
          rfl
      · exact ⟨emissions_opened.trans hE, Bool.noConfusion⟩
    · exact hkeep
  | opened answer now =>
    simp only [step, Chain.opened]
    split
    · next attempt deadline hphase =>
      rw [hphase] at h
      refine told ?_
      split
      · next result hresult => exact tells_conclude h (blames_openNestedStream hresult)
      · exact ⟨⟨h, fun rest => ⟨0, rfl⟩⟩, Bool.noConfusion⟩
    · next hphase =>
      refine told ?_
      split
      · next result hresult =>
        have hblames : Blames r result := blames_openNestedStream hresult
        exact ⟨trivial, fun _ => reported_close.mpr (.inl hblames.reason)⟩
      · exact ⟨trivial, Bool.noConfusion⟩
    · exact hkeep
  | checked ctxErr now =>
    simp only [step, Chain.checked]
    split
    · next held hphase =>
      rw [hphase] at h
      cases ctxErr with
      | some text => exact told_of_error rfl
      | none =>
        dsimp only
        split
        · exact tells_forwardCommitted.told
        · exact ⟨h, Bool.noConfusion⟩
    · next hphase => cases ctxErr <;> exact told_of_committed hphase rfl rfl
    · next hphase => cases ctxErr <;> exact told_of_committed hphase rfl rfl
    · exact hkeep
  | read answer =>
    simp only [step, Chain.read]
    split
    · next held hphase =>
      rw [hphase] at h
      refine told ?_
      cases answer with
      | error e => exact tells_conclude h.1 blames_failed
      | chunk c => exact tells_heldChunk ((emissions_deliver _ _ _).trans h.1) h.2
    · next hphase =>
      refine told_of_committed hphase rfl ?_
      cases answer with
      | error e => rfl
      | chunk c =>
        simp only [Chain.forwardedChunk]
        split_ifs <;> rfl
    · next hphase =>
      refine told_of_committed hphase rfl ?_
      cases answer with
      | error e => rfl
      | chunk c =>
        simp only [Chain.shadowChunk]
        split_ifs <;> rfl
    · exact hkeep
  | timedOut =>
    simp only [step, Chain.timedOut]
    split
    · next held hphase =>
      rw [hphase] at h
      refine told ?_
      split
      · exact tells_conclude h.1 ⟨trimSpace_ne_nil (b := 117) (by decide +kernel)
          (mem_append_left _ (mem_append_left _ (by decide +kernel))), Bool.noConfusion⟩
      · exact tells_forwardCommitted
    · next hphase =>
      split
      · exact told_of_committed hphase rfl rfl
      · exact hkeep
    · exact hkeep
  | emitted err =>
    simp only [step, Chain.emitted]
    split
    · next attempt payload rest hphase =>
      cases err with
      | some text => exact told_of_committed hphase rfl rfl
      | none => exact told_of_committed hphase rfl (by cases rest <;> rfl)
    · next hphase =>
      refine told_of_committed hphase rfl ?_
      cases err with
      | some text => rfl
      | none => dsimp only; split <;> rfl
    · next payload rest result hphase =>
      rw [hphase] at h
      cases err with
      | some text => exact told_of_error rfl
      | none =>
        refine (tells_finishFailedAttempt true h.1 ?_).told
        rw [emissions_emit, append_assoc]
        exact h.2
    · next hphase =>
      refine told_of_committed hphase rfl ?_
      cases err with
      | some text => rfl
      | none => dsimp only; split <;> rfl
    · exact hkeep
  | late attempt answer =>
    simp only [step, Chain.late]
    split
    · cases answer with
      | error e => exact hkeep
      | chunk c =>
        refine ⟨?_, fun hreturned hopen => ?_⟩
        · rw [emissions_deliver, phase_deliver]
          exact h
        · rw [phase_deliver] at hreturned
          exact absurd (hopen.symm.trans hreturned) Bool.false_ne_true
    · exact hkeep

end Steps

theorem failure_reported (r : Request) (events : Nat → Event) (k : Nat)
    (hopen : (stateAt (step r) {} events k).phase.returned = false)
    (huncommitted : (stateAt (step r) {} events k).phase.committed = false)
    (hclosed : (stateAt (step r) {} events (k + 1)).phase.returned = true)
    (hanswered : Answered r (stateAt (step r) {} events k) (events k)) :
    Reported r (stateAt (step r) {} events (k + 1)).trace := by
  have hstart : Blamed r (emissions ({} : Chain).trace) ({} : Chain).phase := rfl
  have hblamed : Blamed r (emissions (stateAt (step r) {} events k).trace)
      (stateAt (step r) {} events k).phase :=
    invariant_stateAt (P := fun w : Chain => Blamed r (emissions w.trace) w.phase) hstart
      (fun _ e h => (told_step e h).1) k
  exact (told_step (events k) hblamed).2 hclosed hopen huncommitted hanswered

/-- The deadline passes before the first attempt: the stream is closed with no text. -/
theorem deadline_closes_silently :
    (stateAt (step request) {} (script idle [.begin 0, .next 240]) 2).trace = [.closed []] ∧
      ¬Reported request (stateAt (step request) {} (script idle [.begin 0, .next 240])
        2).trace := by
  have htrace : (stateAt (step request) {} (script idle [.begin 0, .next 240]) 2).trace =
      [.closed []] := by
    decide +kernel
  refine ⟨htrace, ?_⟩
  rintro (⟨message, hne, hlast⟩ | ⟨n, verdict, hfeed, -⟩)
  · cases hlast
    exact hne rfl
  · cases hfeed

def refused : List Event :=
  [.begin 0, .next 0, .opened (.error { status := 401, text := ascii "unauthorized" }) 1]

theorem failure_reported_refused :
    Reported request (stateAt (step request) {} (script idle refused) 3).trace := by
  refine failure_reported request (script idle refused) 2 ?_ ?_ ?_ ⟨?_, ?_⟩
  · decide +kernel
  · decide +kernel
  · decide +kernel
  · intro deadline last now hphase
    cases hphase
  · intro text htext
    cases htext

end QuotaScheduler.RetryStream

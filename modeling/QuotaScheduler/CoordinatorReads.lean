/- Which step opens an entry of the typed reads, and which gives it its future. -/

import QuotaScheduler.CoordinatorCalls

namespace QuotaScheduler.CoordinatorReads

open Coordinator hiding Event
open Coordinator.LoopState CoordinatorSystem CoordinatorSystem.World CoordinatorWorkers
open CoordinatorCalls Lib.Runs List Option Function World

def typedRequest (w : World) : Option Request :=
  w.lifecycle.bind fun l => if l.request.typed then some l.request else none

/-- The entry keeps its future, is not live again, and leaves the table only when done. -/
structure Keeps (w w' : World) (n : Nat) : Prop where
  future : (w'.entries n).future = (w.entries n).future
  done : (w'.entries n).done = false → (w.entries n).done = false
  reads : ∀ i, n ∈ w'.typedReads i → n ∈ w.typedReads i
  kept : ∀ i, n ∈ w.typedReads i → (w'.entries n).done = false → n ∈ w'.typedReads i

inductive ReadMove (w : World) (e : Event) (w' : World) : Prop
  | quiet (typed : w'.typed = w.typed) (keeps : ∀ n, Keeps w w' n)
      (nonce : w.typedNonce ≤ w'.typedNonce) (request : typedRequest w' = typedRequest w)
  | opened (t : TypedCall) (free : w.typed = none) (typed : w'.typed = some t)
      (fresh : t.entry = w.typedNonce + 1) (unsent : t.submitted = false) (open_ : t.reply = none)
      (keeps : ∀ n, n ≠ t.entry → Keeps w w' n)
      (reads : ∀ i, w'.typedReads i ⊆ w.typedReads i) (nonce : w'.typedNonce = t.entry)
      (request : typedRequest w' = typedRequest w)
  | turnedAway (t : TypedCall) (event : e = .submitTyped) (closing : w.closing = true)
      (waits : w.typed = some t) (unsent : t.submitted = false)
      (typed : w'.typed = some { t with submitted := true, reply := some none })
      (same : w'.entries = w.entries ∧ w'.typedReads = w.typedReads ∧
        w'.typedNonce = w.typedNonce ∧ w'.lifecycle = w.lifecycle)
  | submitted (t : TypedCall) (waits : w.typed = some t) (unsent : t.submitted = false)
      (typed : w'.typed = some { t with submitted := true })
      (free : w.lifecycle = none)
      (lifecycle : w'.lifecycle = some { request := .submit t.intent (some t.entry) })
      (same : w'.entries = w.entries ∧ w'.typedReads = w.typedReads ∧ w'.typedNonce = w.typedNonce)
  | replied (l : LifecycleCall) (intent : Intent) (n : Nat) (f : Option Nat)
      (waits : w.lifecycle = some l) (request : l.request = .submit intent (some n))
      (reply : l.reply = some f) (lifecycle : w'.lifecycle = none)
      (typed : w'.typed = w.typed.map fun t => if t.entry = n then { t with reply := some f }
        else t)
      (same : w'.entries = w.entries ∧ w'.typedReads = w.typedReads ∧ w'.typedNonce = w.typedNonce)
  | registered (t : TypedCall) (f : Option Nat) (waits : w.typed = some t)
      (reply : t.reply = some f)
      (typed : w'.typed = none)
      (entries : w'.entries =
        Function.update w.entries t.entry { w.entries t.entry with future := f })
      (reads : w'.typedReads = Function.update w.typedReads t.intent.inst
        (w.typedReads t.intent.inst ++ [t.entry]))
      (same : w'.typedNonce = w.typedNonce ∧ w'.lifecycle = w.lifecycle)

variable {w : World}

theorem ReadMove.frame {w' : World} {e : Event} (typed : w'.typed = w.typed)
    (entries : w'.entries = w.entries) (reads : w'.typedReads = w.typedReads)
    (nonce : w.typedNonce ≤ w'.typedNonce) (request : typedRequest w' = typedRequest w) :
    ReadMove w e w' :=
  .quiet typed (fun _ => ⟨by rw [entries], by rw [entries]; exact id,
    by rw [reads]; exact fun _ => id,
    by rw [reads]; exact fun _ hn _ => hn⟩) nonce request

theorem pruned_subset (inst i : AuthInstanceID) :
    update w.typedReads inst (w.liveReads inst) i ⊆ w.typedReads i := by
  by_cases hi : i = inst
  · subst hi
    rw [update_self]
    exact filter_subset_self _
  · rw [update_of_ne hi]
    exact fun _ => id

theorem mem_pruned {inst i : AuthInstanceID} {n : Nat} (hn : n ∈ w.typedReads i)
    (hlive : (w.entries n).done = false) :
    n ∈ update w.typedReads inst (w.liveReads inst) i := by
  by_cases hi : i = inst
  · subst hi
    rw [update_self]
    exact mem_filter.2 ⟨hn, by rw [hlive]; rfl⟩
  · rwa [update_of_ne hi]

theorem Keeps.of_pruned {w' : World} {inst : AuthInstanceID} {n : Nat}
    (hreads : w'.typedReads = update w.typedReads inst (w.liveReads inst))
    (hentry : (w'.entries n).future = (w.entries n).future ∧
      (w'.entries n).done = (w.entries n).done) : Keeps w w' n where
  future := hentry.1
  done hd := hentry.2 ▸ hd
  reads i hn := pruned_subset inst i (by rwa [hreads] at hn)
  kept i hn hd := by
    rw [hreads]
    exact mem_pruned hn (hentry.2 ▸ hd)

theorem keeps_joined (intent : Intent) (n m : Nat) :
    Keeps w (setEntry { w with
      typedReads := update w.typedReads intent.inst (w.liveReads intent.inst) } n
      fun entry => if intent.cls = .probeVerify ∧ entry.attemptID = "" then
        { entry with attemptID := intent.attemptID } else entry) m := by
  refine .of_pruned rfl ?_
  by_cases hm : m = n
  · subst hm
    simp only [setEntry, update_self]
    split <;> exact ⟨rfl, rfl⟩
  · simp only [setEntry, update_of_ne hm, and_self]

theorem keeps_cleared (w : World) (instances : List AuthInstanceID) (n : Nat) :
    Keeps w { w with
      clears := w.clears.erase instances
      entries := fun n =>
        if instances.any fun i => (w.typedReads i).contains n then
          { w.entries n with done := true }
        else w.entries n
      typedReads := fun i => if i ∈ instances then [] else w.typedReads i } n := by
  refine ⟨?_, ?_, fun i hn => ?_, fun i hn hd => ?_⟩
  · dsimp only
    split <;> rfl
  · dsimp only
    split
    · exact fun hd => by cases hd
    · exact id
  · dsimp only at hn
    split at hn
    · cases hn
    · exact hn
  · -- an entry of a cancelled instance is done now
    dsimp only at hd ⊢
    split at hd
    · cases hd
    · next hout =>
      have hi : i ∉ instances := by
        intro hi
        exact hout (List.any_eq_true.2 ⟨i, hi, by simpa using hn⟩)
      rwa [if_neg hi]

theorem typedRequest_answer (f : Option Nat) : typedRequest (w.answer f) = typedRequest w := by
  cases hl : w.lifecycle <;> simp [typedRequest, answer, hl]

theorem typedRequest_handle (w : World) (answers : Answers) (c : Command) :
    typedRequest (w.handle answers c) = typedRequest w := by
  have hlaunch := launch_field typedRequest (by intros; rfl)
  cases c with
  | request q =>
    cases q with
    | submit intent entry => exact (hlaunch _ _ _).trans (typedRequest_answer _)
    | _ => exact typedRequest_answer _
  | expire j | result j r => exact hlaunch _ _ _
  | logCallback j r fails | drain => rfl

theorem typedNonce_le_handle (w : World) (answers : Answers) (c : Command) :
    w.typedNonce ≤ (w.handle answers c).typedNonce := by
  have hlaunch := launch_field typedNonce (by intros; rfl)
  cases c with
  | request q =>
    cases q with
    | submit intent entry =>
      refine le_of_le_of_eq ?_ (hlaunch _ _ _).symm
      change w.typedNonce ≤ nonceOf w intent
      unfold nonceOf
      split
      · exact Nat.le_succ _
      · exact le_rfl
    | _ => exact le_rfl
  | expire j | result j r =>
    refine le_of_le_of_eq ?_ (hlaunch _ _ _).symm
    exact le_rfl
  | logCallback j r fails | drain => exact le_rfl

theorem keeps_worker (w : World) (n j : Nat) (p : WorkerPhase) {f : ReadEntry → ReadEntry}
    (hf : ∀ entry, (f entry).future = entry.future ∧ ((f entry).done = false → entry.done = false))
    (m : Nat) : Keeps w ((w.setEntry n f).setPhase j p) m := by
  refine ⟨?_, ?_, fun _ => id, fun _ hm _ => hm⟩
  · by_cases hm : m = n
    · subst hm
      simp only [setPhase, setEntry, update_self, hf]
    · simp only [setPhase, setEntry, update_of_ne hm]
  · by_cases hm : m = n
    · subst hm
      simp only [setPhase, setEntry, update_self]
      exact (hf _).2
    · simp only [setPhase, setEntry, update_of_ne hm]
      exact id

theorem readMove_callReturn {l : LifecycleCall} {f : Option Nat} {e : Event}
    (hl : w.lifecycle = some l) (hf : l.reply = some f) : ReadMove w e w.callReturn := by
  simp only [callReturn, hl, hf]
  split
  · next intent n hreq => exact .replied l intent n f hl hreq hf rfl rfl ⟨rfl, rfl, rfl⟩
  · next instances hreq =>
    exact .frame rfl rfl rfl le_rfl (by simp [typedRequest, hl, hreq, Request.typed])
  · next hsubmit hcancel =>
    refine .frame rfl rfl rfl le_rfl ?_
    cases hreq : l.request with
    | submit intent entry =>
      cases entry with
      | none => simp [typedRequest, hl, hreq, Request.typed]
      | some n => exact absurd hreq (hsubmit intent n)
    | _ => simp [typedRequest, hl, hreq, Request.typed]

theorem readMove_of_branch {w' : World} {e : Event} (h : Branch w e w') : ReadMove w e w' := by
  cases h with
  | called e q plain free => exact .frame rfl rfl rfl le_rfl (by simp [typedRequest, free, plain])
  | joined intent n => exact .quiet rfl (keeps_joined intent n) le_rfl rfl
  | opened intent free =>
    refine .opened _ free rfl rfl rfl rfl (fun m hm => ?_) (pruned_subset intent.inst) rfl rfl
    refine .of_pruned rfl ?_
    simp only [update_of_ne hm, and_self]
  | numbered => exact .frame rfl rfl rfl (Nat.le_succ _) rfl
  | numberedCall e q plain free =>
    exact .frame rfl rfl rfl (Nat.le_succ _) (by simp [typedRequest, free, plain])
  | turnedAway t waits unsent closing =>
    exact .turnedAway t rfl closing waits unsent rfl ⟨rfl, rfl, rfl, rfl⟩
  | submitted t waits unsent free => exact .submitted t waits unsent rfl free rfl ⟨rfl, rfl, rfl⟩
  | sent l waits unsent room => exact .frame rfl rfl rfl le_rfl (by simp [typedRequest, waits])
  | returned l f waits replied => exact readMove_callReturn waits replied
  | registered t f waits replied => exact .registered t f waits replied rfl rfl rfl ⟨rfl, rfl⟩
  | cleared instances free mem => exact .quiet rfl (keeps_cleared w instances) le_rfl rfl
  | take answers c rest =>
    have hfield := fun {α : Type} (f : World → α) hf =>
      handle_field f hf { w with channel := rest } answers c
    exact .frame (hfield typed (by intros; rfl)) (hfield entries (by intros; rfl))
      (hfield typedReads (by intros; rfl))
      (typedNonce_le_handle { w with channel := rest } answers c)
      (typedRequest_handle { w with channel := rest } answers c)
  | allocates j n seq => exact .quiet rfl (keeps_worker w n j _ fun _ => ⟨rfl, id⟩) le_rfl rfl
  | finishesRead j r n =>
    exact .quiet rfl (keeps_worker w n j _ fun _ => ⟨rfl, fun hd => by cases hd⟩) le_rfl rfl
  | _ => exact .frame rfl rfl rfl le_rfl rfl

theorem readMove_step (w : World) (e : Event) : ReadMove w e (w.step e) :=
  readMove_of_branch branch_step

/-- The table's entries are numbered; the open `SubmitTyped` has none and waits for its own
submission. -/
structure Registered (w : World) : Prop where
  numbered : ∀ i, ∀ n ∈ w.typedReads i, n ≤ w.typedNonce
  open_ : ∀ t, w.typed = some t → t.entry ≤ w.typedNonce ∧ (∀ i, t.entry ∉ w.typedReads i) ∧
    (t.submitted = false → t.reply = none)
  own : ∀ intent n, typedRequest w = some (.submit intent (some n)) →
    ∃ t, w.typed = some t ∧ t.entry = n ∧ t.intent = intent ∧ t.submitted = true ∧ t.reply = none

theorem typedRequest_submit {l : LifecycleCall} {intent : Intent} {n : Nat}
    (hl : w.lifecycle = some l) (hreq : l.request = .submit intent (some n)) :
    typedRequest w = some (.submit intent (some n)) := by
  simp [typedRequest, hl, hreq, Request.typed]

theorem Registered.move {w' : World} {e : Event} (h : Registered w) (hmove : ReadMove w e w') :
    Registered w' := by
  cases hmove with
  | quiet typed keeps nonce request =>
    refine ⟨fun i n hn => (h.numbered i n ((keeps n).reads i hn)).trans nonce, fun t ht => ?_, ?_⟩
    · rw [typed] at ht
      obtain ⟨hle, hout, hunsent⟩ := h.open_ t ht
      exact ⟨hle.trans nonce, fun i hn => hout i ((keeps _).reads i hn), hunsent⟩
    · rw [request, typed]
      exact h.own
  | opened t free typed fresh unsent open_ keeps reads nonce request =>
    have hnew : ∀ i, ∀ n ∈ w.typedReads i, n < t.entry := fun i n hn => by
      rw [fresh]
      exact Nat.lt_succ_of_le (h.numbered i n hn)
    refine ⟨fun i n hn => ?_, fun t' ht => ?_, fun intent n hreq => ?_⟩
    · rw [nonce]
      exact (hnew i n (reads i hn)).le
    · rw [typed, some.injEq] at ht
      subst ht
      exact ⟨nonce.symm.le, fun i hn => (hnew i _ (reads i hn)).ne rfl, fun _ => open_⟩
    · rw [request] at hreq
      obtain ⟨t', ht', -⟩ := h.own intent n hreq
      rw [free] at ht'
      cases ht'
  | turnedAway t event closing waits unsent typed same =>
    obtain ⟨-, hreads, hnonce, hcall⟩ := same
    refine ⟨by rw [hreads, hnonce]; exact h.numbered, fun t' ht => ?_, fun intent n hreq => ?_⟩
    · rw [typed, some.injEq] at ht
      rw [hreads, hnonce, ← ht]
      exact ⟨(h.open_ t waits).1, (h.open_ t waits).2.1, fun hs => by cases hs⟩
    · rw [typedRequest, hcall] at hreq
      obtain ⟨t', ht', -, -, hs, -⟩ := h.own intent n hreq
      rw [waits, some.injEq] at ht'
      rw [← ht', unsent] at hs
      cases hs
  | submitted t waits unsent typed free lifecycle same =>
    obtain ⟨-, hreads, hnonce⟩ := same
    obtain ⟨hle, hout, hunsent⟩ := h.open_ t waits
    refine ⟨by rw [hreads, hnonce]; exact h.numbered, fun t' ht => ?_, fun intent n hreq => ?_⟩
    · rw [typed, some.injEq] at ht
      rw [hreads, hnonce, ← ht]
      exact ⟨hle, hout, fun hs => by cases hs⟩
    · rw [typedRequest_submit lifecycle rfl, some.injEq, Request.submit.injEq,
        some.injEq] at hreq
      exact ⟨_, typed, hreq.2, hreq.1, rfl, hunsent unsent⟩
  | replied l intent n f waits request reply lifecycle typed same =>
    obtain ⟨-, hreads, hnonce⟩ := same
    obtain ⟨t, ht, hn, -, hs, -⟩ := h.own intent n (typedRequest_submit waits request)
    rw [ht, map_some, if_pos hn] at typed
    refine ⟨by rw [hreads, hnonce]; exact h.numbered, fun t' ht' => ?_, fun intent n hreq => ?_⟩
    · rw [typed, some.injEq] at ht'
      obtain ⟨hle, hout, -⟩ := h.open_ t ht
      rw [hreads, hnonce, ← ht']
      exact ⟨hle, hout, fun hs' => by rw [hs] at hs'; cases hs'⟩
    · rw [typedRequest, lifecycle] at hreq
      cases hreq
  | registered t f waits reply typed entries reads same =>
    obtain ⟨hnonce, hcall⟩ := same
    obtain ⟨hle, -⟩ := h.open_ t waits
    refine ⟨fun i n hn => ?_, fun t' ht => ?_, fun intent n hreq => ?_⟩
    · rw [reads] at hn
      rw [hnonce]
      by_cases hi : i = t.intent.inst
      · subst hi
        rw [update_self, mem_append, mem_singleton] at hn
        rcases hn with hn | rfl
        · exact h.numbered _ n hn
        · exact hle
      · rw [update_of_ne hi] at hn
        exact h.numbered i n hn
    · rw [typed] at ht
      cases ht
    · rw [typedRequest, hcall] at hreq
      obtain ⟨t', ht', -, -, -, hr⟩ := h.own intent n hreq
      rw [waits, some.injEq] at ht'
      rw [← ht', reply] at hr
      cases hr

variable {unused : Job}

theorem registered_initial : Registered (initial unused) where
  numbered i n hn := by cases hn
  open_ t ht := by cases ht
  own intent n hreq := by cases hreq

variable {events : Nat → Event}

theorem registered_worldAt (k : Nat) : Registered (worldAt unused events k) :=
  invariant_stateAt registered_initial (fun w e h => .move h (readMove_step w e)) k

end QuotaScheduler.CoordinatorReads

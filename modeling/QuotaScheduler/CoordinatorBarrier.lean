/- What a cancel of an instance keeps out, and which command lets it in again. -/

import QuotaScheduler.CoordinatorReads

namespace QuotaScheduler.CoordinatorBarrier

open List Option Function
open Coordinator hiding Event
open Coordinator.LoopState CoordinatorBooks CoordinatorMoves CoordinatorSystem
open CoordinatorSystem.World CoordinatorWorkers CoordinatorCalls CoordinatorReads LoopState

def Vacated (s : LoopState) (i : AuthInstanceID) : Prop :=
  ∀ j, InFlight s j → (s.jobs j).intent.inst ≠ i

theorem marks_cancelInstance (s : LoopState) (i : AuthInstanceID) : marks (s.cancelInstance i) =
      (s.instanceGeneration, update s.cancelledThrough i (some (s.instanceGeneration i)),
        update s.cancelTokens i (s.cancelNonce + 1), s.cancelNonce + 1) := by
  unfold cancelInstance cancelLease
  dsimp only
  split <;> rfl

def issueTokens (nonce : Nat) (tokens : AuthInstanceID → Nat) :
    List AuthInstanceID → AuthInstanceID → Nat
  | [] => tokens
  | i :: instances =>
    issueTokens (nonce + 1) (Function.update tokens i (nonce + 1)) instances

def issuedTokens (nonce : Nat) (instances : List AuthInstanceID) : AuthInstanceID → Nat :=
  issueTokens nonce (fun _ => 0) instances

variable {instances : List AuthInstanceID} {i : AuthInstanceID} {s : LoopState} {g token : Nat}
  {w : World} {e : Event}

theorem issueTokens_of_notMem {nonce : Nat} {tokens : AuthInstanceID → Nat} (hi : i ∉ instances) :
    issueTokens nonce tokens instances i = tokens i := by
  induction instances generalizing nonce tokens with
  | nil => rfl
  | cons m instances ih =>
    rw [mem_cons, not_or] at hi
    rw [issueTokens, ih hi.2, update_of_ne hi.1]

theorem issueTokens_of_mem (nonce : Nat) (tokens : AuthInstanceID → Nat) (hi : i ∈ instances) :
    issueTokens nonce tokens instances i = issuedTokens nonce instances i ∧
      nonce < issueTokens nonce tokens instances i ∧
      issueTokens nonce tokens instances i ≤ nonce + instances.length := by
  unfold issuedTokens
  generalize (fun _ => 0 : AuthInstanceID → Nat) = tokens'
  induction instances generalizing nonce tokens tokens' with
  | nil => cases hi
  | cons m instances ih =>
    simp only [issueTokens, length_cons]
    by_cases hmem : i ∈ instances
    · obtain ⟨heq, hlt, hle⟩ := ih (nonce + 1)
        (update tokens m (nonce + 1)) hmem (update tokens' m (nonce + 1))
      exact ⟨heq, by omega, by omega⟩
    · obtain rfl : i = m := (mem_cons.1 hi).resolve_right hmem
      rw [issueTokens_of_notMem hmem, issueTokens_of_notMem hmem]
      simp only [update_self, true_and]
      omega

theorem marks_cancel (instances : List AuthInstanceID) (s : LoopState) :
    marks (s.cancel instances) = (s.instanceGeneration,
        fun i => if i ∈ instances then some (s.instanceGeneration i) else s.cancelledThrough i,
        issueTokens s.cancelNonce s.cancelTokens instances,
        s.cancelNonce + instances.length) := by
  have hdrains : ∀ t : LoopState, marks t.finishDrains = marks t := by
    intro t
    unfold finishDrains
    split <;> rfl
  rw [cancel, hdrains]
  induction instances generalizing s with
  | nil => simp [marks, issueTokens]
  | cons m instances ih =>
    have hmarks := marks_cancelInstance s m
    simp only [marks, Prod.mk.injEq] at hmarks
    obtain ⟨hgen, hthrough, htokens, hnonce⟩ := hmarks
    rw [foldl_cons, ih, hgen, hthrough, htokens, hnonce]
    refine Prod.ext rfl (Prod.ext ?_ (Prod.ext rfl ?_))
    · funext i
      by_cases hi : i ∈ instances
      · simp [hi]
      · by_cases him : i = m
        · subst him
          simp
        · simp [hi, him]
    · simp only [length_cons]
      omega

theorem vacated_cancel (h : Books s) (hi : i ∈ instances) : Vacated (s.cancel instances) i := by
  intro j hj
  have hfollows : Follows s (s.cancel instances) := follows_step h (.cancel instances)
  have hlt := hfollows.books.bounded j hj
  rw [show (s.cancel instances).nextJob = s.nextJob from
    nextJob_step (e := .cancel instances) fun _ _ h => by cases h] at hlt
  have hin := inFlight_of_follows h hfollows hlt hj
  rw [(hfollows.grows.jobs j hlt).intent]
  rintro rfl
  exact (inFlight_cancel h hin).1.1 hj hi

def top (i : AuthInstanceID) : List (AuthInstanceID × Nat) → Nat
  | [] => 0
  | x :: generations => if x.1 = i then max x.2 (top i generations) else top i generations

theorem le_top {generations : List (AuthInstanceID × Nat)} (h : (i, g) ∈ generations) :
    g ≤ top i generations := by
  induction generations with
  | nil => cases h
  | cons x generations ih =>
    rw [top]
    rcases mem_cons.1 h with rfl | h
    · rw [if_pos rfl]
      exact le_max_left _ _
    · split
      · exact (ih h).trans (le_max_right _ _)
      · exact ih h

theorem generation_activateInstance (x : AuthInstanceID × Nat) :
    (s.activateInstance x).instanceGeneration =
      update s.instanceGeneration x.1 (max (s.instanceGeneration x.1) x.2) := by
  unfold activateInstance
  dsimp only
  split <;> rfl

variable {generations : List (AuthInstanceID × Nat)}

theorem generation_activate : (s.activate generations).instanceGeneration i =
      max (s.instanceGeneration i) (top i generations) := by
  unfold activate
  induction generations generalizing s with
  | nil => simp [top]
  | cons x generations ih =>
    rw [foldl_cons, ih, generation_activateInstance]
    by_cases hx : x.1 = i
    · subst hx
      rw [top, if_pos rfl, update_self, max_assoc]
    · rw [top, if_neg hx, update_of_ne (.symm hx)]

theorem generation_restore (generations : List (AuthInstanceID × Nat × Nat)) :
    (s.restore generations).instanceGeneration = s.instanceGeneration := by
  unfold restore
  induction generations generalizing s with
  | nil => rfl
  | cons x generations ih =>
    rw [foldl_cons, ih]
    unfold restoreInstance
    split <;> rfl

def Keyed (s : LoopState) : Prop :=
  ∀ j, InFlight s j → (s.jobs j).key.inst = (s.jobs j).intent.inst ∧
    (s.jobs j).key.generation ≤ s.instanceGeneration (s.jobs j).key.inst

def noted (w : World) (i : AuthInstanceID) : Request → Nat
  | .submit intent entry =>
    if intent.inst = i ∧ (replyTo w (.submit intent entry)).isSome then intent.generation else 0
  | .activate generations => top i generations
  | _ => 0

def notedAt (w : World) (e : Event) (i : AuthInstanceID) : Nat :=
  ((handles w e).map (noted w i)).getD 0

theorem keyed_lookup (hbooks : Books s) (h : Keyed s) {intent : Intent} {nonce j : Nat}
    (hj : s.inflight.lookup (keyOf intent nonce) = some j) :
    (s.jobs j).intent.inst = intent.inst ∧
      intent.generation ≤ s.instanceGeneration intent.inst := by
  have hkey := hbooks.keyed _ j hj
  obtain ⟨hinst, hle⟩ := h j ⟨_, hj⟩
  rw [hkey] at hinst hle
  exact ⟨hinst.symm, hle⟩

theorem marks_loopMove {t : LoopState} (h : LoopMove w e t) :
    (∃ q, handles w e = some q ∧ t = requestLoop w q) ∨
      handles w e = none ∧ marks t = marks w.loop := by
  cases h with
  | request q handles step => exact .inl ⟨q, handles, step⟩
  | other le handles plain step => exact .inr ⟨handles, by rw [step, marks_step plain]⟩
  | same handles step => exact .inr ⟨handles, by rw [step]⟩
  | ended handles step => exact .inr ⟨handles, by rw [step]; rfl⟩

theorem generation_step (hbooks : Books w.loop) (h : Keyed w.loop) :
    (w.step e).loop.instanceGeneration i = max (w.loop.instanceGeneration i) (notedAt w e i) := by
  rcases marks_loopMove (loopMove_step w e) with ⟨q, hq, hloop⟩ | ⟨hnone, hmarks⟩
  · rw [hloop, notedAt, hq, map_some, getD_some]
    cases q with
    | submit intent entry =>
      have hmarks := congrArg Prod.fst (marks_submit w.loop intent (nonceOf w intent))
      rcases submit_cases intent with
        ⟨hsame, ⟨j, hj, hreply⟩ | ⟨-, hreply⟩⟩ | ⟨hkey, hr, hreply, -⟩
      · rw [requestLoop, hsame, noted]
        split
        · next hi =>
          rw [← hi.1]
          exact (max_eq_left (keyed_lookup hbooks h hj).2).symm
        · rw [Nat.max_zero]
      · rw [requestLoop, hsame, noted, replyTo, hreply]
        simp
      · rw [if_pos ⟨hreply, hr, hkey⟩] at hmarks
        have hgen : (requestLoop w (.submit intent entry)).instanceGeneration = _ := hmarks
        rw [hgen, noted, replyTo, hreply]
        dsimp only
        by_cases hi : intent.inst = i
        · rw [hi, update_self, if_pos ⟨rfl, rfl⟩]
        · rw [update_of_ne (.symm hi), if_neg fun hboth => hi hboth.1, Nat.max_zero]
    | snapshot => simp [requestLoop, noted]
    | cancel instances =>
      have hmarks := congrArg Prod.fst (marks_cancel instances w.loop)
      have hgen : (requestLoop w (.cancel instances)).instanceGeneration = _ := hmarks
      simp [hgen, noted]
    | activate generations => exact generation_activate
    | restore generations => simp [requestLoop, generation_restore, noted]
  · have hgen : (w.step e).loop.instanceGeneration = w.loop.instanceGeneration :=
      congrArg Prod.fst hmarks
    rw [hgen, notedAt, hnone]
    simp

theorem inFlight_world (hbooks : Books w.loop) {j : Nat} (hj : InFlight (w.step e).loop j) :
    InFlight w.loop j ∨ ∃ intent entry, handles w e = some (.submit intent entry) ∧
      (replyTo w (.submit intent entry)).isSome = true ∧
      ((w.step e).loop.jobs j).intent = intent ∧
      ((w.step e).loop.jobs j).key = keyOf intent (nonceOf w intent) := by
  have hplain : ∀ le, ofMethod le = false ∨ (∀ intent nonce, le ≠ .submit intent nonce) →
      (w.step e).loop = Coordinator.step w.loop le → InFlight w.loop j := by
    intro le hle hloop
    rw [hloop] at hj
    rcases inFlight_step hbooks hj with hin | ⟨intent, nonce, rfl, -⟩
    · exact hin
    · rcases hle with hle | hle
      · cases hle
      · exact absurd rfl (hle intent nonce)
  cases loopMove_step w e with
  | request q handles step =>
    cases q with
    | submit intent entry =>
      have hloop : (w.step e).loop = Coordinator.step w.loop (.submit intent (nonceOf w intent)) :=
        step
      rw [hloop] at hj ⊢
      rcases inFlight_step hbooks hj with hin | ⟨intent', nonce, he, hreply, -, -, hintent, hkey⟩
      · exact .inl hin
      · cases he
        exact .inr ⟨intent, entry, handles, by rw [replyTo, hreply]; rfl, hintent, hkey⟩
    | snapshot =>
      rw [step] at hj
      exact .inl hj
    | cancel instances =>
      exact .inl (hplain (.cancel instances) (.inr fun _ _ h => by cases h) step)
    | activate generations =>
      exact .inl (hplain (.activate generations) (.inr fun _ _ h => by cases h) step)
    | restore generations =>
      exact .inl (hplain (.restore generations) (.inr fun _ _ h => by cases h) step)
  | other le handles plain step => exact .inl (hplain le (.inl plain) step)
  | same handles step =>
    rw [step] at hj
    exact .inl hj
  | ended handles step =>
    rw [step] at hj
    obtain ⟨k, hk⟩ := hj
    cases hk

theorem keyed_step (hbooks : Books w.loop) (h : Keyed w.loop) : Keyed (w.step e).loop := by
  intro j hj
  rw [generation_step hbooks h]
  rcases inFlight_world hbooks hj with hin | ⟨intent, entry, hq, hreply, hintent, hkey⟩
  · have hlater := (follows_move hbooks (move_step w e)).grows.jobs j (hbooks.bounded j hin)
    rw [hlater.key, hlater.intent]
    exact ⟨(h j hin).1, (h j hin).2.trans (le_max_left _ _)⟩
  · rw [hintent, hkey, notedAt, hq]
    refine ⟨rfl, le_trans (le_of_eq ?_) (le_max_right _ _)⟩
    rw [map_some, getD_some, noted, if_pos ⟨rfl, hreply⟩]
    rfl

def markOf (s : LoopState) (i : AuthInstanceID) : Nat × Option Nat × Nat :=
  (s.instanceGeneration i, s.cancelledThrough i, s.cancelTokens i)

theorem markOf_eq {t : LoopState} (h : marks t = marks s) : markOf t i = markOf s i := by
  simp only [marks, Prod.mk.injEq] at h
  obtain ⟨hgen, hthrough, htokens, -⟩ := h
  simp only [markOf, hgen, hthrough, htokens]

/-- The instance is cancelled through its largest generation, under the token, and vacated. -/
structure Barred (s : LoopState) (i : AuthInstanceID) (g token : Nat) : Prop where
  mark : markOf s i = (g, some g, token)
  vacated : Vacated s i

theorem markOf_activate (s : LoopState) (generations : List (AuthInstanceID × Nat))
    (h : markOf s i = (g, some g, token)) (hold : ∀ g', (i, g') ∈ generations → g' ≤ g) :
    markOf (s.activate generations) i = (g, some g, token) := by
  induction generations generalizing s with
  | nil => exact h
  | cons x generations ih =>
    refine ih (s.activateInstance x) ?_ fun g' hg' => hold g' (mem_cons_of_mem _ hg')
    simp only [markOf, Prod.mk.injEq] at h ⊢
    obtain ⟨hgen, hthrough, htoken⟩ := h
    by_cases hx : x.1 = i
    · have hle : x.2 ≤ g := hold x.2 (mem_cons.2 (.inl (by rw [← hx])))
      unfold activateInstance
      simp only [hx, hgen, hthrough, htoken, getD_some, not_lt.2 hle, if_false,
        update_self, max_eq_left hle, and_self]
    · unfold activateInstance
      dsimp only
      split <;> simp [uncancel, Ne.symm hx, hgen, hthrough, htoken]

theorem markOf_restore (s : LoopState) (generations : List (AuthInstanceID × Nat × Nat))
    (h : markOf s i = (g, some g, token)) (hold : (i, g, token) ∉ generations) :
    markOf (s.restore generations) i = (g, some g, token) := by
  induction generations generalizing s with
  | nil => exact h
  | cons x generations ih =>
    rw [mem_cons, not_or] at hold
    refine ih (s.restoreInstance x) ?_ hold.2
    simp only [markOf, Prod.mk.injEq] at h ⊢
    obtain ⟨hgen, hthrough, htoken⟩ := h
    by_cases hx : x.1 = i
    · have hne : ¬ ((s.cancelledThrough x.1).getD 0 = x.2.1 ∧ s.cancelTokens x.1 = x.2.2) := by
        rintro ⟨hg, ht⟩
        rw [hx, hthrough, getD_some] at hg
        rw [hx, htoken] at ht
        exact hold.1 (Prod.ext hx.symm (Prod.ext hg ht))
      rw [restoreInstance, if_neg hne]
      exact ⟨hgen, hthrough, htoken⟩
    · unfold restoreInstance
      split <;> simp [uncancel, Ne.symm hx, hgen, hthrough, htoken]

theorem Barred.refused (h : Barred w.loop i g token) (hbooks : Books w.loop) (hkeyed : Keyed w.loop)
    {intent : Intent} (hi : intent.inst = i) (entry : Option Nat) :
    replyTo w (.submit intent entry) = none := by
  have hcancelled : w.loop.cancelledThrough intent.inst = some g :=
    hi ▸ congrArg (fun m => m.2.1) h.mark
  rw [replyTo, reply]
  cases hkey : w.loop.inflight.lookup (keyOf intent (nonceOf w intent)) with
  | some j => exact absurd ((keyed_lookup hbooks hkeyed hkey).1.trans hi) (h.vacated j ⟨_, hkey⟩)
  | none => simp [refuses, hcancelled]

theorem Barred.vacated_step (h : Barred w.loop i g token) (hbooks : Books w.loop)
    (hkeyed : Keyed w.loop) (e : Event) : Vacated (w.step e).loop i := by
  intro j hj hinst
  rcases inFlight_world hbooks hj with hin | ⟨intent, entry, -, hreply, hintent, -⟩
  · have hlater := (follows_move hbooks (move_step w e)).grows.jobs j (hbooks.bounded j hin)
    rw [hlater.intent] at hinst
    exact h.vacated j hin hinst
  · rw [h.refused hbooks hkeyed (hintent ▸ hinst) entry] at hreply
    cases hreply

def lifts (w : World) (e : Event) (i : AuthInstanceID) (g token : Nat) : Bool :=
  match handles w e with
  | some (.activate generations) => decide (g < top i generations)
  | some (.restore generations) => decide ((i, g, token) ∈ generations)
  | _ => false

def issued (w : World) (e : Event) (i : AuthInstanceID) : Option Nat :=
  match handles w e with
  | some (.cancel instances) =>
    if i ∈ instances then some (issuedTokens w.loop.cancelNonce instances i) else none
  | _ => none

theorem issued_cases (h : issued w e i = some token) :
    ∃ instances, handles w e = some (.cancel instances) ∧ i ∈ instances ∧
      token = issuedTokens w.loop.cancelNonce instances i := by
  unfold issued at h
  split at h
  · next instances hq =>
    split at h
    · next hi => exact ⟨instances, hq, hi, (some.inj h).symm⟩
    · cases h
  · cases h

theorem barred_cancel (hbooks : Books w.loop) (h : issued w e i = some token) :
    Barred (w.step e).loop i (w.loop.instanceGeneration i) token := by
  obtain ⟨instances, hq, hi, rfl⟩ := issued_cases h
  have hloop : (w.step e).loop = w.loop.cancel instances := loop_of_handles hq
  have hmarks := marks_cancel instances w.loop
  simp only [marks, Prod.mk.injEq] at hmarks
  obtain ⟨hgen, hthrough, htokens, -⟩ := hmarks
  rw [hloop]
  refine ⟨?_, vacated_cancel hbooks hi⟩
  simp only [markOf, hgen, hthrough, htokens, if_pos hi, (issueTokens_of_mem _ _ hi).1]

theorem Barred.step (h : Barred w.loop i g token) (hbooks : Books w.loop) (hkeyed : Keyed w.loop)
    (hlift : lifts w e i g token = false) :
    Barred (w.step e).loop i g ((issued w e i).getD token) := by
  have hmark := h.mark
  cases hissued : issued w e i with
  | some token' =>
    have hgen : w.loop.instanceGeneration i = g := congrArg Prod.fst hmark
    exact hgen ▸ barred_cancel hbooks hissued
  | none =>
    refine ⟨?_, h.vacated_step hbooks hkeyed e⟩
    rw [getD_none]
    rcases marks_loopMove (loopMove_step w e) with ⟨q, hq, hloop⟩ | ⟨-, hmarks⟩
    · rw [hloop]
      cases q with
      | submit intent entry =>
        rw [← hmark]
        have hmarks := marks_submit w.loop intent (nonceOf w intent)
        split at hmarks
        · next hacc =>
          have hi : intent.inst ≠ i := by
            intro hi
            have hrefused := h.refused hbooks hkeyed hi entry
            rw [replyTo, hacc.1] at hrefused
            cases hrefused
          simp only [marks, Prod.mk.injEq] at hmarks
          obtain ⟨hgen, hthrough, htokens, -⟩ := hmarks
          simp only [requestLoop, markOf, hgen, hthrough, htokens, update_of_ne (.symm hi)]
        · exact markOf_eq hmarks
      | snapshot => exact hmark
      | cancel instances =>
        have hi : i ∉ instances := by
          intro hi
          simp [issued, hq, hi] at hissued
        have hmarks := marks_cancel instances w.loop
        simp only [marks, Prod.mk.injEq] at hmarks
        obtain ⟨hgen, hthrough, htokens, -⟩ := hmarks
        simp only [requestLoop, markOf, hgen, hthrough, htokens, if_neg hi,
          issueTokens_of_notMem hi]
        exact hmark
      | activate generations =>
        simp only [lifts, hq, decide_eq_false_iff_not, not_lt] at hlift
        exact markOf_activate w.loop generations hmark fun g' hg' => (le_top hg').trans hlift
      | restore generations =>
        simp only [lifts, hq, decide_eq_false_iff_not] at hlift
        exact markOf_restore w.loop generations hmark hlift
    · rw [markOf_eq hmarks]
      exact hmark

def CallsRefused (w : World) (i : AuthInstanceID) : Prop :=
  ∀ l intent entry f, w.lifecycle = some l → l.request = .submit intent entry → intent.inst = i →
    l.reply = some f → f = none

theorem CallsRefused.step (h : CallsRefused w i) (hserial : Serialised w)
    (hrefused : ∀ intent entry, handles w e = some (.submit intent entry) → intent.inst = i →
      replyTo w (.submit intent entry) = none) : CallsRefused (w.step e) i := by
  intro l intent entry f hl hreq hi hf
  cases callMove_step w e with
  | same lifecycle requests clears | cleared instances event free mem lifecycle requests clears =>
    rw [lifecycle] at hl
    exact h l intent entry f hl hreq hi hf
  | called q free lifecycle requests clears =>
    rw [lifecycle, some.injEq] at hl
    rw [← hl] at hf
    cases hf
  | sent l' waits unsent lifecycle requests clears =>
    rw [lifecycle, some.injEq] at hl
    rw [← hl] at hreq hf
    exact h l' intent entry f waits hreq hi hf
  | served q hq lifecycle requests clears =>
    obtain ⟨-, l', hl', rfl, -⟩ := hserial.caller requests
    rw [lifecycle, hl', map_some, some.injEq] at hl
    rw [← hl] at hreq hf
    have hreq' : l'.request = .submit intent entry := hreq
    have hf' : some (replyTo w l'.request) = some f := hf
    rw [hreq'] at hq hf'
    rw [hrefused intent entry hq hi, some.injEq] at hf'
    exact hf'.symm
  | returned l' f' waits replied lifecycle requests clears =>
    rw [lifecycle] at hl
    cases hl

structure Shut (w : World) (i : AuthInstanceID) : Prop where
  reads : ∀ n ∈ w.typedReads i, (w.entries n).future = none
  typed : ∀ t f, w.typed = some t → t.intent.inst = i → t.reply = some f → f = none

theorem Shut.move {w' : World} (h : Shut w i) (hcalls : CallsRefused w i) (hreg : Registered w)
    (hmove : ReadMove w e w') : Shut w' i := by
  cases hmove with
  | quiet typed keeps nonce request =>
    refine ⟨fun n hn => ?_, ?_⟩
    · rw [(keeps n).future]
      exact h.reads n ((keeps n).reads i hn)
    · rw [typed]
      exact h.typed
  | opened t free typed fresh unsent open_ keeps reads nonce request =>
    refine ⟨fun n hn => ?_, fun t' f ht hi hf => ?_⟩
    · have hne : n ≠ t.entry := by
        have := hreg.numbered i n (reads i hn)
        omega
      rw [(keeps n hne).future]
      exact h.reads n (reads i hn)
    · rw [typed, some.injEq] at ht
      rw [← ht, open_] at hf
      cases hf
  | turnedAway t event closing waits unsent typed same =>
    obtain ⟨hentries, hreads, -, -⟩ := same
    refine ⟨by rw [hentries, hreads]; exact h.reads, fun t' f ht hi hf => ?_⟩
    rw [typed, some.injEq] at ht
    rw [← ht] at hf
    exact (some.inj hf).symm
  | submitted t waits unsent typed free lifecycle same =>
    obtain ⟨hentries, hreads, -⟩ := same
    refine ⟨by rw [hentries, hreads]; exact h.reads, fun t' f ht hi hf => ?_⟩
    rw [typed, some.injEq] at ht
    rw [← ht] at hi hf
    exact h.typed t f waits hi hf
  | replied l intent n f waits request reply lifecycle typed same =>
    obtain ⟨hentries, hreads, -⟩ := same
    refine ⟨by rw [hentries, hreads]; exact h.reads, fun t' f' ht hi hf => ?_⟩
    obtain ⟨t, ht', hn, rfl, -, -⟩ := hreg.own intent n (typedRequest_submit waits request)
    rw [typed, ht', map_some, if_pos hn, some.injEq] at ht
    rw [← ht] at hi hf
    rw [← some.inj hf]
    exact hcalls l t.intent (some n) f waits request hi reply
  | registered t f waits reply typed entries reads same =>
    have hout := (hreg.open_ t waits).2.1
    have hold : ∀ n ∈ w.typedReads i, (w'.entries n).future = none := by
      intro n hn
      have hne : n ≠ t.entry := fun heq => hout i (heq ▸ hn)
      rw [entries, update_of_ne hne]
      exact h.reads n hn
    refine ⟨fun n hn => ?_, fun t' f' ht => ?_⟩
    · rw [reads] at hn
      by_cases hi : i = t.intent.inst
      · rw [hi, update_self, mem_append, mem_singleton] at hn
        rcases hn with hn | rfl
        · exact hold n (hi ▸ hn)
        · rw [entries, update_self]
          exact h.typed t f waits hi.symm reply
      · rw [update_of_ne hi] at hn
        exact hold n hn
    · rw [typed] at ht
      cases ht

end QuotaScheduler.CoordinatorBarrier

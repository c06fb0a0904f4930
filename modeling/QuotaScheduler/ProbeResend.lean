/- Between two activation requests for an instance there is a verification of the first. -/

import QuotaScheduler.ProbeInvariant

namespace QuotaScheduler.ProbeResend

open Option Function

open Account ProbeState ProbeStore ProbeRuntime ProbeMoves ProbeInvariant Lib.Runs
open Relation (ReflTransGen)

/-- Worker `n` starts a verification read, with the fence value of the read. -/
def ReadStarts (w : World) (e : Event) (n : Nat) (i : AuthInstanceID) (id : Option Nat)
    (seq : Nat) : Prop :=
  ∃ k k', e = .work n .ok ∧ w.workers n = some k ∧ k.inst = i ∧ k.attempt.attemptID = id ∧
    (k.pos = .sent ∨ k.pos = .begin ∧ k.recovery = true) ∧ (w.step e).workers n = some k' ∧
    k'.pos = .verifying seq

def ReadReturns (w : World) (e : Event) (n : Nat) (i : AuthInstanceID) (id : Option Nat)
    (seq : Nat) : Prop :=
  ∃ k q, e = .work n (.quota q) ∧ w.live n = true ∧ w.workers n = some k ∧ k.inst = i ∧
    k.attempt.attemptID = id ∧ k.pos = .verifying seq

structure Held (w : World) (i : AuthInstanceID) (id : Option Nat) (fence : Nat) : Prop where
  stored : ∃ a, (w.slots i).attempt = some a ∧ a.attemptID = id ∧ a.phase ∈ sentPhases ∧
    a.sendFenceSeq = fence
  unposted : ∀ n k, w.workers n = some k → k.inst = i → k.attempt.attemptID = id → k.pos ≠ .sending

variable {w w' : World} {i : AuthInstanceID} {id : Option Nat} {fence : Nat}

theorem Held.of_change (h : Held w i id fence)
    (hs : AttemptChange (w.slots i).attempt (w'.slots i).attempt)
    (unposted : ∀ n k, w'.workers n = some k → k.inst = i → k.attempt.attemptID = id →
      k.pos ≠ .sending) : Held w' i id fence := by
  obtain ⟨a, ha, hid, hphase, hfence⟩ := h.stored
  rw [ha] at hs
  obtain ⟨b, hb, hbphase, hbid, hbfence⟩ := hs.of_sent hphase
  exact ⟨⟨b, hb, hbid.trans hid, hbphase, hbfence.trans hfence⟩, unposted⟩

theorem Held.of_same (h : Held w i id fence) (hs : (w'.slots i).attempt = (w.slots i).attempt)
    (hw : w'.workers = w.workers) : Held w' i id fence :=
  h.of_change (hs ▸ .same _) fun n k hk => h.unposted n k (hw ▸ hk)

def Removable (w : World) (i : AuthInstanceID) : Prop :=
  (∃ p f, w.idlePass = some p ∧ p.bindings = some f ∧ f i = none) ∨
    w.roster i = none ∧ w.cancelled i = true

theorem Held.act (h : Held w i id fence) (hsound : Sound w) (hact : Act w w') :
    Held w' i id fence ∨ (w'.slots i).attempt = none ∧ Removable w i := by
  cases hact with
  | settle rest workers slots =>
    exact .inl (h.of_change (slots i) fun n k hk => h.unposted n k (workers ▸ hk))
  | claim p j a idle due free written hid hphase others seq workers pass roster cancelled =>
    have hj : i ≠ j := by
      rintro rfl
      obtain ⟨b, hb, -, -, -⟩ := h.stored
      obtain ⟨m, hm, -⟩ := hsound.ids i b hb
      rw [free b hb] at hm
      cases hm
    exact .inl (h.of_same (others i hj) workers)
  | submit p p' k idle accepted bound hpos unsent read recovering awaits recovery bindings
      persisted intents pass workers slots seq roster cancelled =>
    refine .inl (h.of_change (slots i ▸ .same _) fun n c hc hinst hcid => ?_)
    rw [workers] at hc
    rcases lookup_update hc with ⟨-, rfl⟩ | ⟨-, hc⟩
    · rw [hpos]
      intro hcpos
      cases hcpos
    · exact h.unposted n c hc hinst hcid
  | remove j why rest workers own others =>
    by_cases hj : i = j
    · subst hj
      rcases own with heq | hnone
      · exact .inl (h.of_same heq workers)
      · exact .inr ⟨hnone, why⟩
    · exact .inl (h.of_same (others i hj) workers)
  | refine p p' idle same awaits recovery bindings persisted intents =>
    exact .inl (same ▸ h.of_same rfl rfl)
  | openPass recovery free same | release same | closePass same | cancel j same | activate j same =>
    exact .inl (same ▸ h.of_same rfl rfl)
  | crash reads same =>
    subst same
    refine .inl (h.of_change (.same _) fun n k hk => ?_)
    cases hk

variable {n : Nat} {o : Outcome} {k : Worker} {e : Event}

theorem Held.workMove (h : Held w i id fence) (hmove : WorkMove n o k w w') :
    Held w' i id fence ∨ (w'.slots i).attempt = none ∧ k.inst = i ∧ k.attempt.attemptID = id ∧
      ∃ seq q, k.pos = .verified seq q := by
  cases hmove with
  | work k' rest workers hstep slots =>
    refine .inl (h.of_change (slots i) fun m c hc hinst hcid => ?_)
    rw [workers] at hc
    rcases lookup_update hc with ⟨-, rfl⟩ | ⟨-, hc⟩
    · exact hstep.noSend
    · exact h.unposted m c hc hinst hcid
  | send a b rest hpos workers stored hid hphase written wid wphase wfence others =>
    have hi : i ≠ k.inst := by
      rintro rfl
      obtain ⟨c, hc, -, hcphase, -⟩ := h.stored
      obtain rfl := some.inj (stored.symm.trans hc)
      exact mem_sentPhases.mp hcphase hphase
    refine .inl (h.of_change (others i hi ▸ .same _) fun m c hc hinst hcid => ?_)
    rw [workers] at hc
    rcases lookup_update hc with ⟨-, rfl⟩ | ⟨-, hc⟩
    · exact absurd hinst.symm hi
    · exact h.unposted m c hc hinst hcid
  | complete seq q rest hpos workers own others =>
    have hunposted : ∀ m c, w'.workers m = some c → c.inst = i → c.attempt.attemptID = id →
        c.pos ≠ .sending := by
      intro m c hc hinst hcid
      rw [workers] at hc
      rcases lookup_update hc with ⟨-, rfl⟩ | ⟨-, hc⟩
      · intro hcpos
        cases hcpos
      · exact h.unposted m c hc hinst hcid
    by_cases hi : i = k.inst
    · subst hi
      rcases own with heq | ⟨hnone, a, ha, haid⟩
      · exact .inl (h.of_change (heq ▸ .same _) hunposted)
      · obtain ⟨b, hb, hbid, -, -⟩ := h.stored
        obtain rfl := some.inj (ha.symm.trans hb)
        exact .inr ⟨hnone, rfl, haid.symm.trans hbid, seq, q, hpos⟩
    · exact .inl (h.of_change (others i hi ▸ .same _) hunposted)
  | stay same => exact .inl (same ▸ h)

/-- The attempt is held and unverified, and no pass takes the instance for an orphan. -/
structure Unverified (w : World) (i : AuthInstanceID) (id : Option Nat) (fence : Nat) : Prop
    extends Held w i id fence where
  unread : ∀ n k, w.workers n = some k → k.inst = i → k.attempt.attemptID = id →
    ∀ seq q, k.pos ≠ .verified seq q
  enrolled : ∀ p f, w.pass = some p → p.bindings = some f → (f i).isSome = true

theorem posted_eq_some {a : ProbeAttempt} (h : w.posted e = some (i, a)) :
    ∃ n o k, e = .work n o ∧ w.live n = true ∧ w.workers n = some k ∧ k.pos = .sending ∧
      k.inst = i ∧ k.attempt = a := by
  cases e with
  | work n o =>
    obtain ⟨k, hk, hpost⟩ := bind_eq_some_iff.mp h
    split at hpost
    next hsend =>
      obtain ⟨rfl, rfl⟩ := Prod.mk.inj (some.inj hpost)
      exact ⟨n, o, k, rfl, hsend.2.1, hk, hsend.2.2, rfl, rfl⟩
    next => cases hpost
  | _ => cases h

theorem quiet_of_posted {a : ProbeAttempt} (hsound : Sound w) (hpost : w.posted e = some (i, a)) :
    Unverified (w.step e) i a.attemptID a.sendFenceSeq ∧
      ∀ n k, (w.step e).workers n = some k → k.inst = i → k.attempt.attemptID = a.attemptID →
        ∀ seq, k.pos ≠ .verifying seq := by
  obtain ⟨n, o, k, rfl, hlive, hk, hpos, rfl, rfl⟩ := posted_eq_some hpost
  obtain ⟨⟨a, ha, hid, hfence⟩, hother⟩ := hsound.sending n k hlive hk hpos
  have hsent : k.probeSent = true := (hsound.placed n k hk).late (by simp [hpos, late])
  have halone : ∀ m c, w.workers m = some c → c.inst = k.inst →
      c.attempt.attemptID = k.attempt.attemptID → spent c → m = n := by
    rintro m c hc hinst hcid (hrec | hcsent)
    · exact absurd hcid (hother m c hc hrec hinst)
    · exact hsound.unique n m k c hk hc hsent hcsent hinst hcid
  obtain ⟨pos, hstep, hresting⟩ : ∃ pos, w.step (.work n o) = w.setWorker n { k with pos := pos } ∧
      (pos = .posted ∨ pos = .failing true false) := by
    refine ⟨if w.live n && o.stored then .posted else .failing true false, ?_, ?_⟩
    · simp only [World.step, hk, World.workStep, hpos]
    split
    · exact .inl rfl
    · exact .inr rfl
  -- every worker of the attempt is the one that has posted, or has not written a send
  have hcases : ∀ m c, (w.step (.work n o)).workers m = some c → c.inst = k.inst →
      c.attempt.attemptID = k.attempt.attemptID →
      c.pos = .posted ∨ c.pos = .failing true false ∨ WellPlaced c ∧ ¬spent c := by
    intro m c hc hinst hcid
    rw [hstep] at hc
    rcases lookup_update hc with ⟨-, rfl⟩ | ⟨hm, hc⟩
    · rcases hresting with rfl | rfl
      · exact .inl rfl
      · exact .inr (.inl rfl)
    · exact .inr (.inr ⟨hsound.placed m c hc, fun hspent => hm (halone m c hc hinst hcid hspent)⟩)
  have hpositions : ∀ m c, (w.step (.work n o)).workers m = some c → c.inst = k.inst →
      c.attempt.attemptID = k.attempt.attemptID → c.pos ≠ .sending ∧
      ∀ seq, c.pos ≠ .verifying seq ∧ ∀ q, c.pos ≠ .verified seq q := by
    intro m c hc hinst hcid
    rcases hcases m c hc hinst hcid with hcpos | hcpos | ⟨hplaced, hunspent⟩
    · simp [hcpos]
    · simp [hcpos]
    · refine ⟨fun hcpos => hunspent (.inr (hplaced.late (by simp [hcpos, late]))), fun seq => ?_⟩
      exact ⟨fun hcpos => hunspent (hplaced.verifying seq hcpos).1,
        fun q hcpos => hunspent (hplaced.verified seq q hcpos).1⟩
  have hphase := (hsound.spent n k a hk (.inr hsent) ha hid).1
  refine ⟨⟨⟨⟨a, ?_, hid, hphase, hfence⟩, ?_⟩, ?_, ?_⟩, ?_⟩
  · rw [hstep]
    exact ha
  · exact fun m c hc hinst hcid => (hpositions m c hc hinst hcid).1
  · exact fun m c hc hinst hcid seq => ((hpositions m c hc hinst hcid).2 seq).2
  · intro p f hp hf
    rw [hstep] at hp
    obtain ⟨q, hq, hn⟩ := live_iff.mp hlive
    obtain rfl : q = p := some.inj (hq.symm.trans hp)
    obtain ⟨-, g, hg, hbound⟩ := hsound.awaited q n k hq hn hk
    obtain rfl : g = f := some.inj (hg.symm.trans hf)
    exact hbound
  · exact fun m c hc hinst hcid seq => ((hpositions m c hc hinst hcid).2 seq).1

theorem Unverified.not_removable (h : Unverified w i id fence)
    (hroster : (w.roster i).isSome = true) : ¬Removable w i := by
  rintro (⟨p, f, idle, hf, hnone⟩ | ⟨hnone, -⟩)
  · have := h.enrolled p f (idlePass_eq_some idle).1 hf
    rw [hnone] at this
    cases this
  · rw [hnone] at hroster
    cases hroster

theorem enrolled_act (h : Unverified w i id fence) (hroster : (w.roster i).isSome = true)
    (hact : Act w w') : ∀ p f, w'.pass = some p → p.bindings = some f → (f i).isSome = true := by
  intro q f hq hf
  cases hact with
  | settle rest => exact h.enrolled q f (rest.pass ▸ hq) hf
  | claim p j a idle due free written hid hphase others seq workers pass =>
    exact h.enrolled q f (pass ▸ hq) hf
  | submit p p' k idle accepted bound hpos unsent read recovering awaits recovery bindings
      persisted intents pass =>
    obtain rfl : p' = q := some.inj (pass.symm.trans hq)
    exact h.enrolled p f (idlePass_eq_some idle).1 (bindings ▸ hf)
  | remove j why rest => exact h.enrolled q f (rest.pass ▸ hq) hf
  | refine p p' idle same awaits recovery bindings =>
    subst same
    obtain rfl : p' = q := some.inj hq
    rcases bindings with hold | hnew
    · exact h.enrolled p f (idlePass_eq_some idle).1 (hold ▸ hf)
    · obtain rfl : w.roster = f := some.inj (hnew.symm.trans hf)
      exact hroster
  | openPass recovery free same =>
    subst same
    cases hq
    cases hf
  | release same =>
    subst same
    obtain ⟨p, hp, rfl⟩ := map_eq_some_iff.mp hq
    exact h.enrolled p f hp hf
  | closePass same =>
    subst same
    cases hq
  | cancel j same =>
    subst same
    obtain ⟨p, hp, rfl | ⟨rfl, -⟩⟩ := pass_cancel hq
    · exact h.enrolled p f hp hf
    · exact h.enrolled q f hp hf
  | activate j same =>
    subst same
    exact h.enrolled q f hq hf
  | crash reads same =>
    subst same
    cases hq

theorem worker_of_act (hact : Act w w') (hk : w'.workers n = some k) :
    w.workers n = some k ∨ k.pos = .begin := by
  cases hact with
  | settle rest workers | claim p j a idle due free written hid hphase others seq workers =>
    exact .inl (workers ▸ hk)
  | submit p p' c idle accepted bound hpos unsent read recovering awaits recovery bindings
      persisted intents pass workers =>
    rw [workers] at hk
    rcases lookup_update hk with ⟨-, rfl⟩ | ⟨-, hk⟩
    · exact .inr hpos
    · exact .inl hk
  | remove j why rest workers => exact .inl (workers ▸ hk)
  | refine p p' idle same | openPass recovery free same | release same | closePass same
  | cancel j same | activate j same =>
    subst same
    exact .inl hk
  | crash reads same =>
    subst same
    cases hk

theorem worker_of_step (hwork : ∀ m o, e ≠ .work m o) (hk : (w.step e).workers n = some k) :
    w.workers n = some k ∨ k.pos = .begin := by
  cases hevent : rosterEvent e with
  | true =>
    obtain ⟨roster, hstep⟩ := step_rosterEvent hevent
    rw [hstep] at hk
    exact .inl hk
  | false =>
    have hacts := acts_step w e hwork hevent
    generalize w.step e = w' at hk hacts
    induction hacts with
    | refl => exact .inl hk
    | tail _ hact ih =>
      rcases worker_of_act hact hk with hold | hbegin
      · exact ih hold
      · exact .inr hbegin

theorem Unverified.act (h : Unverified w i id fence) (hsound : Sound w)
    (hroster : (w.roster i).isSome = true) (hact : Act w w') : Unverified w' i id fence := by
  rcases h.toHeld.act hsound hact with hheld | ⟨-, hremovable⟩
  · refine ⟨hheld, fun n k hk hinst hkid seq q hpos => ?_, enrolled_act h hroster hact⟩
    rcases worker_of_act hact hk with hold | hbegin
    · exact h.unread n k hold hinst hkid seq q hpos
    · rw [hbegin] at hpos
      cases hpos
  · exact absurd hremovable (h.not_removable hroster)

theorem Unverified.acts (h : Unverified w i id fence) (hsound : Sound w)
    (hroster : (w.roster i).isSome = true) (hacts : ReflTransGen Act w w') :
    Unverified w' i id fence := by
  have hall : Unverified w' i id fence ∧ Sound w' ∧ (w'.roster i).isSome = true := by
    induction hacts with
    | refl => exact ⟨h, hsound, hroster⟩
    | tail _ hact ih =>
      obtain ⟨hunv, hs, hr⟩ := ih
      exact ⟨hunv.act hs hr hact, hs.act hact, hact.roster_eq ▸ hr⟩
  exact hall.1

theorem pass_of_workMove (hmove : WorkMove n o k w w') : w'.pass = w.pass := by
  cases hmove with
  | work k' rest | send a b rest | complete seq q rest => exact rest.pass
  | stay same => rw [same]

theorem workers_of_workMove {m : Nat} (hmove : WorkMove n o k w w') (hm : m ≠ n) :
    w'.workers m = w.workers m := by
  cases hmove with
  | work k' rest workers | send a b rest hpos workers | complete seq q rest hpos workers =>
    rw [workers, update_of_ne hm]
  | stay same => rw [same]

theorem Unverified.workMove (h : Unverified w i id fence) (hk : w.workers n = some k)
    (hmove : WorkMove n o k w w') :
    Unverified w' i id fence ∨ ∃ seq, ReadReturns w (.work n o) n i id seq := by
  rcases h.toHeld.workMove hmove with hheld | ⟨-, hinst, hkid, seq, q, hpos⟩
  · by_cases hread : ∃ k' seq q, w'.workers n = some k' ∧ k'.inst = i ∧ k'.attempt.attemptID = id ∧
        k'.pos = .verified seq q
    · obtain ⟨k', seq, q, hk', hinst, hkid, hpos⟩ := hread
      cases hmove with
      | work c rest workers hstep slots =>
        rw [workers, update_self] at hk'
        obtain rfl := some.inj hk'
        obtain ⟨hfrom, -, rfl, hlive⟩ := hstep.verified seq q hpos
        exact .inr ⟨seq, k, q, rfl, hlive, hk, hstep.inst.symm.trans hinst,
          hstep.attemptID.symm.trans hkid, hfrom⟩
      | send a b rest _ workers | complete _ _ rest _ workers =>
        rw [workers, update_self] at hk'
        obtain rfl := some.inj hk'
        cases hpos
      | stay same =>
        subst same
        exact absurd hpos (h.unread n k' hk' hinst hkid seq q)
    · refine .inl ⟨hheld, fun m c hc hinst hcid seq q hpos => ?_, ?_⟩
      · by_cases hm : m = n
        · subst hm
          exact hread ⟨c, seq, q, hc, hinst, hcid, hpos⟩
        · exact h.unread m c (workers_of_workMove hmove hm ▸ hc) hinst hcid seq q hpos
      · exact fun p f hp => h.enrolled p f (pass_of_workMove hmove ▸ hp)
  · exact absurd hpos (h.unread n k hk hinst hkid seq q)

theorem Unverified.step (h : Unverified w i id fence) (hsound : Sound w)
    (hroster : (w.roster i).isSome = true) (e : Event) :
    Unverified (w.step e) i id fence ∨ ∃ n seq, ReadReturns w e n i id seq := by
  by_cases hwork : ∃ n o, e = .work n o
  · obtain ⟨n, o, rfl⟩ := hwork
    cases hk : w.workers n with
    | some k =>
      have hmove := workMove_workStep w n k o
      have hstep : w.step (.work n o) = w.workStep n k o := by simp only [World.step, hk]
      rw [hstep]
      rcases h.workMove hk hmove with hunv | ⟨seq, hread⟩
      · exact .inl hunv
      · exact .inr ⟨n, seq, hread⟩
    | none =>
      have hstep : w.step (.work n o) = w := by simp only [World.step, hk]
      exact .inl (hstep.symm ▸ h)
  · cases hevent : rosterEvent e with
    | true =>
      obtain ⟨roster, hstep⟩ := step_rosterEvent hevent
      rw [hstep]
      exact .inl ⟨h.toHeld.of_same rfl rfl, h.unread, h.enrolled⟩
    | false =>
      exact .inl (h.acts hsound hroster (acts_step w e (fun n o he => hwork ⟨n, o, he⟩) hevent))

theorem Held.not_posted (h : Held w i id fence) (hsound : Sound w) (e : Event)
    (a : ProbeAttempt) : w.posted e ≠ some (i, a) := by
  intro hpost
  obtain ⟨n, o, k, rfl, hlive, hk, hpos, rfl, rfl⟩ := posted_eq_some hpost
  obtain ⟨⟨b, hb, hbid, -⟩, -⟩ := hsound.sending n k hlive hk hpos
  obtain ⟨c, hc, hcid, -, -⟩ := h.stored
  obtain rfl := some.inj (hb.symm.trans hc)
  exact h.unposted n k hk rfl (hbid.symm.trans hcid) hpos

theorem verifying_step {c : Worker} {seq : Nat} (hc : (w.step e).workers n = some c)
    (hpos : c.pos = .verifying seq) :
    w.workers n = some c ∨ ReadStarts w e n c.inst c.attempt.attemptID seq := by
  by_cases hwork : ∃ m o, e = .work m o
  · obtain ⟨m, o, rfl⟩ := hwork
    cases hk : w.workers m with
    | none =>
      simp only [World.step, hk] at hc
      exact .inl hc
    | some k =>
      have hstep : w.step (.work m o) = w.workStep m k o := by simp only [World.step, hk]
      have hmove := workMove_workStep w m k o
      rw [← hstep] at hmove
      by_cases hm : n = m
      · subst hm
        cases hmove with
        | work k' rest workers hworker slots =>
          have hk' : c = k' := by
            rw [workers, update_self] at hc
            exact (some.inj hc).symm
          subst hk'
          obtain ⟨-, rfl, hfrom⟩ := hworker.verifying seq hpos
          exact .inr ⟨k, c, rfl, hk, hworker.inst.symm, hworker.attemptID.symm, hfrom, hc, hpos⟩
        | send a b rest hfenced workers | complete seq' q rest hverified workers =>
          rw [workers, update_self] at hc
          obtain rfl := some.inj hc
          cases hpos
        | stay same => exact .inl (same ▸ hc)
      · exact .inl (workers_of_workMove hmove hm ▸ hc)
  · rcases worker_of_step (fun m o he => hwork ⟨m, o, he⟩) hc with hold | hbegin
    · exact .inl hold
    · rw [hbegin] at hpos
      cases hpos

/-- An attempt's reads under way before event `k` have started after event `a`. -/
def StartedSince (now : Time) (events : Nat → Event) (a k : Nat) (i : AuthInstanceID)
    (id : Option Nat) : Prop :=
  ∀ n c seq, (worldAt now events k).workers n = some c → c.inst = i → c.attempt.attemptID = id →
    c.pos = .verifying seq →
    ∃ s, a < s ∧ s < k ∧ ReadStarts (worldAt now events s) (events s) n i id seq

theorem StartedSince.step {now : Time} {events : Nat → Event} {a k : Nat} (hak : a < k)
    (h : StartedSince now events a k i id) : StartedSince now events a (k + 1) i id := by
  intro n c seq hc hinst hcid hpos
  rcases verifying_step hc hpos with hold | hstart
  · obtain ⟨s, has, hsk, hs⟩ := h n c seq hold hinst hcid hpos
    exact ⟨s, has, Nat.lt_succ_of_lt hsk, hs⟩
  · exact ⟨k, hak, Nat.lt_succ_self k, hinst ▸ hcid ▸ hstart⟩

theorem fence_lt_of_verifying (h : Held w i id fence) (hsound : Sound w) {seq : Nat}
    (hk : w.workers n = some k) (hinst : k.inst = i) (hkid : k.attempt.attemptID = id)
    (hpos : k.pos = .verifying seq) : fence < seq := by
  obtain ⟨a, ha, haid, -, hfence⟩ := h.stored
  obtain ⟨hspent, hlt⟩ := (hsound.placed n k hk).verifying seq hpos
  subst hinst
  have hle := (hsound.spent n k a hk hspent ha (haid.trans hkid.symm)).2
  omega

/-- Between two POSTs of an instance a verification starts above the first's fence and returns to
it. -/
theorem resend_needs_verification (now : Time) (events : Nat → Event) (a b : Nat)
    (i : AuthInstanceID) (first second : ProbeAttempt) (hab : a < b)
    (hfirst : (worldAt now events a).posted (events a) = some (i, first))
    (hsecond : (worldAt now events b).posted (events b) = some (i, second))
    (hroster : ∀ k, a ≤ k → k ≤ b → ((worldAt now events k).roster i).isSome = true) :
    ∃ n s c seq, a < s ∧ s < c ∧ c < b ∧ first.sendFenceSeq < seq ∧
      ReadStarts (worldAt now events s) (events s) n i first.attemptID seq ∧
      ReadReturns (worldAt now events c) (events c) n i first.attemptID seq ∧
      ∀ k, a < k → k ≤ c + 1 → ∃ stored, ((worldAt now events k).slots i).attempt = some stored ∧
        stored.attemptID = first.attemptID := by
  have hsound := sound_worldAt now events
  obtain ⟨hunverified, hquiet⟩ := quiet_of_posted (hsound a) hfirst
  -- the attempt stays unverified until a read of it returns
  have huntil := holds_or_reaches
    (P := fun k => Unverified (worldAt now events k) i first.attemptID first.sendFenceSeq ∧
      StartedSince now events a k i first.attemptID)
    (G := fun k => ∃ n seq, ReadReturns (worldAt now events k) (events k) n i first.attemptID seq)
    (a := a + 1) (b := b) hab
    ⟨hunverified, fun n c seq hc hinst hcid hpos => absurd hpos (hquiet n c hc hinst hcid seq)⟩
    (by
      rintro k hak hkb ⟨hk, hstarted⟩
      rcases hk.step (hsound k) (hroster k (by omega) (by omega)) (events k) with hnext | hread
      · exact .inl ⟨hnext, hstarted.step hak⟩
      · exact .inr hread)
  rcases huntil with ⟨hheld, -⟩ | ⟨c, hac, hcb, ⟨n, seq, hread⟩, hall⟩
  · exact absurd hsecond (hheld.toHeld.not_posted (hsound b) _ _)
  · obtain ⟨hc, hstarted⟩ := hall c hac (Nat.le_refl c)
    obtain ⟨k, q, hevent, hlive, hk, hinst, hkid, hpos⟩ := hread
    obtain ⟨s, has, hsc, hstart⟩ := hstarted n k seq hk hinst hkid hpos
    refine ⟨n, s, c, seq, has, hsc, hcb, fence_lt_of_verifying hc.toHeld (hsound c) hk
      hinst hkid hpos,
      hstart, ⟨k, q, hevent, hlive, hk, hinst, hkid, hpos⟩, fun m ham hmc => ?_⟩
    rcases Nat.lt_or_ge m (c + 1) with hlt | hge
    · obtain ⟨st, hst, hstid, -, -⟩ := (hall m ham (Nat.le_of_lt_succ hlt)).1.stored
      exact ⟨st, hst, hstid⟩
    · -- the return of the read does not touch the store
      obtain rfl : m = c + 1 := Nat.le_antisymm hmc hge
      obtain ⟨st, hst, hstid, -, -⟩ := hc.stored
      refine ⟨st, ?_, hstid⟩
      have hstep : worldAt now events (c + 1) =
          (worldAt now events c).setWorker n { k with pos := .verified seq q } := by
        change (worldAt now events c).step (events c) = _
        simp only [hevent, World.step, hk, World.workStep, hpos, hlive]
      rw [hstep]
      exact hst

def lazyQuota (now : Time) : ParsedQuota :=
  { fiveHour := some { kind := .fiveHour, usedPercent := some 0, resetAt := now + 5 * hour } }

def duePass (n : Nat) (now : Time) : List Event :=
  [.openPass false, .readStore, .readBindings, .due 1, .readControllers, .claim true true,
    .work n (.quota (lazyQuota now)), .work n .ok, .work n .ok, .work n .ok, .work n .ok,
    .work n .ok, .work n .ok, .work n (.quota (lazyQuota now)), .work n .ok, .release, .closePass]

/-- A window that stays lazy is activated again when its suppression is over. -/
def lazyTwice : List Event :=
  [.enroll 1 {}, .bootstrap [⟨1, hour, lazyQuota hour⟩] true true] ++ duePass 0 hour ++
    .elapse 600000000000 0 :: duePass 1 (hour + 10 * minute)

theorem lazyTwice_verified :
    ∃ n s c seq, 12 < s ∧ s < c ∧ c < 30 ∧ 2 < seq ∧
      ReadStarts (worldAt hour (scripted lazyTwice) s) (scripted lazyTwice s) n 1 (some 1) seq ∧
      ReadReturns (worldAt hour (scripted lazyTwice) c) (scripted lazyTwice c) n 1 (some 1) seq ∧
      ∀ k, 12 < k → k ≤ c + 1 → ∃ stored,
        ((worldAt hour (scripted lazyTwice) k).slots 1).attempt = some stored ∧
          stored.attemptID = some 1 := by
  have hfirst : (worldAt hour (scripted lazyTwice) 12).posted (scripted lazyTwice 12) =
      some (1, ⟨some 1, [.fiveHour], .prepared, 2, hour, hour + 3 * second,
        hour + 10 * minute⟩) := by decide +kernel
  have hsecond : (worldAt hour (scripted lazyTwice) 30).posted (scripted lazyTwice 30) =
      some (1, ⟨some 2, [.fiveHour], .prepared, 5, hour + 10 * minute,
        hour + 10 * minute + 3 * second, hour + 20 * minute⟩) := by decide +kernel
  have hroster : ∀ k < 31,
      ((worldAt hour (scripted lazyTwice) (12 + k)).roster 1).isSome = true := by decide +kernel
  exact resend_needs_verification hour (scripted lazyTwice) 12 30 1 _ _ (by decide) hfirst hsecond
    fun k hak hkb => by
      have := hroster (k - 12) (by omega)
      rwa [Nat.add_sub_cancel' hak] at this

end QuotaScheduler.ProbeResend

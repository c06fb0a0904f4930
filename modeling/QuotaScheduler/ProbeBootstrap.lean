/- What a bootstrap does to windows on hold and to undated ones (probe_runtime.go). -/

import QuotaScheduler.ProbeAuthorization
import QuotaScheduler.ProbeStore
import QuotaScheduler.QuotaReadings

namespace QuotaScheduler.ProbeBootstrap

open List Option

open Account ProbeClassify ProbeState ProbeController ProbeStore ProbeAuthorization QuotaReadings
open Bootstrap (Context admitted hasten strictObservation learn revise create place)

def reviseSlot (c : Context) (x : Slot) (observedAt : Option Time) (q : QuotaWindow) : Slot :=
  match revise c x.window observedAt q with
  | none => x
  | some w =>
    { window := w
      attemptID :=
        if (rearmConfirmedProbeWindow x.window (observedAt.getD Time.zero) q c.now c.obs).isSome
        then .empty else x.attemptID }

def observeSlot (c : Context) (k : ProbeWindowKind) (slot : Option Slot) (a : ObservedAccount) :
    Option Slot :=
  match observedWindow a.quota k with
  | none => slot
  | some q =>
    match slot with
    | some x => some (reviseSlot c x (strictObservation c a) q)
    | none => some { window := create c (strictObservation c a) q }

/-- `bootstrapProbeWindows` on one slot, with the accounts bound to its instance. -/
def bootstrapSlot (c : Context) (accounts : List ObservedAccount) (k : ProbeWindowKind)
    (slot : Option Slot) : Option Slot :=
  if c.enableResetProbe then
    accounts.foldl (observeSlot c k)
      (slot.map fun x => { x with window := (hasten c x.window).getD x.window })
  else slot

variable {c : Context} {k : ProbeWindowKind} {x : Slot} {w : ProbeWindow} {q : QuotaWindow}
  {d : Duration} {o : RateLimitObject} {now : Time} {observedAt : Option Time}

theorem window_reviseSlot :
    (reviseSlot c x observedAt q).window = (revise c x.window observedAt q).getD x.window := by
  unfold reviseSlot
  cases revise c x.window observedAt q <;> rfl

theorem window_bootstrapSlot (c : Context) (accounts : List ObservedAccount) (ws : Windows)
    (k : ProbeWindowKind) (slot : Option Slot) (h : ws k = slot.map (·.window)) :
    (bootstrapSlot c accounts k slot).map (·.window) = (Bootstrap.windows c ws accounts).1 k := by
  unfold bootstrapSlot Bootstrap.windows
  cases c.enableResetProbe with
  | false => exact h.symm
  | true =>
  rw [if_pos rfl, if_pos rfl]
  have hstart : (place (fun k => (ws k).bind (hasten c)) (ws, false)).1 k =
      (slot.map fun x => { x with window := (hasten c x.window).getD x.window }).map
        Slot.window := by
    cases slot with
    | none => simp [place, h]
    | some x => cases hh : hasten c x.window <;> simp [place, h, hh]
  generalize (slot.map fun x => ({ x with window := (hasten c x.window).getD x.window } : Slot)) =
    slot at hstart ⊢
  generalize place (fun k => (ws k).bind (hasten c)) (ws, false) = acc at hstart ⊢
  induction accounts generalizing acc slot with
  | nil => exact hstart.symm
  | cons a rest ih =>
    refine ih _ _ ?_
    unfold observeSlot
    cases hq : observedWindow a.quota k with
    | none => simp [place, Bootstrap.observe, hq, hstart]
    | some q =>
      cases slot with
      | none =>
        simp [place, Bootstrap.observe, hq, hstart]
      | some x =>
        simp only [place, Bootstrap.observe, hq, hstart, bind_some, map_some, window_reviseSlot]
        cases revise c x.window (strictObservation c a) q <;> rfl

def Reserved (w : ProbeWindow) : Prop :=
  w.state = .sentAwaitingVerify ∨ w.state = .sentUnknown ∨ w.state = .authBlocked

def lengthless (w : ProbeWindow) : Bool :=
  decide (w.baseline.kind = .reset) && decide (w.baseline.windowLength = 0)

def lengthSource (accounts : List ObservedAccount) (k : ProbeWindowKind) :
    Option (ObservedAccount × QuotaWindow × Duration) :=
  accounts.findSome? fun a => (observedWindow a.quota k).bind fun q =>
    (probeWindowDuration q).map fun d => (a, q, d)

/-- Nothing is done, no length is learned, or one is with a confirmed roster from a used window. -/
def undisturbed (c : Context) (accounts : List ObservedAccount) (k : ProbeWindowKind)
    (w : ProbeWindow) : Bool :=
  !c.enableResetProbe || !lengthless w || (lengthSource accounts k).all fun s =>
    c.capabilityA && !(strictObservation c s.1).any (looksLikeStrictLazyObservation · s.2.1 s.2.2)

theorem Reserved.state_ne (h : Reserved w) :
    w.state ≠ .confirmed ∧ w.state ≠ .waitingReset ∧ w.state ≠ .pendingCheck ∧
      w.state ≠ .waitingRoster := by
  rcases h with h | h | h <;> simp [h]

theorem probeWindowDuration_pos (h : probeWindowDuration q = some d) : 0 < d := by
  unfold probeWindowDuration at h
  split at h
  · next s hs =>
    obtain rfl := some.inj h
    exact Int.mul_pos (by simpa using (filter_eq_some_iff.1 hs).2) (by decide)
  · split at h
    · obtain rfl := some.inj h
      decide
    · obtain rfl := some.inj h
      decide
    · cases h

theorem rearm_of_not_confirmed (h : w.state ≠ .confirmed) (observedAt : Time)
    (obs : Duration) : rearmConfirmedProbeWindow w observedAt q now obs = none := by
  unfold rearmConfirmedProbeWindow
  split
  · rw [if_pos (.inl h)]
  · rfl

theorem reviseSlot_eq (h : x.window.state ≠ .confirmed) (observedAt : Option Time)
    (q : QuotaWindow) :
    reviseSlot c x observedAt q = { x with
      window := if lengthless x.window then
        (probeWindowDuration q).elim x.window fun d => admitted c (learn c x.window observedAt q d)
        else x.window } := by
  have hlength : (x.window.baseline.kind = .reset ∧ x.window.baseline.windowLength = 0) ↔
      lengthless x.window = true := by simp [lengthless]
  unfold reviseSlot revise
  simp only [rearm_of_not_confirmed h, hlength, isSome_none, Bool.false_eq_true, if_false]
  cases lengthless x.window with
  | false => rfl
  | true => cases probeWindowDuration q <;> rfl

theorem foldl_observeSlot_settled (hstate : x.window.state ≠ .confirmed)
    (hlength : lengthless x.window = false) (accounts : List ObservedAccount) :
    accounts.foldl (observeSlot c k) (some x) = some x := by
  induction accounts with
  | nil => rfl
  | cons a rest ih =>
    have hround : observeSlot c k (some x) a = some x := by
      unfold observeSlot
      cases observedWindow a.quota k with
      | none => rfl
      | some q => simp [reviseSlot_eq hstate, hlength]
    rw [foldl_cons, hround, ih]

theorem learn_fields (h : w.state ≠ .waitingReset) (observedAt : Option Time) (q : QuotaWindow)
    (d : Duration) :
    (learn c w observedAt q d).baseline.windowLength = d ∧
      ((learn c w observedAt q d).state = w.state ∨
        (learn c w observedAt q d).state = .pendingCheck) := by
  simp only [learn, if_neg h]
  split
  · exact ⟨rfl, .inr rfl⟩
  · exact ⟨rfl, .inl rfl⟩

variable {accounts : List ObservedAccount}

theorem bootstrapSlot_of_reserved (henabled : c.enableResetProbe = true) (h : Reserved x.window) :
    bootstrapSlot c accounts k (some x) = some { x with
      window := if lengthless x.window then (lengthSource accounts k).elim x.window fun s =>
        admitted c (learn c x.window (strictObservation c s.1) s.2.1 s.2.2) else x.window } := by
  obtain ⟨hconfirmed, hwaiting, -⟩ := h.state_ne
  have hstart : bootstrapSlot c accounts k (some x) =
      accounts.foldl (observeSlot c k) (some x) := by
    simp [bootstrapSlot, henabled, hasten, hwaiting]
  rw [hstart]
  clear hstart
  cases hlength : lengthless x.window with
  | false => exact foldl_observeSlot_settled hconfirmed hlength accounts
  | true =>
    induction accounts with
    | nil => rfl
    | cons a rest ih =>
      rw [foldl_cons]
      cases hq : observedWindow a.quota k with
      | none => simpa [observeSlot, lengthSource, hq] using ih
      | some q =>
        cases hd : probeWindowDuration q with
        | none =>
          simpa [observeSlot, lengthSource, hq, hd, reviseSlot_eq hconfirmed, hlength] using ih
        | some d =>
          -- the length is there from now on
          have hround : observeSlot c k (some x) a = some { x with
              window := admitted c (learn c x.window (strictObservation c a) q d) } := by
            simp [observeSlot, hq, hd, reviseSlot_eq hconfirmed, hlength]
          obtain ⟨hlen, hstate⟩ := learn_fields (c := c) hwaiting (strictObservation c a) q d
          have hsource : lengthSource (a :: rest) k = some (a, q, d) := by
            simp [lengthSource, hq, hd]
          rw [hround, hsource, elim_some, if_pos rfl]
          refine foldl_observeSlot_settled ?_ ?_ rest
          · unfold admitted
            split
            · rcases hstate with hs | hs <;> simp [hs, hconfirmed]
            · simp
          · have hne : d ≠ 0 := (probeWindowDuration_pos hd).ne'
            unfold admitted lengthless
            split <;> simp [hlen, hne]

def unknownSend : Slot where
  window := { state := .sentUnknown, baseline := resetProbeBaseline (9 * hour) 0 0 }
  attemptID := .probe 3

def usedFiveHours : ObservedAccount :=
  ⟨1, hour, { fiveHour := some { kind := .fiveHour, usedPercent := some 40, resetAt := 9 * hour } }⟩

def source (o : RateLimitObject) (now : Time) (k : ProbeWindowKind) : Option WindowObject :=
  let kind := match k with
    | .fiveHour => isFiveHour
    | .long => isLong
  (fills kind ((positions o).zip (parseRateLimitWindows o now))).bind fun w =>
    match w.1 with
    | .primary => o.primaryWindow
    | .secondary => o.secondaryWindow

variable {raw : WindowObject}

theorem classifyWindow_fields (i : Nat) : (classifyWindow q i).resetAt = q.resetAt ∧
      (classifyWindow q i).usedPercent = q.usedPercent := by
  unfold classifyWindow
  split <;> split_ifs <;> exact ⟨rfl, rfl⟩

theorem source_spec (h : source o now k = some raw) :
    ∃ q, observedWindow (parseCodexUsagePayload (some o) now) k = some q ∧
      q.resetAt = (getResetAt raw now).getD .zero ∧ q.usedPercent = raw.usedPercent.map .num := by
  obtain ⟨⟨p, q⟩, hfill, hraw⟩ := bind_eq_some_iff.1 h
  refine ⟨q, ?_, ?_⟩
  · rw [parseCodexUsagePayload_reading]
    cases k <;> exact congrArg (Option.map Prod.snd) hfill
  · have hmem : (p, q) ∈ (positions o).zip (parseRateLimitWindows o now) :=
      (mem_filter.1 (mem_of_getLast? hfill)).1
    have hread : ∀ r fallback envelope i, r = raw →
        q = classifyWindow (parseQuotaWindow r now fallback envelope) i →
        q.resetAt = (getResetAt raw now).getD .zero ∧ q.usedPercent = raw.usedPercent.map .num := by
      rintro r fallback envelope i rfl rfl
      exact classifyWindow_fields i
    cases hp : o.primaryWindow <;> cases hs : o.secondaryWindow <;>
      simp [positions, parseRateLimitWindows, hp, hs] at hmem
    · obtain ⟨rfl, hq⟩ := hmem
      exact hread _ _ _ _ (by simpa [hs] using hraw) hq
    · obtain ⟨rfl, hq⟩ := hmem
      exact hread _ _ _ _ (by simpa [hp] using hraw) hq
    · rcases hmem with ⟨rfl, hq⟩ | ⟨rfl, hq⟩
      · exact hread _ _ _ _ (by simpa [hp] using hraw) hq
      · exact hread _ _ _ _ (by simpa [hs] using hraw) hq

theorem baseline_admitted : (admitted c w).baseline = w.baseline := by
  unfold admitted
  split <;> rfl

theorem baseline_ripen : (Bootstrap.ripen c w).baseline = w.baseline := by
  unfold Bootstrap.ripen
  split <;> rfl

theorem baseline_create : (create c observedAt q).baseline.kind = .reset ∧
      (create c observedAt q).baseline.resetAt = q.resetAt := by
  simp only [create, baseline_admitted]
  split
  · exact ⟨rfl, rfl⟩
  · simp only [baseline_ripen]
    exact ⟨rfl, rfl⟩

theorem kind_learn : (learn c w observedAt q d).baseline.kind = w.baseline.kind := by
  simp only [learn]
  split
  · rfl
  · split
    · rw [baseline_ripen]
    · rfl

theorem kind_reviseSlot (h : x.window.baseline.kind = .reset) :
    (reviseSlot c x observedAt q).window.baseline.kind = .reset := by
  rw [window_reviseSlot]
  unfold revise
  split
  · next w hw =>
    rw [getD_some, baseline_admitted]
    unfold rearmConfirmedProbeWindow at hw
    split at hw
    · split_ifs at hw <;> (cases hw; rfl)
    · cases hw
  · split
    · cases probeWindowDuration q with
      | none => exact h
      | some d =>
        rw [map_some, getD_some, baseline_admitted, kind_learn]
        exact h
    · exact h

theorem foldl_observeSlot_reset (h : x.window.baseline.kind = .reset) :
    ∃ x', accounts.foldl (observeSlot c k) (some x) = some x' ∧
      x'.window.baseline.kind = .reset := by
  induction accounts generalizing x with
  | nil => exact ⟨x, rfl, h⟩
  | cons a rest ih =>
    rw [foldl_cons, observeSlot]
    cases observedWindow a.quota k with
    | none => exact ih h
    | some q => exact ih (kind_reviseSlot h)

/-- A window a bootstrap creates has a reset baseline, whatever the quota shows. -/
theorem bootstrapSlot_creates (henabled : c.enableResetProbe = true)
    {accounts : List ObservedAccount}
    {a : ObservedAccount} (ha : a ∈ accounts) (hq : observedWindow a.quota k = some q) :
    ∃ x, bootstrapSlot c accounts k none = some x ∧ x.window.baseline.kind = .reset := by
  rw [bootstrapSlot, if_pos henabled]
  induction accounts with
  | nil => cases ha
  | cons b rest ih =>
    rw [foldl_cons, observeSlot]
    cases hb : observedWindow b.quota k with
    | none =>
      refine ih ((mem_cons.1 ha).resolve_left ?_)
      rintro rfl
      cases hb.symm.trans hq
    | some r => exact foldl_observeSlot_reset baseline_create.1

def undated : RateLimitObject where
  primaryWindow := some { usedPercent := some 0, resetAfterSeconds := some 18000 }
  secondaryWindow := some { usedPercent := some 40 }

def polled : ParsedQuota := parseCodexUsagePayload (some undated) hour

def datedWindow : ProbeWindow where
  state := .sentUnknown
  baseline := resetProbeBaseline (9 * hour) 60 0

end QuotaScheduler.ProbeBootstrap

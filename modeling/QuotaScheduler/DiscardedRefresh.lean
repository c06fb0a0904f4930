/- A run with and without its discarded refreshes (auth_transaction.go). -/

import QuotaScheduler.PluginActs
import QuotaScheduler.RefreshWrites

namespace QuotaScheduler.DiscardedRefresh

open Trial PluginRuntime PluginActs RefreshWrites List

def discards : Nat → List Event → Bool
  | _, [] => false
  | i, e :: es =>
    match e with
    | .refreshApply j accepted =>
      if j = i then !accepted else discards (if j < i then i - 1 else i) es
    | _ => discards i es

def withoutDiscarded : List Event → List Event
  | [] => []
  | e :: es =>
    match e with
    | .refreshRun i outcome =>
      if discards i es then withoutDiscarded es else .refreshRun i outcome :: withoutDiscarded es
    | e => e :: withoutDiscarded es

def discardsStop (w : Plugin) : List Event → Bool
  | [] => true
  | e :: es =>
    (match e with
      | .refreshRun i outcome =>
        !discards i es || w.txns[i]?.all fun t => t.ran || stops t.overlay t.auth t.version outcome
      | _ => true) && discardsStop (w.step e) es

variable {i : Nat}

@[simp]
theorem discards_of_not_ofTxn {e : Event} (he : ofTxn e = false) (es : List Event) :
    discards i (e :: es) = discards i es := by
  cases e <;> first | rfl | cases he

/-- Two plugins that differ only in transactions whose results are discarded. -/
structure Alike (es : List Event) (w w' : Plugin) : Prop where
  rest : w' = { w with txns := w'.txns }
  length : w'.txns.length = w.txns.length
  kept : ∀ i, discards i es = false → w'.txns[i]? = w.txns[i]?

variable {w w' : Plugin} {es : List Event}

theorem Alike.step (e : Event) (he : ofTxn e = false) (h : Alike (e :: es) w w') :
    Alike es (w.step e) (w'.step e) := by
  obtain ⟨hsame, hkept⟩ := step_txns w w'.txns e he
  have hrest : w'.step e = { w.step e with txns := w'.txns } := by
    rw [h.rest]
    exact hsame
  refine ⟨?_, ?_, fun i hi => ?_⟩
  · rw [hrest]
  · rw [hrest, hkept]
    exact h.length
  · rw [hrest, hkept]
    exact h.kept i (by rw [discards_of_not_ofTxn he]; exact hi)

theorem Alike.refreshBegin (auth : HostAuthFileEntry) (version : Nat)
    (h : Alike (.refreshBegin auth version :: es) w w') :
    Alike es (w.refreshBegin auth version) (w'.refreshBegin auth version) := by
  obtain ⟨hrest, hlength, hkept⟩ := h
  refine ⟨?_, ?_, fun i hi => ?_⟩
  · rw [hrest]
    rfl
  · simp [Plugin.refreshBegin, hlength]
  · have hstate : w'.state = w.state := by rw [hrest]
    simp only [Plugin.refreshBegin, getElem?_append, hlength, hstate]
    rw [hkept i hi]

theorem getElem?_set_eq {α : Type} {xs ys : List α} (hlength : ys.length = xs.length) {j : Nat}
    (h : ys[j]? = xs[j]?) (x : α) : (ys.set i x)[j]? = (xs.set i x)[j]? := by
  simp only [getElem?_set, hlength, h]

theorem Alike.refreshRun (i : Nat) (outcome : RefreshOutcome)
    (h : Alike (.refreshRun i outcome :: es) w w') (hi : discards i es = false) :
    Alike es (w.refreshRun i outcome) (w'.refreshRun i outcome) := by
  obtain ⟨txns, rfl⟩ : ∃ txns, w' = { w with txns := txns } := ⟨_, h.rest⟩
  have htxn : txns[i]? = w.txns[i]? := h.kept i hi
  have hset : ∀ t : Txn, ∀ j, discards j es = false → (txns.set i t)[j]? = (w.txns.set i t)[j]? :=
    fun t j hj => getElem?_set_eq h.length (h.kept j hj) t
  have hlength : ∀ t : Txn, (txns.set i t).length = (w.txns.set i t).length := by
    intro t
    rw [length_set, length_set]
    exact h.length
  unfold Plugin.refreshRun
  simp only [htxn]
  cases hfound : w.txns[i]? with
  | none => exact ⟨rfl, h.length, h.kept⟩
  | some t =>
    dsimp only
    split
    · exact ⟨rfl, h.length, h.kept⟩
    · split
      · exact ⟨rfl, hlength _, hset _⟩
      · exact ⟨rfl, hlength _, hset _⟩

theorem Alike.refreshRun_discarded (i : Nat) (outcome : RefreshOutcome)
    (h : Alike (.refreshRun i outcome :: es) w w') (hi : discards i es = true)
    (hstops : (w.txns[i]?.all fun t => t.ran || stops t.overlay t.auth t.version outcome) = true) :
    Alike es (w.refreshRun i outcome) w' := by
  have hsame : Alike es w w' := ⟨h.rest, h.length, h.kept⟩
  unfold Plugin.refreshRun
  cases hfound : w.txns[i]? with
  | none => exact hsame
  | some t =>
    dsimp only
    split
    · exact hsame
    · next hran =>
      have hstop : stops t.overlay t.auth t.version outcome = true := by
        simpa [hfound, hran] using hstops
      rw [refreshAuthVersionedHeld_of_stops hstop]
      refine ⟨h.rest, by simpa [Plugin.setTxn] using h.length, fun j hj => ?_⟩
      have hne : i ≠ j := by
        rintro rfl
        rw [hi] at hj
        cases hj
      simp only [Plugin.setTxn, getElem?_set_ne hne]
      exact h.kept j hj

theorem discards_refreshApply (i j : Nat) (accepted : Bool) :
    discards i (.refreshApply j accepted :: es) =
      if j = i then !accepted else discards (if j < i then i - 1 else i) es := rfl

theorem Alike.refreshApply (i : Nat) (accepted : Bool)
    (h : Alike (.refreshApply i accepted :: es) w w') :
    Alike es (w.refreshApply i accepted) (w'.refreshApply i accepted) := by
  obtain ⟨txns, rfl⟩ : ∃ txns, w' = { w with txns := txns } := ⟨_, h.rest⟩
  have hlength : txns.length = w.txns.length := h.length
  unfold Plugin.refreshApply
  by_cases hlt : i < w.txns.length
  · -- The positions above the one that is taken out move down by one.
    have herase : ∀ j, discards j es = false → (txns.eraseIdx i)[j]? = (w.txns.eraseIdx i)[j]? := by
      intro j hj
      rw [getElem?_eraseIdx, getElem?_eraseIdx]
      split
      · next hji =>
        refine h.kept j ?_
        rw [discards_refreshApply, if_neg (by omega), if_neg (by omega)]
        exact hj
      · next hji =>
        refine h.kept (j + 1) ?_
        rw [discards_refreshApply, if_neg (by omega), if_pos (by omega)]
        exact hj
    have hshorter : (txns.eraseIdx i).length = (w.txns.eraseIdx i).length := by
      simp [length_eraseIdx, hlength]
    rw [getElem?_eq_getElem hlt, getElem?_eq_getElem (by omega : i < txns.length)]
    cases accepted with
    | false => exact ⟨rfl, hshorter, herase⟩
    | true =>
      have htxn : txns[i]? = w.txns[i]? := h.kept i (by rw [discards_refreshApply, if_pos rfl]; rfl)
      have hsame : txns[i] = w.txns[i] := by
        rw [getElem?_eq_getElem hlt, getElem?_eq_getElem (by omega : i < txns.length)] at htxn
        exact Option.some.inj htxn
      simp only [hsame]
      split <;> exact ⟨rfl, hshorter, herase⟩
  · rw [getElem?_eq_none (by omega : w.txns.length ≤ i),
      getElem?_eq_none (by omega : txns.length ≤ i)]
    refine ⟨rfl, hlength, fun j hj => ?_⟩
    by_cases hji : j < i
    · refine h.kept j ?_
      rw [discards_refreshApply, if_neg (by omega), if_neg (by omega)]
      exact hj
    · rw [getElem?_eq_none (by omega : w.txns.length ≤ j)]
      exact getElem?_eq_none (by show txns.length ≤ j; omega)

theorem Alike.run (h : Alike es w w') (hstop : discardsStop w es = true) :
    Alike [] (w.run es) (w'.run (withoutDiscarded es)) := by
  induction es generalizing w w' with
  | nil => exact h
  | cons e es ih =>
    simp only [discardsStop, Bool.and_eq_true] at hstop
    cases e with
    | refreshBegin auth version => exact ih (h.refreshBegin auth version) hstop.2
    | refreshApply i accepted => exact ih (h.refreshApply i accepted) hstop.2
    | refreshRun i outcome =>
      cases hi : discards i es with
      | true =>
        have hrun : withoutDiscarded (.refreshRun i outcome :: es) = withoutDiscarded es := by
          simp [withoutDiscarded, hi]
        rw [hrun]
        have hstops := hstop.1
        simp only [hi, Bool.not_true, Bool.false_or] at hstops
        exact ih (h.refreshRun_discarded i outcome hi hstops) hstop.2
      | false =>
        have hrun : withoutDiscarded (.refreshRun i outcome :: es) =
            .refreshRun i outcome :: withoutDiscarded es := by
          simp [withoutDiscarded, hi]
        rw [hrun]
        exact ih (h.refreshRun i outcome hi) hstop.2
    | _ => exact ih (h.step _ rfl) hstop.2

/-- If discarded refreshes stop before an effect, the run is the one without them. -/
theorem discarded_refreshes_invisible (w : Plugin) (es : List Event)
    (h : discardsStop w es = true) :
    (w.run es).published = (w.run (withoutDiscarded es)).published ∧
      (w.run es).shared.trials = (w.run (withoutDiscarded es)).shared.trials ∧
      (w.run es).state = (w.run (withoutDiscarded es)).state := by
  have halike : Alike es w w := ⟨rfl, rfl, fun _ _ => rfl⟩
  have hrest := (halike.run h).rest
  rw [hrest]
  exact ⟨rfl, rfl, rfl⟩

private def overtaken : List Event :=
  [.sync [⟨"a", "", "codex", none⟩] true, .refreshBegin ⟨"a", "", "", "", "codex", 0⟩ 1,
    .sync [⟨"a", "", "codex", none⟩, ⟨"b", "", "codex", none⟩] true,
    .refreshRun 0 .admissionChanged,
    .refreshApply 0 false]

theorem overtaken_refresh_invisible :
    withoutDiscarded overtaken ≠ overtaken ∧
      ((initial 1).run overtaken).state = ((initial 1).run (withoutDiscarded overtaken)).state :=
  ⟨fun h => absurd (congrArg length h) (by decide),
    (discarded_refreshes_invisible (initial 1) overtaken (by decide +kernel)).2.2⟩

private def lateRead : List Event :=
  [.sync [⟨"a", "", "codex", none⟩] true, .refreshBegin ⟨"a", "", "", "", "codex", 0⟩ 1,
    .refreshRun 0 (.read "acct" ⟨.weekly, none,
      some { usedPercent := some 40, resetAt := 10 * hour }⟩),
    .refreshApply 0 false]

private def onTrial : Plugin :=
  { initial 1 with shared := ⟨(newTrialRegistry.tryBegin 0 1).2, []⟩ }

/-- The result was discarded, but picks see the account, and its trial is over. -/
theorem discarded_refresh_published :
    discards 0 (lateRead.drop 3) = true ∧
      ((onTrial.run lateRead).published.map fun s => s.accounts.map (·.id)) = some ["a"] ∧
      ((onTrial.run (withoutDiscarded lateRead)).published.map fun s => s.accounts.map (·.id)) =
        some [] ∧
      ((onTrial.run lateRead).shared.trials 0).isSome = false ∧
      ((onTrial.run (withoutDiscarded lateRead)).shared.trials 0).isSome = true :=
  ⟨by decide +kernel, by decide +kernel, by decide +kernel, by decide +kernel, by decide +kernel⟩

end QuotaScheduler.DiscardedRefresh

/- streamQuotaObserver (stream_observer.go) on a stream cut into chunks. -/

import QuotaScheduler.FrameAssembler

namespace QuotaScheduler.StreamObserver

open Lib.ByteStrings FrameAssembler List Function

def rateLimitsEventMarker : Bytes := ascii "codex.rate_limits"

def maxObserverBufferBytes : Nat := 2 ^ 20

def frameLooksLikeRateLimits (frame : Bytes) : Bool :=
  contains (frame.take 256) rateLimitsEventMarker

def sseEventData (frame : Bytes) : Bytes :=
  match ((frame.splitOn lf).map trimSpace).find? (ascii "data:").isPrefixOf with
  | some line => trimSpace (line.drop 5)
  | none => []

/-- The loop of `absorb`, with fuel for its bytes: the frames, and what is left. -/
def drain (handles : Bytes → Bool) : Nat → Bytes → List Bytes × Bytes
  | 0, buffer => ([], buffer)
  | n + 1, buffer =>
    match index blank buffer with
    | none => ([], buffer)
    | some i =>
      let rest := drain handles n (buffer.drop (i + 2))
      if handles (buffer.take i) then (buffer.take i :: rest.1, rest.2) else rest

def keepTail (buffer : Bytes) : Bytes :=
  if !contains buffer rateLimitsEventMarker &&
      decide (rateLimitsEventMarker.length < buffer.length) then
    buffer.drop (buffer.length - rateLimitsEventMarker.length)
  else buffer

/-- `absorb`: the frames it hands over, the buffer, and whether there are any. -/
def absorb (buffer chunk : Bytes) : List Bytes × Bytes :=
  let buffer :=
    if chunk.isEmpty then buffer
    else (if maxObserverBufferBytes < buffer.length + chunk.length then [] else buffer) ++ chunk
  let drained := drain frameLooksLikeRateLimits buffer.length buffer
  (drained.1, keepTail drained.2)

def observe : Bytes → List Bytes → List Bytes
  | _, [] => []
  | buffer, chunk :: chunks =>
    (absorb buffer chunk).1.map sseEventData ++ observe (absorb buffer chunk).2 chunks

section Frames

inductive Splits : Bytes → List Bytes → Bytes → Prop
  | last {s : Bytes} (h : index blank s = none) : Splits s [] s
  | frame {f s rest : Bytes} {fs : List Bytes} (h : index blank (f ++ [lf]) = none)
      (hs : Splits s fs rest) : Splits (f ++ (blank ++ s)) (f :: fs) rest

variable {s t f rest u : Bytes} {fs gs : List Bytes} {d n : Nat}

theorem Splits.index_rest (h : Splits s fs rest) : index blank rest = none := by
  induction h with
  | last h => exact h
  | frame _ _ ih => exact ih

theorem Splits.length_le (h : Splits s fs rest) : rest.length ≤ s.length := by
  induction h with
  | last h => exact le_rfl
  | frame _ _ ih =>
    simp only [length_append]
    omega

theorem Splits.eq_of_nil (h : Splits s [] rest) : rest = s := by
  cases h
  rfl

theorem Splits.append (h : Splits s fs rest) (ht : Splits (rest ++ t) gs u) :
    Splits (s ++ t) (fs ++ gs) u := by
  induction h with
  | last h => exact ht
  | frame hf hs ih =>
    rw [append_assoc, append_assoc]
    exact .frame hf (ih ht)

theorem index_blank_drop (h : index blank s = none) (d : Nat) : index blank (s.drop d) = none := by
  induction d generalizing s with
  | zero => exact h
  | succ d ih =>
    cases s with
    | nil => rfl
    | cons b s => exact ih ((index_blank_cons b s).mp h).2

/-- The first frame of a text ends where its first blank line starts. -/
theorem frame_of_index {i : Nat} (h : index blank s = some i) :
    s = s.take i ++ (blank ++ s.drop (i + 2)) ∧ index blank (s.take i ++ [lf]) = none := by
  induction s generalizing i with
  | nil => cases h
  | cons b s ih =>
    rw [index] at h
    split at h
    · next hprefix =>
      cases h
      obtain ⟨rfl, hhead⟩ := (blank_isPrefixOf b s).mp hprefix
      obtain ⟨s, rfl⟩ := head?_eq_some_iff.mp hhead
      exact ⟨rfl, rfl⟩
    · next hprefix =>
      obtain ⟨j, hj, rfl⟩ := Option.map_eq_some_iff.mp h
      obtain ⟨hs, hnone⟩ := ih hj
      refine ⟨congrArg (b :: ·) hs, (index_blank_cons b _).mpr ⟨fun hb => hprefix ?_, hnone⟩⟩
      refine (blank_isPrefixOf b s).mpr ⟨hb.1, ?_⟩
      rw [hs]
      cases j with
      | zero => rfl
      | succ j =>
        cases s with
        | nil => cases hj
        | cons c s => exact hb.2

theorem exists_splits (s : Bytes) : ∃ fs rest, Splits s fs rest := by
  induction hn : s.length using Nat.strong_induction_on generalizing s with
  | h n ih =>
    cases hi : index blank s with
    | none => exact ⟨[], s, .last hi⟩
    | some i =>
      obtain ⟨hs, hnone⟩ := frame_of_index hi
      have hlen := congrArg length hs
      simp only [length_append, blank, length_cons] at hlen
      obtain ⟨fs, rest, hsplits⟩ := ih _ (by omega) (s.drop (i + 2)) rfl
      have hframe := Splits.frame hnone hsplits
      rw [← hs] at hframe
      exact ⟨_, _, hframe⟩

theorem drain_of_splits {handles : Bytes → Bool} (h : Splits s fs rest) (hn : s.length ≤ n) :
    drain handles n s = (fs.filter handles, rest) := by
  induction h generalizing n with
  | last h =>
    cases n with
    | zero => rfl
    | succ n => rw [drain, h]; rfl
  | @frame f s rest fs hf _ ih =>
    simp only [length_append, blank, length_cons] at hn
    obtain ⟨m, rfl⟩ : ∃ m, n = m + 1 := ⟨n - 1, by omega⟩
    have hdrop : (f ++ (blank ++ s)).drop (f.length + 2) = s := by
      rw [drop_append, drop_of_length_le (by omega), Nat.add_sub_cancel_left]
      rfl
    rw [drain, index_blank_frame s hf]
    simp only [hdrop, take_left', ih (n := m) (by omega), filter_cons]
    split <;> rfl

/-- All the frames of a text, and what is behind them. -/
def frames (s : Bytes) : List Bytes × Bytes := drain (fun _ => true) s.length s

theorem frames_of_splits (h : Splits s fs rest) : frames s = (fs, rest) := by
  rw [frames, drain_of_splits h le_rfl, filter_true]

/-- A text without its first bytes: within its first frame, only that changes. -/
theorem Splits.drop (h : Splits (t ++ u) fs rest) (ht : index blank t = none)
    (hd : d ≤ t.length - 1) :
    Splits (t.drop d ++ u) (fs.modifyHead (drop d)) (if fs.isEmpty then rest.drop d else rest) := by
  rw [← drop_append_of_le_length (hd.trans (Nat.sub_le _ _))]
  generalize hs : t ++ u = s at h
  cases h with
  | last h => exact .last (index_blank_drop h d)
  | @frame f s rest fs hf hrest =>
    have hfit : d ≤ f.length := by
      by_contra hlong
      -- else the blank line behind the frame is in the text before
      obtain ⟨v, hv⟩ : f ++ blank <+: t := by
        have hframe : f ++ blank <+: f ++ (blank ++ s) := ⟨s, by simp⟩
        refine prefix_of_prefix_length_le hframe (hs ▸ prefix_append t u) ?_
        simp only [length_append, blank, length_cons, length_nil]
        omega
      rw [← hv, append_assoc, index_blank_frame v hf] at ht
      cases ht
    rw [drop_append_of_le_length hfit]
    refine .frame ?_ hrest
    rw [← drop_append_of_le_length hfit]
    exact index_blank_drop hf d

end Frames

section Chunks

/-- The bytes gone from the start of an unfinished frame after a chunk, `d` before it. -/
def gone (d : Nat) (unfinished : Bytes) : Nat :=
  unfinished.length - (keepTail (unfinished.drop d)).length

/-- The frames of a stream, each with the number of bytes gone when it is complete. -/
def marked : Bytes → Nat → List Bytes → List (Bytes × Nat)
  | _, _, [] => []
  | unfinished, d, chunk :: chunks =>
    match frames (unfinished ++ chunk) with
    | ([], rest) => marked rest (gone d rest) chunks
    | (f :: fs, rest) => (f, d) :: fs.map (·, 0) ++ marked rest (gone 0 rest) chunks

def reports (frames : List Bytes) : List Bytes :=
  (frames.filter frameLooksLikeRateLimits).map sseEventData

variable {t : Bytes} {d : Nat} {chunks : List Bytes}

theorem keepTail_drop (hd : d ≤ t.length - 1) :
    keepTail (t.drop d) = t.drop (gone d t) ∧ gone d t ≤ t.length - 1 := by
  have hlen : rateLimitsEventMarker.length = 17 := rfl
  unfold gone keepTail
  simp only [hlen, length_drop]
  split_ifs with h
  · rw [drop_drop, length_drop]
    exact ⟨congrArg t.drop (by omega), by omega⟩
  · rw [length_drop]
    exact ⟨congrArg t.drop (by omega), by omega⟩

theorem marked_frames (ht : index blank t = none) :
    (marked t d chunks).map Prod.fst = (frames (t ++ chunks.flatten)).1 := by
  induction chunks generalizing t d with
  | nil =>
    rw [flatten_nil, append_nil, frames_of_splits (.last ht)]
    rfl
  | cons chunk chunks ih =>
    obtain ⟨fs, rest, hsplits⟩ := exists_splits (t ++ chunk)
    obtain ⟨gs, u, hlater⟩ := exists_splits (rest ++ chunks.flatten)
    have hrest := fun d => @ih rest d hsplits.index_rest
    rw [frames_of_splits hlater] at hrest
    rw [flatten_cons, ← append_assoc, frames_of_splits (hsplits.append hlater), marked,
      frames_of_splits hsplits]
    cases fs with
    | nil => exact hrest _
    | cons f fs =>
      rw [map_append, hrest]
      simp [comp_def]

theorem reports_append (fs gs : List Bytes) : reports (fs ++ gs) = reports fs ++ reports gs := by
  rw [reports, filter_append, map_append]
  rfl

theorem observe_eq (ht : index blank t = none) (hd : d ≤ t.length - 1)
    (hsize : t.length + chunks.flatten.length < maxObserverBufferBytes) :
    observe (t.drop d) chunks = reports ((marked t d chunks).map fun f => f.1.drop f.2) := by
  induction chunks generalizing t d with
  | nil => rfl
  | cons chunk chunks ih =>
    rw [flatten_cons, length_append] at hsize
    have hbuffer : (if chunk.isEmpty then t.drop d else
        (if maxObserverBufferBytes < (t.drop d).length + chunk.length then [] else t.drop d) ++
          chunk) = t.drop d ++ chunk := by
      have hroom : ¬maxObserverBufferBytes < (t.drop d).length + chunk.length := by
        rw [length_drop]
        omega
      rw [if_neg hroom]
      cases chunk <;> simp
    obtain ⟨fs, rest, hsplits⟩ := exists_splits (t ++ chunk)
    have hlength := hsplits.length_le
    rw [length_append] at hlength
    have hlater : ∀ d ≤ rest.length - 1, observe (keepTail (rest.drop d)) chunks =
        reports ((marked rest (gone d rest) chunks).map fun f => f.1.drop f.2) := by
      intro d hd
      obtain ⟨hkept, hgone⟩ := keepTail_drop hd
      rw [hkept]
      exact ih hsplits.index_rest hgone (by omega)
    rw [observe, absorb, hbuffer, drain_of_splits (hsplits.drop ht hd) le_rfl, marked,
      frames_of_splits hsplits]
    cases fs with
    | nil =>
      refine hlater d ?_
      rw [hsplits.eq_of_nil, length_append]
      omega
    | cons f fs =>
      have hnow : ((f, d) :: fs.map (·, 0)).map (fun f => f.1.drop f.2) = f.drop d :: fs := by
        simp [comp_def]
      rw [map_append, reports_append, hnow]
      exact congrArg (reports (f.drop d :: fs) ++ ·) (hlater 0 (Nat.zero_le _))

/-- A chunk may end in the first bytes of a frame, up to the length of the marker, behind the marker
in it, and anywhere in a frame without the marker. -/
def cutFits (unfinished later : Bytes) : Bool :=
  decide (unfinished.length ≤ rateLimitsEventMarker.length) ||
    contains unfinished rateLimitsEventMarker ||
    !(frames (unfinished ++ later)).1.head?.any fun f : Bytes => contains f rateLimitsEventMarker

def cutsFit : Bytes → List Bytes → Bool
  | _, [] => true
  | unfinished, chunk :: chunks =>
    cutFits (frames (unfinished ++ chunk)).2 chunks.flatten &&
      cutsFit (frames (unfinished ++ chunk)).2 chunks

/-- No byte of the first frame of a text is gone, or that frame has no marker. -/
def Spared (text : Bytes) (d : Nat) : Prop :=
  d = 0 ∨ ∀ f ∈ (frames text).1.head?, contains f rateLimitsEventMarker = false

theorem gone_spared {rest later : Bytes} (hfit : cutFits rest later = true)
    (hd : Spared (rest ++ later) d) : Spared (rest ++ later) (gone d rest) := by
  rcases hd with rfl | hnone
  · rw [cutFits, Bool.or_eq_true, Bool.or_eq_true] at hfit
    rcases hfit with (hshort | hmarker) | hother
    · refine .inl ?_
      simp [gone, keepTail, of_decide_eq_true hshort]
    · refine .inl ?_
      simp [gone, keepTail, hmarker]
    · refine .inr fun f hf => ?_
      rw [Option.mem_def.mp hf] at hother
      simpa using hother
  · exact .inr hnone

theorem looksLike_drop {f : Bytes} (h : contains f rateLimitsEventMarker = false) (d : Nat) :
    frameLooksLikeRateLimits (f.drop d) = false := by
  rw [frameLooksLikeRateLimits, ← Bool.not_eq_true, contains_iff]
  rw [← Bool.not_eq_true, contains_iff] at h
  intro hmarker
  have hhead := hmarker.trans <| IsPrefix.isInfix <| take_prefix _ (f.drop d)
  exact h (hhead.trans (drop_suffix d f).isInfix)

theorem reports_cons (f : Bytes) (fs : List Bytes) :
    reports (f :: fs) = reports [f] ++ reports fs := reports_append [f] fs

theorem reports_spared {f : Bytes} (h : d = 0 ∨ contains f rateLimitsEventMarker = false) :
    reports [f.drop d] = reports [f] := by
  rcases h with rfl | hnone
  · rfl
  · have hwhole := looksLike_drop hnone 0
    rw [drop_zero] at hwhole
    rw [reports, reports, filter_singleton, filter_singleton, looksLike_drop hnone d, hwhole]
    rfl

/-- Along the chunks, a frame that has lost bytes is one that is not reported. -/
theorem reports_marked (hd : Spared (t ++ chunks.flatten) d) (hfit : cutsFit t chunks = true) :
    reports ((marked t d chunks).map fun f => f.1.drop f.2) =
      reports ((marked t d chunks).map Prod.fst) := by
  induction chunks generalizing t d with
  | nil => rfl
  | cons chunk chunks ih =>
    obtain ⟨fs, rest, hsplits⟩ := exists_splits (t ++ chunk)
    obtain ⟨gs, u, hlater⟩ := exists_splits (rest ++ chunks.flatten)
    have hwhole := frames_of_splits (hsplits.append hlater)
    rw [cutsFit, frames_of_splits hsplits, Bool.and_eq_true] at hfit
    rw [flatten_cons, ← append_assoc] at hd
    have hgone : ∀ d, Spared (rest ++ chunks.flatten) d →
        reports ((marked rest (gone d rest) chunks).map fun f => f.1.drop f.2) =
          reports ((marked rest (gone d rest) chunks).map Prod.fst) :=
      fun d hd => ih (gone_spared hfit.1 hd) hfit.2
    rw [marked, frames_of_splits hsplits]
    cases fs with
    | nil =>
      refine hgone d ?_
      rwa [hsplits.eq_of_nil]
    | cons f fs =>
      have hfirst : d = 0 ∨ contains f rateLimitsEventMarker = false := by
        refine hd.imp_right fun hnone => hnone f ?_
        rw [hwhole]
        rfl
      have hnow : reports ((fs.map (·, 0)).map fun f => f.1.drop f.2) =
          reports ((fs.map (·, 0)).map Prod.fst) := by
        simp [comp_def]
      simp only [cons_append, map_cons, map_append]
      rw [reports_cons, reports_cons f, reports_append, reports_append, hnow,
        hgone 0 (.inl rfl), reports_spared hfirst]

/-- The first chunk ends before the marker, and the start of the data is gone. -/
def beforeMarker : List Bytes :=
  [ascii "data: \x7b\"account\":\"example\",\"type\":\"", ascii "codex.rate_limits\"\x7d\n\n"]

def afterMarker : List Bytes :=
  [ascii "event: codex.rate_limits\ndata: ", ascii "\x7b\x7d\n", ascii "\ndata: "]

end Chunks

end QuotaScheduler.StreamObserver

/- retryFrameAssembler (retry_runtime.go) on a stream of frames cut into chunks. -/

import Mathlib.Data.List.Infix
import QuotaScheduler.RetryFrames

namespace QuotaScheduler.FrameAssembler

open Lib.ByteStrings Lib.JsonText RetryFrames List Option

def blank : Bytes := [lf, lf]

/-- A backing array once bytes have been copied to its front. -/
def overwrite (array bytes : Bytes) : Bytes := bytes ++ array.drop bytes.length

def decisive (v : FrameVerdict) : Bool := decide (v.disposition ≠ .handshake)

def drain (protocol : Protocol) : Nat → Bytes → Bytes × Option FrameVerdict
  | 0, pending => (pending, none)
  | n + 1, pending =>
    match index blank pending with
    | none => (pending, none)
    | some i =>
      let rest := pending.drop (i + 2)
      -- `frame` is the first bytes of the array, which by now starts with `rest`
      let frame := (overwrite pending rest).take i
      let verdict := classifyFrame frame protocol
      if decisive verdict then (rest, some verdict) else drain protocol n rest

/-- `retryFrameAssembler.absorb`: the bytes left pending, and a decisive verdict. -/
def absorb (protocol : Protocol) (pending payload : Bytes) : Bytes × Option FrameVerdict :=
  if payload.isEmpty then (pending, none)
  else
    match drain protocol (pending ++ payload).length (pending ++ payload) with
    | (rest, some verdict) => (rest, some verdict)
    | (rest, none) =>
      let trimmed := trimSpace rest
      if !trimmed.isEmpty && valid trimmed then
        let verdict := classifyFrame trimmed protocol
        if decisive verdict then (rest, some verdict) else ([], none)
      else (rest, none)

def feed (protocol : Protocol) : Nat → Bytes → List Bytes → Option (Nat × FrameVerdict)
  | _, _, [] => none
  | fed, pending, chunk :: chunks =>
    match absorb protocol pending chunk with
    | (_, some verdict) => some (fed + chunk.length, verdict)
    | (pending', none) => feed protocol (fed + chunk.length) pending' chunks

def SSELine (line : Bytes) : Prop :=
  lf ∉ line ∧ ∃ name ∈ [ascii "data", ascii "event", ascii "id", ascii "retry", ascii ":"],
    name <+: line

def SSEFrame (frame : Bytes) : Prop :=
  ∃ lines : List Bytes, lines ≠ [] ∧ (∀ line ∈ lines, SSELine line) ∧ frame = [lf].intercalate lines

def stream (frames : List Bytes) : Bytes := (frames.map (· ++ blank)).flatten

def verdicts (protocol : Protocol) : Nat → List Bytes → List (Nat × FrameVerdict)
  | _, [] => []
  | start, frame :: frames =>
    (start + frame.length + 2, classifyFrame frame protocol) ::
      verdicts protocol (start + frame.length + 2) frames

def fedAt : List Bytes → Nat → Nat
  | [], _ => 0
  | chunk :: chunks, n =>
    if n ≤ chunk.length then chunk.length else chunk.length + fedAt chunks (n - chunk.length)

def masked (frame bytes : Bytes) : Bytes := (overwrite frame bytes).take frame.length

/-- The verdicts on the frames, each overwritten by what lies behind it in its last chunk. -/
def overwritten (protocol : Protocol) (chunks : List Bytes) :
    Nat → List Bytes → List (Nat × FrameVerdict)
  | _, [] => []
  | start, frame :: frames =>
    let fin := start + frame.length + 2
    let behind := (chunks.flatten.take (fedAt chunks fin)).drop fin
    (fedAt chunks fin, classifyFrame (masked frame behind) protocol) ::
      overwritten protocol chunks fin frames

def firstDecisive (l : List (Nat × FrameVerdict)) : Option (Nat × FrameVerdict) :=
  l.find? fun p => decisive p.2

/-- Each frame, up to the first that is no handshake, ends where a chunk ends. -/
def endChunks (protocol : Protocol) (chunks : List Bytes) : Nat → List Bytes → Bool
  | _, [] => true
  | start, frame :: frames =>
    let fin := start + frame.length + 2
    decide (fin ∈ chunks.inits.map fun read => read.flatten.length) &&
      (decisive (classifyFrame frame protocol) || endChunks protocol chunks fin frames)

theorem blank_isPrefixOf (b : UInt8) (s : Bytes) :
    blank.isPrefixOf (b :: s) = true ↔ b = lf ∧ s.head? = some lf := by
  cases s with
  | nil => simp [blank, isPrefixOf]
  | cons c s =>
    simp only [blank, isPrefixOf, Bool.and_eq_true, beq_iff_eq, head?_cons, some.injEq, and_true]
    exact ⟨fun h => ⟨h.1.symm, h.2.symm⟩, fun h => ⟨h.1.symm, h.2.symm⟩⟩

theorem index_blank_cons (b : UInt8) (s : Bytes) :
    index blank (b :: s) = none ↔ ¬(b = lf ∧ s.head? = some lf) ∧ index blank s = none := by
  rw [← blank_isPrefixOf]
  simp only [index]
  split_ifs with h
  · simp [h]
  · simp [h]

theorem index_blank_of_append {s t : Bytes} (h : index blank (s ++ t) = none) :
    index blank s = none := by
  induction s with
  | nil => rfl
  | cons b s ih =>
    obtain ⟨hhead, htail⟩ := (index_blank_cons b (s ++ t)).mp h
    refine (index_blank_cons b s).mpr ⟨?_, ih htail⟩
    rintro ⟨hb, hs⟩
    refine hhead ⟨hb, ?_⟩
    cases s with
    | nil => cases hs
    | cons c s => exact hs

theorem index_blank_frame {frame : Bytes} (rest : Bytes) (h : index blank (frame ++ [lf]) = none) :
    index blank (frame ++ (blank ++ rest)) = some frame.length := by
  induction frame with
  | nil => rfl
  | cons b frame ih =>
    obtain ⟨hhead, htail⟩ := (index_blank_cons b (frame ++ [lf])).mp h
    have hnot : blank.isPrefixOf (b :: (frame ++ (blank ++ rest))) = false := by
      rw [Bool.eq_false_iff]
      intro hprefixOf
      obtain ⟨hb, hs⟩ := (blank_isPrefixOf _ _).mp hprefixOf
      refine hhead ⟨hb, ?_⟩
      cases frame with
      | nil => rfl
      | cons c frame => exact hs
    rw [cons_append, index, hnot, if_neg (by decide), ih htail]
    rfl

theorem index_blank_append {line : Bytes} (hline : lf ∉ line) {s : Bytes}
    (h : index blank s = none) : index blank (line ++ s) = none := by
  induction line with
  | nil => exact h
  | cons b line ih =>
    obtain ⟨hb, hrest⟩ := ne_and_not_mem_of_not_mem_cons hline
    exact (index_blank_cons b (line ++ s)).mpr ⟨fun hhead => hb hhead.1.symm, ih hrest⟩

section FrameBytes

def lineHeads : List UInt8 := [100, 101, 105, 114, 58]

theorem head_of_line {line : Bytes} (h : SSELine line) : ∃ b t, line = b :: t ∧ b ∈ lineHeads := by
  obtain ⟨-, name, hname, t, rfl⟩ := h
  have hheads : ∀ name ∈ [ascii "data", ascii "event", ascii "id", ascii "retry", ascii ":"],
      ∃ b ∈ lineHeads, name.head? = some b := by decide +kernel
  obtain ⟨b, hb, hhead⟩ := hheads name hname
  obtain ⟨n, rfl⟩ : ∃ n, name = b :: n := head?_eq_some_iff.mp hhead
  exact ⟨b, n ++ t, rfl, hb⟩

variable {frame : Bytes}

theorem head_of_frame (h : SSEFrame frame) : ∃ b t, frame = b :: t ∧ b ∈ lineHeads := by
  obtain ⟨lines, hne, hlines, rfl⟩ := h
  cases lines with
  | nil => exact absurd rfl hne
  | cons line lines =>
    obtain ⟨b, t, rfl, hb⟩ := head_of_line (hlines line mem_cons_self)
    cases lines with
    | nil => exact ⟨b, t, by simp, hb⟩
    | cons line' lines => exact ⟨b, _, by rfl, hb⟩

theorem index_blank_of_frame (h : SSEFrame frame) : index blank (frame ++ [lf]) = none := by
  obtain ⟨lines, hne, hlines, rfl⟩ := h
  induction lines with
  | nil => exact absurd rfl hne
  | cons line lines ih =>
    have hline := hlines line mem_cons_self
    cases lines with
    | nil =>
      rw [intercalate_singleton]
      exact index_blank_append hline.1 rfl
    | cons line' lines =>
      have hrest : ∀ l ∈ line' :: lines, SSELine l := fun l hl => hlines l (mem_cons_of_mem _ hl)
      have htail := ih (by simp) hrest
      rw [intercalate_cons_cons, append_assoc, append_assoc]
      refine index_blank_append hline.1 ((index_blank_cons lf _).mpr ⟨?_, htail⟩)
      -- the next line starts with something other than LF
      obtain ⟨b, t, hframe, hb⟩ := head_of_frame ⟨line' :: lines, by simp, hrest, rfl⟩
      rintro ⟨-, hhead⟩
      rw [hframe] at hhead
      obtain rfl : b = lf := some.inj hhead
      exact absurd hb (by decide)

theorem piece_not_valid {piece : Bytes} (hframe : SSEFrame frame)
    (hpiece : piece <+: frame ++ [lf]) :
    (!(trimSpace piece).isEmpty && valid (trimSpace piece)) = false := by
  cases piece with
  | nil => rfl
  | cons b piece =>
    obtain ⟨b', t, rfl, hb⟩ := head_of_frame hframe
    obtain rfl : b = b' := by
      obtain ⟨u, hu⟩ := hpiece
      exact (cons.inj hu).1
    have hheads : ∀ b ∈ lineHeads, startsNoSpace b = true ∧
        (beginValue false [] b).isNone = true := by
      decide +kernel
    obtain ⟨hspace, hbegin⟩ := hheads b hb
    obtain ⟨m, hm⟩ := trimSpace_cons hspace
    rw [hm]
    cases m with
    | zero => rfl
    | succ m =>
      have hparse := parse_cons_of_beginValue (piece.take m) (isNone_iff_eq_none.mp hbegin)
      simp [valid, hparse]

end FrameBytes

section Loop

theorem overwrite_take (frame rest : Bytes) :
    (overwrite (frame ++ (blank ++ rest)) rest).take frame.length = masked frame rest := by
  unfold masked overwrite
  rcases Nat.le_total rest.length frame.length with hle | hle
  · rw [drop_append_of_le_length hle, ← append_assoc]
    rw [take_append_of_le_length]
    rw [length_append, length_drop]
    omega
  · rw [take_append_of_le_length hle, take_append_of_le_length hle]

def readings (protocol : Protocol) (buffer : Bytes) : Nat → List Bytes → List FrameVerdict
  | _, [] => []
  | start, frame :: frames =>
    let fin := start + frame.length + 2
    classifyFrame (masked frame (buffer.drop fin)) protocol :: readings protocol buffer fin frames

theorem readings_drop (protocol : Protocol) (buffer : Bytes) (k start : Nat) (frames : List Bytes) :
    readings protocol (buffer.drop k) start frames =
      readings protocol buffer (k + start) frames := by
  induction frames generalizing start with
  | nil => rfl
  | cons frame frames ih =>
    simp only [readings, drop_drop, ih]
    rw [← Nat.add_assoc, ← Nat.add_assoc]

def Partial (piece : Bytes) : List Bytes → Prop
  | [] => piece = []
  | frame :: _ => piece.length < frame.length + 2

theorem stream_cons (frame : Bytes) (frames : List Bytes) :
    stream (frame :: frames) = frame ++ (blank ++ stream frames) := by
  simp [stream]

theorem stream_append (done rest : List Bytes) :
    stream (done ++ rest) = stream done ++ stream rest := by
  simp [stream]

theorem length_stream_cons (frame : Bytes) (frames : List Bytes) :
    (stream (frame :: frames)).length = frame.length + 2 + (stream frames).length := by
  rw [stream_cons]
  simp only [length_append, blank, length_cons, length_nil]
  omega

variable {piece frame buffer : Bytes} {frames : List Bytes}

theorem piece_isPrefix {rest : Bytes} (hsplit : piece ++ rest = stream (frame :: frames))
    (h : piece.length < frame.length + 2) : piece <+: frame ++ [lf] := by
  have hprefixOf : piece <+: (frame ++ [lf]) ++ (lf :: stream frames) := by
    refine ⟨rest, ?_⟩
    rw [hsplit, stream_cons]
    simp [blank]
  refine prefix_of_prefix_length_le hprefixOf (prefix_append _ _) ?_
  rw [length_append, length_singleton]
  omega

theorem Partial.not_valid {rest : Bytes} (h : Partial piece frames)
    (hframes : ∀ f ∈ frames, SSEFrame f) (hsplit : piece ++ rest = stream frames) :
    (!(trimSpace piece).isEmpty && valid (trimSpace piece)) = false := by
  cases frames with
  | nil =>
    obtain rfl : piece = [] := h
    rfl
  | cons frame frames =>
    exact piece_not_valid (hframes frame mem_cons_self) (piece_isPrefix hsplit h)

theorem starts_with_frame {later : Bytes} (hsplit : buffer ++ later = stream (frame :: frames))
    (hlong : ¬buffer.length < frame.length + 2) :
    ∃ rest, buffer = frame ++ (blank ++ rest) ∧ rest ++ later = stream frames := by
  have hlen : (frame ++ blank).length ≤ buffer.length := by
    rw [length_append]
    exact Nat.not_lt.mp hlong
  have hle : frame ++ blank <+: buffer := by
    refine prefix_of_prefix_length_le ?_ ⟨later, hsplit⟩ hlen
    exact prefix_append _ _
  obtain ⟨rest, rfl⟩ := hle
  refine ⟨rest, append_assoc _ _ _, ?_⟩
  rw [stream_cons, append_assoc, append_assoc] at hsplit
  exact append_cancel_left (append_cancel_left hsplit)

theorem drop_frame (frame rest : Bytes) :
    (frame ++ (blank ++ rest)).drop (frame.length + 2) = rest := by
  rw [← append_assoc]
  exact drop_left' (by simp [blank])

theorem drain_of_index_none (protocol : Protocol) (n : Nat) (h : index blank buffer = none) :
    drain protocol n buffer = (buffer, none) := by
  cases n with
  | zero => rfl
  | succ n => simp only [drain, h]

theorem drain_frame (protocol : Protocol) (n : Nat) (hframe : SSEFrame frame) (rest : Bytes) :
    drain protocol (n + 1) (frame ++ (blank ++ rest)) =
      if decisive (classifyFrame (masked frame rest) protocol) then
        (rest, some (classifyFrame (masked frame rest) protocol))
      else drain protocol n rest := by
  have hindex := index_blank_frame rest (index_blank_of_frame hframe)
  simp only [drain, hindex, drop_frame, overwrite_take]

theorem readings_frame (protocol : Protocol) (frame rest : Bytes) (done : List Bytes) :
    readings protocol (frame ++ (blank ++ rest)) 0 (frame :: done) =
      classifyFrame (masked frame rest) protocol :: readings protocol rest 0 done := by
  have hmove := readings_drop protocol (frame ++ (blank ++ rest)) (frame.length + 2) 0 done
  rw [drop_frame] at hmove
  simp only [readings, Nat.zero_add, drop_frame, hmove, Nat.add_zero]

/-- The loop takes off complete frames up to the first with a decisive reading. -/
theorem drain_spec (protocol : Protocol) (hframes : ∀ f ∈ frames, SSEFrame f) (n : Nat)
    (buffer later : Bytes) (hsplit : buffer ++ later = stream frames) (hfuel : buffer.length ≤ n) :
    ∃ done rest piece, frames = done ++ rest ∧ buffer = stream done ++ piece ∧ Partial piece rest ∧
      (drain protocol n buffer).2 = (readings protocol buffer 0 done).find? decisive ∧
      ((drain protocol n buffer).2 = none → (drain protocol n buffer).1 = piece) := by
  induction frames generalizing n buffer with
  | nil =>
    obtain ⟨rfl, -⟩ := append_eq_nil_iff.mp hsplit
    refine ⟨[], [], [], rfl, rfl, rfl, ?_, fun _ => ?_⟩
    · cases n <;> rfl
    · cases n <;> rfl
  | cons frame frames ih =>
    have hframe := hframes frame mem_cons_self
    by_cases hshort : buffer.length < frame.length + 2
    · have hnone : index blank buffer = none := by
        obtain ⟨u, hu⟩ := piece_isPrefix hsplit hshort
        have hfree := index_blank_of_frame hframe
        rw [← hu] at hfree
        exact index_blank_of_append hfree
      have hdrain := drain_of_index_none protocol n hnone
      exact ⟨[], frame :: frames, buffer, rfl, rfl, hshort, by rw [hdrain]; rfl,
        fun _ => by rw [hdrain]⟩
    · -- the buffer holds the frame, its terminator and more
      obtain ⟨rest, rfl, hsplit'⟩ := starts_with_frame hsplit hshort
      obtain ⟨n, rfl⟩ : ∃ m, n = m + 1 := by
        refine Nat.exists_eq_succ_of_ne_zero ?_
        rintro rfl
        simp [blank] at hfuel
      have hfuel' : rest.length ≤ n := by
        simp only [length_append, blank, length_cons, length_nil] at hfuel
        omega
      obtain ⟨done, left, piece, hfs, hbuffer, hcut, hverdict, hpending⟩ :=
        ih (fun f hf => hframes f (mem_cons_of_mem _ hf)) n rest hsplit' hfuel'
      refine ⟨frame :: done, left, piece, by rw [hfs]; rfl, ?_, hcut, ?_, ?_⟩
      · rw [stream_cons, hbuffer]
        simp only [append_assoc]
      · rw [drain_frame protocol n hframe, readings_frame, find?_cons]
        split
        case isTrue hd => rw [hd]
        case isFalse hd => rw [Bool.eq_false_iff.mpr hd, hverdict]
      · rw [drain_frame protocol n hframe]
        split
        case isTrue hd =>
          intro h
          cases h
        case isFalse hd => exact hpending

theorem later_of_split {later : Bytes} {done rest : List Bytes}
    (hsplit : buffer ++ later = stream (done ++ rest)) (hbuffer : buffer = stream done ++ piece) :
    piece ++ later = stream rest := by
  rw [hbuffer, append_assoc, stream_append] at hsplit
  exact append_cancel_left hsplit

end Loop

theorem absorb_spec (protocol : Protocol) {frames : List Bytes} (hframes : ∀ f ∈ frames, SSEFrame f)
    {piece chunk later : Bytes} (hchunk : chunk ≠ [])
    (hsplit : piece ++ chunk ++ later = stream frames) :
    ∃ done rest piece', frames = done ++ rest ∧ piece ++ chunk = stream done ++ piece' ∧
      Partial piece' rest ∧
      (absorb protocol piece chunk).2 = (readings protocol (piece ++ chunk) 0 done).find? decisive ∧
      ((absorb protocol piece chunk).2 = none → (absorb protocol piece chunk).1 = piece') := by
  obtain ⟨done, rest, piece', rfl, hbuffer, hcut, hverdict, hpending⟩ :=
    drain_spec protocol hframes _ (piece ++ chunk) later hsplit le_rfl
  have hbody := hcut.not_valid
    (fun f hf => hframes f (mem_append_right done hf)) (later_of_split hsplit hbuffer)
  have hne : chunk.isEmpty = false := by
    cases chunk with
    | nil => exact absurd rfl hchunk
    | cons b chunk => rfl
  refine ⟨done, rest, piece', rfl, hbuffer, hcut, ?_⟩
  simp only [absorb, hne, if_false, Bool.false_eq_true]
  generalize drain protocol (piece ++ chunk).length (piece ++ chunk) = r at hverdict hpending ⊢
  obtain ⟨left, verdict⟩ := r
  cases verdict with
  | some v => exact ⟨hverdict, hpending⟩
  | none =>
    obtain rfl : left = piece' := hpending rfl
    simp only [hbody, if_false, Bool.false_eq_true]
    exact ⟨hverdict, fun _ => trivial⟩

theorem fedAt_append (before : List Bytes) (chunk : Bytes) (chunks : List Bytes) {n : Nat}
    (hlow : before.flatten.length < n) (hhigh : n ≤ before.flatten.length + chunk.length) :
    fedAt (before ++ chunk :: chunks) n = before.flatten.length + chunk.length := by
  induction before generalizing n with
  | nil =>
    simp only [flatten_nil, length_nil, Nat.zero_add] at hhigh ⊢
    exact if_pos hhigh
  | cons c before ih =>
    simp only [flatten_cons, length_append] at hlow hhigh ⊢
    have hstep : fedAt (c :: (before ++ chunk :: chunks)) n =
        c.length + fedAt (before ++ chunk :: chunks) (n - c.length) := if_neg (by omega)
    rw [cons_append, hstep, ih (by omega) (by omega)]
    omega

theorem overwritten_append (protocol : Protocol) (chunks : List Bytes) (start : Nat)
    (done rest : List Bytes) :
    overwritten protocol chunks start (done ++ rest) = overwritten protocol chunks start done ++
        overwritten protocol chunks (start + (stream done).length) rest := by
  induction done generalizing start with
  | nil => rfl
  | cons frame done ih =>
    have hlength : start + (stream (frame :: done)).length =
        start + frame.length + 2 + (stream done).length := by
      rw [length_stream_cons]
      omega
    simp only [cons_append, overwritten, ih, hlength]

theorem overwritten_eq_readings (protocol : Protocol) (before : List Bytes) (chunk : Bytes)
    (chunks : List Bytes) (start : Nat) (buffer : Bytes)
    (hbuffer : ((before ++ chunk :: chunks).flatten.take
      (before.flatten.length + chunk.length)).drop start = buffer) (done : List Bytes) (p : Nat)
    (hlow : ∀ f ∈ done.head?, before.flatten.length < start + p + f.length + 2)
    (hhigh : start + p + (stream done).length ≤ before.flatten.length + chunk.length) :
    overwritten protocol (before ++ chunk :: chunks) (start + p) done =
      (readings protocol buffer p done).map fun v =>
        (before.flatten.length + chunk.length, v) := by
  induction done generalizing p with
  | nil => rfl
  | cons frame done ih =>
    have hfirst := hlow frame rfl
    rw [length_stream_cons] at hhigh
    have hfed := fedAt_append before chunk chunks hfirst (by omega)
    have hbehind : ((before ++ chunk :: chunks).flatten.take
        (before.flatten.length + chunk.length)).drop (start + p + frame.length + 2) =
        buffer.drop (p + frame.length + 2) := by
      rw [← hbuffer, drop_drop]
      congr 1
      omega
    have hnext := ih (p + frame.length + 2) (fun f _ => by omega) (by omega)
    have hstart : start + (p + frame.length + 2) = start + p + frame.length + 2 := by omega
    rw [hstart] at hnext
    simp only [overwritten, readings, map_cons, hfed, hbehind, hnext]

theorem firstDecisive_map (m : Nat) (l : List FrameVerdict) :
    firstDecisive (l.map fun v => (m, v)) = (l.find? decisive).map fun v => (m, v) := by
  rw [firstDecisive, find?_map]
  rfl

theorem feed_spec (protocol : Protocol) (chunks before : List Bytes) (piece : Bytes)
    (frames : List Bytes) (start : Nat) (hchunks : ∀ c ∈ chunks, c ≠ [])
    (hframes : ∀ f ∈ frames, SSEFrame f) (hsplit : piece ++ chunks.flatten = stream frames)
    (hpos : before.flatten.length = start + piece.length)
    (hstart : (before ++ chunks).flatten.drop start = stream frames) (hcut : Partial piece frames) :
    feed protocol before.flatten.length piece chunks =
      firstDecisive (overwritten protocol (before ++ chunks) start frames) := by
  induction chunks generalizing before piece frames start with
  | nil =>
    cases frames with
    | nil => rfl
    | cons frame frames =>
      -- a whole frame would be pending
      rw [flatten_nil, append_nil] at hsplit
      have hlength := congrArg length hsplit
      rw [length_stream_cons] at hlength
      have hshort : piece.length < frame.length + 2 := hcut
      omega
  | cons chunk chunks ih =>
    rw [flatten_cons, ← append_assoc] at hsplit
    obtain ⟨done, rest, piece', rfl, hbuffer, hcut', hverdict, hpending⟩ :=
      absorb_spec protocol hframes (hchunks chunk mem_cons_self) hsplit
    have hlength : piece.length + chunk.length = (stream done).length + piece'.length := by
      rw [← length_append, ← length_append, hbuffer]
    have hread := overwritten_eq_readings protocol before chunk chunks start (piece ++ chunk) ?_
      done 0 ?_ (by omega)
    · rw [Nat.add_zero] at hread
      rw [overwritten_append, hread, firstDecisive, find?_append, ← firstDecisive,
        firstDecisive_map, ← hverdict]
      simp only [feed]
      generalize hr : absorb protocol piece chunk = r at hverdict hpending ⊢
      obtain ⟨left, verdict⟩ := r
      cases verdict with
      | some v => rfl
      | none =>
        obtain rfl : left = piece' := hpending rfl
        have hnext := ih (before ++ [chunk]) left rest (start + (stream done).length)
          (fun c hc => hchunks c (mem_cons_of_mem _ hc))
          (fun f hf => hframes f (mem_append_right done hf)) ?_ ?_ ?_ hcut'
        · simpa [firstDecisive] using hnext
        · exact later_of_split hsplit hbuffer
        · simp only [flatten_append, flatten_cons, flatten_nil, append_nil,
            length_append]
          omega
        · rw [append_assoc, singleton_append, ← drop_drop, hstart, stream_append,
            drop_left]
    · rw [drop_take, hstart, ← hsplit, hpos]
      refine take_left' ?_
      rw [length_append]
      omega
    · intro f hf
      cases done with
      | nil => cases hf
      | cons frame done =>
        obtain rfl : frame = f := by simpa using hf
        have hshort : piece.length < frame.length + 2 := hcut
        omega

theorem fedAt_end {chunks : List Bytes} (hchunks : ∀ c ∈ chunks, c ≠ []) {n : Nat} (hn : 0 < n)
    (h : n ∈ chunks.inits.map fun read => read.flatten.length) : fedAt chunks n = n := by
  obtain ⟨read, hread, rfl⟩ := mem_map.mp h
  obtain ⟨rest, rfl⟩ := (mem_inits _ _).mp hread
  rcases eq_nil_or_concat' read with rfl | ⟨before, chunk, rfl⟩
  · exact absurd hn (by simp)
  · have hne : chunk ≠ [] := hchunks chunk (by simp)
    have hlength : (before ++ [chunk]).flatten.length = before.flatten.length + chunk.length := by
      simp only [flatten_append, flatten_cons, flatten_nil, append_nil, length_append]
    have hpos := length_pos_of_ne_nil hne
    rw [append_assoc, singleton_append, hlength]
    exact fedAt_append before chunk rest (by omega) le_rfl

theorem masked_nil (frame : Bytes) : masked frame [] = frame := take_length

theorem overwritten_of_endChunks (protocol : Protocol) {chunks : List Bytes}
    (hchunks : ∀ c ∈ chunks, c ≠ []) (start : Nat) (frames : List Bytes)
    (hends : endChunks protocol chunks start frames = true) :
    firstDecisive (overwritten protocol chunks start frames) =
      firstDecisive (verdicts protocol start frames) := by
  induction frames generalizing start with
  | nil => rfl
  | cons frame frames ih =>
    rw [endChunks, Bool.and_eq_true, Bool.or_eq_true, decide_eq_true_iff] at hends
    obtain ⟨hend, hrest⟩ := hends
    have hfed := fedAt_end hchunks (Nat.succ_pos _) hend
    -- nothing lies behind the frame in the chunk that completes it
    have hbehind : (chunks.flatten.take (start + frame.length + 2)).drop
      (start + frame.length + 2) =
        [] := drop_take_self
    simp only [overwritten, verdicts, firstDecisive, find?_cons, hfed, hbehind, masked_nil]
    cases hd : decisive (classifyFrame frame protocol) with
    | true => rfl
    | false => exact ih _ (hrest.resolve_left (by simp [hd]))

def heartbeat : Bytes := ascii ": keepalive"

def capacity : Bytes :=
  ascii "data: \x7b\"type\":\"error\",\"error\":\x7b\"message\":\"model is at capacity\"\x7d\x7d"

theorem sseFrame_heartbeat : SSEFrame heartbeat := by
  refine ⟨[heartbeat], by decide, fun line hline => ?_, by rfl⟩
  obtain rfl := mem_singleton.mp hline
  exact ⟨by decide +kernel, ascii ":", by decide +kernel, by decide +kernel⟩

theorem sseFrame_capacity : SSEFrame capacity := by
  refine ⟨[capacity], by decide, fun line hline => ?_, by rfl⟩
  obtain rfl := mem_singleton.mp hline
  exact ⟨by decide +kernel, ascii "data", by decide +kernel, by decide +kernel⟩

theorem sseFrames : ∀ f ∈ [heartbeat, capacity], SSEFrame f := by
  intro f hf
  rcases mem_pair.mp hf with rfl | rfl
  · exact sseFrame_heartbeat
  · exact sseFrame_capacity

end QuotaScheduler.FrameAssembler

/- Byte strings as the standard library of Go reads them. -/

import Mathlib.Data.List.Basic

namespace QuotaScheduler.Lib.ByteStrings

open List

abbrev Bytes := List UInt8

def ascii (s : String) : Bytes := s.toList.map fun c => c.toNat.toUInt8

def lf : UInt8 := 10

def cr : UInt8 := 13

def index (sep : Bytes) : Bytes → Option Nat
  | [] => if sep.isEmpty then some 0 else none
  | b :: s => if sep.isPrefixOf (b :: s) then some 0 else (index sep s).map (· + 1)

def contains (s sub : Bytes) : Bool := (index sub s).isSome

theorem contains_iff (s sub : Bytes) : contains s sub = true ↔ sub <:+: s := by
  unfold contains
  induction s with
  | nil => cases sub <;> simp [index]
  | cons b s ih =>
    rw [List.infix_cons_iff, ← ih, index]
    by_cases h : sub <+: b :: s
    · simp [List.isPrefixOf_iff_prefix.mpr h, h]
    · simp [mt List.isPrefixOf_iff_prefix.mp h, h]

theorem index_singleton {b : UInt8} {p : Bytes} (hp : b ∉ p) (r : Bytes) :
    index [b] (p ++ b :: r) = some p.length := by
  induction p with
  | nil => simp [index]
  | cons x p ih =>
    rw [mem_cons, not_or] at hp
    simp [index, ih hp.2, hp.1]

def trimRight (b : UInt8) (s : Bytes) : Bytes := (s.reverse.dropWhile fun c => c == b).reverse

/-- The encodings of the runes of `unicode.IsSpace`. -/
def spaces : List Bytes :=
  [[9], [10], [11], [12], [13], [32], [0xC2, 0x85], [0xC2, 0xA0], [0xE1, 0x9A, 0x80],
    [0xE2, 0x80, 0x80], [0xE2, 0x80, 0x81], [0xE2, 0x80, 0x82], [0xE2, 0x80, 0x83],
    [0xE2, 0x80, 0x84], [0xE2, 0x80, 0x85], [0xE2, 0x80, 0x86], [0xE2, 0x80, 0x87],
    [0xE2, 0x80, 0x88], [0xE2, 0x80, 0x89], [0xE2, 0x80, 0x8A], [0xE2, 0x80, 0xA8],
    [0xE2, 0x80, 0xA9], [0xE2, 0x80, 0xAF], [0xE2, 0x81, 0x9F], [0xE3, 0x80, 0x80]]

def strip (codes : List Bytes) : Nat → Bytes → Bytes
  | 0, s => s
  | n + 1, s =>
    match codes.find? fun c => c.isPrefixOf s with
    | none => s
    | some c => strip codes n (s.drop c.length)

/-- `bytes.TrimSpace`: the last rune starts at the last byte that is no continuation byte. -/
def trimSpace (s : Bytes) : Bytes :=
  let front := strip spaces s.length s
  (strip (spaces.map List.reverse) front.length front.reverse).reverse

variable {codes : List Bytes} {n : Nat}

theorem strip_eq_drop (s : Bytes) : ∃ k, strip codes n s = s.drop k := by
  induction n generalizing s with
  | zero => exact ⟨0, rfl⟩
  | succ n ih =>
    unfold strip
    split
    · exact ⟨0, rfl⟩
    · rename_i c _
      obtain ⟨k, hk⟩ := ih (s.drop c.length)
      exact ⟨c.length + k, by rw [hk, drop_drop]⟩

variable {s : Bytes}

theorem strip_eq_self (h : ∀ c ∈ codes, c.isPrefixOf s = false) : strip codes n s = s := by
  cases n with
  | zero => rfl
  | succ n =>
    have hnone : codes.find? (fun c => c.isPrefixOf s) = none :=
      find?_eq_none.mpr fun c hc => by simp [h c hc]
    simp only [strip, hnone]

theorem strip_stuck (hcodes : [] ∉ codes) (hn : s.length ≤ n) :
    ∀ c ∈ codes, c.isPrefixOf (strip codes n s) = false := by
  induction n generalizing s with
  | zero =>
    obtain rfl : s = [] := eq_nil_of_length_eq_zero (Nat.le_zero.mp hn)
    intro c hc
    cases c with
    | nil => exact absurd hc hcodes
    | cons b c => rfl
  | succ n ih =>
    unfold strip
    split
    · next hnone => exact fun c hc => Bool.eq_false_iff.mpr (find?_eq_none.mp hnone c hc)
    · next c hc =>
      refine ih ?_
      have hpos : 0 < c.length := length_pos_iff.mpr fun hnil =>
        hcodes (hnil ▸ mem_of_find?_eq_some hc)
      rw [length_drop]
      omega

/-- A byte of no code stops the stripping. -/
theorem strip_append {b : UInt8} (hb : ∀ c ∈ codes, b ∉ c) (n : Nat) (p r : Bytes) :
    ∃ p', p' ⊆ p ∧ strip codes n (p ++ b :: r) = p' ++ b :: r := by
  induction n generalizing p with
  | zero => exact ⟨p, Subset.refl p, rfl⟩
  | succ n ih =>
    unfold strip
    split
    · exact ⟨p, Subset.refl p, rfl⟩
    · next c hc =>
      obtain ⟨t, ht⟩ : c <+: p ++ b :: r := by simpa using find?_some hc
      have hfresh := hb c (mem_of_find?_eq_some hc)
      rw [← ht, drop_left]
      rcases append_eq_append_iff.mp ht with ⟨q, rfl, rfl⟩ | ⟨q, rfl, hq⟩
      · obtain ⟨p', hp', heq⟩ := ih q
        exact ⟨p', fun x hx => mem_append_right c (hp' hx), heq⟩
      · cases q with
        | nil =>
          obtain ⟨p', hp', heq⟩ := ih []
          exact ⟨p', fun x hx => absurd (hp' hx) not_mem_nil, by simpa using hq ▸ heq⟩
        | cons x q =>
          obtain ⟨rfl, -⟩ := cons.inj hq
          simp at hfresh

theorem not_mem_reverse_codes {b : UInt8} (hb : ∀ c ∈ codes, b ∉ c) :
    ∀ c ∈ codes.map reverse, b ∉ c := by
  intro c hc
  obtain ⟨d, hd, rfl⟩ := List.mem_map.mp hc
  rw [mem_reverse]
  exact hb d hd

theorem mem_strip {b : UInt8} (hb : ∀ c ∈ codes, b ∉ c) (h : b ∈ s) : b ∈ strip codes n s := by
  obtain ⟨p, r, rfl⟩ := append_of_mem h
  obtain ⟨p', -, heq⟩ := strip_append hb n p r
  rw [heq]
  exact mem_append_right p' mem_cons_self

theorem mem_trimSpace {b : UInt8} (hb : ∀ c ∈ spaces, b ∉ c) (h : b ∈ s) : b ∈ trimSpace s :=
  mem_reverse.mpr (mem_strip (not_mem_reverse_codes hb) (mem_reverse.mpr (mem_strip hb h)))

/-- What stands between two bytes that are in no space is not trimmed. -/
theorem trimSpace_append {b d : UInt8} (hb : ∀ c ∈ spaces, b ∉ c) (hd : ∀ c ∈ spaces, d ∉ c)
    (p m r : Bytes) :
    ∃ p' r', p' ⊆ p ∧ trimSpace (p ++ b :: (m ++ d :: r)) = p' ++ b :: (m ++ d :: r') := by
  obtain ⟨p', hp', hfront⟩ := strip_append hb (p ++ b :: (m ++ d :: r)).length p (m ++ d :: r)
  obtain ⟨r', -, hback⟩ := strip_append (not_mem_reverse_codes hd)
    (p' ++ b :: (m ++ d :: r)).length r.reverse (p' ++ b :: m).reverse
  have hreverse : (p' ++ b :: (m ++ d :: r)).reverse =
      r.reverse ++ d :: (p' ++ b :: m).reverse := by simp
  refine ⟨p', r'.reverse, hp', ?_⟩
  rw [trimSpace, hfront, hreverse, hback]
  simp

theorem trimSpace_stuck : ∀ c ∈ spaces.map reverse, c.isPrefixOf (trimSpace s).reverse = false := by
  rw [trimSpace, reverse_reverse]
  exact strip_stuck (by decide) (Nat.le_of_eq length_reverse)

theorem trimSpace_trimSpace : trimSpace (trimSpace s) = trimSpace s := by
  let front := strip spaces s.length s
  have hprefix : trimSpace s <+: front := by
    obtain ⟨k, hk⟩ := @strip_eq_drop (spaces.map reverse) front.length front.reverse
    rw [trimSpace, hk, reverse_drop, reverse_reverse]
    exact take_prefix _ _
  have hstuck : ∀ c ∈ spaces, c.isPrefixOf front = false :=
    strip_stuck (by decide) (Nat.le_refl _)
  have hfront : ∀ c ∈ spaces, c.isPrefixOf (trimSpace s) = false := by
    intro c hc
    refine Bool.eq_false_iff.mpr fun h => Bool.eq_false_iff.mp (hstuck c hc) ?_
    exact isPrefixOf_iff_prefix.mpr ((List.isPrefixOf_iff_prefix.mp h).trans hprefix)
  rw [trimSpace, strip_eq_self hfront, strip_eq_self trimSpace_stuck, reverse_reverse]

def startsNoSpace (b : UInt8) : Bool := spaces.all fun c => c.head?.any (· != b)

theorem trimSpace_cons {b : UInt8} (h : startsNoSpace b = true) :
    ∃ m, trimSpace (b :: s) = (b :: s).take m := by
  have hfront : strip spaces (b :: s).length (b :: s) = b :: s := by
    refine strip_eq_self fun c hc => ?_
    have hhead := List.all_eq_true.mp h c hc
    cases c with
    | nil => simp at hhead
    | cons a c =>
      have hne : a ≠ b := by simpa using hhead
      simp [isPrefixOf, hne]
  obtain ⟨k, hk⟩ := strip_eq_drop (b :: s).reverse
  refine ⟨(b :: s).length - k, ?_⟩
  simp only [trimSpace]
  rw [hfront, hk, reverse_drop, length_reverse, reverse_reverse]

def runeError : Nat := 0xFFFD

def isTail (b : UInt8) : Bool := decide (0x80 ≤ b.toNat) && decide (b.toNat ≤ 0xBF)

/-- The second byte of a rune of three or four, within its first byte's bounds. -/
def isSecond (b0 b1 : UInt8) : Bool :=
  isTail b1 && (b0 != 0xE0 || decide (0xA0 ≤ b1.toNat)) &&
    (b0 != 0xED || decide (b1.toNat ≤ 0x9F)) &&
    (b0 != 0xF0 || decide (0x90 ≤ b1.toNat)) && (b0 != 0xF4 || decide (b1.toNat ≤ 0x8F))

def decodeRune (s : Bytes) : Nat × Nat :=
  match s with
  | [] => (runeError, 0)
  | b0 :: s1 =>
    let n := b0.toNat
    if n < 0x80 then (n, 1)
    else if 0xC2 ≤ n ∧ n ≤ 0xDF then
      match s1 with
      | b1 :: _ => if isTail b1 then ((n - 0xC0) * 64 + (b1.toNat - 0x80), 2) else (runeError, 1)
      | [] => (runeError, 1)
    else if 0xE0 ≤ n ∧ n ≤ 0xEF then
      match s1 with
      | b1 :: b2 :: _ =>
        if isSecond b0 b1 && isTail b2 then
          (((n - 0xE0) * 64 + (b1.toNat - 0x80)) * 64 + (b2.toNat - 0x80), 3)
        else (runeError, 1)
      | _ => (runeError, 1)
    else if 0xF0 ≤ n ∧ n ≤ 0xF4 then
      match s1 with
      | b1 :: b2 :: b3 :: _ =>
        if isSecond b0 b1 && isTail b2 && isTail b3 then
          ((((n - 0xF0) * 64 + (b1.toNat - 0x80)) * 64 + (b2.toNat - 0x80)) * 64 +
            (b3.toNat - 0x80), 4)
        else (runeError, 1)
      | _ => (runeError, 1)
    else (runeError, 1)

def runesUpTo : Nat → Bytes → List Nat
  | 0, _ => []
  | _ + 1, [] => []
  | n + 1, b :: s => (decodeRune (b :: s)).1 :: runesUpTo n ((b :: s).drop (decodeRune (b :: s)).2)

def runes (s : Bytes) : List Nat := runesUpTo s.length s

def encodeRune (r : Nat) : Bytes :=
  let r := if 0x10FFFF < r ∨ (0xD800 ≤ r ∧ r ≤ 0xDFFF) then runeError else r
  if r < 0x80 then [r.toUInt8]
  else if r < 0x800 then [(0xC0 + r / 64).toUInt8, (0x80 + r % 64).toUInt8]
  else if r < 0x10000 then
    [(0xE0 + r / 4096).toUInt8, (0x80 + r / 64 % 64).toUInt8, (0x80 + r % 64).toUInt8]
  else
    [(0xF0 + r / 262144).toUInt8, (0x80 + r / 4096 % 64).toUInt8, (0x80 + r / 64 % 64).toUInt8,
      (0x80 + r % 64).toUInt8]

/-- `unicode.ToLower` where it gives an ASCII letter; other runes stay. -/
def lowerRune (r : Nat) : Nat :=
  if 65 ≤ r ∧ r ≤ 90 then r + 32
  else if r = 0x130 then 105
  else if r = 0x212A then 107
  else r

/-- `strings.ToLower`, as far as ASCII letters come out. -/
def toLower (s : Bytes) : Bytes := (runes s).flatMap fun r => encodeRune (lowerRune r)

def foldRune (r : Nat) : Nat :=
  if 65 ≤ r ∧ r ≤ 90 then r + 32
  else if r = 0x17F then 115
  else if r = 0x212A then 107
  else r

def equalFold (s t : Bytes) : Bool := decide ((runes s).map foldRune = (runes t).map foldRune)

/-- The first of each ten decimal digits of `unicode.IsDigit`. -/
def digitZeros : List Nat :=
  [0x30, 0x660, 0x6F0, 0x7C0, 0x966, 0x9E6, 0xA66, 0xAE6, 0xB66, 0xBE6, 0xC66, 0xCE6, 0xD66, 0xDE6,
    0xE50, 0xED0, 0xF20, 0x1040, 0x1090, 0x17E0, 0x1810, 0x1946, 0x19D0, 0x1A80, 0x1A90, 0x1B50,
    0x1BB0, 0x1C40, 0x1C50, 0xA620, 0xA8D0, 0xA900, 0xA9D0, 0xA9F0, 0xAA50, 0xABF0, 0xFF10,
    0x104A0, 0x10D30, 0x11066, 0x110F0, 0x11136, 0x111D0, 0x112F0, 0x11450, 0x114D0, 0x11650,
    0x116C0, 0x11730, 0x118E0, 0x11950, 0x11C50, 0x11D50, 0x11DA0, 0x11F50, 0x16A60, 0x16AC0,
    0x16B50, 0x1D7CE, 0x1D7D8, 0x1D7E2, 0x1D7EC, 0x1D7F6, 0x1E140, 0x1E2F0, 0x1E4F0, 0x1E950,
    0x1FBF0]

def isDigit (r : Nat) : Bool := digitZeros.any fun z => decide (z ≤ r) && decide (r < z + 10)

end QuotaScheduler.Lib.ByteStrings

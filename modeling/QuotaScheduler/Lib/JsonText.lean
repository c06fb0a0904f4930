/- JSON texts as the standard library of Go reads them, one byte at a time. -/

import Mathlib.Algebra.Order.Group.Int
import Mathlib.Algebra.Order.Group.Nat
import QuotaScheduler.Lib.ByteStrings

namespace QuotaScheduler.Lib.JsonText

open ByteStrings

/-- A JSON value; a number keeps its text, an object its members in order. -/
inductive Json
  | null
  | bool (b : Bool)
  | number (text : Bytes)
  | string (s : Bytes)
  | array (items : List Json)
  | object (members : List (Bytes × Json))

def hexDigit (b : UInt8) : Option Nat :=
  let n := b.toNat
  if 48 ≤ n ∧ n ≤ 57 then some (n - 48)
  else if 97 ≤ n ∧ n ≤ 102 then some (n - 87)
  else if 65 ≤ n ∧ n ≤ 70 then some (n - 55)
  else none

def getu4 : Bytes → Option Nat
  | 92 :: 117 :: a :: b :: c :: d :: _ => do
    let a ← hexDigit a
    let b ← hexDigit b
    let c ← hexDigit c
    let d ← hexDigit d
    return ((a * 16 + b) * 16 + c) * 16 + d
  | _ => none

def isHighSurrogate (r : Nat) : Bool := decide (0xD800 ≤ r) && decide (r < 0xDC00)

def isLowSurrogate (r : Nat) : Bool := decide (0xDC00 ≤ r) && decide (r < 0xE000)

/-- The rune of an escape `\uXXXX` and the bytes it takes, with a second escape. -/
def escapedRune (s : Bytes) : Nat × Nat :=
  match getu4 s with
  | none => (runeError, 6)
  | some r =>
    if isHighSurrogate r || isLowSurrogate r then
      match getu4 (s.drop 6) with
      | some r' =>
        if isHighSurrogate r && isLowSurrogate r' then
          ((r - 0xD800) * 1024 + (r' - 0xDC00) + 0x10000, 12)
        else (runeError, 6)
      | none => (runeError, 6)
    else (r, 6)

def shortEscape (b : UInt8) : UInt8 :=
  if b = 98 then 8
  else if b = 102 then 12
  else if b = 110 then 10
  else if b = 114 then 13
  else if b = 116 then 9
  else b

def unquoteUpTo : Nat → Bytes → Bytes
  | 0, _ => []
  | _ + 1, [] => []
  | n + 1, b :: s =>
    if b = 92 then
      match s with
      | [] => []
      | c :: s' =>
        if c = 117 then
          encodeRune (escapedRune (b :: s)).1 ++ unquoteUpTo n
            ((b :: s).drop (escapedRune (b :: s)).2)
        else shortEscape c :: unquoteUpTo n s'
    else
      encodeRune (decodeRune (b :: s)).1 ++ unquoteUpTo n ((b :: s).drop (decodeRune (b :: s)).2)

def unquote (s : Bytes) : Bytes := unquoteUpTo s.length s

/-- What the scanner has seen last, with the bytes of its token, last first. -/
inductive Mode
  | beginValue (mayClose : Bool)
  | beginKey (mayClose : Bool)
  | endKey
  | endValue
  | endTop (v : Json)
  | inString (raw : Bytes)
  | inEscape (raw : Bytes)
  | inHex (raw : Bytes) (left : Nat)
  | afterMinus (raw : Bytes)
  | afterZero (raw : Bytes)
  | inDigits (raw : Bytes)
  | afterDot (raw : Bytes)
  | inFraction (raw : Bytes)
  | afterE (raw : Bytes)
  | afterSign (raw : Bytes)
  | inExponent (raw : Bytes)
  | inLiteral (rest : Bytes) (v : Json)

inductive Container
  | array (items : List Json)
  | object (members : List (Bytes × Json)) (key : Option Bytes)

structure Scanner where
  stack : List Container
  mode : Mode

def maxNestingDepth : Nat := 10000

def isJsonSpace (b : UInt8) : Bool := b == 32 || b == 9 || b == 13 || b == 10

def isAsciiDigit (b : UInt8) : Bool := decide (48 ≤ b.toNat) && decide (b.toNat ≤ 57)

def complete (v : Json) : List Container → Option Scanner
  | [] => some ⟨[], .endTop v⟩
  | .array items :: st => some ⟨.array (items ++ [v]) :: st, .endValue⟩
  | .object members (some key) :: st => some ⟨.object (members ++ [(key, v)]) none :: st, .endValue⟩
  | .object members none :: st =>
    match v with
    | .string key => some ⟨.object members (some key) :: st, .endKey⟩
    | _ => none

def push (c : Container) (mode : Mode) (st : List Container) : Option Scanner :=
  if st.length < maxNestingDepth then some ⟨c :: st, mode⟩ else none

def afterValue (s : Scanner) (b : UInt8) : Option Scanner :=
  match s.mode with
  | .endTop _ => if isJsonSpace b then some s else none
  | .endKey => if isJsonSpace b then some s else if b = 58 then some ⟨s.stack, .beginValue false⟩
    else none
  | .endValue =>
    if isJsonSpace b then some s
    else
      match s.stack with
      | .array items :: st =>
        if b = 44 then some ⟨s.stack, .beginValue false⟩
        else if b = 93 then complete (.array items) st
        else none
      | .object members _ :: st =>
        if b = 44 then some ⟨s.stack, .beginKey false⟩
        else if b = 125 then complete (.object members) st
        else none
      | [] => none
  | _ => none

def endNumber (raw : Bytes) (st : List Container) (b : UInt8) : Option Scanner := do
  let s ← complete (.number raw.reverse) st
  afterValue s b

def beginValue (mayClose : Bool) (st : List Container) (b : UInt8) : Option Scanner :=
  if isJsonSpace b then some ⟨st, .beginValue mayClose⟩
  else if b = 93 ∧ mayClose = true then
    match st with
    | .array items :: st' => complete (.array items) st'
    | _ => none
  else if b = 123 then push (.object [] none) (.beginKey true) st
  else if b = 91 then push (.array []) (.beginValue true) st
  else if b = 34 then some ⟨st, .inString []⟩
  else if b = 45 then some ⟨st, .afterMinus [b]⟩
  else if b = 48 then some ⟨st, .afterZero [b]⟩
  else if isAsciiDigit b then some ⟨st, .inDigits [b]⟩
  else if b = 116 then some ⟨st, .inLiteral (ascii "rue") (.bool true)⟩
  else if b = 102 then some ⟨st, .inLiteral (ascii "alse") (.bool false)⟩
  else if b = 110 then some ⟨st, .inLiteral (ascii "ull") .null⟩
  else none

def beginKey (mayClose : Bool) (st : List Container) (b : UInt8) : Option Scanner :=
  if isJsonSpace b then some ⟨st, .beginKey mayClose⟩
  else if b = 125 ∧ mayClose = true then
    match st with
    | .object members _ :: st' => complete (.object members) st'
    | _ => none
  else if b = 34 then some ⟨st, .inString []⟩
  else none

def isE (b : UInt8) : Bool := b == 101 || b == 69

def isShortEscape (b : UInt8) : Bool := (ascii "bfnrt\\/\"").contains b

def scan (s : Scanner) (b : UInt8) : Option Scanner :=
  let st := s.stack
  match s.mode with
  | .beginValue mayClose => beginValue mayClose st b
  | .beginKey mayClose => beginKey mayClose st b
  | .endKey | .endValue | .endTop _ => afterValue s b
  | .inString raw =>
    if b = 34 then complete (.string (unquote raw.reverse)) st
    else if b = 92 then some ⟨st, .inEscape (b :: raw)⟩
    else if b.toNat < 32 then none
    else some ⟨st, .inString (b :: raw)⟩
  | .inEscape raw =>
    if isShortEscape b then some ⟨st, .inString (b :: raw)⟩
    else if b = 117 then some ⟨st, .inHex (b :: raw) 4⟩
    else none
  | .inHex raw left =>
    if (hexDigit b).isNone then none
    else if left = 1 then some ⟨st, .inString (b :: raw)⟩
    else some ⟨st, .inHex (b :: raw) (left - 1)⟩
  | .afterMinus raw =>
    if b = 48 then some ⟨st, .afterZero (b :: raw)⟩
    else if isAsciiDigit b then some ⟨st, .inDigits (b :: raw)⟩
    else none
  | .inDigits raw =>
    if isAsciiDigit b then some ⟨st, .inDigits (b :: raw)⟩
    else if b = 46 then some ⟨st, .afterDot (b :: raw)⟩
    else if isE b then some ⟨st, .afterE (b :: raw)⟩
    else endNumber raw st b
  | .afterZero raw =>
    if b = 46 then some ⟨st, .afterDot (b :: raw)⟩
    else if isE b then some ⟨st, .afterE (b :: raw)⟩
    else endNumber raw st b
  | .afterDot raw => if isAsciiDigit b then some ⟨st, .inFraction (b :: raw)⟩ else none
  | .inFraction raw =>
    if isAsciiDigit b then some ⟨st, .inFraction (b :: raw)⟩
    else if isE b then some ⟨st, .afterE (b :: raw)⟩
    else endNumber raw st b
  | .afterE raw =>
    if b = 43 ∨ b = 45 then some ⟨st, .afterSign (b :: raw)⟩
    else if isAsciiDigit b then some ⟨st, .inExponent (b :: raw)⟩
    else none
  | .afterSign raw => if isAsciiDigit b then some ⟨st, .inExponent (b :: raw)⟩ else none
  | .inExponent raw =>
    if isAsciiDigit b then some ⟨st, .inExponent (b :: raw)⟩ else endNumber raw st b
  | .inLiteral rest v =>
    match rest with
    | [] => none
    | c :: rest' =>
      if b ≠ c then none
      else if rest'.isEmpty then complete v st
      else some ⟨st, .inLiteral rest' v⟩

/-- The value of a text; the end of the text is read like a space. -/
def parse (text : Bytes) : Option Json := do
  let s ← (text ++ [32]).foldlM scan ⟨[], .beginValue false⟩
  match s.mode with
  | .endTop v => some v
  | _ => none

def valid (text : Bytes) : Bool := (parse text).isSome

theorem parse_cons_of_beginValue {b : UInt8} (text : Bytes) (h : beginValue false [] b = none) :
    parse (b :: text) = none := by
  have hstep : scan ⟨[], .beginValue false⟩ b = none := h
  simp only [parse, List.cons_append, List.foldlM_cons, hstep]
  rfl

structure Decimal where
  negative : Bool
  digits : Nat
  exponent : Int

def natOfDigits (s : Bytes) : Nat := s.foldl (fun n b => n * 10 + (b.toNat - 48)) 0

/-- The digits of an exponent, which the reader of floats stops counting at 10000. -/
def exponentOfDigits (s : Bytes) : Nat :=
  s.foldl (fun n b => if n < 10000 then n * 10 + (b.toNat - 48) else n) 0

def decimalOf (text : Bytes) : Decimal :=
  let negative := text.head? == some 45
  let body := if negative then text.drop 1 else text
  let mantissa := body.takeWhile fun b => !isE b
  let tail := (body.dropWhile fun b => !isE b).drop 1
  let whole := mantissa.takeWhile fun b => b != 46
  let fraction := (mantissa.dropWhile fun b => b != 46).drop 1
  let exponent : Int :=
    if tail.head? = some 45 then -(exponentOfDigits (tail.drop 1) : Int)
    else if tail.head? = some 43 then exponentOfDigits (tail.drop 1)
    else exponentOfDigits tail
  ⟨negative, natOfDigits (whole ++ fraction), exponent - fraction.length⟩

/-- The float nearest to `n / d`, ties to even, in units of `2 ^ -1074`. -/
def roundFloat (n d : Nat) : Nat :=
  let unit := 2 ^ ((n * 2 ^ 1074 / d).log2 - 52)
  let q := n * 2 ^ 1074 / (d * unit)
  let r := n * 2 ^ 1074 % (d * unit)
  if d * unit < 2 * r ∨ (2 * r = d * unit ∧ q % 2 = 1) then (q + 1) * unit else q * unit

def magnitude (x : Decimal) : Nat :=
  if 0 ≤ x.exponent then roundFloat (x.digits * 10 ^ x.exponent.toNat) 1
  else roundFloat x.digits (10 ^ (-x.exponent).toNat)

def outOfRange (text : Bytes) : Bool := decide (2 ^ (1024 + 1074) ≤ magnitude (decimalOf text))

def int64Of (text : Bytes) : Option Int :=
  let x := decimalOf text
  let m := magnitude x
  if m % 2 ^ 1074 ≠ 0 then none
  else
    let v : Int := if x.negative then -(m / 2 ^ 1074 : Nat) else (m / 2 ^ 1074 : Nat)
    if -(2 ^ 63 : Int) ≤ v ∧ v < 2 ^ 63 then some v else none

mutual

/-- A value that decodes without an error: every number is in the range of a float. -/
def decodes : Json → Bool
  | .null | .bool _ | .string _ => true
  | .number text => !outOfRange text
  | .array items => decodesItems items
  | .object members => decodesMembers members

def decodesItems : List Json → Bool
  | [] => true
  | v :: rest => decodes v && decodesItems rest

def decodesMembers : List (Bytes × Json) → Bool
  | [] => true
  | (_, v) :: rest => decodes v && decodesMembers rest

end

/-- A member of a decoded object; the last one of a name counts. -/
def member (members : List (Bytes × Json)) (name : Bytes) : Option Json :=
  members.reverse.lookup name

end QuotaScheduler.Lib.JsonText

/- What the retry chain reads out of a failure text (retry_classify.go). -/

import QuotaScheduler.RetryFrames

namespace QuotaScheduler.RetryTexts

open Lib.ByteStrings RetryFrames List

/-- A maximal run of digits, with the runes beside it. -/
structure Run where
  before : Option Nat
  digits : List Nat
  after : Option Nat

def runsAfter : Option Nat → List Nat → List Run
  | _, [] => []
  | before, r :: rs =>
    if !isDigit r then runsAfter (some r) rs
    else if rs.head?.any isDigit then
      (runsAfter (some r) rs).modifyHead fun run => ⟨before, r :: run.digits, run.after⟩
    else ⟨before, [r], rs.head?⟩ :: runsAfter (some r) rs

def digitRuns (text : Bytes) : List Run := runsAfter none (runes text)

def value (digits : List Nat) : Nat := digits.foldl (fun n d => n * 10 + (d - 48)) 0

def isStatus (n : Nat) : Bool := retryableStatuses.contains n

/-- A run of ASCII digits with no letter, digit or underscore beside it. -/
def standalone (letter : Nat → Bool) (run : Run) : Bool :=
  let word := fun r => letter r || isDigit r || r == 95
  run.digits.all (fun d => decide (48 ≤ d) && decide (d ≤ 57)) && !run.before.any word &&
    !run.after.any word

/-- The status of the first standalone number that is one. -/
def standaloneStatus (letter : Nat → Bool) (text : Bytes) : Option Nat :=
  ((digitRuns text).find? fun run => standalone letter run && isStatus (value run.digits)).map
    fun run => value run.digits

theorem toNat_tokenStatus (token : List Nat) :
    (tokenStatus token).toNat = value token % 2 ^ 64 := by
  have hfold : ∀ (status : UInt64) (n : Nat), status.toNat = n % 2 ^ 64 →
      (token.foldl (fun status digit => status * 10 + (digit - 48).toUInt64) status).toNat =
        token.foldl (fun n d => n * 10 + (d - 48)) n % 2 ^ 64 := by
    induction token with
    | nil => exact fun _ _ h => h
    | cons d token ih =>
      intro status n h
      refine ih _ _ ?_
      simp [h, Nat.add_mod, Nat.mul_mod]
  exact hfold 0 0 rfl

theorem digits_runsAfter (before : Option Nat) (rs : List Nat) :
    (runsAfter before rs).map (·.digits) =
      (rs.splitOnP fun r => !isDigit r).filter fun token => !token.isEmpty := by
  induction rs generalizing before with
  | nil => simp [runsAfter]
  | cons r rs ih =>
    rw [runsAfter, splitOnP_cons_eq_if_modifyHead]
    cases hr : isDigit r with
    | false => simpa using ih (some r)
    | true =>
      have hrs := ih (some r)
      cases rs with
      | nil => simp [runsAfter]
      | cons x xs =>
        rw [splitOnP_cons_eq_if_modifyHead] at hrs ⊢
        cases hx : isDigit x with
        | false => simpa [hx] using hrs
        | true =>
          obtain ⟨t, ts, hsplit⟩ := exists_cons_of_ne_nil (splitOnP_ne_nil (fun r => !isDigit r) xs)
          simp [hx, hsplit] at hrs ⊢
          cases hruns : runsAfter (some r) (x :: xs) with
          | nil => simp [hruns] at hrs
          | cons run later =>
            rw [hruns, map_cons, cons.injEq] at hrs
            simp [hrs]

theorem retryableStatusInText_eq (text : Bytes) : retryableStatusInText text =
    ((digitRuns text).find? fun run => isStatus (value run.digits % 2 ^ 64)).map
      fun run => value run.digits % 2 ^ 64 := by
  rw [retryableStatusInText, numericTokens, ← digits_runsAfter none, map_map, find?_map]
  simp only [Function.comp_def, toNat_tokenStatus]
  rfl

theorem isStatus_mod {n : Nat} (h : isStatus n = true) : n % 2 ^ 64 = n := by
  refine Nat.mod_eq_of_lt (lt_of_le_of_lt (b := 529) ?_ (by decide))
  simp [isStatus, retryableStatuses] at h
  omega

/-- The runs of a text that read as a status are numbers on their own, and no larger than 64 bits.
-/
def Legible (letter : Nat → Bool) (text : Bytes) : Prop :=
  ∀ run ∈ digitRuns text, isStatus (value run.digits % 2 ^ 64) = true →
    standalone letter run = true ∧ value run.digits < 2 ^ 64

instance (letter : Nat → Bool) (text : Bytes) : Decidable (Legible letter text) :=
  inferInstanceAs (Decidable (∀ run ∈ digitRuns text, _))

end QuotaScheduler.RetryTexts

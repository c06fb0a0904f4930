/- Instants, durations and the small enumerations shared by the scheduler. -/

import Mathlib.Algebra.Order.Group.Int
import Mathlib.Algebra.Order.Ring.Rat

namespace QuotaScheduler

/-- `time.Time`, in nanoseconds from the zero time; only the zero value is special. -/
abbrev Time := Int

abbrev Duration := Int

namespace Time

def zero : Time := 0

def isZero (t : Time) : Bool := decide (t = zero)

def before (t u : Time) : Bool := decide (t < u)

def after (t u : Time) : Bool := decide (u < t)

end Time

def minDuration : Duration := -2 ^ 63

def maxDuration : Duration := 2 ^ 63 - 1

/-- `Time.Sub` saturates. -/
def Time.sub (t u : Time) : Duration :=
  if t - u < minDuration then minDuration
  else if maxDuration < t - u then maxDuration
  else t - u

def second : Duration := 1000000000

def minute : Duration := 60 * second

def hour : Duration := 60 * minute

/-- A `float64` that is NaN or a number, with exact arithmetic; no infinity gets into the state. -/
inductive Float64
  | nan
  | num (value : Rat)
  deriving DecidableEq

namespace Float64

instance (n : Nat) : OfNat Float64 n := ⟨.num (OfNat.ofNat n)⟩

def map (f : Rat → Rat) : Float64 → Float64
  | nan => nan
  | num x => num (f x)

-- a comparison with NaN is false, also the one for equality
def lt : Float64 → Float64 → Bool
  | num x, num y => decide (x < y)
  | _, _ => false

def le : Float64 → Float64 → Bool
  | num x, num y => decide (x ≤ y)
  | _, _ => false

def eq : Float64 → Float64 → Bool
  | num x, num y => decide (x = y)
  | _, _ => false

def value : Float64 → Rat
  | nan => 0
  | num x => x

variable {x y : Float64}

@[simp] theorem lt_self (x : Float64) : x.lt x = false := by
  cases x <;> simp [lt]

theorem map_ne_nan {f : Rat → Rat} (h : x ≠ nan) : x.map f ≠ nan := by
  cases x with
  | nan => exact absurd rfl h
  | num p => simp [map]

theorem eq_iff : x.eq y = true ↔ x ≠ nan ∧ y ≠ nan ∧ x.lt y = false ∧ y.lt x = false := by
  cases x with
  | nan => simp [eq]
  | num p =>
    cases y with
    | nan => simp [eq]
    | num q => simpa [eq, lt] using le_antisymm_iff.trans and_comm

theorem eq_iff_value (hx : x ≠ nan) (hy : y ≠ nan) : x.eq y = true ↔ x.value = y.value := by
  cases x <;> cases y <;> simp_all [eq, value]

theorem lt_iff_value (hx : x ≠ nan) (hy : y ≠ nan) : x.lt y = true ↔ x.value < y.value := by
  cases x <;> cases y <;> simp_all [lt, value]

end Float64

abbrev AuthInstanceID := UInt64

/-- `AccountFamily`; `unset` is the empty string of an account no quota was read for. -/
inductive AccountFamily
  | unset
  | unknown
  | weekly
  | monthly
  deriving DecidableEq, Repr

inductive WindowKind
  | unset
  | fiveHour
  | weekly
  | monthly
  deriving DecidableEq, Repr

/-- `MonthlyMode`; the configuration admits these two only. -/
inductive MonthlyMode
  | priority
  | expiryOrder
  deriving DecidableEq, Repr

inductive FallbackMode
  | empty
  | fillFirst
  deriving DecidableEq, Repr

end QuotaScheduler

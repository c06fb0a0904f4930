/- The three readers of a rate limit (quota.go, stream_observer.go). -/

import QuotaScheduler.Account
import Mathlib.Data.List.Induction
import Mathlib.Tactic.FieldSimp
import Mathlib.Tactic.Linarith

namespace QuotaScheduler.QuotaReadings

open Account List Option

/-- A `float64` as an integer; the numbers are taken as rationals. -/
def truncate (q : Rat) : Int := q.num.tdiv q.den

theorem truncate_intCast (n : Int) : truncate n = n := by
  simp [truncate]

def secondsDuration (seconds : Rat) : Duration := truncate (seconds * 1000000000)

/-- A window of a `rate_limit` object; `resetAt` is a reset given as a time. -/
structure WindowObject where
  usedPercent : Option Rat := none
  allowed : Option Bool := none
  limitReached : Option Bool := none
  limitWindowSeconds : Option Int := none
  resetAt : Option Time := none
  resetAfterSeconds : Option Rat := none

structure RateLimitObject where
  allowed : Option Bool := none
  limitReached : Option Bool := none
  primaryWindow : Option WindowObject := none
  secondaryWindow : Option WindowObject := none

def limited (allowed limitReached : Option Bool) : Bool :=
  decide (allowed = some false) || decide (limitReached = some true)

def getResetAt (raw : WindowObject) (now : Time) : Option Time :=
  match raw.resetAt with
  | some resetAt => some resetAt
  | none => raw.resetAfterSeconds.map fun seconds => now + secondsDuration seconds

def parseQuotaWindow (raw : WindowObject) (now : Time) (fallbackKind : WindowKind)
    (exhaustedByEnvelope : Bool) : QuotaWindow :=
  let signal := raw.usedPercent.isSome || raw.allowed.isSome || raw.limitReached.isSome
  { kind := fallbackKind
    usedPercent := raw.usedPercent.map .num
    limitWindowSeconds := raw.limitWindowSeconds
    resetAt := (getResetAt raw now).getD Time.zero
    exhausted := raw.usedPercent.any (fun used => decide (100 ≤ used)) ||
      limited raw.allowed raw.limitReached || (!signal && exhaustedByEnvelope) }

def fiveHourSeconds : Int := 18000
def weekSeconds : Int := 604800
def minMonthSeconds : Int := 2419200
def maxMonthSeconds : Int := 2678400

def classifyWindow (window : QuotaWindow) (order : Nat) : QuotaWindow :=
  match window.limitWindowSeconds with
  | none =>
    if order = 0 then { window with kind := .fiveHour }
    else if order = 1 then { window with kind := .weekly }
    else window
  | some seconds =>
    if seconds = fiveHourSeconds then { window with kind := .fiveHour }
    else if seconds = weekSeconds then { window with kind := .weekly }
    else if minMonthSeconds ≤ seconds ∧ seconds ≤ maxMonthSeconds then
      { window with kind := .monthly }
    else window

def parseRateLimitWindows (o : RateLimitObject) (now : Time) : List QuotaWindow :=
  let exhaustedByEnvelope := limited o.allowed o.limitReached
  let windows :=
    (o.primaryWindow.map (parseQuotaWindow · now .fiveHour exhaustedByEnvelope)).toList ++
      (o.secondaryWindow.map (parseQuotaWindow · now .weekly exhaustedByEnvelope)).toList
  windows.mapIdx fun i window => classifyWindow window i

def fillWindow (parsed : ParsedQuota) (window : QuotaWindow) : ParsedQuota :=
  match window.kind with
  | .fiveHour => { parsed with fiveHour := some window }
  | .weekly => { parsed with longWindow := some window, family := .weekly }
  | .monthly => { parsed with longWindow := some window, family := .monthly }
  | .unset => parsed

def parseCodexUsagePayload (rateLimit : Option RateLimitObject) (now : Time) : ParsedQuota :=
  match rateLimit with
  | none => { family := .unknown }
  | some o => (parseRateLimitWindows o now).foldl fillWindow { family := .unknown }

structure CodexRateLimitWindow where
  usedPercent : Option Rat := none
  windowMinutes : Option Rat := none
  resetAfterSeconds : Option Rat := none
  resetAt : Option Rat := none

structure CodexRateLimitsPayload where
  allowed : Option Bool := none
  limitReached : Option Bool := none
  primary : Option CodexRateLimitWindow := none
  secondary : Option CodexRateLimitWindow := none

/-- `time.Unix`; the zero time is the first of January of year one. -/
def unixTime (seconds : Rat) : Time := (62135596800 + truncate seconds) * second

def minutesLength (minutes : Option Rat) : Option Int :=
  minutes.bind fun m => if 0 < m then some (truncate (m * 60)) else none

/-- The reset of a window: the absolute one if it is positive, else the relative one. -/
def observedReset (now : Time) (resetAt resetAfterSeconds : Option Rat) : Time :=
  match resetAt.filter fun unix => decide (0 < unix) with
  | some unix => unixTime unix
  | none =>
    match resetAfterSeconds.filter fun after => decide (0 ≤ after) with
    | some after => now + secondsDuration after
    | none => Time.zero

def observedQuotaWindow (window : Option CodexRateLimitWindow) (limited : Bool)
    (now : Time) : Option QuotaWindow :=
  match window with
  | none => none
  | some w =>
    match w.usedPercent with
    | none => none
    | some used =>
      let resetAt := observedReset now w.resetAt w.resetAfterSeconds
      if resetAt.isZero then none
      else
        some
          { usedPercent := some (.num used)
            limitWindowSeconds := minutesLength w.windowMinutes
            resetAt := resetAt
            exhausted := limited || decide (100 ≤ used) }

def familyForWindowMinutes : Option Int → AccountFamily
  | none => .unset
  | some seconds => if seconds ≤ weekSeconds then .weekly else .monthly

def observedQuota (primary secondary : Option QuotaWindow) : ParsedQuota where
  fiveHour := primary
  longWindow := secondary
  family := (secondary.map fun w => familyForWindowMinutes w.limitWindowSeconds).getD .unset

def applyObservedRateLimits (limits : CodexRateLimitsPayload) (now : Time) :
    ParsedQuota :=
  let limited := limited limits.allowed limits.limitReached
  observedQuota (observedQuotaWindow limits.primary limited now)
    (observedQuotaWindow limits.secondary limited now)

/-- The headers of one window as numbers; one that is blank or no number is absent.
`strconv.ParseFloat` reads NaN, which passes the range check of the used percentage. -/
structure WindowHeaders where
  usedPercent : Option Float64 := none
  windowMinutes : Option Rat := none
  resetAt : Option Rat := none
  resetAfterSeconds : Option Rat := none

structure CodexHeaders where
  allowed : String := ""
  limitReached : String := ""
  primary : WindowHeaders := {}
  secondary : WindowHeaders := {}

def quotaWindowFromHeaders (headers : WindowHeaders) (limited : Bool) (now : Time) :
    Option QuotaWindow :=
  match headers.usedPercent with
  | none => none
  | some used =>
    if used.lt 0 || Float64.lt 100 used then none
    else
      let resetAt := observedReset now headers.resetAt headers.resetAfterSeconds
      if resetAt.isZero then none
      else
        some
          { usedPercent := some used
            limitWindowSeconds := minutesLength headers.windowMinutes
            resetAt := resetAt
            exhausted := limited || Float64.le 100 used }

def codexQuotaFromHeaders (headers : CodexHeaders) (now : Time) : ParsedQuota :=
  let limited := decide (headers.allowed = "false") || decide (headers.limitReached = "true")
  observedQuota (quotaWindowFromHeaders headers.primary limited now)
    (quotaWindowFromHeaders headers.secondary limited now)

structure WindowDatum where
  usedPercent : Option Rat
  windowSeconds : Option Int
  resetAfterSeconds : Option Rat

structure RateLimitDatum where
  allowed : Option Bool
  limitReached : Option Bool
  primary : Option WindowDatum
  secondary : Option WindowDatum

def WindowDatum.object (w : WindowDatum) : WindowObject where
  usedPercent := w.usedPercent
  limitWindowSeconds := w.windowSeconds
  resetAfterSeconds := w.resetAfterSeconds

def RateLimitDatum.object (d : RateLimitDatum) : RateLimitObject where
  allowed := d.allowed
  limitReached := d.limitReached
  primaryWindow := d.primary.map WindowDatum.object
  secondaryWindow := d.secondary.map WindowDatum.object

def WindowDatum.minutes (w : WindowDatum) : Option Rat :=
  w.windowSeconds.map fun (seconds : Int) => (seconds : Rat) / 60

def WindowDatum.event (w : WindowDatum) : CodexRateLimitWindow where
  usedPercent := w.usedPercent
  windowMinutes := w.minutes
  resetAfterSeconds := w.resetAfterSeconds

def RateLimitDatum.event (d : RateLimitDatum) : CodexRateLimitsPayload where
  allowed := d.allowed
  limitReached := d.limitReached
  primary := d.primary.map WindowDatum.event
  secondary := d.secondary.map WindowDatum.event

def WindowDatum.headers (w : WindowDatum) : WindowHeaders where
  usedPercent := w.usedPercent.map .num
  windowMinutes := w.minutes
  resetAfterSeconds := w.resetAfterSeconds

def flagText : Option Bool → String
  | none => ""
  | some true => "true"
  | some false => "false"

def RateLimitDatum.headers (d : RateLimitDatum) : CodexHeaders where
  allowed := flagText d.allowed
  limitReached := flagText d.limitReached
  primary := (d.primary.map WindowDatum.headers).getD {}
  secondary := (d.secondary.map WindowDatum.headers).getD {}

inductive Channel
  | event
  | headers
  deriving DecidableEq

def observe (channel : Channel) (d : RateLimitDatum) (now : Time) : ParsedQuota :=
  match channel with
  | .event => applyObservedRateLimits d.event now
  | .headers => codexQuotaFromHeaders d.headers now

inductive Position
  | primary
  | secondary
  deriving DecidableEq

structure Filled where
  position : Position
  exhausted : Bool
  deriving DecidableEq

structure Reading where
  fiveHour : Option Filled
  long : Option Filled
  family : AccountFamily
  deriving DecidableEq

def positions (o : RateLimitObject) : List Position :=
  (o.primaryWindow.map fun _ => .primary).toList ++
    (o.secondaryWindow.map fun _ => .secondary).toList

def isFiveHour (kind : WindowKind) : Bool := decide (kind = .fiveHour)

def isLong (kind : WindowKind) : Bool := decide (kind = .weekly ∨ kind = .monthly)

def fills (kind : WindowKind → Bool) (windows : List (Position × QuotaWindow)) :
    Option (Position × QuotaWindow) :=
  (windows.filter fun w => kind w.2.kind).getLast?

def filled (w : Position × QuotaWindow) : Filled := ⟨w.1, w.2.exhausted⟩

def familyOf (kind : WindowKind) : AccountFamily := if kind = .weekly then .weekly else .monthly

def polledReading (o : RateLimitObject) (now : Time) : Reading :=
  let windows := (positions o).zip (parseRateLimitWindows o now)
  { fiveHour := (fills isFiveHour windows).map filled
    long := (fills isLong windows).map filled
    family := ((fills isLong windows).map fun w => familyOf w.2.kind).getD .unknown }

def observedReading (q : ParsedQuota) : Reading where
  fiveHour := q.fiveHour.map fun w => ⟨.primary, w.exhausted⟩
  long := q.longWindow.map fun w => ⟨.secondary, w.exhausted⟩
  family := q.family

theorem fills_concat (kind : WindowKind → Bool) (windows : List (Position × QuotaWindow))
    (w : Position × QuotaWindow) :
    fills kind (windows ++ [w]) = if kind w.2.kind then some w else fills kind windows := by
  unfold fills
  by_cases h : kind w.2.kind = true
  · simp [h]
  · simp [h]

theorem fills_singleton (kind : WindowKind → Bool) (w : Position × QuotaWindow) :
    fills kind [w] = if kind w.2.kind then some w else none :=
  fills_concat kind [] w

theorem fills_pair (kind : WindowKind → Bool) (v w : Position × QuotaWindow) : fills kind [v, w] =
      if kind w.2.kind then some w else if kind v.2.kind then some v else none := by
  rw [← fills_singleton]
  exact fills_concat kind [v] w

theorem foldl_fillWindow (windows : List (Position × QuotaWindow)) :
    (windows.map (·.2)).foldl fillWindow { family := .unknown } =
      { family := ((fills isLong windows).map fun w => familyOf w.2.kind).getD .unknown
        fiveHour := (fills isFiveHour windows).map (·.2)
        longWindow := (fills isLong windows).map (·.2) } := by
  induction windows using reverseRecOn with
  | nil => rfl
  | append_singleton windows w ih =>
    rw [map_append, foldl_append, ih, fills_concat, fills_concat]
    cases hkind : w.2.kind <;> simp [fillWindow, isLong, isFiveHour, familyOf, hkind]

theorem parseCodexUsagePayload_reading (o : RateLimitObject) (now : Time) :
    parseCodexUsagePayload (some o) now =
      { family := (polledReading o now).family
        fiveHour := (fills isFiveHour ((positions o).zip (parseRateLimitWindows o now))).map (·.2)
        longWindow := (fills isLong ((positions o).zip (parseRateLimitWindows o now))).map
          (·.2) } := by
  have hlength : (parseRateLimitWindows o now).length = (positions o).length := by
    simp only [parseRateLimitWindows, positions, length_mapIdx, length_append]
    cases o.primaryWindow <;> cases o.secondaryWindow <;> rfl
  have hwindows : ((positions o).zip (parseRateLimitWindows o now)).map (·.2) =
      parseRateLimitWindows o now := map_snd_zip hlength.le
  unfold parseCodexUsagePayload
  dsimp only
  conv_lhs => rw [← hwindows]
  exact foldl_fillWindow _

def WindowDatum.full (w : WindowDatum) : Bool := w.usedPercent.any fun used => decide (100 ≤ used)

def WindowDatum.monthly (w : WindowDatum) : Bool :=
  w.windowSeconds.any fun s => decide (minMonthSeconds ≤ s ∧ s ≤ maxMonthSeconds)

def WindowDatum.long (w : WindowDatum) : Bool :=
  decide (w.windowSeconds = some weekSeconds) || w.monthly

/-- The length makes it a five-hour window, or there is none and it comes first. -/
def WindowDatum.short (w : WindowDatum) (alone : Bool) : Bool :=
  decide (w.windowSeconds = some fiveHourSeconds) || (w.windowSeconds.isNone && alone)

def polledWindow (w : WindowDatum) (now : Time) (fallbackKind : WindowKind) (limited : Bool)
    (order : Nat) : QuotaWindow :=
  classifyWindow (parseQuotaWindow w.object now fallbackKind limited) order

open WindowDatum

theorem exhausted_polledWindow (w : WindowDatum) (now : Time) (fallbackKind : WindowKind)
    (flags : Bool) (order : Nat) :
    (polledWindow w now fallbackKind flags order).exhausted =
      (w.full || (w.usedPercent.isNone && flags)) := by
  have hparsed : (parseQuotaWindow w.object now fallbackKind flags).exhausted =
      (w.full || (w.usedPercent.isNone && flags)) := by
    cases hused : w.usedPercent <;>
      simp [parseQuotaWindow, object, full, limited, hused]
  unfold polledWindow classifyWindow
  split <;> split_ifs <;> exact hparsed

theorem kind_primary (w : WindowDatum) (now : Time) (flags : Bool) :
    (polledWindow w now .fiveHour flags 0).kind =
      if w.monthly then .monthly else if w.long then .weekly else .fiveHour := by
  unfold polledWindow classifyWindow long monthly
  simp only [parseQuotaWindow, object]
  cases w.windowSeconds with
  | none => simp
  | some seconds =>
    simp only [fiveHourSeconds, weekSeconds, minMonthSeconds, maxMonthSeconds, any_some, some.injEq]
    grind

theorem kind_secondary (w : WindowDatum) (now : Time) (flags : Bool) (alone : Bool) :
    (polledWindow w now .weekly flags (if alone then 0 else 1)).kind =
      if w.short alone then .fiveHour else if w.monthly then .monthly else .weekly := by
  unfold polledWindow classifyWindow short monthly
  simp only [parseQuotaWindow, object]
  cases w.windowSeconds with
  | none => cases alone <;> simp
  | some seconds =>
    simp only [fiveHourSeconds, weekSeconds, minMonthSeconds, maxMonthSeconds, any_some, some.injEq]
    grind

theorem zip_positions (d : RateLimitDatum) (now : Time) :
    (positions d.object).zip (parseRateLimitWindows d.object now) =
      (d.primary.map fun p => (Position.primary,
        polledWindow p now .fiveHour (limited d.allowed d.limitReached) 0)).toList ++
      (d.secondary.map fun s => (Position.secondary,
        polledWindow s now .weekly (limited d.allowed d.limitReached)
          (if d.primary.isNone then 0 else 1))).toList := by
  cases hp : d.primary <;> cases hs : d.secondary <;>
    simp [positions, parseRateLimitWindows, RateLimitDatum.object, polledWindow, hp, hs]

/-- The reset can be read: it is not before the reading, and not the zero time. -/
def resets (now : Time) (w : WindowDatum) : Bool :=
  w.resetAfterSeconds.any fun after => decide (0 ≤ after ∧ now + secondsDuration after ≠ Time.zero)

def readable (channel : Channel) (now : Time) (w : WindowDatum) : Bool :=
  (w.usedPercent.any fun used => decide (channel = .event ∨ 0 ≤ used ∧ used ≤ 100)) && resets now w

theorem minutesLength_minutes (w : WindowDatum) :
    minutesLength w.minutes = w.windowSeconds.filter fun s => decide (0 < s) := by
  cases hseconds : w.windowSeconds with
  | none => simp [minutesLength, minutes, hseconds]
  | some seconds =>
    have hback : (seconds : Rat) / 60 * 60 = seconds := by field_simp
    have hpos : (0 : Rat) < (seconds : Rat) / 60 ↔ 0 < seconds := by
      rw [lt_div_iff₀ (by norm_num), zero_mul, Int.cast_pos]
    simp only [minutesLength, minutes, hseconds, map_some, bind_some,
      hback, truncate_intCast, hpos, filter_some, decide_eq_true_eq]

def observedWindow (w : WindowDatum) (now : Time) (flags : Bool) : QuotaWindow where
  usedPercent := w.usedPercent.map .num
  limitWindowSeconds := w.windowSeconds.filter fun s => decide (0 < s)
  resetAt := observedReset now none w.resetAfterSeconds
  exhausted := flags || w.full

theorem isZero_observedReset (now : Time) (w : WindowDatum) :
    (observedReset now none w.resetAfterSeconds).isZero = !resets now w := by
  unfold observedReset resets
  cases w.resetAfterSeconds with
  | none => rfl
  | some seconds =>
    by_cases hpos : 0 ≤ seconds
    · simp [Time.isZero, Option.filter, hpos]
    · simp [Time.isZero, Option.filter, hpos]

theorem observed_event (w : WindowDatum) (now : Time) (flags : Bool) :
    observedQuotaWindow (some w.event) flags now =
      if readable .event now w then some (observedWindow w now flags) else none := by
  unfold observedQuotaWindow readable observedWindow
  simp only [event, minutesLength_minutes, isZero_observedReset]
  cases hused : w.usedPercent with
  | none => simp
  | some used => cases hreset : resets now w <;> simp [full, hused]

theorem observed_headers (w : WindowDatum) (now : Time) (flags : Bool) :
    quotaWindowFromHeaders w.headers flags now =
      if readable .headers now w then some (observedWindow w now flags) else none := by
  unfold quotaWindowFromHeaders readable observedWindow
  simp only [headers, minutesLength_minutes, isZero_observedReset]
  cases hused : w.usedPercent with
  | none => simp
  | some used =>
    have hrange : ((Float64.num used).lt 0 || Float64.lt 100 (.num used)) =
        !decide (0 ≤ used ∧ used ≤ 100) := by
      change (decide (used < 0) || decide (100 < used)) = _
      rw [Bool.eq_iff_iff]
      simp only [Bool.or_eq_true, decide_eq_true_eq, Bool.not_eq_true', decide_eq_false_iff_not,
        not_and_or, not_le]
    have hfull : Float64.le 100 (.num used) = decide (100 ≤ used) := rfl
    by_cases hin : 0 ≤ used ∧ used ≤ 100
    · cases hreset : resets now w <;> simp [hrange, hin, full, hused, hfull]
    · simp [hrange, hin]

theorem limited_headers (d : RateLimitDatum) :
    (decide (d.headers.allowed = "false") || decide (d.headers.limitReached = "true")) =
      limited d.allowed d.limitReached := by
  change (decide (flagText d.allowed = "false") || decide (flagText d.limitReached = "true")) = _
  rcases d.allowed with _ | _ | _ <;> rcases d.limitReached with _ | _ | _ <;> decide

theorem observe_eq (channel : Channel) (d : RateLimitDatum) (now : Time) : observe channel d now =
      observedQuota ((d.primary.filter (readable channel now)).map
          (observedWindow · now (limited d.allowed d.limitReached)))
        ((d.secondary.filter (readable channel now)).map
          (observedWindow · now (limited d.allowed d.limitReached))) := by
  have hfilter : ∀ w : WindowDatum, ∀ flags,
      (if readable channel now w then some (observedWindow w now flags) else none) =
        ((some w).filter (readable channel now)).map (observedWindow · now flags) := by
    intro w flags
    cases hread : readable channel now w <;> simp [hread]
  have hevent : ∀ (o : Option WindowDatum) flags, channel = .event →
      observedQuotaWindow (o.map event) flags now =
        (o.filter (readable channel now)).map (observedWindow · now flags) := by
    rintro (_ | w) flags rfl
    · rfl
    · rw [map_some, observed_event, hfilter]
  have hheaders : ∀ (o : Option WindowDatum) flags, channel = .headers →
      quotaWindowFromHeaders ((o.map headers).getD {}) flags now =
        (o.filter (readable channel now)).map (observedWindow · now flags) := by
    rintro (_ | w) flags rfl
    · rfl
    · rw [map_some, getD_some, observed_headers, hfilter]
  cases channel with
  | event =>
    simp only [observe, applyObservedRateLimits, RateLimitDatum.event, hevent _ _ rfl]
  | headers =>
    simp only [observe, codexQuotaFromHeaders]
    rw [limited_headers]
    exact congrArg₂ observedQuota (hheaders _ _ rfl) (hheaders _ _ rfl)

/-- A window whose own number the flags of the envelope do not go beyond. -/
def ownSignal (d : RateLimitDatum) (w : WindowDatum) : Prop :=
  limited d.allowed d.limitReached = true → w.full = true

/-- The length of a long window that both readers give the same family. -/
def familiar (w : WindowDatum) : Prop :=
  ∃ seconds, w.windowSeconds = some seconds ∧ 0 < seconds ∧ seconds ≠ fiveHourSeconds ∧
    (seconds ≤ weekSeconds ∨ minMonthSeconds ≤ seconds ∧ seconds ≤ maxMonthSeconds)

/-- Read alike: there is a long secondary window, and an unobservable primary one may stand before
it. Without one the families are unknown and empty. -/
structure ReadAlike (channel : Channel) (d : RateLimitDatum) (now : Time) : Prop where
  secondary : ∃ s, d.secondary = some s ∧ readable channel now s = true ∧ ownSignal d s ∧ familiar s
  primary : ∀ p, d.primary = some p →
    if p.long then readable channel now p = false
    else readable channel now p = true ∧ ownSignal d p

variable {w : WindowDatum} {channel : Channel} {now : Time}

theorem usedPercent_of_readable (h : readable channel now w = true) :
    w.usedPercent.isNone = false := by
  cases hused : w.usedPercent with
  | none => simp [readable, hused] at h
  | some used => rfl

theorem exhausted_eq {d : RateLimitDatum} (h : readable channel now w = true)
    (hown : ownSignal d w) :
    (w.full || (w.usedPercent.isNone && limited d.allowed d.limitReached)) =
      (limited d.allowed d.limitReached || w.full) := by
  rw [usedPercent_of_readable h]
  unfold ownSignal at hown
  cases hlimited : limited d.allowed d.limitReached <;> simp_all

theorem short_of_familiar (h : familiar w) (alone : Bool) : w.short alone = false := by
  obtain ⟨seconds, hseconds, -, hfive, -⟩ := h
  simp [short, hseconds, hfive]

theorem family_of_familiar (h : familiar w) :
    familyOf (if w.monthly then .monthly else .weekly) =
      familyForWindowMinutes (w.windowSeconds.filter fun s => decide (0 < s)) := by
  obtain ⟨seconds, hseconds, hpos, -, hlength⟩ := h
  simp only [monthly, hseconds, any_some, filter_some, hpos, decide_true, if_true,
    familyForWindowMinutes, familyOf, weekSeconds, minMonthSeconds, maxMonthSeconds] at hlength ⊢
  rcases hlength with hweek | hmonth
  · have hshort : ¬(2419200 ≤ seconds ∧ seconds ≤ 2678400) := by omega
    simp [hshort, hweek]
  · have hlong : ¬seconds ≤ 604800 := by omega
    simp [hmonth, hlong]

section

variable (w : WindowDatum) (now : Time) (flags alone : Bool)

theorem isFiveHour_primary : isFiveHour (polledWindow w now .fiveHour flags 0).kind = !w.long := by
  rw [kind_primary]
  unfold long
  cases w.monthly <;> cases decide (w.windowSeconds = some weekSeconds) <;> rfl

theorem isFiveHour_secondary :
    isFiveHour (polledWindow w now .weekly flags (if alone then 0 else 1)).kind =
      w.short alone := by
  rw [kind_secondary]
  cases w.short alone <;> cases w.monthly <;> rfl

theorem isLong_secondary :
    isLong (polledWindow w now .weekly flags (if alone then 0 else 1)).kind = !w.short alone := by
  rw [kind_secondary]
  cases w.short alone <;> cases w.monthly <;> rfl

variable {w alone} in
theorem familyOf_secondary (h : w.short alone = false) :
    familyOf (polledWindow w now .weekly flags (if alone then 0 else 1)).kind =
      familyOf (if w.monthly then .monthly else .weekly) := by
  rw [kind_secondary, h]
  rfl

end

attribute [local simp] fills_singleton fills_pair isFiveHour_primary isFiveHour_secondary
  isLong_secondary exhausted_polledWindow observedReading observedQuota observedWindow filled
  Option.filter

private def fiveHourFirst : RateLimitDatum :=
  ⟨some false, some true, some ⟨some 100, some 18000, some 3600⟩,
    some ⟨some 100, some 2592000, some 86400⟩⟩

private def weeklyFirst : RateLimitDatum :=
  ⟨some true, some false, some ⟨some 40, some 604800, some 86400⟩,
    some ⟨some 10, some 18000, some 3600⟩⟩

private def oneLimitReached : RateLimitDatum :=
  ⟨some false, some true, some ⟨some 100, some 18000, some 3600⟩,
    some ⟨some 20, some 604800, some 86400⟩⟩

end QuotaScheduler.QuotaReadings

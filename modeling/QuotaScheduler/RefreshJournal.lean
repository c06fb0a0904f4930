/- Which log entries the journal of a refresh carries (state.go, auth_transaction.go). -/

import QuotaScheduler.Models

namespace QuotaScheduler.RefreshJournal

open List

structure LogEntry where
  time : Time
  level : String
  event : String
  message : String
  deriving DecidableEq

structure LogConfig where
  maxLogEntries : Int
  logRetention : Duration

def normalizeLogConfig (cfg : LogConfig) : LogConfig where
  maxLogEntries := if cfg.maxLogEntries ≤ 0 then 200 else cfg.maxLogEntries
  logRetention := if cfg.logRetention ≤ 0 then 24 * hour else cfg.logRetention

def recent (cfg : LogConfig) (now : Time) (log : LogEntry) : Bool :=
  log.time.isZero || !log.time.before (now - (normalizeLogConfig cfg).logRetention)

def surplus (cfg : LogConfig) (logs : List LogEntry) : Nat :=
  logs.length - (normalizeLogConfig cfg).maxLogEntries.toNat

def retainedLogs (logs : List LogEntry) (cfg : LogConfig) (now : Time) : List LogEntry :=
  let retained := logs.filter (recent cfg now)
  retained.drop (surplus cfg retained)

/-- A call of `RecordLog`; `clock` is what it reads when `now` is the zero time. -/
structure LogCall where
  level : String
  event : String
  message : String
  now : Time
  clock : Time

def LogCall.time (c : LogCall) : Time := if c.now.isZero then c.clock else c.now

def LogCall.entry (c : LogCall) : LogEntry := ⟨c.time, c.level, c.event, c.message⟩

def recordLog (cfg : LogConfig) (logs : List LogEntry) (c : LogCall) : List LogEntry :=
  retainedLogs (logs ++ [c.entry]) cfg c.time

/-- The part of `legacyEffectJournal` about logs. -/
def legacyEffectLogs (logs : List LogEntry) (baselineLogs : Nat) : List LogEntry :=
  if baselineLogs < logs.length then logs.drop baselineLogs else []

/-- The logs of `RunHeld`: the overlay is a copy, the baseline its snapshot. -/
def runLogs (cfg : LogConfig) (live : List LogEntry) (now : Time) (calls : List LogCall) :
    List LogEntry :=
  legacyEffectLogs (calls.foldl (recordLog cfg) live) (retainedLogs live cfg now).length

/-- The entries of a run that retention keeps: those in a log that has no others. -/
def ownLogs (cfg : LogConfig) (calls : List LogCall) : List LogEntry :=
  calls.foldl (recordLog cfg) []

def maxEntries (cfg : LogConfig) : Nat := (normalizeLogConfig cfg).maxLogEntries.toNat

/-- No live entry expires between the snapshot and the last call, a run that records nothing meets
no expired one, and the log has room for all entries of the run. -/
structure Roomy (cfg : LogConfig) (live : List LogEntry) (now : Time) (calls : List LogCall) :
    Prop where
  steady : ∀ log ∈ live, ∀ c ∈ calls, recent cfg c.time log = recent cfg now log
  idle : calls = [] → ∀ log ∈ live, recent cfg now log = true
  room : (live.filter (recent cfg now)).length + calls.length ≤ maxEntries cfg

variable {cfg : LogConfig} {live own : List LogEntry} {now : Time} {calls : List LogCall}

theorem retainedLogs_of_le (h : (live.filter (recent cfg now)).length ≤ maxEntries cfg) :
    retainedLogs live cfg now = live.filter (recent cfg now) := by
  have hnone : surplus cfg (live.filter (recent cfg now)) = 0 := Nat.sub_eq_zero_of_le h
  rw [retainedLogs, hnone, drop_zero]

theorem length_recordLog_le (cfg : LogConfig) (own : List LogEntry) (c : LogCall) :
    (recordLog cfg own c).length ≤ own.length + 1 := by
  have hfilter := length_filter_le (recent cfg c.time) (own ++ [c.entry])
  rw [recordLog, retainedLogs, length_drop]
  rw [length_append, length_singleton] at hfilter
  omega

theorem recordLog_append {c : LogCall}
    (hsteady : ∀ log ∈ live, recent cfg c.time log = recent cfg now log)
    (hroom : (live.filter (recent cfg now)).length + own.length < maxEntries cfg) :
    recordLog cfg (live ++ own) c = live.filter (recent cfg now) ++ recordLog cfg own c := by
  have hfilter := length_filter_le (recent cfg c.time) (own ++ [c.entry])
  rw [length_append, length_singleton] at hfilter
  have hlive : live.filter (recent cfg c.time) = live.filter (recent cfg now) :=
    filter_congr hsteady
  have hown : recordLog cfg own c = (own ++ [c.entry]).filter (recent cfg c.time) :=
    retainedLogs_of_le (by omega)
  rw [hown, recordLog, append_assoc, retainedLogs_of_le, filter_append, hlive]
  rw [filter_append, hlive, length_append]
  omega

/-- The live entries that stay are in front of what the run leaves in a log of its own. -/
theorem foldl_recordLog (now : Time) (hlive : ∀ log ∈ live, recent cfg now log = true)
    (hsteady : ∀ log ∈ live, ∀ c ∈ calls, recent cfg c.time log = recent cfg now log)
    (hroom : live.length + own.length + calls.length ≤ maxEntries cfg) :
    calls.foldl (recordLog cfg) (live ++ own) = live ++ calls.foldl (recordLog cfg) own := by
  induction calls generalizing own with
  | nil => rfl
  | cons c calls ih =>
    have hall : live.filter (recent cfg now) = live := filter_eq_self.mpr hlive
    have hlength := length_recordLog_le cfg own c
    rw [length_cons] at hroom
    rw [foldl_cons, foldl_cons, recordLog_append (fun log h => hsteady log h c mem_cons_self)
      (by rw [hall]; omega), hall]
    exact ih (fun log h d hd => hsteady log h d (mem_cons_of_mem c hd)) (by omega)

theorem legacyEffectLogs_eq_drop (logs : List LogEntry) (baseline : Nat) :
    legacyEffectLogs logs baseline = logs.drop baseline := by
  unfold legacyEffectLogs
  split
  · rfl
  · rename_i hle
    exact (drop_eq_nil_of_le (Nat.not_lt.mp hle)).symm

theorem overlay_of_roomy (h : Roomy cfg live now calls) :
    calls.foldl (recordLog cfg) live = live.filter (recent cfg now) ++ ownLogs cfg calls := by
  cases calls with
  | nil => rw [filter_eq_self.mpr (h.idle rfl)]; exact (append_nil live).symm
  | cons c calls =>
    have hroom := h.room
    have hlength := length_recordLog_le cfg [] c
    have hfirst : recordLog cfg live c = live.filter (recent cfg now) ++ recordLog cfg [] c := by
      have hsplit : recordLog cfg (live ++ []) c = _ :=
        recordLog_append (fun log hlog => h.steady log hlog c mem_cons_self)
          (by rw [length_cons] at hroom; simp only [length_nil]; omega)
      rwa [append_nil] at hsplit
    rw [length_cons] at hroom
    rw [foldl_cons, hfirst, ownLogs, foldl_cons]
    refine foldl_recordLog now (fun log hlog => (mem_filter.mp hlog).2)
      (fun log hlog d hd => h.steady log (mem_filter.mp hlog).1 d (mem_cons_of_mem c hd)) ?_
    simp only [length_nil] at hlength
    omega

end QuotaScheduler.RefreshJournal

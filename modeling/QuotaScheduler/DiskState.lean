/- The user data and its normalisation (disk_state.go, config.go, annotations.go). -/

import Mathlib.Data.Fintype.Pi
import QuotaScheduler.Account
import QuotaScheduler.RetryChain
import QuotaScheduler.UserData

namespace QuotaScheduler.DiskState

open Account (normalizeRetryDelays)
open RetryChain List

/-- The numbers of the configuration, which have to be positive. -/
inductive Setting
  | quotaRefreshInterval
  | staleAfter
  | maxRefreshConcurrency
  | refreshActiveWindow
  | refreshAfterResetDelay
  | authFailureRetryInterval
  | circuitFailureThreshold
  | circuitOpenDuration
  | circuitHalfOpenSuccessThreshold
  | maxLogEntries
  | logRetention
  | retryMaxAttempts
  | retryStallTimeout
  | retryHoldTimeout
  | retryChainDeadline
  | retryMaxFrames
  | retryMaxBytes
  deriving DecidableEq

instance : Fintype Setting where
  elems := (Finset.range 17).image Setting.ofNat
  complete s := by cases s <;> decide

def Setting.default : Setting → Int
  | .quotaRefreshInterval | .authFailureRetryInterval | .circuitOpenDuration => 30 * minute
  | .staleAfter => 5 * hour
  | .maxRefreshConcurrency => 1
  | .refreshActiveWindow => hour
  | .refreshAfterResetDelay => minute
  | .circuitFailureThreshold => 5
  | .circuitHalfOpenSuccessThreshold => 2
  | .maxLogEntries => 200
  | .logRetention => 24 * hour
  | .retryMaxAttempts => 4
  | .retryStallTimeout => 60 * second
  | .retryHoldTimeout => 90 * second
  | .retryChainDeadline => 240 * second
  | .retryMaxFrames => 4096
  | .retryMaxBytes => 8 * 2 ^ 20

/-- The part of the configuration that is normalised. -/
structure Config where
  settings : Setting → Int
  monthlyMode : String
  fallback : String
  quotaEndpoint : String
  refreshRetryDelays : List Duration
  retryChain : List RetryChainRow
  deriving DecidableEq

def chatGPTQuotaEndpoint : String := "https://chatgpt.com/backend-api/wham/usage"

def maxRetryMaxAttempts : Int := 16

def defaultConfig : Config where
  settings := Setting.default
  monthlyMode := "expiry_order"
  fallback := "fill-first"
  quotaEndpoint := chatGPTQuotaEndpoint
  refreshRetryDelays := [minute, 5 * minute, 15 * minute]
  retryChain := []

/-- `unicode.ToLower`, with what is used of it: it is idempotent, and spaces stay spaces. -/
structure Lowering where
  lower : Char → Char
  lower_lower : ∀ c, lower (lower c) = lower c
  isSpace_lower : ∀ c, Roster.isSpace (lower c) = Roster.isSpace c

theorem toNat_toLower (c : Char) : c.toLower.toNat =
    if 65 ≤ c.toNat ∧ c.toNat ≤ 90 then c.toNat + 32 else c.toNat := by
  split
  next h =>
    have hlower : c.toLower.toNat = (c.val + 32).toNat := congrArg Char.toNat (dif_pos h)
    have hadd : (c.val + 32).toNat = (c.toNat + 32) % 2 ^ 32 := UInt32.toNat_add _ _
    omega
  next h => exact congrArg Char.toNat (dif_neg h)

/-- `unicode.ToLower` on the ASCII texts. -/
def asciiLowering : Lowering where
  lower := Char.toLower
  lower_lower c := by
    rw [← Char.toNat_inj]
    grind [toNat_toLower]
  isSpace_lower c := by
    rw [Bool.eq_iff_iff]
    simp [Roster.isSpace, toNat_toLower]
    grind

variable (L : Lowering)

def normalizeRetryChain (rows : List RetryChainRow) : List RetryChainRow :=
  rows.filterMap fun row =>
    if trim row.model = "" then none
    else some ⟨trim row.model,
      (row.fallbacks.map (normalizeRetryTarget L.lower)).filter fun target => target.model ≠ ""⟩

def normalizeSetting (setting : Setting) (value : Int) : Int :=
  let value := if value ≤ 0 then setting.default else value
  if setting = .retryMaxAttempts then min value maxRetryMaxAttempts else value

def normalizeConfig (cfg : Config) : Config where
  settings setting := normalizeSetting setting (cfg.settings setting)
  monthlyMode := if cfg.monthlyMode = "" then defaultConfig.monthlyMode else cfg.monthlyMode
  fallback := if cfg.fallback = "" then defaultConfig.fallback else cfg.fallback
  quotaEndpoint :=
    if trim cfg.quotaEndpoint = "" then defaultConfig.quotaEndpoint else cfg.quotaEndpoint
  refreshRetryDelays :=
    normalizeRetryDelays cfg.refreshRetryDelays defaultConfig.refreshRetryDelays
  retryChain := normalizeRetryChain L cfg.retryChain

def validateQuotaEndpoint (raw : String) : Option String :=
  let endpoint := trim raw
  if endpoint = "" then some ""
  else if endpoint ≠ chatGPTQuotaEndpoint then none
  else some endpoint

structure AccountAnnotation where
  aliasName : String
  notes : String
  tags : List String
  groupID : String
  schedulerPriority : Int
  deriving DecidableEq

structure GroupAnnotation where
  name : String
  notes : String
  tags : List String
  color : String
  deriving DecidableEq

def normalizeTagsFrom (seen : List String) : List String → List String
  | [] => []
  | tag :: rest =>
    if trim tag = "" ∨ trim tag ∈ seen then normalizeTagsFrom seen rest
    else trim tag :: normalizeTagsFrom (trim tag :: seen) rest

def normalizeTags (tags : List String) : List String := normalizeTagsFrom [] tags

structure PluginDiskState where
  config : Config
  accounts : List (String × AccountAnnotation)
  groups : List (String × GroupAnnotation)
  deriving DecidableEq

/-- A configuration without its first settings is none. -/
def presentConfig (cfg : Config) : Config :=
  if cfg.settings .quotaRefreshInterval ≤ 0 ∧ cfg.settings .staleAfter ≤ 0 ∧
      cfg.monthlyMode = "" then
    defaultConfig
  else cfg

def validEndpoint (cfg : Config) : Config :=
  if (validateQuotaEndpoint cfg.quotaEndpoint).isSome then cfg
  else { cfg with quotaEndpoint := defaultConfig.quotaEndpoint }

def normalizePluginDiskState (state : PluginDiskState) : PluginDiskState where
  config := validEndpoint (normalizeConfig L (presentConfig state.config))
  accounts := state.accounts.map fun (key, a) => (key, { a with tags := normalizeTags a.tags })
  groups := state.groups.map fun (key, g) => (key, { g with tags := normalizeTags g.tags })

variable {L}

theorem trim_toLower (s : String) : trim (toLower L.lower (trim s)) = toLower L.lower (trim s) := by
  have hspace : Roster.isSpace ∘ L.lower = Roster.isSpace := funext L.isSpace_lower
  have hmap : ∀ t : String, Roster.trimSpace (toLower L.lower t) =
      (Roster.trimSpace t).map L.lower := by
    intro t
    simp [Roster.trimSpace, toLower, dropWhile_map, hspace, ← map_reverse]
  have htrim : Roster.trimSpace (trim s) = Roster.trimSpace s := by
    simpa [trim] using congrArg String.toList (trim_trim s)
  rw [trim, hmap, htrim]
  simp [toLower, trim]

theorem normalizeRetryTarget_idem (target : RetryTarget) :
    normalizeRetryTarget L.lower (normalizeRetryTarget L.lower target) =
      normalizeRetryTarget L.lower target := by
  have hlower : L.lower ∘ L.lower = L.lower := funext L.lower_lower
  simp only [normalizeRetryTarget, trim_trim, trim_toLower]
  simp only [toLower, String.toList_ofList, map_map, hlower]

theorem normalizeRetryChain_idem (rows : List RetryChainRow) :
    normalizeRetryChain L (normalizeRetryChain L rows) = normalizeRetryChain L rows := by
  unfold normalizeRetryChain
  rw [filterMap_filterMap]
  refine filterMap_congr fun row _ => ?_
  split
  · rfl
  next hmodel =>
    -- the targets that are kept are normalised already
    have hfixed : ∀ target ∈ (row.fallbacks.map (normalizeRetryTarget L.lower)).filter
        fun target => target.model ≠ "", normalizeRetryTarget L.lower target = target := by
      intro target htarget
      obtain ⟨raw, -, rfl⟩ := mem_map.mp (mem_filter.mp htarget).1
      exact normalizeRetryTarget_idem raw
    simp only [Option.bind_some, trim_trim, if_neg hmodel, map_congr_left hfixed, map_id',
      filter_filter, Bool.and_self]

theorem normalizeRetryDelays_idem (values : List Duration) :
    normalizeRetryDelays (normalizeRetryDelays values defaultConfig.refreshRetryDelays)
      defaultConfig.refreshRetryDelays =
    normalizeRetryDelays values defaultConfig.refreshRetryDelays := by
  unfold normalizeRetryDelays
  dsimp only
  split
  · decide
  next hfull =>
    rw [filter_filter]
    simp [hfull]

theorem normalizeTagsFrom_idem (seen tags : List String) :
    normalizeTagsFrom seen (normalizeTagsFrom seen tags) = normalizeTagsFrom seen tags := by
  induction tags generalizing seen with
  | nil => rfl
  | cons tag rest ih =>
    rw [normalizeTagsFrom]
    split
    · exact ih seen
    next hkept => rw [normalizeTagsFrom, trim_trim, if_neg hkept, ih]

theorem normalizeSetting_pos (setting : Setting) (value : Int) :
    0 < normalizeSetting setting value := by
  have hdefault : 0 < setting.default := by cases setting <;> decide
  unfold normalizeSetting maxRetryMaxAttempts
  grind

theorem normalizeSetting_idem (setting : Setting) (value : Int) :
    normalizeSetting setting (normalizeSetting setting value) = normalizeSetting setting value := by
  have hpos := normalizeSetting_pos setting value
  rw [normalizeSetting, if_neg (not_le.mpr hpos)]
  split
  next hattempts =>
    refine min_eq_left ?_
    unfold normalizeSetting
    rw [if_pos hattempts]
    exact min_le_right _ _
  next => rfl

/-- A normalised configuration stays as it is, whatever valid endpoint it gets. -/
theorem normalizeConfig_idem (cfg : Config) {endpoint : String} (h : trim endpoint ≠ "") :
    normalizeConfig L { normalizeConfig L cfg with quotaEndpoint := endpoint } =
      { normalizeConfig L cfg with quotaEndpoint := endpoint } := by
  have hmode : ∀ s : String, (if s = "" then defaultConfig.monthlyMode else s) ≠ "" := by
    grind [defaultConfig]
  have hfallback : ∀ s : String, (if s = "" then defaultConfig.fallback else s) ≠ "" := by
    grind [defaultConfig]
  simp only [normalizeConfig, normalizeSetting_idem, hmode, hfallback, h, normalizeRetryDelays_idem,
    normalizeRetryChain_idem, if_false]

theorem validConfig_idem (cfg : Config) :
    validEndpoint (normalizeConfig L (presentConfig (validEndpoint (normalizeConfig L cfg)))) =
      validEndpoint (normalizeConfig L cfg) := by
  obtain ⟨endpoint, hne, hvalid, heq⟩ : ∃ endpoint, trim endpoint ≠ "" ∧
      (validateQuotaEndpoint endpoint).isSome = true ∧ validEndpoint (normalizeConfig L cfg) =
        { normalizeConfig L cfg with quotaEndpoint := endpoint } := by
    unfold validEndpoint
    split
    next hvalid =>
      refine ⟨_, ?_, hvalid, rfl⟩
      dsimp only [normalizeConfig]
      split
      · decide +kernel
      · assumption
    next => exact ⟨chatGPTQuotaEndpoint, by decide +kernel, by decide +kernel, rfl⟩
  have hpresent : ∀ c : Config, 0 < c.settings .quotaRefreshInterval → presentConfig c = c :=
    fun c hpos => if_neg fun hnone => absurd hnone.1 (not_le.mpr hpos)
  have hpos := normalizeSetting_pos .quotaRefreshInterval (cfg.settings .quotaRefreshInterval)
  rw [heq, hpresent _ hpos, normalizeConfig_idem cfg hne]
  exact if_pos hvalid

theorem normalizePluginDiskState_idem (state : PluginDiskState) :
    normalizePluginDiskState L (normalizePluginDiskState L state) =
      normalizePluginDiskState L state := by
  unfold normalizePluginDiskState
  simp [validConfig_idem, normalizeTags, normalizeTagsFrom_idem]

def diskStates (L : Lowering) : UserData.DiskStates PluginDiskState where
  defaultState := ⟨defaultConfig, [], []⟩
  normalizePluginDiskState := normalizePluginDiskState L
  normalize_normalize := normalizePluginDiskState_idem

end QuotaScheduler.DiskState

/- How a model finds its row, and the plan made of it (retry_chain.go, retry_runtime.go). -/

import QuotaScheduler.Roster
import Mathlib.Data.List.DropRight

namespace QuotaScheduler.RetryChain

open List Option

open Roster (isSpace trimSpace)

def trim (s : String) : String := String.ofList (trimSpace s)

theorem trimSpace_eq (s : String) :
    trimSpace s = (s.toList.dropWhile isSpace).rdropWhile isSpace := rfl

theorem trim_trim (s : String) : trim (trim s) = trim s := by
  have hfront : (trimSpace s).dropWhile isSpace = trimSpace s := by
    rw [trimSpace_eq, dropWhile_eq_self_iff]
    intro hpos
    -- what is left begins with the first character that is no space
    have hhead := rdropWhile_prefix isSpace (l := s.toList.dropWhile isSpace)
    have hne := ne_nil_of_length_pos hpos
    rw [getElem_zero_eq_head, hhead.head hne, head_dropWhile_not isSpace (hhead.ne_nil hne)]
    decide
  unfold trim
  rw [trimSpace_eq (.ofList (trimSpace s)), String.toList_ofList, hfront, trimSpace_eq s,
    rdropWhile_idempotent]

variable (lower : Char → Char)

/-- `strings.ToLower`, with `unicode.ToLower` as a parameter. -/
def toLower (s : String) : String := String.ofList (s.toList.map lower)

structure RetryTarget where
  provider : String := ""
  model : String
  deriving DecidableEq

structure RetryChainRow where
  model : String
  fallbacks : List RetryTarget
  deriving DecidableEq

structure RetryPlan where
  key : String
  requested : RetryTarget
  fallbacks : List RetryTarget := []
  maxAttempts : Int
  deriving DecidableEq

structure RetryConfig where
  retryEnabled : Bool := false
  retryAlways : Bool := false
  retryMaxAttempts : Int := 4
  retryChain : List RetryChainRow := []

def RetryPlan.targetCount (p : RetryPlan) : Int :=
  let count : Int := 1 + p.fallbacks.length
  if 0 < p.maxAttempts ∧ p.maxAttempts < count then p.maxAttempts else count

def RetryPlan.target (p : RetryPlan) (index : Nat) : Option RetryTarget :=
  if p.targetCount ≤ index then none
  else
    match index with
    | 0 => some p.requested
    | i + 1 => p.fallbacks[i]?

def RetryPlan.targets (p : RetryPlan) : List RetryTarget :=
  (List.range p.targetCount.toNat).filterMap p.target

def normalizeRetryTarget (target : RetryTarget) : RetryTarget :=
  ⟨toLower lower (trim target.provider), trim target.model⟩

def retryChainRowFor (rows : List RetryChainRow) (model : String) : Option RetryChainRow :=
  let trimmed := trim model
  if trimmed = "" then none
  else
    match rows.find? fun row => decide (trim row.model = trimmed) with
    | some row => some row
    | none => rows.find? fun row =>
        decide (toLower lower (trim row.model) = toLower lower trimmed)

def RetryConfig.maxAttempts (cfg : RetryConfig) : Int :=
  if cfg.retryMaxAttempts ≤ 0 then 4 else cfg.retryMaxAttempts

def retryPlanFor (cfg : RetryConfig) (model : String) : Option RetryPlan :=
  match retryChainRowFor lower cfg.retryChain model with
  | none =>
    if cfg.retryAlways ∧ trim model ≠ "" then
      some
        { key := trim model
          requested := normalizeRetryTarget lower { model := model }
          fallbacks := List.replicate (cfg.maxAttempts - 1).toNat
            (normalizeRetryTarget lower { model := model })
          maxAttempts := cfg.maxAttempts }
    else none
  | some row =>
    some
      { key := trim row.model
        requested := normalizeRetryTarget lower { model := trim row.model }
        fallbacks := row.fallbacks.map (normalizeRetryTarget lower)
        maxAttempts := cfg.maxAttempts }

def RetryConfig.retryActive (cfg : RetryConfig) : Bool :=
  cfg.retryEnabled && (cfg.retryAlways || !cfg.retryChain.isEmpty)

def splitRetryModelSuffix (model : String) : String × String × Bool :=
  let trimmed := trimSpace model
  -- the part behind the last open bracket, reversed
  let behind := trimmed.reverse.takeWhile (· ≠ '(')
  if '(' ∉ trimmed ∨ trimmed.getLast? ≠ some ')' then (String.ofList trimmed, "", false)
  else
    let base := trim (String.ofList (trimmed.take (trimmed.length - behind.length - 1)))
    if base = "" then (String.ofList trimmed, "", false)
    else (base, String.ofList (behind.reverse.dropLast), true)

def retryPlanForRequest (cfg : RetryConfig) (model : String) : Option RetryPlan :=
  match retryPlanFor lower cfg model with
  | some plan => some plan
  | none =>
    let split := splitRetryModelSuffix model
    if split.2.2 then retryPlanFor lower cfg split.1 else none

structure ModelRouteRequest where
  stream : Bool
  requestedModel : String

structure ModelRouteResponse where
  handled : Bool
  targetSelf : Bool := false
  reason : String
  deriving DecidableEq

def routeRetryChain (cfg : RetryConfig) (req : ModelRouteRequest) : ModelRouteResponse :=
  if !cfg.retryActive then { handled := false, reason := "retry chain disabled" }
  else if !req.stream then
    { handled := false, reason := "retry chain handles streaming requests only" }
  else if (retryPlanForRequest lower cfg req.requestedModel).isNone then
    { handled := false, reason := "no retry chain for model" }
  else { handled := true, targetSelf := true, reason := "retry chain" }

/-- The executor's request, with the text under `requested_model`. -/
structure ExecutorRequest where
  model : String
  metadataModel : Option String := none

def retryRequestedModel (exec : ExecutorRequest) : String :=
  if trim exec.model ≠ "" then trim exec.model
  else (exec.metadataModel.map trim).getD ""

def retrySingleTargetPlan (model : String) : RetryPlan where
  key := model
  requested := normalizeRetryTarget lower { model := model }
  maxAttempts := 1

def executedPlan (cfg : RetryConfig) (exec : ExecutorRequest) : RetryPlan :=
  let requested := retryRequestedModel exec
  (retryPlanFor lower cfg requested).getD (retrySingleTargetPlan lower requested)

variable {model : String}

theorem retryChainRowFor_some {rows : List RetryChainRow} {row : RetryChainRow}
    (h : retryChainRowFor lower rows model = some row) :
    row ∈ rows ∧ toLower lower (trim row.model) = toLower lower (trim model) := by
  unfold retryChainRowFor at h
  dsimp only at h
  split at h
  · cases h
  · split at h
    · next exact_ hexact =>
      cases h
      have hname := find?_some hexact
      rw [decide_eq_true_eq] at hname
      exact ⟨mem_of_find?_eq_some hexact, by rw [hname]⟩
    · have hname := find?_some h
      rw [decide_eq_true_eq] at hname
      exact ⟨mem_of_find?_eq_some h, hname⟩

theorem retryChainRowFor_isSome {rows : List RetryChainRow} (hmodel : trim model ≠ "")
    {row : RetryChainRow} (hrow : row ∈ rows)
    (hname : toLower lower (trim row.model) = toLower lower (trim model)) :
    (retryChainRowFor lower rows model).isSome = true := by
  unfold retryChainRowFor
  rw [if_neg hmodel]
  split
  · rfl
  · rw [find?_isSome]
    exact ⟨row, hrow, decide_eq_true hname⟩

theorem retryPlanFor_trim (cfg : RetryConfig) (model : String) :
    retryPlanFor lower cfg (trim model) = retryPlanFor lower cfg model := by
  have hrow : retryChainRowFor lower cfg.retryChain (trim model) =
      retryChainRowFor lower cfg.retryChain model := by
    unfold retryChainRowFor
    rw [trim_trim]
  unfold retryPlanFor normalizeRetryTarget
  rw [hrow]
  simp only [trim_trim]

theorem trim_ne_of_suffix (h : (splitRetryModelSuffix model).2.2 = true) : trim model ≠ "" := by
  unfold splitRetryModelSuffix at h
  dsimp only at h
  split at h
  · cases h
  · next hsplit =>
    intro hempty
    have hnil : trimSpace model = [] := by simpa [trim] using congrArg String.toList hempty
    simp [hnil] at hsplit

theorem trim_ne_of_claimed {cfg : RetryConfig} {req : ModelRouteRequest}
    (h : (routeRetryChain lower cfg req).handled = true) :
    trim req.requestedModel ≠ "" ∧
      (retryPlanForRequest lower cfg req.requestedModel).isSome = true := by
  have hplan : (retryPlanForRequest lower cfg req.requestedModel).isSome = true := by
    unfold routeRetryChain at h
    split at h
    · cases h
    · split at h
      · cases h
      · split at h
        · cases h
        · next hsome => simpa [isSome_iff_ne_none] using hsome
  refine ⟨fun hempty => ?_, hplan⟩
  have hnone : retryPlanFor lower cfg req.requestedModel = none := by
    simp [retryPlanFor, retryChainRowFor, hempty]
  unfold retryPlanForRequest at hplan
  rw [hnone] at hplan
  dsimp only at hplan
  split at hplan
  · next hsplit => exact trim_ne_of_suffix hsplit hempty
  · cases hplan

open RetryPlan

theorem head_targets (p : RetryPlan) : p.targets.head? = some p.requested := by
  have hpos : 0 < p.targetCount := by
    unfold targetCount
    dsimp only
    split
    · next h => exact h.1
    · omega
  obtain ⟨n, hn⟩ : ∃ n, p.targetCount.toNat = n + 1 := ⟨p.targetCount.toNat - 1, by omega⟩
  unfold targets
  rw [hn, range_succ_eq_map, filterMap_cons]
  have hfirst : p.target 0 = some p.requested := by
    unfold target
    rw [if_neg (by simpa using hpos)]
  rw [hfirst]
  rfl

def named (cfg : RetryConfig) (model : String) : Prop :=
  cfg.retryAlways = true ∨
    ∃ row ∈ cfg.retryChain, toLower lower (trim row.model) = toLower lower (trim model)

theorem retryPlanFor_isSome_iff (cfg : RetryConfig) (hmodel : trim model ≠ "") :
    (retryPlanFor lower cfg model).isSome = true ↔ named lower cfg model := by
  unfold retryPlanFor named
  cases hrow : retryChainRowFor lower cfg.retryChain model with
  | some row =>
    obtain ⟨hmem, hname⟩ := retryChainRowFor_some lower hrow
    exact ⟨fun _ => .inr ⟨row, hmem, hname⟩, fun _ => rfl⟩
  | none =>
    simp only [ne_eq, hmodel, not_false_eq_true, and_true]
    constructor
    · intro hsome
      split at hsome
      · next halways => exact .inl halways
      · cases hsome
    · rintro (halways | ⟨row, hmem, hname⟩)
      · rw [if_pos halways]
        rfl
      · have hsome := retryChainRowFor_isSome lower hmodel hmem hname
        rw [hrow] at hsome
        cases hsome

/-- The executor runs the router's targets iff every model is retried or a row names the model as
it was requested, its suffix included. -/
theorem executed_targets_iff (cfg : RetryConfig) (req : ModelRouteRequest)
    (metadataModel : Option String) (hclaimed : (routeRetryChain lower cfg req).handled = true) :
    (retryPlanForRequest lower cfg req.requestedModel).map RetryPlan.targets =
        some (executedPlan lower cfg ⟨req.requestedModel, metadataModel⟩).targets ↔
      cfg.retryAlways = true ∨ ∃ row ∈ cfg.retryChain,
        toLower lower (trim row.model) = toLower lower (trim req.requestedModel) := by
  obtain ⟨hmodel, hplan⟩ := trim_ne_of_claimed lower hclaimed
  rw [← named, ← retryPlanFor_isSome_iff lower cfg hmodel]
  have hrequested : retryRequestedModel ⟨req.requestedModel, metadataModel⟩ =
      trim req.requestedModel := if_pos hmodel
  unfold executedPlan
  dsimp only
  rw [hrequested, retryPlanFor_trim]
  unfold retryPlanForRequest at hplan ⊢
  cases hfull : retryPlanFor lower cfg req.requestedModel with
  | some plan => simp
  | none =>
    rw [hfull] at hplan
    dsimp only at hplan ⊢
    split at hplan
    · next hsplit =>
      rw [if_pos hsplit]
      obtain ⟨plan, hbase⟩ := isSome_iff_exists.mp hplan
      rw [hbase]
      refine iff_of_false (fun hsame => ?_) (by simp)
      -- the first targets would be equal, so the row of the base would be named like the model
      have htargets : plan.targets = _ := some.inj hsame
      have hhead := head_targets plan
      rw [htargets, getD_none, head_targets] at hhead
      have hfirst := (some.inj hhead).symm
      have hnot := mt (retryPlanFor_isSome_iff lower cfg hmodel).mpr (by simp [hfull])
      unfold retryPlanFor at hbase
      split at hbase
      · split at hbase
        · next halways => exact hnot (.inl halways.1)
        · cases hbase
      · next row hrow =>
        cases hbase
        simp only [retrySingleTargetPlan, normalizeRetryTarget, trim_trim,
          RetryTarget.mk.injEq, true_and] at hfirst
        exact hnot (.inr ⟨row, (retryChainRowFor_some lower hrow).1, by rw [hfirst]⟩)
    · cases hplan

private def oneRow : RetryConfig where
  retryEnabled := true
  retryChain := [⟨"gpt-5.6-sol", [{ model := "gpt-5.5" }]⟩]

theorem plain_model_targets_agree :
    (retryPlanForRequest Char.toLower oneRow "GPT-5.6-sol").map RetryPlan.targets =
      some (executedPlan Char.toLower oneRow ⟨"GPT-5.6-sol", none⟩).targets :=
  (executed_targets_iff .toLower oneRow ⟨true, "GPT-5.6-sol"⟩ none (by decide +kernel)).mpr
    (.inr ⟨_, mem_singleton_self _, by decide +kernel⟩)

/-- With the suffix the router finds the row, and the executor plans one attempt. -/
theorem suffixed_model_loses_fallbacks :
    (routeRetryChain Char.toLower oneRow ⟨true, "gpt-5.6-sol(high)"⟩).handled = true ∧
      (retryPlanForRequest Char.toLower oneRow "gpt-5.6-sol(high)").map RetryPlan.targets =
        some [{ model := "gpt-5.6-sol" }, { model := "gpt-5.5" }] ∧
      (executedPlan Char.toLower oneRow ⟨"gpt-5.6-sol(high)", none⟩).targets =
        [{ model := "gpt-5.6-sol(high)" }] := by
  decide +kernel

end QuotaScheduler.RetryChain

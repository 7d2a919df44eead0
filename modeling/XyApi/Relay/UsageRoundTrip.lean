import XyApi.Relay.ClaudeStream

/-!
Claude usage in the shape of OpenAI's and back. Claude counts cached input beside the
other input tokens, OpenAI counts it among them. The way there adds the cached tokens
to the prompt; the way back takes the prompt as it is, so a request that used the cache
comes back with its cached tokens counted twice.
-/

namespace XyApi.Relay

open Pricing

def cacheCreationTokensForOpenAIUsage (usage : Usage) : Int :=
  let splitCacheCreationTokens :=
    usage.claudeCacheCreation5mTokens + usage.claudeCacheCreation1hTokens
  if splitCacheCreationTokens = 0 then usage.promptTokensDetails.cachedCreationTokens
  else if usage.promptTokensDetails.cachedCreationTokens > splitCacheCreationTokens then
    usage.promptTokensDetails.cachedCreationTokens
  else splitCacheCreationTokens

def buildOpenAIStyleUsageFromClaudeUsage : Option Usage → Usage
  | none => {}
  | some usage =>
    let split := normalizeCacheCreationSplit usage.promptTokensDetails.cachedCreationTokens
      usage.claudeCacheCreation5mTokens usage.claudeCacheCreation1hTokens
    let totalInputTokens := usage.promptTokens + usage.promptTokensDetails.cachedTokens +
      cacheCreationTokensForOpenAIUsage usage
    { usage with
      claudeCacheCreation5mTokens := split.1
      claudeCacheCreation1hTokens := split.2
      promptTokens := totalInputTokens
      inputTokens := totalInputTokens
      totalTokens := totalInputTokens + usage.completionTokens
      usageSemantic := "openai"
      usageSource := "anthropic" }

def claudeCounts (usage : Usage) : Int × Int × Int × Int :=
  (usage.promptTokens, usage.completionTokens, usage.promptTokensDetails.cachedTokens,
    usage.promptTokensDetails.cachedCreationTokens)

def ClaudeUsage.counts (usage : ClaudeUsage) : Int × Int × Int × Int :=
  (usage.inputTokens, usage.outputTokens, usage.cacheReadInputTokens,
    usage.cacheCreationInputTokens)

/-- Counts as an upstream reports them: the split is part of the aggregate. -/
structure ReportedUsage (usage : Usage) : Prop where
  prompt : 0 ≤ usage.promptTokens
  completion : 0 ≤ usage.completionTokens
  cached : 0 ≤ usage.promptTokensDetails.cachedTokens
  creation5m : 0 ≤ usage.claudeCacheCreation5mTokens
  creation1h : 0 ≤ usage.claudeCacheCreation1hTokens
  split : usage.claudeCacheCreation5mTokens + usage.claudeCacheCreation1hTokens ≤
    usage.promptTokensDetails.cachedCreationTokens

theorem cacheCreationTokensForOpenAIUsage_eq (h : ReportedUsage usage) :
    cacheCreationTokensForOpenAIUsage usage = usage.promptTokensDetails.cachedCreationTokens := by
  have hSplit := h.split
  unfold cacheCreationTokensForOpenAIUsage
  dsimp only
  split
  · rfl
  · split <;> omega

/-- What comes back: the cached tokens are counted as input as well. -/
theorem claudeCounts_roundTrip (h : ReportedUsage usage) :
    (buildClaudeUsageFromOpenAIUsage (buildOpenAIStyleUsageFromClaudeUsage (some usage))).counts =
      claudeCounts usage + (usage.promptTokensDetails.cachedTokens +
        usage.promptTokensDetails.cachedCreationTokens, 0, 0, 0) := by
  simp only [buildClaudeUsageFromOpenAIUsage, buildOpenAIStyleUsageFromClaudeUsage,
    cacheCreationTokensForOpenAIUsage_eq h, ClaudeUsage.counts, claudeCounts, Prod.mk_add_mk,
    add_zero, add_assoc]

end XyApi.Relay

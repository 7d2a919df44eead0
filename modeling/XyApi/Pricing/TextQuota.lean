import XyApi.Pricing.Usage

/-!
The quota of a text request, by ratios or by a price per call. Cached, image and
audio tokens are taken out of the prompt and priced on their own; an upstream
that reports Claude usage counts its cache apart from the prompt already. Calls
of built-in tools are added as a surcharge.
-/

namespace XyApi.Pricing

open Lib

variable (env : PricingEnv)

variable (ctx : RelayContext) (info : RelayInfo) (usage : Usage) (usage? : Option Usage)
  (summary : TextQuotaSummary)

/-! ### Tool surcharges -/

/-- The calls of one tool, their price and what they add to the quota. -/
structure ToolCharge where
  callCount : Int := 0
  price : ℚ := 0
  surcharge : ℚ := 0
  deriving DecidableEq, Repr

def dGroupRatio : ℚ := env.newFromFloat info.priceData.groupRatio

def dQuotaPerUnit : ℚ := env.newFromFloat env.quotaPerUnit

def perThousandCalls (price : ℚ) (callCount : Int) : ToolCharge where
  callCount := callCount
  price := price
  surcharge := decimalDiv (env.newFromFloat price * callCount) 1000 * dGroupRatio env info *
    dQuotaPerUnit env

def builtInToolCharge (tools : List (String × Int)) (tool : String) (price : ℚ) : ToolCharge :=
  match tools.lookup tool with
  | some callCount => if callCount > 0 then perThousandCalls env info price callCount else {}
  | none => {}

def webSearchCharge : ToolCharge :=
  let price := env.toolPriceForModel "web_search_preview" info.originModelName
  match info.builtInTools with
  | some tools => builtInToolCharge env info tools "web_search_preview" price
  | none =>
    if info.originModelName.endsWith "search-preview" then
      { callCount := 1
        price := price
        surcharge := decimalDiv (env.newFromFloat price) 1000 * dGroupRatio env info *
          dQuotaPerUnit env }
    else {}

def claudeWebSearchCharge : ToolCharge :=
  let price := env.toolPriceForModel "web_search" ""
  if ctx.claudeWebSearchRequests > 0 then
    { callCount := ctx.claudeWebSearchRequests
      price := price
      surcharge := decimalDiv (env.newFromFloat price) 1000 * dGroupRatio env info *
        dQuotaPerUnit env * ctx.claudeWebSearchRequests }
  else { callCount := ctx.claudeWebSearchRequests }

def fileSearchCharge : ToolCharge :=
  match info.builtInTools with
  | some tools =>
    builtInToolCharge env info tools "file_search" (env.toolPriceForModel "file_search" "")
  | none => {}

def imageGenerationCharge : ToolCharge :=
  if ctx.imageGenerationCall then
    let price :=
      getGPTImage1PriceOnceCall ctx.imageGenerationCallQuality ctx.imageGenerationCallSize
    { price := price
      surcharge := env.newFromFloat price * dGroupRatio env info * dQuotaPerUnit env }
  else {}

def calculateTextToolCallSurcharge : ℚ :=
  (webSearchCharge env info).surcharge + (claudeWebSearchCharge env ctx info).surcharge +
    (fileSearchCharge env info).surcharge + (imageGenerationCharge env ctx info).surcharge

/-! ### Token counts -/

structure TextQuotaSummary where
  promptTokens : Int := 0
  completionTokens : Int := 0
  totalTokens : Int := 0
  cacheTokens : Int := 0
  cacheCreationTokens : Int := 0
  cacheCreationTokens5m : Int := 0
  cacheCreationTokens1h : Int := 0
  imageTokens : Int := 0
  audioTokens : Int := 0
  isClaudeUsageSemantic : Bool := false
  audioInputPrice : ℚ := 0
  toolCallSurchargeQuota : ℚ := 0
  quota : Int := 0
  deriving DecidableEq, Repr

def usageSemanticFromUsage : String :=
  match usage? with
  | some usage => if usage.usageSemantic ≠ "" then usage.usageSemantic else formatSemantic
  | none => formatSemantic
where
  formatSemantic : String :=
    if info.getFinalRequestRelayFormat = .claude then "anthropic" else "openai"

def isLegacyClaudeDerivedOpenAIUsage : Bool :=
  if info.getFinalRequestRelayFormat = .claude then false
  else if usage.usageSource ≠ "" ∨ usage.usageSemantic ≠ "" then false
  else usage.claudeCacheCreation5mTokens > 0 || usage.claudeCacheCreation1hTokens > 0

def calcOpenRouterCacheCreateTokens (priceData : PriceData) : Int :=
  if priceData.cacheCreationRatio = 1 then 0
  else
    let quotaPrice := Float64.div (.finite priceData.modelRatio) (.finite env.quotaPerUnit)
    let promptCacheCreatePrice := quotaPrice.mul (.finite priceData.cacheCreationRatio)
    let promptCacheReadPrice := quotaPrice.mul (.finite priceData.cacheRatio)
    let completionPrice := quotaPrice.mul (.finite priceData.completionRatio)
    let cost := usage.cost.getD (.finite 0)
    let totalPromptTokens := Float64.ofInt usage.promptTokens
    let completionTokens := Float64.ofInt usage.completionTokens
    let promptCacheReadTokens := Float64.ofInt usage.promptTokensDetails.cachedTokens
    quotaRound ((((cost.sub (totalPromptTokens.mul quotaPrice)).add
      (promptCacheReadTokens.mul (quotaPrice.sub promptCacheReadPrice))).sub
      (completionTokens.mul completionPrice)).div (promptCacheCreatePrice.sub quotaPrice))

def estimatedUsage : Usage where
  promptTokens := info.estimatePromptTokens
  totalTokens := info.estimatePromptTokens

def usageSummary : TextQuotaSummary :=
  let usage := usage?.getD (estimatedUsage info)
  { promptTokens := usage.promptTokens
    completionTokens := usage.completionTokens
    totalTokens := int64 (usage.promptTokens + usage.completionTokens)
    cacheTokens := usage.promptTokensDetails.cachedTokens
    cacheCreationTokens := usage.promptTokensDetails.cachedCreationTokens
    cacheCreationTokens5m := usage.claudeCacheCreation5mTokens
    cacheCreationTokens1h := usage.claudeCacheCreation1hTokens
    imageTokens := usage.promptTokensDetails.imageTokens
    audioTokens := usage.promptTokensDetails.audioTokens
    isClaudeUsageSemantic := usageSemanticFromUsage info usage? = "anthropic" }

def channelTypeOpenRouter : Int := 20

def isOpenRouterClaudeBilling : Bool :=
  info.channelType = some channelTypeOpenRouter && summary.isClaudeUsageSemantic

/-- The cache-creation tokens of a summary, estimated from the cost when the
upstream gives none. A reported cost is never the integer zero it is compared with. -/
def openRouterCacheCreationTokens : Int :=
  let isUsingCustomSettings := info.priceData.usePrice ||
    hasCustomModelRatio env info.originModelName info.priceData.modelRatio
  if summary.cacheCreationTokens = 0 ∧ info.priceData.cacheCreationRatio ≠ 1 ∧
      ¬ isUsingCustomSettings then
    let maybeCacheCreationTokens := calcOpenRouterCacheCreateTokens env usage info.priceData
    if maybeCacheCreationTokens ≥ 0 ∧ summary.promptTokens ≥ maybeCacheCreationTokens then
      maybeCacheCreationTokens
    else summary.cacheCreationTokens
  else summary.cacheCreationTokens

/-- OpenRouter counts the cache inside the prompt even for Claude models. -/
def openRouterSummary : TextQuotaSummary :=
  let summary :=
    { summary with promptTokens := int64 (summary.promptTokens - summary.cacheTokens) }
  let created := openRouterCacheCreationTokens env info usage summary
  { summary with
    cacheCreationTokens := created
    promptTokens := int64 (summary.promptTokens - created) }

/-! ### Quotas -/

def remainingCacheCreation : Int :=
  max 0 (int64 (int64 (summary.cacheCreationTokens - summary.cacheCreationTokens5m) -
    summary.cacheCreationTokens1h))

def cacheCreationWithRatio (p : PriceData) (apart : Bool) (summary : TextQuotaSummary) : ℚ × ℚ :=
  let hasSplit := summary.cacheCreationTokens5m > 0 ∨ summary.cacheCreationTokens1h > 0
  if summary.cacheCreationTokens ≠ 0 ∨ hasSplit then
    if apart then
      (0, remainingCacheCreation summary * env.newFromFloat p.cacheCreationRatio +
        summary.cacheCreationTokens5m * env.newFromFloat p.cacheCreation5mRatio +
        summary.cacheCreationTokens1h * env.newFromFloat p.cacheCreation1hRatio)
    else
      (summary.cacheCreationTokens,
        summary.cacheCreationTokens * env.newFromFloat p.cacheCreationRatio)
  else (0, 0)

def cachedWithRatio (p : PriceData) (apart : Bool) (summary : TextQuotaSummary) : ℚ × ℚ :=
  if summary.cacheTokens ≠ 0 then
    (if apart then 0 else summary.cacheTokens, summary.cacheTokens * env.newFromFloat p.cacheRatio)
  else (0, 0)

def imageWithRatio (p : PriceData) (summary : TextQuotaSummary) : ℚ × ℚ :=
  if summary.imageTokens ≠ 0 then
    (summary.imageTokens, summary.imageTokens * env.newFromFloat p.imageRatio)
  else (0, 0)

def audioInputPrice : ℚ :=
  if summary.audioTokens ≠ 0 then getGeminiInputAudioPricePerMillionTokens info.originModelName
  else 0

def audioInputQuota : ℚ × ℚ :=
  let price := audioInputPrice info summary
  if summary.audioTokens ≠ 0 ∧ price > 0 then
    (summary.audioTokens, decimalDiv (env.newFromFloat price) 1000000 * summary.audioTokens *
      dGroupRatio env info * dQuotaPerUnit env)
  else (0, 0)

def textRatio : ℚ :=
  env.newFromFloat info.priceData.modelRatio * dGroupRatio env info

def weightedTokens (apart : Bool) (summary : TextQuotaSummary) : ℚ :=
  let p := info.priceData
  let cached := cachedWithRatio env p apart summary
  let created := cacheCreationWithRatio env p apart summary
  let image := imageWithRatio env p summary
  let audio := audioInputQuota env info summary
  let baseTokens : ℚ := summary.promptTokens - cached.1 - created.1 - image.1 - audio.1
  baseTokens + cached.2 + image.2 + created.2 +
    summary.completionTokens * env.newFromFloat p.completionRatio

def ratioQuotaDecimal (apart : Bool) (summary : TextQuotaSummary) : ℚ :=
  atLeastOne (textRatio env info) (info.priceData.applyOtherRatiosToDecimal env
    (weightedTokens env info apart summary * textRatio env info +
      summary.toolCallSurchargeQuota + (audioInputQuota env info summary).2))

def priceQuotaDecimal : ℚ :=
  info.priceData.applyOtherRatiosToDecimal env
    (env.newFromFloat info.priceData.modelPrice * dQuotaPerUnit env * dGroupRatio env info +
      summary.toolCallSurchargeQuota)

/-- A request without tokens is free, and a priced one costs at least one. -/
def finalTextQuota (totalTokens quota : Int) : Int :=
  if totalTokens = 0 then 0
  else if textRatio env info ≠ 0 ∧ quota = 0 then 1
  else quota

def textCounts : TextQuotaSummary :=
  let usage := usage?.getD (estimatedUsage info)
  let summary := usageSummary info usage?
  let summary :=
    if isOpenRouterClaudeBilling info summary then openRouterSummary env info usage summary
    else summary
  { summary with
    toolCallSurchargeQuota := calculateTextToolCallSurcharge env ctx info
    audioInputPrice := if info.priceData.usePrice then 0 else audioInputPrice info summary }

def calculateTextQuotaSummary : TextQuotaSummary × RelayInfo :=
  let usage := usage?.getD (estimatedUsage info)
  let summary := textCounts env ctx info usage?
  -- Claude usage counts its cache apart from the prompt.
  let apart := summary.isClaudeUsageSemantic || isLegacyClaudeDerivedOpenAIUsage info usage
  let (quota, clamp) := quotaFromDecimalChecked
    (if info.priceData.usePrice then priceQuotaDecimal env info summary
      else ratioQuotaDecimal env info apart summary)
  ({ summary with quota := finalTextQuota env info summary.totalTokens quota },
    noteQuotaClamp info clamp)

end XyApi.Pricing

import XyApi.Pricing.TextQuota

/-!
Billing by an expression of the administrator. The expression is run once to
estimate the quota that is pre-consumed, and once more at settlement on the
actual token counts. What it may return is not restricted; an amount that is not
finite or is negative is refused, and settlement then falls back to the estimate.
-/

namespace XyApi.Pricing

open Lib

section

structure TokenParams where
  p : Float64 := .finite 0
  c : Float64 := .finite 0
  len : Float64 := .finite 0
  cr : Float64 := .finite 0
  cc : Float64 := .finite 0
  cc1h : Float64 := .finite 0
  img : Float64 := .finite 0
  imgO : Float64 := .finite 0
  ai : Float64 := .finite 0
  ao : Float64 := .finite 0
  deriving DecidableEq, Repr

def subtractIf (used : Bool) (total part : Float64) : Float64 :=
  if used then total.sub part else total

def clampNonneg (x : Float64) : Float64 := if x.lt (.finite 0) then .finite 0 else x

def buildTieredTokenParams (usage : Usage) (isClaudeUsageSemantic : Bool)
    (usedVars : String → Bool) : TokenParams :=
  let p := Float64.ofInt usage.promptTokens
  let c := Float64.ofInt usage.completionTokens
  let cr := Float64.ofInt usage.promptTokensDetails.cachedTokens
  let anthropic : Bool := usage.usageSemantic = "anthropic"
  let cc5m := Float64.ofInt (if anthropic then usage.claudeCacheCreation5mTokens
    else usage.promptTokensDetails.cachedCreationTokens)
  let cc1h := if anthropic then Float64.ofInt usage.claudeCacheCreation1hTokens else .finite 0
  let img := Float64.ofInt usage.promptTokensDetails.imageTokens
  let ai := Float64.ofInt usage.promptTokensDetails.audioTokens
  let imgO := Float64.ofInt usage.completionTokenDetails.imageTokens
  let ao := Float64.ofInt usage.completionTokenDetails.audioTokens
  let inputLen := if isClaudeUsageSemantic then ((p.add cr).add cc5m).add cc1h else p
  let sub (name : String) := subtractIf (!isClaudeUsageSemantic && usedVars name)
  let p := sub "ai" (sub "img" (sub "cc1h" (sub "cc" (sub "cr" p cr) cc5m) cc1h) img) ai
  let c := sub "ao" (sub "img_o" c imgO) ao
  { p := clampNonneg p, c := clampNonneg c, len := inputLen, cr := cr, cc := cc5m, cc1h := cc1h
    img := img, imgO := imgO, ai := ai, ao := ao }

/-! ### Running an expression -/

/-- What running an expression gives: its value and the tier it matched, unless it fails. -/
abbrev ExprRunner := String → TokenParams → RequestInput → Option (Float64 × String)

def validateBillingAmount : Float64 → Bool
  | .finite value => 0 ≤ value
  | _ => false

variable (run : ExprRunner)

def runExprWithRequest (exprString : String) (params : TokenParams) (request : RequestInput) :
    Option (Float64 × String) :=
  (run exprString params request).filter fun result => validateBillingAmount result.1

def quotaConversion (exprOutput : Float64) (snap : BillingSnapshot) : Float64 :=
  (exprOutput.div (.finite 1000000)).mul snap.quotaPerUnit

structure TieredResult where
  actualQuotaBeforeGroup : Float64
  actualQuotaAfterGroup : Int
  matchedTier : String
  crossedTier : Bool
  clamp : Option QuotaClamp
  deriving DecidableEq, Repr

def computeTieredQuotaWithRequest (snap : BillingSnapshot) (params : TokenParams)
    (request : RequestInput) : Option TieredResult := do
  guard (validateBillingAmount snap.quotaPerUnit)
  guard (validateBillingAmount snap.groupRatio)
  let (cost, matchedTier) ← runExprWithRequest run snap.exprString params request
  let quotaBeforeGroup := quotaConversion cost snap
  guard (validateBillingAmount quotaBeforeGroup)
  let quotaAfterGroup := quotaBeforeGroup.mul snap.groupRatio
  guard (validateBillingAmount quotaAfterGroup)
  let (afterGroup, clamp) := quotaRoundChecked quotaAfterGroup
  pure {
    actualQuotaBeforeGroup := quotaBeforeGroup
    actualQuotaAfterGroup := afterGroup
    matchedTier := matchedTier
    crossedTier := matchedTier ≠ snap.estimatedTier
    clamp := clamp }

/-! ### Estimate and settlement -/

def defaultTieredPreConsumeMaxTokens : Int := 8192

structure TieredEstimate where
  exprString : String
  promptTokens : Int
  maxTokens : Int
  groupRatio : ℚ
  request : RequestInput
  enableFreeModelPreConsume : Bool
  deriving DecidableEq, Repr

def modelPriceHelperTiered (env : PricingEnv) (e : TieredEstimate) : Option BillingSnapshot := do
  let estimatedCompletionTokens :=
    if e.maxTokens = 0 ∧ e.groupRatio ≠ 0 then defaultTieredPreConsumeMaxTokens else e.maxTokens
  let (rawCost, matchedTier) ← runExprWithRequest run e.exprString {
    p := .ofInt e.promptTokens
    c := .ofInt estimatedCompletionTokens
    len := .ofInt e.promptTokens } e.request
  let quotaBeforeGroup := (rawCost.div (.finite 1000000)).mul (.finite env.quotaPerUnit)
  let preConsumedQuota := quotaRound (quotaBeforeGroup.mul (.finite e.groupRatio))
  pure {
    billingMode := "tiered_expr"
    exprString := e.exprString
    groupRatio := .finite e.groupRatio
    estimatedQuotaAfterGroup :=
      if ¬ e.enableFreeModelPreConsume ∧ e.groupRatio = 0 then 0 else preConsumedQuota
    estimatedTier := matchedTier
    quotaPerUnit := .finite env.quotaPerUnit }

def tryTieredSettle (info : RelayInfo) (params : TokenParams) :
    Option (Int × Option TieredResult) × RelayInfo :=
  match info.tieredBillingSnapshot with
  | none => (none, info)
  | some snap =>
    if snap.billingMode ≠ "tiered_expr" then (none, info)
    else
      match computeTieredQuotaWithRequest run snap params
          (info.billingRequestInput.getD {}) with
      | none =>
        let quota := info.finalPreConsumedQuota
        (some (if quota ≤ 0 then snap.estimatedQuotaAfterGroup else quota, none), info)
      | some tr => (some (tr.actualQuotaAfterGroup, some tr), noteQuotaClamp info tr.clamp)

/-- The decimal of a billed amount; the library has none for an exception. -/
def decimalOfAmount (env : PricingEnv) : Float64 → ℚ
  | .finite value => env.newFromFloat value
  | _ => 0

def composeTieredTextQuota (env : PricingEnv) (info : RelayInfo) (surcharge : ℚ)
    (tieredQuota : Int) (tieredResult : Option TieredResult) : Int × RelayInfo :=
  if surcharge = 0 then (tieredQuota, info)
  else
    let total : ℚ :=
      match tieredResult, info.tieredBillingSnapshot with
      | some tr, some snap =>
        decimalOfAmount env tr.actualQuotaBeforeGroup * decimalOfAmount env snap.groupRatio +
          surcharge
      | _, _ => tieredQuota + surcharge
    let (quota, clamp) := quotaFromDecimalChecked total
    (quota, noteQuotaClamp info clamp)

def postTextConsumeQuota (env : PricingEnv) (usedVars : String → String → Bool)
    (ctx : RelayContext) (info : RelayInfo) (usage? : Option Usage) : Int × RelayInfo :=
  let (summary, info) := calculateTextQuotaSummary env ctx info usage?
  match usage? with
  | none => (summary.quota, info)
  | some usage =>
    let vars := (info.tieredBillingSnapshot.map fun snap => usedVars snap.exprString).getD
      fun _ => false
    match tryTieredSettle run info
        (buildTieredTokenParams usage summary.isClaudeUsageSemantic vars) with
    | (none, info) => (summary.quota, info)
    | (some (tieredQuota, tieredResult), info) =>
      composeTieredTextQuota env info summary.toolCallSurchargeQuota tieredQuota tieredResult

end

/-! ### Audio and realtime -/

structure TokenDetails where
  textTokens : Int
  audioTokens : Int
  deriving DecidableEq, Repr

structure QuotaInfo where
  inputDetails : TokenDetails
  outputDetails : TokenDetails
  modelName : String
  usePrice : Bool
  modelPrice : ℚ := 0
  modelRatio : ℚ
  groupRatio : ℚ
  deriving DecidableEq, Repr

variable (env : PricingEnv)

def weightedAudioTokens (info : QuotaInfo) : ℚ :=
  let completionRatio := env.newFromFloat (env.completionRatio info.modelName)
  let audioRatio := env.newFromFloat (env.audioRatio info.modelName)
  let audioCompletionRatio := env.newFromFloat (env.audioCompletionRatio info.modelName)
  info.inputDetails.textTokens + info.outputDetails.textTokens * completionRatio +
    info.inputDetails.audioTokens * audioRatio +
    info.outputDetails.audioTokens * audioRatio * audioCompletionRatio

def audioQuotaDecimal (info : QuotaInfo) : ℚ :=
  if info.usePrice then
    env.newFromFloat info.modelPrice * env.newFromFloat env.quotaPerUnit *
      env.newFromFloat info.groupRatio
  else
    let ratio := env.newFromFloat info.groupRatio * env.newFromFloat info.modelRatio
    atLeastOne ratio (weightedAudioTokens env info * ratio)

def calculateAudioQuota (info : QuotaInfo) : Int × Option QuotaClamp :=
  quotaFromDecimalChecked (audioQuotaDecimal env info)

def tokenDetails (input : InputTokenDetails) (output : OutputTokenDetails) :
    TokenDetails × TokenDetails :=
  (⟨input.textTokens, input.audioTokens⟩, ⟨output.textTokens, output.audioTokens⟩)

/-- The quota that a turn of a realtime session reserves, unless calls are priced. -/
def preWssConsumeQuota (ctx : RelayContext) (info : RelayInfo) (usage : RealtimeUsage) :
    Option Int × RelayInfo :=
  if info.usePrice then (none, info)
  else
    let usingGroup := ctx.autoGroup.getD info.usingGroup
    let info := { info with usingGroup := usingGroup }
    let groupRatio := env.groupRatio usingGroup
    let actualGroupRatio := (env.groupGroupRatio info.userGroup usingGroup).getD groupRatio
    let (input, output) := tokenDetails usage.inputTokenDetails usage.outputTokenDetails
    let (quota, clamp) := calculateAudioQuota env {
      inputDetails := input
      outputDetails := output
      modelName := info.originModelName
      usePrice := info.usePrice
      modelRatio := env.modelRatio info.originModelName
      groupRatio := actualGroupRatio }
    (some quota, noteQuotaClamp info clamp)

def settleAudio (run : ExprRunner) (info : RelayInfo) (params : TokenParams) (modelName : String)
    (details : TokenDetails × TokenDetails) (totalTokens : Int) : Int × RelayInfo :=
  let (tiered, info) := tryTieredSettle run info params
  let (quota, clamp) := calculateAudioQuota env {
    inputDetails := details.1
    outputDetails := details.2
    modelName := modelName
    usePrice := info.priceData.usePrice
    modelPrice := info.priceData.modelPrice
    modelRatio := info.priceData.modelRatio
    groupRatio := info.priceData.groupRatio }
  let info := noteQuotaClamp info clamp
  let quota := (tiered.map Prod.fst).getD quota
  (if totalTokens = 0 then 0 else quota, info)

def postWssConsumeQuota (run : ExprRunner) (info : RelayInfo) (modelName : String)
    (usage : RealtimeUsage) : Int × RelayInfo :=
  settleAudio env run info
    { p := .ofInt usage.inputTokens, c := .ofInt usage.outputTokens
      len := .ofInt usage.inputTokens }
    modelName (tokenDetails usage.inputTokenDetails usage.outputTokenDetails) usage.totalTokens

def postAudioConsumeQuota (run : ExprRunner) (usedVars : String → String → Bool)
    (info : RelayInfo) (usage : Usage) : Int × RelayInfo :=
  let vars := (info.tieredBillingSnapshot.map fun snap => usedVars snap.exprString).getD
    fun _ => false
  settleAudio env run info (buildTieredTokenParams usage false vars) info.originModelName
    (tokenDetails usage.promptTokensDetails usage.completionTokenDetails) usage.totalTokens

end XyApi.Pricing

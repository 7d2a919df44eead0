import XyApi.Pricing.TieredSettle
import XyApi.Billing.Absorption

/-!
No settlement turns a charge into a credit. Token counts may contradict each
other, so the weighted sum of tokens can be negative; it is then replaced by one,
or multiplied by a ratio of zero. What is added to it is never negative, and the
conversions saturate. A failed expression falls back to a quota that was in range
when it was reserved.
-/

namespace XyApi.Pricing

open Lib Lib.Calendar Billing

variable {quota : Int} {run : ExprRunner} {snap : BillingSnapshot}
    {params : TokenParams}

variable {env : PricingEnv} {info : RelayInfo}

/-! ### Surcharges -/

section Surcharge

variable (hEnv : env.Nonneg) (hPrices : info.priceData.Nonneg)
include hEnv hPrices

theorem surchargeFactor_nonneg (hx : 0 ≤ x) :
    0 ≤ x * dGroupRatio env info * dQuotaPerUnit env :=
  mul_nonneg (mul_nonneg hx (env.newFromFloat_nonneg _ hPrices.groupRatio))
    (env.newFromFloat_nonneg _ hEnv.quotaPerUnit)

theorem builtInToolCharge_nonneg (tools : List (String × Int)) (tool : String) (hPrice : 0 ≤ price)
    : 0 ≤ (builtInToolCharge env info tools tool price).surcharge := by
  unfold builtInToolCharge
  split
  · split
    · next callCount _ hCalls =>
        have hCount : (0 : ℚ) ≤ callCount := by exact_mod_cast hCalls.le
        exact surchargeFactor_nonneg hEnv hPrices
          (decimalDiv_nonneg (mul_nonneg (env.newFromFloat_nonneg _ hPrice) hCount) (by norm_num))
    · exact le_rfl
  · exact le_rfl

theorem webSearchCharge_nonneg : 0 ≤ (webSearchCharge env info).surcharge := by
  have hPrice := hEnv.toolPrice "web_search_preview" info.originModelName
  unfold webSearchCharge
  split
  · exact builtInToolCharge_nonneg hEnv hPrices _ _ hPrice
  · split
    · exact surchargeFactor_nonneg hEnv hPrices
        (decimalDiv_nonneg (env.newFromFloat_nonneg _ hPrice) (by norm_num))
    · exact le_rfl

theorem claudeWebSearchCharge_nonneg : 0 ≤ (claudeWebSearchCharge env ctx info).surcharge := by
  unfold claudeWebSearchCharge
  dsimp only
  split
  · next hCalls =>
      refine mul_nonneg (surchargeFactor_nonneg hEnv hPrices
        (decimalDiv_nonneg (env.newFromFloat_nonneg _ (hEnv.toolPrice ..)) (by norm_num))) ?_
      exact_mod_cast hCalls.le
  · exact le_rfl

theorem fileSearchCharge_nonneg : 0 ≤ (fileSearchCharge env info).surcharge := by
  unfold fileSearchCharge
  split
  · exact builtInToolCharge_nonneg hEnv hPrices _ _ (hEnv.toolPrice ..)
  · exact le_rfl

theorem imageGenerationCharge_nonneg : 0 ≤ (imageGenerationCharge env ctx info).surcharge := by
  unfold imageGenerationCharge
  split
  · exact surchargeFactor_nonneg hEnv hPrices
      (env.newFromFloat_nonneg _ getGPTImage1PriceOnceCall_nonneg)
  · exact le_rfl

theorem calculateTextToolCallSurcharge_nonneg :
    0 ≤ calculateTextToolCallSurcharge env ctx info := by
  have hWeb := webSearchCharge_nonneg hEnv hPrices
  have hClaude : 0 ≤ (claudeWebSearchCharge env ctx info).surcharge :=
    claudeWebSearchCharge_nonneg hEnv hPrices
  have hFile := fileSearchCharge_nonneg hEnv hPrices
  have hImage : 0 ≤ (imageGenerationCharge env ctx info).surcharge :=
    imageGenerationCharge_nonneg hEnv hPrices
  unfold calculateTextToolCallSurcharge
  linarith

/-! ### Text -/

theorem audioInputQuota_nonneg (hTokens : 0 ≤ summary.audioTokens) :
    0 ≤ (audioInputQuota env info summary).2 := by
  unfold audioInputQuota
  dsimp only
  split
  · next hPriced =>
      have hAudio : (0 : ℚ) ≤ summary.audioTokens := by exact_mod_cast hTokens
      exact surchargeFactor_nonneg hEnv hPrices (mul_nonneg
        (decimalDiv_nonneg (env.newFromFloat_nonneg _ hPriced.2.le) (by norm_num)) hAudio)
  · exact le_rfl

/-- The weighted tokens may be negative; what they are charged for is not. -/
theorem ratioQuotaDecimal_nonneg (apart : Bool) (hTokens : 0 ≤ summary.audioTokens)
    (hSurcharge : 0 ≤ summary.toolCallSurchargeQuota) :
    0 ≤ ratioQuotaDecimal env info apart summary := by
  refine atLeastOne_nonneg fun hRatio => ?_
  rw [hRatio, mul_zero, zero_add]
  exact info.priceData.applyOtherRatiosToDecimal_nonneg env
    (add_nonneg hSurcharge (audioInputQuota_nonneg hEnv hPrices hTokens))

theorem priceQuotaDecimal_nonneg (hSurcharge : 0 ≤ summary.toolCallSurchargeQuota) :
    0 ≤ priceQuotaDecimal env info summary := by
  refine info.priceData.applyOtherRatiosToDecimal_nonneg env (add_nonneg ?_ hSurcharge)
  exact mul_nonneg (mul_nonneg (env.newFromFloat_nonneg _ hPrices.modelPrice)
    (env.newFromFloat_nonneg _ hEnv.quotaPerUnit)) (env.newFromFloat_nonneg _ hPrices.groupRatio)

end Surcharge

structure Usage.Nonneg (usage : Usage) : Prop where
  promptTokens : 0 ≤ usage.promptTokens
  completionTokens : 0 ≤ usage.completionTokens
  totalTokens : 0 ≤ usage.totalTokens
  cachedTokens : 0 ≤ usage.promptTokensDetails.cachedTokens
  cachedCreationTokens : 0 ≤ usage.promptTokensDetails.cachedCreationTokens
  textTokens : 0 ≤ usage.promptTokensDetails.textTokens
  audioTokens : 0 ≤ usage.promptTokensDetails.audioTokens
  imageTokens : 0 ≤ usage.promptTokensDetails.imageTokens
  textOutput : 0 ≤ usage.completionTokenDetails.textTokens
  audioOutput : 0 ≤ usage.completionTokenDetails.audioTokens
  imageOutput : 0 ≤ usage.completionTokenDetails.imageTokens
  cacheCreation5m : 0 ≤ usage.claudeCacheCreation5mTokens
  cacheCreation1h : 0 ≤ usage.claudeCacheCreation1hTokens

structure RealtimeUsage.Nonneg (usage : RealtimeUsage) : Prop where
  totalTokens : 0 ≤ usage.totalTokens
  inputTokens : 0 ≤ usage.inputTokens
  outputTokens : 0 ≤ usage.outputTokens
  textInput : 0 ≤ usage.inputTokenDetails.textTokens
  audioInput : 0 ≤ usage.inputTokenDetails.audioTokens
  textOutput : 0 ≤ usage.outputTokenDetails.textTokens
  audioOutput : 0 ≤ usage.outputTokenDetails.audioTokens

theorem textCounts_audioTokens :
    (textCounts env ctx info usage?).audioTokens =
      (usage?.getD (estimatedUsage info)).promptTokensDetails.audioTokens := by
  unfold textCounts
  dsimp only
  split <;> rfl

theorem finalTextQuota_inRange (h : InQuotaRange quota) (totalTokens : Int) :
    InQuotaRange (finalTextQuota env info totalTokens quota) := by
  unfold finalTextQuota
  split_ifs
  · exact inQuotaRange_zero
  · exact inQuotaRange_one
  · exact h

theorem calculateTextQuotaSummary_inRange (hEnv : env.Nonneg) (hPrices : info.priceData.Nonneg)
    (ctx : RelayContext) {usage? : Option Usage} (hUsage : ∀ usage ∈ usage?, usage.Nonneg) :
    InQuotaRange (calculateTextQuotaSummary env ctx info usage?).1.quota := by
  have hAudio : 0 ≤ (textCounts env ctx info usage?).audioTokens := by
    rw [textCounts_audioTokens]
    cases usage? with
    | none => exact le_rfl
    | some usage => exact (hUsage usage rfl).audioTokens
  have hSurcharge : 0 ≤ (textCounts env ctx info usage?).toolCallSurchargeQuota :=
    calculateTextToolCallSurcharge_nonneg hEnv hPrices
  refine finalTextQuota_inRange (quotaFromDecimal_inRange ?_) _
  split
  · exact priceQuotaDecimal_nonneg hEnv hPrices hSurcharge
  · exact ratioQuotaDecimal_nonneg hEnv hPrices _ hAudio hSurcharge

/-! ### Audio -/

theorem calculateAudioQuota_inRange (hEnv : env.Nonneg) (hPrice : 0 ≤ quotaInfo.modelPrice)
    (hGroup : 0 ≤ quotaInfo.groupRatio) :
    InQuotaRange (calculateAudioQuota env quotaInfo).1 := by
  refine quotaFromDecimal_inRange ?_
  unfold audioQuotaDecimal
  split
  · exact mul_nonneg (mul_nonneg (env.newFromFloat_nonneg _ hPrice)
      (env.newFromFloat_nonneg _ hEnv.quotaPerUnit)) (env.newFromFloat_nonneg _ hGroup)
  · refine atLeastOne_nonneg fun hRatio => ?_
    rw [hRatio, mul_zero]

/-! ### Expressions -/

theorem notNeg_of_validate (h : validateBillingAmount x = true) : x.NotNeg := by
  cases x with
  | finite => exact Float64.notNeg_finite.mpr (by simpa [validateBillingAmount] using h)
  | inf | nan => cases h

theorem decimalOfAmount_nonneg (h : validateBillingAmount x = true) :
    0 ≤ decimalOfAmount env x := by
  cases x with
  | finite => exact env.newFromFloat_nonneg _ (by simpa [validateBillingAmount] using h)
  | inf | nan => cases h

theorem computeTieredQuotaWithRequest_some
    (h : computeTieredQuotaWithRequest run snap params request = some tr) :
    InQuotaRange tr.actualQuotaAfterGroup ∧
      validateBillingAmount tr.actualQuotaBeforeGroup = true := by
  simp only [computeTieredQuotaWithRequest, Option.bind_eq_bind, Option.bind_eq_some_iff,
    Option.guard_eq_some', exists_const] at h
  obtain ⟨-, -, result, -, hBefore, hAfter, h⟩ := h
  cases h
  exact ⟨quotaRound_inRange (notNeg_of_validate hAfter), hBefore⟩

/-- An estimate is in range, so that it can be settled for. -/
theorem modelPriceHelperTiered_some (hEnv : env.Nonneg) (hGroup : 0 ≤ e.groupRatio)
    (h : modelPriceHelperTiered run env e = some snap) :
    InQuotaRange snap.estimatedQuotaAfterGroup ∧
      validateBillingAmount snap.groupRatio = true := by
  simp only [modelPriceHelperTiered, Option.bind_eq_bind, Option.bind_eq_some_iff] at h
  obtain ⟨⟨rawCost, tier⟩, hRun, h⟩ := h
  cases h
  have hCost : rawCost.NotNeg := notNeg_of_validate (Option.filter_eq_some_iff.mp hRun).2
  refine ⟨?_, by simpa [validateBillingAmount] using hGroup⟩
  dsimp only
  split
  · exact inQuotaRange_zero
  · exact quotaRound_inRange (Float64.mul_notNeg (Float64.mul_notNeg
      (Float64.div_notNeg hCost (by norm_num)) hEnv.quotaPerUnit) hGroup)

/-- The quota pre-consumed for a request: nothing yet, or what its reservation
holds after any billing calls. -/
def PreConsumed (quota : Int) : Prop :=
  quota = 0 ∨ ∃ (loc : Location) (db : Database) (calls : List BillingCall) (requestId : String)
    (r : BillingReservation), RowsStored db ∧
      (Lib.run (BillingCall.step loc) db calls).reservations.get? requestId = some r ∧
      r.reservedQuota = quota

theorem PreConsumed.inRange (h : PreConsumed quota) : InQuotaRange quota := by
  rcases h with rfl | ⟨loc, db, calls, requestId, r, hStored, hRow, rfl⟩
  · exact inQuotaRange_zero
  · have hRange := (rowsStored_run loc hStored calls requestId r hRow).reserved
    rw [quotaOutOfRange, not_or] at hRange
    exact ⟨not_lt.mp hRange.1, not_lt.mp hRange.2⟩

/-- What settlement knows of a request billed by an expression: the rule was
frozen by an estimate, and the quota pre-consumed is that of its reservation. -/
structure Frozen (env : PricingEnv) (info : RelayInfo) : Prop where
  snapshot : ∀ snap ∈ info.tieredBillingSnapshot, ∃ run e,
    0 ≤ e.groupRatio ∧ modelPriceHelperTiered run env e = some snap
  preConsumed : PreConsumed info.finalPreConsumedQuota

theorem Frozen.noteQuotaClamp (h : Frozen env info) (clamp : Option QuotaClamp) :
    Frozen env (noteQuotaClamp info clamp) :=
  ⟨h.snapshot, h.preConsumed⟩

theorem Frozen.snapshot_inRange (hEnv : env.Nonneg) (h : Frozen env info)
    (hSnap : info.tieredBillingSnapshot = some snap) :
    InQuotaRange snap.estimatedQuotaAfterGroup ∧ validateBillingAmount snap.groupRatio = true := by
  obtain ⟨_, e, hGroup, hEstimate⟩ := h.snapshot snap hSnap
  exact modelPriceHelperTiered_some hEnv hGroup hEstimate

theorem tryTieredSettle_some (hEnv : env.Nonneg) (hFrozen : Frozen env info)
    (h : tryTieredSettle run info params = (some (quota, result), info')) :
    InQuotaRange quota ∧ Frozen env info' ∧
      ∀ tr ∈ result, validateBillingAmount tr.actualQuotaBeforeGroup = true := by
  unfold tryTieredSettle at h
  cases hSnap : info.tieredBillingSnapshot with
  | none => simp [hSnap] at h
  | some =>
    simp only [hSnap] at h
    split at h
    · cases h
    · split at h
      · obtain ⟨⟨rfl, rfl⟩, rfl⟩ := by simpa using h
        refine ⟨?_, hFrozen, nofun⟩
        split
        · exact (hFrozen.snapshot_inRange hEnv hSnap).1
        · exact hFrozen.preConsumed.inRange
      · next tr hCompute =>
          obtain ⟨⟨rfl, rfl⟩, rfl⟩ := by simpa using h
          obtain ⟨hRange, hBefore⟩ := computeTieredQuotaWithRequest_some hCompute
          exact ⟨hRange, hFrozen.noteQuotaClamp _, by simpa using hBefore⟩

theorem tryTieredSettle_none (h : tryTieredSettle run info params = (none, info')) : info' = info := by
  unfold tryTieredSettle at h
  split at h
  · exact (Prod.mk.inj h).2.symm
  · split at h
    · exact (Prod.mk.inj h).2.symm
    · split at h <;> cases h

theorem composeTieredTextQuota_inRange (hEnv : env.Nonneg) (hFrozen : Frozen env info)
    (hSurcharge : 0 ≤ surcharge) (hQuota : InQuotaRange tieredQuota)
    (hResult : ∀ tr ∈ result, validateBillingAmount tr.actualQuotaBeforeGroup = true) :
    InQuotaRange (composeTieredTextQuota env info surcharge tieredQuota result).1 := by
  unfold composeTieredTextQuota
  split
  · exact hQuota
  · refine quotaFromDecimal_inRange ?_
    split
    · next tr snap hSnap =>
        have hGroup := (hFrozen.snapshot_inRange hEnv hSnap).2
        exact add_nonneg (mul_nonneg (decimalOfAmount_nonneg (hResult tr rfl))
          (decimalOfAmount_nonneg hGroup)) hSurcharge
    · have hBase : (0 : ℚ) ≤ tieredQuota := by exact_mod_cast hQuota.1
      exact add_nonneg hBase hSurcharge

/-! ### Settlement -/

theorem postTextConsumeQuota_inRange (hEnv : env.Nonneg) (hPrices : info.priceData.Nonneg)
    (hFrozen : Frozen env info) (run : ExprRunner) (usedVars : String → String → Bool)
    (ctx : RelayContext) {usage? : Option Usage} (hUsage : ∀ usage ∈ usage?, usage.Nonneg) :
    InQuotaRange (postTextConsumeQuota run env usedVars ctx info usage?).1 := by
  have hRatio := calculateTextQuotaSummary_inRange hEnv hPrices ctx hUsage
  have hSurcharge :
      0 ≤ (calculateTextQuotaSummary env ctx info usage?).1.toolCallSurchargeQuota :=
    calculateTextToolCallSurcharge_nonneg hEnv hPrices
  have hNoted : Frozen env (calculateTextQuotaSummary env ctx info usage?).2 :=
    hFrozen.noteQuotaClamp _
  unfold postTextConsumeQuota
  dsimp only
  split
  · exact hRatio
  · split
    · exact hRatio
    · next hTiered =>
        obtain ⟨hQuota, hFrozen', hResult⟩ := tryTieredSettle_some hEnv hNoted hTiered
        exact composeTieredTextQuota_inRange hEnv hFrozen' hSurcharge hQuota hResult

theorem settleAudio_inRange (hEnv : env.Nonneg) (hPrices : info.priceData.Nonneg)
    (hFrozen : Frozen env info) (run : ExprRunner) (params : TokenParams) (modelName : String)
    (details : TokenDetails × TokenDetails) (totalTokens : Int) :
    InQuotaRange (settleAudio env run info params modelName details totalTokens).1 := by
  unfold settleAudio
  dsimp only
  split
  · exact inQuotaRange_zero
  · rcases hTiered : tryTieredSettle run info params with ⟨_ | ⟨quota, result⟩, info'⟩
    · obtain rfl : info' = info := tryTieredSettle_none hTiered
      exact calculateAudioQuota_inRange hEnv hPrices.modelPrice hPrices.groupRatio
    · exact (tryTieredSettle_some hEnv hFrozen hTiered).1

theorem preWssConsumeQuota_inRange (hEnv : env.Nonneg) (ctx : RelayContext) (info : RelayInfo)
    (usage : RealtimeUsage) (h : quota ∈ (preWssConsumeQuota env ctx info usage).1) :
    InQuotaRange quota := by
  unfold preWssConsumeQuota at h
  split at h
  · cases h
  · cases h
    refine calculateAudioQuota_inRange hEnv le_rfl ?_
    dsimp only
    cases hGroup : env.groupGroupRatio info.userGroup (ctx.autoGroup.getD info.usingGroup) with
    | none => exact hEnv.groupRatio _
    | some ratio => exact hEnv.groupGroupRatio _ _ ratio hGroup

theorem settled_quota_in_range {env : PricingEnv} {info : RelayInfo} (hEnv : env.Nonneg)
    (hPrices : info.priceData.Nonneg) (hFrozen : Frozen env info) (run : ExprRunner)
    (usedVars : String → String → Bool) (ctx : RelayContext) :
    (∀ usage? : Option Usage, (∀ usage ∈ usage?, usage.Nonneg) →
      InQuotaRange (postTextConsumeQuota run env usedVars ctx info usage?).1) ∧
    (∀ usage : Usage, usage.Nonneg →
      InQuotaRange (postAudioConsumeQuota env run usedVars info usage).1) ∧
    (∀ usage : RealtimeUsage, usage.Nonneg →
      (∀ quota ∈ (preWssConsumeQuota env ctx info usage).1, InQuotaRange quota) ∧
      ∀ modelName, InQuotaRange (postWssConsumeQuota env run info modelName usage).1) ∧
    ∀ params quota result info',
      tryTieredSettle run info params = (some (quota, result), info') → InQuotaRange quota :=
  ⟨fun _ hUsage => postTextConsumeQuota_inRange hEnv hPrices hFrozen run usedVars ctx hUsage,
    fun _ _ => settleAudio_inRange hEnv hPrices hFrozen ..,
    fun usage _ => ⟨fun _ => preWssConsumeQuota_inRange hEnv ctx info usage,
      fun _ => settleAudio_inRange hEnv hPrices hFrozen ..⟩,
    fun _ _ _ _ h => (tryTieredSettle_some hEnv hFrozen h).1⟩

def samplePricing : PricingEnv where
  newFromFloat q := q
  newFromFloat_nonneg _ h := h
  quotaPerUnit := 500000
  toolPriceForModel _ _ := 1
  defaultModelRatio _ := none
  completionRatio _ := 1
  audioRatio _ := 1
  audioCompletionRatio _ := 1
  modelRatio _ := 1
  groupRatio _ := 1
  groupGroupRatio _ _ := none

theorem samplePricing_nonneg : samplePricing.Nonneg := by
  constructor <;> simp [samplePricing]

def sampleExpr : ExprRunner := fun _ params _ => some (params.p.mul (.finite 2), "base")

def sampleEstimate : TieredEstimate where
  exprString := "tier(\"base\", p * 2)"
  promptTokens := 10
  maxTokens := 0
  groupRatio := 1
  request := {}
  enableFreeModelPreConsume := false

def sampleContradiction : Usage where
  promptTokens := 10
  totalTokens := 10
  promptTokensDetails := { cachedTokens := 30 }

theorem settled_quota_in_range_contradiction :
    let info : RelayInfo :=
      { originModelName := "gpt-4o-search-preview", priceData := { modelRatio := 1, groupRatio := 1 }
        tieredBillingSnapshot := modelPriceHelperTiered sampleExpr samplePricing sampleEstimate }
    InQuotaRange (postTextConsumeQuota sampleExpr samplePricing (fun _ _ => true) {} info
      (some sampleContradiction)).1 := by
  intro info
  have hPrices : info.priceData.Nonneg := by constructor <;> simp [info]
  have hFrozen : Frozen samplePricing info :=
    ⟨fun snap hSnap => ⟨sampleExpr, sampleEstimate, by decide, hSnap⟩, .inl rfl⟩
  refine (settled_quota_in_range samplePricing_nonneg hPrices hFrozen sampleExpr
    (fun _ _ => true) {}).1 (some sampleContradiction) fun usage hUsage => ?_
  cases hUsage
  constructor <;> decide

end XyApi.Pricing

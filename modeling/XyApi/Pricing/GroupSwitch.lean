import XyApi.Pricing.QuotaRange

/-!
The group ratio of a tiered request that is retried in other groups. Pricing freezes the
ratio of the first group in the snapshot; each retry writes the ratio of the group it
selected to the live price data only. Settlement multiplies the cost of the expression by
the frozen ratio and the surcharge of the tools by the live one.
-/

namespace XyApi.Pricing

open Lib

variable (run : ExprRunner) (env : PricingEnv) (e : TieredEstimate)
    (usedVars : String → String → Bool) (ctx : RelayContext) (usage? : Option Usage)

def groupRatioOf (info : RelayInfo) (group : String) : ℚ :=
  (env.groupGroupRatio info.userGroup group).getD (env.groupRatio group)

def handleGroupRatio (autoGroup : Option String) (info : RelayInfo) : ℚ × RelayInfo :=
  let usingGroup := autoGroup.getD info.usingGroup
  (groupRatioOf env info usingGroup, { info with usingGroup := usingGroup })

def priceTiered (autoGroup : Option String) (info : RelayInfo) : Option RelayInfo :=
  let priced := handleGroupRatio env autoGroup info
  (modelPriceHelperTiered run env { e with groupRatio := priced.1 }).map fun snapshot =>
    { priced.2 with
      tieredBillingSnapshot := some snapshot
      billingRequestInput := some e.request
      priceData := { groupRatio := priced.1 } }

def repriceRetry (info : RelayInfo) (group : String) : RelayInfo :=
  let (groupRatio, info) := handleGroupRatio env (some group) info
  { info with priceData := { info.priceData with groupRatio := groupRatio } }

def settleRetried (info : RelayInfo) (first : String) (retries : List String) : Option Int :=
  (priceTiered run env e (some first) info).map fun info =>
    (postTextConsumeQuota run env usedVars ctx (retries.foldl (repriceRetry env) info) usage?).1

/-- Retries change the group in use and the live ratio, and nothing else. -/
theorem foldl_repriceRetry (info : RelayInfo) (group : String) (retries : List String)
    (hGroup : info.usingGroup = group)
    (hRatio : info.priceData.groupRatio = groupRatioOf env info group) :
    retries.foldl (repriceRetry env) info = { info with
      usingGroup := retries.getLastD group
      priceData := { info.priceData with
        groupRatio := groupRatioOf env info (retries.getLastD group) } } := by
  induction retries generalizing info group with
  | nil =>
    rw [List.foldl_nil, List.getLastD_nil, ← hRatio, ← hGroup]
  | cons next rest ih =>
    rw [List.foldl_cons, ih (repriceRetry env info next) next rfl rfl, List.getLastD_cons]
    rfl

def doublePricing : PricingEnv :=
  { samplePricing with groupRatio := fun group => if group = "b" then 2 else 1 }

end XyApi.Pricing

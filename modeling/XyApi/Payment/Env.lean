import XyApi.Lib.Rounding
import XyApi.Subscription.Purchase

/-!
What a payment transaction takes from outside the database: the clock, the
settings, the zone database, the table of currencies, and the two codecs whose
output is stored but never computed with (JSON and the payload digest). Every
call carries its own environment, so settings may change between calls.
-/

namespace XyApi.Payment

open Lib Lib.Calendar Subscription

inductive JsonValue
  | text (s : String)
  | int (n : Int)
  deriving DecidableEq, Repr

structure SubscriptionPlanSnapshot where
  version : Int
  planId : Int
  title : String := ""
  /-- The price, when the stored text is a finite number. -/
  priceAmount : Option ℚ := some 0
  currency : String := "USD"
  durationUnit : DurationUnit := .month
  durationValue : Int := 1
  customSeconds : Int := 0
  maxPurchasePerUser : Int := 0
  upgradeGroup : String := ""
  downgradeGroup : String := ""
  totalAmount : Int := 0
  quotaResetPeriod : StoredResetPeriod := .known .never
  quotaResetCustomSeconds : Int := 0
  allowWalletOverflow : Bool := false
  deriving DecidableEq, Repr

/-- The part of a pricing snapshot that says which resolution wrote it. -/
structure PricingSource where
  source : String
  resolution : String
  deriving DecidableEq, Repr

structure PaymentEnv where
  now : Int
  location : Location
  loadLocation : String → Option Location
  /-- Minor-unit exponent of an ISO 4217 code. -/
  currencyExponent : String → Option Nat
  digest : String → String
  marshal : List (String × JsonValue) → String
  encodePlan : SubscriptionPlanSnapshot → String
  decodePlan : String → Option SubscriptionPlanSnapshot
  decodePricing : String → Option PricingSource
  stripeTestModeEnabled : Bool
  groupRatio : String → ℚ
  affiliateFirstTopupPercent : Int
  affiliateContinuousPercent : Int

def sampleEnv (now : Int) : PaymentEnv where
  now := now
  location := .utc
  loadLocation _ := some .utc
  currencyExponent _ := some 2
  digest text := text
  marshal _ := ""
  encodePlan _ := ""
  decodePlan _ := none
  decodePricing _ := none
  stripeTestModeEnabled := false
  groupRatio _ := 1
  affiliateFirstTopupPercent := 0
  affiliateContinuousPercent := 0

/-- A saturating conversion to a quota column, and whether it had to saturate.
The bounds themselves count as saturation. -/
def saturateQuota (value : Int) : Int × Bool :=
  if value ≥ maxInt32 then (maxInt32, true)
  else if value ≤ minInt32 then (minInt32, true)
  else (value, false)

/-! ### Currencies -/

def paymentProviderCurrencyExponentOK (env : PaymentEnv) (provider : PaymentProvider)
    (currency : String) : Option Nat :=
  let code := toUpper (trimSpace currency)
  if code.utf8ByteSize ≠ 3 then none
  else
    -- Stripe keeps two decimals for two currencies that have none.
    (env.currencyExponent code).map fun exponent =>
      if provider = .stripe ∧ (code = "ISK" ∨ code = "UGX") then 2 else exponent

def paymentProviderCurrencyMinorUnit (env : PaymentEnv) (provider : PaymentProvider)
    (currency : String) : Int :=
  match (paymentProviderCurrencyExponentOK env provider currency).getD 2 with
  | 0 => 1
  | 3 => 1000
  | _ => 100

def paymentMoney (env : PaymentEnv) (amountMinor : Int) (provider : PaymentProvider)
    (currency : String) : Option ℚ :=
  some (amountMinor / paymentProviderCurrencyMinorUnit env provider currency)

/-! ### Plan snapshots -/

def subscriptionPlanSnapshotVersion : Int := 1

def newSubscriptionPlanSnapshot (plan : SubscriptionPlan) : DbTx SubscriptionPlanSnapshot := do
  validateSubscriptionPlan plan
  let plan := normalizeDefaults plan
  pure {
    version := subscriptionPlanSnapshotVersion
    planId := plan.id
    title := plan.title
    priceAmount := plan.priceAmount
    currency := toUpper (trimSpace plan.currency)
    durationUnit := plan.durationUnit
    durationValue := plan.durationValue
    customSeconds := plan.customSeconds
    maxPurchasePerUser := plan.maxPurchasePerUser
    upgradeGroup := trimSpace plan.upgradeGroup
    downgradeGroup := trimSpace plan.downgradeGroup
    totalAmount := plan.totalAmount
    quotaResetPeriod := .known (normalizeResetPeriod plan.quotaResetPeriod)
    quotaResetCustomSeconds := plan.quotaResetCustomSeconds
    allowWalletOverflow := plan.allowWalletOverflow.getD true }

/-- The plan a snapshot stands for; a snapshot that is not a valid plan counts as missing. -/
def SubscriptionPlanSnapshot.subscriptionPlan (s : SubscriptionPlanSnapshot) :
    DbTx SubscriptionPlan := do
  Tx.failIf (s.version ≠ subscriptionPlanSnapshotVersion ∨ s.planId ≤ 0)
    .subscriptionOrderSnapshotMissing
  Tx.failIf s.priceAmount.isNone .subscriptionOrderSnapshotMissing
  let plan : SubscriptionPlan := {
    id := s.planId
    title := s.title
    priceAmount := s.priceAmount
    currency := toUpper (trimSpace s.currency)
    durationUnit := s.durationUnit
    durationValue := s.durationValue
    customSeconds := s.customSeconds
    enabled := true
    maxPurchasePerUser := s.maxPurchasePerUser
    upgradeGroup := trimSpace s.upgradeGroup
    downgradeGroup := trimSpace s.downgradeGroup
    totalAmount := s.totalAmount
    quotaResetPeriod := .known (normalizeResetPeriod s.quotaResetPeriod)
    quotaResetCustomSeconds := s.quotaResetCustomSeconds
    allowWalletOverflow := some s.allowWalletOverflow }
  (validateSubscriptionPlan plan).mapErr fun _ => .subscriptionOrderSnapshotMissing
  pure plan

def validateSubscriptionPlanForExternalPayment (plan : SubscriptionPlan) : DbTx Unit := do
  validateSubscriptionPlan plan
  Tx.failIf (¬ plan.enabled) (.new "套餐未启用")
  Tx.failIf (trimSpace plan.title = "") (.new "套餐标题不能为空")
  Tx.failIf (plan.priceAmount.all fun price => price < 1 / 100) (.new "套餐金额过低")
  Tx.failIf (plan.totalAmount > maxInt32) (.new "套餐总额度超出外部支付可交付范围")

end XyApi.Payment

import XyApi.Payment.Reversal

/-!
Orders from before the canonical order existed. A paid event whose trade number
belongs to an older subscription row adopts it: the contract is checked, or
rebuilt from a plan that has not changed since, and a canonical order is created.
An older top-up row has no record of the credit it promised and is never adopted.
-/

namespace XyApi.Payment

open Lib Subscription

variable (env : PaymentEnv) (input : PaymentEventInput) (order : SubscriptionOrder)

def defaultSubscriptionReservationSeconds : Int := 2 * 60 * 60

def isReservedNonEpayPaymentMethod (method : String) : Bool :=
  ["stripe", "creem", "waffo", "waffo_pancake", "xorpay_native", "xorpay_alipay", "xorpay_jsapi",
    "balance"].contains method

def validateLegacyPaymentProviderAndMethod (storedProvider : Option PaymentProvider)
    (storedMethod : String) (input : PaymentEventInput) : DbTx Unit :=
  if storedProvider.map PaymentProvider.normalize = some input.provider then pure ()
  else
    Tx.failIf (storedProvider.isSome ∨ input.provider ≠ .epay ∨ storedMethod = "" ∨
      storedMethod ≠ input.paymentMethod ∨ isReservedNonEpayPaymentMethod input.paymentMethod)
      .paymentProviderMismatch

def legacyPaymentMoneyMinorExact (amount : Option ℚ) (exponent : Nat) (bound : Int) :
    DbTx Int := do
  let amount ← Tx.require amount .paymentAmountMismatch
  let minor := amount * 10 ^ exponent
  Tx.failIf (amount ≤ 0 ∨ minor.den ≠ 1 ∨ minor > bound) .paymentAmountMismatch
  pure minor.num

def legacySubscriptionNeedsPlanReconstruction : Bool :=
  order.expectedAmountMinor = 0 ∧ trimSpace order.paymentCurrency = "" ∧
    trimSpace order.planSnapshot = "" ∧ order.reserveUntil = 0

def legacySubscriptionUnavailable (detail : String) : Err :=
  .join .legacyPaymentContractUnavailable (.wrap .legacySubscriptionContractUnavailable detail)

def reconstructLegacySubscriptionTx (currentPlan : Option SubscriptionPlan) :
    DbTx SubscriptionOrder := do
  Tx.failIf (input.provider ≠ .epay) .paymentProviderMismatch
  Tx.failIf (input.currency ≠ "CNY") .paymentCurrencyMismatch
  let legacyMinor ← (legacyPaymentMoneyMinorExact order.money 2 maxInt64).mapErr fun _ =>
    .paymentAmountMismatch
  Tx.failIf (legacyMinor ≤ 0 ∨ legacyMinor ≠ input.paidAmountMinor) .paymentAmountMismatch
  let plan ← Tx.require currentPlan
    (legacySubscriptionUnavailable "subscription plan is missing")
  Tx.failIf (plan.createdAt ≤ 0 ∨ plan.updatedAt ≤ 0 ∨ plan.createdAt > order.createTime ∨
    plan.updatedAt ≥ order.createTime)
    (legacySubscriptionUnavailable
      "subscription plan changed after the legacy order was created")
  (validateSubscriptionPlanForExternalPayment plan).mapErr fun _ =>
    legacySubscriptionUnavailable
      "subscription plan is no longer a valid external-payment contract"
  let priceMismatch := legacySubscriptionUnavailable
    "subscription plan price no longer matches the legacy order"
  let planMinor ← (legacyPaymentMoneyMinorExact plan.priceAmount 2 maxInt64).mapErr fun _ =>
    priceMismatch
  Tx.failIf (planMinor ≠ legacyMinor) priceMismatch
  let snapshot ← (newSubscriptionPlanSnapshot plan).mapErr fun _ =>
    legacySubscriptionUnavailable "subscription plan snapshot is invalid"
  pure { order with
    planSnapshot := env.encodePlan snapshot
    planId := snapshot.planId
    expectedAmountMinor := legacyMinor
    paymentCurrency := "CNY"
    reserveUntil := order.createTime + defaultSubscriptionReservationSeconds }

def checkLegacySubscriptionFieldsTx : DbTx SubscriptionOrder := do
  Tx.failIf (order.expectedAmountMinor ≤ 0 ∨ trimSpace order.paymentCurrency = "" ∨
    trimSpace order.planSnapshot = "" ∨ order.reserveUntil ≤ 0)
    (legacySubscriptionUnavailable
      "legacy subscription payment fields are only partially initialized")
  pure order

def planSnapshotTx : DbTx SubscriptionPlanSnapshot := do
  Tx.failIf (trimSpace order.planSnapshot = "") .subscriptionOrderSnapshotMissing
  let snapshot ← Tx.require (env.decodePlan order.planSnapshot) .subscriptionOrderSnapshotMissing
  Tx.failIf (snapshot.planId ≠ order.planId) .subscriptionOrderSnapshotMissing
  (snapshot.subscriptionPlan).void
  pure snapshot

def checkAdoptedContractTx : DbTx SubscriptionOrder := do
  Tx.failIf (order.expectedAmountMinor ≠ input.paidAmountMinor) .paymentAmountMismatch
  Tx.failIf (¬ equalFold (toUpper (trimSpace order.paymentCurrency)) input.currency)
    .paymentCurrencyMismatch
  let inputProviderOrderKey := trimSpace input.providerOrderKey
  Tx.failIf (order.providerOrderKey.any fun key => trimSpace key ≠ inputProviderOrderKey)
    .paymentProviderMismatch
  Tx.failIf (order.providerOrderId ≠ "" ∧
    inputProviderOrderKey ≠ input.provider.text ++ ":" ++ trimSpace order.providerOrderId)
    .paymentProviderMismatch
  let invalid := legacySubscriptionUnavailable "subscription plan snapshot is invalid"
  let snapshot ← (planSnapshotTx env order).mapErr fun _ => invalid
  (snapshot.subscriptionPlan.void).mapErr fun _ => invalid
  pure order

/-- Check a signed payment against an older subscription row; returns the row
with its contract filled in. -/
def prepareLegacySubscriptionAdoptionContract (currentPlan : Option SubscriptionPlan) :
    DbTx SubscriptionOrder := do
  Tx.failIf (order.id ≤ 0 ∨ order.userId ≤ 0 ∨ order.planId ≤ 0 ∨ order.createTime ≤ 0)
    (legacySubscriptionUnavailable "legacy subscription identity is incomplete")
  validateLegacyPaymentProviderAndMethod order.paymentProvider order.paymentMethod input
  Tx.failIf (order.status ≠ .pending) .paymentProviderMismatch
  let order ←
    if legacySubscriptionNeedsPlanReconstruction order then
      reconstructLegacySubscriptionTx env input order currentPlan
    else checkLegacySubscriptionFieldsTx order
  checkAdoptedContractTx env input order

def legacyPaymentRequestId (provider : PaymentProvider) (tradeNo : String) : String :=
  "legacy_" ++ truncateBytes 48 (env.digest (provider.text ++ ":" ++ tradeNo))

def orderConflicts (row o : PaymentOrder) : Bool :=
  o.tradeNo = row.tradeNo ∨ (o.userId = row.userId ∧ o.requestId = row.requestId) ∨
    (row.providerOrderKey.isSome ∧ o.providerOrderKey = row.providerOrderKey) ∨
    (row.providerPaymentKey.isSome ∧ o.providerPaymentKey = row.providerPaymentKey)

def insertOrder (row : PaymentOrder) : DbTx PaymentOrder := do
  let taken ← Tx.read fun db => db.payments.orders.rows.any (orderConflicts row)
  Tx.failIf taken .duplicatedKey
  let id ← Tx.read fun db => Database.nextId (db.payments.orders.rows.map PaymentOrder.id)
  let row := { row with id := id }
  let rows? ← Tx.read fun db => db.payments.orders.insert? row
  let rows ← Tx.require rows? .duplicatedKey
  writePayments fun p => { p with orders := rows }
  pure row

def nonBlank (s : String) : Option String := if trimSpace s = "" then none else some (trimSpace s)

def adoptedOrder (row : SubscriptionOrder) : PaymentOrder :=
  { id := 0
    tradeNo := input.tradeNo
    userId := row.userId
    orderKind := .subscription
    provider := input.provider
    providerCredentialGeneration := input.providerCredentialGeneration
    providerLivemode := input.providerLivemode
    paymentMethod := row.paymentMethod
    requestId := legacyPaymentRequestId env input.provider input.tradeNo
    providerOrderKey := nonBlank input.providerOrderKey
    providerPaymentKey := nonBlank input.providerPaymentKey
    expectedAmountMinor := row.expectedAmountMinor
    currency := toUpper (trimSpace row.paymentCurrency)
    requestedAmount := row.planId
    productSnapshot := row.planSnapshot
    legacyRecordType := some .subscription
    legacyRecordId := row.id
    expiresAt := row.reserveUntil
    createdAt := row.createTime
    updatedAt := env.now }

def adoptLegacySubscriptionTx (stored : SubscriptionOrder) : DbTx PaymentOrder := do
  let plan? ← Tx.read fun db =>
    if legacySubscriptionNeedsPlanReconstruction stored then db.plans.get? stored.planId else none
  let row ← prepareLegacySubscriptionAdoptionContract env input stored plan?
  Tx.when (input.provider = .epay ∨ input.provider = .stripe ∨ input.provider = .xorPay) do
    let available ← paymentCredentialGenerationAvailableTx input.provider
      input.providerCredentialGeneration row.createTime env.now
    Tx.failIf (¬ available) .paymentManualReview
  let adopted ← insertOrder (adoptedOrder env input row)
  updateSubscriptionOrders (fun o => o.id = stored.id) (fun o => { o with
    paymentOrderId := some adopted.id
    expectedAmountMinor := row.expectedAmountMinor
    paymentCurrency := row.paymentCurrency
    planSnapshot := row.planSnapshot
    reserveUntil := row.reserveUntil
    paymentProvider := o.paymentProvider.or (some .epay) }) fun _ => rfl
  pure adopted

/-- An older top-up row cannot be adopted; the error says which check it reached. -/
def rejectLegacyTopUpTx : DbTx PaymentOrder := do
  let topUp? ← Tx.read fun db =>
    db.payments.topUps.first? fun t => t.tradeNo = input.tradeNo
  let topUp ← Tx.require topUp? .paymentOrderNotFound
  validateLegacyPaymentProviderAndMethod topUp.paymentProvider topUp.paymentMethod input
  Tx.failIf (topUp.status ≠ .pending) .paymentProviderMismatch
  let exponent ← Tx.require (paymentProviderCurrencyExponentOK env input.provider input.currency)
    .paymentCurrencyMismatch
  let expectedMinor ← legacyPaymentMoneyMinorExact topUp.money exponent maxInt32
  Tx.failIf (expectedMinor ≠ input.paidAmountMinor) .paymentAmountMismatch
  Tx.fail (.join .legacyPaymentContractUnavailable .legacyTopUpQuotaSnapshotUnavailable)

def adoptLegacyPaymentOrderTx : DbTx PaymentOrder := do
  let input := normalizeIdentity input
  Tx.failIf (¬ stripePaidEventModeAllowed env input) .paymentManualReview
  Tx.failIf (input.tradeNo = "" ∨ ¬ input.paid ∨ input.paidAmountMinor ≤ 0 ∨
    input.currency = "") .paymentOrderNotFound
  let existing? ← Tx.read (findOrderByTradeNo input.tradeNo)
  match existing? with
  | some existing => pure existing
  | none => do
      let row? ← Tx.read fun db =>
        db.subscriptionOrders.first? fun o => o.tradeNo = input.tradeNo
      match row? with
      | some row => adoptLegacySubscriptionTx env input row
      | none => rejectLegacyTopUpTx env input

def legacyPaymentAdoptionRequiresManualReview (e : Err) : Bool :=
  e.is .legacyPaymentContractUnavailable || e.is .paymentManualReview ||
    e.is .paymentAmountMismatch || e.is .paymentCurrencyMismatch ||
    e.is .paymentProviderMismatch || e.is .paymentMethodMismatch

end XyApi.Payment

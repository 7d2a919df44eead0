import XyApi.Payment.Affiliate

/-!
Granting what an order paid for. A top-up credits the buyer's wallet once and
rewards the inviter; a subscription order creates the subscription it froze at
purchase. An order whose entitlement is final is left alone, and one that is
under review or was decided by an administrator is refused.
-/

namespace XyApi.Payment

open Lib Billing Subscription

variable (env : PaymentEnv) (event : PaymentEvent) (order : PaymentOrder)
  (input : PaymentEventInput) (result : PaymentSettlementResult)

def paymentLivemodeEqual (left right : Option Bool) : Bool := decide (left = right)

def stripePaidEventModeAllowed : Bool :=
  input.provider ≠ .stripe || !input.paid ||
    match input.providerLivemode with
    | none => false
    | some livemode => livemode || env.stripeTestModeEnabled

def stripeOrderPaidFulfillmentAllowed : Bool :=
  input.provider ≠ .stripe || !input.paid ||
    match order.providerLivemode with
    | none => false
    | some livemode =>
      (input.providerLivemode.isNone ||
        paymentLivemodeEqual order.providerLivemode input.providerLivemode) &&
      (livemode || env.stripeTestModeEnabled)

def creditableTopUpStatus : ProjectionStatus → Bool
  | .pending | .manualReview | .failed | .expired => true
  | _ => false

def creditableTopUpTx : DbTx TopUp := do
  Tx.failIf (order.creditQuota ≤ 0) (.new "payment top-up quota is invalid")
  let topUp? ← Tx.read (findTopUp order)
  let topUp ← Tx.require topUp? .recordNotFound
  Tx.failIf (topUp.paymentProvider ≠ some order.provider ∨ topUp.userId ≠ order.userId)
    .paymentProviderMismatch
  Tx.failIf (¬ creditableTopUpStatus topUp.status ∧ topUp.status ≠ .success) .topUpStatusInvalid
  Tx.failIf (topUp.status = .success) .paymentManualReview
  pure topUp

def saveTopUp (topUp : TopUp) : DbTx Unit :=
  writePayments fun p => { p with topUps := p.topUps.put topUp }

def fulfillTopUpTx : DbTx PaymentSettlementResult := do
  let topUp ← creditableTopUpTx order
  let (inviterId, reward) ← applyAffiliateTopUpRewardTx env topUp order.creditQuota
  applyUserQuotaDeltaTx order.userId order.creditQuota
  saveTopUp { topUp with
    status := .success, completeTime := env.now, paymentOrderId := some order.id }
  createPaymentLedgerEntryTx env event order .credit order.expectedAmountMinor order.creditQuota
    "top-up credit"
  pure { result with
    quotaDelta := result.quotaDelta + order.creditQuota
    affiliateUserId := inviterId
    affiliateReward := reward }

/-! ### Subscriptions -/

def insertSubscriptionOrder (row : SubscriptionOrder) : DbTx SubscriptionOrder := do
  let taken ← Tx.read fun db => db.subscriptionOrders.rows.any fun o => o.tradeNo = row.tradeNo
  Tx.failIf taken .duplicatedKey
  let id ← Tx.read fun db => Database.nextId (db.subscriptionOrders.rows.map SubscriptionOrder.id)
  let row := { row with id := id }
  let rows? ← Tx.read fun db => db.subscriptionOrders.insert? row
  let rows ← Tx.require rows? .duplicatedKey
  Tx.write fun db => { db with subscriptionOrders := rows }
  pure row

def subscriptionProjection (planId createTime : Int) : SubscriptionOrder :=
  { id := 0
    paymentOrderId := some order.id
    userId := order.userId
    planId := planId
    money := paymentMoney env order.expectedAmountMinor order.provider order.currency
    planSnapshot := order.productSnapshot
    expectedAmountMinor := order.expectedAmountMinor
    paymentCurrency := order.currency
    reserveUntil := order.expiresAt
    tradeNo := order.tradeNo
    paymentMethod := order.paymentMethod
    paymentProvider := some order.provider
    createTime := createTime }

def ensureSubscriptionPaymentProjectionTx : DbTx SubscriptionOrder := do
  let legacy? ← Tx.read (findSubscriptionOrder order)
  match legacy? with
  | some legacy => pure legacy
  | none => do
      let snapshot ← Tx.require (env.decodePlan order.productSnapshot)
        .subscriptionOrderSnapshotMissing
      insertSubscriptionOrder
        (subscriptionProjection env order snapshot.planId order.createdAt)

def insertTopUp (row : TopUp) : DbTx TopUp := do
  let taken ← Tx.read fun db => db.payments.topUps.rows.any fun t => t.tradeNo = row.tradeNo
  Tx.failIf taken .duplicatedKey
  let id ← Tx.read fun db => Database.nextId (db.payments.topUps.rows.map TopUp.id)
  let row := { row with id := id }
  let rows? ← Tx.read fun db => db.payments.topUps.insert? row
  let rows ← Tx.require rows? .duplicatedKey
  writePayments fun p => { p with topUps := rows }
  pure row

def upsertSubscriptionTopUpTx (order : SubscriptionOrder) : DbTx Unit := do
  let topUp? ← Tx.read fun db => db.payments.topUps.first? fun t => t.tradeNo = order.tradeNo
  match topUp? with
  | none =>
    (insertTopUp {
      id := 0
      userId := order.userId
      paymentOrderId := order.paymentOrderId
      amount := 0
      money := order.money
      tradeNo := order.tradeNo
      paymentMethod := order.paymentMethod
      paymentProvider := order.paymentProvider
      createTime := order.createTime
      completeTime := env.now
      status := .success }).void
  | some topUp => do
      Tx.failIf (topUp.paymentOrderId.isSome ∧ order.paymentOrderId.isSome ∧
        topUp.paymentOrderId ≠ order.paymentOrderId) .paymentMethodMismatch
      Tx.failIf (topUp.paymentProvider.isSome ∧ topUp.paymentProvider ≠ order.paymentProvider)
        .paymentMethodMismatch
      Tx.failIf (topUp.paymentMethod ≠ "" ∧ topUp.paymentMethod ≠ order.paymentMethod)
        .paymentMethodMismatch
      saveTopUp { topUp with
        paymentOrderId := topUp.paymentOrderId.or order.paymentOrderId
        money := order.money
        paymentProvider := topUp.paymentProvider.or order.paymentProvider
        paymentMethod := if topUp.paymentMethod = "" then order.paymentMethod
          else topUp.paymentMethod
        createTime := if topUp.createTime = 0 then order.createTime else topUp.createTime
        completeTime := env.now
        status := .success }

def linkSubscriptionTx (subscriptionId orderId : Int) : DbTx Unit := do
  let taken ← Tx.read fun db => db.subscriptions.rows.any fun s =>
    s.id ≠ subscriptionId ∧ s.paymentOrderId = some orderId
  Tx.failIf taken .duplicatedKey
  Tx.write fun db => { db with
    subscriptions := db.subscriptions.updateWhere (fun s => s.id = subscriptionId)
      (fun s => { s with paymentOrderId := some orderId }) fun _ => rfl }

def fulfillSubscriptionTx : DbTx Unit := do
  let snapshot ← Tx.require (env.decodePlan order.productSnapshot)
    .subscriptionOrderSnapshotMissing
  let plan ← snapshot.subscriptionPlan
  let subscription ← createUserSubscriptionFromPlanTx env.location order.userId plan
    "payment_order" 0 order.id env.now
  linkSubscriptionTx subscription.id order.id
  let legacy ← ensureSubscriptionPaymentProjectionTx env order
  let legacy := { legacy with
    status := .success
    completeTime := env.now
    providerOrderId := input.providerOrderKey
    paymentOrderId := some order.id }
  Tx.write fun db => { db with subscriptionOrders := db.subscriptionOrders.put legacy }
  upsertSubscriptionTopUpTx env legacy
  createPaymentLedgerEntryTx env event order .subscriptionGranted order.expectedAmountMinor 0
    "subscription entitlement granted"

/-! ### Orders -/

def fulfillmentFinal : PaymentOrderStatus → Bool
  | .fulfilled | .refunded | .disputed | .debt => true
  | _ => false

def fulfilledOrder (paidAmountMinor : Int) (o : PaymentOrder) : PaymentOrder :=
  { o with
    status := .fulfilled, statusReason := "", paidAmountMinor := paidAmountMinor
    settledAt := env.now, updatedAt := env.now, version := o.version + 1 }

def deliverEntitlementTx : DbTx PaymentSettlementResult :=
  match order.orderKind with
  | .topUp => fulfillTopUpTx env event order result
  | .subscription => do
      fulfillSubscriptionTx env event order input
      pure result
  | .other _ => Tx.fail (.new "unsupported payment order kind")

def recordGrantTx (settled : PaymentOrder) : DbTx Unit := do
  updateOrder order.id (fun o => { o with
    status := settled.status
    statusReason := settled.statusReason
    paidAmountMinor := settled.paidAmountMinor
    settledAt := settled.settledAt
    providerOrderKey := settled.providerOrderKey
    providerPaymentKey := settled.providerPaymentKey
    startPayload := ""
    updatedAt := settled.updatedAt
    version := settled.version }) fun _ => rfl
  settlePaymentLimitReservationAtTx env settled
    (paymentLimitPaidAtForEvent event settled env.now) env.now
  updateEvent event.id (fun e => { e with paymentOrderId := order.id }) fun _ => rfl

def grantEntitlementTx : DbTx (PaymentOrder × PaymentSettlementResult) := do
  let result ← deliverEntitlementTx env event order input result
  let settled := fulfilledOrder env input.paidAmountMinor order
  recordGrantTx env event order settled
  pure (settled, result)

def fulfillPaymentOrderTx : DbTx (PaymentOrder × PaymentSettlementResult) := do
  Tx.failIf (¬ stripeOrderPaidFulfillmentAllowed env order input) .paymentManualReview
  if fulfillmentFinal order.status then pure (order, result)
  else do
    Tx.failIf (order.status = .manualReview) .paymentManualReview
    Tx.when (event.provider ≠ .admin) do
      let terminalAdminDecision ← paymentOrderHasTerminalAdminDecisionTx order.id
      Tx.failIf terminalAdminDecision .paymentManualReview
    Tx.failIf (order.creditQuota < 0 ∨ order.creditQuota > maxInt32)
      (.new "payment credit quota is outside the supported range")
    grantEntitlementTx env event order input result

def failedOrder (expired : Bool) (o : PaymentOrder) : PaymentOrder :=
  { o with
    status := if expired then .expired else .failed
    statusReason :=
      if expired then "provider payment session expired" else "provider reported payment failure"
    startFlow := "", startPayload := "", updatedAt := env.now, version := o.version + 1 }

def failOrExpirePaymentOrderTx (expired : Bool) : DbTx PaymentOrder :=
  if fulfillmentFinal order.status ∨ order.status = .manualReview then pure order
  else do
    updateOrder order.id (failedOrder env expired) fun _ => rfl
    let order := failedOrder env expired order
    releasePaymentLimitReservationTx order env.now
    closePendingProjectionTx order (if expired then .expired else .failed) env.now
    pure order

end XyApi.Payment

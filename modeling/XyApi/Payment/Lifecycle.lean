import XyApi.Payment.Settlement

/-!
An order before it is paid: creation from a quote, the claim and result of the
start at the provider, failure of the start, expiry, and manual review on the
worker's own account. Each of these only touches an order that is still pending
or processing.
-/

namespace XyApi.Payment

open Lib Subscription

variable (env : PaymentEnv) (order : PaymentOrder) (quote : PaymentQuote) (userId : Int)
  (quoteId tradeNo requestId : String) (lease : Option TaskLease)

def paymentMaxInFlightOrdersPerUserProvider : Nat := 5

def paymentTradeNoCreateAttempts : Nat := 5

def inFlight : PaymentOrderStatus → Bool
  | .pending | .processing | .manualReview => true
  | _ => false

def startable (status : PaymentOrderStatus) : Bool :=
  status = .pending ∨ status = .processing

/-! ### Creation -/

def lockPaymentUserGuardTx (now : Int) : DbTx PaymentUserGuard := do
  Tx.failIf (userId ≤ 0) (.new "invalid payment user guard")
  writePayments fun p => { p with
    userGuards := (p.userGuards.insertOrKeep { userId := userId }).updateWhere
      (fun g => g.userId = userId) (fun g => { g with updatedAt := now }) fun _ => rfl }
  let guard? ← Tx.read fun db => db.payments.userGuards.get? userId
  Tx.require guard? .recordNotFound

def paymentOrderMatchesQuote : Bool :=
  order.userId = quote.userId ∧ order.orderKind = quote.orderKind ∧
    order.provider = quote.provider ∧ order.paymentMethod = quote.paymentMethod ∧
    order.expectedAmountMinor = quote.expectedAmountMinor ∧
    equalFold order.currency quote.currency ∧
    order.requestedAmount = quote.requestedAmount ∧ order.creditQuota = quote.creditQuota ∧
    order.pricingSnapshot = quote.pricingSnapshot ∧
    order.productSnapshot = quote.productSnapshot ∧
    paymentLivemodeEqual order.providerLivemode quote.providerLivemode

def findQuote (userId : Int) (db : Database) : Option PaymentQuote :=
  (db.payments.quotes.get? quoteId).filter fun q => q.userId = userId

def consumeQuote (now : Int) : DbTx Unit :=
  writePayments fun p => { p with
    quotes := p.quotes.updateWhere (fun q => q.quoteId = quoteId)
      (fun q => { q with consumedAt := now }) fun _ => rfl }

def retriedOrderTx : DbTx PaymentOrder :=
  if order.quoteId = quoteId then pure order
  else do
    let quote? ← Tx.read (findQuote quoteId order.userId)
    match quote? with
    | none => do
        Tx.failIf (order.quoteId ≠ "") .paymentIdempotencyConflict
        pure order
    | some quote => do
        Tx.failIf (¬ paymentOrderMatchesQuote order quote) .paymentIdempotencyConflict
        Tx.when (order.quoteId = "")
          (updateOrder order.id (fun o => { o with
            quoteId := if o.quoteId = "" then quote.quoteId else o.quoteId }) fun _ => rfl)
        Tx.when (quote.consumedAt = 0) (consumeQuote quote.quoteId env.now)
        pure { order with quoteId := if order.quoteId = "" then quote.quoteId else order.quoteId }

def createPaymentOrderWithUniqueTradeNoTx (order : PaymentOrder) :
    Nat → List String → DbTx PaymentOrder
  | 0, _ => Tx.fail .paymentTradeNoCollision
  | _ + 1, [] => Tx.fail .paymentTradeNoCollision
  | attempts + 1, tradeNo :: rest => do
      let existing? ← Tx.read (findOrderByTradeNo tradeNo)
      if existing?.isSome then createPaymentOrderWithUniqueTradeNoTx order attempts rest
      else insertOrder { order with tradeNo := tradeNo }

def ensurePaymentTaskTx (orderId : Int) (operation : PaymentTaskOperation) (availableAt : Int) :
    DbTx Unit := do
  let existing ← Tx.read fun db => db.payments.paymentTasks.rows.any fun t =>
    t.paymentOrderId = orderId ∧ t.operation = operation
  Tx.when (existing = false) do
    let id ← Tx.read fun db => Database.nextId (db.payments.paymentTasks.rows.map PaymentTask.id)
    let tasks? ← Tx.read fun db => db.payments.paymentTasks.insert?
      { id := id, paymentOrderId := orderId, operation := operation, availableAt := availableAt }
    let tasks ← Tx.require tasks? .duplicatedKey
    writePayments fun p => { p with paymentTasks := tasks }

/-- At most this many orders of one provider may be in flight for the user. A
Stripe user without a customer gets one, since each start could mint another. -/
def inFlightLimitTx (provider : PaymentProvider) : DbTx Nat :=
  if provider = .stripe then do
    let user? ← Tx.read fun db => db.users.get? userId
    let user ← Tx.require user? .paymentUserUnavailable
    pure (if trimSpace user.stripeCustomer = "" then 1
      else paymentMaxInFlightOrdersPerUserProvider)
  else pure paymentMaxInFlightOrdersPerUserProvider

def proposedExpiry : Int :=
  match quote.provider with
  | .stripe => env.now + paymentStripeOrderTTLSeconds
  | .creem | .waffo | .waffoPancake => env.now + paymentRetainedOrderTTLSeconds
  | _ => quote.expiresAt

def orderFromQuote (configurationVersion expiresAt : Int) : PaymentOrder :=
  { id := 0
    tradeNo := ""
    userId := userId
    orderKind := quote.orderKind
    provider := quote.provider
    paymentMethod := quote.paymentMethod
    configurationVersion := configurationVersion
    providerLivemode := quote.providerLivemode
    quoteId := quote.quoteId
    requestId := requestId
    expectedAmountMinor := quote.expectedAmountMinor
    currency := quote.currency
    requestedAmount := quote.requestedAmount
    creditQuota := quote.creditQuota
    pricingSnapshot := quote.pricingSnapshot
    productSnapshot := quote.productSnapshot
    expiresAt := expiresAt
    createdAt := env.now
    updatedAt := env.now }

def topUpProjection : TopUp :=
  { id := 0
    paymentOrderId := some order.id
    userId := order.userId
    amount := order.requestedAmount
    money := paymentMoney env order.expectedAmountMinor order.provider order.currency
    tradeNo := order.tradeNo
    paymentMethod := order.paymentMethod
    paymentProvider := some order.provider
    currency := order.currency
    expectedAmountMinor := order.expectedAmountMinor
    creditQuotaSnapshot := order.creditQuota
    createTime := env.now }

def reserveSubscriptionPurchaseTx (snapshot : SubscriptionPlanSnapshot) (now : Int) :
    DbTx Unit := do
  Tx.failIf (userId ≤ 0) (.new "invalid subscription reservation")
  let user? ← Tx.read fun db => db.users.get? userId
  let _ ← Tx.require user? .recordNotFound
  Tx.when (snapshot.maxPurchasePerUser > 0) do
    let usedSlots ← countSubscriptionPurchaseSlotsTx userId snapshot.planId 0 0 now
    Tx.failIf ((usedSlots : Int) ≥ snapshot.maxPurchasePerUser) .subscriptionPurchaseLimit

def createProjectionTx : DbTx (Option Int) :=
  match order.orderKind with
  | .topUp => do
      let topUp ← insertTopUp (topUpProjection env order)
      pure (some topUp.id)
  | .subscription => do
      let snapshot ← Tx.require (env.decodePlan order.productSnapshot)
        .subscriptionOrderSnapshotMissing
      (snapshot.subscriptionPlan).void
      reserveSubscriptionPurchaseTx order.userId snapshot env.now
      let row ← insertSubscriptionOrder
        (subscriptionProjection env order snapshot.planId env.now)
      pure (some row.id)
  | .other _ => pure none

def createFromQuoteTx (configurationVersion : Int) (tradeNos : List String) :
    DbTx PaymentOrder := do
  let quote? ← Tx.read (findQuote quoteId userId)
  let quote ← Tx.require quote? .paymentQuoteNotFound
  Tx.failIf (quote.expiresAt > 0 ∧ quote.expiresAt ≤ env.now) .paymentQuoteExpired
  Tx.failIf (quote.consumedAt ≠ 0) .paymentQuoteConsumed
  let limit ← inFlightLimitTx userId quote.provider
  let inFlightCount ← Tx.read fun db => db.payments.orders.count fun o =>
    o.userId = userId ∧ o.provider = quote.provider ∧ inFlight o.status
  Tx.failIf (inFlightCount ≥ limit) .paymentInFlightOrderLimit
  let expiresAt ← boundPaymentOrderExpiryForLimitTx env quote (proposedExpiry env quote)
  let order ← createPaymentOrderWithUniqueTradeNoTx
    (orderFromQuote env quote userId requestId configurationVersion expiresAt)
    paymentTradeNoCreateAttempts tradeNos
  ensurePaymentTaskTx order.id .create env.now
  reservePaymentLimitTxAt env order
  let recordId? ← createProjectionTx env order
  let order := match recordId? with
    | some id => { order with legacyRecordType := some order.orderKind, legacyRecordId := id }
    | none => order
  updateOrder order.id (fun o => { o with
    legacyRecordType := order.legacyRecordType, legacyRecordId := order.legacyRecordId })
    fun _ => rfl
  consumeQuote quote.quoteId env.now
  pure order

/-- The transaction that creates an order. The candidates for its trade number are given. -/
def createPaymentOrderFromQuoteTx (expectedConfigurationVersion : Int) (tradeNos : List String) :
    DbTx PaymentOrder := do
  Tx.failIf (userId ≤ 0 ∨ trimSpace quoteId = "" ∨ trimSpace requestId = "")
    (.new "invalid payment order request")
  Tx.when (expectedConfigurationVersion > 0) do
    let version ← lockPaymentConfigurationFenceTx
    Tx.failIf (version ≠ expectedConfigurationVersion) .paymentConfigurationVersionConflict
  let guard ← lockPaymentUserGuardTx userId env.now
  Tx.failIf guard.blocked .paymentUserUnavailable
  let user? ← Tx.read fun db => (db.users.get? userId).filter fun u => u.status = .enabled
  let _ ← Tx.require user? .paymentUserUnavailable
  let existing? ← Tx.read fun db => db.payments.orders.first? fun o =>
    o.userId = userId ∧ o.requestId = requestId
  match existing? with
  | some order => retriedOrderTx env order quoteId
  | none => createFromQuoteTx env userId quoteId requestId expectedConfigurationVersion tradeNos

def existingOrderAfterErrorTx (e : Err) : DbTx PaymentOrder := do
  let existing? ← Tx.read fun db => db.payments.orders.first? fun o =>
    o.userId = userId ∧ o.requestId = requestId
  let existing ← Tx.require existing? e
  if existing.quoteId = quoteId then pure existing
  else do
    let quote? ← Tx.read (findQuote quoteId userId)
    match quote?.filter fun quote => paymentOrderMatchesQuote existing quote with
    | some quote => do
        Tx.when (quote.consumedAt = 0) (consumeQuote quote.quoteId env.now)
        pure existing
    | none => do
        Tx.failIf (existing.quoteId ≠ "" ∨ e.is .paymentIdempotencyConflict)
          .paymentIdempotencyConflict
        pure existing

def createPaymentOrderFromQuote (expectedConfigurationVersion : Int) (tradeNos : List String)
    (db : Database) : Database × Except Err PaymentOrder :=
  match (createPaymentOrderFromQuoteTx env userId quoteId requestId expectedConfigurationVersion
      tradeNos).commit db with
  | (db', .ok order) => (db', .ok order)
  | (db', .error e) =>
    -- A malformed request is refused before any lookup.
    if userId ≤ 0 ∨ trimSpace quoteId = "" ∨ trimSpace requestId = "" then (db', .error e)
    else (existingOrderAfterErrorTx env userId quoteId requestId e).commit db'

/-! ### Start -/

def paymentOrderStartLeaseSeconds : Int := 60

def claimPaymentOrderStart : DbTx Bool := do
  let order? ← Tx.read (findOrderByTradeNo tradeNo)
  match order? with
  | none => pure false
  | some order =>
    if order.startPayload = "" ∧ (order.status = .pending ∨ (order.status = .processing ∧
        order.startedAt ≤ env.now - paymentOrderStartLeaseSeconds)) then do
      updateOrder order.id (fun o => { o with
        status := .processing, startedAt := env.now, updatedAt := env.now
        version := o.version + 1 }) fun _ => rfl
      pure true
    else pure false

/-- Save what the provider answered to a start. The payload is stored encrypted. -/
def savePaymentOrderStartWithProviderIdentity (flow payload encryptedPayload : String)
    (expiresAt : Int) (providerOrderKey providerPaymentKey : String) (creationFenceToken : Int) :
    DbTx Unit := do
  Tx.failIf (trimSpace flow = "" ∨ trimSpace payload = "" ∨ payload.utf8ByteSize > 32 * 1024)
    (.new "invalid payment start snapshot")
  let providerOrderKey := trimSpace providerOrderKey
  let providerPaymentKey := trimSpace providerPaymentKey
  Tx.failIf (providerOrderKey.utf8ByteSize > paymentProviderAuthorityKeyMaxLength ∨
    providerPaymentKey.utf8ByteSize > paymentProviderAuthorityKeyMaxLength ∨
    (expiresAt > 0 ∧ expiresAt ≤ env.now))
    (.new "invalid payment provider start identity")
  let order? ← Tx.read (findOrderByTradeNo tradeNo)
  let order ← Tx.require order? .paymentOrderNotFound
  if fulfillmentFinal order.status ∨ order.status = .refundPending then pure ()
  else do
    Tx.failIf (¬ startable order.status) .paymentOrderNotFound
    Tx.failIf (creationFenceToken > 0 ∧ order.creationFenceToken ≠ creationFenceToken)
      .paymentTaskLeaseLost
    let expiresAt :=
      if order.expiresAt > 0 ∧ expiresAt > order.expiresAt then order.expiresAt else expiresAt
    let order ← bindAndValidateProviderIdentityTx env order providerOrderKey providerPaymentKey
    updateOrder order.id (fun o => { o with
      status := .pending, startFlow := flow, startPayload := encryptedPayload
      updatedAt := env.now
      expiresAt := if expiresAt > 0 then expiresAt else o.expiresAt }) fun _ => rfl
    Tx.when (expiresAt > 0 ∧ order.orderKind = .subscription)
      (updateSubscriptionOrders (fun o => subscriptionOrderOf order o ∧ o.status = .pending)
        (fun o => { o with reserveUntil := expiresAt }) fun _ => rfl)
    Tx.when (expiresAt > 0) (updatePaymentLimitReservationExpiryTx order.id expiresAt env.now)

/-! ### Failure, expiry and review before payment -/

def markPaymentOrderFailed (reason : String) (creationFenceToken : Int) : DbTx Unit := do
  let order? ← Tx.read (findOrderByTradeNo tradeNo)
  let order ← Tx.require order? .paymentOrderNotFound
  Tx.failIf (¬ startable order.status) .paymentOrderNotFound
  Tx.failIf (creationFenceToken > 0 ∧ order.creationFenceToken ≠ creationFenceToken)
    .paymentTaskLeaseLost
  let order := { order with
    status := .failed, statusReason := reason, updatedAt := env.now, version := order.version + 1 }
  updateOrder order.id (fun o => { o with
    status := order.status, statusReason := order.statusReason, startPayload := ""
    updatedAt := order.updatedAt, version := order.version }) fun _ => rfl
  releasePaymentLimitReservationTx order order.updatedAt
  syncPaymentProjectionStatusTx order

def expirePaymentOrderTx (now : Int) : DbTx Bool := do
  Tx.failIf (now ≤ 0) (.new "invalid payment expiry request")
  if order.expiresAt ≤ 0 ∨ order.expiresAt > now ∨ ¬ startable order.status then pure false
  else do
    let expired := fun (o : PaymentOrder) => { o with
      status := .expired, statusReason := "payment session expired"
      startFlow := "", startPayload := "", updatedAt := now, version := o.version + 1 }
    updateOrder order.id expired fun _ => rfl
    let order := expired order
    releasePaymentLimitReservationTx order now
    match order.orderKind with
    | .topUp | .subscription => closePendingProjectionTx order .expired now
    | .other _ => pure ()
    pure true

def expirePaymentOrderIfDue : DbTx Unit := do
  assertLeaseIfAny env lease
  let order? ← Tx.read fun db => db.payments.orders.first? fun o =>
    o.userId = userId ∧ o.tradeNo = tradeNo
  let order ← Tx.require order? .paymentOrderNotFound
  (expirePaymentOrderTx order env.now).void

def expireDuePaymentOrder (orderId now : Int) : DbTx Unit := do
  let order? ← Tx.read fun db => db.payments.orders.get? orderId
  match order? with
  | none => pure ()
  | some order => (expirePaymentOrderTx order now).void

def leaseFenceTx (creationFenceToken : Int) : DbTx Int :=
  match lease with
  | none => pure creationFenceToken
  | some lease => do
      Tx.failIf (lease.task.paymentOrderId ≠ order.id) .paymentTaskLeaseLost
      if lease.task.operation = .create then do
        Tx.failIf (lease.task.fenceToken ≤ 0 ∨
          order.creationFenceToken ≠ lease.task.fenceToken) .paymentTaskLeaseLost
        pure lease.task.fenceToken
      else pure creationFenceToken

def markPaymentOrderManualReview (reason : String) (creationFenceToken : Int)
    (lease : Option TaskLease) : DbTx Unit := do
  let tradeNo := trimSpace tradeNo
  let reason := trimSpace reason
  Tx.failIf (tradeNo = "" ∨ reason = "" ∨ reason.utf8ByteSize > 512) .paymentOrderNotFound
  assertLeaseIfAny env lease
  let order? ← Tx.read (findOrderByTradeNo tradeNo)
  let order ← Tx.require order? .paymentOrderNotFound
  if ¬ startable order.status then pure ()
  else do
    let fence ← leaseFenceTx order lease creationFenceToken
    Tx.failIf (fence > 0 ∧ order.creationFenceToken ≠ fence) .paymentTaskLeaseLost
    updateOrder order.id (underReview env reason) fun _ => rfl
    syncPaymentProjectionStatusTx { order with status := .manualReview, statusReason := reason }

end XyApi.Payment

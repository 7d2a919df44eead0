import XyApi.Payment.Fulfill

/-!
Refunds and disputes. From the event and the stored history a target is computed:
how much of the payment is refunded or disputed now. The order's reversal is then
moved to that target, up or down, so that repeated, partial and reordered events
end at the same place.
-/

namespace XyApi.Payment

open Lib Billing Subscription

variable (env : PaymentEnv) (event : PaymentEvent) (order : PaymentOrder)
  (input : PaymentEventInput) (targetAmount : Int)

/-! ### Order of provider states -/

inductive ProviderStateOrder
  | current
  | stale
  | conflict
  deriving DecidableEq, Repr

def laterProviderEvent (a b : PaymentEvent) : Bool :=
  b.providerCreatedAt < a.providerCreatedAt ∨
    (a.providerCreatedAt = b.providerCreatedAt ∧ b.id ≤ a.id)

def evaluateProviderStateOrderTx : DbTx ProviderStateOrder :=
  if (¬ input.disputed ∧ ¬ input.disputeResolved) ∨ trimSpace input.providerResourceKey = "" ∨
      input.providerCreatedAt ≤ 0 then pure .current
  else do
    let applied : List PaymentEvent ← Tx.read fun db =>
      (db.payments.events.rows.filter fun e =>
        e.provider = input.provider ∧ e.providerResourceKey = input.providerResourceKey ∧
          e.paymentOrderId = order.id ∧ e.id ≠ event.id ∧ e.status = .processed).insertionSort
        fun a b => laterProviderEvent a b
    match applied with
    | [] => pure .current
    | latest :: _ =>
      if latest.providerCreatedAt > input.providerCreatedAt then pure .stale
      else if latest.providerCreatedAt < input.providerCreatedAt then pure .current
      else if latest.providerState = input.providerState then pure .stale
      else if latest.disputeResolved ∧ ¬ input.disputeResolved then pure .stale
      else if ¬ latest.disputeResolved ∧ input.disputeResolved then pure .current
      else if latest.disputeResolved ∧ input.disputeResolved then pure .conflict
      else pure .stale

/-! ### The disputed amount -/

def latestDisputes : List PaymentEvent → List (String × PaymentEventInput)
  | [] => []
  | e :: rest =>
    let key := trimSpace e.providerResourceKey
    let others := (latestDisputes rest).filter fun entry => entry.1 ≠ key
    if key = "" then latestDisputes rest else (key, e.toPaymentEventInput) :: others

def disputeHistoryOrder (a b : PaymentEvent) : Bool :=
  a.providerResourceKey < b.providerResourceKey ∨
    (a.providerResourceKey = b.providerResourceKey ∧ laterProviderEvent a b)

def disputeHistory (provider : PaymentProvider) (db : Database) : List PaymentEvent :=
  (db.payments.events.rows.filter fun e =>
    e.provider = provider ∧ e.paymentOrderId = order.id ∧ e.id ≠ event.id ∧
      e.status = .processed ∧ e.providerResourceKey ≠ "" ∧
      (e.disputed ∨ e.disputeResolved)).insertionSort fun a b => disputeHistoryOrder a b

def disputedTotal (expectedAmountMinor : Int) : Int → List PaymentEventInput → DbTx Int
  | total, [] => pure total
  | total, state :: rest =>
    if state.disputeResolved ∧ state.disputeWon then
      disputedTotal expectedAmountMinor total rest
    else if ¬ state.disputed then
      if state.disputeResolved then Tx.fail .paymentManualReview
      else disputedTotal expectedAmountMinor total rest
    else if state.disputedAmountMinor ≤ 0 ∨
        state.disputedAmountMinor > expectedAmountMinor - total then
      Tx.fail .paymentAmountMismatch
    else disputedTotal expectedAmountMinor (total + state.disputedAmountMinor) rest

def paymentDisputedAmountTx : DbTx Int := do
  let resourceKey := trimSpace input.providerResourceKey
  if resourceKey = "" then
    if input.disputed then do
      Tx.failIf (input.disputedAmountMinor ≤ 0 ∨
        input.disputedAmountMinor > order.expectedAmountMinor) .paymentAmountMismatch
      pure input.disputedAmountMinor
    else if input.disputeResolved ∧ input.disputeWon then pure 0
    else pure order.disputedAmountMinor
  else do
    let history ← Tx.read (disputeHistory event order input.provider)
    let others := (latestDisputes history).filter fun entry => entry.1 ≠ resourceKey
    disputedTotal order.expectedAmountMinor 0 (input :: others.map Prod.snd)

/-! ### The reversal target -/

def legacyExternalRefundWithoutEntitlementResolvedTx : DbTx Bool := do
  let fromResolution := (env.decodePricing order.pricingSnapshot).any fun s =>
    (s.source = "admin_legacy_topup_resolution" ∨
      s.source = "admin_legacy_subscription_resolution") ∧ s.resolution = "external_refund"
  if order.expectedAmountMinor ≤ 0 ∨ order.status ≠ .refunded ∨ order.paidAmountMinor ≠ 0 ∨
      order.refundedAmountMinor ≠ order.expectedAmountMinor ∨ order.settledAt ≠ 0 ∨
      ¬ fromResolution then pure false
  else do
    let entriesOf := fun (type : LedgerEntryType) => Tx.read fun (db : Database) =>
      db.payments.ledger.rows.filter fun e =>
        e.paymentOrderId = order.id ∧ e.entryType = type
    let receipts : List PaymentLedgerEntry ← entriesOf .legacyPaymentReceived
    let refunds : List PaymentLedgerEntry ← entriesOf .adminExternalRefund
    match receipts, refunds with
    | [receipt], [refund] =>
      if receipt.amountMinor ≠ order.expectedAmountMinor ∨
          refund.amountMinor ≠ order.expectedAmountMinor ∨
          receipt.quotaDelta ≠ 0 ∨ refund.quotaDelta ≠ 0 then pure false
      else do
        let receiptEvent? ← Tx.read fun db => db.payments.events.get? receipt.paymentEventId
        let receiptEvent ← Tx.require receiptEvent? .recordNotFound
        let refundEvent? ← Tx.read fun db => db.payments.events.get? refund.paymentEventId
        let refundEvent ← Tx.require refundEvent? .recordNotFound
        pure (decide (receiptEvent.provider = order.provider ∧ receiptEvent.paid ∧
          receiptEvent.paidAmountMinor = order.expectedAmountMinor ∧
          receiptEvent.paymentOrderId = order.id ∧ refundEvent.provider = .admin ∧
          refundEvent.refunded ∧ refundEvent.refundedAmountMinor = order.expectedAmountMinor ∧
          refundEvent.status = .processed ∧ refundEvent.paymentOrderId = order.id))
    | _, _ => pure false

/-- The order with the refunded and disputed amounts the event leaves, and how
much of the payment is to be reversed. -/
structure ReversalTarget where
  order : PaymentOrder
  amount : Int
  deriving DecidableEq, Repr

def reversalTargetAmount : Int :=
  if order.disputedAmountMinor > order.expectedAmountMinor - order.refundedAmountMinor then
    order.expectedAmountMinor
  else order.refundedAmountMinor + order.disputedAmountMinor

def grantedReversalTargetTx : DbTx (Option ReversalTarget) :=
  if input.refunded ∧ input.refundedAmountMinor < order.refundedAmountMinor then pure none
  else do
    Tx.failIf (input.refunded ∧ input.refundedAmountMinor > order.expectedAmountMinor)
      .paymentAmountMismatch
    let order := { order with
      refundedAmountMinor :=
        if input.refunded then input.refundedAmountMinor else order.refundedAmountMinor }
    let disputed ←
      if input.disputed ∨ input.disputeResolved then paymentDisputedAmountTx event order input
      else pure order.disputedAmountMinor
    let order := { order with disputedAmountMinor := disputed }
    let targetAmount := reversalTargetAmount order
    Tx.failIf (targetAmount < 0 ∨ targetAmount > order.expectedAmountMinor) .paymentAmountMismatch
    pure (some { order := order, amount := targetAmount })

def reversalTargetTx : DbTx (Option ReversalTarget) := do
  Tx.failIf (order.status = .pending ∨ order.status = .processing ∨ order.status = .failed ∨
    order.status = .expired) .paymentManualReview
  Tx.failIf (input.currency ≠ "" ∧
    ¬ equalFold (trimSpace input.currency) (trimSpace order.currency)) .paymentCurrencyMismatch
  let granted ← (paymentEntitlementGrantedTx order).mapErr fun e =>
    .wrap .paymentManualReview ("payment entitlement grant cannot be verified: " ++ e.text)
  if granted then grantedReversalTargetTx event order input
  else do
    let resolved ← legacyExternalRefundWithoutEntitlementResolvedTx env order
    Tx.failIf (¬ (resolved ∧ input.refunded ∧
      input.refundedAmountMinor = order.expectedAmountMinor))
      (.wrap .paymentManualReview "payment entitlement was never granted")
    pure none

/-! ### Applying the target -/

def saveReversal : DbTx Unit :=
  updateOrder order.id (fun o => { o with
    status := order.status
    refundedAmountMinor := order.refundedAmountMinor
    disputedAmountMinor := order.disputedAmountMinor
    reversedAmountMinor := order.reversedAmountMinor
    reversedQuota := order.reversedQuota
    updatedAt := order.updatedAt
    version := order.version }) fun _ => rfl

def reversalTargetQuotaTx : DbTx Int := do
  Tx.failIf (order.expectedAmountMinor = 0) (.new "decimal division by 0")
  let (targetQuota, clamped) := saturateQuota
    (decimalDivRound (order.creditQuota * targetAmount) order.expectedAmountMinor)
  Tx.failIf (clamped ∨ targetQuota < 0 ∨ targetQuota > order.creditQuota)
    (.new "payment reversal quota is outside the supported range")
  pure targetQuota

def moveBuyerReversalTx (delta : Int) : DbTx Int :=
  let amountMinor := targetAmount - order.reversedAmountMinor
  if delta > 0 then do
    let (recovered, _) ← reverseUserPaymentQuotaTx env order order.userId delta .buyer
    let ledgerType : LedgerEntryType :=
      if order.disputedAmountMinor > 0 then .disputeReversal else .refundReversal
    createPaymentLedgerEntryTx env event order ledgerType amountMinor (-delta)
      "payment quota reversed"
    pure (-recovered)
  else if delta < 0 then do
    let restored ← restoreUserPaymentQuotaTx env order order.userId (-delta) .buyer
    createPaymentLedgerEntryTx env event order .reversalRestored amountMinor (-delta)
      "payment reversal restored"
    pure restored
  else pure 0

def reversedStatus (hasOpenDebt : Bool) : PaymentOrderStatus :=
  if targetAmount ≤ 0 then .fulfilled
  else if hasOpenDebt then .debt
  else if order.disputedAmountMinor > 0 then .disputed
  else if order.refundedAmountMinor ≥ order.expectedAmountMinor then .refunded
  else .refundPending

def reconcileTopUpReversalTx (result : PaymentSettlementResult) :
    DbTx (PaymentOrder × PaymentSettlementResult) := do
  let targetQuota ← reversalTargetQuotaTx order targetAmount
  let walletDelta ← moveBuyerReversalTx env event order targetAmount
    (targetQuota - order.reversedQuota)
  reconcileAffiliateRewardReversalTx env event order targetAmount
  let hasOpenDebt ← hasAnyOpenPaymentDebtTx order.id
  let order := { order with
    reversedQuota := targetQuota
    reversedAmountMinor := targetAmount
    status := reversedStatus order targetAmount hasOpenDebt
    updatedAt := env.now
    version := order.version + 1 }
  saveReversal order
  syncPaymentProjectionStatusTx order
  pure (order, { result with quotaDelta := result.quotaDelta + walletDelta })

/-! ### Subscriptions -/

/-- The strongest group that a user's other active subscriptions still grant, and
whether one of them grants the group the user is in. -/
def remainingUpgrade (env : PaymentEnv) (currentGroup : String) :
    Option (String × ℚ) → Bool → List UserSubscription → Option (String × ℚ) × Bool
  | best, managed, [] => (best, managed)
  | best, managed, active :: rest =>
    let candidate := trimSpace active.upgradeGroup
    if candidate = "" then remainingUpgrade env currentGroup best managed rest
    else
      let ratio := env.groupRatio candidate
      let better := best.all fun b => ratio > b.2
      remainingUpgrade env currentGroup (if better then some (candidate, ratio) else best)
        (managed || decide (currentGroup = candidate)) rest

def moveUserGroupTx (userId : Int) (group : String) : DbTx Unit := do
  let user? ← Tx.read fun db => db.users.get? userId
  match user? with
  | some user => Tx.write (Database.putUser { user with group := group })
  | none => pure ()

def downgradeUserGroupForSubscriptionTx (sub : UserSubscription) (now : Int) : DbTx Unit := do
  let downgradeGroup := trimSpace sub.downgradeGroup
  let upgradeGroup := trimSpace sub.upgradeGroup
  if downgradeGroup = "" ∧ upgradeGroup = "" then pure ()
  else do
    Tx.failIf (sub.userId ≤ 0) (.new "invalid userId")
    let currentGroup ← Tx.read fun db => ((db.users.get? sub.userId).map User.group).getD ""
    let activeSubs : List UserSubscription ← Tx.read fun db =>
      (db.subscriptions.rows.filter fun s =>
        s.userId = sub.userId ∧ s.status = .active ∧ s.endTime > now ∧ s.id ≠ sub.id ∧
          s.upgradeGroup ≠ "").insertionSort
        fun a b => b.startTime < a.startTime ∨ (a.startTime = b.startTime ∧ b.id ≤ a.id)
    let (best, managed) := remainingUpgrade env currentGroup none
      (decide (currentGroup = upgradeGroup)) activeSubs
    if ¬ managed then pure ()
    else
      match best with
      | some (group, _) => Tx.when (group ≠ currentGroup) (moveUserGroupTx sub.userId group)
      | none =>
        let target :=
          if downgradeGroup ≠ "" then downgradeGroup
          else if currentGroup ≠ upgradeGroup then ""
          else trimSpace sub.prevUserGroup
        Tx.when (target ≠ "" ∧ target ≠ currentGroup) (moveUserGroupTx sub.userId target)

def cancelSubscriptionTx (subscription : UserSubscription) (targetAmount : Int) :
    DbTx PaymentOrder := do
  (restorePaymentDebtAmountTx env order .buyer order.expectedAmountMinor).void
  let usageTotal := max subscription.amountUsedTotal subscription.amountUsed
  Tx.failIf (subscription.usageAccountingVersion = 0 ∧
    subscription.lastResetTime > subscription.startTime) .paymentManualReview
  Tx.failIf (usageTotal < order.reversedQuota) .paymentManualReview
  Tx.when (subscription.status = .active) do
    let ended := { subscription with status := .cancelled, endTime := env.now }
    Tx.write (Database.putSubscription ended)
    downgradeUserGroupForSubscriptionTx env ended env.now
  let usageDelta := usageTotal - order.reversedQuota
  Tx.failIf (usageDelta > maxInt32) (.new "subscription reversal debt exceeds supported range")
  Tx.when (usageDelta > 0) (addPaymentDebtTx env order order.userId .buyer usageDelta 0 true)
  let hasOpenDebt ← hasAnyOpenPaymentDebtTx order.id
  createPaymentLedgerEntryTx env event order .subscriptionCanceled targetAmount (-usageDelta)
    "subscription entitlement cancelled"
  pure { order with
    status := if hasOpenDebt then .debt else .refunded
    reversedAmountMinor := targetAmount
    reversedQuota := usageTotal }

def restoreSubscriptionOrderTx : DbTx PaymentOrder := do
  Tx.failIf (order.reversedQuota ≠ 0) .paymentManualReview
  (restorePaymentDebtAmountTx env order .buyer order.expectedAmountMinor).void
  pure { order with status := .fulfilled, disputedAmountMinor := 0, reversedAmountMinor := 0 }

def holdSubscriptionOrderTx : DbTx PaymentOrder := do
  addPaymentDebtTx env order order.userId .buyer 0 targetAmount true
  pure { order with status := .disputed, reversedAmountMinor := targetAmount }

def reconcileSubscriptionReversalTx : DbTx PaymentOrder := do
  Tx.failIf (targetAmount > 0 ∧ targetAmount < order.expectedAmountMinor) .paymentAmountMismatch
  let subscription? ← Tx.read fun db => db.subscriptions.first? fun s =>
    s.paymentOrderId = some order.id
  let subscription ← Tx.require subscription? .recordNotFound
  let order ←
    if targetAmount = 0 then restoreSubscriptionOrderTx env order
    else if input.disputed ∧ ¬ input.disputeResolved then
      holdSubscriptionOrderTx env order targetAmount
    else cancelSubscriptionTx env event order subscription targetAmount
  let order := { order with updatedAt := env.now, version := order.version + 1 }
  saveReversal order
  syncPaymentProjectionStatusTx order
  pure order

def reconcilePaymentReversalTx (result : PaymentSettlementResult) :
    DbTx (PaymentOrder × PaymentSettlementResult) := do
  let target? ← reversalTargetTx env event order input
  match target? with
  | none => pure (order, result)
  | some target =>
    if order.orderKind = .subscription then do
      let order ← reconcileSubscriptionReversalTx env event target.order input target.amount
      pure (order, result)
    else reconcileTopUpReversalTx env event target.order target.amount result

end XyApi.Payment

import XyApi.Payment.Debt
import XyApi.Payment.Limit

/-!
The rows that follow an order: the ledger entries it has, the older top-up and
subscription rows kept beside it, and the routes into manual review. Whether an
order's entitlement was granted is read from several of these rows, which have
to agree.
-/

namespace XyApi.Payment

open Lib

variable (env : PaymentEnv) (event : PaymentEvent) (order : PaymentOrder) (reason : String)
  (reviewErr : Err) (result : PaymentSettlementResult) (entryType : LedgerEntryType)

structure PaymentSettlementResult where
  order : Option PaymentOrder := none
  duplicate : Bool := false
  manualReview : Bool := false
  userId : Int := 0
  quotaDelta : Int := 0
  affiliateUserId : Int := 0
  affiliateReward : Int := 0
  deriving DecidableEq, Repr

/-- What a settlement reports: its result, and the error to return after the commit. -/
abbrev Settlement : Type := PaymentSettlementResult × Option Err

def ledgerEntry (amountMinor quotaDelta : Int) (description : String) : PaymentLedgerEntry :=
  { paymentOrderId := order.id
    paymentEventId := event.id
    userId := order.userId
    entryType := entryType
    amountMinor := amountMinor
    quotaDelta := quotaDelta
    currency := order.currency
    description := description
    createdAt := env.now }

def appendLedgerEntry (entry : PaymentLedgerEntry) : DbTx Unit :=
  writePayments fun p => { p with ledger := p.ledger.insertOrKeep entry }

def createPaymentLedgerEntryTx (amountMinor quotaDelta : Int) (description : String) : DbTx Unit :=
  appendLedgerEntry (ledgerEntry env event order entryType amountMinor quotaDelta description)

/-! ### Compatibility rows -/

def topUpOf (t : TopUp) : Bool :=
  t.paymentOrderId = some order.id ∨ t.tradeNo = order.tradeNo

def subscriptionOrderOf (o : SubscriptionOrder) : Bool :=
  o.paymentOrderId = some order.id ∨ o.tradeNo = order.tradeNo

def findTopUp (db : Database) : Option TopUp :=
  db.payments.topUps.first? (topUpOf order)

def findSubscriptionOrder (db : Database) : Option SubscriptionOrder :=
  db.subscriptionOrders.first? (subscriptionOrderOf order)

def updateTopUps (p : TopUp → Bool) (f : TopUp → TopUp) (hf : ∀ t, (f t).id = t.id) : DbTx Unit :=
  writePayments fun tables => { tables with topUps := tables.topUps.updateWhere p f hf }

def updateSubscriptionOrders (p : SubscriptionOrder → Bool)
    (f : SubscriptionOrder → SubscriptionOrder) (hf : ∀ o, (f o).id = o.id) : DbTx Unit :=
  Tx.write fun db => { db with subscriptionOrders := db.subscriptionOrders.updateWhere p f hf }

def paymentOrderProjectionStatus : PaymentOrderStatus → ProjectionStatus
  | .pending => .pending
  | .processing => .processing
  | .paid => .success
  | .fulfilled => .success
  | .failed => .failed
  | .expired => .expired
  | .manualReview => .manualReview
  | .refundPending => .refundPending
  | .refunded => .refunded
  | .disputed => .disputed
  | .debt => .debt

def syncPaymentProjectionStatusTx : DbTx Unit :=
  let status := paymentOrderProjectionStatus order.status
  match order.orderKind with
  | .topUp => updateTopUps (topUpOf order) (fun t => { t with status := status }) fun _ => rfl
  | .subscription =>
    updateSubscriptionOrders (subscriptionOrderOf order) (fun o => { o with
      status := status
      reviewReason := if order.status = .manualReview then order.statusReason else "" })
      fun _ => rfl
  | .other _ => pure ()

def completePaymentProjectionTx (completedAt : Int) : DbTx Unit :=
  match order.orderKind with
  | .topUp =>
    updateTopUps (topUpOf order) (fun t => { t with completeTime := completedAt }) fun _ => rfl
  | .subscription =>
    updateSubscriptionOrders (subscriptionOrderOf order)
      (fun o => { o with completeTime := completedAt }) fun _ => rfl
  | .other _ => pure ()

def closePendingProjectionTx (status : ProjectionStatus) (now : Int) : DbTx Unit :=
  if order.orderKind = .topUp then
    updateTopUps (fun t => topUpOf order t ∧ t.status = .pending)
      (fun t => { t with status := status, completeTime := now }) fun _ => rfl
  else
    updateSubscriptionOrders (fun o => subscriptionOrderOf order o ∧ o.status = .pending)
      (fun o => { o with status := status, completeTime := now }) fun _ => rfl

/-! ### Entitlement -/

def canonicalGranted : Bool :=
  order.settledAt > 0 ∨ order.paidAmountMinor > 0 ∨ order.status = .fulfilled ∨
    order.status = .paid ∨ order.status = .debt ∨ order.status = .disputed

def entitlementLedgerType : LedgerEntryType :=
  if order.orderKind = .subscription then .subscriptionGranted else .credit

def ledgerCount (orderId : Int) (entryType : LedgerEntryType) (db : Database) : Nat :=
  db.payments.ledger.count fun e => e.paymentOrderId = orderId ∧ e.entryType = entryType

def grantedTopUpStatus : ProjectionStatus → Bool
  | .success | .refundPending | .refunded | .disputed | .debt => true
  | _ => false

def topUpEntitlementGrantedTx (ledgerGranted : Bool) : DbTx Bool := do
  let topUp? ← Tx.read (findTopUp order)
  let topUp ← Tx.require topUp?
    (.wrap .paymentAuditConflict "top-up projection is missing")
  Tx.failIf (ledgerGranted ≠ canonicalGranted order)
    (.wrap .paymentAuditConflict "top-up entitlement sources disagree")
  Tx.failIf (ledgerGranted ∧ ¬ grantedTopUpStatus topUp.status)
    (.wrap .paymentAuditConflict "top-up projection does not reflect a granted entitlement")
  Tx.failIf (¬ ledgerGranted ∧ topUp.status = .success)
    (.wrap .paymentAuditConflict "top-up projection has an unledgered entitlement")
  pure ledgerGranted

def subscriptionEntitlementGrantedTx (ledgerGranted : Bool) : DbTx Bool := do
  let projection? ← Tx.read (findSubscriptionOrder order)
  let projection ← Tx.require projection?
    (.wrap .paymentAuditConflict "subscription projection is missing")
  let subscriptionCount ← Tx.read fun db =>
    db.subscriptions.count fun s => s.paymentOrderId = some order.id
  Tx.failIf (subscriptionCount > 1)
    (.wrap .paymentAuditConflict "duplicate subscription entitlements")
  Tx.failIf (ledgerGranted ≠ canonicalGranted order)
    (.wrap .paymentAuditConflict "subscription entitlement sources disagree")
  Tx.failIf (ledgerGranted ∧ subscriptionCount ≠ 1)
    (.wrap .paymentAuditConflict "subscription entitlement projection is missing")
  Tx.failIf (¬ ledgerGranted ∧ (subscriptionCount ≠ 0 ∨ projection.status = .success))
    (.wrap .paymentAuditConflict "subscription projection has an unledgered entitlement")
  pure ledgerGranted

def paymentEntitlementGrantedTx : DbTx Bool := do
  let count ← Tx.read (ledgerCount order.id (entitlementLedgerType order))
  Tx.failIf (count > 1) (.wrap .paymentAuditConflict "duplicate entitlement ledger entries")
  let ledgerGranted : Bool := count = 1
  match order.orderKind with
  | .topUp => topUpEntitlementGrantedTx order ledgerGranted
  | .subscription => subscriptionEntitlementGrantedTx order ledgerGranted
  | .other _ => Tx.fail .paymentAuditInvalid

def paymentOrderHasTerminalAdminDecisionTx (orderId : Int) : DbTx Bool := do
  Tx.failIf (orderId ≤ 0) (.new "invalid payment administrator decision lookup")
  Tx.read fun db => db.payments.events.rows.any fun e =>
    e.paymentOrderId = orderId ∧ e.provider = .admin ∧ e.status = .processed ∧
      (e.eventType = "payment.admin_reject" ∨ e.eventType = "payment.admin_void")

/-! ### Manual review -/

def underReview (o : PaymentOrder) : PaymentOrder :=
  { o with
    status := .manualReview, statusReason := reason, startPayload := ""
    updatedAt := env.now, version := o.version + 1 }

def reviewSettlement : Settlement :=
  ({ result with
      order := some { order with status := .manualReview, statusReason := reason }
      manualReview := true },
    some (.wrap .paymentManualReview reviewErr.text))

def reviewProjectionTx : DbTx Unit :=
  match order.orderKind with
  | .topUp =>
    updateTopUps (topUpOf order) (fun t => { t with status := .manualReview }) fun _ => rfl
  | .subscription =>
    updateSubscriptionOrders (subscriptionOrderOf order)
      (fun o => { o with status := .manualReview, reviewReason := reason }) fun _ => rfl
  | .other _ => pure ()

def markPaymentManualReviewTx : DbTx Settlement := do
  updateOrder order.id (underReview env reason) fun _ => rfl
  finishPaymentEventTx env event.id .manualReview reason order.id
  reviewProjectionTx order reason
  pure (reviewSettlement order reason reviewErr result)

def markPaymentManualReviewPreservingProjectionTx : DbTx Settlement := do
  updateOrder order.id (underReview env reason) fun _ => rfl
  finishPaymentEventTx env event.id .manualReview reason order.id
  pure (reviewSettlement (underReview env reason order) reason reviewErr result)

def settledOnce : Bool :=
  order.settledAt > 0 ∨ order.paidAmountMinor > 0 ∨ order.status = .fulfilled ∨
    order.status = .paid ∨ order.status = .refundPending ∨ order.status = .refunded ∨
    order.status = .disputed ∨ order.status = .debt

def markPaymentManualReviewForOrderTx : DbTx Settlement :=
  if settledOnce order then
    markPaymentManualReviewPreservingProjectionTx env event order reason reviewErr result
  else markPaymentManualReviewTx env event order reason reviewErr result

end XyApi.Payment

import XyApi.Payment.Lifecycle

/-!
What administrators can do to orders, unmatched events and debts. Each action
records an event of its own under a key that identifies the action, so that a
repeated request is recognised, and an audit row in the same transaction.
-/

namespace XyApi.Payment

open Lib Billing

variable (env : PaymentEnv) (order : PaymentOrder) (input : PaymentAdminOrderActionInput)
  (payload eventKey : String)

/-! ### Shared pieces -/

def processedAdminActionRetryTx (payloadDigest : String) : DbTx Bool := do
  let event? ← Tx.read (findEvent .admin eventKey)
  match event? with
  | none => pure false
  | some event => do
      Tx.failIf (event.payloadDigest ≠ payloadDigest)
        (.wrap .paymentAuditConflict "administrator action payload changed")
      Tx.failIf (event.status ≠ .processed)
        (.wrap .paymentAuditConflict "administrator action is not in a terminal state")
      pure true

def createAdminPaymentEventTx (eventType payload : String) (order : PaymentOrder) :
    DbTx PaymentEvent := do
  let (event, created) ← upsertPaymentEvent env {
    id := 0
    provider := .admin
    eventKey := eventKey
    eventType := eventType
    tradeNo := order.tradeNo
    paymentOrderId := order.id
    currency := order.currency
    paymentMethod := order.paymentMethod
    payloadDigest := env.digest payload
    normalizedPayload := payload }
  Tx.failIf (¬ created) (.wrap .paymentAuditConflict "administrator event already exists")
  pure event

def createPaymentOperationsAuditTx (audit : PaymentOperationsAudit)
    (metadata : List (String × JsonValue)) : DbTx Unit := do
  let actorIP := trimSpace audit.actorIP
  let reason := trimSpace audit.reason
  Tx.failIf (trimSpace audit.action = "" ∨ audit.adminId ≤ 0 ∨ actorIP = "" ∨
    actorIP.utf8ByteSize > 64 ∨ reason.utf8ByteSize < 8 ∨ reason.utf8ByteSize > 512)
    .paymentAuditInvalid
  let id ← Tx.read fun db =>
    Database.nextId (db.payments.operationsAudits.rows.map PaymentOperationsAudit.id)
  let audits? ← Tx.read fun db => db.payments.operationsAudits.insert? { audit with
    id := id
    action := trimSpace audit.action
    actorIP := actorIP
    reason := reason
    metadata := env.marshal metadata
    createdAt := env.now }
  let audits ← Tx.require audits? .duplicatedKey
  writePayments fun p => { p with operationsAudits := audits }

def paymentAuditSettlementConflict (operation : String) (e : Err) : Err :=
  if e.is .subscriptionPurchaseLimit || e.is .subscriptionOrderSnapshotMissing ||
      e.is .paymentManualReview || e.is .topUpStatusInvalid || e.is .paymentProviderMismatch ||
      e.is .paymentMethodMismatch || e.is .paymentAmountMismatch ||
      e.is .paymentCurrencyMismatch || e.is .quotaOverflow || e.is .billingAccountNotFound ||
      e.is .recordNotFound then
    .wrap .paymentAuditConflict (operation ++ ": " ++ e.text)
  else e

/-! ### Orders -/

inductive AdminOrderAction
  | fulfill
  | reject
  | void
  | externalRefundConfirmed
  deriving DecidableEq, Repr

def AdminOrderAction.text : AdminOrderAction → String
  | fulfill => "fulfill"
  | reject => "reject"
  | void => "void"
  | externalRefundConfirmed => "external_refund_confirmed"

def AdminOrderAction.operation : AdminOrderAction → String
  | fulfill => "payment.admin_fulfill"
  | reject => "payment.admin_reject"
  | void => "payment.admin_void"
  | externalRefundConfirmed => "payment.admin_external_refund_confirmed"

structure PaymentAdminOrderActionInput where
  tradeNo : String
  expectedVersion : Int
  adminId : Int
  actorIP : String
  action : AdminOrderAction
  reason : String
  refundedAmountMinor : Int := 0
  providerRefundReference : String := ""
  deriving DecidableEq, Repr

def isControl (c : Char) : Bool :=
  let n := c.val.toNat
  n < 0x20 || (0x7f ≤ n && n < 0xa0)

def validPaymentProviderReference (reference : String) : Bool :=
  reference ≠ "" ∧ reference.utf8ByteSize ≤ 255 ∧ reference.toList.all fun c => ¬ isControl c

def normalizeAdminOrderAction : PaymentAdminOrderActionInput :=
  { input with
    tradeNo := trimSpace input.tradeNo
    reason := trimSpace input.reason
    actorIP := trimSpace input.actorIP
    providerRefundReference := trimSpace input.providerRefundReference }

def validateAdminOrderAction : DbTx Unit := do
  Tx.failIf (input.tradeNo = "" ∨ input.tradeNo.utf8ByteSize > 128 ∨ input.expectedVersion ≤ 0 ∨
    input.adminId ≤ 0 ∨ input.actorIP = "" ∨ input.actorIP.utf8ByteSize > 64 ∨
    input.reason.utf8ByteSize < 8 ∨ input.reason.utf8ByteSize > 512) .paymentAuditInvalid
  Tx.failIf (input.action = .externalRefundConfirmed ∧ (input.refundedAmountMinor ≤ 0 ∨
    ¬ validPaymentProviderReference input.providerRefundReference)) .paymentAuditInvalid
  Tx.failIf (input.action ≠ .externalRefundConfirmed ∧ input.providerRefundReference ≠ "")
    .paymentAuditInvalid

def paymentAdminActionPayload (order : PaymentOrder) : String :=
  env.marshal (
    [("source", .text "admin"), ("action", .text input.action.text),
      ("admin_id", .int input.adminId), ("reason", .text input.reason),
      ("expected_version", .int input.expectedVersion), ("trade_no", .text input.tradeNo),
      ("payment_order_id", .int order.id), ("provider", .text order.provider.text)] ++
    if input.action = .externalRefundConfirmed then
      [("refunded_amount_minor", .int input.refundedAmountMinor),
        ("provider_refund_reference", .text input.providerRefundReference)]
    else [])

def paymentExternalRefundEventKey (provider : PaymentProvider) (reference : String) : String :=
  "provider_external_refund:" ++
    env.digest (provider.normalize.text ++ "\x00" ++ trimSpace reference)

def paymentAdminOrderEventKey (order : PaymentOrder) : String :=
  if input.action = .externalRefundConfirmed then
    paymentExternalRefundEventKey env order.provider input.providerRefundReference
  else
    "order_" ++ input.action.text ++ ":" ++ toString order.id ++ ":v" ++
      toString input.expectedVersion

def rejectPaymentOrderByAdminTx : DbTx PaymentOrder := do
  let granted ← paymentEntitlementGrantedTx order
  Tx.failIf (order.status ≠ .manualReview ∨ granted ∨ order.refundedAmountMinor ≠ 0 ∨
    order.disputedAmountMinor ≠ 0 ∨ order.reversedAmountMinor ≠ 0 ∨ order.reversedQuota ≠ 0)
    (.wrap .paymentAuditConflict
      "payment order cannot be rejected after entitlement or reversal")
  let void := input.action = .void
  let event ← createAdminPaymentEventTx env eventKey
    (if void then AdminOrderAction.operation .void else AdminOrderAction.operation .reject)
    payload order
  let order := { order with
    status := .failed, statusReason := input.reason
    updatedAt := env.now, version := input.expectedVersion + 1 }
  updateOrder order.id (fun o => { o with
    status := order.status, statusReason := order.statusReason
    updatedAt := order.updatedAt, version := order.version }) fun _ => rfl
  releasePaymentLimitReservationTx order env.now
  syncPaymentProjectionStatusTx order
  completePaymentProjectionTx order env.now
  createPaymentLedgerEntryTx env event order (if void then .adminVoid else .adminReject) 0 0
    (if void then "payment voided by administrator" else "payment rejected by administrator")
  finishPaymentEventTx env event.id .processed "" order.id
  pure order

def refundUngrantedOrderTx : DbTx PaymentOrder := do
  Tx.failIf (order.status = .fulfilled ∨ order.status = .paid ∨ order.status = .debt ∨
    order.status = .disputed ∨ order.settledAt > 0 ∨ order.paidAmountMinor > 0)
    (.wrap .paymentAuditConflict "canonical entitlement state is inconsistent")
  let order := { order with
    status := if input.refundedAmountMinor = order.expectedAmountMinor then .refunded
      else .refundPending
    statusReason := input.reason
    refundedAmountMinor := input.refundedAmountMinor
    updatedAt := env.now
    version := input.expectedVersion + 1 }
  updateOrder order.id (fun o => { o with
    status := order.status, statusReason := order.statusReason
    refundedAmountMinor := order.refundedAmountMinor
    updatedAt := order.updatedAt, version := order.version }) fun _ => rfl
  syncPaymentProjectionStatusTx order
  completePaymentProjectionTx order env.now
  pure order

def externalRefundInput (event : PaymentEvent) (refundedAmountMinor : Int) (payload : String) :
    PaymentEventInput :=
  { provider := order.provider
    eventKey := event.eventKey
    eventType := event.eventType
    tradeNo := order.tradeNo
    refundedAmountMinor := refundedAmountMinor
    currency := order.currency
    refunded := true
    normalizedPayload := payload }

def confirmExternalPaymentRefundTx (result : PaymentSettlementResult) :
    DbTx (PaymentOrder × PaymentSettlementResult) := do
  Tx.failIf (input.refundedAmountMinor > order.expectedAmountMinor ∨
    order.expectedAmountMinor ≤ 0) .paymentAuditInvalid
  Tx.failIf (order.orderKind = .subscription ∧
    input.refundedAmountMinor ≠ order.expectedAmountMinor)
    (.wrap .paymentAuditInvalid "subscription refunds must be confirmed in full")
  Tx.failIf (input.refundedAmountMinor ≤ order.refundedAmountMinor ∨
    order.disputedAmountMinor ≠ 0)
    (.wrap .paymentAuditConflict "refund amount did not advance or order has a dispute")
  let granted ← paymentEntitlementGrantedTx order
  let event ← createAdminPaymentEventTx env eventKey
    (AdminOrderAction.operation .externalRefundConfirmed) payload order
  let resourceKey := order.provider.text ++ ":refund:" ++ input.providerRefundReference
  let refund := fun (e : PaymentEvent) => { e with
    refunded := true, refundedAmountMinor := input.refundedAmountMinor
    providerResourceKey := resourceKey }
  updateEvent event.id refund fun _ => rfl
  let event := refund event
  let previousRefunded := order.refundedAmountMinor
  let (order, result) ←
    if granted then
      (reconcilePaymentReversalTx env event order
        (externalRefundInput order event input.refundedAmountMinor payload) result).mapErr
        (paymentAuditSettlementConflict "external refund reconciliation failed")
    else do
      let order ← refundUngrantedOrderTx env order input
      pure (order, result)
  createPaymentLedgerEntryTx env event order .adminExternalRefund
    (input.refundedAmountMinor - previousRefunded) 0
    "external provider refund confirmed by administrator"
  finishPaymentEventTx env event.id .processed "" order.id
  pure (order, result)

def applyAdminOrderActionTx (result : PaymentSettlementResult) :
    DbTx (PaymentOrder × PaymentSettlementResult) :=
  match input.action with
  | .fulfill =>
    -- A statement of an administrator is no evidence of a payment.
    Tx.fail (.wrap .paymentAuditConflict
      "manual fulfillment requires an intact verified provider event")
  | .reject | .void => do
      let order ← rejectPaymentOrderByAdminTx env order input payload eventKey
      pure (order, result)
  | .externalRefundConfirmed =>
    confirmExternalPaymentRefundTx env order input payload eventKey result

def statusText : PaymentOrderStatus → String
  | .pending => "pending"
  | .processing => "processing"
  | .paid => "paid"
  | .fulfilled => "fulfilled"
  | .failed => "failed"
  | .expired => "expired"
  | .manualReview => "manual_review"
  | .refundPending => "refund_pending"
  | .refunded => "refunded"
  | .disputed => "disputed"
  | .debt => "debt"

def createPaymentOrderActionOperationsAuditTx : DbTx Unit :=
  createPaymentOperationsAuditTx env
    { id := 0
      action := input.action.operation
      adminId := input.adminId
      actorIP := input.actorIP
      paymentOrderId := order.id
      userId := order.userId
      subjectId := order.id
      provider := order.provider
      expectedVersion := input.expectedVersion
      reason := input.reason }
    ([("trade_no", .text order.tradeNo), ("admin_event_key", .text eventKey),
      ("order_status", .text (statusText order.status))] ++
    if input.action = .externalRefundConfirmed then
      [("refunded_amount_minor", .int input.refundedAmountMinor),
        ("provider_refund_reference", .text input.providerRefundReference)]
    else [])

def resolvePaymentOrderByAdmin : DbTx PaymentSettlementResult := do
  let input := normalizeAdminOrderAction input
  validateAdminOrderAction input
  let order? ← Tx.read (findOrderByTradeNo input.tradeNo)
  let order ← Tx.require order? .paymentAuditNotFound
  let result : PaymentSettlementResult := { order := some order, userId := order.userId }
  let payload := paymentAdminActionPayload env input order
  let eventKey := paymentAdminOrderEventKey env input order
  let duplicate ← processedAdminActionRetryTx eventKey (env.digest payload)
  if duplicate then pure { result with duplicate := true }
  else do
    Tx.failIf (order.version ≠ input.expectedVersion)
      (.wrap .paymentAuditConflict "payment order version changed")
    let (order, result) ← applyAdminOrderActionTx env order input payload eventKey result
    createPaymentOrderActionOperationsAuditTx env order input eventKey
    pure { result with order := some order }

end XyApi.Payment

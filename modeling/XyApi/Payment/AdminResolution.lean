import XyApi.Payment.AdminAction

/-!
Resolution of unmatched events and of debts by an administrator. An event that
was verified but never matched can be dismissed, or linked to an order, which
then grants its entitlement from the facts of that event. A debt is closed as
repaid or waived; the order's reversal stays as it is.
-/

namespace XyApi.Payment

open Lib Billing

variable (env : PaymentEnv) (event : PaymentEvent) (order : PaymentOrder)
  (input : PaymentUnmatchedEventActionInput)

/-! ### Unmatched events -/

inductive UnmatchedEventAction
  | dismiss
  | link
  deriving DecidableEq, Repr

def UnmatchedEventAction.text : UnmatchedEventAction → String
  | dismiss => "dismiss"
  | link => "link"

structure PaymentUnmatchedEventActionInput where
  eventId : Int
  adminId : Int
  actorIP : String
  action : UnmatchedEventAction
  reason : String
  targetTradeNo : String := ""
  expectedOrderVersion : Int := 0
  deriving DecidableEq, Repr

structure PaymentUnmatchedEventActionResult where
  event : PaymentEvent
  order : Option PaymentOrder := none
  duplicate : Bool := false
  quotaDelta : Int := 0
  deriving DecidableEq, Repr

def normalizeUnmatchedEventAction : PaymentUnmatchedEventActionInput :=
  { input with
    reason := trimSpace input.reason
    targetTradeNo := trimSpace input.targetTradeNo
    actorIP := trimSpace input.actorIP }

def validateUnmatchedEventAction : DbTx Unit := do
  Tx.failIf (input.eventId ≤ 0 ∨ input.adminId ≤ 0 ∨ input.actorIP = "" ∨
    input.reason.utf8ByteSize < 8 ∨ input.reason.utf8ByteSize > 512 ∨
    input.actorIP.utf8ByteSize > 64) .paymentAuditInvalid
  Tx.failIf (input.action = .link ∧ (input.targetTradeNo = "" ∨
    input.targetTradeNo.utf8ByteSize > 128 ∨ input.expectedOrderVersion ≤ 0))
    .paymentAuditInvalid

def paymentUnmatchedActionPayload (event : PaymentEvent) (order? : Option PaymentOrder) : String :=
  env.marshal (
    [("source", .text "admin"), ("action", .text input.action.text),
      ("admin_id", .int input.adminId), ("reason", .text input.reason),
      ("event_id", .int input.eventId), ("provider", .text event.provider.text),
      ("event_key", .text event.eventKey)] ++
    match order? with
    | none => []
    | some order =>
      [("target_trade_no", .text order.tradeNo), ("payment_order_id", .int order.id),
        ("expected_order_version", .int input.expectedOrderVersion)])

def unmatchedDismissOperation : String := "payment.unmatched_event_dismissed"

def unmatchedLinkOperation : String := "payment.unmatched_event_linked"

def dismissUnmatchedPaymentEventTx : DbTx PaymentUnmatchedEventActionResult := do
  let payload := paymentUnmatchedActionPayload env input event none
  let eventKey := "unmatched_dismiss:" ++ toString event.id
  let duplicate ← processedAdminActionRetryTx eventKey (env.digest payload)
  if duplicate then pure { event := event, duplicate := true }
  else do
    Tx.failIf (event.status ≠ .manualReview ∨ event.paymentOrderId ≠ 0)
      (.wrap .paymentAuditConflict "event is no longer unmatched")
    let (adminEvent, _) ← upsertPaymentEvent env {
      id := 0
      provider := .admin
      eventKey := eventKey
      eventType := unmatchedDismissOperation
      tradeNo := event.tradeNo
      payloadDigest := env.digest payload
      normalizedPayload := payload }
    let dismissed := fun (e : PaymentEvent) => { e with
      status := .dismissed, lastError := input.reason
      processedAt := env.now, updatedAt := env.now }
    updateEvent event.id dismissed fun _ => rfl
    finishPaymentEventTx env adminEvent.id .processed "" 0
    createPaymentOperationsAuditTx env
      { id := 0
        action := unmatchedDismissOperation
        adminId := input.adminId
        actorIP := input.actorIP
        subjectId := event.id
        provider := event.provider
        reason := input.reason }
      [("provider_event_key", .text event.eventKey), ("admin_event_key", .text eventKey),
        ("event_status", .text "dismissed")]
    pure { event := dismissed event }

/-- The record of a payment that is signed for, complete and nothing else. -/
def intactPaidEvent : Bool :=
  event.provider.text ≠ "" ∧ event.provider ≠ .admin ∧ event.payloadDigest ≠ "" ∧
    event.payloadDigest = env.digest event.normalizedPayload ∧ event.paid ∧
    event.paidAmountMinor > 0 ∧
    ¬ (event.failed ∨ event.expired ∨ event.refunded ∨ event.disputed ∨
      event.disputeResolved ∨ event.manualReview)

def eventContractMatches : Bool :=
  order.provider = event.provider ∧ event.paidAmountMinor = order.expectedAmountMinor ∧
    equalFold event.currency order.currency ∧
    (event.paymentMethod = "" ∨ equalFold event.paymentMethod order.paymentMethod)

def linkCredentialGenerationTx : DbTx PaymentOrder :=
  if event.provider = .epay ∨ event.provider = .stripe ∨ event.provider = .xorPay then do
    Tx.failIf (event.providerCredentialGeneration ≤ 0)
      (.wrap .paymentAuditConflict "event credential generation is not auditable")
    let unbound := order.providerCredentialGeneration = 0
    Tx.when unbound
      (updateOrder order.id (fun o => { o with
        providerCredentialGeneration :=
          if o.providerCredentialGeneration = 0 then event.providerCredentialGeneration
          else o.providerCredentialGeneration }) fun _ => rfl)
    let order := { order with
      providerCredentialGeneration :=
        if unbound then event.providerCredentialGeneration
        else order.providerCredentialGeneration }
    let available ← paymentCredentialGenerationAvailableTx event.provider
      event.providerCredentialGeneration order.createdAt env.now
    Tx.failIf (¬ available ∨ ¬ (event.provider = .stripe ∨
      order.providerCredentialGeneration = event.providerCredentialGeneration))
      (.wrap .paymentAuditConflict
        "event credential generation is revoked or does not match the order")
    pure order
  else pure order

def validateUnmatchedEventOrderIdentityTx : DbTx Unit := do
  let providerOrderKey := trimSpace event.providerOrderKey
  let providerPaymentKey := trimSpace event.providerPaymentKey
  Tx.failIf (order.providerOrderKey.any fun key =>
    providerOrderKey = "" ∨ key ≠ providerOrderKey)
    (.wrap .paymentAuditConflict "provider order identity mismatch")
  Tx.failIf (order.providerPaymentKey.any fun key =>
    providerPaymentKey = "" ∨ key ≠ providerPaymentKey)
    (.wrap .paymentAuditConflict "provider payment identity mismatch")
  Tx.failIf (providerOrderKey = "" ∧ providerPaymentKey = "")
    (.wrap .paymentAuditConflict "linking requires a provider order or payment identity")
  let orderKeyBound ← Tx.read fun db => db.payments.orders.rows.any fun o =>
    o.id ≠ order.id ∧ o.providerOrderKey = some providerOrderKey
  Tx.failIf (providerOrderKey ≠ "" ∧ orderKeyBound)
    (.wrap .paymentAuditConflict "provider order identity is already bound")
  let paymentKeyBound ← Tx.read fun db => db.payments.orders.rows.any fun o =>
    o.id ≠ order.id ∧ o.providerPaymentKey = some providerPaymentKey
  Tx.failIf (providerPaymentKey ≠ "" ∧ paymentKeyBound)
    (.wrap .paymentAuditConflict "provider payment identity is already bound")

def linkable : Bool :=
  order.status = .pending ∨ order.status = .processing ∨ order.status = .manualReview ∨
    order.status = .failed ∨ order.status = .expired

def admitLinkTx : DbTx PaymentOrder := do
  Tx.failIf (event.status ≠ .manualReview ∨ event.paymentOrderId ≠ 0)
    (.wrap .paymentAuditConflict "event is no longer unmatched")
  Tx.failIf (order.version ≠ input.expectedOrderVersion)
    (.wrap .paymentAuditConflict "payment order version changed")
  Tx.failIf (¬ intactPaidEvent env event)
    (.wrap .paymentAuditConflict "event is not an intact verified paid event")
  Tx.failIf (¬ eventContractMatches event order)
    (.wrap .paymentAuditConflict "event contract does not match target order")
  let order ← linkCredentialGenerationTx env event order
  Tx.failIf (order.refundedAmountMinor ≠ 0 ∨ order.disputedAmountMinor ≠ 0 ∨
    order.reversedAmountMinor ≠ 0 ∨ order.reversedQuota ≠ 0)
    (.wrap .paymentAuditConflict "reversed orders cannot be linked")
  let granted ← paymentEntitlementGrantedTx order
  Tx.failIf (granted ∨ ¬ linkable order)
    (.wrap .paymentAuditConflict "target order cannot be safely fulfilled")
  validateUnmatchedEventOrderIdentityTx event order
  let order ← (bindAndValidateProviderIdentityTx env order event.providerOrderKey
    event.providerPaymentKey).mapErr fun _ =>
      .wrap .paymentAuditConflict "provider identity cannot be bound"
  ((bindStripeCustomerTx order event.customerId).mapErr fun _ =>
    .wrap .paymentAuditConflict "provider customer identity cannot be bound").void
  pure order

def reopenOrderTx : DbTx PaymentOrder :=
  let reopened := { order with status := .pending }
  if order.status = .failed ∨ order.status = .expired then do
    syncPaymentProjectionStatusTx reopened
    pure reopened
  else if order.status = .manualReview then pure reopened
  else pure order

def linkedInput : PaymentEventInput :=
  { provider := event.provider
    eventKey := event.eventKey
    eventType := event.eventType
    tradeNo := order.tradeNo
    providerOrderKey := event.providerOrderKey
    providerPaymentKey := event.providerPaymentKey
    providerResourceKey := event.providerResourceKey
    providerCredentialGeneration := event.providerCredentialGeneration
    providerLivemode := event.providerLivemode
    providerCreatedAt := event.providerCreatedAt
    providerState := event.providerState
    customerId := event.customerId
    paidAmountMinor := event.paidAmountMinor
    currency := event.currency
    paymentMethod := event.paymentMethod
    paid := true
    normalizedPayload := event.normalizedPayload }

def applyLinkTx (payload eventKey : String) : DbTx PaymentUnmatchedEventActionResult := do
  let adminEvent ← createAdminPaymentEventTx env eventKey unmatchedLinkOperation payload order
  updateEvent event.id (fun e => { e with
    status := .processing, lastError := "", attempts := e.attempts + 1
    updatedAt := env.now }) fun _ => rfl
  let order ← reopenOrderTx order
  let (order, settlement) ← (fulfillPaymentOrderTx env event order (linkedInput event order)
    { order := some order, userId := order.userId }).mapErr
    (paymentAuditSettlementConflict "linked event fulfillment failed")
  finishPaymentEventTx env event.id .processed "" order.id
  createPaymentLedgerEntryTx env adminEvent order .adminUnmatchedLink order.expectedAmountMinor 0
    "verified unmatched event linked by administrator"
  finishPaymentEventTx env adminEvent.id .processed "" order.id
  createPaymentOperationsAuditTx env
    { id := 0
      action := unmatchedLinkOperation
      adminId := input.adminId
      actorIP := input.actorIP
      paymentOrderId := order.id
      userId := order.userId
      subjectId := event.id
      provider := order.provider
      expectedVersion := input.expectedOrderVersion
      reason := input.reason }
    [("provider_event_key", .text event.eventKey), ("admin_event_key", .text eventKey),
      ("trade_no", .text order.tradeNo)]
  pure {
    event := { event with status := .processed, paymentOrderId := order.id, lastError := "" }
    order := some order
    quotaDelta := settlement.quotaDelta }

def linkUnmatchedPaymentEventTx : DbTx PaymentUnmatchedEventActionResult := do
  let payload := paymentUnmatchedActionPayload env input event (some order)
  let eventKey := "unmatched_link:" ++ toString event.id ++ ":" ++ toString order.id ++ ":v" ++
    toString input.expectedOrderVersion
  let duplicate ← processedAdminActionRetryTx eventKey (env.digest payload)
  if duplicate then do
    Tx.failIf (event.paymentOrderId ≠ order.id ∨ event.status ≠ .processed)
      (.wrap .paymentAuditConflict "linked event terminal state is inconsistent")
    pure { event := event, order := some order, duplicate := true }
  else do
    let order ← admitLinkTx env event order input
    applyLinkTx env event order input payload eventKey

def classifiedLegacyReview : Bool :=
  event.reviewCode = "legacy_topup_quota_snapshot_missing" ∨
    event.reviewCode = "legacy_subscription_contract_unavailable" ∨
    event.reviewCode = stripeLegacyRecurringCheckoutPaid

def resolveUnmatchedPaymentEventByAdmin : DbTx PaymentUnmatchedEventActionResult := do
  let input := normalizeUnmatchedEventAction input
  validateUnmatchedEventAction input
  Tx.when (input.action = .link) lockPaymentConfigurationFenceTx.void
  let event? ← Tx.read fun db => db.payments.events.get? input.eventId
  let event ← Tx.require event? .paymentAuditNotFound
  Tx.failIf (classifiedLegacyReview event)
    (.wrap .paymentAuditConflict "payment event requires its classified legacy resolution")
  match input.action with
  | .dismiss => dismissUnmatchedPaymentEventTx env event input
  | .link => do
      let order? ← Tx.read (findOrderByTradeNo input.targetTradeNo)
      let order ← Tx.require order? .paymentAuditNotFound
      linkUnmatchedPaymentEventTx env event order input

/-! ### Debts -/

structure PaymentDebtResolutionInput where
  debtId : Int
  adminId : Int
  actorIP : String
  expectedOutstandingQuota : Int
  expectedOutstandingAmount : Int
  resolution : DebtResolution
  note : String
  deriving DecidableEq, Repr

def resolutionText : DebtResolution → String
  | .repaid => "repaid"
  | .waived => "waived"

def debtKindText : DebtKind → String
  | .buyer => "buyer"
  | .affiliate => "affiliate"

def debtResolveOperation : String := "payment.debt_resolved"

def validateDebtResolution (input : PaymentDebtResolutionInput) : DbTx Unit :=
  Tx.failIf (input.debtId ≤ 0 ∨ input.adminId ≤ 0 ∨ input.actorIP = "" ∨
    input.actorIP.utf8ByteSize > 64 ∨ input.expectedOutstandingQuota < 0 ∨
    input.expectedOutstandingAmount < 0 ∨
    (input.expectedOutstandingQuota = 0 ∧ input.expectedOutstandingAmount = 0) ∨
    input.note.utf8ByteSize < 8 ∨ input.note.utf8ByteSize > 512) .paymentAuditInvalid

def paymentDebtResolutionPayload (input : PaymentDebtResolutionInput) (order : PaymentOrder)
    (debt : PaymentDebt) : String :=
  env.marshal [("source", .text "admin"), ("action", .text debtResolveOperation),
    ("admin_id", .int input.adminId), ("actor_ip", .text input.actorIP),
    ("debt_id", .int input.debtId), ("resolution", .text (resolutionText input.resolution)),
    ("note", .text input.note),
    ("expected_outstanding_quota", .int input.expectedOutstandingQuota),
    ("expected_outstanding_amount_minor", .int input.expectedOutstandingAmount),
    ("payment_order_id", .int order.id), ("trade_no", .text order.tradeNo),
    ("provider", .text order.provider.text), ("user_id", .int debt.userId),
    ("debt_kind", .text (debtKindText debt.debtKind))]

def paymentDebtResolutionAuditMetadata (input : PaymentDebtResolutionInput)
    (adminEventKey : String) : List (String × JsonValue) :=
  [("admin_event_key", .text adminEventKey),
    ("resolution", .text (resolutionText input.resolution)),
    ("expected_outstanding_quota", .int input.expectedOutstandingQuota),
    ("expected_outstanding_amount_minor", .int input.expectedOutstandingAmount)]

def completedAuditMatches (input : PaymentDebtResolutionInput) (order : PaymentOrder)
    (debt : PaymentDebt) (adminEventKey : String) (audit : PaymentOperationsAudit) : Bool :=
  audit.adminId = input.adminId ∧ audit.actorIP = input.actorIP ∧
    audit.paymentOrderId = order.id ∧ audit.userId = debt.userId ∧
    audit.provider = order.provider ∧ audit.reason = input.note ∧
    audit.metadata = env.marshal (paymentDebtResolutionAuditMetadata input adminEventKey)

def validateCompletedPaymentDebtResolutionTx (input : PaymentDebtResolutionInput)
    (order : PaymentOrder) (debt : PaymentDebt) (adminEventKey payload : String) : DbTx Unit := do
  Tx.failIf (debt.status ≠ .resolved ∨ debt.outstandingQuota ≠ 0 ∨
    debt.outstandingAmountMinor ≠ 0 ∨ debt.resolution ≠ some input.resolution ∨
    debt.resolutionNote ≠ input.note ∨ debt.resolvedBy ≠ input.adminId ∨ debt.resolvedAt ≤ 0)
    (.wrap .paymentAuditConflict "completed payment debt resolution is inconsistent")
  let event? ← Tx.read (findEvent .admin adminEventKey)
  let event ← Tx.require event? .recordNotFound
  Tx.failIf (event.status ≠ .processed ∨ event.paymentOrderId ≠ order.id ∨
    event.tradeNo ≠ order.tradeNo ∨ event.eventType ≠ debtResolveOperation ∨
    event.payloadDigest ≠ env.digest payload)
    (.wrap .paymentAuditConflict "completed payment debt administrator event is inconsistent")
  let ledgers : List PaymentLedgerEntry ← Tx.read fun db =>
    db.payments.ledger.rows.filter fun e =>
      e.paymentOrderId = order.id ∧ e.paymentEventId = event.id ∧ e.entryType = .debtResolved
  Tx.failIf (¬ (ledgers.length = 1 ∧ ledgers.all fun e =>
    e.userId = debt.userId ∧ e.currency = order.currency ∧
      e.amountMinor = input.expectedOutstandingAmount ∧
      e.quotaDelta = input.expectedOutstandingQuota))
    (.wrap .paymentAuditConflict "completed payment debt ledger is inconsistent")
  let audits : List PaymentOperationsAudit ← Tx.read fun db =>
    db.payments.operationsAudits.rows.filter fun a =>
      a.action = debtResolveOperation ∧ a.subjectId = debt.id
  Tx.failIf (audits.length ≠ 1)
    (.wrap .paymentAuditConflict "payment debt operations audit is missing or duplicated")
  Tx.failIf (¬ audits.all (completedAuditMatches env input order debt adminEventKey))
    (.wrap .paymentAuditConflict "payment debt operations audit payload changed")

def adminResolvedDebt (input : PaymentDebtResolutionInput) (debt : PaymentDebt) : PaymentDebt :=
  { debt with
    outstandingQuota := 0
    outstandingAmountMinor := 0
    status := .resolved
    resolution := some input.resolution
    resolutionNote := input.note
    resolvedBy := input.adminId
    resolvedAt := env.now
    updatedAt := env.now }

def debtFreeStatus : PaymentOrderStatus :=
  if order.disputedAmountMinor > 0 then .disputed
  else if order.refundedAmountMinor ≥ order.expectedAmountMinor then .refunded
  else if order.refundedAmountMinor > 0 then .refundPending
  else .fulfilled

def clearDebtStatusTx : DbTx Unit := do
  let hasOpenDebt ← hasAnyOpenPaymentDebtTx order.id
  Tx.when (hasOpenDebt = false) do
    let status := debtFreeStatus order
    updateOrder order.id (fun o => { o with
      status := status, statusReason := "", updatedAt := env.now
      version := o.version + 1 }) fun _ => rfl
    syncPaymentProjectionStatusTx { order with status := status, statusReason := "" }

def closeDebtByAdminTx (input : PaymentDebtResolutionInput) (order : PaymentOrder)
    (debt : PaymentDebt) (adminEventKey payload : String) : DbTx PaymentDebt := do
  Tx.failIf (debt.outstandingQuota ≠ input.expectedOutstandingQuota ∨
    debt.outstandingAmountMinor ≠ input.expectedOutstandingAmount)
    (.wrap .paymentAuditConflict "payment debt changed; refresh before resolving")
  let event ← createAdminPaymentEventTx env adminEventKey debtResolveOperation payload order
  let resolved := adminResolvedDebt env input debt
  Tx.write (Database.putDebt resolved)
  createPaymentLedgerEntryTx env event order .debtResolved debt.outstandingAmountMinor
    debt.outstandingQuota ("payment debt " ++ resolutionText input.resolution ++
      " by administrator")
  releasePaymentFreezeTx resolved
  clearDebtStatusTx env order
  createPaymentOperationsAuditTx env
    { id := 0
      action := debtResolveOperation
      adminId := input.adminId
      actorIP := input.actorIP
      paymentOrderId := order.id
      userId := resolved.userId
      subjectId := resolved.id
      provider := order.provider
      reason := input.note }
    (paymentDebtResolutionAuditMetadata input adminEventKey)
  finishPaymentEventTx env event.id .processed "" order.id
  pure resolved

def findDebtById (debtId : Int) (db : Database) : Option PaymentDebt :=
  db.paymentDebts.rows.find? fun d => d.id = debtId

def resolvePaymentDebtByAdmin (input : PaymentDebtResolutionInput) : DbTx (PaymentDebt × Bool) := do
  let input := { input with note := trimSpace input.note, actorIP := trimSpace input.actorIP }
  validateDebtResolution input
  let debt? ← Tx.read (findDebtById input.debtId)
  let debt ← Tx.require debt? .paymentAuditNotFound
  let order? ← Tx.read fun db => db.payments.orders.get? debt.paymentOrderId
  let order ← Tx.require order? .paymentAuditNotFound
  let payload := paymentDebtResolutionPayload env input order debt
  let adminEventKey := "debt_resolved:" ++ toString input.debtId
  let duplicate ← processedAdminActionRetryTx adminEventKey (env.digest payload)
  match debt.status with
  | .resolved => do
      Tx.failIf (duplicate = false) (.wrap .paymentAuditConflict
        "resolved payment debt has no matching administrator event")
      validateCompletedPaymentDebtResolutionTx env input order debt adminEventKey payload
      pure (debt, true)
  | .outstanding => do
      Tx.failIf (duplicate = true) (.wrap .paymentAuditConflict
        "administrator event is terminal while payment debt remains open")
      let debt ← closeDebtByAdminTx env input order debt adminEventKey payload
      pure (debt, false)

end XyApi.Payment

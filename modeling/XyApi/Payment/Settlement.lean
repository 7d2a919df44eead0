import XyApi.Payment.Legacy

/-!
Settlement of one provider event, in one transaction. The event is recorded, a
delivery that was handled before is recognised, the order is found and every
identity check is made, and then the event is applied. A contract that does not
hold ends in manual review and commits; any other error undoes everything.
-/

namespace XyApi.Payment

open Lib

variable (env : PaymentEnv) (event : PaymentEvent) (order : PaymentOrder)
  (input : PaymentEventInput) (replayEventId : Int) (expectedAttempts : Option Int)
  (result : PaymentSettlementResult)

structure TaskLease where
  task : PaymentTask
  runnerId : String
  deriving DecidableEq, Repr

def assertPaymentTaskLeaseTx (lease : TaskLease) : DbTx Unit := do
  let runnerId := trimSpace lease.runnerId
  Tx.failIf (lease.task.id ≤ 0 ∨ lease.task.fenceToken ≤ 0 ∨ runnerId = "") .paymentTaskLeaseLost
  let stored? ← Tx.read fun db => db.payments.paymentTasks.get? lease.task.id
  let stored ← Tx.require stored? .paymentTaskLeaseLost
  Tx.failIf (stored.status ≠ .running ∨ stored.leaseOwner ≠ runnerId ∨
    stored.fenceToken ≠ lease.task.fenceToken ∨ stored.leaseUntil < env.now)
    .paymentTaskLeaseLost

def assertLeaseIfAny : Option TaskLease → DbTx Unit
  | none => pure ()
  | some lease => assertPaymentTaskLeaseTx env lease

def stateTransition : Bool :=
  input.paid || input.failed || input.expired || input.refunded || input.disputed ||
    input.disputeResolved || input.manualReview

def credentialFenced : Bool :=
  (input.paid && (input.provider = .epay || input.provider = .xorPay)) ||
    (input.provider = .stripe && stateTransition input)

/-! ### Repeated deliveries -/

def reviewed (e : Err) : Settlement :=
  ({ result with manualReview := true }, some e)

def rejectReusedEventKeyTx : DbTx Settlement := do
  Tx.when (event.paymentOrderId > 0)
    (updateOrder event.paymentOrderId (fun o => { o with
      status := .manualReview, statusReason := "event_key_payload_conflict"
      updatedAt := env.now, version := o.version + 1 }) fun _ => rfl)
  finishPaymentEventWithReviewCodeTx env event.id .manualReview
    paymentReviewCodeEventKeyPayloadConflict "event key was reused with a different payload"
    event.paymentOrderId
  pure (reviewed {} .paymentEventConflict)

def duplicateSettlement (order? : Option PaymentOrder) : PaymentSettlementResult :=
  { duplicate := true
    manualReview := event.status = .manualReview
    order := order?
    userId := (order?.map PaymentOrder.userId).getD 0 }

def eventHandled : Bool :=
  event.status = .processed ∨ event.status = .manualReview ∨ event.status = .dismissed ∨
    event.status = .credentialRevoked

def manualReplay : Bool :=
  replayEventId > 0 ∧ event.id = replayEventId ∧ event.status = .manualReview ∧
    event.paymentOrderId = 0

/-- A replay that expected some number of attempts and finds one more was handled
already; any other number is a conflict. -/
def replayAttemptsTx : DbTx (Option Settlement) :=
  match expectedAttempts with
  | none => pure none
  | some expected =>
    if replayEventId > 0 ∧ event.id = replayEventId then
      if event.attempts = expected + 1 then do
        let order? ← Tx.read fun db =>
          if event.paymentOrderId > 0 then db.payments.orders.get? event.paymentOrderId else none
        Tx.failIf (event.paymentOrderId > 0 ∧ order?.isNone) .recordNotFound
        pure (some (duplicateSettlement event order?,
          if event.status = .manualReview then some .paymentManualReview else none))
      else do
        Tx.failIf (event.attempts ≠ expected)
          (.wrap .paymentAuditConflict "payment event attempts changed")
        pure none
    else pure none

def redeliveryTx : DbTx (Option Settlement) := do
  if event.payloadDigest ≠ env.digest input.normalizedPayload ∨
      livemodeConflict event.providerLivemode input.providerLivemode then do
    let settlement ← rejectReusedEventKeyTx env event
    pure (some settlement)
  else do
    Tx.when (event.providerLivemode = none ∧ input.providerLivemode.isSome)
      (updateEvent event.id (fun e => { e with
        providerLivemode := e.providerLivemode.or input.providerLivemode }) fun _ => rfl)
    let replayed? ← replayAttemptsTx event replayEventId expectedAttempts
    match replayed? with
    | some settlement => pure (some settlement)
    | none =>
      if ¬ manualReplay event replayEventId ∧ eventHandled event then do
        let order? ← Tx.read fun db =>
          if event.paymentOrderId > 0 then db.payments.orders.get? event.paymentOrderId else none
        pure (some (duplicateSettlement event order?, none))
      else pure none

/-! ### Admission -/

/-- The outcome of the checks between finding an order and applying an event. -/
inductive Admission
  | review (order : PaymentOrder) (reason : String) (cause : Err)
  /-- Paid after an administrator rejected or voided the order. -/
  | afterAdminDecision (order : PaymentOrder)
  | stale (order : PaymentOrder)
  | admitted (order : PaymentOrder)
  deriving DecidableEq, Repr

def environmentMismatch : Option String :=
  if (order.provider = .creem ∨ order.provider = .waffoPancake) ∧ stateTransition input then
    let reasonPrefix := if order.provider = .waffoPancake then "waffo_pancake" else "creem"
    if order.providerLivemode = none then some (reasonPrefix ++ "_order_environment_unbound")
    else if input.providerLivemode = none then
      some (reasonPrefix ++ "_payment_environment_unverified")
    else if ¬ paymentLivemodeEqual order.providerLivemode input.providerLivemode then
      some (reasonPrefix ++ "_order_event_environment_mismatch")
    else none
  else none

def bindStripeReversalModeTx : DbTx (Option PaymentOrder) :=
  if order.provider = .stripe ∧ paymentEventRequiresProviderPaymentAuthority input ∧
      input.providerLivemode.isSome then
    if order.providerLivemode = none then do
      updateOrder order.id (fun o => { o with
        providerLivemode := o.providerLivemode.or input.providerLivemode }) fun _ => rfl
      pure (some { order with providerLivemode := input.providerLivemode })
    else if paymentLivemodeEqual order.providerLivemode input.providerLivemode then
      pure (some order)
    else pure none
  else pure (some order)

/-- The order with the generation of the credential that signed for it, or the
reason why that credential is not good enough. -/
def bindCredentialGenerationTx : DbTx (PaymentOrder × Option String) :=
  if ¬ credentialFenced input then pure (order, none)
  else if input.providerCredentialGeneration ≤ 0 then
    pure (order, some "payment_credential_generation_missing")
  else do
    let unbound := order.providerCredentialGeneration = 0
    Tx.when unbound
      (updateOrder order.id (fun o => { o with
        providerCredentialGeneration :=
          if o.providerCredentialGeneration = 0 then input.providerCredentialGeneration
          else o.providerCredentialGeneration }) fun _ => rfl)
    let order := { order with
      providerCredentialGeneration :=
        if unbound then input.providerCredentialGeneration
        else order.providerCredentialGeneration }
    -- The current Stripe secret signs for old and new orders alike.
    let generation :=
      if order.provider = .stripe then input.providerCredentialGeneration
      else order.providerCredentialGeneration
    let available ← paymentCredentialGenerationAvailableTx order.provider generation
      order.createdAt env.now
    let generationMatches := order.provider = .stripe ∨
      order.providerCredentialGeneration = input.providerCredentialGeneration
    pure (order,
      if ¬ generationMatches ∨ ¬ available then some "payment_credential_generation_revoked"
      else none)

def admitPaidTx : DbTx Admission := do
  let terminalAdminDecision ← paymentOrderHasTerminalAdminDecisionTx order.id
  if terminalAdminDecision then pure (.afterAdminDecision order)
  else if input.paidAmountMinor ≠ order.expectedAmountMinor then
    pure (.review order "paid_amount_mismatch" .paymentAmountMismatch)
  else if ¬ equalFold (trimSpace input.currency) (trimSpace order.currency) then
    pure (.review order "payment_currency_mismatch" .paymentCurrencyMismatch)
  else if input.paymentMethod ≠ "" ∧ order.paymentMethod ≠ input.paymentMethod then
    pure (.review order "payment_method_mismatch" .paymentProviderMismatch)
  else do
    let bound ← (bindStripeCustomerTx order input.customerId).savepoint
    match bound with
    | .error e => pure (.review order "stripe_customer_identity_mismatch" e)
    | .ok _ => pure (.admitted order)

def admitBoundTx : DbTx Admission :=
  if input.manualReview then
    pure (.review order "provider_reported_manual_review" .paymentManualReview)
  else do
    let stateOrder ← evaluateProviderStateOrderTx event order input
    match stateOrder with
    | .conflict => pure (.review order "provider_state_order_conflict" .paymentManualReview)
    | .stale => pure (.stale order)
    | .current => if input.paid then admitPaidTx order input else pure (.admitted order)

def admitIdentityTx : DbTx Admission := do
  let bound? ← bindStripeReversalModeTx order input
  match bound? with
  | none => pure (.review order "stripe_order_event_mode_mismatch" .paymentManualReview)
  | some order =>
    if ¬ stripeOrderPaidFulfillmentAllowed env order input then
      pure (.review order "stripe_order_event_mode_mismatch" .paymentManualReview)
    else do
      let (order, refusal?) ← bindCredentialGenerationTx env order input
      match refusal? with
      | some reason => pure (.review order reason .paymentManualReview)
      | none => do
          let bound ← (bindAndValidateProviderIdentityTx env order input.providerOrderKey
            input.providerPaymentKey).savepoint
          match bound with
          | .error e => pure (.review order "provider_order_identity_mismatch" e)
          | .ok order => admitBoundTx event order input

def admitTx : DbTx Admission :=
  if order.provider ≠ input.provider then
    pure (.review order "provider_mismatch" .paymentProviderMismatch)
  else if paymentEventRequiresProviderPaymentAuthority input ∧ input.providerPaymentKey ≠ "" ∧
      input.tradeNo ≠ "" ∧ input.tradeNo ≠ order.tradeNo then
    pure (.review order "provider_trade_identity_mismatch" .paymentProviderMismatch)
  else
    match environmentMismatch order input with
    | some reason => pure (.review order reason .paymentManualReview)
    | none => admitIdentityTx env event order input

/-! ### Application -/

def fulfillmentReviewError (e : Err) : Bool :=
  e.is .subscriptionPurchaseLimit || e.is .subscriptionOrderSnapshotMissing ||
    e.is .paymentManualReview || e.is .topUpStatusInvalid || e.is .paymentProviderMismatch ||
    e.is .paymentMethodMismatch || e.is .quotaOverflow || e.is .billingAccountNotFound ||
    e.is .recordNotFound

def reversalReviewError (e : Err) : Bool :=
  e.is .paymentAmountMismatch || e.is .paymentCurrencyMismatch || e.is .paymentManualReview ||
    e.is .quotaOverflow || e.is .billingAccountNotFound || e.is .topUpStatusInvalid ||
    e.is .paymentProviderMismatch || e.is .recordNotFound

def concludeTx : DbTx Settlement := do
  let order ←
    if input.failed ∨ input.expired then failOrExpirePaymentOrderTx env order input.expired
    else pure order
  finishPaymentEventTx env event.id .processed "" order.id
  pure ({ result with order := some order }, none)

def applyReversalTx : DbTx Settlement := do
  if input.refunded ∨ input.disputed ∨ input.disputeResolved then do
    let reversed ← (reconcilePaymentReversalTx env event order input result).savepoint
    match reversed with
    | .ok (order, result) => concludeTx env event order input result
    | .error e =>
      if reversalReviewError e then
        markPaymentManualReviewForOrderTx env event order "reversal_contract_mismatch" e result
      else Tx.fail e
  else concludeTx env event order input result

def applyAdmittedTx : DbTx Settlement := do
  if input.paid then do
    let fulfilled ← (fulfillPaymentOrderTx env event order input result).savepoint
    match fulfilled with
    | .ok (order, result) => applyReversalTx env event order input result
    | .error e =>
      if fulfillmentReviewError e then
        markPaymentManualReviewForOrderTx env event order "entitlement_fulfillment_conflict" e
          result
      else Tx.fail e
  else applyReversalTx env event order input result

def settleOrderTx : DbTx Settlement := do
  let result : PaymentSettlementResult := { order := some order, userId := order.userId }
  let admission ← admitTx env event order input
  match admission with
  | .review order reason cause =>
    markPaymentManualReviewForOrderTx env event order reason cause result
  | .afterAdminDecision order =>
    markPaymentManualReviewPreservingProjectionTx env event order
      "paid_after_admin_reject_or_void" .paymentTerminalAdminDecision result
  | .stale order => do
      finishPaymentEventTx env event.id .dismissed "stale provider state ignored" order.id
      pure ({ result with order := some order }, none)
  | .admitted order => applyAdmittedTx env event order input result

/-! ### Events without an order -/

def reviewUnmatchedTx (reviewCode reason : String) (e : Err) : DbTx Settlement := do
  finishPaymentEventWithReviewCodeTx env event.id .manualReview reviewCode reason 0
  pure (reviewed {} e)

def orderNotFoundTx : DbTx Settlement :=
  if paymentEventRequiresProviderPaymentAuthority input ∧ input.providerPaymentKey ≠ "" then
    let reason := "provider payment identity is not bound to an order yet"
    reviewUnmatchedTx env event "" reason (.wrap .paymentManualReview reason)
  else do
    finishPaymentEventTx env event.id .failed "payment order not found" 0
    pure ({}, some .paymentOrderNotFound)

def adoptOrMissTx : DbTx Settlement := do
  if input.paid ∧ input.tradeNo ≠ "" then do
    let adopted ← (adoptLegacyPaymentOrderTx env input).savepoint
    match adopted with
    | .ok order => settleOrderTx env event order input
    | .error e =>
      if legacyPaymentAdoptionRequiresManualReview e then
        let reviewCode :=
          if e.is .legacyTopUpQuotaSnapshotUnavailable then "legacy_topup_quota_snapshot_missing"
          else if e.is .legacySubscriptionContractUnavailable then
            "legacy_subscription_contract_unavailable"
          else ""
        reviewUnmatchedTx env event reviewCode
          ("legacy payment adoption requires manual review: " ++ e.text)
          (.wrap .paymentManualReview e.text)
      else if e.is .paymentOrderNotFound then orderNotFoundTx env event input
      else Tx.fail e
  else orderNotFoundTx env event input

def rejectStripeModeTx (order? : Option PaymentOrder) : DbTx Settlement :=
  let reason :=
    if input.providerLivemode = none then "stripe_payment_mode_unverified"
    else "stripe_test_mode_disabled"
  match order? with
  | some order =>
    markPaymentManualReviewForOrderTx env event order reason .paymentManualReview
      { order := some order, userId := order.userId }
  | none => reviewUnmatchedTx env event "" reason (.wrap .paymentManualReview reason)

/-! ### The transaction -/

def stripeLegacyRecurringCheckoutPaid : String := "stripe_legacy_recurring_checkout_paid"

def applyEventTx : DbTx Settlement := do
  updateEvent event.id (fun e => { e with
    status := .processing, attempts := e.attempts + 1, lastError := "", reviewCode := ""
    updatedAt := env.now }) fun _ => rfl
  if input.provider = .stripe ∧ input.manualReview ∧
      input.providerState = stripeLegacyRecurringCheckoutPaid then
    let reason :=
      "verified legacy Stripe recurring Checkout payment requires operator reconciliation"
    reviewUnmatchedTx env event stripeLegacyRecurringCheckoutPaid reason
      (.wrap .paymentManualReview reason)
  else if ¬ stateTransition input then do
    finishPaymentEventTx env event.id .processed "" 0
    pure ({}, none)
  else do
    let order? ← lockPaymentOrderForEventTx input
    if ¬ stripePaidEventModeAllowed env input then rejectStripeModeTx env event input order?
    else
      match order? with
      | some order => settleOrderTx env event order input
      | none => adoptOrMissTx env event input

def processPaymentEventTx (lease : Option TaskLease) : DbTx Settlement := do
  let input := normalizeIdentity input
  validate input
  assertLeaseIfAny env lease
  Tx.when (credentialFenced input = true) lockPaymentConfigurationFenceTx.void
  let (event, created) ← upsertPaymentEvent env
    (paymentEventFromInput input (env.digest input.normalizedPayload))
  let handled? ←
    if created then pure none
    else redeliveryTx env event input replayEventId expectedAttempts
  match handled? with
  | some settlement => pure settlement
  | none => applyEventTx env event input

def unmatchedReversals (provider : PaymentProvider) (providerPaymentKey : String)
    (db : Database) : List PaymentEvent :=
  (db.payments.events.rows.filter fun e =>
    e.provider = provider ∧ e.providerPaymentKey = providerPaymentKey ∧ e.paymentOrderId = 0 ∧
      e.status = .manualReview ∧ (e.refunded ∨ e.disputed ∨ e.disputeResolved)).insertionSort
    fun a b => a.createdAt < b.createdAt ∨ (a.createdAt = b.createdAt ∧ a.id ≤ b.id)

/-- After a replay that settled, or ended in review or as a conflict, the next one follows. -/
def replayGoesOn : Except Err Settlement → Bool
  | .ok (_, none) => true
  | .ok (_, some e) | .error e => e.is .paymentManualReview || e.is .paymentEventConflict

def replayReversals (env : PaymentEnv) : List PaymentEvent → Database → Database
  | [], db => db
  | event :: rest, db =>
    let replayed :=
      (processPaymentEventTx env event.toPaymentEventInput event.id none none).commit db
    if replayGoesOn replayed.2 then replayReversals env rest replayed.1 else replayed.1

def settledWithoutError : Except Err Settlement → Bool
  | .ok (_, none) => true
  | _ => false

/-- One delivery: its transaction, and after a payment the reversals that were
waiting for it. A valid reversal is no payment, so replays do not nest. -/
def processPaymentEvent (lease : Option TaskLease) (db : Database) : Database :=
  let identity := normalizeIdentity input
  let delivered :=
    (processPaymentEventTx env input replayEventId expectedAttempts lease).commit db
  if settledWithoutError delivered.2 ∧ identity.paid ∧
      trimSpace identity.providerPaymentKey ≠ "" ∧ identity.provider.text ≠ "" then
    replayReversals env (unmatchedReversals identity.provider
      (trimSpace identity.providerPaymentKey) delivered.1) delivered.1
  else delivered.1

end XyApi.Payment

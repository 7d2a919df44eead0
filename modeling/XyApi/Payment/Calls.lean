import XyApi.Payment.Carry

/-!
The calls of the payment subsystem, each one transaction. A delivery that replays
waiting reversals, and an order request that falls back to an order made before,
are several calls in a row. Runs are any sequences of calls, each with the clock
and the settings it happens to find.
-/

namespace XyApi.Payment

open Lib Billing Subscription

inductive PaymentCall
  | createOrder (userId : Int) (quoteId requestId : String) (expectedConfigurationVersion : Int)
      (tradeNos : List String)
  | existingOrder (userId : Int) (quoteId requestId : String) (e : Err)
  | claimStart (tradeNo : String)
  | saveStart (tradeNo flow payload encryptedPayload : String) (expiresAt : Int)
      (providerOrderKey providerPaymentKey : String) (creationFenceToken : Int)
  | startFailed (tradeNo reason : String) (creationFenceToken : Int)
  | expireIfDue (userId : Int) (tradeNo : String) (lease : Option TaskLease)
  | expireDue (orderId : Int)
  | sendToReview (tradeNo reason : String) (creationFenceToken : Int) (lease : Option TaskLease)
  | received (input : PaymentEventInput)
  | validationFailed (provider : PaymentProvider) (eventKey reasonCode : String)
  | retained (input : PaymentEventInput) (reason : String)
  | event (input : PaymentEventInput) (replayEventId : Int) (expectedAttempts : Option Int)
      (lease : Option TaskLease)
  | orderAction (input : PaymentAdminOrderActionInput)
  | eventAction (input : PaymentUnmatchedEventActionInput)
  | debtResolution (input : PaymentDebtResolutionInput)
  deriving DecidableEq, Repr

namespace PaymentCall

def body (env : PaymentEnv) : PaymentCall → DbTx Unit
  | createOrder userId quoteId requestId version tradeNos =>
    (createPaymentOrderFromQuoteTx env userId quoteId requestId version tradeNos).void
  | existingOrder userId quoteId requestId e =>
    (existingOrderAfterErrorTx env userId quoteId requestId e).void
  | claimStart tradeNo => (claimPaymentOrderStart env tradeNo).void
  | saveStart tradeNo flow payload encrypted expiresAt orderKey paymentKey fence =>
    savePaymentOrderStartWithProviderIdentity env tradeNo flow payload encrypted expiresAt
      orderKey paymentKey fence
  | startFailed tradeNo reason fence => markPaymentOrderFailed env tradeNo reason fence
  | expireIfDue userId tradeNo lease => expirePaymentOrderIfDue env userId tradeNo lease
  | expireDue orderId => expireDuePaymentOrder orderId env.now
  | sendToReview tradeNo reason fence lease =>
    markPaymentOrderManualReview env tradeNo reason fence lease
  | received input => recordPaymentEventReceived env input
  | validationFailed provider eventKey reasonCode =>
    markPaymentEventValidationFailed env provider eventKey reasonCode
  | retained input reason => recordPaymentEventManualReview env input reason
  | event input replayEventId expectedAttempts lease =>
    (processPaymentEventTx env input replayEventId expectedAttempts lease).void
  | orderAction input => (resolvePaymentOrderByAdmin env input).void
  | eventAction input => (resolveUnmatchedPaymentEventByAdmin env input).void
  | debtResolution input => (resolvePaymentDebtByAdmin env input).void

def step (env : PaymentEnv) (call : PaymentCall) (db : Database) : Database :=
  ((call.body env).commit db).1

end PaymentCall

def runCalls (calls : List (PaymentEnv × PaymentCall)) (db : Database) : Database :=
  calls.foldl (fun db c => c.2.step c.1 db) db

/-! ### Deliveries and order requests as runs -/

theorem runCalls_cons : runCalls (c :: rest) db = runCalls rest (c.2.step c.1 db) :=
  rfl

theorem runCalls_nil : runCalls [] db = db := rfl

theorem step_event (env : PaymentEnv) (input : PaymentEventInput) (replayEventId : Int)
    (expectedAttempts : Option Int) (lease : Option TaskLease) (db : Database) :
    (PaymentCall.event input replayEventId expectedAttempts lease).step env db =
      ((processPaymentEventTx env input replayEventId expectedAttempts lease).commit db).1 :=
  Tx.commit_void _ _

/-- Replaying reversals is a run of their events. -/
theorem replayReversals_eq_run (env : PaymentEnv) (events : List PaymentEvent) (db : Database) :
    ∃ calls, replayReversals env events db = runCalls calls db := by
  induction events generalizing db with
  | nil => exact ⟨[], rfl⟩
  | cons event rest ih =>
    have hStep := step_event env event.toPaymentEventInput event.id none none db
    rw [replayReversals]
    obtain ⟨calls, hCalls⟩ := ih ((processPaymentEventTx env event.toPaymentEventInput event.id
      none none).commit db).1
    split
    · exact ⟨(env, .event event.toPaymentEventInput event.id none none) :: calls, by
        rw [runCalls_cons, hStep, hCalls]⟩
    · exact ⟨[(env, .event event.toPaymentEventInput event.id none none)], by
        rw [runCalls_cons, hStep, runCalls_nil]⟩

/-- An order request is a run of one or two calls. -/
theorem createPaymentOrderFromQuote_eq_run (env : PaymentEnv) (userId : Int)
    (quoteId requestId : String) (expectedConfigurationVersion : Int) (tradeNos : List String)
    (db : Database) :
    ∃ calls, (createPaymentOrderFromQuote env userId quoteId requestId
      expectedConfigurationVersion tradeNos db).1 = runCalls calls db := by
  have hStep : (PaymentCall.createOrder userId quoteId requestId expectedConfigurationVersion
      tradeNos).step env db = _ := Tx.commit_void _ _
  simp only [createPaymentOrderFromQuote]
  generalize (createPaymentOrderFromQuoteTx env userId quoteId requestId
    expectedConfigurationVersion tradeNos).commit db = r at hStep ⊢
  have hOne : ∃ calls, r.1 = runCalls calls db :=
    ⟨[(env, .createOrder userId quoteId requestId expectedConfigurationVersion tradeNos)], by
      rw [runCalls_cons, hStep, runCalls_nil]⟩
  rcases r with ⟨db', e | order⟩
  · dsimp only
    split
    · exact hOne
    · have hSecond : (PaymentCall.existingOrder userId quoteId requestId e).step env db' = _ :=
        Tx.commit_void _ _
      exact ⟨[(env, .createOrder userId quoteId requestId expectedConfigurationVersion tradeNos),
        (env, .existingOrder userId quoteId requestId e)], by
          rw [runCalls_cons, hStep, runCalls_cons, hSecond, runCalls_nil]⟩
  · exact hOne

/-! ### What the remaining calls touch -/

theorem createPaymentOrderWithUniqueTradeNoTx_only (order : PaymentOrder) (attempts : Nat)
    (tradeNos : List String) :
    (createPaymentOrderWithUniqueTradeNoTx order attempts tradeNos).Within (only [.orders]) := by
  induction attempts generalizing tradeNos with
  | zero => exact .fail
  | succ attempts ih =>
    cases tradeNos with
    | nil => exact .fail
    | cons tradeNo rest =>
      exact .bind .read fun _ => .ite (fun _ => ih rest) fun _ => insertOrder_only ..

theorem createProjectionTx_only :
    (createProjectionTx env order).Within (only [.topUps, .subscriptionOrders]) := by
  unfold createProjectionTx
  cases order.orderKind with
  | topUp => exact .bind (only_of_subset (insertTopUp_only ..) (by simp)) fun _ => .pure
  | subscription =>
    exact .bind .require fun _ =>
      .bind (.void (within_of_readOnly (subscriptionPlan_readOnly _))) fun _ =>
      .bind (.check fun _ => .fetch fun _ =>
        .when fun _ => .bind (.check fun _ => .read) fun _ => .failIf) fun _ =>
      .bind (only_of_subset (insertSubscriptionOrder_only ..) (by simp)) fun _ => .pure
  | other => exact .pure

def orderParts : List Component := [.orders, .topUps, .subscriptionOrders]

theorem createFromQuoteTx_only :
    (createFromQuoteTx env userId quoteId requestId configurationVersion tradeNos).Within
      (only orderParts) :=
  .fetch fun _ => .check fun _ => .check fun _ =>
    .bind (within_of_readOnly (inFlightLimitTx_readOnly ..)) fun _ => .bind .read fun _ =>
    .check fun _ =>
    .bind (within_of_readOnly (boundPaymentOrderExpiryForLimitTx_readOnly ..)) fun _ =>
    .bind (only_of_subset (createPaymentOrderWithUniqueTradeNoTx_only ..) (by decide)) fun _ =>
    .bind (only_of_quiet (ensurePaymentTaskTx_quiet ..)) fun _ =>
    .bind (only_of_quiet (reservePaymentLimitTxAt_quiet ..)) fun _ =>
    .bind (only_of_subset createProjectionTx_only (by decide)) fun _ =>
    .bind (only_of_subset (updateOrder_only ..) (by decide)) fun _ =>
    .bind (only_of_quiet (consumeQuote_quiet ..)) fun _ => .pure

theorem createPaymentOrderFromQuoteTx_only :
    (createPaymentOrderFromQuoteTx env userId quoteId requestId expectedConfigurationVersion
      tradeNos).Within (only orderParts) := by
  refine .check fun _ => .bind (.when fun _ =>
    .bind (only_of_quiet lockPaymentConfigurationFenceTx_quiet) fun _ => .failIf) fun _ =>
    .bind (only_of_quiet (lockPaymentUserGuardTx_quiet ..)) fun _ => .check fun _ =>
    .fetch fun _ => .bind .read fun existing? => ?_
  cases existing? with
  | some => exact only_of_quiet (retriedOrderTx_quiet ..)
  | none => exact createFromQuoteTx_only

theorem claimPaymentOrderStart_only :
    (claimPaymentOrderStart env tradeNo).Within (only [.orders]) := by
  refine .bind .read fun order? => ?_
  cases order? with
  | none => exact .pure
  | some => exact .ite (fun _ => .bind (updateOrder_only ..) fun _ => .pure) fun _ => .pure

theorem savePaymentOrderStartWithProviderIdentity_only :
    (savePaymentOrderStartWithProviderIdentity env tradeNo flow payload encryptedPayload expiresAt
      providerOrderKey providerPaymentKey creationFenceToken).Within (only orderParts) :=
  .check fun _ => .check fun _ => .fetch fun _ =>
    .ite (fun _ => .pure) fun _ => .check fun _ => .check fun _ =>
    .bind (only_of_quiet (bindAndValidateProviderIdentityTx_quiet ..)) fun _ =>
    .bind (only_of_subset (updateOrder_only ..) (by decide)) fun _ =>
    .bind (.when fun _ => only_of_subset (updateSubscriptionOrders_only ..) (by decide)) fun _ =>
    .when fun _ => only_of_quiet (updatePaymentLimitReservationExpiryTx_quiet ..)

theorem markPaymentOrderFailed_only :
    (markPaymentOrderFailed env tradeNo reason creationFenceToken).Within (only orderParts) :=
  .fetch fun _ => .check fun _ => .check fun _ =>
    .bind (only_of_subset (updateOrder_only ..) (by decide)) fun _ =>
    .bind (only_of_quiet (releasePaymentLimitReservationTx_quiet ..)) fun _ =>
      only_of_subset (syncPaymentProjectionStatusTx_only _) (by decide)

theorem expirePaymentOrderTx_only :
    (expirePaymentOrderTx order now).Within (only orderParts) := by
  refine .check fun _ => .ite (fun _ => .pure) fun _ =>
    .bind (only_of_subset (updateOrder_only ..) (by decide)) fun _ =>
    .bind (only_of_quiet (releasePaymentLimitReservationTx_quiet ..)) fun _ => ?_
  split
  · exact .bind (only_of_subset (closePendingProjectionTx_only ..) (by decide)) fun _ => .pure
  · exact .bind (only_of_subset (closePendingProjectionTx_only ..) (by decide)) fun _ => .pure
  · exact .pure

theorem expirePaymentOrderIfDue_only :
    (expirePaymentOrderIfDue env userId tradeNo lease).Within (only orderParts) :=
  .bind (within_of_readOnly (assertLeaseIfAny_readOnly ..)) fun _ => .fetch fun _ => .void expirePaymentOrderTx_only

theorem expireDuePaymentOrder_only :
    (expireDuePaymentOrder orderId now).Within (only orderParts) := by
  refine .bind .read fun order? => ?_
  cases order? with
  | none => exact .pure
  | some => exact .void expirePaymentOrderTx_only

theorem markPaymentOrderManualReview_only :
    (markPaymentOrderManualReview env tradeNo reason creationFenceToken lease).Within
      (only orderParts) :=
  .check fun _ => .bind (within_of_readOnly (assertLeaseIfAny_readOnly ..)) fun _ =>
    .fetch fun _ => .ite (fun _ => .pure) fun _ =>
    .bind (within_of_readOnly (leaseFenceTx_readOnly ..)) fun _ => .check fun _ =>
    .bind (only_of_subset (updateOrder_only ..) (by decide)) fun _ =>
      only_of_subset (syncPaymentProjectionStatusTx_only _) (by decide)

def rejectParts : List Component := [.orders, .topUps, .subscriptionOrders, .ledger, .events]

theorem rejectPaymentOrderByAdminTx_only :
    (rejectPaymentOrderByAdminTx env order input payload eventKey).Within (only rejectParts) :=
  .bind (within_of_readOnly (paymentEntitlementGrantedTx_readOnly _)) fun _ =>
    .check fun _ =>
    .bind (only_of_bookkeeping (createAdminPaymentEventTx_bookkeeping ..) (by decide)) fun _ =>
    .bind (only_of_subset (updateOrder_only ..) (by decide)) fun _ =>
    .bind (only_of_quiet (releasePaymentLimitReservationTx_quiet ..)) fun _ =>
    .bind (only_of_subset (syncPaymentProjectionStatusTx_only _) (by decide)) fun _ =>
    .bind (only_of_subset (completePaymentProjectionTx_only ..) (by decide)) fun _ =>
    .bind (only_of_subset (createPaymentLedgerEntryTx_only ..) (by decide)) fun _ =>
    .bind (only_of_bookkeeping (finishPaymentEventTx_bookkeeping ..) (by decide)) fun _ => .pure

theorem admitLinkTx_quiet :
    (admitLinkTx env event order input).Within quiet :=
  .check fun _ => .check fun _ => .check fun _ => .check fun _ =>
    .bind (linkCredentialGenerationTx_quiet ..) fun _ => .check fun _ =>
    .bind (within_of_readOnly (paymentEntitlementGrantedTx_readOnly _)) fun _ =>
    .check fun _ =>
    .bind (within_of_readOnly (validateUnmatchedEventOrderIdentityTx_readOnly ..)) fun _ =>
    .bind (.mapErr (bindAndValidateProviderIdentityTx_quiet ..)) fun _ =>
    .bind (.void (.mapErr (bindStripeCustomerTx_quiet ..))) fun _ => .pure

theorem reopenOrderTx_only :
    (reopenOrderTx order).Within (only [.topUps, .subscriptionOrders]) :=
  .ite (fun _ => .bind (syncPaymentProjectionStatusTx_only _) fun _ => .pure) fun _ =>
    .ite (fun _ => .pure) fun _ => .pure

theorem applyLinkTx_only :
    (applyLinkTx env event order input payload eventKey).Within (only grantParts) :=
  .bind (only_of_bookkeeping (createAdminPaymentEventTx_bookkeeping ..) (by decide)) fun _ =>
    .bind (only_of_bookkeeping (updateEvent_bookkeeping ..) (by decide)) fun _ =>
    .bind (only_of_subset reopenOrderTx_only (by decide)) fun _ =>
    .bind (.mapErr (fulfillPaymentOrderTx_only ..)) fun _ =>
    .bind (only_of_bookkeeping (finishPaymentEventTx_bookkeeping ..) (by decide)) fun _ =>
    .bind (only_of_subset (createPaymentLedgerEntryTx_only ..) (by decide)) fun _ =>
    .bind (only_of_bookkeeping (finishPaymentEventTx_bookkeeping ..) (by decide)) fun _ =>
    .bind (only_of_bookkeeping (createPaymentOperationsAuditTx_bookkeeping ..) (by decide)) fun _ =>
      .pure

theorem linkUnmatchedPaymentEventTx_only :
    (linkUnmatchedPaymentEventTx env event order input).Within (only grantParts) :=
  .bind (within_of_readOnly (processedAdminActionRetryTx_readOnly ..)) fun _ =>
    .ite (fun _ => .check fun _ => .pure) fun _ =>
      .bind (only_of_quiet admitLinkTx_quiet) fun _ => applyLinkTx_only

theorem resolveUnmatchedPaymentEventByAdmin_only :
    (resolveUnmatchedPaymentEventByAdmin env input).Within (only grantParts) := by
  refine .bind (.check fun _ => .failIf) fun _ =>
    .bind (.when fun _ => .void (only_of_quiet lockPaymentConfigurationFenceTx_quiet)) fun _ =>
    .fetch fun _ => .check fun _ => ?_
  split
  · exact only_of_bookkeeping (dismissUnmatchedPaymentEventTx_bookkeeping ..) (by decide)
  · exact .fetch fun _ => linkUnmatchedPaymentEventTx_only

/-! ### Frames of all calls -/

structure CarriesCalls (F : Frame Database) : Prop extends Carries F where
  close : ∀ env input, (resolvePaymentDebtByAdmin env input).Within F

theorem resolvePaymentOrderByAdmin_carried (hF : Carries F) :
    (resolvePaymentOrderByAdmin env input).Within F := by
  refine .bind (.check fun _ => .check fun _ => .failIf) fun _ => .fetch fun order =>
    .bind (within_of_readOnly (processedAdminActionRetryTx_readOnly ..)) fun _ =>
    .ite (fun _ => .pure) fun _ => .check fun _ => .bind ?_ fun _ =>
    .bind (hF.bookkeeping (createPaymentOperationsAuditTx_bookkeeping ..)) fun _ => .pure
  unfold applyAdminOrderActionTx
  split
  · exact .fail
  · exact .bind (hF.only rejectPaymentOrderByAdminTx_only (by decide)) fun _ => .pure
  · exact .bind (hF.only rejectPaymentOrderByAdminTx_only (by decide)) fun _ => .pure
  · exact confirmExternalPaymentRefundTx_carried hF ..

theorem PaymentCall.body_carried (hF : CarriesCalls F) (env : PaymentEnv) (call : PaymentCall) :
    (call.body env).Within F := by
  have h := hF.toCarries
  cases call with
  | createOrder => exact .void (h.only createPaymentOrderFromQuoteTx_only (by decide))
  | existingOrder => exact .void (h.quiet (existingOrderAfterErrorTx_quiet ..))
  | claimStart => exact .void (h.only claimPaymentOrderStart_only (by decide))
  | saveStart => exact h.only savePaymentOrderStartWithProviderIdentity_only (by decide)
  | startFailed => exact h.only markPaymentOrderFailed_only (by decide)
  | expireIfDue => exact h.only expirePaymentOrderIfDue_only (by decide)
  | expireDue => exact h.only expireDuePaymentOrder_only (by decide)
  | sendToReview => exact h.only markPaymentOrderManualReview_only (by decide)
  | received => exact h.bookkeeping (recordPaymentEventReceived_bookkeeping ..)
  | validationFailed => exact h.bookkeeping (markPaymentEventValidationFailed_bookkeeping ..)
  | retained => exact h.bookkeeping (recordPaymentEventManualReview_bookkeeping ..)
  | event => exact .void (processPaymentEventTx_carried h ..)
  | orderAction => exact .void (resolvePaymentOrderByAdmin_carried h)
  | eventAction => exact .void (h.only resolveUnmatchedPaymentEventByAdmin_only (by decide))
  | debtResolution => exact .void (hF.close ..)

theorem PaymentCall.step_carried (hF : CarriesCalls F) (env : PaymentEnv) (call : PaymentCall)
    (db : Database) : F.rel db (call.step env db) :=
  (call.body_carried hF env).commit db

end XyApi.Payment

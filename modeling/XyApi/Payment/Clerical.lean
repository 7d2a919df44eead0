import XyApi.Payment.Books

/-!
The functions of a payment transaction that leave the books alone: limits,
credentials, keys and customers, guards, tasks, quotes, audit rows, and the inbox
itself. Those that also leave the files alone are quiet.
-/

namespace XyApi.Payment

open Lib

variable (env : PaymentEnv) (event : PaymentEvent) (order : PaymentOrder)
    (input : PaymentEventInput) (provider : PaymentProvider) (now orderId : Int)

/-! ### Inbox -/

theorem validateIdentity_readOnly : (validateIdentity input).Within readOnly :=
  .check fun _ => .check fun _ => .failIf

theorem validate_readOnly : (validate input).Within readOnly :=
  .bind (validateIdentity_readOnly input) fun _ => .check fun _ =>
    .check fun _ => .check fun _ => .check fun _ =>
    .check fun _ => .check fun _ => .failIf

theorem upsertPaymentEvent_bookkeeping : (upsertPaymentEvent env event).Within bookkeeping := by
  refine .check fun _ => .bind .read fun existing? => ?_
  cases existing? with
  | some => exact .pure
  | none =>
    exact .bind .read fun _ => .fetch fun _ =>
      .bind (.write fun _ => rfl) fun _ => .pure

theorem finishPaymentEventWithReviewCodeTx_bookkeeping :
    (finishPaymentEventWithReviewCodeTx env eventId status reviewCode lastError orderId).Within
      bookkeeping :=
  updateEvent_bookkeeping ..

theorem finishPaymentEventTx_bookkeeping :
    (finishPaymentEventTx env eventId status lastError orderId).Within bookkeeping :=
  updateEvent_bookkeeping ..

theorem recordPaymentEventReceived_bookkeeping :
    (recordPaymentEventReceived env input).Within bookkeeping :=
  .bind (within_of_readOnly (validateIdentity_readOnly _)) fun _ =>
    .void (upsertPaymentEvent_bookkeeping ..)

theorem markPaymentEventValidationFailed_bookkeeping :
    (markPaymentEventValidationFailed env provider eventKey reasonCode).Within bookkeeping :=
  .check fun _ => .fetch fun _ =>
    .when fun _ => updateEvent_bookkeeping ..

theorem recordPaymentEventManualReview_bookkeeping :
    (recordPaymentEventManualReview env input reason).Within bookkeeping :=
  .bind (within_of_readOnly (validateIdentity_readOnly _)) fun _ =>
    .bind (upsertPaymentEvent_bookkeeping ..) fun _ =>
      .ite (fun _ => .pure) fun _ => updateEvent_bookkeeping ..

/-! ### Credentials, keys and customers -/

theorem lockPaymentConfigurationFenceTx_quiet :
    lockPaymentConfigurationFenceTx.Within quiet :=
  .bind (.write fun _ => rfl) fun _ => .fetch fun _ => .require

theorem storedCredentialBoundary_readOnly (key : String) :
    (storedCredentialBoundary key).Within readOnly := by
  refine .bind .read fun option? => ?_
  cases option? with
  | none => exact .pure
  | some => exact .bind .require fun _ => .pure

theorem paymentCredentialGenerationAvailableTx_readOnly :
    (paymentCredentialGenerationAvailableTx provider generation createdAt now).Within readOnly := by
  refine .ite (fun _ => .pure) fun _ => ?_
  cases credentialKeys provider with
  | none => exact .pure
  | some =>
    have hStored := storedCredentialBoundary_readOnly
    exact .bind (hStored _) fun _ => .bind (hStored _) fun _ => .bind (hStored _) fun _ =>
      .bind (hStored _) fun _ => .pure

theorem lockPaymentOrderForEventTx_readOnly : (lockPaymentOrderForEventTx input).Within readOnly :=
  .ite (fun _ => .read) fun _ => .ite (fun _ => .read) fun _ => .ite (fun _ => .read) fun _ =>
    .pure

theorem bindAndValidateProviderIdentityTx_quiet :
    (bindAndValidateProviderIdentityTx env order inputOrderKey inputPaymentKey).Within quiet :=
  .check fun _ => .bind .require fun _ => .bind .require fun _ =>
    .ite (fun _ => .pure) fun _ => .bind .read fun _ => .check fun _ =>
      .bind (updateOrder_quiet fun _ => rfl) fun _ => .pure

theorem retiredStripeCustomerAllowedForOrderTx_readOnly :
    (retiredStripeCustomerAllowedForOrderTx order customerId).Within readOnly :=
  .bind .read fun _ => .check fun _ => .ite (fun _ => .pure) fun _ =>
    .check fun _ => .check fun _ => .pure

theorem createCustomerBinding_quiet :
    (writePayments (createCustomerBinding binding)).Within quiet := by
  apply writePayments_quiet <;> intro p <;> unfold createCustomerBinding <;> split <;> rfl

/-- The customer of the buyer is written to a row that has none. -/
theorem bindStripeCustomerTx_quiet :
    (bindStripeCustomerTx order customerId).Within quiet := by
  refine ⟨fun {db b db'} h => ?_⟩
  unfold bindStripeCustomerTx at h
  dsimp only at h
  rw [Tx.ite_ok_iff] at h
  rcases h with ⟨-, h⟩ | ⟨-, h⟩
  · exact Tx.Within.pure.of_ok h
  · simp only [Tx.failIf_bind_ok_iff, Tx.read_bind_apply, Tx.require_bind_ok_iff] at h
    obtain ⟨-, user, hUser, h⟩ := h
    rw [Tx.bind_ok_iff] at h
    obtain ⟨retired, db₁, hRetired, h⟩ := h
    obtain rfl : db₁ = db := (retiredStripeCustomerAllowedForOrderTx_readOnly ..).of_ok hRetired
    rw [Tx.ite_ok_iff] at h
    rcases h with ⟨-, h⟩ | ⟨-, h⟩
    · exact Tx.Within.pure.of_ok h
    · simp only [Tx.failIf_bind_ok_iff, Tx.read_bind_apply] at h
      obtain ⟨-, -, h⟩ := h
      obtain ⟨u, db₂, hBinding, h⟩ := Tx.bind_ok h
      have hFirst := (createCustomerBinding_quiet ..).of_ok hBinding
      have hUsers : db₂.users = db₁.users := by
        obtain rfl := Tx.write_ok_iff.mp hBinding
        rfl
      simp only [Tx.failIf_bind_ok_iff, Tx.read_bind_apply] at h
      obtain ⟨-, -, -, h⟩ := h
      refine quiet.trans hFirst ?_
      rcases Tx.ite_ok_iff.mp h with ⟨-, h⟩ | ⟨-, h⟩
      · exact Tx.Within.pure.of_ok h
      · obtain ⟨u', db₃, hWrite, h⟩ := Tx.bind_ok h
        cases h
        rcases Tx.when_ok_iff.mp hWrite with ⟨-, hWrite⟩ | ⟨-, rfl⟩
        · obtain rfl := Tx.write_ok_iff.mp hWrite
          have hUser₂ : db₂.users.get? order.userId = some user := hUsers ▸ hUser
          exact putUser_rel_quiet hUser₂ rfl
        · exact quiet.refl _

/-! ### Limits -/

theorem addPaymentLimitMinor_readOnly :
    (addPaymentLimitMinor current delta).Within readOnly :=
  .check fun _ => .pure

theorem paymentLimitDayKey_readOnly (timestamp : Int) (timezone : String) :
    (paymentLimitDayKey env timestamp timezone).Within readOnly :=
  .bind .require fun _ => .pure

theorem checkLimitMethod_readOnly :
    (checkLimitMethod provider method).Within readOnly := by
  cases provider with
  | epay => exact .pure
  | stripe | xorPay | creem | waffo | waffoPancake => exact .failIf
  | balance | admin | other => exact .fail

theorem normalizePaymentLimitPolicy_readOnly (policy : PaymentLimitPolicy) :
    (normalizePaymentLimitPolicy env policy).Within readOnly :=
  .check fun _ => .bind (checkLimitMethod_readOnly ..) fun _ =>
    .check fun _ => .check fun _ => .pure

theorem paymentLimitNextDayBoundary_readOnly :
    (paymentLimitNextDayBoundary env provider paymentMethod currency now).Within readOnly := by
  refine .bind .read fun policy? => ?_
  cases policy? with
  | none => exact .pure
  | some =>
    exact .ite (fun _ => .pure) fun _ =>
      .bind (normalizePaymentLimitPolicy_readOnly ..) fun _ => .bind .require fun _ =>
        .check fun _ => .pure

theorem boundPaymentOrderExpiryForLimitTx_readOnly :
    (boundPaymentOrderExpiryForLimitTx env quote proposedExpiresAt).Within readOnly := by
  refine .check fun _ => .bind (paymentLimitNextDayBoundary_readOnly ..) fun b? => ?_
  cases b? with
  | none => exact .pure
  | some => exact .check fun _ => .pure

theorem ensurePaymentLimitBucketTx_quiet :
    (ensurePaymentLimitBucketTx channel dayKey now).Within quiet :=
  .bind (.write fun _ => rfl) fun _ => .bind .read fun _ => .require

theorem updateLimitBucket_quiet (hf : ∀ b, (f b).key = b.key) :
    (updateLimitBucket key f hf).Within quiet :=
  .write fun _ => rfl

theorem setLimitReserved_quiet :
    (setLimitReserved key reservedMinor now).Within quiet :=
  updateLimitBucket_quiet ..

theorem updateLimitReservation_quiet (hf : ∀ r, (f r).paymentOrderId = r.paymentOrderId) :
    (updateLimitReservation orderId f hf).Within quiet :=
  .write fun _ => rfl

theorem releaseExpiredPaymentLimitReservationsTx_quiet :
    (releaseExpiredPaymentLimitReservationsTx bucket now).Within quiet :=
  .check fun _ => .bind .read fun _ => .ite (fun _ => .pure) fun _ =>
    .bind (.write fun _ => rfl) fun _ => .bind (setLimitReserved_quiet ..) fun _ => .pure

theorem reservePaymentLimitTxAt_quiet : (reservePaymentLimitTxAt env order).Within quiet := by
  refine .check fun _ => .check fun _ => .bind .read fun policy? => ?_
  cases policy? with
  | none => exact .pure
  | some =>
    exact .ite (fun _ => .pure) fun _ =>
      .bind (within_of_readOnly (normalizePaymentLimitPolicy_readOnly ..)) fun _ =>
      .check fun _ =>
      .bind (within_of_readOnly (paymentLimitDayKey_readOnly ..)) fun _ =>
      .bind (ensurePaymentLimitBucketTx_quiet ..) fun _ =>
      .bind (releaseExpiredPaymentLimitReservationsTx_quiet ..) fun _ =>
      .check fun _ => .fetch fun _ =>
      .bind (.write fun _ => rfl) fun _ =>
      .bind (within_of_readOnly (addPaymentLimitMinor_readOnly ..)) fun _ =>
      setLimitReserved_quiet ..

theorem updatePaymentLimitReservationExpiryTx_quiet :
    (updatePaymentLimitReservationExpiryTx orderId expiresAt now).Within quiet :=
  .when fun _ => updateLimitReservation_quiet ..

theorem returnReservedTx_quiet :
    (returnReservedTx reservation now).Within quiet :=
  .bind (ensurePaymentLimitBucketTx_quiet ..) fun _ => .check fun _ =>
    setLimitReserved_quiet ..

theorem releasePaymentLimitReservationTx_quiet :
    (releasePaymentLimitReservationTx order now).Within quiet := by
  refine .when fun _ => .bind .read fun reservation? => ?_
  cases reservation? with
  | none => exact .pure
  | some =>
    exact .when fun _ => .check fun _ => .bind (returnReservedTx_quiet ..) fun _ =>
      updateLimitReservation_quiet ..

theorem settlePaymentLimitReservationAtTx_quiet :
    (settlePaymentLimitReservationAtTx env order paidAt now).Within quiet := by
  refine .when fun _ => .bind .read fun reservation? => ?_
  cases reservation? with
  | none => exact .pure
  | some =>
    exact .when fun _ => .check fun _ => .bind .read fun _ =>
      .bind (within_of_readOnly (paymentLimitDayKey_readOnly ..)) fun _ =>
      .bind (.when fun _ => returnReservedTx_quiet ..) fun _ =>
      .bind (ensurePaymentLimitBucketTx_quiet ..) fun _ =>
      .bind (within_of_readOnly (addPaymentLimitMinor_readOnly ..)) fun _ =>
      .bind (updateLimitBucket_quiet ..) fun _ => updateLimitReservation_quiet ..

/-! ### Events in settlement -/

theorem assertLeaseIfAny_readOnly :
    (assertLeaseIfAny env lease).Within readOnly := by
  cases lease with
  | none => exact .pure
  | some =>
    exact .check fun _ => .fetch fun _ => .failIf

theorem replayAttemptsTx_readOnly :
    (replayAttemptsTx event replayEventId expectedAttempts).Within readOnly := by
  cases expectedAttempts with
  | none => exact .pure
  | some =>
    exact .ite (fun _ => .ite (fun _ => .bind .read fun _ => .check fun _ => .pure)
      fun _ => .check fun _ => .pure) fun _ => .pure

theorem evaluateProviderStateOrderTx_readOnly :
    (evaluateProviderStateOrderTx event order input).Within readOnly := by
  refine .ite (fun _ => .pure) fun _ => .bind .read fun applied => ?_
  cases applied with
  | nil => exact .pure
  | cons =>
    exact .ite (fun _ => .pure) fun _ => .ite (fun _ => .pure) fun _ => .ite (fun _ => .pure)
      fun _ => .ite (fun _ => .pure) fun _ => .ite (fun _ => .pure) fun _ =>
        .ite (fun _ => .pure) fun _ => .pure

theorem bindStripeReversalModeTx_quiet : (bindStripeReversalModeTx order input).Within quiet :=
  .ite (fun _ => .ite (fun _ => .bind (updateOrder_quiet fun _ => rfl) fun _ => .pure)
    fun _ => .ite (fun _ => .pure) fun _ => .pure) fun _ => .pure

theorem bindCredentialGenerationTx_quiet :
    (bindCredentialGenerationTx env order input).Within quiet :=
  .ite (fun _ => .pure) fun _ => .ite (fun _ => .pure) fun _ =>
    .bind (.when fun _ => updateOrder_quiet fun _ => rfl) fun _ =>
      .bind (within_of_readOnly (paymentCredentialGenerationAvailableTx_readOnly ..)) fun _ =>
        .pure

theorem paymentOrderHasTerminalAdminDecisionTx_readOnly :
    (paymentOrderHasTerminalAdminDecisionTx orderId).Within readOnly :=
  .check fun _ => .read

theorem admitPaidTx_quiet : (admitPaidTx order input).Within quiet := by
  refine .bind (within_of_readOnly (paymentOrderHasTerminalAdminDecisionTx_readOnly _)) fun _ =>
    .ite (fun _ => .pure) fun _ => .ite (fun _ => .pure) fun _ => .ite (fun _ => .pure) fun _ =>
    .ite (fun _ => .pure) fun _ => .bind (bindStripeCustomerTx_quiet ..).savepoint fun bound => ?_
  cases bound with
  | error => exact .pure
  | ok => exact .pure

theorem admitBoundTx_quiet : (admitBoundTx event order input).Within quiet := by
  refine .ite (fun _ => .pure) fun _ =>
    .bind (within_of_readOnly (evaluateProviderStateOrderTx_readOnly ..)) fun stateOrder => ?_
  cases stateOrder with
  | conflict | stale => exact .pure
  | current => exact .ite (fun _ => admitPaidTx_quiet ..) fun _ => .pure

theorem admitIdentityTx_quiet : (admitIdentityTx env event order input).Within quiet := by
  refine .bind (bindStripeReversalModeTx_quiet ..) fun bound? => ?_
  cases bound? with
  | none => exact .pure
  | some order =>
    refine .ite (fun _ => .pure) fun _ => .bind (bindCredentialGenerationTx_quiet ..) fun r => ?_
    obtain ⟨order, refusal?⟩ := r
    cases refusal? with
    | some => exact .pure
    | none =>
      refine .bind (bindAndValidateProviderIdentityTx_quiet ..).savepoint fun bound => ?_
      cases bound with
      | error => exact .pure
      | ok => exact admitBoundTx_quiet ..

theorem admitTx_quiet : (admitTx env event order input).Within quiet := by
  refine .ite (fun _ => .pure) fun _ => .ite (fun _ => .pure) fun _ => ?_
  cases environmentMismatch order input with
  | some => exact .pure
  | none => exact admitIdentityTx_quiet ..

/-! ### Entitlement and reversal targets -/

theorem topUpEntitlementGrantedTx_readOnly :
    (topUpEntitlementGrantedTx order ledgerGranted).Within readOnly :=
  .fetch fun _ => .check fun _ => .check fun _ =>
    .check fun _ => .pure

theorem subscriptionEntitlementGrantedTx_readOnly :
    (subscriptionEntitlementGrantedTx order ledgerGranted).Within readOnly :=
  .fetch fun _ => .bind .read fun _ => .check fun _ =>
    .check fun _ => .check fun _ => .check fun _ => .pure

theorem paymentEntitlementGrantedTx_readOnly :
    (paymentEntitlementGrantedTx order).Within readOnly := by
  refine .bind .read fun _ => .check fun _ => ?_
  cases order.orderKind with
  | topUp => exact topUpEntitlementGrantedTx_readOnly ..
  | subscription => exact subscriptionEntitlementGrantedTx_readOnly ..
  | other => exact .fail

theorem disputedTotal_readOnly (expectedAmountMinor total : Int)
    (states : List PaymentEventInput) :
    (disputedTotal expectedAmountMinor total states).Within readOnly := by
  induction states generalizing total with
  | nil => exact .pure
  | cons state rest ih =>
    exact .ite (fun _ => ih _) fun _ => .ite (fun _ => .ite (fun _ => .fail) fun _ => ih _)
      fun _ => .ite (fun _ => .fail) fun _ => ih _

theorem paymentDisputedAmountTx_readOnly :
    (paymentDisputedAmountTx event order input).Within readOnly :=
  .ite (fun _ => .ite (fun _ => .check fun _ => .pure) fun _ =>
    .ite (fun _ => .pure) fun _ => .pure) fun _ => .bind .read fun _ => disputedTotal_readOnly ..

theorem legacyExternalRefundWithoutEntitlementResolvedTx_readOnly :
    (legacyExternalRefundWithoutEntitlementResolvedTx env order).Within readOnly := by
  refine .ite (fun _ => .pure) fun _ => .bind .read fun receipts => .bind .read fun refunds => ?_
  split
  · exact .ite (fun _ => .pure) fun _ => .fetch fun _ =>
      .fetch fun _ => .pure
  · exact .pure

theorem grantedReversalTargetTx_readOnly :
    (grantedReversalTargetTx event order input).Within readOnly :=
  .ite (fun _ => .pure) fun _ => .check fun _ =>
    .ite (fun _ => .bind (paymentDisputedAmountTx_readOnly ..) fun _ =>
      .check fun _ => .pure) fun _ => .bind .pure fun _ => .check fun _ => .pure

theorem reversalTargetTx_readOnly : (reversalTargetTx env event order input).Within readOnly :=
  .check fun _ => .check fun _ =>
    .bind (paymentEntitlementGrantedTx_readOnly _).mapErr fun _ =>
      .ite (fun _ => grantedReversalTargetTx_readOnly ..) fun _ =>
        .bind (legacyExternalRefundWithoutEntitlementResolvedTx_readOnly ..) fun _ =>
          .check fun _ => .pure

theorem reversalTargetQuotaTx_readOnly :
    (reversalTargetQuotaTx order targetAmount).Within readOnly :=
  .check fun _ => .check fun _ => .pure

/-! ### Administrators -/

theorem processedAdminActionRetryTx_readOnly :
    (processedAdminActionRetryTx eventKey payloadDigest).Within readOnly := by
  refine .bind .read fun event? => ?_
  cases event? with
  | none => exact .pure
  | some => exact .check fun _ => .check fun _ => .pure

theorem createAdminPaymentEventTx_bookkeeping :
    (createAdminPaymentEventTx env eventKey eventType payload order).Within bookkeeping :=
  .bind (upsertPaymentEvent_bookkeeping ..) fun _ => .check fun _ => .pure

theorem createPaymentOperationsAuditTx_bookkeeping :
    (createPaymentOperationsAuditTx env audit metadata).Within bookkeeping :=
  .check fun _ => .bind .read fun _ => .fetch fun _ =>
    .write fun _ => rfl

theorem dismissUnmatchedPaymentEventTx_bookkeeping (input : PaymentUnmatchedEventActionInput) :
    (dismissUnmatchedPaymentEventTx env event input).Within bookkeeping :=
  .bind (within_of_readOnly (processedAdminActionRetryTx_readOnly ..)) fun _ =>
    .ite (fun _ => .pure) fun _ => .check fun _ =>
    .bind (upsertPaymentEvent_bookkeeping ..) fun _ =>
    .bind (updateEvent_bookkeeping ..) fun _ =>
    .bind (finishPaymentEventTx_bookkeeping ..) fun _ =>
    .bind (createPaymentOperationsAuditTx_bookkeeping ..) fun _ => .pure

theorem linkCredentialGenerationTx_quiet :
    (linkCredentialGenerationTx env event order).Within quiet :=
  .ite (fun _ => .check fun _ =>
    .bind (.when fun _ => updateOrder_quiet fun _ => rfl) fun _ =>
    .bind (within_of_readOnly (paymentCredentialGenerationAvailableTx_readOnly ..)) fun _ =>
    .check fun _ => .pure) fun _ => .pure

theorem validateUnmatchedEventOrderIdentityTx_readOnly :
    (validateUnmatchedEventOrderIdentityTx event order).Within readOnly :=
  .check fun _ => .check fun _ => .check fun _ => .bind .read fun _ =>
    .check fun _ => .bind .read fun _ => .failIf

theorem validateCompletedPaymentDebtResolutionTx_readOnly (input : PaymentDebtResolutionInput)
    (debt : PaymentDebt) (adminEventKey payload : String) :
    (validateCompletedPaymentDebtResolutionTx env input order debt adminEventKey payload).Within
      readOnly :=
  .check fun _ => .fetch fun _ => .check fun _ =>
    .bind .read fun _ => .check fun _ => .bind .read fun _ => .check fun _ => .failIf

/-! ### Orders before payment -/

theorem lockPaymentUserGuardTx_quiet :
    (lockPaymentUserGuardTx userId now).Within quiet :=
  .check fun _ => .bind (.write fun _ => rfl) fun _ => .bind .read fun _ => .require

theorem consumeQuote_quiet : (consumeQuote quoteId now).Within quiet :=
  .write fun _ => rfl

theorem retriedOrderTx_quiet :
    (retriedOrderTx env order quoteId).Within quiet := by
  refine .ite (fun _ => .pure) fun _ => .bind .read fun quote? => ?_
  cases quote? with
  | none => exact .check fun _ => .pure
  | some =>
    exact .check fun _ => .bind (.when fun _ => updateOrder_quiet fun _ => rfl) fun _ =>
      .bind (.when fun _ => consumeQuote_quiet ..) fun _ => .pure

theorem existingOrderAfterErrorTx_quiet :
    (existingOrderAfterErrorTx env userId quoteId requestId e).Within quiet := by
  refine .fetch fun _ => .ite (fun _ => .pure) fun _ =>
    .bind .read fun quote? => ?_
  split
  · exact .bind (.when fun _ => consumeQuote_quiet ..) fun _ => .pure
  · exact .check fun _ => .pure

theorem ensurePaymentTaskTx_quiet :
    (ensurePaymentTaskTx orderId operation availableAt).Within quiet :=
  .bind .read fun _ => .when fun _ => .bind .read fun _ => .fetch fun _ => .write fun _ => rfl

theorem inFlightLimitTx_readOnly :
    (inFlightLimitTx userId provider).Within readOnly :=
  .ite (fun _ => .fetch fun _ => .pure) fun _ => .pure

theorem leaseFenceTx_readOnly :
    (leaseFenceTx order lease creationFenceToken).Within readOnly := by
  cases lease with
  | none => exact .pure
  | some =>
    exact .check fun _ => .ite (fun _ => .check fun _ => .pure) fun _ => .pure

end XyApi.Payment

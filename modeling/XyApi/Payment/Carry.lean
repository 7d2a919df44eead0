import XyApi.Payment.Touch

/-!
Frames that payment transactions stay within because their debt functions do.
Apart from these functions no transaction of a payment touches a debt or the
standing of an account, so a frame that only looks at those is settled by three
functions and the administrator's resolution. The traversal is made once, for
any such frame.
-/

namespace XyApi.Payment

open Lib Billing Subscription

def freeParts : List Component :=
  [.wallet, .affiliate, .orders, .events, .topUps, .ledger, .rewards, .subscriptions,
    .subscriptionOrders]

/-- The frame looks at nothing outside debts and standings, and the debt functions
stay within it. -/
structure Carries (F : Frame Database) : Prop where
  free : ∀ {db db'}, (only freeParts).rel db db' → F.rel db db'
  add : ∀ env order userId debtKind quota amountMinor,
    (addPaymentDebtTx env order userId debtKind quota amountMinor true).Within F
  resolve : ∀ env order userId debtKind quota,
    (resolvePaymentDebtQuotaTx env order userId debtKind quota).Within F
  restore : ∀ env order debtKind amountMinor,
    (restorePaymentDebtAmountTx env order debtKind amountMinor).Within F

variable (hF : Carries F) (env : PaymentEnv) (event : PaymentEvent)
    (order : PaymentOrder) (input : PaymentEventInput) (result : PaymentSettlementResult)
    (targetAmount : Int)

section Traversal

variable {α : Type} {x : DbTx α}

include hF

theorem Carries.only (h : x.Within (only touched)) (hSub : touched ⊆ freeParts) : x.Within F :=
  (only_of_subset h hSub).mono fun _ _ => hF.free

theorem Carries.quiet (h : x.Within quiet) : x.Within F :=
  (only_of_quiet h).mono fun _ _ => hF.free

theorem Carries.bookkeeping (h : x.Within bookkeeping) : x.Within F :=
  (only_of_bookkeeping h (by decide)).mono fun _ _ => hF.free

/-! ### Reversals -/

theorem reverseUserPaymentQuotaTx_carried (userId quota : Int) (debtKind : DebtKind) :
    (reverseUserPaymentQuotaTx env order userId quota debtKind).Within F :=
  .ite (fun _ => .pure) fun _ => .fetch fun _ =>
    .check fun _ =>
    .bind (.when fun _ => hF.only (applyUserQuotaDeltaTx_only ..) (by decide)) fun _ =>
    .bind (.when fun _ => hF.add ..) fun _ => .pure

theorem restoreUserPaymentQuotaTx_carried (userId quota : Int) (debtKind : DebtKind) :
    (restoreUserPaymentQuotaTx env order userId quota debtKind).Within F :=
  .ite (fun _ => .pure) fun _ => .bind (hF.resolve ..) fun _ =>
    .bind (.when fun _ => hF.only (applyUserQuotaDeltaTx_only ..) (by decide)) fun _ => .pure

theorem reverseRewardWalletTx_carried (inviterId wallet : Int) :
    (reverseRewardWalletTx env order inviterId wallet).Within F :=
  .ite (fun _ => .void (reverseUserPaymentQuotaTx_carried hF ..)) fun _ =>
    .when fun _ => .void (restoreUserPaymentQuotaTx_carried hF ..)

theorem reverseRewardRecordTx_carried (record : AffiliateRewardRecord) :
    (reverseRewardRecordTx env order targetAmount record).Within F :=
  .bind (within_of_readOnly (rewardTargetQuotaTx_readOnly ..)) fun _ => .ite (fun _ => .pure)
    fun _ => .bind (hF.only (reverseRewardBalanceTx_only ..) (by decide)) fun _ =>
      .bind (reverseRewardWalletTx_carried hF ..) fun _ =>
      .bind (hF.only (updateRewards_only ..) (by decide)) fun _ => .pure

theorem reverseRewardRecordsTx_carried (inviterId totalDelta : Int)
    (records : List AffiliateRewardRecord) :
    (reverseRewardRecordsTx env order targetAmount inviterId totalDelta records).Within F := by
  induction records generalizing inviterId totalDelta with
  | nil => exact .pure
  | cons record rest ih =>
    exact .check fun _ => .check fun _ =>
      .bind (reverseRewardRecordTx_carried hF ..) fun _ => ih _ _

theorem reconcileAffiliateRewardReversalTx_carried :
    (reconcileAffiliateRewardReversalTx env event order targetAmount).Within F :=
  .check fun _ => .fetch fun _ => .bind .read fun _ =>
    .bind (reverseRewardRecordsTx_carried hF ..) fun _ =>
      .when fun _ => hF.only (appendLedgerEntry_only ..) (by decide)

theorem moveBuyerReversalTx_carried (delta : Int) :
    (moveBuyerReversalTx env event order targetAmount delta).Within F :=
  .ite
    (fun _ => .bind (reverseUserPaymentQuotaTx_carried hF ..) fun _ =>
      .bind (hF.only (createPaymentLedgerEntryTx_only ..) (by decide)) fun _ => .pure)
    fun _ => .ite
      (fun _ => .bind (restoreUserPaymentQuotaTx_carried hF ..) fun _ =>
        .bind (hF.only (createPaymentLedgerEntryTx_only ..) (by decide)) fun _ => .pure)
      fun _ => .pure

theorem saveReversal_carried : (saveReversal order).Within F :=
  hF.only (updateOrder_only ..) (by decide)

theorem syncPaymentProjectionStatusTx_carried : (syncPaymentProjectionStatusTx order).Within F :=
  hF.only (syncPaymentProjectionStatusTx_only _) (by decide)

theorem reconcileTopUpReversalTx_carried :
    (reconcileTopUpReversalTx env event order targetAmount result).Within F :=
  .bind (within_of_readOnly (reversalTargetQuotaTx_readOnly ..)) fun _ =>
    .bind (moveBuyerReversalTx_carried hF ..) fun _ =>
    .bind (reconcileAffiliateRewardReversalTx_carried hF ..) fun _ =>
    .bind (within_of_readOnly (hasAnyOpenPaymentDebtTx_readOnly ..)) fun _ =>
    .bind (saveReversal_carried hF _) fun _ =>
    .bind (syncPaymentProjectionStatusTx_carried hF _) fun _ => .pure

omit hF in
theorem moveUserGroupTx_quiet :
    (moveUserGroupTx userId group).Within Payment.quiet where
  of_ok {db _ _} h := by
    simp only [moveUserGroupTx, Tx.read_bind_apply] at h
    cases hUser : db.users.get? userId with
    | none =>
      simp only [hUser, Tx.pure_ok_iff] at h
      obtain ⟨-, rfl⟩ := h
      exact Payment.quiet.refl _
    | some =>
      simp only [hUser, Tx.write_ok_iff] at h
      subst h
      exact putUser_rel_quiet hUser rfl

omit hF in
theorem downgradeUserGroupForSubscriptionTx_quiet :
    (downgradeUserGroupForSubscriptionTx env sub now).Within Payment.quiet := by
  refine .ite (fun _ => .pure) fun _ => .check fun _ => .bind .read fun _ =>
    .bind .read fun _ => .ite (fun _ => .pure) fun _ => ?_
  split
  · exact .when fun _ => moveUserGroupTx_quiet ..
  · exact .when fun _ => moveUserGroupTx_quiet ..

omit hF in
/-- Ending a subscription touches its row and the group of its user. -/
theorem endSubscription_only :
    (Tx.write (Database.putSubscription ended) >>= fun _ => downgradeUserGroupForSubscriptionTx env
      ended env.now : DbTx Unit).Within (Payment.only [.subscriptions]) :=
  .bind (.write fun _ c hc => by cases c <;> first | rfl | exact absurd (by simp) hc) fun _ =>
    only_of_quiet (downgradeUserGroupForSubscriptionTx_quiet ..)

theorem cancelSubscriptionTx_carried (subscription : UserSubscription) :
    (cancelSubscriptionTx env event order subscription targetAmount).Within F :=
  .bind (.void (hF.restore ..)) fun _ => .check fun _ => .check fun _ =>
    .bind (.when fun _ => hF.only (endSubscription_only ..) (by decide)) fun _ =>
    .check fun _ => .bind (.when fun _ => hF.add ..) fun _ =>
    .bind (within_of_readOnly (hasAnyOpenPaymentDebtTx_readOnly ..)) fun _ =>
    .bind (hF.only (createPaymentLedgerEntryTx_only ..) (by decide)) fun _ => .pure

theorem restoreSubscriptionOrderTx_carried : (restoreSubscriptionOrderTx env order).Within F :=
  .check fun _ => .bind (.void (hF.restore ..)) fun _ => .pure

theorem holdSubscriptionOrderTx_carried :
    (holdSubscriptionOrderTx env order targetAmount).Within F :=
  .bind (hF.add ..) fun _ => .pure

theorem reconcileSubscriptionReversalTx_carried :
    (reconcileSubscriptionReversalTx env event order input targetAmount).Within F := by
  have hSave (order : PaymentOrder) : Tx.Within F (do
      let order := { order with updatedAt := env.now, version := order.version + 1 }
      saveReversal order
      syncPaymentProjectionStatusTx order
      pure order) :=
    .bind (saveReversal_carried hF _) fun _ =>
      .bind (syncPaymentProjectionStatusTx_carried hF _) fun _ => .pure
  exact .check fun _ => .fetch fun _ =>
    .ite (fun _ => .bind (restoreSubscriptionOrderTx_carried hF ..) hSave) fun _ =>
    .ite (fun _ => .bind (holdSubscriptionOrderTx_carried hF ..) hSave) fun _ =>
      .bind (cancelSubscriptionTx_carried hF ..) hSave

theorem reconcilePaymentReversalTx_carried :
    (reconcilePaymentReversalTx env event order input result).Within F := by
  refine .bind (within_of_readOnly (reversalTargetTx_readOnly ..)) fun target? => ?_
  cases target? with
  | none => exact .pure
  | some =>
    exact .ite
      (fun _ => .bind (reconcileSubscriptionReversalTx_carried hF ..) fun _ => .pure)
      fun _ => reconcileTopUpReversalTx_carried hF ..

/-! ### Events -/

theorem markPaymentManualReviewForOrderTx_carried (reason : String) (reviewErr : Err) :
    (markPaymentManualReviewForOrderTx env event order reason reviewErr result).Within F :=
  hF.only (markPaymentManualReviewForOrderTx_only ..) (by decide)

theorem concludeTx_carried : (concludeTx env event order input result).Within F :=
  .ite
    (fun _ => .bind (hF.only (failOrExpirePaymentOrderTx_only ..) (by decide)) fun _ =>
      .bind (hF.bookkeeping (finishPaymentEventTx_bookkeeping ..)) fun _ => .pure)
    fun _ => .bind .pure fun _ =>
      .bind (hF.bookkeeping (finishPaymentEventTx_bookkeeping ..)) fun _ => .pure

theorem applyReversalTx_carried : (applyReversalTx env event order input result).Within F := by
  refine .ite (fun _ => .bind (.savepoint (reconcilePaymentReversalTx_carried hF ..))
    fun reversed => ?_) fun _ => concludeTx_carried hF ..
  cases reversed with
  | ok => exact concludeTx_carried hF ..
  | error =>
    exact .ite (fun _ => markPaymentManualReviewForOrderTx_carried hF ..) fun _ => .fail

theorem applyAdmittedTx_carried : (applyAdmittedTx env event order input result).Within F := by
  refine .ite (fun _ => .bind (.savepoint (hF.only (fulfillPaymentOrderTx_only ..) (by decide)))
    fun fulfilled => ?_) fun _ => applyReversalTx_carried hF ..
  cases fulfilled with
  | ok => exact applyReversalTx_carried hF ..
  | error =>
    exact .ite (fun _ => markPaymentManualReviewForOrderTx_carried hF ..) fun _ => .fail

theorem settleOrderTx_carried : (settleOrderTx env event order input).Within F := by
  refine .bind (hF.quiet (admitTx_quiet ..)) fun admission => ?_
  cases admission with
  | review => exact markPaymentManualReviewForOrderTx_carried hF ..
  | afterAdminDecision =>
    exact hF.only (markPaymentManualReviewPreservingProjectionTx_only ..) (by decide)
  | stale =>
    exact .bind (hF.bookkeeping (finishPaymentEventTx_bookkeeping ..)) fun _ => .pure
  | admitted => exact applyAdmittedTx_carried hF ..

theorem reviewUnmatchedTx_carried (reviewCode reason : String) (e : Err) :
    (reviewUnmatchedTx env event reviewCode reason e).Within F :=
  .bind (hF.bookkeeping (finishPaymentEventWithReviewCodeTx_bookkeeping ..)) fun _ => .pure

theorem orderNotFoundTx_carried : (orderNotFoundTx env event input).Within F :=
  .ite (fun _ => reviewUnmatchedTx_carried hF ..) fun _ =>
    .bind (hF.bookkeeping (finishPaymentEventTx_bookkeeping ..)) fun _ => .pure

end Traversal

/-! ### Adoption of older rows -/

theorem insertOrder_only : (insertOrder row).Within (only [.orders]) :=
  .bind .read fun _ => .check fun _ => .bind .read fun _ => .fetch fun _ =>
    .bind (.write fun _ c hc => by cases c <;> first | rfl | exact absurd (by simp) hc) fun _ =>
      .pure

theorem legacyPaymentMoneyMinorExact_readOnly :
    (legacyPaymentMoneyMinorExact amount exponent bound).Within readOnly :=
  .bind .require fun _ => .check fun _ => .pure

theorem validateLegacyPaymentProviderAndMethod_readOnly :
    (validateLegacyPaymentProviderAndMethod storedProvider storedMethod input).Within readOnly :=
  .ite (fun _ => .pure) fun _ => .failIf

theorem newSubscriptionPlanSnapshot_readOnly :
    (newSubscriptionPlanSnapshot plan).Within readOnly :=
  .bind (validateSubscriptionPlan_readOnly ..) fun _ => .pure

theorem reconstructLegacySubscriptionTx_readOnly (order : SubscriptionOrder)
    (currentPlan : Option SubscriptionPlan) :
    (reconstructLegacySubscriptionTx env input order currentPlan).Within readOnly :=
  .check fun _ => .check fun _ =>
    .bind (.mapErr (legacyPaymentMoneyMinorExact_readOnly ..)) fun _ => .check fun _ =>
    .bind .require fun _ => .check fun _ =>
    .bind (.mapErr (.bind (validateSubscriptionPlan_readOnly ..) fun _ => .check fun _ =>
      .check fun _ => .check fun _ => .failIf)) fun _ =>
    .bind (.mapErr (legacyPaymentMoneyMinorExact_readOnly ..)) fun _ => .check fun _ =>
    .bind (.mapErr (newSubscriptionPlanSnapshot_readOnly ..)) fun _ => .pure

theorem checkAdoptedContractTx_readOnly (order : SubscriptionOrder) :
    (checkAdoptedContractTx env input order).Within readOnly :=
  .check fun _ => .check fun _ => .check fun _ => .check fun _ =>
    .bind (.mapErr (.check fun _ => .bind .require fun _ => .check fun _ =>
      .bind (.void (subscriptionPlan_readOnly _)) fun _ => .pure)) fun _ =>
    .bind (.mapErr (.void (subscriptionPlan_readOnly _))) fun _ => .pure

theorem prepareLegacySubscriptionAdoptionContract_readOnly (order : SubscriptionOrder)
    (currentPlan : Option SubscriptionPlan) :
    (prepareLegacySubscriptionAdoptionContract env input order currentPlan).Within readOnly :=
  .check fun _ => .bind (validateLegacyPaymentProviderAndMethod_readOnly ..) fun _ =>
    .check fun _ =>
    .ite (fun _ => .bind (reconstructLegacySubscriptionTx_readOnly ..)
      (checkAdoptedContractTx_readOnly env input)) fun _ =>
      .bind (.check fun _ => .pure) (checkAdoptedContractTx_readOnly env input)

theorem adoptLegacySubscriptionTx_only :
    (adoptLegacySubscriptionTx env input stored).Within (only [.orders, .subscriptionOrders]) :=
  .bind .read fun _ =>
    .bind (within_of_readOnly (prepareLegacySubscriptionAdoptionContract_readOnly ..)) fun _ =>
    .bind (.when fun _ => .bind
      (within_of_readOnly (paymentCredentialGenerationAvailableTx_readOnly ..)) fun _ => .failIf)
      fun _ => .bind (only_of_subset (insertOrder_only ..) (by simp)) fun _ =>
    .bind (only_of_subset (updateSubscriptionOrders_only ..) (by simp)) fun _ => .pure

theorem rejectLegacyTopUpTx_readOnly : (rejectLegacyTopUpTx env input).Within readOnly :=
  .fetch fun _ =>
    .bind (validateLegacyPaymentProviderAndMethod_readOnly ..) fun _ => .check fun _ =>
    .bind .require fun _ => .bind (legacyPaymentMoneyMinorExact_readOnly ..) fun _ =>
    .check fun _ => .fail

theorem adoptLegacyPaymentOrderTx_only :
    (adoptLegacyPaymentOrderTx env input).Within (only [.orders, .subscriptionOrders]) := by
  refine .check fun _ => .check fun _ => .bind .read fun existing? => ?_
  cases existing? with
  | some => exact .pure
  | none =>
    refine .bind .read fun row? => ?_
    cases row? with
    | some => exact adoptLegacySubscriptionTx_only ..
    | none => exact within_of_readOnly (rejectLegacyTopUpTx_readOnly ..)

/-! ### Calls -/

section Calls

include hF

theorem adoptOrMissTx_carried : (adoptOrMissTx env event input).Within F := by
  refine .ite (fun _ => .bind (.savepoint (hF.only (adoptLegacyPaymentOrderTx_only ..)
    (by decide))) fun adopted => ?_) fun _ => orderNotFoundTx_carried hF ..
  cases adopted with
  | ok => exact settleOrderTx_carried hF ..
  | error =>
    exact .ite (fun _ => reviewUnmatchedTx_carried hF ..) fun _ =>
      .ite (fun _ => orderNotFoundTx_carried hF ..) fun _ => .fail

theorem rejectStripeModeTx_carried (order? : Option PaymentOrder) :
    (rejectStripeModeTx env event input order?).Within F := by
  cases order? with
  | some => exact markPaymentManualReviewForOrderTx_carried hF ..
  | none => exact reviewUnmatchedTx_carried hF ..

theorem applyEventTx_carried : (applyEventTx env event input).Within F := by
  refine .bind (hF.bookkeeping (updateEvent_bookkeeping ..)) fun _ =>
    .ite (fun _ => reviewUnmatchedTx_carried hF ..) fun _ =>
    .ite (fun _ => .bind (hF.bookkeeping (finishPaymentEventTx_bookkeeping ..)) fun _ => .pure)
    fun _ => .bind (within_of_readOnly (lockPaymentOrderForEventTx_readOnly _)) fun order? =>
    .ite (fun _ => rejectStripeModeTx_carried hF ..) fun _ => ?_
  cases order? with
  | some => exact settleOrderTx_carried hF ..
  | none => exact adoptOrMissTx_carried hF ..

theorem rejectReusedEventKeyTx_carried : (rejectReusedEventKeyTx env event).Within F :=
  .bind (.when fun _ => hF.only (updateOrder_only ..) (by decide)) fun _ =>
    .bind (hF.bookkeeping (finishPaymentEventWithReviewCodeTx_bookkeeping ..)) fun _ => .pure

theorem redeliveryTx_carried (replayEventId : Int) (expectedAttempts : Option Int) :
    (redeliveryTx env event input replayEventId expectedAttempts).Within F := by
  refine .ite (fun _ => .bind (rejectReusedEventKeyTx_carried hF ..) fun _ => .pure) fun _ =>
    .bind (.when fun _ => hF.bookkeeping (updateEvent_bookkeeping ..)) fun _ =>
    .bind (within_of_readOnly (replayAttemptsTx_readOnly ..)) fun replayed? => ?_
  cases replayed? with
  | some => exact .pure
  | none => exact .ite (fun _ => .bind .read fun _ => .pure) fun _ => .pure

theorem processPaymentEventTx_carried (replayEventId : Int) (expectedAttempts : Option Int)
    (lease : Option TaskLease) :
    (processPaymentEventTx env input replayEventId expectedAttempts lease).Within F := by
  refine .bind (within_of_readOnly (validate_readOnly _)) fun _ =>
    .bind (within_of_readOnly (assertLeaseIfAny_readOnly ..)) fun _ =>
    .bind (.when fun _ => .void (hF.quiet lockPaymentConfigurationFenceTx_quiet)) fun _ =>
    .bind (hF.bookkeeping (upsertPaymentEvent_bookkeeping ..)) fun r =>
    .ite (fun _ => .bind .pure fun handled? => ?_) fun _ =>
      .bind (redeliveryTx_carried hF ..) fun handled? => ?_
  all_goals
    cases handled? with
    | some => exact .pure
    | none => exact applyEventTx_carried hF ..

theorem confirmExternalPaymentRefundTx_carried (input : PaymentAdminOrderActionInput)
    (payload eventKey : String) :
    (confirmExternalPaymentRefundTx env order input payload eventKey result).Within F := by
  have hRefund : (refundUngrantedOrderTx env order input).Within F :=
    .check fun _ => .bind (hF.only (updateOrder_only ..) (by decide)) fun _ =>
      .bind (syncPaymentProjectionStatusTx_carried hF _) fun _ =>
      .bind (hF.only (completePaymentProjectionTx_only ..) (by decide)) fun _ => .pure
  have hRecord (event : PaymentEvent) (order : PaymentOrder) (result : PaymentSettlementResult)
      (amountMinor : Int) : Tx.Within F (do
      createPaymentLedgerEntryTx env event order .adminExternalRefund amountMinor 0
        "external provider refund confirmed by administrator"
      finishPaymentEventTx env event.id .processed "" order.id
      pure (order, result)) :=
    .bind (hF.only (createPaymentLedgerEntryTx_only ..) (by decide)) fun _ =>
      .bind (hF.bookkeeping (finishPaymentEventTx_bookkeeping ..)) fun _ => .pure
  exact .check fun _ => .check fun _ => .check fun _ =>
    .bind (within_of_readOnly (paymentEntitlementGrantedTx_readOnly _)) fun _ =>
    .bind (hF.bookkeeping (createAdminPaymentEventTx_bookkeeping ..)) fun _ =>
    .bind (hF.bookkeeping (updateEvent_bookkeeping ..)) fun _ =>
    .ite (fun _ => .bind (.mapErr (reconcilePaymentReversalTx_carried hF ..)) fun _ =>
      hRecord ..) fun _ => .bind hRefund fun _ => .bind .pure fun _ => hRecord ..

end Calls

end XyApi.Payment

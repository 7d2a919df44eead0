import XyApi.Payment.Clerical

/-!
Which parts of the books each function of a payment transaction can touch. The
books are cut into components, some of them single columns of the account rows,
and a function is shown once to change no component beyond the ones listed.
Everything coarser that a later argument needs follows from the list.
-/

namespace XyApi.Payment

open Lib Billing Subscription

variable (env : PaymentEnv) (event : PaymentEvent) (order : PaymentOrder)
    (input : PaymentEventInput) (result : PaymentSettlementResult) (debtKind : DebtKind)
    (record : AffiliateRewardRecord) (userId inviterId targetAmount quotaToAdd : Int)

inductive Component
  | members
  | standing
  | wallet
  | affiliate
  | reservations
  | debts
  | orders
  | events
  | topUps
  | ledger
  | rewards
  | subscriptions
  | subscriptionOrders
  deriving DecidableEq, Repr

def userStanding (u : User) : Int × UserStatus × Bool := (u.id, u.status, u.paymentFrozen)

def userWallet (u : User) : Int × Int := (u.id, u.quota)

def userAffiliate (u : User) : Int × Int × Int := (u.id, u.affQuota, u.affHistoryQuota)

def Component.Same (db db' : Database) : Component → Prop
  | members => db'.users.rows.map User.id = db.users.rows.map User.id
  | standing => db'.users.rows.map userStanding = db.users.rows.map userStanding
  | wallet => db'.users.rows.map userWallet = db.users.rows.map userWallet
  | affiliate => db'.users.rows.map userAffiliate = db.users.rows.map userAffiliate
  | reservations => db'.reservations = db.reservations
  | debts => db'.paymentDebts = db.paymentDebts
  | orders => db'.payments.orders.rows.map PaymentOrder.core =
      db.payments.orders.rows.map PaymentOrder.core
  | events => files db' = files db
  | topUps => db'.payments.topUps = db.payments.topUps
  | ledger => db'.payments.ledger = db.payments.ledger
  | rewards => db'.payments.affiliateRewards = db.payments.affiliateRewards
  | subscriptions => db'.subscriptions = db.subscriptions
  | subscriptionOrders => db'.subscriptionOrders.rows.map SubscriptionOrder.core =
      db.subscriptionOrders.rows.map SubscriptionOrder.core

theorem Component.Same.refl (db : Database) (c : Component) : c.Same db db := by
  cases c <;> rfl

def only (touched : List Component) : Frame Database where
  rel db db' := ∀ c ∉ touched, c.Same db db'
  refl db c _ := .refl db c
  trans h₁ h₂ c hc := by
    have hFirst := h₁ c hc
    have hSecond := h₂ c hc
    cases c <;> exact Eq.trans hSecond hFirst

section Rules

variable {α : Type} {x : DbTx α}

theorem only_of_subset (h : x.Within (only touched)) (hSub : touched ⊆ more) :
    x.Within (only more) :=
  h.mono fun _ _ hSame c hc => hSame c fun hMem => hc (hSub hMem)

theorem only_of_books_eq {db db' : Database} (h : books db' = books db) :
    (only [.events]).rel db db' := by
  have hAccounts : db'.users.rows.map User.account = db.users.rows.map User.account :=
    congrArg Books.accounts h
  have hColumn {β : Type} (f : Account → β) : db'.users.rows.map (f ∘ User.account) =
      db.users.rows.map (f ∘ User.account) := by
    rw [← List.map_map, ← List.map_map, hAccounts]
  intro c hc
  cases c with
  | members => exact hColumn Account.id
  | standing => exact hColumn fun a => (a.id, a.status, a.paymentFrozen)
  | wallet => exact hColumn fun a => (a.id, a.quota)
  | affiliate => exact hColumn fun a => (a.id, a.affQuota, a.affHistoryQuota)
  | reservations => exact congrArg Books.reservations h
  | debts => exact congrArg Books.debts h
  | orders => exact congrArg Books.orders h
  | events => exact absurd (by simp) hc
  | topUps => exact congrArg Books.topUps h
  | ledger => exact congrArg Books.ledger h
  | rewards => exact congrArg Books.rewards h
  | subscriptions => exact congrArg Books.subscriptions h
  | subscriptionOrders => exact congrArg Books.subscriptionOrders h

theorem only_of_bookkeeping (h : x.Within bookkeeping) (hMem : .events ∈ touched) :
    x.Within (only touched) :=
  h.mono fun _ _ hBooks c hc =>
    only_of_books_eq hBooks c fun hEvents => hc (List.mem_singleton.mp hEvents ▸ hMem)

theorem only_rel_of_quiet {db db' : Database} (h : quiet.rel db db') :
    (only touched).rel db db' := by
  intro c hc
  by_cases hEvents : c = .events
  · subst hEvents
    exact congrArg Prod.snd h
  · exact only_of_books_eq (congrArg Prod.fst h) c fun hMem => hEvents (List.mem_singleton.mp hMem)

theorem only_of_quiet (h : x.Within quiet) : x.Within (only touched) :=
  h.mono fun _ _ hQuiet => only_rel_of_quiet hQuiet

/-- The components that an account row is cut into. -/
theorem putUser_only {db : Database} {u u' : User} {userId : Int}
    (hUser : db.users.get? userId = some u) (hId : u'.id = u.id)
    (hStanding : .standing ∉ touched → userStanding u' = userStanding u)
    (hWallet : .wallet ∉ touched → userWallet u' = userWallet u)
    (hAffiliate : .affiliate ∉ touched → userAffiliate u' = userAffiliate u) :
    (only touched).rel db (db.putUser u') := by
  have h : db.users.get? u'.id = some u := by rw [hId, Table.key_of_get? hUser, hUser]
  intro c hc
  cases c with
  | members => exact Table.map_rows_put h hId
  | standing => exact Table.map_rows_put h (hStanding hc)
  | wallet => exact Table.map_rows_put h (hWallet hc)
  | affiliate => exact Table.map_rows_put h (hAffiliate hc)
  | _ => rfl

end Rules

/-! ### Rows beside an order -/

theorem appendLedgerEntry_only :
    (appendLedgerEntry entry).Within (only [.ledger]) :=
  .write fun _ c hc => by cases c <;> first | rfl | exact absurd (by simp) hc

theorem createPaymentLedgerEntryTx_only (entryType : LedgerEntryType) (amountMinor quotaDelta : Int)
    (description : String) :
    (createPaymentLedgerEntryTx env event order entryType amountMinor quotaDelta
      description).Within (only [.ledger]) :=
  appendLedgerEntry_only ..

theorem updateTopUps_only (hf : ∀ t, (f t).id = t.id) :
    (updateTopUps p f hf).Within (only [.topUps]) :=
  .write fun _ c hc => by cases c <;> first | rfl | exact absurd (by simp) hc

theorem saveTopUp_only : (saveTopUp topUp).Within (only [.topUps]) :=
  .write fun _ c hc => by cases c <;> first | rfl | exact absurd (by simp) hc

theorem updateSubscriptionOrders_only (hf : ∀ o, (f o).id = o.id) :
    (updateSubscriptionOrders p f hf).Within (only [.subscriptionOrders]) :=
  .write fun _ c hc => by cases c <;> first | rfl | exact absurd (by simp) hc

theorem updateOrder_only (hf : ∀ o, (f o).id = o.id) :
    (updateOrder orderId f hf).Within (only [.orders]) :=
  .write fun _ c hc => by cases c <;> first | rfl | exact absurd (by simp) hc

theorem syncPaymentProjectionStatusTx_only :
    (syncPaymentProjectionStatusTx order).Within (only [.topUps, .subscriptionOrders]) := by
  unfold syncPaymentProjectionStatusTx
  dsimp only
  split
  · exact only_of_subset (updateTopUps_only ..) (by simp)
  · exact only_of_subset (updateSubscriptionOrders_only ..) (by simp)
  · exact .pure

theorem completePaymentProjectionTx_only :
    (completePaymentProjectionTx order completedAt).Within (only [.topUps, .subscriptionOrders]) :=
      by
  unfold completePaymentProjectionTx
  split
  · exact only_of_subset (updateTopUps_only ..) (by simp)
  · exact only_of_subset (updateSubscriptionOrders_only ..) (by simp)
  · exact .pure

theorem closePendingProjectionTx_only :
    (closePendingProjectionTx order status now).Within (only [.topUps, .subscriptionOrders]) :=
  .ite (fun _ => only_of_subset (updateTopUps_only ..) (by simp)) fun _ =>
    only_of_subset (updateSubscriptionOrders_only ..) (by simp)

theorem reviewProjectionTx_only :
    (reviewProjectionTx order reason).Within (only [.topUps, .subscriptionOrders]) := by
  unfold reviewProjectionTx
  split
  · exact only_of_subset (updateTopUps_only ..) (by simp)
  · exact only_of_subset (updateSubscriptionOrders_only ..) (by simp)
  · exact .pure

def reviewParts : List Component := [.orders, .events, .topUps, .subscriptionOrders]

theorem markPaymentManualReviewForOrderTx_only :
    (markPaymentManualReviewForOrderTx env event order reason reviewErr result).Within (only
      reviewParts) :=
  .ite
    (fun _ => .bind (only_of_subset (updateOrder_only ..) (by decide)) fun _ =>
      .bind (only_of_bookkeeping (finishPaymentEventTx_bookkeeping ..) (by decide)) fun _ => .pure)
    fun _ => .bind (only_of_subset (updateOrder_only ..) (by decide)) fun _ =>
      .bind (only_of_bookkeeping (finishPaymentEventTx_bookkeeping ..) (by decide)) fun _ =>
      .bind (only_of_subset (reviewProjectionTx_only ..) (by decide)) fun _ => .pure

theorem markPaymentManualReviewPreservingProjectionTx_only :
    (markPaymentManualReviewPreservingProjectionTx env event order reason reviewErr result).Within
      (only reviewParts) :=
  .bind (only_of_subset (updateOrder_only ..) (by decide)) fun _ =>
    .bind (only_of_bookkeeping (finishPaymentEventTx_bookkeeping ..) (by decide)) fun _ => .pure

/-! ### Wallets and debts -/

theorem applyUserQuotaDeltaTx_only :
    (applyUserQuotaDeltaTx userId delta).Within (only [.wallet]) where
  of_ok h := by
    obtain ⟨users, ⟨user, hUser, rfl⟩, rfl⟩ := applyUserQuotaDeltaTx_ok h
    exact putUser_only hUser rfl (fun _ => rfl)
      (fun hc => absurd (by simp) hc) fun _ => rfl

theorem freezeUser_only (db : Database) : (only [.standing]).rel db (freezeUser userId db) := by
  unfold freezeUser
  cases hUser : db.users.get? userId with
  | none => exact (only _).refl db
  | some =>
    exact putUser_only hUser rfl
      (fun hc => absurd (by simp) hc) (fun _ => rfl) fun _ => rfl

theorem applyDebtFreeze_only :
    (applyDebtFreeze userId freeze).Within (only [.standing]) :=
  .when fun _ => .write fun db => freezeUser_only userId db

theorem releaseUserPaymentFreezeTx_only :
    (releaseUserPaymentFreezeTx userId previousStatus).Within (only [.standing]) where
  of_ok h := by
    cases releaseUserPaymentFreezeTx_ok h with
    | stillOpen => exact (only _).refl _
    | notFrozen => exact (only _).refl _
    | lifted user _ hUser =>
      exact putUser_only hUser rfl (fun hc => absurd (by simp) hc) (fun _ => rfl) fun _ => rfl

theorem releasePaymentFreezeTx_only :
    (releasePaymentFreezeTx debt).Within (only [.standing]) :=
  .when fun _ => .void (releaseUserPaymentFreezeTx_only ..)

def debtParts : List Component := [.debts, .standing]

theorem putDebt_only :
    (Tx.write (Database.putDebt debt) : DbTx Unit).Within (only debtParts) :=
  .write fun _ c hc => by cases c <;> first | rfl | exact absurd (by decide) hc

theorem previousStatusOfUserTx_readOnly : (previousStatusOfUserTx userId).Within readOnly :=
  .fetch fun _ => ⟨fun h =>
    (paymentFreezePreviousUserStatusTx_ok h).1⟩

theorem addPaymentDebtTx_only :
    (addPaymentDebtTx env order userId debtKind quota amountMinor freeze).Within (only debtParts)
      := by
  refine .check fun _ => .bind .read fun debt? => ?_
  cases debt? with
  | none =>
    exact .bind (within_of_readOnly (previousStatusOfUserTx_readOnly _)) fun _ =>
      .bind .read fun _ => .fetch fun _ =>
      .bind (.write fun _ c hc => by cases c <;> first | rfl | exact absurd (by decide) hc)
        fun _ => only_of_subset (applyDebtFreeze_only ..) (by decide)
  | some =>
    exact .bind (.ite (fun _ => .bind (within_of_readOnly (previousStatusOfUserTx_readOnly _))
      fun _ => .pure) fun _ => .pure) fun _ => .bind (putDebt_only ..) fun _ =>
        only_of_subset (applyDebtFreeze_only ..) (by decide)

theorem saveDebtTx_only : (saveDebtTx debt).Within (only debtParts) :=
  .bind (putDebt_only ..) fun _ =>
    .when fun _ => only_of_subset (releasePaymentFreezeTx_only ..) (by decide)

theorem resolvePaymentDebtQuotaTx_only :
    (resolvePaymentDebtQuotaTx env order userId debtKind quota).Within (only debtParts) := by
  refine .bind .read fun debt? => ?_
  cases debt? with
  | none => exact .pure
  | some => exact .bind (saveDebtTx_only ..) fun _ => .pure

theorem hasAnyOpenPaymentDebtTx_readOnly :
    (hasAnyOpenPaymentDebtTx orderId).Within readOnly :=
  .read

def walletParts : List Component := [.wallet, .debts, .standing]

theorem reverseUserPaymentQuotaTx_only :
    (reverseUserPaymentQuotaTx env order userId quota debtKind).Within (only walletParts) :=
  .ite (fun _ => .pure) fun _ => .fetch fun _ =>
    .check fun _ =>
    .bind (.when fun _ => only_of_subset (applyUserQuotaDeltaTx_only ..) (by decide)) fun _ =>
    .bind (.when fun _ => only_of_subset (addPaymentDebtTx_only ..) (by decide)) fun _ => .pure

theorem restoreUserPaymentQuotaTx_only :
    (restoreUserPaymentQuotaTx env order userId quota debtKind).Within (only walletParts) :=
  .ite (fun _ => .pure) fun _ =>
    .bind (only_of_subset (resolvePaymentDebtQuotaTx_only ..) (by decide)) fun _ =>
    .bind (.when fun _ => only_of_subset (applyUserQuotaDeltaTx_only ..) (by decide)) fun _ =>
      .pure

/-! ### Rewards -/

theorem claimInviteFirstTopupRewardTx_quiet :
    (claimInviteFirstTopupRewardTx env userId).Within quiet where
  of_ok {db _ _} h := by
    simp only [claimInviteFirstTopupRewardTx, Tx.read_bind_apply] at h
    cases hUser : (db.users.get? userId).filter fun u => u.inviteFirstTopupRewardedAt = 0 with
    | none =>
      simp only [hUser, Tx.pure_ok_iff] at h
      obtain ⟨-, rfl⟩ := h
      exact quiet.refl _
    | some =>
      simp only [hUser, Tx.write_bind_apply, Tx.pure_ok_iff] at h
      obtain ⟨-, rfl⟩ := h
      have hGet := (Option.filter_eq_some_iff.mp hUser).1
      exact putUser_rel_quiet hGet rfl

theorem createAffiliateRewardRecord_only :
    (createAffiliateRewardRecord record).Within (only [.rewards]) :=
  .bind .read fun _ => .fetch fun _ =>
    .write fun _ c hc => by cases c <;> first | rfl | exact absurd (by simp) hc

theorem createActivityRewardsTx_only (totalReward : Int) (activities : List InviteRewardActivity) :
    (createActivityRewardsTx record quotaToAdd totalReward activities).Within (only [.rewards]) :=
      by
  induction activities generalizing totalReward with
  | nil => exact .pure
  | cons activity rest ih =>
    exact .ite (fun _ => ih _) fun _ => .bind (createAffiliateRewardRecord_only _) fun _ =>
      .check fun _ => ih _

theorem createInviteLinkBatchTopUpRewardTx_only :
    (createInviteLinkBatchTopUpRewardTx env topUp user quotaToAdd).Within (only [.rewards]) :=
  .bind .read fun _ => .ite
    (fun _ => .bind (only_of_quiet (claimInviteFirstTopupRewardTx_quiet ..)) fun _ =>
      .ite (fun _ => .pure) fun _ => .bind (createActivityRewardsTx_only ..) fun _ => .pure)
    fun _ => .bind .pure fun _ =>
      .ite (fun _ => .pure) fun _ => .bind (createActivityRewardsTx_only ..) fun _ => .pure

theorem addAffiliateBalanceTx_only :
    (addAffiliateBalanceTx inviterId reward).Within (only [.affiliate]) where
  of_ok h := by
    simp only [addAffiliateBalanceTx, Tx.read_bind_apply, Tx.require_bind_ok_iff,
      Tx.write_ok_iff] at h
    obtain ⟨inviter, hInviter, rfl⟩ := h
    have hGet := (Option.filter_eq_some_iff.mp hInviter).1
    exact putUser_only hGet rfl (fun _ => rfl) (fun _ => rfl)
      fun hc => absurd (by simp) hc

theorem inviteRuleAppliesTx_quiet : (inviteRuleAppliesTx env user).Within quiet :=
  .ite (fun _ => .bind .read fun _ => .ite (fun _ => .pure) fun _ =>
    claimInviteFirstTopupRewardTx_quiet ..) fun _ => .pure

theorem applyAffiliateTopUpRewardTx_only :
    (applyAffiliateTopUpRewardTx env topUp quotaToAdd).Within (only [.rewards, .affiliate]) :=
  .ite (fun _ => .pure) fun _ => .fetch fun _ =>
    .ite (fun _ => .pure) fun _ =>
    .ite (fun _ => only_of_subset (createInviteLinkBatchTopUpRewardTx_only ..) (by simp)) fun _ =>
    .bind (only_of_quiet (inviteRuleAppliesTx_quiet ..)) fun _ => .ite (fun _ => .pure) fun _ =>
    .bind (only_of_subset (createAffiliateRewardRecord_only _) (by simp)) fun _ =>
    .bind (only_of_subset (addAffiliateBalanceTx_only ..) (by simp)) fun _ => .pure

theorem reverseRewardBalanceTx_only :
    (reverseRewardBalanceTx inviterId d).Within (only [.affiliate]) where
  of_ok h := by
    unfold reverseRewardBalanceTx at h
    rcases Tx.when_ok_iff.mp h with ⟨-, h⟩ | ⟨-, rfl⟩
    · simp only [Tx.read_bind_apply, Tx.require_bind_ok_iff, Tx.failIf_bind_ok_iff,
        Tx.write_ok_iff] at h
      obtain ⟨inviter, hGet, -, -, -, rfl⟩ := h
      exact putUser_only hGet rfl (fun _ => rfl) (fun _ => rfl)
        fun hc => absurd (by simp) hc
    · exact (only _).refl _

theorem rewardTargetQuotaTx_readOnly :
    (rewardTargetQuotaTx order record targetAmount).Within readOnly :=
  .check fun _ => .pure

theorem reverseRewardWalletTx_only :
    (reverseRewardWalletTx env order inviterId wallet).Within (only walletParts) :=
  .ite (fun _ => .void (reverseUserPaymentQuotaTx_only ..)) fun _ =>
    .when fun _ => .void (restoreUserPaymentQuotaTx_only ..)

def rewardParts : List Component := [.wallet, .debts, .standing, .affiliate, .rewards]

theorem updateRewards_only (hf : ∀ r, (f r).id = r.id) :
    (writePayments fun tables => { tables with
      affiliateRewards := tables.affiliateRewards.updateWhere p f hf }).Within
      (only [.rewards]) :=
  .write fun _ c hc => by cases c <;> first | rfl | exact absurd (by simp) hc

theorem reverseRewardRecordTx_only :
    (reverseRewardRecordTx env order targetAmount record).Within (only rewardParts) :=
  .bind (within_of_readOnly (rewardTargetQuotaTx_readOnly ..)) fun _ => .ite (fun _ => .pure)
    fun _ => .bind (only_of_subset (reverseRewardBalanceTx_only ..) (by decide)) fun _ =>
      .bind (only_of_subset (reverseRewardWalletTx_only ..) (by decide)) fun _ =>
      .bind (only_of_subset (updateRewards_only ..) (by decide)) fun _ => .pure

theorem reverseRewardRecordsTx_only (totalDelta : Int) (records : List AffiliateRewardRecord) :
    (reverseRewardRecordsTx env order targetAmount inviterId totalDelta records).Within (only
      rewardParts) := by
  induction records generalizing inviterId totalDelta with
  | nil => exact .pure
  | cons record rest ih =>
    exact .check fun _ => .check fun _ =>
      .bind (reverseRewardRecordTx_only ..) fun _ => ih _ _

/-! ### Grants -/

theorem creditableTopUpTx_readOnly : (creditableTopUpTx order).Within readOnly :=
  .check fun _ => .fetch fun _ => .check fun _ =>
    .check fun _ => .check fun _ => .pure

def creditParts : List Component := [.rewards, .affiliate, .wallet, .topUps, .ledger]

theorem fulfillTopUpTx_only : (fulfillTopUpTx env event order result).Within (only creditParts) :=
  .bind (within_of_readOnly (creditableTopUpTx_readOnly _)) fun _ =>
    .bind (only_of_subset (applyAffiliateTopUpRewardTx_only ..) (by decide)) fun _ =>
    .bind (only_of_subset (applyUserQuotaDeltaTx_only ..) (by decide)) fun _ =>
    .bind (only_of_subset (saveTopUp_only ..) (by decide)) fun _ =>
    .bind (only_of_subset (createPaymentLedgerEntryTx_only ..) (by decide)) fun _ => .pure

theorem insertSubscriptionOrder_only :
    (insertSubscriptionOrder row).Within (only [.subscriptionOrders]) :=
  .bind .read fun _ => .check fun _ => .bind .read fun _ => .fetch fun _ =>
    .bind (.write fun _ c hc => by cases c <;> first | rfl | exact absurd (by simp) hc) fun _ =>
      .pure

theorem ensureSubscriptionPaymentProjectionTx_only :
    (ensureSubscriptionPaymentProjectionTx env order).Within (only [.subscriptionOrders]) := by
  refine .bind .read fun legacy? => ?_
  cases legacy? with
  | none => exact .bind .require fun _ => insertSubscriptionOrder_only ..
  | some => exact .pure

theorem insertTopUp_only : (insertTopUp row).Within (only [.topUps]) :=
  .bind .read fun _ => .check fun _ => .bind .read fun _ => .fetch fun _ =>
    .bind (.write fun _ c hc => by cases c <;> first | rfl | exact absurd (by simp) hc) fun _ =>
      .pure

theorem upsertSubscriptionTopUpTx_only (order : SubscriptionOrder) :
    (upsertSubscriptionTopUpTx env order).Within (only [.topUps]) := by
  refine .bind .read fun topUp? => ?_
  cases topUp? with
  | none => exact .void (insertTopUp_only ..)
  | some =>
    exact .check fun _ => .check fun _ => .check fun _ => saveTopUp_only ..

theorem linkSubscriptionTx_only :
    (linkSubscriptionTx subscriptionId orderId).Within (only [.subscriptions]) :=
  .bind .read fun _ => .check fun _ =>
    .write fun _ c hc => by cases c <;> first | rfl | exact absurd (by simp) hc

theorem validateSubscriptionPlan_readOnly :
    (validateSubscriptionPlan plan).Within readOnly := by
  refine .check fun _ => .check fun _ => .check fun _ => .check fun _ => .check fun _ => .bind ?_ fun _ => ?_
  · unfold validateDuration
    split <;> first | exact .failIf | exact .fail
  · unfold validateResetPeriod
    split <;> first | exact .pure | exact .failIf | exact .fail

theorem calcPlanEndTime_readOnly : (calcPlanEndTime loc start plan).Within readOnly := by
  refine .bind (validateSubscriptionPlan_readOnly ..) fun _ => ?_
  split <;> first | exact .pure | exact .fail

theorem upgradeUserGroupTx_quiet :
    (upgradeUserGroupTx userId upgradeGroup).Within quiet where
  of_ok {db _ _} h := by
    simp only [upgradeUserGroupTx, Tx.read_bind_apply] at h
    cases hUser : db.users.get? userId with
    | none =>
      simp only [hUser, Tx.pure_ok_iff] at h
      obtain ⟨-, rfl⟩ := h
      exact quiet.refl _
    | some =>
      simp only [hUser] at h
      rcases Tx.ite_ok_iff.mp h with ⟨-, h⟩ | ⟨-, h⟩
      · cases h
        exact quiet.refl _
      · cases h
        exact putUser_rel_quiet hUser rfl

theorem insertSubscription_only :
    (insertSubscription sub).Within (only [.subscriptions]) :=
  .fetch fun _ =>
    .bind (.write fun _ c hc => by cases c <;> first | rfl | exact absurd (by simp) hc) fun _ =>
      .pure

theorem createUserSubscriptionFromPlanTx_only :
    (createUserSubscriptionFromPlanTx loc userId plan source excludeOrderId excludePaymentOrderId
      now).Within (only [.subscriptions]) :=
  .check fun _ => .check fun _ =>
    .bind (within_of_readOnly (validateSubscriptionPlan_readOnly ..)) fun _ =>
    .fetch fun _ =>
    .bind (.when fun _ => .bind (.check fun _ => .read) fun _ => .failIf) fun _ =>
    .bind (within_of_readOnly (calcPlanEndTime_readOnly ..)) fun _ =>
    .bind (only_of_quiet (upgradeUserGroupTx_quiet ..)) fun _ =>
    .bind .read fun _ => insertSubscription_only ..

theorem subscriptionPlan_readOnly (snapshot : SubscriptionPlanSnapshot) :
    snapshot.subscriptionPlan.Within readOnly :=
  .check fun _ => .check fun _ =>
    .bind (.mapErr (validateSubscriptionPlan_readOnly ..)) fun _ => .pure

def subscriptionParts : List Component :=
  [.subscriptions, .subscriptionOrders, .topUps, .ledger]

theorem fulfillSubscriptionTx_only :
    (fulfillSubscriptionTx env event order input).Within (only subscriptionParts) :=
  .bind .require fun _ => .bind (within_of_readOnly (subscriptionPlan_readOnly _)) fun _ =>
    .bind (only_of_subset (createUserSubscriptionFromPlanTx_only ..) (by decide)) fun _ =>
    .bind (only_of_subset (linkSubscriptionTx_only ..) (by decide)) fun _ =>
    .bind (only_of_subset (ensureSubscriptionPaymentProjectionTx_only ..) (by decide)) fun _ =>
    .bind (.write fun _ c hc => by cases c <;> first | rfl | exact absurd (by decide) hc)
      fun _ =>
    .bind (only_of_subset (upsertSubscriptionTopUpTx_only ..) (by decide)) fun _ =>
      only_of_subset (createPaymentLedgerEntryTx_only ..) (by decide)

def grantParts : List Component :=
  [.rewards, .affiliate, .wallet, .topUps, .ledger, .subscriptions, .subscriptionOrders, .orders,
    .events]

theorem deliverEntitlementTx_only :
    (deliverEntitlementTx env event order input result).Within (only grantParts) := by
  unfold deliverEntitlementTx
  cases order.orderKind with
  | topUp => exact only_of_subset (fulfillTopUpTx_only ..) (by decide)
  | subscription =>
    exact .bind (only_of_subset (fulfillSubscriptionTx_only env event order input) (by decide))
      fun _ => .pure
  | other => exact .fail

theorem recordGrantTx_only :
    (recordGrantTx env event order settled).Within (only [.orders, .events]) :=
  .bind (only_of_subset (updateOrder_only ..) (by simp)) fun _ =>
    .bind (only_of_quiet (settlePaymentLimitReservationAtTx_quiet ..)) fun _ =>
      only_of_bookkeeping (updateEvent_bookkeeping ..) (by simp)

theorem grantEntitlementTx_only :
    (grantEntitlementTx env event order input result).Within (only grantParts) :=
  .bind (deliverEntitlementTx_only ..) fun _ =>
    .bind (only_of_subset (recordGrantTx_only ..) (by decide)) fun _ => .pure

theorem fulfillPaymentOrderTx_only :
    (fulfillPaymentOrderTx env event order input result).Within (only grantParts) :=
  .check fun _ => .ite (fun _ => .pure) fun _ => .check fun _ =>
    .bind (.when fun _ => .bind
      (within_of_readOnly (paymentOrderHasTerminalAdminDecisionTx_readOnly _)) fun _ => .failIf)
      fun _ => .check fun _ => grantEntitlementTx_only ..

theorem failOrExpirePaymentOrderTx_only :
    (failOrExpirePaymentOrderTx env order expired).Within (only [.orders, .topUps,
      .subscriptionOrders]) :=
  .ite (fun _ => .pure) fun _ => .bind (only_of_subset (updateOrder_only ..) (by decide))
    fun _ => .bind (only_of_quiet (releasePaymentLimitReservationTx_quiet ..)) fun _ =>
      .bind (only_of_subset (closePendingProjectionTx_only ..) (by decide)) fun _ => .pure

end XyApi.Payment

import XyApi.Payment.RewardSpec
import XyApi.Payment.Touch

/-!
What reversing and cancelling rewards does to the inviter. A reversal of a reward
moves the reward balance by its available part and the wallet by its wallet part;
what the wallet cannot pay is a debt, so the wallet less the affiliate debts moves by
exactly the wallet part.
-/

namespace XyApi.Payment

open Lib Billing

variable {db db' : Database}
  {inviterId userId quota now : Int}

def affiliateDebt (u : Int) (debts : Table PaymentDebt.subject) : Int :=
  debts.sum fun d => if d.userId = u ∧ d.debtKind = .affiliate then d.outstandingQuota else 0

def NetMoved (db db' : Database) (userId w : Int) : Prop :=
  ∃ x, PurseMoved db.users db'.users userId (0, 0, x) ∧
    ∀ u, affiliateDebt u db'.paymentDebts =
      affiliateDebt u db.paymentDebts + if u = userId then x - w else 0

theorem NetMoved.refl (db : Database) (userId : Int) : NetMoved db db userId 0 :=
  ⟨0, .refl _ _, fun u => by simp⟩

theorem NetMoved.trans (h : NetMoved db db₁ userId v) (h' : NetMoved db₁ db' userId w) :
    NetMoved db db' userId (v + w) := by
  obtain ⟨x, hPurse, hDebt⟩ := h
  obtain ⟨y, hPurse', hDebt'⟩ := h'
  refine ⟨x + y, by simpa using hPurse.trans hPurse', fun u => ?_⟩
  rw [hDebt', hDebt]
  split <;> omega

/-! ### Debts -/

theorem freezeUser_purse (userId : Int) (db : Database) :
    PurseMoved db.users (freezeUser userId db).users userId 0 := by
  unfold freezeUser
  cases hUser : db.users.get? userId with
  | none => exact .refl _ _
  | some user =>
    refine PurseMoved.put hUser ?_ ?_
    · rfl
    · exact (add_zero (purse user)).symm

theorem freezeUser_debts :
    (freezeUser userId db).paymentDebts = db.paymentDebts := by
  unfold freezeUser
  split <;> rfl

theorem Released.purse (h : Released db userId previousStatus db') :
    PurseMoved db.users db'.users userId 0 ∧ db'.paymentDebts = db.paymentDebts := by
  cases h with
  | stillOpen => exact ⟨.refl _ _, rfl⟩
  | notFrozen => exact ⟨.refl _ _, rfl⟩
  | lifted user hNone hUser =>
    refine ⟨PurseMoved.put hUser ?_ ?_, rfl⟩
    · rfl
    · exact (add_zero (purse user)).symm

theorem addPaymentDebtTx_net
    (h : addPaymentDebtTx env order userId .affiliate quota amountMinor true db = .ok (u, db')) :
    NetMoved db db' userId (-quota) := by
  obtain ⟨-, -, hAdded⟩ := addPaymentDebtTx_ok h
  cases hAdded with
  | @created id user p debts hNone hUser hPrevious hId hInsert =>
    refine ⟨0, freezeUser_purse userId { db with paymentDebts := debts }, fun v => ?_⟩
    rw [freezeUser_debts, affiliateDebt, Table.sum_insert? hInsert]
    simp [newPaymentDebt, affiliateDebt, eq_comm]
  | grown debt p hDebt =>
    have hKey : debt.subject = (order.id, userId, .affiliate) := Table.key_of_get? hDebt
    have hUser : debt.userId = userId := congrArg (fun k => k.2.1) hKey
    have hKind : debt.debtKind = .affiliate := congrArg (fun k => k.2.2) hKey
    refine ⟨0, freezeUser_purse userId (db.putDebt _), fun v => ?_⟩
    have hStored : db.paymentDebts.get?
        (reopenedDebt env quota amountMinor p true debt).subject = some debt := hKey ▸ hDebt
    rw [freezeUser_debts, affiliateDebt, Database.putDebt, Table.sum_put hStored]
    simp only [reopenedDebt, hUser, hKind, affiliateDebt, and_true, eq_comm]
    split <;> omega

theorem saveDebtTx_purse (h : saveDebtTx debt db = .ok (u, db')) :
    PurseMoved db.users db'.users debt.userId 0 ∧
      db'.paymentDebts = db.paymentDebts.put debt := by
  rcases saveDebtTx_ok h with ⟨-, rfl⟩ | ⟨-, hReleased⟩
  · exact ⟨.refl _ _, rfl⟩
  · unfold DebtReleased at hReleased
    split at hReleased
    · obtain ⟨hPurse, hDebts⟩ := Released.purse hReleased
      exact ⟨hPurse, hDebts⟩
    · subst hReleased
      exact ⟨.refl _ _, rfl⟩

theorem resolvePaymentDebtQuotaTx_net
    (h : resolvePaymentDebtQuotaTx env order userId .affiliate quota db = .ok (resolved, db')) :
    NetMoved db db' userId resolved := by
  rcases resolvePaymentDebtQuotaTx_ok h with ⟨-, rfl, rfl⟩ | ⟨debt, hDebt, -, hSave⟩
  · exact .refl _ _
  · have hKey : debt.subject = (order.id, userId, .affiliate) := Table.key_of_get? hDebt
    have hUser : debt.userId = userId := congrArg (fun k => k.2.1) hKey
    have hKind : debt.debtKind = .affiliate := congrArg (fun k => k.2.2) hKey
    obtain ⟨hPurse, hDebts⟩ := saveDebtTx_purse hSave
    obtain ⟨hSubject, -, -, hQuota, -, -⟩ := settledDebt_columns env { debt with
      outstandingQuota := debt.outstandingQuota - resolved
      recoveredQuota := debt.recoveredQuota + resolved }
    have hStored : db.paymentDebts.get? (settledDebt env { debt with
        outstandingQuota := debt.outstandingQuota - resolved
        recoveredQuota := debt.recoveredQuota + resolved }).subject = some debt := by
      rw [hSubject, ← hDebt]
      exact congrArg _ hKey
    have hSaved : (settledDebt env { debt with
        outstandingQuota := debt.outstandingQuota - resolved
        recoveredQuota := debt.recoveredQuota + resolved }).subject =
        (order.id, userId, .affiliate) := hSubject.trans hKey
    generalize settledDebt env { debt with
      outstandingQuota := debt.outstandingQuota - resolved
      recoveredQuota := debt.recoveredQuota + resolved } = saved at *
    have hSavedUser : saved.userId = userId := congrArg (fun k => k.2.1) hSaved
    have hSavedKind : saved.debtKind = .affiliate := congrArg (fun k => k.2.2) hSaved
    refine ⟨0, hSavedUser ▸ hPurse, fun v => ?_⟩
    rw [hDebts, affiliateDebt, Table.sum_put hStored]
    simp only [hSavedUser, hSavedKind, hUser, hKind, hQuota, affiliateDebt, and_true, eq_comm]
    split <;> omega

theorem applyUserQuotaDeltaTx_net (h : applyUserQuotaDeltaTx userId delta db = .ok (u, db')) :
    NetMoved db db' userId delta := by
  obtain ⟨users, ⟨user, hUser, rfl⟩, rfl⟩ := applyUserQuotaDeltaTx_ok h
  refine ⟨delta, PurseMoved.put hUser ?_ ?_, fun v => by simp⟩
  · rfl
  · simp [purse]

theorem reverseUserPaymentQuotaTx_net (hQuota : 0 < quota)
    (h : reverseUserPaymentQuotaTx env order userId quota .affiliate db = .ok (r, db')) :
    NetMoved db db' userId (-quota) := by
  simp only [reverseUserPaymentQuotaTx, if_neg (not_le.mpr hQuota), Tx.read_bind_apply,
    Tx.require_bind_ok_iff, Tx.failIf_bind_ok_iff] at h
  obtain ⟨user, hUser, hNonneg, h⟩ := h
  obtain ⟨_, db₁, hWallet, h⟩ := Tx.bind_ok h
  obtain ⟨_, db₂, hDebt, h⟩ := Tx.bind_ok h
  obtain ⟨-, rfl⟩ := Tx.pure_ok h
  have hFirst : NetMoved db db₁ userId (-min quota user.quota) := by
    rcases Tx.when_ok_iff.mp hWallet with ⟨-, hApply⟩ | ⟨hZero, rfl⟩
    · exact applyUserQuotaDeltaTx_net hApply
    · rw [show -min quota user.quota = 0 by omega]
      exact .refl _ _
  have hSecond : NetMoved db₁ db₂ userId (-(quota - min quota user.quota)) := by
    rcases Tx.when_ok_iff.mp hDebt with ⟨-, hAdd⟩ | ⟨hZero, rfl⟩
    · exact addPaymentDebtTx_net hAdd
    · rw [show -(quota - min quota user.quota) = 0 by omega]
      exact .refl _ _
  have hBoth := hFirst.trans hSecond
  rwa [show -min quota user.quota + -(quota - min quota user.quota) = -quota by omega] at hBoth

theorem restoreUserPaymentQuotaTx_net (hQuota : 0 < quota)
    (h : restoreUserPaymentQuotaTx env order userId quota .affiliate db = .ok (credit, db')) :
    NetMoved db db' userId quota := by
  simp only [restoreUserPaymentQuotaTx, if_neg (not_le.mpr hQuota)] at h
  obtain ⟨resolved, db₁, hResolve, h⟩ := Tx.bind_ok h
  obtain ⟨_, db₂, hCredit, h⟩ := Tx.bind_ok h
  obtain ⟨-, rfl⟩ := Tx.pure_ok h
  have hLe : resolved ≤ quota := by
    rcases resolvePaymentDebtQuotaTx_ok hResolve with ⟨-, rfl, -⟩ | ⟨debt, -, rfl, -⟩ <;> omega
  have hSecond : NetMoved db₁ db₂ userId (quota - resolved) := by
    rcases Tx.when_ok_iff.mp hCredit with ⟨-, hApply⟩ | ⟨hZero, rfl⟩
    · exact applyUserQuotaDeltaTx_net hApply
    · rw [show quota - resolved = 0 by omega]
      exact .refl _ _
  have hBoth := (resolvePaymentDebtQuotaTx_net hResolve).trans hSecond
  rwa [show resolved + (quota - resolved) = quota by omega] at hBoth

/-- The wallet less the debts moves by the wallet part of the reversal. -/
theorem reverseRewardWalletTx_net
    (h : reverseRewardWalletTx env order inviterId wallet db = .ok (u, db')) :
    NetMoved db db' inviterId (-wallet) := by
  unfold reverseRewardWalletTx at h
  split at h
  · next hPos =>
      obtain ⟨r, h⟩ := Tx.void_ok_iff.mp h
      exact reverseUserPaymentQuotaTx_net hPos h
  · next hNotPos =>
      rcases Tx.when_ok_iff.mp h with ⟨hNeg, h⟩ | ⟨hNotNeg, rfl⟩
      · obtain ⟨r, h⟩ := Tx.void_ok_iff.mp h
        exact restoreUserPaymentQuotaTx_net (by omega) h
      · rw [show -wallet = 0 by omega]
        exact .refl _ _

/-! ### Balances -/

theorem reverseRewardBalanceTx_ok (h : reverseRewardBalanceTx inviterId d db = .ok (u, db')) :
    (∃ inviter, db.users.get? inviterId = some inviter ∧ d.balanceWasGranted = true ∧
      0 ≤ inviter.affQuota - d.available ∧
      db' = db.putUser { inviter with
        affQuota := inviter.affQuota - d.available
        affHistoryQuota := inviter.affHistoryQuota - d.history }) ∨
    ((d.balanceWasGranted = true → d.available = 0 ∧ d.history = 0) ∧ db' = db) := by
  unfold reverseRewardBalanceTx at h
  rcases Tx.when_ok_iff.mp h with ⟨hMoves, h⟩ | ⟨hNot, rfl⟩
  · simp only [Tx.read_bind_apply, Tx.require_bind_ok_iff, Tx.failIf_bind_ok_iff,
      Tx.write_ok_iff] at h
    obtain ⟨inviter, hInviter, -, -, hRange, rfl⟩ := h
    exact .inl ⟨inviter, hInviter, hMoves.1, by omega, rfl⟩
  · refine .inr ⟨fun hGranted => ?_, rfl⟩
    have hZero : ¬ (d.available ≠ 0 ∨ d.history ≠ 0) := fun hMoves => hNot ⟨hGranted, hMoves⟩
    omega

def RewardDeltas.balance (d : RewardDeltas) : Int × Int :=
  if d.balanceWasGranted then (d.available, d.history) else (0, 0)

theorem reverseRewardBalanceTx_purse (h : reverseRewardBalanceTx inviterId d db = .ok (u, db')) :
    PurseMoved db.users db'.users inviterId (-d.balance.1, -d.balance.2, 0) ∧
      db'.payments = db.payments ∧ db'.paymentDebts = db.paymentDebts := by
  rcases reverseRewardBalanceTx_ok h with
    ⟨inviter, hInviter, hGranted, -, rfl⟩ | ⟨hZero, rfl⟩
  · refine ⟨PurseMoved.put hInviter ?_ ?_, rfl, rfl⟩
    · rfl
    · simp [purse, RewardDeltas.balance, hGranted, sub_eq_add_neg]
  · refine ⟨.of_eq rfl ?_, rfl, rfl⟩
    unfold RewardDeltas.balance
    split
    · next hGranted =>
        obtain ⟨hAvailable, hHistory⟩ := hZero hGranted
        rw [hAvailable, hHistory]
        rfl
    · rfl

end XyApi.Payment

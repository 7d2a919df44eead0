import XyApi.Payment.RewardBalance

/-!
Runs of rewards: new ones, maturation, transfers, reversals and cancellations in any
order. A cancellation takes the whole untransferred part of a reward out of the
balance, also what a reversal took before. The balance is what the available rewards
are worth in every run in which nothing of a cancelled reward had been reversed.
-/

namespace XyApi.Payment

open Lib Billing

variable {db db' : Database} {u inviterId now : Int}
  {rewards rewards' : Table AffiliateRewardRecord.id} {r : AffiliateRewardRecord}

/-! ### New rewards -/

structure FreshReward (r : AffiliateRewardRecord) : Prop where
  reward : 0 ≤ r.rewardQuota
  reversed : r.reversedQuota = 0
  transferred : r.transferredQuota = 0
  remembered : r.preReversalStatus = none
  status : r.status = some .pending ∨ r.status = some .available

theorem FreshReward.sound (h : FreshReward r) : SoundReward r := by
  have hReward := h.reward
  refine ⟨?_, ?_, fun _ => h.transferred, fun hUsedUp => ?_, ?_⟩
  · rw [h.reversed]
    omega
  · rw [h.transferred]
    omega
  · rw [originalRewardStatus_of_none h.remembered] at hUsedUp
    rcases h.status with hStatus | hStatus <;> rw [hStatus] at hUsedUp <;> cases hUsedUp
  · simp [h.remembered]

theorem FreshReward.shares (h : FreshReward r) : reversedShares r = 0 := by
  have hReward := h.reward
  have hWallet : walletReversal r = 0 := by
    rw [walletReversal, h.reversed, h.transferred]
    omega
  unfold reversedShares
  rw [hWallet, h.reversed]
  split <;> rfl

theorem FreshReward.held (h : FreshReward r) :
    heldShare r = if r.status = some .available then r.rewardQuota else 0 := by
  unfold heldShare
  rw [originalRewardStatus_of_none h.remembered, h.transferred]
  rcases h.status with hStatus | hStatus <;> simp [hStatus]

theorem createAffiliateRewardRecord_ok (h : createAffiliateRewardRecord r db = .ok (a, db')) :
    ∃ id rewards, db.payments.affiliateRewards.insert? { r with id := id } = some rewards ∧
      db' = db.withRewards rewards := by
  simp only [createAffiliateRewardRecord, writePayments, Tx.read_bind_apply,
    Tx.require_bind_ok_iff, Tx.write_ok_iff] at h
  obtain ⟨rewards, hInsert, rfl⟩ := h
  exact ⟨_, rewards, hInsert, rfl⟩

theorem SoundRewards.insert (h : SoundRewards rewards) (hr : SoundReward r)
    (hInsert : rewards.insert? r = some rewards') : SoundRewards rewards' := by
  intro a ha
  rw [(Table.rows_insert? hInsert).1, List.mem_append, List.mem_singleton] at ha
  rcases ha with hMem | rfl
  · exact h a hMem
  · exact hr

/-- A new reward and the account that is credited with it, if it is available at once. -/
theorem RewardsBacked.created (h : RewardsBacked u db) (hFresh : FreshReward r)
    (hInsert : db.payments.affiliateRewards.insert? r = some rewards)
    (hRewards : db'.payments.affiliateRewards = rewards)
    (hPurse : PurseMoved db.users db'.users r.inviterId delta)
    (hDebts : db'.paymentDebts = db.paymentDebts)
    (hDelta : delta.1 = if r.status = some .available then r.rewardQuota else 0) :
    RewardsBacked u db' := by
  have hMoved := grossHoldings_moved hPurse hDebts u
  rw [hRewards, Table.sum_insert? hInsert, ofInviter, hFresh.shares, ite_self, add_zero, sub_self,
    add_zero] at hMoved
  refine h.moved _ ?_ hMoved ?_
  · rw [hRewards]
    exact h.sound.insert hFresh.sound hInsert
  · rw [hRewards, Table.sum_insert? hInsert, ofInviter, hFresh.held]
    by_cases hu : r.inviterId = u
    · simp [hu, hDelta]
    · simp [hu, Ne.symm hu]

/-- What leaves accounts, debts and rewards alone keeps the balance backed. -/
theorem RewardsBacked.of_quiet (h : RewardsBacked u db) (hQuiet : quiet.rel db db') :
    RewardsBacked u db' := by
  have hBooks : books db' = books db := congrArg Prod.fst hQuiet
  have hRewards : db'.payments.affiliateRewards = db.payments.affiliateRewards :=
    congrArg Books.rewards hBooks
  have hAccount : (db'.users.get? u).map User.account = (db.users.get? u).map User.account :=
    Table.map_get?_of_map_rows (g := Account.id) (fun _ => rfl) (congrArg Books.accounts hBooks) u
  refine ⟨hRewards ▸ h.sound, fun user hUser => ?_⟩
  rw [hUser, Option.map_some, eq_comm, Option.map_eq_some_iff] at hAccount
  obtain ⟨before, hBefore, hSame⟩ := hAccount
  have hColumn : before.affQuota = user.affQuota := congrArg Account.affQuota hSame
  rw [hRewards, ← hColumn]
  exact h.balance before hBefore

def backing (u : Int) : Frame Database := .preserves (RewardsBacked u)

theorem createActivityRewardsTx_backing (hReversed : r.reversedQuota = 0)
    (hTransferred : r.transferredQuota = 0) (hNone : r.preReversalStatus = none)
    (hStatus : r.status = some .pending) :
    (createActivityRewardsTx r quotaToAdd totalReward activities).Within (backing u) := by
  induction activities generalizing totalReward with
  | nil => exact .pure
  | cons activity rest ih =>
    refine .ite (fun _ => ih) fun hReward => .bind ⟨fun hRun h => ?_⟩ fun _ =>
      .check fun _ => ih
    obtain ⟨id, rewards, hInsert, rfl⟩ := createAffiliateRewardRecord_ok hRun
    refine h.created ?_ hInsert rfl (.refl _ _) rfl (by simp [hStatus])
    exact ⟨(not_le.mp hReward).le, hReversed, hTransferred, hNone, .inl hStatus⟩

theorem createInviteLinkBatchTopUpRewardTx_backing :
    (createInviteLinkBatchTopUpRewardTx env topUp user quotaToAdd).Within (backing u) := by
  have hClaim : (claimInviteFirstTopupRewardTx env user.id).Within (backing u) :=
    (claimInviteFirstTopupRewardTx_quiet ..).mono fun _ _ hQuiet h => h.of_quiet hQuiet
  exact .bind .read fun _ => .ite
    (fun _ => .bind hClaim fun _ => .ite (fun _ => .pure) fun _ =>
      .bind (createActivityRewardsTx_backing rfl rfl rfl rfl) fun _ => .pure)
    fun _ => .bind .pure fun _ => .ite (fun _ => .pure) fun _ =>
      .bind (createActivityRewardsTx_backing rfl rfl rfl rfl) fun _ => .pure

theorem createAvailableRewardTx_backing (hFresh : FreshReward r)
    (hStatus : r.status = some .available) :
    Tx.Within (backing u) (do
      createAffiliateRewardRecord r
      addAffiliateBalanceTx r.inviterId r.rewardQuota
      pure result) where
  of_ok hRun h := by
    obtain ⟨_, db₁, hCreate, hRun⟩ := Tx.bind_ok hRun
    obtain ⟨_, db₂, hAdd, hRun⟩ := Tx.bind_ok hRun
    cases hRun
    obtain ⟨id, rewards, hInsert, rfl⟩ := createAffiliateRewardRecord_ok hCreate
    obtain ⟨users, hMoved, rfl⟩ := addAffiliateBalanceTx_ok hAdd
    refine h.created ?_ hInsert rfl hMoved rfl (by simp [hStatus])
    exact ⟨hFresh.reward, hFresh.reversed, hFresh.transferred, hFresh.remembered, hFresh.status⟩

theorem applyAffiliateTopUpRewardTx_backing :
    (applyAffiliateTopUpRewardTx env topUp quotaToAdd).Within (backing u) := by
  have hApplies (user : User) : (inviteRuleAppliesTx env user).Within (backing u) :=
    (inviteRuleAppliesTx_quiet ..).mono fun _ _ hQuiet h => h.of_quiet hQuiet
  refine .ite (fun _ => .pure) fun _ => .fetch fun user =>
    .ite (fun _ => .pure) fun _ =>
    .ite (fun _ => createInviteLinkBatchTopUpRewardTx_backing) fun _ =>
    .bind (hApplies user) fun _ => .ite (fun _ => .pure) fun hReward => ?_
  refine createAvailableRewardTx_backing ⟨?_, rfl, rfl, rfl, .inr rfl⟩ rfl
  dsimp only
  omega

/-! ### Cancellation -/

def canceledReward (now : Int) (r : AffiliateRewardRecord) : AffiliateRewardRecord :=
  { r with
    status := some .canceled
    canceledAt := if r.status = some .canceled ∧ r.canceledAt ≠ 0 then r.canceledAt else now }

def withdrawnQuota (r : AffiliateRewardRecord) : Int :=
  if isAvailable r then max 0 (r.rewardQuota - r.transferredQuota) else 0

theorem withdrawRewardTx_ok (h : withdrawRewardTx inviterId remainingQuota db = .ok (a, db')) :
    ∃ users, PurseMoved db.users users inviterId (-remainingQuota, -remainingQuota, 0) ∧
      db' = { db with users := users } := by
  simp only [withdrawRewardTx, Tx.read_bind_apply, Tx.require_bind_ok_iff, Tx.write_ok_iff] at h
  obtain ⟨inviter, hInviter, rfl⟩ := h
  have hGet := (Option.filter_eq_some_iff.mp hInviter).1
  refine ⟨_, PurseMoved.put hGet ?_ ?_, rfl⟩
  · rfl
  · simp [purse, sub_eq_add_neg]

theorem cancelAffiliateRewardRecord_ok
    (h : cancelAffiliateRewardRecord recordId now db = .ok (a, db')) :
    ∃ r, db.payments.affiliateRewards.get? recordId = some r ∧
      PurseMoved db.users db'.users r.inviterId (-withdrawnQuota r, -withdrawnQuota r, 0) ∧
      db'.payments.affiliateRewards =
        db.payments.affiliateRewards.put (canceledReward now r) ∧
      db'.paymentDebts = db.paymentDebts := by
  simp only [cancelAffiliateRewardRecord, Tx.failIf_bind_ok_iff, Tx.read_bind_apply,
    Tx.require_bind_ok_iff] at h
  obtain ⟨-, r, hRow, h⟩ := h
  obtain rfl : r.id = recordId := Table.key_of_get? hRow
  refine ⟨r, hRow, ?_⟩
  by_cases hCanceled : r.status = some .canceled
  · have hNothing : withdrawnQuota r = 0 := by simp [withdrawnQuota, isAvailable, hCanceled]
    rw [if_pos hCanceled] at h
    rw [hNothing]
    rcases Tx.when_ok_iff.mp h with ⟨hZero, h⟩ | ⟨hSet, rfl⟩
    · obtain rfl := Tx.write_ok_iff.mp h
      refine ⟨.refl _ _, ?_, rfl⟩
      rw [canceledReward, if_neg (by simp [hZero]), ← hCanceled]
      rfl
    · refine ⟨.refl _ _, ?_, rfl⟩
      rw [canceledReward, if_pos ⟨hCanceled, hSet⟩, ← hCanceled, Table.put_of_get? hRow]
  · rw [if_neg hCanceled] at h
    obtain ⟨_, db₁, hWithdraw, h⟩ := Tx.bind_ok h
    obtain rfl := Tx.write_ok_iff.mp h
    rw [canceledReward, if_neg (by simp [hCanceled])]
    rcases Tx.when_ok_iff.mp hWithdraw with ⟨hTakes, hWithdraw⟩ | ⟨hNone, rfl⟩
    · obtain ⟨users, hMoved, rfl⟩ := withdrawRewardTx_ok hWithdraw
      refine ⟨?_, rfl, rfl⟩
      rwa [withdrawnQuota, if_pos hTakes.1]
    · have hNothing : withdrawnQuota r = 0 := by
        unfold withdrawnQuota
        split
        · next hAvailable =>
            have hNot : ¬ max 0 (r.rewardQuota - r.transferredQuota) > 0 :=
              fun hPos => hNone ⟨hAvailable, hPos⟩
            omega
        · rfl
      rw [hNothing]
      exact ⟨.refl _ _, rfl, rfl⟩

theorem SoundReward.original_canceledReward (h : SoundReward r) (now : Int) :
    originalRewardStatus (canceledReward now r) =
      if r.status = some .canceled then originalRewardStatus r else .canceled := by
  split
  · next hCanceled => simp [originalRewardStatus, canceledReward, hCanceled]
  · next hNot => simp [originalRewardStatus, canceledReward, h.none_of_status hNot]

theorem SoundReward.cancel (h : SoundReward r) (now : Int) : SoundReward (canceledReward now r) := by
  have hOriginal := h.original_canceledReward now
  by_cases hCanceled : r.status = some .canceled
  · rw [if_pos hCanceled] at hOriginal
    refine ⟨h.reversed, h.transferred, ?_, ?_, ?_⟩
    · rw [hOriginal]
      exact h.pending
    · rw [hOriginal]
      exact h.usedUp
    · intro hSome
      exact ⟨rfl, (h.remembered hSome).2⟩
  · rw [if_neg hCanceled] at hOriginal
    refine ⟨h.reversed, h.transferred, ?_, ?_, ?_⟩
    · simp [hOriginal]
    · simp [hOriginal]
    · intro hSome
      exact absurd (h.remembered hSome).1 hCanceled

/-- What a cancellation withdraws is what the reward held, unless it was reversed. -/
theorem withdrawnQuota_eq (h : SoundReward r)
    (hWhole : isAvailable r = true → r.reversedQuota = 0) (now : Int) :
    withdrawnQuota r + ((reversedShares r).1 - (reversedShares (canceledReward now r)).1) =
      heldShare r - heldShare (canceledReward now r) := by
  have hOriginal := h.original_canceledReward now
  have hReversed := h.reversed
  have hTransferred := h.transferred
  have hUsedUp := h.usedUp
  have hColumns : (canceledReward now r).reversedQuota = r.reversedQuota ∧
      (canceledReward now r).transferredQuota = r.transferredQuota ∧
      (canceledReward now r).rewardQuota = r.rewardQuota := ⟨rfl, rfl, rfl⟩
  unfold reversedShares heldShare walletReversal withdrawnQuota
  rw [hOriginal, hColumns.1, hColumns.2.1, hColumns.2.2]
  by_cases hCanceled : r.status = some .canceled
  · rw [if_pos hCanceled]
    simp [isAvailable, hCanceled]
  · rw [if_neg hCanceled]
    rw [originalRewardStatus_of_none (h.none_of_status hCanceled)] at hUsedUp ⊢
    rcases hStatus : r.status with _ | _ | _ | _ | _ <;>
      simp [isAvailable, hStatus] at hUsedUp hWhole hCanceled ⊢ <;> omega

/-- A cancellation takes out what the reward adds to the balance, provided nothing of
the reward was reversed. -/
theorem RewardsBacked.cancel (h : RewardsBacked u db)
    (hWhole : ∀ r, db.payments.affiliateRewards.get? recordId = some r → isAvailable r = true →
      r.reversedQuota = 0) (hRun : cancelAffiliateRewardRecord recordId now db = .ok (a, db')) :
    RewardsBacked u db' := by
  obtain ⟨r, hRow, hMoved, hRewards, hDebts⟩ := cancelAffiliateRewardRecord_ok hRun
  have hKey : r.id = recordId := Table.key_of_get? hRow
  have hSound := h.sound r (Table.mem_of_get? hRow)
  have hStored : db.payments.affiliateRewards.get? (canceledReward now r).id = some r := hKey ▸ hRow
  have hInviter : (canceledReward now r).inviterId = r.inviterId := rfl
  have hQuota := withdrawnQuota_eq hSound (hWhole r hRow) now
  refine h.moved _ (hRewards ▸ h.sound.put (hSound.cancel now)) (grossHoldings_moved hMoved hDebts u) ?_
  rw [hRewards, Table.sum_put hStored, Table.sum_put hStored, ofInviter, ofInviter, ofInviter,
    ofInviter, hInviter]
  by_cases hu : u = r.inviterId
  · simp only [hu, if_true, Prod.fst_add, Prod.fst_sub]
    omega
  · simp [hu, Ne.symm hu]

/-! ### Runs -/

inductive RewardCall
  | create (env : PaymentEnv) (topUp : TopUp) (quotaToAdd : Int)
  | mature (inviterId now : Int)
  | transfer (policy : TransferPolicy) (userId quota now : Int)
  | reverse (env : PaymentEnv) (event : PaymentEvent) (order : PaymentOrder) (targetAmount : Int)
  | cancel (recordId now : Int)

namespace RewardCall

def body : RewardCall → DbTx Unit
  | create env topUp quotaToAdd => (applyAffiliateTopUpRewardTx env topUp quotaToAdd).void
  | mature inviterId now => (settleAvailableAffiliateRewards inviterId now).void
  | transfer policy userId quota now => transferAffQuotaToQuota policy userId quota now
  | reverse env event order targetAmount =>
    reconcileAffiliateRewardReversalTx env event order targetAmount
  | cancel recordId now => cancelAffiliateRewardRecord recordId now

def step (db : Database) (call : RewardCall) : Database := (call.body.commit db).1

/-- A cancellation of an available reward finds nothing of it reversed. -/
def CancelsWhole (db : Database) : RewardCall → Prop
  | cancel recordId _ => ∀ r ∈ db.payments.affiliateRewards.get? recordId,
      isAvailable r = true → r.reversedQuota = 0
  | _ => True

instance (db : Database) : (call : RewardCall) → Decidable (CancelsWhole db call)
  | create _ _ _ => inferInstanceAs (Decidable True)
  | mature _ _ => inferInstanceAs (Decidable True)
  | transfer _ _ _ _ => inferInstanceAs (Decidable True)
  | reverse _ _ _ _ => inferInstanceAs (Decidable True)
  | cancel recordId _ => inferInstanceAs (Decidable (∀ r ∈ db.payments.affiliateRewards.get? recordId,
      isAvailable r = true → r.reversedQuota = 0))

theorem backed (hu : u ≠ 0) (h : RewardsBacked u db) (hWhole : CancelsWhole db call)
    (hRun : call.body db = .ok (a, db')) :
    RewardsBacked u db' := by
  cases call with
  | create =>
    exact (Tx.Within.void applyAffiliateTopUpRewardTx_backing).of_ok hRun h
  | mature =>
    obtain ⟨settled, hRun⟩ := Tx.void_ok_iff.mp hRun
    unfold settleAvailableAffiliateRewards at hRun
    split at hRun
    · cases hRun
      exact h
    · exact h.maturation hRun
  | transfer => exact h.transfer hu hRun
  | reverse => exact h.reversal hRun
  | cancel => exact h.cancel (fun r hr => hWhole r hr) hRun

end RewardCall

/-- As long as no partly reversed reward is cancelled, the balance of an inviter is what
the available rewards are worth. -/
theorem reward_balance_backed (u : Int) (hu : u ≠ 0) (db : Database) (h : RewardsBacked u db)
    (calls : List RewardCall) (hWhole : Guarded RewardCall.step RewardCall.CancelsWhole db calls) :
    ∀ user, (run RewardCall.step db calls).users.get? u = some user →
      user.affQuota = (run RewardCall.step db calls).payments.affiliateRewards.sum
        (ofInviter u availableShare) := by
  refine RewardsBacked.balance (guarded_invariant (P := RewardsBacked u) ?_ h hWhole)
  intro db call hOk hBacked
  exact Tx.commit_preserves hBacked fun a db' hRun => RewardCall.backed hu hBacked hOk hRun

def sampleReferral : Database where
  users := { rows := [{ id := 1 }, { id := 2, inviterId := 1, inviteRewardPercent := 10 }]
             nodup := by decide }
  payments := {
    topUps := { rows := [{ id := 1, tradeNo := "T1", userId := 2 },
                         { id := 2, tradeNo := "T2", userId := 2 }]
                nodup := by decide } }

theorem sampleReferral_backed : RewardsBacked 1 sampleReferral :=
  ⟨fun r hr => absurd hr List.not_mem_nil, by decide⟩

def sampleRewarded (id : Int) : RewardCall :=
  .create (sampleEnv 0) { id := id, tradeNo := "", userId := 2 } 1000

def sampleRefunded : RewardCall :=
  .reverse (sampleEnv 1) { id := 1, provider := .epay, eventKey := "E1" }
    { id := 1, tradeNo := "T1", userId := 2, orderKind := .topUp, provider := .epay
      expectedAmountMinor := 100, currency := "USD" } 30

def sampleRewardRun : List RewardCall :=
  [sampleRewarded 1, sampleRewarded 2, sampleRefunded, .transfer ⟨1, "1"⟩ 1 90 2, .cancel 2 3]

theorem reward_balance_backed_sample :
    (run RewardCall.step sampleReferral sampleRewardRun).users.get? 1 =
        some { id := 1, affHistoryQuota := 90, quota := 90 } ∧
      ∀ user, (run RewardCall.step sampleReferral sampleRewardRun).users.get? 1 = some user →
        user.affQuota = (run RewardCall.step sampleReferral
          sampleRewardRun).payments.affiliateRewards.sum (ofInviter 1 availableShare) :=
  ⟨by decide +kernel, reward_balance_backed 1 (by decide) sampleReferral sampleReferral_backed
    sampleRewardRun (by decide +kernel)⟩

/-- A partly reversed reward is cancelled: its reversed part is taken a second time. -/
theorem cancel_after_reversal_unbacked :
    RewardsBacked 1 sampleReferral ∧
      ((run RewardCall.step sampleReferral
        [sampleRewarded 1, sampleRewarded 2, sampleRefunded, .cancel 1 2]).users.get? 1).map
          User.affQuota = some 70 ∧
      (run RewardCall.step sampleReferral
        [sampleRewarded 1, sampleRewarded 2, sampleRefunded,
          .cancel 1 2]).payments.affiliateRewards.sum (ofInviter 1 availableShare) = 100 :=
  ⟨sampleReferral_backed, by decide +kernel⟩

end XyApi.Payment

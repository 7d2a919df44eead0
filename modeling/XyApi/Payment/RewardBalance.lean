import XyApi.Payment.RewardShares

/-!
The reward balance of an inviter and the records it comes from. The balance is what
the available rewards are still worth, and maturation, transfers and reversals of
payments keep it so: a transfer finds in the records all the quota it moves.
-/

namespace XyApi.Payment

open Lib Billing

section

variable {db db' : Database} {inviterId userId now u : Int}
  {rewards rewards' : Table AffiliateRewardRecord.id} {r : AffiliateRewardRecord}

def SoundRewards (rewards : Table AffiliateRewardRecord.id) : Prop :=
  ∀ r ∈ rewards.rows, SoundReward r

theorem SoundRewards.put (h : SoundRewards rewards) (hr : SoundReward r) :
    SoundRewards (rewards.put r) := by
  intro a ha
  rcases Table.mem_put ha with rfl | hMem
  · exact hr
  · exact h a hMem

theorem SoundRewards.reversed (h : SoundRewards rewards)
    (hTargets : ∀ r ∈ rewards.rows, r.topUpId = topUpId →
      0 ≤ rewardTarget order targetAmount r ∧ rewardTarget order targetAmount r ≤ r.rewardQuota) :
    SoundRewards (reversedRewards now order targetAmount topUpId rewards) := by
  intro a ha
  obtain ⟨r, hr, rfl⟩ := Table.mem_updateWhere.mp ha
  split
  · next hOf => exact (h r hr).moved (hTargets r hr (by simpa using hOf))
  · exact h r hr

/-! ### Maturation -/

theorem SoundReward.original_of_pending (h : SoundReward r) (hStatus : r.status = some .pending) :
    originalRewardStatus r = .pending := by
  rw [originalRewardStatus_of_none (h.none_of_status (by simp [hStatus])), hStatus]
  rfl

theorem SoundReward.original_matured (h : SoundReward r) (hStatus : r.status = some .pending) :
    originalRewardStatus (maturedReward r) = .available :=
  originalRewardStatus_of_none (h.none_of_status (by simp [hStatus]))

theorem SoundReward.matured (h : SoundReward r) (hStatus : r.status = some .pending) :
    SoundReward (maturedReward r) := by
  have hOriginal := h.original_matured hStatus
  have hNone := h.none_of_status (by simp [hStatus])
  refine ⟨h.reversed, h.transferred, ?_, ?_, ?_⟩
  · simp [hOriginal]
  · simp [hOriginal]
  · simp [maturedReward, hNone]

theorem status_of_isDue (h : isDue inviterId now r = true) :
    r.inviterId = inviterId ∧ r.status = some .pending := by
  simp only [isDue, decide_eq_true_eq] at h
  exact ⟨h.1, h.2.1⟩

theorem SoundRewards.matured (h : SoundRewards rewards) (inviterId now : Int) :
    SoundRewards (maturedRewards inviterId now rewards) := by
  intro a ha
  obtain ⟨r, hr, rfl⟩ := Table.mem_updateWhere.mp ha
  split
  · next hDue => exact (h r hr).matured (status_of_isDue hDue).2
  · exact h r hr

theorem sum_maturedRewards {M : Type} [AddCommGroup M] (w : AffiliateRewardRecord → M)
    (inviterId now u : Int) (rewards : Table AffiliateRewardRecord.id) :
    (maturedRewards inviterId now rewards).sum (ofInviter u w) = rewards.sum (ofInviter u w) +
      if u = inviterId then rewards.sum fun r =>
        if isDue inviterId now r then w (maturedReward r) - w r else 0
      else 0 := by
  rw [maturedRewards, Table.sum_updateWhere, Table.sum_ite, ← Table.sum_add]
  refine Table.sum_congr fun r _ => ?_
  by_cases hDue : isDue inviterId now r = true
  · have hInviter := (status_of_isDue hDue).1
    by_cases hu : u = inviterId
    · simp [hDue, ofInviter, maturedReward, hInviter, hu]
    · simp [hDue, ofInviter, maturedReward, hInviter, hu, Ne.symm hu]
  · simp [hDue]

def dueReward (inviterId now : Int) (rewards : Table AffiliateRewardRecord.id) : Int :=
  rewards.sum fun r => if isDue inviterId now r then r.rewardQuota else 0

/-- What was reversed of a pending reward has been taken from nowhere yet. -/
theorem reversedShares_matured (h : SoundReward r) (hStatus : r.status = some .pending) :
    reversedShares (maturedReward r) = reversedShares r + (r.reversedQuota, r.reversedQuota, 0) := by
  have hReversed := h.reversed
  have hBefore : walletReversal r = 0 := by
    rw [walletReversal, h.pending (h.original_of_pending hStatus)]
    omega
  have hAfter : walletReversal (maturedReward r) = 0 := hBefore
  have hColumn : (maturedReward r).reversedQuota = r.reversedQuota := rfl
  unfold reversedShares
  rw [h.original_matured hStatus, h.original_of_pending hStatus, hAfter, hBefore, hColumn]
  simp

/-- What the due rewards are worth, with what was reversed of them, is their full amount. -/
theorem dueQuota_add_reversed (h : SoundRewards rewards) (inviterId now : Int) :
    ((dueQuota inviterId now rewards, dueQuota inviterId now rewards, 0) +
      rewards.sum fun r => if isDue inviterId now r
        then reversedShares (maturedReward r) - reversedShares r else 0) =
      (dueReward inviterId now rewards, dueReward inviterId now rewards, 0) := by
  have hZero : (0 : Int) = rewards.sum fun _ => 0 := (Table.sum_eq_zero fun _ _ => rfl).symm
  unfold dueQuota dueReward
  rw [hZero, ← Table.sum_prod, ← Table.sum_prod, ← Table.sum_prod, ← Table.sum_prod,
    ← Table.sum_add]
  refine Table.sum_congr fun r hr => ?_
  split
  · next hDue =>
      have hReversed := (h r hr).reversed
      rw [reversedShares_matured (h r hr) (status_of_isDue hDue).2, add_sub_cancel_left,
        effectiveReward, max_eq_right (by omega)]
      simp
  · simp

/-- What an inviter would hold moves with the account and the reversed shares. -/
theorem grossHoldings_moved (hPurse : PurseMoved db.users db'.users userId delta)
    (hDebts : db'.paymentDebts = db.paymentDebts) (u : Int) :
    grossHoldings u db' = (grossHoldings u db).map (· + ((if u = userId then delta else 0) +
      (db'.payments.affiliateRewards.sum (ofInviter u reversedShares) -
        db.payments.affiliateRewards.sum (ofInviter u reversedShares)))) := by
  unfold grossHoldings holdings
  rw [hPurse u, hDebts]
  cases db.users.get? u with
  | none => rfl
  | some =>
    simp only [Option.map_some, Option.some.injEq]
    abel

/-! ### Transfers -/

theorem status_of_isAvailable (h : isAvailable r = true) :
    r.status ≠ some .canceled ∧ r.status.getD .available = .available := by
  simp only [isAvailable, decide_eq_true_eq] at h
  rcases h with hStatus | hStatus <;> simp [hStatus]

theorem original_of_isAvailable (h : isAvailable r = true) :
    originalRewardStatus r = .available := by
  obtain ⟨hNot, hStatus⟩ := status_of_isAvailable h
  simp [originalRewardStatus, hNot, hStatus]

theorem original_transferred :
    originalRewardStatus (transferredReward moveQuota r r) =
      if r.transferredQuota + moveQuota ≥ r.rewardQuota then .transferred else .available := by
  unfold originalRewardStatus transferredReward
  split <;> simp

theorem SoundReward.transfer (h : SoundReward r) (hAvailable : isAvailable r = true)
    (hPos : 0 < moveQuota) (hLe : moveQuota ≤ transferableQuota r) :
    SoundReward (transferredReward moveQuota r r) := by
  have hNone := h.none_of_status (status_of_isAvailable hAvailable).1
  have hReversed := h.reversed
  have hTransferred := h.transferred
  unfold transferableQuota at hLe
  refine ⟨h.reversed, ?_, ?_, ?_, ?_⟩
  · simp only [transferredReward]
    omega
  · rw [original_transferred]
    split <;> simp
  · rw [original_transferred]
    intro hOriginal
    simp only [transferredReward]
    by_cases hAll : r.transferredQuota + moveQuota ≥ r.rewardQuota
    · omega
    · rw [if_neg hAll] at hOriginal
      cases hOriginal
  · simp [transferredReward, hNone]

theorem Transfers.sound (h : Transfers inviterId rewards moved rewards')
    (hSound : SoundRewards rewards) : SoundRewards rewards' := by
  induction h with
  | done => exact hSound
  | move r moveQuota hRow hInviter hAvailable hPos hLe hRest ih =>
    exact ih (hSound.put ((hSound r (Table.mem_of_get? hRow)).transfer hAvailable hPos hLe))

theorem Transfers.sum {M : Type} [AddCommGroup M] {w : AffiliateRewardRecord → M} (c : M)
    (hw : ∀ r moveQuota, isAvailable r = true → 0 < moveQuota → moveQuota ≤ transferableQuota r →
      w (transferredReward moveQuota r r) = w r + moveQuota • c)
    {moved : Int} (h : Transfers inviterId rewards moved rewards') (u : Int) :
    rewards'.sum (ofInviter u w) =
      rewards.sum (ofInviter u w) + if u = inviterId then moved • c else 0 := by
  induction h with
  | done => simp
  | @move rewards rewards' moved r moveQuota hRow hInviter hAvailable hPos hLe hRest ih =>
    have hStored : rewards.get? (transferredReward moveQuota r r).id = some r := hRow
    have hSame : (transferredReward moveQuota r r).inviterId = r.inviterId := rfl
    rw [ih, Table.sum_put hStored, ofInviter, ofInviter, hSame, hInviter,
      hw r moveQuota hAvailable hPos hLe]
    by_cases hu : u = inviterId
    · simp only [hu, if_true, add_zsmul]
      abel
    · simp [hu, Ne.symm hu]

/-- A transfer uses only what no reversal has taken. -/
theorem reversedShares_transferred (hAvailable : isAvailable r = true) (hPos : 0 < moveQuota)
    (hLe : moveQuota ≤ transferableQuota r) :
    reversedShares (transferredReward moveQuota r r) = reversedShares r := by
  have hBefore : walletReversal r = 0 := by
    unfold walletReversal
    unfold transferableQuota at hLe
    omega
  have hAfter : walletReversal (transferredReward moveQuota r r) = 0 := by
    unfold walletReversal
    simp only [transferredReward]
    unfold transferableQuota at hLe
    omega
  have hReversed : (transferredReward moveQuota r r).reversedQuota = r.reversedQuota := rfl
  unfold reversedShares
  rw [original_transferred, original_of_isAvailable hAvailable, hBefore, hAfter, hReversed]
  split
  · next hStatus =>
      split at hStatus <;> cases hStatus
  · next hStatus =>
      split at hStatus <;> cases hStatus
  · rfl

end

variable {db db' : Database} {u inviterId userId now : Int}
  {rewards rewards' : Table AffiliateRewardRecord.id} {r : AffiliateRewardRecord}

def availableShare (r : AffiliateRewardRecord) : Int :=
  if isAvailable r then max 0 (r.rewardQuota - r.reversedQuota - r.transferredQuota) else 0

/-- What a granted reward would add to the balance had nothing been reversed. -/
def heldShare (r : AffiliateRewardRecord) : Int :=
  match originalRewardStatus r with
  | .pending => 0
  | .canceled => 0
  | _ => r.rewardQuota - r.transferredQuota

theorem availableShare_eq (h : SoundReward r) :
    availableShare r = heldShare r - (reversedShares r).1 := by
  have hReversed := h.reversed
  have hTransferred := h.transferred
  have hUsedUp := h.usedUp
  unfold availableShare heldShare reversedShares walletReversal
  cases hPre : r.preReversalStatus with
  | none =>
    rw [originalRewardStatus_of_none hPre] at hUsedUp ⊢
    rcases hStatus : r.status with _ | _ | _ | _ | _ <;>
      simp [isAvailable, hStatus] at hUsedUp ⊢ <;> omega
  | some p =>
    -- A reward that a reversal cancelled has been reversed in full.
    obtain ⟨hStatus, hNot, hFull⟩ := h.remembered (by rw [hPre]; rfl)
    have hOriginal : originalRewardStatus r = p := by simp [originalRewardStatus, hStatus, hPre]
    rw [hOriginal]
    cases p <;> simp [isAvailable, hStatus] <;> omega

theorem sum_availableShare (h : SoundRewards rewards) (u : Int) :
    rewards.sum (ofInviter u availableShare) = rewards.sum (ofInviter u heldShare) -
      (rewards.sum (ofInviter u reversedShares)).1 := by
  have hFst : (rewards.sum (ofInviter u reversedShares)).1 =
      rewards.sum (ofInviter u fun r => (reversedShares r).1) := by
    have hPairs : ofInviter u reversedShares = fun r =>
        ((ofInviter u reversedShares r).1, (ofInviter u reversedShares r).2) := rfl
    rw [hPairs, Table.sum_prod]
    refine Table.sum_congr fun r _ => ?_
    unfold ofInviter
    split <;> rfl
  rw [hFst, eq_sub_iff_add_eq, ← Table.sum_add]
  refine Table.sum_congr fun r hr => ?_
  have hShare := availableShare_eq (h r hr)
  unfold ofInviter
  split
  · dsimp only
    omega
  · rfl

/-- The reward balance of an inviter is what the available rewards are worth. -/
structure RewardsBacked (u : Int) (db : Database) : Prop where
  sound : SoundRewards db.payments.affiliateRewards
  balance : ∀ user, db.users.get? u = some user →
    user.affQuota = db.payments.affiliateRewards.sum (ofInviter u availableShare)

theorem RewardsBacked.held (h : RewardsBacked u db) (hp : grossHoldings u db = some p) :
    p.1 = db.payments.affiliateRewards.sum (ofInviter u heldShare) := by
  unfold grossHoldings holdings at hp
  cases hUser : db.users.get? u with
  | none =>
    rw [hUser] at hp
    cases hp
  | some user =>
    rw [hUser, Option.map_some, Option.map_some, Option.map_some, Option.some.injEq] at hp
    have hBalance := h.balance user hUser
    rw [sum_availableShare h.sound] at hBalance
    rw [← hp]
    simp only [purse, Prod.fst_add, Prod.fst_sub]
    omega

theorem RewardsBacked.of_held (hSound : SoundRewards db.payments.affiliateRewards)
    (h : ∀ p, grossHoldings u db = some p →
      p.1 = db.payments.affiliateRewards.sum (ofInviter u heldShare)) : RewardsBacked u db := by
  refine ⟨hSound, fun user hUser => ?_⟩
  have hHeld := h _ (by rw [grossHoldings, holdings, hUser]; rfl)
  rw [sum_availableShare hSound, ← hHeld]
  simp only [purse, Prod.fst_add, Prod.fst_sub]
  omega

/-- A step that moves the held rewards and the balance by the same amount. -/
theorem RewardsBacked.moved (h : RewardsBacked u db) (delta : Int × Int × Int)
    (hSound : SoundRewards db'.payments.affiliateRewards)
    (hGross : grossHoldings u db' = (grossHoldings u db).map (· + delta))
    (hHeld : db'.payments.affiliateRewards.sum (ofInviter u heldShare) =
      db.payments.affiliateRewards.sum (ofInviter u heldShare) + delta.1) :
    RewardsBacked u db' := by
  refine .of_held hSound fun p hp => ?_
  rw [hGross, Option.map_eq_some_iff] at hp
  obtain ⟨before, hBefore, rfl⟩ := hp
  rw [hHeld, Prod.fst_add, h.held hBefore]

/-! ### Reversal and maturation -/

theorem heldShare_congr (h : rewardCore r' = rewardCore r) :
    ofInviter u heldShare r' = ofInviter u heldShare r := by
  have hInviter : r'.inviterId = r.inviterId := congrArg RewardCore.inviterId h
  have hOriginal : originalRewardStatus r' = originalRewardStatus r :=
    congrArg RewardCore.original h
  have hReward : r'.rewardQuota = r.rewardQuota := congrArg RewardCore.rewardQuota h
  have hTransferred : r'.transferredQuota = r.transferredQuota :=
    congrArg RewardCore.transferredQuota h
  unfold ofInviter heldShare
  rw [hInviter, hOriginal, hReward, hTransferred]

theorem RewardsBacked.reversal (h : RewardsBacked u db)
    (hRun : reconcileAffiliateRewardReversalTx env event order targetAmount db = .ok (a, db')) :
    RewardsBacked u db' := by
  obtain ⟨topUp, hReversed⟩ := reconcileAffiliateRewardReversalTx_ok h.sound hRun
  refine h.moved 0 ?_ ?_ ?_
  · rw [hReversed.rewards]
    exact h.sound.reversed hReversed.targets
  · rw [hReversed.gross]
    simp
  · rw [hReversed.rewards, reversedRewards, Table.sum_updateWhere, Prod.fst_zero, add_zero]
    refine Table.sum_congr fun r hr => ?_
    split
    · exact heldShare_congr (movedReward_core (h.sound r hr) _ _)
    · rfl

/-- From its maturation on a reward is held in full. -/
theorem sum_heldShare_matured (h : SoundRewards rewards) :
    (maturedRewards inviterId now rewards).sum (ofInviter u heldShare) =
      rewards.sum (ofInviter u heldShare) +
        if u = inviterId then dueReward inviterId now rewards else 0 := by
  rw [sum_maturedRewards]
  congr 2
  refine Table.sum_congr fun r hr => ?_
  split
  · next hDue =>
      have hStatus := (status_of_isDue hDue).2
      have hPending := (h r hr).original_of_pending hStatus
      have hNothing := (h r hr).pending hPending
      have hReward : (maturedReward r).rewardQuota = r.rewardQuota := rfl
      have hTransferred : (maturedReward r).transferredQuota = r.transferredQuota := rfl
      unfold heldShare
      rw [hPending, (h r hr).original_matured hStatus, hReward, hTransferred, hNothing]
      simp
  · rfl

theorem grossHoldings_matured (h : SoundRewards db.payments.affiliateRewards)
    (delta : Int × Int × Int) (u : Int)
    (hPurse : PurseMoved db.users db'.users inviterId
      ((dueQuota inviterId now db.payments.affiliateRewards,
        dueQuota inviterId now db.payments.affiliateRewards, 0) + delta))
    (hRewards : db'.payments.affiliateRewards.sum (ofInviter u reversedShares) =
      (maturedRewards inviterId now db.payments.affiliateRewards).sum (ofInviter u reversedShares))
    (hDebts : db'.paymentDebts = db.paymentDebts) :
    grossHoldings u db' = (grossHoldings u db).map (· + if u = inviterId then
      (dueReward inviterId now db.payments.affiliateRewards,
        dueReward inviterId now db.payments.affiliateRewards, 0) + delta else 0) := by
  rw [grossHoldings_moved hPurse hDebts u, hRewards, sum_maturedRewards, add_sub_cancel_left]
  congr 1
  funext p
  split
  · rw [← dueQuota_add_reversed h inviterId now]
    abel
  · rfl

theorem RewardsBacked.maturation (h : RewardsBacked u db)
    (hRun : settleAvailableAffiliateRewardsTx inviterId now db = .ok (settled, db')) :
    RewardsBacked u db' := by
  obtain ⟨rfl, users, hMoved, rfl⟩ := settleAvailableAffiliateRewardsTx_ok hRun
  refine h.moved _ (h.sound.matured inviterId now)
    (grossHoldings_matured h.sound 0 u (by rwa [add_zero]) rfl rfl) ?_
  rw [add_zero]
  refine (sum_heldShare_matured h.sound).trans ?_
  split <;> rfl

/-! ### Transfers -/

theorem heldShare_transferred (hAvailable : isAvailable r = true) :
    heldShare (transferredReward moveQuota r r) = heldShare r - moveQuota := by
  have hReward : (transferredReward moveQuota r r).rewardQuota = r.rewardQuota := rfl
  have hTransferred : (transferredReward moveQuota r r).transferredQuota =
      r.transferredQuota + moveQuota := rfl
  unfold heldShare
  rw [original_transferred, original_of_isAvailable hAvailable, hReward, hTransferred]
  by_cases hAll : r.transferredQuota + moveQuota ≥ r.rewardQuota
  · rw [if_pos hAll]
    dsimp only
    omega
  · rw [if_neg hAll]
    dsimp only
    omega

theorem Transfers.held (h : Transfers inviterId rewards moved rewards') (u : Int) :
    rewards'.sum (ofInviter u heldShare) =
      rewards.sum (ofInviter u heldShare) + if u = inviterId then -moved else 0 := by
  rw [h.sum (w := heldShare) (-1) (fun _ _ hAvailable _ _ => by
    rw [heldShare_transferred hAvailable]; simp [sub_eq_add_neg]) u]
  simp

theorem Transfers.shares (h : Transfers inviterId rewards moved rewards') (u : Int) :
    rewards'.sum (ofInviter u reversedShares) = rewards.sum (ofInviter u reversedShares) := by
  rw [h.sum (w := reversedShares) 0 (fun _ _ hAvailable hPos hLe => by
    rw [reversedShares_transferred hAvailable hPos hLe]; simp) u]
  simp

theorem UsedUp.sum (h : UsedUp u rewards) : rewards.sum (ofInviter u availableShare) = 0 := by
  refine Table.sum_eq_zero fun r hr => ?_
  unfold ofInviter availableShare
  split
  · next hInviter =>
      split
      · next hAvailable => exact max_eq_left (h r hr hInviter hAvailable)
      · rfl
  · rfl

/-- A transfer finds in the records all the quota it moves. -/
theorem RewardsBacked.transfer (hu : u ≠ 0) (h : RewardsBacked u db)
    (hRun : transferAffQuotaToQuota policy userId quota now db = .ok (a, db')) :
    RewardsBacked u db' := by
  obtain ⟨user, moved, rewards, hQuota, hUser, hEnough, -, -, hPurse, hTransfers, rfl, hDebts, -, hEnd⟩ :=
    transferAffQuotaToQuota_ok hRun
  have hMatured := h.sound.matured userId now
  have hSound := hTransfers.sound hMatured
  have hGross := grossHoldings_matured h.sound (-quota, 0, quota) u
    (by simpa [sub_eq_add_neg] using hPurse) (hTransfers.shares u) hDebts
  refine h.moved _ hSound hGross ?_
  rw [hTransfers.held, sum_heldShare_matured h.sound]
  by_cases hOwn : u = userId
  · subst hOwn
    have hAll : moved = quota := by
      rcases hEnd with ⟨hZero, -⟩ | ⟨hLe, hMoved | hUsedUp⟩
      · exact absurd hZero hu
      · exact hMoved
      · have hNothing := hUsedUp.sum
        rw [sum_availableShare hSound, hTransfers.held, hTransfers.shares,
          sum_heldShare_matured h.sound, sum_maturedRewards] at hNothing
        have hBalance := h.balance user hUser
        rw [sum_availableShare h.sound] at hBalance
        have hDue := congrArg Prod.fst (dueQuota_add_reversed h.sound u now)
        simp only [if_true, Prod.fst_add] at hNothing hDue
        omega
    subst hAll
    simp only [if_true, Prod.fst_add]
    omega
  · simp [hOwn]

end XyApi.Payment

import XyApi.Payment.RewardReversal

/-!
How a reversed reward is split. What was already moved to the wallet is taken from
there, the rest from the reward balance; transfers and maturation do not change what
a reversal has taken. So an inviter's holdings together with the reversed shares of
the rewards are what they would be had nothing been reversed, and no reversal
changes that.
-/

namespace XyApi.Payment

open Lib Billing

variable {db db' : Database} {env : PaymentEnv} {order : PaymentOrder}
  {inviterId userId now : Int}

/-! ### The split of a reversed reward -/

def walletReversal (r : AffiliateRewardRecord) : Int :=
  max 0 (r.reversedQuota - (r.rewardQuota - r.transferredQuota))

def reversedShares (r : AffiliateRewardRecord) : Int × Int × Int :=
  match originalRewardStatus r with
  | .pending => (0, 0, walletReversal r)
  | .canceled => (0, walletReversal r, walletReversal r)
  | _ => (r.reversedQuota - walletReversal r, r.reversedQuota, walletReversal r)

structure SoundReward (r : AffiliateRewardRecord) : Prop where
  reversed : 0 ≤ r.reversedQuota ∧ r.reversedQuota ≤ r.rewardQuota
  transferred : 0 ≤ r.transferredQuota ∧ r.transferredQuota ≤ r.rewardQuota
  pending : originalRewardStatus r = .pending → r.transferredQuota = 0
  usedUp : originalRewardStatus r = .transferred → r.transferredQuota = r.rewardQuota
  remembered : r.preReversalStatus.isSome = true → r.status = some .canceled ∧
    r.preReversalStatus ≠ some .canceled ∧ r.reversedQuota = r.rewardQuota

/-- A row that was not cancelled by a reversal has the status it says. -/
theorem originalRewardStatus_of_none (h : r.preReversalStatus = none) :
    originalRewardStatus r = r.status.getD .available := by
  simp [originalRewardStatus, h]

theorem SoundReward.none_of_status (h : SoundReward r) (hStatus : r.status ≠ some .canceled) :
    r.preReversalStatus = none := by
  by_contra hSome
  exact hStatus (h.remembered (Option.isSome_iff_ne_none.mpr hSome)).1

/-- A reward is cancelled on its own when no reversal cancelled it. -/
theorem SoundReward.original_canceled_iff (h : SoundReward r) :
    originalRewardStatus r = .canceled ↔ r.status = some .canceled ∧ r.preReversalStatus = none := by
  cases hPre : r.preReversalStatus with
  | none =>
    rw [originalRewardStatus_of_none hPre]
    cases r.status <;> simp
  | some =>
    obtain ⟨hStatus, hNot, -⟩ := h.remembered (by rw [hPre]; rfl)
    rw [hPre, ne_eq, Option.some.injEq] at hNot
    simp [originalRewardStatus, hStatus, hPre, hNot]

def movedReward (now targetQuota : Int) (r : AffiliateRewardRecord) : AffiliateRewardRecord :=
  if targetQuota = r.reversedQuota then r else reversedReward now targetQuota r r

/-- The columns of a reward that a reversal leaves alone, and the status it goes back to. -/
structure RewardCore where
  id : Int
  inviterId : Int
  topUpId : Int
  rewardQuota : Int
  availableAt : Int
  transferredQuota : Int
  original : AffiliateRewardStatus
  deriving DecidableEq

def rewardCore (r : AffiliateRewardRecord) : RewardCore where
  id := r.id
  inviterId := r.inviterId
  topUpId := r.topUpId
  rewardQuota := r.rewardQuota
  availableAt := r.availableAt
  transferredQuota := r.transferredQuota
  original := originalRewardStatus r

section Moved

variable {r : AffiliateRewardRecord}

theorem movedReward_reversed : (movedReward now targetQuota r).reversedQuota = targetQuota := by
  unfold movedReward
  split
  · next hEq => exact hEq.symm
  · unfold reversedReward
    split
    · rfl
    · split <;> rfl

theorem movedReward_core (h : SoundReward r) (now targetQuota : Int) :
    rewardCore (movedReward now targetQuota r) = rewardCore r := by
  unfold movedReward
  split
  · rfl
  unfold reversedReward
  split
  · next hFull => simp [rewardCore, originalRewardStatus, hFull.2]
  · split
    · next hSome =>
        obtain ⟨hCanceled, hPre, -⟩ := h.remembered hSome
        obtain ⟨p, hp⟩ := Option.isSome_iff_exists.mp hSome
        simp [rewardCore, originalRewardStatus, hCanceled, hp]
    · rfl

theorem SoundReward.moved (h : SoundReward r) (hTarget : 0 ≤ targetQuota ∧
    targetQuota ≤ r.rewardQuota) : SoundReward (movedReward now targetQuota r) := by
  have hCore := movedReward_core h now targetQuota
  have hReward := congrArg RewardCore.rewardQuota hCore
  have hTransferred := congrArg RewardCore.transferredQuota hCore
  have hOriginal := congrArg RewardCore.original hCore
  simp only [rewardCore] at hReward hTransferred hOriginal
  refine ⟨?_, ?_, ?_, ?_, ?_⟩
  · rw [movedReward_reversed, hReward]
    exact hTarget
  · rw [hTransferred, hReward]
    exact h.transferred
  · rw [hOriginal, hTransferred]
    exact h.pending
  · rw [hOriginal, hTransferred, hReward]
    exact h.usedUp
  · intro hSome
    unfold movedReward reversedReward at hSome ⊢
    split
    · next hEq => exact h.remembered (by simpa [hEq] using hSome)
    · next hNe =>
        split
        · next hFull =>
            refine ⟨rfl, ?_, le_antisymm hTarget.2 hFull.1⟩
            have hNone := h.none_of_status hFull.2
            rw [originalRewardStatus_of_none hNone]
            cases hStatus : r.status with
            | none => simp
            | some =>
              rw [hStatus] at hFull
              simpa using hFull.2
        · next hNot =>
            rw [if_neg hNe, if_neg hNot] at hSome
            split at hSome
            · cases hSome
            · next hNone => exact absurd hSome hNone

/-- A change of the reversed part takes from the inviter what it adds to the shares. -/
theorem reversedShares_moved (h : SoundReward r) (hTarget : targetQuota ≤ r.rewardQuota) :
    reversedShares (movedReward now targetQuota r) = reversedShares r +
      ((rewardDeltas r targetQuota).balance.1, (rewardDeltas r targetQuota).balance.2,
        (rewardDeltas r targetQuota).wallet) := by
  have hCore := movedReward_core h now targetQuota
  have hReward := congrArg RewardCore.rewardQuota hCore
  have hTransferred := congrArg RewardCore.transferredQuota hCore
  have hOriginal := congrArg RewardCore.original hCore
  simp only [rewardCore] at hReward hTransferred hOriginal
  have hWallet : walletReversal (movedReward now targetQuota r) =
      max 0 (targetQuota - (r.rewardQuota - r.transferredQuota)) := by
    rw [walletReversal, movedReward_reversed, hReward, hTransferred]
  have hRange := h.transferred
  have hReversed := h.reversed
  have hAlone := h.original_canceled_iff
  unfold reversedShares
  rw [hOriginal, hWallet, movedReward_reversed, walletReversal]
  cases hStatus : originalRewardStatus r with
  | pending =>
    have hNot := mt hAlone.mpr (by simp [hStatus])
    simp [rewardDeltas, if_neg hNot, RewardDeltas.balance, hStatus]
  | canceled =>
    have hCanceled := hAlone.mp hStatus
    by_cases hSome : r.transferredQuota > 0
    · simp [rewardDeltas, hCanceled, RewardDeltas.balance, hSome]
    · have hZero : r.transferredQuota = 0 := by omega
      simp [rewardDeltas, hCanceled, RewardDeltas.balance, hZero]
      omega
  | available | transferred =>
    have hNot := mt hAlone.mpr (by simp [hStatus])
    simp [rewardDeltas, if_neg hNot, RewardDeltas.balance, hStatus]

theorem rewardDeltas_self :
    (rewardDeltas r r.reversedQuota).balance = (0, 0) ∧
      (rewardDeltas r r.reversedQuota).wallet = 0 := by
  unfold rewardDeltas RewardDeltas.balance
  constructor <;> split <;> simp

end Moved

/-! ### Reversing the records of a top-up -/

def rewardTarget (order : PaymentOrder) (targetAmount : Int) (r : AffiliateRewardRecord) : Int :=
  (saturateQuota (decimalDivRound (r.rewardQuota * targetAmount) order.expectedAmountMinor)).1

def AffNonneg (users : Table User.id) : Prop :=
  ∀ u user, users.get? u = some user → 0 ≤ user.affQuota

theorem AffNonneg.put (h : AffNonneg users) (hNonneg : 0 ≤ user.affQuota) :
    AffNonneg (users.put user) := by
  intro u x hx
  rw [Table.get?_put] at hx
  split at hx
  · obtain ⟨-, -, rfl⟩ := Option.map_eq_some_iff.mp hx
    exact hNonneg
  · exact h u x hx

theorem PurseMoved.affNonneg (h : PurseMoved users users' userId delta) (hAll : AffNonneg users)
    (hOwn : ∀ user, users.get? userId = some user → 0 ≤ user.affQuota + delta.1) :
    AffNonneg users' := by
  intro u user hUser
  have hMoved := h u
  rw [hUser, Option.map_some, eq_comm, Option.map_eq_some_iff] at hMoved
  obtain ⟨before, hBefore, hPurse⟩ := hMoved
  have hColumn : user.affQuota = before.affQuota + (if u = userId then delta else 0).1 :=
    (congrArg Prod.fst hPurse).symm
  rw [hColumn]
  split
  · next hEq => exact hOwn before (hEq ▸ hBefore)
  · simpa using hAll u before hBefore

theorem reverseRewardBalanceTx_nonneg (h : reverseRewardBalanceTx inviterId d db = .ok (u, db'))
    (hAll : AffNonneg db.users) :
    AffNonneg db'.users := by
  rcases reverseRewardBalanceTx_ok h with ⟨inviter, -, -, hNonneg, rfl⟩ | ⟨-, rfl⟩
  · exact hAll.put hNonneg
  · exact hAll

structure RewardReversed (env : PaymentEnv) (order : PaymentOrder) (targetAmount : Int)
    (r : AffiliateRewardRecord) (db db' : Database) : Prop where
  target : 0 ≤ rewardTarget order targetAmount r ∧
    rewardTarget order targetAmount r ≤ r.rewardQuota
  rewards : db'.payments.affiliateRewards = db.payments.affiliateRewards.put
    (movedReward env.now (rewardTarget order targetAmount r) r)
  moved : ∃ x, PurseMoved db.users db'.users r.inviterId
      (-(rewardDeltas r (rewardTarget order targetAmount r)).balance.1,
        -(rewardDeltas r (rewardTarget order targetAmount r)).balance.2, x) ∧
    ∀ u, affiliateDebt u db'.paymentDebts = affiliateDebt u db.paymentDebts +
      if u = r.inviterId then x + (rewardDeltas r (rewardTarget order targetAmount r)).wallet
      else 0
  nonneg : AffNonneg db.users → AffNonneg db'.users

theorem rewardTargetQuotaTx_ok
    (h : rewardTargetQuotaTx order r targetAmount db = .ok (targetQuota, db')) :
    targetQuota = rewardTarget order targetAmount r ∧ 0 ≤ targetQuota ∧
      targetQuota ≤ r.rewardQuota ∧ db' = db := by
  simp only [rewardTargetQuotaTx, Tx.failIf_bind_ok_iff, Tx.pure_ok_iff] at h
  obtain ⟨hRange, rfl, rfl⟩ := h
  exact ⟨rfl, by omega, by omega, rfl⟩

theorem reverseRewardRecordTx_ok (hStored : db.payments.affiliateRewards.get? r.id = some r)
    (h : reverseRewardRecordTx env order targetAmount r db = .ok (delta, db')) :
    RewardReversed env order targetAmount r db db' := by
  unfold reverseRewardRecordTx at h
  obtain ⟨targetQuota, db₀, hTarget, h⟩ := Tx.bind_ok h
  obtain ⟨rfl, hNonneg, hLe, hDb⟩ := rewardTargetQuotaTx_ok hTarget
  rw [hDb] at h
  by_cases hSame : rewardTarget order targetAmount r = r.reversedQuota
  · rw [if_pos hSame] at h
    cases h
    obtain ⟨hBalance, hWallet⟩ := rewardDeltas_self
    refine ⟨⟨hNonneg, hLe⟩, ?_, ⟨0, ?_, fun u => ?_⟩, id⟩
    · rw [movedReward, if_pos hSame, Table.put_of_get? hStored]
    · rw [hSame, hBalance]
      exact .of_eq rfl rfl
    · rw [hSame, hWallet]
      simp
  · rw [if_neg hSame] at h
    obtain ⟨_, db₁, hBalance, h⟩ := Tx.bind_ok h
    obtain ⟨_, db₂, hWallet, h⟩ := Tx.bind_ok h
    cases h
    obtain ⟨hPurse, hPayments, hDebts⟩ := reverseRewardBalanceTx_purse hBalance
    obtain ⟨x, hPurse', hDebts'⟩ := reverseRewardWalletTx_net hWallet
    have hRewards : db₂.payments.affiliateRewards = db.payments.affiliateRewards := by
      have hOnly := (reverseRewardWalletTx_only ..).of_ok hWallet .rewards (by decide)
      exact hOnly.trans (congrArg PaymentTables.affiliateRewards hPayments)
    refine ⟨⟨hNonneg, hLe⟩, ?_, ⟨x, by simpa using hPurse.trans hPurse', fun u => ?_⟩,
      fun hAll => ?_⟩
    · rw [movedReward, if_neg hSame]
      dsimp only
      rw [hRewards, Table.updateWhere_eq_put hStored fun _ => decide_eq_true_iff]
    · rw [hDebts', hDebts]
      simp
    · have hFirst := reverseRewardBalanceTx_nonneg hBalance hAll
      exact hPurse'.affNonneg hFirst fun user hUser => by simpa using hFirst _ user hUser

def ofInviter {M : Type} [AddCommGroup M] (u : Int) (w : AffiliateRewardRecord → M)
    (r : AffiliateRewardRecord) : M :=
  if r.inviterId = u then w r else 0

def holdings (u : Int) (db : Database) : Option (Int × Int × Int) :=
  ((db.users.get? u).map purse).map (· - (0, 0, affiliateDebt u db.paymentDebts))

def grossHoldings (u : Int) (db : Database) : Option (Int × Int × Int) :=
  (holdings u db).map (· + db.payments.affiliateRewards.sum (ofInviter u reversedShares))

theorem RewardReversed.gross (h : RewardReversed env order targetAmount r db db')
    (hStored : db.payments.affiliateRewards.get? r.id = some r) (hSound : SoundReward r) (u : Int) :
    grossHoldings u db' = grossHoldings u db := by
  obtain ⟨x, hPurse, hDebt⟩ := h.moved
  have hCore := movedReward_core hSound env.now (rewardTarget order targetAmount r)
  have hId : (movedReward env.now (rewardTarget order targetAmount r) r).id = r.id :=
    congrArg RewardCore.id hCore
  have hInviter : (movedReward env.now (rewardTarget order targetAmount r) r).inviterId =
      r.inviterId := congrArg RewardCore.inviterId hCore
  unfold grossHoldings holdings
  rw [hPurse u, hDebt u, h.rewards, Table.sum_put (hId ▸ hStored), ofInviter, hInviter,
    reversedShares_moved hSound h.target.2, ofInviter]
  cases db.users.get? u with
  | none => rfl
  | some =>
    simp only [Option.map_some, Option.some.injEq]
    by_cases hu : u = r.inviterId
    · subst hu
      simp only [if_true, Prod.ext_iff, Prod.fst_add, Prod.snd_add, Prod.fst_sub, Prod.snd_sub]
      omega
    · simp only [if_neg hu, if_neg (Ne.symm hu), add_zero, sub_self]

theorem movedReward_id :
    (movedReward now targetQuota r).id = r.id := by
  unfold movedReward
  split
  · rfl
  · exact reversedReward_id _ _ _ _

def reversedRewards (now : Int) (order : PaymentOrder) (targetAmount topUpId : Int)
    (rewards : Table AffiliateRewardRecord.id) : Table AffiliateRewardRecord.id :=
  rewards.updateWhere (fun r => r.topUpId = topUpId)
    (fun r => movedReward now (rewardTarget order targetAmount r) r) fun _ => movedReward_id

theorem reverseRewardRecordsTx_ok (hLoaded : LoadedRewards records db.payments.affiliateRewards)
    (hSound : ∀ r ∈ records, SoundReward r)
    (h : reverseRewardRecordsTx env order targetAmount inviterId totalDelta records db =
      .ok (result, db')) :
    db'.payments.affiliateRewards = (records.map fun r =>
        movedReward env.now (rewardTarget order targetAmount r) r).foldl Table.put
          db.payments.affiliateRewards ∧
      (∀ r ∈ records, 0 ≤ rewardTarget order targetAmount r ∧
        rewardTarget order targetAmount r ≤ r.rewardQuota) ∧
      (∀ u, grossHoldings u db' = grossHoldings u db) ∧ (AffNonneg db.users → AffNonneg db'.users) := by
  induction records generalizing db inviterId totalDelta with
  | nil =>
    cases h
    exact ⟨rfl, fun r hr => absurd hr List.not_mem_nil, fun u => rfl, id⟩
  | cons r rest ih =>
    simp only [reverseRewardRecordsTx, Tx.failIf_bind_ok_iff] at h
    obtain ⟨-, -, h⟩ := h
    obtain ⟨delta, db₁, hFirst, h⟩ := Tx.bind_ok h
    have hStored := hLoaded.2 r List.mem_cons_self
    have hReversed := reverseRewardRecordTx_ok hStored hFirst
    have hRest : LoadedRewards rest db₁.payments.affiliateRewards := by
      rw [hReversed.rewards]
      exact hLoaded.tail _ movedReward_id
    obtain ⟨hRewards, hTargets, hSame, hNonneg⟩ :=
      ih hRest (fun r hr => hSound r (List.mem_cons_of_mem _ hr)) h
    refine ⟨?_, ?_, fun u => ?_, hNonneg ∘ hReversed.nonneg⟩
    · rw [hRewards, hReversed.rewards]
      rfl
    · intro r' hr'
      rcases List.mem_cons.mp hr' with rfl | hMem
      · exact hReversed.target
      · exact hTargets r' hMem
    · rw [hSame, hReversed.gross hStored (hSound r List.mem_cons_self)]

structure PaymentRewardsReversed (env : PaymentEnv) (order : PaymentOrder) (targetAmount : Int)
    (topUp : TopUp) (db db' : Database) : Prop where
  found : findTopUp order db = some topUp
  expected : 0 < order.expectedAmountMinor
  rewards : db'.payments.affiliateRewards =
    reversedRewards env.now order targetAmount topUp.id db.payments.affiliateRewards
  targets : ∀ r ∈ db.payments.affiliateRewards.rows, r.topUpId = topUp.id →
    0 ≤ rewardTarget order targetAmount r ∧ rewardTarget order targetAmount r ≤ r.rewardQuota
  gross : ∀ u, grossHoldings u db' = grossHoldings u db
  nonneg : AffNonneg db.users → AffNonneg db'.users
  topUps : db'.payments.topUps = db.payments.topUps

theorem reconcileAffiliateRewardReversalTx_ok
    (hSound : ∀ r ∈ db.payments.affiliateRewards.rows, SoundReward r)
    (h : reconcileAffiliateRewardReversalTx env event order targetAmount db = .ok (u, db')) :
    ∃ topUp, PaymentRewardsReversed env order targetAmount topUp db db' := by
  simp only [reconcileAffiliateRewardReversalTx, Tx.failIf_bind_ok_iff, Tx.read_bind_apply,
    Tx.require_bind_ok_iff] at h
  obtain ⟨hArgs, topUp, hTopUp, h⟩ := h
  obtain ⟨⟨inviterId, totalDelta⟩, db₁, hRecords, h⟩ := Tx.bind_ok h
  have hPerm : (rewardRecordsOf topUp.id db).Perm (db.payments.affiliateRewards.rows.filter
      fun r => r.topUpId = topUp.id) := List.perm_insertionSort _ _
  have hMem : ∀ r, r ∈ rewardRecordsOf topUp.id db ↔
      r ∈ db.payments.affiliateRewards.rows ∧ r.topUpId = topUp.id := by
    intro r
    rw [hPerm.mem_iff, List.mem_filter, decide_eq_true_eq]
  have hLoaded : LoadedRewards (rewardRecordsOf topUp.id db) db.payments.affiliateRewards :=
    loadedRewards_insertionSort
  obtain ⟨hRewards, hTargets, hSame, hNonneg⟩ := reverseRewardRecordsTx_ok hLoaded
    (fun r hr => hSound r ((hMem r).mp hr).1) hRecords
  have hTopUps := (reverseRewardRecordsTx_only ..).of_ok hRecords .topUps (by decide)
  rw [Table.foldl_put_eq_updateWhere _ (fun _ => movedReward_id) hLoaded.1 hLoaded.2]
    at hRewards
  have hResult : PaymentRewardsReversed env order targetAmount topUp db db₁ := by
    refine ⟨hTopUp, by omega, hRewards.trans (Table.updateWhere_congr fun r hr => ?_),
      fun r hr hOf => hTargets r ((hMem r).mpr ⟨hr, hOf⟩), hSame, hNonneg, hTopUps⟩
    rw [Bool.eq_iff_iff, decide_eq_true_eq, decide_eq_true_eq, hLoaded.mem_ids_iff hr, hMem]
    exact and_iff_right hr
  rcases Tx.when_ok_iff.mp h with ⟨-, h⟩ | ⟨-, rfl⟩
  · cases h
    exact ⟨topUp, ⟨hTopUp, hResult.expected, hResult.rewards, hResult.targets,
      hResult.gross, hResult.nonneg, hResult.topUps⟩⟩
  · exact ⟨topUp, hResult⟩

end XyApi.Payment

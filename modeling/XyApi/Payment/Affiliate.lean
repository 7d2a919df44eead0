import XyApi.Payment.Projection

/-!
Rewards for the user who invited a buyer. A top-up can create reward records;
when the payment is reversed, each record is reversed in the same proportion.
The part of a reward that was not yet moved to the inviter's wallet is taken
from the reward balance, the rest from the wallet, and what the wallet cannot
pay becomes a debt of the inviter.
-/

namespace XyApi.Payment

open Lib Billing

variable (env : PaymentEnv) (order : PaymentOrder) (record : AffiliateRewardRecord)
  (targetAmount : Int)

def inviteRewardRuleContinuous : String := "continuous"

def inviteRewardRuleFirstTopUp : String := "first_topup"

def inviteRewardRuleInitialQuota : String := "initial_quota"

def legacyInviteRewardRuleContinuous : String := "continuous_5"

def legacyInviteRewardRuleFirstTopUp : String := "first_topup_10"

def affiliateRewardWaitSeconds : Int := 7 * 24 * 60 * 60

def normalizeInviteRewardRule (rule : String) : String :=
  let rule := trimSpace rule
  if rule = inviteRewardRuleFirstTopUp ∨ rule = legacyInviteRewardRuleFirstTopUp then
    inviteRewardRuleFirstTopUp
  else inviteRewardRuleContinuous

def normalizeRewardPercent (percent : Int) : Int := max 0 (min percent 100)

def resolveInviteRewardPercent (rule : String) (percent : Int) : Int :=
  if percent > 0 then normalizeRewardPercent percent
  else if trimSpace rule = legacyInviteRewardRuleContinuous then 5
  else if trimSpace rule = legacyInviteRewardRuleFirstTopUp then 10
  else if normalizeInviteRewardRule rule = inviteRewardRuleFirstTopUp then
    env.affiliateFirstTopupPercent
  else env.affiliateContinuousPercent

def affiliateRewardQuota (quotaToAdd rewardPercent : Int) : Int :=
  if quotaToAdd ≤ 0 ∨ rewardPercent ≤ 0 then 0
  else (saturateQuota (quotaToAdd * rewardPercent / 100)).1

def claimInviteFirstTopupRewardTx (userId : Int) : DbTx Bool := do
  let user? ← Tx.read fun db =>
    (db.users.get? userId).filter fun u => u.inviteFirstTopupRewardedAt = 0
  match user? with
  | none => pure false
  | some user => do
      Tx.write (Database.putUser { user with inviteFirstTopupRewardedAt := env.now })
      pure true

def successfulTopUpsTx (userId : Int) : DbTx Nat :=
  Tx.read fun db => db.payments.topUps.count fun t =>
    t.userId = userId ∧ t.status = .success ∧ t.amount > 0

def createAffiliateRewardRecord : DbTx Unit := do
  let id ← Tx.read fun db =>
    Database.nextId (db.payments.affiliateRewards.rows.map AffiliateRewardRecord.id)
  let records? ← Tx.read fun db =>
    db.payments.affiliateRewards.insert? { record with id := id }
  let records ← Tx.require records? .duplicatedKey
  writePayments fun p => { p with affiliateRewards := records }

def inviteRewardActivitiesFromSnapshotPercents (firstTopupPercent continuousPercent : Int) :
    List InviteRewardActivity :=
  (if firstTopupPercent > 0 then
    [{ activityDetail := "One-time Referral", type := inviteRewardRuleFirstTopUp
       percent := normalizeRewardPercent firstTopupPercent }]
  else []) ++
  (if continuousPercent > 0 then
    [{ activityDetail := "Continuous Referral", type := inviteRewardRuleContinuous
       percent := normalizeRewardPercent continuousPercent }]
  else [])

def normalizeInviteRewardActivity (activity : InviteRewardActivity) : InviteRewardActivity :=
  let ruleType := toLower (trimSpace activity.type)
  { activity with
    activityDetail := trimSpace activity.activityDetail
    type :=
      if ruleType = inviteRewardRuleFirstTopUp ∨ ruleType = inviteRewardRuleContinuous ∨
          ruleType = inviteRewardRuleInitialQuota then ruleType
      else trimSpace activity.type }

def applicableInviteRewardActivities (activities : List InviteRewardActivity)
    (firstTopUp : Bool) : List InviteRewardActivity :=
  let activities := activities.map normalizeInviteRewardActivity
  let firstTopupActivities := activities.filter fun a => a.type = inviteRewardRuleFirstTopUp
  let continuousActivities := activities.filter fun a => a.type = inviteRewardRuleContinuous
  if firstTopUp ∧ firstTopupActivities ≠ [] then firstTopupActivities else continuousActivities

def createActivityRewardsTx (record : AffiliateRewardRecord) (quotaToAdd : Int) :
    Int → List InviteRewardActivity → DbTx Int
  | totalReward, [] => pure totalReward
  | totalReward, activity :: rest => do
      let reward := affiliateRewardQuota quotaToAdd activity.percent
      if reward ≤ 0 then createActivityRewardsTx record quotaToAdd totalReward rest
      else do
        createAffiliateRewardRecord { record with
          activityDetail := activity.activityDetail
          inviteRewardRule := activity.type
          inviteRewardPercent := activity.percent
          rewardQuota := reward }
        Tx.failIf (reward > maxInt32 - totalReward) .quotaOverflow
        createActivityRewardsTx record quotaToAdd (totalReward + reward) rest

def createInviteLinkBatchTopUpRewardTx (topUp : TopUp) (user : User) (quotaToAdd : Int) :
    DbTx (Int × Int) := do
  let successCount ← successfulTopUpsTx user.id
  let activities :=
    if user.inviteRewardRulesSnapshot = [] then
      inviteRewardActivitiesFromSnapshotPercents user.inviteFirstTopupRewardPercent
        user.inviteContinuousRewardPercent
    else user.inviteRewardRulesSnapshot
  let firstTopUp ←
    if successCount = 0 then claimInviteFirstTopupRewardTx env user.id else pure false
  let applicable := applicableInviteRewardActivities activities firstTopUp
  if applicable = [] then pure (0, 0)
  else do
    let availableAt :=
      (if topUp.completeTime ≤ 0 then env.now else topUp.completeTime) + affiliateRewardWaitSeconds
    let totalReward ← createActivityRewardsTx
      { id := 0
        inviterId := user.inviterId
        inviteeId := user.id
        topUpId := topUp.id
        inviteLinkBatchId := user.inviteLinkBatchId
        topUpQuota := quotaToAdd
        status := some .pending
        availableAt := availableAt
        createdAt := env.now } quotaToAdd 0 applicable
    pure (user.inviterId, totalReward)

def addAffiliateBalanceTx (inviterId reward : Int) : DbTx Unit := do
  let inviter? ← Tx.read fun db => (db.users.get? inviterId).filter fun u =>
    u.affQuota ≤ maxInt32 - reward ∧ u.affHistoryQuota ≤ maxInt32 - reward
  let inviter ← Tx.require inviter? .quotaOverflow
  Tx.write (Database.putUser { inviter with
    affQuota := inviter.affQuota + reward
    affHistoryQuota := inviter.affHistoryQuota + reward })

def inviteRuleAppliesTx (user : User) : DbTx Bool :=
  if normalizeInviteRewardRule user.inviteRewardRule = inviteRewardRuleFirstTopUp then do
    let successCount ← successfulTopUpsTx user.id
    if successCount ≠ 0 then pure false else claimInviteFirstTopupRewardTx env user.id
  else pure true

def applyAffiliateTopUpRewardTx (topUp : TopUp) (quotaToAdd : Int) : DbTx (Int × Int) := do
  if quotaToAdd ≤ 0 then pure (0, 0)
  else do
    let quotaToAdd := (saturateQuota quotaToAdd).1
    let user? ← Tx.read fun db => db.users.get? topUp.userId
    let user ← Tx.require user? .recordNotFound
    if user.inviterId = 0 then pure (0, 0)
    else if user.inviteLinkBatchId > 0 then
      createInviteLinkBatchTopUpRewardTx env topUp user quotaToAdd
    else do
      let applies ← inviteRuleAppliesTx env user
      let rewardPercent :=
        resolveInviteRewardPercent env user.inviteRewardRule user.inviteRewardPercent
      let reward := affiliateRewardQuota quotaToAdd rewardPercent
      if ¬ applies ∨ reward ≤ 0 then pure (0, 0)
      else do
        createAffiliateRewardRecord {
          id := 0
          inviterId := user.inviterId
          inviteeId := user.id
          topUpId := topUp.id
          inviteRewardRule := normalizeInviteRewardRule user.inviteRewardRule
          inviteRewardPercent := rewardPercent
          topUpQuota := quotaToAdd
          rewardQuota := reward
          status := some .available
          availableAt := env.now
          createdAt := env.now }
        addAffiliateBalanceTx user.inviterId reward
        pure (user.inviterId, reward)

/-! ### Reversal -/

def originalRewardStatus : AffiliateRewardStatus :=
  let status :=
    if record.status = some .canceled ∧ record.preReversalStatus.isSome
    then record.preReversalStatus else record.status
  status.getD .available

/-- How a change of the reversed part splits over wallet, balance and history. -/
structure RewardDeltas where
  wallet : Int
  available : Int
  history : Int
  balanceWasGranted : Bool
  deriving DecidableEq, Repr

def rewardDeltas (targetQuota : Int) : RewardDeltas :=
  let activeUntransferred := record.rewardQuota - record.transferredQuota
  let oldWalletReversal := max 0 (record.reversedQuota - activeUntransferred)
  let newWalletReversal := max 0 (targetQuota - activeUntransferred)
  let oldAvailableReversal := record.reversedQuota - oldWalletReversal
  let newAvailableReversal := targetQuota - newWalletReversal
  let wallet := newWalletReversal - oldWalletReversal
  -- A reward cancelled on its own has lost its balance already; only what was
  -- transferred is left to reverse.
  if record.status = some .canceled ∧ record.preReversalStatus = none then
    { wallet := wallet, available := 0, history := wallet
      balanceWasGranted := record.transferredQuota > 0 }
  else
    { wallet := wallet
      available := newAvailableReversal - oldAvailableReversal
      history := targetQuota - record.reversedQuota
      balanceWasGranted :=
        originalRewardStatus record = .available ∨ originalRewardStatus record = .transferred }

def reverseRewardBalanceTx (inviterId : Int) (d : RewardDeltas) : DbTx Unit :=
  Tx.when (d.balanceWasGranted = true ∧ (d.available ≠ 0 ∨ d.history ≠ 0)) do
    let inviter? ← Tx.read fun db => db.users.get? inviterId
    let inviter ← Tx.require inviter? .recordNotFound
    Tx.failIf (d.available > 0 ∧ inviter.affQuota < d.available) .paymentManualReview
    Tx.failIf (d.history > 0 ∧ inviter.affHistoryQuota < d.history) .paymentManualReview
    let newAffQuota := inviter.affQuota - d.available
    let newAffHistory := inviter.affHistoryQuota - d.history
    Tx.failIf (newAffQuota < 0 ∨ newAffQuota > maxInt32 ∨ newAffHistory < 0 ∨
      newAffHistory > maxInt32) .paymentManualReview
    Tx.write (Database.putUser { inviter with
      affQuota := newAffQuota, affHistoryQuota := newAffHistory })

def reverseRewardWalletTx (inviterId wallet : Int) : DbTx Unit :=
  if wallet > 0 then (reverseUserPaymentQuotaTx env order inviterId wallet .affiliate).void
  else Tx.when (wallet < 0)
    (restoreUserPaymentQuotaTx env order inviterId (-wallet) .affiliate).void

def reversedReward (now targetQuota : Int) (original : AffiliateRewardRecord)
    (record : AffiliateRewardRecord) : AffiliateRewardRecord :=
  if targetQuota ≥ original.rewardQuota ∧ original.status ≠ some .canceled then
    { record with
      reversedQuota := targetQuota
      preReversalStatus := some (originalRewardStatus original)
      status := some .canceled
      canceledAt := now }
  else if original.preReversalStatus.isSome then
    { record with
      reversedQuota := targetQuota
      status := some (originalRewardStatus original)
      preReversalStatus := none
      canceledAt := 0 }
  else { record with reversedQuota := targetQuota }

theorem reversedReward_id (now targetQuota : Int) (original record : AffiliateRewardRecord) :
    (reversedReward now targetQuota original record).id = record.id := by
  unfold reversedReward
  split
  · rfl
  · split <;> rfl

def rewardTargetQuotaTx : DbTx Int := do
  let (targetQuota, clamped) := saturateQuota
    (decimalDivRound (record.rewardQuota * targetAmount) order.expectedAmountMinor)
  Tx.failIf (clamped ∨ targetQuota < 0 ∨ targetQuota > record.rewardQuota) .paymentManualReview
  pure targetQuota

def reverseRewardRecordTx (record : AffiliateRewardRecord) : DbTx Int := do
  let targetQuota ← rewardTargetQuotaTx order record targetAmount
  if targetQuota = record.reversedQuota then pure 0
  else do
    let deltas := rewardDeltas record targetQuota
    reverseRewardBalanceTx record.inviterId deltas
    reverseRewardWalletTx env order record.inviterId deltas.wallet
    writePayments fun p => { p with
      affiliateRewards := p.affiliateRewards.updateWhere (fun r => r.id = record.id)
        (reversedReward env.now targetQuota record) (reversedReward_id _ _ _) }
    pure (targetQuota - record.reversedQuota)

/-- Reverse the records of one top-up, which must name one inviter. Returns the
inviter and the total. -/
def reverseRewardRecordsTx (env : PaymentEnv) (order : PaymentOrder) (targetAmount : Int) :
    Int → Int → List AffiliateRewardRecord → DbTx (Int × Int)
  | inviterId, totalDelta, [] => pure (inviterId, totalDelta)
  | inviterId, totalDelta, record :: rest => do
      Tx.failIf (record.rewardQuota < 0 ∨ record.reversedQuota < 0 ∨
        record.reversedQuota > record.rewardQuota ∨ record.transferredQuota < 0 ∨
        record.transferredQuota > record.rewardQuota) .paymentManualReview
      Tx.failIf (inviterId ≠ 0 ∧ inviterId ≠ record.inviterId) .paymentManualReview
      let delta ← reverseRewardRecordTx env order targetAmount record
      reverseRewardRecordsTx env order targetAmount record.inviterId (totalDelta + delta) rest

def rewardRecordsOf (topUpId : Int) (db : Database) : List AffiliateRewardRecord :=
  (db.payments.affiliateRewards.rows.filter fun r => r.topUpId = topUpId).insertionSort
    fun a b => a.id ≤ b.id

def reconcileAffiliateRewardReversalTx (event : PaymentEvent) (order : PaymentOrder)
    (targetAmount : Int) : DbTx Unit := do
  Tx.failIf (order.expectedAmountMinor ≤ 0 ∨ targetAmount < 0 ∨
    targetAmount > order.expectedAmountMinor) .paymentAmountMismatch
  let topUp? ← Tx.read (findTopUp order)
  let topUp ← Tx.require topUp? .recordNotFound
  let records ← Tx.read (rewardRecordsOf topUp.id)
  let (inviterId, totalDelta) ← reverseRewardRecordsTx env order targetAmount 0 0 records
  Tx.when (totalDelta ≠ 0)
    (appendLedgerEntry
      { paymentOrderId := order.id
        paymentEventId := event.id
        userId := inviterId
        entryType := .affiliateReversal
        amountMinor := targetAmount - order.reversedAmountMinor
        quotaDelta := -totalDelta
        currency := order.currency
        description := "affiliate reward reconciled after payment reversal"
        createdAt := env.now })

end XyApi.Payment

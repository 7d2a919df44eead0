import XyApi.Payment.Affiliate

/-!
What becomes of a reward after it was recorded. A pending reward is added to the
inviter's reward balance when its waiting time is over; the inviter moves reward
balance to the wallet, which uses up the oldest rewards first; and a reward can be
cancelled on its own.
-/

namespace XyApi

variable (inviterId now : Int) (r : AffiliateRewardRecord)

def Database.withRewards (db : Database) (rewards : Lib.Table AffiliateRewardRecord.id) :
    Database :=
  { db with payments := { db.payments with affiliateRewards := rewards } }

namespace Payment

open Lib Billing

def PaidBefore (a b : AffiliateRewardRecord) : Prop :=
  a.availableAt < b.availableAt ∨ (a.availableAt = b.availableAt ∧ a.id ≤ b.id)
  deriving Decidable

/-! ### Maturation -/

def isDue : Bool :=
  r.inviterId = inviterId ∧ r.status = some .pending ∧ r.availableAt ≤ now

def dueRewards (db : Database) : List AffiliateRewardRecord :=
  (db.payments.affiliateRewards.rows.filter (isDue inviterId now)).insertionSort PaidBefore

def maturedReward : AffiliateRewardRecord :=
  { r with status := some .available }

theorem maturedReward_id : (maturedReward r).id = r.id := rfl

/-- Make the loaded rewards available, each one that is still pending. Returns the
quota they are worth. -/
def matureRewardsTx : Int → List AffiliateRewardRecord → DbTx Int
  | total, [] => pure total
  | total, record :: rest => do
      let stored? ← Tx.read fun db => (db.payments.affiliateRewards.get? record.id).filter
        fun r => r.status = some .pending
      match stored? with
      | none => matureRewardsTx total rest
      | some stored => do
          Tx.write fun db =>
            db.withRewards (db.payments.affiliateRewards.put (maturedReward stored))
          let effectiveReward := record.rewardQuota - record.reversedQuota
          if effectiveReward > 0 then do
            Tx.failIf (total > maxInt32 - effectiveReward) .quotaOverflow
            matureRewardsTx (total + effectiveReward) rest
          else matureRewardsTx total rest

def settleAvailableAffiliateRewardsTx : DbTx Int := do
  let records ← Tx.read (dueRewards inviterId now)
  let total ← matureRewardsTx 0 records
  if total ≤ 0 then pure 0
  else do
    addAffiliateBalanceTx inviterId total
    pure total

def settleAvailableAffiliateRewards : DbTx Int :=
  if inviterId = 0 then pure 0 else settleAvailableAffiliateRewardsTx inviterId now

/-! ### Transfer to the wallet -/

/-- A reward in the available state; rows older than the column have no status. -/
def isAvailable : Bool :=
  r.status = some .available ∨ r.status = none

def availableRewards (db : Database) : List AffiliateRewardRecord :=
  (db.payments.affiliateRewards.rows.filter fun r =>
    r.inviterId = inviterId ∧ isAvailable r).insertionSort PaidBefore

def transferableQuota : Int :=
  r.rewardQuota - r.reversedQuota - r.transferredQuota

def transferredReward (moveQuota : Int) (original record : AffiliateRewardRecord) :
    AffiliateRewardRecord :=
  { record with
    transferredQuota := original.transferredQuota + moveQuota
    status := if original.transferredQuota + moveQuota ≥ original.rewardQuota
      then some .transferred else some .available }

theorem transferredReward_id (moveQuota : Int) (original record : AffiliateRewardRecord) :
    (transferredReward moveQuota original record).id = record.id := rfl

def transferRewardsTx : Int → List AffiliateRewardRecord → DbTx Unit
  | _, [] => pure ()
  | remaining, record :: rest =>
    if remaining ≤ 0 then pure ()
    else if transferableQuota record ≤ 0 then transferRewardsTx remaining rest
    else do
      let moveQuota :=
        if remaining < transferableQuota record then remaining else transferableQuota record
      writePayments fun p => { p with
        affiliateRewards := p.affiliateRewards.updateWhere (fun r => r.id = record.id)
          (transferredReward moveQuota record) (transferredReward_id _ _) }
      transferRewardsTx (remaining - moveQuota) rest

def markTransferredAffiliateRewardsTx (quota : Int) : DbTx Unit :=
  if inviterId = 0 ∨ quota ≤ 0 then pure ()
  else do
    let records ← Tx.read (availableRewards inviterId)
    transferRewardsTx quota records

/-- The setting a transfer looks at, and how the smallest transfer is printed. -/
structure TransferPolicy where
  quotaPerUnit : ℚ
  minimumText : String
  deriving DecidableEq, Repr

def transferAffQuotaToQuota (policy : TransferPolicy) (userId quota now : Int) : DbTx Unit := do
  Tx.failIf (quota ≤ 0 ∨ quota > maxInt32 ∨ policy.quotaPerUnit ≤ 0 ∨
    (quota : ℚ) < policy.quotaPerUnit) (.new ("转移额度最小为" ++ policy.minimumText ++ "！"))
  let user? ← Tx.read fun db => db.users.get? userId
  let user ← Tx.require user? .recordNotFound
  let settledQuota ← settleAvailableAffiliateRewardsTx userId now
  let affQuota := user.affQuota + settledQuota
  let affHistoryQuota := user.affHistoryQuota + settledQuota
  Tx.failIf (affQuota < 0 ∨ affHistoryQuota < 0 ∨ affQuota > maxInt32 ∨
    affHistoryQuota > maxInt32) .quotaOverflow
  Tx.failIf (affQuota < quota) (.new "邀请额度不足！")
  Tx.failIf (user.quota < 0 ∨ quota > maxInt32 - user.quota) .quotaOverflow
  markTransferredAffiliateRewardsTx userId quota
  -- The whole row is saved, as it was read before the rewards were settled.
  Tx.write (Database.putUser { user with
    affQuota := affQuota - quota
    affHistoryQuota := affHistoryQuota
    quota := user.quota + quota })

/-! ### Cancellation -/

def withdrawRewardTx (remainingQuota : Int) : DbTx Unit := do
  let inviter? ← Tx.read fun db => (db.users.get? inviterId).filter fun u =>
    u.affQuota ≥ remainingQuota ∧ u.affHistoryQuota ≥ remainingQuota
  let inviter ← Tx.require inviter?
    (.new "affiliate reward balance is inconsistent; cancellation requires manual review")
  Tx.write (Database.putUser { inviter with
    affQuota := inviter.affQuota - remainingQuota
    affHistoryQuota := inviter.affHistoryQuota - remainingQuota })

def cancelAffiliateRewardRecord (recordId now : Int) : DbTx Unit := do
  Tx.failIf (recordId = 0) (.new "affiliate reward record id is required")
  let record? ← Tx.read fun db => db.payments.affiliateRewards.get? recordId
  let record ← Tx.require record? .recordNotFound
  if record.status = some .canceled then
    Tx.when (record.canceledAt = 0) (Tx.write fun db =>
      db.withRewards (db.payments.affiliateRewards.put { record with canceledAt := now }))
  else do
    let remainingQuota := max 0 (record.rewardQuota - record.transferredQuota)
    Tx.when (isAvailable record = true ∧ remainingQuota > 0)
      (withdrawRewardTx record.inviterId remainingQuota)
    Tx.write fun db => db.withRewards (db.payments.affiliateRewards.put { record with
      status := some .canceled, canceledAt := now })

end Payment

end XyApi

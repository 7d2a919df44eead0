import XyApi.Base
import Mathlib.Data.Rat.Defs

/-!
Rows of the accounts that billing and payments draw on: users, API tokens,
subscription plans and subscriptions, and the asynchronous tasks a reservation
can be bound to. A column that no modelled function reads or writes is left out.
-/

namespace XyApi

/-! ### Request billing -/

inductive FundingSource
  | wallet
  | subscription
  | other (text : String)
  deriving DecidableEq, Repr

inductive ReservationStatus
  | initializing
  | reserved
  | settled
  | refunded
  deriving DecidableEq, Repr

def ReservationStatus.text : ReservationStatus → String
  | initializing => "initializing"
  | reserved => "reserved"
  | settled => "settled"
  | refunded => "refunded"

inductive TokenMode
  | limited
  | unlimited
  | skipped
  deriving DecidableEq, Repr

/-- What a reservation is bound to; `unbound` is the empty resource type. -/
inductive ResourceType
  | unbound
  | asyncTask
  | midjourneySubmission
  | midjourneyTask
  deriving DecidableEq, Repr

inductive SettlementFailure
  | userQuota
  | tokenQuota
  | subscriptionQuota
  | accountMissing
  deriving DecidableEq, Repr

def SettlementFailure.code : SettlementFailure → String
  | userQuota => "insufficient_user_quota"
  | tokenQuota => "insufficient_token_quota"
  | subscriptionQuota => "insufficient_subscription_quota"
  | accountMissing => "billing_account_not_found"

structure BillingReservation where
  requestId : String
  userId : Int
  tokenId : Int
  fundingSource : FundingSource
  subscriptionId : Int := 0
  subscriptionResetAt : Int := 0
  subscriptionResetVersion : Int := 0
  legacyAdopted : Bool := false
  resourceType : ResourceType := .unbound
  resourceId : String := ""
  initialQuota : Int
  reservedQuota : Int
  tokenReserved : Int := 0
  settledQuota : Int := 0
  settlementTarget : Int := 0
  settlementPending : Bool := false
  settlementFailureCode : Option SettlementFailure := none
  settlementShortfallQuota : Int := 0
  shortfallFreezeApplied : Bool := false
  /-- The account status to give back; `none` is the zero of a fresh row. -/
  shortfallPreviousStatus : Option UserStatus := none
  shortfallDetectedAt : Int := 0
  shortfallResolvedAt : Int := 0
  tokenMode : TokenMode
  status : ReservationStatus
  version : Int
  lastReconciledAt : Int := 0
  reconcileNote : String := ""
  updatedAt : Int := 0
  deriving DecidableEq, Repr

def BillingReservation.Finalized (r : BillingReservation) : Prop :=
  r.status = .settled ∨ r.status = .refunded
  deriving Decidable

inductive LedgerPhase
  | reserve
  | adopt
  | bind
  | settle
  | intent
  | shortfall
  | refund
  | review
  | adminResolution
  deriving DecidableEq, Repr

/-- An append-only audit record of the arithmetic applied to the named columns. -/
structure QuotaLedgerEntry where
  requestId : String
  phase : LedgerPhase
  revision : Int
  userId : Int
  tokenId : Int
  fundingSource : FundingSource
  subscriptionId : Int := 0
  userQuotaDelta : Int := 0
  tokenRemainQuotaDelta : Int := 0
  tokenUsedQuotaDelta : Int := 0
  subscriptionUsedDelta : Int := 0
  subscriptionTotalUsedDelta : Int := 0
  note : String := ""
  deriving DecidableEq, Repr

def QuotaLedgerEntry.key (e : QuotaLedgerEntry) : String × LedgerPhase × Int :=
  (e.requestId, e.phase, e.revision)

def BillingReservation.ledgerEntry (r : BillingReservation) (phase : LedgerPhase)
    (revision : Int) : QuotaLedgerEntry where
  requestId := r.requestId
  phase := phase
  revision := revision
  userId := r.userId
  tokenId := r.tokenId
  fundingSource := r.fundingSource
  subscriptionId := r.subscriptionId

inductive AdminResolution
  | settle
  | refund
  deriving DecidableEq, Repr

def AdminResolution.text : AdminResolution → String
  | settle => "settle"
  | refund => "refund"

structure BillingReservationAdminResolution where
  requestId : String
  revision : Int
  expectedVersion : Int
  adminId : Int
  actorIp : String
  resolution : AdminResolution
  actualQuota : Option Int := none
  reason : String
  deriving DecidableEq, Repr

def BillingReservationAdminResolution.key (r : BillingReservationAdminResolution) :
    String × Int := (r.requestId, r.expectedVersion)

/-! ### Accounts and tasks -/

/-- A rule of an invitation batch, as copied to the invited user. -/
structure InviteRewardActivity where
  activityDetail : String := ""
  type : String
  percent : Int
  deriving DecidableEq, Repr

structure User where
  id : Int
  role : Int := 1
  status : UserStatus := .enabled
  paymentFrozen : Bool := false
  quota : Int := 0
  group : String := "default"
  stripeCustomer : String := ""
  affQuota : Int := 0
  affHistoryQuota : Int := 0
  inviterId : Int := 0
  inviteRewardRule : String := ""
  inviteRewardPercent : Int := 0
  inviteLinkBatchId : Int := 0
  inviteFirstTopupRewardPercent : Int := 0
  inviteContinuousRewardPercent : Int := 0
  inviteRewardRulesSnapshot : List InviteRewardActivity := []
  inviteFirstTopupRewardedAt : Int := 0
  deriving DecidableEq, Repr

structure Token where
  id : Int
  userId : Int
  remainQuota : Int := 0
  usedQuota : Int := 0
  unlimitedQuota : Bool := false
  accessedTime : Int := 0
  deriving DecidableEq, Repr

inductive ResetPeriod
  | never
  | daily
  | weekly
  | monthly
  | custom
  deriving DecidableEq, Repr

inductive DurationUnit
  | year
  | month
  | day
  | hour
  | custom
  | other (text : String)
  deriving DecidableEq, Repr

/-- A stored reset period: blank on rows older than the column. -/
inductive StoredResetPeriod
  | blank
  | known (period : ResetPeriod)
  | other (text : String)
  deriving DecidableEq, Repr

structure SubscriptionPlan where
  id : Int
  title : String := ""
  /-- The price, when it is a finite number. -/
  priceAmount : Option ℚ := some 0
  currency : String := "USD"
  durationUnit : DurationUnit := .month
  durationValue : Int := 1
  customSeconds : Int := 0
  allowWalletOverflow : Option Bool := none
  stripePriceId : String := ""
  maxPurchasePerUser : Int := 0
  upgradeGroup : String := ""
  downgradeGroup : String := ""
  totalAmount : Int := 0
  quotaResetPeriod : StoredResetPeriod := .known .never
  quotaResetCustomSeconds : Int := 0
  enabled : Bool := true
  createdAt : Int := 0
  updatedAt : Int := 0
  deriving DecidableEq, Repr

inductive SubscriptionStatus
  | active
  | expired
  | cancelled
  deriving DecidableEq, Repr

structure UserSubscription where
  id : Int
  userId : Int
  planId : Int
  paymentOrderId : Option Int := none
  amountTotal : Int := 0
  amountUsed : Int := 0
  amountUsedTotal : Int := 0
  usageAccountingVersion : Int := 0
  startTime : Int := 0
  endTime : Int := 0
  status : SubscriptionStatus := .active
  source : String := "order"
  lastResetTime : Int := 0
  nextResetTime : Int := 0
  quotaResetVersion : Int := 0
  quotaResetPeriod : StoredResetPeriod := .blank
  quotaResetCustomSeconds : Int := 0
  upgradeGroup : String := ""
  prevUserGroup : String := ""
  downgradeGroup : String := ""
  allowWalletOverflow : Bool := false
  deriving DecidableEq, Repr

inductive PreConsumeStatus
  | consumed
  | refunded
  deriving DecidableEq, Repr

structure SubscriptionPreConsumeRecord where
  requestId : String
  userId : Int
  userSubscriptionId : Int
  preConsumed : Int
  status : PreConsumeStatus
  updatedAt : Int := 0
  deriving DecidableEq, Repr

inductive TaskStatus
  | notStart
  | submitted
  | queued
  | inProgress
  | failure
  | success
  | unknown
  deriving DecidableEq, Repr

/-- How the billing of a task from before reservations was closed. -/
inductive LegacyOutcome
  | settle
  | refund
  deriving DecidableEq, Repr

/-- The billing part of the private data kept with an asynchronous task. -/
structure TaskPrivateData where
  billingSource : FundingSource := .other ""
  subscriptionId : Int := 0
  tokenId : Int := 0
  billingRequestId : String := ""
  billingTargetQuota : Int := 0
  billingTargetQuotaSet : Bool := false
  legacyBillingFinalized : Bool := false
  legacyBillingOutcome : Option LegacyOutcome := none
  legacyBillingFinalQuota : Int := 0
  deriving DecidableEq, Repr

structure Task where
  id : Int
  taskId : String
  userId : Int
  quota : Int := 0
  status : TaskStatus := .notStart
  submitTime : Int := 0
  privateData : TaskPrivateData := {}
  updatedAt : Int := 0
  deriving DecidableEq, Repr

inductive MidjourneyStatus
  | failure
  | success
  | other (text : String)
  deriving DecidableEq, Repr

structure Midjourney where
  id : Int
  userId : Int
  quota : Int := 0
  status : MidjourneyStatus := .other ""
  submitTime : Int := 0
  progress : String := ""
  privateData : TaskPrivateData := {}
  deriving DecidableEq, Repr

end XyApi

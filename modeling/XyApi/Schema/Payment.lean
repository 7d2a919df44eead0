import XyApi.Base
import Mathlib.Data.Rat.Defs

/-!
Rows of the payment subsystem: the canonical order, the inbox of provider events,
the ledger, debts, and the older rows kept beside an order for existing clients.
A column that no modelled function reads or writes is left out.
-/

namespace XyApi

inductive PaymentProvider
  | epay
  | stripe
  | creem
  | waffo
  | waffoPancake
  | xorPay
  | balance
  /-- Not a provider: the origin of events that administrators record. -/
  | admin
  | other (text : String)
  deriving DecidableEq, Repr

namespace PaymentProvider

def text : PaymentProvider → String
  | epay => "epay"
  | stripe => "stripe"
  | creem => "creem"
  | waffo => "waffo"
  | waffoPancake => "waffo_pancake"
  | xorPay => "xorpay"
  | balance => "balance"
  | admin => "admin"
  | other text => text

def ofText (s : String) : PaymentProvider :=
  if s = "epay" then epay
  else if s = "stripe" then stripe
  else if s = "creem" then creem
  else if s = "waffo" then waffo
  else if s = "waffo_pancake" then waffoPancake
  else if s = "xorpay" then xorPay
  else if s = "balance" then balance
  else if s = "admin" then admin
  else other s

def normalize (p : PaymentProvider) : PaymentProvider := ofText (toLower (trimSpace p.text))

end PaymentProvider

inductive PaymentOrderKind
  | topUp
  | subscription
  | other (text : String)
  deriving DecidableEq, Repr

inductive PaymentOrderStatus
  | pending
  | processing
  | paid
  | fulfilled
  | failed
  | expired
  | manualReview
  | refundPending
  | refunded
  | disputed
  | debt
  deriving DecidableEq, Repr

/-- The canonical payment contract. The amounts, the credit and the buyer are
fixed when the order is created. -/
structure PaymentOrder where
  id : Int
  tradeNo : String
  userId : Int
  orderKind : PaymentOrderKind
  provider : PaymentProvider
  paymentMethod : String := ""
  configurationVersion : Int := 0
  creationFenceToken : Int := 0
  providerCredentialGeneration : Int := 0
  providerLivemode : Option Bool := none
  quoteId : String := ""
  requestId : String := ""
  providerOrderKey : Option String := none
  providerPaymentKey : Option String := none
  expectedAmountMinor : Int
  paidAmountMinor : Int := 0
  currency : String
  requestedAmount : Int := 0
  creditQuota : Int := 0
  pricingSnapshot : String := ""
  productSnapshot : String := ""
  startFlow : String := ""
  startPayload : String := ""
  startedAt : Int := 0
  legacyRecordType : Option PaymentOrderKind := none
  legacyRecordId : Int := 0
  status : PaymentOrderStatus := .pending
  statusReason : String := ""
  expiresAt : Int := 0
  settledAt : Int := 0
  refundedAmountMinor : Int := 0
  disputedAmountMinor : Int := 0
  reversedAmountMinor : Int := 0
  reversedQuota : Int := 0
  createdAt : Int := 0
  updatedAt : Int := 0
  version : Int := 1
  deriving DecidableEq, Repr

structure PaymentQuote where
  quoteId : String
  userId : Int
  orderKind : PaymentOrderKind
  provider : PaymentProvider
  paymentMethod : String := ""
  providerLivemode : Option Bool := none
  requestedAmount : Int := 0
  creditQuota : Int := 0
  expectedAmountMinor : Int
  currency : String
  pricingSnapshot : String := ""
  productSnapshot : String := ""
  expiresAt : Int := 0
  consumedAt : Int := 0
  deriving DecidableEq, Repr

structure PaymentUserGuard where
  userId : Int
  updatedAt : Int := 0
  blocked : Bool := false
  deriving DecidableEq, Repr

inductive PaymentEventStatus
  | received
  | processing
  | processed
  | manualReview
  | failed
  | credentialRevoked
  | dismissed
  deriving DecidableEq, Repr

/-- The facts of one provider event, as the caller verified them. -/
structure PaymentEventInput where
  provider : PaymentProvider
  eventKey : String
  eventType : String := ""
  tradeNo : String := ""
  providerOrderKey : String := ""
  providerPaymentKey : String := ""
  providerResourceKey : String := ""
  providerCredentialGeneration : Int := 0
  providerLivemode : Option Bool := none
  providerCreatedAt : Int := 0
  providerState : String := ""
  customerId : String := ""
  paidAmountMinor : Int := 0
  refundedAmountMinor : Int := 0
  disputedAmountMinor : Int := 0
  currency : String := ""
  paymentMethod : String := ""
  paid : Bool := false
  failed : Bool := false
  expired : Bool := false
  refunded : Bool := false
  disputed : Bool := false
  disputeResolved : Bool := false
  disputeWon : Bool := false
  permanentFailure : Bool := false
  manualReview : Bool := false
  normalizedPayload : String := ""
  deriving DecidableEq, Repr

/-- The inbox record of an event: its facts and how far it got. -/
structure PaymentEvent extends PaymentEventInput where
  id : Int
  paymentOrderId : Int := 0
  payloadDigest : String := ""
  status : PaymentEventStatus := .received
  reviewCode : String := ""
  attempts : Int := 0
  lastError : String := ""
  createdAt : Int := 0
  processedAt : Int := 0
  updatedAt : Int := 0
  deriving DecidableEq, Repr

inductive LedgerEntryType
  | credit
  | refundReversal
  | disputeReversal
  | reversalRestored
  | subscriptionGranted
  | subscriptionCanceled
  | affiliateReversal
  | debtResolved
  | adminReject
  | adminVoid
  | adminExternalRefund
  | adminUnmatchedLink
  | legacyPaymentReceived
  deriving DecidableEq, Repr

structure PaymentLedgerEntry where
  paymentOrderId : Int
  paymentEventId : Int
  userId : Int
  entryType : LedgerEntryType
  amountMinor : Int
  quotaDelta : Int
  currency : String
  description : String := ""
  createdAt : Int := 0
  deriving DecidableEq, Repr

def PaymentLedgerEntry.key (e : PaymentLedgerEntry) : Int × Int × LedgerEntryType :=
  (e.paymentOrderId, e.paymentEventId, e.entryType)

/-- Status of the compatibility rows kept next to a payment order. -/
inductive ProjectionStatus
  | pending
  | processing
  | success
  | failed
  | expired
  | manualReview
  | refundPending
  | refunded
  | disputed
  | debt
  deriving DecidableEq, Repr

/-- The compatibility row of a top-up. A subscription that was paid also gets one. -/
structure TopUp where
  id : Int
  paymentOrderId : Option Int := none
  userId : Int
  amount : Int := 0
  /-- The price in major units, when it is a finite number. -/
  money : Option ℚ := some 0
  tradeNo : String
  paymentMethod : String := ""
  /-- Blank on rows older than the column. -/
  paymentProvider : Option PaymentProvider := none
  currency : String := ""
  expectedAmountMinor : Int := 0
  creditQuotaSnapshot : Int := 0
  createTime : Int := 0
  completeTime : Int := 0
  status : ProjectionStatus := .pending
  deriving DecidableEq, Repr

structure SubscriptionOrder where
  id : Int
  userId : Int
  planId : Int
  paymentOrderId : Option Int := none
  /-- The price in major units, when it is a finite number. -/
  money : Option ℚ := some 0
  planSnapshot : String := ""
  expectedAmountMinor : Int := 0
  paymentCurrency : String := ""
  reserveUntil : Int := 0
  providerOrderId : String := ""
  providerOrderKey : Option String := none
  reviewReason : String := ""
  tradeNo : String
  paymentMethod : String := ""
  /-- Blank on rows older than the column. -/
  paymentProvider : Option PaymentProvider := none
  status : ProjectionStatus := .pending
  createTime : Int := 0
  completeTime : Int := 0
  deriving DecidableEq, Repr

inductive AffiliateRewardStatus
  | pending
  | available
  | transferred
  | canceled
  deriving DecidableEq, Repr

structure AffiliateRewardRecord where
  id : Int
  inviterId : Int
  inviteeId : Int
  topUpId : Int
  inviteLinkBatchId : Int := 0
  activityDetail : String := ""
  inviteRewardRule : String := ""
  inviteRewardPercent : Int := 0
  topUpQuota : Int := 0
  rewardQuota : Int := 0
  /-- `none` is the blank of rows older than the column. -/
  status : Option AffiliateRewardStatus := none
  availableAt : Int := 0
  transferredQuota : Int := 0
  reversedQuota : Int := 0
  preReversalStatus : Option AffiliateRewardStatus := none
  canceledAt : Int := 0
  createdAt : Int := 0
  deriving DecidableEq, Repr

inductive DebtKind
  | buyer
  | affiliate
  deriving DecidableEq, Repr

inductive DebtStatus
  | outstanding
  | resolved
  deriving DecidableEq, Repr

inductive DebtResolution
  | repaid
  | waived
  deriving DecidableEq, Repr

/-- Quota or money that a reversal could not recover, one row per order, user
and kind. `outstanding` is the status the source calls open. -/
structure PaymentDebt where
  id : Int
  paymentOrderId : Int
  userId : Int
  debtKind : DebtKind
  currency : String := ""
  originalAmountMinor : Int := 0
  outstandingAmountMinor : Int := 0
  originalQuota : Int := 0
  outstandingQuota : Int := 0
  recoveredQuota : Int := 0
  /-- The account status to give back; `none` is the zero of an unset column. -/
  previousUserStatus : Option UserStatus := none
  freezeApplied : Bool := false
  status : DebtStatus := .outstanding
  createdAt : Int := 0
  updatedAt : Int := 0
  resolvedAt : Int := 0
  resolution : Option DebtResolution := none
  resolutionNote : String := ""
  resolvedBy : Int := 0
  deriving DecidableEq, Repr

def PaymentDebt.subject (d : PaymentDebt) : Int × Int × DebtKind :=
  (d.paymentOrderId, d.userId, d.debtKind)

/-! ### Channel limits, customer bindings, tasks and audit rows -/

abbrev LimitChannel : Type := PaymentProvider × String × String

structure PaymentLimitPolicy where
  provider : PaymentProvider
  paymentMethod : String
  currency : String
  singleLimitMinor : Int := 0
  dailyLimitMinor : Int := 0
  timezone : String := ""
  enabled : Bool := false
  deriving DecidableEq, Repr

def PaymentLimitPolicy.channel (p : PaymentLimitPolicy) : LimitChannel :=
  (p.provider, p.paymentMethod, p.currency)

structure PaymentLimitBucket where
  provider : PaymentProvider
  paymentMethod : String
  currency : String
  dayKey : String
  reservedMinor : Int := 0
  paidMinor : Int := 0
  updatedAt : Int := 0
  version : Int := 1
  deriving DecidableEq, Repr

def PaymentLimitBucket.key (b : PaymentLimitBucket) : LimitChannel × String :=
  ((b.provider, b.paymentMethod, b.currency), b.dayKey)

inductive LimitReservationStatus
  | active
  | paid
  | released
  deriving DecidableEq, Repr

structure PaymentLimitReservation where
  paymentOrderId : Int
  provider : PaymentProvider
  paymentMethod : String
  currency : String
  dayKey : String
  paidDayKey : String := ""
  paidAt : Int := 0
  amountMinor : Int
  status : LimitReservationStatus := .active
  expiresAt : Int := 0
  overLimit : Bool := false
  updatedAt : Int := 0
  deriving DecidableEq, Repr

def PaymentLimitReservation.channel (r : PaymentLimitReservation) : LimitChannel :=
  (r.provider, r.paymentMethod, r.currency)

structure PaymentCustomerBinding where
  provider : PaymentProvider
  customerKey : String
  userId : Int
  deriving DecidableEq, Repr

def PaymentCustomerBinding.customer (b : PaymentCustomerBinding) : PaymentProvider × String :=
  (b.provider, b.customerKey)

structure PaymentCustomerBindingRetirement where
  originalBindingId : Int
  provider : PaymentProvider
  customerKey : String
  userId : Int
  retiredAt : Int
  deriving DecidableEq, Repr

inductive PaymentTaskOperation
  | create
  | reconcile
  | maintenance
  deriving DecidableEq, Repr

inductive PaymentTaskStatus
  | pending
  | running
  | retryWait
  | succeeded
  | failed
  | manualReview
  deriving DecidableEq, Repr

structure PaymentTask where
  id : Int
  paymentOrderId : Int
  operation : PaymentTaskOperation
  status : PaymentTaskStatus := .pending
  availableAt : Int := 0
  leaseOwner : String := ""
  leaseUntil : Int := 0
  fenceToken : Int := 0
  deriving DecidableEq, Repr

structure StoredOption where
  key : String
  value : String
  deriving DecidableEq, Repr

structure PaymentOperationsAudit where
  id : Int
  action : String
  adminId : Int
  actorIP : String
  paymentOrderId : Int := 0
  userId : Int := 0
  subjectId : Int := 0
  provider : PaymentProvider
  expectedVersion : Int := 0
  reason : String
  metadata : String := ""
  createdAt : Int := 0
  deriving DecidableEq, Repr

end XyApi

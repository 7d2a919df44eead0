import XyApi.Lib.Table
import XyApi.Lib.Transaction
import XyApi.Schema.Account
import XyApi.Schema.Payment

/-!
The database the modelled transactions read and write. Each table is keyed by the
unique index that the code relies on. A soft-deleted token is absent from its
table, which is how every query of the source sees it.
-/

namespace XyApi

open Lib

structure PaymentTables where
  orders : Table PaymentOrder.id := .empty
  events : Table PaymentEvent.id := .empty
  ledger : Table PaymentLedgerEntry.key := .empty
  topUps : Table TopUp.id := .empty
  affiliateRewards : Table AffiliateRewardRecord.id := .empty
  quotes : Table PaymentQuote.quoteId := .empty
  userGuards : Table PaymentUserGuard.userId := .empty
  limitPolicies : Table PaymentLimitPolicy.channel := .empty
  limitBuckets : Table PaymentLimitBucket.key := .empty
  limitReservations : Table PaymentLimitReservation.paymentOrderId := .empty
  customerBindings : Table PaymentCustomerBinding.customer := .empty
  bindingRetirements : Table PaymentCustomerBindingRetirement.originalBindingId := .empty
  paymentTasks : Table PaymentTask.id := .empty
  options : Table StoredOption.key := .empty
  operationsAudits : Table PaymentOperationsAudit.id := .empty
  deriving DecidableEq

structure Database where
  users : Table User.id := .empty
  tokens : Table Token.id := .empty
  plans : Table SubscriptionPlan.id := .empty
  subscriptions : Table UserSubscription.id := .empty
  preConsumeRecords : Table SubscriptionPreConsumeRecord.requestId := .empty
  reservations : Table BillingReservation.requestId := .empty
  quotaLedger : Table QuotaLedgerEntry.key := .empty
  adminResolutions : Table BillingReservationAdminResolution.key := .empty
  tasks : Table Task.id := .empty
  midjourneys : Table Midjourney.id := .empty
  subscriptionOrders : Table SubscriptionOrder.id := .empty
  paymentDebts : Table PaymentDebt.subject := .empty
  payments : PaymentTables := {}
  deriving DecidableEq

abbrev DbTx (α : Type) : Type := Tx Database Err α

namespace Database

def nextId (ids : List Int) : Int := ids.foldl max 0 + 1

def putUser (u : User) (db : Database) : Database := { db with users := db.users.put u }

def putToken (t : Token) (db : Database) : Database := { db with tokens := db.tokens.put t }

def putSubscription (s : UserSubscription) (db : Database) : Database :=
  { db with subscriptions := db.subscriptions.put s }

def putPreConsumeRecord (r : SubscriptionPreConsumeRecord) (db : Database) : Database :=
  { db with preConsumeRecords := db.preConsumeRecords.put r }

def putReservation (r : BillingReservation) (db : Database) : Database :=
  { db with reservations := db.reservations.put r }

def putTask (t : Task) (db : Database) : Database := { db with tasks := db.tasks.put t }

def putMidjourney (t : Midjourney) (db : Database) : Database :=
  { db with midjourneys := db.midjourneys.put t }

def putDebt (d : PaymentDebt) (db : Database) : Database :=
  { db with paymentDebts := db.paymentDebts.put d }

end Database

end XyApi

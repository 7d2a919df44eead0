import XyApi.Lib.Frame
import XyApi.Payment.AdminResolution

/-!
The part of the database that says who has been given what: balances, debts,
orders, the payment ledger and the rows kept beside it. Most of what a payment
transaction writes is clerical and leaves these books alone. The rows of the
inbox are on file separately, as the state each event has got to.
-/

namespace XyApi

structure Account where
  id : Int
  status : UserStatus
  paymentFrozen : Bool
  quota : Int
  affQuota : Int
  affHistoryQuota : Int
  deriving DecidableEq, Repr

def User.account (u : User) : Account :=
  { id := u.id
    status := u.status
    paymentFrozen := u.paymentFrozen
    quota := u.quota
    affQuota := u.affQuota
    affHistoryQuota := u.affHistoryQuota }

def PaymentOrder.core (o : PaymentOrder) : PaymentOrder :=
  { o with
    providerCredentialGeneration := 0
    providerLivemode := none
    quoteId := ""
    providerOrderKey := none
    providerPaymentKey := none
    startFlow := ""
    startPayload := ""
    startedAt := 0
    legacyRecordType := none
    legacyRecordId := 0
    statusReason := ""
    expiresAt := 0
    updatedAt := 0
    version := 0 }

/-- The compatibility row of a subscription order without the time it is held for. -/
def SubscriptionOrder.core (o : SubscriptionOrder) : SubscriptionOrder :=
  { o with reserveUntil := 0 }

namespace Payment

open Lib

structure Books where
  accounts : List Account
  reservations : Table BillingReservation.requestId
  debts : Table PaymentDebt.subject
  orders : List PaymentOrder
  topUps : Table TopUp.id
  ledger : Table PaymentLedgerEntry.key
  rewards : Table AffiliateRewardRecord.id
  subscriptions : Table UserSubscription.id
  subscriptionOrders : List SubscriptionOrder

def books (db : Database) : Books where
  accounts := db.users.rows.map User.account
  reservations := db.reservations
  debts := db.paymentDebts
  orders := db.payments.orders.rows.map PaymentOrder.core
  topUps := db.payments.topUps
  ledger := db.payments.ledger
  rewards := db.payments.affiliateRewards
  subscriptions := db.subscriptions
  subscriptionOrders := db.subscriptionOrders.rows.map SubscriptionOrder.core

/-- What an event says, how far it got and which order it was applied to. The mode
of the provider may still be filled in later. -/
structure EventFile where
  id : Int
  facts : PaymentEventInput
  payloadDigest : String
  status : PaymentEventStatus
  paymentOrderId : Int
  deriving DecidableEq, Repr

def eventFile (e : PaymentEvent) : EventFile :=
  { id := e.id
    facts := { e.toPaymentEventInput with providerLivemode := none }
    payloadDigest := e.payloadDigest
    status := e.status
    paymentOrderId := e.paymentOrderId }

structure Files where
  events : List EventFile
  audits : Table PaymentOperationsAudit.id

def files (db : Database) : Files where
  events := db.payments.events.rows.map eventFile
  audits := db.payments.operationsAudits

def readOnly : Frame Database := .keeps id

def quiet : Frame Database := .keeps fun db => (books db, files db)

def bookkeeping : Frame Database := .keeps books

section Frames

variable {α : Type} {x : DbTx α}

theorem within_of_readOnly (h : x.Within readOnly) : x.Within F :=
  h.mono fun s s' hSame => by
    obtain rfl : s' = s := hSame
    exact F.refl s'

end Frames

/-! ### Primitive writes -/

theorem writePayments_quiet (hOrders : ∀ p, (f p).orders = p.orders)
    (hEvents : ∀ p, (f p).events = p.events) (hTopUps : ∀ p, (f p).topUps = p.topUps)
    (hLedger : ∀ p, (f p).ledger = p.ledger)
    (hRewards : ∀ p, (f p).affiliateRewards = p.affiliateRewards)
    (hAudits : ∀ p, (f p).operationsAudits = p.operationsAudits) :
    (writePayments f).Within quiet := by
  refine .write fun db => ?_
  simp [quiet, Frame.keeps, books, files, hOrders, hEvents, hTopUps, hLedger, hRewards, hAudits]

/-- An update by id that keeps the core of the row. -/
theorem updateOrder_quiet (hCore : ∀ o, (f o).core = o.core) :
    (updateOrder orderId f hf).Within quiet := by
  refine .write fun db => ?_
  simp only [quiet, Frame.keeps, books, files, Prod.mk.injEq, and_true]
  congr 1
  simp only [Table.updateWhere, List.map_map]
  refine List.map_congr_left fun o _ => ?_
  simp only [Function.comp_apply]
  split
  · exact hCore o
  · rfl

theorem updateEvent_bookkeeping (hf : ∀ e, (f e).id = e.id) :
    (updateEvent eventId f hf).Within bookkeeping :=
  .write fun _ => rfl

/-- Rewriting a user without touching the account. -/
theorem putUser_rel_quiet (hUser : db.users.get? userId = some u)
    (hAccount : u'.account = u.account) :
    quiet.rel db (db.putUser u') := by
  have h : db.users.get? u'.id = some u := by
    rw [show u'.id = u.id from congrArg Account.id hAccount, Table.key_of_get? hUser, hUser]
  simp only [quiet, Frame.keeps, books, files, Database.putUser, Prod.mk.injEq, and_true]
  rw [Table.map_rows_put h hAccount]

end Payment

end XyApi

import XyApi.Billing.Admin
import XyApi.Billing.Reconcile
import Mathlib.Logic.Relation

/-!
What a billing transaction can do to the database, said once. Every successful
transaction on a request is a sequence of the transitions below, each of which
keeps the quota columns and the quota ledger in step: money moves only together
with the row that reserved it and the ledger entry that records it.
-/

namespace XyApi.Billing

open Lib Lib.Calendar Subscription

def TokensMoved (tokens tokens' : Table Token.id) (r : BillingReservation) (t : TokenDelta) :
    Prop :=
  (t.remain = 0 ∧ t.used = 0 ∧ tokens' = tokens) ∨
    TokenMoved tokens tokens' r.userId r.tokenId t.remain t.used

/-- Row changes that move no quota and leave the row as open or closed as it was. -/
inductive PlainRow (r : BillingReservation) : BillingReservation → Prop
  | intended (targetQuota now : Int) (hStatus : r.status = .reserved) :
      PlainRow r (intendedReservation r targetQuota now)
  | bound (resourceType : ResourceType) (resourceId : String) (now : Int)
      (hStatus : r.status = .reserved) :
      PlainRow r (boundReservation r resourceType resourceId now)
  | reviewed (note : String) (now : Int) (hStatus : r.status = .reserved) :
      PlainRow r (reviewedReservation r note now)
  | adminNoted (note : String) (now : Int) (hFinal : r.Finalized) :
      PlainRow r (adminNotedReservation r note now)

/-- The funding of a new reservation is charged with what it reserves. -/
inductive OpenedFunding (loc : Location) (db : Database) (r : BillingReservation) :
    FundingDelta → Database → Prop
  | wallet {users : Table User.id} (hSource : r.fundingSource = .wallet)
      (hMoved : WalletMoved db.users users r.userId (-r.reservedQuota)) :
      OpenedFunding loc db r { userQuotaDelta := -r.reservedQuota } { db with users := users }
  | subscription {subs : Table UserSubscription.id}
      {records : Table SubscriptionPreConsumeRecord.requestId} (sub : UserSubscription)
      (hSource : r.fundingSource = .subscription)
      (hCharged : SubscriptionCharged loc db.subscriptions subs r.reservedQuota sub)
      (hId : r.subscriptionId = sub.id) (hReset : r.subscriptionResetAt = sub.lastResetTime)
      (hVersion : r.subscriptionResetVersion = sub.quotaResetVersion)
      (hPositive : 0 < r.reservedQuota) :
      OpenedFunding loc db r
        { subscriptionUsedDelta := r.reservedQuota, subscriptionTotalUsedDelta := r.reservedQuota }
        { db with subscriptions := subs, preConsumeRecords := records }

def FreshRow (r : BillingReservation) : Prop :=
  ∃ input sub? mode now, ¬ quotaOutOfRange input.quota ∧ input.requestId ≠ "" ∧
    trimSpace input.requestId = input.requestId ∧
    r = reservedReservation (initialReservation input now) sub? mode input.quota now

theorem FreshRow.columns (h : FreshRow r) :
    r.status = .reserved ∧ ¬ quotaOutOfRange r.reservedQuota ∧ r.settledQuota = 0 ∧
      r.shortfallFreezeApplied = false ∧ r.settlementPending = false := by
  obtain ⟨input, sub?, mode, now, hQuota, -, -, rfl⟩ := h
  exact ⟨rfl, hQuota, rfl, rfl, rfl⟩

/-- The ledger is kept, or gets an entry of the reservation that records no movement. -/
def NotedLedger (db : Database) (r : BillingReservation) (ledger : Table QuotaLedgerEntry.key) :
    Prop :=
  ledger = db.quotaLedger ∨
    ∃ phase revision note, db.quotaLedger.insert?
      { r.ledgerEntry phase revision with note := note } = some ledger

/-- The reservation `r` becomes `r'` and consumes `delta` more quota, which its
funding source, its token and one ledger entry follow. -/
inductive Booked (db : Database) (r r' : BillingReservation) (delta : Int) : Database → Prop
  | mk (f : FundingDelta) (t : TokenDelta) (phase : LedgerPhase) (revision : Int)
      {db₁ : Database} {tokens : Table Token.id} {ledger : Table QuotaLedgerEntry.key}
      (hFunding : FundingMoved db r delta f db₁) (hTokens : TokensMoved db.tokens tokens r t)
      (hLedger : db.quotaLedger.insert? (ledgerWith (r.ledgerEntry phase revision) f t) =
        some ledger) :
      Booked db r r' delta
        { db₁ with
          tokens := tokens
          reservations := db.reservations.put r'
          quotaLedger := ledger }

/-- A closed reservation lifts the freeze it had applied, and only that. -/
def ReleasedBy (r : BillingReservation) (db db' : Database) : Prop :=
  if r.shortfallFreezeApplied = true then Released db r.userId r.shortfallPreviousStatus db'
  else db' = db

inductive Transition (loc : Location) (rid : String) (db : Database) : Database → Prop
  | opened (r : BillingReservation) (f : FundingDelta) (t : TokenDelta) {db₁ : Database}
      {tokens : Table Token.id} {reservations : Table BillingReservation.requestId}
      {ledger : Table QuotaLedgerEntry.key} (hId : r.requestId = rid) (hFresh : FreshRow r)
      (hRow : db.reservations.insert? r = some reservations)
      (hFunding : OpenedFunding loc db r f db₁) (hTokens : TokensMoved db.tokens tokens r t)
      (hLedger : db.quotaLedger.insert? (ledgerWith (r.ledgerEntry .reserve 1) f t) =
        some ledger) :
      Transition loc rid db
        { db₁ with tokens := tokens, reservations := reservations, quotaLedger := ledger }
  | adjusted (r : BillingReservation) (targetQuota now : Int) {db' : Database}
      (hRow : db.reservations.get? rid = some r) (hStatus : r.status = .reserved)
      (hTarget : ¬ quotaOutOfRange targetQuota)
      (hBooked : Booked db r (adjustedReservation r targetQuota now)
        (targetQuota - r.reservedQuota) db') :
      Transition loc rid db db'
  | refunded (r : BillingReservation) (now : Int) {db₁ db' : Database}
      (hRow : db.reservations.get? rid = some r) (hStatus : r.status = .reserved)
      (hBooked : Booked db r (refundedReservation r now) (-r.reservedQuota) db₁)
      (hReleased : ReleasedBy r db₁ db') :
      Transition loc rid db db'
  | settled (r : BillingReservation) (now : Int) {ledger : Table QuotaLedgerEntry.key}
      {db' : Database} (hRow : db.reservations.get? rid = some r)
      (hStatus : r.status = .reserved) (hLedger : NotedLedger db r ledger)
      (hReleased : ReleasedBy r
        { db with
          reservations := db.reservations.put (settledReservation r r.reservedQuota now)
          quotaLedger := ledger } db') :
      Transition loc rid db db'
  | noted (r r' : BillingReservation) {ledger : Table QuotaLedgerEntry.key}
      (hRow : db.reservations.get? rid = some r) (hStep : PlainRow r r')
      (hLedger : NotedLedger db r ledger) :
      Transition loc rid db
        { db with reservations := db.reservations.put r', quotaLedger := ledger }
  | shortfall (r r' : BillingReservation) (targetQuota : Int) (failure : SettlementFailure)
      (user : User) (previousStatus : UserStatus) (now : Int)
      {ledger : Table QuotaLedgerEntry.key} (hRow : db.reservations.get? rid = some r)
      (hStatus : r.status = .reserved) (hMore : r.reservedQuota < targetQuota)
      (hUser : db.users.get? r.userId = some user)
      (hPrevious : paymentFreezePreviousUserStatusTx user db = .ok (previousStatus, db))
      (hMarked : (r' = r ∧ sameShortfall r targetQuota failure) ∨
        r' = shortfallReservation r targetQuota failure previousStatus now)
      (hLedger : NotedLedger db r ledger) :
      Transition loc rid db
        (freezeUser r.userId
          { db with reservations := db.reservations.put r', quotaLedger := ledger })
  | jobs (tasks : Table Task.id) (midjourneys : Table Midjourney.id) :
      Transition loc rid db { db with tasks := tasks, midjourneys := midjourneys }
  | resolutions (rows : Table BillingReservationAdminResolution.key) :
      Transition loc rid db { db with adminResolutions := rows }

abbrev Transitions (loc : Location) (rid : String) : Database → Database → Prop :=
  Relation.ReflTransGen (Transition loc rid)

/-- What every transition preserves, a sequence of them preserves. -/
theorem Transitions.preserve {loc : Location} {rid : String} {P : Database → Prop}
    (hP : ∀ db db', Transition loc rid db db' → P db → P db') {db db' : Database}
    (h : Transitions loc rid db db') (hdb : P db) : P db' := by
  induction h with
  | refl => exact hdb
  | tail _ hStep ih => exact hP _ _ hStep ih

/-! ### What happens to the rows -/

section Rows

variable {db db' : Database} {r r' : BillingReservation}

theorem ReleasedBy.users_eq (h : ReleasedBy r db db') :
    db' = { db with users := db'.users } ∧
      ∀ u, (db'.users.get? u).map User.quota = (db.users.get? u).map User.quota := by
  unfold ReleasedBy at h
  split at h
  · exact h.users_eq
  · exact ⟨by rw [h], fun u => by rw [h]⟩

theorem ReleasedBy.reservations_eq (h : ReleasedBy r db db') :
    db'.reservations = db.reservations := by
  rw [h.users_eq.1]

theorem Booked.reservations_eq (h : Booked db r r' delta db') :
    db'.reservations = db.reservations.put r' := by
  cases h; rfl

/-- The row that was locked can be replaced. -/
theorem get?_put_row_eq (hRow : db.reservations.get? rid = some r)
    (hId : r'.requestId = r.requestId) (id : String) :
    (db.reservations.put r').get? id = if id = rid then some r' else db.reservations.get? id := by
  have hKey : r'.requestId = rid := hId.trans (Table.key_of_get? hRow)
  rw [Table.get?_put, hKey]
  split
  · next h => subst h; simp [hRow]
  · rfl

theorem get?_put_row (hRow : db.reservations.get? rid = some r)
    (hId : r'.requestId = r.requestId) : (db.reservations.put r').get? rid = some r' := by
  simp [get?_put_row_eq hRow hId]

inductive RowStep (r : BillingReservation) : BillingReservation → Prop
  | adjusted (targetQuota now : Int) (hStatus : r.status = .reserved)
      (hTarget : ¬ quotaOutOfRange targetQuota) : RowStep r (adjustedReservation r targetQuota now)
  | refunded (now : Int) (hStatus : r.status = .reserved) : RowStep r (refundedReservation r now)
  | settled (now : Int) (hStatus : r.status = .reserved) :
      RowStep r (settledReservation r r.reservedQuota now)
  | noted {r' : BillingReservation} (hStep : PlainRow r r') : RowStep r r'
  | kept : RowStep r r
  | shortfall (targetQuota : Int) (failure : SettlementFailure) (previousStatus : UserStatus)
      (now : Int) (hStatus : r.status = .reserved) (hMore : r.reservedQuota < targetQuota) :
      RowStep r (shortfallReservation r targetQuota failure previousStatus now)

theorem RowStep.requestId_eq (h : RowStep r r') : r'.requestId = r.requestId := by
  cases h with
  | noted hStep => cases hStep <;> rfl
  | _ => rfl

/-- A transition keeps the reservations, adds a fresh one or changes the one it is on. -/
theorem Transition.reservations_cases (h : Transition loc rid db db') :
    db'.reservations = db.reservations ∨
      (∃ r, FreshRow r ∧ r.requestId = rid ∧ db.reservations.insert? r = some db'.reservations) ∨
      ∃ r r', db.reservations.get? rid = some r ∧ RowStep r r' ∧
        db'.reservations = db.reservations.put r' := by
  cases h with
  | opened r f t hId hFresh hRow => exact .inr (.inl ⟨r, hFresh, hId, hRow⟩)
  | adjusted r targetQuota now hRow hStatus hTarget hBooked =>
    exact .inr (.inr ⟨r, _, hRow, .adjusted targetQuota now hStatus hTarget,
      hBooked.reservations_eq⟩)
  | refunded r now hRow hStatus hBooked hReleased =>
    exact .inr (.inr ⟨r, _, hRow, .refunded now hStatus,
      hReleased.reservations_eq.trans hBooked.reservations_eq⟩)
  | settled r now hRow hStatus hLedger hReleased =>
    exact .inr (.inr ⟨r, _, hRow, .settled now hStatus, hReleased.reservations_eq⟩)
  | noted r r' hRow hStep => exact .inr (.inr ⟨r, r', hRow, .noted hStep, rfl⟩)
  | shortfall r r' targetQuota failure user previousStatus now hRow hStatus hMore _ _ hMarked =>
    rw [(freezeUser_users_eq r.userId _).1]
    refine .inr (.inr ⟨r, r', hRow, ?_, rfl⟩)
    rcases hMarked with ⟨rfl, -⟩ | rfl
    · exact .kept
    · exact .shortfall targetQuota failure previousStatus now hStatus hMore
  | jobs => exact .inl rfl
  | resolutions => exact .inl rfl

/-- Where a row of the new state comes from. -/
theorem Transition.row_cases (h : Transition loc rid db db') {id : String}
    (hRow : db'.reservations.get? id = some r') :
    db.reservations.get? id = some r' ∨
      (id = rid ∧ ((FreshRow r' ∧ db.reservations.get? rid = none) ∨
        ∃ r, db.reservations.get? rid = some r ∧ RowStep r r')) := by
  rcases h.reservations_cases with hSame | ⟨r, hFresh, hId, hInsert⟩ | ⟨r, row, hOld, hStep, hPut⟩
  · exact .inl (hSame ▸ hRow)
  · rw [Table.get?_insert? hInsert] at hRow
    split at hRow
    · next hid =>
        cases hRow
        exact .inr ⟨hid.trans hId, .inl ⟨hFresh, hId ▸ (Table.rows_insert? hInsert).2⟩⟩
    · exact .inl hRow
  · rw [hPut, get?_put_row_eq hOld hStep.requestId_eq] at hRow
    split at hRow
    · next hid =>
        cases hRow
        exact .inr ⟨hid, .inr ⟨r, hOld, hStep⟩⟩
    · exact .inl hRow

/-- Other requests keep their rows. -/
theorem Transitions.frame (h : Transitions loc rid db db') {id : String} (hid : id ≠ rid) :
    db'.reservations.get? id = db.reservations.get? id := by
  refine h.preserve (P := fun db' => db'.reservations.get? id = db.reservations.get? id)
    (fun db₁ db₂ hStep hSame => ?_) rfl
  rw [← hSame]
  rcases hStep.reservations_cases with hKept | ⟨r, -, hId, hInsert⟩ | ⟨r, row, hOld, hRow, hPut⟩
  · rw [hKept]
  · rw [Table.get?_insert? hInsert, if_neg (hId ▸ hid)]
  · rw [hPut, get?_put_row_eq hOld hRow.requestId_eq, if_neg hid]

end Rows

end XyApi.Billing

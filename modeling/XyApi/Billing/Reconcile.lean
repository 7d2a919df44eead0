import XyApi.Billing.Job

/-!
Reconciliation of stale reservations. A pass lists the open reservations that
have not moved for a while and treats each one by the outcome of its job. The
list is read once, so a row may have changed by the time it is treated; the
treatment of one row therefore takes the row as it was listed.
-/

namespace XyApi.Billing

open Lib

structure BillingReconcileSummary where
  scanned : Nat := 0
  settled : Nat := 0
  refunded : Nat := 0
  pending : Nat := 0
  reviewRequired : Nat := 0
  errors : Nat := 0
  deriving DecidableEq, Repr

def reviewedReservation (r : BillingReservation) (note : String) (now : Int) :
    BillingReservation :=
  { r with lastReconciledAt := now, reconcileNote := note }

def recordBillingReconcileReview (requestId note : String) (now : Int) : DbTx Unit := do
  let note := truncateBytes 255 note
  let reservation? ← Tx.read fun db => db.reservations.get? requestId
  let reservation ← Tx.require reservation? .recordNotFound
  if reservation.status ≠ .reserved then pure ()
  else do
    Tx.write (Database.putReservation (reviewedReservation reservation note now))
    let entry := { reservation.ledgerEntry .review reservation.version with note := note }
    Tx.write fun db =>
      { db with quotaLedger := (db.quotaLedger.insert? entry).getD db.quotaLedger }

abbrev Reconciling := Database × BillingReconcileSummary

def reviewWith (requestId note : String) (now : Int) (s : Reconciling) : Reconciling :=
  let (db, result) := (recordBillingReconcileReview requestId note now).commit s.1
  (db, match result with
    | .ok _ => s.2
    | .error _ => { s.2 with errors := s.2.errors + 1 })

def countReview (s : Reconciling) : Reconciling :=
  (s.1, { s.2 with reviewRequired := s.2.reviewRequired + 1 })

def reconcileTarget (r : BillingReservation) (p : TaskPrivateData) (jobQuota : Int) : Int :=
  match billingTargetQuotaIntent p with
  | some target => target
  | none => if r.settlementPending then r.settlementTarget else jobQuota

/-- What the two kinds of job differ in: their columns, their settlement and refund
calls, and the words of their review notes. -/
structure ReconcileKind (J : Type) where
  kind : JobKind J
  id : J → Int
  quota : J → Int
  invalidSettlement : Err
  invalidRefund : Err
  missing : String
  settleFailed : String
  refundFailed : String
  nonTerminal : String

def reconcileJob {J : Type} (k : ReconcileKind J) (r : BillingReservation) (job? : Option J)
    (now : Int) (s : Reconciling) : Reconciling :=
  match job? with
  | none => reviewWith r.requestId k.missing now (countReview s)
  | some job =>
    match k.kind.outcome job with
    | .success =>
      let target := reconcileTarget r (k.kind.privateData job) (k.quota job)
      match settleJob k.kind (k.id job) r.requestId target now k.invalidSettlement s.1 with
      | (db, .error e) =>
        reviewWith r.requestId (k.settleFailed ++ e.text) now
          (countReview (db, { s.2 with errors := s.2.errors + 1 }))
      | (db, .ok result) =>
        (db, if result.applied then { s.2 with settled := s.2.settled + 1 } else s.2)
    | .failure =>
      match (refundJob k.kind (k.id job) r.requestId now k.invalidRefund).commit s.1 with
      | (db, .error e) =>
        reviewWith r.requestId (k.refundFailed ++ e.text) now
          (countReview (db, { s.2 with errors := s.2.errors + 1 }))
      | (db, .ok result) =>
        (db, if result.applied then { s.2 with refunded := s.2.refunded + 1 } else s.2)
    | .pending =>
      reviewWith r.requestId k.nonTerminal now
        (s.1, { s.2 with pending := s.2.pending + 1 })

def taskReconcile : ReconcileKind Task where
  kind := taskKind
  id := Task.id
  quota := Task.quota
  invalidSettlement := invalidTaskSettlement
  invalidRefund := invalidTaskRefund
  missing := "bound async task is missing"
  settleFailed := "terminal success settlement retry failed: "
  refundFailed := "terminal failure refund retry failed: "
  nonTerminal := "bound async task is still non-terminal"

def midjourneyReconcile : ReconcileKind Midjourney where
  kind := midjourneyKind
  id := Midjourney.id
  quota := Midjourney.quota
  invalidSettlement := invalidMidjourneySettlement
  invalidRefund := invalidMidjourneyRefund
  missing := "bound midjourney task is missing"
  settleFailed := "midjourney success settlement retry failed: "
  refundFailed := "midjourney failure refund retry failed: "
  nonTerminal := "bound midjourney task is still non-terminal"

def reconcileReservation (now : Int) (s : Reconciling) (r : BillingReservation) : Reconciling :=
  let s : Reconciling := (s.1, { s.2 with scanned := s.2.scanned + 1 })
  if trimSpace r.resourceId = "" then
    reviewWith r.requestId "stale reservation has no unambiguous task binding" now (countReview s)
  else
    match r.resourceType with
    | .asyncTask =>
      reconcileJob taskReconcile r
        (s.1.tasks.rows.find? fun t => t.userId = r.userId ∧ t.taskId = r.resourceId) now s
    | .midjourneyTask =>
      match (atoi r.resourceId).filter fun id => 0 < id with
      | none =>
        reviewWith r.requestId "bound midjourney task id is invalid" now (countReview s)
      | some id =>
        reconcileJob midjourneyReconcile r
          ((s.1.midjourneys.get? id).filter fun t => t.userId = r.userId) now s
    | .unbound | .midjourneySubmission =>
      reviewWith r.requestId "stale reservation has an unsupported resource type" now
        (countReview s)

def staleReservations (cutoffUnix : Int) (limit : Nat) (db : Database) :
    List BillingReservation :=
  ((db.reservations.rows.filter fun r =>
    r.status = .reserved ∧ r.updatedAt ≤ cutoffUnix ∧
      (r.lastReconciledAt = 0 ∨ r.lastReconciledAt ≤ cutoffUnix)).insertionSort
        fun a b => a.updatedAt ≤ b.updatedAt).take limit

def reconcileStaleBillingReservations (cutoffUnix limit now : Int) (db : Database) :
    Reconciling :=
  if cutoffUnix ≤ 0 then (db, {})
  else
    let limit := if limit ≤ 0 ∨ limit > 1000 then 100 else limit
    (staleReservations cutoffUnix limit.toNat db).foldl (reconcileReservation now) (db, {})

end XyApi.Billing

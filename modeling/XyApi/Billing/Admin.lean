import XyApi.Billing.Reservation

/-!
The administrator's resolution of a reservation that was marked for review. An
instruction names the version it was decided on; repeating it is a no-op.
-/

namespace XyApi.Billing

open Lib

variable (input : BillingReservationAdminResolutionInput)

structure BillingReservationAdminResolutionInput where
  requestId : String
  expectedVersion : Int
  adminId : Int
  actorIp : String
  resolution : String
  actualQuota : Option Int := none
  reason : String
  deriving DecidableEq, Repr

def parseAdminResolution (text : String) : Option AdminResolution :=
  [AdminResolution.settle, .refund].find? fun r => r.text = text

def validateActualQuota (actualQuota : Option Int) : AdminResolution → DbTx Unit
  | .settle =>
    Tx.failIf (∀ quota ∈ actualQuota, quotaOutOfRange quota)
      (.wrap .billingAdminResolutionInvalid
        "settlement requires an explicit int32 actual quota")
  | .refund =>
    Tx.failIf (actualQuota ≠ none)
      (.wrap .billingAdminResolutionInvalid "refund must not include an actual quota")

def validateBillingReservationAdminResolution :
    DbTx (BillingReservationAdminResolutionInput × AdminResolution) := do
  let input := { input with
    requestId := trimSpace input.requestId
    resolution := trimSpace input.resolution
    reason := trimSpace input.reason
    actorIp := trimSpace input.actorIp }
  let reasonLength := input.reason.length
  Tx.failIf (input.requestId = "" ∨ input.requestId.utf8ByteSize > 64 ∨
    input.expectedVersion ≤ 0 ∨ input.adminId ≤ 0 ∨ input.actorIp = "" ∨
    input.actorIp.utf8ByteSize > 64 ∨ reasonLength < 8 ∨ reasonLength > 512)
    .billingAdminResolutionInvalid
  let resolution ← Tx.require (parseAdminResolution input.resolution)
    .billingAdminResolutionInvalid
  validateActualQuota input.actualQuota resolution
  pure (input, resolution)

def billingAdminResolutionMatches (existing : BillingReservationAdminResolution)
    (input : BillingReservationAdminResolutionInput) : Prop :=
  existing.adminId = input.adminId ∧ existing.resolution.text = input.resolution ∧
    existing.reason = input.reason ∧ existing.actualQuota = input.actualQuota
  deriving Decidable

def truncateBillingAdminLedgerNote (value : String) : String := truncateBytes 255 value

structure BillingReservationAdminResolutionResult where
  reservation : BillingReservation
  resolution : BillingReservationAdminResolution
  applied : Bool
  deriving DecidableEq, Repr

def createAdminResolution (resolution : BillingReservationAdminResolution) : DbTx Unit := do
  let clash ← Tx.read fun db => db.adminResolutions.rows.any fun r =>
    r.requestId = resolution.requestId ∧ r.revision = resolution.revision
  Tx.failIf (clash = true) .duplicatedKey
  let rows? ← Tx.read fun db => db.adminResolutions.insert? resolution
  let rows ← Tx.require rows? .duplicatedKey
  Tx.write fun db => { db with adminResolutions := rows }

def finalizeByAdminTx (reservation : BillingReservation) (now : Int) :
    AdminResolution → DbTx (Bool × BillingReservation)
  | .settle => settleBillingReservationTx reservation (input.actualQuota.getD 0) true now
  | .refund => refundBillingReservationTx reservation true now

def adminNotedReservation (r : BillingReservation) (note : String) (now : Int) :
    BillingReservation :=
  { r with
    version := r.version + 1
    lastReconciledAt := now
    reconcileNote := note
    updatedAt := now }

def applyAdminResolutionTx (kind : AdminResolution) (reservation : BillingReservation) (now : Int) :
    DbTx BillingReservationAdminResolutionResult := do
  let (applied, closed) ← finalizeByAdminTx input reservation now kind
  Tx.failIf (applied = false) .billingAdminResolutionConflict
  let resolution : BillingReservationAdminResolution := {
    requestId := closed.requestId
    revision := closed.version + 1
    expectedVersion := input.expectedVersion
    adminId := input.adminId
    actorIp := input.actorIp
    resolution := kind
    actualQuota := input.actualQuota
    reason := input.reason }
  createAdminResolution resolution
  createLedgerEntry { closed.ledgerEntry .adminResolution resolution.revision with
    note := truncateBillingAdminLedgerNote ("admin_id=" ++ toString input.adminId ++
      " resolution=" ++ kind.text ++ " reason=" ++ input.reason) }
  let stored? ← Tx.read fun db =>
    (db.reservations.get? closed.requestId).filter fun r => r.version = closed.version
  let _ ← Tx.require stored? .billingReservationVersionConflict
  let noted := adminNotedReservation closed
    (truncateBillingAdminLedgerNote ("admin " ++ kind.text ++ " by user " ++
      toString input.adminId ++ ": " ++ input.reason)) now
  Tx.write (Database.putReservation noted)
  pure { reservation := noted, resolution := resolution, applied := true }

def resolveBillingReservationByAdmin (now : Int) :
    DbTx BillingReservationAdminResolutionResult := do
  let (input, kind) ← validateBillingReservationAdminResolution input
  let reservation ← lockReservation input.requestId
  let existing? ← Tx.read fun db =>
    db.adminResolutions.get? (input.requestId, input.expectedVersion)
  match existing? with
  | some existing => do
      Tx.failIf (¬ billingAdminResolutionMatches existing input) .billingAdminResolutionConflict
      pure { reservation := reservation, resolution := existing, applied := false }
  | none => do
      Tx.failIf (reservation.version ≠ input.expectedVersion) .billingReservationVersionConflict
      Tx.failIf (reservation.status ≠ .reserved) (finalizedError reservation.status)
      Tx.failIf (reservation.lastReconciledAt ≤ 0 ∨ trimSpace reservation.reconcileNote = "")
        .billingReservationReviewRequired
      applyAdminResolutionTx input kind reservation now

end XyApi.Billing

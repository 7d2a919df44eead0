import XyApi.Billing.Transactions

/-!
Tasks that were charged before reservations existed. An unfinished one is adopted:
it gets a reservation of what it was charged, with no change of balance, and from
then on is settled or refunded like every other task. One that ends without having
been adopted is closed by a transaction of its own.
-/

namespace XyApi.Billing

open Lib

variable (task : Task) (taskId actualQuota : Int) (outcome : LegacyOutcome) (requestId : String)
  (now : Int)

/-! ### Adoption -/

def legacyReservation (userId tokenId : Int) (resourceType : ResourceType) (resourceId : String)
    (quota now : Int) : BillingReservation where
  requestId := requestId
  userId := userId
  tokenId := tokenId
  fundingSource := .wallet
  resourceType := resourceType
  resourceId := resourceId
  initialQuota := quota
  reservedQuota := quota
  status := .reserved
  version := 1
  legacyAdopted := true
  tokenMode := .skipped
  updatedAt := now

/-- A task that names a subscription is charged to it. `capture` says which quota
period of the subscription the charge belongs to. -/
def adoptFundingTx (p : TaskPrivateData) (reservation : BillingReservation)
    (capture : UserSubscription → BillingReservation → BillingReservation) :
    DbTx BillingReservation :=
  if p.billingSource = .subscription ∧ 0 < p.subscriptionId then do
    let sub? ← Tx.read fun db =>
      (db.subscriptions.get? p.subscriptionId).filter fun s => s.userId = reservation.userId
    let sub ← Tx.require sub? .recordNotFound
    pure (capture sub
      { reservation with fundingSource := .subscription, subscriptionId := sub.id })
  else pure reservation

def adoptTokenTx (p : TaskPrivateData) (reservation : BillingReservation)
    (unavailable : String) : DbTx (BillingReservation × String) :=
  if 0 < p.tokenId then do
    let token? ← Tx.read fun db =>
      (db.tokens.get? p.tokenId).filter fun t => t.userId = reservation.userId
    match token? with
    | some token =>
      pure ({ reservation with
        tokenReserved := reservation.reservedQuota
        tokenMode := if token.unlimitedQuota then .unlimited else .limited }, "")
    | none => pure (reservation, "; token already deleted")
  else pure (reservation, unavailable)

def insertAdoptedTx (reservation : BillingReservation) (note : String) : DbTx Unit := do
  let reservations? ← Tx.read fun db => db.reservations.insert? reservation
  let reservations ← Tx.require reservations? .duplicatedKey
  Tx.write fun db => { db with reservations := reservations }
  createLedgerEntry { reservation.ledgerEntry .adopt 1 with note := note }

def legacyTaskBillingRequestId : String := "legacy-task-" ++ toString taskId

/-- A task from before carries no reset version, so it counts into the current period
only while this deployment has seen no reset. -/
def captureLegacySubscriptionReservationEpoch (submitTime : Int) (sub : UserSubscription)
    (reservation : BillingReservation) : BillingReservation :=
  if sub.quotaResetVersion = 0 ∧ sub.lastResetTime ≤ submitTime then
    { reservation with
      subscriptionResetAt := sub.lastResetTime
      subscriptionResetVersion := 0 }
  else
    { reservation with subscriptionResetAt := -1, subscriptionResetVersion := -1 }

def linkTask : Task :=
  { task with
    privateData := { task.privateData with billingRequestId := requestId }
    updatedAt := now }

def adoptUnlinkedTaskTx : DbTx BillingReservation := do
  let requestId := legacyTaskBillingRequestId task.id
  let existing? ← Tx.read fun db => db.reservations.get? requestId
  match existing? with
  | some reservation => do
      Tx.failIf (reservation.userId ≠ task.userId ∨ reservation.resourceType ≠ .asyncTask ∨
        reservation.resourceId ≠ task.taskId) .billingReservationConflict
      Tx.write (Database.putTask (linkTask task requestId now))
      pure reservation
  | none => do
      let reservation := legacyReservation requestId task.userId task.privateData.tokenId
        .asyncTask task.taskId task.quota now
      let reservation ← adoptFundingTx task.privateData reservation
        (captureLegacySubscriptionReservationEpoch task.submitTime)
      let (reservation, tokenNote) ← adoptTokenTx task.privateData reservation ""
      insertAdoptedTx reservation ("legacy charged baseline adopted without mutation; quota=" ++
        toString task.quota ++ tokenNote)
      Tx.write (Database.putTask (linkTask task requestId now))
      pure reservation

def adoptLegacyTaskBillingReservation : DbTx BillingReservation := do
  Tx.failIf (taskId ≤ 0) .taskNotPersisted
  let task? ← Tx.read fun db => db.tasks.get? taskId
  let task ← Tx.require task? .recordNotFound
  Tx.failIf (task.status = .success ∨ task.status = .failure) .billingReservationFinalized
  Tx.failIf (quotaOutOfRange task.quota) .billingReservationConflict
  let requestId := trimSpace task.privateData.billingRequestId
  if requestId ≠ "" then do
    let reservation? ← Tx.read fun db => db.reservations.get? requestId
    let reservation ← Tx.require reservation? .recordNotFound
    Tx.failIf (¬ taskKind.linked task reservation requestId) .billingReservationConflict
    pure reservation
  else adoptUnlinkedTaskTx task now

def legacyMidjourneyBillingRequestId (id : Int) : String := "legacy-mj-" ++ toString id

/-- Submit times of Midjourney tasks may be in milliseconds. -/
def captureLegacyMidjourneyEpoch (submitTime : Int) (sub : UserSubscription)
    (reservation : BillingReservation) : BillingReservation :=
  let submitUnix := if submitTime > 100000000000 then submitTime.tdiv 1000 else submitTime
  { reservation with
    subscriptionResetAt := if sub.lastResetTime ≤ submitUnix then sub.lastResetTime else -1 }

def linkMidjourney (task : Midjourney) (requestId : String) (r : BillingReservation)
    (tokenId : Int) : Midjourney :=
  { task with privateData := { task.privateData with
      billingRequestId := requestId
      billingSource := r.fundingSource
      subscriptionId := r.subscriptionId
      tokenId := tokenId } }

def adoptUnlinkedMidjourneyTx (task : Midjourney) (now : Int) : DbTx BillingReservation := do
  let requestId := legacyMidjourneyBillingRequestId task.id
  let existing? ← Tx.read fun db => db.reservations.get? requestId
  match existing? with
  | some reservation => do
      Tx.failIf (reservation.userId ≠ task.userId ∨ reservation.resourceType ≠ .midjourneyTask ∨
        reservation.resourceId ≠ midjourneyBillingResourceId task.id) .billingReservationConflict
      Tx.write (Database.putMidjourney
        (linkMidjourney task requestId reservation reservation.tokenId))
      pure reservation
  | none => do
      let reservation := legacyReservation requestId task.userId task.privateData.tokenId
        .midjourneyTask (midjourneyBillingResourceId task.id) task.quota now
      let reservation ← adoptFundingTx task.privateData reservation
        (captureLegacyMidjourneyEpoch task.submitTime)
      let (reservation, tokenNote) ← adoptTokenTx task.privateData reservation
        "; legacy token id unavailable"
      insertAdoptedTx reservation
        ("legacy midjourney charged baseline adopted without mutation; quota=" ++
          toString task.quota ++ tokenNote)
      Tx.write (Database.putMidjourney
        (linkMidjourney task requestId reservation task.privateData.tokenId))
      pure reservation

def adoptLegacyMidjourneyBillingReservation : DbTx BillingReservation := do
  Tx.failIf (taskId ≤ 0) .taskNotPersisted
  let task? ← Tx.read fun db => db.midjourneys.get? taskId
  let task ← Tx.require task? .recordNotFound
  Tx.failIf (task.status = .success ∨ task.status = .failure ∨ task.progress = "100%")
    .billingReservationFinalized
  Tx.failIf (quotaOutOfRange task.quota) .billingReservationConflict
  let requestId := trimSpace task.privateData.billingRequestId
  if requestId ≠ "" then do
    let reservation? ← Tx.read fun db => db.reservations.get? requestId
    let reservation ← Tx.require reservation? .recordNotFound
    Tx.failIf (¬ midjourneyKind.linked task reservation requestId) .billingReservationConflict
    pure reservation
  else adoptUnlinkedMidjourneyTx task now

/-! ### Closing a task that was not adopted -/

structure LegacyTaskBillingResult where
  applied : Bool
  previousQuota : Int
  finalQuota : Int
  deriving DecidableEq, Repr

def legacyPhase : LegacyOutcome → LedgerPhase
  | .settle => .settle
  | .refund => .refund

def legacyStatus : LegacyOutcome → TaskStatus
  | .settle => .success
  | .refund => .failure

def legacyDelta : LegacyOutcome → Int
  | .settle => actualQuota - task.quota
  | .refund => -task.quota

def legacyEntry : QuotaLedgerEntry where
  requestId := legacyTaskBillingRequestId task.id
  phase := legacyPhase outcome
  revision := 1
  userId := task.userId
  tokenId := task.privateData.tokenId
  fundingSource := .wallet

def legacyStandIn (sub : UserSubscription) : BillingReservation :=
  captureLegacySubscriptionReservationEpoch task.submitTime sub
    { requestId := legacyTaskBillingRequestId task.id, userId := task.userId, tokenId := 0,
      fundingSource := .other "", subscriptionId := task.privateData.subscriptionId,
      initialQuota := 0, reservedQuota := 0, tokenMode := .limited, status := .initializing,
      version := 0 }

def legacyFundingTx (delta : Int) (entry : QuotaLedgerEntry) : DbTx QuotaLedgerEntry :=
  if task.privateData.billingSource = .subscription ∧ 0 < task.privateData.subscriptionId then do
    let sub? ← Tx.read fun db => db.subscriptions.get? task.privateData.subscriptionId
    let sub ← Tx.require sub? .recordNotFound
    let (periodDelta, totalDelta) ←
      applySubscriptionReservationDeltaTx (legacyStandIn task sub) delta
    pure { entry with
      fundingSource := .subscription
      subscriptionId := task.privateData.subscriptionId
      subscriptionUsedDelta := periodDelta
      subscriptionTotalUsedDelta := totalDelta }
  else do
    applyUserQuotaDeltaTx task.userId (-delta)
    pure { entry with userQuotaDelta := -delta }

def legacyTokenTx (delta now : Int) (entry : QuotaLedgerEntry) : DbTx QuotaLedgerEntry :=
  let note := "legacy task billing compatibility finalization"
  if 0 < task.privateData.tokenId then do
    let tokenExists ← billingTokenExistsTx task.userId task.privateData.tokenId
    if tokenExists then do
      let token? ← Tx.read fun db =>
        (db.tokens.get? task.privateData.tokenId).filter fun t => t.userId = task.userId
      let token ← Tx.require token? .recordNotFound
      let (remainDelta, usedDelta) ← applyTokenQuotaDeltaTx task.userId task.privateData.tokenId
        delta token.unlimitedQuota now
      pure { entry with
        tokenRemainQuotaDelta := remainDelta
        tokenUsedQuotaDelta := usedDelta
        note := note }
    else pure { entry with note := note ++ "; token deleted, token delta skipped" }
  else pure { entry with note := note }

def closedTask : Task :=
  { task with
    quota := if outcome = .settle then actualQuota else task.quota
    privateData := { task.privateData with
      legacyBillingFinalized := true
      legacyBillingOutcome := some outcome
      legacyBillingFinalQuota := actualQuota }
    updatedAt := now }

def finalizeLegacyTaskBilling : DbTx LegacyTaskBillingResult := do
  Tx.failIf (taskId ≤ 0 ∨ quotaOutOfRange actualQuota)
    (.new "invalid legacy task billing finalization")
  let task? ← Tx.read fun db => db.tasks.get? taskId
  let task ← Tx.require task? .recordNotFound
  Tx.failIf (trimSpace task.privateData.billingRequestId ≠ "") .billingReservationConflict
  Tx.failIf (task.status ≠ legacyStatus outcome) .billingReservationConflict
  if task.privateData.legacyBillingFinalized then do
    Tx.failIf (¬ (task.privateData.legacyBillingOutcome = some outcome ∧
      task.privateData.legacyBillingFinalQuota = actualQuota)) .billingReservationConflict
    pure { applied := false, previousQuota := 0, finalQuota := actualQuota }
  else do
    let delta := legacyDelta task actualQuota outcome
    let entry ← legacyFundingTx task delta (legacyEntry task outcome)
    let entry ← legacyTokenTx task delta now entry
    Tx.write (Database.putTask (closedTask task actualQuota outcome now))
    createLedgerEntry entry
    pure {
      applied := true
      previousQuota := task.quota
      finalQuota := if outcome = .refund then 0 else actualQuota }

def settleLegacyTaskBilling : DbTx LegacyTaskBillingResult :=
  finalizeLegacyTaskBilling taskId actualQuota .settle now

def refundLegacyTaskBilling : DbTx LegacyTaskBillingResult :=
  finalizeLegacyTaskBilling taskId 0 .refund now

end XyApi.Billing

import XyApi.Billing.Reservation

/-!
Reservations bound to asynchronous jobs: tasks and Midjourney tasks. A job is
persisted and bound in one transaction, and its terminal status decides whether
the reservation is settled or refunded. Settlement is two transactions, an intent
and then the settlement itself, between which other clients may act; they are
separate definitions. What the two kinds share is written once, over `JobKind`.
-/

namespace XyApi.Billing

open Lib

section

/-! ### The settlement target kept with a job -/

/-- The persisted settlement target, if there is one. A non-zero value counts as
present even on rows older than the flag. -/
def billingTargetQuotaIntent (p : TaskPrivateData) : Option Int :=
  if p.billingTargetQuotaSet ∨ p.billingTargetQuota ≠ 0 then some p.billingTargetQuota else none

def recordBillingTargetQuota (p : TaskPrivateData) (targetQuota : Int) : DbTx TaskPrivateData := do
  Tx.failIf (quotaOutOfRange targetQuota) (.new "invalid task billing settlement intent")
  let existing := billingTargetQuotaIntent p
  Tx.failIf (existing ≠ none ∧ existing ≠ some targetQuota) .billingReservationConflict
  pure (if existing = none then
    { p with billingTargetQuota := targetQuota, billingTargetQuotaSet := true } else p)

def clearBillingTargetQuota (p : TaskPrivateData) : TaskPrivateData :=
  { p with billingTargetQuota := 0, billingTargetQuotaSet := false }

def bindBilling (p : TaskPrivateData) (requestId : String) (targetQuota : Int)
    (succeeded : Bool) : DbTx TaskPrivateData :=
  let p := { p with billingRequestId := requestId }
  if succeeded then recordBillingTargetQuota p targetQuota
  else pure (clearBillingTargetQuota p)

/-! ### Both kinds of job -/

inductive JobOutcome
  | success
  | failure
  | pending
  deriving DecidableEq, Repr

structure JobKind (J : Type) where
  find : Int → Database → Option J
  outcome : J → JobOutcome
  privateData : J → TaskPrivateData
  linked : J → BillingReservation → String → Prop
  decLinked : ∀ j r requestId, Decidable (linked j r requestId)
  settled : J → (actualQuota now : Int) → J
  cleared : J → (now : Int) → J
  put : J → Database → Database
  put_frame : ∀ j db, ∃ tasks midjourneys,
    put j db = { db with tasks := tasks, midjourneys := midjourneys }

variable {J : Type} (kind : JobKind J)

instance (j : J) (r : BillingReservation) (requestId : String) :
    Decidable (kind.linked j r requestId) := kind.decLinked j r requestId

def lockJobAndReservation (jobId : Int) (requestId : String) (outcome : JobOutcome) :
    DbTx (J × BillingReservation) := do
  let job? ← Tx.read (kind.find jobId)
  let job ← Tx.require job? .recordNotFound
  Tx.failIf (kind.outcome job ≠ outcome) .billingReservationConflict
  let reservation ← lockReservation requestId
  Tx.failIf (¬ kind.linked job reservation requestId) .billingReservationConflict
  pure (job, reservation)

/-- A recorded target must be the one asked for, and then overrides older intents. -/
def jobIntentMode (p : TaskPrivateData) (actualQuota : Int) : DbTx SettlementIntentMode := do
  let intended := billingTargetQuotaIntent p
  Tx.failIf (intended ≠ none ∧ intended ≠ some actualQuota) .billingReservationConflict
  pure (if intended = none then .strict else .taskAuthoritative)

def prepareJobSettlementTx (jobId : Int) (requestId : String) (actualQuota now : Int) :
    DbTx Unit := do
  let (job, reservation) ← lockJobAndReservation kind jobId requestId .success
  let mode ← jobIntentMode (kind.privateData job) actualQuota
  persistBillingReservationSettlementIntentTx reservation actualQuota mode now

structure BillingFinalizationResult where
  reservation : BillingReservation
  applied : Bool
  previousReservedQuota : Int := 0
  deriving DecidableEq, Repr

def settleJobTx (jobId : Int) (requestId : String) (actualQuota now : Int) :
    DbTx BillingFinalizationResult := do
  let (job, reservation) ← lockJobAndReservation kind jobId requestId .success
  let _ ← jobIntentMode (kind.privateData job) actualQuota
  let (applied, settled) ← settleBillingReservationTx reservation actualQuota true now
  Tx.write (kind.put (kind.settled job actualQuota now))
  pure {
    reservation := settled
    applied := applied
    previousReservedQuota := reservation.reservedQuota }

def refundJobTx (jobId : Int) (requestId : String) (now : Int) :
    DbTx BillingFinalizationResult := do
  let (job, reservation) ← lockJobAndReservation kind jobId requestId .failure
  let (applied, refunded) ← refundBillingReservationTx reservation true now
  Tx.when (billingTargetQuotaIntent (kind.privateData job) ≠ none) <|
    Tx.write (kind.put (kind.cleared job now))
  pure { reservation := refunded, applied := applied }

/-- Persist the intent, then settle: two transactions, back to back. -/
def settleJob (jobId : Int) (requestId : String) (actualQuota now : Int) (invalid : Err)
    (db : Database) : Database × Except Err BillingFinalizationResult :=
  let requestId := trimSpace requestId
  if jobId ≤ 0 ∨ requestId = "" ∨ quotaOutOfRange actualQuota then (db, .error invalid)
  else
    match (prepareJobSettlementTx kind jobId requestId actualQuota now).commit db with
    | (db', .error e) => (db', .error e)
    | (db', .ok _) => (settleJobTx kind jobId requestId actualQuota now).commit db'

def refundJob (jobId : Int) (requestId : String) (now : Int) (invalid : Err) :
    DbTx BillingFinalizationResult := do
  let requestId := trimSpace requestId
  Tx.failIf (jobId ≤ 0 ∨ requestId = "") invalid
  refundJobTx kind jobId requestId now

def boundReservation (r : BillingReservation) (resourceType : ResourceType) (resourceId : String)
    (now : Int) : BillingReservation :=
  { r with
    resourceType := resourceType
    resourceId := resourceId
    version := r.version + 1
    updatedAt := now }

def bindResourceTx (reservation : BillingReservation) (resourceType : ResourceType)
    (resourceId note : String) (now : Int) : DbTx BillingReservation := do
  let bound := boundReservation reservation resourceType resourceId now
  Tx.write (Database.putReservation bound)
  createLedgerEntry { bound.ledgerEntry .bind bound.version with note := note }
  pure bound

/-! ### Asynchronous tasks -/

def taskKind : JobKind Task where
  find id db := db.tasks.get? id
  outcome t :=
    match t.status with
    | .success => .success
    | .failure => .failure
    | _ => .pending
  privateData := Task.privateData
  linked t r requestId := t.userId = r.userId ∧ t.privateData.billingRequestId = requestId ∧
    r.resourceType = .asyncTask ∧ r.resourceId = t.taskId
  decLinked _ _ _ := inferInstanceAs (Decidable (_ ∧ _))
  settled t actualQuota now := { t with
    quota := actualQuota
    privateData := clearBillingTargetQuota t.privateData
    updatedAt := now }
  cleared t now := { t with
    privateData := clearBillingTargetQuota t.privateData
    updatedAt := now }
  put := Database.putTask
  put_frame _ _ := ⟨_, _, rfl⟩

def prepareTaskBillingReservationSettlement (taskId : Int) (requestId : String)
    (actualQuota now : Int) : DbTx Unit :=
  prepareJobSettlementTx taskKind taskId requestId actualQuota now

def invalidTaskSettlement : Err := .new "invalid async task billing settlement"

def invalidTaskRefund : Err := .new "invalid async task billing refund"

def settleTaskBillingReservation (taskId : Int) (requestId : String) (actualQuota now : Int) :
    Database → Database × Except Err BillingFinalizationResult :=
  settleJob taskKind taskId requestId actualQuota now invalidTaskSettlement

def refundTaskBillingReservation (taskId : Int) (requestId : String) (now : Int) :
    DbTx BillingFinalizationResult :=
  refundJob taskKind taskId requestId now invalidTaskRefund

def createOrFindTask (task : Task) (requestId : String) : DbTx Task := do
  let existing? ← Tx.read fun db =>
    db.tasks.rows.find? fun t => t.userId = task.userId ∧ t.taskId = task.taskId
  match existing? with
  | some existing => do
      Tx.failIf (existing.privateData.billingRequestId ≠ requestId) .billingReservationConflict
      pure { task with id := existing.id }
  | none => do
      let nextId ← Tx.read fun db => Database.nextId (db.tasks.rows.map Task.id)
      let task := { task with id := if task.id = 0 then nextId else task.id }
      let tasks? ← Tx.read fun db => db.tasks.insert? task
      let tasks ← Tx.require tasks? .duplicatedKey
      Tx.write fun db => { db with tasks := tasks }
      pure task

def createTaskWithBillingReservation (task : Task) (requestId : String) (targetQuota now : Int) :
    DbTx Task := do
  let requestId := trimSpace requestId
  Tx.failIf (task.userId ≤ 0 ∨ trimSpace task.taskId = "" ∨ requestId = "" ∨
    quotaOutOfRange targetQuota) (.new "invalid async task billing binding")
  let privateData ← bindBilling task.privateData requestId targetQuota
    (decide (task.status = .success))
  let task := { task with quota := targetQuota, privateData := privateData }
  let reservation ← lockReservation requestId
  Tx.failIf (reservation.userId ≠ task.userId ∨ reservation.status ≠ .reserved)
    .billingReservationConflict
  Tx.failIf (reservation.resourceType ≠ .unbound ∧
    (reservation.resourceType ≠ .asyncTask ∨ reservation.resourceId ≠ task.taskId))
    .billingReservationConflict
  let adjusted ← adjustReservedBillingTx reservation targetQuota .reserve false now
  let task ← createOrFindTask task requestId
  if adjusted.resourceType = .asyncTask ∧ adjusted.resourceId = task.taskId then pure task
  else do
    let _ ← bindResourceTx adjusted .asyncTask task.taskId ("resource=async_task:" ++ task.taskId)
      now
    pure task

def updateTaskWithStatus (task : Task) (fromStatus : TaskStatus) : DbTx Bool := do
  Tx.failIf (task.id ≤ 0) .taskNotPersisted
  let stored? ← Tx.read fun db => (db.tasks.get? task.id).filter fun t => t.status = fromStatus
  if stored?.isSome then do
    Tx.write (Database.putTask task)
    pure true
  else pure false

end

/-! ### Midjourney tasks -/

variable (task : Midjourney) (requestId : String)

def midjourneyBillingResourceId (id : Int) : String := toString id

def validateMidjourneyBillingLink (r : BillingReservation) (requestId : String) : Prop :=
  0 < task.id ∧ task.userId = r.userId ∧ task.privateData.billingRequestId = requestId ∧
    r.resourceType = .midjourneyTask ∧ r.resourceId = midjourneyBillingResourceId task.id
  deriving Decidable

def midjourneyKind : JobKind Midjourney where
  find id db := db.midjourneys.get? id
  outcome t :=
    match t.status with
    | .success => .success
    | .failure => .failure
    | .other _ => .pending
  privateData := Midjourney.privateData
  linked := validateMidjourneyBillingLink
  decLinked _ _ _ := inferInstance
  settled t actualQuota _ := { t with
    quota := actualQuota
    privateData := clearBillingTargetQuota t.privateData }
  cleared t _ := { t with privateData := clearBillingTargetQuota t.privateData }
  put := Database.putMidjourney
  put_frame _ _ := ⟨_, _, rfl⟩

def prepareMidjourneyBillingReservationSettlement (taskId : Int) (requestId : String)
    (actualQuota now : Int) : DbTx Unit :=
  prepareJobSettlementTx midjourneyKind taskId requestId actualQuota now

def invalidMidjourneySettlement : Err := .new "invalid midjourney billing settlement"

def invalidMidjourneyRefund : Err := .new "invalid midjourney billing refund"

def settleMidjourneyBillingReservation (taskId : Int) (requestId : String)
    (actualQuota now : Int) : Database → Database × Except Err BillingFinalizationResult :=
  settleJob midjourneyKind taskId requestId actualQuota now invalidMidjourneySettlement

def refundMidjourneyBillingReservation (taskId : Int) (requestId : String) (now : Int) :
    DbTx BillingFinalizationResult :=
  refundJob midjourneyKind taskId requestId now invalidMidjourneyRefund

/-- Mark a request before it is dispatched. Only the first caller gets `true`. -/
def claimMidjourneyBillingReservation (now : Int) : DbTx Bool := do
  let requestId := trimSpace requestId
  Tx.failIf (requestId = "") (.new "invalid midjourney billing claim")
  let reservation ← lockReservation requestId
  Tx.failIf (reservation.status ≠ .reserved) (finalizedError reservation.status)
  if reservation.resourceType ≠ .unbound then do
    Tx.failIf (¬ (reservation.resourceType = .midjourneySubmission ∧
      reservation.resourceId = requestId)) .billingReservationConflict
    pure false
  else do
    let _ ← bindResourceTx reservation .midjourneySubmission requestId
      ("resource=midjourney_submission:" ++ requestId) now
    pure true

def refundUnclaimedMidjourneyBillingReservation (now : Int) : DbTx Bool := do
  let requestId := trimSpace requestId
  Tx.failIf (requestId = "") invalidMidjourneyRefund
  let reservation ← lockReservation requestId
  if Bound reservation then pure false
  else do
    let (applied, _) ← refundBillingReservationTx reservation false now
    pure applied

def findBoundMidjourney (reservation : BillingReservation) (requestId : String) (targetQuota : Int)
    : DbTx Midjourney := do
  Tx.failIf (reservation.resourceId = "" ∨ reservation.reservedQuota ≠ targetQuota)
    .billingReservationConflict
  let existingId ← Tx.require (atoi reservation.resourceId) .billingReservationConflict
  Tx.failIf (existingId ≤ 0 ∨ (0 < task.id ∧ task.id ≠ existingId)) .billingReservationConflict
  let existing? ← Tx.read fun db => db.midjourneys.get? existingId
  let existing ← Tx.require existing? .recordNotFound
  Tx.failIf (¬ validateMidjourneyBillingLink existing reservation requestId)
    .billingReservationConflict
  pure { task with id := existing.id }

def insertMidjourney : DbTx Midjourney := do
  let nextId ← Tx.read fun db => Database.nextId (db.midjourneys.rows.map Midjourney.id)
  let task := { task with id := if task.id = 0 then nextId else task.id }
  let midjourneys? ← Tx.read fun db => db.midjourneys.insert? task
  let midjourneys ← Tx.require midjourneys? .duplicatedKey
  Tx.write fun db => { db with midjourneys := midjourneys }
  pure task

def createMidjourneyWithBillingReservation (targetQuota now : Int) : DbTx Midjourney := do
  let requestId := trimSpace requestId
  Tx.failIf (task.userId ≤ 0 ∨ requestId = "" ∨ quotaOutOfRange targetQuota)
    (.new "invalid midjourney billing binding")
  let privateData ← bindBilling task.privateData requestId targetQuota
    (decide (task.status = .success))
  let task := { task with quota := targetQuota, privateData := privateData }
  let reservation ← lockReservation requestId
  Tx.failIf (reservation.userId ≠ task.userId ∨ reservation.status ≠ .reserved)
    .billingReservationConflict
  if reservation.resourceType = .midjourneyTask then
    findBoundMidjourney task reservation requestId targetQuota
  else do
    Tx.failIf (reservation.resourceType ≠ .unbound ∧
      (reservation.resourceType ≠ .midjourneySubmission ∨ reservation.resourceId ≠ requestId))
      .billingReservationConflict
    let adjusted ← adjustReservedBillingTx reservation targetQuota .reserve false now
    let task ← insertMidjourney task
    let resourceId := midjourneyBillingResourceId task.id
    let _ ← bindResourceTx adjusted .midjourneyTask resourceId
      ("resource=midjourney_task:" ++ resourceId) now
    pure task

def updateMidjourneyWithStatus (fromStatus : MidjourneyStatus) : DbTx Bool := do
  let stored? ← Tx.read fun db =>
    (db.midjourneys.get? task.id).filter fun t => t.status = fromStatus
  if stored?.isSome then do
    Tx.write (Database.putMidjourney task)
    pure true
  else pure false

end XyApi.Billing

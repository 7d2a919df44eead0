import XyApi.Billing.Freeze
import XyApi.Billing.Funding

/-!
The request-scoped reservation state machine: pre-consume, extension, settlement
intents, shortfalls, settlement and refund. Each definition is the body of one
database transaction of the source, with the validation that precedes it. The
functions that take a reservation receive the row their caller has locked and
return it as they leave it. `now` is the clock reading of the call. Cache
invalidation after commit is not modelled.
-/

namespace XyApi.Billing

open Lib Lib.Calendar Subscription

variable (reservation r : BillingReservation) (requestId : String) (targetQuota actualQuota : Int)
  (allowMissingToken : Bool) (input : BillingReservationInput) (failure : SettlementFailure)
  (now : Int)

def createLedgerEntry (entry : QuotaLedgerEntry) : DbTx Unit := do
  let ledger? ← Tx.read fun db => db.quotaLedger.insert? entry
  let ledger ← Tx.require ledger? .duplicatedKey
  Tx.write fun db => { db with quotaLedger := ledger }

def lockReservation : DbTx BillingReservation := do
  let reservation? ← Tx.read fun db => db.reservations.get? requestId
  Tx.require reservation? .billingReservationNotFound

def finalizedError (status : ReservationStatus) : Err :=
  .wrap .billingReservationFinalized ("status=" ++ status.text)

def quotaOutOfRange (quota : Int) : Prop := quota < 0 ∨ quota > maxInt32
  deriving Decidable

def Bound : Prop := r.resourceType ≠ .unbound ∨ r.resourceId ≠ ""
  deriving Decidable

structure TokenDelta where
  remain : Int := 0
  used : Int := 0
  note : String := ""
  deriving DecidableEq, Repr

def ledgerWith (entry : QuotaLedgerEntry) (f : FundingDelta) (t : TokenDelta) :
    QuotaLedgerEntry :=
  { entry with
    userQuotaDelta := f.userQuotaDelta
    subscriptionUsedDelta := f.subscriptionUsedDelta
    subscriptionTotalUsedDelta := f.subscriptionTotalUsedDelta
    tokenRemainQuotaDelta := t.remain
    tokenUsedQuotaDelta := t.used
    note := t.note }

/-! ### Pre-consume -/

structure BillingReservationResult where
  reservation : BillingReservation
  subscriptionAmountTotal : Int := 0
  subscriptionAmountUsedAfter : Int := 0
  subscriptionPlanId : Int := 0
  subscriptionPlanTitle : String := ""
  deriving DecidableEq, Repr

def billingTokenMode : TokenMode :=
  if input.skipToken then .skipped else .limited

def validateBillingReservationInput : DbTx BillingReservationInput := do
  let input := { input with requestId := trimSpace input.requestId }
  Tx.failIf (input.requestId = "" ∨ input.requestId.utf8ByteSize > 64)
    (.new "billing requestId is empty or too long")
  Tx.failIf (input.userId ≤ 0) (.new "invalid billing userId")
  Tx.failIf (quotaOutOfRange input.quota) (.new "invalid billing quota")
  Tx.failIf (input.fundingSource ≠ .wallet ∧ input.fundingSource ≠ .subscription)
    (.new "invalid billing funding source")
  Tx.failIf (input.fundingSource = .subscription ∧ input.quota ≤ 0)
    (.new "subscription billing quota must be positive")
  Tx.failIf (¬ input.skipToken ∧ input.tokenId ≤ 0) (.new "invalid billing tokenId")
  pure input

def validateExistingBillingReservation : DbTx Unit := do
  Tx.failIf (r.userId ≠ input.userId ∨ r.tokenId ≠ input.tokenId ∨
    r.fundingSource ≠ input.fundingSource ∨ r.initialQuota ≠ input.quota ∨
    (decide (r.tokenMode = .skipped)) ≠ input.skipToken) .billingReservationConflict
  Tx.failIf (r.status ≠ .reserved) (finalizedError r.status)

def populateBillingSubscriptionResultTx (result : BillingReservationResult) :
    DbTx BillingReservationResult :=
  if result.reservation.fundingSource ≠ .subscription then pure result
  else do
    let sub? ← Tx.read fun db => db.subscriptions.get? result.reservation.subscriptionId
    let sub ← Tx.require sub? .recordNotFound
    let plan ← getSubscriptionPlanByIdTx sub.planId
    pure { result with
      subscriptionAmountTotal := sub.amountTotal
      subscriptionAmountUsedAfter := sub.amountUsed
      subscriptionPlanId := sub.planId
      subscriptionPlanTitle := plan.title }

def reserveFundingTx (loc : Location) (fuel : Nat) (input : BillingReservationInput) (now : Int) :
    DbTx (FundingDelta × Option SubscriptionBillingResult) :=
  match input.fundingSource with
  | .wallet => do
      applyUserQuotaDeltaTx input.userId (-input.quota)
      pure ({ userQuotaDelta := -input.quota }, none)
  | .subscription => do
      let result ← preConsumeSubscriptionBillingTx loc fuel input now
      pure ({ subscriptionUsedDelta := input.quota, subscriptionTotalUsedDelta := input.quota },
        some result)
  | .other _ => pure ({}, none)

def reserveTokenTx : DbTx (TokenMode × TokenDelta) :=
  if billingTokenMode input = .skipped then pure (.skipped, {})
  else do
    let token? ← Tx.read fun db =>
      (db.tokens.get? input.tokenId).filter fun t => t.userId = input.userId
    let token ← Tx.require token? .billingAccountNotFound
    let (remainDelta, usedDelta) ←
      applyTokenQuotaDeltaTx input.userId input.tokenId input.quota token.unlimitedQuota now
    pure (if token.unlimitedQuota then .unlimited else .limited,
      { remain := remainDelta, used := usedDelta })

def initialReservation : BillingReservation where
  requestId := input.requestId
  userId := input.userId
  tokenId := input.tokenId
  fundingSource := input.fundingSource
  initialQuota := input.quota
  reservedQuota := input.quota
  tokenMode := billingTokenMode input
  status := .initializing
  version := 1
  updatedAt := now

def reservedReservation (candidate : BillingReservation)
    (sub? : Option SubscriptionBillingResult) (mode : TokenMode) (quota now : Int) :
    BillingReservation :=
  { candidate with
    subscriptionId := (sub?.map (·.userSubscriptionId)).getD 0
    subscriptionResetAt := (sub?.map (·.resetAt)).getD 0
    subscriptionResetVersion := (sub?.map (·.resetVersion)).getD 0
    tokenReserved := if mode = .skipped then 0 else quota
    tokenMode := mode
    status := .reserved
    updatedAt := now }

/-- Create a durable reservation and debit its funding source and token. The same
request again is a no-op; its id with other billing inputs is rejected. -/
def preConsumeBillingReservation (loc : Location) (fuel : Nat) (input : BillingReservationInput)
    (now : Int) : DbTx BillingReservationResult := do
  let input ← validateBillingReservationInput input
  let candidate := initialReservation input now
  let inserted? ← Tx.read fun db => db.reservations.insert? candidate
  match inserted? with
  | none => do
      let existing? ← Tx.read fun db => db.reservations.get? input.requestId
      let existing ← Tx.require existing? .recordNotFound
      validateExistingBillingReservation existing input
      populateBillingSubscriptionResultTx { reservation := existing }
  | some reservations => do
      Tx.write fun db => { db with reservations := reservations }
      let (funding, sub?) ← reserveFundingTx loc fuel input now
      let (mode, token) ← reserveTokenTx input now
      let reservation := reservedReservation candidate sub? mode input.quota now
      Tx.write (Database.putReservation reservation)
      createLedgerEntry (ledgerWith (reservation.ledgerEntry .reserve 1) funding token)
      pure {
        reservation := reservation
        subscriptionAmountTotal := (sub?.map (·.amountTotal)).getD 0
        subscriptionAmountUsedAfter := (sub?.map (·.amountUsedAfter)).getD 0
        subscriptionPlanId := (sub?.map (·.planId)).getD 0
        subscriptionPlanTitle := (sub?.map (·.planTitle)).getD "" }

/-! ### Adjustment -/

/-- Move the token by `delta` unless billing skips it. A token that no longer
exists is passed over with a note where the caller allows that. -/
def adjustTokenTx (delta : Int) (allowMissingToken : Bool) (missingNote : String) (now : Int) :
    DbTx TokenDelta :=
  if reservation.tokenMode = .skipped then pure {}
  else do
    let tokenExists ← billingTokenExistsTx reservation.userId reservation.tokenId
    if ¬ tokenExists ∧ allowMissingToken then pure { note := missingNote }
    else do
      let (remainDelta, usedDelta) ← applyTokenQuotaDeltaTx reservation.userId
        reservation.tokenId delta (decide (reservation.tokenMode = .unlimited)) now
      pure { remain := remainDelta, used := usedDelta }

def adjustedReservation : BillingReservation :=
  { r with
    tokenReserved :=
      if r.tokenMode = .skipped then r.tokenReserved
      else r.tokenReserved + (targetQuota - r.reservedQuota)
    reservedQuota := targetQuota
    version := r.version + 1
    updatedAt := now }

def adjustReservedBillingTx (phase : LedgerPhase) (allowMissingToken : Bool) (now : Int) :
    DbTx BillingReservation := do
  Tx.failIf (quotaOutOfRange targetQuota) (.new "invalid billing reservation adjustment")
  Tx.failIf (reservation.status ≠ .reserved) (finalizedError reservation.status)
  let delta := targetQuota - reservation.reservedQuota
  if delta = 0 then pure reservation
  else do
    let funding ← adjustFundingTx reservation delta now
    let token ← adjustTokenTx reservation delta allowMissingToken
      "token deleted before async task finalization; token delta skipped" now
    let adjusted := adjustedReservation reservation targetQuota now
    Tx.failIf (reservation.tokenMode ≠ .skipped ∧ adjusted.tokenReserved < 0)
      .billingReservationConflict
    Tx.write (Database.putReservation adjusted)
    createLedgerEntry
      (ledgerWith (reservation.ledgerEntry phase (reservation.version + 1)) funding token)
    pure adjusted

def extendBillingReservation : DbTx BillingReservation := do
  let requestId := trimSpace requestId
  Tx.failIf (requestId = "" ∨ quotaOutOfRange targetQuota)
    (.new "invalid billing reservation extension")
  let reservation ← lockReservation requestId
  if targetQuota ≤ reservation.reservedQuota then do
    Tx.failIf (reservation.status ≠ .reserved) (finalizedError reservation.status)
    pure reservation
  else adjustReservedBillingTx reservation targetQuota .reserve false now

/-! ### Settlement intents -/

inductive SettlementIntentMode
  | strict
  | taskAuthoritative
  | unboundIncrease
  deriving DecidableEq, Repr

def intentConflict : SettlementIntentMode → Prop
  | .strict => r.settlementPending = true
  | .taskAuthoritative => False
  | .unboundIncrease =>
    Bound r ∨ (r.settlementPending = true ∧ targetQuota ≤ r.settlementTarget)

instance (r : BillingReservation) (targetQuota : Int) :
    (mode : SettlementIntentMode) → Decidable (intentConflict r targetQuota mode)
  | .strict => inferInstanceAs (Decidable (_ = _))
  | .taskAuthoritative => inferInstanceAs (Decidable False)
  | .unboundIncrease => inferInstanceAs (Decidable (_ ∨ _))

def intendedReservation : BillingReservation :=
  { r with
    settlementPending := true
    settlementTarget := targetQuota
    version := r.version + 1
    updatedAt := now }

def persistBillingReservationSettlementIntentTx (mode : SettlementIntentMode) (now : Int) :
    DbTx Unit := do
  Tx.failIf (quotaOutOfRange targetQuota) (.new "invalid billing settlement intent transaction")
  if reservation.status = .settled then
    Tx.failIf (reservation.settledQuota ≠ targetQuota) .billingReservationConflict
  else do
    Tx.failIf (reservation.status ≠ .reserved) (finalizedError reservation.status)
    if reservation.settlementPending = true ∧ reservation.settlementTarget = targetQuota then
      pure ()
    else do
      Tx.failIf (intentConflict reservation targetQuota mode) .billingReservationConflict
      let intended := intendedReservation reservation targetQuota now
      Tx.write (Database.putReservation intended)
      createLedgerEntry { intended.ledgerEntry .intent intended.version with
        note := "target_quota=" ++ toString targetQuota }

def prepareSettlementWithMode (mode : SettlementIntentMode) (now : Int) : DbTx Unit := do
  let requestId := trimSpace requestId
  Tx.failIf (requestId = "" ∨ quotaOutOfRange targetQuota)
    (.new "invalid billing settlement intent")
  let reservation ← lockReservation requestId
  persistBillingReservationSettlementIntentTx reservation targetQuota mode now

def prepareBillingReservationSettlement : DbTx Unit :=
  prepareSettlementWithMode requestId targetQuota .strict now

def advanceUnboundBillingReservationSettlementIntent : DbTx Unit :=
  prepareSettlementWithMode requestId targetQuota .unboundIncrease now

/-! ### Shortfalls -/

def billingSettlementFailureCode (e : Err) : Option SettlementFailure :=
  if e.is .insufficientUserQuota then some .userQuota
  else if e.is .insufficientTokenQuota then some .tokenQuota
  else if e.is .insufficientSubscriptionQuota ∨ e.is .noActiveSubscription then
    some .subscriptionQuota
  else if e.is .billingAccountNotFound then some .accountMissing
  else none

def parseSettlementFailure (code : String) : Option SettlementFailure :=
  [SettlementFailure.userQuota, .tokenQuota, .subscriptionQuota, .accountMissing].find?
    fun failure => failure.code = code

def shortfallReservation (previousStatus : UserStatus) (now : Int) : BillingReservation :=
  { r with
    shortfallDetectedAt := if r.shortfallDetectedAt = 0 then now else r.shortfallDetectedAt
    settlementPending := true
    settlementTarget := targetQuota
    settlementFailureCode := some failure
    settlementShortfallQuota := targetQuota - r.reservedQuota
    shortfallFreezeApplied := true
    shortfallPreviousStatus := some previousStatus
    shortfallResolvedAt := 0
    lastReconciledAt := now
    reconcileNote := "settlement shortfall requires review: code=" ++ failure.code ++
      " target=" ++ toString targetQuota ++ " reserved=" ++ toString r.reservedQuota
    version := r.version + 1
    updatedAt := now }

def sameShortfall : Prop :=
  r.shortfallFreezeApplied = true ∧ r.settlementPending = true ∧
    r.settlementTarget = targetQuota ∧ r.settlementFailureCode = some failure ∧
    r.settlementShortfallQuota = targetQuota - r.reservedQuota
  deriving Decidable

def recordShortfallTx (previousStatus : UserStatus) (now : Int) : DbTx BillingReservation :=
  if sameShortfall reservation targetQuota failure then pure reservation
  else do
    let marked := shortfallReservation reservation targetQuota failure previousStatus now
    Tx.write (Database.putReservation marked)
    createLedgerEntry { marked.ledgerEntry .shortfall marked.version with
      note := "code=" ++ failure.code ++ " target_quota=" ++ toString targetQuota ++
        " reserved_quota=" ++ toString reservation.reservedQuota ++
        " outstanding_quota=" ++ toString (targetQuota - reservation.reservedQuota) }
    pure marked

def markBillingReservationSettlementShortfall (failureCode : String) (now : Int) :
    DbTx BillingReservation := do
  let requestId := trimSpace requestId
  Tx.failIf (requestId = "" ∨ quotaOutOfRange targetQuota)
    (.new "invalid billing settlement shortfall")
  let failure ← Tx.require (parseSettlementFailure (trimSpace failureCode))
    (.new "invalid billing settlement shortfall")
  let reservation ← lockReservation requestId
  if reservation.Finalized then pure reservation
  else do
    Tx.failIf (reservation.status ≠ .reserved) (finalizedError reservation.status)
    -- Only the liability of an unbound request may grow.
    Tx.failIf (reservation.settlementPending = true ∧
      reservation.settlementTarget ≠ targetQuota ∧
      (Bound reservation ∨ targetQuota ≤ reservation.settlementTarget))
      .billingReservationConflict
    Tx.failIf (targetQuota - reservation.reservedQuota ≤ 0) .billingReservationConflict
    let user? ← Tx.read fun db => db.users.get? reservation.userId
    let user ← Tx.require user? .billingAccountNotFound
    let previousStatus ← paymentFreezePreviousUserStatusTx user
    let marked ← recordShortfallTx reservation targetQuota failure previousStatus now
    Tx.write (freezeUser reservation.userId)
    pure marked

/-! ### Settlement and refund -/

def closedReservation (status : ReservationStatus) (now : Int) : BillingReservation :=
  { r with
    status := status
    settlementPending := false
    settlementTarget := 0
    shortfallResolvedAt :=
      if r.shortfallFreezeApplied = true ∧ r.shortfallResolvedAt = 0 then now
      else r.shortfallResolvedAt
    version := r.version + 1
    updatedAt := now }

def settledReservation : BillingReservation :=
  { closedReservation r .settled now with settledQuota := actualQuota }

def refundedReservation : BillingReservation :=
  closedReservation r .refunded now

def releaseShortfallFreezeTx : DbTx Unit :=
  Tx.when (r.shortfallFreezeApplied = true) do
    let _ ← releaseUserPaymentFreezeTx r.userId r.shortfallPreviousStatus
    pure ()

def adjustForSettlementTx : DbTx BillingReservation :=
  if actualQuota - reservation.reservedQuota ≠ 0 then
    adjustReservedBillingTx reservation actualQuota .settle allowMissingToken now
  else do
    createLedgerEntry (reservation.ledgerEntry .settle (reservation.version + 1))
    pure reservation

/-- Settle an open reservation at `actualQuota`. Returns whether this call did. -/
def settleBillingReservationTx : DbTx (Bool × BillingReservation) := do
  if reservation.status = .settled then do
    Tx.failIf (reservation.settledQuota ≠ actualQuota) .billingReservationConflict
    pure (false, reservation)
  else do
    Tx.failIf (reservation.status ≠ .reserved) (finalizedError reservation.status)
    let adjusted ← adjustForSettlementTx reservation actualQuota allowMissingToken now
    let settled := settledReservation adjusted actualQuota now
    Tx.write (Database.putReservation settled)
    releaseShortfallFreezeTx settled
    pure (true, settled)

def settleBillingReservation : DbTx BillingReservation := do
  let requestId := trimSpace requestId
  Tx.failIf (requestId = "" ∨ quotaOutOfRange actualQuota) (.new "invalid billing settlement")
  let reservation ← lockReservation requestId
  let (_, settled) ← settleBillingReservationTx reservation actualQuota true now
  pure settled

def refundTokenTx : DbTx TokenDelta :=
  if reservation.tokenReserved > 0 then
    adjustTokenTx reservation (-reservation.tokenReserved) allowMissingToken
      "token deleted before async refund; token delta skipped" now
  else pure {}

def refundBillingReservationTx : DbTx (Bool × BillingReservation) := do
  if reservation.status = .refunded then pure (false, reservation)
  else do
    Tx.failIf (reservation.status ≠ .reserved) (finalizedError reservation.status)
    let funding ← refundFundingTx reservation now
    let token ← refundTokenTx reservation allowMissingToken now
    let refunded := refundedReservation reservation now
    Tx.write (Database.putReservation refunded)
    createLedgerEntry
      (ledgerWith (reservation.ledgerEntry .refund (reservation.version + 1)) funding token)
    releaseShortfallFreezeTx refunded
    pure (true, refunded)

def refundBillingReservation : DbTx BillingReservation := do
  let requestId := trimSpace requestId
  Tx.failIf (requestId = "") (.new "billing requestId is empty")
  let reservation ← lockReservation requestId
  let (_, refunded) ← refundBillingReservationTx reservation true now
  pure refunded

end XyApi.Billing

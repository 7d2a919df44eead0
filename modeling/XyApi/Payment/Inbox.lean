import XyApi.Payment.Env

/-!
The inbox of provider events. An event is identified by its provider and event
key; the first delivery creates the record and later ones find it. The record
keeps the verified facts, the order the event was applied to and how it ended.
-/

namespace XyApi.Payment

open Lib

variable (env : PaymentEnv) (input : PaymentEventInput)

def paymentProviderAuthorityKeyMaxLength : Nat := 320

def maxNormalizedPaymentPayloadBytes : Nat := 16 * 1024

def paymentProviderUsesEnvironmentBinding : PaymentProvider → Bool
  | .stripe | .creem | .waffoPancake => true
  | _ => false

def normalizeIdentity : PaymentEventInput :=
  let provider := input.provider.normalize
  let paymentMethod := trimSpace input.paymentMethod
  { input with
    provider := provider
    eventKey := trimSpace input.eventKey
    eventType := trimSpace input.eventType
    tradeNo := trimSpace input.tradeNo
    providerOrderKey := trimSpace input.providerOrderKey
    providerPaymentKey := trimSpace input.providerPaymentKey
    providerResourceKey := trimSpace input.providerResourceKey
    providerState := trimSpace input.providerState
    customerId := trimSpace input.customerId
    currency := toUpper (trimSpace input.currency)
    paymentMethod := if provider = .epay then paymentMethod else toLower paymentMethod }

def validateIdentity : DbTx Unit := do
  Tx.failIf (input.provider.text = "" ∨ input.provider.text.utf8ByteSize > 32 ∨
    input.eventKey = "" ∨ input.eventType = "" ∨ input.eventKey.utf8ByteSize > 255 ∨
    input.eventType.utf8ByteSize > 128 ∨ input.tradeNo.utf8ByteSize > 128 ∨
    input.providerOrderKey.utf8ByteSize > paymentProviderAuthorityKeyMaxLength ∨
    input.providerPaymentKey.utf8ByteSize > paymentProviderAuthorityKeyMaxLength ∨
    input.providerResourceKey.utf8ByteSize > paymentProviderAuthorityKeyMaxLength ∨
    input.providerCredentialGeneration < 0 ∨ input.providerCreatedAt < 0 ∨
    input.providerState.utf8ByteSize > 64 ∨ input.customerId.utf8ByteSize > 255 ∨
    input.currency.utf8ByteSize > 8 ∨ input.paymentMethod.utf8ByteSize > 64)
    (.new "invalid normalized payment event identity")
  Tx.failIf (input.normalizedPayload.utf8ByteSize > maxNormalizedPaymentPayloadBytes)
    (.new "normalized payment event is too large")
  Tx.failIf (¬ paymentProviderUsesEnvironmentBinding input.provider ∧
    input.providerLivemode.isSome)
    (.new "provider livemode is only valid for environment-bound events")

def validate : DbTx Unit := do
  validateIdentity input
  Tx.failIf (input.paidAmountMinor < 0 ∨ input.refundedAmountMinor < 0 ∨
    input.disputedAmountMinor < 0)
    (.wrap .paymentEventInvalid "invalid payment amount")
  Tx.failIf (input.paid ∧ (input.failed ∨ input.expired ∨ input.refunded ∨ input.disputed ∨
    input.disputeResolved))
    (.wrap .paymentEventInvalid "contradictory transition")
  Tx.failIf (input.failed ∧ input.expired ∨
    input.refunded ∧ (input.disputed ∨ input.disputeResolved))
    (.wrap .paymentEventInvalid "contradictory transition")
  Tx.failIf (input.disputeWon ∧ ¬ input.disputeResolved)
    (.wrap .paymentEventInvalid "invalid dispute resolution")
  Tx.failIf (input.paid ∧ input.paidAmountMinor ≤ 0 ∨
    input.refunded ∧ input.refundedAmountMinor ≤ 0 ∨
    input.disputed ∧ input.disputedAmountMinor ≤ 0)
    (.wrap .paymentEventInvalid "invalid payment amount")
  Tx.failIf (input.permanentFailure ∧ ¬ input.failed ∧ ¬ input.expired)
    (.wrap .paymentEventInvalid "invalid permanent failure")
  Tx.failIf (input.manualReview ∧ (input.paid ∨ input.failed ∨ input.expired ∨ input.refunded ∨
    input.disputed ∨ input.disputeResolved))
    (.wrap .paymentEventInvalid "contradictory manual-review transition")

def paymentEventFromInput (payloadDigest : String) : PaymentEvent :=
  { input with id := 0, payloadDigest := payloadDigest }

def writePayments (f : PaymentTables → PaymentTables) : DbTx Unit :=
  Tx.write fun db => { db with payments := f db.payments }

def findEvent (provider : PaymentProvider) (eventKey : String) (db : Database) :
    Option PaymentEvent :=
  db.payments.events.first? fun e => e.provider = provider ∧ e.eventKey = eventKey

def upsertPaymentEvent (event : PaymentEvent) : DbTx (PaymentEvent × Bool) := do
  Tx.failIf (event.provider.text = "" ∨ event.eventKey = "") (.new "invalid payment event")
  let existing? ← Tx.read (findEvent event.provider event.eventKey)
  match existing? with
  | some existing => pure (existing, false)
  | none => do
      let id ← Tx.read fun db => Database.nextId (db.payments.events.rows.map PaymentEvent.id)
      let event := { event with id := id, createdAt := env.now, updatedAt := env.now }
      let events? ← Tx.read fun db => db.payments.events.insert? event
      let events ← Tx.require events? .duplicatedKey
      writePayments fun p => { p with events := events }
      pure (event, true)

def updateEvent (eventId : Int) (f : PaymentEvent → PaymentEvent)
    (hf : ∀ e, (f e).id = e.id) : DbTx Unit :=
  writePayments fun p =>
    { p with events := p.events.updateWhere (fun e => e.id = eventId) f hf }

/-- The record once its event is finished; an order id of zero keeps the one it has. -/
def finishedEvent (status : PaymentEventStatus) (reviewCode lastError : String) (orderId : Int)
    (e : PaymentEvent) : PaymentEvent :=
  { e with
    status := status
    reviewCode := reviewCode
    lastError := lastError
    updatedAt := env.now
    paymentOrderId := if orderId > 0 then orderId else e.paymentOrderId
    processedAt := if status = .processed then env.now else e.processedAt }

def finishPaymentEventWithReviewCodeTx (eventId : Int) (status : PaymentEventStatus)
    (reviewCode lastError : String) (orderId : Int) : DbTx Unit :=
  updateEvent eventId (finishedEvent env status reviewCode lastError orderId) fun _ => rfl

def finishPaymentEventTx (eventId : Int) (status : PaymentEventStatus) (lastError : String)
    (orderId : Int) : DbTx Unit :=
  finishPaymentEventWithReviewCodeTx env eventId status "" lastError orderId

def paymentReviewCodeEventKeyPayloadConflict : String := "event_key_payload_conflict"

def recordPaymentEventReceived : DbTx Unit := do
  let input := normalizeIdentity input
  validateIdentity input
  (upsertPaymentEvent env
    (paymentEventFromInput input (env.digest input.normalizedPayload))).void

/-- Keep an event retryable when the provider could not confirm it. -/
def markPaymentEventValidationFailed (provider : PaymentProvider) (eventKey reasonCode : String) :
    DbTx Unit := do
  let provider := provider.normalize
  let eventKey := trimSpace eventKey
  let reasonCode := trimSpace reasonCode
  Tx.failIf (provider.text = "" ∨ provider.text.utf8ByteSize > 32 ∨ eventKey = "" ∨
    eventKey.utf8ByteSize > 255 ∨ reasonCode = "" ∨ reasonCode.utf8ByteSize > 1024)
    (.new "invalid payment event validation failure")
  let event? ← Tx.read (findEvent provider eventKey)
  let event ← Tx.require event? (.new "payment event not found")
  Tx.when (event.status = .received ∨ event.status = .processing ∨ event.status = .failed)
    (updateEvent event.id (fun e => { e with
      status := .failed, reviewCode := "", lastError := reasonCode
      attempts := e.attempts + 1, updatedAt := env.now }) fun _ => rfl)

def livemodeConflict (stored delivered : Option Bool) : Bool :=
  match stored, delivered with
  | some a, some b => decide (a ≠ b)
  | _, _ => false

def recordPaymentEventManualReview (reason : String) : DbTx Unit := do
  let input := normalizeIdentity input
  validateIdentity input
  let reason := trimSpace reason
  let reason := if reason = "" then "verified payment event could not be mapped safely" else reason
  let reason := truncateBytes 1024 reason
  let payloadDigest := env.digest input.normalizedPayload
  let (event, created) ← upsertPaymentEvent env (paymentEventFromInput input payloadDigest)
  if ¬ created ∧ (event.status = .processed ∨ event.status = .dismissed ∨
      event.status = .credentialRevoked) then pure ()
  else do
    let reused := "event key was reused with a different payload"
    let conflicted := ¬ created ∧ event.reviewCode = paymentReviewCodeEventKeyPayloadConflict
    let conflicts := ¬ created ∧ (event.payloadDigest ≠ payloadDigest ∨
      livemodeConflict event.providerLivemode input.providerLivemode)
    let lastError :=
      if conflicted then if trimSpace event.lastError ≠ "" then event.lastError else reused
      else if conflicts then reused
      else reason
    let reviewCode :=
      if conflicted then event.reviewCode
      else if conflicts then paymentReviewCodeEventKeyPayloadConflict
      else if created then ""
      else event.reviewCode
    updateEvent event.id (fun e => { e with
      status := .manualReview, reviewCode := reviewCode, lastError := lastError
      attempts := e.attempts + 1, updatedAt := env.now
      providerLivemode :=
        if event.providerLivemode = none then input.providerLivemode else e.providerLivemode })
      fun _ => rfl

end XyApi.Payment

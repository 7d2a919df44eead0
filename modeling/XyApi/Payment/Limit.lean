import XyApi.Payment.Identity

/-!
Daily and single-payment limits of a payment channel. An order reserves its
amount in the bucket of the day it is created; the reservation is released when
the order fails and moves to the bucket of the day it was paid when it settles.
-/

namespace XyApi.Payment

open Lib Lib.Calendar

variable (env : PaymentEnv) (order : PaymentOrder) (provider : PaymentProvider)

def paymentLimitProviderClockSkew : Int := 5 * 60

def paymentStripeOrderTTLSeconds : Int := 40 * 60

def paymentRetainedOrderTTLSeconds : Int := 45 * 60

def paymentLimitWouldExceed (limitMinor paidMinor reservedMinor amountMinor : Int) : Bool :=
  limitMinor > 0 ∧
    (paidMinor < 0 ∨ reservedMinor < 0 ∨ amountMinor < 0 ∨ paidMinor > limitMinor ∨
      reservedMinor > limitMinor - paidMinor ∨
      amountMinor > limitMinor - paidMinor - reservedMinor)

def addPaymentLimitMinor (current delta : Int) : DbTx Int := do
  Tx.failIf (current < 0 ∨ delta < 0 ∨ current > maxInt64 - delta)
    (.new "payment limit counter overflow")
  pure (current + delta)

private def pad (width : Nat) (n : Int) : String :=
  let digits := toString n
  String.ofList (List.replicate (width - digits.length) '0') ++ digits

def paymentLimitDayKey (timestamp : Int) (timezone : String) : DbTx String := do
  let location ← Tx.require (env.loadLocation timezone) (.new ("unknown time zone " ++ timezone))
  let day := civilDate location timestamp
  pure (pad 4 day.year ++ "-" ++ pad 2 day.month ++ "-" ++ pad 2 day.day)

def normalizePaymentMethodForStorage (method : String) : String :=
  let method := trimSpace method
  if provider = .epay then method else toLower method

def checkLimitMethod (method : String) : DbTx Unit :=
  match provider with
  | .epay => pure ()
  | .stripe => Tx.failIf (method ≠ "stripe") (.new "invalid Stripe payment limit method")
  | .xorPay =>
    Tx.failIf (method ≠ "xorpay_native" ∧ method ≠ "xorpay_alipay" ∧ method ≠ "xorpay_jsapi")
      (.new "invalid XORPay payment limit method")
  | .creem => Tx.failIf (method ≠ "creem") (.new "invalid Creem payment limit method")
  | .waffo => Tx.failIf (method ≠ "waffo") (.new "invalid Waffo payment limit method")
  | .waffoPancake =>
    Tx.failIf (method ≠ "waffo_pancake") (.new "invalid Waffo Pancake payment limit method")
  | _ => Tx.fail (.new "payment limits are not supported for this provider")

def normalizePaymentLimitPolicy (policy : PaymentLimitPolicy) : DbTx PaymentLimitPolicy := do
  let provider := policy.provider.normalize
  let paymentMethod := normalizePaymentMethodForStorage provider policy.paymentMethod
  let currency := toUpper (trimSpace policy.currency)
  let timezone := trimSpace policy.timezone
  Tx.failIf (provider.text = "" ∨ paymentMethod = "" ∨
    (paymentProviderCurrencyExponentOK env provider currency).isNone ∨
    policy.singleLimitMinor < 0 ∨ policy.dailyLimitMinor < 0)
    (.new "invalid payment limit policy")
  checkLimitMethod provider paymentMethod
  let timezone := if timezone = "" then "UTC" else timezone
  Tx.failIf (env.loadLocation timezone).isNone
    (.new ("invalid payment limit timezone: unknown time zone " ++ timezone))
  Tx.failIf (policy.singleLimitMinor > 0 ∧ policy.dailyLimitMinor > 0 ∧
    policy.singleLimitMinor > policy.dailyLimitMinor)
    (.new "single-payment limit cannot exceed the daily limit")
  pure { policy with
    provider := provider, paymentMethod := paymentMethod
    currency := currency, timezone := timezone }

def paymentLimitNextDayBoundary (paymentMethod currency : String) (now : Int) :
    DbTx (Option Int) := do
  let provider := provider.normalize
  let channel : LimitChannel :=
    (provider, normalizePaymentMethodForStorage provider paymentMethod,
      toUpper (trimSpace currency))
  let policy? ← Tx.read fun db => db.payments.limitPolicies.get? channel
  match policy? with
  | none => pure none
  | some policy =>
    if ¬ policy.enabled ∨ policy.dailyLimitMinor ≤ 0 then pure none
    else do
      let policy ← normalizePaymentLimitPolicy env policy
      let location ← Tx.require (env.loadLocation policy.timezone)
        (.new ("unknown time zone " ++ policy.timezone))
      let day := civilDate location now
      let boundary := date location day.year day.month (day.day + 1) 0
      Tx.failIf (boundary ≤ now) (.new "invalid payment limit day boundary")
      pure (some boundary)

def boundPaymentOrderExpiryForLimitTx (quote : PaymentQuote) (proposedExpiresAt : Int) :
    DbTx Int := do
  Tx.failIf (env.now ≤ 0 ∨ proposedExpiresAt ≤ env.now) .paymentLimitDayBoundary
  let boundary? ← paymentLimitNextDayBoundary env quote.provider quote.paymentMethod
    quote.currency env.now
  match boundary? with
  | none => pure proposedExpiresAt
  | some boundary => do
      Tx.failIf (quote.provider = .stripe ∧ proposedExpiresAt > boundary) .paymentLimitDayBoundary
      pure (min proposedExpiresAt boundary)

def ensurePaymentLimitBucketTx (channel : LimitChannel) (dayKey : String) (now : Int) :
    DbTx PaymentLimitBucket := do
  let fresh : PaymentLimitBucket :=
    { provider := channel.1, paymentMethod := channel.2.1, currency := channel.2.2
      dayKey := dayKey, updatedAt := now }
  writePayments fun p => { p with
    limitBuckets := (p.limitBuckets.insertOrKeep fresh).updateWhere
      (fun b => b.key = (channel, dayKey))
      (fun b => { b with updatedAt := now, version := b.version + 1 }) fun _ => rfl }
  let bucket? ← Tx.read fun db => db.payments.limitBuckets.get? (channel, dayKey)
  Tx.require bucket? .recordNotFound

def updateLimitBucket (key : LimitChannel × String) (f : PaymentLimitBucket → PaymentLimitBucket)
    (hf : ∀ b, (f b).key = b.key) : DbTx Unit :=
  writePayments fun p =>
    { p with limitBuckets := p.limitBuckets.updateWhere (fun b => b.key = key) f hf }

def setLimitReserved (key : LimitChannel × String) (reservedMinor now : Int) : DbTx Unit :=
  updateLimitBucket key (fun b => { b with
    reservedMinor := reservedMinor, updatedAt := now, version := b.version + 1 }) fun _ => rfl

def expiredReservation (bucket : PaymentLimitBucket) (now : Int) (r : PaymentLimitReservation) :
    Bool :=
  (r.channel, r.dayKey) = bucket.key ∧ r.status = .active ∧ r.expiresAt > 0 ∧ r.expiresAt ≤ now

def releasedMinor (reservedMinor : Int) : Int → List PaymentLimitReservation → Int
  | released, [] => released
  | released, r :: rest =>
    if r.amountMinor ≤ 0 then releasedMinor reservedMinor released rest
    else if released ≥ reservedMinor ∨ r.amountMinor ≥ reservedMinor - released then
      releasedMinor reservedMinor reservedMinor rest
    else releasedMinor reservedMinor (released + r.amountMinor) rest

def releaseExpiredPaymentLimitReservationsTx (bucket : PaymentLimitBucket) (now : Int) :
    DbTx PaymentLimitBucket := do
  Tx.failIf (bucket.reservedMinor < 0) (.new "payment limit reserved counter is invalid")
  let reservations : List PaymentLimitReservation ← Tx.read fun db =>
    db.payments.limitReservations.rows.filter (expiredReservation bucket now)
  if reservations = [] then pure bucket
  else do
    let released := min (releasedMinor bucket.reservedMinor 0 reservations) bucket.reservedMinor
    writePayments fun p => { p with
      limitReservations := p.limitReservations.updateWhere (expiredReservation bucket now)
        (fun r => { r with status := .released, updatedAt := now }) fun _ => rfl }
    let bucket := { bucket with reservedMinor := bucket.reservedMinor - released }
    setLimitReserved bucket.key bucket.reservedMinor now
    pure bucket

def reservePaymentLimitTxAt : DbTx Unit := do
  Tx.failIf (order.id ≤ 0 ∨ order.expectedAmountMinor ≤ 0)
    (.new "invalid payment limit reservation")
  Tx.failIf (env.now ≤ 0) (.new "invalid payment limit reservation time")
  let policy? ← Tx.read fun db => db.payments.limitPolicies.get?
    (order.provider, order.paymentMethod, toUpper order.currency)
  match policy? with
  | none => pure ()
  | some policy =>
    if ¬ policy.enabled then pure ()
    else do
      let policy ← normalizePaymentLimitPolicy env policy
      Tx.failIf (policy.singleLimitMinor > 0 ∧
        order.expectedAmountMinor > policy.singleLimitMinor) .paymentSingleLimitExceeded
      let dayKey ← paymentLimitDayKey env env.now policy.timezone
      let bucket ← ensurePaymentLimitBucketTx
        (order.provider, order.paymentMethod, policy.currency) dayKey env.now
      let bucket ← releaseExpiredPaymentLimitReservationsTx bucket env.now
      Tx.failIf (paymentLimitWouldExceed policy.dailyLimitMinor bucket.paidMinor
        bucket.reservedMinor order.expectedAmountMinor) .paymentDailyLimitExceeded
      let reservations? ← Tx.read fun db => db.payments.limitReservations.insert? {
        paymentOrderId := order.id
        provider := order.provider
        paymentMethod := order.paymentMethod
        currency := policy.currency
        dayKey := dayKey
        amountMinor := order.expectedAmountMinor
        expiresAt := order.expiresAt
        updatedAt := env.now }
      let reservations ← Tx.require reservations? .duplicatedKey
      writePayments fun p => { p with limitReservations := reservations }
      let reserved ← addPaymentLimitMinor bucket.reservedMinor order.expectedAmountMinor
      setLimitReserved bucket.key reserved env.now

def updateLimitReservation (orderId : Int)
    (f : PaymentLimitReservation → PaymentLimitReservation)
    (hf : ∀ r, (f r).paymentOrderId = r.paymentOrderId) : DbTx Unit :=
  writePayments fun p => { p with
    limitReservations := p.limitReservations.updateWhere
      (fun r => r.paymentOrderId = orderId) f hf }

def updatePaymentLimitReservationExpiryTx (orderId expiresAt now : Int) : DbTx Unit :=
  Tx.when (orderId > 0 ∧ expiresAt > 0)
    (updateLimitReservation orderId (fun r =>
      if r.status = .active then { r with expiresAt := expiresAt, updatedAt := now } else r)
      fun r => by split <;> rfl)

def returnReservedTx (reservation : PaymentLimitReservation) (now : Int) : DbTx Unit := do
  let bucket ← ensurePaymentLimitBucketTx reservation.channel reservation.dayKey now
  Tx.failIf (bucket.reservedMinor < 0) (.new "payment limit reserved counter is invalid")
  let released := min reservation.amountMinor bucket.reservedMinor
  setLimitReserved bucket.key (bucket.reservedMinor - released) now

def releasePaymentLimitReservationTx (now : Int) : DbTx Unit :=
  Tx.when (order.id > 0) do
    let reservation? ← Tx.read fun db => db.payments.limitReservations.get? order.id
    match reservation? with
    | none => pure ()
    | some reservation =>
      Tx.when (reservation.status = .active) do
        Tx.failIf (reservation.amountMinor ≤ 0)
          (.new "payment limit reservation amount is invalid")
        returnReservedTx reservation now
        updateLimitReservation order.id
          (fun r => { r with status := .released, updatedAt := now }) fun _ => rfl

def paymentLimitPaidAtForEvent (event : PaymentEvent) (order : PaymentOrder) (now : Int) : Int :=
  let receivedAt :=
    if event.createdAt > 0 ∧ event.createdAt ≤ now + paymentLimitProviderClockSkew
    then event.createdAt else now
  if event.provider ≠ .stripe ∨ event.providerCreatedAt ≤ 0 then receivedAt
  else
    let lowerBound :=
      if order.createdAt > paymentLimitProviderClockSkew
      then order.createdAt - paymentLimitProviderClockSkew else 1
    if event.providerCreatedAt < lowerBound ∨
        event.providerCreatedAt > receivedAt + paymentLimitProviderClockSkew then receivedAt
    else event.providerCreatedAt

def settlePaymentLimitReservationAtTx (paidAt now : Int) : DbTx Unit :=
  Tx.when (order.id > 0) do
    let paidAt := if paidAt ≤ 0 then now else paidAt
    let reservation? ← Tx.read fun db => db.payments.limitReservations.get? order.id
    match reservation? with
    | none => pure ()
    | some reservation =>
      Tx.when (reservation.status ≠ .paid) do
        Tx.failIf (reservation.amountMinor ≤ 0)
          (.new "payment limit reservation amount is invalid")
        let policy? ← Tx.read fun db =>
          db.payments.limitPolicies.get? reservation.channel
        let timezone :=
          match policy? with
          | some policy => if trimSpace policy.timezone ≠ "" then policy.timezone else "UTC"
          | none => "UTC"
        let paidDayKey ← paymentLimitDayKey env paidAt timezone
        Tx.when (reservation.status = .active) (returnReservedTx reservation now)
        let paidBucket ← ensurePaymentLimitBucketTx reservation.channel paidDayKey now
        let overLimit := policy?.any fun policy =>
          paymentLimitWouldExceed policy.dailyLimitMinor paidBucket.paidMinor 0
            reservation.amountMinor
        let paidMinor ← addPaymentLimitMinor paidBucket.paidMinor reservation.amountMinor
        updateLimitBucket paidBucket.key (fun b => { b with
          paidMinor := paidMinor, updatedAt := now, version := b.version + 1 }) fun _ => rfl
        updateLimitReservation order.id (fun r => { r with
          status := .paid, paidDayKey := paidDayKey, paidAt := paidAt
          overLimit := overLimit, updatedAt := now }) fun _ => rfl

end XyApi.Payment

import XyApi.Payment.Inbox

/-!
How an event is matched to an order and how far its sender is trusted: the
generations of webhook credentials, the keys a provider gives to orders and
payments, and the ownership of customers. A provider key belongs to one order,
and an order keeps the first key it was given.
-/

namespace XyApi.Payment

open Lib

def paymentConfigurationVersionOptionKey : String := "payment_setting.config_version"

def initialPaymentConfigurationVersion : Int := 1

/-- Lock the version of the payment configuration, creating it on first use. -/
def lockPaymentConfigurationFenceTx : DbTx Int := do
  writePayments fun p => { p with
    options := p.options.insertOrKeep
      { key := paymentConfigurationVersionOptionKey
        value := toString initialPaymentConfigurationVersion } }
  let version? ← Tx.read fun db =>
    db.payments.options.get? paymentConfigurationVersionOptionKey
  let version ← Tx.require version? .recordNotFound
  Tx.require ((atoi (trimSpace version.value)).filter fun parsed => parsed > 0)
    (.new ("invalid stored payment configuration version \"" ++ version.value ++ "\""))

/-- The options that hold the current and the previous credential of a provider. -/
structure CredentialKeys where
  current : String
  previous : String
  previousValidBefore : String
  previousExpiresAt : String

def credentialKeys : PaymentProvider → Option CredentialKeys
  | .epay => some {
      current := "EpayCredentialGeneration"
      previous := "EpayPreviousCredentialGeneration"
      previousValidBefore := "EpayPreviousValidBefore"
      previousExpiresAt := "EpayPreviousExpiresAt" }
  | .xorPay => some {
      current := "XorPayCredentialGeneration"
      previous := "XorPayPreviousCredentialGeneration"
      previousValidBefore := "XorPayPreviousValidBefore"
      previousExpiresAt := "XorPayPreviousExpiresAt" }
  | .stripe => some {
      current := "StripeWebhookCredentialGeneration"
      previous := "StripeWebhookPreviousCredentialGeneration"
      previousValidBefore := "StripeWebhookPreviousValidBefore"
      previousExpiresAt := "StripeWebhookSecretPreviousExpiresAt" }
  | _ => none

def storedCredentialBoundary (key : String) : DbTx (Option Int) := do
  let option? ← Tx.read fun db => db.payments.options.get? key
  match option? with
  | none => pure none
  | some option => do
      let parsed ← Tx.require ((atoi (trimSpace option.value)).filter fun parsed => parsed ≥ 0)
        (.new ("invalid stored payment credential boundary " ++ key))
      pure (some parsed)

def stripeWebhookSecretOverlapSeconds : Int := 24 * 60 * 60

def paymentCredentialGenerationAvailableTx (provider : PaymentProvider)
    (generation createdAt now : Int) : DbTx Bool :=
  if generation ≤ 0 ∨ createdAt ≤ 0 ∨ now ≤ 0 then pure false
  else
    match credentialKeys provider with
    | none => pure true
    | some keys => do
        let current? ← storedCredentialBoundary keys.current
        let previous? ← storedCredentialBoundary keys.previous
        let validBefore? ← storedCredentialBoundary keys.previousValidBefore
        let expiresAt? ← storedCredentialBoundary keys.previousExpiresAt
        let expiresAt := expiresAt?.getD 0
        -- A Stripe secret older than the stored generations counts as the second
        -- one, and the secret it replaced as the first.
        let replaced : Bool := provider = .stripe ∧ expiresAt > 0
        let current := current?.getD (if provider = .stripe then 2 else 0)
        let previous := previous?.getD (if replaced then 1 else 0)
        let validBefore := validBefore?.getD
          (if replaced then max 0 (expiresAt - stripeWebhookSecretOverlapSeconds) else 0)
        pure (decide (generation = current ∨
          (generation = previous ∧ createdAt ≤ validBefore ∧ now < expiresAt)))

def updateOrder (orderId : Int) (f : PaymentOrder → PaymentOrder)
    (hf : ∀ o, (f o).id = o.id) : DbTx Unit :=
  writePayments fun p =>
    { p with orders := p.orders.updateWhere (fun o => o.id = orderId) f hf }

def findOrderByTradeNo (tradeNo : String) (db : Database) : Option PaymentOrder :=
  db.payments.orders.first? fun o => o.tradeNo = tradeNo

def findOrderByProviderPaymentKey (provider : PaymentProvider) (key : String) (db : Database) :
    Option PaymentOrder :=
  db.payments.orders.first? fun o => o.provider = provider ∧ o.providerPaymentKey = some key

/-- Refunds and disputes are matched by the payment they reverse, not by metadata. -/
def paymentEventRequiresProviderPaymentAuthority (input : PaymentEventInput) : Bool :=
  input.refunded || input.disputed || input.disputeResolved ||
    (input.provider = .stripe && (input.eventType = "charge.refunded" ||
      input.eventType = "charge.dispute.created" || input.eventType = "charge.dispute.closed"))

def lockPaymentOrderForEventTx (input : PaymentEventInput) : DbTx (Option PaymentOrder) :=
  let providerPaymentKey := trimSpace input.providerPaymentKey
  let tradeNo := trimSpace input.tradeNo
  if paymentEventRequiresProviderPaymentAuthority input ∧ providerPaymentKey ≠ "" then
    Tx.read (findOrderByProviderPaymentKey input.provider providerPaymentKey)
  else if tradeNo ≠ "" then Tx.read (findOrderByTradeNo tradeNo)
  else if providerPaymentKey ≠ "" then
    Tx.read (findOrderByProviderPaymentKey input.provider providerPaymentKey)
  else pure none

def boundKey (stored : Option String) (presented : String) : Option (Option String) :=
  if presented = "" then some stored
  else
    match stored with
    | some key => if key = presented then some stored else none
    | none => some (some presented)

def providerKeyTaken (orderId : Int) (providerOrderKey providerPaymentKey : String)
    (o : PaymentOrder) : Bool :=
  o.id ≠ orderId ∧
    ((providerOrderKey ≠ "" ∧ o.providerOrderKey = some providerOrderKey) ∨
      (providerPaymentKey ≠ "" ∧ o.providerPaymentKey = some providerPaymentKey))

def bindAndValidateProviderIdentityTx (env : PaymentEnv) (order : PaymentOrder)
    (inputOrderKey inputPaymentKey : String) : DbTx PaymentOrder := do
  Tx.failIf (order.id ≤ 0) .paymentProviderMismatch
  let providerOrderKey := trimSpace inputOrderKey
  let providerPaymentKey := trimSpace inputPaymentKey
  let orderKey ← Tx.require (boundKey order.providerOrderKey providerOrderKey)
    .paymentProviderMismatch
  let paymentKey ← Tx.require (boundKey order.providerPaymentKey providerPaymentKey)
    .paymentProviderMismatch
  if orderKey = order.providerOrderKey ∧ paymentKey = order.providerPaymentKey then pure order
  else do
    let taken ← Tx.read fun db => db.payments.orders.rows.any
      (providerKeyTaken order.id providerOrderKey providerPaymentKey)
    Tx.failIf taken .paymentProviderMismatch
    updateOrder order.id (fun o => { o with
      providerOrderKey := if orderKey = order.providerOrderKey then o.providerOrderKey else orderKey
      providerPaymentKey :=
        if paymentKey = order.providerPaymentKey then o.providerPaymentKey else paymentKey
      updatedAt := env.now }) fun _ => rfl
    pure { order with providerOrderKey := orderKey, providerPaymentKey := paymentKey }

/-! ### Stripe customers -/

/-- Whether the customer was retired after the order was created; a customer
retired for good, or of another user, is a mismatch. -/
def retiredStripeCustomerAllowedForOrderTx (order : PaymentOrder) (customerId : String) :
    DbTx Bool := do
  let retired : List PaymentCustomerBindingRetirement ← Tx.read fun db =>
    db.payments.bindingRetirements.rows.filter fun r =>
      r.provider = .stripe ∧ r.customerKey = customerId
  Tx.failIf (retired.any fun r => r.userId ≠ order.userId) .paymentProviderMismatch
  if retired = [] then pure false
  else do
    Tx.failIf (order.createdAt ≤ 0) .paymentProviderMismatch
    Tx.failIf (¬ retired.any fun r => r.retiredAt ≥ order.createdAt) .paymentProviderMismatch
    pure true

/-- Insert a binding unless either of its unique indexes is taken. -/
def createCustomerBinding (binding : PaymentCustomerBinding) (p : PaymentTables) :
    PaymentTables :=
  if p.customerBindings.rows.any fun b =>
      b.provider = binding.provider ∧ b.userId = binding.userId then p
  else { p with customerBindings := p.customerBindings.insertOrKeep binding }

def bindStripeCustomerTx (order : PaymentOrder) (customerId : String) : DbTx Bool := do
  let customerId := trimSpace customerId
  if order.provider ≠ .stripe ∨ customerId = "" then pure false
  else do
    Tx.failIf (¬ "cus_".toList.isPrefixOf customerId.toList ∨ customerId.utf8ByteSize > 64)
      .paymentProviderMismatch
    let user? ← Tx.read fun db => db.users.get? order.userId
    let user ← Tx.require user? .recordNotFound
    let retiredCustomer ← retiredStripeCustomerAllowedForOrderTx order customerId
    if retiredCustomer then pure false
    else do
      let current := trimSpace user.stripeCustomer
      Tx.failIf (current ≠ "" ∧ current ≠ customerId) .paymentProviderMismatch
      let owned ← Tx.read fun db => db.users.rows.any fun u =>
        u.stripeCustomer = customerId ∧ u.id ≠ order.userId
      Tx.failIf owned .paymentProviderMismatch
      writePayments (createCustomerBinding
        { provider := .stripe, customerKey := customerId, userId := order.userId })
      let bindings ← Tx.read fun db => db.payments.customerBindings.rows
      let userBinding? := bindings.find? fun b => b.provider = .stripe ∧ b.userId = order.userId
      let customerBinding? :=
        bindings.find? fun b => b.provider = .stripe ∧ b.customerKey = customerId
      Tx.failIf (userBinding?.any fun b => b.customerKey ≠ customerId) .paymentProviderMismatch
      Tx.failIf (customerBinding?.any fun b => b.userId ≠ order.userId) .paymentProviderMismatch
      Tx.failIf (userBinding?.isNone ∨ customerBinding?.isNone)
        (.new "stripe customer ownership binding was not persisted")
      if current = customerId then pure false
      else do
        Tx.when (user.stripeCustomer = "")
          (Tx.write (Database.putUser { user with stripeCustomer := customerId }))
        pure true

end XyApi.Payment

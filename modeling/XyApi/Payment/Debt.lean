import XyApi.Billing.Freeze
import XyApi.Billing.Quota
import XyApi.Payment.Inbox

/-!
Debts: what a reversal could not take back from a wallet. There is one debt per
order, user and kind; it is reopened rather than created again. An open debt
keeps its user disabled, and closing the last liability of a user gives the
account the status it had before.
-/

namespace XyApi.Payment

open Lib Billing

section

variable (env : PaymentEnv) (order : PaymentOrder) (userId : Int) (debtKind : DebtKind)
  (quota amountMinor : Int) (debt : PaymentDebt)

abbrev DebtSubject : Type := Int × Int × DebtKind

def findDebt (subject : DebtSubject) (db : Database) : Option PaymentDebt :=
  db.paymentDebts.get? subject

def previousStatusOfUserTx : DbTx UserStatus := do
  let user? ← Tx.read fun db => db.users.get? userId
  let user ← Tx.require user? .recordNotFound
  paymentFreezePreviousUserStatusTx user

def applyDebtFreeze (freeze : Bool) : DbTx Unit :=
  Tx.when (freeze = true) (Tx.write (freezeUser userId))

def newPaymentDebt (id userId : Int) (debtKind : DebtKind) (quota amountMinor : Int)
    (previousStatus : UserStatus) (freeze : Bool) : PaymentDebt :=
  { id := id
    paymentOrderId := order.id
    userId := userId
    debtKind := debtKind
    currency := order.currency
    originalAmountMinor := amountMinor
    outstandingAmountMinor := amountMinor
    originalQuota := quota
    outstandingQuota := quota
    previousUserStatus := some previousStatus
    freezeApplied := freeze
    createdAt := env.now
    updatedAt := env.now }

def reopenedDebt (previousStatus : Option UserStatus) (freeze : Bool) (debt : PaymentDebt) :
    PaymentDebt :=
  { debt with
    previousUserStatus := previousStatus
    originalQuota := debt.originalQuota + quota
    outstandingQuota := debt.outstandingQuota + quota
    originalAmountMinor := debt.originalAmountMinor + amountMinor
    outstandingAmountMinor := debt.outstandingAmountMinor + amountMinor
    status := .outstanding
    freezeApplied := debt.freezeApplied || freeze
    resolvedAt := 0
    resolution := none
    resolutionNote := ""
    resolvedBy := 0
    updatedAt := env.now }

def debtPreviousStatusTx (userId : Int) (freeze : Bool) : DbTx (Option UserStatus) :=
  if freeze = true ∧ debt.status ≠ .outstanding then do
    let previousStatus ← previousStatusOfUserTx userId
    pure (some previousStatus)
  else pure debt.previousUserStatus

def addPaymentDebtTx (freeze : Bool) : DbTx Unit := do
  Tx.failIf (quota < 0 ∨ amountMinor < 0 ∨ (quota = 0 ∧ amountMinor = 0))
    (.new "invalid payment debt")
  let debt? ← Tx.read (findDebt (order.id, userId, debtKind))
  match debt? with
  | none => do
      let previousStatus ← previousStatusOfUserTx userId
      let id ← Tx.read fun db => Database.nextId (db.paymentDebts.rows.map PaymentDebt.id)
      let debts? ← Tx.read fun db => db.paymentDebts.insert?
        (newPaymentDebt env order id userId debtKind quota amountMinor previousStatus freeze)
      let debts ← Tx.require debts? .duplicatedKey
      Tx.write fun db => { db with paymentDebts := debts }
      applyDebtFreeze userId freeze
  | some debt => do
      let previousStatus ← debtPreviousStatusTx debt userId freeze
      Tx.write (Database.putDebt (reopenedDebt env quota amountMinor previousStatus freeze debt))
      applyDebtFreeze userId freeze

def releasePaymentFreezeTx : DbTx Unit :=
  Tx.when (debt.freezeApplied = true)
    (releaseUserPaymentFreezeTx debt.userId debt.previousUserStatus).void

def settledDebt : PaymentDebt :=
  if debt.outstandingQuota = 0 ∧ debt.outstandingAmountMinor = 0 then
    { debt with updatedAt := env.now, status := .resolved, resolvedAt := env.now }
  else { debt with updatedAt := env.now }

def saveDebtTx : DbTx Unit := do
  Tx.write (Database.putDebt debt)
  Tx.when (debt.status = .resolved) (releasePaymentFreezeTx debt)

def resolvePaymentDebtQuotaTx : DbTx Int := do
  let debt? ← Tx.read (findDebt (order.id, userId, debtKind))
  match debt? with
  | none => pure 0
  | some debt => do
      let resolved := min quota debt.outstandingQuota
      saveDebtTx (settledDebt env { debt with
        outstandingQuota := debt.outstandingQuota - resolved
        recoveredQuota := debt.recoveredQuota + resolved })
      pure resolved

def restorePaymentDebtAmountTx : DbTx Int := do
  let debt? ← Tx.read (findDebt (order.id, order.userId, debtKind))
  match debt? with
  | none => pure 0
  | some debt => do
      let resolved := min amountMinor debt.outstandingAmountMinor
      saveDebtTx (settledDebt env { debt with
        outstandingAmountMinor := debt.outstandingAmountMinor - resolved })
      pure resolved

def hasAnyOpenPaymentDebtTx (orderId : Int) : DbTx Bool :=
  Tx.read fun db => decide
    (db.paymentDebts.count (fun d => d.paymentOrderId = orderId ∧ d.status = .outstanding) > 0)

/-! ### Taking quota back and giving it back -/

/-- Take quota out of a wallet as far as it goes and owe the rest. Returns what
was recovered and what became debt. -/
def reverseUserPaymentQuotaTx (debtKind : DebtKind) : DbTx (Int × Int) :=
  if quota ≤ 0 then pure (0, 0)
  else do
    let user? ← Tx.read fun db => db.users.get? userId
    let user ← Tx.require user? .recordNotFound
    let recovered := min quota user.quota
    Tx.failIf (recovered < 0) (.new "user quota is negative")
    Tx.when (recovered > 0) (applyUserQuotaDeltaTx userId (-recovered))
    let debt := quota - recovered
    Tx.when (debt > 0) (addPaymentDebtTx env order userId debtKind debt 0 true)
    pure (recovered, debt)

def restoreUserPaymentQuotaTx (debtKind : DebtKind) : DbTx Int :=
  if quota ≤ 0 then pure 0
  else do
    let resolved ← resolvePaymentDebtQuotaTx env order userId debtKind quota
    let credit := quota - resolved
    Tx.when (credit > 0) (applyUserQuotaDeltaTx userId credit)
    pure credit

end

/-! ### What they do -/

variable {env : PaymentEnv} {order : PaymentOrder} {userId quota amountMinor : Int}
  {debtKind : DebtKind} {db db' : Database}

/-- The status a debt remembers once it is open again: an open one keeps its own. -/
inductive DebtPrevious (db : Database) (debt : PaymentDebt) (userId : Int) :
    Option UserStatus → Prop
  | kept (hOpen : debt.status = .outstanding) : DebtPrevious db debt userId debt.previousUserStatus
  | taken (user : User) (p : UserStatus) (hClosed : debt.status ≠ .outstanding)
      (hUser : db.users.get? userId = some user)
      (hPrevious : paymentFreezePreviousUserStatusTx user db = .ok (p, db)) :
      DebtPrevious db debt userId (some p)

inductive DebtAdded (env : PaymentEnv) (order : PaymentOrder) (userId : Int)
    (debtKind : DebtKind) (quota amountMinor : Int) (db : Database) : Database → Prop
  | created (id : Int) (user : User) (p : UserStatus) {debts : Table PaymentDebt.subject}
      (hNone : db.paymentDebts.get? (order.id, userId, debtKind) = none)
      (hUser : db.users.get? userId = some user)
      (hPrevious : paymentFreezePreviousUserStatusTx user db = .ok (p, db))
      (hId : id = Database.nextId (db.paymentDebts.rows.map PaymentDebt.id))
      (hInsert : db.paymentDebts.insert?
        (newPaymentDebt env order id userId debtKind quota amountMinor p true) = some debts) :
      DebtAdded env order userId debtKind quota amountMinor db
        (freezeUser userId { db with paymentDebts := debts })
  | grown (debt : PaymentDebt) (p : Option UserStatus)
      (hDebt : db.paymentDebts.get? (order.id, userId, debtKind) = some debt)
      (hPrevious : DebtPrevious db debt userId p) :
      DebtAdded env order userId debtKind quota amountMinor db
        (freezeUser userId (db.putDebt (reopenedDebt env quota amountMinor p true debt)))

theorem debtPreviousStatusTx_ok (h : debtPreviousStatusTx debt userId true db = .ok (p, db')) :
    db' = db ∧ DebtPrevious db debt userId p := by
  unfold debtPreviousStatusTx at h
  split at h
  · next hClosed =>
      obtain ⟨p, db₁, hPrevious, h⟩ := Tx.bind_ok h
      cases h
      simp only [previousStatusOfUserTx, Tx.read_bind_apply, Tx.require_bind_ok_iff] at hPrevious
      obtain ⟨user, hUser, hPrevious⟩ := hPrevious
      obtain rfl := (paymentFreezePreviousUserStatusTx_ok hPrevious).1
      exact ⟨rfl, .taken user p hClosed.2 hUser hPrevious⟩
  · next hOpen =>
      cases h
      exact ⟨rfl, .kept (by simpa using hOpen)⟩

theorem addPaymentDebtTx_ok
    (h : addPaymentDebtTx env order userId debtKind quota amountMinor true db = .ok (a, db')) :
    0 ≤ quota ∧ 0 ≤ amountMinor ∧
      DebtAdded env order userId debtKind quota amountMinor db db' := by
  simp only [addPaymentDebtTx, Tx.failIf_bind_ok_iff, Tx.read_bind_apply] at h
  obtain ⟨hArgs, h⟩ := h
  refine ⟨by omega, by omega, ?_⟩
  cases hDebt : findDebt (order.id, userId, debtKind) db with
  | none =>
    simp only [hDebt] at h
    rw [Tx.bind_ok_iff] at h
    obtain ⟨p, db₁, hPrevious, h⟩ := h
    simp only [previousStatusOfUserTx, Tx.read_bind_apply, Tx.require_bind_ok_iff] at hPrevious
    obtain ⟨user, hUser, hPrevious⟩ := hPrevious
    obtain rfl := (paymentFreezePreviousUserStatusTx_ok hPrevious).1
    simp only [Tx.read_bind_apply, Tx.require_bind_ok_iff, Tx.write_bind_apply] at h
    obtain ⟨debts, hInsert, h⟩ := h
    cases h
    exact .created _ user p hDebt hUser hPrevious rfl hInsert
  | some debt =>
    simp only [hDebt] at h
    rw [Tx.bind_ok_iff] at h
    obtain ⟨p, db₁, hPrevious, h⟩ := h
    obtain ⟨rfl, hPrevious⟩ := debtPreviousStatusTx_ok hPrevious
    cases h
    exact .grown debt p hDebt hPrevious

def DebtReleased (debt : PaymentDebt) (db db' : Database) : Prop :=
  if debt.freezeApplied = true then Released db debt.userId debt.previousUserStatus db'
  else db' = db

theorem releasePaymentFreezeTx_ok (h : releasePaymentFreezeTx debt db = .ok (a, db')) :
    DebtReleased debt db db' := by
  unfold releasePaymentFreezeTx at h
  unfold DebtReleased
  rcases Tx.when_ok_iff.mp h with ⟨hApplied, h⟩ | ⟨hApplied, rfl⟩
  · rw [if_pos hApplied]
    obtain ⟨b, h⟩ := Tx.void_ok_iff.mp h
    exact releaseUserPaymentFreezeTx_ok h
  · rw [if_neg hApplied]

theorem saveDebtTx_ok (h : saveDebtTx debt db = .ok (a, db')) :
    (debt.status = .outstanding ∧ db' = db.putDebt debt) ∨
      (debt.status = .resolved ∧ DebtReleased debt (db.putDebt debt) db') := by
  simp only [saveDebtTx, Tx.write_bind_apply] at h
  rcases Tx.when_ok_iff.mp h with ⟨hResolved, h⟩ | ⟨hOpen, rfl⟩
  · exact .inr ⟨hResolved, releasePaymentFreezeTx_ok h⟩
  · refine .inl ⟨?_, rfl⟩
    cases hStatus : debt.status with
    | outstanding => rfl
    | resolved => exact absurd hStatus hOpen

/-- The columns a settlement of a debt leaves alone. -/
theorem settledDebt_columns (env : PaymentEnv) (debt : PaymentDebt) :
    (settledDebt env debt).subject = debt.subject ∧
      (settledDebt env debt).freezeApplied = debt.freezeApplied ∧
      (settledDebt env debt).previousUserStatus = debt.previousUserStatus ∧
      (settledDebt env debt).outstandingQuota = debt.outstandingQuota ∧
      (settledDebt env debt).outstandingAmountMinor = debt.outstandingAmountMinor ∧
      (settledDebt env debt).id = debt.id := by
  unfold settledDebt
  split <;> exact ⟨rfl, rfl, rfl, rfl, rfl, rfl⟩

theorem settledDebt_status :
    (settledDebt env debt).status =
      if debt.outstandingQuota = 0 ∧ debt.outstandingAmountMinor = 0 then .resolved
      else debt.status := by
  unfold settledDebt
  split <;> rfl

/-- Cancelling quota of a debt: there is none, or its row is saved with that much less. -/
theorem resolvePaymentDebtQuotaTx_ok
    (h : resolvePaymentDebtQuotaTx env order userId debtKind quota db = .ok (resolved, db')) :
    (db.paymentDebts.get? (order.id, userId, debtKind) = none ∧ resolved = 0 ∧ db' = db) ∨
      ∃ debt, db.paymentDebts.get? (order.id, userId, debtKind) = some debt ∧
        resolved = min quota debt.outstandingQuota ∧
        saveDebtTx (settledDebt env { debt with
          outstandingQuota := debt.outstandingQuota - resolved
          recoveredQuota := debt.recoveredQuota + resolved }) db = .ok ((), db') := by
  simp only [resolvePaymentDebtQuotaTx, Tx.read_bind_apply] at h
  cases hDebt : findDebt (order.id, userId, debtKind) db with
  | none =>
    simp only [hDebt, Tx.pure_ok_iff] at h
    exact .inl ⟨hDebt, h.1.symm, h.2.symm⟩
  | some debt =>
    simp only [hDebt] at h
    obtain ⟨u, db₁, hSave, h⟩ := Tx.bind_ok h
    cases h
    exact .inr ⟨debt, hDebt, rfl, hSave⟩

/-- Cancelling money of the buyer's debt, in the same way. -/
theorem restorePaymentDebtAmountTx_ok
    (h : restorePaymentDebtAmountTx env order debtKind amountMinor db = .ok (resolved, db')) :
    (db.paymentDebts.get? (order.id, order.userId, debtKind) = none ∧ db' = db) ∨
      ∃ debt, db.paymentDebts.get? (order.id, order.userId, debtKind) = some debt ∧
        saveDebtTx (settledDebt env { debt with
          outstandingAmountMinor := debt.outstandingAmountMinor -
            min amountMinor debt.outstandingAmountMinor }) db = .ok ((), db') := by
  simp only [restorePaymentDebtAmountTx, Tx.read_bind_apply] at h
  cases hDebt : findDebt (order.id, order.userId, debtKind) db with
  | none =>
    simp only [hDebt, Tx.pure_ok_iff] at h
    exact .inl ⟨hDebt, h.2.symm⟩
  | some debt =>
    simp only [hDebt] at h
    obtain ⟨u, db₁, hSave, h⟩ := Tx.bind_ok h
    cases h
    exact .inr ⟨debt, hDebt, hSave⟩

end XyApi.Payment

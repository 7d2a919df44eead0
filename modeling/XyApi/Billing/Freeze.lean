import XyApi.Database

/-!
The payment freeze of an account. An open payment debt or a reservation with a
recorded settlement shortfall is a liability; each one remembers the status the
account is to get back, and the last one to close gives it back.
-/

namespace XyApi.Billing

open Lib

variable (userId : Int)

def openDebt (d : PaymentDebt) : Bool :=
  decide (d.userId = userId ∧ d.status = .outstanding)

def openShortfall (r : BillingReservation) : Bool :=
  decide (r.userId = userId ∧ r.status = .reserved ∧ r.shortfallFreezeApplied = true)

/-- The status to restore when the account is unfrozen. An account that is frozen
already takes over what an open liability remembers. -/
def paymentFreezePreviousUserStatusTx (user : User) : DbTx UserStatus := do
  Tx.failIf (user.id ≤ 0) .billingAccountNotFound
  if ¬ user.paymentFrozen then pure user.status
  else do
    let restorablePaymentDebts ← Tx.read fun db => db.paymentDebts.count fun d =>
      openDebt user.id d ∧ d.freezeApplied ∧ d.previousUserStatus = some .enabled
    let restorableBillingShortfalls ← Tx.read fun db => db.reservations.count fun r =>
      openShortfall user.id r ∧ r.shortfallPreviousStatus = some .enabled
    if restorablePaymentDebts > 0 ∨ restorableBillingShortfalls > 0 then pure .enabled
    else pure user.status

def hasOpenUserPaymentFreezeTx : DbTx Bool := do
  Tx.failIf (userId ≤ 0) .billingAccountNotFound
  let paymentDebtCount ← Tx.read fun db => db.paymentDebts.count (openDebt userId)
  if paymentDebtCount > 0 then pure true
  else do
    let billingShortfallCount ← Tx.read fun db => db.reservations.count (openShortfall userId)
    pure (decide (billingShortfallCount > 0))

def freezeUser (db : Database) : Database :=
  match db.users.get? userId with
  | some user => db.putUser { user with status := .disabled, paymentFrozen := true }
  | none => db

def unfrozen (previousStatus : Option UserStatus) (user : User) : User :=
  { user with
    paymentFrozen := false
    status :=
      if previousStatus = some .enabled ∧ user.status = .disabled then .enabled else user.status }

/-- Lift the freeze when no liability is left. Returns whether a row changed. -/
def releaseUserPaymentFreezeTx (previousStatus : Option UserStatus) : DbTx Bool := do
  let stillOpen ← hasOpenUserPaymentFreezeTx userId
  if stillOpen then pure false
  else do
    let user? ← Tx.read fun db => db.users.get? userId
    let user ← Tx.require user? .billingAccountNotFound
    if ¬ user.paymentFrozen then pure false
    else do
      Tx.write (Database.putUser (unfrozen previousStatus user))
      pure true

def enableUserIfNoPaymentFreeze : DbTx Unit := do
  Tx.failIf (userId ≤ 0) .billingAccountNotFound
  let user? ← Tx.read fun db => db.users.get? userId
  let user ← Tx.require user? .billingAccountNotFound
  let stillOpen ← hasOpenUserPaymentFreezeTx userId
  Tx.failIf stillOpen .userPaymentFreezeOpen
  Tx.write (Database.putUser { user with status := .enabled, paymentFrozen := false })

/-! ### What the freeze operations can do -/

def HasOpenLiability (db : Database) (userId : Int) : Prop :=
  (∃ d ∈ db.paymentDebts.rows, openDebt userId d) ∨
    ∃ r ∈ db.reservations.rows, openShortfall userId r
  deriving Decidable

theorem hasOpenUserPaymentFreezeTx_ok {userId : Int} {db db' : Database} {b : Bool}
    (h : hasOpenUserPaymentFreezeTx userId db = .ok (b, db')) :
    db' = db ∧ (b = true ↔ HasOpenLiability db userId) := by
  simp only [hasOpenUserPaymentFreezeTx, Tx.failIf_bind_ok_iff, Tx.read_bind_apply] at h
  obtain ⟨-, h⟩ := h
  split at h
  · next hDebt =>
      cases h
      refine ⟨rfl, iff_of_true rfl (.inl ?_)⟩
      simpa [Table.count, List.countP_pos_iff] using hDebt
  · next hDebt =>
      cases h
      have hNone : ¬ ∃ d ∈ db.paymentDebts.rows, openDebt userId d := by
        simpa [Table.count, List.countP_pos_iff] using hDebt
      refine ⟨rfl, ?_⟩
      simp [HasOpenLiability, hNone, Table.count, List.countP_pos_iff]

/-- A release does nothing while a liability is open or when nothing is frozen,
and otherwise unfreezes the one account. -/
inductive Released (db : Database) (userId : Int) (previousStatus : Option UserStatus) :
    Database → Prop
  | stillOpen (h : HasOpenLiability db userId) : Released db userId previousStatus db
  | notFrozen (user : User) (hNone : ¬ HasOpenLiability db userId)
      (hUser : db.users.get? userId = some user) (hFrozen : user.paymentFrozen = false) :
      Released db userId previousStatus db
  | lifted (user : User) (hNone : ¬ HasOpenLiability db userId)
      (hUser : db.users.get? userId = some user) (hFrozen : user.paymentFrozen = true) :
      Released db userId previousStatus (db.putUser (unfrozen previousStatus user))

theorem releaseUserPaymentFreezeTx_ok {userId : Int} {previousStatus : Option UserStatus}
    {db db' : Database} {b : Bool}
    (h : releaseUserPaymentFreezeTx userId previousStatus db = .ok (b, db')) :
    Released db userId previousStatus db' := by
  unfold releaseUserPaymentFreezeTx at h
  rw [Tx.bind_ok_iff] at h
  obtain ⟨stillOpen, db₁, hOpen, h⟩ := h
  obtain ⟨rfl, hIff⟩ := hasOpenUserPaymentFreezeTx_ok hOpen
  split at h
  · next hStill =>
      cases h
      exact .stillOpen (hIff.mp hStill)
  · next hStill =>
      have hNone : ¬ HasOpenLiability db₁ userId := fun hLiability => hStill (hIff.mpr hLiability)
      obtain ⟨user, hUser, h⟩ := Tx.require_bind_ok_iff.mp h
      split at h
      · next hFrozen =>
          cases h
          exact .notFrozen user hNone hUser (by simpa using hFrozen)
      · next hFrozen =>
          cases h
          exact .lifted user hNone hUser (by simpa using hFrozen)

/-- Only the status and the freeze marker of accounts change. -/
theorem Released.users_eq (h : Released db userId previousStatus db') :
    db' = { db with users := db'.users } ∧
      ∀ u, (db'.users.get? u).map User.quota = (db.users.get? u).map User.quota := by
  cases h with
  | stillOpen => exact ⟨rfl, fun _ => rfl⟩
  | notFrozen => exact ⟨rfl, fun _ => rfl⟩
  | lifted user _ hUser =>
    refine ⟨rfl, fun u => ?_⟩
    have hKey : user.id = userId := Table.key_of_get? hUser
    simp only [Database.putUser, Table.get?_put]
    split
    · next hu =>
        have hu' : u = userId := hu.trans hKey
        simp [hu', hUser, unfrozen]
    · rfl

theorem freezeUser_users_eq (db : Database) :
    freezeUser userId db = { db with users := (freezeUser userId db).users } ∧ ∀ u, ((freezeUser
      userId db).users.get? u).map User.quota = (db.users.get? u).map User.quota := by
  unfold freezeUser
  cases hUser : db.users.get? userId with
  | none => exact ⟨rfl, fun _ => rfl⟩
  | some user =>
    refine ⟨rfl, fun u => ?_⟩
    have hKey : user.id = userId := Table.key_of_get? hUser
    simp only [Database.putUser, Table.get?_put]
    split
    · next hu =>
        have hu' : u = userId := hu.trans hKey
        simp [hu', hUser]
    · rfl

theorem paymentFreezePreviousUserStatusTx_ok
    (h : paymentFreezePreviousUserStatusTx user db = .ok (s, db')) :
    db' = db ∧ s =
      if user.paymentFrozen ∧
        ((∃ d ∈ db.paymentDebts.rows, openDebt user.id d ∧ d.freezeApplied ∧
            d.previousUserStatus = some .enabled) ∨
          ∃ r ∈ db.reservations.rows, openShortfall user.id r ∧
            r.shortfallPreviousStatus = some .enabled)
      then .enabled else user.status := by
  simp only [paymentFreezePreviousUserStatusTx, Tx.failIf_bind_ok_iff] at h
  obtain ⟨-, h⟩ := h
  split at h
  · next hFrozen =>
      cases h
      simp [hFrozen]
  · next hFrozen =>
      simp only [Tx.read_bind_apply, Table.count, List.countP_pos_iff, gt_iff_lt] at h
      simp only [Bool.not_eq_true, Bool.not_eq_false] at hFrozen
      split at h
      · next hSome =>
          cases h
          refine ⟨rfl, (if_pos ⟨hFrozen, ?_⟩).symm⟩
          simpa using hSome
      · next hSome =>
          cases h
          refine ⟨rfl, (if_neg fun hAll => hSome ?_).symm⟩
          simpa using hAll.2

end XyApi.Billing

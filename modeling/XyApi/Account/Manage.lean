import XyApi.Billing.Freeze
import XyApi.Billing.Quota

/-!
Management of an account by an administrator. The request reads the account row,
changes it in memory and writes back a fixed list of columns, which does not
contain the payment freeze. Deleting an account is left out: it is refused for
every account that has a debt or a reservation.
-/

namespace XyApi.Account

open Lib Billing

def roleCommonUser : Int := 1

def roleAdminUser : Int := 10

def roleRootUser : Int := 100

structure ManageContext where
  role : Int
  paymentOperationsManage : Bool := false
  useAccessToken : Bool := false
  secureVerified : Bool := false
  deriving DecidableEq, Repr

inductive QuotaMode
  | add
  | subtract
  | override
  | other
  deriving DecidableEq, Repr

inductive ManageAction
  | disable
  | enable
  | promote
  | demote
  | addQuota (mode : QuotaMode) (value : Int)
  | other
  deriving DecidableEq, Repr

def canManageTargetRole (myRole targetRole : Int) : Bool :=
  myRole = roleRootUser ∨ myRole > targetRole

def firstUser : List User → Option User
  | [] => none
  | u :: rest => some ((firstUser rest).elim u fun first => if first.id < u.id then first else u)

/-- The row a request is about. A query by the id zero has no condition and finds
the first account; a row that is not found is left at its zero values. -/
def findManagedUser (userId : Int) (db : Database) : User :=
  let found := if userId = 0 then firstUser db.users.rows else db.users.get? userId
  found.getD { id := userId, role := 0 }

/-- Write back an account; `payment_frozen` is not among the columns. -/
def updateWithTx (user : User) : DbTx Unit := do
  let current? ← Tx.read fun db => db.users.get? user.id
  let current ← Tx.require current? .recordNotFound
  Tx.write (Database.putUser { current with
    role := user.role, status := user.status, group := user.group })

def adjustQuota (user : User) (value : Int) : QuotaMode → DbTx Unit
  | .add => do
      Tx.failIf (value ≤ 0) (.new "user.quota_change_zero")
      applyUserQuotaDeltaTx user.id value
  | .subtract => do
      Tx.failIf (value ≤ 0) (.new "user.quota_change_zero")
      applyUserQuotaDeltaTx user.id (-value)
  | .override => do
      Tx.failIf (value < 0 ∨ value > maxInt32) (.new "common.invalid_params")
      let current? ← Tx.read fun db => db.users.get? user.id
      match current? with
      | none => pure ()
      | some current => Tx.write (Database.putUser { current with quota := value })
  | .other => Tx.fail (.new "common.invalid_params")

def applyManageAction (ctx : ManageContext) (user : User) : ManageAction → DbTx Unit
  | .disable => do
      let user := { user with status := .disabled, paymentFrozen := false }
      Tx.failIf (user.role = roleRootUser) (.new "user.cannot_disable_root_user")
      updateWithTx user
  | .enable => enableUserIfNoPaymentFreeze user.id
  | .promote => do
      Tx.failIf (ctx.role ≠ roleRootUser) (.new "user.admin_cannot_promote")
      Tx.failIf (user.role ≥ roleAdminUser) (.new "user.already_admin")
      updateWithTx { user with role := roleAdminUser }
  | .demote => do
      Tx.failIf (user.role = roleRootUser) (.new "user.cannot_demote_root_user")
      Tx.failIf (user.role = roleCommonUser) (.new "user.already_common")
      updateWithTx { user with role := roleCommonUser }
  | .addQuota mode value => do
      Tx.failIf (¬ ctx.paymentOperationsManage) (.new "auth.insufficient_privilege")
      Tx.failIf ctx.useAccessToken
        (.new "Quota adjustment requires dashboard session authentication")
      Tx.failIf (¬ ctx.secureVerified) (.new "VERIFICATION_REQUIRED")
      adjustQuota user value mode
  | .other => updateWithTx user

def manageUser (ctx : ManageContext) (userId : Int) (action : ManageAction) : DbTx Unit := do
  let user ← Tx.read (findManagedUser userId)
  Tx.failIf (user.id = 0) (.new "user.not_exists")
  Tx.failIf (¬ canManageTargetRole ctx.role user.role) (.new "user.no_permission_higher_level")
  applyManageAction ctx user action

/-! ### What a request can do to the row -/

section Effects

variable {action : ManageAction} {db db' : Database}
  {a : Unit}

theorem firstUser_mem (h : firstUser rows = some u) : u ∈ rows := by
  induction rows generalizing u with
  | nil => cases h
  | cons v rest ih =>
    simp only [firstUser, Option.some.injEq] at h
    cases hRest : firstUser rest with
    | none => simp [← h, hRest]
    | some =>
      simp only [hRest, Option.elim_some] at h
      split at h
      · exact List.mem_cons_of_mem _ (h ▸ ih hRest)
      · simp [h]

/-- A row with the id of the managed account is the managed account. -/
theorem findManagedUser_get? (hId : (findManagedUser userId db).id ≠ 0)
    (h : db.users.get? (findManagedUser userId db).id = some current) :
    findManagedUser userId db = current := by
  by_cases hZero : userId = 0
  · cases hFirst : firstUser db.users.rows with
    | none => simp [findManagedUser, hZero, hFirst] at hId
    | some first =>
      have hFound : findManagedUser userId db = first := by
        simp [findManagedUser, hZero, hFirst]
      rw [hFound, Table.get?_of_mem (firstUser_mem hFirst), Option.some.injEq] at h
      exact hFound.trans h
  · cases hRow : db.users.get? userId with
    | none => simp [findManagedUser, hZero, hRow] at h
    | some row =>
      have hFound : findManagedUser userId db = row := by
        simp [findManagedUser, hZero, hRow]
      rw [hFound, Table.key_of_get? hRow, hRow, Option.some.injEq] at h
      exact hFound.trans h

inductive Standing (db : Database) (user : User) : ManageAction → UserStatus → Bool → Prop
  | disable : Standing db user .disable .disabled user.paymentFrozen
  | enable (hNone : ¬ HasOpenLiability db user.id) : Standing db user .enable .enabled false
  | kept {action : ManageAction} (hDisable : action ≠ .disable) (hEnable : action ≠ .enable) :
      Standing db user action user.status user.paymentFrozen

theorem updateWithTx_ok (h : updateWithTx user' db = .ok (a, db'))
    (hFound : ∀ current, db.users.get? user.id = some current → user = current)
    (hId : user'.id = user.id) :
    db.users.get? user.id = some user ∧ db' = db.putUser
      { user with role := user'.role, status := user'.status, group := user'.group } := by
  simp only [updateWithTx, hId, Tx.read_bind_apply, Tx.require_bind_ok_iff, Tx.write_ok_iff] at h
  obtain ⟨current, hCurrent, rfl⟩ := h
  obtain rfl := hFound current hCurrent
  exact ⟨hCurrent, rfl⟩

theorem adjustQuota_ok (hFound : ∀ current, db.users.get? user.id = some current → user = current)
    (h : adjustQuota user value mode db = .ok (a, db')) :
    db' = db ∨ ∃ quota, db.users.get? user.id = some user ∧
      db' = db.putUser { user with quota := quota } := by
  have hDelta {delta : Int} (h : applyUserQuotaDeltaTx user.id delta db = .ok (a, db')) :
      db' = db ∨ ∃ quota, db.users.get? user.id = some user ∧
        db' = db.putUser { user with quota := quota } := by
    obtain ⟨users, ⟨row, hRow, rfl⟩, rfl⟩ := applyUserQuotaDeltaTx_ok h
    obtain rfl := hFound row hRow
    exact .inr ⟨_, hRow, rfl⟩
  cases mode with
  | add => exact hDelta (Tx.failIf_bind_ok_iff.mp h).2
  | subtract => exact hDelta (Tx.failIf_bind_ok_iff.mp h).2
  | override =>
    simp only [adjustQuota, Tx.failIf_bind_ok_iff, Tx.read_bind_apply] at h
    obtain ⟨-, h⟩ := h
    cases hCurrent : db.users.get? user.id with
    | none =>
      simp only [hCurrent, Tx.pure_ok_iff] at h
      exact .inl h.2.symm
    | some current =>
      obtain rfl := hFound current hCurrent
      simp only [hCurrent, Tx.write_ok_iff] at h
      exact .inr ⟨value, rfl, h.symm⟩
  | other =>
    simp only [adjustQuota, Tx.fail_ok_iff] at h

/-- The action leaves the database alone or rewrites the row, with the standing that
goes with it. -/
theorem applyManageAction_ok
    (hFound : ∀ current, db.users.get? user.id = some current → user = current)
    (h : applyManageAction ctx user action db = .ok (a, db')) :
    (db' = db ∧ action ≠ .disable ∧ action ≠ .enable) ∨
      ∃ row, db' = db.putUser row ∧ row.id = user.id ∧ db.users.get? user.id = some user ∧
        Standing db user action row.status row.paymentFrozen := by
  cases action with
  | disable =>
    obtain ⟨hRow, rfl⟩ := updateWithTx_ok (Tx.failIf_bind_ok_iff.mp h).2 hFound rfl
    exact .inr ⟨_, rfl, rfl, hRow, .disable⟩
  | enable =>
    simp only [applyManageAction, enableUserIfNoPaymentFreeze, Tx.failIf_bind_ok_iff,
      Tx.read_bind_apply, Tx.require_bind_ok_iff] at h
    obtain ⟨-, current, hCurrent, h⟩ := h
    obtain rfl := hFound current hCurrent
    rw [Tx.bind_ok_iff] at h
    obtain ⟨stillOpen, db₁, hOpen, h⟩ := h
    obtain ⟨rfl, hIff⟩ := hasOpenUserPaymentFreezeTx_ok hOpen
    simp only [Tx.failIf_bind_ok_iff, Tx.write_ok_iff] at h
    obtain ⟨hClosed, rfl⟩ := h
    exact .inr ⟨_, rfl, rfl, hCurrent, .enable fun hLiability => hClosed (hIff.mpr hLiability)⟩
  | promote =>
    simp only [applyManageAction, Tx.failIf_bind_ok_iff] at h
    obtain ⟨hRow, rfl⟩ := updateWithTx_ok h.2.2 hFound rfl
    exact .inr ⟨_, rfl, rfl, hRow, .kept (by simp) (by simp)⟩
  | demote =>
    simp only [applyManageAction, Tx.failIf_bind_ok_iff] at h
    obtain ⟨hRow, rfl⟩ := updateWithTx_ok h.2.2 hFound rfl
    exact .inr ⟨_, rfl, rfl, hRow, .kept (by simp) (by simp)⟩
  | addQuota =>
    simp only [applyManageAction, Tx.failIf_bind_ok_iff] at h
    rcases adjustQuota_ok hFound h.2.2.2 with rfl | ⟨quota, hRow, rfl⟩
    · exact .inl ⟨rfl, by simp, by simp⟩
    · exact .inr ⟨_, rfl, rfl, hRow, .kept (by simp) (by simp)⟩
  | other =>
    obtain ⟨hRow, rfl⟩ := updateWithTx_ok h hFound rfl
    exact .inr ⟨_, rfl, rfl, hRow, .kept (by simp) (by simp)⟩

theorem manageUser_ok (h : manageUser ctx userId action db = .ok (a, db')) :
    (db' = db ∧ action ≠ .disable ∧ action ≠ .enable) ∨
      ∃ user row, user = findManagedUser userId db ∧ db' = db.putUser row ∧
        row.id = user.id ∧ db.users.get? user.id = some user ∧
        Standing db user action row.status row.paymentFrozen := by
  simp only [manageUser, Tx.read_bind_apply, Tx.failIf_bind_ok_iff] at h
  obtain ⟨hId, -, h⟩ := h
  rcases applyManageAction_ok (fun _ hRow => findManagedUser_get? hId hRow) h with
    hSame | ⟨row, hRow⟩
  · exact .inl hSame
  · exact .inr ⟨_, row, rfl, hRow⟩

end Effects

end XyApi.Account

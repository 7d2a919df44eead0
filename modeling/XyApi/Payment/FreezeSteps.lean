import XyApi.Payment.Calls
import XyApi.Payment.FreezeFrame

/-!
Payment calls and billing transactions move the freeze of an account by steps of
its machine. Billing touches it through one reservation row at a time: a shortfall
presses the key of its reservation, closing the reservation releases it, and every
other change leaves the row as open as it was.
-/

namespace XyApi.Payment

open Lib Lib.Calendar Billing Subscription

/-! ### Resolution of a debt -/

def trimmedResolution (input : PaymentDebtResolutionInput) : PaymentDebtResolutionInput :=
  { input with note := trimSpace input.note, actorIP := trimSpace input.actorIP }

def debtEventKey (debtId : Int) : String := "debt_resolved:" ++ toString debtId

theorem findDebtById_get? (h : findDebtById debtId db = some debt) :
    debt.id = debtId ∧ db.paymentDebts.get? debt.subject = some debt :=
  ⟨by simpa using List.find?_some h, Table.get?_of_mem (List.mem_of_find?_eq_some h)⟩

theorem resolvePaymentDebtByAdmin_ok
    (h : resolvePaymentDebtByAdmin env input db = .ok ((d, duplicate), db')) :
    validateDebtResolution (trimmedResolution input) db = .ok ((), db) ∧
      ∃ debt order, findDebtById input.debtId db = some debt ∧
        db.payments.orders.get? debt.paymentOrderId = some order ∧
        let payload := paymentDebtResolutionPayload env (trimmedResolution input) order debt
        processedAdminActionRetryTx (debtEventKey input.debtId) (env.digest payload) db =
          .ok (duplicate, db) ∧
        ((debt.status = .resolved ∧ duplicate = true ∧ d = debt ∧ db' = db ∧
            validateCompletedPaymentDebtResolutionTx env (trimmedResolution input) order debt
              (debtEventKey input.debtId) payload db = .ok ((), db)) ∨
          (debt.status = .outstanding ∧ duplicate = false ∧
            closeDebtByAdminTx env (trimmedResolution input) order debt
              (debtEventKey input.debtId) payload db = .ok (d, db'))) := by
  simp only [resolvePaymentDebtByAdmin, validateDebtResolution, Tx.failIf_bind_ok_iff,
    Tx.read_bind_apply, Tx.require_bind_ok_iff] at h
  obtain ⟨hValid, debt, hDebt, order, hOrder, h⟩ := h
  refine ⟨Tx.failIf_ok_iff.mpr ⟨hValid, rfl⟩, debt, order, hDebt, hOrder, ?_⟩
  rw [Tx.bind_ok_iff] at h
  obtain ⟨retried, db₁, hRetry, h⟩ := h
  obtain rfl : db₁ = db := (processedAdminActionRetryTx_readOnly ..).of_ok hRetry
  cases hStatus : debt.status with
  | resolved =>
    simp only [hStatus, Tx.failIf_bind_ok_iff] at h
    obtain ⟨hRetried, h⟩ := h
    rw [Tx.bind_ok_iff] at h
    obtain ⟨_, db₂, hCompleted, h⟩ := h
    obtain rfl : db₂ = db₁ :=
      (validateCompletedPaymentDebtResolutionTx_readOnly ..).of_ok hCompleted
    obtain ⟨hResult, rfl⟩ := Tx.pure_ok h
    cases hResult
    obtain rfl : retried = true := by simpa using hRetried
    exact ⟨hRetry, .inl ⟨rfl, rfl, rfl, rfl, hCompleted⟩⟩
  | outstanding =>
    simp only [hStatus, Tx.failIf_bind_ok_iff] at h
    obtain ⟨hRetried, h⟩ := h
    obtain ⟨closed, db₂, hClose, h⟩ := Tx.bind_ok h
    obtain ⟨hResult, rfl⟩ := Tx.pure_ok h
    cases hResult
    obtain rfl : retried = false := by simpa using hRetried
    exact ⟨hRetry, .inr ⟨rfl, rfl, hClose⟩⟩

/-! ### Debts -/

section Debts

variable {db db' : Database}

theorem freezing_of_settledDebt (h : saveDebtTx (settledDebt env d) db = .ok (a, db'))
    (hGet : db.paymentDebts.get? d₀.subject = some d₀) (hSubject : d.subject = d₀.subject)
    (hApplied : d.freezeApplied = d₀.freezeApplied)
    (hPrevious : d.previousUserStatus = d₀.previousUserStatus) (hStatus : d.status = d₀.status) :
    (freezing u).rel db db' := by
  obtain ⟨hKey, hApplied', hPrevious', -⟩ := settledDebt_columns env d
  have hRow : db.paymentDebts.get? (settledDebt env d).subject = some d₀ := by
    rw [hKey, hSubject]
    exact hGet
  refine freezing_of_saved hRow (hApplied'.trans hApplied) (hPrevious'.trans hPrevious)
    (fun hOpen => ?_) (steady.refl _) (saveDebtTx_ok h)
  rw [settledDebt_status] at hOpen
  split at hOpen
  · cases hOpen
  · exact hStatus ▸ hOpen

theorem steady_of_bookkeeping {α : Type} {x : DbTx α} (h : x.Within bookkeeping) :
    x.Within steady :=
  (only_of_bookkeeping h (List.mem_singleton_self _)).mono fun _ _ =>
    steady_of_only (by decide) (by decide) (by decide)

theorem clearDebtStatusTx_only :
    (clearDebtStatusTx env order).Within (only freeParts) :=
  .bind .read fun _ => .when fun _ =>
    .bind (only_of_subset (updateOrder_only ..) (by decide)) fun _ =>
      only_of_subset (syncPaymentProjectionStatusTx_only ..) (by decide)

/-- Closing an open debt by hand saves its row and then releases its account. -/
theorem closeDebtByAdminTx_ok {input : PaymentDebtResolutionInput} {order : PaymentOrder}
    {debt d : PaymentDebt} {key payload : String}
    (h : closeDebtByAdminTx env input order debt key payload db = .ok (d, db')) :
    d = adminResolvedDebt env input debt ∧
      debt.outstandingQuota = input.expectedOutstandingQuota ∧
      debt.outstandingAmountMinor = input.expectedOutstandingAmount ∧
      ∃ db₁ db₂ db₃, steady.rel db db₁ ∧ steady.rel (db₁.putDebt d) db₂ ∧
        DebtReleased d db₂ db₃ ∧ steady.rel db₃ db' := by
  simp only [closeDebtByAdminTx, Tx.failIf_bind_ok_iff] at h
  obtain ⟨hExpected, h⟩ := h
  obtain ⟨event, db₁, hEvent, h⟩ := Tx.bind_ok h
  have hFiled := (steady_of_bookkeeping (createAdminPaymentEventTx_bookkeeping ..)).of_ok hEvent
  simp only [Tx.write_bind_apply] at h
  obtain ⟨_, db₂, hLedger, h⟩ := Tx.bind_ok h
  have hNoted := steady_of_only (by decide) (by decide) (by decide)
    ((createPaymentLedgerEntryTx_only ..).of_ok hLedger)
  obtain ⟨_, db₃, hRelease, h⟩ := Tx.bind_ok h
  obtain ⟨_, db₄, hClear, h⟩ := Tx.bind_ok h
  obtain ⟨_, db₅, hAudit, h⟩ := Tx.bind_ok h
  obtain ⟨_, db₆, hFinish, h⟩ := Tx.bind_ok h
  obtain ⟨rfl, rfl⟩ := Tx.pure_ok h
  have hRest : (only freeParts).rel db₃ db₆ :=
    (only freeParts).trans ((clearDebtStatusTx_only).of_ok hClear)
      ((only freeParts).trans
        ((only_of_bookkeeping (createPaymentOperationsAuditTx_bookkeeping ..)
          (by decide)).of_ok hAudit)
        ((only_of_bookkeeping (finishPaymentEventTx_bookkeeping ..) (by decide)).of_ok hFinish))
  exact ⟨rfl, by omega, by omega, db₁, db₂, db₃, hFiled, hNoted, releasePaymentFreezeTx_ok hRelease,
    steady_of_only (by decide) (by decide) (by decide) hRest⟩

theorem closeDebtByAdminTx_freezing (hGet : db.paymentDebts.get? debt.subject = some debt)
    (h : closeDebtByAdminTx env input order debt key payload db = .ok (d, db')) :
    (freezing u).rel db db' := by
  obtain ⟨rfl, -, -, db₁, db₂, db₃, hFiled, hNoted, hReleased, hRest⟩ := closeDebtByAdminTx_ok h
  have hRow : db₁.paymentDebts.get? debt.subject = some debt := by
    have hSame := hFiled
    simp only [steady, Frame.keeps, Prod.mk.injEq] at hSame
    rw [hSame.2.1]
    exact hGet
  have hClosed : (freezing u).rel db₁ db₃ :=
    freezing_of_saved (d := adminResolvedDebt env input debt) hRow rfl rfl
      (fun hOpen => by cases hOpen) hNoted (.inr ⟨rfl, hReleased⟩)
  exact (freezing u).trans (freezing_of_steady hFiled)
    ((freezing u).trans hClosed (freezing_of_steady hRest))

theorem resolvePaymentDebtByAdmin_freezing (env : PaymentEnv)
    (input : PaymentDebtResolutionInput) :
    (resolvePaymentDebtByAdmin env input).Within (freezing u) where
  of_ok {db _ db'} h := by
    obtain ⟨-, debt, order, hDebt, -, -, ⟨-, -, -, rfl, -⟩ | ⟨-, -, hClose⟩⟩ :=
      resolvePaymentDebtByAdmin_ok h
    · exact (freezing u).refl _
    · exact closeDebtByAdminTx_freezing (findDebtById_get? hDebt).2 hClose

theorem freezing_carries (u : Int) : CarriesCalls (freezing u) where
  free h := freezing_of_steady (steady_of_only (by decide) (by decide) (by decide) h)
  add _ _ _ _ _ _ := ⟨fun h => (addPaymentDebtTx_ok h).2.2.freezing u⟩
  resolve _ _ _ _ _ := ⟨fun h => by
    rcases resolvePaymentDebtQuotaTx_ok h with ⟨-, -, rfl⟩ | ⟨debt, hDebt, -, hSave⟩
    · exact (freezing u).refl _
    · have hRow := hDebt
      rw [← (userId_of_get? hDebt).2] at hRow
      exact freezing_of_settledDebt hSave hRow rfl rfl rfl rfl⟩
  restore _ _ _ _ := ⟨fun h => by
    rcases restorePaymentDebtAmountTx_ok h with ⟨-, rfl⟩ | ⟨debt, hDebt, hSave⟩
    · exact (freezing u).refl _
    · have hRow := hDebt
      rw [← (userId_of_get? hDebt).2] at hRow
      exact freezing_of_settledDebt hSave hRow rfl rfl rfl rfl⟩
  close := resolvePaymentDebtByAdmin_freezing

theorem DebtReleased.reservations_eq (h : DebtReleased d db db') :
    db'.reservations = db.reservations := by
  unfold DebtReleased at h
  split at h
  · cases h <;> rfl
  · rw [h]

theorem reservations_carries : CarriesCalls (.keeps Database.reservations) where
  free h := h .reservations (by decide)
  add _ _ _ _ _ _ := (addPaymentDebtTx_only ..).mono fun _ _ h => h .reservations (by decide)
  resolve _ _ _ _ _ :=
    (resolvePaymentDebtQuotaTx_only ..).mono fun _ _ h => h .reservations (by decide)
  restore _ _ _ _ := ⟨fun h => by
    rcases restorePaymentDebtAmountTx_ok h with ⟨-, rfl⟩ | ⟨debt, -, hSave⟩
    · rfl
    · exact (saveDebtTx_only ..).of_ok hSave .reservations (by decide)⟩
  close _ _ := ⟨fun h => by
    obtain ⟨-, debt, order, -, -, -, ⟨-, -, -, rfl, -⟩ | ⟨-, -, hClose⟩⟩ :=
      resolvePaymentDebtByAdmin_ok h
    · rfl
    · obtain ⟨-, -, -, db₁, db₂, db₃, hFiled, hNoted, hReleased, hRest⟩ :=
        closeDebtByAdminTx_ok hClose
      simp only [steady, Frame.keeps, Prod.mk.injEq] at hFiled hNoted hRest ⊢
      rw [hRest.2.2, hReleased.reservations_eq, hNoted.2.2]
      exact hFiled.2.2⟩

theorem payments_keep_reservations (calls : List (PaymentEnv × PaymentCall)) (db : Database) :
    (runCalls calls db).reservations = db.reservations := by
  induction calls generalizing db with
  | nil => rfl
  | cons c rest ih => exact (ih _).trans (c.2.step_carried reservations_carries c.1 db)

end Debts

/-! ### Reservations -/

section Reservations

variable {r r' : BillingReservation}
  {db db₁ db' : Database}

theorem WalletMoved.standing (h : WalletMoved users users' userId delta) :
    users'.rows.map userStanding = users.rows.map userStanding := by
  obtain ⟨user, hUser, rfl⟩ := h
  have hRow : users.get? user.id = some user := by
    rw [Table.key_of_get? hUser]
    exact hUser
  exact Table.map_rows_put hRow rfl

theorem FundingMoved.steady (h : FundingMoved db r delta f db₁) : steady.rel db db₁ := by
  cases h with
  | wallet _ hMoved => simp [Payment.steady, Frame.keeps, WalletMoved.standing hMoved]
  | subscription => rfl

theorem OpenedFunding.steady (h : OpenedFunding loc db r f db₁) :
    steady.rel db db₁ := by
  cases h with
  | wallet _ hMoved => simp [Payment.steady, Frame.keeps, WalletMoved.standing hMoved]
  | subscription => rfl

structure RowWritten (db : Database) (r' : BillingReservation) (db₁ : Database) : Prop where
  standing : db₁.users.rows.map userStanding = db.users.rows.map userStanding
  debts : db₁.paymentDebts = db.paymentDebts
  rows : ∀ id, db₁.reservations.get? id =
    if id = r'.requestId then some r' else db.reservations.get? id

theorem liability_written (h : RowWritten db r' db₁) :
    liability u db₁ = Function.update (liability u db) (.inr r'.requestId)
      (if openShortfall u r' then some (shortfallLiability r') else none) := by
  funext k
  cases k with
  | inl => simp [liability, h.debts]
  | inr =>
    simp only [liability, h.rows, Function.update_apply, Sum.inr.injEq]
    split
    · cases hOpen : openShortfall u r' <;> simp [Option.filter, hOpen]
    · rfl

theorem liability_row (hRow : db.reservations.get? rid = some r) :
    liability u db (.inr rid) =
      if openShortfall u r then some (shortfallLiability r) else none := by
  cases hOpen : openShortfall u r <;> simp [liability, hRow, Option.filter, hOpen]

/-- A row that is as open as before moves no machine. -/
theorem freezeState_written (h : RowWritten db r' db₁)
    (hSame : liability u db (.inr r'.requestId) =
      if openShortfall u r' then some (shortfallLiability r') else none) :
    freezeState u db₁ = freezeState u db := by
  refine freezeState_congr (standing_get?_of_rows h.standing) ?_
  rw [liability_written h, ← hSame, Function.update_eq_self]

/-- A row that is no longer reserved releases the account it had frozen. -/
theorem freezing_of_closedRow (hWritten : RowWritten db r' db₁)
    (hRow : db.reservations.get? r'.requestId = some r) (hClosed : r'.status ≠ .reserved)
    (h : ReleasedBy r db₁ db') : (freezing u).rel db db' := by
  have hNot : openShortfall u r' = false := by simp [openShortfall, hClosed]
  have hOld := liability_row (u := u) hRow
  unfold ReleasedBy at h
  split at h
  · next hApplied =>
      refine freezing_of_released (k := .inr r'.requestId) (fun hne => ?_) (fun s _ hs => ?_)
        (fun _ l hl => ?_) h
      · refine freezeState_written hWritten ?_
        rw [hOld, hNot]
        simp [openShortfall, Ne.symm hne]
      · rw [freezeState_of_standing hs (standing_get?_of_rows hWritten.standing),
          liability_written hWritten, hNot]
        simp [FreezeState.closed, liabilities_of_freezeState hs]
      · rw [hOld] at hl
        split at hl
        · cases hl; rfl
        · cases hl
  · next hApplied =>
      subst h
      refine freezing_of_eq (freezeState_written hWritten ?_)
      rw [hOld, hNot]
      simp [openShortfall, hApplied]

theorem Booked.written (h : Booked db r r' delta db₁) (hRow : db.reservations.get? rid = some r)
    (hId : r'.requestId = r.requestId) :
    RowWritten db r' db₁ := by
  obtain ⟨f, t, phase, revision, hFunding, hTokens, hLedger⟩ := h
  have hSteady := FundingMoved.steady hFunding
  simp only [Payment.steady, Frame.keeps, Prod.mk.injEq] at hSteady
  have hKey : r'.requestId = rid := hId.trans (Table.key_of_get? hRow)
  exact ⟨hSteady.1, hSteady.2.1, fun id => hKey ▸ get?_put_row_eq hRow hId id⟩

theorem RowWritten.of_put (r' : BillingReservation) (ledger : Table QuotaLedgerEntry.key)
    (hRow : db.reservations.get? rid = some r) (hId : r'.requestId = r.requestId) :
    RowWritten db r'
      { db with reservations := db.reservations.put r', quotaLedger := ledger } := by
  have hKey : r'.requestId = rid := hId.trans (Table.key_of_get? hRow)
  exact ⟨rfl, rfl, fun id => hKey ▸ get?_put_row_eq hRow hId id⟩

/-- A change of the row that keeps its owner, status and shortfall. -/
theorem freezing_of_keptRow (hWritten : RowWritten db r' db₁)
    (hRow : db.reservations.get? r'.requestId = some r) (hUser : r'.userId = r.userId)
    (hStatus : r'.status = r.status)
    (hApplied : r'.shortfallFreezeApplied = r.shortfallFreezeApplied)
    (hPrevious : r'.shortfallPreviousStatus = r.shortfallPreviousStatus) :
    (freezing u).rel db db₁ := by
  refine freezing_of_eq (freezeState_written hWritten ?_)
  rw [liability_row hRow]
  simp [openShortfall, shortfallLiability, hUser, hStatus, hApplied, hPrevious]

/-- A shortfall goes on record: the key of the reservation is pressed. -/
theorem freezing_of_shortfall {targetQuota now : Int} {failure : SettlementFailure} {user : User}
    {previousStatus : UserStatus} (hRow : db.reservations.get? r'.requestId = some r)
    (hStatus : r.status = .reserved) (hUser : db.users.get? r.userId = some user)
    (hPrevious : paymentFreezePreviousUserStatusTx user db = .ok (previousStatus, db))
    (hMarked : (r' = r ∧ sameShortfall r targetQuota failure) ∨
      r' = shortfallReservation r targetQuota failure previousStatus now)
    (hUsers : db₁.users = db.users) (hWritten : RowWritten db r' db₁) :
    (freezing u).rel db (freezeUser r.userId db₁) := by
  have hOpen : openShortfall u r' = decide (r.userId = u) := by
    rcases hMarked with ⟨rfl, hSame⟩ | rfl
    · simp [openShortfall, hStatus, hSame.1]
    · simp [openShortfall, shortfallReservation, hStatus]
  refine freezing_of_pressed (k := .inr r'.requestId) (l := shortfallLiability r') hUsers ?_ ?_
    fun s hu hs => ?_
  · rw [liability_written hWritten, hOpen]
    simp
  · intro hne
    rw [liability_row hRow]
    simp [openShortfall, hne]
  · subst hu
    rcases hMarked with ⟨rfl, hSame⟩ | rfl
    · -- The shortfall on record stays as it is, and so does what it remembers.
      have hl : s.liabilities (.inr r'.requestId) = some (shortfallLiability r') := by
        rw [liabilities_of_freezeState hs, liability_row hRow, hOpen]
        simp
      exact FreezeState.Step.grown (Sum.inr r'.requestId) _ hl
    · have hLiability : shortfallLiability (shortfallReservation r targetQuota failure
          previousStatus now) = ⟨true, some s.previous⟩ := by
        rw [← (previous_eq_of_ok hUser hs hPrevious).2]
        rfl
      rw [hLiability]
      exact .opened _

theorem PlainRow.columns (h : PlainRow r r') :
    r'.requestId = r.requestId ∧ r'.userId = r.userId ∧ r'.status = r.status ∧
      r'.shortfallFreezeApplied = r.shortfallFreezeApplied ∧
      r'.shortfallPreviousStatus = r.shortfallPreviousStatus := by
  cases h <;> exact ⟨rfl, rfl, rfl, rfl, rfl⟩

theorem Transition.freezing (h : Transition loc rid db db') (u : Int) :
    (freezing u).rel db db' := by
  cases h with
  | opened r f t hId hFresh hInsert hFunding =>
    have hSteady := OpenedFunding.steady hFunding
    simp only [Payment.steady, Frame.keeps, Prod.mk.injEq] at hSteady
    refine freezing_of_eq (freezeState_written (show RowWritten db r _ from
      ⟨hSteady.1, hSteady.2.1, Table.get?_insert? hInsert⟩) ?_)
    have hNone := (Table.rows_insert? hInsert).2
    simp [liability, hNone, openShortfall, hFresh.columns.2.2.2.1]
  | adjusted r targetQuota now hRow hStatus hTarget hBooked =>
    have hKey : r.requestId = rid := Table.key_of_get? hRow
    subst hKey
    exact freezing_of_keptRow (Booked.written hBooked hRow rfl) hRow rfl rfl rfl rfl
  | refunded r now hRow hStatus hBooked hReleased =>
    have hKey : r.requestId = rid := Table.key_of_get? hRow
    subst hKey
    exact freezing_of_closedRow (Booked.written hBooked hRow rfl) hRow
      (by simp [refundedReservation, closedReservation]) hReleased
  | settled r now hRow hStatus hLedger hReleased =>
    have hKey : r.requestId = rid := Table.key_of_get? hRow
    subst hKey
    exact freezing_of_closedRow
      (.of_put (settledReservation r r.reservedQuota now) _ hRow rfl) hRow
      (by simp [settledReservation, closedReservation]) hReleased
  | noted r r' hRow hStep =>
    obtain ⟨hId, hUser, hStatus, hApplied, hPrevious⟩ := PlainRow.columns hStep
    have hKey : r'.requestId = rid := hId.trans (Table.key_of_get? hRow)
    subst hKey
    exact freezing_of_keptRow (.of_put r' _ hRow hId) hRow hUser hStatus hApplied hPrevious
  | shortfall r r' targetQuota failure user previousStatus now hRow hStatus hMore hUser hPrevious
      hMarked hLedger =>
      have hId : r'.requestId = r.requestId := by
        rcases hMarked with ⟨rfl, -⟩ | rfl <;> rfl
      have hKey : r'.requestId = rid := hId.trans (Table.key_of_get? hRow)
      subst hKey
      exact freezing_of_shortfall hRow hStatus hUser hPrevious hMarked rfl (.of_put r' _ hRow hId)
  | jobs => exact freezing_of_steady rfl
  | resolutions => exact freezing_of_steady rfl

theorem BillingTx.step_freezing (loc : Location) (t : BillingTx) (db : Database) (u : Int) :
    (freezing u).rel db (t.step loc db) := by
  obtain ⟨rid, hOn⟩ := t.exists_on
  refine Tx.commit_preserves (P := (Payment.freezing u).rel db) ((Payment.freezing u).refl db)
    fun _ _ hRun => ?_
  exact (t.body_transitions loc hRun hOn).preserve
    (fun _ _ hStep hSoFar => (Payment.freezing u).trans hSoFar (Transition.freezing hStep u))
    ((Payment.freezing u).refl db)

end Reservations

end XyApi.Payment

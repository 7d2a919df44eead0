import XyApi.Billing.Conservation

/-!
A closed reservation stays closed. No call changes how it ended, and calls on it
move no balance; repeating the call that closed it succeeds without effect, and
closing it any other way fails without effect.
-/

namespace XyApi.Billing

open Lib Lib.Calendar Subscription

/-! ### What the stored rows look like -/

/-- What every path that writes a reservation sees to: its id is trimmed and not
empty, and its quotas are in range. -/
structure StoredRow (r : BillingReservation) : Prop where
  nonempty : r.requestId ≠ ""
  trimmed : trimSpace r.requestId = r.requestId
  reserved : ¬ quotaOutOfRange r.reservedQuota
  settled : ¬ quotaOutOfRange r.settledQuota

def RowsStored (db : Database) : Prop :=
  ∀ rid r, db.reservations.get? rid = some r → StoredRow r

theorem FreshRow.stored (h : FreshRow r) : StoredRow r := by
  obtain ⟨-, hRange, hSettled, -⟩ := h.columns
  obtain ⟨input, sub?, mode, now, -, hNonempty, hTrimmed, rfl⟩ := h
  exact ⟨hNonempty, hTrimmed, hRange, by rw [hSettled]; decide⟩

theorem RowStep.stored (h : RowStep r r') (hr : StoredRow r) :
    StoredRow r' := by
  obtain ⟨hNonempty, hTrimmed, hReserved, hSettled⟩ := hr
  cases h with
  | adjusted _ _ _ hTarget => exact ⟨hNonempty, hTrimmed, hTarget, hSettled⟩
  | settled => exact ⟨hNonempty, hTrimmed, hReserved, hReserved⟩
  | noted hStep => cases hStep <;> exact ⟨hNonempty, hTrimmed, hReserved, hSettled⟩
  | _ => exact ⟨hNonempty, hTrimmed, hReserved, hSettled⟩

/-- Every billing transaction keeps the stored rows that way. -/
theorem Transition.rowsStored (h : Transition loc rid db db') (hDb : RowsStored db) :
    RowsStored db' := by
  intro id r' hRow
  rcases h.row_cases hRow with hOld | ⟨-, ⟨hFresh, -⟩ | ⟨r, hOld, hStep⟩⟩
  · exact hDb id r' hOld
  · exact hFresh.stored
  · exact hStep.stored (hDb rid r hOld)

/-! ### Absorption -/

def ClosedAs (rid : String) (r : BillingReservation) (db : Database) : Prop :=
  ∃ r', db.reservations.get? rid = some r' ∧ r'.status = r.status ∧
    r'.settledQuota = r.settledQuota

def SameBalances (db db' : Database) : Prop :=
  (∀ u, (db'.users.get? u).map User.quota = (db.users.get? u).map User.quota) ∧
    db'.tokens = db.tokens ∧ db'.subscriptions = db.subscriptions

section Absorption

variable {loc : Location} {db db' : Database} {rid : String} {r : BillingReservation}

theorem SameBalances.refl (db : Database) : SameBalances db db := ⟨fun _ => rfl, rfl, rfl⟩

theorem SameBalances.trans (h₁ : SameBalances db db₁) (h₂ : SameBalances db₁ db') :
    SameBalances db db' :=
  ⟨fun u => (h₂.1 u).trans (h₁.1 u), h₂.2.1.trans h₁.2.1, h₂.2.2.trans h₁.2.2⟩

theorem finalized_ne_reserved (h : r.Finalized) : r.status ≠ .reserved := by
  rcases h with h | h <;> simp [h]

theorem RowStep.closed (h : RowStep r r') (hFinal : r.Finalized) :
    r'.status = r.status ∧ r'.settledQuota = r.settledQuota := by
  have hOpen := finalized_ne_reserved hFinal
  cases h with
  | noted hStep => cases hStep <;> exact ⟨rfl, rfl⟩
  | kept => exact ⟨rfl, rfl⟩
  | _ => contradiction

/-- A row that is still open is not the closed one. -/
theorem ClosedAs.ne_of_reserved (h : ClosedAs rid r db) (hFinal : r.Finalized)
    (hRow : db.reservations.get? rid' = some row) (hStatus : row.status = .reserved) :
    rid ≠ rid' := by
  rintro rfl
  obtain ⟨r', hGet, hSame, -⟩ := h
  cases hGet.symm.trans hRow
  exact finalized_ne_reserved hFinal (hSame.symm.trans hStatus)

/-- No transition on any request reopens or changes a closed reservation. -/
theorem Transition.closedAs (h : Transition loc rid' db db') (hFinal : r.Finalized)
    (hClosed : ClosedAs rid r db) : ClosedAs rid r db' := by
  obtain ⟨row, hRow, hStatus, hSettled⟩ := hClosed
  have hRowFinal : row.Finalized := by
    unfold BillingReservation.Finalized at hFinal ⊢
    rwa [hStatus]
  rcases h.reservations_cases with hSame | ⟨fresh, -, -, hInsert⟩ | ⟨old, new, hOld, hStep, hPut⟩
  · exact ⟨row, hSame ▸ hRow, hStatus, hSettled⟩
  · have hNone : db.reservations.get? fresh.requestId = none := (Table.rows_insert? hInsert).2
    refine ⟨row, ?_, hStatus, hSettled⟩
    rw [Table.get?_insert? hInsert, if_neg]
    · exact hRow
    · rintro rfl
      simp [hRow] at hNone
  · unfold ClosedAs
    rw [hPut, get?_put_row_eq hOld hStep.requestId_eq]
    split
    · next hid =>
        subst hid
        cases hOld.symm.trans hRow
        obtain ⟨hStatus', hSettled'⟩ := hStep.closed hRowFinal
        exact ⟨new, rfl, hStatus'.trans hStatus, hSettled'.trans hSettled⟩
    · exact ⟨row, hRow, hStatus, hSettled⟩

/-- A transition on a closed reservation moves no balance. -/
theorem Transition.sameBalances (h : Transition loc rid db db') (hFinal : r.Finalized)
    (hClosed : ClosedAs rid r db) : SameBalances db db' := by
  cases h with
  | opened row f t hId hFresh hRow =>
    obtain ⟨r', hGet, -⟩ := hClosed
    have hNone : db.reservations.get? row.requestId = none := (Table.rows_insert? hRow).2
    simp [hId, hGet] at hNone
  | adjusted row _ _ hRow hStatus => exact absurd rfl (hClosed.ne_of_reserved hFinal hRow hStatus)
  | refunded row _ hRow hStatus => exact absurd rfl (hClosed.ne_of_reserved hFinal hRow hStatus)
  | settled row _ hRow hStatus => exact absurd rfl (hClosed.ne_of_reserved hFinal hRow hStatus)
  | noted => exact ⟨fun _ => rfl, rfl, rfl⟩
  | shortfall row _ _ _ _ _ _ hRow hStatus =>
    exact absurd rfl (hClosed.ne_of_reserved hFinal hRow hStatus)
  | jobs => exact ⟨fun _ => rfl, rfl, rfl⟩
  | resolutions => exact ⟨fun _ => rfl, rfl, rfl⟩

end Absorption

/-! ### Calls -/

/-- A call of the billing interface. Two of them are several transactions. -/
inductive BillingCall
  | transaction (t : BillingTx)
  | settleTask (taskId : Int) (requestId : String) (actualQuota now : Int)
  | settleMidjourney (taskId : Int) (requestId : String) (actualQuota now : Int)
  | reconcile (listed : BillingReservation) (now : Int)
  | reconcilePass (cutoffUnix limit now : Int)

namespace BillingCall

def step (loc : Location) (db : Database) : BillingCall → Database
  | transaction t => t.step loc db
  | settleTask taskId requestId actualQuota now =>
    (settleTaskBillingReservation taskId requestId actualQuota now db).1
  | settleMidjourney taskId requestId actualQuota now =>
    (settleMidjourneyBillingReservation taskId requestId actualQuota now db).1
  | reconcile listed now => (reconcileReservation now (db, {}) listed).1
  | reconcilePass cutoffUnix limit now =>
    (reconcileStaleBillingReservations cutoffUnix limit now db).1

/-- The call is on the request `rid` alone. A pass treats whatever it lists. -/
def On (rid : String) : BillingCall → Prop
  | transaction t => t.On rid
  | settleTask _ requestId _ _ | settleMidjourney _ requestId _ _ => trimSpace requestId = rid
  | reconcile listed _ => listed.requestId = rid
  | reconcilePass _ _ _ => False

/-- What all transitions preserve, every call preserves. -/
theorem step_invariant (loc : Location) {P : Database → Prop}
    (hP : ∀ rid db db', Transition loc rid db db' → P db → P db') (db : Database)
    (c : BillingCall) (h : P db) : P (c.step loc db) := by
  cases c with
  | transaction t => exact t.step_invariant loc hP db h
  | settleTask =>
    exact (settleJob_transitions loc taskKind _ _ _ _ _ db).preserve (hP _) h
  | settleMidjourney =>
    exact (settleJob_transitions loc midjourneyKind _ _ _ _ _ db).preserve (hP _) h
  | reconcile listed now =>
    exact reconcileReservation_preserves loc (fun rid _ => hP rid) now (db, {}) h
  | reconcilePass cutoffUnix limit now =>
    exact reconcileStaleBillingReservations_preserves loc hP cutoffUnix limit now db h

/-- What transitions on one request preserve, every call on it preserves. -/
theorem step_invariant_on (loc : Location) {rid : String} (hTrim : trimSpace rid = rid)
    {P : Database → Prop} (hP : ∀ db db', Transition loc rid db db' → P db → P db')
    (db : Database) {c : BillingCall} (hOn : c.On rid) (h : P db) : P (c.step loc db) := by
  cases c with
  | transaction t => exact (t.step_transitions loc db hOn).preserve hP h
  | settleTask taskId requestId =>
    obtain rfl : trimSpace requestId = rid := hOn
    exact (settleJob_transitions loc taskKind _ _ _ _ _ db).preserve hP h
  | settleMidjourney taskId requestId =>
    obtain rfl : trimSpace requestId = rid := hOn
    exact (settleJob_transitions loc midjourneyKind _ _ _ _ _ db).preserve hP h
  | reconcile listed now =>
    obtain rfl : listed.requestId = rid := hOn
    refine reconcileReservation_preserves loc (fun id hid => ?_) now (db, {}) h
    rw [hTrim, or_self] at hid
    exact hid ▸ hP
  | reconcilePass => exact hOn.elim

end BillingCall

/-- Rows are stored that way after any calls, in particular when there were none. -/
theorem rowsStored_run (loc : Location) {db : Database} (h : RowsStored db)
    (calls : List BillingCall) : RowsStored (run (BillingCall.step loc) db calls) :=
  run_invariant (fun db c h => c.step_invariant loc (fun _ _ _ hStep h => hStep.rowsStored h) db h)
    h calls

/-- How settlement and refund answer on the closed reservation `r`: what closed it
succeeds again, everything else fails, and the database stays as it is. -/
structure AnswersClosed (rid : String) (r : BillingReservation) (db : Database) : Prop where
  settleAgain : r.status = .settled → ∀ requestId now, trimSpace requestId = rid →
    ∃ r', (settleBillingReservation requestId r.settledQuota now).commit db = (db, .ok r')
  settleOther : r.status = .settled → ∀ requestId quota now, trimSpace requestId = rid →
    quota ≠ r.settledQuota →
    ∃ e, (settleBillingReservation requestId quota now).commit db = (db, .error e)
  settleRefunded : r.status = .refunded → ∀ requestId quota now, trimSpace requestId = rid →
    ∃ e, (settleBillingReservation requestId quota now).commit db = (db, .error e)
  refundAgain : r.status = .refunded → ∀ requestId now, trimSpace requestId = rid →
    ∃ r', (refundBillingReservation requestId now).commit db = (db, .ok r')
  refundSettled : r.status = .settled → ∀ requestId now, trimSpace requestId = rid →
    ∃ e, (refundBillingReservation requestId now).commit db = (db, .error e)

section Answers

variable {requestId : String}

theorem settleBillingReservation_eq (hRow : db.reservations.get? (trimSpace requestId) = some r)
    (hId : trimSpace requestId ≠ "") (hRange : ¬ quotaOutOfRange quota) :
    settleBillingReservation requestId quota now db =
      (do let (_, settled) ← settleBillingReservationTx r quota true now
          pure settled : DbTx BillingReservation) db := by
  unfold settleBillingReservation
  rw [Tx.failIf_bind_of_not (by simp [hId, hRange]), Tx.bind_of_ok (lockReservation_eq hRow)]

theorem refundBillingReservation_eq (hRow : db.reservations.get? (trimSpace requestId) = some r)
    (hId : trimSpace requestId ≠ "") :
    refundBillingReservation requestId now db =
      (do let (_, refunded) ← refundBillingReservationTx r true now
          pure refunded : DbTx BillingReservation) db := by
  unfold refundBillingReservation
  rw [Tx.failIf_bind_of_not hId, Tx.bind_of_ok (lockReservation_eq hRow)]

theorem settleBillingReservationTx_closed (hFinal : r.Finalized) :
    settleBillingReservationTx r quota true now db =
      if r.status = .settled then
        if r.settledQuota = quota then .ok ((false, r), db) else .error .billingReservationConflict
      else .error (finalizedError r.status) := by
  unfold settleBillingReservationTx
  split
  · by_cases hQuota : r.settledQuota = quota
    · rw [Tx.failIf_bind_of_not (by simpa using hQuota), if_pos hQuota]
      rfl
    · rw [Tx.failIf_bind_of hQuota, if_neg hQuota]
  · rw [Tx.failIf_bind_of (finalized_ne_reserved hFinal)]

theorem refundBillingReservationTx_closed (hFinal : r.Finalized) :
    refundBillingReservationTx r true now db =
      if r.status = .refunded then .ok ((false, r), db)
      else .error (finalizedError r.status) := by
  unfold refundBillingReservationTx
  split
  · rfl
  · rw [Tx.failIf_bind_of (finalized_ne_reserved hFinal)]

/-- A settlement that the closed row does not allow fails, whatever its quota. -/
theorem settleBillingReservation_rejected
    (hRow : db.reservations.get? (trimSpace requestId) = some r) (hId : trimSpace requestId ≠ "")
    (hFinal : r.Finalized) (hOther : r.status = .settled → r.settledQuota ≠ quota) :
    ∃ e, settleBillingReservation requestId quota now db = .error e := by
  by_cases hRange : quotaOutOfRange quota
  · exact ⟨_, Tx.failIf_bind_of (.inr hRange) _⟩
  · rw [settleBillingReservation_eq hRow hId hRange]
    refine ⟨if r.status = .settled then .billingReservationConflict else finalizedError r.status,
      Tx.bind_of_error ?_ _⟩
    rw [settleBillingReservationTx_closed hFinal]
    split
    · next hSettled => rw [if_neg (hOther hSettled)]
    · rfl

theorem ClosedAs.answers {rid : String} {r₀ : BillingReservation} (h : ClosedAs rid r₀ db)
    (hStored : StoredRow r₀) (hId : r₀.requestId = rid) (hFinal : r₀.Finalized) :
    AnswersClosed rid r₀ db := by
  obtain ⟨row, hRow, hStatus, hSettled⟩ := h
  have hRowFinal : row.Finalized := by
    unfold BillingReservation.Finalized at hFinal ⊢
    rwa [hStatus]
  have hNonempty : rid ≠ "" := hId ▸ hStored.nonempty
  constructor
  · rintro hOutcome requestId now rfl
    refine ⟨row, Tx.commit_of_ok ?_⟩
    rw [settleBillingReservation_eq hRow hNonempty hStored.settled]
    refine Tx.bind_of_ok (a := (false, row)) (t := db) ?_ _
    rw [settleBillingReservationTx_closed hRowFinal, if_pos (hStatus.trans hOutcome),
      if_pos hSettled]
  · rintro hOutcome requestId quota now rfl hQuota
    obtain ⟨e, he⟩ : ∃ e, settleBillingReservation requestId quota now db = .error e :=
      settleBillingReservation_rejected hRow hNonempty hRowFinal fun _ => by rw [hSettled]; exact hQuota.symm
    exact ⟨e, Tx.commit_of_error he⟩
  · rintro hOutcome requestId quota now rfl
    obtain ⟨e, he⟩ : ∃ e, settleBillingReservation requestId quota now db = .error e :=
      settleBillingReservation_rejected hRow hNonempty hRowFinal fun hOther => by
        simp [hStatus, hOutcome] at hOther
    exact ⟨e, Tx.commit_of_error he⟩
  · rintro hOutcome requestId now rfl
    refine ⟨row, Tx.commit_of_ok ?_⟩
    rw [refundBillingReservation_eq hRow hNonempty]
    refine Tx.bind_of_ok (a := (false, row)) (t := db) ?_ _
    rw [refundBillingReservationTx_closed hRowFinal, if_pos (hStatus.trans hOutcome)]
  · rintro hOutcome requestId now rfl
    refine ⟨finalizedError row.status, Tx.commit_of_error ?_⟩
    rw [refundBillingReservation_eq hRow hNonempty]
    refine Tx.bind_of_error ?_ _
    rw [refundBillingReservationTx_closed hRowFinal, if_neg (by simp [hStatus, hOutcome])]

end Answers

/-- Once a reservation is settled or refunded, no call changes how it ended, calls
on it leave every balance alone, and only the call that closed it still succeeds. -/
theorem closed_reservation_absorbs (loc : Location) {db : Database} {rid : String}
    {r : BillingReservation} (hRow : db.reservations.get? rid = some r) (hStored : StoredRow r)
    (hFinal : r.Finalized) (calls : List BillingCall) :
    ClosedAs rid r (run (BillingCall.step loc) db calls) ∧
      ((∀ c ∈ calls, c.On rid) → SameBalances db (run (BillingCall.step loc) db calls)) ∧
      AnswersClosed rid r (run (BillingCall.step loc) db calls) := by
  have hKey : r.requestId = rid := Table.key_of_get? hRow
  have hInit : ClosedAs rid r db := ⟨r, hRow, rfl, rfl⟩
  have hClosed : ClosedAs rid r (run (BillingCall.step loc) db calls) :=
    run_invariant (fun db c h => c.step_invariant loc (fun _ _ _ hStep h =>
      hStep.closedAs hFinal h) db h) hInit calls
  refine ⟨hClosed, fun hOn => ?_, hClosed.answers hStored hKey hFinal⟩
  have hTrim : trimSpace rid = rid := hKey ▸ hStored.trimmed
  have hBoth : ClosedAs rid r (run (BillingCall.step loc) db calls) ∧
      SameBalances db (run (BillingCall.step loc) db calls) := by
    refine run_invariant_of_mem (P := fun db' => ClosedAs rid r db' ∧ SameBalances db db')
      (fun db' c hc => ?_) ⟨hInit, .refl db⟩
    refine BillingCall.step_invariant_on loc hTrim
      (P := fun db' => ClosedAs rid r db' ∧ SameBalances db db') (fun db₁ db₂ hStep h => ?_) db'
      (hOn c hc)
    exact ⟨hStep.closedAs hFinal h.1, h.2.trans (hStep.sameBalances hFinal h.1)⟩
  exact hBoth.2

def sampleSettled : Database :=
  run (BillingTx.step .utc) sampleAccount
    [.preConsume 0 { requestId := "a", userId := 1, tokenId := 1, quota := 50 } 10,
      .settle "a" 55 11]

def sampleSettledRow : BillingReservation where
  requestId := "a"
  userId := 1
  tokenId := 1
  fundingSource := .wallet
  initialQuota := 50
  reservedQuota := 55
  tokenReserved := 55
  settledQuota := 55
  tokenMode := .limited
  status := .settled
  version := 3
  updatedAt := 11

def sampleLateCalls : List BillingCall :=
  [.transaction (.refund "a" 20), .transaction (.settle "a" 70 21),
    .transaction (.settle "a" 55 22)]

theorem closed_reservation_absorbs_sample :
    sampleSettled.reservations.get? "a" = some sampleSettledRow ∧
      SameBalances sampleSettled (run (BillingCall.step .utc) sampleSettled sampleLateCalls) :=
  ⟨by decide, (closed_reservation_absorbs .utc
    (show sampleSettled.reservations.get? "a" = some sampleSettledRow by decide)
    ⟨by decide, by decide, by decide, by decide⟩ (.inl rfl) sampleLateCalls).2.1 (by
      simp [sampleLateCalls, BillingCall.On, BillingTx.On, BillingTx.requestId]
      decide)⟩

end XyApi.Billing

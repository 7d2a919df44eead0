import XyApi.Billing.Absorption
import XyApi.Billing.LegacySpec
import XyApi.Billing.TaskQuota
import XyApi.Lib.Numeral

/-!
The operations that end the billing of a task from before reservations, and what
each of them does to one such task: the task row, its reservation and its charge.
The two transactions of a settlement are operations of their own, and so a
settlement and the treatment of a listed reservation are runs of operations.
-/

namespace XyApi.Billing

open Lib Lib.Calendar Subscription

/-! ### The recorded charge -/

def chargedBy (e : QuotaLedgerEntry) : Int := e.subscriptionTotalUsedDelta - e.userQuotaDelta

def requestCharge (db : Database) (rid : String) : Int :=
  ledgerTotal db.quotaLedger (fun e => e.requestId = rid) chargedBy

def heldCharge (r : BillingReservation) : Int :=
  if r.status = .refunded then 0 else r.reservedQuota

def HoldsCharge (baseline : Int) (rid : String) (db : Database) : Prop :=
  ∃ r, db.reservations.get? rid = some r ∧ baseline + requestCharge db rid = heldCharge r ∧
    WellClosed r

section Charge

variable {db db' : Database} {rid id : String} {r r' : BillingReservation}
  {baseline : Int}

theorem FundingMoved.chargedBy_eq (h : FundingMoved db r delta f db') :
    f.subscriptionTotalUsedDelta - f.userQuotaDelta = delta := by
  cases h <;> simp

theorem requestCharge_insert? (h : db.quotaLedger.insert? entry = some db'.quotaLedger) :
    requestCharge db' id =
      requestCharge db id + if entry.requestId = id then chargedBy entry else 0 :=
  ledgerTotal_insert? h

theorem Booked.requestCharge_eq (h : Booked db r r' delta db') :
    requestCharge db' id = requestCharge db id + if r.requestId = id then delta else 0 := by
  obtain ⟨f, t, phase, revision, hFunding, hTokens, hLedger⟩ := h
  rw [← hFunding.chargedBy_eq]
  exact ledgerTotal_insert? hLedger

theorem NotedLedger.requestCharge_eq (h : NotedLedger db r db'.quotaLedger) :
    requestCharge db' id = requestCharge db id :=
  h.total_eq fun _ _ _ => rfl

theorem ReleasedBy.requestCharge_eq (h : ReleasedBy r db db') :
    requestCharge db' id = requestCharge db id := by
  rw [h.users_eq.1]
  rfl

/-- Other requests are charged nothing. -/
theorem Transition.requestCharge_other (h : Transition loc rid db db') (hid : id ≠ rid) :
    requestCharge db' id = requestCharge db id := by
  have hKey {row : BillingReservation} (hRow : db.reservations.get? rid = some row) :
      row.requestId ≠ id := by
    have := Table.key_of_get? hRow
    exact fun hSame => hid (hSame.symm.trans this)
  cases h with
  | opened r f t hId hFresh hRow hFunding hTokens hLedger =>
    refine (requestCharge_insert? hLedger).trans ?_
    have hOther : ¬ r.requestId = id := fun hSame => hid (hSame.symm.trans hId)
    simp [ledgerWith, BillingReservation.ledgerEntry, hOther]
  | adjusted r _ _ hRow _ _ hBooked =>
    rw [hBooked.requestCharge_eq, if_neg (hKey hRow), add_zero]
  | refunded r _ hRow _ hBooked hReleased =>
    rw [hReleased.requestCharge_eq, hBooked.requestCharge_eq, if_neg (hKey hRow), add_zero]
  | settled r _ hRow _ hLedger hReleased =>
    rw [hReleased.requestCharge_eq]
    exact hLedger.requestCharge_eq
  | noted r r' hRow hStep hLedger => exact hLedger.requestCharge_eq
  | shortfall r r' _ _ _ _ _ _ _ _ _ _ _ hLedger =>
    rw [(freezeUser_users_eq r.userId _).1]
    exact hLedger.requestCharge_eq
  | jobs => rfl
  | resolutions => rfl

/-- The row is replaced while the charge follows what it holds. -/
theorem HoldsCharge.put (h : HoldsCharge baseline rid db)
    (hRow : db.reservations.get? rid = some r)
    (hPut : db'.reservations = db.reservations.put r') (hId : r'.requestId = r.requestId)
    (hCharge : requestCharge db' rid = requestCharge db rid + (heldCharge r' - heldCharge r))
    (hClosed : WellClosed r') : HoldsCharge baseline rid db' := by
  obtain ⟨row, hOld, hHeld, -⟩ := h
  cases hOld.symm.trans hRow
  refine ⟨r', ?_, by omega, hClosed⟩
  rw [hPut]
  exact get?_put_row hRow hId

theorem HoldsCharge.wellClosed (h : HoldsCharge baseline rid db)
    (hRow : db.reservations.get? rid = some r) : WellClosed r := by
  obtain ⟨row, hOld, -, hClosed⟩ := h
  rw [hRow, Option.some.injEq] at hOld
  exact hOld ▸ hClosed

theorem HoldsCharge.congr (h : HoldsCharge baseline rid db)
    (hRow : db'.reservations.get? rid = db.reservations.get? rid)
    (hCharge : requestCharge db' rid = requestCharge db rid) : HoldsCharge baseline rid db' := by
  unfold HoldsCharge
  rw [hRow, hCharge]
  exact h

theorem PlainRow.heldCharge_eq (h : PlainRow r r') :
    heldCharge r' = heldCharge r ∧ (WellClosed r → WellClosed r') := by
  cases h <;> exact ⟨rfl, id⟩

/-- A transition on the request moves its charge with what its reservation holds. -/
theorem Transition.holdsCharge (h : Transition loc rid db db')
    (hHolds : HoldsCharge baseline rid db) : HoldsCharge baseline rid db' := by
  cases h with
  | opened row f t hId hFresh hRow =>
    obtain ⟨r, hOld, -⟩ := hHolds
    have hNone : db.reservations.get? row.requestId = none := (Table.rows_insert? hRow).2
    rw [hId, hOld] at hNone
    cases hNone
  | adjusted r targetQuota now hRow hStatus hTarget hBooked =>
    refine hHolds.put hRow hBooked.reservations_eq rfl ?_ ?_
    · rw [hBooked.requestCharge_eq, if_pos (Table.key_of_get? hRow)]
      simp [heldCharge, adjustedReservation, hStatus]
    · simp [WellClosed, adjustedReservation, hStatus]
  | refunded r now hRow hStatus hBooked hReleased =>
    refine hHolds.put hRow (hReleased.reservations_eq.trans hBooked.reservations_eq) rfl ?_ ?_
    · rw [hReleased.requestCharge_eq, hBooked.requestCharge_eq,
        if_pos (Table.key_of_get? hRow)]
      simp [heldCharge, refundedReservation, closedReservation, hStatus]
    · simp [WellClosed, refundedReservation, closedReservation]
  | settled r now hRow hStatus hLedger hReleased =>
    refine hHolds.put hRow hReleased.reservations_eq rfl ?_ ?_
    · rw [hReleased.requestCharge_eq, NotedLedger.requestCharge_eq hLedger]
      simp [heldCharge, settledReservation, closedReservation, hStatus]
    · simp [WellClosed, settledReservation, closedReservation]
  | noted r r' hRow hStep hLedger =>
    obtain ⟨hHeld, hClosed⟩ := hStep.heldCharge_eq
    refine hHolds.put hRow rfl (RowStep.noted hStep).requestId_eq ?_
      (hClosed (hHolds.wellClosed hRow))
    rw [NotedLedger.requestCharge_eq hLedger, hHeld, sub_self, add_zero]
  | shortfall r r' targetQuota failure user previousStatus now hRow hStatus hMore hUser hPrevious
      hMarked hLedger =>
      have hHeld : heldCharge r' = heldCharge r ∧ r'.requestId = r.requestId ∧
          (WellClosed r → WellClosed r') := by
        obtain ⟨rfl, -⟩ | rfl := hMarked <;> exact ⟨rfl, rfl, id⟩
      rw [(freezeUser_users_eq r.userId _).1]
      refine hHolds.put hRow rfl hHeld.2.1 ?_ (hHeld.2.2 (hHolds.wellClosed hRow))
      rw [NotedLedger.requestCharge_eq hLedger, hHeld.1, sub_self, add_zero]
  | jobs => exact hHolds.congr rfl rfl
  | resolutions => exact hHolds.congr rfl rfl

end Charge

inductive LegacyCall
  | adopt (taskId now : Int)
  | close (taskId actualQuota : Int) (outcome : LegacyOutcome) (now : Int)
  | intendTask (taskId : Int) (requestId : String) (actualQuota now : Int)
  | settleTask (taskId : Int) (requestId : String) (actualQuota now : Int)
  | refundTask (taskId : Int) (requestId : String) (now : Int)
  | review (requestId note : String) (now : Int)
  | finish (task : Task) (outcome : LegacyOutcome) (fromStatus : TaskStatus)

namespace LegacyCall

def body : LegacyCall → DbTx Unit
  | adopt taskId now => (adoptLegacyTaskBillingReservation taskId now).void
  | close taskId actualQuota outcome now =>
    (finalizeLegacyTaskBilling taskId actualQuota outcome now).void
  | intendTask taskId requestId actualQuota now => do
      Tx.failIf (taskId ≤ 0 ∨ trimSpace requestId = "" ∨ quotaOutOfRange actualQuota)
        invalidTaskSettlement
      prepareJobSettlementTx taskKind taskId (trimSpace requestId) actualQuota now
  | settleTask taskId requestId actualQuota now => do
      Tx.failIf (taskId ≤ 0 ∨ trimSpace requestId = "" ∨ quotaOutOfRange actualQuota)
        invalidTaskSettlement
      (settleJobTx taskKind taskId (trimSpace requestId) actualQuota now).void
  | refundTask taskId requestId now => (refundTaskBillingReservation taskId requestId now).void
  | review requestId note now => recordBillingReconcileReview requestId note now
  | finish task outcome fromStatus =>
    (updateTaskWithStatus { task with status := legacyStatus outcome } fromStatus).void

def step (db : Database) (c : LegacyCall) : Database := (c.body.commit db).1

def Succeeds (c : LegacyCall) (db : Database) : Prop := ∃ db', c.body db = .ok ((), db')

def Adopts (T : Int) : LegacyCall → Prop
  | adopt taskId _ => taskId = T
  | _ => False

def Closes (T : Int) : LegacyCall → Prop
  | close taskId _ _ _ => taskId = T
  | _ => False

def Finalizes (T : Int) : LegacyCall → Prop
  | close taskId _ _ _ | settleTask taskId _ _ _ | refundTask taskId _ _ => taskId = T
  | _ => False

end LegacyCall

/-! ### Calls that are several transactions -/

section Composite

theorem LegacyCall.step_intendTask
    (hValid : ¬ (taskId ≤ 0 ∨ trimSpace requestId = "" ∨ quotaOutOfRange actualQuota)) :
    step db (.intendTask taskId requestId actualQuota now) =
      ((prepareJobSettlementTx taskKind taskId (trimSpace requestId) actualQuota now).commit
        db).1 := by
  rw [step, body, Tx.commit, Tx.failIf_bind_of_not hValid]
  rfl

theorem LegacyCall.step_settleTask
    (hValid : ¬ (taskId ≤ 0 ∨ trimSpace requestId = "" ∨ quotaOutOfRange actualQuota)) :
    step db (.settleTask taskId requestId actualQuota now) =
      ((settleJobTx taskKind taskId (trimSpace requestId) actualQuota now).commit db).1 := by
  rw [← Tx.commit_void, step, body, Tx.commit, Tx.failIf_bind_of_not hValid]
  rfl

/-- The settlement of a task is its two transactions, or less. -/
theorem settleTaskBillingReservation_run (taskId : Int) (requestId : String)
    (actualQuota now : Int) (db : Database) :
    ∃ calls, (settleTaskBillingReservation taskId requestId actualQuota now db).1 =
      run LegacyCall.step db calls := by
  unfold settleTaskBillingReservation settleJob
  dsimp only
  split
  · exact ⟨[], rfl⟩
  · next hValid =>
      have hIntend : LegacyCall.step db (.intendTask taskId requestId actualQuota now) = _ :=
        LegacyCall.step_intendTask hValid
      split
      · next hEq =>
          refine ⟨[.intendTask taskId requestId actualQuota now], ?_⟩
          rw [run_cons, run_nil, hIntend, hEq]
      · next hEq =>
          refine ⟨[.intendTask taskId requestId actualQuota now,
            .settleTask taskId requestId actualQuota now], ?_⟩
          rw [run_cons, run_cons, run_nil, hIntend, hEq, LegacyCall.step_settleTask hValid]

theorem reviewWith_run (h : ∃ calls, s.1 = run LegacyCall.step db calls) :
    ∃ calls, (reviewWith requestId note now s).1 = run LegacyCall.step db calls := by
  obtain ⟨calls, hCalls⟩ := h
  refine ⟨calls ++ [.review requestId note now], ?_⟩
  rw [run_append, ← hCalls]
  rfl

theorem reconcileJob_run (r : BillingReservation) (job? : Option Task) (now : Int)
    (s : Reconciling) :
    ∃ calls, (reconcileJob taskReconcile r job? now s).1 = run LegacyCall.step s.1 calls := by
  unfold reconcileJob
  cases job? with
  | none => exact reviewWith_run ⟨[], rfl⟩
  | some job =>
    dsimp only
    split
    · have hSettle := settleTaskBillingReservation_run job.id r.requestId
        (reconcileTarget r job.privateData job.quota) now s.1
      split
      · next db' e hEq => exact reviewWith_run ((congrArg Prod.fst hEq) ▸ hSettle)
      · next db' result hEq => exact (congrArg Prod.fst hEq) ▸ hSettle
    · have hRefund : ∃ calls, ((refundJob taskKind job.id r.requestId now
          invalidTaskRefund).commit s.1).1 = run LegacyCall.step s.1 calls :=
        ⟨[.refundTask job.id r.requestId now], (Tx.commit_void _ _).symm⟩
      split
      · next db' e hEq => exact reviewWith_run ((congrArg Prod.fst hEq) ▸ hRefund)
      · next db' result hEq => exact (congrArg Prod.fst hEq) ▸ hRefund
    · exact reviewWith_run ⟨[], rfl⟩

/-- The treatment of a listed reservation is a run of operations, unless it is one of
a Midjourney task. -/
theorem reconcileReservation_run (r : BillingReservation)
    (hTask : r.resourceType ≠ .midjourneyTask) (now : Int) (s : Reconciling) :
    ∃ calls, (reconcileReservation now s r).1 = run LegacyCall.step s.1 calls := by
  unfold reconcileReservation
  dsimp only
  split
  · exact reviewWith_run ⟨[], rfl⟩
  · split
    · exact reconcileJob_run r _ now _
    · next hType => exact absurd hType hTask
    · exact reviewWith_run ⟨[], rfl⟩
    · exact reviewWith_run ⟨[], rfl⟩

end Composite

/-! ### The derived request id -/

theorem legacyTaskBillingRequestId_inj
    (h : legacyTaskBillingRequestId a = legacyTaskBillingRequestId b) : a = b :=
  intRepr_inj ((String.append_right_inj "legacy-task-").mp h)

theorem trimSpace_legacyTaskBillingRequestId (taskId : Int) :
    trimSpace (legacyTaskBillingRequestId taskId) ≠ "" := by
  refine trimSpace_ne_empty (c := 'l') ?_ (by decide)
  rw [legacyTaskBillingRequestId, String.toList_append]
  exact List.mem_append_left _ (by decide)

/-! ### The effect of a call on one task -/

section Effects

variable {db db' : Database} {T taskId actualQuota now : Int}
  {task : Task} {r : BillingReservation}

theorem get?_putTask_of_ne (hid : task.id ≠ T) :
    (db.putTask task).tasks.get? T = db.tasks.get? T :=
  Table.get?_put_of_ne hid.symm

/-- The task `T` is written only if it is bound to the request, and stays bound. -/
def WrittenBound (T : Int) (rid : String) (db db' : Database) : Prop :=
  db'.tasks.get? T = db.tasks.get? T ∨
    ∃ task task', db.tasks.get? T = some task ∧ task.privateData.billingRequestId = rid ∧
      db'.tasks.get? T = some task' ∧ task'.privateData.billingRequestId = rid

structure RequestEffect (T : Int) (rid : String) (db db' : Database) : Prop where
  steps : Transitions .utc rid db db'
  row : ∃ r, db.reservations.get? rid = some r
  task : WrittenBound T rid db db'

theorem lockTaskAndReservation_ok
    (h : lockJobAndReservation taskKind taskId requestId outcome db = .ok ((task, r), db')) :
    db' = db ∧ db.tasks.get? taskId = some task ∧ db.reservations.get? requestId = some r ∧
      task.privateData.billingRequestId = requestId := by
  have hLocked := lockJobAndReservation_ok h
  simp only [lockJobAndReservation, Tx.read_bind_apply, Tx.require_bind_ok_iff,
    Tx.failIf_bind_ok_iff] at h
  obtain ⟨job, hJob, -, h⟩ := h
  obtain ⟨row, db₁, hLock, h⟩ := Tx.bind_ok h
  simp only [Tx.failIf_bind_ok_iff, not_not, Tx.pure_ok_iff, Prod.mk.injEq] at h
  obtain ⟨hLinked, ⟨rfl, rfl⟩, -⟩ := h
  exact ⟨hLocked.1, hJob, hLocked.2, hLinked.2.1⟩

theorem writtenBound_putTask {db₁ : Database} {task' : Task} (hTask : db.tasks.get? taskId = some task)
    (hTasks : db₁.tasks = db.tasks) (hBound : task.privateData.billingRequestId = requestId)
    (hId : task'.id = task.id) (hBound' : task'.privateData.billingRequestId = requestId) :
    WrittenBound T requestId db (db₁.putTask task') := by
  have hKey : task.id = taskId := Table.key_of_get? hTask
  by_cases hT : taskId = T
  · subst hT
    refine .inr ⟨task, task', hTask, hBound, ?_, hBound'⟩
    have hStored : db₁.tasks.get? task'.id = some task := by rw [hId, hKey, hTasks, hTask]
    rw [← hKey, ← hId]
    exact Table.get?_put_self hStored
  · left
    rw [get?_putTask_of_ne (by rw [hId, hKey]; exact hT), hTasks]

theorem settleBillingReservationTx_tasks
    (h : settleBillingReservationTx r actualQuota allow now db = .ok (result, db')) :
    db'.tasks = db.tasks := by
  obtain ⟨-, -, -, -, rfl⟩ | ⟨-, -, adjusted, db₁, ledger, -, hAdjust, -, hReleased⟩ :=
    settleBillingReservationTx_ok h
  · rfl
  · rw [hReleased.users_eq.1]
    obtain ⟨-, -, rfl⟩ | ⟨-, -, hBooked⟩ := hAdjust
    · rfl
    · exact hBooked.tasks_eq

theorem refundBillingReservationTx_tasks
    (h : refundBillingReservationTx r allow now db = .ok (result, db')) :
    db'.tasks = db.tasks := by
  obtain ⟨-, -, -, rfl⟩ | ⟨-, -, -, db₁, hBooked, hReleased⟩ := refundBillingReservationTx_ok h
  · rfl
  · rw [hReleased.users_eq.1]
    exact hBooked.tasks_eq

/-- A settlement of a task leaves its reservation closed. -/
theorem settleJobTx_effect
    (h : settleJobTx taskKind taskId requestId actualQuota now db = .ok (result, db')) :
    RequestEffect T requestId db db' ∧
      ∃ task r, db.tasks.get? taskId = some task ∧
        task.privateData.billingRequestId = requestId ∧
        db'.reservations.get? requestId = some r ∧ r.Finalized := by
  have hSteps := settleJobTx_transitions .utc h
  unfold settleJobTx at h
  rw [Tx.bind_ok_iff] at h
  obtain ⟨⟨task, r⟩, db₁, hLock, h⟩ := h
  obtain ⟨rfl, hTask, hRow, hBound⟩ := lockTaskAndReservation_ok hLock
  rw [Tx.bind_ok_iff] at h
  obtain ⟨mode, db₂, hMode, h⟩ := h
  obtain rfl := jobIntentMode_ok hMode
  obtain ⟨⟨applied, settled⟩, db₃, hSettle, h⟩ := Tx.bind_ok h
  cases h
  have hTasks := settleBillingReservationTx_tasks hSettle
  obtain ⟨-, hClosed, hFinal⟩ := settleBillingReservationTx_transitions .utc hSettle hRow
  exact ⟨⟨hSteps, ⟨r, hRow⟩, writtenBound_putTask hTask hTasks hBound rfl hBound⟩,
    task, settled, hTask, hBound, hClosed, hFinal⟩

/-- A refund of a task leaves its reservation closed. -/
theorem refundJobTx_effect (h : refundJobTx taskKind taskId requestId now db = .ok (result, db')) :
    RequestEffect T requestId db db' ∧
      ∃ task r, db.tasks.get? taskId = some task ∧
        task.privateData.billingRequestId = requestId ∧
        db'.reservations.get? requestId = some r ∧ r.Finalized := by
  have hSteps := refundJobTx_transitions .utc h
  unfold refundJobTx at h
  rw [Tx.bind_ok_iff] at h
  obtain ⟨⟨task, r⟩, db₁, hLock, h⟩ := h
  obtain ⟨rfl, hTask, hRow, hBound⟩ := lockTaskAndReservation_ok hLock
  obtain ⟨⟨applied, refunded⟩, db₂, hRefund, h⟩ := Tx.bind_ok h
  have hTasks := refundBillingReservationTx_tasks hRefund
  obtain ⟨-, hClosed, hFinal⟩ := refundBillingReservationTx_transitions .utc hRefund hRow
  obtain ⟨_, db₃, hClear, h⟩ := Tx.bind_ok h
  cases h
  rcases Tx.when_ok_iff.mp hClear with ⟨-, hPut⟩ | ⟨-, rfl⟩
  · obtain rfl := Tx.write_ok_iff.mp hPut
    exact ⟨⟨hSteps, ⟨r, hRow⟩, writtenBound_putTask hTask hTasks hBound rfl hBound⟩,
      task, refunded, hTask, hBound, hClosed, hFinal⟩
  · exact ⟨⟨hSteps, ⟨r, hRow⟩, .inl (by rw [hTasks])⟩, task, refunded, hTask, hBound, hClosed,
      hFinal⟩

theorem prepareJobSettlementTx_effect
    (h : prepareJobSettlementTx taskKind taskId requestId actualQuota now db = .ok (u, db')) :
    RequestEffect T requestId db db' ∧ SameBalances db db' := by
  have hSteps := prepareJobSettlementTx_transitions .utc h
  unfold prepareJobSettlementTx at h
  rw [Tx.bind_ok_iff] at h
  obtain ⟨⟨task, r⟩, db₁, hLock, h⟩ := h
  obtain ⟨rfl, -, hRow, -⟩ := lockTaskAndReservation_ok hLock
  rw [Tx.bind_ok_iff] at h
  obtain ⟨mode, db₂, hMode, h⟩ := h
  obtain rfl := jobIntentMode_ok hMode
  obtain ⟨rfl, -⟩ | ⟨-, -, ledger, -, rfl⟩ := persistBillingReservationSettlementIntentTx_ok h
  · exact ⟨⟨hSteps, ⟨r, hRow⟩, .inl rfl⟩, .refl _⟩
  · exact ⟨⟨hSteps, ⟨r, hRow⟩, .inl rfl⟩, fun _ => rfl, rfl, rfl⟩

theorem recordBillingReconcileReview_effect
    (h : recordBillingReconcileReview requestId note now db = .ok (u, db')) :
    RequestEffect T requestId db db' ∧ db'.tasks = db.tasks := by
  have hSteps := recordBillingReconcileReview_transitions .utc h
  simp only [recordBillingReconcileReview, Tx.read_bind_apply, Tx.require_bind_ok_iff] at h
  obtain ⟨r, hRow, h⟩ := h
  have hTasks : db'.tasks = db.tasks := by
    split at h
    · rw [← (Tx.pure_ok h).2]
    · simp only [Tx.write_bind_apply, Tx.write_ok_iff] at h
      rw [← h]
      rfl
  exact ⟨⟨hSteps, ⟨r, hRow⟩, .inl (by rw [hTasks])⟩, hTasks⟩

end Effects

end XyApi.Billing

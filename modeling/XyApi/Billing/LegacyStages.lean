import XyApi.Billing.LegacyCalls

/-!
The stages of a task from before reservations: not billed yet, closed off by the
transaction of its own, or linked to the reservation it was adopted with. A call
that keeps the billing columns of the task takes it from the first stage to one of
the others, or leaves it in its stage.
-/

namespace XyApi.Billing

open Lib Lib.Calendar Subscription

variable {task : Task} {r : BillingReservation} {now : Int}

/-- The written row has the quota and the billing data of the stored one. The target of
a settlement may be new. -/
def SameBilling (stored written : Task) : Prop :=
  written.quota = stored.quota ∧
    clearBillingTargetQuota written.privateData = clearBillingTargetQuota stored.privateData
  deriving Decidable

/-- A status update that takes effect keeps the billing columns. -/
def LegacyCall.KeepsBilling (db : Database) : LegacyCall → Prop
  | finish task _ fromStatus =>
    ∀ stored ∈ db.tasks.get? task.id, stored.status = fromStatus → SameBilling stored task
  | _ => True

instance (db : Database) (c : LegacyCall) : Decidable (c.KeepsBilling db) := by
  cases c <;> unfold LegacyCall.KeepsBilling <;> infer_instance

theorem SameBilling.columns (h : SameBilling stored written) :
    written.privateData.billingRequestId = stored.privateData.billingRequestId ∧
      written.privateData.legacyBillingFinalized = stored.privateData.legacyBillingFinalized ∧
      written.privateData.legacyBillingOutcome = stored.privateData.legacyBillingOutcome ∧
      written.privateData.legacyBillingFinalQuota =
        stored.privateData.legacyBillingFinalQuota := by
  have hData := h.2
  simp only [clearBillingTargetQuota, TaskPrivateData.mk.injEq] at hData
  tauto

/-! ### What a call does to the task -/

def taskView (T : Int) (db : Database) : Option Task × Option BillingReservation × Int :=
  (db.tasks.get? T, db.reservations.get? (legacyTaskBillingRequestId T),
    requestCharge db (legacyTaskBillingRequestId T))

def Terminal (task : Task) : Prop := task.status = .success ∨ task.status = .failure

inductive LegacyEffect (T : Int) (db : Database) : Database → Prop
  | kept {db' : Database} (hView : taskView T db' = taskView T db) : LegacyEffect T db db'
  | adopted {db' : Database} (task : Task) (r : BillingReservation) (now : Int)
      (hTask : db.tasks.get? T = some task) (hOpen : ¬ Terminal task)
      (hAdopted : Adopted db task r now db') : LegacyEffect T db db'
  | closed {db₁ : Database} {ledger : Table QuotaLedgerEntry.key} (task : Task)
      (actualQuota now : Int) (outcome : LegacyOutcome) (entry : QuotaLedgerEntry)
      (hTask : db.tasks.get? T = some task)
      (hUnlinked : trimSpace task.privateData.billingRequestId = "")
      (hStatus : task.status = legacyStatus outcome)
      (hOpen : task.privateData.legacyBillingFinalized = false)
      (hCharged : LegacyCharged db (legacyDelta task actualQuota outcome)
        (legacyEntry task outcome) entry db₁)
      (hLedger : db.quotaLedger.insert? entry = some ledger) :
      LegacyEffect T db { db₁ with
        tasks := db.tasks.put (closedTask task actualQuota outcome now)
        quotaLedger := ledger }
  | request {db' : Database} (rid : String) (hNonempty : rid ≠ "" ∨
      db'.tasks.get? T = db.tasks.get? T) (hEffect : RequestEffect T rid db db') :
      LegacyEffect T db db'
  | finished (stored written : Task) (hStored : db.tasks.get? T = some stored)
      (hId : written.id = T) (hSame : SameBilling stored written) (hTerminal : Terminal written) :
      LegacyEffect T db (db.putTask written)

section Effects

variable {T taskId : Int} {db db' : Database} {c : LegacyCall}

theorem not_terminal (hSuccess : task.status ≠ .success) (hFailure : task.status ≠ .failure) :
    ¬ Terminal task := by
  rintro (h | h)
  · exact hSuccess h
  · exact hFailure h

/-- An adoption charges nothing. -/
theorem Adopted.requestCharge_eq (h : Adopted db task r now db') (id : String) :
    requestCharge db' id = requestCharge db id := by
  cases h with
  | linked => rfl
  | made note hFrom hRow hLedger =>
    refine (requestCharge_insert? hLedger).trans ?_
    simp [chargedBy, BillingReservation.ledgerEntry]

/-- The adoption of another task. -/
theorem Adopted.taskView_eq (h : Adopted db task r now db') (hOther : task.id ≠ T) :
    taskView T db' = taskView T db := by
  have hRequest : legacyTaskBillingRequestId T ≠ legacyTaskBillingRequestId task.id :=
    fun hSame => hOther (legacyTaskBillingRequestId_inj hSame).symm
  have hCharge := h.requestCharge_eq (legacyTaskBillingRequestId T)
  cases h with
  | linked =>
    simp only [taskView, Prod.mk.injEq]
    exact ⟨get?_putTask_of_ne hOther, rfl, rfl⟩
  | made note hFrom hRow =>
    simp only [taskView, Prod.mk.injEq]
    refine ⟨get?_putTask_of_ne hOther, ?_, hCharge⟩
    refine (Table.get?_insert? hRow _).trans (if_neg ?_)
    rw [hFrom.requestId]
    exact hRequest

theorem adopt_effect (h : adoptLegacyTaskBillingReservation taskId now db = .ok (r, db')) :
    LegacyEffect T db db' := by
  obtain ⟨task, hTask, hSuccess, hFailure, -, ⟨_, -, -, -, -, rfl⟩ | ⟨-, hAdopted⟩⟩ :=
    adoptLegacyTaskBillingReservation_ok h
  · exact .kept rfl
  · have hKey : task.id = taskId := Table.key_of_get? hTask
    by_cases hT : taskId = T
    · subst hT
      exact .adopted task r now hTask (not_terminal hSuccess hFailure) hAdopted
    · exact .kept (hAdopted.taskView_eq (hKey ▸ hT))

theorem close_effect
    (h : finalizeLegacyTaskBilling taskId actualQuota outcome now db = .ok (result, db')) :
    LegacyEffect T db db' := by
  obtain ⟨task, hTask, hUnlinked, hStatus, ⟨-, -, -, rfl⟩ |
    ⟨hOpen, entry, db₁, ledger, hCharged, hLedger, rfl⟩⟩ := finalizeLegacyTaskBilling_ok h
  · exact .kept rfl
  · have hKey : task.id = taskId := Table.key_of_get? hTask
    by_cases hT : taskId = T
    · subst hT
      exact .closed task actualQuota now outcome entry hTask hUnlinked hStatus hOpen hCharged
        hLedger
    · have hRequest : entry.requestId ≠ legacyTaskBillingRequestId T := by
        have hEntry := congrArg Prod.fst hCharged.key
        intro hSame
        exact hT (hKey ▸ legacyTaskBillingRequestId_inj (hEntry.symm.trans hSame))
      refine .kept ?_
      simp only [taskView, Prod.mk.injEq]
      refine ⟨Table.get?_put_of_ne fun hSame => hT (hKey ▸ hSame.symm), ?_, ?_⟩
      · rw [hCharged.rest]
      · refine (requestCharge_insert? hLedger).trans ?_
        rw [if_neg hRequest, add_zero]

theorem finish_effect (hKeeps : (LegacyCall.finish task outcome fromStatus).KeepsBilling db)
    (h : updateTaskWithStatus { task with status := legacyStatus outcome } fromStatus db =
      .ok (won, db')) : LegacyEffect T db db' := by
  simp only [updateTaskWithStatus, Tx.failIf_bind_ok_iff, Tx.read_bind_apply] at h
  obtain ⟨-, h⟩ := h
  split at h
  · next hStored =>
      cases h
      by_cases hT : task.id = T
      · obtain ⟨stored, hGet⟩ := Option.isSome_iff_exists.mp hStored
        rw [Option.filter_eq_some_iff, decide_eq_true_eq] at hGet
        refine .finished stored _ (hT ▸ hGet.1) hT (hKeeps stored hGet.1 hGet.2) ?_
        cases outcome
        · exact .inl rfl
        · exact .inr rfl
      · refine .kept ?_
        simp only [taskView, Prod.mk.injEq]
        exact ⟨get?_putTask_of_ne hT, rfl, rfl⟩
  · rw [← (Tx.pure_ok h).2]
    exact .kept rfl

/-- Every call does one of these things to the task. -/
theorem LegacyCall.step_effect (hKeeps : c.KeepsBilling db) :
    LegacyEffect T db (c.step db) := by
  refine Tx.commit_preserves (.kept rfl) fun u db' h => ?_
  cases c with
  | adopt => exact adopt_effect (Tx.void_ok_iff.mp h).choose_spec
  | close => exact close_effect (Tx.void_ok_iff.mp h).choose_spec
  | intendTask =>
    simp only [body, Tx.failIf_bind_ok_iff, not_or] at h
    exact .request _ (.inl h.1.2.1) (prepareJobSettlementTx_effect h.2).1
  | settleTask =>
    simp only [body, Tx.failIf_bind_ok_iff, not_or, Tx.void_ok_iff] at h
    obtain ⟨⟨-, hNonempty, -⟩, result, h⟩ := h
    exact .request _ (.inl hNonempty) (settleJobTx_effect h).1
  | refundTask =>
    simp only [body, refundTaskBillingReservation, refundJob, Tx.void_ok_iff,
      Tx.failIf_bind_ok_iff, not_or] at h
    obtain ⟨result, ⟨-, hNonempty⟩, h⟩ := h
    exact .request _ (.inl hNonempty) (refundJobTx_effect h).1
  | review requestId =>
    obtain ⟨hEffect, hTasks⟩ := recordBillingReconcileReview_effect h
    exact .request requestId (.inr (by rw [hTasks])) hEffect
  | finish =>
    exact finish_effect hKeeps (Tx.void_ok_iff.mp h).choose_spec

end Effects

/-! ### The stages of the task -/

def legacyFinal (finalQuota : Int) : LegacyOutcome → Int
  | .settle => finalQuota
  | .refund => 0

structure Unbilled (T quota : Int) (db : Database) : Prop where
  task : ∃ task, db.tasks.get? T = some task ∧ task.privateData.billingRequestId = "" ∧
    task.privateData.legacyBillingFinalized = false ∧ task.quota = quota
  row : db.reservations.get? (legacyTaskBillingRequestId T) = none
  charge : requestCharge db (legacyTaskBillingRequestId T) = 0

structure ClosedOff (T quota : Int) (db : Database) : Prop where
  task : ∃ task outcome, db.tasks.get? T = some task ∧
    task.privateData.billingRequestId = "" ∧ Terminal task ∧
    task.privateData.legacyBillingFinalized = true ∧
    task.privateData.legacyBillingOutcome = some outcome ∧
    quota + requestCharge db (legacyTaskBillingRequestId T) =
      legacyFinal task.privateData.legacyBillingFinalQuota outcome
  row : db.reservations.get? (legacyTaskBillingRequestId T) = none

structure Linked (T quota : Int) (db : Database) : Prop where
  task : ∃ task, db.tasks.get? T = some task ∧
    task.privateData.billingRequestId = legacyTaskBillingRequestId T
  holds : HoldsCharge quota (legacyTaskBillingRequestId T) db

section Stages

variable {db db' : Database}

theorem Unbilled.congr (h : Unbilled T quota db) (hView : taskView T db' = taskView T db) :
    Unbilled T quota db' := by
  simp only [taskView, Prod.mk.injEq] at hView
  obtain ⟨hTask, hRow, hCharge⟩ := hView
  exact ⟨hTask ▸ h.task, hRow ▸ h.row, hCharge ▸ h.charge⟩

theorem ClosedOff.congr (h : ClosedOff T quota db) (hView : taskView T db' = taskView T db) :
    ClosedOff T quota db' := by
  simp only [taskView, Prod.mk.injEq] at hView
  obtain ⟨hTask, hRow, hCharge⟩ := hView
  refine ⟨?_, hRow ▸ h.row⟩
  rw [hTask, hCharge]
  exact h.task

theorem Linked.congr (h : Linked T quota db) (hView : taskView T db' = taskView T db) :
    Linked T quota db' := by
  simp only [taskView, Prod.mk.injEq] at hView
  obtain ⟨hTask, hRow, hCharge⟩ := hView
  exact ⟨hTask ▸ h.task, h.holds.congr hRow hCharge⟩

theorem requestCharge_other {rid id : String} (h : Transitions .utc rid db db')
    (hid : id ≠ rid) : requestCharge db' id = requestCharge db id :=
  h.preserve (P := fun db' => requestCharge db' id = requestCharge db id)
    (fun _ _ hStep hSame => (hStep.requestCharge_other hid).trans hSame) rfl

/-- A task without a link is not touched by calls on requests. -/
theorem RequestEffect.taskView_eq (h : RequestEffect T rid db db')
    (hNonempty : rid ≠ "" ∨ db'.tasks.get? T = db.tasks.get? T)
    (hTask : db.tasks.get? T = some task) (hLink : task.privateData.billingRequestId = "")
    (hRow : db.reservations.get? (legacyTaskBillingRequestId T) = none) :
    taskView T db' = taskView T db := by
  have hOther : legacyTaskBillingRequestId T ≠ rid := by
    rintro rfl
    obtain ⟨r, hSome⟩ := h.row
    rw [hRow] at hSome
    cases hSome
  have hKept : db'.tasks.get? T = db.tasks.get? T := by
    rcases hNonempty with hNonempty | hKept
    · rcases h.task with hKept | ⟨task', _, hTask', hBound, -⟩
      · exact hKept
      · cases hTask'.symm.trans hTask
        exact absurd (hBound.symm.trans hLink) hNonempty
    · exact hKept
  simp only [taskView, Prod.mk.injEq]
  exact ⟨hKept, h.steps.frame hOther, requestCharge_other h.steps hOther⟩

theorem get?_putTask_self (hTask : db.tasks.get? T = some task) (hId : written.id = T) :
    (db.putTask written).tasks.get? T = some written := by
  subst hId
  exact Table.get?_put_self hTask

/-- Closed off is for good. -/
theorem ClosedOff.step (h : ClosedOff T quota db) (hEffect : LegacyEffect T db db') :
    ClosedOff T quota db' := by
  obtain ⟨task, outcome, hTask, hLink, hTerminal, hFinal, hOutcome, hCharge⟩ := h.task
  cases hEffect with
  | kept hView => exact h.congr hView
  | adopted task' r now hTask' hOpen =>
    cases hTask'.symm.trans hTask
    exact absurd hTerminal hOpen
  | closed task' actualQuota now outcome' entry hTask' hUnlinked hStatus hOpen =>
    cases hTask'.symm.trans hTask
    rw [hFinal] at hOpen
    cases hOpen
  | request rid hNonempty hEffect =>
    exact h.congr (hEffect.taskView_eq hNonempty hTask hLink h.row)
  | finished stored written hStored hId hSame hTerminal' =>
    cases hStored.symm.trans hTask
    obtain ⟨hLink', hFinal', hOutcome', hQuota'⟩ := hSame.columns
    refine ⟨⟨written, outcome, get?_putTask_self hTask hId, hLink'.trans hLink, hTerminal',
      hFinal'.trans hFinal, hOutcome'.trans hOutcome, ?_⟩, h.row⟩
    rw [hQuota']
    exact hCharge

/-- So is the link to a reservation. -/
theorem Linked.step (h : Linked T quota db) (hEffect : LegacyEffect T db db') :
    Linked T quota db' := by
  obtain ⟨task, hTask, hLink⟩ := h.task
  cases hEffect with
  | kept hView => exact h.congr hView
  | adopted task' r now hTask' hOpen hAdopted =>
    cases hTask'.symm.trans hTask
    have hKey : task.id = T := Table.key_of_get? hTask
    obtain ⟨row, hRow, -⟩ := h.holds
    cases hAdopted with
    | linked =>
      refine ⟨⟨_, get?_putTask_self hTask hKey, congrArg legacyTaskBillingRequestId hKey⟩, ?_⟩
      exact h.holds.congr rfl rfl
    | made note hFrom hInsert =>
      have hNone : db.reservations.get? r.requestId = none := (Table.rows_insert? hInsert).2
      rw [hFrom.requestId, hKey, hRow] at hNone
      cases hNone
  | closed task' actualQuota now outcome' entry hTask' hUnlinked =>
    cases hTask'.symm.trans hTask
    rw [hLink] at hUnlinked
    exact absurd hUnlinked (trimSpace_legacyTaskBillingRequestId T)
  | request rid hNonempty hEffect =>
    have hTask' : ∃ task, db'.tasks.get? T = some task ∧
        task.privateData.billingRequestId = legacyTaskBillingRequestId T := by
      rcases hEffect.task with hKept | ⟨task', written, hTask', hBound, hWritten, hBound'⟩
      · exact ⟨task, hKept.trans hTask, hLink⟩
      · cases hTask'.symm.trans hTask
        exact ⟨written, hWritten, hBound'.trans (hBound.symm.trans hLink)⟩
    by_cases hid : legacyTaskBillingRequestId T = rid
    · subst hid
      exact ⟨hTask', hEffect.steps.preserve (fun _ _ hStep => hStep.holdsCharge) h.holds⟩
    · exact ⟨hTask', h.holds.congr (hEffect.steps.frame hid)
        (requestCharge_other hEffect.steps hid)⟩
  | finished stored written hStored hId hSame =>
    cases hStored.symm.trans hTask
    exact ⟨⟨written, get?_putTask_self hTask hId, hSame.columns.1.trans hLink⟩,
      h.holds.congr rfl rfl⟩

theorem Unbilled.adopted (h : Unbilled T quota db) (hTask : db.tasks.get? T = some task)
    (hQuota : task.quota = quota) (hAdopted : Adopted db task r now db') : Linked T quota db' := by
  have hKey : task.id = T := Table.key_of_get? hTask
  have hCharge := (hAdopted.requestCharge_eq (legacyTaskBillingRequestId T)).trans h.charge
  cases hAdopted with
  | linked hRow =>
    rw [hKey, h.row] at hRow
    cases hRow
  | made note hFrom hInsert =>
    have hRequest : r.requestId = legacyTaskBillingRequestId T := hKey ▸ hFrom.requestId
    refine ⟨⟨_, get?_putTask_self hTask hKey, congrArg legacyTaskBillingRequestId hKey⟩,
      r, ?_, ?_, ?_⟩
    · exact (Table.get?_insert? hInsert _).trans (if_pos hRequest.symm)
    · rw [hCharge, heldCharge, hFrom.status, hFrom.reserved, hQuota]
      simp
    · simp [WellClosed, hFrom.status]

theorem Unbilled.closed (h : Unbilled T quota db) (hTask : db.tasks.get? T = some task)
    (hLink : task.privateData.billingRequestId = "") (hQuota : task.quota = quota)
    (hStatus : task.status = legacyStatus outcome)
    (hCharged : LegacyCharged db (legacyDelta task actualQuota outcome) (legacyEntry task outcome) entry db₁)
    (hLedger : db.quotaLedger.insert? entry = some ledger) :
    ClosedOff T quota { db₁ with
      tasks := db.tasks.put (closedTask task actualQuota outcome now)
      quotaLedger := ledger } := by
  have hKey : task.id = T := Table.key_of_get? hTask
  have hEntry : entry.requestId = legacyTaskBillingRequestId T :=
    (congrArg Prod.fst hCharged.key).trans (congrArg legacyTaskBillingRequestId hKey)
  refine ⟨⟨closedTask task actualQuota outcome now, outcome, get?_putTask_self hTask hKey, hLink,
    ?_, rfl, rfl, ?_⟩, ?_⟩
  · cases outcome
    · exact .inl hStatus
    · exact .inr hStatus
  · rw [requestCharge_insert? hLedger, if_pos hEntry, h.charge, chargedBy, hCharged.charge]
    cases outcome <;> simp [legacyDelta, legacyFinal, closedTask, hQuota]
  · rw [hCharged.rest]
    exact h.row

/-- From the first stage the task goes to one of the others, or stays. -/
theorem Unbilled.step (h : Unbilled T quota db) (hEffect : LegacyEffect T db db') :
    Unbilled T quota db' ∨ ClosedOff T quota db' ∨ Linked T quota db' := by
  obtain ⟨task, hTask, hLink, hFinal, hQuota⟩ := h.task
  cases hEffect with
  | kept hView => exact .inl (h.congr hView)
  | adopted task' r now hTask' hOpen hAdopted =>
    cases hTask'.symm.trans hTask
    exact .inr (.inr (h.adopted hTask hQuota hAdopted))
  | closed task' actualQuota now outcome entry hTask' hUnlinked hStatus hOpen hCharged hLedger =>
    cases hTask'.symm.trans hTask
    exact .inr (.inl (h.closed hTask hLink hQuota hStatus hCharged hLedger))
  | request rid hNonempty hEffect =>
    exact .inl (h.congr (hEffect.taskView_eq hNonempty hTask hLink h.row))
  | finished stored written hStored hId hSame =>
    cases hStored.symm.trans hTask
    obtain ⟨hLink', hFinal', -⟩ := hSame.columns
    exact .inl ⟨⟨written, get?_putTask_self hTask hId, hLink'.trans hLink,
      hFinal'.trans hFinal, hSame.1.trans hQuota⟩, h.row, h.charge⟩

end Stages

end XyApi.Billing

import XyApi.Billing.Transactions

/-!
The quota stored with an asynchronous task against the quota its reservation
holds. A binding brings the reservation to the submitted quota and stores the
task with it, so the two agree, and a reconciliation that has no other target
settles what is reserved. A retry moves the reservation to its own quota but
keeps the task that the first call stored.
-/

namespace XyApi.Billing

open Lib Lib.Calendar

variable {task task' : Task} {requestId : String} {db db' : Database} {targetQuota now : Int}

def findTask (userId : Int) (taskId : String) (db : Database) : Option Task :=
  db.tasks.rows.find? fun t => t.userId = userId ∧ t.taskId = taskId

/-- A stored task is found again; a new one is found afterwards. -/
theorem createOrFindTask_found (h : createOrFindTask task requestId db = .ok (task', db')) :
    task'.taskId = task.taskId ∧
      ((∃ stored, findTask task.userId task.taskId db = some stored ∧ db' = db) ∨
        (findTask task.userId task.taskId db = none ∧
          findTask task.userId task.taskId db' = some task' ∧ task'.quota = task.quota)) := by
  simp only [createOrFindTask, Tx.read_bind_apply] at h
  cases hFind : findTask task.userId task.taskId db with
  | some stored =>
    unfold findTask at hFind
    simp only [hFind, Tx.failIf_bind_ok_iff, Tx.pure_ok_iff] at h
    obtain ⟨-, rfl, rfl⟩ := h
    exact ⟨rfl, .inl ⟨stored, rfl, rfl⟩⟩
  | none =>
    unfold findTask at hFind
    simp only [hFind, Tx.read_bind_apply, Tx.require_bind_ok_iff, Tx.write_bind_apply,
      Tx.pure_ok_iff] at h
    obtain ⟨tasks, hInsert, rfl, rfl⟩ := h
    refine ⟨rfl, .inr ⟨rfl, ?_, rfl⟩⟩
    unfold findTask
    rw [(Table.rows_insert? hInsert).1, List.find?_append, hFind]
    simp

theorem Booked.tasks_eq (h : Booked db r r' delta db') :
    db'.tasks = db.tasks := by
  obtain ⟨f, t, phase, revision, hFunding, hTokens, hLedger⟩ := h
  cases hFunding <;> rfl

/-- An adjustment brings the row to its target and touches no task. -/
theorem adjustReservedBillingTx_row
    (h : adjustReservedBillingTx r targetQuota phase allow now db = .ok (r', db')) :
    r'.userId = r.userId ∧ r'.reservedQuota = targetQuota ∧ db'.tasks = db.tasks := by
  obtain ⟨-, -, ⟨hTarget, rfl, rfl⟩ | ⟨-, rfl, hBooked⟩⟩ := adjustReservedBillingTx_ok h
  · exact ⟨rfl, hTarget.symm, rfl⟩
  · exact ⟨rfl, rfl, hBooked.tasks_eq⟩

def BoundTo (r : BillingReservation) (task : Task) (quota : Int) : Prop :=
  r.userId = task.userId ∧ r.resourceType = .asyncTask ∧ r.resourceId = task.taskId ∧
    r.reservedQuota = quota

/-- What a successful binding leaves behind: the reservation bound to the task and
holding the submitted quota, and the task row that was there before or a new one. -/
theorem createTaskWithBillingReservation_ok
    (h : createTaskWithBillingReservation task requestId targetQuota now db = .ok (task', db')) :
    (∃ r, db'.reservations.get? (trimSpace requestId) = some r ∧ BoundTo r task targetQuota) ∧
      ∃ stored, findTask task.userId task.taskId db' = some stored ∧
        (findTask task.userId task.taskId db = some stored ∨ stored.quota = targetQuota) := by
  simp only [createTaskWithBillingReservation, Tx.failIf_bind_ok_iff] at h
  obtain ⟨-, h⟩ := h
  rw [Tx.bind_ok_iff] at h
  obtain ⟨p, db₁, hBind, h⟩ := h
  obtain rfl := bindBilling_ok hBind
  rw [Tx.bind_ok_iff] at h
  obtain ⟨r, db₂, hLock, h⟩ := h
  obtain ⟨rfl, hRow⟩ := lockReservation_ok hLock
  simp only [Tx.failIf_bind_ok_iff, not_or, ne_eq, not_not] at h
  obtain ⟨⟨hUser, -⟩, -, h⟩ := h
  obtain ⟨adjusted, db₃, hAdjust, h⟩ := Tx.bind_ok h
  obtain ⟨hUser₃, hQuota₃, hTasks₃⟩ := adjustReservedBillingTx_row hAdjust
  -- The location plays no part in an adjustment.
  obtain ⟨-, hRow₃, -⟩ := adjustReservedBillingTx_transitions (Location.fixed 0) hAdjust hRow
  obtain ⟨named, db₄, hCreate, h⟩ := Tx.bind_ok h
  obtain ⟨hName, hStored⟩ := createOrFindTask_found hCreate
  obtain ⟨tasks, rfl⟩ := createOrFindTask_ok hCreate
  have hFound : ∃ stored, findTask task.userId task.taskId { db₃ with tasks := tasks } =
      some stored ∧ (findTask task.userId task.taskId db₂ = some stored ∨
        stored.quota = targetQuota) := by
    rcases hStored with ⟨stored, hOld, hSame⟩ | ⟨-, hNew, hQuota⟩
    · rw [hSame]
      refine ⟨stored, hOld, .inl ?_⟩
      unfold findTask at hOld ⊢
      rwa [← hTasks₃]
    · exact ⟨named, hNew, .inr hQuota⟩
  split at h
  · next hBound =>
      cases h
      exact ⟨⟨adjusted, hRow₃, hUser₃.trans hUser, hBound.1, hBound.2.trans hName, hQuota₃⟩,
        hFound⟩
  · obtain ⟨bound, db₅, hBound, h⟩ := Tx.bind_ok h
    cases h
    obtain ⟨rfl, ledger, -, rfl⟩ := bindResourceTx_ok hBound
    exact ⟨⟨_, get?_put_row hRow₃ rfl, hUser₃.trans hUser, rfl, hName, hQuota₃⟩, hFound⟩

/-- A retry finds the task it stored before, with the quota it asks for now. -/
def RetriesAlike (task : Task) (targetQuota : Int) (db : Database) : Prop :=
  ∀ stored, findTask task.userId task.taskId db = some stored → stored.quota = targetQuota

def sampleSubmission : Database where
  users := .single { id := 1, quota := 100 }
  reservations := .single {
    requestId := "r", userId := 1, tokenId := 0, fundingSource := .wallet, initialQuota := 5,
    reservedQuota := 5, tokenMode := .skipped, status := .reserved, version := 1 }

def sampleTask : Task := { id := 0, taskId := "t", userId := 1 }

def sampleBound : Database :=
  BillingTx.step .utc sampleSubmission (.createTask sampleTask "r" 10 1)

theorem sampleBound_quotas :
    (findTask 1 "t" sampleBound).map Task.quota = some 10 ∧
      (sampleBound.reservations.get? "r").map BillingReservation.reservedQuota = some 10 := by
  decide +kernel

end XyApi.Billing

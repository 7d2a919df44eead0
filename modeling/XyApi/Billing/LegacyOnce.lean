import XyApi.Billing.LegacyStages

/-!
A task that was charged before reservations existed ends charged once. It is either
closed by the transaction of its own or adopted, never both; whichever way it goes,
one call at most moves balances, and the task ends charged what it was settled at or
nothing. All of this depends on status updates that write the billing columns as
they are stored: an update writes the whole row from a copy, and a copy loaded
before the adoption undoes the link.
-/

namespace XyApi.Billing

open Lib Lib.Calendar Subscription

def Staged (T quota : Int) (db : Database) : Prop :=
  Unbilled T quota db ∨ ClosedOff T quota db ∨ Linked T quota db

def Ended (T quota : Int) (db : Database) : Prop :=
  ClosedOff T quota db ∨ Linked T quota db ∧
    ∃ r, db.reservations.get? (legacyTaskBillingRequestId T) = some r ∧ r.Finalized

section Ended

variable {T quota : Int} {db db' : Database} {c : LegacyCall}

theorem Staged.step (h : Staged T quota db) (hEffect : LegacyEffect T db db') :
    Staged T quota db' := by
  rcases h with h | h | h
  · exact h.step hEffect
  · exact .inr (.inl (h.step hEffect))
  · exact .inr (.inr (h.step hEffect))

/-- A reservation that is closed is closed for good. -/
theorem Linked.finalized_step (h : Linked T quota db)
    (hRow : db.reservations.get? (legacyTaskBillingRequestId T) = some r) (hFinal : r.Finalized)
    (hEffect : LegacyEffect T db db') :
    ∃ r', db'.reservations.get? (legacyTaskBillingRequestId T) = some r' ∧ r'.Finalized := by
  obtain ⟨task, hTask, hLink⟩ := h.task
  cases hEffect with
  | kept hView =>
    simp only [taskView, Prod.mk.injEq] at hView
    exact ⟨r, hView.2.1.trans hRow, hFinal⟩
  | adopted task' r' now hTask' hOpen hAdopted =>
    cases hTask'.symm.trans hTask
    have hKey : task.id = T := Table.key_of_get? hTask
    cases hAdopted with
    | linked => exact ⟨r, hRow, hFinal⟩
    | made note hFrom hInsert =>
      have hNone : db.reservations.get? r'.requestId = none := (Table.rows_insert? hInsert).2
      rw [hFrom.requestId, hKey, hRow] at hNone
      cases hNone
  | closed task' actualQuota now outcome' entry hTask' hUnlinked =>
    cases hTask'.symm.trans hTask
    rw [hLink] at hUnlinked
    exact absurd hUnlinked (trimSpace_legacyTaskBillingRequestId T)
  | request rid hNonempty hEffect =>
    by_cases hid : legacyTaskBillingRequestId T = rid
    · subst hid
      have hClosed : ClosedAs (legacyTaskBillingRequestId T) r db' :=
        hEffect.steps.preserve (fun _ _ hStep => hStep.closedAs hFinal) ⟨r, hRow, rfl, rfl⟩
      obtain ⟨r', hRow', hStatus, -⟩ := hClosed
      refine ⟨r', hRow', ?_⟩
      unfold BillingReservation.Finalized at hFinal ⊢
      rwa [hStatus]
    · exact ⟨r, (hEffect.steps.frame hid).trans hRow, hFinal⟩
  | finished => exact ⟨r, hRow, hFinal⟩

theorem Ended.step (h : Ended T quota db) (hEffect : LegacyEffect T db db') :
    Ended T quota db' := by
  rcases h with h | ⟨h, r, hRow, hFinal⟩
  · exact .inl (h.step hEffect)
  · exact .inr ⟨h.step hEffect, h.finalized_step hRow hFinal hEffect⟩

/-- Calls on the request of a closed reservation move no balance. -/
theorem sameBalances_of_finalized (hSteps : Transitions .utc rid db db')
    (hRow : db.reservations.get? rid = some r) (hFinal : r.Finalized) : SameBalances db db' := by
  have hKept : ClosedAs rid r db' ∧ SameBalances db db' :=
    hSteps.preserve (P := fun db' => ClosedAs rid r db' ∧ SameBalances db db')
      (fun _ _ hStep h => ⟨hStep.closedAs hFinal h.1,
        h.2.trans (hStep.sameBalances hFinal h.1)⟩) ⟨⟨r, hRow, rfl, rfl⟩, .refl db⟩
  exact hKept.2

/-- A task that is bound to a request is linked to the reservation of its own. -/
theorem Staged.linked (h : Staged T quota db) (hTask : db.tasks.get? T = some task)
    (hBound : task.privateData.billingRequestId = rid) (hNonempty : rid ≠ "") :
    Linked T quota db ∧ rid = legacyTaskBillingRequestId T := by
  have hSame {row : Task} {id : String} (hRow : db.tasks.get? T = some row)
      (hId : row.privateData.billingRequestId = id) : rid = id := by
    rw [hTask, Option.some.injEq] at hRow
    rw [← hBound, ← hId, hRow]
  rcases h with ⟨⟨row, hRow, hLink, -⟩, -⟩ | ⟨⟨row, _, hRow, hLink, -⟩, -⟩ | h
  · exact absurd (hSame hRow hLink) hNonempty
  · exact absurd (hSame hRow hLink) hNonempty
  · obtain ⟨row, hRow, hLink⟩ := h.task
    exact ⟨h, hSame hRow hLink⟩

theorem Ended.staged (h : Ended T quota db) : Staged T quota db := by
  rcases h with h | ⟨h, -⟩
  · exact .inr (.inl h)
  · exact .inr (.inr h)

/-- A settlement or refund through the reservation ends the billing; if it had ended
before, no balance moves. -/
theorem Staged.ended_of_request (h : Staged T quota db) (hNonempty : rid ≠ "")
    (hDone : RequestEffect T rid db db' ∧ ∃ task r, db.tasks.get? T = some task ∧
      task.privateData.billingRequestId = rid ∧ db'.reservations.get? rid = some r ∧
      r.Finalized) :
    Ended T quota db' ∧ (Ended T quota db → SameBalances db db') := by
  obtain ⟨hEffect, task, r', hTask, hBound, hRow', hFinal'⟩ := hDone
  obtain ⟨hLinked, rfl⟩ := h.linked hTask hBound hNonempty
  refine ⟨.inr ⟨hLinked.step (.request _ (.inl hNonempty) hEffect), r', hRow', hFinal'⟩, ?_⟩
  rintro (hClosed | ⟨-, r, hRow, hFinal⟩)
  · obtain ⟨row, hRow, -⟩ := hLinked.holds
    rw [hClosed.row] at hRow
    cases hRow
  · exact sameBalances_of_finalized hEffect.steps hRow hFinal

/-- A successful closing leaves the task closed off; if its billing had ended before,
no balance moves. -/
theorem Staged.closed_of_close (h : Staged T quota db)
    (hRun : finalizeLegacyTaskBilling T actualQuota outcome now db = .ok (result, db')) :
    ClosedOff T quota db' ∧ (Ended T quota db → SameBalances db db') := by
  have hEffect : LegacyEffect T db db' := close_effect hRun
  obtain ⟨task, hTask, hUnlinked, hStatus, hCase⟩ := finalizeLegacyTaskBilling_ok hRun
  have hNotLinked : ¬ Linked T quota db := by
    intro hLinked
    obtain ⟨row, hRow, hLink⟩ := hLinked.task
    rw [hTask, Option.some.injEq] at hRow
    rw [hRow, hLink] at hUnlinked
    exact trimSpace_legacyTaskBillingRequestId T hUnlinked
  rcases hCase with ⟨hFinal, -, -, rfl⟩ | ⟨hOpen, entry, db₁, ledger, hCharged, hLedger, rfl⟩
  · refine ⟨?_, fun _ => .refl _⟩
    rcases h with ⟨⟨row, hRow, -, hOpen, -⟩, -⟩ | hClosed | hLinked
    · rw [hTask, Option.some.injEq] at hRow
      rw [← hRow, hFinal] at hOpen
      cases hOpen
    · exact hClosed
    · exact absurd hLinked hNotLinked
  · have hNotClosed : ¬ ClosedOff T quota db := by
      rintro ⟨⟨row, _, hRow, -, -, hFinal, -⟩, -⟩
      rw [hTask, Option.some.injEq] at hRow
      rw [hRow, hFinal] at hOpen
      cases hOpen
    rcases h with hUnbilled | hClosed | hLinked
    · obtain ⟨row, hRow, hLink, -, hQuota⟩ := hUnbilled.task
      cases hRow.symm.trans hTask
      refine ⟨hUnbilled.closed hTask hLink hQuota hStatus hCharged hLedger, ?_⟩
      rintro (hClosed | ⟨hLinked, -⟩)
      · exact absurd hClosed hNotClosed
      · exact absurd hLinked hNotLinked
    · exact absurd hClosed hNotClosed
    · exact absurd hLinked hNotLinked

/-- A call that ends the billing leaves it ended or all balances as they were; if the
billing had ended before, it leaves all balances. -/
theorem Staged.finalizes (h : Staged T quota db) (hCall : c.Finalizes T) :
    (SameBalances db (c.step db) ∨ Ended T quota (c.step db)) ∧
      (Ended T quota db → SameBalances db (c.step db)) := by
  refine Tx.commit_preserves (P := fun db' => (SameBalances db db' ∨ Ended T quota db') ∧
    (Ended T quota db → SameBalances db db')) ⟨.inl (.refl db), fun _ => .refl db⟩
    fun u db' hRun => ?_
  cases c with
  | close taskId =>
    obtain rfl : taskId = T := hCall
    obtain ⟨result, hRun⟩ := Tx.void_ok_iff.mp hRun
    obtain ⟨hClosed, hSame⟩ := h.closed_of_close hRun
    exact ⟨.inr (.inl hClosed), hSame⟩
  | settleTask taskId =>
    obtain rfl : taskId = T := hCall
    simp only [LegacyCall.body, Tx.failIf_bind_ok_iff, not_or, Tx.void_ok_iff] at hRun
    obtain ⟨⟨-, hNonempty, -⟩, result, hRun⟩ := hRun
    obtain ⟨hEnded, hSame⟩ := h.ended_of_request hNonempty (settleJobTx_effect hRun)
    exact ⟨.inr hEnded, hSame⟩
  | refundTask taskId =>
    obtain rfl : taskId = T := hCall
    simp only [LegacyCall.body, refundTaskBillingReservation, refundJob, Tx.void_ok_iff,
      Tx.failIf_bind_ok_iff, not_or] at hRun
    obtain ⟨result, ⟨-, hNonempty⟩, hRun⟩ := hRun
    obtain ⟨hEnded, hSame⟩ := h.ended_of_request hNonempty (refundJobTx_effect hRun)
    exact ⟨.inr hEnded, hSame⟩
  | _ => exact hCall.elim

/-- A successful adoption leaves the task linked. -/
theorem Staged.linked_of_adopts (h : Staged T quota db) (hCall : c.Adopts T)
    (hSucceeds : c.Succeeds db) : Linked T quota (c.step db) ∧ ¬ ClosedOff T quota db := by
  obtain ⟨db', hRun⟩ := hSucceeds
  have hStep : c.step db = db' := by rw [LegacyCall.step, Tx.commit_of_ok hRun]
  rw [hStep]
  cases c with
  | adopt taskId =>
    obtain rfl : taskId = T := hCall
    obtain ⟨r, hAdopt⟩ := Tx.void_ok_iff.mp hRun
    have hEffect : LegacyEffect taskId db db' := adopt_effect hAdopt
    obtain ⟨task, hTask, hSuccess, hFailure, -, hCase⟩ :=
      adoptLegacyTaskBillingReservation_ok hAdopt
    have hNotClosed : ¬ ClosedOff taskId quota db := by
      rintro ⟨⟨row, _, hRow, -, hTerminal, -⟩, -⟩
      cases hRow.symm.trans hTask
      exact not_terminal hSuccess hFailure hTerminal
    refine ⟨?_, hNotClosed⟩
    rcases h with hUnbilled | hClosed | hLinked
    · obtain ⟨row, hRow, hLink, -, hQuota⟩ := hUnbilled.task
      cases hRow.symm.trans hTask
      rcases hCase with ⟨rid, hRid, hNonempty, -⟩ | ⟨-, hAdopted⟩
      · rw [hRid, hLink] at hNonempty
        exact absurd rfl hNonempty
      · exact hUnbilled.adopted hTask hQuota hAdopted
    · exact absurd hClosed hNotClosed
    · exact hLinked.step hEffect
  | _ => exact hCall.elim

theorem Staged.closed_of_closes (h : Staged T quota db) (hCall : c.Closes T)
    (hSucceeds : c.Succeeds db) : ClosedOff T quota (c.step db) ∧ ¬ Linked T quota db := by
  obtain ⟨db', hRun⟩ := hSucceeds
  have hStep : c.step db = db' := by rw [LegacyCall.step, Tx.commit_of_ok hRun]
  rw [hStep]
  cases c with
  | close taskId =>
    obtain rfl : taskId = T := hCall
    obtain ⟨result, hClose⟩ := Tx.void_ok_iff.mp hRun
    have hClosed := (h.closed_of_close hClose).1
    refine ⟨hClosed, fun hLinked => ?_⟩
    obtain ⟨r, hRow, -⟩ := (hLinked.step (close_effect hClose)).holds
    rw [hClosed.row] at hRow
    cases hRow
  | _ => exact hCall.elim

end Ended

/-! ### Wallets -/

section Wallets

variable {db : Database} {c : LegacyCall}

/-- Every wallet moves by what the ledger records for it. -/
theorem LegacyCall.step_walletsFollow : WalletsFollow db (c.step db) := by
  have hSteps {rid : String} {db' : Database} (h : Transitions .utc rid db db') :
      WalletsFollow db db' :=
    h.preserve (P := WalletsFollow db) (fun _ _ hStep hKept => hKept.trans hStep.walletsFollow)
      (.of_same (fun _ => rfl) fun _ => rfl)
  refine Tx.commit_preserves (.of_same (fun _ => rfl) fun _ => rfl) fun u db' h => ?_
  cases c with
  | adopt =>
    obtain ⟨r, hRun⟩ := Tx.void_ok_iff.mp h
    obtain ⟨task, -, -, -, -, ⟨_, -, -, -, -, rfl⟩ | ⟨-, hAdopted⟩⟩ :=
      adoptLegacyTaskBillingReservation_ok hRun
    · exact .of_same (fun _ => rfl) fun _ => rfl
    · cases hAdopted with
      | linked => exact .of_same (fun _ => rfl) fun _ => rfl
      | made note hFrom hRow hLedger =>
        have hNoted : NotedLedger db r _ := .inr ⟨.adopt, 1, note, hLedger⟩
        exact .of_same (fun _ => rfl) fun _ => hNoted.total_eq fun _ _ _ => rfl
  | close =>
    obtain ⟨result, hRun⟩ := Tx.void_ok_iff.mp h
    obtain ⟨task, -, -, -, ⟨-, -, -, rfl⟩ | ⟨-, entry, db₁, ledger, hCharged, hLedger, rfl⟩⟩ :=
      finalizeLegacyTaskBilling_ok hRun
    · exact .of_same (fun _ => rfl) fun _ => rfl
    · intro u
      have hTotal : ledgerTotal ledger (fun e => e.userId = u) QuotaLedgerEntry.userQuotaDelta =
          userTotal db u + if entry.userId = u then entry.userQuotaDelta else 0 :=
        ledgerTotal_insert? hLedger
      simp only [userTotal, hTotal, add_sub_cancel_left]
      rcases hCharged.wallets with ⟨hZero, hUsers⟩ | hMoved
      · simp [hZero, hUsers]
      · simp only [hMoved.get?_eq u, Option.map_map, eq_comm (a := u)]
        rfl
  | intendTask =>
    simp only [body, Tx.failIf_bind_ok_iff] at h
    exact hSteps (prepareJobSettlementTx_transitions .utc h.2)
  | settleTask =>
    simp only [body, Tx.failIf_bind_ok_iff, Tx.void_ok_iff] at h
    exact hSteps (settleJobTx_transitions .utc h.2.choose_spec)
  | refundTask =>
    simp only [body, refundTaskBillingReservation, refundJob, Tx.void_ok_iff,
      Tx.failIf_bind_ok_iff] at h
    exact hSteps (refundJobTx_transitions .utc h.choose_spec.2)
  | review => exact hSteps (recordBillingReconcileReview_transitions .utc h)
  | finish =>
    exact hSteps (updateTaskWithStatus_transitions .utc "" (Tx.void_ok_iff.mp h).choose_spec)

end Wallets

/-! ### Histories -/

/-- What the task ended charged with, if its billing has ended: the quota its
reservation or the task itself was settled at, or nothing. -/
def finalCharge (T : Int) (db : Database) : Option Int :=
  match db.reservations.get? (legacyTaskBillingRequestId T) with
  | some r =>
    if r.status = .settled then some r.settledQuota
    else if r.status = .refunded then some 0
    else none
  | none => do
      let task ← db.tasks.get? T
      if task.privateData.legacyBillingFinalized then
        task.privateData.legacyBillingOutcome.map
          (legacyFinal task.privateData.legacyBillingFinalQuota)
      else none

/-- The calls of a history charge the task `T` once. `quota` is what it was charged when
it was submitted. -/
structure ChargedOnce (T quota : Int) (db : Database) (calls : List LegacyCall) : Prop where
  exclusive : ∀ before first between second after,
    calls = before ++ first :: (between ++ second :: after) →
    (first.Adopts T ∧ second.Closes T) ∨ (first.Closes T ∧ second.Adopts T) →
    first.Succeeds (run LegacyCall.step db before) →
    ¬ second.Succeeds (run LegacyCall.step db (before ++ first :: between))
  once : ∀ before first between second after,
    calls = before ++ first :: (between ++ second :: after) →
    first.Finalizes T → second.Finalizes T →
    ¬ SameBalances (run LegacyCall.step db before) (run LegacyCall.step db (before ++ [first])) →
    SameBalances (run LegacyCall.step db (before ++ first :: between))
      (run LegacyCall.step db (before ++ first :: (between ++ [second])))
  charge : ∀ final, finalCharge T (run LegacyCall.step db calls) = some final →
    quota + requestCharge (run LegacyCall.step db calls) (legacyTaskBillingRequestId T) = final
  wallets : WalletsFollow db (run LegacyCall.step db calls)

section Histories

variable {T quota : Int}

theorem Staged.charge (h : Staged T quota db) (hFinal : finalCharge T db = some final) :
    quota + requestCharge db (legacyTaskBillingRequestId T) = final := by
  unfold finalCharge at hFinal
  rcases h with h | h | h
  · obtain ⟨task, hTask, -, hOpen, -⟩ := h.task
    simp [h.row, hTask, hOpen] at hFinal
  · obtain ⟨task, outcome, hTask, -, -, hClosed, hOutcome, hCharge⟩ := h.task
    simp only [h.row, hTask, Option.bind_eq_bind, Option.bind_some, hClosed, if_true, hOutcome,
      Option.map_some, Option.some.injEq] at hFinal
    exact hCharge.trans hFinal
  · obtain ⟨r, hRow, hCharge, hWell⟩ := h.holds
    simp only [hRow] at hFinal
    rw [hCharge, heldCharge]
    split at hFinal
    · next hSettled =>
        rw [← Option.some.inj hFinal, hWell.2 hSettled]
        simp [hSettled]
    · split at hFinal
      · next hRefunded => simpa [hRefunded] using hFinal
      · cases hFinal

theorem Staged.run (h : Staged T quota db)
    (hGuard : Guarded LegacyCall.step LegacyCall.KeepsBilling db calls) :
    Staged T quota (run LegacyCall.step db calls) :=
  guarded_invariant (fun _ _ hKeeps h => h.step (LegacyCall.step_effect hKeeps)) h hGuard

/-- If every status update of a history keeps the billing columns of the row it
replaces, a task without a reservation is charged once. -/
theorem legacy_task_charged_once {task : Task} (hTask : db.tasks.get? T = some task)
    (hLink : task.privateData.billingRequestId = "")
    (hOpen : task.privateData.legacyBillingFinalized = false)
    (hRow : db.reservations.get? (legacyTaskBillingRequestId T) = none)
    (hEntries : ∀ e ∈ db.quotaLedger.rows, e.requestId ≠ legacyTaskBillingRequestId T)
    (hGuard : Guarded LegacyCall.step LegacyCall.KeepsBilling db calls) :
    ChargedOnce T task.quota db calls := by
  have hStart : Staged T task.quota db := by
    refine .inl ⟨⟨task, hTask, hLink, hOpen, rfl⟩, hRow, ?_⟩
    exact Table.sum_eq_zero fun e he => if_neg (hEntries e he)
  constructor
  · rintro before first between second after rfl hCalls hFirst hSecond
    rw [guarded_append] at hGuard
    obtain ⟨hBefore, hKeeps, hRest⟩ := hGuard
    rw [guarded_append] at hRest
    obtain ⟨hBetween, -⟩ := hRest
    have hStaged := hStart.run hBefore
    rw [run_append, run_cons] at hSecond
    have hStaged₂ := (hStaged.step (LegacyCall.step_effect hKeeps)).run hBetween
    rcases hCalls with ⟨hAdopts, hCloses⟩ | ⟨hCloses, hAdopts⟩
    · have hLinked := (hStaged.linked_of_adopts hAdopts hFirst).1
      have hLinked₂ : Linked T task.quota _ := guarded_invariant
        (fun _ _ hKeeps h => h.step (LegacyCall.step_effect hKeeps)) hLinked hBetween
      exact (hStaged₂.closed_of_closes hCloses hSecond).2 hLinked₂
    · have hClosed := (hStaged.closed_of_closes hCloses hFirst).1
      have hClosed₂ : ClosedOff T task.quota _ := guarded_invariant
        (fun _ _ hKeeps h => h.step (LegacyCall.step_effect hKeeps)) hClosed hBetween
      exact (hStaged₂.linked_of_adopts hAdopts hSecond).2 hClosed₂
  · rintro before first between second after rfl hFirst hSecond hMoved
    rw [guarded_append] at hGuard
    obtain ⟨hBefore, hKeeps, hRest⟩ := hGuard
    rw [guarded_append] at hRest
    obtain ⟨hBetween, -⟩ := hRest
    have hStaged := hStart.run hBefore
    simp only [run_append, run_cons, run_nil] at hMoved ⊢
    have hEnded : Ended T task.quota _ := (hStaged.finalizes hFirst).1.resolve_left hMoved
    have hEnded₂ : Ended T task.quota _ := guarded_invariant
      (fun _ _ hKeeps h => h.step (LegacyCall.step_effect hKeeps)) hEnded hBetween
    exact (hEnded₂.staged.finalizes hSecond).2 hEnded₂
  · exact fun final => (hStart.run hGuard).charge
  · exact run_invariant (P := WalletsFollow db)
      (fun _ _ h => h.trans LegacyCall.step_walletsFollow) (.of_same (fun _ => rfl) fun _ => rfl)
      calls

end Histories

def sampleLegacyTask : Task :=
  { id := 7, taskId := "t", userId := 1, quota := 5, status := .inProgress }

def sampleLegacy : Database where
  users := .single { id := 1, quota := 100 }
  tasks := .single sampleLegacyTask

def sampleAdoption : List LegacyCall :=
  [.adopt 7 10,
    .finish (linkTask sampleLegacyTask "legacy-task-7" 10) .settle .inProgress,
    .close 7 3 .settle 11,
    .intendTask 7 "legacy-task-7" 3 12,
    .settleTask 7 "legacy-task-7" 3 13]

theorem legacy_task_charged_once_adopted :
    ChargedOnce 7 5 sampleLegacy sampleAdoption ∧
      finalCharge 7 (run LegacyCall.step sampleLegacy sampleAdoption) = some 3 :=
  ⟨legacy_task_charged_once
    (show sampleLegacy.tasks.get? 7 = some sampleLegacyTask by decide) rfl rfl (by decide)
    (by simp [sampleLegacy]) (by decide +kernel), by decide +kernel⟩

/-- A sweep that loaded the task before the adoption finishes it from its copy, and the
task is closed off as if it had never been adopted. -/
def sampleSweep : List LegacyCall :=
  [.adopt 7 10, .finish sampleLegacyTask .refund .inProgress, .close 7 0 .refund 12]

theorem stale_copy_undoes_adoption :
    (run LegacyCall.step sampleLegacy sampleSweep).users.rows.map User.quota = [105] ∧
      (run LegacyCall.step sampleLegacy sampleSweep).reservations.rows.map
        (fun r => (r.status, r.reservedQuota)) = [(.reserved, 5)] ∧
      ¬ ChargedOnce 7 5 sampleLegacy sampleSweep := by
  refine ⟨by decide +kernel, by decide +kernel, fun h => ?_⟩
  refine h.exclusive [] (.adopt 7 10) [.finish sampleLegacyTask .refund .inProgress]
    (.close 7 0 .refund 12) [] rfl (.inl ⟨rfl, rfl⟩) ?_ ?_
  · exact ⟨_, rfl⟩
  · exact ⟨_, rfl⟩

end XyApi.Billing

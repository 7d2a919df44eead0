import XyApi.Billing.Absorption
import XyApi.Billing.Revision

/-!
The transactions on a request that has its reservation. Each one, started where
the ledger is in order, leaves it in order and meets no key that is taken.
-/

namespace XyApi.Billing

open Lib Lib.Calendar Subscription

/-! ### The calls of a request -/

section Requests

variable {requestId : String}

theorem extendBillingReservation_meets :
    (extendBillingReservation requestId targetQuota now).Meets LedgerInOrder
      (fun _ => LedgerInOrder) NotDuplicate := by
  refine .check (by decide) fun _ => ?_
  refine .bind lockReservation_meets fun r => .ite (fun _ => ?_) fun _ => ?_
  · refine .check notDuplicate_finalized fun _ => ?_
    exact .pure fun _ h => h.inOrder
  · exact adjustReservedBillingTx_meets.conseq (fun _ h => h) fun _ _ h => h.inOrder

theorem prepareSettlementWithMode_meets :
    (prepareSettlementWithMode requestId targetQuota mode now).Meets LedgerInOrder
      (fun _ => LedgerInOrder) NotDuplicate := by
  refine .check (by decide) fun _ => ?_
  exact .bind lockReservation_meets fun r => persistBillingReservationSettlementIntentTx_meets

theorem paymentFreezePreviousUserStatusTx_quiet :
    Quiet ledgerTables (paymentFreezePreviousUserStatusTx user) := by
  refine .check (by decide) fun _ => .ite (.pure _) ?_
  exact .bind (.read _) fun _ => .bind (.read _) fun _ => .ite (.pure _) (.pure _)

theorem ledgerTables_freezeUser :
    ledgerTables (freezeUser userId db) = ledgerTables db := by
  unfold freezeUser
  split <;> rfl

theorem markBillingReservationSettlementShortfall_meets :
    (markBillingReservationSettlementShortfall requestId targetQuota code now).Meets LedgerInOrder
      (fun _ => LedgerInOrder) NotDuplicate := by
  refine .check (by decide) fun _ => ?_
  refine .bind (.require (by decide)) fun failure => .of_and fun _ => ?_
  refine .bind lockReservation_meets fun r => .ite (fun _ => ?_) fun _ => ?_
  · exact .pure fun _ h => h.inOrder
  · refine .check notDuplicate_finalized fun _ => ?_
    refine .check (by decide) fun _ => ?_
    refine .check (by decide) fun _ => ?_
    refine .bind (.read (Q := fun _ => Held r) fun _ h => h) fun user? => ?_
    refine .bind (.require (by decide)) fun user => .of_and fun _ => ?_
    refine .bind ((paymentFreezePreviousUserStatusTx_quiet).meets Held.congr) fun _ => ?_
    refine .bind recordShortfallTx_meets fun marked => ?_
    refine .bind (.write fun db h => ?_) fun _ => .pure fun _ h => h
    exact h.congr _ _ ledgerTables_freezeUser

theorem settleBillingReservation_meets :
    (settleBillingReservation requestId targetQuota now).Meets LedgerInOrder
      (fun _ => LedgerInOrder) NotDuplicate := by
  refine .check (by decide) fun _ => ?_
  refine .bind lockReservation_meets fun r => ?_
  exact .bind settleBillingReservationTx_meets fun _ => .pure fun _ h => h.1.inOrder

theorem refundBillingReservation_meets :
    (refundBillingReservation requestId now).Meets LedgerInOrder (fun _ => LedgerInOrder)
      NotDuplicate := by
  refine .check (by decide) fun _ => ?_
  refine .bind lockReservation_meets fun r => ?_
  exact .bind refundBillingReservationTx_meets fun _ => .pure fun _ h => h.1.inOrder

theorem recordBillingReconcileReview_meets :
    (recordBillingReconcileReview requestId note now).Meets LedgerInOrder
      (fun _ => LedgerInOrder) NotDuplicate := by
  refine .bind (.read (Q := fun row? db => LedgerInOrder db ∧
    row? = db.reservations.get? requestId) fun _ h => ⟨h, rfl⟩) fun row? => ?_
  refine .bind (.require (by decide)) fun r => ?_
  have hLocked (db : Database)
      (h : (LedgerInOrder db ∧ row? = db.reservations.get? requestId) ∧ row? = some r) :
      Held r db := by
    have hRow := h.1.2.symm.trans h.2
    have hKey : r.requestId = requestId := Table.key_of_get? hRow
    exact h.1.1.held (hKey ▸ hRow)
  refine .ite (fun _ => .pure fun db h => (hLocked db h).inOrder) fun _ => ?_
  refine .bind (.write (R := Held (reviewedReservation r (truncateBytes 255 note) now))
    fun db h => ⟨(hLocked db h).1.put rfl id, (hLocked db h).2⟩) fun _ => ?_
  refine .write fun db h => ?_
  cases hInsert : db.quotaLedger.insert?
      { r.ledgerEntry .review r.version with note := truncateBytes 255 note } with
  | none => exact h.inOrder
  | some ledger => exact (h.1.entered hInsert rfl le_rfl le_rfl).inOrder le_rfl h.2

end Requests

/-! ### Jobs -/

theorem le_foldl_max (ids : List Int) (start : Int) :
    start ≤ ids.foldl max start ∧ ∀ id ∈ ids, id ≤ ids.foldl max start := by
  induction ids generalizing start with
  | nil => simp
  | cons id ids ih =>
    obtain ⟨hStart, hIds⟩ := ih (max start id)
    simp only [List.foldl_cons, List.mem_cons, forall_eq_or_imp]
    exact ⟨(le_max_left start id).trans hStart, (le_max_right start id).trans hStart, hIds⟩

theorem nextId_not_mem : Database.nextId ids ∉ ids := by
  intro h
  have := (le_foldl_max ids 0).2 _ h
  unfold Database.nextId at this
  omega

section Jobs

variable {requestId : String}

theorem bindBilling_quiet :
    Quiet ledgerTables (bindBilling p requestId targetQuota succeeded) := by
  refine .ite ?_ (.pure _)
  exact .check (by decide) fun _ => .check (by decide) fun _ => .pure _

/-- A task without an id gets one that is free. -/
theorem createOrFindTask_quiet (hId : task.id = 0) :
    Quiet ledgerTables (createOrFindTask task requestId) := by
  constructor
  · refine .bind .read fun existing? => ?_
    cases existing? with
    | some => exact .check fun _ => .pure
    | none =>
      refine .bind .read fun _ => .fetch fun _ => ?_
      exact .bind (.write fun _ => rfl) fun _ => .pure
  · intro db e h
    simp only [createOrFindTask, Tx.read_bind_apply] at h
    cases hFind : db.tasks.rows.find?
        (fun t => t.userId = task.userId ∧ t.taskId = task.taskId) with
    | some existing =>
      simp only [hFind, Tx.failIf_bind_error_iff, Tx.pure_error_iff, and_false, or_false] at h
      rw [← h.2]
      decide
    | none =>
      simp only [hFind, Tx.read_bind_apply, Tx.require_bind_error_iff, Tx.write_bind_apply,
        Tx.pure_error_iff, and_false, exists_false, or_false, hId, if_true] at h
      obtain ⟨taken, hTaken⟩ := Table.insert?_eq_none_iff.mp h.1
      have hMem := List.mem_map_of_mem (f := Task.id) (Table.mem_of_get? hTaken)
      rw [Table.key_of_get? hTaken] at hMem
      exact absurd hMem nextId_not_mem

theorem createTaskWithBillingReservation_meets (hId : task.id = 0) :
    (createTaskWithBillingReservation task requestId targetQuota now).Meets LedgerInOrder
      (fun _ => LedgerInOrder) NotDuplicate := by
  refine .check (by decide) fun _ => ?_
  refine .bind (bindBilling_quiet.meets LedgerInOrder.congr) fun p => ?_
  refine .bind lockReservation_meets fun r => ?_
  refine .check (by decide) fun _ => ?_
  refine .check (by decide) fun _ => ?_
  refine .bind adjustReservedBillingTx_meets fun adjusted => ?_
  refine .bind (Quiet.meets (createOrFindTask_quiet ?_) Held.congr) fun stored => ?_
  · exact hId
  refine .ite (fun _ => .pure fun _ h => h.inOrder) fun _ => ?_
  exact .bind bindResourceTx_meets fun _ => .pure fun _ h => h.inOrder

theorem lockJobAndReservation_meets {J : Type} (kind : JobKind J) :
    (lockJobAndReservation kind jobId requestId outcome).Meets LedgerInOrder
      (fun result => Held result.2) NotDuplicate := by
  refine .bind (.read (Q := fun _ => LedgerInOrder) fun _ h => h) fun job? => ?_
  refine .bind (.require (by decide)) fun job => .of_and fun _ => ?_
  refine .check (by decide) fun _ => ?_
  refine .bind lockReservation_meets fun r => ?_
  exact .check (by decide) fun _ => .pure fun _ h => h

theorem jobIntentMode_quiet :
    Quiet ledgerTables (jobIntentMode p targetQuota) :=
  .check (by decide) fun _ => .pure _

theorem ledgerTables_put {J : Type} (kind : JobKind J) (job : J) (db : Database) :
    ledgerTables (kind.put job db) = ledgerTables db := by
  obtain ⟨tasks, midjourneys, hEq⟩ := kind.put_frame job db
  rw [hEq]
  rfl

theorem prepareJobSettlementTx_meets {J : Type} (kind : JobKind J) :
    (prepareJobSettlementTx kind jobId requestId targetQuota now).Meets LedgerInOrder
      (fun _ => LedgerInOrder) NotDuplicate := by
  refine .bind (lockJobAndReservation_meets kind) fun result => ?_
  refine .bind (jobIntentMode_quiet.meets Held.congr) fun mode => ?_
  exact persistBillingReservationSettlementIntentTx_meets

theorem settleJobTx_meets {J : Type} (kind : JobKind J) :
    (settleJobTx kind jobId requestId targetQuota now).Meets LedgerInOrder
      (fun _ => LedgerInOrder) NotDuplicate := by
  refine .bind (lockJobAndReservation_meets kind) fun result => ?_
  refine .bind (jobIntentMode_quiet.meets Held.congr) fun mode => ?_
  refine .bind settleBillingReservationTx_meets fun settled => ?_
  refine .bind (.write fun db h => ?_) fun _ => .pure fun _ h => h
  exact h.1.inOrder.congr _ _ (ledgerTables_put kind _ db)

theorem refundJobTx_meets {J : Type} (kind : JobKind J) :
    (refundJobTx kind jobId requestId now).Meets LedgerInOrder (fun _ => LedgerInOrder)
      NotDuplicate := by
  refine .bind (lockJobAndReservation_meets kind) fun result => ?_
  refine .bind (refundBillingReservationTx_meets.conseq (fun _ h => h) fun _ _ h =>
    h.1.inOrder) fun refunded => ?_
  have hClear : Quiet ledgerTables
      (Tx.when (billingTargetQuotaIntent (kind.privateData result.1) ≠ none)
        (Tx.write (kind.put (kind.cleared result.1 now)))) :=
    .when (.write (ledgerTables_put kind _))
  exact .bind (hClear.meets LedgerInOrder.congr) fun _ => .pure fun _ h => h

theorem updateTaskWithStatus_quiet :
    Quiet ledgerTables (updateTaskWithStatus task fromStatus) := by
  refine .check (by decide) fun _ => .bind (.read _) fun _ => .ite ?_ (.pure _)
  exact .bind (.write fun _ => rfl) fun _ => .pure _

theorem updateMidjourneyWithStatus_quiet :
    Quiet ledgerTables (updateMidjourneyWithStatus task fromStatus) := by
  refine .bind (.read _) fun _ => .ite ?_ (.pure _)
  exact .bind (.write fun _ => rfl) fun _ => .pure _

theorem claimMidjourneyBillingReservation_meets :
    (claimMidjourneyBillingReservation requestId now).Meets LedgerInOrder
      (fun _ => LedgerInOrder) NotDuplicate := by
  refine .check (by decide) fun _ => ?_
  refine .bind lockReservation_meets fun r => ?_
  refine .check notDuplicate_finalized fun _ => ?_
  refine .ite (fun _ => ?_) fun _ => ?_
  · exact .check (by decide) fun _ => .pure fun _ h => h.inOrder
  · exact .bind bindResourceTx_meets fun _ => .pure fun _ h => h.inOrder

theorem refundUnclaimedMidjourneyBillingReservation_meets :
    (refundUnclaimedMidjourneyBillingReservation requestId now).Meets LedgerInOrder
      (fun _ => LedgerInOrder) NotDuplicate := by
  refine .check (by decide) fun _ => ?_
  refine .bind lockReservation_meets fun r => ?_
  refine .ite (fun _ => .pure fun _ h => h.inOrder) fun _ => ?_
  exact .bind refundBillingReservationTx_meets fun _ => .pure fun _ h => h.1.inOrder

theorem findBoundMidjourney_quiet :
    Quiet ledgerTables (findBoundMidjourney task r requestId targetQuota) := by
  refine .check (by decide) fun _ => .bind (.require (by decide)) fun _ => ?_
  refine .check (by decide) fun _ => .bind (.read _) fun _ => ?_
  exact .bind (.require (by decide)) fun _ => .check (by decide) fun _ => .pure _

theorem insertMidjourney_quiet (hId : task.id = 0) :
    Quiet ledgerTables (insertMidjourney task) := by
  constructor
  · refine .bind .read fun _ => .fetch fun _ => ?_
    exact .bind (.write fun _ => rfl) fun _ => .pure
  · intro db e h
    simp only [insertMidjourney, Tx.read_bind_apply, Tx.require_bind_error_iff,
      Tx.write_bind_apply, Tx.pure_error_iff, and_false, exists_false, or_false, hId,
      if_true] at h
    obtain ⟨taken, hTaken⟩ := Table.insert?_eq_none_iff.mp h.1
    have hMem := List.mem_map_of_mem (f := Midjourney.id) (Table.mem_of_get? hTaken)
    rw [Table.key_of_get? hTaken] at hMem
    exact absurd hMem nextId_not_mem

theorem createMidjourneyWithBillingReservation_meets (hId : task.id = 0) :
    (createMidjourneyWithBillingReservation task requestId targetQuota now).Meets LedgerInOrder
      (fun _ => LedgerInOrder) NotDuplicate := by
  refine .check (by decide) fun _ => ?_
  refine .bind (bindBilling_quiet.meets LedgerInOrder.congr) fun p => ?_
  refine .bind lockReservation_meets fun r => ?_
  refine .check (by decide) fun _ => .ite (fun _ => ?_) fun _ => ?_
  · exact (findBoundMidjourney_quiet.meets Held.congr).conseq (fun _ h => h) fun _ _ h =>
      h.inOrder
  · refine .check (by decide) fun _ => ?_
    refine .bind adjustReservedBillingTx_meets fun adjusted => ?_
    refine .bind (Quiet.meets (insertMidjourney_quiet ?_) Held.congr) fun stored => ?_
    · exact hId
    exact .bind bindResourceTx_meets fun _ => .pure fun _ h => h.inOrder

end Jobs

/-! ### The administrator -/

section Administration

variable {db db' : Database}
  {input : BillingReservationAdminResolutionInput} {kind : AdminResolution} {now : Int}

def Uninstructed (requestId : String) (db : Database) : Prop :=
  ∀ a ∈ db.adminResolutions.rows, a.requestId ≠ requestId

theorem Booked.adminResolutions_eq (h : Booked db r r' delta db') :
    db'.adminResolutions = db.adminResolutions := by
  obtain ⟨_, _, _, _, hFunding, -, -⟩ := h
  cases hFunding <;> rfl

theorem finalizeByAdminTx_instructions
    (h : finalizeByAdminTx input r now kind db = .ok ((applied, r'), db')) :
    r'.requestId = r.requestId ∧ db'.adminResolutions = db.adminResolutions := by
  cases kind with
  | settle =>
    obtain ⟨-, -, -, rfl, rfl⟩ | ⟨-, -, adjusted, db₁, ledger, rfl, hAdjust, -, hReleased⟩ :=
      settleBillingReservationTx_ok h
    · exact ⟨rfl, rfl⟩
    · rw [hReleased.users_eq.1]
      obtain ⟨rfl, -, rfl⟩ | ⟨rfl, -, hBooked⟩ := hAdjust
      · exact ⟨rfl, rfl⟩
      · exact ⟨rfl, hBooked.adminResolutions_eq⟩
  | refund =>
    obtain ⟨-, -, rfl, rfl⟩ | ⟨-, -, rfl, db₁, hBooked, hReleased⟩ :=
      refundBillingReservationTx_ok h
    · exact ⟨rfl, rfl⟩
    · rw [hReleased.users_eq.1]
      exact ⟨rfl, hBooked.adminResolutions_eq⟩

theorem finalizeByAdminTx_meets :
    (finalizeByAdminTx input r now kind).Meets
      (fun db => Held r db ∧ Uninstructed r.requestId db)
      (fun result db => HeldClosed result db ∧ Uninstructed result.2.requestId db)
      NotDuplicate := by
  have hClosed : (finalizeByAdminTx input r now kind).Meets (Held r) HeldClosed NotDuplicate := by
    cases kind with
    | settle => exact settleBillingReservationTx_meets
    | refund => exact refundBillingReservationTx_meets
  rintro db ⟨hHeld, hNone⟩
  refine ⟨fun result db' hRun => ⟨(hClosed db hHeld).1 _ _ hRun, ?_⟩, (hClosed db hHeld).2⟩
  obtain ⟨hId, hInstructions⟩ := finalizeByAdminTx_instructions hRun
  unfold Uninstructed
  rw [hInstructions, hId]
  exact hNone

/-- The first instruction of a closed request goes in. -/
theorem createAdminResolution_meets (hId : a.requestId = r.requestId) (hFinal : r.Finalized) :
    (createAdminResolution a).Meets (fun db => Held r db ∧ Uninstructed r.requestId db)
      (fun _ => Held r) NotDuplicate := by
  rintro db ⟨⟨h, hStarted⟩, hNone⟩
  have hClash : ¬ (db.adminResolutions.rows.any fun b =>
      b.requestId = a.requestId ∧ b.revision = a.revision) = true := by
    rw [List.any_eq_true]
    rintro ⟨b, hMem, hSame⟩
    exact hNone b hMem (by simpa [hId] using (of_decide_eq_true hSame).1)
  have hInsert : db.adminResolutions.insert? a ≠ none := by
    rw [ne_eq, Table.insert?_eq_none_iff]
    rintro ⟨b, hOld⟩
    have hKey : b.key = a.key := Table.key_of_get? hOld
    simp only [BillingReservationAdminResolution.key, Prod.mk.injEq] at hKey
    exact hNone b (Table.mem_of_get? hOld) (hKey.1.trans hId)
  constructor
  · intro u db' hRun
    simp only [createAdminResolution, Tx.read_bind_apply, Tx.failIf_bind_ok_iff,
      Tx.require_bind_ok_iff, Tx.write_ok_iff] at hRun
    obtain ⟨-, rows, hRows, rfl⟩ := hRun
    refine ⟨{ h with instructed := fun _ => hFinal, instructions := ?_ }, hStarted⟩
    intro b hMem hOther
    simp only [(Table.rows_insert? hRows).1, List.mem_append, List.mem_singleton] at hMem
    rcases hMem with hMem | rfl
    · exact h.instructions b hMem hOther
    · exact absurd hId hOther
  · intro e hRun
    simp only [createAdminResolution, Tx.read_bind_apply, Tx.failIf_bind_error_iff,
      Tx.require_bind_error_iff, Tx.write_error_iff, and_false, exists_false, or_false] at hRun
    rcases hRun with ⟨hTaken, -⟩ | ⟨-, hTaken, -⟩
    · exact absurd hTaken hClash
    · exact absurd hTaken hInsert

theorem applyAdminResolutionTx_meets :
    (applyAdminResolutionTx input kind r now).Meets
      (fun db => Held r db ∧ Uninstructed r.requestId db) (fun _ => LedgerInOrder)
      NotDuplicate := by
  refine .bind finalizeByAdminTx_meets fun result => ?_
  obtain ⟨applied, closed⟩ := result
  refine .check (by decide) fun hApplied => ?_
  by_cases hFinal : closed.Finalized
  · refine .bind ((createAdminResolution_meets rfl hFinal).conseq (fun _ h => ⟨h.1.1, h.2⟩)
      fun _ _ h => h) fun _ => .of_and fun hStarted => ?_
    refine .bind (createNextEntry_meets hStarted rfl rfl) fun _ => ?_
    refine .bind (.read (Q := fun _ => Locked (closed.version + 1) closed) fun _ h => h)
      fun stored? => ?_
    refine .bind (.require (by decide)) fun _ => .of_and fun _ => ?_
    refine .bind (.write fun db h => h.put rfl id) fun _ => .pure fun _ h => ?_
    exact h.inOrder le_rfl (hStarted.trans (Int.le_add_one le_rfl))
  · intro db h
    exact absurd (h.1.2 (by simpa using hApplied)) hFinal

theorem validateBillingReservationAdminResolution_quiet :
    Quiet ledgerTables (validateBillingReservationAdminResolution input) := by
  refine .check (by decide) fun _ => .bind (.require (by decide)) fun kind => ?_
  refine .bind ?_ fun _ => .pure _
  cases kind <;> exact .failIf (by simp [NotDuplicate])

theorem resolveBillingReservationByAdmin_meets :
    (resolveBillingReservationByAdmin input now).Meets LedgerInOrder (fun _ => LedgerInOrder)
      NotDuplicate := by
  refine .bind (validateBillingReservationAdminResolution_quiet.meets LedgerInOrder.congr)
    fun result => ?_
  refine .bind lockReservation_meets fun r => ?_
  refine .bind (.read (Q := fun _ => Held r) fun _ h => h) fun existing? => ?_
  cases existing? with
  | some =>
    exact .check (by decide) fun _ => .pure fun _ h => h.inOrder
  | none =>
    refine .check (by decide) fun _ => ?_
    refine .check notDuplicate_finalized fun hStatus => ?_
    refine .check (by decide) fun _ => ?_
    -- An open request has had no instruction.
    refine applyAdminResolutionTx_meets.conseq (fun db h => ⟨h, fun a hMem hId => ?_⟩)
      fun _ _ h => h
    exact finalized_ne_reserved (h.1.instructed ⟨a, hMem, hId⟩) (not_not.mp hStatus)

end Administration

end XyApi.Billing

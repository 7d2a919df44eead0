import XyApi.Billing.RevisionOpening

/-!
No billing operation is refused by a unique index of its own records, and the
version of a reservation grows with every change of its status or of a balance.
-/

namespace XyApi.Billing

open Lib Lib.Calendar Subscription

/-! ### Versions -/

/-- The version of the reservation has not gone back, and if it is still the same then
nothing about the reservation or any balance has changed. -/
def Advanced (rid : String) (db db' : Database) : Prop :=
  ∀ r, db.reservations.get? rid = some r → ∃ r', db'.reservations.get? rid = some r' ∧
    r.version ≤ r'.version ∧ (r'.version = r.version →
      r'.status = r.status ∧ r'.reservedQuota = r.reservedQuota ∧ SameBalances db db')

section Versions

variable {loc : Location} {rid : String} {db db' : Database}

theorem Advanced.refl (db : Database) : Advanced rid db db := fun r hRow =>
  ⟨r, hRow, le_rfl, fun _ => ⟨rfl, rfl, .refl db⟩⟩

theorem Advanced.trans (h₁ : Advanced rid db db₁) (h₂ : Advanced rid db₁ db') : Advanced rid db db' := by
  intro r hRow
  obtain ⟨r₁, hRow₁, hLe₁, hSame₁⟩ := h₁ r hRow
  obtain ⟨r₂, hRow₂, hLe₂, hSame₂⟩ := h₂ r₁ hRow₁
  refine ⟨r₂, hRow₂, hLe₁.trans hLe₂, fun hVersion => ?_⟩
  obtain ⟨hStatus₁, hReserved₁, hBalances₁⟩ := hSame₁ (by omega)
  obtain ⟨hStatus₂, hReserved₂, hBalances₂⟩ := hSame₂ (by omega)
  exact ⟨hStatus₂.trans hStatus₁, hReserved₂.trans hReserved₁, hBalances₁.trans hBalances₂⟩

/-- The row is replaced by a later version. -/
theorem Advanced.of_later (hRow : db.reservations.get? rid = some r)
    (hPut : db'.reservations = db.reservations.put r') (hId : r'.requestId = r.requestId)
    (hLater : r.version < r'.version) : Advanced rid db db' := by
  intro row hOld
  cases hOld.symm.trans hRow
  refine ⟨r', ?_, hLater.le, fun hSame => absurd hSame hLater.ne'⟩
  rw [hPut]
  exact get?_put_row hRow hId

/-- The row is replaced while all balances stay. -/
theorem Advanced.of_same (hRow : db.reservations.get? rid = some r)
    (hPut : db'.reservations = db.reservations.put r') (hId : r'.requestId = r.requestId)
    (hLe : r.version ≤ r'.version) (hStatus : r'.status = r.status)
    (hReserved : r'.reservedQuota = r.reservedQuota) (hBalances : SameBalances db db') :
    Advanced rid db db' := by
  intro row hOld
  cases hOld.symm.trans hRow
  refine ⟨r', ?_, hLe, fun _ => ⟨hStatus, hReserved, hBalances⟩⟩
  rw [hPut]
  exact get?_put_row hRow hId

/-- Rows that are there stay as they are. -/
theorem Advanced.of_kept (hRows : ∀ r, db.reservations.get? rid = some r →
    db'.reservations.get? rid = some r) (hBalances : SameBalances db db') :
    Advanced rid db db' := fun r hRow =>
  ⟨r, hRows r hRow, le_rfl, fun _ => ⟨rfl, rfl, hBalances⟩⟩

theorem PlainRow.columns (h : PlainRow r r') :
    r'.requestId = r.requestId ∧ r.version ≤ r'.version ∧ r'.status = r.status ∧
      r'.reservedQuota = r.reservedQuota := by
  cases h <;> refine ⟨rfl, ?_, rfl, rfl⟩
  · exact Int.le_add_one le_rfl
  · exact Int.le_add_one le_rfl
  · exact le_rfl
  · exact Int.le_add_one le_rfl

theorem Transition.advanced (h : Transition loc rid db db') : Advanced rid db db' := by
  cases h with
  | opened row f t hId hFresh hRow =>
    intro r hOld
    have hNone : db.reservations.get? row.requestId = none := (Table.rows_insert? hRow).2
    rw [hId, hOld] at hNone
    cases hNone
  | adjusted r targetQuota now hRow hStatus hTarget hBooked =>
    exact .of_later hRow hBooked.reservations_eq rfl (Int.lt_succ _)
  | refunded r now hRow hStatus hBooked hReleased =>
    exact .of_later hRow (hReleased.reservations_eq.trans hBooked.reservations_eq) rfl
      (Int.lt_succ _)
  | settled r now hRow hStatus hLedger hReleased =>
    exact .of_later hRow hReleased.reservations_eq rfl (Int.lt_succ _)
  | noted r r' hRow hStep =>
    obtain ⟨hId, hLe, hStatus, hReserved⟩ := hStep.columns
    exact .of_same hRow rfl hId hLe hStatus hReserved ⟨fun _ => rfl, rfl, rfl⟩
  | shortfall r r' targetQuota failure user previousStatus now hRow hStatus hMore hUser hPrevious
      hMarked hLedger =>
      obtain ⟨hEq, hQuota⟩ := freezeUser_users_eq r.userId { db with
        reservations := db.reservations.put r', quotaLedger := _ }
      have hBalances : SameBalances db _ := ⟨hQuota, by rw [hEq], by rw [hEq]⟩
      have hPut := congrArg Database.reservations hEq
      have hColumns : r'.requestId = r.requestId ∧ r.version ≤ r'.version ∧
          r'.status = r.status ∧ r'.reservedQuota = r.reservedQuota := by
        obtain ⟨rfl, -⟩ | rfl := hMarked
        · exact ⟨rfl, le_rfl, rfl, rfl⟩
        · exact ⟨rfl, Int.le_add_one le_rfl, rfl, rfl⟩
      exact .of_same hRow hPut hColumns.1 hColumns.2.1 hColumns.2.2.1 hColumns.2.2.2 hBalances
  | jobs => exact .of_kept (fun _ hRow => hRow) ⟨fun _ => rfl, rfl, rfl⟩
  | resolutions => exact .of_kept (fun _ hRow => hRow) ⟨fun _ => rfl, rfl, rfl⟩

theorem Transitions.advanced (h : Transitions loc rid db db') : Advanced rid db db' := by
  induction h with
  | refl => exact .refl db
  | tail _ hStep ih => exact ih.trans hStep.advanced

def advances (rid : String) : Frame Database where
  rel := Advanced rid
  refl := .refl
  trans := .trans

theorem insertAdoptedTx_advances :
    (insertAdoptedTx r note).Within (advances rid) where
  of_ok h := by
    obtain ⟨reservations, ledger, hRow, -, rfl⟩ := insertAdoptedTx_ok h
    refine .of_kept (fun old hOld => ?_) ⟨fun _ => rfl, rfl, rfl⟩
    have hMem : old ∈ reservations.rows := by
      rw [(Table.rows_insert? hRow).1]
      exact List.mem_append_left _ (Table.mem_of_get? hOld)
    exact Table.key_of_get? hOld ▸ Table.get?_of_mem hMem

theorem adoptFundingTx_advances :
    (adoptFundingTx p r capture).Within (advances rid) where
  of_ok h := (adoptFundingTx_ok h).1 ▸ .refl _

theorem adoptTokenTx_advances :
    (adoptTokenTx p r unavailable).Within (advances rid) where
  of_ok h := (adoptTokenTx_ok h).1 ▸ .refl _

theorem adoptLegacyTaskBillingReservation_advances :
    (adoptLegacyTaskBillingReservation taskId now).Within (advances rid) := by
  have hPut (task : Task) (db : Database) : Advanced rid db (db.putTask task) :=
    .of_kept (fun _ hRow => hRow) ⟨fun _ => rfl, rfl, rfl⟩
  refine .check fun _ => .fetch fun task => ?_
  refine .check fun _ => .check fun _ => .ite (fun _ => ?_) fun _ => ?_
  · exact .fetch fun _ => .check fun _ => .pure
  · refine .bind .read fun existing? => ?_
    cases existing? with
    | some => exact .check fun _ => .bind (.write (hPut _)) fun _ => .pure
    | none =>
      refine .bind adoptFundingTx_advances fun _ => .bind adoptTokenTx_advances fun _ => ?_
      exact .bind insertAdoptedTx_advances fun _ => .bind (.write (hPut _)) fun _ => .pure

theorem adoptLegacyMidjourneyBillingReservation_advances :
    (adoptLegacyMidjourneyBillingReservation taskId now).Within (advances rid) := by
  have hPut (task : Midjourney) (db : Database) : Advanced rid db (db.putMidjourney task) :=
    .of_kept (fun _ hRow => hRow) ⟨fun _ => rfl, rfl, rfl⟩
  refine .check fun _ => .fetch fun task => ?_
  refine .check fun _ => .check fun _ => .ite (fun _ => ?_) fun _ => ?_
  · exact .fetch fun _ => .check fun _ => .pure
  · refine .bind .read fun existing? => ?_
    cases existing? with
    | some => exact .check fun _ => .bind (.write (hPut _)) fun _ => .pure
    | none =>
      refine .bind adoptFundingTx_advances fun _ => .bind adoptTokenTx_advances fun _ => ?_
      exact .bind insertAdoptedTx_advances fun _ => .bind (.write (hPut _)) fun _ => .pure

end Versions

/-! ### Histories -/

/-- The operations that write the quota ledger. All but the last are on reservations. -/
inductive LedgerCall
  | billing (t : BillingTx)
  | adoptTask (taskId now : Int)
  | adoptMidjourney (taskId now : Int)
  | closeTask (taskId actualQuota : Int) (outcome : LegacyOutcome) (now : Int)

namespace LedgerCall

def body (loc : Location) : LedgerCall → DbTx Unit
  | billing t => t.body loc
  | adoptTask taskId now => (adoptLegacyTaskBillingReservation taskId now).void
  | adoptMidjourney taskId now => (adoptLegacyMidjourneyBillingReservation taskId now).void
  | closeTask taskId actualQuota outcome now =>
    (finalizeLegacyTaskBilling taskId actualQuota outcome now).void

def step (loc : Location) (db : Database) (c : LedgerCall) : Database := ((c.body loc).commit db).1

def OnReservation : LedgerCall → Prop
  | closeTask _ _ _ _ => False
  | _ => True

/-- The call is on the request `rid`. An adoption makes a reservation of its own, so it
counts for every request. -/
def On (rid : String) : LedgerCall → Prop
  | billing t => t.On rid
  | adoptTask _ _ | adoptMidjourney _ _ => True
  | closeTask _ _ _ _ => False

def LeavesId : LedgerCall → Prop
  | billing (.createTask task _ _ _) => task.id = 0
  | billing (.createMidjourney task _ _ _) => task.id = 0
  | _ => True

end LedgerCall

section Histories

variable (loc : Location) {c : LedgerCall}

theorem LedgerCall.billing_meets (hIds : (billing t).LeavesId) :
    (t.body loc).Meets LedgerInOrder (fun _ => LedgerInOrder) NotDuplicate := by
  cases t with
  | preConsume => exact preConsumeBillingReservation_meets.void
  | extend => exact extendBillingReservation_meets.void
  | prepare => exact prepareSettlementWithMode_meets
  | advance => exact prepareSettlementWithMode_meets
  | markShortfall => exact markBillingReservationSettlementShortfall_meets.void
  | settle => exact settleBillingReservation_meets.void
  | refund => exact refundBillingReservation_meets.void
  | createTask => exact (createTaskWithBillingReservation_meets hIds).void
  | prepareTask => exact prepareJobSettlementTx_meets taskKind
  | settleTask => exact (settleJobTx_meets taskKind).void
  | refundTask => exact (refundJobTx_meets taskKind).void
  | updateTask => exact (updateTaskWithStatus_quiet.meets LedgerInOrder.congr).void
  | claimMidjourney => exact claimMidjourneyBillingReservation_meets.void
  | refundUnclaimedMidjourney => exact refundUnclaimedMidjourneyBillingReservation_meets.void
  | createMidjourney => exact (createMidjourneyWithBillingReservation_meets hIds).void
  | prepareMidjourney => exact prepareJobSettlementTx_meets midjourneyKind
  | settleMidjourney => exact (settleJobTx_meets midjourneyKind).void
  | refundMidjourney => exact (refundJobTx_meets midjourneyKind).void
  | updateMidjourney => exact (updateMidjourneyWithStatus_quiet.meets LedgerInOrder.congr).void
  | review => exact recordBillingReconcileReview_meets
  | resolveByAdmin => exact resolveBillingReservationByAdmin_meets.void

theorem LedgerCall.body_meets (hOn : c.OnReservation) (hIds : c.LeavesId) :
    (c.body loc).Meets LedgerInOrder (fun _ => LedgerInOrder) NotDuplicate := by
  cases c with
  | billing => exact billing_meets loc hIds
  | adoptTask => exact adoptLegacyTaskBillingReservation_meets.void
  | adoptMidjourney => exact adoptLegacyMidjourneyBillingReservation_meets.void
  | closeTask => exact hOn.elim

theorem LedgerCall.inOrder_step (hIds : c.LeavesId) (h : LedgerInOrder db) :
    LedgerInOrder (c.step loc db) := by
  refine Tx.commit_preserves h fun _ db' hRun => ?_
  have hKept (hOn : c.OnReservation) : LedgerInOrder db' :=
    (body_meets loc hOn hIds db h).1 _ _ hRun
  cases c with
  | closeTask =>
    obtain ⟨result, hClose⟩ := Tx.void_ok_iff.mp hRun
    exact h.closedTask hClose
  | _ => exact hKept trivial

theorem LedgerCall.advanced_step (hOn : c.On rid) :
    Advanced rid db (c.step loc db) := by
  cases c with
  | billing t => exact (t.step_transitions loc db hOn).advanced
  | adoptTask => exact adoptLegacyTaskBillingReservation_advances.void.commit db
  | adoptMidjourney => exact adoptLegacyMidjourneyBillingReservation_advances.void.commit db
  | closeTask => exact hOn.elim

/-- In every state that is reached the keys of the ledger are distinct, no operation on
a reservation is refused because a key is taken, and the version of a reservation grows
with every change of its status, its quota or a balance. -/
theorem ledger_keys_never_collide (hStart : LedgerInOrder db) (calls : List LedgerCall)
    (hIds : ∀ c ∈ calls, c.LeavesId) (next : LedgerCall) (hNext : next.LeavesId) :
    let reached := run (LedgerCall.step loc) db calls
    (reached.quotaLedger.rows.map QuotaLedgerEntry.key).Nodup ∧
      (next.OnReservation → next.body loc reached ≠ .error .duplicatedKey) ∧
      ∀ rid, next.On rid → Advanced rid reached (next.step loc reached) := by
  intro reached
  have hReached : LedgerInOrder reached :=
    run_invariant_of_mem (fun db c hMem h => LedgerCall.inOrder_step loc (hIds c hMem) h) hStart
  refine ⟨reached.quotaLedger.nodup, fun hOn hRun => ?_, fun rid hOn =>
    LedgerCall.advanced_step loc hOn⟩
  exact (LedgerCall.body_meets loc hOn hNext reached hReached).2 _ hRun rfl

end Histories

def sampleOperations : List LedgerCall :=
  [.billing (.preConsume 0 { requestId := "a", userId := 1, tokenId := 1, quota := 50 } 10),
    .billing (.extend "a" 60 11),
    .adoptTask 7 12,
    .billing (.prepare "a" 55 13),
    .billing (.review "a" "late" 14)]

def sampleLegacyAccount : Database :=
  { sampleAccount with
    tasks := ⟨[{ id := 7, taskId := "t", userId := 1, quota := 5 }], by decide⟩ }

theorem ledger_keys_never_collide_sample :
    let reached := run (LedgerCall.step .utc) sampleLegacyAccount sampleOperations
    reached.quotaLedger.rows.map QuotaLedgerEntry.key =
        [("a", .reserve, 1), ("a", .reserve, 2), ("legacy-task-7", .adopt, 1), ("a", .intent, 3),
          ("a", .review, 3)] ∧
      (LedgerCall.billing (.settle "a" 55 15)).body .utc reached ≠ .error .duplicatedKey :=
  ⟨by decide +kernel, (ledger_keys_never_collide .utc
    { started := by rintro id r ⟨⟩
      entries := by rintro e ⟨⟩
      instructions := by rintro a ⟨⟩ } sampleOperations
    (by simp [sampleOperations, LedgerCall.LeavesId]) (.billing (.settle "a" 55 15))
    trivial).2.1 trivial⟩

end XyApi.Billing

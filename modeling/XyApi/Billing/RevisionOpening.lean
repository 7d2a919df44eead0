import XyApi.Billing.LegacySpec
import XyApi.Billing.RevisionCalls

/-!
The transactions that make a reservation: a new request is charged for the first
time, and a task from before reservations is adopted. The row is new, so its
request has no entry yet and the first revision is free.
-/

namespace XyApi.Billing

open Lib Lib.Calendar Subscription

/-! ### New requests -/

section Opening

variable {r : BillingReservation}

def Opening (r : BillingReservation) (db : Database) : Prop :=
  Locked 0 r db ∧ db.preConsumeRecords.get? r.requestId = none

def openingTables (db : Database) := (ledgerTables db, db.preConsumeRecords)

theorem Opening.congr (db db' : Database) (hSame : openingTables db' = openingTables db)
    (h : Opening r db) : Opening r db' := by
  simp only [openingTables, Prod.mk.injEq] at hSame
  exact ⟨h.1.congr db db' hSame.1, hSame.2 ▸ h.2⟩

theorem getSubscriptionPlanByIdTx_quiet {β : Type} {view : Database → β} (id : Int) :
    Quiet view (getSubscriptionPlanByIdTx id) := by
  refine .check (by decide) fun _ => .bind (.read _) fun _ => ?_
  exact .bind (.require (by decide)) fun _ => .pure _

theorem advanceSubscriptionQuotaResetVersion_quiet {β : Type} {view : Database → β} :
    Quiet view (advanceSubscriptionQuotaResetVersion sub) :=
  .check (by decide) fun _ => .pure _

theorem maybeResetUserSubscriptionWithPlanTx_quiet :
    Quiet openingTables (maybeResetUserSubscriptionWithPlanTx loc fuel sub plan now) := by
  unfold maybeResetUserSubscriptionWithPlanTx
  refine .ite (.pure _) (.ite (.pure _) ?_)
  refine .bind (.require (by decide)) fun _ => .ite ?_ (.ite ?_ (.pure _))
  · refine .bind advanceSubscriptionQuotaResetVersion_quiet fun _ => ?_
    exact .bind (.write fun _ => rfl) fun _ => .pure _
  · exact .bind (.write fun _ => rfl) fun _ => .pure _

theorem createPreConsumeRecord_meets {record : SubscriptionPreConsumeRecord}
    (hId : record.requestId = r.requestId) :
    (createPreConsumeRecord record).Meets (Opening r) (fun _ => Locked 0 r) NotDuplicate := by
  rintro db ⟨h, hNone⟩
  constructor
  · intro u db' hRun
    simp only [createPreConsumeRecord, Tx.read_bind_apply, Tx.require_bind_ok_iff,
      Tx.write_ok_iff] at hRun
    obtain ⟨records, -, rfl⟩ := hRun
    exact h.congr db _ rfl
  · intro e hRun
    simp only [createPreConsumeRecord, Tx.read_bind_apply, Tx.require_bind_error_iff,
      Tx.write_error_iff, and_false, exists_false, or_false] at hRun
    obtain ⟨old, hOld⟩ := Table.insert?_eq_none_iff.mp hRun.1
    rw [hId, hNone] at hOld
    cases hOld

theorem preConsumeCandidatesTx_meets (hId : input.requestId = r.requestId) :
    (preConsumeCandidatesTx loc fuel input now candidates).Meets (Opening r)
      (fun _ => Locked 0 r) NotDuplicate := by
  induction candidates with
  | nil =>
    refine .of_failsWith (fun db e h => ?_) (fun db a db' _ h => by cases h)
    cases Tx.fail_error_iff.mp h
    simp [NotDuplicate]
  | cons candidate rest ih =>
    refine .check (by decide) fun _ => ?_
    refine .bind ((getSubscriptionPlanByIdTx_quiet _).meets Opening.congr) fun plan => ?_
    refine .bind ((maybeResetUserSubscriptionWithPlanTx_quiet).meets Opening.congr)
      fun sub => .ite (fun _ => ih) fun _ => ?_
    refine .check (by decide) fun _ => ?_
    refine .check (by decide) fun _ => ?_
    refine .bind (createPreConsumeRecord_meets hId) fun _ => ?_
    exact .bind (.write fun db h => h.congr db _ rfl) fun _ => .pure fun _ h => h

theorem reserveFundingTx_meets (hId : input.requestId = r.requestId) :
    (reserveFundingTx loc fuel input now).Meets (Locked 0 r) (fun _ => Locked 0 r)
      NotDuplicate := by
  unfold reserveFundingTx
  split
  · refine .bind ((applyUserQuotaDeltaTx_quiet).meets Locked.congr) fun _ => ?_
    exact .pure fun _ h => h
  · refine .bind ?_ fun _ => .pure fun _ h => h
    refine .bind (.read (Q := fun existing? db => Locked 0 r db ∧
      existing? = db.preConsumeRecords.get? input.requestId) fun _ h => ⟨h, rfl⟩)
      fun existing? => ?_
    refine .check (by decide) fun hNone => ?_
    refine .bind (.read (Q := fun _ => Opening r) fun db h => ?_) fun subs => ?_
    · refine ⟨h.1, ?_⟩
      rw [← hId, ← h.2]
      simpa using hNone
    · refine .check (by decide) fun _ => ?_
      exact preConsumeCandidatesTx_meets hId
  · exact .pure fun _ h => h

theorem reserveTokenTx_quiet : Quiet ledgerTables (reserveTokenTx input now) := by
  unfold reserveTokenTx
  refine .ite (.pure _) (.bind (.read _) fun _ => .bind (.require (by decide)) fun _ => ?_)
  exact .bind applyTokenQuotaDeltaTx_quiet fun _ => .pure _

theorem validateBillingReservationInput_quiet :
    Quiet ledgerTables (validateBillingReservationInput input) := by
  refine .check (by decide) fun _ => .check (by decide) fun _ => ?_
  refine .check (by decide) fun _ => .check (by decide) fun _ => ?_
  exact .check (by decide) fun _ => .check (by decide) fun _ => .pure _

theorem populateBillingSubscriptionResultTx_quiet {result : BillingReservationResult} :
    Quiet ledgerTables (populateBillingSubscriptionResultTx result) := by
  refine .ite (.pure _) (.bind (.read _) fun _ => .bind (.require (by decide)) fun _ => ?_)
  exact .bind (getSubscriptionPlanByIdTx_quiet _) fun _ => .pure _

theorem preConsumeBillingReservation_meets :
    (preConsumeBillingReservation loc fuel input now).Meets LedgerInOrder
      (fun _ => LedgerInOrder) NotDuplicate := by
  refine .bind (validateBillingReservationInput_quiet.meets LedgerInOrder.congr) fun input => ?_
  refine .bind (.read (Q := fun inserted? db => LedgerInOrder db ∧
    inserted? = db.reservations.insert? (initialReservation input now)) fun _ h => ⟨h, rfl⟩)
    fun inserted? => ?_
  cases inserted? with
  | none =>
    refine .bind (.read (Q := fun _ => LedgerInOrder) fun _ h => h.1) fun existing? => ?_
    refine .bind (.require (by decide)) fun existing => .of_and fun _ => ?_
    have hValidate : Quiet ledgerTables (validateExistingBillingReservation existing input) :=
      .check (by decide) fun _ => .failIf notDuplicate_finalized
    refine .bind (hValidate.meets LedgerInOrder.congr) fun _ => ?_
    exact populateBillingSubscriptionResultTx_quiet.meets LedgerInOrder.congr
  | some =>
    refine .bind (.write fun db h => h.1.inserted h.2.symm) fun _ => ?_
    refine .bind (reserveFundingTx_meets rfl) fun funding => ?_
    refine .bind (reserveTokenTx_quiet.meets Locked.congr) fun token => ?_
    refine .bind (.write fun db h => h.put rfl ?_) fun _ => ?_
    · rintro (hStatus | hStatus) <;> cases hStatus
    · refine .bind (createLedgerEntry_meets rfl (Int.zero_lt_one) ?_) fun _ => .pure fun _ h => ?_
      · rintro ⟨hPhase | hPhase, -⟩ <;> cases hPhase
      · exact h.inOrder le_rfl le_rfl

end Opening

/-! ### Tasks from before reservations -/

section Adoption

variable {r : BillingReservation}

def Keeps (r r' : BillingReservation) : Prop :=
  r'.requestId = r.requestId ∧ r'.version = r.version

theorem adoptFundingTx_meets (hCapture : ∀ sub r, Keeps r (capture sub r)) :
    (adoptFundingTx p r capture).Meets P (fun r' db => P db ∧ Keeps r r') NotDuplicate := by
  refine .of_failsWith ?_ fun db r' db' h hRun => ?_
  · refine .ite (.bind (.read _) fun _ => ?_) (.pure _)
    exact .bind (.require (by decide)) fun _ => .pure _
  · obtain ⟨rfl, rfl | ⟨sub, rfl⟩⟩ := adoptFundingTx_ok hRun
    · exact ⟨h, rfl, rfl⟩
    · exact ⟨h, hCapture sub _⟩

theorem adoptTokenTx_meets :
    (adoptTokenTx p r unavailable).Meets P (fun result db => P db ∧ Keeps r result.1)
      NotDuplicate := by
  refine .of_failsWith ?_ fun db result db' h hRun => ?_
  · refine .ite (.bind (.read _) fun token? => ?_) (.pure _)
    cases token? <;> exact .pure _
  · obtain ⟨rfl, hRow | ⟨mode, hRow⟩⟩ := adoptTokenTx_ok hRun
    · exact ⟨h, hRow ▸ ⟨rfl, rfl⟩⟩
    · exact ⟨h, hRow ▸ ⟨rfl, rfl⟩⟩

/-- The reservation of an adopted task is new, and so is its entry. -/
theorem insertAdoptedTx_meets (hVersion : r.version = 1) :
    (insertAdoptedTx r note).Meets
      (fun db => LedgerInOrder db ∧ db.reservations.get? r.requestId = none)
      (fun _ => LedgerInOrder) NotDuplicate := by
  refine .bind (.read (Q := fun inserted? db => (LedgerInOrder db ∧
    db.reservations.get? r.requestId = none) ∧ inserted? = db.reservations.insert? r)
    fun _ h => ⟨h, rfl⟩) fun inserted? => ?_
  cases inserted? with
  | none =>
    rintro db ⟨⟨-, hNone⟩, hTaken⟩
    obtain ⟨old, hOld⟩ := Table.insert?_eq_none_iff.mp hTaken.symm
    rw [hNone] at hOld
    cases hOld
  | some =>
    refine .require_some (.bind (.write fun db h => h.1.1.inserted h.2.symm) fun _ => ?_)
    refine (createLedgerEntry_meets rfl Int.zero_lt_one ?_).conseq (fun _ h => h)
      fun _ _ h => h.inOrder hVersion.ge hVersion.ge
    rintro ⟨hPhase | hPhase, -⟩ <;> cases hPhase

theorem linked_or_adopted_meets [DecidablePred linked]
    (hAdopt : adopt.Meets LedgerInOrder (fun _ => LedgerInOrder) NotDuplicate) :
    (if requestId ≠ "" then do
      let reservation? ← Tx.read fun db => db.reservations.get? requestId
      let reservation ← Tx.require reservation? .recordNotFound
      Tx.failIf (¬ linked reservation) .billingReservationConflict
      pure reservation
    else adopt : DbTx BillingReservation).Meets LedgerInOrder (fun _ => LedgerInOrder)
      NotDuplicate := by
  refine .ite (fun _ => ?_) fun _ => hAdopt
  refine .bind (.read (Q := fun _ => LedgerInOrder) fun _ h => h) fun _ => ?_
  refine .bind (.require (by decide)) fun _ => .of_and fun _ => ?_
  exact .check (by decide) fun _ => .pure fun _ h => h

theorem adoptUnlinkedTaskTx_meets :
    (adoptUnlinkedTaskTx task now).Meets LedgerInOrder (fun _ => LedgerInOrder)
      NotDuplicate := by
  refine .bind (.read (Q := fun existing? db => LedgerInOrder db ∧
    existing? = db.reservations.get? (legacyTaskBillingRequestId task.id)) fun _ h => ⟨h, rfl⟩)
    fun existing? => ?_
  cases existing? with
  | some =>
    refine .check (by decide) fun _ => ?_
    exact .bind (.write fun db h => h.1.congr db _ rfl) fun _ => .pure fun _ h => h
  | none =>
    refine .bind (adoptFundingTx_meets fun sub r => ?_) fun funded => .of_and fun hFunded => ?_
    · unfold captureLegacySubscriptionReservationEpoch
      split <;> exact ⟨rfl, rfl⟩
    refine .bind adoptTokenTx_meets fun result => .of_and fun hToken => ?_
    have hId : result.1.requestId = legacyTaskBillingRequestId task.id :=
      hToken.1.trans hFunded.1
    refine .bind ((insertAdoptedTx_meets (hToken.2.trans hFunded.2)).conseq (fun db h => ?_)
      fun _ _ h => h) fun _ => ?_
    · exact ⟨h.1, hId ▸ h.2.symm⟩
    · exact .bind (.write fun db h => h.congr db _ rfl) fun _ => .pure fun _ h => h

theorem adoptLegacyTaskBillingReservation_meets :
    (adoptLegacyTaskBillingReservation taskId now).Meets LedgerInOrder (fun _ => LedgerInOrder)
      NotDuplicate := by
  refine .check (by decide) fun _ => ?_
  refine .bind (.read (Q := fun _ => LedgerInOrder) fun _ h => h) fun task? => ?_
  refine .bind (.require (by decide)) fun task => .of_and fun _ => ?_
  refine .check (by decide) fun _ => ?_
  refine .check (by decide) fun _ => ?_
  exact linked_or_adopted_meets adoptUnlinkedTaskTx_meets

theorem adoptUnlinkedMidjourneyTx_meets :
    (adoptUnlinkedMidjourneyTx task now).Meets LedgerInOrder (fun _ => LedgerInOrder)
      NotDuplicate := by
  refine .bind (.read (Q := fun existing? db => LedgerInOrder db ∧
    existing? = db.reservations.get? (legacyMidjourneyBillingRequestId task.id))
    fun _ h => ⟨h, rfl⟩) fun existing? => ?_
  cases existing? with
  | some =>
    refine .check (by decide) fun _ => ?_
    exact .bind (.write fun db h => h.1.congr db _ rfl) fun _ => .pure fun _ h => h
  | none =>
    refine .bind (adoptFundingTx_meets fun sub r => ⟨rfl, rfl⟩) fun funded =>
      .of_and fun hFunded => ?_
    refine .bind adoptTokenTx_meets fun result => .of_and fun hToken => ?_
    have hId : result.1.requestId = legacyMidjourneyBillingRequestId task.id :=
      hToken.1.trans hFunded.1
    refine .bind ((insertAdoptedTx_meets (hToken.2.trans hFunded.2)).conseq (fun db h => ?_)
      fun _ _ h => h) fun _ => ?_
    · exact ⟨h.1, hId ▸ h.2.symm⟩
    · exact .bind (.write fun db h => h.congr db _ rfl) fun _ => .pure fun _ h => h

theorem adoptLegacyMidjourneyBillingReservation_meets :
    (adoptLegacyMidjourneyBillingReservation taskId now).Meets LedgerInOrder
      (fun _ => LedgerInOrder) NotDuplicate := by
  refine .check (by decide) fun _ => ?_
  refine .bind (.read (Q := fun _ => LedgerInOrder) fun _ h => h) fun task? => ?_
  refine .bind (.require (by decide)) fun task => .of_and fun _ => ?_
  refine .check (by decide) fun _ => ?_
  refine .check (by decide) fun _ => ?_
  exact linked_or_adopted_meets adoptUnlinkedMidjourneyTx_meets

/-- The entry of a closed task is the one the order of the ledger allows for. -/
theorem LedgerInOrder.closedTask (h : LedgerInOrder db)
    (hRun : finalizeLegacyTaskBilling taskId actualQuota outcome now db = .ok (result, db')) :
    LedgerInOrder db' := by
  obtain ⟨task, -, -, -, ⟨-, -, -, rfl⟩ | ⟨-, entry, db₁, ledger, hCharged, hLedger, rfl⟩⟩ :=
    finalizeLegacyTaskBilling_ok hRun
  · exact h
  · have hKey := hCharged.key
    simp only [QuotaLedgerEntry.key, Prod.mk.injEq] at hKey
    have hCloses : ClosesTask entry := by
      rw [ClosesTask, hKey.2.1, hKey.2.2]
      cases outcome
      · exact ⟨.inl rfl, rfl⟩
      · exact ⟨.inr rfl, rfl⟩
    rw [hCharged.rest]
    refine { h with entries := fun e he hOpen => ?_ }
    rw [(Table.rows_insert? hLedger).1, List.mem_append, List.mem_singleton] at he
    rcases he with hOld | rfl
    · exact h.entries e hOld hOpen
    · exact absurd hCloses hOpen

end Adoption

end XyApi.Billing

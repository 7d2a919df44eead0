import XyApi.Billing.ReservationSpec

/-!
A successful billing transaction is a sequence of transitions on the request it
names. One lemma for each function of the source; `Transactions` puts them
together.
-/

namespace XyApi.Billing

open Lib Lib.Calendar Subscription

/-! ### Pre-consuming -/

section

variable {input : BillingReservationInput} {now : Int}

def openedReservation (input : BillingReservationInput)
    (sub? : Option SubscriptionBillingResult) (mode : TokenMode) (now : Int) :
    BillingReservation :=
  reservedReservation (initialReservation input now) sub? mode input.quota now

theorem validateBillingReservationInput_ok
    (h : validateBillingReservationInput input db = .ok (input', db')) :
    db' = db ∧ input' = { input with requestId := trimSpace input.requestId } ∧
      trimSpace input.requestId ≠ "" ∧ ¬ quotaOutOfRange input.quota ∧
      (input.fundingSource = .wallet ∨
        (input.fundingSource = .subscription ∧ 0 < input.quota)) := by
  simp only [validateBillingReservationInput, Tx.failIf_bind_ok_iff, Tx.pure_ok_iff] at h
  obtain ⟨hId, -, hRange, hSource, hPositive, -, rfl, rfl⟩ := h
  refine ⟨rfl, rfl, fun hEmpty => hId (.inl hEmpty), hRange, ?_⟩
  by_cases hWallet : input.fundingSource = .wallet
  · exact .inl hWallet
  · have hSubscription : input.fundingSource = .subscription := by
      by_contra hOther
      exact hSource ⟨hWallet, hOther⟩
    refine .inr ⟨hSubscription, ?_⟩
    by_contra hZero
    exact hPositive ⟨hSubscription, by omega⟩

theorem reserveFundingTx_ok {sub? : Option SubscriptionBillingResult}
    (h : reserveFundingTx loc fuel input now db = .ok ((f, sub?), db'))
    (hInput : input.fundingSource = .wallet ∨ (input.fundingSource = .subscription ∧ 0 < input.quota))
    (mode : TokenMode) :
    OpenedFunding loc db (openedReservation input sub? mode now) f db' := by
  rcases hInput with hSource | ⟨hSource, hPositive⟩
  · simp only [reserveFundingTx, hSource] at h
    obtain ⟨_, db₁, hApply, h⟩ := Tx.bind_ok h
    obtain ⟨users, hMoved, rfl⟩ := applyUserQuotaDeltaTx_ok hApply
    cases h
    exact OpenedFunding.wallet (r := openedReservation input none mode now) hSource hMoved
  · simp only [reserveFundingTx, hSource] at h
    obtain ⟨result, db₁, hPre, h⟩ := Tx.bind_ok h
    obtain ⟨sub, subs, records, hCharged, hId, hReset, hVersion, rfl⟩ :=
      preConsumeSubscriptionBillingTx_ok hPre
    cases h
    exact OpenedFunding.subscription (r := openedReservation input (some result) mode now) sub
      hSource hCharged hId hReset hVersion hPositive

theorem reserveTokenTx_ok (h : reserveTokenTx input now db = .ok ((mode, t), db'))
    (sub? : Option SubscriptionBillingResult) :
    ∃ tokens, TokensMoved db.tokens tokens (openedReservation input sub? mode now) t ∧
      db' = { db with tokens := tokens } := by
  unfold reserveTokenTx at h
  split at h
  · cases h
    exact ⟨_, .inl ⟨rfl, rfl, rfl⟩, rfl⟩
  · obtain ⟨token, -, h⟩ := Tx.require_bind_ok_iff.mp h
    obtain ⟨⟨remainDelta, usedDelta⟩, db₁, hApply, h⟩ := Tx.bind_ok h
    obtain ⟨-, tokens, hMoved, rfl⟩ := applyTokenQuotaDeltaTx_ok hApply
    cases h
    exact ⟨tokens, .inr hMoved, rfl⟩

/-- Funding does not look at the reservation table. -/
theorem OpenedFunding.of_reservations
    (h : OpenedFunding loc { db with reservations := reservations } r f db₁) :
    ∃ db₂, OpenedFunding loc db r f db₂ ∧ db₁ = { db₂ with reservations := reservations } ∧
      db₂.tokens = db.tokens ∧ db₂.quotaLedger = db.quotaLedger := by
  cases h with
  | wallet hSource hMoved => exact ⟨_, .wallet hSource hMoved, rfl, rfl, rfl⟩
  | subscription sub hSource hCharged hId hReset hVersion hPositive =>
    exact ⟨_, .subscription sub hSource hCharged hId hReset hVersion hPositive, rfl, rfl, rfl⟩

theorem populateBillingSubscriptionResultTx_ok
    (h : populateBillingSubscriptionResultTx result db = .ok (result', db')) : db' = db := by
  unfold populateBillingSubscriptionResultTx at h
  split at h
  · exact (Tx.pure_ok h).2.symm
  · simp only [Tx.read_bind_apply, Tx.require_bind_ok_iff] at h
    obtain ⟨sub, -, h⟩ := h
    rw [Tx.bind_ok_iff] at h
    obtain ⟨plan, db₁, hPlan, h⟩ := h
    obtain rfl := getSubscriptionPlanByIdTx_ok hPlan
    exact (Tx.pure_ok h).2.symm

theorem preConsumeBillingReservation_ok
    (h : preConsumeBillingReservation loc fuel input now db = .ok (result, db')) :
    db' = db ∨
      (Transition loc (trimSpace input.requestId) db db' ∧
        db.reservations.insert? result.reservation = some db'.reservations ∧
        result.reservation.requestId = trimSpace input.requestId ∧
        FreshRow result.reservation) := by
  unfold preConsumeBillingReservation at h
  rw [Tx.bind_ok_iff] at h
  obtain ⟨input', db₀, hValid, h⟩ := h
  obtain ⟨rfl, hInput', hNonempty, hQuota, hSource⟩ := validateBillingReservationInput_ok hValid
  simp only [Tx.read_bind_apply] at h
  cases hInsert : db₀.reservations.insert? (initialReservation input' now) with
  | none =>
    simp only [hInsert, Tx.read_bind_apply, Tx.require_bind_ok_iff] at h
    obtain ⟨existing, -, h⟩ := h
    obtain ⟨_, db₁, hExisting, h⟩ := Tx.bind_ok h
    simp only [validateExistingBillingReservation, Tx.failIf_bind_ok_iff, Tx.failIf_ok_iff]
      at hExisting
    obtain ⟨-, -, rfl⟩ := hExisting
    exact .inl (populateBillingSubscriptionResultTx_ok h)
  | some =>
    simp only [hInsert, Tx.write_bind_apply] at h
    obtain ⟨⟨f, sub?⟩, db₁, hFunding, h⟩ := Tx.bind_ok h
    obtain ⟨⟨mode, t⟩, db₂, hToken, h⟩ := Tx.bind_ok h
    simp only [Tx.write_bind_apply] at h
    obtain ⟨_, db₃, hCreate, h⟩ := Tx.bind_ok h
    obtain ⟨ledger, hLedger, rfl⟩ := createLedgerEntry_ok hCreate
    cases h
    have hOpened := reserveFundingTx_ok hFunding (by simpa [hInput'] using hSource) mode
    obtain ⟨db₄, hCharged, rfl, hTokens₄, hLedger₄⟩ := hOpened.of_reservations
    obtain ⟨tokens, hTokens, rfl⟩ := reserveTokenTx_ok hToken sub?
    have hRow := Table.insert?_put hInsert
      (show (openedReservation input' sub? mode now).requestId = _ from rfl)
    simp only [hTokens₄] at hTokens
    simp only [Database.putReservation, hLedger₄] at hLedger
    have hFresh : FreshRow (openedReservation input' sub? mode now) :=
      ⟨input', sub?, mode, now, by simpa [hInput'] using hQuota,
        by simpa [hInput'] using hNonempty, by simp [hInput', trimSpace_trimSpace], rfl⟩
    have hId : (openedReservation input' sub? mode now).requestId =
        trimSpace input.requestId := by
      simp [openedReservation, reservedReservation, initialReservation, hInput']
    have hTransition := Transition.opened (openedReservation input' sub? mode now) f t hId hFresh
      hRow hCharged hTokens hLedger
    exact .inr ⟨hTransition, hRow, hId, hFresh⟩

end



/-! ### Shared pieces -/

section Pieces

variable (loc : Location)

theorem adjustReservedBillingTx_transitions {phase : LedgerPhase}
    (h : adjustReservedBillingTx r targetQuota phase allow now db = .ok (r', db'))
    (hRow : db.reservations.get? rid = some r) :
    Transitions loc rid db db' ∧ db'.reservations.get? rid = some r' ∧
      r'.status = .reserved := by
  obtain ⟨hStatus, hTarget, ⟨-, rfl, rfl⟩ | ⟨-, rfl, hBooked⟩⟩ := adjustReservedBillingTx_ok h
  · exact ⟨.refl, hRow, hStatus⟩
  · refine ⟨.single (.adjusted r targetQuota now hRow hStatus hTarget hBooked), ?_, hStatus⟩
    rw [hBooked.reservations_eq]
    exact get?_put_row hRow rfl

theorem settleBillingReservationTx_transitions
    (h : settleBillingReservationTx r actualQuota allow now db = .ok ((applied, r'), db'))
    (hRow : db.reservations.get? rid = some r) :
    Transitions loc rid db db' ∧ db'.reservations.get? rid = some r' ∧ r'.Finalized := by
  rcases settleBillingReservationTx_ok h with ⟨-, hSettled, -, rfl, rfl⟩ |
    ⟨-, hStatus, adjusted, db₁, ledger, rfl, hAdjusted, hLedger, hReleased⟩
  · exact ⟨.refl, hRow, .inl hSettled⟩
  · have hMiddle : Transitions loc rid db db₁ ∧ db₁.reservations.get? rid = some adjusted ∧
        adjusted.status = .reserved ∧ adjusted.reservedQuota = actualQuota := by
      rcases hAdjusted with ⟨rfl, hQuota, rfl⟩ | ⟨rfl, hTarget, hBooked⟩
      · exact ⟨.refl, hRow, hStatus, hQuota.symm⟩
      · refine ⟨.single (.adjusted r actualQuota now hRow hStatus hTarget hBooked), ?_, hStatus,
          rfl⟩
        rw [hBooked.reservations_eq]
        exact get?_put_row hRow rfl
    obtain ⟨hSteps, hRow₁, hStatus₁, rfl⟩ := hMiddle
    refine ⟨hSteps.tail (.settled adjusted now hRow₁ hStatus₁ hLedger hReleased), ?_, .inl rfl⟩
    rw [hReleased.reservations_eq]
    exact get?_put_row hRow₁ rfl

theorem refundBillingReservationTx_transitions
    (h : refundBillingReservationTx r allow now db = .ok ((applied, r'), db'))
    (hRow : db.reservations.get? rid = some r) :
    Transitions loc rid db db' ∧ db'.reservations.get? rid = some r' ∧ r'.Finalized := by
  rcases refundBillingReservationTx_ok h with ⟨-, hRefunded, rfl, rfl⟩ |
    ⟨-, hStatus, rfl, db₁, hBooked, hReleased⟩
  · exact ⟨.refl, hRow, .inr hRefunded⟩
  · refine ⟨.single (.refunded r now hRow hStatus hBooked hReleased), ?_, .inr rfl⟩
    rw [hReleased.reservations_eq, hBooked.reservations_eq]
    exact get?_put_row hRow rfl

theorem persistBillingReservationSettlementIntentTx_transitions {mode : SettlementIntentMode}
    {u : Unit}
    (h : persistBillingReservationSettlementIntentTx r targetQuota mode now db = .ok (u, db'))
    (hRow : db.reservations.get? rid = some r) : Transitions loc rid db db' := by
  rcases persistBillingReservationSettlementIntentTx_ok h with ⟨rfl, -⟩ |
    ⟨hStatus, -, ledger, hLedger, rfl⟩
  · exact .refl
  · exact .single (.noted r _ hRow (.intended targetQuota now hStatus) hLedger)

theorem bindResourceTx_ok {resourceType : ResourceType} {resourceId : String}
    (h : bindResourceTx r resourceType resourceId note now db = .ok (r', db')) :
    r' = boundReservation r resourceType resourceId now ∧
      ∃ ledger, NotedLedger db r ledger ∧
        db' = { db with reservations := db.reservations.put r', quotaLedger := ledger } := by
  simp only [bindResourceTx, Tx.write_bind_apply] at h
  obtain ⟨_, db₁, hCreate, h⟩ := Tx.bind_ok h
  cases h
  obtain ⟨ledger, hLedger, rfl⟩ := createLedgerEntry_noted (r := r) hCreate
  exact ⟨rfl, ledger, hLedger, rfl⟩

theorem bindResourceTx_transitions {resourceType : ResourceType} {resourceId : String}
    (h : bindResourceTx r resourceType resourceId note now db = .ok (r', db'))
    (hRow : db.reservations.get? rid = some r) (hStatus : r.status = .reserved) :
    Transitions loc rid db db' := by
  obtain ⟨rfl, ledger, hLedger, rfl⟩ := bindResourceTx_ok h
  exact .single (.noted r _ hRow (.bound resourceType resourceId now hStatus) hLedger)

end Pieces

/-! ### Transactions on jobs -/

section Jobs

variable (loc : Location)

theorem lockJobAndReservation_ok {J : Type} {kind : JobKind J} {jobId : Int} {requestId : String}
    {outcome : JobOutcome} {job : J} {r : BillingReservation}
    (h : lockJobAndReservation kind jobId requestId outcome db = .ok ((job, r), db')) :
    db' = db ∧ db.reservations.get? requestId = some r := by
  simp only [lockJobAndReservation, Tx.read_bind_apply, Tx.require_bind_ok_iff,
    Tx.failIf_bind_ok_iff] at h
  obtain ⟨_, -, -, h⟩ := h
  rw [Tx.bind_ok_iff] at h
  obtain ⟨r', db₁, hLock, h⟩ := h
  obtain ⟨rfl, hRow⟩ := lockReservation_ok hLock
  simp only [Tx.failIf_bind_ok_iff, Tx.pure_ok_iff, Prod.mk.injEq] at h
  obtain ⟨-, ⟨-, rfl⟩, rfl⟩ := h
  exact ⟨rfl, hRow⟩

theorem jobIntentMode_ok {p : TaskPrivateData} {mode : SettlementIntentMode}
    (h : jobIntentMode p actualQuota db = .ok (mode, db')) : db' = db := by
  simp only [jobIntentMode, Tx.failIf_bind_ok_iff, Tx.pure_ok_iff] at h
  exact h.2.2.symm

theorem JobKind.transition_put {J : Type} (kind : JobKind J) (rid : String) (job : J)
    (db : Database) : Transition loc rid db (kind.put job db) := by
  obtain ⟨tasks, midjourneys, hEq⟩ := kind.put_frame job db
  rw [hEq]
  exact .jobs tasks midjourneys

variable {J : Type}

theorem prepareJobSettlementTx_transitions {u : Unit}
    (h : prepareJobSettlementTx kind jobId requestId actualQuota now db = .ok (u, db')) :
    Transitions loc requestId db db' := by
  unfold prepareJobSettlementTx at h
  rw [Tx.bind_ok_iff] at h
  obtain ⟨⟨job, r⟩, db₁, hLock, h⟩ := h
  obtain ⟨rfl, hRow⟩ := lockJobAndReservation_ok hLock
  rw [Tx.bind_ok_iff] at h
  obtain ⟨mode, db₂, hMode, h⟩ := h
  obtain rfl := jobIntentMode_ok hMode
  exact persistBillingReservationSettlementIntentTx_transitions loc h hRow

theorem settleJobTx_transitions {result : BillingFinalizationResult}
    (h : settleJobTx kind jobId requestId actualQuota now db = .ok (result, db')) :
    Transitions loc requestId db db' := by
  unfold settleJobTx at h
  rw [Tx.bind_ok_iff] at h
  obtain ⟨⟨job, r⟩, db₁, hLock, h⟩ := h
  obtain ⟨rfl, hRow⟩ := lockJobAndReservation_ok hLock
  rw [Tx.bind_ok_iff] at h
  obtain ⟨mode, db₂, hMode, h⟩ := h
  obtain rfl := jobIntentMode_ok hMode
  obtain ⟨⟨applied, settled⟩, db₃, hSettle, h⟩ := Tx.bind_ok h
  cases h
  exact (settleBillingReservationTx_transitions loc hSettle hRow).1.tail
    (kind.transition_put loc _ _ _)

theorem refundJobTx_transitions {result : BillingFinalizationResult}
    (h : refundJobTx kind jobId requestId now db = .ok (result, db')) :
    Transitions loc requestId db db' := by
  unfold refundJobTx at h
  rw [Tx.bind_ok_iff] at h
  obtain ⟨⟨job, r⟩, db₁, hLock, h⟩ := h
  obtain ⟨rfl, hRow⟩ := lockJobAndReservation_ok hLock
  obtain ⟨⟨applied, refunded⟩, db₂, hRefund, h⟩ := Tx.bind_ok h
  have hSteps := (refundBillingReservationTx_transitions loc hRefund hRow).1
  obtain ⟨_, db₃, hClear, h⟩ := Tx.bind_ok h
  cases h
  rcases Tx.when_ok_iff.mp hClear with ⟨-, hPut⟩ | ⟨-, rfl⟩
  · rw [← Tx.write_ok_iff.mp hPut]
    exact hSteps.tail (kind.transition_put loc _ _ _)
  · exact hSteps

section Binding

theorem bindBilling_ok (h : bindBilling p requestId targetQuota succeeded db = .ok (p', db')) :
    db' = db := by
  unfold bindBilling at h
  split at h
  · simp only [recordBillingTargetQuota, Tx.failIf_bind_ok_iff, Tx.pure_ok_iff] at h
    exact h.2.2.2.symm
  · exact (Tx.pure_ok h).2.symm

theorem createOrFindTask_ok {task task' : Task}
    (h : createOrFindTask task requestId db = .ok (task', db')) :
    ∃ tasks, db' = { db with tasks := tasks } := by
  simp only [createOrFindTask, Tx.read_bind_apply] at h
  cases hFind : db.tasks.rows.find? (fun t => t.userId = task.userId ∧ t.taskId = task.taskId) with
  | some =>
    simp only [hFind, Tx.failIf_bind_ok_iff, Tx.pure_ok_iff] at h
    exact ⟨db.tasks, h.2.2.symm⟩
  | none =>
    simp only [hFind, Tx.read_bind_apply, Tx.require_bind_ok_iff, Tx.write_bind_apply,
      Tx.pure_ok_iff] at h
    obtain ⟨tasks, -, -, rfl⟩ := h
    exact ⟨tasks, rfl⟩

theorem createTaskWithBillingReservation_transitions {task task' : Task}
    (h : createTaskWithBillingReservation task requestId targetQuota now db = .ok (task', db')) :
    Transitions loc (trimSpace requestId) db db' := by
  simp only [createTaskWithBillingReservation, Tx.failIf_bind_ok_iff] at h
  obtain ⟨-, h⟩ := h
  rw [Tx.bind_ok_iff] at h
  obtain ⟨p, db₁, hBind, h⟩ := h
  obtain rfl := bindBilling_ok hBind
  rw [Tx.bind_ok_iff] at h
  obtain ⟨r, db₂, hLock, h⟩ := h
  obtain ⟨rfl, hRow⟩ := lockReservation_ok hLock
  simp only [Tx.failIf_bind_ok_iff] at h
  obtain ⟨-, -, h⟩ := h
  obtain ⟨adjusted, db₃, hAdjust, h⟩ := Tx.bind_ok h
  obtain ⟨hSteps, hRow₃, hStatus₃⟩ := adjustReservedBillingTx_transitions loc hAdjust hRow
  obtain ⟨stored, db₄, hCreate, h⟩ := Tx.bind_ok h
  obtain ⟨tasks, rfl⟩ := createOrFindTask_ok hCreate
  have hTask := hSteps.tail (.jobs tasks db₃.midjourneys)
  split at h
  · cases h
    exact hTask
  · obtain ⟨bound, db₅, hBound, h⟩ := Tx.bind_ok h
    cases h
    exact hTask.trans (bindResourceTx_transitions loc hBound hRow₃ hStatus₃)

theorem updateTaskWithStatus_transitions (rid : String) {task : Task} {fromStatus : TaskStatus}
    {won : Bool} (h : updateTaskWithStatus task fromStatus db = .ok (won, db')) :
    Transitions loc rid db db' := by
  simp only [updateTaskWithStatus, Tx.failIf_bind_ok_iff, Tx.read_bind_apply] at h
  obtain ⟨-, h⟩ := h
  split at h
  · simp only [Tx.write_bind_apply, Tx.pure_ok_iff] at h
    rw [← h.2]
    exact .single (.jobs _ _)
  · rw [← (Tx.pure_ok h).2]

theorem updateMidjourneyWithStatus_transitions (rid : String)
    (h : updateMidjourneyWithStatus task fromStatus db = .ok (won, db')) :
    Transitions loc rid db db' := by
  simp only [updateMidjourneyWithStatus, Tx.read_bind_apply] at h
  split at h
  · simp only [Tx.write_bind_apply, Tx.pure_ok_iff] at h
    rw [← h.2]
    exact .single (.jobs _ _)
  · rw [← (Tx.pure_ok h).2]

theorem claimMidjourneyBillingReservation_transitions
    (h : claimMidjourneyBillingReservation requestId now db = .ok (claimed, db')) :
    Transitions loc (trimSpace requestId) db db' := by
  simp only [claimMidjourneyBillingReservation, Tx.failIf_bind_ok_iff] at h
  obtain ⟨-, h⟩ := h
  rw [Tx.bind_ok_iff] at h
  obtain ⟨r, db₁, hLock, h⟩ := h
  obtain ⟨rfl, hRow⟩ := lockReservation_ok hLock
  obtain ⟨hStatus, h⟩ := Tx.failIf_bind_ok_iff.mp h
  split at h
  · simp only [Tx.failIf_bind_ok_iff, Tx.pure_ok_iff] at h
    rw [← h.2.2]
  · obtain ⟨bound, db₂, hBound, h⟩ := Tx.bind_ok h
    cases h
    exact bindResourceTx_transitions loc hBound hRow (by simpa using hStatus)

theorem refundUnclaimedMidjourneyBillingReservation_transitions
    (h : refundUnclaimedMidjourneyBillingReservation requestId now db = .ok (applied, db')) :
    Transitions loc (trimSpace requestId) db db' := by
  simp only [refundUnclaimedMidjourneyBillingReservation, Tx.failIf_bind_ok_iff] at h
  obtain ⟨-, h⟩ := h
  rw [Tx.bind_ok_iff] at h
  obtain ⟨r, db₁, hLock, h⟩ := h
  obtain ⟨rfl, hRow⟩ := lockReservation_ok hLock
  split at h
  · rw [← (Tx.pure_ok h).2]
  · obtain ⟨⟨applied', refunded⟩, db₂, hRefund, h⟩ := Tx.bind_ok h
    cases h
    exact (refundBillingReservationTx_transitions loc hRefund hRow).1

theorem findBoundMidjourney_ok
    (h : findBoundMidjourney task r requestId targetQuota db = .ok (task', db')) : db' = db := by
  simp only [findBoundMidjourney, Tx.failIf_bind_ok_iff, Tx.require_bind_ok_iff,
    Tx.read_bind_apply, Tx.pure_ok_iff] at h
  obtain ⟨-, _, -, -, _, -, -, -, rfl⟩ := h
  rfl

theorem insertMidjourney_ok (h : insertMidjourney task db = .ok (task', db')) :
    ∃ midjourneys, db' = { db with midjourneys := midjourneys } := by
  simp only [insertMidjourney, Tx.read_bind_apply, Tx.require_bind_ok_iff, Tx.write_bind_apply,
    Tx.pure_ok_iff] at h
  obtain ⟨midjourneys, -, -, rfl⟩ := h
  exact ⟨midjourneys, rfl⟩

theorem createMidjourneyWithBillingReservation_transitions
    (h : createMidjourneyWithBillingReservation task requestId targetQuota now db = .ok (task', db'))
    :
    Transitions loc (trimSpace requestId) db db' := by
  simp only [createMidjourneyWithBillingReservation, Tx.failIf_bind_ok_iff] at h
  obtain ⟨-, h⟩ := h
  rw [Tx.bind_ok_iff] at h
  obtain ⟨p, db₁, hBind, h⟩ := h
  obtain rfl := bindBilling_ok hBind
  rw [Tx.bind_ok_iff] at h
  obtain ⟨r, db₂, hLock, h⟩ := h
  obtain ⟨rfl, hRow⟩ := lockReservation_ok hLock
  obtain ⟨-, h⟩ := Tx.failIf_bind_ok_iff.mp h
  split at h
  · rw [findBoundMidjourney_ok h]
  · obtain ⟨-, h⟩ := Tx.failIf_bind_ok_iff.mp h
    obtain ⟨adjusted, db₃, hAdjust, h⟩ := Tx.bind_ok h
    obtain ⟨hSteps, hRow₃, hStatus₃⟩ := adjustReservedBillingTx_transitions loc hAdjust hRow
    obtain ⟨stored, db₄, hInsert, h⟩ := Tx.bind_ok h
    obtain ⟨midjourneys, rfl⟩ := insertMidjourney_ok hInsert
    obtain ⟨bound, db₅, hBound, h⟩ := Tx.bind_ok h
    cases h
    exact (hSteps.tail (.jobs db₃.tasks midjourneys)).trans
      (bindResourceTx_transitions loc hBound hRow₃ hStatus₃)

end Binding

end Jobs

/-! ### Review and administration -/

section Administration

variable (loc : Location)

theorem recordBillingReconcileReview_transitions
    (h : recordBillingReconcileReview requestId note now db = .ok (u, db')) :
    Transitions loc requestId db db' := by
  simp only [recordBillingReconcileReview, Tx.read_bind_apply, Tx.require_bind_ok_iff] at h
  obtain ⟨r, hRow, h⟩ := h
  split at h
  · rw [← (Tx.pure_ok h).2]
  · next hStatus =>
      simp only [Tx.write_bind_apply, Tx.write_ok_iff, Database.putReservation] at h
      subst h
      refine .single (.noted r _ hRow (.reviewed _ now (by simpa using hStatus)) ?_)
      cases hInsert : db.quotaLedger.insert?
          { r.ledgerEntry .review r.version with note := truncateBytes 255 note } with
      | none => exact .inl (by simp)
      | some ledger => exact .inr ⟨_, _, _, by rw [hInsert]; rfl⟩

theorem finalizeByAdminTx_transitions
    (h : finalizeByAdminTx input r now kind db = .ok ((applied, r'), db'))
    (hRow : db.reservations.get? rid = some r) :
    Transitions loc rid db db' ∧ db'.reservations.get? rid = some r' ∧ r'.Finalized := by
  cases kind with
  | settle => exact settleBillingReservationTx_transitions loc h hRow
  | refund => exact refundBillingReservationTx_transitions loc h hRow

theorem createAdminResolution_ok (h : createAdminResolution resolution db = .ok (u, db')) :
    ∃ rows, db' = { db with adminResolutions := rows } := by
  simp only [createAdminResolution, Tx.read_bind_apply, Tx.failIf_bind_ok_iff,
    Tx.require_bind_ok_iff, Tx.write_ok_iff] at h
  obtain ⟨-, rows, -, rfl⟩ := h
  exact ⟨rows, rfl⟩

theorem applyAdminResolutionTx_transitions
    (h : applyAdminResolutionTx input kind r now db = .ok (result, db'))
    (hRow : db.reservations.get? rid = some r) : Transitions loc rid db db' := by
  unfold applyAdminResolutionTx at h
  obtain ⟨⟨applied, closed⟩, db₁, hFinalize, h⟩ := Tx.bind_ok h
  obtain ⟨hSteps, hRow₁, hFinal⟩ := finalizeByAdminTx_transitions loc hFinalize hRow
  obtain ⟨-, h⟩ := Tx.failIf_bind_ok_iff.mp h
  obtain ⟨_, db₂, hResolution, h⟩ := Tx.bind_ok h
  obtain ⟨rows, rfl⟩ := createAdminResolution_ok hResolution
  obtain ⟨_, db₃, hEntry, h⟩ := Tx.bind_ok h
  obtain ⟨ledger, hLedger, rfl⟩ := createLedgerEntry_noted hEntry
  simp only [Tx.read_bind_apply, Tx.require_bind_ok_iff, Tx.write_bind_apply,
    Tx.pure_ok_iff] at h
  obtain ⟨_, -, -, rfl⟩ := h
  exact (hSteps.tail (.resolutions rows)).tail
    (.noted closed _ hRow₁ (.adminNoted _ now hFinal) hLedger)

theorem validateBillingReservationAdminResolution_ok
    (h : validateBillingReservationAdminResolution input db = .ok ((input', kind), db')) :
    db' = db ∧ input'.requestId = trimSpace input.requestId := by
  simp only [validateBillingReservationAdminResolution, Tx.failIf_bind_ok_iff,
    Tx.require_bind_ok_iff] at h
  obtain ⟨-, resolution, -, h⟩ := h
  obtain ⟨_, db₁, hQuota, h⟩ := Tx.bind_ok h
  simp only [Tx.pure_ok_iff, Prod.mk.injEq] at h
  obtain ⟨⟨rfl, rfl⟩, rfl⟩ := h
  refine ⟨?_, rfl⟩
  cases resolution <;> exact (Tx.failIf_ok_iff.mp hQuota).2.symm

theorem resolveBillingReservationByAdmin_transitions
    (h : resolveBillingReservationByAdmin input now db = .ok (result, db')) :
    Transitions loc (trimSpace input.requestId) db db' := by
  unfold resolveBillingReservationByAdmin at h
  rw [Tx.bind_ok_iff] at h
  obtain ⟨⟨input', kind⟩, db₁, hValid, h⟩ := h
  obtain ⟨rfl, hId⟩ := validateBillingReservationAdminResolution_ok hValid
  rw [Tx.bind_ok_iff] at h
  obtain ⟨r, db₂, hLock, h⟩ := h
  obtain ⟨rfl, hRow⟩ := lockReservation_ok hLock
  simp only [Tx.read_bind_apply] at h
  rw [hId] at hRow
  cases hExisting : db₂.adminResolutions.get? (input'.requestId, input'.expectedVersion) with
  | some =>
    simp only [hExisting, Tx.failIf_bind_ok_iff, Tx.pure_ok_iff] at h
    rw [← h.2.2]
  | none =>
    simp only [hExisting, Tx.failIf_bind_ok_iff] at h
    exact applyAdminResolutionTx_transitions loc h.2.2.2 hRow

end Administration

end XyApi.Billing

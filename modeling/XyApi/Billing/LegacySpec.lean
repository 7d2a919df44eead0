import XyApi.Billing.Legacy

/-!
What the transactions on tasks without a reservation do when they succeed.
-/

namespace XyApi.Billing

open Lib

variable {db db' : Database} {task : Task} {r : BillingReservation}

/-! ### Adoption -/

structure AdoptedFrom (task : Task) (r : BillingReservation) : Prop where
  requestId : r.requestId = legacyTaskBillingRequestId task.id
  userId : r.userId = task.userId
  resourceType : r.resourceType = .asyncTask
  resourceId : r.resourceId = task.taskId
  reserved : r.reservedQuota = task.quota
  status : r.status = .reserved
  version : r.version = 1

theorem adoptFundingTx_ok (h : adoptFundingTx p r₀ capture db = .ok (r, db')) :
    db' = db ∧ (r = r₀ ∨ ∃ sub, r = capture sub
      { r₀ with fundingSource := .subscription, subscriptionId := sub.id }) := by
  unfold adoptFundingTx at h
  split at h
  · simp only [Tx.read_bind_apply, Tx.require_bind_ok_iff, Tx.pure_ok_iff] at h
    obtain ⟨sub, -, rfl, rfl⟩ := h
    exact ⟨rfl, .inr ⟨sub, rfl⟩⟩
  · cases h
    exact ⟨rfl, .inl rfl⟩

theorem adoptTokenTx_ok (h : adoptTokenTx p r₀ unavailable db = .ok ((r, note), db')) :
    db' = db ∧ (r = r₀ ∨ ∃ mode,
      r = { r₀ with tokenReserved := r₀.reservedQuota, tokenMode := mode }) := by
  unfold adoptTokenTx at h
  split at h
  · simp only [Tx.read_bind_apply] at h
    cases hToken : (db.tokens.get? p.tokenId).filter (fun t => t.userId = r₀.userId) with
    | some =>
      simp only [hToken, Tx.pure_ok_iff, Prod.mk.injEq] at h
      obtain ⟨⟨rfl, rfl⟩, rfl⟩ := h
      exact ⟨rfl, .inr ⟨_, rfl⟩⟩
    | none =>
      simp only [hToken, Tx.pure_ok_iff, Prod.mk.injEq] at h
      obtain ⟨⟨rfl, rfl⟩, rfl⟩ := h
      exact ⟨rfl, .inl rfl⟩
  · cases h
    exact ⟨rfl, .inl rfl⟩

theorem insertAdoptedTx_ok (h : insertAdoptedTx r note db = .ok (u, db')) :
    ∃ reservations ledger, db.reservations.insert? r = some reservations ∧
      db.quotaLedger.insert? { r.ledgerEntry .adopt 1 with note := note } = some ledger ∧
      db' = { db with reservations := reservations, quotaLedger := ledger } := by
  simp only [insertAdoptedTx, Tx.read_bind_apply, Tx.require_bind_ok_iff,
    Tx.write_bind_apply] at h
  obtain ⟨reservations, hRow, h⟩ := h
  obtain ⟨ledger, hLedger, rfl⟩ := createLedgerEntry_ok h
  exact ⟨reservations, ledger, hRow, hLedger, rfl⟩

/-- Adoption links the reservation that is there, or makes one. -/
inductive Adopted (db : Database) (task : Task) (r : BillingReservation) (now : Int) :
    Database → Prop
  | linked (hRow : db.reservations.get? (legacyTaskBillingRequestId task.id) = some r)
      (hUser : r.userId = task.userId) (hType : r.resourceType = .asyncTask)
      (hResource : r.resourceId = task.taskId) :
      Adopted db task r now
        (db.putTask (linkTask task (legacyTaskBillingRequestId task.id) now))
  | made {reservations : Table BillingReservation.requestId}
      {ledger : Table QuotaLedgerEntry.key} (note : String) (hFrom : AdoptedFrom task r)
      (hRow : db.reservations.insert? r = some reservations)
      (hLedger : db.quotaLedger.insert? { r.ledgerEntry .adopt 1 with note := note } =
        some ledger) :
      Adopted db task r now
        ({ db with reservations := reservations, quotaLedger := ledger }.putTask
          (linkTask task (legacyTaskBillingRequestId task.id) now))

theorem adoptUnlinkedTaskTx_ok (h : adoptUnlinkedTaskTx task now db = .ok (r, db')) :
    Adopted db task r now db' := by
  simp only [adoptUnlinkedTaskTx, Tx.read_bind_apply] at h
  cases hExisting : db.reservations.get? (legacyTaskBillingRequestId task.id) with
  | some =>
    simp only [hExisting, Tx.failIf_bind_ok_iff, Tx.write_bind_apply, Tx.pure_ok_iff,
      not_or, not_not] at h
    obtain ⟨⟨hUser, hType, hResource⟩, rfl, rfl⟩ := h
    exact .linked hExisting hUser hType hResource
  | none =>
    simp only [hExisting] at h
    rw [Tx.bind_ok_iff] at h
    obtain ⟨r₁, db₁, hFunding, h⟩ := h
    obtain ⟨rfl, hFunded⟩ := adoptFundingTx_ok hFunding
    rw [Tx.bind_ok_iff] at h
    obtain ⟨⟨r₂, note⟩, db₂, hToken, h⟩ := h
    obtain ⟨rfl, hTokened⟩ := adoptTokenTx_ok hToken
    obtain ⟨u, db₃, hInsert, h⟩ := Tx.bind_ok h
    obtain ⟨reservations, ledger, hRow, hLedger, rfl⟩ := insertAdoptedTx_ok hInsert
    cases h
    refine .made _ ?_ hRow hLedger
    have hFrom : AdoptedFrom task r₁ := by
      obtain rfl | ⟨sub, rfl⟩ := hFunded
      · exact ⟨rfl, rfl, rfl, rfl, rfl, rfl, rfl⟩
      · unfold captureLegacySubscriptionReservationEpoch
        split <;> exact ⟨rfl, rfl, rfl, rfl, rfl, rfl, rfl⟩
    obtain rfl | ⟨mode, rfl⟩ := hTokened
    · exact hFrom
    · exact ⟨hFrom.1, hFrom.2, hFrom.3, hFrom.4, hFrom.5, hFrom.6, hFrom.7⟩

/-- A successful adoption found an open task, and either knows its reservation or
has adopted it now. -/
theorem adoptLegacyTaskBillingReservation_ok
    (h : adoptLegacyTaskBillingReservation taskId now db = .ok (r, db')) :
    ∃ task, db.tasks.get? taskId = some task ∧ task.status ≠ .success ∧
      task.status ≠ .failure ∧ ¬ quotaOutOfRange task.quota ∧
      ((∃ requestId, requestId = trimSpace task.privateData.billingRequestId ∧ requestId ≠ "" ∧
          db.reservations.get? requestId = some r ∧ taskKind.linked task r requestId ∧ db' = db) ∨
        (trimSpace task.privateData.billingRequestId = "" ∧ Adopted db task r now db')) := by
  simp only [adoptLegacyTaskBillingReservation, Tx.failIf_bind_ok_iff, Tx.read_bind_apply,
    Tx.require_bind_ok_iff] at h
  obtain ⟨-, task, hTask, hOpen, hRange, h⟩ := h
  refine ⟨task, hTask, fun hStatus => hOpen (.inl hStatus), fun hStatus => hOpen (.inr hStatus),
    hRange, ?_⟩
  split at h
  · next hLinked =>
      simp only [Tx.read_bind_apply, Tx.require_bind_ok_iff, Tx.failIf_bind_ok_iff, not_not,
        Tx.pure_ok_iff] at h
      obtain ⟨row, hRow, hLink, rfl, rfl⟩ := h
      exact .inl ⟨_, rfl, hLinked, hRow, hLink, rfl⟩
  · next hUnlinked => exact .inr ⟨not_not.mp hUnlinked, adoptUnlinkedTaskTx_ok h⟩

/-! ### Closing a task that was not adopted -/

/-- The funding of a task is charged `delta` more, which an entry with the key of
`entry` records. -/
structure LegacyCharged (db : Database) (delta : Int) (entry entry' : QuotaLedgerEntry)
    (db' : Database) : Prop where
  rest : db' = { db with
    users := db'.users, tokens := db'.tokens, subscriptions := db'.subscriptions }
  key : entry'.key = entry.key
  charge : entry'.subscriptionTotalUsedDelta - entry'.userQuotaDelta = delta
  wallets : (entry'.userQuotaDelta = 0 ∧ db'.users = db.users) ∨
    WalletMoved db.users db'.users entry'.userId entry'.userQuotaDelta

theorem legacyFundingTx_ok (h : legacyFundingTx task delta entry db = .ok (entry', db'))
    (hNew : entry.subscriptionTotalUsedDelta = 0 ∧ entry.userQuotaDelta = 0)
    (hUser : entry.userId = task.userId) : LegacyCharged db delta entry entry' db' := by
  unfold legacyFundingTx at h
  split at h
  · obtain ⟨sub, -, h⟩ := Tx.require_bind_ok_iff.mp h
    obtain ⟨⟨periodDelta, totalDelta⟩, db₁, hApply, h⟩ := Tx.bind_ok h
    cases h
    obtain ⟨hTotal, subs, -, rfl⟩ := applySubscriptionReservationDeltaTx_ok hApply
    dsimp only at hTotal
    exact ⟨rfl, rfl, by simp [hTotal, hNew.2], .inl ⟨hNew.2, rfl⟩⟩
  · obtain ⟨u, db₁, hApply, h⟩ := Tx.bind_ok h
    cases h
    obtain ⟨users, hMoved, rfl⟩ := applyUserQuotaDeltaTx_ok hApply
    exact ⟨rfl, rfl, by simp [hNew.1], .inr (hUser ▸ hMoved)⟩

theorem legacyTokenTx_ok (h : legacyTokenTx task delta now entry db = .ok (entry', db')) :
    (∃ tokens, db' = { db with tokens := tokens }) ∧ entry'.key = entry.key ∧
      entry'.subscriptionTotalUsedDelta = entry.subscriptionTotalUsedDelta ∧
      entry'.userQuotaDelta = entry.userQuotaDelta ∧ entry'.userId = entry.userId := by
  unfold legacyTokenTx at h
  dsimp only at h
  split at h
  · rw [Tx.bind_ok_iff] at h
    obtain ⟨tokenExists, db₁, hExists, h⟩ := h
    obtain ⟨rfl, -⟩ := billingTokenExistsTx_ok hExists
    split at h
    · obtain ⟨token, -, h⟩ := Tx.require_bind_ok_iff.mp h
      obtain ⟨deltas, db₂, hApply, h⟩ := Tx.bind_ok h
      cases h
      obtain ⟨-, tokens, -, rfl⟩ := applyTokenQuotaDeltaTx_ok hApply
      exact ⟨⟨tokens, rfl⟩, rfl, rfl, rfl, rfl⟩
    · obtain ⟨rfl, rfl⟩ := Tx.pure_ok h
      exact ⟨⟨db₁.tokens, rfl⟩, rfl, rfl, rfl, rfl⟩
  · cases h
    exact ⟨⟨db.tokens, rfl⟩, rfl, rfl, rfl, rfl⟩

/-- Closing a task finds it with the status of the outcome and without a reservation.
It was closed that way before, or it is charged what is missing now. -/
theorem finalizeLegacyTaskBilling_ok
    (h : finalizeLegacyTaskBilling taskId actualQuota outcome now db = .ok (result, db')) :
    ∃ task, db.tasks.get? taskId = some task ∧
      trimSpace task.privateData.billingRequestId = "" ∧ task.status = legacyStatus outcome ∧
      ((task.privateData.legacyBillingFinalized = true ∧
          task.privateData.legacyBillingOutcome = some outcome ∧
          task.privateData.legacyBillingFinalQuota = actualQuota ∧ db' = db) ∨
        (task.privateData.legacyBillingFinalized = false ∧ ∃ entry db₁ ledger,
          LegacyCharged db (legacyDelta task actualQuota outcome) (legacyEntry task outcome)
            entry db₁ ∧
          db.quotaLedger.insert? entry = some ledger ∧
          db' = { db₁ with
            tasks := db.tasks.put (closedTask task actualQuota outcome now)
            quotaLedger := ledger })) := by
  simp only [finalizeLegacyTaskBilling, Tx.failIf_bind_ok_iff, Tx.read_bind_apply,
    Tx.require_bind_ok_iff, not_not] at h
  obtain ⟨-, task, hTask, hUnlinked, hStatus, h⟩ := h
  refine ⟨task, hTask, hUnlinked, hStatus, ?_⟩
  split at h
  · next hFinal =>
      simp only [Tx.failIf_bind_ok_iff, not_not, Tx.pure_ok_iff] at h
      obtain ⟨⟨hOutcome, hQuota⟩, -, rfl⟩ := h
      exact .inl ⟨hFinal, hOutcome, hQuota, rfl⟩
  · next hOpen =>
      obtain ⟨entry₁, db₁, hFunding, h⟩ := Tx.bind_ok h
      have hCharged := legacyFundingTx_ok hFunding ⟨rfl, rfl⟩ rfl
      obtain ⟨entry, db₂, hToken, h⟩ := Tx.bind_ok h
      obtain ⟨⟨tokens, rfl⟩, hKey, hTotal, hDelta, hUser⟩ := legacyTokenTx_ok hToken
      simp only [Tx.write_bind_apply] at h
      obtain ⟨u, db₃, hCreate, h⟩ := Tx.bind_ok h
      obtain ⟨ledger, hLedger, rfl⟩ := createLedgerEntry_ok hCreate
      cases h
      refine .inr ⟨by simpa using hOpen, entry, { db₁ with tokens := tokens }, ledger,
        ⟨?_, hKey.trans hCharged.key, ?_, ?_⟩, ?_, ?_⟩
      · rw [hCharged.rest]
      · rw [hTotal, hDelta]
        exact hCharged.charge
      · rw [hDelta, hUser]
        exact hCharged.wallets
      · rw [hCharged.rest] at hLedger
        exact hLedger
      · rw [hCharged.rest]
        rfl

end XyApi.Billing

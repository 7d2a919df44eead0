import XyApi.Billing.Transition

/-!
One specification lemma for each function of the reservation state machine: what
a successful call establishes about the row it was given and about the database
it leaves. Callers use these and do not unfold the functions.
-/

namespace XyApi.Billing

open Lib Lib.Calendar Subscription

section Primitives

theorem createLedgerEntry_ok {e : QuotaLedgerEntry} {u : Unit}
    (h : createLedgerEntry e db = .ok (u, db')) :
    ∃ ledger, db.quotaLedger.insert? e = some ledger ∧
      db' = { db with quotaLedger := ledger } := by
  simp only [createLedgerEntry, Tx.read_bind_apply, Tx.require_bind_ok_iff, Tx.write_ok_iff] at h
  obtain ⟨ledger, hLedger, rfl⟩ := h
  exact ⟨ledger, hLedger, rfl⟩

theorem lockReservation_ok {requestId : String} (h : lockReservation requestId db = .ok (r, db')) :
    db' = db ∧ db.reservations.get? requestId = some r := by
  simp only [lockReservation, Tx.read_bind_apply, Tx.require_ok_iff] at h
  exact ⟨h.2.symm, h.1⟩

theorem lockReservation_bind_ok {α : Type} {requestId : String} {f : BillingReservation → DbTx α}
    {a : α} (h : (lockReservation requestId >>= f) db = .ok (a, db')) :
    ∃ r, db.reservations.get? requestId = some r ∧ f r db = .ok (a, db') := by
  rw [Tx.bind_ok_iff] at h
  obtain ⟨r, db₁, hLock, h⟩ := h
  obtain ⟨rfl, hRow⟩ := lockReservation_ok hLock
  exact ⟨r, hRow, h⟩

theorem lockReservation_eq {requestId : String} (h : db.reservations.get? requestId = some r) :
    lockReservation requestId db = .ok (r, db) := by
  simpa [lockReservation] using h

theorem adjustTokenTx_ok {delta : Int} {note : String} {t : TokenDelta}
    (h : adjustTokenTx r delta allow note now db = .ok (t, db')) :
    ∃ tokens, TokensMoved db.tokens tokens r t ∧ db' = { db with tokens := tokens } := by
  unfold adjustTokenTx at h
  split at h
  · cases h
    exact ⟨_, .inl ⟨rfl, rfl, rfl⟩, rfl⟩
  · rw [Tx.bind_ok_iff] at h
    obtain ⟨tokenExists, db₁, hExists, h⟩ := h
    obtain ⟨rfl, -⟩ := billingTokenExistsTx_ok hExists
    split at h
    · cases h
      exact ⟨_, .inl ⟨rfl, rfl, rfl⟩, rfl⟩
    · obtain ⟨⟨remainDelta, usedDelta⟩, db₂, hApply, h⟩ := Tx.bind_ok h
      obtain ⟨-, tokens, hMoved, rfl⟩ := applyTokenQuotaDeltaTx_ok hApply
      cases h
      exact ⟨tokens, .inr hMoved, rfl⟩

theorem FundingMoved.tables {delta : Int} {f : FundingDelta} (h : FundingMoved db r delta f db') :
    db'.tokens = db.tokens ∧ db'.reservations = db.reservations ∧
      db'.quotaLedger = db.quotaLedger := by
  cases h <;> exact ⟨rfl, rfl, rfl⟩

theorem refundTokenTx_ok {t : TokenDelta} (h : refundTokenTx r allow now db = .ok (t, db')) :
    ∃ tokens, TokensMoved db.tokens tokens r t ∧ db' = { db with tokens := tokens } := by
  unfold refundTokenTx at h
  split at h
  · exact adjustTokenTx_ok h
  · cases h
    exact ⟨_, .inl ⟨rfl, rfl, rfl⟩, rfl⟩

end Primitives

/-- A ledger entry of a reservation that records no movement. -/
theorem createLedgerEntry_noted {r : BillingReservation} {db db' : Database} {u : Unit}
    {phase : LedgerPhase} {revision : Int} {n : String}
    (h : createLedgerEntry { r.ledgerEntry phase revision with note := n } db = .ok (u, db')) :
    ∃ ledger, NotedLedger db r ledger ∧ db' = { db with quotaLedger := ledger } := by
  obtain ⟨ledger, hLedger, rfl⟩ := createLedgerEntry_ok h
  exact ⟨ledger, .inr ⟨phase, revision, n, hLedger⟩, rfl⟩

/-- An adjustment does nothing when the target is reserved already, and otherwise
books the difference on the row. -/
theorem adjustReservedBillingTx_ok {phase : LedgerPhase} {db db' : Database}
    (h : adjustReservedBillingTx r targetQuota phase allow now db = .ok (r', db')) :
    r.status = .reserved ∧ ¬ quotaOutOfRange targetQuota ∧
      ((targetQuota = r.reservedQuota ∧ r' = r ∧ db' = db) ∨
        (targetQuota ≠ r.reservedQuota ∧ r' = adjustedReservation r targetQuota now ∧
          Booked db r r' (targetQuota - r.reservedQuota) db')) := by
  simp only [adjustReservedBillingTx, Tx.failIf_bind_ok_iff] at h
  obtain ⟨hRange, hStatus, h⟩ := h
  refine ⟨by simpa using hStatus, hRange, ?_⟩
  split at h
  · cases h
    exact .inl ⟨by omega, rfl, rfl⟩
  · obtain ⟨f, db₁, hFunding, h⟩ := Tx.bind_ok h
    have hFunding := adjustFundingTx_ok hFunding
    obtain ⟨hTokens₁, hReservations₁, hLedger₁⟩ := hFunding.tables
    obtain ⟨t, db₂, hToken, h⟩ := Tx.bind_ok h
    obtain ⟨tokens, hTokens, rfl⟩ := adjustTokenTx_ok hToken
    simp only [Tx.failIf_bind_ok_iff, Tx.write_bind_apply] at h
    obtain ⟨-, h⟩ := h
    obtain ⟨_, db₃, hCreate, h⟩ := Tx.bind_ok h
    obtain ⟨ledger, hLedger, rfl⟩ := createLedgerEntry_ok hCreate
    cases h
    rw [hTokens₁] at hTokens
    simp only [Database.putReservation, hLedger₁] at hLedger
    have hBooked : Booked _ r (adjustedReservation r targetQuota now) _ _ :=
      .mk f t phase (r.version + 1) hFunding hTokens hLedger
    simp only [← hReservations₁] at hBooked
    exact .inr ⟨by omega, rfl, hBooked⟩

/-- An intent is on record already, or is recorded on an open row. -/
theorem persistBillingReservationSettlementIntentTx_ok {mode : SettlementIntentMode}
    {db db' : Database} {u : Unit}
    (h : persistBillingReservationSettlementIntentTx r targetQuota mode now db = .ok (u, db')) :
    (db' = db ∧ ((r.status = .settled ∧ r.settledQuota = targetQuota) ∨
        (r.status = .reserved ∧ r.settlementPending = true ∧
          r.settlementTarget = targetQuota))) ∨
      (r.status = .reserved ∧ ¬ intentConflict r targetQuota mode ∧
        ∃ ledger, NotedLedger db r ledger ∧ db' = { db with
          reservations := db.reservations.put (intendedReservation r targetQuota now)
          quotaLedger := ledger }) := by
  simp only [persistBillingReservationSettlementIntentTx, Tx.failIf_bind_ok_iff] at h
  obtain ⟨-, h⟩ := h
  split at h
  · next hSettled =>
      obtain ⟨hQuota, rfl⟩ := Tx.failIf_ok_iff.mp h
      exact .inl ⟨rfl, .inl ⟨hSettled, by simpa using hQuota⟩⟩
  · obtain ⟨hStatus, h⟩ := Tx.failIf_bind_ok_iff.mp h
    have hReserved : r.status = .reserved := by simpa using hStatus
    split at h
    · next hSame =>
        cases h
        exact .inl ⟨rfl, .inr ⟨hReserved, hSame⟩⟩
    · simp only [Tx.failIf_bind_ok_iff, Tx.write_bind_apply] at h
      obtain ⟨ledger, hLedger, rfl⟩ := createLedgerEntry_noted h.2
      exact .inr ⟨hReserved, h.1, ledger, hLedger, rfl⟩

theorem releaseShortfallFreezeTx_ok {db db' : Database} {u : Unit}
    (h : releaseShortfallFreezeTx r db = .ok (u, db')) : ReleasedBy r db db' := by
  unfold ReleasedBy
  rcases Tx.when_ok_iff.mp h with ⟨hApplied, h⟩ | ⟨hApplied, rfl⟩
  · obtain ⟨b, db₁, hRelease, h⟩ := Tx.bind_ok h
    cases h
    rw [if_pos hApplied]
    exact releaseUserPaymentFreezeTx_ok hRelease
  · rw [if_neg hApplied]

/-- A settlement repeats an earlier one without effect, or brings an open row to
its final quota and closes it. -/
theorem settleBillingReservationTx_ok {actualQuota : Int} {applied : Bool} {db db' : Database}
    (h : settleBillingReservationTx r actualQuota allow now db = .ok ((applied, r'), db')) :
    (applied = false ∧ r.status = .settled ∧ r.settledQuota = actualQuota ∧ r' = r ∧ db' = db) ∨
      (applied = true ∧ r.status = .reserved ∧
        ∃ adjusted db₁ ledger, r' = settledReservation adjusted actualQuota now ∧
          ((adjusted = r ∧ actualQuota = r.reservedQuota ∧ db₁ = db) ∨
            (adjusted = adjustedReservation r actualQuota now ∧ ¬ quotaOutOfRange actualQuota ∧
              Booked db r adjusted (actualQuota - r.reservedQuota) db₁)) ∧
          NotedLedger db₁ adjusted ledger ∧
          ReleasedBy adjusted
            { db₁ with reservations := db₁.reservations.put r', quotaLedger := ledger } db') := by
  unfold settleBillingReservationTx at h
  split at h
  · next hSettled =>
      simp only [Tx.failIf_bind_ok_iff, Tx.pure_ok_iff, Prod.mk.injEq] at h
      obtain ⟨hQuota, ⟨rfl, rfl⟩, rfl⟩ := h
      exact .inl ⟨rfl, hSettled, by simpa using hQuota, rfl, rfl⟩
  · obtain ⟨hStatus, h⟩ := Tx.failIf_bind_ok_iff.mp h
    have hReserved : r.status = .reserved := by simpa using hStatus
    obtain ⟨adjusted, db₁, hAdjust, h⟩ := Tx.bind_ok h
    simp only [Tx.write_bind_apply] at h
    obtain ⟨_, db₂, hRelease, h⟩ := Tx.bind_ok h
    cases h
    have hReleased := releaseShortfallFreezeTx_ok hRelease
    refine .inr ⟨rfl, hReserved, adjusted, ?_⟩
    unfold adjustForSettlementTx at hAdjust
    split at hAdjust
    · obtain ⟨-, hTarget, ⟨hSame, -, -⟩ | ⟨-, rfl, hBooked⟩⟩ := adjustReservedBillingTx_ok hAdjust
      · omega
      · exact ⟨db₁, db₁.quotaLedger, rfl, .inr ⟨rfl, hTarget, hBooked⟩, .inl rfl, hReleased⟩
    · obtain ⟨_, db₃, hCreate, hPure⟩ := Tx.bind_ok hAdjust
      cases hPure
      obtain ⟨ledger, hLedger, rfl⟩ := createLedgerEntry_noted (n := "") hCreate
      exact ⟨db, ledger, rfl, .inl ⟨rfl, by omega, rfl⟩, hLedger, hReleased⟩

/-- A refund repeats an earlier one without effect, or gives everything reserved
back and closes the row. -/
theorem refundBillingReservationTx_ok {applied : Bool} {db db' : Database}
    (h : refundBillingReservationTx r allow now db = .ok ((applied, r'), db')) :
    (applied = false ∧ r.status = .refunded ∧ r' = r ∧ db' = db) ∨
      (applied = true ∧ r.status = .reserved ∧ r' = refundedReservation r now ∧
        ∃ db₁, Booked db r r' (-r.reservedQuota) db₁ ∧ ReleasedBy r db₁ db') := by
  unfold refundBillingReservationTx at h
  split at h
  · next hRefunded =>
      cases h
      exact .inl ⟨rfl, hRefunded, rfl, rfl⟩
  · obtain ⟨hStatus, h⟩ := Tx.failIf_bind_ok_iff.mp h
    obtain ⟨f, db₁, hFunding, h⟩ := Tx.bind_ok h
    have hFunding := refundFundingTx_ok hFunding
    obtain ⟨hTokens₁, hReservations₁, hLedger₁⟩ := hFunding.tables
    obtain ⟨t, db₂, hToken, h⟩ := Tx.bind_ok h
    obtain ⟨tokens, hTokens, rfl⟩ := refundTokenTx_ok hToken
    simp only [Tx.write_bind_apply] at h
    obtain ⟨_, db₃, hCreate, h⟩ := Tx.bind_ok h
    obtain ⟨ledger, hLedger, rfl⟩ := createLedgerEntry_ok hCreate
    obtain ⟨_, db₄, hRelease, h⟩ := Tx.bind_ok h
    cases h
    rw [hTokens₁] at hTokens
    simp only [Database.putReservation, hLedger₁] at hLedger
    have hBooked : Booked _ r (refundedReservation r now) _ _ :=
      .mk f t .refund (r.version + 1) hFunding hTokens hLedger
    simp only [← hReservations₁] at hBooked
    exact .inr ⟨rfl, by simpa using hStatus, rfl, _, hBooked,
      releaseShortfallFreezeTx_ok hRelease⟩

/-- A shortfall is put on record for an open row that owes more than it reserved,
or is on record already; either way the account is frozen. -/
theorem markBillingReservationSettlementShortfall_ok {requestId code : String} {db db' : Database}
    (h : markBillingReservationSettlementShortfall requestId targetQuota code now db = .ok (r', db'))
    :
    ∃ r, db.reservations.get? (trimSpace requestId) = some r ∧
      ((r.Finalized ∧ db' = db) ∨
        (r.status = .reserved ∧ r.reservedQuota < targetQuota ∧
          (r.settlementPending = true → r.settlementTarget ≤ targetQuota) ∧
          ∃ failure user previousStatus ledger, db.users.get? r.userId = some user ∧
            paymentFreezePreviousUserStatusTx user db = .ok (previousStatus, db) ∧
            ((r' = r ∧ sameShortfall r targetQuota failure) ∨
              r' = shortfallReservation r targetQuota failure previousStatus now) ∧
            NotedLedger db r ledger ∧
            db' = freezeUser r.userId
              { db with reservations := db.reservations.put r', quotaLedger := ledger })) := by
  simp only [markBillingReservationSettlementShortfall, Tx.failIf_bind_ok_iff,
    Tx.require_bind_ok_iff] at h
  obtain ⟨-, failure, -, h⟩ := h
  rw [Tx.bind_ok_iff] at h
  obtain ⟨r, db₁, hLock, h⟩ := h
  obtain ⟨rfl, hRow⟩ := lockReservation_ok hLock
  refine ⟨r, hRow, ?_⟩
  split at h
  · next hFinal =>
      cases h
      exact .inl ⟨hFinal, rfl⟩
  · simp only [Tx.failIf_bind_ok_iff, Tx.read_bind_apply, Tx.require_bind_ok_iff] at h
    obtain ⟨hStatus, hTarget, hMore, user, hUser, h⟩ := h
    rw [Tx.bind_ok_iff] at h
    obtain ⟨previousStatus, db₂, hPrevious, h⟩ := h
    obtain ⟨rfl, -⟩ := paymentFreezePreviousUserStatusTx_ok hPrevious
    obtain ⟨marked, db₃, hRecord, h⟩ := Tx.bind_ok h
    obtain ⟨rfl, rfl⟩ := Tx.pure_ok_iff.mp h
    refine .inr ⟨by simpa using hStatus, by omega, fun hPending => ?_, failure, user,
      previousStatus, ?_⟩
    · by_contra hLess
      exact hTarget ⟨hPending, by omega, .inr (by omega)⟩
    · unfold recordShortfallTx at hRecord
      split at hRecord
      · next hSame =>
          cases hRecord
          refine ⟨_, hUser, hPrevious, .inl ⟨rfl, hSame⟩, .inl rfl, ?_⟩
          have hKey : r.requestId = trimSpace requestId := Table.key_of_get? hRow
          rw [Table.put_of_get? (hKey ▸ hRow)]
      · simp only [Tx.write_bind_apply] at hRecord
        obtain ⟨_, db₄, hCreate, hPure⟩ := Tx.bind_ok hRecord
        cases hPure
        obtain ⟨ledger, hLedger, rfl⟩ := createLedgerEntry_noted (r := r) hCreate
        exact ⟨ledger, hUser, hPrevious, .inr rfl, hLedger, rfl⟩

/-! ### The calls of a request

Each locks the row of its trimmed id and hands it to the function above. -/

section Calls

theorem extendBillingReservation_ok
    (h : extendBillingReservation requestId targetQuota now db = .ok (r', db')) :
    ∃ r, db.reservations.get? (trimSpace requestId) = some r ∧
      ((r' = r ∧ db' = db) ∨
        adjustReservedBillingTx r targetQuota .reserve false now db = .ok (r', db')) := by
  simp only [extendBillingReservation, Tx.failIf_bind_ok_iff] at h
  obtain ⟨-, h⟩ := h
  obtain ⟨r, hRow, h⟩ := lockReservation_bind_ok h
  refine ⟨r, hRow, ?_⟩
  split at h
  · simp only [Tx.failIf_bind_ok_iff, Tx.pure_ok_iff] at h
    exact .inl ⟨h.2.1.symm, h.2.2.symm⟩
  · exact .inr h

theorem prepareSettlementWithMode_ok {mode : SettlementIntentMode} {u : Unit}
    (h : prepareSettlementWithMode requestId targetQuota mode now db = .ok (u, db')) :
    ∃ r, db.reservations.get? (trimSpace requestId) = some r ∧
      persistBillingReservationSettlementIntentTx r targetQuota mode now db = .ok (u, db') := by
  simp only [prepareSettlementWithMode, Tx.failIf_bind_ok_iff] at h
  obtain ⟨-, h⟩ := h
  obtain ⟨r, hRow, h⟩ := lockReservation_bind_ok h
  exact ⟨r, hRow, h⟩

theorem settleBillingReservation_ok {actualQuota : Int}
    (h : settleBillingReservation requestId actualQuota now db = .ok (r', db')) :
    ∃ r applied, db.reservations.get? (trimSpace requestId) = some r ∧
      settleBillingReservationTx r actualQuota true now db = .ok ((applied, r'), db') := by
  simp only [settleBillingReservation, Tx.failIf_bind_ok_iff] at h
  obtain ⟨-, h⟩ := h
  obtain ⟨r, hRow, h⟩ := lockReservation_bind_ok h
  obtain ⟨⟨applied, settled⟩, db₂, hSettle, h⟩ := Tx.bind_ok h
  cases h
  exact ⟨r, applied, hRow, hSettle⟩

theorem refundBillingReservation_ok (h : refundBillingReservation requestId now db = .ok (r', db'))
    :
    ∃ r applied, db.reservations.get? (trimSpace requestId) = some r ∧
      refundBillingReservationTx r true now db = .ok ((applied, r'), db') := by
  simp only [refundBillingReservation, Tx.failIf_bind_ok_iff] at h
  obtain ⟨-, h⟩ := h
  obtain ⟨r, hRow, h⟩ := lockReservation_bind_ok h
  obtain ⟨⟨applied, refunded⟩, db₂, hRefund, h⟩ := Tx.bind_ok h
  cases h
  exact ⟨r, applied, hRow, hRefund⟩

end Calls

end XyApi.Billing

import XyApi.Lib.Failure
import XyApi.Lib.Frame
import XyApi.Billing.Legacy

/-!
The revisions of the quota ledger. Every entry of a request has a revision of at
most the version of its reservation, and every new one is written one past it,
whether before or after the version moves; so no insert meets its own key. The
entry that closes a task without a reservation is the one exception, and the key
it has is never asked for by a reservation. The instructions of administrators are
treated along with it: a request that has one is closed.
-/

namespace XyApi.Billing

open Lib Lib.Calendar Subscription

def ClosesTask (e : QuotaLedgerEntry) : Prop :=
  (e.phase = .settle ∨ e.phase = .refund) ∧ e.revision = 1

/-- The entries and instructions on record are accounted for by the reservations. -/
structure LedgerInOrder (db : Database) : Prop where
  started : ∀ id r, db.reservations.get? id = some r → 1 ≤ r.version
  entries : ∀ e ∈ db.quotaLedger.rows, ¬ ClosesTask e →
    ∃ r, db.reservations.get? e.requestId = some r ∧ e.revision ≤ r.version
  instructions : ∀ a ∈ db.adminResolutions.rows,
    ∃ r, db.reservations.get? a.requestId = some r ∧ r.Finalized

/-- The same in the middle of a transaction that has left its row at `r` and used
revisions of the request up to `v`. -/
structure Locked (v : Int) (r : BillingReservation) (db : Database) : Prop where
  row : db.reservations.get? r.requestId = some r
  started : ∀ id r', id ≠ r.requestId → db.reservations.get? id = some r' → 1 ≤ r'.version
  own : ∀ e ∈ db.quotaLedger.rows, ¬ ClosesTask e → e.requestId = r.requestId → e.revision ≤ v
  others : ∀ e ∈ db.quotaLedger.rows, ¬ ClosesTask e → e.requestId ≠ r.requestId →
    ∃ r', db.reservations.get? e.requestId = some r' ∧ e.revision ≤ r'.version
  instructed : (∃ a ∈ db.adminResolutions.rows, a.requestId = r.requestId) → r.Finalized
  instructions : ∀ a ∈ db.adminResolutions.rows, a.requestId ≠ r.requestId →
    ∃ r', db.reservations.get? a.requestId = some r' ∧ r'.Finalized

/-- The row of a transaction between its changes: every revision up to its version
may be used. -/
def Held (r : BillingReservation) (db : Database) : Prop := Locked r.version r db ∧ 1 ≤ r.version

def NotDuplicate (e : Err) : Prop := e ≠ .duplicatedKey
  deriving Decidable

section Locked

variable {db db' : Database}

theorem LedgerInOrder.held (h : LedgerInOrder db)
    (hRow : db.reservations.get? r.requestId = some r) : Held r db := by
  refine ⟨?_, h.started _ r hRow⟩
  constructor
  · exact hRow
  · exact fun id r' _ hOther => h.started id r' hOther
  · intro e he hOpen hId
    obtain ⟨r', hRow', hRevision⟩ := h.entries e he hOpen
    rw [hId, hRow] at hRow'
    cases hRow'
    exact hRevision
  · exact fun e he hOpen _ => h.entries e he hOpen
  · rintro ⟨a, ha, hId⟩
    obtain ⟨r', hRow', hFinal⟩ := h.instructions a ha
    rw [hId, hRow] at hRow'
    cases hRow'
    exact hFinal
  · exact fun a ha _ => h.instructions a ha

theorem Locked.inOrder (h : Locked v r db) (hv : v ≤ r.version) (hStarted : 1 ≤ r.version) :
    LedgerInOrder db := by
  constructor
  · intro id r' hRow
    by_cases hId : id = r.requestId
    · rw [hId, h.row] at hRow
      cases hRow
      exact hStarted
    · exact h.started id r' hId hRow
  · intro e he hOpen
    by_cases hId : e.requestId = r.requestId
    · exact ⟨r, hId ▸ h.row, (h.own e he hOpen hId).trans hv⟩
    · exact h.others e he hOpen hId
  · intro a ha
    by_cases hId : a.requestId = r.requestId
    · exact ⟨r, hId ▸ h.row, h.instructed ⟨a, ha, hId⟩⟩
    · exact h.instructions a ha hId

theorem Held.inOrder (h : Held r db) : LedgerInOrder db := h.1.inOrder le_rfl h.2

/-- The row may be replaced by one that is closed if it was. -/
theorem Locked.put (h : Locked v r db) (hId : r'.requestId = r.requestId)
    (hFinal : r.Finalized → r'.Finalized) : Locked v r' (db.putReservation r') := by
  have hKept {id : String} {row : BillingReservation} (hOther : id ≠ r'.requestId)
      (hRow : db.reservations.get? id = some row) :
      (db.putReservation r').reservations.get? id = some row := by
    rw [Database.putReservation, get?_put_row_eq h.row hId, if_neg (hId ▸ hOther), hRow]
  constructor
  · rw [hId]
    exact get?_put_row h.row hId
  · intro id row hOther hRow
    rw [hId] at hOther
    rw [Database.putReservation, get?_put_row_eq h.row hId, if_neg hOther] at hRow
    exact h.started id row hOther hRow
  · rw [hId]
    exact h.own
  · intro e he hOpen hOther
    obtain ⟨row, hRow, hRevision⟩ := h.others e he hOpen (hId ▸ hOther)
    exact ⟨row, hKept hOther hRow, hRevision⟩
  · rw [hId]
    exact fun hOwn => hFinal (h.instructed hOwn)
  · intro a ha hOther
    obtain ⟨row, hRow, hClosed⟩ := h.instructions a ha (hId ▸ hOther)
    exact ⟨row, hKept hOther hRow, hClosed⟩

/-- A new row starts with no revision used. -/
theorem LedgerInOrder.inserted (h : LedgerInOrder db)
    (hRow : db.reservations.insert? r = some reservations) :
    Locked 0 r { db with reservations := reservations } := by
  have hNone : db.reservations.get? r.requestId = none := (Table.rows_insert? hRow).2
  have hGet (id : String) : reservations.get? id =
      if id = r.requestId then some r else db.reservations.get? id := Table.get?_insert? hRow id
  constructor
  · simp [hGet]
  · intro id row hOther hRow
    simp only [hGet, if_neg hOther] at hRow
    exact h.started id row hRow
  · intro e he hOpen hId
    obtain ⟨row, hOld, -⟩ := h.entries e he hOpen
    simp [hId, hNone] at hOld
  · intro e he hOpen hOther
    simpa [hGet, hOther] using h.entries e he hOpen
  · rintro ⟨a, ha, hId⟩
    obtain ⟨row, hOld, -⟩ := h.instructions a ha
    simp [hId, hNone] at hOld
  · intro a ha hOther
    simpa [hGet, hOther] using h.instructions a ha

/-- An entry of the request joins those on record. -/
theorem Locked.entered (h : Locked v r db) (hInsert : db.quotaLedger.insert? entry = some ledger)
    (hId : entry.requestId = r.requestId) (hvw : v ≤ w) (hRevision : entry.revision ≤ w) :
    Locked w r { db with quotaLedger := ledger } := by
  have hMem {e : QuotaLedgerEntry} (he : e ∈ ledger.rows) :
      e ∈ db.quotaLedger.rows ∨ e = entry := by
    rw [(Table.rows_insert? hInsert).1] at he
    simpa using he
  refine { h with own := ?_, others := ?_ }
  · intro e he hOpen hOwn
    rcases hMem he with hOld | rfl
    · exact (h.own e hOld hOpen hOwn).trans hvw
    · exact hRevision
  · intro e he hOpen hOther
    rcases hMem he with hOld | rfl
    · exact h.others e hOld hOpen hOther
    · exact absurd hId hOther

/-- An entry past all used revisions goes in. -/
theorem createLedgerEntry_meets (hId : entry.requestId = r.requestId) (hFresh : v < entry.revision)
    (hOpen : ¬ ClosesTask entry) :
    (createLedgerEntry entry).Meets (Locked v r) (fun _ => Locked entry.revision r)
      NotDuplicate := by
  intro db h
  have hInsert : db.quotaLedger.insert? entry ≠ none := by
    rw [ne_eq, Table.insert?_eq_none_iff]
    rintro ⟨old, hOld⟩
    have hKey : old.key = entry.key := Table.key_of_get? hOld
    simp only [QuotaLedgerEntry.key, Prod.mk.injEq] at hKey
    have hOldOpen : ¬ ClosesTask old := by
      rw [ClosesTask, hKey.2.1, hKey.2.2]
      exact hOpen
    have := h.own old (Table.mem_of_get? hOld) hOldOpen (hKey.1.trans hId)
    omega
  constructor
  · intro u db' hRun
    obtain ⟨ledger, hLedger, rfl⟩ := createLedgerEntry_ok hRun
    exact h.entered hLedger hId hFresh.le le_rfl
  · intro e hRun
    simp only [createLedgerEntry, Tx.read_bind_apply, Tx.require_bind_error_iff,
      Tx.write_error_iff, and_false, exists_false, or_false] at hRun
    exact absurd hRun.1 hInsert

end Locked

/-! ### Computations that leave the ledger alone -/

/-- The computation leaves a view of the database as it is, and no insert of it is
refused. -/
structure Quiet {β α : Type} (view : Database → β) (x : DbTx α) : Prop where
  within : x.Within (Frame.keeps view)
  fails : x.FailsWith NotDuplicate

def ledgerTables (db : Database) :
    Table BillingReservation.requestId × Table QuotaLedgerEntry.key ×
      Table BillingReservationAdminResolution.key :=
  (db.reservations, db.quotaLedger, db.adminResolutions)

namespace Quiet

variable {α β γ : Type}

theorem pure (a : α) : Quiet view (pure a : DbTx α) := ⟨.pure, .pure a⟩

theorem read (f : Database → α) : Quiet view (Tx.read f : DbTx α) := ⟨.read, .read f⟩

theorem write (h : ∀ db, view (f db) = view db) :
    Quiet view (Tx.write f : DbTx Unit) := ⟨.write h, .write f⟩

theorem failIf {c : Prop} [Decidable c] (h : NotDuplicate e) :
    Quiet view (Tx.failIf c e : DbTx Unit) := ⟨.failIf, .failIf h⟩

theorem require (h : NotDuplicate e) :
    Quiet view (Tx.require o e : DbTx α) := ⟨.require, .require h⟩

theorem bind (hx : Quiet view x) (hf : ∀ a, Quiet view (f a)) :
    Quiet view (x >>= f) :=
  ⟨.bind hx.within fun a => (hf a).within, .bind hx.fails fun a => (hf a).fails⟩

theorem check {c : Prop} [Decidable c] (h : NotDuplicate e) (hf : ∀ u, Quiet view (f u)) :
    Quiet view (Tx.failIf c e >>= f) :=
  bind (failIf h) hf

theorem ite {c : Prop} [Decidable c] (hx : Quiet view x) (hy : Quiet view y) :
    Quiet view (if c then x else y) :=
  ⟨.ite (fun _ => hx.within) fun _ => hy.within, .ite hx.fails hy.fails⟩

theorem when {c : Prop} [Decidable c] (hx : Quiet view x) :
    Quiet view (Tx.when c x) := ite hx (pure ())

/-- What depends on the view only is kept. -/
theorem meets (hx : Quiet view x) (hP : ∀ db db', view db' = view db → P db → P db') :
    x.Meets P (fun _ => P) NotDuplicate :=
  .of_failsWith hx.fails fun db _ db' h hRun => hP db db' (hx.within.of_ok hRun) h

end Quiet

theorem Locked.congr (db db' : Database) (hSame : ledgerTables db' = ledgerTables db)
    (h : Locked v r db) : Locked v r db' := by
  simp only [ledgerTables, Prod.mk.injEq] at hSame
  obtain ⟨hRows, hLedger, hInstructions⟩ := hSame
  constructor
  · rw [hRows]; exact h.row
  · rw [hRows]; exact h.started
  · rw [hLedger]; exact h.own
  · rw [hLedger, hRows]; exact h.others
  · rw [hInstructions]; exact h.instructed
  · rw [hInstructions, hRows]; exact h.instructions

theorem LedgerInOrder.congr (db db' : Database) (hSame : ledgerTables db' = ledgerTables db)
    (h : LedgerInOrder db) : LedgerInOrder db' := by
  simp only [ledgerTables, Prod.mk.injEq] at hSame
  obtain ⟨hRows, hLedger, hInstructions⟩ := hSame
  constructor
  · rw [hRows]; exact h.started
  · rw [hLedger, hRows]; exact h.entries
  · rw [hInstructions, hRows]; exact h.instructions

theorem Held.congr (db db' : Database) (hSame : ledgerTables db' = ledgerTables db) (h : Held r db)
    : Held r db' :=
  ⟨h.1.congr db db' hSame, h.2⟩

section Accounts

theorem applyUserQuotaDeltaTx_quiet :
    Quiet ledgerTables (applyUserQuotaDeltaTx userId delta) := by
  unfold applyUserQuotaDeltaTx
  refine .check (by decide) fun _ => .bind (.read _) fun _ => ?_
  refine .ite (.failIf (by decide)) (.ite ?_ ?_)
  · exact .bind (.require (by decide)) fun _ => .write fun _ => rfl
  · exact .bind (.require (by decide)) fun _ => .write fun _ => rfl

theorem applyTokenQuotaDeltaTx_quiet :
    Quiet ledgerTables (applyTokenQuotaDeltaTx userId tokenId delta unlimited now) := by
  unfold applyTokenQuotaDeltaTx
  refine .check (by decide) fun _ => .bind (.read _) fun _ => .ite ?_ (.ite ?_ ?_)
  · exact .check (by decide) fun _ => .pure _
  · exact .bind (.require (by decide)) fun _ => .bind (.write fun _ => rfl) fun _ => .pure _
  · exact .bind (.require (by decide)) fun _ => .bind (.write fun _ => rfl) fun _ => .pure _

theorem billingTokenExistsTx_quiet :
    Quiet ledgerTables (billingTokenExistsTx userId tokenId) :=
  .check (by decide) fun _ => .read _

theorem applySubscriptionReservationDeltaTx_quiet :
    Quiet ledgerTables (applySubscriptionReservationDeltaTx r delta) := by
  unfold applySubscriptionReservationDeltaTx
  refine .check (by decide) fun _ => .ite (.pure _) ?_
  refine .bind (.read _) fun _ => .bind (.require (by decide)) fun _ => ?_
  refine .check (by decide) fun _ => .check (by decide) fun _ => .ite ?_ ?_
  · refine .check (by decide) fun _ => .check (by decide) fun _ => ?_
    refine .check (by simp [NotDuplicate]) fun _ => ?_
    exact .bind (.write fun _ => rfl) fun _ => .pure _
  · exact .bind (.write fun _ => rfl) fun _ => .pure _

theorem updatePreConsumeRecord_quiet :
    Quiet ledgerTables (updatePreConsumeRecord requestId ok f) :=
  .bind (.read _) fun _ => .bind (.require (by decide)) fun _ => .write fun _ => rfl

theorem adjustFundingTx_quiet : Quiet ledgerTables (adjustFundingTx r delta now) := by
  unfold adjustFundingTx
  split
  · exact .bind applyUserQuotaDeltaTx_quiet fun _ => .pure _
  · refine .bind applySubscriptionReservationDeltaTx_quiet fun _ => ?_
    exact .bind (.when updatePreConsumeRecord_quiet) fun _ => .pure _
  · exact ⟨.fail, fun _ _ h => by cases Tx.fail_error_iff.mp h; decide⟩

theorem refundFundingTx_quiet : Quiet ledgerTables (refundFundingTx r now) := by
  unfold refundFundingTx
  split
  · exact .bind applyUserQuotaDeltaTx_quiet fun _ => .pure _
  · refine .bind applySubscriptionReservationDeltaTx_quiet fun _ => ?_
    exact .bind (.when updatePreConsumeRecord_quiet) fun _ => .pure _
  · exact ⟨.fail, fun _ _ h => by cases Tx.fail_error_iff.mp h; decide⟩

theorem adjustTokenTx_quiet :
    Quiet ledgerTables (adjustTokenTx r delta allow note now) := by
  unfold adjustTokenTx
  refine .ite (.pure _) (.bind billingTokenExistsTx_quiet fun _ => .ite (.pure _) ?_)
  exact .bind applyTokenQuotaDeltaTx_quiet fun _ => .pure _

theorem refundTokenTx_quiet : Quiet ledgerTables (refundTokenTx r allow now) :=
  .ite adjustTokenTx_quiet (.pure _)

theorem releaseShortfallFreezeTx_quiet : Quiet ledgerTables (releaseShortfallFreezeTx r) := by
  refine .when (.bind ?_ fun _ => .pure _)
  refine .bind ?_ fun _ => .ite (.pure _) ?_
  · refine .check (by decide) fun _ => .bind (.read _) fun _ => .ite (.pure _) ?_
    exact .bind (.read _) fun _ => .pure _
  · refine .bind (.read _) fun _ => .bind (.require (by decide)) fun _ => .ite (.pure _) ?_
    exact .bind (.write fun _ => rfl) fun _ => .pure _

end Accounts

/-! ### The functions that are given a locked row -/

theorem notDuplicate_finalized :
    NotDuplicate (finalizedError status) := by
  simp [NotDuplicate, finalizedError]

section Rows

variable {r r' : BillingReservation}

/-- The entry of a change goes one past the version that is on record. -/
theorem createNextEntry_meets (hStarted : 1 ≤ r.version) (hId : entry.requestId = r'.requestId)
    (hNext : entry.revision = r.version + 1) :
    (createLedgerEntry entry).Meets (Locked r.version r') (fun _ => Locked (r.version + 1) r')
      NotDuplicate := by
  refine (createLedgerEntry_meets hId (by omega) ?_).conseq (fun _ h => h) fun _ _ h => hNext ▸ h
  rintro ⟨-, hFirst⟩
  omega

theorem adjustReservedBillingTx_meets :
    (adjustReservedBillingTx r targetQuota phase allow now).Meets (Held r) Held NotDuplicate := by
  unfold adjustReservedBillingTx
  refine .of_and fun hStarted => ?_
  refine .check (by decide) fun _ => ?_
  refine .check notDuplicate_finalized fun _ => ?_
  refine .ite (fun _ => .pure fun _ h => ⟨h, hStarted⟩) fun _ => ?_
  refine .bind (adjustFundingTx_quiet.meets Locked.congr) fun f => ?_
  refine .bind (adjustTokenTx_quiet.meets Locked.congr) fun t => ?_
  refine .check (by decide) fun _ => ?_
  refine .bind (.write fun db h => h.put rfl id) fun _ => ?_
  refine .bind (createNextEntry_meets hStarted rfl rfl) fun _ => .pure fun _ h => ⟨h, ?_⟩
  exact hStarted.trans (Int.le_add_one le_rfl)

theorem persistBillingReservationSettlementIntentTx_meets :
    (persistBillingReservationSettlementIntentTx r targetQuota mode now).Meets (Held r)
      (fun _ => LedgerInOrder) NotDuplicate := by
  unfold persistBillingReservationSettlementIntentTx
  refine .of_and fun hStarted => ?_
  have hKept (db : Database) (h : Locked r.version r db) : LedgerInOrder db :=
    h.inOrder le_rfl hStarted
  refine .check (by decide) fun _ => .ite (fun _ => ?_) fun _ => ?_
  · exact (Tx.Meets.failIf (by decide)).conseq hKept fun _ _ h => h.1
  · refine .check notDuplicate_finalized fun _ => ?_
    refine .ite (fun _ => .pure hKept) fun _ => ?_
    refine .check (by decide) fun _ => ?_
    refine .bind (.write fun db h => h.put rfl id) fun _ => ?_
    exact (createNextEntry_meets hStarted rfl rfl).conseq (fun _ h => h) fun _ _ h =>
      h.inOrder le_rfl (hStarted.trans (Int.le_add_one le_rfl))

theorem bindResourceTx_meets :
    (bindResourceTx r resourceType resourceId note now).Meets (Held r) Held NotDuplicate := by
  refine .of_and fun hStarted => ?_
  refine .bind (.write fun db h => h.put rfl id) fun _ => ?_
  refine .bind (createNextEntry_meets hStarted rfl rfl) fun _ => .pure fun _ h => ⟨h, ?_⟩
  exact hStarted.trans (Int.le_add_one le_rfl)

theorem recordShortfallTx_meets {failure : SettlementFailure} {previousStatus : UserStatus} :
    (recordShortfallTx r targetQuota failure previousStatus now).Meets (Held r)
      (fun _ => LedgerInOrder) NotDuplicate := by
  refine .of_and fun hStarted => ?_
  refine .ite (fun _ => .pure fun _ h => h.inOrder le_rfl hStarted) fun _ => ?_
  refine .bind (.write fun db h => h.put rfl id) fun _ => ?_
  refine .bind (createNextEntry_meets hStarted rfl rfl) fun _ => .pure fun _ h => ?_
  exact h.inOrder le_rfl (hStarted.trans (Int.le_add_one le_rfl))

/-- The entry of a settlement is written before the version moves. -/
theorem adjustForSettlementTx_meets :
    (adjustForSettlementTx r actualQuota allow now).Meets (Held r)
      (fun r' db => Locked (r'.version + 1) r' db ∧ 1 ≤ r'.version) NotDuplicate := by
  refine .ite (fun _ => ?_) fun _ => ?_
  · exact adjustReservedBillingTx_meets.conseq (fun _ h => h) fun r' _ h =>
      ⟨{ h.1 with own := fun e he hOpen hId => (h.1.own e he hOpen hId).trans (by omega) }, h.2⟩
  · refine .of_and fun hStarted => ?_
    exact .bind (createNextEntry_meets hStarted rfl rfl) fun _ => .pure fun _ h => ⟨h, hStarted⟩

def HeldClosed (result : Bool × BillingReservation) (db : Database) : Prop :=
  Held result.2 db ∧ (result.1 = true → result.2.Finalized)

theorem settleBillingReservationTx_meets :
    (settleBillingReservationTx r actualQuota allow now).Meets (Held r) HeldClosed
      NotDuplicate := by
  refine .ite (fun _ => ?_) fun _ => ?_
  · refine .check (by decide) fun _ => ?_
    exact .pure fun _ h => ⟨h, by simp⟩
  · refine .check notDuplicate_finalized fun _ => ?_
    refine .bind adjustForSettlementTx_meets fun adjusted => .of_and fun hStarted => ?_
    refine .bind (.write fun db h => h.put rfl fun _ => .inl rfl) fun _ => ?_
    refine .bind (releaseShortfallFreezeTx_quiet.meets Locked.congr) fun _ => ?_
    exact .pure fun _ h => ⟨⟨h, hStarted.trans (Int.le_add_one le_rfl)⟩, fun _ => .inl rfl⟩

theorem refundBillingReservationTx_meets :
    (refundBillingReservationTx r allow now).Meets (Held r) HeldClosed NotDuplicate := by
  refine .ite (fun _ => .pure fun _ h => ⟨h, by simp⟩) fun _ => ?_
  refine .of_and fun hStarted => ?_
  refine .check notDuplicate_finalized fun _ => ?_
  refine .bind (refundFundingTx_quiet.meets Locked.congr) fun f => ?_
  refine .bind (refundTokenTx_quiet.meets Locked.congr) fun t => ?_
  refine .bind (.write fun db h => h.put rfl fun _ => .inr rfl) fun _ => ?_
  refine .bind (createNextEntry_meets hStarted rfl rfl) fun _ => ?_
  refine .bind (releaseShortfallFreezeTx_quiet.meets Locked.congr) fun _ => ?_
  exact .pure fun _ h => ⟨⟨h, hStarted.trans (Int.le_add_one le_rfl)⟩, fun _ => .inr rfl⟩

theorem lockReservation_meets :
    (lockReservation requestId).Meets LedgerInOrder Held NotDuplicate := by
  refine .of_failsWith ?_ fun db r db' h hRun => ?_
  · exact .bind (.read _) fun _ => .require (by decide)
  · obtain ⟨rfl, hRow⟩ := lockReservation_ok hRun
    have hKey : r.requestId = requestId := Table.key_of_get? hRow
    exact h.held (hKey ▸ hRow)

end Rows

end XyApi.Billing

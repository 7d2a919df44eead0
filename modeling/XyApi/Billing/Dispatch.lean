import XyApi.Billing.Transactions

/-!
Who may dispatch a Midjourney request. Workers claim a reservation, refund one
that nobody claimed, and bind the accepted task, in any order and any number of
times. Of all claims and unclaimed refunds on one request, a single one is ever
granted; the others leave the database as it is.
-/

namespace XyApi.Billing

open Lib Lib.Calendar

inductive DispatchCall
  | claim (requestId : String) (now : Int)
  | refundUnclaimed (requestId : String) (now : Int)
  | create (task : Midjourney) (requestId : String) (targetQuota now : Int)

namespace DispatchCall

def requestId : DispatchCall → String
  | claim requestId _ | refundUnclaimed requestId _ | create _ requestId _ _ => trimSpace requestId

/-- The transaction of a call and what it tells the worker. Binding an accepted
task grants nothing. -/
def body : DispatchCall → DbTx Bool
  | claim requestId now => claimMidjourneyBillingReservation requestId now
  | refundUnclaimed requestId now => refundUnclaimedMidjourneyBillingReservation requestId now
  | create task requestId targetQuota now => do
      let _ ← createMidjourneyWithBillingReservation task requestId targetQuota now
      pure false

def step (db : Database) (c : DispatchCall) : Database := (c.body.commit db).1

/-- The call succeeds and answers yes: the worker may dispatch the request, or has
refunded it. -/
def Granted (db : Database) (c : DispatchCall) : Prop := ∃ db', c.body db = .ok (true, db')

def Exclusive : DispatchCall → Prop
  | claim _ _ | refundUnclaimed _ _ => True
  | create _ _ _ _ => False

end DispatchCall

/-- The request is bound to something or refunded, so it is nobody's to take. -/
def Taken (rid : String) (db : Database) : Prop :=
  ∃ r, db.reservations.get? rid = some r ∧ (r.resourceType ≠ .unbound ∨ r.status = .refunded)

/-! ### What each call does to the row it locks -/

section Rows

variable {requestId : String}

theorem bindResourceTx_taken
    (h : bindResourceTx r resourceType resourceId note now db = .ok (r', db'))
    (hRow : db.reservations.get? rid = some r) (hType : resourceType ≠ .unbound) :
    Taken rid db' := by
  obtain ⟨rfl, ledger, -, rfl⟩ := bindResourceTx_ok h
  exact ⟨_, get?_put_row hRow rfl, .inl hType⟩

/-- A claim is refused without effect, or it takes an open, unbound request. -/
theorem claimMidjourneyBillingReservation_ok
    (h : claimMidjourneyBillingReservation requestId now db = .ok (claimed, db')) :
    ∃ r, db.reservations.get? (trimSpace requestId) = some r ∧ r.status = .reserved ∧
      ((claimed = false ∧ db' = db) ∨
        (claimed = true ∧ r.resourceType = .unbound ∧ Taken (trimSpace requestId) db')) := by
  simp only [claimMidjourneyBillingReservation, Tx.failIf_bind_ok_iff] at h
  obtain ⟨-, h⟩ := h
  rw [Tx.bind_ok_iff] at h
  obtain ⟨r, db₁, hLock, h⟩ := h
  obtain ⟨rfl, hRow⟩ := lockReservation_ok hLock
  simp only [Tx.failIf_bind_ok_iff, ne_eq, not_not] at h
  obtain ⟨hStatus, h⟩ := h
  refine ⟨r, hRow, hStatus, ?_⟩
  split at h
  · simp only [Tx.failIf_bind_ok_iff, Tx.pure_ok_iff] at h
    exact .inl ⟨h.2.1.symm, h.2.2.symm⟩
  · next hUnbound =>
      obtain ⟨bound, db₂, hBound, h⟩ := Tx.bind_ok h
      cases h
      exact .inr ⟨rfl, by simpa using hUnbound, bindResourceTx_taken hBound hRow (by decide)⟩

/-- An unclaimed refund is refused without effect, or it refunds an open, unbound
request. -/
theorem refundUnclaimedMidjourneyBillingReservation_ok
    (h : refundUnclaimedMidjourneyBillingReservation requestId now db = .ok (applied, db')) :
    ∃ r, db.reservations.get? (trimSpace requestId) = some r ∧
      ((applied = false ∧ db' = db) ∨
        (applied = true ∧ ¬ Bound r ∧ r.status = .reserved ∧ Taken (trimSpace requestId) db')) := by
  simp only [refundUnclaimedMidjourneyBillingReservation, Tx.failIf_bind_ok_iff] at h
  obtain ⟨-, h⟩ := h
  rw [Tx.bind_ok_iff] at h
  obtain ⟨r, db₁, hLock, h⟩ := h
  obtain ⟨rfl, hRow⟩ := lockReservation_ok hLock
  refine ⟨r, hRow, ?_⟩
  split at h
  · cases h
    exact .inl ⟨rfl, rfl⟩
  · next hFree =>
      obtain ⟨⟨applied', refunded⟩, db₂, hRefund, h⟩ := Tx.bind_ok h
      cases h
      rcases refundBillingReservationTx_ok hRefund with ⟨rfl, -, -, rfl⟩ |
        ⟨rfl, hStatus, rfl, db₃, hBooked, hReleased⟩
      · exact .inl ⟨rfl, rfl⟩
      · refine .inr ⟨rfl, hFree, hStatus, refundedReservation r now, ?_, .inr rfl⟩
        rw [hReleased.reservations_eq, hBooked.reservations_eq]
        exact get?_put_row hRow rfl

/-- A binding leaves the request bound to its Midjourney task. -/
theorem createMidjourneyWithBillingReservation_taken
    (h : createMidjourneyWithBillingReservation task requestId targetQuota now db =
      .ok (task', db')) : Taken (trimSpace requestId) db' := by
  simp only [createMidjourneyWithBillingReservation, Tx.failIf_bind_ok_iff] at h
  obtain ⟨-, h⟩ := h
  rw [Tx.bind_ok_iff] at h
  obtain ⟨p, db₁, hBind, h⟩ := h
  obtain rfl := bindBilling_ok hBind
  rw [Tx.bind_ok_iff] at h
  obtain ⟨r, db₂, hLock, h⟩ := h
  obtain ⟨rfl, hRow⟩ := lockReservation_ok hLock
  obtain ⟨-, h⟩ := Tx.failIf_bind_ok_iff.mp h
  split at h
  · next hBound =>
      obtain rfl := findBoundMidjourney_ok h
      exact ⟨r, hRow, .inl (by simp [hBound])⟩
  · obtain ⟨-, h⟩ := Tx.failIf_bind_ok_iff.mp h
    obtain ⟨adjusted, db₃, hAdjust, h⟩ := Tx.bind_ok h
    -- The location plays no part in an adjustment.
    obtain ⟨-, hRow₃, -⟩ := adjustReservedBillingTx_transitions (Location.fixed 0) hAdjust hRow
    obtain ⟨stored, db₄, hInsert, h⟩ := Tx.bind_ok h
    obtain ⟨midjourneys, rfl⟩ := insertMidjourney_ok hInsert
    obtain ⟨bound, db₅, hBound, h⟩ := Tx.bind_ok h
    cases h
    exact bindResourceTx_taken hBound hRow₃ (by decide)

end Rows

/-! ### One call -/

section Calls

variable {c : DispatchCall}

/-- A granted call leaves its request taken. -/
theorem DispatchCall.taken_of_granted (h : c.Granted db) : Taken c.requestId (c.step db) := by
  obtain ⟨db', hBody⟩ := h
  unfold DispatchCall.step
  rw [Tx.commit_of_ok hBody]
  cases c with
  | claim =>
    obtain ⟨r, -, -, ⟨hFalse, -⟩ | ⟨-, -, hTaken⟩⟩ := claimMidjourneyBillingReservation_ok hBody
    · cases hFalse
    · exact hTaken
  | refundUnclaimed =>
    obtain ⟨r, -, ⟨hFalse, -⟩ | ⟨-, -, -, hTaken⟩⟩ :=
      refundUnclaimedMidjourneyBillingReservation_ok hBody
    · cases hFalse
    · exact hTaken
  | create =>
    simp only [DispatchCall.body] at hBody
    obtain ⟨_, db₁, -, hPure⟩ := Tx.bind_ok hBody
    cases (Tx.pure_ok hPure).1

/-- Nobody is granted a request that is taken. -/
theorem DispatchCall.not_granted_of_taken (h : Taken c.requestId db) : ¬ c.Granted db := by
  rintro ⟨db', hBody⟩
  obtain ⟨r, hRow, hTaken⟩ := h
  cases c with
  | claim =>
    obtain ⟨r', hRow', hStatus, ⟨hFalse, -⟩ | ⟨-, hUnbound, -⟩⟩ :=
      claimMidjourneyBillingReservation_ok hBody
    · cases hFalse
    · cases hRow.symm.trans hRow'
      rcases hTaken with hBound | hRefunded
      · exact hBound hUnbound
      · cases hStatus.symm.trans hRefunded
  | refundUnclaimed =>
    obtain ⟨r', hRow', ⟨hFalse, -⟩ | ⟨-, hFree, hStatus, -⟩⟩ :=
      refundUnclaimedMidjourneyBillingReservation_ok hBody
    · cases hFalse
    · cases hRow.symm.trans hRow'
      rcases hTaken with hBound | hRefunded
      · exact hFree (.inl hBound)
      · cases hStatus.symm.trans hRefunded
  | create =>
    simp only [DispatchCall.body] at hBody
    obtain ⟨_, db₁, -, hPure⟩ := Tx.bind_ok hBody
    cases (Tx.pure_ok hPure).1

/-- A claim or unclaimed refund that is not granted changes nothing. -/
theorem DispatchCall.step_eq_of_not_granted (hKind : c.Exclusive) (h : ¬ c.Granted db) :
    c.step db = db := by
  unfold DispatchCall.step
  refine Tx.commit_preserves (P := fun db' => db' = db) rfl fun answer db' hBody => ?_
  cases c with
  | claim =>
    obtain ⟨r, -, -, ⟨-, hSame⟩ | ⟨rfl, -, -⟩⟩ := claimMidjourneyBillingReservation_ok hBody
    · exact hSame
    · exact absurd ⟨db', hBody⟩ h
  | refundUnclaimed =>
    obtain ⟨r, -, ⟨-, hSame⟩ | ⟨rfl, -, -, -⟩⟩ :=
      refundUnclaimedMidjourneyBillingReservation_ok hBody
    · exact hSame
    · exact absurd ⟨db', hBody⟩ h
  | create => exact hKind.elim

/-- Calls on other requests leave the row alone. -/
theorem DispatchCall.step_frame (h : rid ≠ c.requestId) :
    (c.step db).reservations.get? rid = db.reservations.get? rid := by
  unfold DispatchCall.step
  refine Tx.commit_preserves
    (P := fun db' : Database => db'.reservations.get? rid = db.reservations.get? rid) rfl
    fun answer db' hBody => ?_
  have hSteps : Transitions (Location.fixed 0) c.requestId db db' := by
    cases c with
    | claim => exact claimMidjourneyBillingReservation_transitions _ hBody
    | refundUnclaimed =>
      exact refundUnclaimedMidjourneyBillingReservation_transitions _ hBody
    | create =>
      simp only [DispatchCall.body] at hBody
      obtain ⟨_, db₁, hCreate, hPure⟩ := Tx.bind_ok hBody
      cases hPure
      exact createMidjourneyWithBillingReservation_transitions _ hCreate
  exact hSteps.frame h

/-- A request that is taken stays taken. -/
theorem DispatchCall.step_taken (h : Taken rid db) : Taken rid (c.step db) := by
  by_cases hRid : rid = c.requestId
  · subst hRid
    have hSame (hKind : c.Exclusive) : c.step db = db :=
      DispatchCall.step_eq_of_not_granted hKind (DispatchCall.not_granted_of_taken h)
    cases c with
    | create =>
      unfold DispatchCall.step
      refine Tx.commit_preserves (P := Taken _) h fun answer db' hBody => ?_
      simp only [DispatchCall.body] at hBody
      obtain ⟨_, db₁, hCreate, hPure⟩ := Tx.bind_ok hBody
      cases hPure
      exact createMidjourneyWithBillingReservation_taken hCreate
    | claim => rwa [hSame trivial]
    | refundUnclaimed => rwa [hSame trivial]
  · obtain ⟨r, hRow, hTaken⟩ := h
    exact ⟨r, (DispatchCall.step_frame hRid).trans hRow, hTaken⟩

end Calls

/-- Whatever the workers do in between, after one claim or unclaimed refund of a
request is granted no other is, and it changes nothing: at most one worker may
dispatch, a claimed request is not refunded as unclaimed, and a refunded one is
not claimed. -/
theorem dispatch_exclusive (db : Database) (before between : List DispatchCall)
    (first second : DispatchCall) (hFirst : first.Granted (run DispatchCall.step db before))
    (hSame : second.requestId = first.requestId) :
    ¬ second.Granted (run DispatchCall.step db (before ++ first :: between)) ∧
      (second.Exclusive →
        run DispatchCall.step db (before ++ first :: between ++ [second]) =
          run DispatchCall.step db (before ++ first :: between)) := by
  have hTaken : Taken first.requestId
      (run DispatchCall.step db (before ++ first :: between)) := by
    rw [run_append, run_cons]
    exact run_invariant (fun _ _ h => DispatchCall.step_taken h)
      (DispatchCall.taken_of_granted hFirst) between
  have hRefused : ¬ second.Granted (run DispatchCall.step db (before ++ first :: between)) :=
    DispatchCall.not_granted_of_taken (hSame ▸ hTaken)
  refine ⟨hRefused, fun hKind => ?_⟩
  rw [run_append, run_cons, run_nil]
  exact DispatchCall.step_eq_of_not_granted hKind hRefused

def sampleUnclaimed : Database where
  reservations := ⟨[{
    requestId := "m", userId := 1, tokenId := 0, fundingSource := .wallet, initialQuota := 10,
    reservedQuota := 10, tokenMode := .skipped, status := .reserved, version := 1 }], by decide⟩

/-- A second claim and an unclaimed refund after a claim. -/
theorem dispatch_exclusive_claimed :
    (DispatchCall.claim "m" 5).Granted sampleUnclaimed ∧
      ¬ (DispatchCall.refundUnclaimed "m" 7).Granted
        (run DispatchCall.step sampleUnclaimed [.claim "m" 5, .claim "m" 6]) ∧
      run DispatchCall.step sampleUnclaimed
          [.claim "m" 5, .claim "m" 6, .refundUnclaimed "m" 7] =
        run DispatchCall.step sampleUnclaimed [.claim "m" 5, .claim "m" 6] := by
  have hFirst : (DispatchCall.claim "m" 5).Granted sampleUnclaimed := ⟨_, rfl⟩
  obtain ⟨hRefused, hSame⟩ := dispatch_exclusive sampleUnclaimed [] [.claim "m" 6]
    (.claim "m" 5) (.refundUnclaimed "m" 7) hFirst rfl
  exact ⟨hFirst, hRefused, hSame trivial⟩

end XyApi.Billing

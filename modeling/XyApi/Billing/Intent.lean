import XyApi.Billing.Absorption

/-!
Settlement intents. A request records the quota it is going to be settled at in
one transaction and settles in another. The settling transaction does not read
the recorded target, so an intent binds only clients that settle what was
recorded last; for those it does, whatever happens in between.
-/

namespace XyApi.Billing

open Lib Lib.Calendar Subscription

inductive RequestCall
  | preConsume (fuel : Nat) (input : BillingReservationInput) (now : Int)
  | extend (requestId : String) (targetQuota now : Int)
  | prepare (requestId : String) (targetQuota now : Int)
  | advance (requestId : String) (targetQuota now : Int)
  | markShortfall (requestId : String) (targetQuota : Int) (failureCode : String) (now : Int)
  | settle (requestId : String) (actualQuota now : Int)
  | refund (requestId : String) (now : Int)

namespace RequestCall

def tx : RequestCall → BillingTx
  | preConsume fuel input now => .preConsume fuel input now
  | extend requestId targetQuota now => .extend requestId targetQuota now
  | prepare requestId targetQuota now => .prepare requestId targetQuota now
  | advance requestId targetQuota now => .advance requestId targetQuota now
  | markShortfall requestId targetQuota failureCode now =>
    .markShortfall requestId targetQuota failureCode now
  | settle requestId actualQuota now => .settle requestId actualQuota now
  | refund requestId now => .refund requestId now

def requestId : RequestCall → String
  | preConsume _ input _ => trimSpace input.requestId
  | extend id _ _ | prepare id _ _ | advance id _ _ | markShortfall id _ _ _ | settle id _ _
  | refund id _ => trimSpace id

def intent : RequestCall → Option Int
  | prepare _ targetQuota _ | advance _ targetQuota _ | markShortfall _ targetQuota _ _ =>
    some targetQuota
  | _ => none

theorem tx_on (c : RequestCall) : c.tx.On c.requestId := by
  cases c <;> simp [tx, requestId, BillingTx.On, BillingTx.requestId]

end RequestCall

inductive CallRow (c : RequestCall) (r : BillingReservation) : BillingReservation → Prop
  | kept (hIntent : ∀ target ∈ c.intent, r.status = .reserved → r.settlementTarget = target) :
      CallRow c r r
  | moved {r' : BillingReservation} (hOpen : r.status = .reserved)
      (hStatus : r'.status = .reserved) (hIntent : c.intent = none) (hPending : r'.settlementPending = r.settlementPending)
      (hTarget : r'.settlementTarget = r.settlementTarget) : CallRow c r r'
  | intended {r' : BillingReservation} (hStatus : r'.status = .reserved)
      (hIntent : c.intent = some r'.settlementTarget) : CallRow c r r'
  | settled {r' : BillingReservation} (requestId : String) (now : Int)
      (hCall : c = .settle requestId r'.settledQuota now) (hStatus : r'.status = .settled) :
      CallRow c r r'
  | refunded {r' : BillingReservation} (hStatus : r'.status = .refunded) : CallRow c r r'

section Row

variable {loc : Location} {db db' : Database}

theorem RequestCall.row_of_intent {id : String}
    (h : prepareSettlementWithMode id targetQuota mode now db = .ok (u, db'))
    (hIntent : c.intent = some targetQuota) (hRow' : db'.reservations.get? (trimSpace id) = some r')
    :
    ∃ r, db.reservations.get? (trimSpace id) = some r ∧ CallRow c r r' := by
  obtain ⟨r, hRow, hPersist⟩ := prepareSettlementWithMode_ok h
  refine ⟨r, hRow, ?_⟩
  rcases persistBillingReservationSettlementIntentTx_ok hPersist with ⟨rfl, hSame⟩ |
    ⟨hStatus, -, ledger, -, rfl⟩
  · cases hRow'.symm.trans hRow
    refine .kept fun target hTarget hStatus => ?_
    rw [hIntent, Option.mem_some] at hTarget
    rcases hSame with ⟨hSettled, -⟩ | ⟨-, -, hTarget'⟩
    · simp [hStatus] at hSettled
    · exact hTarget'.trans hTarget
  · have hId : (intendedReservation r targetQuota now).requestId = r.requestId := rfl
    simp only [get?_put_row hRow hId] at hRow'
    cases hRow'
    exact .intended hStatus hIntent

/-- A row on the request of a successful call was there before, or is fresh. -/
theorem RequestCall.row_ok (h : c.tx.body loc db = .ok (u, db'))
    (hRow' : db'.reservations.get? c.requestId = some r') :
    FreshRow r' ∨ ∃ r, db.reservations.get? c.requestId = some r ∧ CallRow c r r' := by
  have hKept (hDb : db' = db) (hIntent : c.intent = none) :
      ∃ r, db.reservations.get? c.requestId = some r ∧ CallRow c r r' :=
    ⟨r', hDb ▸ hRow', .kept (by simp [hIntent])⟩
  cases c with
  | preConsume =>
    obtain ⟨result, h⟩ := Tx.void_ok_iff.mp h
    rcases preConsumeBillingReservation_ok h with hDb | ⟨-, hInsert, hId, hFresh⟩
    · exact .inr (hKept hDb rfl)
    · rw [RequestCall.requestId, Table.get?_insert? hInsert, if_pos hId.symm,
        Option.some.injEq] at hRow'
      exact .inl (hRow' ▸ hFresh)
  | extend id targetQuota now =>
    obtain ⟨r₁, h⟩ := Tx.void_ok_iff.mp h
    obtain ⟨r, hRow, ⟨-, hDb⟩ | hAdjust⟩ := extendBillingReservation_ok h
    · exact .inr (hKept hDb rfl)
    · obtain ⟨hStatus, -, ⟨-, -, hDb⟩ | ⟨-, rfl, hBooked⟩⟩ := adjustReservedBillingTx_ok hAdjust
      · exact .inr (hKept hDb rfl)
      · have hId : (adjustedReservation r targetQuota now).requestId = r.requestId := rfl
        rw [hBooked.reservations_eq, RequestCall.requestId, get?_put_row hRow hId,
          Option.some.injEq] at hRow'
        subst hRow'
        exact .inr ⟨r, hRow, .moved hStatus hStatus rfl rfl rfl⟩
  | prepare => exact .inr (RequestCall.row_of_intent h rfl hRow')
  | advance => exact .inr (RequestCall.row_of_intent h rfl hRow')
  | markShortfall =>
    obtain ⟨r₁, h⟩ := Tx.void_ok_iff.mp h
    obtain ⟨r, hRow, ⟨hFinal, rfl⟩ | ⟨hStatus, -, -, failure, user, previousStatus, ledger, -, -,
      hMarked, -, rfl⟩⟩ := markBillingReservationSettlementShortfall_ok h
    · simp only [RequestCall.requestId, hRow, Option.some.injEq] at hRow'
      subst hRow'
      exact .inr ⟨r, hRow, .kept fun _ _ hOpen => absurd hOpen (finalized_ne_reserved hFinal)⟩
    · rw [(freezeUser_users_eq r.userId _).1] at hRow'
      have hId : r₁.requestId = r.requestId := by rcases hMarked with ⟨rfl, -⟩ | rfl <;> rfl
      simp only [RequestCall.requestId, get?_put_row hRow hId] at hRow'
      cases hRow'
      refine .inr ⟨r, hRow, ?_⟩
      rcases hMarked with ⟨rfl, hSame⟩ | rfl
      · exact .intended hStatus (congrArg some hSame.2.2.1.symm)
      · exact .intended hStatus rfl
  | settle id actualQuota now =>
    obtain ⟨r₁, h⟩ := Tx.void_ok_iff.mp h
    obtain ⟨r, applied, hRow, hSettle⟩ := settleBillingReservation_ok h
    have hStored := (settleBillingReservationTx_transitions loc hSettle hRow).2.1
    rw [RequestCall.requestId, hStored, Option.some.injEq] at hRow'
    subst hRow'
    rcases settleBillingReservationTx_ok hSettle with ⟨-, -, -, rfl, rfl⟩ |
      ⟨-, -, adjusted, db₁, ledger, rfl, -⟩
    · exact .inr ⟨r₁, hRow, .kept (by simp [RequestCall.intent])⟩
    · exact .inr ⟨r, hRow, .settled id now rfl rfl⟩
  | refund =>
    obtain ⟨r₁, h⟩ := Tx.void_ok_iff.mp h
    obtain ⟨r, applied, hRow, hRefund⟩ := refundBillingReservation_ok h
    have hStored := (refundBillingReservationTx_transitions loc hRefund hRow).2.1
    rw [RequestCall.requestId, hStored, Option.some.injEq] at hRow'
    subst hRow'
    rcases refundBillingReservationTx_ok hRefund with ⟨-, -, rfl, rfl⟩ | ⟨-, -, rfl, -⟩
    · exact .inr ⟨r₁, hRow, .kept (by simp [RequestCall.intent])⟩
    · exact .inr ⟨r, hRow, .refunded rfl⟩

end Row

/-! ### Runs -/

/-- The database and, for each request, the target of the last intent call on it
that succeeded. The second part is what the clients know, not a column. -/
structure Tracked where
  db : Database
  lastIntent : String → Option Int := fun _ => none

namespace RequestCall

def announce (c : RequestCall) (lastIntent : String → Option Int) : String → Option Int :=
  fun id => if id = c.requestId ∧ c.intent ≠ none then c.intent else lastIntent id

def step (loc : Location) (s : Tracked) (c : RequestCall) : Tracked :=
  match c.tx.body loc s.db with
  | .ok (_, db) => { db := db, lastIntent := c.announce s.lastIntent }
  | .error _ => s

/-- A settlement names the target that was announced last, if one was. -/
def SettlesLastIntent (s : Tracked) : RequestCall → Prop
  | settle id actualQuota _ => ∀ target ∈ s.lastIntent (trimSpace id), actualQuota = target
  | _ => True

instance (s : Tracked) : (c : RequestCall) → Decidable (c.SettlesLastIntent s)
  | settle id actualQuota _ =>
    inferInstanceAs (Decidable (∀ target ∈ s.lastIntent (trimSpace id), actualQuota = target))
  | preConsume .. | extend .. | prepare .. | advance .. | markShortfall .. | refund .. =>
    inferInstanceAs (Decidable True)

end RequestCall

/-- The pending target of an open reservation is the one announced last. -/
def TargetsTracked (s : Tracked) : Prop :=
  ∀ rid r, s.db.reservations.get? rid = some r → r.status = .reserved →
    r.settlementPending = true → s.lastIntent rid = some r.settlementTarget

theorem RequestCall.step_tracked (loc : Location) (h : TargetsTracked s) (c : RequestCall) :
    TargetsTracked (c.step loc s) := by
  unfold RequestCall.step
  cases hBody : c.tx.body loc s.db with
  | error => exact h
  | ok result =>
    obtain ⟨u, db'⟩ := result
    intro rid r' hRow' hStatus hPending
    simp only [RequestCall.announce]
    by_cases hid : rid = c.requestId
    · subst hid
      rcases c.row_ok hBody hRow' with hFresh | ⟨r, hRow, hCall⟩
      · simp [hFresh.columns.2.2.2.2] at hPending
      · cases hCall with
        | kept hIntent =>
          cases hc : c.intent with
          | none => simpa [hc] using h _ _ hRow hStatus hPending
          | some target => simp [hIntent target hc hStatus]
        | moved hOpen _ hIntent hSamePending hSameTarget =>
          rw [hSamePending] at hPending
          simp [hIntent, hSameTarget, h _ r hRow hOpen hPending]
        | intended _ hIntent => simp [hIntent]
        | settled _ _ _ hSettled => simp [hSettled] at hStatus
        | refunded hRefunded => simp [hRefunded] at hStatus
    · rw [if_neg fun hBoth => hid hBoth.1]
      rw [(c.tx.body_transitions loc hBody c.tx_on).frame hid] at hRow'
      exact h rid r' hRow' hStatus hPending

/-- From `s` to `s'`, every reservation with a pending intent that became settled
was settled at its target. -/
def SettledAtTarget (s s' : Tracked) : Prop :=
  ∀ rid r r', s.db.reservations.get? rid = some r → r.status = .reserved →
    r.settlementPending = true → s'.db.reservations.get? rid = some r' → r'.status = .settled →
    r'.settledQuota = r.settlementTarget

theorem RequestCall.step_settledAtTarget (loc : Location) {s : Tracked} (h : TargetsTracked s)
    {c : RequestCall} (hClient : c.SettlesLastIntent s) : SettledAtTarget s (c.step loc s) := by
  intro rid r r' hRow hOpen hPending hRow' hSettled
  have hTarget := h rid r hRow hOpen hPending
  unfold RequestCall.step at hRow'
  cases hBody : c.tx.body loc s.db with
  | error =>
    simp only [hBody, hRow] at hRow'
    cases hRow'
    simp [hOpen] at hSettled
  | ok result =>
    obtain ⟨u, db'⟩ := result
    simp only [hBody] at hRow'
    by_cases hid : rid = c.requestId
    · subst hid
      rcases c.row_ok hBody hRow' with hFresh | ⟨row, hRow₀, hCall⟩
      · simp [hFresh.columns.1] at hSettled
      · cases hRow.symm.trans hRow₀
        cases hCall with
        | kept => simp [hOpen] at hSettled
        | moved _ hStatus => simp [hStatus] at hSettled
        | intended hStatus => simp [hStatus] at hSettled
        | settled id now hCall =>
          subst hCall
          exact hClient _ hTarget
        | refunded hRefunded => simp [hRefunded] at hSettled
    · rw [(c.tx.body_transitions loc hBody c.tx_on).frame hid, hRow] at hRow'
      cases hRow'
      simp [hOpen] at hSettled

/-- When every settlement names the last announced target, intents are binding:
whatever the clients do in between, a reservation with a pending intent is settled
at its target. -/
theorem settlement_intent_binding (loc : Location) (db₀ : Database)
    (hReservations : db₀.reservations = .empty) (calls : List RequestCall)
    (hClients : Guarded (RequestCall.step loc) (fun s c => c.SettlesLastIntent s) { db := db₀ }
      calls) (before after : List RequestCall) (c : RequestCall)
    (hCalls : calls = before ++ c :: after) :
    SettledAtTarget (run (RequestCall.step loc) { db := db₀ } before)
      (run (RequestCall.step loc) { db := db₀ } (before ++ [c])) := by
  subst hCalls
  have hTracked : TargetsTracked (run (RequestCall.step loc) { db := db₀ } before) := by
    refine run_invariant (fun s c h => c.step_tracked loc h) ?_ before
    intro rid r hRow
    simp [hReservations] at hRow
  rw [run_append]
  exact c.step_settledAtTarget loc hTracked (guarded_append.mp hClients).2.1

def sampleAnnounced : List RequestCall :=
  [.preConsume 0 { requestId := "a", userId := 1, tokenId := 1, quota := 40 } 10,
    .prepare "a" 50 11, .advance "a" 60 12]

def sampleAnnouncedRow : BillingReservation where
  requestId := "a"
  userId := 1
  tokenId := 1
  fundingSource := .wallet
  initialQuota := 40
  reservedQuota := 40
  tokenReserved := 40
  settlementTarget := 60
  settlementPending := true
  tokenMode := .limited
  status := .reserved
  version := 3
  updatedAt := 12

/-- A client that still settles at 50 is let through, and the intent is dropped. -/
theorem advanced_intent_settled_lower :
    ¬ SettledAtTarget (run (RequestCall.step .utc) { db := sampleAccount } sampleAnnounced)
      (run (RequestCall.step .utc) { db := sampleAccount }
        (sampleAnnounced ++ [.settle "a" 50 13])) := by
  intro h
  have hLower := h "a" sampleAnnouncedRow
    (settledReservation (adjustedReservation sampleAnnouncedRow 50 13) 50 13)
    (by decide) rfl rfl (by decide) rfl
  exact absurd hLower (by decide)

theorem settlement_intent_binding_sample :
    SettledAtTarget (run (RequestCall.step .utc) { db := sampleAccount } sampleAnnounced)
      (run (RequestCall.step .utc) { db := sampleAccount }
        (sampleAnnounced ++ [.settle "a" 60 13])) :=
  settlement_intent_binding .utc sampleAccount rfl (sampleAnnounced ++ [.settle "a" 60 13])
    (by decide) sampleAnnounced [] (.settle "a" 60 13) rfl

end XyApi.Billing

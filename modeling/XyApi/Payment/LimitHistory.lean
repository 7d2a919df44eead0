import XyApi.Payment.Clerical

/-!
Daily limits over whole histories. What is paid into a day only grows when a
reservation settles, and the settlement that takes it over the limit is marked on
its reservation, which nothing changes afterwards. A new reservation is checked
against what is paid and reserved on its day. The counters stay machine integers,
and the arithmetic on them never leaves that range.
-/

namespace XyApi.Payment

open Lib

/-! ### Calls -/

def limitUsed (channel : LimitChannel) (db : Database) : Bool :=
  db.payments.limitBuckets.rows.any (fun b => (b.provider, b.paymentMethod, b.currency) = channel) ||
    db.payments.limitReservations.rows.any (fun r => r.channel = channel)

def upsertPaymentLimitPolicy (env : PaymentEnv) (policy : PaymentLimitPolicy) :
    DbTx PaymentLimitPolicy := do
  let policy ← normalizePaymentLimitPolicy env policy
  let existing? ← Tx.read fun db => db.payments.limitPolicies.get? policy.channel
  match existing? with
  | none => do
      let policies? ← Tx.read fun db => db.payments.limitPolicies.insert? policy
      let policies ← Tx.require policies? .duplicatedKey
      writePayments fun p => { p with limitPolicies := policies }
      pure policy
  | some existing => do
      let existingTimezone :=
        if trimSpace existing.timezone = "" then "UTC" else trimSpace existing.timezone
      let used ← Tx.read (limitUsed policy.channel)
      Tx.failIf (existingTimezone ≠ policy.timezone ∧ used)
        (.new "payment limit timezone cannot change after usage exists")
      writePayments fun p => { p with
        limitPolicies := p.limitPolicies.updateWhere (fun q => q.channel = policy.channel)
          (fun q => { q with
            singleLimitMinor := policy.singleLimitMinor
            dailyLimitMinor := policy.dailyLimitMinor
            timezone := policy.timezone
            enabled := policy.enabled }) fun _ => rfl }
      pure policy

def firstPaidEvent (orderId : Int) (db : Database) : Option PaymentEvent :=
  Table.least PaymentEvent.createdAt
    (db.payments.events.rows.filter fun e => e.paymentOrderId = orderId ∧ e.paid)

def settlePaymentLimitReservationTx (env : PaymentEnv) (order : PaymentOrder) (now : Int) :
    DbTx Unit := do
  let event? ← Tx.read (firstPaidEvent order.id)
  let paidAt := match event? with
    | some event => paymentLimitPaidAtForEvent event order now
    | none => if order.settledAt > 0 then order.settledAt else now
  settlePaymentLimitReservationAtTx env order paidAt now

def PaymentOrderStatus.countsAsPaid : PaymentOrderStatus → Bool
  | .paid | .fulfilled | .refundPending | .refunded | .disputed | .debt => true
  | _ => false

def reconcileReservationTx (env : PaymentEnv) (orderId : Int) : DbTx Unit := do
  let reservation? ← Tx.read fun db => db.payments.limitReservations.get? orderId
  match reservation? with
  | none => pure ()
  | some reservation =>
    if reservation.status = .paid then pure ()
    else do
      let order? ← Tx.read fun db => db.payments.orders.get? reservation.paymentOrderId
      match order? with
      | none => do
          Tx.failIf (reservation.status ≠ .active) .recordNotFound
          -- Only the identifier of the missing order is used.
          releasePaymentLimitReservationTx
            { id := reservation.paymentOrderId, tradeNo := "", userId := 0, orderKind := .topUp
              provider := reservation.provider, expectedAmountMinor := 0, currency := "" }
            env.now
      | some order =>
        if PaymentOrderStatus.countsAsPaid order.status then
          settlePaymentLimitReservationTx env order env.now
        else if order.status = .failed ∨ order.status = .expired then
          Tx.when (reservation.status = .active)
            (releasePaymentLimitReservationTx order env.now)
        else
          Tx.when (reservation.status = .active ∧ reservation.expiresAt > 0 ∧
            reservation.expiresAt ≤ env.now)
            (releasePaymentLimitReservationTx order env.now)

def reconcilableReservations (limit : Nat) (db : Database) : List Int :=
  ((db.payments.limitReservations.rows.filter fun r =>
    r.status = .active ∨ (r.status = .released ∧
      ((db.payments.orders.get? r.paymentOrderId).any fun order =>
        PaymentOrderStatus.countsAsPaid order.status))).map
    PaymentLimitReservation.paymentOrderId).take limit

inductive LimitCall
  | setPolicy (env : PaymentEnv) (policy : PaymentLimitPolicy)
  | reserve (env : PaymentEnv) (order : PaymentOrder)
  | release (order : PaymentOrder) (now : Int)
  | moveExpiry (orderId expiresAt now : Int)
  | settle (env : PaymentEnv) (order : PaymentOrder) (paidAt now : Int)
  | reconcile (env : PaymentEnv) (orderId : Int)
  /-- Orders and events written by the rest of the system. -/
  | elsewhere (orders : Table PaymentOrder.id) (events : Table PaymentEvent.id)

def LimitCall.tx : LimitCall → DbTx Unit
  | .setPolicy env policy => (upsertPaymentLimitPolicy env policy).void
  | .reserve env order => reservePaymentLimitTxAt env order
  | .release order now => releasePaymentLimitReservationTx order now
  | .moveExpiry orderId expiresAt now => updatePaymentLimitReservationExpiryTx orderId expiresAt now
  | .settle env order paidAt now => settlePaymentLimitReservationAtTx env order paidAt now
  | .reconcile env orderId => reconcileReservationTx env orderId
  | .elsewhere orders events => writePayments fun p => { p with orders := orders, events := events }

def LimitCall.step (db : Database) (call : LimitCall) : Database := (call.tx.commit db).1

def reconcileEach (env : PaymentEnv) : List Int → Database → Database
  | [], db => db
  | orderId :: rest, db =>
    match (reconcileReservationTx env orderId).commit db with
    | (db, .ok _) => reconcileEach env rest db
    | (db, .error _) => db

def reconcilePaymentLimitReservations (env : PaymentEnv) (limit : Nat) (db : Database) : Database :=
  reconcileEach env (reconcilableReservations limit db) db

variable {db db' db₁ db₂ : Database} {channel : LimitChannel}

/-! ### What calls leave alone -/

def InRange (n : Int) : Prop := 0 ≤ n ∧ n ≤ maxInt64

def CountersInRange (db : Database) : Prop :=
  ∀ b ∈ db.payments.limitBuckets.rows, InRange b.reservedMinor ∧ InRange b.paidMinor

/-- Nothing was paid: a bucket is new or has the paid amount it had, and a paid
reservation stays as it is. -/
structure PaidKept (db db' : Database) : Prop where
  policies : db'.payments.limitPolicies = db.payments.limitPolicies
  paid : ∀ b' ∈ db'.payments.limitBuckets.rows, b'.paidMinor = 0 ∨
    ∃ b ∈ db.payments.limitBuckets.rows, b.key = b'.key ∧ b.paidMinor = b'.paidMinor
  marks : ∀ r ∈ db.payments.limitReservations.rows, r.status = .paid →
    r ∈ db'.payments.limitReservations.rows
  counters : CountersInRange db → CountersInRange db'

namespace PaidKept

theorem refl (db : Database) : PaidKept db db :=
  ⟨rfl, fun b hb => .inr ⟨b, hb, rfl, rfl⟩, fun _ hr _ => hr, id⟩

theorem trans (h₁ : PaidKept db db₁) (h₂ : PaidKept db₁ db₂) : PaidKept db db₂ where
  policies := h₂.policies.trans h₁.policies
  paid b₂ hb₂ := by
    rcases h₂.paid b₂ hb₂ with hZero | ⟨b₁, hb₁, hKey, hPaid⟩
    · exact .inl hZero
    · rcases h₁.paid b₁ hb₁ with hZero | ⟨b, hb, hKey', hPaid'⟩
      · exact .inl (hPaid ▸ hZero)
      · exact .inr ⟨b, hb, hKey'.trans hKey, hPaid'.trans hPaid⟩
  marks r hr hPaid := h₂.marks r (h₁.marks r hr hPaid) hPaid
  counters h := h₂.counters (h₁.counters h)

end PaidKept

/-- Buckets were written: each is new, or is an old one with the same paid amount. -/
theorem PaidKept.of_buckets (h : ∀ b' ∈ buckets.rows, (b'.paidMinor = 0 ∧ b'.reservedMinor = 0) ∨
      ∃ b ∈ db.payments.limitBuckets.rows, b.key = b'.key ∧ b.paidMinor = b'.paidMinor ∧
        (InRange b.reservedMinor → InRange b'.reservedMinor)) :
    PaidKept db { db with payments := { db.payments with limitBuckets := buckets } } where
  policies := rfl
  paid b' hb' := by
    rcases h b' hb' with ⟨hPaid, -⟩ | ⟨b, hb, hKey, hPaid, -⟩
    · exact .inl hPaid
    · exact .inr ⟨b, hb, hKey, hPaid⟩
  marks _ hr _ := hr
  counters hRange b' hb' := by
    rcases h b' hb' with ⟨hPaid, hReserved⟩ | ⟨b, hb, -, hPaid, hReserved⟩
    · rw [hPaid, hReserved]
      exact ⟨⟨le_rfl, by decide⟩, ⟨le_rfl, by decide⟩⟩
    · obtain ⟨hOld, hOldPaid⟩ := hRange b hb
      exact ⟨hReserved hOld, hPaid ▸ hOldPaid⟩

/-- Reservations were written: the paid ones are still there. -/
theorem PaidKept.of_reservations
    (h : ∀ r ∈ db.payments.limitReservations.rows, r.status = .paid → r ∈ reservations.rows) :
    PaidKept db { db with payments := { db.payments with limitReservations := reservations } } where
  policies := rfl
  paid b hb := .inr ⟨b, hb, rfl, rfl⟩
  marks := h
  counters := id

/-- A rewrite of reservations that are not paid. -/
theorem PaidKept.of_updateWhere
    (h : ∀ r ∈ db.payments.limitReservations.rows, r.status = .paid → p r = true → f r = r) :
    PaidKept db { db with payments := { db.payments with
      limitReservations := db.payments.limitReservations.updateWhere p f hf } } := by
  refine .of_reservations fun r hr hPaid => Table.mem_updateWhere.mpr ⟨r, hr, ?_⟩
  by_cases hp : p r = true
  · rw [if_pos hp, h r hr hPaid hp]
  · rw [if_neg hp]

/-! ### Buckets -/

section

variable {f : PaymentLimitBucket → PaymentLimitBucket}
  {hf : ∀ b, (f b).key = b.key} {u : Unit}

theorem updateLimitBucket_ok (h : updateLimitBucket key f hf db = .ok (u, db')) :
    db' = { db with payments := { db.payments with
      limitBuckets := db.payments.limitBuckets.updateWhere (fun b => b.key = key) f hf } } := by
  unfold updateLimitBucket writePayments at h
  exact (Tx.write_ok_iff.mp h).symm

theorem get?_updateLimitBucket (h : updateLimitBucket key f hf db = .ok (u, db'))
    (hb : db.payments.limitBuckets.get? key = some b) :
    db'.payments.limitBuckets.get? key = some (f b) := by
  obtain rfl := updateLimitBucket_ok h
  have hKey := Table.key_of_get? hb
  rw [Table.get?_updateWhere, hb, Option.map_some, if_pos (by simp [hKey])]

end

theorem setLimitReserved_ok (hRange : InRange reservedMinor)
    (h : setLimitReserved key reservedMinor now db = .ok (u, db')) :
    PaidKept db db' ∧ db'.payments.limitReservations = db.payments.limitReservations ∧
      ∀ b, db.payments.limitBuckets.get? key = some b → ∃ b', db'.payments.limitBuckets.get? key = some b' ∧
        b'.reservedMinor = reservedMinor ∧ b'.paidMinor = b.paidMinor := by
  unfold setLimitReserved at h
  refine ⟨?_, by rw [updateLimitBucket_ok h],
    fun b hb => ⟨_, get?_updateLimitBucket h hb, rfl, rfl⟩⟩
  obtain rfl := updateLimitBucket_ok h
  refine .of_buckets fun b' hb' => .inr ?_
  obtain ⟨b, hb, rfl⟩ := Table.mem_updateWhere.mp hb'
  refine ⟨b, hb, ?_⟩
  split
  · exact ⟨rfl, rfl, fun _ => hRange⟩
  · exact ⟨rfl, rfl, id⟩

theorem ensurePaymentLimitBucketTx_ok
    (h : ensurePaymentLimitBucketTx channel dayKey now db = .ok (b, db')) :
    PaidKept db db' ∧ db'.payments.limitReservations = db.payments.limitReservations ∧
      db'.payments.limitBuckets.get? (channel, dayKey) = some b := by
  unfold ensurePaymentLimitBucketTx at h
  simp only [writePayments, Tx.write_bind_apply, Tx.read_bind_apply, Tx.require_ok_iff] at h
  obtain ⟨hFound, rfl⟩ := h
  refine ⟨.of_buckets fun b' hb' => ?_, rfl, hFound⟩
  obtain ⟨b₀, hb₀, rfl⟩ := Table.mem_updateWhere.mp hb'
  rcases Table.mem_insertOrKeep hb₀ with rfl | hOld
  · refine .inl ?_
    split <;> exact ⟨rfl, rfl⟩
  · refine .inr ⟨b₀, hOld, ?_⟩
    split <;> exact ⟨rfl, rfl, id⟩

/-- What is given back is at most what is reserved. -/
theorem releasedMinor_mem (hReserved : 0 ≤ reservedMinor)
    (reservations : List PaymentLimitReservation) (hReleased : 0 ≤ released)
    (hLe : released ≤ reservedMinor) :
    0 ≤ releasedMinor reservedMinor released reservations ∧
      releasedMinor reservedMinor released reservations ≤ reservedMinor := by
  induction reservations generalizing released with
  | nil => exact ⟨hReleased, hLe⟩
  | cons r rest ih =>
    unfold releasedMinor
    split
    · exact ih hReleased hLe
    · split
      · exact ih hReserved le_rfl
      · exact ih (by omega) (by omega)

theorem releaseExpired_ok (hCounters : CountersInRange db)
    (hFound : db.payments.limitBuckets.get? bucket.key = some bucket)
    (h : releaseExpiredPaymentLimitReservationsTx bucket now db = .ok (bucket', db')) :
    PaidKept db db' ∧ bucket'.key = bucket.key ∧ InRange bucket'.reservedMinor ∧
      ∃ row, db'.payments.limitBuckets.get? bucket.key = some row ∧
        row.reservedMinor = bucket'.reservedMinor ∧ row.paidMinor = bucket'.paidMinor := by
  obtain ⟨hReserved, -⟩ := hCounters bucket (Table.mem_of_get? hFound)
  unfold releaseExpiredPaymentLimitReservationsTx at h
  rw [Tx.failIf_bind_ok_iff, Tx.read_bind_apply, Tx.ite_ok_iff] at h
  rcases h.2 with ⟨-, h⟩ | ⟨-, h⟩
  · cases h
    exact ⟨.refl _, rfl, hReserved, bucket, hFound, rfl, rfl⟩
  · rw [writePayments, Tx.write_bind_apply, Tx.bind_ok_iff] at h
    obtain ⟨u, db₁, hSet, h⟩ := h
    cases h
    have hReleased := releasedMinor_mem hReserved.1 (db.payments.limitReservations.rows.filter
      (expiredReservation bucket now)) le_rfl hReserved.1
    have hRange : InRange (bucket.reservedMinor - min (releasedMinor bucket.reservedMinor 0
        (db.payments.limitReservations.rows.filter (expiredReservation bucket now)))
        bucket.reservedMinor) := by
      obtain ⟨hLow, hHigh⟩ := hReserved
      rw [min_eq_left hReleased.2]
      exact ⟨by omega, by omega⟩
    obtain ⟨hKept, -, hRow⟩ := setLimitReserved_ok hRange hSet
    refine ⟨PaidKept.trans (.of_updateWhere fun r _ hPaid hExpired => ?_) hKept, rfl, hRange,
      hRow bucket hFound⟩
    simp [expiredReservation, hPaid] at hExpired

/-! ### Reserving -/

/-- No arithmetic on the counters of a reservation that is admitted takes it over. -/
theorem not_wouldExceed (hLimit : 0 < limitMinor)
    (h : ¬ paymentLimitWouldExceed limitMinor paidMinor reservedMinor amountMinor = true) :
    paidMinor + (reservedMinor + amountMinor) ≤ limitMinor := by
  simp only [paymentLimitWouldExceed, decide_eq_true_eq, not_and, not_or] at h
  obtain ⟨-, -, -, -, -, hAmount⟩ := h hLimit
  omega

theorem normalizePaymentLimitPolicy_ok
    (h : normalizePaymentLimitPolicy env policy db = .ok (policy', db')) :
    db' = db ∧ policy'.dailyLimitMinor = policy.dailyLimitMinor ∧
      policy'.currency = toUpper (trimSpace policy.currency) := by
  refine ⟨(normalizePaymentLimitPolicy_readOnly env policy).of_ok h, ?_⟩
  unfold normalizePaymentLimitPolicy at h
  rw [Tx.failIf_bind_ok_iff, Tx.bind_ok_iff] at h
  obtain ⟨-, u, db₁, -, h⟩ := h
  rw [Tx.failIf_bind_ok_iff, Tx.failIf_bind_ok_iff, Tx.pure_ok_iff] at h
  obtain ⟨-, -, rfl, -⟩ := h
  exact ⟨rfl, rfl⟩

theorem addPaymentLimitMinor_ok (h : addPaymentLimitMinor current delta db = .ok (sum, db')) :
    db' = db ∧ sum = current + delta ∧ InRange sum := by
  unfold addPaymentLimitMinor at h
  rw [Tx.failIf_bind_ok_iff, Tx.pure_ok_iff] at h
  obtain ⟨hFits, rfl, rfl⟩ := h
  exact ⟨rfl, rfl, by unfold InRange; omega⟩

def Reserved (order : PaymentOrder) (channel : LimitChannel) (dayKey : String) (db : Database) :
    Prop :=
  ∃ r, db.payments.limitReservations.get? order.id = some r ∧ r.channel = channel ∧
    r.dayKey = dayKey ∧ r.amountMinor = order.expectedAmountMinor ∧ r.status = .active

theorem reservePaymentLimitTxAt_ok (hCounters : CountersInRange db)
    (h : reservePaymentLimitTxAt env order db = .ok (u, db')) :
    PaidKept db db' ∧ ∀ policy,
      db.payments.limitPolicies.get?
        (order.provider, order.paymentMethod, toUpper order.currency) = some policy →
      policy.enabled → 0 < policy.dailyLimitMinor →
      let channel := (order.provider, order.paymentMethod, toUpper (trimSpace policy.currency))
      ∃ dayKey bucket, Reserved order channel dayKey db' ∧
        db'.payments.limitBuckets.get? (channel, dayKey) = some bucket ∧
        bucket.paidMinor + bucket.reservedMinor ≤ policy.dailyLimitMinor := by
  unfold reservePaymentLimitTxAt at h
  rw [Tx.failIf_bind_ok_iff, Tx.failIf_bind_ok_iff, Tx.read_bind_apply] at h
  obtain ⟨-, -, h⟩ := h
  cases hPolicy : db.payments.limitPolicies.get?
      (order.provider, order.paymentMethod, toUpper order.currency) with
  | none =>
    simp only [hPolicy] at h
    cases h
    refine ⟨.refl _, fun policy hSome => ?_⟩
    cases hSome
  | some policy =>
    simp only [hPolicy] at h
    by_cases hEnabled : policy.enabled
    · rw [if_neg (not_not.mpr hEnabled), Tx.bind_ok_iff] at h
      obtain ⟨policy', db₁, hNormal, h⟩ := h
      obtain ⟨rfl, hDaily, hCurrency⟩ := normalizePaymentLimitPolicy_ok hNormal
      rw [Tx.failIf_bind_ok_iff, Tx.bind_ok_iff] at h
      obtain ⟨-, dayKey, db₁, hDay, h⟩ := h
      obtain rfl : db₁ = _ := (paymentLimitDayKey_readOnly env _ _).of_ok hDay
      obtain ⟨bucket, db₁, hEnsure, h⟩ := Tx.bind_ok h
      obtain ⟨hKept₁, -, hFound⟩ := ensurePaymentLimitBucketTx_ok hEnsure
      have hKey := Table.key_of_get? hFound
      obtain ⟨bucket', db₂, hExpire, h⟩ := Tx.bind_ok h
      obtain ⟨hKept₂, hKey', hReserved, row, hRow, hRowReserved, hRowPaid⟩ :=
        releaseExpired_ok (hKept₁.counters hCounters) (hKey ▸ hFound) hExpire
      rw [Tx.failIf_bind_ok_iff, Tx.read_bind_apply, Tx.require_bind_ok_iff] at h
      obtain ⟨hFits, reservations, hInsert, h⟩ := h
      rw [writePayments, Tx.write_bind_apply, Tx.bind_ok_iff] at h
      obtain ⟨reserved, db₃, hAdd, h⟩ := h
      obtain ⟨rfl, rfl, hRange⟩ := addPaymentLimitMinor_ok hAdd
      obtain ⟨hKept₄, hSame, hSet⟩ := setLimitReserved_ok hRange h
      have hKept₃ : PaidKept db₂
          { db₂ with payments := { db₂.payments with limitReservations := reservations } } :=
        .of_reservations fun r hr _ => by
          rw [(Table.rows_insert? hInsert).1]
          exact List.mem_append_left _ hr
      refine ⟨hKept₁.trans (hKept₂.trans (hKept₃.trans hKept₄)), fun p hp _ hLimit => ?_⟩
      cases hp
      obtain ⟨final, hFinal, hFinalReserved, hFinalPaid⟩ := hSet row (by rw [hKey']; exact hRow)
      refine ⟨dayKey, final, ?_, ?_, ?_⟩
      · have hNew := Table.get?_insert? hInsert order.id
        rw [if_pos rfl] at hNew
        exact ⟨_, (congrArg (·.get? order.id) hSame).trans hNew,
          by rw [← hCurrency]; rfl, rfl, rfl, rfl⟩
      · rw [← hCurrency, ← hKey, ← hKey']
        exact hFinal
      · rw [hFinalPaid, hFinalReserved, hRowPaid, ← hDaily]
        exact not_wouldExceed (hDaily ▸ hLimit) hFits
    · rw [if_pos hEnabled] at h
      cases h
      exact ⟨.refl _, fun p hp hp' => absurd hp' (Option.some.inj hp ▸ hEnabled)⟩

/-! ### Releasing and settling -/

/-- A rewrite of one reservation that is not paid. -/
theorem PaidKept.of_updateLimitReservation
    (hOpen : ∀ r, db.payments.limitReservations.get? orderId = some r → r.status = .paid → f r = r)
    (h : updateLimitReservation orderId f hf db = .ok (u, db')) : PaidKept db db' := by
  unfold updateLimitReservation writePayments at h
  obtain rfl := Tx.write_ok_iff.mp h
  refine .of_updateWhere fun r hr hPaid hId => hOpen r ?_ hPaid
  rw [← of_decide_eq_true hId]
  exact Table.get?_of_mem hr

theorem returnReservedTx_ok (hCounters : CountersInRange db) (hAmount : 0 < reservation.amountMinor)
    (h : returnReservedTx reservation now db = .ok (u, db')) :
    PaidKept db db' ∧ db'.payments.limitReservations = db.payments.limitReservations := by
  unfold returnReservedTx at h
  obtain ⟨bucket, db₁, hEnsure, h⟩ := Tx.bind_ok h
  obtain ⟨hKept, hSame, hFound⟩ := ensurePaymentLimitBucketTx_ok hEnsure
  obtain ⟨hReserved, -⟩ := hKept.counters hCounters bucket (Table.mem_of_get? hFound)
  rw [Tx.failIf_bind_ok_iff] at h
  have hRange : InRange (bucket.reservedMinor - min reservation.amountMinor bucket.reservedMinor) := by
    obtain ⟨hLow, hHigh⟩ := hReserved
    unfold InRange
    omega
  obtain ⟨hKept', hSame', -⟩ := setLimitReserved_ok hRange h.2
  exact ⟨hKept.trans hKept', hSame'.trans hSame⟩

theorem updatePaymentLimitReservationExpiryTx_kept
    (h : updatePaymentLimitReservationExpiryTx orderId expiresAt now db = .ok (u, db')) :
    PaidKept db db' := by
  rcases Tx.when_ok_iff.mp h with ⟨-, h⟩ | ⟨-, rfl⟩
  · exact .of_updateLimitReservation (fun r _ hPaid => if_neg (by rw [hPaid]; decide)) h
  · exact .refl _

theorem releasePaymentLimitReservationTx_kept (hCounters : CountersInRange db)
    (h : releasePaymentLimitReservationTx order now db = .ok (u, db')) : PaidKept db db' := by
  rcases Tx.when_ok_iff.mp h with ⟨-, h⟩ | ⟨-, rfl⟩
  · rw [Tx.read_bind_apply] at h
    cases hFound : db.payments.limitReservations.get? order.id with
    | none =>
      simp only [hFound] at h
      cases h
      exact .refl _
    | some =>
      simp only [hFound] at h
      rcases Tx.when_ok_iff.mp h with ⟨hActive, h⟩ | ⟨-, rfl⟩
      · rw [Tx.failIf_bind_ok_iff, Tx.bind_ok_iff] at h
        obtain ⟨hAmount, u', db₁, hReturn, h⟩ := h
        obtain ⟨hKept, hSame⟩ := returnReservedTx_ok hCounters (by omega) hReturn
        refine hKept.trans (.of_updateLimitReservation (fun r hr hPaid => ?_) h)
        rw [hSame, hFound] at hr
        cases hr
        rw [hActive] at hPaid
        cases hPaid
      · exact .refl _
  · exact .refl _

end XyApi.Payment

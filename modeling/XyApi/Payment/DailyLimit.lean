import XyApi.Payment.LimitHistory

/-!
The daily limit of a channel over every history of its orders. While a policy is in
force, a day takes in more than the limit only through a payment that arrives after
its reservation was given back or on another day than it was reserved for. The
settlement that takes the day over marks its reservation, and the mark stays.
-/

namespace XyApi.Payment

open Lib

variable {db db' : Database} {channel : LimitChannel} {limit : Int}

/-- The channel has an enabled policy with this daily limit, stored as
`upsertPaymentLimitPolicy` stores it. -/
def InForce (channel : LimitChannel) (limit : Int) (db : Database) : Prop :=
  ∃ policy, db.payments.limitPolicies.get? channel = some policy ∧ policy.enabled = true ∧
    policy.dailyLimitMinor = limit ∧ toUpper (trimSpace policy.currency) = policy.currency

def OverLimitMarked (channel : LimitChannel) (dayKey : String) (db : Database) : Prop :=
  ∃ r ∈ db.payments.limitReservations.rows,
    r.channel = channel ∧ r.status = .paid ∧ r.paidDayKey = dayKey ∧ r.overLimit = true

structure LimitsSound (channel : LimitChannel) (limit : Int) (db : Database) : Prop where
  inForce : InForce channel limit db
  counters : CountersInRange db
  marked : ∀ dayKey bucket, db.payments.limitBuckets.get? (channel, dayKey) = some bucket →
    limit < bucket.paidMinor → OverLimitMarked channel dayKey db

theorem PaidKept.sound (hKept : PaidKept db db') (hLimit : 0 < limit)
    (hSound : LimitsSound channel limit db) : LimitsSound channel limit db' where
  inForce := by
    unfold InForce
    rw [hKept.policies]
    exact hSound.inForce
  counters := hKept.counters hSound.counters
  marked dayKey bucket hBucket hOver := by
    rcases hKept.paid bucket (Table.mem_of_get? hBucket) with hZero | ⟨old, hOld, hKey, hPaid⟩
    · omega
    · have hFound := Table.get?_of_mem hOld
      rw [hKey, Table.key_of_get? hBucket] at hFound
      obtain ⟨r, hr, hChannel, hStatus, hMark⟩ := hSound.marked dayKey old hFound (hPaid ▸ hOver)
      exact ⟨r, hKept.marks r hr hStatus, hChannel, hStatus, hMark⟩

/-! ### Policies -/

section

variable {env : PaymentEnv} {policy stored : PaymentLimitPolicy}

theorem normalizePaymentLimitPolicy_stored
    (h : normalizePaymentLimitPolicy env policy db = .ok (stored, db')) :
    toUpper (trimSpace stored.currency) = stored.currency := by
  rw [(normalizePaymentLimitPolicy_ok h).2.2, trimSpace_toUpper, trimSpace_trimSpace,
    toUpper_toUpper]

/-- What an update of the stored policy of a channel leaves in the table. -/
theorem get?_updatePolicy {policies : Table PaymentLimitPolicy.channel} {k : LimitChannel}
    {f : PaymentLimitPolicy → PaymentLimitPolicy} {hf : ∀ p, (f p).channel = p.channel}
    (hFound : policies.get? channel = some existing) :
    (policies.updateWhere (fun p => p.channel = channel) f hf).get? k =
      if k = channel then some (f existing) else policies.get? k := by
  rw [Table.get?_updateWhere]
  split
  · rename_i hk
    have hKey : existing.channel = channel := Table.key_of_get? hFound
    rw [hk, hFound, Option.map_some, if_pos (by simp [hKey])]
  · rename_i hk
    cases hOther : policies.get? k with
    | none => rfl
    | some other =>
      have hKey : other.channel = k := Table.key_of_get? hOther
      rw [Option.map_some, if_neg (by simp [hKey, hk])]

/-- Storing a policy touches nothing else, and puts the policy in force that it names. -/
theorem upsertPaymentLimitPolicy_ok
    (h : upsertPaymentLimitPolicy env policy db = .ok (stored, db')) :
    ∃ policies row, db' = { db with payments := { db.payments with limitPolicies := policies } } ∧
      (∀ k, policies.get? k =
        if k = stored.channel then some row else db.payments.limitPolicies.get? k) ∧
      row.enabled = stored.enabled ∧ row.dailyLimitMinor = stored.dailyLimitMinor ∧
      toUpper (trimSpace row.currency) = row.currency := by
  unfold upsertPaymentLimitPolicy at h
  rw [Tx.bind_ok_iff] at h
  obtain ⟨normal, db₁, hNormal, h⟩ := h
  obtain ⟨rfl, -, -⟩ := normalizePaymentLimitPolicy_ok hNormal
  have hStored := normalizePaymentLimitPolicy_stored hNormal
  rw [Tx.read_bind_apply] at h
  cases hFound : db₁.payments.limitPolicies.get? normal.channel with
  | none =>
    simp only [hFound] at h
    rw [Tx.read_bind_apply, Tx.require_bind_ok_iff] at h
    obtain ⟨policies, hInsert, h⟩ := h
    rw [writePayments, Tx.write_bind_apply, Tx.pure_ok_iff] at h
    obtain ⟨rfl, rfl⟩ := h
    exact ⟨policies, normal, rfl, Table.get?_insert? hInsert, rfl, rfl, hStored⟩
  | some existing =>
    simp only [hFound] at h
    rw [Tx.read_bind_apply, Tx.failIf_bind_ok_iff, writePayments, Tx.write_bind_apply,
      Tx.pure_ok_iff] at h
    obtain ⟨-, rfl, rfl⟩ := h
    have hKey : existing.channel = normal.channel := Table.key_of_get? hFound
    have hCurrency : existing.currency = normal.currency := congrArg (·.2.2) hKey
    refine ⟨_, _, rfl, fun k => get?_updatePolicy hFound, rfl, rfl, ?_⟩
    rw [hCurrency, hStored]

/-- A policy that is stored again with the limit it had changes nothing for the channel. -/
theorem LimitsSound.upsert (hSound : LimitsSound channel limit db)
    (h : upsertPaymentLimitPolicy env policy db = .ok (stored, db'))
    (hSame : stored.channel = channel → stored.enabled = true ∧ stored.dailyLimitMinor = limit) :
    LimitsSound channel limit db' := by
  obtain ⟨policies, row, rfl, hGet, hEnabled, hDaily, hCurrency⟩ := upsertPaymentLimitPolicy_ok h
  refine ⟨?_, hSound.counters, hSound.marked⟩
  by_cases hChannel : stored.channel = channel
  · obtain ⟨hOn, hLimit⟩ := hSame hChannel
    exact ⟨row, (hGet channel).trans (if_pos hChannel.symm), hEnabled.trans hOn,
      hDaily.trans hLimit, hCurrency⟩
  · obtain ⟨p, hp, hRest⟩ := hSound.inForce
    exact ⟨p, (hGet channel).trans ((if_neg (Ne.symm hChannel)).trans hp), hRest⟩

end

/-! ### Settling -/

theorem wouldExceed_of_lt (hLimit : 0 < limit) (h : limit < paidMinor + amountMinor) :
    paymentLimitWouldExceed limit paidMinor 0 amountMinor = true := by
  simp only [paymentLimitWouldExceed, decide_eq_true_eq]
  omega

/-- The two writes of a settlement: the day's paid amount and the reservation. -/
theorem LimitsSound.paid (hPayKey : ∀ b', (pay b').key = b'.key)
    (hMarkKey : ∀ r', (mark r').paymentOrderId = r'.paymentOrderId) (hLimit : 0 < limit)
    (hSound : LimitsSound channel limit db)
    (hr : db.payments.limitReservations.get? orderId = some r) (hOpen : r.status ≠ .paid)
    (hb : db.payments.limitBuckets.get? (r.channel, dayKey) = some b)
    (hSum : InRange (b.paidMinor + r.amountMinor))
    (hPay : ∀ b', (pay b').paidMinor = b.paidMinor + r.amountMinor ∧
      (pay b').reservedMinor = b'.reservedMinor)
    (hMark : (mark r).channel = r.channel ∧ (mark r).status = .paid ∧
      (mark r).paidDayKey = dayKey ∧ (mark r).overLimit =
        (db.payments.limitPolicies.get? r.channel).any fun policy =>
          paymentLimitWouldExceed policy.dailyLimitMinor b.paidMinor 0 r.amountMinor)
    (hPolicies : db'.payments.limitPolicies = db.payments.limitPolicies)
    (hBuckets : db'.payments.limitBuckets =
      db.payments.limitBuckets.updateWhere (fun b' => b'.key = b.key) pay hPayKey)
    (hReservations : db'.payments.limitReservations =
      db.payments.limitReservations.updateWhere (fun r' => r'.paymentOrderId = orderId)
        mark hMarkKey) :
    LimitsSound channel limit db' := by
  have hKey : b.key = (r.channel, dayKey) := Table.key_of_get? hb
  refine ⟨?_, fun b' hb' => ?_, fun day bucket hBucket hOver => ?_⟩
  · unfold InForce
    rw [hPolicies]
    exact hSound.inForce
  · rw [hBuckets] at hb'
    obtain ⟨old, hOld, rfl⟩ := Table.mem_updateWhere.mp hb'
    obtain ⟨hReserved, hPaid⟩ := hSound.counters old hOld
    split
    · rw [(hPay old).1, (hPay old).2]
      exact ⟨hReserved, hSum⟩
    · exact ⟨hReserved, hPaid⟩
  · rw [hBuckets, Table.get?_updateWhere, Option.map_eq_some_iff] at hBucket
    obtain ⟨old, hOld, rfl⟩ := hBucket
    unfold OverLimitMarked
    rw [hReservations]
    by_cases hDay : old.key = b.key
    · -- The day that was paid into: its settlement carries the mark.
      rw [if_pos (by simp [hDay]), (hPay old).1] at hOver
      obtain ⟨hChannel, rfl⟩ : r.channel = channel ∧ dayKey = day := by
        have hBoth := hKey.symm.trans (hDay.symm.trans (Table.key_of_get? hOld))
        exact ⟨congrArg Prod.fst hBoth, congrArg Prod.snd hBoth⟩
      obtain ⟨hMarkChannel, hMarkStatus, hMarkDay, hMarkOver⟩ := hMark
      refine ⟨mark r, Table.mem_updateWhere.mpr ⟨r, Table.mem_of_get? hr,
        if_pos (by simpa using Table.key_of_get? hr)⟩, hMarkChannel.trans hChannel,
        hMarkStatus, hMarkDay, ?_⟩
      obtain ⟨policy, hFound, -, hDaily, -⟩ := hSound.inForce
      rw [hMarkOver, hChannel, hFound, Option.any_some, hDaily]
      exact wouldExceed_of_lt hLimit hOver
    · -- Any other day had its mark before, on a reservation that was already paid.
      rw [if_neg (by simp [hDay])] at hOver
      obtain ⟨m, hm, hChannel, hStatus, hMarked⟩ := hSound.marked day old hOld hOver
      refine ⟨m, Table.mem_updateWhere.mpr ⟨m, hm, if_neg fun hId => ?_⟩, hChannel, hStatus,
        hMarked⟩
      have hSame := Table.get?_of_mem hm
      rw [of_decide_eq_true hId, hr] at hSame
      cases hSame
      exact hOpen hStatus

theorem settlePaymentLimitReservationAtTx_sound (hLimit : 0 < limit)
    (hSound : LimitsSound channel limit db)
    (h : settlePaymentLimitReservationAtTx env order paidAt now db = .ok (u, db')) :
    LimitsSound channel limit db' := by
  rcases Tx.when_ok_iff.mp h with ⟨-, h⟩ | ⟨-, rfl⟩
  · rw [Tx.read_bind_apply] at h
    cases hFound : db.payments.limitReservations.get? order.id with
    | none =>
      simp only [hFound] at h
      cases h
      exact hSound
    | some =>
      simp only [hFound] at h
      rcases Tx.when_ok_iff.mp h with ⟨hOpen, h⟩ | ⟨-, rfl⟩
      · rw [Tx.failIf_bind_ok_iff, Tx.read_bind_apply, Tx.bind_ok_iff] at h
        obtain ⟨hAmount, dayKey, db₁, hDay, h⟩ := h
        obtain rfl : db₁ = db := (paymentLimitDayKey_readOnly env _ _).of_ok hDay
        obtain ⟨u₁, db₂, hReturn, h⟩ := Tx.bind_ok h
        have hReturned : PaidKept db₁ db₂ ∧
            db₂.payments.limitReservations = db₁.payments.limitReservations := by
          rcases Tx.when_ok_iff.mp hReturn with ⟨-, hReturn⟩ | ⟨-, rfl⟩
          · exact returnReservedTx_ok hSound.counters (by omega) hReturn
          · exact ⟨.refl _, rfl⟩
        obtain ⟨bucket, db₃, hEnsure, h⟩ := Tx.bind_ok h
        obtain ⟨hKept, hSame, hBucket⟩ := ensurePaymentLimitBucketTx_ok hEnsure
        obtain ⟨paidMinor, db₄, hAdd, h⟩ := Tx.bind_ok h
        obtain ⟨rfl, rfl, hSum⟩ := addPaymentLimitMinor_ok hAdd
        obtain ⟨u₂, db₅, hPay, hMark⟩ := Tx.bind_ok h
        have hAll := hReturned.1.trans hKept
        have hPaid := updateLimitBucket_ok hPay
        unfold updateLimitReservation writePayments at hMark
        have hMarked := (Tx.write_ok_iff.mp hMark).symm
        rw [hPaid] at hMarked
        have hBuckets := congrArg (fun d => d.payments.limitBuckets) hMarked
        have hReservations := congrArg (fun d => d.payments.limitReservations) hMarked
        refine LimitsSound.paid ?_ ?_ hLimit (hAll.sound hLimit hSound) ?_ hOpen hBucket hSum ?_ ?_
          (congrArg (fun d => d.payments.limitPolicies) hMarked) hBuckets hReservations
        · exact fun _ => rfl
        · exact fun _ => rfl
        · rw [hSame, hReturned.2, hFound]
        · exact fun _ => ⟨rfl, rfl⟩
        · exact ⟨rfl, rfl, rfl, by rw [hAll.policies]⟩
      · exact hSound
  · exact hSound

theorem reconcileReservationTx_sound (hLimit : 0 < limit) (hSound : LimitsSound channel limit db)
    (h : reconcileReservationTx env orderId db = .ok (u, db')) : LimitsSound channel limit db' := by
  have hRelease {order : PaymentOrder} {c : Prop} [Decidable c]
      (h : Tx.when c (releasePaymentLimitReservationTx order env.now) db = .ok (u, db')) :
      LimitsSound channel limit db' := by
    rcases Tx.when_ok_iff.mp h with ⟨-, h⟩ | ⟨-, rfl⟩
    · exact (releasePaymentLimitReservationTx_kept hSound.counters h).sound hLimit hSound
    · exact hSound
  unfold reconcileReservationTx at h
  rw [Tx.read_bind_apply] at h
  cases hFound : db.payments.limitReservations.get? orderId with
  | none =>
    simp only [hFound] at h
    cases h
    exact hSound
  | some reservation =>
    simp only [hFound] at h
    rcases Tx.ite_ok_iff.mp h with ⟨-, h⟩ | ⟨-, h⟩
    · cases h
      exact hSound
    rw [Tx.read_bind_apply] at h
    cases hOrder : db.payments.orders.get? reservation.paymentOrderId with
    | none =>
      simp only [hOrder] at h
      rw [Tx.failIf_bind_ok_iff] at h
      exact (releasePaymentLimitReservationTx_kept hSound.counters h.2).sound hLimit hSound
    | some =>
      simp only [hOrder] at h
      rcases Tx.ite_ok_iff.mp h with ⟨-, h⟩ | ⟨-, h⟩
      · unfold settlePaymentLimitReservationTx at h
        rw [Tx.read_bind_apply] at h
        exact settlePaymentLimitReservationAtTx_sound hLimit hSound h
      · rcases Tx.ite_ok_iff.mp h with ⟨-, h⟩ | ⟨-, h⟩
        · exact hRelease h
        · exact hRelease h

/-! ### Machine arithmetic -/

def IsInt64 (n : Int) : Prop := -2 ^ 63 ≤ n ∧ n < 2 ^ 63

/-- `paymentLimitWouldExceed` with every difference taken by the machine. -/
def wouldExceedInt64 (limitMinor paidMinor reservedMinor amountMinor : Int) : Bool :=
  if limitMinor ≤ 0 then false
  else if paidMinor < 0 ∨ reservedMinor < 0 ∨ amountMinor < 0 ∨ paidMinor > limitMinor then true
  else
    let remaining := int64 (limitMinor - paidMinor)
    if reservedMinor > remaining then true
    else amountMinor > int64 (remaining - reservedMinor)

def addMinorInt64 (current delta : Int) : DbTx Int := do
  Tx.failIf (current < 0 ∨ delta < 0 ∨ current > int64 (maxInt64 - delta))
    (.new "payment limit counter overflow")
  pure (int64 (current + delta))

def releasedInt64 (reservedMinor : Int) : Int → List PaymentLimitReservation → Int
  | released, [] => released
  | released, r :: rest =>
    if r.amountMinor ≤ 0 then releasedInt64 reservedMinor released rest
    else if released ≥ reservedMinor ∨ r.amountMinor ≥ int64 (reservedMinor - released) then
      releasedInt64 reservedMinor reservedMinor rest
    else releasedInt64 reservedMinor (int64 (released + r.amountMinor)) rest

section

variable {limitMinor paidMinor reservedMinor amountMinor current delta : Int}

theorem wouldExceedInt64_eq (hLimit : IsInt64 limitMinor) :
    wouldExceedInt64 limitMinor paidMinor reservedMinor amountMinor =
      paymentLimitWouldExceed limitMinor paidMinor reservedMinor amountMinor := by
  obtain ⟨-, hHigh⟩ := hLimit
  rw [Bool.eq_iff_iff]
  unfold wouldExceedInt64 paymentLimitWouldExceed
  split
  · simp; omega
  split
  · simp; omega
  have hRemaining : int64 (limitMinor - paidMinor) = limitMinor - paidMinor :=
    int64_of_mem (by omega) (by omega)
  simp only [hRemaining]
  split
  · simp; omega
  · rw [int64_of_mem (by omega) (by omega)]
    simp
    omega

theorem addMinorInt64_eq (hDelta : IsInt64 delta) :
    addMinorInt64 current delta = addPaymentLimitMinor current delta := by
  obtain ⟨-, hHigh⟩ := hDelta
  have hRoom : 0 ≤ delta → int64 (maxInt64 - delta) = maxInt64 - delta := fun hNonneg =>
    int64_of_mem (by unfold maxInt64; omega) (by unfold maxInt64; omega)
  unfold addMinorInt64 addPaymentLimitMinor
  funext db
  by_cases hFits : 0 ≤ current ∧ 0 ≤ delta ∧ current ≤ maxInt64 - delta
  · obtain ⟨hCurrent, hNonneg, hSum⟩ := hFits
    rw [Tx.failIf_bind_of_not (by rw [hRoom hNonneg]; omega), Tx.failIf_bind_of_not (by omega),
      int64_of_mem (by omega) (by unfold maxInt64 at hSum; omega)]
  · have hOver : current < 0 ∨ delta < 0 ∨ current > maxInt64 - delta := by omega
    rw [Tx.failIf_bind_of hOver, Tx.failIf_bind_of]
    rcases hOver with hCurrent | hNegative | hSum
    · exact .inl hCurrent
    · exact .inr (.inl hNegative)
    · by_cases hNonneg : 0 ≤ delta
      · exact .inr (.inr (by rw [hRoom hNonneg]; exact hSum))
      · exact .inr (.inl (by omega))

theorem releasedInt64_eq (hReserved : InRange reservedMinor) (hReleased : 0 ≤ released)
    (hLe : released ≤ reservedMinor) :
    releasedInt64 reservedMinor released reservations =
      releasedMinor reservedMinor released reservations := by
  obtain ⟨hLow, hHigh⟩ := hReserved
  unfold maxInt64 at hHigh
  induction reservations generalizing released with
  | nil => rfl
  | cons r rest ih =>
    unfold releasedInt64 releasedMinor
    rw [int64_of_mem (by omega) (by omega)]
    split
    · exact ih hReleased hLe
    · split
      · exact ih hLow le_rfl
      · rw [int64_of_mem (by omega) (by omega)]
        exact ih (by omega) (by omega)

theorem returnedInt64_eq (hReserved : InRange reservedMinor) (hAmount : 0 ≤ amountMinor) :
    int64 (reservedMinor - min amountMinor reservedMinor) =
      reservedMinor - min amountMinor reservedMinor := by
  obtain ⟨hLow, hHigh⟩ := hReserved
  unfold maxInt64 at hHigh
  exact int64_of_mem (by omega) (by omega)

end

/-- What the code computes with machine integers is what it computes with integers:
for every limit and amount, and for counters that are in range. -/
def ArithmeticExact : Prop :=
  (∀ limitMinor paidMinor reservedMinor amountMinor, IsInt64 limitMinor →
    wouldExceedInt64 limitMinor paidMinor reservedMinor amountMinor =
      paymentLimitWouldExceed limitMinor paidMinor reservedMinor amountMinor) ∧
  (∀ current delta, IsInt64 delta →
    addMinorInt64 current delta = addPaymentLimitMinor current delta) ∧
  (∀ reservedMinor reservations, InRange reservedMinor →
    releasedInt64 reservedMinor 0 reservations = releasedMinor reservedMinor 0 reservations) ∧
  ∀ reservedMinor amountMinor, InRange reservedMinor → 0 ≤ amountMinor →
    int64 (reservedMinor - min amountMinor reservedMinor) =
      reservedMinor - min amountMinor reservedMinor

theorem arithmeticExact : ArithmeticExact :=
  ⟨fun _ _ _ _ => wouldExceedInt64_eq, fun _ _ => addMinorInt64_eq,
    fun _ reservations hReserved => releasedInt64_eq hReserved le_rfl hReserved.1,
    fun _ _ => returnedInt64_eq⟩

/-! ### Histories -/

/-- A policy that is stored for the channel has the same limit and is enabled. -/
def KeepsLimit (channel : LimitChannel) (limit : Int) (db : Database) : LimitCall → Prop
  | .setPolicy env policy => ∀ stored db',
      upsertPaymentLimitPolicy env policy db = .ok (stored, db') → stored.channel = channel →
        stored.enabled = true ∧ stored.dailyLimitMinor = limit
  | _ => True

theorem LimitsSound.step (hLimit : 0 < limit) (hKeeps : KeepsLimit channel limit db call)
    (hSound : LimitsSound channel limit db) :
    LimitsSound channel limit (call.step db) := by
  refine Tx.commit_preserves hSound fun u db' h => ?_
  cases call with
  | setPolicy =>
    obtain ⟨stored, h⟩ := Tx.void_ok_iff.mp h
    exact hSound.upsert h (hKeeps stored db' h)
  | reserve => exact (reservePaymentLimitTxAt_ok hSound.counters h).1.sound hLimit hSound
  | release =>
    exact (releasePaymentLimitReservationTx_kept hSound.counters h).sound hLimit hSound
  | moveExpiry =>
    exact (updatePaymentLimitReservationExpiryTx_kept h).sound hLimit hSound
  | settle => exact settlePaymentLimitReservationAtTx_sound hLimit hSound h
  | reconcile => exact reconcileReservationTx_sound hLimit hSound h
  | elsewhere =>
    unfold LimitCall.tx writePayments at h
    obtain rfl := Tx.write_ok_iff.mp h
    exact ⟨hSound.inForce, hSound.counters, hSound.marked⟩

/-- From the moment an enabled policy is stored, and for as long as its limit stays:
an admitted reservation leaves its day within the limit, a day that took in more has
a payment that is marked, the counters are in range, and no computation overflows. -/
theorem daily_limit_kept {env : PaymentEnv} {draft stored : PaymentLimitPolicy}
    {db₀ : Database} {calls : List LimitCall}
    (hStored : upsertPaymentLimitPolicy env draft db₀ = .ok (stored, db))
    (hEnabled : stored.enabled = true) (hLimit : 0 < stored.dailyLimitMinor)
    (hCounters : CountersInRange db₀)
    (hUnder : ∀ dayKey bucket,
      db₀.payments.limitBuckets.get? (stored.channel, dayKey) = some bucket →
        bucket.paidMinor ≤ stored.dailyLimitMinor)
    (hKeeps : Guarded LimitCall.step (KeepsLimit stored.channel stored.dailyLimitMinor) db calls) :
    (∀ env order u after,
      (order.provider, order.paymentMethod, toUpper order.currency) = stored.channel →
      reservePaymentLimitTxAt env order (run LimitCall.step db calls) = .ok (u, after) →
      ∃ dayKey bucket, Reserved order stored.channel dayKey after ∧
        after.payments.limitBuckets.get? (stored.channel, dayKey) = some bucket ∧
        bucket.paidMinor + bucket.reservedMinor ≤ stored.dailyLimitMinor) ∧
    (∀ dayKey bucket,
      (run LimitCall.step db calls).payments.limitBuckets.get? (stored.channel, dayKey) =
        some bucket → stored.dailyLimitMinor < bucket.paidMinor →
      OverLimitMarked stored.channel dayKey (run LimitCall.step db calls)) ∧
    CountersInRange (run LimitCall.step db calls) ∧ ArithmeticExact := by
  have hStart : LimitsSound stored.channel stored.dailyLimitMinor db := by
    obtain ⟨policies, row, rfl, hGet, hOn, hDaily, hCurrency⟩ := upsertPaymentLimitPolicy_ok hStored
    refine ⟨⟨row, (hGet _).trans (if_pos rfl), hOn.trans hEnabled, hDaily, hCurrency⟩, hCounters,
      fun dayKey bucket hBucket hOver => ?_⟩
    have hLe := hUnder dayKey bucket hBucket
    omega
  have hSound := guarded_invariant (fun db call => LimitsSound.step hLimit) hStart hKeeps
  refine ⟨fun env order u after hChannel hReserve => ?_, hSound.marked, hSound.counters,
    arithmeticExact⟩
  obtain ⟨policy, hPolicy, hOn, hDaily, hCurrency⟩ := hSound.inForce
  have hAdmitted := (reservePaymentLimitTxAt_ok hSound.counters hReserve).2 policy
    (hChannel ▸ hPolicy) hOn (hDaily ▸ hLimit)
  have hKey : policy.channel = stored.channel := Table.key_of_get? hPolicy
  have hSame : (order.provider, order.paymentMethod, policy.currency) = stored.channel := by
    have hCurrencies := congrArg (·.2.2) (hChannel.trans hKey.symm)
    exact (congrArg (order.provider, order.paymentMethod, ·) hCurrencies).symm.trans hChannel
  rwa [hCurrency, hDaily, hSame] at hAdmitted

def sampleLimitPolicy : PaymentLimitPolicy where
  provider := .stripe
  paymentMethod := "stripe"
  currency := "USD"
  dailyLimitMinor := 1000
  timezone := "UTC"
  enabled := true

def sampleLimitOrder (id : Int) : PaymentOrder where
  id := id
  tradeNo := ""
  userId := 1
  orderKind := .topUp
  provider := .stripe
  paymentMethod := "stripe"
  expectedAmountMinor := 600
  currency := "USD"

def samplePaidAfterRelease : List LimitCall :=
  [.reserve (sampleEnv 100) (sampleLimitOrder 1), .release (sampleLimitOrder 1) 200,
    .reserve (sampleEnv 300) (sampleLimitOrder 2),
    .settle (sampleEnv 400) (sampleLimitOrder 2) 400 400,
    .settle (sampleEnv 500) (sampleLimitOrder 1) 500 500]

def sampleLimited : Database :=
  { payments := { limitPolicies := .single sampleLimitPolicy } }

theorem daily_limit_kept_paid_after_release :
    (∃ bucket, (run LimitCall.step sampleLimited samplePaidAfterRelease).payments.limitBuckets.get?
      (sampleLimitPolicy.channel, "1970-01-01") = some bucket ∧ bucket.paidMinor = 1200) ∧
    OverLimitMarked sampleLimitPolicy.channel "1970-01-01"
      (run LimitCall.step sampleLimited samplePaidAfterRelease) := by
  have hBucket : ((run LimitCall.step sampleLimited
      samplePaidAfterRelease).payments.limitBuckets.get?
      (sampleLimitPolicy.channel, "1970-01-01")).map PaymentLimitBucket.paidMinor = some 1200 := by
    decide +kernel
  obtain ⟨bucket, hFound, hPaid⟩ := Option.map_eq_some_iff.mp hBucket
  refine ⟨⟨bucket, hFound, hPaid⟩, ?_⟩
  have hStored : upsertPaymentLimitPolicy (sampleEnv 1) sampleLimitPolicy {} =
      .ok (sampleLimitPolicy, sampleLimited) := by rfl
  have hKeeps : Guarded LimitCall.step (KeepsLimit sampleLimitPolicy.channel 1000) sampleLimited
      samplePaidAfterRelease := ⟨trivial, trivial, trivial, trivial, trivial, trivial⟩
  refine (daily_limit_kept hStored rfl (by decide) (by simp [CountersInRange]) ?_
    hKeeps).2.1 _ bucket hFound (by rw [hPaid]; decide)
  intro dayKey bucket hNone
  cases hNone

end XyApi.Payment

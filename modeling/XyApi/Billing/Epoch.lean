import XyApi.Billing.Absorption
import XyApi.Subscription.Epoch
import Mathlib.Algebra.Order.Group.Int

/-!
Usage of a subscription by quota period. What a subscription has used in its
current period is what the open and settled reservations of that period hold, and
its lifetime total is the same over all periods. A reservation belongs to the
period in which it was made; the reset version it took down identifies it.
-/

namespace XyApi.Billing

open Lib Lib.Calendar Subscription

/-! ### What reservations hold of a subscription -/

def OnSubscription (sid : Int) (r : BillingReservation) : Prop :=
  r.fundingSource = .subscription ∧ r.subscriptionId = sid
  deriving Decidable

def holding (sid : Int) (r : BillingReservation) : Int :=
  if OnSubscription sid r ∧ r.status ≠ .refunded then r.reservedQuota else 0

def periodHolding (sub : UserSubscription) (r : BillingReservation) : Int :=
  if r.subscriptionResetVersion = sub.quotaResetVersion then holding sub.id r else 0

/-- The usage columns of a subscription agree with the reservations, and the reset
version tells the reservations of the current period from older ones. -/
structure EpochOk (loc : Location) (rows : Table BillingReservation.requestId)
    (sub : UserSubscription) : Prop where
  period : sub.quotaResetPeriod ≠ .blank
  version : ∀ r ∈ rows.rows, OnSubscription sub.id r →
    r.subscriptionResetVersion ≤ sub.quotaResetVersion
  resetAt : ∀ r ∈ rows.rows, OnSubscription sub.id r →
    r.subscriptionResetVersion = sub.quotaResetVersion → r.subscriptionResetAt = sub.lastResetTime
  unscheduled : ∀ plan, Unscheduled loc sub plan → ∀ r ∈ rows.rows, OnSubscription sub.id r →
    r.subscriptionResetVersion ≠ sub.quotaResetVersion
  used : sub.amountUsed = rows.sum (periodHolding sub)
  total : sub.amountUsedTotal = rows.sum (holding sub.id)
  room : 0 < sub.amountTotal → sub.amountUsed ≤ sub.amountTotal

section EpochOk

variable {loc : Location}
  {sub sub' : UserSubscription} {r r' : BillingReservation}

theorem holding_nonneg (sid : Int) (h : 0 ≤ r.reservedQuota) : 0 ≤ holding sid r := by
  unfold holding
  split
  · exact h
  · exact Int.le_refl 0

theorem periodHolding_le (h : 0 ≤ r.reservedQuota) :
    0 ≤ periodHolding sub r ∧ periodHolding sub r ≤ holding sub.id r := by
  have hHolding := holding_nonneg sub.id h
  unfold periodHolding
  split <;> omega

theorem EpochOk.used_le_total (h : EpochOk loc rows sub)
    (hRows : ∀ r ∈ rows.rows, 0 ≤ r.reservedQuota) :
    0 ≤ sub.amountUsed ∧ sub.amountUsed ≤ sub.amountUsedTotal := by
  rw [h.used, h.total]
  refine ⟨?_, Table.sum_le_sum fun r hr => (periodHolding_le (hRows r hr)).2⟩
  have hZero : rows.sum (fun _ => (0 : Int)) = 0 := Table.sum_eq_zero fun _ _ => rfl
  rw [← hZero]
  exact Table.sum_le_sum fun r hr => (periodHolding_le (hRows r hr)).1

theorem EpochOk.max_total (h : EpochOk loc rows sub)
    (hRows : ∀ r ∈ rows.rows, 0 ≤ r.reservedQuota) :
    max sub.amountUsedTotal sub.amountUsed = sub.amountUsedTotal :=
  max_eq_left (h.used_le_total hRows).2

/-- The pair that a reservation took down identifies its period. -/
theorem EpochOk.sameEpoch_iff (h : EpochOk loc rows sub) (hr : r ∈ rows.rows)
    (hOn : OnSubscription sub.id r) :
    SameEpoch sub r ↔ r.subscriptionResetVersion = sub.quotaResetVersion :=
  ⟨fun hSame => hSame.2.symm, fun hVersion => ⟨(h.resetAt r hr hOn hVersion).symm, hVersion.symm⟩⟩

/-- A reset keeps the columns in agreement. -/
theorem EpochOk.step (h : EpochOk loc rows sub) (hStep : EpochStep loc sub sub')
    (hRows : ∀ r ∈ rows.rows, 0 ≤ r.reservedQuota) : EpochOk loc rows sub' := by
  cases hStep with
  | kept => exact h
  | scheduled plan base next hUnscheduled =>
    refine ⟨h.period, h.version, fun r hr hOn hVersion => ?_, fun plan' hUnscheduled' => ?_,
      h.used, h.total, h.room⟩
    · exact absurd hVersion (h.unscheduled plan hUnscheduled r hr hOn)
    · have hZero : next = 0 := hUnscheduled'.1
      omega
  | renewed last next =>
    have hOlder (r : BillingReservation) (hr : r ∈ rows.rows) (hOn : OnSubscription sub.id r) :
        r.subscriptionResetVersion < sub.quotaResetVersion + 1 :=
      Int.lt_add_one_of_le (h.version r hr hOn)
    refine ⟨h.period, fun r hr hOn => (hOlder r hr hOn).le, fun r hr hOn hVersion => ?_,
      fun _ _ r hr hOn => (hOlder r hr hOn).ne, ?_, ?_, fun hTotal => hTotal.le⟩
    · exact absurd hVersion (hOlder r hr hOn).ne
    · refine (Table.sum_eq_zero fun r hr => ?_).symm
      unfold periodHolding
      split
      · next hVersion =>
          refine if_neg fun hOn => ?_
          exact (hOlder r hr hOn.1).ne hVersion
      · rfl
    · exact (h.max_total hRows).trans h.total

def SameEpochColumns (r r' : BillingReservation) : Prop :=
  r'.requestId = r.requestId ∧ r'.fundingSource = r.fundingSource ∧
    r'.subscriptionId = r.subscriptionId ∧ r'.subscriptionResetAt = r.subscriptionResetAt ∧
    r'.subscriptionResetVersion = r.subscriptionResetVersion

theorem SameEpochColumns.on_iff (h : SameEpochColumns r r') (sid : Int) :
    OnSubscription sid r' ↔ OnSubscription sid r := by
  unfold OnSubscription
  rw [h.2.1, h.2.2.1]

/-- What a row holds after a step, by what it was on before. -/
theorem SameEpochColumns.holding_eq (h : SameEpochColumns r r') (sid : Int) :
    holding sid r' =
      if OnSubscription sid r ∧ r'.status ≠ .refunded then r'.reservedQuota else 0 := by
  simp only [holding, h.on_iff]

/-- A row may change what it holds when the usage columns follow. -/
theorem EpochOk.put (h : EpochOk loc rows sub) (hRow : rows.get? r'.requestId = some r)
    (hColumns : SameEpochColumns r r') (used total : Int)
    (hUsed : used = sub.amountUsed + (periodHolding sub r' - periodHolding sub r))
    (hTotal : total = sub.amountUsedTotal + (holding sub.id r' - holding sub.id r))
    (hRoom : 0 < sub.amountTotal → used ≤ sub.amountTotal) :
    EpochOk loc (rows.put r') { sub with amountUsed := used, amountUsedTotal := total } := by
  have hMem : r ∈ rows.rows := Table.mem_of_get? hRow
  have hOn := hColumns.on_iff sub.id
  obtain ⟨-, -, -, hResetAt, hVersion⟩ := hColumns
  refine ⟨h.period, fun x hx hxOn => ?_, fun x hx hxOn hxVersion => ?_,
    fun plan hUnscheduled x hx hxOn hxVersion => ?_, ?_, ?_, hRoom⟩
  · rcases Table.mem_put hx with rfl | hx
    · rw [hVersion]
      exact h.version r hMem (hOn.mp hxOn)
    · exact h.version x hx hxOn
  · rcases Table.mem_put hx with rfl | hx
    · rw [hResetAt]
      exact h.resetAt r hMem (hOn.mp hxOn) (hVersion ▸ hxVersion)
    · exact h.resetAt x hx hxOn hxVersion
  · rcases Table.mem_put hx with rfl | hx
    · exact h.unscheduled plan hUnscheduled r hMem (hOn.mp hxOn) (hVersion ▸ hxVersion)
    · exact h.unscheduled plan hUnscheduled x hx hxOn hxVersion
  · exact hUsed.trans (h.used ▸ (Table.sum_put hRow (periodHolding sub)).symm)
  · exact hTotal.trans (h.total ▸ (Table.sum_put hRow (holding sub.id)).symm)

/-- A new reservation that the subscription was charged with. -/
theorem EpochOk.charge (h : EpochOk loc rows sub) (hInsert : rows.insert? r = some rows')
    (hRows : ∀ r ∈ rows.rows, 0 ≤ r.reservedQuota) (hOn : OnSubscription sub.id r)
    (hResetAt : r.subscriptionResetAt = sub.lastResetTime)
    (hVersion : r.subscriptionResetVersion = sub.quotaResetVersion)
    (hStatus : r.status = .reserved) (hScheduled : ∃ plan, ¬ Unscheduled loc sub plan)
    (hRoom : 0 < sub.amountTotal → sub.amountUsed + r.reservedQuota ≤ sub.amountTotal) :
    EpochOk loc rows' { sub with
      amountUsed := sub.amountUsed + r.reservedQuota
      amountUsedTotal := max sub.amountUsedTotal sub.amountUsed + r.reservedQuota } := by
  have hHolding : holding sub.id r = r.reservedQuota := by simp [holding, hOn, hStatus]
  have hPeriod : periodHolding sub r = r.reservedQuota := by
    simp [periodHolding, hVersion, hHolding]
  have hMem {x : BillingReservation} (hx : x ∈ rows'.rows) : x ∈ rows.rows ∨ x = r := by
    rw [(Table.rows_insert? hInsert).1] at hx
    simpa using hx
  refine ⟨h.period, fun x hx hxOn => ?_, fun x hx hxOn hxVersion => ?_, fun plan hUnscheduled => ?_,
    ?_, ?_, hRoom⟩
  · rcases hMem hx with hx | rfl
    · exact h.version x hx hxOn
    · exact hVersion.le
  · rcases hMem hx with hx | rfl
    · exact h.resetAt x hx hxOn hxVersion
    · exact hResetAt
  · obtain ⟨plan', hScheduled⟩ := hScheduled
    exact absurd ((unscheduled_congr h.period plan plan').mp hUnscheduled) hScheduled
  · change _ = rows'.sum (periodHolding sub)
    rw [Table.sum_insert? hInsert, hPeriod, h.used]
  · change _ = rows'.sum (holding sub.id)
    rw [Table.sum_insert? hInsert, hHolding, h.max_total hRows, h.total]

/-- A new reservation on another funding source. -/
theorem EpochOk.insert_other (h : EpochOk loc rows sub) (hInsert : rows.insert? r = some rows')
    (hOther : ¬ OnSubscription sub.id r) : EpochOk loc rows' sub := by
  have hMem {x : BillingReservation} (hx : x ∈ rows'.rows) (hOn : OnSubscription sub.id x) :
      x ∈ rows.rows := by
    rw [(Table.rows_insert? hInsert).1, List.mem_append, List.mem_singleton] at hx
    rcases hx with hx | rfl
    · exact hx
    · exact absurd hOn hOther
  have hHolding : holding sub.id r = 0 := by simp [holding, hOther]
  have hPeriod : periodHolding sub r = 0 := by simp [periodHolding, hHolding]
  refine ⟨h.period, fun x hx hOn => h.version x (hMem hx hOn) hOn,
    fun x hx hOn => h.resetAt x (hMem hx hOn) hOn,
    fun plan hUnscheduled x hx hOn => h.unscheduled plan hUnscheduled x (hMem hx hOn) hOn, ?_, ?_,
    h.room⟩
  · rw [Table.sum_insert? hInsert, hPeriod, add_zero, h.used]
  · rw [Table.sum_insert? hInsert, hHolding, add_zero, h.total]

end EpochOk

/-! ### All subscriptions -/

/-- Every subscription agrees with the reservations, and reservations name
subscriptions that exist. -/
structure EpochsOk (loc : Location) (db : Database) : Prop where
  stored : RowsStored db
  named : ∀ r ∈ db.reservations.rows, r.fundingSource = .subscription →
    ∃ sub, db.subscriptions.get? r.subscriptionId = some sub
  agree : ∀ sid sub, db.subscriptions.get? sid = some sub → EpochOk loc db.reservations sub

section Transitions

theorem RowsStored.reserved_nonneg (h : RowsStored db) :
    ∀ r ∈ db.reservations.rows, 0 ≤ r.reservedQuota := by
  intro r hr
  have hRange := (h r.requestId r (Table.get?_of_mem hr)).reserved
  unfold quotaOutOfRange at hRange
  omega

/-- Resets keep every subscription in agreement. -/
theorem EpochsOk.resets (h : EpochsOk loc db) (hSteps : EpochSteps loc db.subscriptions subs) :
    EpochsOk loc { db with subscriptions := subs } := by
  refine ⟨h.stored, ?_, ?_⟩
  · refine hSteps.preserve (P := fun subs => ∀ r ∈ db.reservations.rows,
      r.fundingSource = .subscription → ∃ sub, subs.get? r.subscriptionId = some sub)
      (fun subs sub sub' hSub hStep hNamed r hr hSource => ?_) h.named
    exact Table.exists_get?_put.mpr (hNamed r hr hSource)
  · refine hSteps.preserve (P := fun subs => ∀ sid sub, subs.get? sid = some sub →
      EpochOk loc db.reservations sub) (fun subs sub sub' hSub hStep hAgree sid x hx => ?_) h.agree
    rw [Table.get?_put] at hx
    split at hx
    · next hsid =>
        rw [hsid, hStep.id_eq, hSub, Option.map_some, Option.some.injEq] at hx
        exact hx ▸ (hAgree sub.id sub hSub).step hStep h.stored.reserved_nonneg
    · exact hAgree sid x hx

/-- A row changes and holds the same of every subscription. -/
theorem EpochsOk.keep (h : EpochsOk loc db) (hStored : RowsStored db')
    (hRow : db.reservations.get? rid = some r) (hColumns : SameEpochColumns r r')
    (hHolding : ∀ sid, holding sid r' = holding sid r)
    (hReservations : db'.reservations = db.reservations.put r')
    (hSubs : db'.subscriptions = db.subscriptions) : EpochsOk loc db' := by
  have hKey : r'.requestId = rid := hColumns.1.trans (Table.key_of_get? hRow)
  have hRow' : db.reservations.get? r'.requestId = some r := hKey ▸ hRow
  refine ⟨hStored, fun x hx hSource => ?_, fun sid sub hSub => ?_⟩
  · rw [hReservations] at hx
    rw [hSubs]
    rcases Table.mem_put hx with rfl | hx
    · rw [hColumns.2.2.1]
      exact h.named r (Table.mem_of_get? hRow) (hColumns.2.1 ▸ hSource)
    · exact h.named x hx hSource
  · rw [hSubs] at hSub
    rw [hReservations]
    have hOk := h.agree sid sub hSub
    have hPeriod : periodHolding sub r' = periodHolding sub r := by
      simp [periodHolding, hColumns.2.2.2.2, hHolding]
    exact hOk.put hRow' hColumns sub.amountUsed sub.amountUsedTotal
      (by simp [hPeriod]) (by simp [hHolding]) hOk.room

/-- A row consumes `delta` more of its subscription. -/
theorem EpochsOk.move (h : EpochsOk loc db) (hStored : RowsStored db')
    (hRow : db.reservations.get? rid = some r) (hSource : r.fundingSource = .subscription)
    (hColumns : SameEpochColumns r r')
    (hHolding : ∀ sid, holding sid r' - holding sid r = if OnSubscription sid r then delta else 0)
    (hMoved : SubscriptionMoved db.subscriptions r delta periodDelta subs)
    (hReservations : db'.reservations = db.reservations.put r') (hSubs : db'.subscriptions = subs) :
    EpochsOk loc db' := by
  have hKey : r'.requestId = rid := hColumns.1.trans (Table.key_of_get? hRow)
  have hRow' : db.reservations.get? r'.requestId = some r := hKey ▸ hRow
  cases hMoved with
  | unchanged hDelta =>
    refine h.keep hStored hRow hColumns (fun sid => ?_) hReservations hSubs
    have := hHolding sid
    simp only [hDelta, ite_self] at this
    omega
  | moved sub hSub hTotal hRoom =>
    have hId : sub.id = r.subscriptionId := Table.key_of_get? hSub
    have hOn : OnSubscription sub.id r := ⟨hSource, hId.symm⟩
    have hMem := Table.mem_of_get? hRow
    refine ⟨hStored, fun x hx hxSource => ?_, fun sid x hx => ?_⟩
    · rw [hReservations] at hx
      rw [hSubs, Table.exists_get?_put]
      rcases Table.mem_put hx with rfl | hx
      · rw [hColumns.2.2.1]
        exact ⟨sub, hSub⟩
      · exact h.named x hx hxSource
    · rw [hReservations]
      by_cases hsid : sid = sub.id
      · rw [hSubs, hsid, Table.get?_put_self (hId ▸ hSub)] at hx
        cases hx
        have hOk := h.agree _ sub hSub
        have hSame := hOk.sameEpoch_iff hMem hOn
        have hDelta : holding sub.id r' - holding sub.id r = delta := by
          rw [hHolding, if_pos hOn]
        have hPeriod : periodHolding sub r' - periodHolding sub r =
            if SameEpoch sub r then delta else 0 := by
          simp only [periodHolding, hColumns.2.2.2.2, hSame]
          split
          · exact hDelta
          · rfl
        rw [hOk.max_total h.stored.reserved_nonneg]
        refine hOk.put hRow' hColumns _ _ (by rw [hPeriod]) (by rw [hDelta]) fun hTotal => ?_
        split
        · next hEpoch => exact (hRoom hEpoch).2 hTotal
        · simpa using hOk.room hTotal
      · rw [hSubs, Table.get?_put_of_ne (by exact hsid)] at hx
        have hOther : ¬ OnSubscription x.id r := by
          intro hxOn
          have hKeyX : x.id = sid := Table.key_of_get? hx
          exact hsid (hKeyX ▸ (hxOn.2.symm.trans hId.symm))
        have hOk := h.agree sid x hx
        have hSame : holding x.id r' = holding x.id r := by
          have := hHolding x.id
          rw [if_neg hOther] at this
          omega
        exact hOk.put hRow' hColumns x.amountUsed x.amountUsedTotal
          (by simp [periodHolding, hColumns.2.2.2.2, hSame]) (by simp [hSame]) hOk.room

theorem EpochsOk.congr (h : EpochsOk loc db) (hReservations : db'.reservations = db.reservations)
    (hSubs : db'.subscriptions = db.subscriptions) : EpochsOk loc db' := by
  obtain ⟨hStored, hNamed, hAgree⟩ := h
  unfold RowsStored at hStored
  rw [← hReservations] at hStored hNamed hAgree
  rw [← hSubs] at hNamed hAgree
  exact ⟨hStored, hNamed, hAgree⟩

theorem EpochsOk.booked (h : EpochsOk loc db) (hStored : RowsStored db')
    (hRow : db.reservations.get? rid = some r) (hBooked : Booked db r r' delta db')
    (hColumns : SameEpochColumns r r')
    (hHolding : ∀ sid, holding sid r' - holding sid r = if OnSubscription sid r then delta else 0) :
    EpochsOk loc db' := by
  obtain ⟨f, t, phase, revision, hFunding, hTokens, hLedger⟩ := hBooked
  cases hFunding with
  | wallet hSource =>
    refine h.keep hStored hRow hColumns (fun sid => ?_) rfl rfl
    have hOther : ¬ OnSubscription sid r := fun hOn => by simp [hOn.1] at hSource
    have hSame := hHolding sid
    rw [if_neg hOther] at hSame
    omega
  | subscription hSource hMoved =>
    exact h.move hStored hRow hSource hColumns hHolding hMoved rfl rfl

theorem EpochsOk.opened (h : EpochsOk loc db) (hStored : RowsStored db')
    (hReserved : r.status = .reserved) (hRow : db.reservations.insert? r = some db'.reservations)
    (hFunding : OpenedFunding loc db r f db₁) (hSubs : db'.subscriptions = db₁.subscriptions) :
    EpochsOk loc db' := by
  have hMem {x : BillingReservation} (hx : x ∈ db'.reservations.rows) :
      x ∈ db.reservations.rows ∨ x = r := by
    rw [(Table.rows_insert? hRow).1] at hx
    simpa using hx
  cases hFunding with
  | wallet hSource =>
    have hOther (sid : Int) : ¬ OnSubscription sid r := fun hOn => by simp [hOn.1] at hSource
    refine ⟨hStored, fun x hx hxSource => ?_, fun sid x hx => ?_⟩ <;> simp only [hSubs] at *
    · rcases hMem hx with hx | rfl
      · exact h.named x hx hxSource
      · simp [hxSource] at hSource
    · exact (h.agree sid x hx).insert_other hRow (hOther x.id)
  | subscription sub hSource hCharged hId hReset hVersion =>
    obtain ⟨subs₁, hRenewals, hSub, hPut⟩ := hCharged.renewals
    have hRenewed := h.resets hRenewals.epochSteps
    have hOn : OnSubscription sub.id r := ⟨hSource, hId⟩
    replace hSubs := hSubs.trans hPut
    refine ⟨hStored, fun x hx hxSource => ?_, fun sid x hx => ?_⟩
    · rw [hSubs, Table.exists_get?_put]
      rcases hMem hx with hx | rfl
      · exact hRenewed.named x hx hxSource
      · exact ⟨sub, hId ▸ hSub⟩
    · by_cases hsid : sid = sub.id
      · rw [hSubs, hsid, Table.get?_put_self (by exact hSub)] at hx
        cases hx
        exact (hRenewed.agree sub.id sub hSub).charge hRow h.stored.reserved_nonneg hOn hReset
          hVersion hReserved hCharged.scheduled hCharged.room
      · rw [hSubs, Table.get?_put_of_ne (by exact hsid)] at hx
        refine (hRenewed.agree sid x hx).insert_other hRow fun hxOn => hsid ?_
        exact (Table.key_of_get? hx).symm.trans (hxOn.2.symm.trans hId)

theorem RowStep.sameEpochColumns (h : RowStep r r') : SameEpochColumns r r' := by
  cases h with
  | noted hStep => cases hStep <;> exact ⟨rfl, rfl, rfl, rfl, rfl⟩
  | _ => exact ⟨rfl, rfl, rfl, rfl, rfl⟩

/-- Every transition keeps every subscription in agreement with the reservations. -/
theorem Transition.epochsOk (h : Transition loc rid db db') (hDb : EpochsOk loc db) :
    EpochsOk loc db' := by
  have hStored := h.rowsStored hDb.stored
  cases h with
  | opened r f t hId hFresh hRow hFunding =>
    exact hDb.opened hStored hFresh.columns.1 hRow hFunding rfl
  | adjusted r targetQuota now hRow hStatus hTarget hBooked =>
    have hColumns := (RowStep.adjusted targetQuota now hStatus hTarget).sameEpochColumns
    refine hDb.booked hStored hRow hBooked hColumns fun sid => ?_
    have hOpen : (adjustedReservation r targetQuota now).status = .reserved := hStatus
    rw [hColumns.holding_eq, holding, hOpen, hStatus]
    by_cases hOn : OnSubscription sid r <;> simp [hOn, adjustedReservation]
  | refunded r now hRow hStatus hBooked hReleased =>
    have hColumns := (RowStep.refunded now hStatus).sameEpochColumns
    have hStored₁ : RowsStored _ := fun id x hx => hStored id x (hReleased.reservations_eq ▸ hx)
    refine (hDb.booked hStored₁ hRow hBooked hColumns fun sid => ?_).congr
      hReleased.reservations_eq (by rw [hReleased.users_eq.1])
    have hClosed : (refundedReservation r now).status = .refunded := rfl
    rw [hColumns.holding_eq, holding, hClosed, hStatus]
    by_cases hOn : OnSubscription sid r <;> simp [hOn]
  | settled r now hRow hStatus hLedger hReleased =>
    have hColumns := (RowStep.settled now hStatus).sameEpochColumns
    refine hDb.keep hStored hRow hColumns (fun sid => ?_) hReleased.reservations_eq
      (by rw [hReleased.users_eq.1])
    have hClosed : (settledReservation r r.reservedQuota now).status = .settled := rfl
    rw [hColumns.holding_eq, holding, hClosed, hStatus]
    by_cases hOn : OnSubscription sid r <;> simp [hOn, settledReservation, closedReservation]
  | noted r r' hRow hStep =>
    refine hDb.keep hStored hRow (RowStep.noted hStep).sameEpochColumns (fun sid => ?_) rfl rfl
    cases hStep <;> rfl
  | shortfall r r' targetQuota failure user previousStatus now hRow hStatus hMore hUser hPrevious
      hMarked hLedger =>
      have hStep : RowStep r r' ∧ ∀ sid, holding sid r' = holding sid r := by
        rcases hMarked with ⟨rfl, -⟩ | rfl
        · exact ⟨.kept, fun _ => rfl⟩
        · exact ⟨.shortfall targetQuota failure previousStatus now hStatus hMore, fun _ => rfl⟩
      exact hDb.keep hStored hRow hStep.1.sameEpochColumns hStep.2
        (by rw [(freezeUser_users_eq r.userId _).1]) (by rw [(freezeUser_users_eq r.userId _).1])
  | jobs => exact hDb.congr rfl rfl
  | resolutions => exact hDb.congr rfl rfl

end Transitions

end XyApi.Billing

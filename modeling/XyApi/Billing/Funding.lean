import XyApi.Billing.Quota
import XyApi.Subscription.Reset

/-!
The funding side of a reservation. A wallet reservation moves the user's quota;
a subscription reservation moves the usage of one subscription, in the current
quota period only when the reservation was made in it, and in the lifetime total
always.
-/

namespace XyApi.Billing

open Lib Lib.Calendar Subscription

variable {r : BillingReservation} {db db' : Database} {now : Int}

structure BillingReservationInput where
  requestId : String
  userId : Int
  tokenId : Int := 0
  fundingSource : FundingSource := .wallet
  quota : Int
  skipToken : Bool := false
  deriving DecidableEq, Repr

structure SubscriptionBillingResult where
  userSubscriptionId : Int
  amountTotal : Int
  amountUsedAfter : Int
  resetAt : Int
  resetVersion : Int
  planId : Int
  planTitle : String
  deriving DecidableEq, Repr

def createPreConsumeRecord (record : SubscriptionPreConsumeRecord) : DbTx Unit := do
  let records? ← Tx.read fun db => db.preConsumeRecords.insert? record
  let records ← Tx.require records? .duplicatedKey
  Tx.write fun db => { db with preConsumeRecords := records }

/-- Charge the first candidate that has room, resetting due ones on the way. -/
def preConsumeCandidatesTx (loc : Location) (fuel : Nat) (input : BillingReservationInput)
    (now : Int) : List UserSubscription → DbTx SubscriptionBillingResult
  | [] => Tx.fail (.wrap .insufficientSubscriptionQuota ("need=" ++ toString input.quota))
  | candidate :: rest => do
      Tx.failIf (candidate.amountTotal < 0 ∨ candidate.amountUsed < 0 ∨
        (candidate.amountTotal > 0 ∧ candidate.amountUsed > candidate.amountTotal))
        .billingReservationConflict
      let plan ← getSubscriptionPlanByIdTx candidate.planId
      let sub ← maybeResetUserSubscriptionWithPlanTx loc fuel candidate plan now
      if sub.amountTotal > 0 ∧ sub.amountTotal - sub.amountUsed < input.quota then
        preConsumeCandidatesTx loc fuel input now rest
      else do
        Tx.failIf (sub.amountUsed > maxInt64 - input.quota) .quotaOverflow
        let totalUsed := max sub.amountUsedTotal sub.amountUsed
        Tx.failIf (totalUsed > maxInt64 - input.quota) .quotaOverflow
        createPreConsumeRecord {
          requestId := input.requestId
          userId := input.userId
          userSubscriptionId := sub.id
          preConsumed := input.quota
          status := .consumed
          updatedAt := now }
        let sub := { sub with
          amountUsed := sub.amountUsed + input.quota
          amountUsedTotal := totalUsed + input.quota }
        Tx.write (Database.putSubscription sub)
        pure {
          userSubscriptionId := sub.id
          amountTotal := sub.amountTotal
          amountUsedAfter := sub.amountUsed
          resetAt := sub.lastResetTime
          resetVersion := sub.quotaResetVersion
          planId := sub.planId
          planTitle := plan.title }

def activeSubscriptions (userId now : Int) (db : Database) : List UserSubscription :=
  (db.subscriptions.rows.filter fun s =>
    s.userId = userId ∧ s.status = .active ∧ s.endTime > now).insertionSort endsBefore

def preConsumeSubscriptionBillingTx (loc : Location) (fuel : Nat)
    (input : BillingReservationInput) (now : Int) : DbTx SubscriptionBillingResult := do
  let existing? ← Tx.read fun db => db.preConsumeRecords.get? input.requestId
  Tx.failIf existing?.isSome .billingReservationConflict
  let subscriptions ← Tx.read (activeSubscriptions input.userId now)
  Tx.failIf (subscriptions = []) .noActiveSubscription
  preConsumeCandidatesTx loc fuel input now subscriptions

def SameEpoch (sub : UserSubscription) (r : BillingReservation) : Prop :=
  sub.lastResetTime = r.subscriptionResetAt ∧ sub.quotaResetVersion = r.subscriptionResetVersion
  deriving Decidable

/-- Move the usage counters by a reservation's delta. A reservation from before a
quota reset moves the lifetime total only. Returns both deltas. -/
def applySubscriptionReservationDeltaTx (reservation : BillingReservation) (delta : Int) :
    DbTx (Int × Int) := do
  Tx.failIf (reservation.subscriptionId ≤ 0) .billingAccountNotFound
  if delta = 0 then pure (0, 0)
  else do
    let sub? ← Tx.read fun db => db.subscriptions.get? reservation.subscriptionId
    let sub ← Tx.require sub? .recordNotFound
    let totalUsed := max sub.amountUsedTotal sub.amountUsed
    Tx.failIf (delta > 0 ∧ totalUsed > maxInt64 - delta) .quotaOverflow
    let newTotalUsed := totalUsed + delta
    Tx.failIf (newTotalUsed < 0) .billingReservationConflict
    if SameEpoch sub reservation then do
      Tx.failIf (delta > 0 ∧ sub.amountUsed > maxInt64 - delta) .quotaOverflow
      let newPeriodUsed := sub.amountUsed + delta
      Tx.failIf (newPeriodUsed < 0) .billingReservationConflict
      Tx.failIf (sub.amountTotal > 0 ∧ newPeriodUsed > sub.amountTotal)
        (.wrap .insufficientSubscriptionQuota ("need=" ++ toString delta ++ " remaining=" ++
          toString (sub.amountTotal - sub.amountUsed)))
      Tx.write (Database.putSubscription
        { sub with amountUsed := newPeriodUsed, amountUsedTotal := newTotalUsed })
      pure (delta, delta)
    else do
      Tx.write (Database.putSubscription { sub with amountUsedTotal := newTotalUsed })
      pure (0, delta)

structure FundingDelta where
  userQuotaDelta : Int := 0
  subscriptionUsedDelta : Int := 0
  subscriptionTotalUsedDelta : Int := 0
  deriving DecidableEq, Repr

/-- Change the pre-consume record of an open request; exactly one row must match. -/
def updatePreConsumeRecord (requestId : String) (ok : SubscriptionPreConsumeRecord → Bool)
    (f : SubscriptionPreConsumeRecord → SubscriptionPreConsumeRecord) : DbTx Unit := do
  let record? ← Tx.read fun db => db.preConsumeRecords.get? requestId
  let record ← Tx.require (record?.filter fun r => r.status = .consumed ∧ ok r)
    .billingReservationConflict
  Tx.write (Database.putPreConsumeRecord (f record))

def adjustFundingTx (reservation : BillingReservation) (delta now : Int) : DbTx FundingDelta :=
  match reservation.fundingSource with
  | .wallet => do
      applyUserQuotaDeltaTx reservation.userId (-delta)
      pure { userQuotaDelta := -delta }
  | .subscription => do
      let (periodDelta, totalDelta) ← applySubscriptionReservationDeltaTx reservation delta
      Tx.when (¬ reservation.legacyAdopted) <|
        updatePreConsumeRecord reservation.requestId
          (fun record => decide (delta < 0 → -delta ≤ record.preConsumed))
          fun record => { record with preConsumed := record.preConsumed + delta, updatedAt := now }
      pure { subscriptionUsedDelta := periodDelta, subscriptionTotalUsedDelta := totalDelta }
  | .other _ => Tx.fail .billingReservationConflict

def refundFundingTx (reservation : BillingReservation) (now : Int) : DbTx FundingDelta :=
  match reservation.fundingSource with
  | .wallet => do
      applyUserQuotaDeltaTx reservation.userId reservation.reservedQuota
      pure { userQuotaDelta := reservation.reservedQuota }
  | .subscription => do
      let (periodDelta, totalDelta) ←
        applySubscriptionReservationDeltaTx reservation (-reservation.reservedQuota)
      Tx.when (¬ reservation.legacyAdopted) <|
        updatePreConsumeRecord reservation.requestId (fun _ => true)
          fun record => { record with status := .refunded, updatedAt := now }
      pure { subscriptionUsedDelta := periodDelta, subscriptionTotalUsedDelta := totalDelta }
  | .other _ => Tx.fail .billingReservationConflict

/-! ### What the funding side can do -/

/-- One subscription moves by a reservation's delta, of which `periodDelta` falls
into its current quota period. -/
inductive SubscriptionMoved (subs : Table UserSubscription.id) (r : BillingReservation)
    (delta : Int) : Int → Table UserSubscription.id → Prop
  | unchanged (hDelta : delta = 0) : SubscriptionMoved subs r delta 0 subs
  | moved (sub : UserSubscription) (hSub : subs.get? r.subscriptionId = some sub)
      (hTotal : 0 ≤ max sub.amountUsedTotal sub.amountUsed + delta)
      (hPeriod : SameEpoch sub r → 0 ≤ sub.amountUsed + delta ∧
        (0 < sub.amountTotal → sub.amountUsed + delta ≤ sub.amountTotal)) :
      SubscriptionMoved subs r delta (if SameEpoch sub r then delta else 0)
        (subs.put { sub with
          amountUsed := sub.amountUsed + if SameEpoch sub r then delta else 0
          amountUsedTotal := max sub.amountUsedTotal sub.amountUsed + delta })

theorem applySubscriptionReservationDeltaTx_ok
    (h : applySubscriptionReservationDeltaTx r delta db = .ok (deltas, db')) :
    deltas.2 = delta ∧ ∃ subs, SubscriptionMoved db.subscriptions r delta deltas.1 subs ∧
      db' = { db with subscriptions := subs } := by
  simp only [applySubscriptionReservationDeltaTx, Tx.failIf_bind_ok_iff] at h
  obtain ⟨-, h⟩ := h
  split at h
  · next hZero =>
      cases h
      exact ⟨hZero.symm, _, .unchanged hZero, rfl⟩
  · simp only [Tx.read_bind_apply, Tx.require_bind_ok_iff, Tx.failIf_bind_ok_iff] at h
    obtain ⟨sub, hSub, -, hTotal, h⟩ := h
    split at h
    · next hEpoch =>
        simp only [Tx.failIf_bind_ok_iff, Tx.write_bind_apply, Tx.pure_ok_iff,
          Database.putSubscription] at h
        obtain ⟨-, hPeriod, hRoom, rfl, rfl⟩ := h
        have hMoved : SubscriptionMoved db.subscriptions r delta _ _ :=
          .moved sub hSub (by omega) (by intro _; constructor <;> omega)
        simp only [hEpoch, if_true] at hMoved
        exact ⟨rfl, _, hMoved, rfl⟩
    · next hEpoch =>
        cases h
        have hMoved : SubscriptionMoved db.subscriptions r delta _ _ :=
          .moved sub hSub (by omega) (fun h => absurd h hEpoch)
        simp only [hEpoch, if_false, add_zero] at hMoved
        exact ⟨rfl, _, hMoved, rfl⟩

/-- The funding of a reservation consumes `delta` more (or, negative, gives it
back): its wallet moves, or its subscription does. -/
inductive FundingMoved (db : Database) (r : BillingReservation) (delta : Int) :
    FundingDelta → Database → Prop
  | wallet {users : Table User.id} (hSource : r.fundingSource = .wallet)
      (hMoved : WalletMoved db.users users r.userId (-delta)) :
      FundingMoved db r delta { userQuotaDelta := -delta } { db with users := users }
  | subscription {subs : Table UserSubscription.id}
      {records : Table SubscriptionPreConsumeRecord.requestId} {periodDelta : Int}
      (hSource : r.fundingSource = .subscription)
      (hMoved : SubscriptionMoved db.subscriptions r delta periodDelta subs) :
      FundingMoved db r delta
        { subscriptionUsedDelta := periodDelta, subscriptionTotalUsedDelta := delta }
        { db with subscriptions := subs, preConsumeRecords := records }

theorem updatePreConsumeRecord_ok (h : updatePreConsumeRecord requestId ok f db = .ok (u, db')) :
    ∃ records, db' = { db with preConsumeRecords := records } := by
  simp only [updatePreConsumeRecord, Tx.read_bind_apply, Tx.require_bind_ok_iff,
    Tx.write_ok_iff] at h
  obtain ⟨record, -, rfl⟩ := h
  exact ⟨_, rfl⟩

/-- The subscription branch shared by adjustments and refunds. -/
private theorem subscriptionFunding_ok (hSource : r.fundingSource = .subscription) (h : (do
      let (periodDelta, totalDelta) ← applySubscriptionReservationDeltaTx r delta
      Tx.when (¬ r.legacyAdopted) (updatePreConsumeRecord r.requestId ok change)
      pure { subscriptionUsedDelta := periodDelta, subscriptionTotalUsedDelta := totalDelta } :
        DbTx FundingDelta) db = .ok (f, db')) :
    FundingMoved db r delta f db' := by
  obtain ⟨⟨periodDelta, totalDelta⟩, db₁, hApply, h⟩ := Tx.bind_ok h
  obtain ⟨rfl, subs, hMoved, rfl⟩ := applySubscriptionReservationDeltaTx_ok hApply
  obtain ⟨_, db₂, hRecord, h⟩ := Tx.bind_ok h
  cases h
  rcases Tx.when_ok_iff.mp hRecord with ⟨-, hRecord⟩ | ⟨-, rfl⟩
  · obtain ⟨records, rfl⟩ := updatePreConsumeRecord_ok hRecord
    exact .subscription hSource hMoved
  · exact .subscription hSource hMoved

theorem adjustFundingTx_ok (h : adjustFundingTx r delta now db = .ok (f, db')) :
    FundingMoved db r delta f db' := by
  cases hSource : r.fundingSource with
  | wallet =>
    simp only [adjustFundingTx, hSource] at h
    obtain ⟨_, db₁, hUser, h⟩ := Tx.bind_ok h
    cases h
    obtain ⟨users, hMoved, rfl⟩ := applyUserQuotaDeltaTx_ok hUser
    exact .wallet hSource hMoved
  | subscription =>
    simp only [adjustFundingTx, hSource] at h
    exact subscriptionFunding_ok hSource h
  | other =>
    simp only [adjustFundingTx, hSource, Tx.fail_ok_iff] at h

theorem refundFundingTx_ok (h : refundFundingTx r now db = .ok (f, db')) :
    FundingMoved db r (-r.reservedQuota) f db' := by
  cases hSource : r.fundingSource with
  | wallet =>
    simp only [refundFundingTx, hSource] at h
    obtain ⟨_, db₁, hUser, h⟩ := Tx.bind_ok h
    cases h
    obtain ⟨users, hMoved, rfl⟩ := applyUserQuotaDeltaTx_ok hUser
    have hWallet : FundingMoved db r (-r.reservedQuota) _ { db with users := users } :=
      .wallet hSource (by rwa [neg_neg])
    rwa [neg_neg] at hWallet
  | subscription =>
    simp only [refundFundingTx, hSource] at h
    exact subscriptionFunding_ok hSource h
  | other =>
    simp only [refundFundingTx, hSource, Tx.fail_ok_iff] at h

/-! ### What a subscription pre-consume can do -/

/-- A reservation charges one subscription after due resets: its row has a
written-down schedule and room for the quota. -/
structure SubscriptionCharged (loc : Location) (subs subs' : Table UserSubscription.id)
    (quota : Int) (sub : UserSubscription) : Prop where
  renewals : ∃ subs₁, Renewals loc subs subs₁ ∧ subs₁.get? sub.id = some sub ∧
    subs' = subs₁.put { sub with
      amountUsed := sub.amountUsed + quota
      amountUsedTotal := max sub.amountUsedTotal sub.amountUsed + quota }
  scheduled : ∃ plan, ¬ Unscheduled loc sub plan
  room : 0 < sub.amountTotal → sub.amountUsed + quota ≤ sub.amountTotal

theorem createPreConsumeRecord_ok (h : createPreConsumeRecord record db = .ok (u, db')) :
    ∃ records, db' = { db with preConsumeRecords := records } := by
  simp only [createPreConsumeRecord, Tx.read_bind_apply, Tx.require_bind_ok_iff,
    Tx.write_ok_iff] at h
  obtain ⟨records, -, rfl⟩ := h
  exact ⟨_, rfl⟩

theorem preConsumeCandidatesTx_ok
    (h : preConsumeCandidatesTx loc fuel input now candidates db = .ok (result, db'))
    (hRows : ∀ c ∈ candidates, db.subscriptions.get? c.id = some c)
    (hIds : (candidates.map UserSubscription.id).Nodup) :
    ∃ sub subs records, SubscriptionCharged loc db.subscriptions subs input.quota sub ∧
      result.userSubscriptionId = sub.id ∧ result.resetAt = sub.lastResetTime ∧
      result.resetVersion = sub.quotaResetVersion ∧
      db' = { db with subscriptions := subs, preConsumeRecords := records } := by
  induction candidates generalizing db with
  | nil => simp [preConsumeCandidatesTx] at h
  | cons candidate rest ih =>
    simp only [preConsumeCandidatesTx, Tx.failIf_bind_ok_iff] at h
    obtain ⟨-, h⟩ := h
    rw [Tx.bind_ok_iff] at h
    obtain ⟨plan, db₁, hPlan, h⟩ := h
    obtain rfl := getSubscriptionPlanByIdTx_ok hPlan
    obtain ⟨sub, db₂, hReset, h⟩ := Tx.bind_ok h
    have hCandidate := hRows candidate (by simp)
    obtain ⟨hDue, rfl⟩ := maybeResetUserSubscriptionWithPlanTx_ok hReset hCandidate
    have hId := hDue.id_eq
    have hStored : (db₁.subscriptions.put sub).get? sub.id = some sub :=
      Table.get?_put_self (hId ▸ hCandidate)
    split at h
    · -- No room: the loop goes on with the rows behind this one untouched.
      simp only [List.map_cons, List.nodup_cons, List.mem_map, not_exists, not_and] at hIds
      have hRest : ∀ c ∈ rest, (db₁.putSubscription sub).subscriptions.get? c.id = some c := by
        intro c hc
        have hNe : c.id ≠ sub.id := fun hEq => hIds.1 c hc (hEq.trans hId)
        rw [Database.putSubscription, Table.get?_put_of_ne hNe]
        exact hRows c (by simp [hc])
      obtain ⟨charged, subs, records, hCharged, h₁, h₂, h₃, rfl⟩ := ih h hRest hIds.2
      obtain ⟨⟨subs₁, hRenewals, hGet, rfl⟩, hScheduled, hRoom⟩ := hCharged
      exact ⟨charged, _, records, ⟨⟨subs₁, .step candidate sub plan hCandidate hDue hRenewals,
        hGet, rfl⟩, hScheduled, hRoom⟩, h₁, h₂, h₃, rfl⟩
    · next hRoom =>
        simp only [Tx.failIf_bind_ok_iff] at h
        obtain ⟨-, -, h⟩ := h
        obtain ⟨_, db₃, hRecord, h⟩ := Tx.bind_ok h
        obtain ⟨records, rfl⟩ := createPreConsumeRecord_ok hRecord
        cases h
        refine ⟨sub, _, records, ⟨⟨_, .step candidate sub plan hCandidate hDue (.refl _),
          hStored, rfl⟩, ⟨plan, hDue.not_unscheduled⟩, fun hTotal => ?_⟩, rfl, rfl, rfl, rfl⟩
        omega

theorem preConsumeSubscriptionBillingTx_ok
    (h : preConsumeSubscriptionBillingTx loc fuel input now db = .ok (result, db')) :
    ∃ sub subs records, SubscriptionCharged loc db.subscriptions subs input.quota sub ∧
      result.userSubscriptionId = sub.id ∧ result.resetAt = sub.lastResetTime ∧
      result.resetVersion = sub.quotaResetVersion ∧
      db' = { db with subscriptions := subs, preConsumeRecords := records } := by
  simp only [preConsumeSubscriptionBillingTx, Tx.read_bind_apply, Tx.failIf_bind_ok_iff] at h
  have hPerm := List.perm_insertionSort endsBefore (db.subscriptions.rows.filter fun s =>
    s.userId = input.userId ∧ s.status = .active ∧ s.endTime > now)
  refine preConsumeCandidatesTx_ok h.2.2 (fun c hc => ?_) ?_
  · exact Table.get?_of_mem (List.mem_filter.mp (hPerm.mem_iff.mp hc)).1
  · exact (hPerm.map _).nodup_iff.mpr
      ((List.filter_sublist.map UserSubscription.id).nodup db.subscriptions.nodup)

end XyApi.Billing

import XyApi.Subscription.Purchase

/-!
Quota periods of a subscription. The three reset paths and the purchase are
reduced to what they do to the columns that identify a period: a row is kept, its
schedule is written down, or a new period begins under a new reset version.
-/

namespace XyApi.Subscription

open Lib Lib.Calendar

variable {plan : SubscriptionPlan}


inductive EpochStep (loc : Location) (sub : UserSubscription) : UserSubscription → Prop
  | kept : EpochStep loc sub sub
  | scheduled (plan : SubscriptionPlan) (base next : Int) (h : Unscheduled loc sub plan)
      (hNext : 0 < next) :
      EpochStep loc sub { sub with nextResetTime := next, lastResetTime := base }
  | renewed (last next : Int) :
      EpochStep loc sub { sub with
        amountUsedTotal := max sub.amountUsedTotal sub.amountUsed
        quotaResetVersion := sub.quotaResetVersion + 1
        amountUsed := 0
        lastResetTime := last
        nextResetTime := next }

inductive EpochSteps (loc : Location) :
    Table UserSubscription.id → Table UserSubscription.id → Prop
  | refl (subs : Table UserSubscription.id) : EpochSteps loc subs subs
  | step {subs subs' : Table UserSubscription.id} (sub sub' : UserSubscription)
      (hSub : subs.get? sub.id = some sub) (hStep : EpochStep loc sub sub')
      (hRest : EpochSteps loc (subs.put sub') subs') : EpochSteps loc subs subs'

/-- A subscription that stores its period does not look at the plan for it. -/
theorem unscheduled_congr (h : sub.quotaResetPeriod ≠ .blank) (plan plan' : SubscriptionPlan) :
    Unscheduled loc sub plan ↔ Unscheduled loc sub plan' := by
  simp [Unscheduled, scheduledReset, calcNextResetTime, resetPlan, h]

section Steps

variable {sub sub' : UserSubscription}

theorem EpochStep.id_eq (h : EpochStep loc sub sub') : sub'.id = sub.id := by
  cases h <;> rfl

theorem EpochStep.version_le (h : EpochStep loc sub sub') :
    sub.quotaResetVersion ≤ sub'.quotaResetVersion := by
  cases h with
  | kept => exact Int.le_refl _
  | scheduled => exact Int.le_refl _
  | renewed => exact Int.le_of_lt (Int.lt_succ _)

theorem DueReset.epochStep (h : DueReset loc sub plan sub') : EpochStep loc sub sub' := by
  cases h with
  | kept => exact .kept
  | scheduled base next hUnscheduled hNext => exact .scheduled plan base next hUnscheduled hNext
  | renewed base next => exact .renewed base next

theorem Renewals.epochSteps (h : Renewals loc subs subs') : EpochSteps loc subs subs' := by
  induction h with
  | refl => exact .refl _
  | step sub sub' plan hSub hReset _ ih => exact .step sub sub' hSub hReset.epochStep ih

/-- Everything a step preserves of a table, any number of steps preserves. -/
theorem EpochSteps.preserve {P : Table UserSubscription.id → Prop}
    (hP : ∀ subs sub sub', subs.get? sub.id = some sub → EpochStep loc sub sub' → P subs →
      P (subs.put sub')) {subs subs' : Table UserSubscription.id} (h : EpochSteps loc subs subs')
    (hSubs : P subs) : P subs' := by
  induction h with
  | refl => exact hSubs
  | step sub sub' hSub hStep _ ih => exact ih (hP _ sub sub' hSub hStep hSubs)

end Steps

/-! ### The reset paths -/

section Resets

theorem resetUserSubscriptionTx_ok
    (h : resetUserSubscriptionTx loc sub plan now advance db = .ok (sub', db')) :
    EpochStep loc sub sub' ∧ db' = db.putSubscription sub' := by
  simp only [resetUserSubscriptionTx, advanceSubscriptionQuotaResetVersion, Tx.bind_ok_iff,
    Tx.failIf_ok_iff, Tx.pure_ok_iff, Tx.write_ok_iff] at h
  obtain ⟨_, _, ⟨_, _, ⟨-, rfl⟩, rfl, rfl⟩, _, _, rfl, rfl, rfl⟩ := h
  refine ⟨?_, rfl⟩
  cases advance
  · exact .renewed sub.lastResetTime sub.nextResetTime
  · exact .renewed _ _

theorem resetAllTx_ok (h : resetAllTx loc plan now advance subs db = .ok (u, db'))
    (hRows : ∀ s ∈ subs, db.subscriptions.get? s.id = some s)
    (hIds : (subs.map UserSubscription.id).Nodup) :
    ∃ subs', EpochSteps loc db.subscriptions subs' ∧ db' = { db with subscriptions := subs' } := by
  induction subs generalizing db with
  | nil =>
    cases h
    exact ⟨_, .refl _, rfl⟩
  | cons sub rest ih =>
    simp only [resetAllTx] at h
    obtain ⟨sub', db₁, hReset, h⟩ := Tx.bind_ok h
    obtain ⟨hStep, rfl⟩ := resetUserSubscriptionTx_ok hReset
    have hSub := hRows sub (by simp)
    simp only [List.map_cons, List.nodup_cons, List.mem_map, not_exists, not_and] at hIds
    have hRest : ∀ s ∈ rest, (db.putSubscription sub').subscriptions.get? s.id = some s := by
      intro s hs
      have hNe : s.id ≠ sub'.id := fun hEq => hIds.1 s hs (hEq.trans hStep.id_eq)
      rw [Database.putSubscription, Table.get?_put_of_ne hNe]
      exact hRows s (by simp [hs])
    obtain ⟨subs', hSteps, rfl⟩ := ih h hRest hIds.2
    exact ⟨subs', .step sub sub' hSub hStep hSteps, rfl⟩

/-- The rows that an administrator reset selects are rows of the table. -/
private theorem resetSelected_ok [DecidableRel le]
    (h : resetAllTx loc plan now advance ((db.subscriptions.rows.filter p).insertionSort le) db = .ok (u, db'))
    :
    ∃ subs', EpochSteps loc db.subscriptions subs' ∧ db' = { db with subscriptions := subs' } := by
  have hPerm := List.perm_insertionSort le (db.subscriptions.rows.filter p)
  refine resetAllTx_ok h (fun s hs => ?_) ?_
  · exact Table.get?_of_mem (List.mem_filter.mp (hPerm.mem_iff.mp hs)).1
  · exact (hPerm.map _).nodup_iff.mpr
      ((List.filter_sublist.map UserSubscription.id).nodup db.subscriptions.nodup)

theorem adminResetUserSubscriptionsByPlan_ok
    (h : adminResetUserSubscriptionsByPlan loc userId planId advance now db = .ok (n, db')) :
    ∃ subs', EpochSteps loc db.subscriptions subs' ∧ db' = { db with subscriptions := subs' } := by
  simp only [adminResetUserSubscriptionsByPlan, Tx.failIf_bind_ok_iff] at h
  obtain ⟨-, h⟩ := h
  rw [Tx.bind_ok_iff] at h
  obtain ⟨plan, db₁, hPlan, h⟩ := h
  obtain rfl := getSubscriptionPlanByIdTx_ok hPlan
  obtain ⟨-, h⟩ := Tx.failIf_bind_ok_iff.mp h
  obtain ⟨_, db₂, hReset, h⟩ := Tx.bind_ok h
  cases h
  exact resetSelected_ok hReset

theorem adminResetPlanSubscriptions_ok
    (h : adminResetPlanSubscriptions loc planId advance now db = .ok (n, db')) :
    ∃ subs', EpochSteps loc db.subscriptions subs' ∧ db' = { db with subscriptions := subs' } := by
  simp only [adminResetPlanSubscriptions, Tx.failIf_bind_ok_iff] at h
  obtain ⟨-, h⟩ := h
  rw [Tx.bind_ok_iff] at h
  obtain ⟨plan, db₁, hPlan, h⟩ := h
  obtain rfl := getSubscriptionPlanByIdTx_ok hPlan
  simp only [Tx.read_bind_apply] at h
  obtain ⟨_, db₂, hReset, h⟩ := Tx.bind_ok h
  cases h
  exact resetSelected_ok hReset

theorem resetDueSubscriptionTx_ok {id : Int}
    (h : resetDueSubscriptionTx loc fuel id plan now db = .ok (done, db')) :
    ∃ subs', EpochSteps loc db.subscriptions subs' ∧ db' = { db with subscriptions := subs' } := by
  simp only [resetDueSubscriptionTx, Tx.read_bind_apply] at h
  cases hLocked : (db.subscriptions.get? id).filter
      (fun s => 0 < s.nextResetTime ∧ s.nextResetTime ≤ now) with
  | none =>
    simp only [hLocked, Tx.pure_ok_iff] at h
    obtain ⟨-, rfl⟩ := h
    exact ⟨_, .refl _, rfl⟩
  | some locked =>
    simp only [hLocked] at h
    obtain ⟨sub', db₁, hReset, h⟩ := Tx.bind_ok h
    cases h
    rw [Option.filter_eq_some_iff] at hLocked
    have hKey : locked.id = id := Table.key_of_get? hLocked.1
    have hSub : db.subscriptions.get? locked.id = some locked := hKey ▸ hLocked.1
    obtain ⟨hDue, rfl⟩ := maybeResetUserSubscriptionWithPlanTx_ok hReset hSub
    exact ⟨_, .step locked sub' hSub hDue.epochStep (.refl _), rfl⟩

end Resets

/-! ### Purchase -/

/-- A subscription as its purchase leaves it: unused, with the period it was bought
with written down. -/
structure NewSubscription (sub : UserSubscription) : Prop where
  used : sub.amountUsed = 0
  total : sub.amountUsedTotal = 0
  period : sub.quotaResetPeriod ≠ .blank

section Purchase

theorem checkDuration_ok {value max : Int} {subject unit : String} {u : Unit}
    (h : checkDuration value max subject unit db = .ok (u, db')) : db' = db :=
  (Tx.failIf_ok_iff.mp h).2.symm

theorem validateSubscriptionPlan_ok (h : validateSubscriptionPlan plan db = .ok (u, db')) :
    db' = db := by
  simp only [validateSubscriptionPlan, Tx.failIf_bind_ok_iff] at h
  obtain ⟨-, -, -, -, -, h⟩ := h
  obtain ⟨_, db₁, hDuration, hPeriod⟩ := Tx.bind_ok h
  have hFirst : db₁ = db := by
    cases hUnit : plan.durationUnit <;> simp only [validateDuration, hUnit] at hDuration
    case other => simp at hDuration
    all_goals exact checkDuration_ok hDuration
  have hSecond : db' = db₁ := by
    cases hStored : plan.quotaResetPeriod with
    | blank =>
      simp only [validateResetPeriod, hStored] at hPeriod
      exact (Tx.pure_ok hPeriod).2.symm
    | known period =>
      cases period <;> simp only [validateResetPeriod, hStored] at hPeriod
      case custom => exact checkDuration_ok hPeriod
      all_goals exact (Tx.pure_ok hPeriod).2.symm
    | other => simp [validateResetPeriod, hStored] at hPeriod
  rw [hSecond, hFirst]

theorem calcPlanEndTime_ok (h : calcPlanEndTime loc start plan db = .ok (endTime, db')) : db' = db := by
  unfold calcPlanEndTime at h
  rw [Tx.bind_ok_iff] at h
  obtain ⟨_, db₁, hValid, h⟩ := h
  obtain rfl := validateSubscriptionPlan_ok hValid
  cases hUnit : plan.durationUnit <;> simp only [hUnit] at h
  case other => simp at h
  all_goals exact (Tx.pure_ok h).2.symm

theorem checkPurchaseLimitTx_ok
    (h : checkPurchaseLimitTx userId plan excludeOrderId excludePaymentOrderId now db = .ok (u, db'))
    : db' = db := by
  rcases Tx.when_ok_iff.mp h with ⟨-, h⟩ | ⟨-, rfl⟩
  · obtain ⟨slots, db₁, hCount, h⟩ := Tx.bind_ok h
    simp only [countSubscriptionPurchaseSlotsTx, Tx.failIf_bind_ok_iff, Tx.read_ok_iff] at hCount
    obtain ⟨-, -, rfl⟩ := hCount
    exact (Tx.failIf_ok_iff.mp h).2.symm
  · rfl

theorem upgradeUserGroupTx_ok (h : upgradeUserGroupTx userId group db = .ok (previous, db')) :
    ∃ users, db' = { db with users := users } := by
  simp only [upgradeUserGroupTx, Tx.read_bind_apply] at h
  cases hUser : db.users.get? userId with
  | none =>
    simp only [hUser, Tx.pure_ok_iff] at h
    exact ⟨db.users, h.2.symm⟩
  | some =>
    simp only [hUser] at h
    split at h
    · exact ⟨db.users, (Tx.pure_ok h).2.symm⟩
    · simp only [Tx.write_bind_apply, Tx.pure_ok_iff] at h
      exact ⟨_, h.2.symm⟩

/-- A purchase moves the user into the plan's group and adds the row of the purchase. -/
theorem createUserSubscriptionFromPlanTx_row
    (h : createUserSubscriptionFromPlanTx loc userId plan source excludeOrderId excludePaymentOrderId now db = .ok (sub, db'))
    :
    ∃ id endTime previous users subs,
      calcPlanEndTime loc now (normalizeDefaults plan) db = .ok (endTime, db) ∧
      upgradeUserGroupTx userId (trimSpace (normalizeDefaults plan).upgradeGroup) db =
        .ok (previous, { db with users := users }) ∧
      sub = newUserSubscription loc id userId (normalizeDefaults plan) source previous now endTime ∧
      db.subscriptions.insert? sub = some subs ∧
      db' = { db with users := users, subscriptions := subs } := by
  simp only [createUserSubscriptionFromPlanTx, Tx.failIf_bind_ok_iff] at h
  obtain ⟨-, -, h⟩ := h
  rw [Tx.bind_ok_iff] at h
  obtain ⟨_, db₁, hValid, h⟩ := h
  obtain rfl := validateSubscriptionPlan_ok hValid
  simp only [Tx.read_bind_apply, Tx.require_bind_ok_iff] at h
  obtain ⟨_, -, h⟩ := h
  rw [Tx.bind_ok_iff] at h
  obtain ⟨_, db₂, hLimit, h⟩ := h
  obtain rfl := checkPurchaseLimitTx_ok hLimit
  rw [Tx.bind_ok_iff] at h
  obtain ⟨endTime, db₃, hEnd, h⟩ := h
  obtain rfl := calcPlanEndTime_ok hEnd
  obtain ⟨previous, db₄, hGroup, h⟩ := Tx.bind_ok h
  obtain ⟨users, rfl⟩ := upgradeUserGroupTx_ok hGroup
  simp only [Tx.read_bind_apply, insertSubscription, Tx.require_bind_ok_iff,
    Tx.write_bind_apply, Tx.pure_ok_iff] at h
  obtain ⟨subs, hInsert, rfl, rfl⟩ := h
  exact ⟨_, endTime, previous, users, subs, hEnd, hGroup, rfl, hInsert, rfl⟩

/-- A purchase adds one new subscription. -/
theorem createUserSubscriptionFromPlanTx_ok
    (h : createUserSubscriptionFromPlanTx loc userId plan source excludeOrderId excludePaymentOrderId now db = .ok (sub, db'))
    :
    NewSubscription sub ∧ ∃ users subs, db.subscriptions.insert? sub = some subs ∧
      db' = { db with users := users, subscriptions := subs } := by
  obtain ⟨_, _, _, users, subs, -, -, rfl, hInsert, rfl⟩ := createUserSubscriptionFromPlanTx_row h
  exact ⟨⟨rfl, rfl, by simp [newUserSubscription]⟩, users, subs, hInsert, rfl⟩

end Purchase

end XyApi.Subscription

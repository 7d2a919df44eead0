import XyApi.Subscription.RowEffects

/-!
The reset schedule of a subscription under edits of its plan. Two runs are compared that take
the same resets at the same times, with the same usage, and differ in the edits made to plans.
The scheduler goes by the period stored on the subscription, so the edits do not reach it. An
administrator's reset that moves the reset time goes by the plan row as it stands.
-/

namespace XyApi.Subscription

open Lib Lib.Calendar

variable {planId : Int} {plan : SubscriptionPlan} {sub : UserSubscription} {advanceResetTime : Bool}
    {selected : UserSubscription → Prop}

/-! ### Steps -/

/-- An edit of an existing plan, the scheduled reset of one subscription, the two resets an
administrator orders, and usage of a subscription. -/
inductive ResetStep
  | editPlan (plan : SubscriptionPlan)
  | resetDue (id now : Int)
  | resetUser (userId planId : Int) (advanceResetTime : Bool) (now : Int)
  | resetPlan (planId : Int) (advanceResetTime : Bool) (now : Int)
  | consume (id delta : Int)

def ResetStep.step (loc : Location) (fuel : Nat) (db : Database) : ResetStep → Database
  | editPlan plan => { db with plans := db.plans.put plan }
  | resetDue id now => ((resetDueOne loc fuel id now).commit db).1
  | resetUser userId planId advanceResetTime now =>
    ((adminResetUserSubscriptionsByPlan loc userId planId advanceResetTime now).commit db).1
  | resetPlan planId advanceResetTime now =>
    ((adminResetPlanSubscriptions loc planId advanceResetTime now).commit db).1
  | consume id delta => ((postConsumeUserSubscriptionDeltaTx id delta).commit db).1

def ResetStep.isEdit : ResetStep → Bool
  | editPlan _ => true
  | resetDue _ _ | resetUser _ _ _ _ | resetPlan _ _ _ | consume _ _ => false

/-- The plan has the reset period that the subscription was bought with. -/
def KeepsPeriod (plan : SubscriptionPlan) (sub : UserSubscription) : Prop :=
  normalizeResetPeriod plan.quotaResetPeriod = normalizeResetPeriod sub.quotaResetPeriod ∧
    plan.quotaResetCustomSeconds = sub.quotaResetCustomSeconds

/-- The selected rows can count one more reset and, if the reset time moves, the plan still has
the period of the subscription that is watched. -/
def AdminFits (watched planId : Int) (advanceResetTime : Bool) (selected : UserSubscription → Prop)
    (db : Database) : Prop :=
  (∀ sub ∈ db.subscriptions.rows, selected sub →
    0 ≤ sub.quotaResetVersion ∧ sub.quotaResetVersion < maxInt64) ∧
  (advanceResetTime = true → ∀ plan sub, db.plans.get? planId = some plan →
    db.subscriptions.get? watched = some sub → selected sub → KeepsPeriod plan sub)

def ResetStep.Fits (watched : Int) (db : Database) : ResetStep → Prop
  | editPlan _ | resetDue _ _ | consume _ _ => True
  | resetUser userId planId advanceResetTime now =>
    AdminFits watched planId advanceResetTime (selectedOfUser userId planId now) db
  | resetPlan planId advanceResetTime now =>
    AdminFits watched planId advanceResetTime (selectedOfPlan planId now) db

/-! ### Two runs -/

/-- Databases with the same row of a subscription that stores its period, the same rows apart
from what resets write, and the same plans apart from their contents. -/
structure SameButPlans (watched : Int) (db₁ db₂ : Database) : Prop where
  row : db₁.subscriptions.get? watched = db₂.subscriptions.get? watched
  stored : ∀ sub, db₁.subscriptions.get? watched = some sub → sub.quotaResetPeriod ≠ .blank
  columns : db₁.subscriptions.rows.map fixedColumns = db₂.subscriptions.rows.map fixedColumns
  plans : db₁.plans.rows.map SubscriptionPlan.id = db₂.plans.rows.map SubscriptionPlan.id

section Runs

theorem SameButPlans.symm (h : SameButPlans watched db₁ db₂) : SameButPlans watched db₂ db₁ :=
  ⟨h.row.symm, fun sub hSub => h.stored sub (h.row.trans hSub), h.columns.symm, h.plans.symm⟩

theorem SameButPlans.editLeft (h : SameButPlans watched db₁ db₂) (plan : SubscriptionPlan) :
    SameButPlans watched { db₁ with plans := db₁.plans.put plan } db₂ := by
  exact ⟨h.row, h.stored, h.columns, (Table.map_key_put db₁.plans plan).trans h.plans⟩

theorem SameButPlans.planRow_none (h : SameButPlans watched db₁ db₂)
    (hNone : planRow db₁ planId = none) : planRow db₂ planId = none := by
  unfold planRow at hNone ⊢
  split at hNone
  · next hId => rw [if_pos hId]
  · next hId =>
      rw [Option.map_eq_none_iff, Table.get?_eq_none_iff, h.plans] at hNone
      rw [if_neg hId, Option.map_eq_none_iff, Table.get?_eq_none_iff]
      exact hNone

theorem KeepsPeriod.normalizeDefaults (h : KeepsPeriod plan sub) :
    KeepsPeriod (normalizeDefaults plan) sub := by
  refine ⟨?_, ?_⟩
  · rw [normalizeResetPeriod_normalizeDefaults]
    exact h.1
  · rw [normalizeDefaults_quotaResetCustomSeconds]
    exact h.2

theorem AdminFits.keepsPeriod (h : AdminFits watched planId advanceResetTime selected db)
    (hAdvance : advanceResetTime = true) (hPlan : planRow db planId = some plan)
    (hSub : db.subscriptions.get? watched = some sub) (hSelected : selected sub) :
    KeepsPeriod plan sub := by
  unfold planRow at hPlan
  split at hPlan
  · cases hPlan
  · obtain ⟨row, hRow, rfl⟩ := Option.map_eq_some_iff.mp hPlan
    exact (h.2 hAdvance row sub hRow hSub hSelected).normalizeDefaults

theorem quotaResetPeriod_resetBy {plan? : Option SubscriptionPlan} [DecidablePred selected] :
    (resetBy loc plan? now advanceResetTime selected sub).quotaResetPeriod =
      sub.quotaResetPeriod := by
  cases plan? with
  | none => rfl
  | some =>
    rw [resetBy_some]
    split
    · cases advanceResetTime <;> rfl
    · rfl

/-- Plans that keep the period of a subscription reset it alike. -/
theorem resetRow_congr (h : advanceResetTime = true → KeepsPeriod plan sub ∧ KeepsPeriod plan' sub)
    :
    resetRow loc plan now advanceResetTime sub = resetRow loc plan' now advanceResetTime sub := by
  cases advanceResetTime with
  | false => rfl
  | true =>
    obtain ⟨hPlan, hPlan'⟩ := h rfl
    unfold resetRow
    rw [calcNextResetTime_congr (hPlan.1.trans hPlan'.1.symm) (hPlan.2.trans hPlan'.2.symm)]

theorem SameButPlans.admin [DecidablePred selected] (h : SameButPlans watched db₁ db₂)
    (hFits₁ : AdminFits watched planId advanceResetTime selected db₁)
    (hFits₂ : AdminFits watched planId advanceResetTime selected db₂)
    (hEffect₁ : AdminEffect loc (planRow db₁ planId) now advanceResetTime selected db₁ db₁')
    (hEffect₂ : AdminEffect loc (planRow db₂ planId) now advanceResetTime selected db₂ db₂') :
    SameButPlans watched db₁' db₂' := by
  have hSame : ∀ sub, db₁.subscriptions.get? watched = some sub →
      resetBy loc (planRow db₁ planId) now advanceResetTime selected sub =
        resetBy loc (planRow db₂ planId) now advanceResetTime selected sub := by
    intro sub hSub
    cases hPlan₁ : planRow db₁ planId with
    | none => rw [h.planRow_none hPlan₁]
    | some =>
      cases hPlan₂ : planRow db₂ planId with
      | none => rw [h.symm.planRow_none hPlan₂] at hPlan₁; cases hPlan₁
      | some =>
        rw [resetBy_some, resetBy_some]
        split
        · next hSelected =>
            refine resetRow_congr fun hAdvance => ⟨?_, ?_⟩
            · exact hFits₁.keepsPeriod hAdvance hPlan₁ hSub hSelected
            · exact hFits₂.keepsPeriod hAdvance hPlan₂ (h.row ▸ hSub) hSelected
        · rfl
  refine ⟨?_, ?_, ?_, ?_⟩
  · rw [hEffect₁.rows, hEffect₂.rows, ← h.row]
    cases hSub : db₁.subscriptions.get? watched with
    | none => rfl
    | some sub => rw [Option.map_some, Option.map_some, hSame sub hSub]
  · intro sub hSub
    rw [hEffect₁.rows] at hSub
    obtain ⟨before, hBefore, rfl⟩ := Option.map_eq_some_iff.mp hSub
    rw [quotaResetPeriod_resetBy]
    exact h.stored before hBefore
  · rw [hEffect₁.columns, hEffect₂.columns, h.columns]
  · rw [hEffect₁.plans, hEffect₂.plans, h.plans]

/-- A row that the scheduler wrote back, on one side. -/
theorem SameButPlans.putLeft (h : SameButPlans watched db₁ db₂)
    (hRow : db₁.subscriptions.get? sub.id = some sub) (hId : watched ≠ sub.id)
    (hFixed : fixedColumns sub' = fixedColumns sub) :
    SameButPlans watched (db₁.putSubscription sub') db₂ := by
  have hGet : (db₁.putSubscription sub').subscriptions.get? watched =
      db₁.subscriptions.get? watched := by
    rw [get?_putSubscription hRow hFixed, if_neg hId]
  refine ⟨hGet.trans h.row, fun s hs => h.stored s (hGet ▸ hs), ?_, h.plans⟩
  exact (fixedColumns_putSubscription hRow hFixed).trans h.columns

/-- The same row, written back on both sides. -/
theorem SameButPlans.putBoth (h : SameButPlans watched db₁ db₂)
    (hRow : db₁.subscriptions.get? watched = some sub)
    (hFixed : fixedColumns sub' = fixedColumns sub)
    (hPeriod : sub'.quotaResetPeriod = sub.quotaResetPeriod) :
    SameButPlans watched (db₁.putSubscription sub') (db₂.putSubscription sub') := by
  have hId : sub.id = watched := Table.key_of_get? hRow
  have hRow₁ : db₁.subscriptions.get? sub.id = some sub := hId ▸ hRow
  have hRow₂ : db₂.subscriptions.get? sub.id = some sub := hId ▸ h.row ▸ hRow
  have hGet₁ := get?_putSubscription hRow₁ hFixed watched
  have hGet₂ := get?_putSubscription hRow₂ hFixed watched
  rw [if_pos hId.symm] at hGet₁ hGet₂
  refine ⟨hGet₁.trans hGet₂.symm, fun s hs => ?_, ?_, h.plans⟩
  · cases hGet₁.symm.trans hs
    rw [hPeriod]
    exact h.stored sub hRow
  · rw [fixedColumns_putSubscription hRow₁ hFixed, fixedColumns_putSubscription hRow₂ hFixed]
    exact h.columns

/-- A call on another row, in one run. -/
theorem SameButPlans.callLeft (h : SameButPlans watched db₁ db₂) {id : Int}
    (hCall : RowCall id call onRow) (hId : watched ≠ id) :
    SameButPlans watched (call db₁) db₂ := by
  cases hRow : db₁.subscriptions.get? id with
  | none => rwa [hCall.missing db₁ hRow]
  | some sub =>
    obtain rfl : sub.id = id := Table.key_of_get? hRow
    rw [hCall.found db₁ sub hRow]
    refine Tx.commit_preserves (P := fun db => SameButPlans watched db db₂) h fun sub' db' hOk => ?_
    obtain ⟨rfl, hFixed, -⟩ := hCall.writes db₁ sub sub' db' hRow hOk
    exact h.putLeft hRow hId hFixed

/-- The same call on the watched row, in both runs. -/
theorem SameButPlans.callBoth (h : SameButPlans watched db₁ db₂)
    (hCall : RowCall watched call onRow) :
    SameButPlans watched (call db₁) (call db₂) := by
  cases hRow : db₁.subscriptions.get? watched with
  | none => rwa [hCall.missing db₁ hRow, hCall.missing db₂ (h.row ▸ hRow)]
  | some sub =>
    have hRow₂ : db₂.subscriptions.get? watched = some sub := h.row ▸ hRow
    obtain rfl : sub.id = watched := Table.key_of_get? hRow
    have hAny := hCall.indifferent sub (h.stored sub hRow)
    rw [hCall.found db₁ sub hRow, hCall.found db₂ sub hRow₂]
    rcases Tx.commit_cases (onRow sub) db₁ with ⟨e, hErr, hCommit⟩ | ⟨sub', db₁', hOk, hCommit⟩
    · rcases Tx.commit_cases (onRow sub) db₂ with ⟨e', -, hCommit'⟩ | ⟨sub', db₂', hOk, -⟩
      · rwa [hCommit, hCommit']
      · obtain ⟨_, hOk₁⟩ := hAny db₂ db₁ sub' db₂' hOk
        rw [hErr] at hOk₁
        cases hOk₁
    · obtain ⟨db₂', hOk₂⟩ := hAny db₁ db₂ sub' db₁' hOk
      obtain ⟨rfl, hFixed, hPeriod⟩ := hCall.writes db₁ sub sub' db₁' hRow hOk
      obtain ⟨rfl, -, -⟩ := hCall.writes db₂ sub sub' db₂' hRow₂ hOk₂
      rw [hCommit, Tx.commit_of_ok hOk₂]
      exact h.putBoth hRow hFixed hPeriod

theorem SameButPlans.call (h : SameButPlans watched db₁ db₂) {id : Int}
    {call : Database → Database} (hCall : RowCall id call onRow) :
    SameButPlans watched (call db₁) (call db₂) := by
  by_cases hId : watched = id
  · subst hId
    exact h.callBoth hCall
  · exact ((h.callLeft hCall hId).symm.callLeft hCall hId).symm

/-- One step, taken in both runs. -/
theorem SameButPlans.step (h : SameButPlans watched db₁ db₂) {s : ResetStep}
    (hFits₁ : s.Fits watched db₁) (hFits₂ : s.Fits watched db₂) :
    SameButPlans watched (s.step loc fuel db₁) (s.step loc fuel db₂) := by
  cases s with
  | editPlan plan => exact ((h.editLeft plan).symm.editLeft plan).symm
  | resetDue id now => exact h.call (resetDueOne_rowCall loc fuel id now)
  | resetUser userId planId advanceResetTime now =>
    by_cases hUser : 0 < userId
    · exact h.admin hFits₁ hFits₂ (adminResetUserSubscriptionsByPlan_effect hUser hFits₁.1)
        (adminResetUserSubscriptionsByPlan_effect hUser hFits₂.1)
    · have hRun : ∀ db, adminResetUserSubscriptionsByPlan loc userId planId advanceResetTime now
          db = .error _ := fun db => Tx.failIf_bind_of (.inl (not_lt.mp hUser)) _
      rwa [ResetStep.step, ResetStep.step, Tx.commit_of_error (hRun db₁),
        Tx.commit_of_error (hRun db₂)]
  | resetPlan =>
    exact h.admin hFits₁ hFits₂ (adminResetPlanSubscriptions_effect hFits₁.1)
      (adminResetPlanSubscriptions_effect hFits₂.1)
  | consume id delta =>
    by_cases hId : 0 < id
    · exact h.call (postConsume_rowCall hId delta)
    · have hRun : ∀ db, postConsumeUserSubscriptionDeltaTx id delta db = .error _ := fun db =>
        Tx.failIf_bind_of (not_lt.mp hId) _
      rwa [ResetStep.step, ResetStep.step, Tx.commit_of_error (hRun db₁),
        Tx.commit_of_error (hRun db₂)]

end Runs

theorem reset_schedule_frozen (loc : Location) (fuel : Nat) (db : Database)
    (sub : UserSubscription) (hSub : db.subscriptions.get? sub.id = some sub)
    (hStored : sub.quotaResetPeriod ≠ .blank) (steps₁ steps₂ : List ResetStep)
    (hSame : steps₁.filter (!·.isEdit) = steps₂.filter (!·.isEdit))
    (hFits₁ : Guarded (ResetStep.step loc fuel) (ResetStep.Fits sub.id) db steps₁)
    (hFits₂ : Guarded (ResetStep.step loc fuel) (ResetStep.Fits sub.id) db steps₂) :
    (run (ResetStep.step loc fuel) db steps₁).subscriptions.get? sub.id =
      (run (ResetStep.step loc fuel) db steps₂).subscriptions.get? sub.id := by
  have hStart : SameButPlans sub.id db db :=
    ⟨rfl, fun s hs => by rw [hSub] at hs; cases hs; exact hStored, rfl, rfl⟩
  have hLeft : ∀ db₁ db₂ (s : ResetStep), s.isEdit = true → SameButPlans sub.id db₁ db₂ →
      SameButPlans sub.id (s.step loc fuel db₁) db₂ := by
    intro db₁ db₂ s hEdit h
    cases s with
    | editPlan plan => exact h.editLeft plan
    | resetDue | resetUser | resetPlan | consume => cases hEdit
  have hRight : ∀ db₁ db₂ (s : ResetStep), s.isEdit = true → SameButPlans sub.id db₁ db₂ →
      SameButPlans sub.id db₁ (s.step loc fuel db₂) := fun db₁ db₂ s hEdit h =>
    (hLeft db₂ db₁ s hEdit h.symm).symm
  exact (run_related hLeft hRight (fun _ _ _ hOk₁ hOk₂ h => h.step hOk₁ hOk₂) hSame hFits₁ hFits₂
    hStart).row

def sampleSubscribed : Database where
  plans := .single dailyPlan
  subscriptions := .single sampleDaily

/-- The subscription is still at the plan it was bought with. -/
theorem sampleSubscribed_fits :
    (ResetStep.resetPlan 1 true 1005).Fits 1 sampleSubscribed := by
  refine ⟨fun sub hSub _ => ?_, fun _ plan sub hPlan hSub _ => ?_⟩
  · obtain rfl := List.mem_singleton.mp hSub
    decide
  · cases hPlan
    cases hSub
    exact ⟨rfl, rfl⟩

theorem reset_schedule_frozen_daily :
    (run (ResetStep.step .utc 10) sampleSubscribed
      [.resetPlan 1 true 1005, .resetDue 1 90000]).subscriptions.get? 1 =
    (run (ResetStep.step .utc 10) sampleSubscribed
      [.resetPlan 1 true 1005, .editPlan tenSecondPlan, .resetDue 1 90000]).subscriptions.get? 1 :=
  reset_schedule_frozen .utc 10 sampleSubscribed sampleDaily rfl (by decide) _ _ rfl
    ⟨sampleSubscribed_fits, trivial, trivial⟩ ⟨sampleSubscribed_fits, trivial, trivial, trivial⟩

/-- An administrator's reset that moves the reset time, without and after an edit of the plan. -/
theorem edited_plan_moves_reset :
    ((run (ResetStep.step .utc 10) sampleSubscribed
      [.resetPlan 1 true 1005]).subscriptions.get? 1).map UserSubscription.nextResetTime =
        some 86400 ∧
    ((run (ResetStep.step .utc 10) sampleSubscribed
      [.editPlan tenSecondPlan, .resetPlan 1 true 1005]).subscriptions.get? 1).map
        UserSubscription.nextResetTime = some 1015 := by
  decide +kernel

end XyApi.Subscription

import XyApi.Subscription.CatchUp
import XyApi.Subscription.Epoch

/-!
What resets and usage do to the rows of subscriptions. An administrator's reset meets every
selected row alike. The scheduler and the accounting of usage work on one row each, and what
they make of it depends on nothing else in the database if the row stores its reset period.
-/

namespace XyApi.Subscription

open Lib Lib.Calendar

def selectedOfUser (userId planId now : Int) (sub : UserSubscription) : Prop :=
  sub.userId = userId ∧ sub.planId = planId ∧ sub.status = .active ∧ sub.endTime > now
  deriving Decidable

def selectedOfPlan (planId now : Int) (sub : UserSubscription) : Prop :=
  sub.planId = planId ∧ sub.status = .active ∧ sub.endTime > now
  deriving Decidable

def resetDueOne (loc : Location) (fuel : Nat) (id now : Int) : DbTx Bool := do
  let sub? ← Tx.read fun db => db.subscriptions.get? id
  match sub? with
  | none => pure false
  | some sub => do
      let plan ← getSubscriptionResetPlanTx sub
      resetDueSubscriptionTx loc fuel id plan now

section Rows

variable {loc : Location} {fuel : Nat} {plan plan' : SubscriptionPlan} {now : Int}
  {sub sub' : UserSubscription} {db db' : Database}

/-- Only the period of a plan matters to the schedule. -/
theorem calcNextResetTime_congr
    (hPeriod : normalizeResetPeriod plan.quotaResetPeriod =
      normalizeResetPeriod plan'.quotaResetPeriod)
    (hSeconds : plan.quotaResetCustomSeconds = plan'.quotaResetCustomSeconds) (base endUnix : Int) :
    calcNextResetTime loc base plan endUnix = calcNextResetTime loc base plan' endUnix := by
  unfold calcNextResetTime
  rw [hPeriod, hSeconds]

def fixedColumns (sub : UserSubscription) : Int × Int × Int × SubscriptionStatus × Int :=
  (sub.id, sub.userId, sub.planId, sub.status, sub.endTime)

def resetRow (loc : Location) (plan : SubscriptionPlan) (now : Int) (advanceResetTime : Bool)
    (sub : UserSubscription) : UserSubscription :=
  let nextReset := calcNextResetTime loc now plan sub.endTime
  if advanceResetTime then renewal sub (if nextReset > 0 then now else 0) nextReset
  else renewal sub sub.lastResetTime sub.nextResetTime

theorem fixedColumns_resetRow (advanceResetTime : Bool) :
    fixedColumns (resetRow loc plan now advanceResetTime sub) = fixedColumns sub := by
  cases advanceResetTime <;> rfl

theorem resetUserSubscriptionTx_row
    (hVersion : 0 ≤ sub.quotaResetVersion ∧ sub.quotaResetVersion < maxInt64) :
    resetUserSubscriptionTx loc sub plan now advanceResetTime db =
      .ok (resetRow loc plan now advanceResetTime sub,
        db.putSubscription (resetRow loc plan now advanceResetTime sub)) := by
  have hFits : ¬ (sub.quotaResetVersion < 0 ∨ sub.quotaResetVersion = maxInt64) := by omega
  have hAdvance : advanceSubscriptionQuotaResetVersion sub db =
      .ok ({ sub with quotaResetVersion := sub.quotaResetVersion + 1 }, db) :=
    Tx.failIf_bind_of_not hFits _
  rw [resetUserSubscriptionTx, Tx.bind_of_ok hAdvance]
  cases advanceResetTime <;> rfl

/-- Other rows, the plans and the fixed columns after writing one row back. -/
theorem get?_putSubscription (hRow : db.subscriptions.get? sub.id = some sub)
    (hFixed : fixedColumns sub' = fixedColumns sub) (id : Int) :
    (db.putSubscription sub').subscriptions.get? id =
      if id = sub.id then some sub' else db.subscriptions.get? id := by
  have hId : sub'.id = sub.id := congrArg Prod.fst hFixed
  rw [Database.putSubscription, Table.get?_put, hId]
  split
  · next h => rw [h, hRow, Option.map_some]
  · rfl

theorem fixedColumns_putSubscription (hRow : db.subscriptions.get? sub.id = some sub)
    (hFixed : fixedColumns sub' = fixedColumns sub) :
    (db.putSubscription sub').subscriptions.rows.map fixedColumns =
      db.subscriptions.rows.map fixedColumns := by
  have hId : sub'.id = sub.id := congrArg Prod.fst hFixed
  exact Table.map_rows_put (hId ▸ hRow) hFixed

theorem resetAllTx_rows (hRows : ∀ s ∈ subs, db.subscriptions.get? s.id = some s)
    (hIds : (subs.map UserSubscription.id).Nodup)
    (hVersions : ∀ s ∈ subs, 0 ≤ s.quotaResetVersion ∧ s.quotaResetVersion < maxInt64) :
    ∃ db', resetAllTx loc plan now advanceResetTime subs db = .ok ((), db') ∧
      db'.plans = db.plans ∧
      db'.subscriptions.rows.map fixedColumns = db.subscriptions.rows.map fixedColumns ∧
      (∀ s ∈ subs, db'.subscriptions.get? s.id =
        some (resetRow loc plan now advanceResetTime s)) ∧
      ∀ id, id ∉ subs.map UserSubscription.id →
        db'.subscriptions.get? id = db.subscriptions.get? id := by
  induction subs generalizing db with
  | nil => exact ⟨db, rfl, rfl, rfl, fun s hs => absurd hs List.not_mem_nil, fun _ _ => rfl⟩
  | cons sub rest ih =>
    obtain ⟨hSub, hRest⟩ := List.forall_mem_cons.mp hRows
    obtain ⟨hVersion, hVersions⟩ := List.forall_mem_cons.mp hVersions
    rw [List.map_cons, List.nodup_cons] at hIds
    have hFixed := @fixedColumns_resetRow loc plan now sub advanceResetTime
    have hGet := get?_putSubscription hSub hFixed
    have hOthers : ∀ s ∈ rest, (db.putSubscription
        (resetRow loc plan now advanceResetTime sub)).subscriptions.get? s.id = some s := by
      intro s hs
      have hNe : s.id ≠ sub.id := fun h => hIds.1 (h ▸ List.mem_map_of_mem hs)
      rw [hGet, if_neg hNe, hRest s hs]
    obtain ⟨db', hOk, hPlans, hCols, hReset, hKept⟩ := ih hOthers hIds.2 hVersions
    refine ⟨db', ?_, hPlans, hCols.trans (fixedColumns_putSubscription hSub hFixed), ?_, ?_⟩
    · exact (Tx.bind_of_ok (resetUserSubscriptionTx_row hVersion) _).trans hOk
    · refine List.forall_mem_cons.mpr ⟨?_, hReset⟩
      rw [hKept sub.id hIds.1, hGet, if_pos rfl]
    · intro id hId
      rw [List.map_cons, List.mem_cons, not_or] at hId
      rw [hKept id hId.2, hGet, if_neg hId.1]

/-- An administrator's reset, as it meets each row. -/
theorem resetSelected_spec (loc : Location) (plan : SubscriptionPlan) (now : Int)
    (advanceResetTime : Bool) (le : UserSubscription → UserSubscription → Prop) [DecidableRel le]
    (hVersions : ∀ s ∈ db.subscriptions.rows, p s = true →
      0 ≤ s.quotaResetVersion ∧ s.quotaResetVersion < maxInt64) :
    ∃ db', resetAllTx loc plan now advanceResetTime
        ((db.subscriptions.rows.filter p).insertionSort le) db = .ok ((), db') ∧
      db'.plans = db.plans ∧
      db'.subscriptions.rows.map fixedColumns = db.subscriptions.rows.map fixedColumns ∧
      ∀ id, db'.subscriptions.get? id = (db.subscriptions.get? id).map fun s =>
        if p s then resetRow loc plan now advanceResetTime s else s := by
  have hPerm := List.perm_insertionSort le (db.subscriptions.rows.filter p)
  have hMem : ∀ s, s ∈ (db.subscriptions.rows.filter p).insertionSort le ↔
      s ∈ db.subscriptions.rows ∧ p s = true := fun s => by
    rw [hPerm.mem_iff, List.mem_filter]
  obtain ⟨db', hOk, hPlans, hCols, hReset, hKept⟩ := resetAllTx_rows
    (fun s hs => Table.get?_of_mem ((hMem s).mp hs).1)
    ((hPerm.map _).nodup_iff.mpr
      ((List.filter_sublist.map UserSubscription.id).nodup db.subscriptions.nodup))
    (fun s hs => hVersions s ((hMem s).mp hs).1 ((hMem s).mp hs).2)
  refine ⟨db', hOk, hPlans, hCols, fun id => ?_⟩
  cases hRow : db.subscriptions.get? id with
  | none =>
    rw [hKept id, hRow, Option.map_none]
    intro hId
    obtain ⟨s, hs, rfl⟩ := List.mem_map.mp hId
    rw [Table.get?_of_mem ((hMem s).mp hs).1] at hRow
    cases hRow
  | some s =>
    have hId : s.id = id := Table.key_of_get? hRow
    have hIn := Table.mem_of_get? hRow
    rw [Option.map_some]
    by_cases hp : p s = true
    · rw [if_pos hp, ← hId, hReset s ((hMem s).mpr ⟨hIn, hp⟩)]
    · rw [if_neg hp, hKept id, hRow]
      intro hSel
      obtain ⟨s', hs', hId'⟩ := List.mem_map.mp hSel
      have hGet := Table.get?_of_mem ((hMem s').mp hs').1
      rw [hId', hRow] at hGet
      cases hGet
      exact hp ((hMem s).mp hs').2

def resetBy (loc : Location) (plan? : Option SubscriptionPlan) (now : Int)
    (advanceResetTime : Bool) (selected : UserSubscription → Prop) [DecidablePred selected]
    (sub : UserSubscription) : UserSubscription :=
  match plan? with
  | none => sub
  | some plan => if selected sub then resetRow loc plan now advanceResetTime sub else sub

theorem resetBy_none [DecidablePred selected] : resetBy loc none now advanceResetTime selected = id := rfl

theorem resetBy_some [DecidablePred selected] :
    resetBy loc (some plan) now advanceResetTime selected sub =
      if selected sub then resetRow loc plan now advanceResetTime sub else sub := rfl

structure AdminEffect (loc : Location) (plan? : Option SubscriptionPlan) (now : Int)
    (advanceResetTime : Bool) (selected : UserSubscription → Prop) [DecidablePred selected]
    (db db' : Database) : Prop where
  plans : db'.plans = db.plans
  columns : db'.subscriptions.rows.map fixedColumns = db.subscriptions.rows.map fixedColumns
  rows : ∀ id, db'.subscriptions.get? id =
    (db.subscriptions.get? id).map (resetBy loc plan? now advanceResetTime selected)

section Admin

variable {selected : UserSubscription → Prop} [DecidablePred selected]
  {plan? : Option SubscriptionPlan} {userId planId : Int}

theorem adminEffect_none : AdminEffect loc none now advanceResetTime selected db db := by
  refine ⟨rfl, rfl, fun id => ?_⟩
  rw [resetBy_none, Option.map_id]
  rfl

theorem adminEffect_of_unselected (h : ∀ s ∈ db.subscriptions.rows, ¬ selected s) :
    AdminEffect loc (some plan) now advanceResetTime selected db db := by
  refine ⟨rfl, rfl, fun id => ?_⟩
  cases hRow : db.subscriptions.get? id with
  | none => rfl
  | some s => rw [Option.map_some, resetBy_some, if_neg (h s (Table.mem_of_get? hRow))]

def planRow (db : Database) (planId : Int) : Option SubscriptionPlan :=
  if planId ≤ 0 then none else (db.plans.get? planId).map normalizeDefaults

theorem getSubscriptionPlanByIdTx_cases (db : Database) (planId : Int) :
    (∃ e, planRow db planId = none ∧ getSubscriptionPlanByIdTx planId db = .error e) ∨
      ∃ plan, planRow db planId = some plan ∧ plan.id = planId ∧
        getSubscriptionPlanByIdTx planId db = .ok (plan, db) := by
  unfold planRow getSubscriptionPlanByIdTx
  by_cases hId : planId ≤ 0
  · rw [if_pos hId]
    exact .inl ⟨_, rfl, Tx.failIf_bind_of hId _⟩
  · rw [if_neg hId, Tx.failIf_bind_of_not hId, Tx.read_bind_apply]
    cases hPlan : db.plans.get? planId with
    | none => exact .inl ⟨_, rfl, rfl⟩
    | some plan =>
      refine .inr ⟨normalizeDefaults plan, rfl, ?_, rfl⟩
      rw [normalizeDefaults_id]
      exact Table.key_of_get? hPlan

/-- The rows that an administrator's reset selects, in the order it takes them. -/
theorem selected_effect (loc : Location) (plan : SubscriptionPlan) (now : Int)
    (advanceResetTime : Bool) (le : UserSubscription → UserSubscription → Prop) [DecidableRel le]
    (hVersions : ∀ s ∈ db.subscriptions.rows, selected s →
      0 ≤ s.quotaResetVersion ∧ s.quotaResetVersion < maxInt64) :
    ∃ db', resetAllTx loc plan now advanceResetTime
        ((db.subscriptions.rows.filter fun s => selected s).insertionSort le) db = .ok ((), db') ∧
      AdminEffect loc (some plan) now advanceResetTime selected db db' := by
  obtain ⟨db', hOk, hPlans, hCols, hRows⟩ := resetSelected_spec loc plan now advanceResetTime le
    (p := fun s => selected s) (fun s hs hp => hVersions s hs (of_decide_eq_true hp))
  refine ⟨db', hOk, hPlans, hCols, fun id => ?_⟩
  simp only [hRows id, decide_eq_true_eq]
  rfl

theorem adminResetPlanSubscriptions_effect
    (hVersions : ∀ s ∈ db.subscriptions.rows, selectedOfPlan planId now s →
      0 ≤ s.quotaResetVersion ∧ s.quotaResetVersion < maxInt64) :
    AdminEffect loc (planRow db planId) now advanceResetTime (selectedOfPlan planId now) db
      ((adminResetPlanSubscriptions loc planId advanceResetTime now).commit db).1 := by
  by_cases hPlanId : planId ≤ 0
  · have hRun : adminResetPlanSubscriptions loc planId advanceResetTime now db = .error _ :=
      Tx.failIf_bind_of hPlanId _
    rw [Tx.commit_of_error hRun, planRow, if_pos hPlanId]
    exact adminEffect_none
  · rcases getSubscriptionPlanByIdTx_cases db planId with
      ⟨e, hNone, hPlan⟩ | ⟨plan, hSome, rfl, hPlan⟩
    · have hRun : adminResetPlanSubscriptions loc planId advanceResetTime now db = .error e := by
        rw [adminResetPlanSubscriptions, Tx.failIf_bind_of_not hPlanId, Tx.bind_of_error hPlan]
      rw [Tx.commit_of_error hRun, hNone]
      exact adminEffect_none
    · obtain ⟨db', hOk, hEffect⟩ := selected_effect loc plan now advanceResetTime userThenEndsBefore
        hVersions
      obtain ⟨n, hRun⟩ : ∃ n, adminResetPlanSubscriptions loc plan.id advanceResetTime now db =
          .ok (n, db') := by
        rw [adminResetPlanSubscriptions, Tx.failIf_bind_of_not hPlanId, Tx.bind_of_ok hPlan,
          Tx.read_bind_apply]
        exact ⟨_, Tx.bind_of_ok hOk _⟩
      rw [Tx.commit_of_ok hRun, hSome]
      exact hEffect

theorem adminResetUserSubscriptionsByPlan_effect (hUserId : 0 < userId)
    (hVersions : ∀ s ∈ db.subscriptions.rows, selectedOfUser userId planId now s →
      0 ≤ s.quotaResetVersion ∧ s.quotaResetVersion < maxInt64) :
    AdminEffect loc (planRow db planId) now advanceResetTime (selectedOfUser userId planId now) db
      ((adminResetUserSubscriptionsByPlan loc userId planId advanceResetTime now).commit db).1 := by
  by_cases hPlanId : planId ≤ 0
  · have hRun : adminResetUserSubscriptionsByPlan loc userId planId advanceResetTime now db =
        .error _ := Tx.failIf_bind_of (.inr hPlanId) _
    rw [Tx.commit_of_error hRun, planRow, if_pos hPlanId]
    exact adminEffect_none
  · have hIds : ¬ (userId ≤ 0 ∨ planId ≤ 0) := by omega
    rcases getSubscriptionPlanByIdTx_cases db planId with
      ⟨e, hNone, hPlan⟩ | ⟨plan, hSome, rfl, hPlan⟩
    · have hRun : adminResetUserSubscriptionsByPlan loc userId planId advanceResetTime now db =
          .error e := by
        rw [adminResetUserSubscriptionsByPlan, Tx.failIf_bind_of_not hIds, Tx.bind_of_error hPlan]
      rw [Tx.commit_of_error hRun, hNone]
      exact adminEffect_none
    · rw [hSome]
      by_cases hEmpty : ((db.subscriptions.rows.filter fun s =>
          selectedOfUser userId plan.id now s).insertionSort endsBefore) = []
      · obtain ⟨e, hRun⟩ : ∃ e, adminResetUserSubscriptionsByPlan loc userId plan.id advanceResetTime
            now db = .error e := by
          rw [adminResetUserSubscriptionsByPlan, Tx.failIf_bind_of_not hIds, Tx.bind_of_ok hPlan,
            Tx.read_bind_apply]
          exact ⟨_, Tx.failIf_bind_of hEmpty _⟩
        rw [Tx.commit_of_error hRun]
        refine adminEffect_of_unselected fun s hs hSel => ?_
        have hMem : s ∈ (db.subscriptions.rows.filter fun s =>
            selectedOfUser userId plan.id now s).insertionSort endsBefore :=
          (List.mem_insertionSort _).mpr (List.mem_filter.mpr ⟨hs, decide_eq_true hSel⟩)
        rw [hEmpty] at hMem
        cases hMem
      · obtain ⟨db', hOk, hEffect⟩ := selected_effect loc plan now advanceResetTime endsBefore hVersions
        obtain ⟨n, hRun⟩ : ∃ n, adminResetUserSubscriptionsByPlan loc userId plan.id
            advanceResetTime now db = .ok (n, db') := by
          rw [adminResetUserSubscriptionsByPlan, Tx.failIf_bind_of_not hIds, Tx.bind_of_ok hPlan,
            Tx.read_bind_apply]
          exact ⟨_, (Tx.failIf_bind_of_not hEmpty _).trans (Tx.bind_of_ok hOk _)⟩
        rw [Tx.commit_of_ok hRun]
        exact hEffect

end Admin

/-! ### The scheduler -/

/-- What a check makes of a row depends on nothing else in the database. -/
theorem maybeResetUserSubscriptionWithPlanTx_indifferent :
    (maybeResetUserSubscriptionWithPlanTx loc fuel sub plan now).Indifferent := by
  unfold maybeResetUserSubscriptionWithPlanTx
  refine .ite (.pure _) (.ite (.pure _) (.bind (.require _ _) fun loop => ?_))
  refine .ite (.bind (.bind (.failIf _ _) fun _ => .pure _) fun _ => ?_) (.ite ?_ (.pure _))
  · exact .bind (.write _) fun _ => .pure _
  · exact .bind (.write _) fun _ => .pure _

theorem getSubscriptionResetPlanTx_ok
    (h : getSubscriptionResetPlanTx sub db = .ok (plan, db')) : db' = db := by
  simp only [getSubscriptionResetPlanTx, Tx.failIf_bind_ok_iff] at h
  rcases Tx.ite_ok_iff.mp h.2 with ⟨-, hOk⟩ | ⟨-, hOk⟩
  · exact (Tx.pure_ok hOk).2.symm
  · exact getSubscriptionPlanByIdTx_ok hOk

theorem getSubscriptionResetPlanTx_indifferent (h : sub.quotaResetPeriod ≠ .blank) :
    (getSubscriptionResetPlanTx sub).Indifferent := by
  unfold getSubscriptionResetPlanTx
  rw [if_pos h]
  exact .bind (.failIf _ _) fun _ => .pure _

def resetDueRow (loc : Location) (fuel : Nat) (sub : UserSubscription) (now : Int) :
    DbTx UserSubscription := do
  let plan ← getSubscriptionResetPlanTx sub
  if 0 < sub.nextResetTime ∧ sub.nextResetTime ≤ now then
    maybeResetUserSubscriptionWithPlanTx loc fuel sub plan now
  else pure sub

theorem resetDueOne_of_none {id : Int} (hRow : db.subscriptions.get? id = none) :
    ((resetDueOne loc fuel id now).commit db).1 = db := by
  have hRun : resetDueOne loc fuel id now db = .ok (false, db) := by
    rw [resetDueOne, Tx.read_bind_apply, hRow]
    rfl
  rw [Tx.commit_of_ok hRun]

theorem resetDueOne_of_row {id : Int} (hRow : db.subscriptions.get? id = some sub) :
    ((resetDueOne loc fuel id now).commit db).1 = ((resetDueRow loc fuel sub now).commit db).1 := by
  have hOne : resetDueOne loc fuel id now db =
      (getSubscriptionResetPlanTx sub >>= fun plan =>
        resetDueSubscriptionTx loc fuel id plan now) db := by
    rw [resetDueOne, Tx.read_bind_apply, hRow]
  cases hPlan : getSubscriptionResetPlanTx sub db with
  | error e =>
    have hRowRun : resetDueRow loc fuel sub now db = .error e := Tx.bind_of_error hPlan _
    rw [Tx.commit_of_error (hOne.trans (Tx.bind_of_error hPlan _)), Tx.commit_of_error hRowRun]
  | ok result =>
    obtain ⟨plan, db'⟩ := result
    obtain rfl := getSubscriptionResetPlanTx_ok hPlan
    have hRowRun : resetDueRow loc fuel sub now db' = _ := Tx.bind_of_ok hPlan _
    have hOneRun := hOne.trans (Tx.bind_of_ok hPlan _)
    rw [resetDueSubscriptionTx, Tx.read_bind_apply, hRow] at hOneRun
    by_cases hDue : 0 < sub.nextResetTime ∧ sub.nextResetTime ≤ now
    · have hLocked : (some sub).filter (fun s => 0 < s.nextResetTime ∧ s.nextResetTime ≤ now) =
          some sub := if_pos (decide_eq_true hDue)
      rw [hLocked] at hOneRun
      rw [if_pos hDue] at hRowRun
      cases hReset : maybeResetUserSubscriptionWithPlanTx loc fuel sub plan now db' with
      | error =>
        rw [Tx.commit_of_error (hOneRun.trans (Tx.bind_of_error hReset _)),
          Tx.commit_of_error (hRowRun.trans hReset)]
      | ok after =>
        obtain ⟨sub', after⟩ := after
        rw [Tx.commit_of_ok (hOneRun.trans (Tx.bind_of_ok hReset _)),
          Tx.commit_of_ok (hRowRun.trans hReset)]
    · have hLocked : (some sub).filter (fun s => 0 < s.nextResetTime ∧ s.nextResetTime ≤ now) =
          none := if_neg fun h => hDue (of_decide_eq_true h)
      rw [hLocked] at hOneRun
      rw [if_neg hDue] at hRowRun
      rw [Tx.commit_of_ok hOneRun, Tx.commit_of_ok hRowRun]

/-- A call that reads one row and writes back what becomes of it. -/
structure RowCall (id : Int) (call : Database → Database)
    (onRow : UserSubscription → DbTx UserSubscription) : Prop where
  missing : ∀ db, db.subscriptions.get? id = none → call db = db
  found : ∀ db sub, db.subscriptions.get? id = some sub → call db = ((onRow sub).commit db).1
  writes : ∀ db sub sub' db', db.subscriptions.get? sub.id = some sub →
    onRow sub db = .ok (sub', db') →
    db' = db.putSubscription sub' ∧ fixedColumns sub' = fixedColumns sub ∧
      sub'.quotaResetPeriod = sub.quotaResetPeriod
  indifferent : ∀ sub, sub.quotaResetPeriod ≠ .blank → (onRow sub).Indifferent

theorem resetDueOne_rowCall (loc : Location) (fuel : Nat) (id now : Int) :
    RowCall id (fun db => ((resetDueOne loc fuel id now).commit db).1)
      (fun sub => resetDueRow loc fuel sub now) where
  missing _ hRow := resetDueOne_of_none hRow
  found _ _ hRow := resetDueOne_of_row hRow
  writes db sub sub' db' hRow h := by
    rw [resetDueRow, Tx.bind_ok_iff] at h
    obtain ⟨plan, db₁, hPlan, h⟩ := h
    obtain rfl := getSubscriptionResetPlanTx_ok hPlan
    rcases Tx.ite_ok_iff.mp h with ⟨-, hOk⟩ | ⟨-, hOk⟩
    · obtain ⟨hReset, rfl⟩ := maybeResetUserSubscriptionWithPlanTx_ok hOk hRow
      obtain ⟨_, _, _, _, _, rfl⟩ := hReset.frame
      exact ⟨rfl, rfl, rfl⟩
    · cases hOk
      refine ⟨?_, rfl, rfl⟩
      rw [Database.putSubscription, Table.put_of_get? hRow]
  indifferent sub hStored := by
    refine .bind (getSubscriptionResetPlanTx_indifferent hStored) fun plan => .ite ?_ (.pure _)
    exact maybeResetUserSubscriptionWithPlanTx_indifferent

/-! ### Usage -/

def consumeRowTx (delta : Int) (sub : UserSubscription) : DbTx UserSubscription := do
  Tx.failIf (delta > 0 ∧ sub.amountUsed > maxInt64 - delta)
    (.new "subscription used amount overflow")
  let newUsed := max (int64 (sub.amountUsed + delta)) 0
  Tx.failIf (sub.amountTotal > 0 ∧ newUsed > sub.amountTotal)
    (.new ("subscription used exceeds total, used=" ++ toString newUsed ++ " total=" ++
      toString sub.amountTotal))
  let totalUsed := max sub.amountUsedTotal sub.amountUsed
  Tx.failIf (delta > 0 ∧ totalUsed > maxInt64 - delta)
    (.new "subscription cumulative used amount overflow")
  let newTotalUsed := int64 (totalUsed + delta)
  Tx.failIf (newTotalUsed < 0) (.new "subscription cumulative used amount underflow")
  let sub := { sub with amountUsed := newUsed, amountUsedTotal := newTotalUsed }
  Tx.write (Database.putSubscription sub)
  pure sub

def postConsumeUserSubscriptionDeltaTx (userSubscriptionId delta : Int) :
    DbTx UserSubscription := do
  Tx.failIf (userSubscriptionId ≤ 0) (.new "invalid subscription delta args")
  let sub? ← Tx.read fun db => db.subscriptions.get? userSubscriptionId
  let sub ← Tx.require sub? .recordNotFound
  consumeRowTx delta sub

theorem postConsume_rowCall {id : Int} (hId : 0 < id) (delta : Int) :
    RowCall id (fun db => ((postConsumeUserSubscriptionDeltaTx id delta).commit db).1)
      (consumeRowTx delta) where
  missing db hRow := by
    have hRun : postConsumeUserSubscriptionDeltaTx id delta db = .error .recordNotFound := by
      rw [postConsumeUserSubscriptionDeltaTx, Tx.failIf_bind_of_not (not_le.mpr hId),
        Tx.read_bind_apply, hRow]
      rfl
    exact congrArg Prod.fst (Tx.commit_of_error hRun)
  found db sub hRow := by
    have hRun : postConsumeUserSubscriptionDeltaTx id delta db = consumeRowTx delta sub db := by
      rw [postConsumeUserSubscriptionDeltaTx, Tx.failIf_bind_of_not (not_le.mpr hId),
        Tx.read_bind_apply, hRow]
      rfl
    simp only [Tx.commit, hRun]
  writes db sub sub' db' hRow h := by
    simp only [consumeRowTx, Tx.failIf_bind_ok_iff, Tx.write_bind_apply, Tx.pure_ok_iff] at h
    obtain ⟨-, -, -, -, rfl, rfl⟩ := h
    exact ⟨rfl, rfl, rfl⟩
  indifferent sub _ := by
    unfold consumeRowTx
    refine .bind (.failIf _ _) fun _ => .bind (.failIf _ _) fun _ => .bind (.failIf _ _) fun _ => ?_
    exact .bind (.failIf _ _) fun _ => .bind (.write _) fun _ => .pure _

end Rows

end XyApi.Subscription

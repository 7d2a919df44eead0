import XyApi.Billing.Epoch

/-!
Histories of billing transactions, resets and purchases. The requests that
reserved quota of a subscription since its last reset are recorded beside the
database, by watching the steps alone; the usage columns are shown to agree with
that record after every history.
-/

namespace XyApi.Billing

open Lib Lib.Calendar Subscription

/-! ### Steps -/

/-- What can happen to subscriptions: a billing transaction, the scheduled reset of
one subscription, the two administrator resets, a purchase, and edits of plans. -/
inductive SubscriptionStep
  | billing (t : BillingTx)
  | resetDue (fuel : Nat) (id : Int) (plan : SubscriptionPlan) (now : Int)
  | resetUser (userId planId : Int) (advanceResetTime : Bool) (now : Int)
  | resetPlan (planId : Int) (advanceResetTime : Bool) (now : Int)
  | purchase (userId : Int) (plan : SubscriptionPlan) (source : String)
      (excludeOrderId excludePaymentOrderId now : Int)
  | editPlans (plans : Table SubscriptionPlan.id)

def SubscriptionStep.step (loc : Location) (db : Database) : SubscriptionStep → Database
  | billing t => t.step loc db
  | resetDue fuel id plan now => ((resetDueSubscriptionTx loc fuel id plan now).commit db).1
  | resetUser userId planId advanceResetTime now =>
    ((adminResetUserSubscriptionsByPlan loc userId planId advanceResetTime now).commit db).1
  | resetPlan planId advanceResetTime now =>
    ((adminResetPlanSubscriptions loc planId advanceResetTime now).commit db).1
  | purchase userId plan source excludeOrderId excludePaymentOrderId now =>
    ((createUserSubscriptionFromPlanTx loc userId plan source excludeOrderId
      excludePaymentOrderId now).commit db).1
  | editPlans plans => { db with plans := plans }

def versionOf (db : Database) (sid : Int) : Option Int :=
  (db.subscriptions.get? sid).map UserSubscription.quotaResetVersion

def openedOn (db db' : Database) (sid : Int) : List String :=
  (db'.reservations.rows.filter fun r =>
    OnSubscription sid r ∧ db.reservations.get? r.requestId = none).map BillingReservation.requestId

/-- A database together with the requests of the current period of each
subscription. -/
structure EpochHistory where
  db : Database
  current : Int → List String

def EpochHistory.start (db : Database) : EpochHistory := ⟨db, fun _ => []⟩

/-- A reset empties the record of its subscription; a new reservation joins it. -/
def EpochHistory.step (loc : Location) (h : EpochHistory) (s : SubscriptionStep) : EpochHistory :=
  let db' := s.step loc h.db
  { db := db'
    current := fun sid =>
      (if versionOf db' sid = versionOf h.db sid then h.current sid else []) ++
        openedOn h.db db' sid }

/-! ### What a step does to rows and versions -/

section Frames

variable {loc : Location} {db db' : Database} {rid : String} {r r' : BillingReservation}
  {subs subs' : Table UserSubscription.id}

/-- A column of a subscription that a reservation's movement does not reach. -/
theorem SubscriptionMoved.map_eq {β : Type} {delta periodDelta : Int} {f : UserSubscription → β}
    (h : SubscriptionMoved subs r delta periodDelta subs')
    (hf : ∀ sub used total, subs.get? r.subscriptionId = some sub →
      (used = sub.amountUsed ∨ SameEpoch sub r) →
      f { sub with amountUsed := used, amountUsedTotal := total } = f sub) (sid : Int) :
    (subs'.get? sid).map f = (subs.get? sid).map f := by
  cases h with
  | unchanged => rfl
  | moved sub hSub =>
    have hId : sub.id = r.subscriptionId := Table.key_of_get? hSub
    refine Table.map_get?_put (b := sub) (by exact hId ▸ hSub) (hf sub _ _ hSub ?_) sid
    by_cases hEpoch : SameEpoch sub r
    · exact .inr hEpoch
    · exact .inl (by simp [hEpoch])

theorem Booked.map_subscription_eq {β : Type} {delta : Int} {f : UserSubscription → β}
    (h : Booked db r r' delta db')
    (hf : ∀ sub used total, db.subscriptions.get? r.subscriptionId = some sub →
      (used = sub.amountUsed ∨ SameEpoch sub r) →
      f { sub with amountUsed := used, amountUsedTotal := total } = f sub) (sid : Int) :
    (db'.subscriptions.get? sid).map f = (db.subscriptions.get? sid).map f := by
  obtain ⟨_, _, _, _, hFunding, _, _⟩ := h
  cases hFunding with
  | wallet => rfl
  | subscription _ hMoved => exact hMoved.map_eq hf sid

/-- A transition on a request that has its row moves at most the usage columns. -/
theorem Transition.map_subscription_eq {β : Type} {f : UserSubscription → β}
    (h : Transition loc rid db db') (hRow : db.reservations.get? rid = some r)
    (hf : ∀ sub used total, db.subscriptions.get? r.subscriptionId = some sub →
      (used = sub.amountUsed ∨ SameEpoch sub r) →
      f { sub with amountUsed := used, amountUsedTotal := total } = f sub) (sid : Int) :
    (db'.subscriptions.get? sid).map f = (db.subscriptions.get? sid).map f := by
  cases h with
  | opened fresh f t hId hFresh hInsert =>
    have hNone : db.reservations.get? fresh.requestId = none := (Table.rows_insert? hInsert).2
    rw [hId, hRow] at hNone
    cases hNone
  | adjusted row targetQuota now hOld hStatus hTarget hBooked =>
    cases hOld.symm.trans hRow
    exact hBooked.map_subscription_eq hf sid
  | refunded row now hOld hStatus hBooked hReleased =>
    cases hOld.symm.trans hRow
    rw [hReleased.users_eq.1]
    exact hBooked.map_subscription_eq hf sid
  | settled row now hOld hStatus hLedger hReleased => rw [hReleased.users_eq.1]
  | noted => rfl
  | shortfall row => rw [(freezeUser_users_eq row.userId _).1]
  | jobs => rfl
  | resolutions => rfl

/-- The row of a request keeps its period. -/
theorem Transition.row_kept (h : Transition loc rid db db')
    (hRow : db.reservations.get? rid = some r) :
    ∃ r', db'.reservations.get? rid = some r' ∧ SameEpochColumns r r' := by
  rcases h.reservations_cases with hSame | ⟨fresh, -, hId, hInsert⟩ | ⟨old, row, hOld, hStep, hPut⟩
  · exact ⟨r, hSame ▸ hRow, rfl, rfl, rfl, rfl, rfl⟩
  · have hNone : db.reservations.get? fresh.requestId = none := (Table.rows_insert? hInsert).2
    rw [hId, hRow] at hNone
    cases hNone
  · cases hOld.symm.trans hRow
    exact ⟨row, hPut ▸ get?_put_row hRow hStep.requestId_eq, hStep.sameEpochColumns⟩

def VersionsLe (subs subs' : Table UserSubscription.id) : Prop :=
  ∀ sid sub, subs.get? sid = some sub → ∃ sub', subs'.get? sid = some sub' ∧
    sub.quotaResetVersion ≤ sub'.quotaResetVersion

theorem VersionsLe.refl (subs : Table UserSubscription.id) : VersionsLe subs subs :=
  fun _ sub hSub => ⟨sub, hSub, Int.le_refl _⟩

theorem VersionsLe.trans (h₁ : VersionsLe subs subs₁) (h₂ : VersionsLe subs₁ subs') :
    VersionsLe subs subs' := by
  intro sid sub hSub
  obtain ⟨sub₁, hSub₁, hLe₁⟩ := h₁ sid sub hSub
  obtain ⟨sub₂, hSub₂, hLe₂⟩ := h₂ sid sub₁ hSub₁
  exact ⟨sub₂, hSub₂, hLe₁.trans hLe₂⟩

theorem VersionsLe.put (hSub : subs.get? sub'.id = some sub)
    (hLe : sub.quotaResetVersion ≤ sub'.quotaResetVersion) : VersionsLe subs (subs.put sub') := by
  intro sid x hx
  by_cases hsid : sid = sub'.id
  · subst hsid
    cases hSub.symm.trans hx
    exact ⟨sub', Table.get?_put_self hSub, hLe⟩
  · exact ⟨x, (Table.get?_put_of_ne hsid).trans hx, Int.le_refl _⟩

theorem VersionsLe.of_versionOf (h : ∀ sid, versionOf db' sid = versionOf db sid) :
    VersionsLe db.subscriptions db'.subscriptions := by
  intro sid sub hSub
  have hSame : versionOf db' sid = some sub.quotaResetVersion := by
    rw [h, versionOf, hSub, Option.map_some]
  obtain ⟨sub', hSub', hVersion⟩ := Option.map_eq_some_iff.mp hSame
  exact ⟨sub', hSub', hVersion.ge⟩

theorem versionsLe_of_epochSteps (h : EpochSteps loc subs subs') : VersionsLe subs subs' := by
  refine h.preserve (P := VersionsLe subs) (fun subs₁ sub sub' hSub hStep hLe => ?_) (.refl subs)
  exact hLe.trans (.put (hStep.id_eq ▸ hSub) hStep.version_le)

/-- The transition that opens a request takes down the version it leaves. -/
theorem Transition.opened_version (h : Transition loc rid db db')
    (hNone : db.reservations.get? rid = none) :
    VersionsLe db.subscriptions db'.subscriptions ∧
      ∀ r', db'.reservations.get? rid = some r' → r'.fundingSource = .subscription →
        versionOf db' r'.subscriptionId = some r'.subscriptionResetVersion := by
  have hAbsurd {row : BillingReservation} {C : Prop} (hRow : db.reservations.get? rid = some row) :
      C := by
    rw [hNone] at hRow
    cases hRow
  cases h with
  | opened r f t hId hFresh hInsert hFunding =>
    have hGet := Table.get?_insert? hInsert rid
    rw [if_pos hId.symm] at hGet
    cases hFunding with
    | wallet hSource =>
      refine ⟨.refl _, fun r' hRow hSource' => ?_⟩
      rw [show r' = r by simpa [hGet] using hRow.symm, hSource] at hSource'
      cases hSource'
    | subscription sub _ hCharged hSubId _ hVersion =>
      obtain ⟨subs₁, hRenewals, hSub, rfl⟩ := hCharged.renewals
      refine ⟨(versionsLe_of_epochSteps hRenewals.epochSteps).trans
        (.put (by exact hSub) (by exact Int.le_refl _)), fun r' hRow _ => ?_⟩
      rw [show r' = r by simpa [hGet] using hRow.symm, hSubId, hVersion, versionOf,
        Table.get?_put_self (by exact hSub), Option.map_some]
  | adjusted _ _ _ hRow => exact hAbsurd hRow
  | refunded _ _ hRow => exact hAbsurd hRow
  | settled _ _ hRow => exact hAbsurd hRow
  | noted _ _ hRow => exact hAbsurd hRow
  | shortfall _ _ _ _ _ _ _ hRow => exact hAbsurd hRow
  | jobs => exact ⟨.refl _, fun _ hRow => hAbsurd hRow⟩
  | resolutions => exact ⟨.refl _, fun _ hRow => hAbsurd hRow⟩

/-- What a step on the request `rid` makes of rows and versions: rows stay in their
period, and a new row is of the period that the step leaves. -/
structure EpochFrame (rid : String) (db db' : Database) : Prop where
  versions : VersionsLe db.subscriptions db'.subscriptions
  kept : ∀ r, db.reservations.get? rid = some r →
    ∃ r', db'.reservations.get? rid = some r' ∧ SameEpochColumns r r'
  rows : ∀ id r', db'.reservations.get? id = some r' →
    (∃ r, db.reservations.get? id = some r ∧ SameEpochColumns r r') ∨
      (id = rid ∧ db.reservations.get? id = none ∧ (r'.fundingSource = .subscription →
        versionOf db' r'.subscriptionId = some r'.subscriptionResetVersion))

theorem SameEpochColumns.refl (r : BillingReservation) : SameEpochColumns r r :=
  ⟨rfl, rfl, rfl, rfl, rfl⟩

theorem SameEpochColumns.trans (h₁ : SameEpochColumns r r₁) (h₂ : SameEpochColumns r₁ r') :
    SameEpochColumns r r' :=
  ⟨h₂.1.trans h₁.1, h₂.2.1.trans h₁.2.1, h₂.2.2.1.trans h₁.2.2.1, h₂.2.2.2.1.trans h₁.2.2.2.1,
    h₂.2.2.2.2.trans h₁.2.2.2.2⟩

theorem EpochFrame.of_same_rows (hRows : db'.reservations = db.reservations)
    (hVersions : VersionsLe db.subscriptions db'.subscriptions) : EpochFrame rid db db' :=
  ⟨hVersions, fun r hRow => ⟨r, hRows ▸ hRow, .refl r⟩,
    fun _ r' hRow => .inl ⟨r', hRows ▸ hRow, .refl r'⟩⟩

theorem EpochFrame.tail {db₁ : Database} (h : EpochFrame rid db db₁)
    (hStep : Transition loc rid db₁ db') : EpochFrame rid db db' := by
  cases hRid : db₁.reservations.get? rid with
  | some =>
    have hVersions (sid : Int) : versionOf db' sid = versionOf db₁ sid :=
      hStep.map_subscription_eq hRid (fun _ _ _ _ _ => rfl) sid
    obtain ⟨row', hRow', hColumns⟩ := hStep.row_kept hRid
    refine ⟨h.versions.trans (.of_versionOf hVersions), fun r hr => ?_, fun id r' hr' => ?_⟩
    · obtain ⟨r₁, hr₁, hSame⟩ := h.kept r hr
      rw [hRid, Option.some.injEq] at hr₁
      exact ⟨row', hRow', hSame.trans (hr₁ ▸ hColumns)⟩
    · have hBefore : ∃ r₁, db₁.reservations.get? id = some r₁ ∧ SameEpochColumns r₁ r' := by
        rcases hStep.row_cases hr' with hOld | ⟨rfl, ⟨-, hNone⟩ | ⟨r₁, hOld, hRowStep⟩⟩
        · exact ⟨r', hOld, .refl r'⟩
        · simp [hRid] at hNone
        · exact ⟨r₁, hOld, hRowStep.sameEpochColumns⟩
      obtain ⟨r₁, hr₁, hSame⟩ := hBefore
      rcases h.rows id r₁ hr₁ with ⟨r, hr, hFirst⟩ | ⟨hId, hNone, hVersion⟩
      · exact .inl ⟨r, hr, hFirst.trans hSame⟩
      · refine .inr ⟨hId, hNone, fun hSource => ?_⟩
        rw [hVersions, hSame.2.2.1, hSame.2.2.2.2]
        exact hVersion (hSame.2.1 ▸ hSource)
  | none =>
    obtain ⟨hVersions, hFresh⟩ := hStep.opened_version hRid
    have hNone : db.reservations.get? rid = none := by
      cases hRow : db.reservations.get? rid with
      | none => rfl
      | some r =>
        obtain ⟨r₁, hr₁, -⟩ := h.kept r hRow
        simp [hRid] at hr₁
    refine ⟨h.versions.trans hVersions, fun r hr => by simp [hNone] at hr, fun id r' hr' => ?_⟩
    by_cases hId : id = rid
    · subst hId
      exact .inr ⟨rfl, hNone, hFresh r' hr'⟩
    · rw [Transitions.frame (.single hStep) hId] at hr'
      rcases h.rows id r' hr' with hOld | ⟨hId', -⟩
      · exact .inl hOld
      · exact absurd hId' hId

theorem Transitions.epochFrame (h : Transitions loc rid db db') : EpochFrame rid db db' :=
  h.preserve (P := EpochFrame rid db) (fun _ _ hStep hFrame => hFrame.tail hStep)
    (.of_same_rows rfl (.refl _))

end Frames

/-! ### Resets and purchases -/

section Steps

variable {loc : Location} {db db' : Database}

/-- A step keeps the columns in agreement and rows in their periods. -/
def EpochKept (loc : Location) (db db' : Database) : Prop :=
  EpochsOk loc db' ∧ ∃ rid, EpochFrame rid db db'

theorem EpochKept.refl (h : EpochsOk loc db) : EpochKept loc db db :=
  ⟨h, "", .of_same_rows rfl (.refl _)⟩

theorem epochKept_of_resets {α : Type} {x : DbTx α} (h : EpochsOk loc db)
    (hx : ∀ a db', x db = .ok (a, db') → ∃ subs', EpochSteps loc db.subscriptions subs' ∧
      db' = { db with subscriptions := subs' }) : EpochKept loc db (x.commit db).1 := by
  refine Tx.commit_preserves (P := EpochKept loc db) (.refl h) fun a db' hOk => ?_
  obtain ⟨subs', hSteps, rfl⟩ := hx a db' hOk
  exact ⟨h.resets hSteps, "", .of_same_rows rfl (versionsLe_of_epochSteps hSteps)⟩

/-- No reservation names a subscription before it exists. -/
theorem epochKept_of_purchase (h : EpochsOk loc db) (hNew : NewSubscription sub)
    (hInsert : db.subscriptions.insert? sub = some subs) :
    EpochKept loc db { db with users := users, subscriptions := subs } := by
  have hNone : db.subscriptions.get? sub.id = none := (Table.rows_insert? hInsert).2
  have hGet := Table.get?_insert? hInsert
  have hOld {sid : Int} {x : UserSubscription} (hx : db.subscriptions.get? sid = some x) :
      subs.get? sid = some x := by
    rw [hGet, if_neg fun hsid => ?_, hx]
    rw [hsid, hNone] at hx
    cases hx
  have hOff : ∀ r ∈ db.reservations.rows, ¬ OnSubscription sub.id r := by
    intro r hr hOn
    obtain ⟨x, hx⟩ := h.named r hr hOn.1
    rw [hOn.2, hNone] at hx
    cases hx
  have hHolding : ∀ r ∈ db.reservations.rows, holding sub.id r = 0 :=
    fun r hr => by simp [holding, hOff r hr]
  refine ⟨⟨h.stored, fun r hr hSource => ?_, fun sid x hx => ?_⟩, "", .of_same_rows rfl
    fun _ x hx => ⟨x, hOld hx, Int.le_refl _⟩⟩
  · obtain ⟨x, hx⟩ := h.named r hr hSource
    exact ⟨x, hOld hx⟩
  · simp only [hGet] at hx
    split at hx
    · cases hx
      refine ⟨hNew.period, fun r hr hOn => absurd hOn (hOff r hr),
        fun r hr hOn => absurd hOn (hOff r hr), fun _ _ r hr hOn => absurd hOn (hOff r hr), ?_, ?_,
        fun hTotal => hNew.used ▸ hTotal.le⟩
      · refine hNew.used.trans (Table.sum_eq_zero fun r hr => ?_).symm
        simp [periodHolding, hHolding r hr]
      · exact hNew.total.trans (Table.sum_eq_zero hHolding).symm
    · exact h.agree sid x hx

theorem SubscriptionStep.epochKept (s : SubscriptionStep) (h : EpochsOk loc db) :
    EpochKept loc db (s.step loc db) := by
  cases s with
  | billing t =>
    obtain ⟨rid, hOn⟩ := t.exists_on
    have hSteps := t.step_transitions loc db hOn
    exact ⟨hSteps.preserve (fun _ _ hStep => hStep.epochsOk) h, rid, hSteps.epochFrame⟩
  | resetDue => exact epochKept_of_resets h fun _ _ hOk => resetDueSubscriptionTx_ok hOk
  | resetUser => exact epochKept_of_resets h fun _ _ hOk => adminResetUserSubscriptionsByPlan_ok hOk
  | resetPlan => exact epochKept_of_resets h fun _ _ hOk => adminResetPlanSubscriptions_ok hOk
  | purchase =>
    refine Tx.commit_preserves (P := EpochKept loc db) (.refl h) fun sub db' hOk => ?_
    obtain ⟨hNew, users, subs, hInsert, rfl⟩ := createUserSubscriptionFromPlanTx_ok hOk
    exact epochKept_of_purchase h hNew hInsert
  | editPlans => exact ⟨h.congr rfl rfl, "", .of_same_rows rfl (.refl _)⟩

end Steps

/-! ### Histories -/

/-- The record of current requests is told by the versions the rows took down. -/
structure EpochHistory.Ok (loc : Location) (h : EpochHistory) : Prop where
  epochs : EpochsOk loc h.db
  current : ∀ id r sub, h.db.reservations.get? id = some r → r.fundingSource = .subscription →
    h.db.subscriptions.get? r.subscriptionId = some sub →
    (id ∈ h.current r.subscriptionId ↔ r.subscriptionResetVersion = sub.quotaResetVersion)

section Histories

variable {h : EpochHistory}

theorem mem_openedOn {id : String} :
    id ∈ openedOn db db' sid ↔ db.reservations.get? id = none ∧
      ∃ r, db'.reservations.get? id = some r ∧ OnSubscription sid r := by
  simp only [openedOn, List.mem_map, List.mem_filter, decide_eq_true_eq]
  constructor
  · rintro ⟨r, ⟨hr, hOn, hNone⟩, rfl⟩
    exact ⟨hNone, r, Table.get?_of_mem hr, hOn⟩
  · rintro ⟨hNone, r, hr, hOn⟩
    have hKey : r.requestId = id := Table.key_of_get? hr
    exact ⟨r, ⟨Table.mem_of_get? hr, hOn, hKey.symm ▸ hNone⟩, hKey⟩

theorem EpochHistory.Ok.step (hOk : h.Ok loc) (s : SubscriptionStep) : (h.step loc s).Ok loc := by
  obtain ⟨hEpochs, rid, hFrame⟩ := s.epochKept hOk.epochs
  refine ⟨hEpochs, fun id r sub hRow hSource hSub => ?_⟩
  simp only [EpochHistory.step, List.mem_append, mem_openedOn] at hRow hSub ⊢
  have hAfter : versionOf (s.step loc h.db) r.subscriptionId = some sub.quotaResetVersion := by
    rw [versionOf, hSub, Option.map_some]
  rcases hFrame.rows id r hRow with ⟨r₀, hr₀, hSame⟩ | ⟨-, hNone, hVersion⟩
  · -- an older row is current as long as the version has not moved on
    obtain ⟨-, hSource₀, hId₀, -, hVersion₀⟩ := hSame
    have hMem := Table.mem_of_get? hr₀
    obtain ⟨sub₀, hSub₀⟩ := hOk.epochs.named r₀ hMem (hSource₀ ▸ hSource)
    have hCurrent := hOk.current id r₀ sub₀ hr₀ (hSource₀ ▸ hSource) hSub₀
    rw [← hId₀] at hSub₀ hCurrent
    have hKey : sub₀.id = r.subscriptionId := Table.key_of_get? hSub₀
    have hOld := (hOk.epochs.agree _ sub₀ hSub₀).version r₀ hMem
      ⟨hSource₀ ▸ hSource, hId₀.symm.trans hKey.symm⟩
    obtain ⟨sub', hSub', hLe⟩ := hFrame.versions _ sub₀ hSub₀
    cases hSub'.symm.trans hSub
    have hBefore : versionOf h.db r.subscriptionId = some sub₀.quotaResetVersion := by
      rw [versionOf, hSub₀, Option.map_some]
    simp only [hAfter, hBefore, Option.some.injEq, hVersion₀]
    split
    · next hEq => simp [hr₀, hCurrent, hEq]
    · next hNe =>
        simp only [hr₀, List.not_mem_nil, reduceCtorEq, false_and, or_false, false_iff]
        omega
  · -- a new row is of the version the step left
    have hEq := hVersion hSource
    rw [hAfter, Option.some.injEq] at hEq
    exact iff_of_true (.inr ⟨hNone, r, hRow, hSource, rfl⟩) hEq.symm

def usageColumns (sub : UserSubscription) : Int × Int × Int :=
  (sub.amountUsed, sub.lastResetTime, sub.quotaResetVersion)

/-- A transaction on a reservation of an earlier period uses nothing of this one. -/
theorem BillingTx.step_usageColumns (loc : Location) {db : Database} {t : BillingTx} {rid : String}
    {r : BillingReservation} (hOn : t.On rid) (hRow : db.reservations.get? rid = some r)
    (hOld : ∀ sub, db.subscriptions.get? r.subscriptionId = some sub → ¬ SameEpoch sub r)
    (sid : Int) :
    ((t.step loc db).subscriptions.get? sid).map usageColumns =
      (db.subscriptions.get? sid).map usageColumns := by
  suffices h : (∃ r', (t.step loc db).reservations.get? rid = some r' ∧ SameEpochColumns r r') ∧
      ∀ sid, ((t.step loc db).subscriptions.get? sid).map usageColumns =
        (db.subscriptions.get? sid).map usageColumns from h.2 sid
  refine (t.step_transitions loc db hOn).preserve
    (P := fun db₁ => (∃ r', db₁.reservations.get? rid = some r' ∧ SameEpochColumns r r') ∧
      ∀ sid, (db₁.subscriptions.get? sid).map usageColumns =
        (db.subscriptions.get? sid).map usageColumns)
    (fun db₁ db₂ hStep hDb₁ => ?_) ⟨⟨r, hRow, .refl r⟩, fun _ => rfl⟩
  obtain ⟨⟨r₁, hRow₁, hSame⟩, hColumns⟩ := hDb₁
  obtain ⟨r₂, hRow₂, hSame₂⟩ := hStep.row_kept hRow₁
  refine ⟨⟨r₂, hRow₂, hSame.trans hSame₂⟩, fun sid => ?_⟩
  rw [← hColumns sid]
  refine hStep.map_subscription_eq hRow₁ (fun sub used total hSub hUsed => ?_) sid
  rcases hUsed with rfl | hEpoch
  · rfl
  · -- the subscription has the period it had before, and that was not the row's
    have hBefore := hColumns r₁.subscriptionId
    rw [hSub, Option.map_some, eq_comm, Option.map_eq_some_iff] at hBefore
    obtain ⟨sub₀, hSub₀, hEq⟩ := hBefore
    simp only [usageColumns, Prod.mk.injEq] at hEq
    rw [hSame.2.2.1] at hSub₀
    refine absurd ⟨?_, ?_⟩ (hOld sub₀ hSub₀)
    · exact hEq.2.1.trans (hEpoch.1.trans hSame.2.2.2.1)
    · exact hEq.2.2.trans (hEpoch.2.trans hSame.2.2.2.2)

theorem epochHistory_ok {db : Database} (hSubs : db.subscriptions.rows = [])
    (hRows : db.reservations.rows = []) :
    (run (EpochHistory.step loc) (.start db) steps).Ok loc := by
  have hNoRow (id : String) : db.reservations.get? id = none := by simp [Table.get?, hRows]
  have hNoSub (sid : Int) : db.subscriptions.get? sid = none := by simp [Table.get?, hSubs]
  refine run_invariant (P := EpochHistory.Ok loc) (fun _ s hOk => hOk.step s)
    ⟨⟨fun id r hr => ?_, fun r hr => ?_, fun sid sub hSub => ?_⟩, fun id r sub hr => ?_⟩ steps
  · exact absurd hr (by simp [EpochHistory.start, hNoRow])
  · exact absurd hr (by simp [EpochHistory.start, hRows])
  · exact absurd hSub (by simp [EpochHistory.start, hNoSub])
  · exact absurd hr (by simp [EpochHistory.start, hNoRow])

/-- After every history of reservations, resets and purchases that starts without
subscriptions, what a subscription has used is what the requests made since its last
reset hold of it, within its allowance; its total is what all requests hold of it;
and a transaction on an earlier request changes no usage. -/
theorem subscription_epoch_accounting (loc : Location) (db : Database)
    (hSubs : db.subscriptions.rows = []) (hRows : db.reservations.rows = [])
    (steps : List SubscriptionStep) (sid : Int) (sub : UserSubscription) :
    let h := run (EpochHistory.step loc) (.start db) steps
    h.db.subscriptions.get? sid = some sub →
      sub.amountUsed =
          h.db.reservations.sum (fun r => if r.requestId ∈ h.current sid then holding sid r else 0) ∧
        (0 < sub.amountTotal → 0 ≤ sub.amountUsed ∧ sub.amountUsed ≤ sub.amountTotal) ∧
        sub.amountUsedTotal = h.db.reservations.sum (holding sid) ∧
        ∀ (t : BillingTx) (rid : String) (r : BillingReservation), t.On rid →
          h.db.reservations.get? rid = some r → OnSubscription sid r → rid ∉ h.current sid →
          ∀ sid', ((t.step loc h.db).subscriptions.get? sid').map UserSubscription.amountUsed =
            (h.db.subscriptions.get? sid').map UserSubscription.amountUsed := by
  intro h hSub
  have hOk : h.Ok loc := epochHistory_ok hSubs hRows
  have hEpoch := hOk.epochs.agree sid sub hSub
  have hId : sub.id = sid := Table.key_of_get? hSub
  refine ⟨?_, fun hTotal => ?_, hId ▸ hEpoch.total, fun t rid r hOn hRow hrOn hOlder sid' => ?_⟩
  · rw [hEpoch.used]
    refine Table.sum_congr fun r hr => ?_
    by_cases hrOn : OnSubscription sid r
    · have hCurrent := hOk.current r.requestId r sub (Table.get?_of_mem hr) hrOn.1 (hrOn.2 ▸ hSub)
      rw [hrOn.2] at hCurrent
      simp only [periodHolding, hCurrent, hId]
    · simp [periodHolding, holding, hId, hrOn]
  · exact ⟨(hEpoch.used_le_total hOk.epochs.stored.reserved_nonneg).1, hEpoch.room hTotal⟩
  · have hCurrent := hOk.current rid r sub hRow hrOn.1 (hrOn.2 ▸ hSub)
    rw [hrOn.2] at hCurrent
    have hOld : ∀ sub', h.db.subscriptions.get? r.subscriptionId = some sub' →
        ¬ SameEpoch sub' r := by
      intro sub' hSub' hSame
      rw [hrOn.2, hSub] at hSub'
      cases hSub'
      exact hOlder (hCurrent.mpr hSame.2.symm)
    have hUsage := congrArg (Option.map Prod.fst)
      (t.step_usageColumns loc hOn hRow hOld sid')
    simpa [usageColumns, Function.comp_def] using hUsage

end Histories

def samplePlan : SubscriptionPlan :=
  { id := 1
    title := "daily"
    totalAmount := 100
    quotaResetPeriod := .known .custom
    quotaResetCustomSeconds := 3600
    durationUnit := .day }

def sampleSubscriber : Database where
  users := .single { id := 1 }
  plans := ⟨[samplePlan], by decide⟩

def sampleEpochs : List SubscriptionStep :=
  let input (id : String) (quota : Int) : BillingReservationInput :=
    { requestId := id, userId := 1, fundingSource := .subscription, quota := quota,
      skipToken := true }
  [.purchase 1 samplePlan "admin" 0 0 1000, .billing (.preConsume 9 (input "a" 40) 1010),
    .resetUser 1 1 false 1020, .billing (.preConsume 9 (input "b" 30) 1030),
    .billing (.extend "a" 45 1040)]

def sampleSubscription : UserSubscription :=
  { id := 1
    userId := 1
    planId := 1
    amountTotal := 100
    amountUsed := 30
    amountUsedTotal := 75
    usageAccountingVersion := 1
    startTime := 1000
    endTime := 87400
    source := "admin"
    lastResetTime := 1000
    nextResetTime := 4600
    quotaResetVersion := 1
    quotaResetPeriod := .known .custom
    quotaResetCustomSeconds := 3600
    allowWalletOverflow := true }

theorem subscription_epoch_accounting_sample :
    let h := run (EpochHistory.step .utc) (.start sampleSubscriber) sampleEpochs
    h.db.subscriptions.get? 1 = some sampleSubscription ∧ h.current 1 = ["b"] ∧
      sampleSubscription.amountUsed =
        h.db.reservations.sum (fun r => if r.requestId ∈ h.current 1 then holding 1 r else 0) ∧
      sampleSubscription.amountUsedTotal = h.db.reservations.sum (holding 1) := by
  intro h
  have hSub : h.db.subscriptions.get? 1 = some sampleSubscription := by decide +kernel
  obtain ⟨hUsed, -, hTotal, -⟩ := subscription_epoch_accounting .utc sampleSubscriber rfl rfl
    sampleEpochs 1 sampleSubscription hSub
  exact ⟨hSub, by decide +kernel, hUsed, hTotal⟩

end XyApi.Billing

import XyApi.Database
import XyApi.Lib.Civil
import Mathlib.Data.List.Sort

/-!
Subscription quota periods: the reset schedule, the reset that a reservation or
the scheduler performs when a period has run out, and the resets an administrator
orders. Local times are read in the server's zone `loc`. The catch-up loop of the
source has no bound of its own, so the model gives it fuel; a call whose fuel runs
out is one that has not returned, and commits nothing.
-/

namespace XyApi.Subscription

open Lib Lib.Calendar

variable {plan : SubscriptionPlan} {loc : Location} {sub sub' : UserSubscription}

def normalizeResetPeriod : StoredResetPeriod → ResetPeriod
  | .known period => period
  | .blank | .other _ => .never

/-- Adding a duration counted in seconds: the product is a 64-bit number of
nanoseconds. -/
def addSeconds (base seconds : Int) : Int :=
  base + ((seconds * 1000000000 + 2 ^ 63) % 2 ^ 64 - 2 ^ 63) / 1000000000

def startOfDay (loc : Location) (t : Int) : Int :=
  let c := civilDate loc t
  date loc c.year c.month c.day 0

def startOfMonth (loc : Location) (t : Int) : Int :=
  let c := civilDate loc t
  date loc c.year c.month 1 0

def daysUntilMonday (loc : Location) (t : Int) : Int :=
  let weekday := weekday loc t
  8 - if weekday = 0 then 7 else weekday

def calcNextResetTime (loc : Location) (base : Int) (plan : SubscriptionPlan) (endUnix : Int) :
    Int :=
  let next? : Option Int :=
    match normalizeResetPeriod plan.quotaResetPeriod with
    | .never => none
    | .daily => some (addDate loc (startOfDay loc base) 0 0 1)
    | .weekly => some (addDate loc (startOfDay loc base) 0 0 (daysUntilMonday loc base))
    | .monthly => some (addDate loc (startOfMonth loc base) 0 1 0)
    | .custom =>
      if plan.quotaResetCustomSeconds ≤ 0 then none
      else some (addSeconds base plan.quotaResetCustomSeconds)
  match next? with
  | none => 0
  | some next => if endUnix > 0 ∧ next > endUnix then 0 else next

/-- The plan whose period governs a subscription: the period stored at purchase,
or the plan's for rows older than that column. -/
def resetPlan (sub : UserSubscription) (plan : SubscriptionPlan) : SubscriptionPlan :=
  if sub.quotaResetPeriod = .blank then plan
  else { plan with
    quotaResetPeriod := .known (normalizeResetPeriod sub.quotaResetPeriod)
    quotaResetCustomSeconds := sub.quotaResetCustomSeconds }

/-- The last boundary passed by `now`, the next one, and whether any was passed. -/
def catchUp (nextOf : Int → Int) (now : Int) : Nat → Int → Int → Bool → Option (Int × Int × Bool)
  | 0, base, next, advanced =>
    if next > 0 ∧ next ≤ now then none else some (base, next, advanced)
  | fuel + 1, base, next, advanced =>
    if next > 0 ∧ next ≤ now then catchUp nextOf now fuel next (nextOf next) true
    else some (base, next, advanced)

def resetVersionOverflow : Err := .new "subscription quota reset version overflow"

def advanceSubscriptionQuotaResetVersion (sub : UserSubscription) : DbTx UserSubscription := do
  Tx.failIf (sub.quotaResetVersion < 0 ∨ sub.quotaResetVersion = maxInt64) resetVersionOverflow
  pure { sub with quotaResetVersion := sub.quotaResetVersion + 1 }

def resetUserSubscriptionTx (loc : Location) (sub : UserSubscription) (plan : SubscriptionPlan)
    (now : Int) (advanceResetTime : Bool) : DbTx UserSubscription := do
  let sub ← advanceSubscriptionQuotaResetVersion sub
  let sub := { sub with
    amountUsedTotal := max sub.amountUsedTotal sub.amountUsed
    amountUsed := 0 }
  let nextReset := calcNextResetTime loc now plan sub.endTime
  let sub :=
    if advanceResetTime then
      { sub with nextResetTime := nextReset, lastResetTime := if nextReset > 0 then now else 0 }
    else sub
  Tx.write (Database.putSubscription sub)
  pure sub

def maybeResetUserSubscriptionWithPlanTx (loc : Location) (fuel : Nat) (sub : UserSubscription)
    (plan : SubscriptionPlan) (now : Int) : DbTx UserSubscription := do
  if sub.nextResetTime > 0 ∧ sub.nextResetTime > now then pure sub
  else if normalizeResetPeriod (resetPlan sub plan).quotaResetPeriod = .never then pure sub
  else do
    let base := if sub.lastResetTime ≤ 0 then sub.startTime else sub.lastResetTime
    let nextOf := fun base => calcNextResetTime loc base (resetPlan sub plan) sub.endTime
    let (base, next, advanced) ←
      Tx.require (catchUp nextOf now fuel base (nextOf base) false) .outOfFuel
    if advanced then do
      let sub := { sub with amountUsedTotal := max sub.amountUsedTotal sub.amountUsed }
      let sub ← advanceSubscriptionQuotaResetVersion sub
      let sub := { sub with amountUsed := 0, lastResetTime := base, nextResetTime := next }
      Tx.write (Database.putSubscription sub)
      pure sub
    else if sub.nextResetTime = 0 ∧ next > 0 then do
      let sub := { sub with nextResetTime := next, lastResetTime := base }
      Tx.write (Database.putSubscription sub)
      pure sub
    else pure sub

def normalizeDefaults (plan : SubscriptionPlan) : SubscriptionPlan :=
  let currency := toUpper (trimSpace plan.currency)
  { plan with
    allowWalletOverflow := some (plan.allowWalletOverflow.getD true)
    currency := if currency = "" then "USD" else currency
    quotaResetPeriod :=
      if plan.quotaResetPeriod = .blank then .known .never else plan.quotaResetPeriod }

theorem normalizeDefaults_id :
    (normalizeDefaults plan).id = plan.id := by
  rw [normalizeDefaults]

theorem normalizeResetPeriod_normalizeDefaults :
    normalizeResetPeriod (normalizeDefaults plan).quotaResetPeriod =
      normalizeResetPeriod plan.quotaResetPeriod := by
  rw [normalizeDefaults]
  dsimp only
  split
  · next hBlank => rw [hBlank]; rfl
  · rfl

theorem normalizeDefaults_quotaResetCustomSeconds :
    (normalizeDefaults plan).quotaResetCustomSeconds = plan.quotaResetCustomSeconds := by
  rw [normalizeDefaults]

theorem normalizeDefaults_upgradeGroup :
    (normalizeDefaults plan).upgradeGroup = plan.upgradeGroup := by
  rw [normalizeDefaults]

theorem normalizeDefaults_downgradeGroup :
    (normalizeDefaults plan).downgradeGroup = plan.downgradeGroup := by
  rw [normalizeDefaults]

def getSubscriptionPlanByIdTx (id : Int) : DbTx SubscriptionPlan := do
  Tx.failIf (id ≤ 0) (.new "invalid plan id")
  let plan? ← Tx.read fun db => db.plans.get? id
  let plan ← Tx.require plan? .recordNotFound
  pure (normalizeDefaults plan)

theorem getSubscriptionPlanByIdTx_ok {id : Int}
    (h : getSubscriptionPlanByIdTx id db = .ok (plan, db')) : db' = db := by
  simp only [getSubscriptionPlanByIdTx, Tx.failIf_bind_ok_iff, Tx.read_bind_apply,
    Tx.require_bind_ok_iff, Tx.pure_ok_iff] at h
  obtain ⟨-, _, -, -, rfl⟩ := h
  rfl

def getSubscriptionResetPlanTx (sub : UserSubscription) : DbTx SubscriptionPlan := do
  Tx.failIf (sub.planId ≤ 0) (.new "invalid subscription reset plan")
  if sub.quotaResetPeriod ≠ .blank then
    pure {
      id := sub.planId
      quotaResetPeriod := .known (normalizeResetPeriod sub.quotaResetPeriod)
      quotaResetCustomSeconds := sub.quotaResetCustomSeconds }
  else getSubscriptionPlanByIdTx sub.planId

def resetDueSubscriptionTx (loc : Location) (fuel : Nat) (id : Int) (plan : SubscriptionPlan)
    (now : Int) : DbTx Bool := do
  let locked? ← Tx.read fun db =>
    (db.subscriptions.get? id).filter fun s => 0 < s.nextResetTime ∧ s.nextResetTime ≤ now
  match locked? with
  | none => pure false
  | some locked => do
      let _ ← maybeResetUserSubscriptionWithPlanTx loc fuel locked plan now
      pure true

/-! ### Administrator resets -/

def endsBefore (a b : UserSubscription) : Prop :=
  a.endTime < b.endTime ∨ (a.endTime = b.endTime ∧ a.id ≤ b.id)
  deriving Decidable

def userThenEndsBefore (a b : UserSubscription) : Prop :=
  a.userId < b.userId ∨ (a.userId = b.userId ∧ endsBefore a b)
  deriving Decidable

def resetAllTx (loc : Location) (plan : SubscriptionPlan) (now : Int) (advanceResetTime : Bool) :
    List UserSubscription → DbTx Unit
  | [] => pure ()
  | sub :: rest => do
      let _ ← resetUserSubscriptionTx loc sub plan now advanceResetTime
      resetAllTx loc plan now advanceResetTime rest

def adminResetUserSubscriptionsByPlan (loc : Location) (userId planId : Int)
    (advanceResetTime : Bool) (now : Int) : DbTx Nat := do
  Tx.failIf (userId ≤ 0 ∨ planId ≤ 0) (.new "invalid userId or planId")
  let plan ← getSubscriptionPlanByIdTx planId
  let subs ← Tx.read fun db => (db.subscriptions.rows.filter fun s =>
    s.userId = userId ∧ s.planId = plan.id ∧ s.status = .active ∧ s.endTime > now).insertionSort
      endsBefore
  Tx.failIf (subs = []) (.new "该用户没有有效的此套餐订阅")
  resetAllTx loc plan now advanceResetTime subs
  pure subs.length

def adminResetPlanSubscriptions (loc : Location) (planId : Int) (advanceResetTime : Bool)
    (now : Int) : DbTx Nat := do
  Tx.failIf (planId ≤ 0) (.new "invalid planId")
  let plan ← getSubscriptionPlanByIdTx planId
  let subs ← Tx.read fun db => (db.subscriptions.rows.filter fun s =>
    s.planId = plan.id ∧ s.status = .active ∧ s.endTime > now).insertionSort userThenEndsBefore
  resetAllTx loc plan now advanceResetTime subs
  pure subs.length

/-! ### What a due reset can do -/

def resetBase (sub : UserSubscription) : Int :=
  if sub.lastResetTime ≤ 0 then sub.startTime else sub.lastResetTime

def scheduledReset (loc : Location) (sub : UserSubscription) (plan : SubscriptionPlan) : Int :=
  calcNextResetTime loc (resetBase sub) (resetPlan sub plan) sub.endTime

def Unscheduled (loc : Location) (sub : UserSubscription) (plan : SubscriptionPlan) : Prop :=
  sub.nextResetTime = 0 ∧ 0 < scheduledReset loc sub plan

/-- The three ways a due-reset check leaves a subscription: as it was, with its
schedule written down, or in a new quota period. -/
inductive DueReset (loc : Location) (sub : UserSubscription) (plan : SubscriptionPlan) :
    UserSubscription → Prop
  | kept (h : ¬ Unscheduled loc sub plan) : DueReset loc sub plan sub
  | scheduled (base next : Int) (h : Unscheduled loc sub plan) (hNext : 0 < next) :
      DueReset loc sub plan { sub with nextResetTime := next, lastResetTime := base }
  | renewed (base next : Int) (hBase : 0 < base) (hVersion : 0 ≤ sub.quotaResetVersion)
      (hNext : next = calcNextResetTime loc base (resetPlan sub plan) sub.endTime) :
      DueReset loc sub plan { sub with
        amountUsedTotal := max sub.amountUsedTotal sub.amountUsed
        quotaResetVersion := sub.quotaResetVersion + 1
        amountUsed := 0
        lastResetTime := base
        nextResetTime := next }

theorem catchUp_some (h : catchUp nextOf now fuel base next advanced = some (b, n, a)) :
    (b = base ∧ n = next ∧ a = advanced) ∨ (0 < b ∧ n = nextOf b ∧ a = true) := by
  induction fuel generalizing base next advanced with
  | zero =>
    simp only [catchUp] at h
    split at h
    · cases h
    · simp only [Option.some.injEq, Prod.mk.injEq] at h
      exact .inl ⟨h.1.symm, h.2.1.symm, h.2.2.symm⟩
  | succ fuel ih =>
    simp only [catchUp] at h
    split at h
    · next hDue =>
        rcases ih h with ⟨rfl, rfl, rfl⟩ | hLater
        · exact .inr ⟨hDue.1, rfl, rfl⟩
        · exact .inr hLater
    · simp only [Option.some.injEq, Prod.mk.injEq] at h
      exact .inl ⟨h.1.symm, h.2.1.symm, h.2.2.symm⟩

private theorem not_unscheduled_of_never
    (h : normalizeResetPeriod (resetPlan sub plan).quotaResetPeriod = .never) :
    ¬ Unscheduled loc sub plan := by
  intro hUnscheduled
  have hPositive := hUnscheduled.2
  simp [scheduledReset, calcNextResetTime, h] at hPositive

theorem maybeResetUserSubscriptionWithPlanTx_ok
    (h : maybeResetUserSubscriptionWithPlanTx loc fuel sub plan now db = .ok (sub', db'))
    (hRow : db.subscriptions.get? sub.id = some sub) :
    DueReset loc sub plan sub' ∧ db' = db.putSubscription sub' := by
  have hSame : db.putSubscription sub = db := by
    simp [Database.putSubscription, Table.put_of_get? hRow]
  unfold maybeResetUserSubscriptionWithPlanTx at h
  split at h
  · next hFuture =>
      cases h
      refine ⟨.kept fun hUnscheduled => ?_, hSame.symm⟩
      have := hUnscheduled.1
      omega
  · split at h
    · next hNever =>
        cases h
        exact ⟨.kept (not_unscheduled_of_never hNever), hSame.symm⟩
    · obtain ⟨⟨base, next, advanced⟩, hCatchUp, h⟩ := Tx.require_bind_ok_iff.mp h
      have hOutcome := catchUp_some hCatchUp
      simp only at h
      split at h
      · next hAdvanced =>
          simp only [advanceSubscriptionQuotaResetVersion, Tx.bind_ok_iff, Tx.failIf_ok_iff,
            Tx.pure_ok_iff, Tx.write_ok_iff] at h
          obtain ⟨_, _, ⟨_, _, ⟨hVersion, rfl⟩, rfl, rfl⟩, _, _, rfl, rfl, rfl⟩ := h
          rcases hOutcome with ⟨_, _, hFalse⟩ | ⟨hBase, hNext, _⟩
          · simp [hAdvanced] at hFalse
          · exact ⟨.renewed base next hBase (by omega) hNext, rfl⟩
      · next hKept =>
          rcases hOutcome with ⟨hBase, hNext, _⟩ | ⟨_, _, hTrue⟩
          · have hScheduled : next = scheduledReset loc sub plan := by
              rw [hNext]; rfl
            split at h
            · next hWrite =>
                cases h
                exact ⟨.scheduled base next ⟨hWrite.1, hScheduled ▸ hWrite.2⟩ hWrite.2, rfl⟩
            · next hWrite =>
                cases h
                refine ⟨.kept fun hUnscheduled => hWrite ⟨hUnscheduled.1, ?_⟩, hSame.symm⟩
                exact hScheduled ▸ hUnscheduled.2
          · simp [hTrue] at hKept

/-- The columns a due-reset check never touches. -/
theorem DueReset.frame (h : DueReset loc sub plan sub') :
    ∃ total used version last next, sub' = { sub with
      amountUsedTotal := total
      amountUsed := used
      quotaResetVersion := version
      lastResetTime := last
      nextResetTime := next } := by
  cases h with
  | kept => exact ⟨_, _, _, _, _, rfl⟩
  | scheduled => exact ⟨_, _, _, _, _, rfl⟩
  | renewed => exact ⟨_, _, _, _, _, rfl⟩

theorem DueReset.id_eq (h : DueReset loc sub plan sub') : sub'.id = sub.id := by
  obtain ⟨_, _, _, _, _, rfl⟩ := h.frame
  rfl

/-- After the check the row names its next reset whenever the schedule has one. -/
theorem DueReset.not_unscheduled (h : DueReset loc sub plan sub') :
    ¬ Unscheduled loc sub' plan := by
  cases h with
  | kept h => exact h
  | scheduled =>
    rintro ⟨hZero, -⟩
    simp only at hZero
    omega
  | renewed base next hBase _ hNext =>
    rintro ⟨hZero, hPositive⟩
    have hBase' : ¬ base ≤ 0 := by omega
    have hSame : scheduledReset loc { sub with
        amountUsedTotal := max sub.amountUsedTotal sub.amountUsed
        quotaResetVersion := sub.quotaResetVersion + 1
        amountUsed := 0
        lastResetTime := base
        nextResetTime := next } plan = next := by
      simp only [scheduledReset, resetBase, hBase', if_false, hNext]
      rfl
    rw [hSame] at hPositive
    simp only at hZero
    omega

/-- A number of due-reset checks on the subscriptions of a table. -/
inductive Renewals (loc : Location) :
    Table UserSubscription.id → Table UserSubscription.id → Prop
  | refl (subs : Table UserSubscription.id) : Renewals loc subs subs
  | step {subs subs' : Table UserSubscription.id} (sub sub' : UserSubscription)
      (plan : SubscriptionPlan) (hSub : subs.get? sub.id = some sub)
      (hReset : DueReset loc sub plan sub') (hRest : Renewals loc (subs.put sub') subs') :
      Renewals loc subs subs'

end XyApi.Subscription

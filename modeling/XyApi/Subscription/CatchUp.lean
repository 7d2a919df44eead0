import XyApi.Subscription.ResetProgress

/-!
Path independence of the catch-up resets. A check at one moment moves the schedule to the
last boundary that has passed, and a later check continues from there, so any increasing
sequence of checks ends where a single check at its last moment ends. This needs a row whose
next reset is unset or not before the boundary that its own schedule gives.
-/

namespace XyApi.Subscription

open Lib Lib.Calendar

/-! ### The loop without its fuel -/

section Loop

variable {nextOf : Int → Int} {now later base next b n : Int} {advanced a : Bool}
  {result : Int × Int × Bool}

/-- What the loop returns, given enough fuel. -/
def Caught (nextOf : Int → Int) (now base next : Int) (advanced : Bool)
    (result : Int × Int × Bool) : Prop :=
  ∃ fuel, catchUp nextOf now fuel base next advanced = some result

theorem caught_of_due (hDue : next > 0 ∧ next ≤ now) :
    Caught nextOf now base next advanced result ↔
      Caught nextOf now next (nextOf next) true result := by
  constructor
  · rintro ⟨fuel, h⟩
    cases fuel with
    | zero =>
      rw [catchUp, if_pos hDue] at h
      cases h
    | succ fuel =>
      rw [catchUp, if_pos hDue] at h
      exact ⟨fuel, h⟩
  · rintro ⟨fuel, h⟩
    exact ⟨fuel + 1, by rw [catchUp, if_pos hDue, h]⟩

theorem caught_of_passed (hPassed : ¬ (next > 0 ∧ next ≤ now)) :
    Caught nextOf now base next advanced result ↔ result = (base, next, advanced) := by
  constructor
  · rintro ⟨fuel, h⟩
    rw [catchUp_of_passed fuel hPassed] at h
    exact (Option.some.inj h).symm
  · rintro rfl
    exact ⟨0, catchUp_of_passed 0 hPassed⟩

theorem Caught.unique (h : Caught nextOf now base next advanced result)
    (h' : Caught nextOf now base next advanced result') : result = result' := by
  obtain ⟨fuel, h⟩ := h
  obtain ⟨fuel', h'⟩ := h'
  have hLeft := catchUp_of_le (n := max fuel fuel') (by rw [h]; rfl) (le_max_left _ _)
  have hRight := catchUp_of_le (n := max fuel fuel') (by rw [h']; rfl) (le_max_right _ _)
  rw [h] at hLeft
  rw [h', hLeft] at hRight
  exact Option.some.inj hRight

/-- Catching up with an earlier moment first makes no difference. -/
theorem Caught.trans (h : Caught nextOf now base next advanced (b, n, a)) (hLater : now ≤ later) :
    Caught nextOf later base next advanced result ↔ Caught nextOf later b n a result := by
  obtain ⟨fuel, h⟩ := h
  induction fuel generalizing base next advanced with
  | zero =>
    rw [catchUp] at h
    split at h
    · cases h
    · cases h
      rfl
  | succ fuel ih =>
    rw [catchUp] at h
    split at h
    · next hDue => exact (caught_of_due ⟨hDue.1, hDue.2.trans hLater⟩).trans (ih h)
    · cases h
      rfl

/-- Where the loop stops, the next boundary has not passed. -/
theorem Caught.passed (h : Caught nextOf now base next advanced (b, n, a)) :
    ¬ (n > 0 ∧ n ≤ now) := by
  obtain ⟨fuel, h⟩ := h
  induction fuel generalizing base next advanced with
  | zero =>
    rw [catchUp] at h
    split at h
    · cases h
    · next hPassed =>
        cases h
        exact hPassed
  | succ fuel ih =>
    rw [catchUp] at h
    split at h
    · exact ih h
    · next hPassed =>
        cases h
        exact hPassed

/-- A loop that has advanced stands on a boundary. -/
theorem Caught.base_of_due (h : Caught nextOf now base next advanced (b, n, a))
    (hDue : next > 0 ∧ next ≤ now) : 0 < b ∧ n = nextOf b ∧ a = true := by
  obtain ⟨fuel, h⟩ := (caught_of_due hDue).mp h
  rcases catchUp_some h with ⟨rfl, rfl, rfl⟩ | hLater
  · exact ⟨hDue.1, rfl, rfl⟩
  · exact hLater

end Loop

/-! ### A check of one row -/

section Row

variable {loc : Location} {plan : SubscriptionPlan} {sub sub' : UserSubscription} {now : Int}

def boundaryAfter (loc : Location) (sub : UserSubscription) (plan : SubscriptionPlan)
    (base : Int) : Int :=
  calcNextResetTime loc base (resetPlan sub plan) sub.endTime

theorem scheduledReset_eq : scheduledReset loc sub plan = boundaryAfter loc sub plan (resetBase sub) :=
  rfl

def Waiting (sub : UserSubscription) (now : Int) : Prop :=
  sub.nextResetTime > 0 ∧ sub.nextResetTime > now

def rescheduled (sub : UserSubscription) (base next : Int) : UserSubscription :=
  { sub with nextResetTime := next, lastResetTime := base }

def renewal (sub : UserSubscription) (base next : Int) : UserSubscription :=
  { sub with
    amountUsedTotal := max sub.amountUsedTotal sub.amountUsed
    quotaResetVersion := sub.quotaResetVersion + 1
    amountUsed := 0
    lastResetTime := base
    nextResetTime := next }

inductive Checked (loc : Location) (sub : UserSubscription) (plan : SubscriptionPlan) (now : Int) :
    UserSubscription → Prop
  | kept (h : Waiting sub now ∨
      (¬ (scheduledReset loc sub plan > 0 ∧ scheduledReset loc sub plan ≤ now) ∧
        ¬ Unscheduled loc sub plan)) : Checked loc sub plan now sub
  | scheduled (h : Unscheduled loc sub plan) (hAhead : now < scheduledReset loc sub plan) :
      Checked loc sub plan now (rescheduled sub (resetBase sub) (scheduledReset loc sub plan))
  | renewed (base next : Int) (hWaiting : ¬ Waiting sub now)
      (hDue : scheduledReset loc sub plan > 0 ∧ scheduledReset loc sub plan ≤ now)
      (hLoop : Caught (boundaryAfter loc sub plan) now (resetBase sub)
        (scheduledReset loc sub plan) false (base, next, true)) :
      Checked loc sub plan now (renewal sub base next)

theorem scheduledReset_of_never
    (h : normalizeResetPeriod (resetPlan sub plan).quotaResetPeriod = .never) :
    scheduledReset loc sub plan = 0 := by
  simp [scheduledReset, calcNextResetTime, h]

theorem maybeResetUserSubscriptionWithPlanTx_checked
    (h : maybeResetUserSubscriptionWithPlanTx loc fuel sub plan now db = .ok (sub', db')) :
    Checked loc sub plan now sub' := by
  unfold maybeResetUserSubscriptionWithPlanTx at h
  split at h
  · next hWaiting =>
      cases h
      exact .kept (.inl hWaiting)
  · next hWaiting =>
      split at h
      · next hNever =>
          cases h
          have hZero : scheduledReset loc sub plan = 0 := scheduledReset_of_never hNever
          refine .kept (.inr ⟨by omega, fun hUnscheduled => ?_⟩)
          have := hUnscheduled.2
          omega
      · obtain ⟨⟨base, next, advanced⟩, hCatchUp, h⟩ := Tx.require_bind_ok_iff.mp h
        have hLoop : Caught (boundaryAfter loc sub plan) now (resetBase sub)
            (scheduledReset loc sub plan) false (base, next, advanced) := ⟨fuel, hCatchUp⟩
        simp only at h
        by_cases hDue : scheduledReset loc sub plan > 0 ∧ scheduledReset loc sub plan ≤ now
        · obtain ⟨-, -, rfl⟩ := hLoop.base_of_due hDue
          simp only [if_true, advanceSubscriptionQuotaResetVersion, Tx.bind_ok_iff,
            Tx.failIf_ok_iff, Tx.pure_ok_iff, Tx.write_ok_iff] at h
          obtain ⟨_, _, ⟨_, _, ⟨-, rfl⟩, rfl, rfl⟩, _, _, rfl, rfl, rfl⟩ := h
          exact .renewed base next hWaiting hDue hLoop
        · cases (caught_of_passed hDue).mp hLoop
          rw [if_neg (by simp)] at h
          split at h
          · next hWrite =>
              cases h
              have hPositive := hWrite.2
              exact .scheduled hWrite (by omega)
          · next hWrite =>
              cases h
              exact .kept (.inr ⟨hDue, hWrite⟩)

theorem advanceSubscriptionQuotaResetVersion_ne_error
    (h : 0 ≤ sub.quotaResetVersion ∧ sub.quotaResetVersion < maxInt64) :
    advanceSubscriptionQuotaResetVersion sub db ≠ .error e := by
  rw [advanceSubscriptionQuotaResetVersion, Tx.failIf_bind_of_not (by omega)]
  rintro ⟨⟩

/-- A check fails only for want of fuel or of a version number. -/
theorem maybeResetUserSubscriptionWithPlanTx_ok_of
    (hLoop : (resetLoop loc sub plan now fuel).isSome)
    (hVersion : 0 ≤ sub.quotaResetVersion ∧ sub.quotaResetVersion < maxInt64) :
    ∃ sub' db', maybeResetUserSubscriptionWithPlanTx loc fuel sub plan now db =
      .ok (sub', db') := by
  obtain ⟨⟨base, next, advanced⟩, hLoop⟩ := Option.isSome_iff_exists.mp hLoop
  unfold resetLoop scheduledReset resetBase at hLoop
  unfold maybeResetUserSubscriptionWithPlanTx
  split
  · exact ⟨_, _, rfl⟩
  · split
    · exact ⟨_, _, rfl⟩
    · simp only [hLoop, Tx.require, Tx.pure_bind_apply]
      split
      · rcases advanceSubscriptionQuotaResetVersion_cases
          { sub with amountUsedTotal := max sub.amountUsedTotal sub.amountUsed } db
          with hFull | ⟨sub', hNext⟩
        · refine absurd hFull (advanceSubscriptionQuotaResetVersion_ne_error ?_)
          exact hVersion
        · rw [Tx.bind_of_ok hNext]
          exact ⟨_, _, rfl⟩
      · split <;> exact ⟨_, _, rfl⟩

/-! ### Two checks -/

/-- The columns that the schedule and the accounting of a period are about. -/
structure SamePeriod (sub sub' : UserSubscription) : Prop where
  last : sub.lastResetTime = sub'.lastResetTime
  next : sub.nextResetTime = sub'.nextResetTime
  used : sub.amountUsed = sub'.amountUsed
  total : sub.amountUsedTotal = sub'.amountUsedTotal

theorem SamePeriod.refl (sub : UserSubscription) : SamePeriod sub sub := ⟨rfl, rfl, rfl, rfl⟩

theorem SamePeriod.trans (hab : SamePeriod a b) (hbc : SamePeriod b c) :
    SamePeriod a c :=
  ⟨hab.last.trans hbc.last, hab.next.trans hbc.next, hab.used.trans hbc.used,
    hab.total.trans hbc.total⟩

/-- The next reset of the row is unset or not before the boundary that the row's own schedule
gives, and something has been used or nothing has been taken back. -/
structure OnSchedule (loc : Location) (sub : UserSubscription) (plan : SubscriptionPlan) :
    Prop where
  next : sub.nextResetTime = 0 ∨
    (0 < scheduledReset loc sub plan ∧ scheduledReset loc sub plan ≤ sub.nextResetTime)
  used : 0 ≤ max sub.amountUsedTotal sub.amountUsed

def Progress (loc : Location) (sub : UserSubscription) (plan : SubscriptionPlan) : Prop :=
  ∀ base, boundaryAfter loc sub plan base = 0 ∨ base < boundaryAfter loc sub plan base

theorem resetBase_rescheduled :
    resetBase (rescheduled sub (resetBase sub) next) = resetBase sub := by
  unfold rescheduled resetBase
  by_cases hLast : sub.lastResetTime ≤ 0
  · by_cases hStart : sub.startTime ≤ 0
    · simp [hLast, hStart]
    · simp [hLast, hStart]
  · simp [hLast]

theorem scheduledReset_rescheduled :
    scheduledReset loc (rescheduled sub (resetBase sub) next) plan =
      scheduledReset loc sub plan := by
  rw [scheduledReset_eq, resetBase_rescheduled]
  rfl

theorem resetBase_renewal (hBase : 0 < base) :
    resetBase (renewal sub base next) = base :=
  if_neg (not_le.mpr hBase)

theorem scheduledReset_renewal (hBase : 0 < base) :
    scheduledReset loc (renewal sub base next) plan = boundaryAfter loc sub plan base := by
  rw [scheduledReset_eq, resetBase_renewal hBase]
  rfl

theorem Checked.unique (ha : Checked loc sub plan now a) (hb : Checked loc sub plan now b) : a = b := by
  cases ha with
  | kept ha =>
    cases hb with
    | kept => rfl
    | scheduled hb =>
      have hZero := hb.1
      rcases ha with hWaiting | ⟨-, hNot⟩
      · have := hWaiting.1
        omega
      · exact absurd hb hNot
    | renewed base next hWaiting hDue =>
      exact (ha.resolve_left hWaiting).1.elim hDue
  | scheduled ha =>
    have hZero := ha.1
    cases hb with
    | kept hb =>
      rcases hb with hWaiting | ⟨-, hNot⟩
      · have := hWaiting.1
        omega
      · exact absurd ha hNot
    | scheduled => rfl
    | renewed => omega
  | renewed base next hWaiting hDue hLoop =>
    cases hb with
    | kept hb => exact (hb.resolve_left hWaiting).1.elim hDue
    | scheduled => omega
    | renewed base' next' _ _ hLoop' =>
      cases hLoop.unique hLoop'
      rfl

/-- A boundary computed from a positive time is unset or lies ahead. -/
theorem Progress.boundary (h : Progress loc sub plan) (hBase : 0 < base) :
    boundaryAfter loc sub plan base = 0 ∨ 0 < boundaryAfter loc sub plan base :=
  (h base).imp_right fun hLt => hBase.trans hLt

/-- A check keeps a row on its schedule. -/
theorem Checked.onSchedule (h : Checked loc sub plan now sub') (hProgress : Progress loc sub plan)
    (hOn : OnSchedule loc sub plan) : OnSchedule loc sub' plan := by
  cases h with
  | kept => exact hOn
  | scheduled h =>
    refine ⟨.inr ?_, hOn.used⟩
    rw [scheduledReset_rescheduled]
    exact ⟨h.2, le_rfl⟩
  | renewed base next hWaiting hDue hLoop =>
    obtain ⟨hBase, rfl, -⟩ := hLoop.base_of_due hDue
    refine ⟨(hProgress.boundary hBase).imp_right fun hPositive => ?_, ?_⟩
    · rw [scheduledReset_renewal hBase]
      exact ⟨hPositive, le_rfl⟩
    · exact hOn.used.trans (le_max_left _ _)

/-- After a check the next reset is unset or lies ahead. -/
theorem Checked.next_ahead (h : Checked loc sub plan now sub') (hProgress : Progress loc sub plan)
    (hOn : OnSchedule loc sub plan) : sub'.nextResetTime = 0 ∨ now < sub'.nextResetTime := by
  cases h with
  | kept h =>
    rcases h with hWaiting | ⟨hPassed, -⟩
    · exact .inr hWaiting.2
    · exact hOn.next.imp_right fun hNext => by omega
  | scheduled h hAhead => exact .inr hAhead
  | renewed base next hWaiting hDue hLoop =>
    obtain ⟨hBase, hNext, -⟩ := hLoop.base_of_due hDue
    have hPassed := hLoop.passed
    have hBoundary := hProgress.boundary hBase
    rw [← hNext] at hBoundary
    change next = 0 ∨ now < next
    omega

/-- A row whose boundary has passed is renewed. -/
theorem Checked.exists_renewal (h : Checked loc sub plan now sub') (hWaiting : ¬ Waiting sub now)
    (hDue : scheduledReset loc sub plan > 0 ∧ scheduledReset loc sub plan ≤ now) :
    ∃ base next, sub' = renewal sub base next ∧ 0 < base ∧ next = boundaryAfter loc sub plan base ∧
      Caught (boundaryAfter loc sub plan) now (resetBase sub) (scheduledReset loc sub plan) false
        (base, next, true) := by
  cases h with
  | kept h => exact (h.resolve_left hWaiting).1.elim hDue
  | scheduled => omega
  | renewed base next _ _ hLoop =>
    obtain ⟨hBase, hNext, -⟩ := hLoop.base_of_due hDue
    exact ⟨base, next, rfl, hBase, hNext, hLoop⟩

/-- A row whose schedule has been written down is checked like the row before. -/
theorem Checked.of_rescheduled (h : Unscheduled loc sub plan)
    (h₂ : Checked loc (rescheduled sub (resetBase sub) (scheduledReset loc sub plan)) plan now sub₂)
    (h' : Checked loc sub plan now sub') : SamePeriod sub₂ sub' := by
  have hZero := h.1
  have hPositive := h.2
  by_cases hDue : scheduledReset loc sub plan ≤ now
  · have hWaiting : ¬ Waiting sub now := fun hWaiting => by
      have := hWaiting.1
      omega
    obtain ⟨base, next, rfl, -, -, hLoop⟩ := h'.exists_renewal hWaiting ⟨hPositive, hDue⟩
    have hRenewed : Checked loc (rescheduled sub (resetBase sub) (scheduledReset loc sub plan)) plan
        now (renewal (rescheduled sub (resetBase sub) (scheduledReset loc sub plan)) base next) := by
      refine .renewed base next (fun hAhead => absurd hAhead.2 (not_lt.mpr hDue)) ?_ ?_
      · rw [scheduledReset_rescheduled]
        exact ⟨hPositive, hDue⟩
      · rw [scheduledReset_rescheduled, resetBase_rescheduled]
        exact hLoop
    rw [h₂.unique hRenewed]
    exact ⟨rfl, rfl, rfl, rfl⟩
  · have hAhead : now < scheduledReset loc sub plan := not_le.mp hDue
    rw [h₂.unique (.kept (.inl ⟨hPositive, hAhead⟩)), h'.unique (.scheduled h hAhead)]
    exact .refl _

/-- A row that has been renewed is checked like the row before. -/
theorem Checked.of_renewal (hLater : now ≤ later) (hProgress : Progress loc sub plan)
    (hUsed : 0 ≤ max sub.amountUsedTotal sub.amountUsed) (hWaiting : ¬ Waiting sub now)
    (hDue : scheduledReset loc sub plan > 0 ∧ scheduledReset loc sub plan ≤ now)
    (hLoop : Caught (boundaryAfter loc sub plan) now (resetBase sub) (scheduledReset loc sub plan)
      false (base, next, true)) (h₂ : Checked loc (renewal sub base next) plan later sub₂)
    (h' : Checked loc sub plan later sub') : SamePeriod sub₂ sub' := by
  obtain ⟨hBase, rfl, -⟩ := hLoop.base_of_due hDue
  have hStill : ¬ Waiting sub later := fun h => hWaiting ⟨h.1, hLater.trans_lt h.2⟩
  obtain ⟨b, n, rfl, -, -, hWhole⟩ := h'.exists_renewal hStill ⟨hDue.1, hDue.2.trans hLater⟩
  have hRest := (hLoop.trans hLater).mp hWhole
  by_cases hAgain : boundaryAfter loc sub plan base > 0 ∧ boundaryAfter loc sub plan base ≤ later
  · have hRenewed : Checked loc (renewal sub base (boundaryAfter loc sub plan base)) plan later
        (renewal (renewal sub base (boundaryAfter loc sub plan base)) b n) := by
      refine .renewed b n (fun h => absurd h.2 (not_lt.mpr hAgain.2)) ?_ ?_
      · rwa [scheduledReset_renewal hBase]
      · rw [scheduledReset_renewal hBase, resetBase_renewal hBase]
        exact (caught_of_due hAgain).mpr ((caught_of_due hAgain).mp hRest)
    rw [h₂.unique hRenewed]
    exact ⟨rfl, rfl, rfl, max_eq_left hUsed⟩
  · cases (caught_of_passed hAgain).mp hRest
    have hKept : Checked loc (renewal sub base (boundaryAfter loc sub plan base)) plan later
        (renewal sub base (boundaryAfter loc sub plan base)) := by
      refine .kept ?_
      rcases hProgress.boundary hBase with hZero | hPositive
      · refine .inr ⟨by rwa [scheduledReset_renewal hBase], fun h => ?_⟩
        have := h.2
        rw [scheduledReset_renewal hBase] at this
        omega
      · exact .inl ⟨hPositive, not_le.mp fun hLe => hAgain ⟨hPositive, hLe⟩⟩
    rw [h₂.unique hKept]
    exact .refl _

/-- Two checks end where the later one alone ends. -/
theorem Checked.then (hLater : now ≤ later) (hProgress : Progress loc sub plan)
    (hOn : OnSchedule loc sub plan) (h₁ : Checked loc sub plan now sub₁)
    (h₂ : Checked loc sub₁ plan later sub₂) (h : Checked loc sub plan later sub') :
    SamePeriod sub₂ sub' := by
  cases h₁ with
  | kept =>
    rw [h₂.unique h]
    exact .refl _
  | scheduled hUnscheduled => exact Checked.of_rescheduled hUnscheduled h₂ h
  | renewed base next hWaiting hDue hLoop =>
    exact Checked.of_renewal hLater hProgress hOn.used hWaiting hDue hLoop h₂ h

theorem Checked.progress (h : Checked loc sub plan now sub') (hProgress : Progress loc sub plan) :
    Progress loc sub' plan := by
  cases h with
  | kept | scheduled | renewed => exact hProgress

theorem Checked.version (h : Checked loc sub plan now sub') :
    sub.quotaResetVersion ≤ sub'.quotaResetVersion ∧
      sub'.quotaResetVersion ≤ sub.quotaResetVersion + 1 := by
  cases h with
  | kept | scheduled => exact ⟨le_rfl, Int.le_add_one le_rfl⟩
  | renewed => exact ⟨Int.le_add_one le_rfl, le_rfl⟩

end Row

/-! ### Sequences of checks -/

def checkAll (loc : Location) (fuel : Nat) (plan : SubscriptionPlan) :
    List Int → UserSubscription → DbTx UserSubscription
  | [], sub => pure sub
  | now :: rest, sub => do
      let sub ← maybeResetUserSubscriptionWithPlanTx loc fuel sub plan now
      checkAll loc fuel plan rest sub

section Sequence

/-- The seconds up to a moment are enough rounds for every check until then. -/
theorem resetLoop_isSome (hProgress : Progress loc sub plan) (hFuel : (now + 1).toNat ≤ fuel) :
    (resetLoop loc sub plan now fuel).isSome := by
  by_cases hDue : scheduledReset loc sub plan > 0 ∧ scheduledReset loc sub plan ≤ now
  · exact catchUp_isSome hProgress fuel _ _ _ (by omega)
  · rw [resetLoop, catchUp_of_passed fuel hDue]
    rfl

/-- A check of a stored row returns, and stores what it returns. -/
theorem check_stored (hProgress : Progress loc sub plan) (hFuel : (now + 1).toNat ≤ fuel)
    (hVersion : 0 ≤ sub.quotaResetVersion ∧ sub.quotaResetVersion < maxInt64)
    (hRow : db.subscriptions.get? sub.id = some sub) :
    ∃ sub' db', maybeResetUserSubscriptionWithPlanTx loc fuel sub plan now db = .ok (sub', db') ∧
      Checked loc sub plan now sub' ∧ sub'.id = sub.id ∧
      db'.subscriptions.get? sub.id = some sub' := by
  obtain ⟨sub', db', hOk⟩ := maybeResetUserSubscriptionWithPlanTx_ok_of
    (resetLoop_isSome hProgress hFuel) hVersion
  obtain ⟨hDue, rfl⟩ := maybeResetUserSubscriptionWithPlanTx_ok hOk hRow
  refine ⟨sub', _, hOk, maybeResetUserSubscriptionWithPlanTx_checked hOk, hDue.id_eq, ?_⟩
  rw [← hDue.id_eq] at hRow ⊢
  exact Table.get?_put_self hRow

theorem checkAll_same (hFuel : (last + 1).toNat ≤ fuel)
    (hTimes : (times ++ [last]).Pairwise (· ≤ ·)) (hProgress : Progress loc sub plan)
    (hOn : OnSchedule loc sub plan)
    (hVersion : 0 ≤ sub.quotaResetVersion ∧ sub.quotaResetVersion + times.length < maxInt64)
    (hRow : db.subscriptions.get? sub.id = some sub) :
    ∃ many db', checkAll loc fuel plan (times ++ [last]) sub db = .ok (many, db') ∧
      db'.subscriptions.get? sub.id = some many ∧
      ∀ single, Checked loc sub plan last single → SamePeriod many single := by
  induction times generalizing sub db with
  | nil =>
    have hFits : 0 ≤ sub.quotaResetVersion ∧ sub.quotaResetVersion < maxInt64 := by
      simpa using hVersion
    obtain ⟨sub', db', hOk, hChecked, -, hStored⟩ := check_stored hProgress hFuel hFits hRow
    refine ⟨sub', db', Tx.bind_of_ok hOk _, hStored, fun single hSingle => ?_⟩
    rw [hChecked.unique hSingle]
    exact .refl _
  | cons first rest ih =>
    rw [List.cons_append] at hTimes ⊢
    obtain ⟨hFirst, hRest⟩ := List.pairwise_cons.mp hTimes
    have hLast : first ≤ last := hFirst last (by simp)
    simp only [List.length_cons, Nat.cast_add, Nat.cast_one] at hVersion
    have hFuelFirst : (first + 1).toNat ≤ fuel := by omega
    obtain ⟨sub', db', hOk, hChecked, hId, hStored⟩ :=
      check_stored hProgress hFuelFirst (by omega) hRow
    have hGrown := hChecked.version
    rw [← hId] at hStored
    obtain ⟨many, db'', hMany, hManyStored, hSame⟩ := ih hRest (hChecked.progress hProgress)
      (hChecked.onSchedule hProgress hOn) (by omega) hStored
    rw [hId] at hManyStored
    refine ⟨many, db'', (Tx.bind_of_ok hOk _).trans hMany, hManyStored, fun single hSingle => ?_⟩
    obtain ⟨later, -, -, hLater, -, -⟩ := check_stored (hChecked.progress hProgress)
      hFuel (by omega) hStored
    exact (hSame later hLater).trans (hChecked.then hLast hProgress hOn hLater hSingle)

end Sequence

/-- A subscription starts on its schedule. -/
theorem newUserSubscription_onSchedule (hNow : 0 < now) (id userId endTime : Int)
    (source prevGroup : String)
    (hProgress : Progress loc (newUserSubscription loc id userId plan source prevGroup now endTime)
      plan) :
    OnSchedule loc (newUserSubscription loc id userId plan source prevGroup now endTime) plan := by
  set sub := newUserSubscription loc id userId plan source prevGroup now endTime with hSub
  have hBase : resetBase sub = now := by
    have hLast : sub.lastResetTime = if calcNextResetTime loc now plan endTime > 0 then now else 0 :=
      rfl
    have hStart : sub.startTime = now := rfl
    unfold resetBase
    rw [hLast, hStart]
    split <;> split <;> omega
  have hNext : sub.nextResetTime = scheduledReset loc sub plan := by
    rw [scheduledReset_eq, hBase]
    rfl
  refine ⟨?_, le_rfl⟩
  rw [hNext, scheduledReset_eq, hBase]
  exact (hProgress.boundary hNow).imp_right fun hPositive => ⟨hPositive, le_rfl⟩

/-! ### Fixed offsets -/

theorem progress_fixed
    (hCustom : (resetPlan sub plan).quotaResetCustomSeconds * 1000000000 < 2 ^ 63) :
    Progress (.fixed offset) sub plan := fun base =>
  calcNextResetTime_progress (fixed_calm offset) base (resetPlan sub plan) sub.endTime hCustom

theorem catch_up_path_independent (offset : Int) (sub : UserSubscription)
    (plan : SubscriptionPlan) (times : List Int) (last : Int)
    (hTimes : (times ++ [last]).Pairwise (· ≤ ·)) (hOn : OnSchedule (.fixed offset) sub plan)
    (hCustom : (resetPlan sub plan).quotaResetCustomSeconds * 1000000000 < 2 ^ 63)
    (hVersion : 0 ≤ sub.quotaResetVersion ∧ sub.quotaResetVersion + times.length < maxInt64)
    (db : Database) (hRow : db.subscriptions.get? sub.id = some sub) (fuel : Nat)
    (hFuel : (last + 1).toNat ≤ fuel) :
    ∃ many db₁ single db₂,
      checkAll (.fixed offset) fuel plan (times ++ [last]) sub db = .ok (many, db₁) ∧
      maybeResetUserSubscriptionWithPlanTx (.fixed offset) fuel sub plan last db =
        .ok (single, db₂) ∧
      db₁.subscriptions.get? sub.id = some many ∧ db₂.subscriptions.get? sub.id = some single ∧
      many.lastResetTime = single.lastResetTime ∧ many.nextResetTime = single.nextResetTime ∧
      many.amountUsed = single.amountUsed ∧ many.amountUsedTotal = single.amountUsedTotal ∧
      (single.nextResetTime = 0 ∨ last < single.nextResetTime) := by
  have hProgress : Progress (.fixed offset) sub plan := progress_fixed hCustom
  obtain ⟨single, db₂, hOk, hChecked, -, hStored⟩ :=
    check_stored hProgress hFuel (by omega) hRow
  obtain ⟨many, db₁, hMany, hManyStored, hSame⟩ :=
    checkAll_same hFuel hTimes hProgress hOn hVersion hRow
  have hPeriod := hSame single hChecked
  exact ⟨many, db₁, single, db₂, hMany, hOk, hManyStored, hStored, hPeriod.last, hPeriod.next,
    hPeriod.used, hPeriod.total, hChecked.next_ahead hProgress hOn⟩

def sampleDaily : UserSubscription :=
  newUserSubscription .utc 1 1 dailyPlan "order" "" 1000 10000000

theorem catch_up_path_independent_daily :
    ∃ many db₁ single db₂,
      checkAll (.fixed 0) 200002 dailyPlan ([90000] ++ [200001]) sampleDaily
        { subscriptions := .single sampleDaily } = .ok (many, db₁) ∧
      maybeResetUserSubscriptionWithPlanTx (.fixed 0) 200002 sampleDaily dailyPlan 200001
        { subscriptions := .single sampleDaily } = .ok (single, db₂) ∧
      db₁.subscriptions.get? 1 = some many ∧ db₂.subscriptions.get? 1 = some single ∧
      many.lastResetTime = single.lastResetTime ∧ many.nextResetTime = single.nextResetTime ∧
      many.amountUsed = single.amountUsed ∧ many.amountUsedTotal = single.amountUsedTotal ∧
      (single.nextResetTime = 0 ∨ 200001 < single.nextResetTime) := by
  have hProgress : Progress (.fixed 0) sampleDaily dailyPlan := progress_fixed (by decide)
  exact catch_up_path_independent 0 sampleDaily dailyPlan [90000] 200001 (by decide)
    (newUserSubscription_onSchedule (by decide) 1 1 10000000 "order" "" hProgress) (by decide)
    (by decide) { subscriptions := .single sampleDaily } (by decide) 200002 (by decide)

def tenSecondPlan : SubscriptionPlan :=
  { id := 1, quotaResetPeriod := .known .custom, quotaResetCustomSeconds := 10 }

def sampleEdited : Database where
  plans := .single tenSecondPlan
  subscriptions := .single sampleDaily

def sampleShortened : UserSubscription :=
  { sampleDaily with quotaResetVersion := 1, lastResetTime := 1005, nextResetTime := 1015 }

/-- A reset written by the edited plan has passed and is not a boundary of the schedule the
subscription was bought with, so a check neither performs it nor moves it. -/
theorem passed_reset_stays :
    (((adminResetPlanSubscriptions (.fixed 0) 1 true 1005).commit sampleEdited).1.subscriptions.get?
        1) = some sampleShortened ∧
      (maybeResetUserSubscriptionWithPlanTx (.fixed 0) 2000 sampleShortened tenSecondPlan 1020
        { subscriptions := .single sampleShortened }).map
          (fun result => result.1.nextResetTime) = .ok 1015 := by
  constructor
  · decide +kernel
  · rfl

end XyApi.Subscription

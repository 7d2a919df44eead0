import XyApi.Subscription.Purchase

/-!
Progress of the reset schedule. In a calm zone the next reset lies strictly after
the time it is computed from, so catching up with the present takes finitely many
rounds. Where a change of the offset skips a midnight, the next reset can be the
time it is computed from, and catching up never ends.
-/

namespace XyApi.Subscription

open Lib Lib.Calendar

variable {base : Int} {sub : UserSubscription} {plan : SubscriptionPlan}

/-! ### The next boundary -/

section Boundary

variable {loc : Location}

theorem civilDate_eq : civilDate loc t = civilFromDays (dayAt loc t) := rfl

/-- Counting days on from a civil day. -/
theorem date_civilFromDays (n k : Int) :
    date loc (civilFromDays n).year (civilFromDays n).month ((civilFromDays n).day + k) 0 =
      fromLocal loc ((n + k) * secondsPerDay) := by
  obtain ⟨hLow, hHigh⟩ := civilFromDays_month n
  have hYear : ((civilFromDays n).month - 1) / 12 = 0 := by omega
  have hMonth : ((civilFromDays n).month - 1) % 12 + 1 = (civilFromDays n).month := by omega
  simp only [date, hYear, hMonth, Int.add_zero]
  rw [daysFromCivil_add, daysFromCivil_civilFromDays]

theorem startOfDay_eq :
    startOfDay loc t = fromLocal loc (dayAt loc t * secondsPerDay) := by
  have h : _ = fromLocal loc ((dayAt loc t + 0) * secondsPerDay) := date_civilFromDays _ 0
  rw [Int.add_zero, Int.add_zero] at h
  exact h

theorem startOfMonth_eq :
    startOfMonth loc t = fromLocal loc (monthStart (dayAt loc t) * secondsPerDay) := by
  obtain ⟨hLow, hHigh⟩ := civilFromDays_month (dayAt loc t)
  have hYear : ((civilFromDays (dayAt loc t)).month - 1) / 12 = 0 := by omega
  have hMonth : ((civilFromDays (dayAt loc t)).month - 1) % 12 + 1 =
      (civilFromDays (dayAt loc t)).month := by omega
  simp only [startOfMonth, civilDate_eq, date, hYear, hMonth, Int.add_zero]
  rfl

theorem addDate_startOfDay (hCalm : loc.Calm bound) (t k : Int) :
    addDate loc (startOfDay loc t) 0 0 k = fromLocal loc ((dayAt loc t + k) * secondsPerDay) := by
  simp only [addDate, startOfDay_eq, civilDate_eq, hCalm.dayAt_fromLocal, hCalm.clock_fromLocal,
    Int.add_zero]
  exact date_civilFromDays _ _

theorem addDate_startOfMonth (hCalm : loc.Calm bound) :
    addDate loc (startOfMonth loc t) 0 1 0 =
      fromLocal loc (daysFromCivil
        ((civilFromDays (dayAt loc t)).year + (civilFromDays (dayAt loc t)).month / 12)
        ((civilFromDays (dayAt loc t)).month % 12 + 1) 1 * secondsPerDay) := by
  simp only [addDate, startOfMonth_eq, civilDate_eq, hCalm.dayAt_fromLocal,
    hCalm.clock_fromLocal, civilFromDays_monthStart, date, Int.add_zero, Int.add_sub_cancel]

theorem daysUntilMonday_pos : 0 < daysUntilMonday loc t := by
  unfold daysUntilMonday weekday
  simp only
  split <;> omega

theorem lt_addSeconds (hPos : 0 < seconds) (hFits : seconds * 1000000000 < 2 ^ 63) :
    base < addSeconds base seconds := by
  have hWrap : (seconds * 1000000000 + 2 ^ 63) % 2 ^ 64 = seconds * 1000000000 + 2 ^ 63 :=
    Int.emod_eq_of_lt (by omega) (by omega)
  unfold addSeconds
  rw [hWrap]
  omega

theorem calcNextResetTime_progress (hCalm : loc.Calm bound) (base : Int) (plan : SubscriptionPlan)
    (endUnix : Int) (hCustom : plan.quotaResetCustomSeconds * 1000000000 < 2 ^ 63) :
    calcNextResetTime loc base plan endUnix = 0 ∨
      base < calcNextResetTime loc base plan endUnix := by
  have hBounded {next : Int} (hLt : base < next) :
      (if endUnix > 0 ∧ next > endUnix then 0 else next) = 0 ∨
        base < if endUnix > 0 ∧ next > endUnix then 0 else next := by
    split
    · exact .inl rfl
    · exact .inr hLt
  unfold calcNextResetTime
  cases normalizeResetPeriod plan.quotaResetPeriod with
  | never => exact .inl rfl
  | daily =>
    refine hBounded ?_
    rw [addDate_startOfDay hCalm]
    exact hCalm.lt_fromLocal (by omega)
  | weekly =>
    refine hBounded ?_
    rw [addDate_startOfDay hCalm]
    have : 0 < daysUntilMonday loc base := daysUntilMonday_pos
    exact hCalm.lt_fromLocal (by omega)
  | monthly =>
    refine hBounded ?_
    rw [addDate_startOfMonth hCalm]
    exact hCalm.lt_fromLocal (lt_nextMonth _)
  | custom =>
    by_cases hSeconds : plan.quotaResetCustomSeconds ≤ 0
    · exact .inl (by simp [hSeconds])
    · simp only [hSeconds, if_false]
      exact hBounded (lt_addSeconds (by omega) hCustom)

end Boundary

/-! ### The loop -/

section Loop

variable {now : Int}

theorem catchUp_of_passed (fuel : Nat) (h : ¬ (next > 0 ∧ next ≤ now)) :
    catchUp nextOf now fuel base next advanced = some (base, next, advanced) := by
  cases fuel <;> simp only [catchUp, if_neg h]

/-- Each round moves the boundary on, so as many rounds as there are seconds left
are enough. -/
theorem catchUp_isSome (hProgress : ∀ base, nextOf base = 0 ∨ base < nextOf base) (fuel : Nat)
    (base next : Int) (advanced : Bool) (hFuel : (now + 1 - next).toNat ≤ fuel) :
    (catchUp nextOf now fuel base next advanced).isSome := by
  induction fuel generalizing base next advanced with
  | zero =>
    rw [catchUp_of_passed 0 (by omega)]
    rfl
  | succ fuel ih =>
    by_cases hDue : next > 0 ∧ next ≤ now
    · simp only [catchUp, if_pos hDue]
      rcases hProgress next with hZero | hLater
      · rw [hZero, catchUp_of_passed fuel (by omega)]
        rfl
      · exact ih next (nextOf next) true (by omega)
    · rw [catchUp_of_passed _ hDue]
      rfl

/-- More fuel does not change what the loop returns. -/
theorem catchUp_of_le (hSome : (catchUp nextOf now fuel base next advanced).isSome) (hLe : fuel ≤ n)
    :
    catchUp nextOf now n base next advanced = catchUp nextOf now fuel base next advanced := by
  induction fuel generalizing n base next advanced with
  | zero =>
    by_cases hDue : next > 0 ∧ next ≤ now
    · simp only [catchUp, if_pos hDue] at hSome
      cases hSome
    · rw [catchUp_of_passed _ hDue, catchUp_of_passed _ hDue]
  | succ fuel ih =>
    by_cases hDue : next > 0 ∧ next ≤ now
    · cases n with
      | zero => omega
      | succ =>
        simp only [catchUp, if_pos hDue] at hSome ⊢
        exact ih hSome (by omega)
    · rw [catchUp_of_passed _ hDue, catchUp_of_passed _ hDue]

/-- A boundary that is its own successor is never passed. -/
theorem catchUp_stuck (hFixed : nextOf boundary = boundary) (hDue : boundary > 0 ∧ boundary ≤ now)
    (fuel : Nat) (base : Int) (advanced : Bool) :
    catchUp nextOf now fuel base boundary advanced = none := by
  induction fuel generalizing base advanced with
  | zero => simp only [catchUp, if_pos hDue]
  | succ fuel ih =>
    simp only [catchUp, if_pos hDue, hFixed]
    exact ih boundary true

end Loop

def resetLoop (loc : Location) (sub : UserSubscription) (plan : SubscriptionPlan) (now : Int)
    (fuel : Nat) : Option (Int × Int × Bool) :=
  catchUp (fun base => calcNextResetTime loc base (resetPlan sub plan) sub.endTime) now fuel
    (resetBase sub) (scheduledReset loc sub plan) false

theorem maybeResetUserSubscriptionWithPlanTx_congr
    (h : resetLoop loc sub plan now n = resetLoop loc sub plan now m) :
    maybeResetUserSubscriptionWithPlanTx loc n sub plan now =
      maybeResetUserSubscriptionWithPlanTx loc m sub plan now := by
  unfold maybeResetUserSubscriptionWithPlanTx
  unfold resetLoop scheduledReset resetBase at h
  simp only [h]

theorem advanceSubscriptionQuotaResetVersion_cases (sub : UserSubscription) (db : Database) :
    advanceSubscriptionQuotaResetVersion sub db = .error resetVersionOverflow ∨
      ∃ sub', advanceSubscriptionQuotaResetVersion sub db = .ok (sub', db) := by
  unfold advanceSubscriptionQuotaResetVersion
  by_cases hVersion : sub.quotaResetVersion < 0 ∨ sub.quotaResetVersion = maxInt64
  · exact .inl (Tx.failIf_bind_of hVersion _)
  · exact .inr ⟨_, Tx.failIf_bind_of_not hVersion _⟩

theorem maybeResetUserSubscriptionWithPlanTx_returns (h : (resetLoop loc sub plan now n).isSome) :
    maybeResetUserSubscriptionWithPlanTx loc n sub plan now db ≠ .error .outOfFuel := by
  obtain ⟨⟨base, next, advanced⟩, hLoop⟩ := Option.isSome_iff_exists.mp h
  unfold resetLoop scheduledReset resetBase at hLoop
  unfold maybeResetUserSubscriptionWithPlanTx
  split
  · rintro ⟨⟩
  · split
    · rintro ⟨⟩
    · simp only [hLoop, Tx.require, Tx.pure_bind_apply]
      split
      · -- The one error left is that of a version that cannot grow.
        rcases advanceSubscriptionQuotaResetVersion_cases _ db with hFull | ⟨sub', hNext⟩
        · rw [Tx.bind_of_error hFull]
          rintro ⟨⟩
        · rw [Tx.bind_of_ok hNext]
          rintro ⟨⟩
      · split <;> rintro ⟨⟩

theorem maybeResetUserSubscriptionWithPlanTx_outOfFuel
    (hDue : ¬ (sub.nextResetTime > 0 ∧ sub.nextResetTime > now))
    (hPeriod : normalizeResetPeriod (resetPlan sub plan).quotaResetPeriod ≠ .never)
    (h : resetLoop loc sub plan now n = none) :
    maybeResetUserSubscriptionWithPlanTx loc n sub plan now db = .error .outOfFuel := by
  unfold resetLoop scheduledReset resetBase at h
  unfold maybeResetUserSubscriptionWithPlanTx
  rw [if_neg hDue, if_neg hPeriod]
  simp only [h]
  rfl

/-- The clock goes from five to four hours west of UTC at two in the morning. -/
def nightChange : Location := ⟨-18000, [(25200, -14400)], by simp⟩

theorem offsetAt_nightChange :
    nightChange.offsetAt t = if t < 25200 then -18000 else -14400 := by
  simp only [Location.offsetAt, Location.lookup, nightChange, lookupFrom]
  split <;> rfl

theorem nightChange_calm : nightChange.Calm 18000 where
  small t := by
    rw [offsetAt_nightChange]
    split <;> omega
  once s t u hst htu _ := by
    simp only [offsetAt_nightChange]
    split <;> split <;> split <;> omega
  sameDay t := by
    simp only [offsetAt_nightChange, secondsPerDay]
    split <;> split <;> omega

def dailyPlan : SubscriptionPlan := { id := 1, quotaResetPeriod := .known .daily }

/-- The clock goes from three to two hours west of UTC at midnight: on that day
there is no midnight. -/
def midnightGap : Location := ⟨-10800, [(1541300400, -7200)], by simp⟩

def dayBeforeGap : UserSubscription :=
  newUserSubscription midnightGap 1 1 dailyPlan "order" "" 1541246400 1543838400

end XyApi.Subscription

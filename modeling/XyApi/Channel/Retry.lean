import Mathlib.Tactic.Ring
import Mathlib.Data.List.Basic

/-!
The retries of a relayed request. The loop in the relay counts up a retry number, and the
selection of a channel may move on to the next auto group: it then resets the number and
suppresses the next increment. The first attempt uses the channel of the distributor.
-/

namespace XyApi.Selection

structure ApiError where
  isChannelError : Bool := false
  isSkipRetry : Bool := false
  statusCode : Int
  errorCode : String := ""
  deriving DecidableEq

/-- What stays the same over a request. A fixed group has no number of auto groups. -/
structure RelayConfig where
  retryTimes : Nat
  autoGroups : Option Nat
  crossGroupRetry : Bool
  skipRetryAfterAffinityFailure : Bool := false
  specificChannel : Bool := false
  isAlwaysSkipRetryCode : String → Bool := fun _ => false
  shouldRetryByStatusCode : Int → Bool

structure RetryParam where
  groupIndex : Nat := 0
  retry : Nat := 0
  resetNextTry : Bool := false
  deriving DecidableEq

/-- What happens at one attempt: which channels can be found for a group and a priority
retry then, and how the request fares. The groups are numbered. -/
structure Attempt (χ : Type) where
  getRandomSatisfiedChannel : Nat → Nat → Option χ
  bodyFails : Bool := false
  error : Option ApiError

def RetryParam.increaseRetry (p : RetryParam) : RetryParam :=
  if p.resetNextTry then { p with resetNextTry := false } else { p with retry := p.retry + 1 }

variable {χ : Type} (cfg : RelayConfig)

def selectFrom (select : Nat → Nat → Option χ) :
    Nat → Nat → Nat → RetryParam → Option χ × RetryParam
  | 0, _, _, p => (none, p)
  | count + 1, i, priorityRetry, p =>
    match select i priorityRetry with
    | none => selectFrom select count (i + 1) 0 { p with groupIndex := i + 1, retry := 0 }
    | some channel =>
      if cfg.crossGroupRetry ∧ cfg.retryTimes ≤ priorityRetry then
        (some channel, { groupIndex := i + 1, retry := 0, resetNextTry := true })
      else (some channel, { p with groupIndex := i })

def cacheGetRandomSatisfiedChannel (select : Nat → Nat → Option χ) (p : RetryParam) :
    Option χ × RetryParam :=
  match cfg.autoGroups with
  | some groups => selectFrom cfg select (groups - p.groupIndex) p.groupIndex p.retry p
  | none => (select 0 p.retry, p)

def shouldRetry (error : ApiError) (retryTimes : Int) : Bool :=
  if cfg.skipRetryAfterAffinityFailure then false
  else if error.isChannelError then true
  else if error.isSkipRetry ∨ retryTimes ≤ 0 ∨ cfg.specificChannel then false
  else if 200 ≤ error.statusCode ∧ error.statusCode < 300 then false
  else if error.statusCode < 100 ∨ error.statusCode > 599 then true
  else if cfg.isAlwaysSkipRetryCode error.errorCode then false
  else cfg.shouldRetryByStatusCode error.statusCode

/-- The channels used for upstream attempts, unless the fuel runs out. `first` is the
channel of the distributor, for the first turn. -/
def relayLoop (tape : Nat → Attempt χ) :
    Nat → Nat → Option χ → RetryParam → Option (List χ)
  | 0, _, _, _ => none
  | fuel + 1, k, first, p =>
    if cfg.retryTimes < p.retry then some []
    else
      match (if first.isSome then (first, p)
        else cacheGetRandomSatisfiedChannel cfg (tape k).getRandomSatisfiedChannel p) with
      | (none, _) => some []
      | (some channel, p) =>
        if (tape k).bodyFails then some []
        else
          match (tape k).error with
          | none => some [channel]
          | some error =>
            if shouldRetry cfg error (cfg.retryTimes - p.retry) then
              (relayLoop tape fuel (k + 1) none p.increaseRetry).map (channel :: ·)
            else some [channel]

/-! ### Termination -/

def budget (p : RetryParam) : Nat :=
  match cfg.autoGroups with
  | some groups => groups * (cfg.retryTimes + 1) - (p.groupIndex * (cfg.retryTimes + 1) + p.retry)
  | none => cfg.retryTimes + 1 - p.retry

variable {cfg}

/-- A channel that was found leaves a later group or a higher retry number. -/
theorem selectFrom_some (h : selectFrom cfg select count i priorityRetry p = (some channel, p'))
    (hRetry : p.retry = priorityRetry) (hLe : priorityRetry ≤ cfg.retryTimes)
    (hReset : p.resetNextTry = false) :
    0 < count ∧ i * (cfg.retryTimes + 1) + priorityRetry <
      p'.increaseRetry.groupIndex * (cfg.retryTimes + 1) + p'.increaseRetry.retry := by
  induction count generalizing i priorityRetry p with
  | zero => cases h
  | succ count ih =>
    refine ⟨Nat.succ_pos _, ?_⟩
    rw [selectFrom] at h
    split at h
    · have hNext := (ih h rfl (Nat.zero_le _) hReset).2
      rw [Nat.add_mul] at hNext
      omega
    · split at h
      · cases h
        change _ < (i + 1) * (cfg.retryTimes + 1) + 0
        rw [Nat.add_mul]
        omega
      · cases h
        rw [RetryParam.increaseRetry, if_neg (by simp [hReset])]
        dsimp only
        omega

theorem increaseRetry_resetNextTry (p : RetryParam) : p.increaseRetry.resetNextTry = false := by
  unfold RetryParam.increaseRetry
  split
  · rfl
  · next hReset => exact Bool.eq_false_iff.mpr hReset

theorem budget_select (h : cacheGetRandomSatisfiedChannel cfg select p = (some channel, p'))
    (hLe : p.retry ≤ cfg.retryTimes) (hReset : p.resetNextTry = false) :
    budget cfg p'.increaseRetry < budget cfg p := by
  unfold cacheGetRandomSatisfiedChannel at h
  unfold budget
  cases hGroups : cfg.autoGroups with
  | none =>
    rw [hGroups] at h
    obtain ⟨-, rfl⟩ := Prod.mk.inj h
    rw [RetryParam.increaseRetry, if_neg (by simp [hReset])]
    dsimp only
    omega
  | some groups =>
    rw [hGroups] at h
    obtain ⟨hCount, hMore⟩ := selectFrom_some h rfl hLe hReset
    have hGroup : (p.groupIndex + 1) * (cfg.retryTimes + 1) ≤ groups * (cfg.retryTimes + 1) :=
      Nat.mul_le_mul_right _ (by omega)
    rw [Nat.add_mul] at hGroup
    dsimp only
    omega

theorem relayLoop_terminates (tape : Nat → Attempt χ) (hFuel : budget cfg p < fuel)
    (hReset : p.resetNextTry = false) :
    ∃ attempts, relayLoop cfg tape fuel k none p = some attempts ∧
      attempts.length ≤ budget cfg p := by
  induction fuel generalizing k p with
  | zero => omega
  | succ fuel ih =>
    rw [relayLoop]
    split
    · exact ⟨[], rfl, Nat.zero_le _⟩
    · next hRetry =>
      simp only [Option.isSome_none, Bool.false_eq_true, if_false]
      cases hSelect : cacheGetRandomSatisfiedChannel cfg (tape k).getRandomSatisfiedChannel p with
      | mk channel? p' =>
        cases channel? with
        | none => exact ⟨[], rfl, Nat.zero_le _⟩
        | some channel =>
          have hLess := budget_select hSelect (not_lt.mp hRetry) hReset
          obtain ⟨rest, hRest, hLength⟩ := ih (k := k + 1) (p := p'.increaseRetry) (by omega)
            (increaseRetry_resetNextTry p')
          dsimp only
          split
          · exact ⟨[], rfl, Nat.zero_le _⟩
          · split
            · exact ⟨[channel], rfl, by simp only [List.length_singleton]; omega⟩
            · split
              · refine ⟨channel :: rest, by rw [hRest]; rfl, ?_⟩
                rw [List.length_cons]
                omega
              · exact ⟨[channel], rfl, by simp only [List.length_singleton]; omega⟩

def attemptBound (cfg : RelayConfig) : Nat :=
  match cfg.autoGroups with
  | some groups => groups * (cfg.retryTimes + 1) + 1
  | none => cfg.retryTimes + 1

/-- Whatever channels are found and whatever fails, the loop ends within its bound. -/
theorem relay_attempts_bounded (cfg : RelayConfig) (tape : Nat → Attempt χ) (first : χ)
    (groupIndex : Nat) :
    ∃ attempts, relayLoop cfg tape (attemptBound cfg + 2) 0 (some first) { groupIndex } =
      some attempts ∧ attempts.length ≤ attemptBound cfg := by
  have hBudget : budget cfg { groupIndex, retry := 1 } + 1 ≤ attemptBound cfg := by
    unfold budget attemptBound
    cases cfg.autoGroups <;> dsimp only <;> omega
  rw [relayLoop, if_neg (Nat.not_lt_zero _)]
  simp only [Option.isSome_some, if_true]
  obtain ⟨rest, hRest, hLength⟩ : ∃ rest, relayLoop cfg tape (attemptBound cfg + 1) 1 none
      { groupIndex, retry := 1 } = some rest ∧ rest.length ≤ _ :=
    relayLoop_terminates tape (by omega) rfl
  split
  · exact ⟨[], rfl, Nat.zero_le _⟩
  · split
    · exact ⟨[first], rfl, by simp only [List.length_singleton]; omega⟩
    · split
      · refine ⟨first :: rest, ?_, by rw [List.length_cons]; omega⟩
        exact congrArg (Option.map _) hRest
      · exact ⟨[first], rfl, by simp only [List.length_singleton]; omega⟩

/-! ### Order -/

/-- The group and the priority level of the channel found, where `levels` says how many
levels each group has. -/
def levelSelect (levels : Nat → Nat) (i priorityRetry : Nat) : Option (Nat × Nat) :=
  if levels i = 0 then none else some (i, min priorityRetry (levels i - 1))

/-- The distributor selects the first channel, and the loop of the relay takes over. -/
def relay (cfg : RelayConfig) (tape : Nat → Attempt χ) (fuel : Nat) : Option (List χ) :=
  match cacheGetRandomSatisfiedChannel cfg (tape 0).getRandomSatisfiedChannel {} with
  | (none, _) => some []
  | (some channel, p) => relayLoop cfg tape fuel 0 (some channel) { groupIndex := p.groupIndex }

def failing (levels : Nat → Nat) (error : ApiError) : Nat → Attempt (Nat × Nat) :=
  fun _ => { getRandomSatisfiedChannel := levelSelect levels, error := some error }

def lexicographic (levels : Nat → Nat) (start count : Nat) : List (Nat × Nat) :=
  (List.range' start count).flatMap fun i => (List.range (levels i)).map (i, ·)

theorem selectFrom_first (h : selectFrom cfg select count i 0 p = (some channel, p'))
    (hRetries : 1 ≤ cfg.retryTimes) (hRetry : p.retry = 0) (hReset : p.resetNextTry = false) :
    p'.retry = 0 ∧ p'.resetNextTry = false := by
  induction count generalizing i p with
  | zero => cases h
  | succ count ih =>
    rw [selectFrom] at h
    split at h
    · exact ih h rfl hReset
    · rw [if_neg (by omega)] at h
      cases h
      exact ⟨hRetry, hReset⟩

section Order

variable {groups : Nat}
  (hAuto : cfg.autoGroups = some groups) (hCross : cfg.crossGroupRetry = true)
  (hRetries : 1 ≤ cfg.retryTimes) (hError : ∀ n > 0, shouldRetry cfg error n = true)
include hAuto hCross hRetries hError

theorem relayLoop_turn (hi : i < groups) (hRetry : retry ≤ cfg.retryTimes)
    (hLevels : levels i = cfg.retryTimes + 1) (fuel k : Nat) :
    relayLoop cfg (failing levels error) (fuel + 1) k none ⟨i, retry, false⟩ =
      (relayLoop cfg (failing levels error) fuel (k + 1) none
        (if cfg.retryTimes ≤ retry then ⟨i + 1, 0, false⟩ else ⟨i, retry + 1, false⟩)).map
        ((i, retry) :: ·) := by
  have hSelect : levelSelect levels i retry = some (i, retry) := by
    rw [levelSelect, if_neg (by omega), hLevels, Nat.add_sub_cancel, Nat.min_eq_left hRetry]
  obtain ⟨count, hCount⟩ := Nat.exists_eq_succ_of_ne_zero (show groups - i ≠ 0 by omega)
  rw [relayLoop, if_neg (not_lt.mpr hRetry)]
  simp only [Option.isSome_none, Bool.false_eq_true, if_false, cacheGetRandomSatisfiedChannel,
    hAuto, hCount, selectFrom, failing, hSelect, hCross, true_and]
  by_cases hLast : cfg.retryTimes ≤ retry
  · simp only [if_pos hLast, RetryParam.increaseRetry, if_true]
    rw [if_pos (hError _ (by omega))]
  · simp only [if_neg hLast, RetryParam.increaseRetry, Bool.false_eq_true, if_false]
    rw [if_pos (hError _ (by omega))]

/-- A group with as many levels as there are tries is run through level by level. -/
theorem relayLoop_group (hi : i < groups) (hLevels : levels i = cfg.retryTimes + 1)
    (left fuel k retry : Nat) (hLeft : retry + left = cfg.retryTimes) :
    ∃ k', relayLoop cfg (failing levels error) (fuel + (left + 1)) k none ⟨i, retry, false⟩ =
      (relayLoop cfg (failing levels error) fuel k' none ⟨i + 1, 0, false⟩).map
        ((List.range' retry (left + 1)).map (i, ·) ++ ·) := by
  induction left generalizing retry k with
  | zero =>
    refine ⟨k + 1, ?_⟩
    rw [relayLoop_turn hAuto hCross hRetries hError hi (by omega) hLevels, if_pos (by omega)]
    rfl
  | succ left ih =>
    obtain ⟨k', hRest⟩ := ih (k + 1) (retry + 1) (by omega)
    refine ⟨k', ?_⟩
    rw [← Nat.add_assoc, relayLoop_turn hAuto hCross hRetries hError hi (by omega) hLevels,
      if_neg (by omega), hRest, Option.map_map]
    rfl

theorem relayLoop_order (hLevels : ∀ i < groups, levels i = 0 ∨ levels i = cfg.retryTimes + 1)
    (count i fuel k : Nat) (hCount : i + count = groups)
    (hFuel : (lexicographic levels i count).length < fuel) :
    relayLoop cfg (failing levels error) fuel k none ⟨i, 0, false⟩ =
      some (lexicographic levels i count) := by
  induction count generalizing i fuel k with
  | zero =>
    obtain ⟨fuel, rfl⟩ := Nat.exists_eq_succ_of_ne_zero (Nat.ne_zero_of_lt hFuel)
    simp [relayLoop, cacheGetRandomSatisfiedChannel, hAuto, ← hCount, selectFrom, lexicographic]
  | succ count ih =>
    have hSplit : lexicographic levels i (count + 1) =
        (List.range (levels i)).map (i, ·) ++ lexicographic levels (i + 1) count := rfl
    rw [hSplit, List.length_append, List.length_map, List.length_range] at hFuel
    rw [hSplit]
    rcases hLevels i (by omega) with hEmpty | hFull
    · obtain ⟨fuel, rfl⟩ := Nat.exists_eq_succ_of_ne_zero (Nat.ne_zero_of_lt hFuel)
      have hNone : levelSelect levels i 0 = none := if_pos hEmpty
      have hNext := ih (i + 1) (fuel + 1) k (by omega) (by omega)
      rw [hEmpty, List.range_zero, List.map_nil, List.nil_append, ← hNext, relayLoop, relayLoop]
      simp only [cacheGetRandomSatisfiedChannel, hAuto, failing,
        show groups - i = groups - (i + 1) + 1 by omega, selectFrom, hNone]
      rfl
    · obtain ⟨rest, rfl⟩ := Nat.exists_eq_add_of_lt (show cfg.retryTimes < fuel by omega)
      obtain ⟨k', hGroup⟩ := relayLoop_group hAuto hCross hRetries hError (show i < groups by omega)
        hFull cfg.retryTimes rest k 0 (Nat.zero_add _)
      rw [show cfg.retryTimes + rest + 1 = rest + (cfg.retryTimes + 1) by omega, hGroup,
        ih (i + 1) rest k' (by omega) (by omega), hFull, List.range_eq_range']
      rfl

end Order

def sampleRelay (retryTimes : Nat) : RelayConfig where
  retryTimes := retryTimes
  autoGroups := some 2
  crossGroupRetry := true
  shouldRetryByStatusCode _ := true

end XyApi.Selection

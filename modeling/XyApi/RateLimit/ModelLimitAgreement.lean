import XyApi.RateLimit.WindowBound

/-!
When the two forms of the model limit refuse the same requests. The memory form counts
every request that passes its check, at its arrival and by the second; the Redis form
counts the successful ones, at their completion and by the millisecond. Where each
request succeeds at the instant it arrives, both decide by the same log.
-/

namespace XyApi.RateLimit

open Lib Lib.SlidingWindow

variable {config : ModelLimitConfig} {userId phase now : Int} {log : List Int}
  {l : InMemoryRateLimiter} {redis : Redis}

def InPhase (phase time : Int) : Prop := time % 1000 = phase

theorem unix_sub_lt_iff (hNow : InPhase phase now) (hTime : InPhase phase time) :
    unix now - unix time < d ↔ now - time < d * 1000 := by
  unfold InPhase at hNow hTime
  unfold unix
  omega

theorem tdiv_sub_lt_iff (hNow : InPhase phase now) (hTime : InPhase phase time) :
    (now - time).tdiv 1000 < d ↔ now - time < d * 1000 := by
  unfold InPhase at hNow hTime
  have hDvd : (1000 : Int) ∣ now - time := by omega
  rw [Int.tdiv_eq_ediv_of_dvd hDvd]
  omega

theorem recent_unix (hNow : InPhase phase now) (hLog : ∀ t ∈ log, InPhase phase t) (d : Int) :
    recent d (unix now) (log.map unix) = recent (d * 1000) now log := by
  unfold recent
  rw [List.countP_map]
  refine List.countP_congr fun t ht => ?_
  simpa using unix_sub_lt_iff hNow (hLog t ht)

/-! ### Redis -/

/-- The list holds the newest successes that can still be in the window. -/
def RedisTracks (config : ModelLimitConfig) (now : Int) (log : List Int) (redis : Redis) : Prop :=
  match redis.successes with
  | none => ∀ t ∈ log, config.duration * 1000 ≤ now - t
  | some list => ∃ gone kept, log = gone ++ kept ∧
      (∀ t ∈ gone, config.duration * 1000 ≤ now - t) ∧
      list.items = kept.reverse.take config.successMaxCount.toNat ∧
      ∀ t ∈ kept, t + config.duration * 1000 ≤ list.expiresAt

theorem RedisTracks.mono (hLater : now ≤ later) (h : RedisTracks config now log redis) :
    RedisTracks config later log redis := by
  unfold RedisTracks at h ⊢
  cases hList : redis.successes with
  | none =>
    simp only [hList] at h ⊢
    intro t ht
    have := h t ht
    omega
  | some =>
    simp only [hList] at h ⊢
    obtain ⟨gone, kept, hLog, hGone, hRest⟩ := h
    refine ⟨gone, kept, hLog, fun t ht => ?_, hRest⟩
    have := hGone t ht
    omega

theorem RedisTracks.live (h : RedisTracks config now log redis) :
    ∃ gone kept, log = gone ++ kept ∧ (∀ t ∈ gone, config.duration * 1000 ≤ now - t) ∧
      redis.liveItems now = kept.reverse.take config.successMaxCount.toNat := by
  unfold RedisTracks at h
  unfold Redis.liveItems
  cases hList : redis.successes with
  | none =>
    simp only [hList] at h ⊢
    exact ⟨log, [], by simp, h, by simp⟩
  | some =>
    simp only [hList] at h ⊢
    obtain ⟨gone, kept, hLog, hGone, hItems, hExpires⟩ := h
    split
    · exact ⟨gone, kept, hLog, hGone, hItems⟩
    · refine ⟨log, [], by simp, fun t ht => ?_, by simp⟩
      rw [hLog] at ht
      rcases List.mem_append.mp ht with ht | ht
      · exact hGone t ht
      · have := hExpires t ht
        omega

theorem RedisTracks.expire (hPast : ∀ t ∈ log, t ≤ now)
    (h : RedisTracks config now log redis) :
    RedisTracks config now log (redis.expire now config.duration) := by
  unfold RedisTracks Redis.expire at *
  cases hList : redis.successes with
  | none => simpa [hList] using h
  | some list =>
    simp only [hList] at h
    obtain ⟨gone, kept, hLog, hGone, hItems, hExpires⟩ := h
    by_cases hLive : now < list.expiresAt
    · simp only [Option.filter_some, hLive, decide_true, if_true, Option.map_some]
      refine ⟨gone, kept, hLog, hGone, hItems, fun t ht => ?_⟩
      have := hPast t (hLog ▸ List.mem_append_right gone ht)
      omega
    · simp only [Option.filter_some, hLive, decide_false, Bool.false_eq_true, if_false,
        Option.map_none]
      intro t ht
      rw [hLog] at ht
      rcases List.mem_append.mp ht with ht | ht
      · exact hGone t ht
      · have := hExpires t ht
        omega

/-- The check lets a request pass exactly when fewer than the limit are in the window. -/
theorem checkRedisRateLimit_spec (hMax : 1 ≤ config.successMaxCount)
    (hTracks : RedisTracks config now log redis) (hSorted : log.Pairwise (· ≤ ·))
    (hPast : ∀ t ∈ log, t ≤ now) (hNow : InPhase phase now)
    (hLog : ∀ t ∈ log, InPhase phase t) :
    (redis.checkRedisRateLimit config now).1 =
        some (decide ((recent (config.duration * 1000) now log : Int) < config.successMaxCount)) ∧
      RedisTracks config now log (redis.checkRedisRateLimit config now).2 := by
  obtain ⟨gone, kept, hSplit, hGone, hItems⟩ := hTracks.live
  have hRecent : recent (config.duration * 1000) now log =
      recent (config.duration * 1000) now kept := by
    rw [hSplit, recent_append, recent_eq_zero hGone, Nat.zero_add]
  have hKeptSorted : kept.Pairwise (· ≤ ·) := (List.pairwise_append.mp (hSplit ▸ hSorted)).2.1
  have hLength := recent_le_length (config.duration * 1000) now kept
  unfold Redis.checkRedisRateLimit
  simp only [hItems, hRecent, List.length_take, List.length_reverse]
  rw [if_neg (by omega)]
  by_cases hFew : kept.length < config.successMaxCount.toNat
  · rw [if_pos (by omega)]
    exact ⟨congrArg some (decide_eq_true (by omega)).symm, hTracks⟩
  · rw [if_neg (by omega)]
    obtain ⟨old, hOld, hIff⟩ := newest_recent_iff (config.duration * 1000) now
      (n := config.successMaxCount.toNat) (by omega) hKeptSorted (by omega)
    have hOldMem : old ∈ log := by
      have := List.mem_of_mem_take (List.mem_of_getLast? hOld)
      rw [hSplit]
      exact List.mem_append_right gone (List.mem_reverse.mp this)
    simp only [hOld, tdiv_sub_lt_iff hNow (hLog old hOldMem)]
    by_cases hFull : now - old < config.duration * 1000
    · rw [if_pos hFull]
      have := hIff.mp hFull
      exact ⟨congrArg some (decide_eq_false (by omega)).symm, hTracks.expire hPast⟩
    · rw [if_neg hFull]
      have := mt hIff.mpr hFull
      exact ⟨congrArg some (decide_eq_true (by omega)).symm, hTracks⟩

theorem RedisTracks.record (hMax : 1 ≤ config.successMaxCount) (hPast : ∀ t ∈ log, t ≤ now)
    (h : RedisTracks config now log redis) :
    RedisTracks config now (log ++ [now]) (redis.recordRedisRequest config now) := by
  obtain ⟨gone, kept, hSplit, hGone, hItems⟩ := h.live
  unfold Redis.recordRedisRequest RedisTracks
  rw [if_neg (by omega)]
  refine ⟨gone, kept ++ [now], ?_, hGone, ?_, fun t ht => ?_⟩
  · rw [hSplit, List.append_assoc]
  · obtain ⟨n, hn⟩ : ∃ n : Nat, config.successMaxCount = n + 1 :=
      ⟨(config.successMaxCount - 1).toNat, by omega⟩
    have hCount : (config.successMaxCount - 1 + 1).toNat = n + 1 := by omega
    have hCount' : config.successMaxCount.toNat = n + 1 := by omega
    rw [Redis.trim, if_neg (by omega), hItems, hCount, hCount', List.reverse_append,
      List.reverse_singleton, List.singleton_append, List.take_succ_cons, List.take_succ_cons,
      List.take_take, min_eq_left (Nat.le_succ n)]
  · have hLe : t ≤ now := by
      rcases List.mem_append.mp ht with ht | ht
      · exact hPast t (hSplit ▸ List.mem_append_right gone ht)
      · exact (List.mem_singleton.mp ht).le
    change t + config.duration * 1000 ≤ now + config.duration * 1000
    omega

/-! ### Both -/

structure Agree (config : ModelLimitConfig) (userId phase now : Int) (log : List Int)
    (l : InMemoryRateLimiter) (redis : Redis) : Prop where
  sorted : log.Pairwise (· ≤ ·)
  past : ∀ t ∈ log, t ≤ now
  inPhase : ∀ t ∈ log, InPhase phase t
  memory : Tracks config.duration (unix now) (log.map unix) (l.store (checkKey userId))
  redis : RedisTracks config now log redis

theorem unix_mono (h : time ≤ later) : unix time ≤ unix later := by
  unfold unix
  omega

theorem Agree.mono (hLater : now ≤ later) (h : Agree config userId phase now log l redis) :
    Agree config userId phase later log l redis :=
  ⟨h.sorted, fun t ht => (h.past t ht).trans hLater, h.inPhase,
    h.memory.mono (unix_mono hLater), h.redis.mono hLater⟩

structure Instant (phase : Int) (r : ModelRequest) : Prop where
  inPhase : InPhase phase r.arrival
  completion : r.completion = r.arrival
  succeeds : r.succeeds = true

theorem successKey_ne_checkKey (userId : Int) : successKey userId ≠ checkKey userId := by
  intro h
  have hLength := congrArg String.length h
  simp [checkKey] at hLength

/-- Without a total limit, the memory form is the check on its own key. -/
theorem memoryRateLimitHandler_spec (userId : Int) (l : InMemoryRateLimiter) (r : ModelRequest)
    (hTotal : config.totalMaxCount ≤ 0) :
    (memoryRateLimitHandler config userId l r).1 =
        (l.request (unix r.arrival) (checkKey userId) config.successMaxCount config.duration).1 ∧
      (memoryRateLimitHandler config userId l r).2.store (checkKey userId) =
        (l.request (unix r.arrival) (checkKey userId) config.successMaxCount
          config.duration).2.store (checkKey userId) := by
  have hNone : ¬ config.totalMaxCount > 0 := by omega
  simp only [memoryRateLimitHandler, if_neg hNone, not_true, if_false]
  cases hCheck : (l.request (unix r.arrival) (checkKey userId) config.successMaxCount
      config.duration).1 with
  | false => simp
  | true =>
    simp only [not_true, if_false]
    split
    · exact ⟨rfl, request_other (successKey_ne_checkKey userId) _ _⟩
    · exact ⟨rfl, rfl⟩

/-- Without a total limit, the Redis form is the check and then the record. -/
theorem redisRateLimitHandler_eq (hTotal : config.totalMaxCount ≤ 0) (hSucceeds : r.succeeds = true)
    (hCheck : (redis.checkRedisRateLimit config r.arrival).1 = some room) :
    redisRateLimitHandler config redis r =
      (room, if room then
          (redis.checkRedisRateLimit config r.arrival).2.recordRedisRequest config r.completion
        else (redis.checkRedisRateLimit config r.arrival).2) := by
  unfold redisRateLimitHandler
  generalize redis.checkRedisRateLimit config r.arrival = answer at hCheck
  obtain ⟨_, after⟩ := answer
  obtain rfl : _ = some room := hCheck
  cases room with
  | false => rfl
  | true => simp [hSucceeds, show ¬ config.totalMaxCount > 0 by omega]

theorem Agree.request (hTotal : config.totalMaxCount ≤ 0) (hMax : 1 ≤ config.successMaxCount)
    (hMinutes : 0 < config.duration) (hInstant : Instant phase r)
    (h : Agree config userId phase r.arrival log l redis) :
    ∃ room, room = decide ((recent (config.duration * 1000) r.arrival log : Int) <
        config.successMaxCount) ∧
      (memoryRateLimitHandler config userId l r).1 = room ∧
      (redisRateLimitHandler config redis r).1 = room ∧
      Agree config userId phase r.arrival (if room then log ++ [r.arrival] else log)
        (memoryRateLimitHandler config userId l r).2 (redisRateLimitHandler config redis r).2 := by
  obtain ⟨hPhase, hCompletion, hSucceeds⟩ := hInstant
  obtain ⟨hServed, hTracks⟩ := request_spec hMax hMinutes h.memory
  rw [recent_unix hPhase h.inPhase] at hServed
  obtain ⟨hCheck, hRedis⟩ :=
    checkRedisRateLimit_spec hMax h.redis h.sorted h.past hPhase h.inPhase
  obtain ⟨hMemory, hStore⟩ := memoryRateLimitHandler_spec userId l r hTotal
  refine ⟨_, rfl, hMemory.trans hServed, ?_, ?_⟩
  · rw [redisRateLimitHandler_eq hTotal hSucceeds hCheck]
  · rw [redisRateLimitHandler_eq hTotal hSucceeds hCheck]
    rw [← hStore, hServed] at hTracks
    cases hRoom : decide ((recent (config.duration * 1000) r.arrival log : Int) <
        config.successMaxCount) with
    | false =>
      rw [hRoom] at hTracks
      exact ⟨h.sorted, h.past, h.inPhase, hTracks, hRedis⟩
    | true =>
      rw [hRoom] at hTracks
      refine ⟨?_, fun t ht => ?_, fun t ht => ?_, ?_, ?_⟩
      · exact List.pairwise_append.mpr ⟨h.sorted, List.pairwise_singleton _ _,
          fun t ht t' ht' => (List.mem_singleton.mp ht') ▸ h.past t ht⟩
      · rcases List.mem_append.mp ht with ht | ht
        · exact h.past t ht
        · exact (List.mem_singleton.mp ht).le
      · rcases List.mem_append.mp ht with ht | ht
        · exact h.inPhase t ht
        · exact (List.mem_singleton.mp ht) ▸ hPhase
      · simpa using hTracks
      · simpa [hCompletion] using hRedis.record hMax h.past

theorem Agree.clean (hExpire : config.duration ≤ l.expirationDuration + 1)
    (h : Agree config userId phase time log l redis) :
    Agree config userId phase time log (l.clearExpiredItems (unix time)) redis :=
  ⟨h.sorted, h.past, h.inPhase, h.memory.clean hExpire, h.redis⟩

theorem expirationDuration_memoryStep (hTotal : config.totalMaxCount ≤ 0)
    (event : ModelLimitEvent) :
    (memoryStep config userId l event).expirationDuration = l.expirationDuration := by
  cases event with
  | clean => rfl
  | request =>
    have hNone : ¬ config.totalMaxCount > 0 := by omega
    simp only [memoryStep, memoryRateLimitHandler, if_neg hNone, not_true, if_false]
    split
    · exact expirationDuration_request
    · split
      · rw [expirationDuration_request, expirationDuration_request]
      · exact expirationDuration_request

def AllInstant (phase : Int) (events : List ModelLimitEvent) : Prop :=
  ∀ r, .request r ∈ events → Instant phase r

section

variable (hTotal : config.totalMaxCount ≤ 0)
  (hMax : 1 ≤ config.successMaxCount) (hMinutes : 0 < config.duration)

include hTotal hMax hMinutes

/-- Over a run, both forms serve the same requests and hold the same log, which is that
of the successes of the Redis form. -/
theorem Agree.run (hExpire : config.duration ≤ l.expirationDuration + 1)
    (hTimes : events.Pairwise (·.time ≤ ·.time)) (hFrom : ∀ e ∈ events, now ≤ e.time)
    (hTo : ∀ e ∈ events, e.time ≤ last) (hLast : now ≤ last) (hInstant : AllInstant phase events)
    (h : Agree config userId phase now log l redis) :
    memoryServed config userId l events = redisServed config redis events ∧
      Agree config userId phase last (log ++ redisSuccesses config redis events)
        (Lib.run (memoryStep config userId) l events) (Lib.run (redisStep config) redis events) := by
  induction events generalizing l redis log now with
  | nil => exact ⟨rfl, by simpa [redisSuccesses] using h.mono hLast⟩
  | cons e rest ih =>
    obtain ⟨hFirst, hTimes⟩ := List.pairwise_cons.mp hTimes
    have hNow := h.mono (hFrom e List.mem_cons_self)
    have hRest : AllInstant phase rest := fun r hr => hInstant r (List.mem_cons_of_mem e hr)
    have hToRest : ∀ e' ∈ rest, e'.time ≤ last := fun e' he' => hTo e' (List.mem_cons_of_mem e he')
    have hTail {log : List Int} (hStep : Agree config userId phase e.time log
        (memoryStep config userId l e) (redisStep config redis e)) :=
      ih (by rw [expirationDuration_memoryStep hTotal]; exact hExpire) hTimes hFirst hToRest
        (hTo e List.mem_cons_self) hRest hStep
    cases e with
    | clean => exact hTail (hNow.clean hExpire)
    | request r =>
      obtain ⟨room, -, hMemory, hRedis, hStep⟩ :=
        hNow.request hTotal hMax hMinutes (hInstant r List.mem_cons_self)
      obtain ⟨hSame, hAgree⟩ := hTail hStep
      refine ⟨?_, ?_⟩
      · rw [memoryServed, redisServed, hMemory, hRedis, hSame]
      · have hSucceeds := (hInstant r List.mem_cons_self).succeeds
        have hCompletion := (hInstant r List.mem_cons_self).completion
        rw [redisSuccesses, hRedis, hSucceeds, hCompletion, ← List.append_assoc]
        cases room with
        | false => simpa using hAgree
        | true => simpa using hAgree

end

theorem Agree.fresh (config : ModelLimitConfig) (userId phase now expiration : Int) :
    Agree config userId phase now [] (freshLimiter expiration) {} :=
  ⟨.nil, by simp, by simp, by simp [freshLimiter, Tracks], by simp [RedisTracks]⟩

def sampleOncePerMinute : List ModelLimitEvent :=
  [.request ⟨0, 0, 200⟩, .request ⟨30000, 30000, 200⟩, .clean 45000, .request ⟨60000, 60000, 200⟩]

end XyApi.RateLimit

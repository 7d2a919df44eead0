import XyApi.RateLimit.ModelLimit

/-!
The sliding window of the in-memory limiter, over every run. The queue of a key holds
the accepted requests that can still be in the window, so a request is accepted exactly
when fewer than the maximum are. The cleaner keeps that true as long as it deletes no
key that still has a request in the window.
-/

namespace XyApi.RateLimit

open Lib Lib.SlidingWindow

variable {now duration : Int} {buckets : List RateLimitBucket} {log : List Int}

def requestsOf (buckets : List RateLimitBucket) : List Int :=
  buckets.flatMap fun b => List.replicate b.count b.timestamp

@[simp] theorem requestsOf_nil : requestsOf [] = [] := rfl

@[simp] theorem requestsOf_cons (b : RateLimitBucket) (rest : List RateLimitBucket) :
    requestsOf (b :: rest) = List.replicate b.count b.timestamp ++ requestsOf rest := rfl

@[simp] theorem requestsOf_append :
    requestsOf (bs ++ bs') = requestsOf bs ++ requestsOf bs' := List.flatMap_append

theorem mem_requestsOf (h : t ∈ requestsOf buckets) :
    ∃ b ∈ buckets, b.timestamp = t := by
  obtain ⟨b, hb, ht⟩ := List.mem_flatMap.mp h
  exact ⟨b, hb, (List.eq_of_mem_replicate ht).symm⟩

structure Ordered (now : Int) (buckets : List RateLimitBucket) : Prop where
  pairwise : buckets.Pairwise (·.timestamp ≤ ·.timestamp)
  past : ∀ b ∈ buckets, b.timestamp ≤ now

theorem Ordered.mono (h : Ordered now buckets) (hLater : now ≤ later) :
    Ordered later buckets :=
  ⟨h.pairwise, fun b hb => (h.past b hb).trans hLater⟩

theorem expireBuckets_spec (now duration : Int) (buckets : List RateLimitBucket) (total : Int) :
    ∃ gone, buckets = gone ++ (expireBuckets now duration buckets total).1 ∧
      (∀ b ∈ gone, duration ≤ now - b.timestamp) ∧
      (expireBuckets now duration buckets total).2 = total - (requestsOf gone).length ∧
      ∀ b ∈ (expireBuckets now duration buckets total).1.head?, now - b.timestamp < duration := by
  induction buckets generalizing total with
  | nil => exact ⟨[], rfl, by simp, by simp [expireBuckets], by simp [expireBuckets]⟩
  | cons b rest ih =>
    unfold expireBuckets
    split
    · rename_i hOut
      obtain ⟨gone, hSplit, hGone, hTotal, hHead⟩ := ih (total - b.count)
      refine ⟨b :: gone, congrArg (b :: ·) hSplit, ?_, ?_, hHead⟩
      · rintro b' (_ | ⟨_, hb'⟩)
        · exact hOut
        · exact hGone b' hb'
      · rw [hTotal]
        simp
        omega
    · rename_i hIn
      exact ⟨[], rfl, by simp, by simp, by simpa using hIn⟩

/-- In an ordered queue everything behind the first live bucket is live. -/
theorem live_of_head (hOrdered : Ordered now buckets)
    (hHead : ∀ b ∈ buckets.head?, now - b.timestamp < duration) :
    ∀ b ∈ buckets, now - b.timestamp < duration := by
  cases buckets with
  | nil => simp
  | cons b =>
    have hFirst := hHead b rfl
    rintro b' (_ | ⟨_, hb'⟩)
    · exact hFirst
    · have := (List.pairwise_cons.mp hOrdered.pairwise).1 b' hb'
      omega

theorem requestsOf_countRequest : requestsOf (countRequest now buckets) =
    requestsOf buckets ++ [now] := by
  induction buckets with
  | nil => rfl
  | cons b rest ih =>
    cases rest with
    | nil =>
      unfold countRequest
      split
      · rename_i hNow
        simp [hNow, List.replicate_succ']
      · simp
    | cons =>
      rw [countRequest, requestsOf_cons, ih, requestsOf_cons b, List.append_assoc]

theorem Ordered.countRequest (h : Ordered now buckets) : Ordered now (countRequest now buckets) := by
  refine ⟨?_, fun b hb => (mem_countRequest hb).elim le_of_eq (h.past b)⟩
  have hPairwise := h.pairwise
  have hPast := h.past
  clear h
  induction buckets with
  | nil => exact List.pairwise_singleton _ _
  | cons b rest ih =>
    cases rest with
    | nil =>
      unfold RateLimit.countRequest
      split
      · exact List.pairwise_singleton _ _
      · simpa using hPast b List.mem_cons_self
    | cons =>
      obtain ⟨hFirst, hRest⟩ := List.pairwise_cons.mp hPairwise
      refine List.pairwise_cons.mpr ⟨fun x hx => ?_,
        ih hRest fun x hx => hPast x (List.mem_cons_of_mem b hx)⟩
      rcases mem_countRequest hx with hNow | hx
      · exact (hPast b List.mem_cons_self).trans (le_of_eq hNow.symm)
      · exact hFirst x hx

/-! ### What the queue of a key says about the log -/

/-- The queue holds every accepted request that can still be in the window. -/
structure Queued (duration now : Int) (log : List Int) (window : RateLimitWindow) : Prop where
  split : ∃ gone, log = gone ++ requestsOf window.buckets ∧ ∀ t ∈ gone, duration ≤ now - t
  total : window.total = (requestsOf window.buckets).length
  ordered : Ordered now window.buckets

/-- A key that is not in the store has nothing in the window. -/
def Tracks (duration now : Int) (log : List Int) : Option RateLimitWindow → Prop
  | none => ∀ t ∈ log, duration ≤ now - t
  | some window => Queued duration now log window

theorem Tracks.mono {window? : Option RateLimitWindow} (hLater : now ≤ later)
    (h : Tracks duration now log window?) : Tracks duration later log window? := by
  cases window? with
  | none =>
    intro t ht
    have := h t ht
    omega
  | some =>
    obtain ⟨⟨gone, hLog, hGone⟩, hTotal, hOrdered⟩ := h
    refine ⟨⟨gone, hLog, fun t ht => ?_⟩, hTotal, hOrdered.mono hLater⟩
    have := hGone t ht
    omega

/-- After old buckets are dropped, the total is the number of requests in the window. -/
theorem Queued.expire (h : Queued duration now log window) :
    Queued duration now log
        ⟨(expireBuckets now duration window.buckets window.total).1,
          (expireBuckets now duration window.buckets window.total).2⟩ ∧
      (expireBuckets now duration window.buckets window.total).2 = recent duration now log := by
  obtain ⟨⟨gone, hLog, hGone⟩, hTotal, hOrdered⟩ := h
  obtain ⟨out, hSplit, hOut, hLeft, hHead⟩ :=
    expireBuckets_spec now duration window.buckets window.total
  generalize expireBuckets now duration window.buckets window.total = result at *
  obtain ⟨buckets, total⟩ := result
  simp only at hSplit hLeft hHead ⊢
  rw [hSplit] at hLog hTotal hOrdered
  have hOrdered' : Ordered now buckets :=
    ⟨(List.pairwise_append.mp hOrdered.pairwise).2.1,
      fun b hb => hOrdered.past b (List.mem_append_right out hb)⟩
  have hLive : ∀ t ∈ requestsOf buckets, now - t < duration := fun t ht => by
    obtain ⟨b, hb, rfl⟩ := mem_requestsOf ht
    exact live_of_head hOrdered' hHead b hb
  have hTotal' : total = (requestsOf buckets).length := by
    rw [hLeft, hTotal, requestsOf_append, List.length_append]
    omega
  have hGone' : ∀ t ∈ gone ++ requestsOf out, duration ≤ now - t := fun t ht => by
    rcases List.mem_append.mp ht with ht | ht
    · exact hGone t ht
    · obtain ⟨b, hb, rfl⟩ := mem_requestsOf ht
      exact hOut b hb
  have hLog' : log = (gone ++ requestsOf out) ++ requestsOf buckets := by
    rw [hLog, requestsOf_append, List.append_assoc]
  refine ⟨⟨⟨_, hLog', hGone'⟩, hTotal', hOrdered'⟩, ?_⟩
  rw [hLog', recent_append, recent_eq_zero hGone', recent_eq_length hLive, hTotal', Nat.zero_add]

theorem Queued.count (h : Queued duration now log window) :
    Queued duration now (log ++ [now]) ⟨countRequest now window.buckets, window.total + 1⟩ := by
  obtain ⟨⟨gone, hLog, hGone⟩, hTotal, hOrdered⟩ := h
  refine ⟨⟨gone, ?_, hGone⟩, ?_, hOrdered.countRequest⟩
  · rw [hLog, requestsOf_countRequest, List.append_assoc]
  · rw [hTotal, requestsOf_countRequest, List.length_append]
    rfl

/-! ### Steps and runs -/

section

variable {l : InMemoryRateLimiter} {key : String} {m : Int}

/-- A request is accepted exactly when fewer than the maximum are in the window. -/
theorem request_spec (hm : 0 < m) (hd : 0 < duration)
    (hTracks : Tracks duration now log (l.store key)) :
    (l.request now key m duration).1 = decide ((recent duration now log : Int) < m) ∧
      Tracks duration now (if (l.request now key m duration).1 then log ++ [now] else log)
        ((l.request now key m duration).2.store key) := by
  unfold InMemoryRateLimiter.request
  rw [if_neg (by omega)]
  cases hStore : l.store key with
  | none =>
    rw [hStore] at hTracks
    have hNone : recent duration now log = 0 := recent_eq_zero hTracks
    refine ⟨by simp [hNone, hm], ?_⟩
    simp only [InMemoryRateLimiter.put, Function.update_self, if_true]
    exact ⟨⟨log, by simp, hTracks⟩, by simp, ⟨by simp, by simp⟩⟩
  | some =>
    rw [hStore] at hTracks
    obtain ⟨hQueued, hRecent⟩ := Queued.expire hTracks
    simp only [hRecent] at hQueued ⊢
    by_cases hFull : (recent duration now log : Int) ≥ m
    · rw [if_pos hFull]
      refine ⟨by simp [hFull], ?_⟩
      simpa [InMemoryRateLimiter.put, Tracks] using hQueued
    · rw [if_neg hFull]
      refine ⟨by simpa using hFull, ?_⟩
      simpa [InMemoryRateLimiter.put, Tracks] using hQueued.count

theorem request_other (hKey : k ≠ key) (m' d' : Int) :
    (l.request now k m' d').2.store key = l.store key := by
  unfold InMemoryRateLimiter.request
  split
  · rfl
  · split
    · simp [InMemoryRateLimiter.put, hKey.symm]
    · simp only
      split <;> simp [InMemoryRateLimiter.put, hKey.symm]

theorem le_getLast (hOrdered : Ordered now buckets) (hLast : buckets.getLast? = some last)
    (hb : b ∈ buckets) : b.timestamp ≤ last.timestamp := by
  obtain ⟨front, rfl⟩ := List.getLast?_eq_some_iff.mp hLast
  rcases List.mem_append.mp hb with hb | hb
  · exact (List.pairwise_append.mp hOrdered.pairwise).2.2 b hb last List.mem_cons_self
  · rw [List.mem_singleton.mp hb]

/-- The cleaner only deletes a key whose requests have all left the window. -/
theorem Tracks.clean (hExpire : duration ≤ l.expirationDuration + 1)
    (hTracks : Tracks duration now log (l.store key)) :
    Tracks duration now log ((l.clearExpiredItems now).store key) := by
  change Tracks duration now log ((l.store key).filter _)
  cases hStore : l.store key with
  | none =>
    rw [hStore] at hTracks
    exact hTracks
  | some window =>
    rw [hStore] at hTracks
    rw [Option.filter_some]
    split
    · exact hTracks
    · rename_i hExpired
      simp only [Bool.not_eq_true, Bool.not_eq_false, decide_eq_true_eq] at hExpired
      obtain ⟨⟨gone, hLog, hGone⟩, -, hOrdered⟩ := hTracks
      intro t ht
      rw [hLog] at ht
      rcases List.mem_append.mp ht with ht | ht
      · exact hGone t ht
      · obtain ⟨b, hb, rfl⟩ := mem_requestsOf ht
        unfold InMemoryRateLimiter.expired at hExpired
        cases hLast : window.buckets.getLast? with
        | none =>
          rw [List.getLast?_eq_none_iff.mp hLast] at hb
          cases hb
        | some =>
          have hLe := le_getLast hOrdered hLast hb
          simp only [hLast, decide_eq_true_eq] at hExpired
          omega

theorem expirationDuration_request :
    (l.request now k m' d').2.expirationDuration = l.expirationDuration := by
  unfold InMemoryRateLimiter.request
  split
  · rfl
  · split
    · rfl
    · simp only
      split <;> rfl

theorem expirationDuration_step :
    (l.step e).expirationDuration = l.expirationDuration := by
  unfold InMemoryRateLimiter.step
  split
  · exact expirationDuration_request
  · rfl

/-- Every request of the key names this maximum and this window. -/
def UsedWith (key : String) (m duration : Int) (e : LimiterEvent) : Prop :=
  ∀ m' d', e.action = .request key m' d' → m' = m ∧ d' = duration

/-- What holds between the limiter and the requests of a key it accepted. -/
structure Sound (key : String) (m duration now : Int) (log : List Int)
    (l : InMemoryRateLimiter) : Prop where
  tracks : Tracks duration now log (l.store key)
  past : ∀ t ∈ log, t ≤ now
  bounded : Bounded m duration log

theorem Sound.mono (h : Sound key m duration now log l) (hLater : now ≤ later) :
    Sound key m duration later log l :=
  ⟨h.tracks.mono hLater, fun t ht => (h.past t ht).trans hLater, h.bounded⟩

theorem Sound.step (hm : 0 < m) (hd : 0 < duration) (hExpire : duration ≤ l.expirationDuration + 1)
    (hUsed : UsedWith key m duration e) (h : Sound key m duration e.now log l) :
    Sound key m duration e.now (log ++ l.acceptedAt key e) (l.step e) := by
  obtain ⟨time, action⟩ := e
  cases action with
  | clean =>
    simp only [InMemoryRateLimiter.acceptedAt, List.append_nil]
    exact ⟨h.tracks.clean hExpire, h.past, h.bounded⟩
  | request k m' d' =>
    by_cases hKey : k = key
    · subst hKey
      obtain ⟨rfl, rfl⟩ := hUsed m' d' rfl
      obtain ⟨hAnswer, hTracks⟩ := request_spec hm hd h.tracks
      simp only [InMemoryRateLimiter.acceptedAt, InMemoryRateLimiter.answer,
        InMemoryRateLimiter.step, true_and]
      by_cases hRoom : (recent d' time log : Int) < m'
      · rw [hAnswer, decide_eq_true hRoom, if_pos rfl] at hTracks
        rw [hAnswer, decide_eq_true hRoom, if_pos rfl]
        refine ⟨hTracks, fun t ht => ?_, h.bounded.append h.past hRoom⟩
        rcases List.mem_append.mp ht with ht | ht
        · exact h.past t ht
        · exact (List.mem_singleton.mp ht).le
      · rw [hAnswer, decide_eq_false hRoom, if_neg Bool.false_ne_true] at hTracks
        rw [hAnswer, decide_eq_false hRoom, if_neg Bool.false_ne_true, List.append_nil]
        exact ⟨hTracks, h.past, h.bounded⟩
    · simp only [InMemoryRateLimiter.acceptedAt, hKey, false_and, if_false, List.append_nil]
      refine ⟨?_, h.past, h.bounded⟩
      simp only [InMemoryRateLimiter.step, request_other hKey]
      exact h.tracks

/-- The same over a whole run: the times never go back. -/
theorem Sound.run (hm : 0 < m) (hd : 0 < duration) (hExpire : duration ≤ l.expirationDuration + 1)
    (hUsed : ∀ e ∈ events, UsedWith key m duration e) (hTimes : events.Pairwise (·.now ≤ ·.now))
    (hFrom : ∀ e ∈ events, now ≤ e.now) (hTo : ∀ e ∈ events, e.now ≤ later) (hLater : now ≤ later)
    (h : Sound key m duration now log l) :
    Sound key m duration later (log ++ l.acceptedTimes key events)
      (run InMemoryRateLimiter.step l events) := by
  induction events generalizing l log now with
  | nil =>
    rw [InMemoryRateLimiter.acceptedTimes, List.append_nil]
    exact h.mono hLater
  | cons e rest ih =>
    obtain ⟨hFirst, hTimes⟩ := List.pairwise_cons.mp hTimes
    have hStep := (h.mono (hFrom e List.mem_cons_self)).step hm hd hExpire
      (hUsed e List.mem_cons_self)
    rw [InMemoryRateLimiter.acceptedTimes, ← List.append_assoc, run_cons]
    exact ih (by rw [expirationDuration_step]; exact hExpire)
      (fun e' he' => hUsed e' (List.mem_cons_of_mem e he')) hTimes hFirst
      (fun e' he' => hTo e' (List.mem_cons_of_mem e he')) (hTo e List.mem_cons_self) hStep

def freshLimiter (expiration : Int) : InMemoryRateLimiter := { expirationDuration := expiration }

theorem Sound.fresh (expiration now : Int) (hm : 0 < m) :
    Sound key m duration now [] (freshLimiter expiration) :=
  ⟨by simp [freshLimiter, Tracks], by simp, bounded_nil hm.le⟩

/-- While the window is not longer than the expiration and the second it takes to pass
it, any window holds at most the maximum, and only a full window refuses. -/
theorem memory_window_bound {expiration : Int} {events : List LimiterEvent} (hm : 1 ≤ m)
    (hd : 0 < duration) (hExpire : duration ≤ expiration + 1)
    (hUsed : ∀ e ∈ events, UsedWith key m duration e)
    (hTimes : events.Pairwise (·.now ≤ ·.now)) :
    Bounded m duration ((freshLimiter expiration).acceptedTimes key events) ∧
      ∀ before e after, events = before ++ e :: after → e.action = .request key m duration →
        (run InMemoryRateLimiter.step (freshLimiter expiration) before).answer e = false →
        m ≤ recent duration e.now ((freshLimiter expiration).acceptedTimes key before) := by
  obtain ⟨first, last, hLe, hBounds⟩ := exists_bounds LimiterEvent.now events
  have hFresh : Sound key m duration first [] (freshLimiter expiration) := .fresh _ _ hm
  constructor
  · have hSound := hFresh.run hm hd hExpire hUsed hTimes (fun e he => (hBounds e he).1)
      (fun e he => (hBounds e he).2) hLe
    simpa using hSound.bounded
  · rintro before e after rfl hAction hRefused
    have hBefore : ∀ e' ∈ before, e' ∈ before ++ e :: after := fun e' he' =>
      List.mem_append_left _ he'
    obtain ⟨hTimes, -, hUpTo⟩ := List.pairwise_append.mp hTimes
    have hSound := hFresh.run hm hd hExpire (fun e' he' => hUsed e' (hBefore e' he')) hTimes
      (fun e' he' => (hBounds e' (hBefore e' he')).1)
      (fun e' he' => hUpTo e' he' e List.mem_cons_self) (hBounds e (by simp)).1
    have hAnswer := (request_spec hm hd hSound.tracks).1
    simp only [InMemoryRateLimiter.answer, hAction, hAnswer, List.nil_append,
      decide_eq_false_iff_not, not_lt] at hRefused
    exact hRefused

/-- Two requests a second apart at a limit of one a second, with a cleaner between them. -/
theorem memory_window_bound_one_second :
    Bounded 1 1 ((freshLimiter rateLimitKeyExpiration).acceptedTimes "user"
      [⟨10, .request "user" 1 1⟩, ⟨11, .clean⟩, ⟨11, .request "user" 1 1⟩]) :=
  (memory_window_bound le_rfl one_pos (by decide)
    (by simp [UsedWith]) (by decide)).1

/-- With a window of an hour, the cleaner forgets a request after twenty minutes. -/
theorem cleaner_reopens_window :
    (freshLimiter rateLimitKeyExpiration).acceptedTimes "user"
      [⟨1000, .request "user" 1 3600⟩, ⟨1200, .clean⟩, ⟨2400, .clean⟩,
        ⟨2500, .request "user" 1 3600⟩] = [1000, 2500] ∧
    ¬ Bounded 1 3600 [1000, 2500] := by
  refine ⟨by decide, fun hBounded => ?_⟩
  have hBoth := hBounded 1000
  revert hBoth
  decide

end

end XyApi.RateLimit

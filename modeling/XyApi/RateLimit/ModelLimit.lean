import XyApi.Lib.SlidingWindow
import XyApi.Lib.Transaction
import Mathlib.Logic.Function.Basic

/-!
The limit on model requests, in its two forms. In memory, a request is counted under a
key of its own when it is checked against the success limit. In Redis, the success limit
reads a list of the times at which successful requests completed, and the total limit is
a bucket of tokens. Times are in milliseconds; the memory limiter and the token bucket
read whole seconds of the same clock.
-/

namespace XyApi.RateLimit

open Lib Lib.SlidingWindow

/-! ### In memory -/

section

variable (l : InMemoryRateLimiter)

structure RateLimitBucket where
  timestamp : Int
  count : Nat
  deriving DecidableEq, Repr

structure RateLimitWindow where
  buckets : List RateLimitBucket
  total : Int
  deriving DecidableEq, Repr

def rateLimitKeyExpiration : Int := 20 * 60

structure InMemoryRateLimiter where
  store : String → Option RateLimitWindow := fun _ => none
  /-- The expiration that the limiter was initialised with, in seconds. -/
  expirationDuration : Int

def expireBuckets (now duration : Int) :
    List RateLimitBucket → Int → List RateLimitBucket × Int
  | [], total => ([], total)
  | b :: rest, total =>
    if now - b.timestamp ≥ duration then expireBuckets now duration rest (total - b.count)
    else (b :: rest, total)

def countRequest (now : Int) : List RateLimitBucket → List RateLimitBucket
  | [] => [{ timestamp := now, count := 1 }]
  | [b] =>
    if b.timestamp = now then [{ b with count := b.count + 1 }]
    else [b, { timestamp := now, count := 1 }]
  | b :: b' :: rest => b :: countRequest now (b' :: rest)

theorem mem_countRequest (h : b ∈ countRequest now buckets) :
    b.timestamp = now ∨ b ∈ buckets := by
  induction buckets with
  | nil =>
    obtain rfl := List.mem_singleton.mp h
    exact .inl rfl
  | cons b' rest ih =>
    cases rest with
    | nil =>
      unfold countRequest at h
      split at h
      · rename_i hNow
        obtain rfl := List.mem_singleton.mp h
        exact .inl hNow
      · simp only [List.mem_cons, List.not_mem_nil, or_false] at h
        rcases h with rfl | rfl
        · exact .inr List.mem_cons_self
        · exact .inl rfl
    | cons =>
      rcases List.mem_cons.mp h with rfl | h
      · exact .inr List.mem_cons_self
      · exact (ih h).imp_right (List.mem_cons_of_mem b')

namespace InMemoryRateLimiter

def put (key : String) (window : RateLimitWindow) : InMemoryRateLimiter :=
  { l with store := Function.update l.store key (some window) }

/-- The answer and the limiter afterwards; a refused request still drops old buckets. -/
def request (now : Int) (key : String) (maxRequestNum duration : Int) :
    Bool × InMemoryRateLimiter :=
  if maxRequestNum ≤ 0 ∨ duration ≤ 0 then (false, l)
  else
    match l.store key with
    | none => (true, l.put key { buckets := [{ timestamp := now, count := 1 }], total := 1 })
    | some window =>
      let (buckets, total) := expireBuckets now duration window.buckets window.total
      if total ≥ maxRequestNum then (false, l.put key { buckets := buckets, total := total })
      else (true, l.put key { buckets := countRequest now buckets, total := total + 1 })

def expired (now : Int) (window : RateLimitWindow) : Bool :=
  match window.buckets.getLast? with
  | none => true
  | some b => now - b.timestamp > l.expirationDuration

def clearExpiredItems (now : Int) : InMemoryRateLimiter :=
  { l with store := fun key => (l.store key).filter fun window => ¬ l.expired now window }

end InMemoryRateLimiter

inductive LimiterAction
  | request (key : String) (maxRequestNum duration : Int)
  | clean
  deriving DecidableEq, Repr

/-- An action and the second in which it holds the limiter's lock. -/
structure LimiterEvent where
  now : Int
  action : LimiterAction
  deriving DecidableEq, Repr

namespace InMemoryRateLimiter

def answer (e : LimiterEvent) : Bool :=
  match e.action with
  | .request key maxRequestNum duration => (l.request e.now key maxRequestNum duration).1
  | .clean => false

def step (e : LimiterEvent) : InMemoryRateLimiter :=
  match e.action with
  | .request key maxRequestNum duration => (l.request e.now key maxRequestNum duration).2
  | .clean => l.clearExpiredItems e.now

def acceptedAt (key : String) (l : InMemoryRateLimiter) (e : LimiterEvent) : List Int :=
  match e.action with
  | .request k _ _ => if k = key ∧ l.answer e then [e.now] else []
  | .clean => []

def acceptedTimes (key : String) : InMemoryRateLimiter → List LimiterEvent → List Int
  | _, [] => []
  | l, e :: rest => l.acceptedAt key e ++ acceptedTimes key (l.step e) rest

end InMemoryRateLimiter

end

/-! ### In Redis -/

variable (config : ModelLimitConfig) (userId : Int) (redis : Redis)

structure ModelLimitConfig where
  durationMinutes : Int
  totalMaxCount : Int
  successMaxCount : Int
  deriving DecidableEq, Repr

def ModelLimitConfig.duration : Int := config.durationMinutes * 60

/-- A request that reached the limit, and how it ends if it is served. -/
structure ModelRequest where
  arrival : Int
  completion : Int
  status : Int
  deriving DecidableEq, Repr

def ModelRequest.succeeds (r : ModelRequest) : Bool := r.status < 400

def unix (time : Int) : Int := time / 1000

/-! ### In memory -/

def totalKey : String := "MRRL" ++ toString userId

def successKey : String := "MRRLS" ++ toString userId

def checkKey : String := successKey userId ++ "_check"

def memoryRateLimitHandler (l : InMemoryRateLimiter) (r : ModelRequest) :
    Bool × InMemoryRateLimiter :=
  let total :=
    if config.totalMaxCount > 0 then
      l.request (unix r.arrival) (totalKey userId) config.totalMaxCount config.duration
    else (true, l)
  if ¬ total.1 then (false, total.2)
  else
    let check := total.2.request (unix r.arrival) (checkKey userId) config.successMaxCount
      config.duration
    if ¬ check.1 then (false, check.2)
    else if r.succeeds then
      (true, (check.2.request (unix r.completion) (successKey userId) config.successMaxCount
        config.duration).2)
    else (true, check.2)

/-! ### In Redis -/

structure RedisList where
  items : List Int
  expiresAt : Int
  deriving DecidableEq, Repr

structure TokenBucket where
  tokens : Int
  lastTime : Int
  deriving DecidableEq, Repr

structure Redis where
  successes : Option RedisList := none
  total : Option TokenBucket := none
  deriving DecidableEq, Repr

namespace Redis

def liveItems (now : Int) : List Int :=
  match redis.successes with
  | some list => if now < list.expiresAt then list.items else []
  | none => []

/-- `EXPIRE`, which does nothing to a key that is not there. -/
def expire (now seconds : Int) : Redis :=
  { redis with successes := (redis.successes.filter fun list => now < list.expiresAt).map fun list =>
      { list with expiresAt := now + seconds * 1000 } }

/-- The answer is missing when the check itself failed. -/
def checkRedisRateLimit (now : Int) : Option Bool × Redis :=
  let maxCount := config.successMaxCount
  if maxCount = 0 then (some true, redis)
  else if (redis.liveItems now).length < maxCount then (some true, redis)
  else
    match (redis.liveItems now).getLast? with
    | none => (none, redis)
    | some oldTime =>
      if (now - oldTime).tdiv 1000 < config.duration then
        (some false, redis.expire now (config.durationMinutes * 60))
      else (some true, redis)

/-- `LTRIM key 0 stop`; a negative index counts from the end. -/
def trim (items : List Int) (stop : Int) : List Int :=
  items.take ((if stop < 0 then items.length + stop else stop) + 1).toNat

def recordRedisRequest (now : Int) : Redis :=
  if config.successMaxCount = 0 then redis
  else { redis with successes := some {
    items := trim (now :: redis.liveItems now) (config.successMaxCount - 1)
    expiresAt := now + config.durationMinutes * 60 * 1000 } }

def allow (nowInSeconds requested rate capacity : Int) : Bool × Redis :=
  let tokens :=
    match redis.total with
    | none => capacity
    | some bucket => min capacity (bucket.tokens + (nowInSeconds - bucket.lastTime) * rate)
  if tokens ≥ requested then
    (true, { redis with total := some ⟨tokens - requested, nowInSeconds⟩ })
  else (false, { redis with total := some ⟨tokens, nowInSeconds⟩ })

end Redis

def redisRateLimitHandler (r : ModelRequest) : Bool × Redis :=
  match redis.checkRedisRateLimit config r.arrival with
  | (some true, redis) =>
    let total :=
      if config.totalMaxCount > 0 then
        redis.allow (unix r.arrival) config.duration config.totalMaxCount
          (config.totalMaxCount * config.duration)
      else (true, redis)
    if ¬ total.1 then (false, total.2)
    else if r.succeeds then (true, total.2.recordRedisRequest config r.completion)
    else (true, total.2)
  | (_, redis) => (false, redis)

/-! ### Runs -/

/-- What happens to one user's limit: requests, and passes of the memory cleaner. -/
inductive ModelLimitEvent
  | request (r : ModelRequest)
  | clean (time : Int)
  deriving DecidableEq, Repr

def ModelLimitEvent.time : ModelLimitEvent → Int
  | .request r => r.arrival
  | .clean time => time

def memoryStep (l : InMemoryRateLimiter) : ModelLimitEvent → InMemoryRateLimiter
  | .request r => (memoryRateLimitHandler config userId l r).2
  | .clean time => l.clearExpiredItems (unix time)

def redisStep : ModelLimitEvent → Redis
  | .request r => (redisRateLimitHandler config redis r).2
  | .clean _ => redis

def memoryServed (config : ModelLimitConfig) (userId : Int) :
    InMemoryRateLimiter → List ModelLimitEvent → List Bool
  | _, [] => []
  | l, .request r :: rest =>
    (memoryRateLimitHandler config userId l r).1 ::
      memoryServed config userId (memoryStep config userId l (.request r)) rest
  | l, .clean time :: rest =>
    memoryServed config userId (memoryStep config userId l (.clean time)) rest

def redisServed (config : ModelLimitConfig) : Redis → List ModelLimitEvent → List Bool
  | _, [] => []
  | redis, .request r :: rest =>
    (redisRateLimitHandler config redis r).1 ::
      redisServed config (redisStep config redis (.request r)) rest
  | redis, .clean time :: rest => redisServed config (redisStep config redis (.clean time)) rest

def redisSuccesses (config : ModelLimitConfig) : Redis → List ModelLimitEvent → List Int
  | _, [] => []
  | redis, .request r :: rest =>
    (if (redisRateLimitHandler config redis r).1 ∧ r.succeeds then [r.completion] else []) ++
      redisSuccesses config (redisStep config redis (.request r)) rest
  | redis, .clean time :: rest => redisSuccesses config (redisStep config redis (.clean time)) rest

end XyApi.RateLimit

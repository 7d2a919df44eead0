import XyApi.Lib.Interleaving
import XyApi.RateLimit.ModelLimit

/-!
The limiter of web requests over a Redis list. Each request measures the list, compares its
oldest entry with the clock and adds its own time in separate commands, so requests that
measure before either has added are both let in. Requests that take turns keep to the limit.
Times are in milliseconds of one clock.
-/

namespace XyApi.RateLimit

open Lib Lib.SlidingWindow Lib.Interleaving

variable (s : ListLimiter)

/-! ### One key -/

/-- A list with the newest item first; a new key does not expire until it is told to. -/
structure ListKey where
  items : List Int
  expiresAt : Option Int
  deriving DecidableEq, Repr

/-- The key, the clock, and the times of the requests that were let in. -/
structure ListLimiter where
  clock : Int
  key : Option ListKey := none
  admitted : List Int := []
  deriving DecidableEq, Repr

namespace ListLimiter

/-- The clock moves on, and Redis drops a key whose time is over. -/
def tick (now : Int) : ListLimiter :=
  { s with clock := now, key := s.key.filter fun key => key.expiresAt.all (now < ·) }

def items : List Int := (s.key.map ListKey.items).getD []

def lPush (stamp : Int) : ListLimiter :=
  { s with
    key := some { items := stamp :: s.items, expiresAt := s.key.bind ListKey.expiresAt }
    admitted := s.admitted ++ [stamp] }

def lTrim (stop : Int) : ListLimiter :=
  { s with key := s.key.map fun key => { key with items := Redis.trim key.items stop } }

def expire : ListLimiter :=
  { s with key := s.key.map fun key =>
      { key with expiresAt := some (s.clock + rateLimitKeyExpiration * 1000) } }

end ListLimiter

/-! ### Requests -/

inductive Verdict
  | admitted
  | tooManyRequests
  | internalServerError
  deriving DecidableEq, Repr

/-- What a request does next. Clock readings are steps of their own. -/
inductive ListClient
  | arrived
  /-- Before the time of the entry is read, with room in the list or with its oldest over. -/
  | clocking (full : Bool)
  | pushing (full : Bool) (stamp : Int)
  | trimming
  | expiring
  | reading
  | comparing (oldTime : Int)
  | rejecting
  | finished (verdict : Verdict)
  deriving DecidableEq, Repr

/-- One command of `redisRateLimiter`, or one look at the clock. -/
def redisRateLimiter (maxRequestNum duration : Int) (now : Int) (s : ListLimiter)
    (client : ListClient) : ListLimiter × ListClient :=
  let s := s.tick now
  match client with
  | .arrived => (s, if s.items.length < maxRequestNum then .clocking false else .reading)
  | .clocking full => (s, .pushing full now)
  | .pushing full stamp => (s.lPush stamp, if full then .trimming else .expiring)
  | .trimming => (s.lTrim (maxRequestNum - 1), .expiring)
  | .expiring => (s.expire, .finished .admitted)
  | .reading =>
    match s.items.getLast? with
    | none => (s, .finished .internalServerError)
    | some oldTime => (s, .comparing oldTime)
  | .comparing oldTime =>
    (s, if (now - oldTime).tdiv 1000 < duration then .rejecting else .clocking true)
  | .rejecting => (s.expire, .finished .tooManyRequests)
  | .finished verdict => (s, .finished verdict)

def ListClient.idle : ListClient → Bool
  | .arrived | .finished _ => true
  | .clocking _ | .pushing .. | .trimming | .expiring | .reading | .comparing _ | .rejecting => false

def ListClient.unexpired : ListClient → Bool
  | .trimming | .expiring => true
  | .arrived | .finished _ | .clocking _ | .pushing .. | .reading | .comparing _ | .rejecting => false

/-- The clock does not go back, and a key does not run out before its new expiry is set. -/
def Timely (now : Int) (s : ListLimiter) (client : ListClient) : Prop :=
  s.clock ≤ now ∧ (client.unexpired = true → (s.tick now).key = s.key)
  deriving Decidable

/-! ### What requests in turn keep -/

section Turns

variable {m d : Int}

structure Listed (m d : Int) (s : ListLimiter) : Prop where
  split : ∃ front, s.admitted = front ++ s.items.reverse ∧ ∀ t ∈ front, d * 1000 ≤ s.clock - t
  past : ∀ t ∈ s.admitted, t ≤ s.clock
  bounded : Bounded m (d * 1000) s.admitted

structure Quiet (m d : Int) (s : ListLimiter) : Prop where
  listed : Listed m d s
  short : s.items.length ≤ m
  covered : ∀ key ∈ s.key, ∃ expiresAt, key.expiresAt = some expiresAt ∧
    ∀ t ∈ key.items, t + d * 1000 ≤ expiresAt

def HasRoom (m d : Int) (s : ListLimiter) : Bool → Prop
  | false => s.items.length < m
  | true => 0 < m ∧ ∀ old ∈ s.items.getLast?, d * 1000 ≤ s.clock - old

def ListClient.Phase (m d : Int) (s : ListLimiter) : ListClient → Prop
  | .arrived | .finished _ | .reading | .rejecting => Quiet m d s
  | .comparing oldTime => Quiet m d s ∧ 0 < m ∧ ∀ old ∈ s.items.getLast?, old = oldTime
  | .clocking full => Quiet m d s ∧ HasRoom m d s full
  | .pushing full stamp => Quiet m d s ∧ HasRoom m d s full ∧ stamp ≤ s.clock ∧
      (∀ t ∈ s.admitted, t ≤ stamp) ∧ recent (d * 1000) stamp s.admitted < m
  | .trimming => Listed m d s ∧ s.items.length ≤ m + 1 ∧ 0 < m ∧
      (m < s.items.length → ∀ old ∈ s.items.getLast?, d * 1000 ≤ s.clock - old)
  | .expiring => Listed m d s ∧ s.items.length ≤ m

theorem Listed.item_past {s : ListLimiter} (h : Listed m d s) {t : Int} (ht : t ∈ s.items) :
    t ≤ s.clock := by
  obtain ⟨front, hSplit, -⟩ := h.split
  exact h.past t (by simp [hSplit, ht])

/-- Time passes over a key that is still there. -/
theorem tick_of_live {s : ListLimiter} {now : Int} (h : (s.tick now).key = s.key) :
    s.tick now = { s with clock := now } := by
  rw [ListLimiter.tick, ListLimiter.mk.injEq]
  exact ⟨rfl, h, rfl⟩

theorem Listed.later {s : ListLimiter} (h : Listed m d s) {now : Int} (hNow : s.clock ≤ now) :
    Listed m d { s with clock := now } := by
  obtain ⟨front, hSplit, hFront⟩ := h.split
  refine ⟨⟨front, hSplit, fun t ht => ?_⟩, fun t ht => (h.past t ht).trans hNow, h.bounded⟩
  have := hFront t ht
  dsimp only
  omega

theorem tick_cases (now : Int) :
    s.tick now = { s with clock := now } ∨ ∃ key, s.key = some key ∧ (∀ x, key.expiresAt = some x →
      x ≤ now) ∧ s.tick now = { s with clock := now, key := none } := by
  unfold ListLimiter.tick
  cases hKey : s.key with
  | none => exact .inl rfl
  | some key =>
    rw [Option.filter_some]
    by_cases hLive : key.expiresAt.all (now < ·) = true
    · exact .inl (by rw [if_pos hLive])
    · refine .inr ⟨key, rfl, fun x hx => ?_, by rw [if_neg hLive]⟩
      simpa [hx] using hLive

/-- A key that runs out takes only entries that are not recent any more. -/
theorem Quiet.tick {s : ListLimiter} (h : Quiet m d s) (hMax : 0 ≤ m) {now : Int}
    (hNow : s.clock ≤ now) : Quiet m d (s.tick now) := by
  rcases tick_cases s now with hTick | ⟨key, hKey, hOver, hTick⟩
  · rw [hTick]
    exact ⟨h.listed.later hNow, h.short, h.covered⟩
  · obtain ⟨expiresAt, hExpires, hItems⟩ := h.covered key hKey
    obtain ⟨front, hSplit, hFront⟩ := h.listed.split
    rw [hTick]
    refine ⟨⟨⟨s.admitted, by simp [ListLimiter.items], fun t ht => ?_⟩,
      fun t ht => (h.listed.past t ht).trans hNow, h.listed.bounded⟩, by simpa [ListLimiter.items],
      by simp⟩
    have hLate := hOver expiresAt hExpires
    rw [hSplit, List.mem_append, List.mem_reverse, ListLimiter.items, hKey] at ht
    dsimp only
    rcases ht with ht | ht
    · have := hFront t ht
      omega
    · have := hItems t ht
      omega

theorem tick_items (now : Int) : (s.tick now).items = s.items ∨ (s.tick now).items = [] := by
  rcases tick_cases s now with hTick | ⟨key, -, -, hTick⟩
  · exact .inl (by rw [hTick]; rfl)
  · exact .inr (by rw [hTick]; rfl)

theorem HasRoom.tick {s : ListLimiter} {full : Bool} (h : HasRoom m d s full) {now : Int}
    (hNow : s.clock ≤ now) : HasRoom m d (s.tick now) full := by
  cases full with
  | false =>
    have hShort : (s.items.length : Int) < m := h
    show ((s.tick now).items.length : Int) < m
    rcases tick_items s now with hItems | hItems
    · rwa [hItems]
    · rw [hItems]
      simp only [List.length_nil]
      omega
  | true =>
    refine ⟨h.1, fun old hOld => ?_⟩
    show d * 1000 ≤ now - old
    rcases tick_items s now with hItems | hItems
    · have := h.2 old (hItems ▸ hOld)
      omega
    · simp [hItems] at hOld

/-- Room in the list is room in the window. -/
theorem HasRoom.recent_lt {s : ListLimiter} {full : Bool} (h : HasRoom m d s full)
    (hQuiet : Quiet m d s) : recent (d * 1000) s.clock s.admitted < m := by
  obtain ⟨front, hSplit, hFront⟩ := hQuiet.listed.split
  rw [hSplit, recent_append, recent_eq_zero hFront, Nat.zero_add]
  cases full with
  | false =>
    have hLe := recent_le_length (d * 1000) s.clock s.items.reverse
    have hShort : (s.items.length : Int) < m := h
    rw [List.length_reverse] at hLe
    omega
  | true =>
    obtain ⟨hPos, hOld⟩ := h
    have hShort := hQuiet.short
    rcases s.items.eq_nil_or_concat with hItems | ⟨init, old, hItems⟩
    · simpa [hItems, recent]
    · rw [List.concat_eq_append] at hItems
      have hOver := hOld old (by simp [hItems])
      have hOne : recent (d * 1000) s.clock [old] = 0 := recent_eq_zero (by simpa using hOver)
      have hLe := recent_le_length (d * 1000) s.clock init.reverse
      rw [hItems, List.length_append, List.length_singleton] at hShort
      rw [List.length_reverse] at hLe
      rw [hItems, List.reverse_append, recent_append, List.reverse_singleton, hOne]
      push_cast at hShort ⊢
      omega

theorem Listed.lPush {s : ListLimiter} (h : Listed m d s) {stamp : Int} (hStamp : stamp ≤ s.clock)
    (hPast : ∀ t ∈ s.admitted, t ≤ stamp) (hRoom : recent (d * 1000) stamp s.admitted < m) :
    Listed m d (s.lPush stamp) := by
  obtain ⟨front, hSplit, hFront⟩ := h.split
  refine ⟨⟨front, ?_, hFront⟩, fun t ht => ?_, h.bounded.append hPast hRoom⟩
  · simp [ListLimiter.lPush, ListLimiter.items, hSplit]
  · rcases List.mem_append.mp ht with ht | ht
    · exact h.past t ht
    · exact List.mem_singleton.mp ht ▸ hStamp

theorem Listed.expire {s : ListLimiter} (h : Listed m d s) (hShort : s.items.length ≤ m)
    (hWindow : d ≤ rateLimitKeyExpiration) : Quiet m d s.expire := by
  have hItems : s.expire.items = s.items := by
    simp [ListLimiter.expire, ListLimiter.items, Option.map_map, Function.comp_def]
  refine ⟨⟨?_, h.past, h.bounded⟩, by rwa [hItems], fun key hKey => ?_⟩
  · rw [hItems]
    exact h.split
  · obtain ⟨old, hOld, rfl⟩ := Option.map_eq_some_iff.mp hKey
    refine ⟨_, rfl, fun t ht => ?_⟩
    have := h.item_past (t := t) (by simpa [ListLimiter.items, show s.key = some old from hOld])
    omega

/-- The entry that goes is not recent any more. -/
theorem Listed.lTrim {s : ListLimiter} (h : Listed m d s) (hLength : s.items.length ≤ m + 1)
    (hPos : 0 < m)
    (hOld : m < s.items.length → ∀ old ∈ s.items.getLast?, d * 1000 ≤ s.clock - old) :
    Listed m d (s.lTrim (m - 1)) ∧ (s.lTrim (m - 1)).items.length ≤ m := by
  have hItems : (s.lTrim (m - 1)).items = s.items.take m.toNat := by
    have hTrim (items : List Int) : Redis.trim items (m - 1) = items.take m.toNat := by
      rw [Redis.trim, if_neg (by omega), sub_add_cancel]
    cases hKey : s.key <;> simp [ListLimiter.lTrim, ListLimiter.items, hKey, hTrim]
  refine ⟨⟨?_, h.past, h.bounded⟩, by rw [hItems, List.length_take]; omega⟩
  obtain ⟨front, hSplit, hFront⟩ := h.split
  rw [hItems]
  by_cases hFull : m < s.items.length
  · rcases s.items.eq_nil_or_concat with hList | ⟨init, old, hList⟩
    · simp only [hList, List.length_nil] at hFull
      omega
    · rw [List.concat_eq_append] at hList
      have hOver := hOld hFull old (by simp [hList])
      have hInit : m.toNat = init.length := by
        rw [hList, List.length_append, List.length_singleton] at hFull hLength
        push_cast at hFull hLength
        omega
      refine ⟨front ++ [old], ?_, fun t ht => ?_⟩
      · rw [hList, hInit, List.take_left, List.append_assoc]
        simpa [hList, ListLimiter.lTrim] using hSplit
      · rcases List.mem_append.mp ht with ht | ht
        · exact hFront t ht
        · exact List.mem_singleton.mp ht ▸ hOver
  · rw [List.take_of_length_le (by omega)]
    exact ⟨front, hSplit, hFront⟩

/-- A command of the request whose turn it is. -/
theorem ListClient.Phase.step {s : ListLimiter} {client : ListClient} (hMax : 0 ≤ m)
    (hWindow : d ≤ rateLimitKeyExpiration) {now : Int} (hTimely : Timely now s client)
    (h : client.Phase m d s) :
    (redisRateLimiter m d now s client).2.Phase m d (redisRateLimiter m d now s client).1 := by
  obtain ⟨hNow, hLive⟩ := hTimely
  cases client with
  | arrived =>
    have hQuiet := Quiet.tick h hMax hNow
    simp only [redisRateLimiter]
    split
    · next hShort => exact ⟨hQuiet, hShort⟩
    · exact hQuiet
  | clocking =>
    have hQuiet := h.1.tick hMax hNow
    have hRoom := h.2.tick hNow
    exact ⟨hQuiet, hRoom, le_rfl, hQuiet.listed.past, hRoom.recent_lt hQuiet⟩
  | pushing full stamp =>
    obtain ⟨hQuiet, hRoom, hStamp, hPast, hRecent⟩ := h
    replace hQuiet := hQuiet.tick hMax hNow
    replace hRoom := hRoom.tick hNow
    have hListed := hQuiet.listed.lPush (hStamp.trans hNow) hPast hRecent
    have hShort := hQuiet.short
    have hLength : ((s.tick now).lPush stamp).items.length = (s.tick now).items.length + 1 := rfl
    cases full with
    | false =>
      have hLt : ((s.tick now).items.length : Int) < m := hRoom
      refine ⟨hListed, ?_⟩
      show (((s.tick now).lPush stamp).items.length : Int) ≤ m
      rw [hLength]
      push_cast
      omega
    | true =>
      refine ⟨hListed, ?_, hRoom.1, fun hFull old hOld => ?_⟩
      · show (((s.tick now).lPush stamp).items.length : Int) ≤ m + 1
        rw [hLength]
        push_cast
        omega
      · refine hRoom.2 old ?_
        rw [show (redisRateLimiter m d now s (.pushing true stamp)).1.items =
          stamp :: (s.tick now).items from rfl] at hFull hOld
        cases hItems : (s.tick now).items with
        | nil =>
          have := hRoom.1
          simp only [hItems, List.length_singleton] at hFull
          omega
        | cons => simpa [hItems] using hOld
  | trimming =>
    obtain ⟨hListed, hLength, hPos, hOld⟩ := h
    simp only [redisRateLimiter, tick_of_live (hLive rfl)]
    exact (hListed.later hNow).lTrim hLength hPos fun hFull old hLast => by
      have := hOld hFull old hLast
      dsimp only
      omega
  | expiring =>
    simp only [redisRateLimiter, tick_of_live (hLive rfl)]
    exact (h.1.later hNow).expire h.2 hWindow
  | reading =>
    have hQuiet := Quiet.tick h hMax hNow
    simp only [redisRateLimiter]
    cases hLast : (s.tick now).items.getLast? with
    | none => exact hQuiet
    | some =>
      have hShort := hQuiet.short
      have hPos : 0 < (s.tick now).items.length :=
        List.length_pos_of_mem (List.mem_of_getLast? hLast)
      refine ⟨hQuiet, by omega, fun old hOld => ?_⟩
      exact Option.some.inj (hOld.symm.trans hLast)
  | comparing oldTime =>
    obtain ⟨hQuiet, hPos, hLast⟩ := h
    have hQuiet := hQuiet.tick hMax hNow
    simp only [redisRateLimiter]
    split
    · exact hQuiet
    · next hOver =>
        refine ⟨hQuiet, hPos, fun old hOld => ?_⟩
        have hPast := hQuiet.listed.item_past (List.mem_of_getLast? hOld)
        have hSame : old = oldTime := by
          rcases tick_items s now with hItems | hItems
          · exact hLast old (hItems ▸ hOld)
          · simp [hItems] at hOld
        subst hSame
        have hSub : 0 ≤ now - old := Int.sub_nonneg_of_le hPast
        rw [Int.tdiv_eq_ediv_of_nonneg hSub] at hOver
        show d * 1000 ≤ now - old
        omega
  | rejecting =>
    have hQuiet := Quiet.tick h hMax hNow
    exact hQuiet.listed.expire hQuiet.short hWindow
  | finished => exact Quiet.tick h hMax hNow

end Turns

/-! ### Every run -/

def listStep (maxRequestNum duration : Int) (sys : System ListLimiter ListClient)
    (event : Nat × Int) : System ListLimiter ListClient :=
  sys.step (redisRateLimiter maxRequestNum duration) event

def TakesTurn (sys : System ListLimiter ListClient) (event : Nat × Int) : Prop :=
  sys.Alone ListClient.idle event.1 ∧ ∀ client ∈ sys.threads[event.1]?,
    Timely event.2 sys.shared client
  deriving Decidable

def arrivals (clock : Int) (n : Nat) : System ListLimiter ListClient :=
  ⟨{ clock := clock }, List.replicate n .arrived⟩

end XyApi.RateLimit

import Mathlib.Algebra.BigOperators.Ring.List
import XyApi.Lib.Draw
import XyApi.Lib.Table

/-!
Selection of a channel from the memory cache. Candidates are the enabled channels of a
group and model whose routes serve the request path. The retry number picks a priority
level among them, and a random number picks a channel of the level by weight.
-/

namespace XyApi.Selection
open XyApi.Lib

structure Channel where
  id : Nat
  advancedCustom : Bool := false
  advancedCustomConfig : Option String := none
  enabled : Bool := true
  groups : List String
  models : List String
  priority : Int := 0
  weight : Nat := 0
  deriving DecidableEq

/-- `supportsPath` matches the routes of an advanced custom configuration. -/
structure SelectEnv where
  supportsPath : String → String → Bool
  formatMatchingModelName : String → String

structure Cache where
  group2model2channels : String → String → List Nat
  channelsIDM : Table Channel.id

/-- The arguments of a selection. -/
structure Query where
  group : String
  model : String
  retry : Nat
  requestPath : String

variable (env : SelectEnv) (cache : Cache) (q : Query)

def Channel.serves (requestPath : String) (channel : Channel) : Bool :=
  requestPath == "" || !channel.advancedCustom ||
    channel.advancedCustomConfig.any (env.supportsPath · requestPath)

-- An id without a channel is kept; selection then fails on it.
def filterChannelsByRequestPath (channels : List Nat) : List Nat :=
  channels.filter fun id => (cache.channelsIDM.get? id).all (·.serves env q.requestPath)

def candidates : List Nat :=
  match filterChannelsByRequestPath env cache q
      (cache.group2model2channels q.group q.model) with
  | [] => filterChannelsByRequestPath env cache q
      (cache.group2model2channels q.group (env.formatMatchingModelName q.model))
  | channels => channels

def Cache.find (id : Nat) : Except String Channel :=
  match cache.channelsIDM.get? id with
  | some channel => .ok channel
  | none => .error s!"数据库一致性错误，渠道# {id} 不存在，请联系管理员修复"

def sumWeight (channels : List Channel) : Nat := (channels.map (·.weight)).sum

def smoothingFactor (channels : List Channel) : Nat :=
  if sumWeight channels ≠ 0 ∧ sumWeight channels / channels.length < 10 then 100 else 1

def smoothingAdjustment (channels : List Channel) : Nat :=
  if sumWeight channels = 0 then 100 else 0

def totalWeight (channels : List Channel) : Nat :=
  (if sumWeight channels = 0 then channels.length * 100 else sumWeight channels) *
    smoothingFactor channels

def effectiveWeight (channels : List Channel) (channel : Channel) : Nat :=
  channel.weight * smoothingFactor channels + smoothingAdjustment channels

def intn (random n : Nat) : Nat := random % n

def targetChannels (retry : Nat) (channels : List Channel) : List Channel :=
  channels.filter fun channel =>
    levelAt (channels.map (·.priority)) retry = some channel.priority

def drawChannel (targets : List Channel) (random : Nat) : Except String (Option Channel) :=
  match draw belowZero (effectiveWeight targets) targets (intn random (totalWeight targets)) with
  | some channel => .ok (some channel)
  | none => .error "channel not found"

def selectChannel (channels : List Channel) (random : Nat) : Except String (Option Channel) :=
  match channels with
  | [] => .ok none
  | [channel] => .ok (some channel)
  | channels =>
    match targetChannels q.retry channels with
    | [] => .error (s!"no channel found, group: {q.group}, model: {q.model}, priority: " ++
        toString ((levelAt (channels.map (·.priority)) q.retry).getD 0))
    | targets => drawChannel targets random

def getRandomSatisfiedChannel (random : Nat) : Except String (Option Channel) := do
  selectChannel q (← (candidates env cache q).mapM cache.find) random

section Draw

/-- The smoothing keeps the ranges of the channels as large together as the draw. -/
theorem total_effectiveWeight : total (effectiveWeight targets) targets = totalWeight targets := by
  unfold total effectiveWeight totalWeight smoothingAdjustment
  rw [List.sum_map_add, List.sum_map_mul_right]
  by_cases hSum : sumWeight targets = 0
  · have hZero : (targets.map (·.weight)).sum = 0 := hSum
    simp [hSum, hZero, smoothingFactor]
  · simp only [if_neg hSum]
    simp [sumWeight]

theorem sumWeight_eq_zero_iff :
    sumWeight targets = 0 ↔ ∀ channel ∈ targets, channel.weight = 0 := by
  simp [sumWeight, List.sum_eq_zero_iff_forall_eq_nat]

theorem effectiveWeight_eq (hMem : channel ∈ targets) :
    effectiveWeight targets channel =
      if sumWeight targets = 0 then 100 else channel.weight * smoothingFactor targets := by
  unfold effectiveWeight smoothingAdjustment
  split
  · next hSum => rw [sumWeight_eq_zero_iff.mp hSum _ hMem, Nat.zero_mul, Nat.zero_add]
  · rfl

theorem smoothingFactor_pos : 0 < smoothingFactor targets := by
  unfold smoothingFactor
  split <;> omega

theorem exists_drawChannel (hNe : targets ≠ []) (random : Nat) :
    ∃ channel ∈ targets, drawChannel targets random = .ok (some channel) := by
  have hLength := List.length_pos_iff.mpr hNe
  have hPos : 0 < totalWeight targets :=
    Nat.mul_pos (by split <;> omega) smoothingFactor_pos
  have hLt : intn random (totalWeight targets) < totalWeight targets := Nat.mod_lt _ hPos
  rw [← total_effectiveWeight] at hLt
  obtain ⟨channel, hDraw⟩ := exists_draw
    (fun n hNeg => (decide_eq_true hNeg : belowZero n = true))
    (Int.ofNat_lt.mpr hLt) (Int.natCast_nonneg _)
  exact ⟨channel, mem_of_draw hDraw, by rw [drawChannel, ← total_effectiveWeight, hDraw]⟩

theorem drawChannel_iff :
    drawChannel targets random = .ok (some channel) ↔
      draw belowZero (effectiveWeight targets) targets (intn random (totalWeight targets)) =
        some channel := by
  unfold drawChannel
  cases draw belowZero (effectiveWeight targets) targets (intn random (totalWeight targets)) with
  | none => simp
  | some => simp

theorem countP_drawChannel :
    (List.range (totalWeight targets)).countP
        (fun random => drawChannel targets random = .ok (some channel)) =
      targets.count channel * effectiveWeight targets channel := by
  rw [← countP_draw, total_effectiveWeight]
  refine List.countP_congr fun random hRandom => ?_
  simp only [drawChannel_iff, intn, Nat.mod_eq_of_lt (List.mem_range.mp hRandom)]

end Draw

section Select

variable {env cache q}

theorem targetChannels_ne_nil (hNe : channels ≠ []) (retry : Nat) :
    targetChannels retry channels ≠ [] := by
  obtain ⟨level, hMem, hLevel⟩ := exists_levelAt
    (mt List.map_eq_nil_iff.mp hNe : channels.map (·.priority) ≠ []) retry
  obtain ⟨channel, hChannel, rfl⟩ := List.mem_map.mp hMem
  exact List.ne_nil_of_mem (List.mem_filter.mpr ⟨hChannel, decide_eq_true hLevel⟩)

/-- A single candidate is returned without a draw, as a draw would. -/
theorem selectChannel_eq (hNe : channels ≠ []) (random : Nat) :
    selectChannel q channels random = drawChannel (targetChannels q.retry channels) random := by
  have hTargets := targetChannels_ne_nil hNe q.retry
  match channels, hNe with
  | [channel], _ =>
    obtain ⟨found, hMem, hDraw⟩ := exists_drawChannel hTargets random
    rw [hDraw, List.mem_singleton.mp (List.mem_filter.mp hMem).1]
    rfl
  | first :: second :: rest, _ =>
    cases hList : targetChannels q.retry (first :: second :: rest) with
    | nil => exact absurd hList hTargets
    | cons => simp only [selectChannel, hList]

theorem getRandomSatisfiedChannel_eq (hNe : channels ≠ [])
    (hCandidates : (candidates env cache q).mapM cache.find = .ok channels) (random : Nat) :
    getRandomSatisfiedChannel env cache q random =
      drawChannel (targetChannels q.retry channels) random := by
  rw [getRandomSatisfiedChannel, hCandidates]
  exact selectChannel_eq hNe random

def samplePair : List Channel :=
  [⟨1, false, none, true, ["default"], ["m"], 0, 3⟩, ⟨2, false, none, true, ["default"], ["m"], 0, 1⟩]

def sampleQuery : Query := ⟨"default", "m", 5, "/v1/chat/completions"⟩

end Select

end XyApi.Selection

import XyApi.Channel.Select

/-!
Selection from the database, and when it can return the same channels as the memory
cache. The database takes the priority level among all enabled abilities and filters that
level by path, where the cache filters first. It also adds ten to every weight, so that a
channel of weight zero can be drawn beside others.
-/

namespace XyApi.Selection
open XyApi.Lib

structure Ability where
  group : String
  model : String
  channelId : Nat
  enabled : Bool
  priority : Int
  weight : Nat
  deriving DecidableEq

structure Tables where
  channels : Table Channel.id
  abilities : List Ability

def Channel.ability (channel : Channel) (group model : String) : Ability :=
  ⟨group, model, channel.id, channel.enabled, channel.priority, channel.weight⟩

def Tables.Consistent (db : Tables) : Prop :=
  ∀ ability, ability ∈ db.abilities ↔ ∃ channel ∈ db.channels.rows,
    ability.group ∈ channel.groups ∧ ability.model ∈ channel.models ∧
    ability = channel.ability ability.group ability.model

variable (env : SelectEnv) (db : Tables) (q : Query)

def enabledChannels (group model : String) : List Channel :=
  (db.channels.rows.filter (·.enabled)).flatMap fun channel =>
    (channel.groups.filter (· == group)).flatMap fun _ =>
      (channel.models.filter (· == model)).map fun _ => channel

def sortedChannels (group model : String) : List Channel :=
  (enabledChannels db group model).insertionSort (·.priority ≥ ·.priority)

abbrev channelsOf : List Channel := sortedChannels db q.group q.model

def initChannelCache : Cache where
  group2model2channels group model := (sortedChannels db group model).map (·.id)
  channelsIDM := db.channels

def enabledAbilities : List Ability :=
  db.abilities.filter fun ability =>
    ability.group == q.group && ability.model == q.model && ability.enabled

/-- The priority level of the retry; without a retry that is the maximum. -/
def priorityOf : Option Int := levelAt ((enabledAbilities db q).map (·.priority)) q.retry

def getChannelQuery : Except String (List Ability) :=
  if q.retry ≠ 0 ∧ priorityOf db q = none then .error "数据库一致性被破坏"
  else .ok (((enabledAbilities db q).filter fun ability =>
    priorityOf db q = some ability.priority).insertionSort (·.weight ≥ ·.weight))

def filterAbilitiesByRequestPath (abilities : List Ability) : List Ability :=
  abilities.filter fun ability =>
    (db.channels.get? ability.channelId).all (·.serves env q.requestPath)

def drawWeight (ability : Ability) : Nat := ability.weight + 10

def drawAbility (abilities : List Ability) (random : Nat) : Option Ability :=
  draw atZero drawWeight abilities (intn random (total drawWeight abilities))

def getChannel (random : Nat) : Except String (Option Channel) := do
  match filterAbilitiesByRequestPath env db q (← getChannelQuery db q) with
  | [] => return none
  | abilities =>
    match db.channels.get? (((drawAbility abilities random).map (·.channelId)).getD 0) with
    | some channel => return some channel
    | none => .error "record not found"

def CanReturn (select : Nat → Except String (Option Channel)) (channel : Channel) : Prop :=
  ∃ random, select random = .ok (some channel)

variable {env db q}

/-! ### Candidates -/

theorem mem_channelsOf : channel ∈ channelsOf db q ↔
    channel ∈ db.channels.rows ∧ channel.enabled ∧ q.group ∈ channel.groups ∧
      q.model ∈ channel.models := by
  simp only [channelsOf, sortedChannels, List.mem_insertionSort, enabledChannels, List.mem_flatMap,
    List.mem_filter, List.mem_map, beq_iff_eq]
  constructor
  · rintro ⟨found, ⟨hMem, hEnabled⟩, _, ⟨hGroup, rfl⟩, _, ⟨hModel, rfl⟩, rfl⟩
    exact ⟨hMem, hEnabled, hGroup, hModel⟩
  · rintro ⟨hMem, hEnabled, hGroup, hModel⟩
    exact ⟨channel, ⟨hMem, hEnabled⟩, _, ⟨hGroup, rfl⟩, _, ⟨hModel, rfl⟩, rfl⟩

theorem get?_of_channelsOf (h : channel ∈ channelsOf db q) :
    db.channels.get? channel.id = some channel :=
  Table.get?_of_mem (mem_channelsOf.mp h).1

theorem mem_enabledAbilities (hConsistent : db.Consistent) :
    ability ∈ enabledAbilities db q ↔
      ∃ channel ∈ channelsOf db q,
        ability = channel.ability q.group q.model := by
  simp only [enabledAbilities, List.mem_filter, Bool.and_eq_true, beq_iff_eq,
    mem_channelsOf]
  rw [hConsistent]
  constructor
  · rintro ⟨⟨channel, hMem, hGroup, hModel, hEq⟩, ⟨hGroup', hModel'⟩, hEnabled⟩
    rw [hGroup', hModel'] at hEq
    rw [hEq] at hEnabled
    exact ⟨channel, ⟨hMem, hEnabled, hGroup' ▸ hGroup, hModel' ▸ hModel⟩, hEq⟩
  · rintro ⟨channel, ⟨hMem, hEnabled, hGroup, hModel⟩, rfl⟩
    exact ⟨⟨channel, hMem, hGroup, hModel, rfl⟩, ⟨rfl, rfl⟩, hEnabled⟩

theorem priorityOf_eq (hConsistent : db.Consistent) : priorityOf db q =
    levelAt ((channelsOf db q).map (·.priority)) q.retry := by
  refine levelAt_congr (fun priority => ?_) q.retry
  simp only [List.mem_map, mem_enabledAbilities hConsistent]
  constructor
  · rintro ⟨_, ⟨channel, hMem, rfl⟩, rfl⟩
    exact ⟨channel, hMem, rfl⟩
  · rintro ⟨channel, hMem, rfl⟩
    exact ⟨_, ⟨channel, hMem, rfl⟩, rfl⟩

theorem mapM_find {channels : List Channel}
    (h : ∀ channel ∈ channels, db.channels.get? channel.id = some channel) :
    (channels.map (·.id)).mapM (initChannelCache db).find = .ok channels := by
  induction channels with
  | nil => rfl
  | cons channel rest ih =>
    have hFind : (initChannelCache db).find channel.id = .ok channel := by
      rw [Cache.find]
      change (match db.channels.get? channel.id with | some c => _ | none => _) = _
      rw [h channel List.mem_cons_self]
    rw [List.map_cons, List.mapM_cons, hFind, ih fun c hc => h c (List.mem_cons_of_mem _ hc)]
    rfl

section Agree

variable (hServes : ∀ channel ∈ channelsOf db q,
  channel.serves env q.requestPath)
include hServes

theorem mapM_candidates (hExact : env.formatMatchingModelName q.model = q.model) :
    (candidates env (initChannelCache db) q).mapM (initChannelCache db).find =
      .ok (channelsOf db q) := by
  have hFilter : filterChannelsByRequestPath env (initChannelCache db) q
      ((initChannelCache db).group2model2channels q.group q.model) =
      (channelsOf db q).map (·.id) := by
    refine List.filter_eq_self.mpr fun id hId => ?_
    obtain ⟨channel, hMem, rfl⟩ := List.mem_map.mp hId
    have hGet : (initChannelCache db).channelsIDM.get? channel.id = some channel :=
      get?_of_channelsOf hMem
    rw [hGet]
    exact hServes channel hMem
  have hCandidates : candidates env (initChannelCache db) q =
      (channelsOf db q).map (·.id) := by
    unfold candidates
    rw [hExact, hFilter]
    split <;> rfl
  rw [hCandidates]
  exact mapM_find fun channel hMem => get?_of_channelsOf hMem

/-- The abilities drawn from are those of the channels the cache draws from. -/
theorem exists_query (hConsistent : db.Consistent)
    (hNe : channelsOf db q ≠ []) :
    ∃ abilities, getChannelQuery db q = .ok abilities ∧
      filterAbilitiesByRequestPath env db q abilities = abilities ∧
      ∀ ability, ability ∈ abilities ↔
        ∃ channel ∈ targetChannels q.retry (channelsOf db q),
          ability = channel.ability q.group q.model := by
  obtain ⟨level, -, hLevel⟩ := exists_levelAt
    (mt List.map_eq_nil_iff.mp hNe : _ ≠ []) q.retry
  rw [← priorityOf_eq hConsistent] at hLevel
  have hMem (ability : Ability) : ability ∈ ((enabledAbilities db q).filter fun ability =>
      priorityOf db q = some ability.priority).insertionSort (·.weight ≥ ·.weight) ↔
        ∃ channel ∈ targetChannels q.retry (channelsOf db q),
          ability = channel.ability q.group q.model := by
    simp only [List.mem_insertionSort, List.mem_filter, decide_eq_true_iff, targetChannels,
      mem_enabledAbilities hConsistent, ← priorityOf_eq hConsistent]
    constructor
    · rintro ⟨⟨channel, hChannel, rfl⟩, hPriority⟩
      exact ⟨channel, ⟨hChannel, hPriority⟩, rfl⟩
    · rintro ⟨channel, ⟨hChannel, hPriority⟩, rfl⟩
      exact ⟨⟨channel, hChannel, rfl⟩, hPriority⟩
  refine ⟨_, if_neg (by simp [hLevel]), List.filter_eq_self.mpr fun ability hAbility => ?_, hMem⟩
  obtain ⟨channel, hTarget, rfl⟩ := (hMem ability).mp hAbility
  have hChannel := (List.mem_filter.mp hTarget).1
  rw [show (channel.ability q.group q.model).channelId = channel.id from rfl,
    get?_of_channelsOf hChannel]
  exact hServes channel hChannel

/-- Every random number returns a channel of the level, and every such channel is returned
for some number. -/
theorem getChannel_targets (hConsistent : db.Consistent)
    (hNe : channelsOf db q ≠ []) :
    (∀ random, ∃ channel ∈ targetChannels q.retry (channelsOf db q),
      getChannel env db q random = .ok (some channel)) ∧
    ∀ channel ∈ targetChannels q.retry (channelsOf db q),
      CanReturn (getChannel env db q) channel := by
  obtain ⟨abilities, hQuery, hFilter, hMem⟩ := exists_query hServes hConsistent hNe
  have hReturn {random : Nat} {channel : Channel}
      (hTarget : channel ∈ targetChannels q.retry (channelsOf db q))
      (hDraw : drawAbility abilities random = some (channel.ability q.group q.model)) :
      getChannel env db q random = .ok (some channel) := by
    have hGet : db.channels.get? (channel.ability q.group q.model).channelId = some channel :=
      get?_of_channelsOf (List.mem_filter.mp hTarget).1
    rw [getChannel, hQuery]
    change (match filterAbilitiesByRequestPath env db q abilities with
      | [] => _ | abilities => _) = _
    rw [hFilter]
    cases abilities with
    | nil => cases hDraw
    | cons =>
      simp only [hDraw, Option.map_some, Option.getD_some, hGet]
      rfl
  have hTwo (other : Ability) : 2 ≤ drawWeight other := by unfold drawWeight; omega
  constructor
  · intro random
    obtain ⟨channel, hTarget⟩ :=
      List.exists_mem_of_ne_nil _ (targetChannels_ne_nil hNe q.retry)
    obtain ⟨n, -, hLt, -⟩ := exists_draw_eq hTwo ((hMem _).mpr ⟨channel, hTarget, rfl⟩)
    obtain ⟨ability, hDraw⟩ := exists_draw
      (fun n hNeg => (decide_eq_true (Int.le_of_lt hNeg) : atZero n = true))
      (Int.ofNat_lt.mpr (Nat.mod_lt random (Nat.zero_lt_of_lt hLt))) (Int.natCast_nonneg _)
    obtain ⟨found, hFound, rfl⟩ := (hMem ability).mp (mem_of_draw hDraw)
    exact ⟨found, hFound, hReturn hFound hDraw⟩
  · intro channel hTarget
    obtain ⟨n, -, hLt, hDraw⟩ := exists_draw_eq hTwo ((hMem _).mpr ⟨channel, hTarget, rfl⟩)
    refine ⟨n, hReturn hTarget ?_⟩
    rwa [drawAbility, intn, Nat.mod_eq_of_lt hLt]

theorem cache_targets (hExact : env.formatMatchingModelName q.model = q.model)
    (hNe : channelsOf db q ≠ [])
    (hWeights : ∀ channel ∈ channelsOf db q,
      ∀ other ∈ channelsOf db q, channel.priority = other.priority →
        channel.weight = 0 → other.weight = 0) :
    (∀ random, ∃ channel ∈ targetChannels q.retry (channelsOf db q),
      getRandomSatisfiedChannel env (initChannelCache db) q random = .ok (some channel)) ∧
    ∀ channel ∈ targetChannels q.retry (channelsOf db q),
      CanReturn (getRandomSatisfiedChannel env (initChannelCache db) q) channel := by
  unfold CanReturn
  simp only [getRandomSatisfiedChannel_eq hNe (mapM_candidates hServes hExact)]
  refine ⟨exists_drawChannel (targetChannels_ne_nil hNe q.retry), fun channel hMem => ?_⟩
  have hShare : 0 < effectiveWeight (targetChannels q.retry (channelsOf db q))
      channel := by
    rw [effectiveWeight_eq hMem]
    split
    · exact Nat.zero_lt_succ _
    · next hSum =>
      refine Nat.mul_pos (Nat.pos_of_ne_zero fun hZero => hSum ?_) smoothingFactor_pos
      refine sumWeight_eq_zero_iff.mpr fun other hOther => ?_
      have hFirst := List.mem_filter.mp hMem
      have hSecond := List.mem_filter.mp hOther
      refine hWeights channel hFirst.1 other hSecond.1 (Option.some.inj ?_) hZero
      exact (of_decide_eq_true hFirst.2).symm.trans (of_decide_eq_true hSecond.2)
  have hCount := Nat.mul_pos (List.count_pos_iff.mpr hMem) hShare
  rw [← countP_drawChannel, List.countP_pos_iff] at hCount
  obtain ⟨random, -, hDraw⟩ := hCount
  exact ⟨random, of_decide_eq_true hDraw⟩

end Agree

theorem canReturn_iff_mem {select : Nat → Except String (Option Channel)} {targets : List Channel}
    (h : (∀ random, ∃ channel ∈ targets, select random = .ok (some channel)) ∧
      ∀ channel ∈ targets, CanReturn select channel) (channel : Channel) :
    CanReturn select channel ↔ channel ∈ targets := by
  refine ⟨fun ⟨random, hReturn⟩ => ?_, h.2 channel⟩
  obtain ⟨found, hMem, hFound⟩ := h.1 random
  obtain rfl : found = channel := by simpa [hFound] using hReturn
  exact hMem

/-- The channel of the first level serves only paths of its own routes. -/
def unservedTables : Tables :=
  let rows : List Channel := [⟨1, true, none, true, ["default"], ["m"], 10, 1⟩,
    ⟨2, false, none, true, ["default"], ["m"], 0, 1⟩]
  ⟨⟨rows, by decide⟩, rows.map (·.ability "default" "m")⟩

theorem unservedTables_consistent : unservedTables.Consistent := by
  rintro ⟨group, model, id, enabled, priority, weight⟩
  simp [unservedTables, Channel.ability]

end XyApi.Selection

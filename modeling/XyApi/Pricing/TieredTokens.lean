import XyApi.Pricing.QuotaRange

/-!
The cache-creation tokens that a billing expression is given, against those that
billing by ratios charges. Ratios charge the split by lifetime and what the
aggregate has beyond it. The expression gets the split alone when the usage says
that it is Claude's, and the aggregate alone when only the request says so.
-/

namespace XyApi.Pricing

open Lib

variable {usage : Usage}

def cacheCreationTotal (usage : Usage) : Int :=
  max usage.promptTokensDetails.cachedCreationTokens
    (usage.claudeCacheCreation5mTokens + usage.claudeCacheCreation1hTokens)

def chargedCacheCreation (summary : TextQuotaSummary) : Int :=
  remainingCacheCreation summary + summary.cacheCreationTokens5m + summary.cacheCreationTokens1h

/-- The tokens of a request are few enough for floating point to count them. -/
def Countable (usage : Usage) : Prop :=
  usage.promptTokens + usage.promptTokensDetails.cachedTokens +
    usage.promptTokensDetails.cachedCreationTokens + usage.claudeCacheCreation5mTokens +
    usage.claudeCacheCreation1hTokens < 2 ^ 53
  deriving Decidable

theorem chargedCacheCreation_eq (hUsage : usage.Nonneg) (hCount : Countable usage)
    (info : RelayInfo) :
    chargedCacheCreation (usageSummary info (some usage)) = cacheCreationTotal usage := by
  obtain ⟨hPrompt, -, -, hCached, hCreated, -, -, -, -, -, -, h5m, h1h⟩ := hUsage
  unfold Countable at hCount
  have hFirst : int64 (usage.promptTokensDetails.cachedCreationTokens -
      usage.claudeCacheCreation5mTokens) = usage.promptTokensDetails.cachedCreationTokens -
      usage.claudeCacheCreation5mTokens := int64_of_mem (by omega) (by omega)
  have hSecond : int64 (usage.promptTokensDetails.cachedCreationTokens -
      usage.claudeCacheCreation5mTokens - usage.claudeCacheCreation1hTokens) =
      usage.promptTokensDetails.cachedCreationTokens - usage.claudeCacheCreation5mTokens -
      usage.claudeCacheCreation1hTokens := int64_of_mem (by omega) (by omega)
  simp only [chargedCacheCreation, remainingCacheCreation, usageSummary, Option.getD_some,
    cacheCreationTotal, hFirst, hSecond]
  omega

def offeredCacheCreation (usage : Usage) : Int × Int :=
  if usage.usageSemantic = "anthropic" then
    (usage.claudeCacheCreation5mTokens, usage.claudeCacheCreation1hTokens)
  else (usage.promptTokensDetails.cachedCreationTokens, 0)

theorem clampNonneg_finite (h : 0 ≤ q) : clampNonneg (.finite q) = .finite q := by
  simp [clampNonneg, Float64.lt, not_lt.mpr h]

theorem offeredCacheCreation_nonneg (hUsage : usage.Nonneg) :
    0 ≤ (offeredCacheCreation usage).1 ∧ 0 ≤ (offeredCacheCreation usage).2 := by
  unfold offeredCacheCreation
  split
  · exact ⟨hUsage.cacheCreation5m, hUsage.cacheCreation1h⟩
  · exact ⟨hUsage.cachedCreationTokens, le_rfl⟩

theorem offeredCacheCreation_lt (hUsage : usage.Nonneg) (hCount : Countable usage) :
    usage.promptTokens + usage.promptTokensDetails.cachedTokens +
      (offeredCacheCreation usage).1 + (offeredCacheCreation usage).2 < 2 ^ 53 := by
  obtain ⟨-, -, -, -, hCreated, -, -, -, -, -, -, h5m, h1h⟩ := hUsage
  unfold Countable at hCount
  unfold offeredCacheCreation
  split <;> dsimp only <;> omega

/-- The parameters of Claude usage, before they are known to be exact. -/
theorem buildTieredTokenParams_true :
    let params := buildTieredTokenParams usage true usedVars
    let cc := Float64.ofInt (offeredCacheCreation usage).1
    let cc1h := if usage.usageSemantic = "anthropic" then
      Float64.ofInt (offeredCacheCreation usage).2 else .finite 0
    params.p = clampNonneg (.ofInt usage.promptTokens) ∧
      params.cr = .ofInt usage.promptTokensDetails.cachedTokens ∧
      params.cc = cc ∧ params.cc1h = cc1h ∧
      params.len = (((Float64.ofInt usage.promptTokens).add
        (.ofInt usage.promptTokensDetails.cachedTokens)).add cc).add cc1h := by
  by_cases hSemantic : usage.usageSemantic = "anthropic" <;>
    simp [buildTieredTokenParams, offeredCacheCreation, subtractIf, hSemantic]

theorem buildTieredTokenParams_claude (hUsage : usage.Nonneg) (hCount : Countable usage)
    (usedVars : String → Bool) :
    let params := buildTieredTokenParams usage true usedVars
    params.p = .finite usage.promptTokens ∧
      params.cr = .finite usage.promptTokensDetails.cachedTokens ∧
      params.cc = .finite (offeredCacheCreation usage).1 ∧
      params.cc1h = .finite (offeredCacheCreation usage).2 ∧
      params.len = .finite ((usage.promptTokens + usage.promptTokensDetails.cachedTokens +
        (offeredCacheCreation usage).1 + (offeredCacheCreation usage).2 : Int) : ℚ) := by
  obtain ⟨hCc, hCc1h⟩ := offeredCacheCreation_nonneg hUsage
  have hTotal := offeredCacheCreation_lt hUsage hCount
  have hPrompt := hUsage.promptTokens
  have hCached := hUsage.cachedTokens
  have hExact {n : Int} (hLow : 0 ≤ n) (h : n < 2 ^ 53) : Float64.ofInt n = .finite n :=
    Float64.ofInt_of_lt (by rwa [abs_of_nonneg hLow])
  have hAdd {a b : Int} (ha : 0 ≤ a) (hb : 0 ≤ b) (h : a + b < 2 ^ 53) :
      Float64.add (.finite a) (.finite b) = .finite ((a + b : Int) : ℚ) :=
    Float64.add_intCast (by rwa [abs_of_nonneg (by omega)])
  have hLifetime : (if usage.usageSemantic = "anthropic" then
      Float64.ofInt (offeredCacheCreation usage).2 else .finite 0) =
      .finite (offeredCacheCreation usage).2 := by
    split
    · exact hExact hCc1h (by omega)
    · next hOther => rw [offeredCacheCreation, if_neg hOther, Int.cast_zero]
  intro params
  obtain ⟨hP, hCr, hCC, hCC1h, hLen⟩ := buildTieredTokenParams_true
  rw [hLifetime, hExact hCc (by omega), hExact hPrompt (by omega), hExact hCached (by omega),
    hAdd hPrompt hCached (by omega), hAdd (by omega) hCc (by omega),
    hAdd (by omega) hCc1h (by omega)] at hLen
  rw [hExact hPrompt (by omega), clampNonneg_finite (by exact_mod_cast hPrompt)] at hP
  rw [hExact hCached (by omega)] at hCr
  rw [hExact hCc (by omega)] at hCC
  rw [hLifetime] at hCC1h
  exact ⟨hP, hCr, hCC, hCC1h, hLen⟩

/-- The two accounts of cache creation agree with the one the code reads. -/
def SplitCovers (usage : Usage) : Prop :=
  if usage.usageSemantic = "anthropic" then
    usage.promptTokensDetails.cachedCreationTokens ≤
      usage.claudeCacheCreation5mTokens + usage.claudeCacheCreation1hTokens
  else usage.claudeCacheCreation5mTokens + usage.claudeCacheCreation1hTokens ≤
    usage.promptTokensDetails.cachedCreationTokens
  deriving Decidable

theorem offeredCacheCreation_eq (h : SplitCovers usage) :
    (offeredCacheCreation usage).1 + (offeredCacheCreation usage).2 = cacheCreationTotal usage := by
  unfold SplitCovers at h
  unfold offeredCacheCreation cacheCreationTotal
  split at h
  · next hSemantic => rw [if_pos hSemantic, max_eq_right h]
  · next hSemantic => rw [if_neg hSemantic, max_eq_left h, Int.add_zero]

def sampleSplitUsage : Usage where
  usageSemantic := "anthropic"
  promptTokens := 10
  promptTokensDetails := { cachedTokens := 5, cachedCreationTokens := 100 }
  claudeCacheCreation5mTokens := 70
  claudeCacheCreation1hTokens := 30

def sampleUnsplitUsage : Usage where
  usageSemantic := "anthropic"
  promptTokens := 10
  promptTokensDetails := { cachedCreationTokens := 100 }

end XyApi.Pricing

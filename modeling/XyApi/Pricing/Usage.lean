import XyApi.Base
import XyApi.Lib.Binary64

/-!
What pricing reads: the usage an upstream reports, the prices frozen for the
request, the settings of the installation, and the part of a relayed request
that billing looks at. Prices and ratios are finite floating-point numbers, kept
as the rationals they stand for.
-/

namespace XyApi.Pricing

open Lib

/-! ### Conversions to a quota -/

inductive QuotaClampKind
  | overflow
  | underflow
  | nan
  deriving DecidableEq, Repr

structure QuotaClamp where
  op : String
  kind : QuotaClampKind
  original : Float64
  clamped : Int
  deriving DecidableEq, Repr

def saturateQuota (value : Float64) (op : String) : Int × Option QuotaClamp :=
  if value = .nan then (0, some ⟨op, .nan, value, 0⟩)
  else if Float64.le (.finite maxInt32) value then
    (maxInt32, some ⟨op, .overflow, value, maxInt32⟩)
  else if value.le (.finite minInt32) then (minInt32, some ⟨op, .underflow, value, minInt32⟩)
  else (value.truncate, none)

def quotaRoundChecked (value : Float64) : Int × Option QuotaClamp :=
  saturateQuota value.round "QuotaRound"

def quotaRound (value : Float64) : Int := (quotaRoundChecked value).1

def quotaFromDecimalChecked (d : ℚ) : Int × Option QuotaClamp :=
  saturateQuota (.ofInt (roundRat d)) "QuotaFromDecimal"

def InQuotaRange (quota : Int) : Prop := 0 ≤ quota ∧ quota ≤ maxInt32
  deriving Decidable

theorem inQuotaRange_zero : InQuotaRange 0 := by decide

theorem inQuotaRange_one : InQuotaRange 1 := by decide

theorem inQuotaRange_max : InQuotaRange maxInt32 := by decide

/-- What is not below zero converts to a chargeable quota. -/
theorem saturateQuota_inRange (h : value.NotNeg) :
    InQuotaRange (saturateQuota value op).1 := by
  cases value with
  | nan => exact inQuotaRange_zero
  | inf negative =>
    obtain rfl : negative = false := h
    exact inQuotaRange_max
  | finite q =>
    have hNonneg : 0 ≤ q := Float64.notNeg_finite.mp h
    unfold saturateQuota
    rw [if_neg (by simp)]
    split
    · exact inQuotaRange_max
    · next hBelow =>
        have hLt : q < maxInt32 := by simpa [Float64.le] using hBelow
        rw [if_neg ?_]
        · have hNum : 0 ≤ q.num := Rat.num_nonneg.mpr hNonneg
          refine ⟨Int.tdiv_nonneg hNum (Int.natCast_nonneg _), ?_⟩
          have hFloor : q.num.tdiv q.den = ⌊q⌋ := by
            rw [Int.tdiv_eq_ediv_of_nonneg hNum, Rat.floor_def']
          rw [show (Float64.finite q).truncate = q.num.tdiv q.den from rfl, hFloor]
          exact Int.floor_le_iff.mpr (by linarith)
        · have hMin : ((minInt32 : Int) : ℚ) < 0 := by decide
          simp only [Float64.le, decide_eq_true_eq, not_le]
          linarith

theorem quotaRound_inRange (h : value.NotNeg) :
    InQuotaRange (quotaRoundChecked value).1 := by
  refine saturateQuota_inRange ?_
  cases value with
  | nan => rfl
  | inf => exact h
  | finite q =>
    have hRound : 0 ≤ roundRat q := roundRat_nonneg (Float64.notNeg_finite.mp h)
    exact Float64.notNeg_finite.mpr (by exact_mod_cast hRound)

theorem quotaFromDecimal_inRange (h : 0 ≤ d) :
    InQuotaRange (quotaFromDecimalChecked d).1 := by
  have hRound : (0 : ℚ) ≤ (roundRat d : ℚ) := by exact_mod_cast roundRat_nonneg h
  exact saturateQuota_inRange (Float64.ofRat_notNeg hRound)

/-! ### Usage -/

structure InputTokenDetails where
  cachedTokens : Int := 0
  cachedCreationTokens : Int := 0
  textTokens : Int := 0
  audioTokens : Int := 0
  imageTokens : Int := 0
  deriving DecidableEq, Repr

structure OutputTokenDetails where
  textTokens : Int := 0
  audioTokens : Int := 0
  imageTokens : Int := 0
  reasoningTokens : Int := 0
  deriving DecidableEq, Repr

structure Usage where
  promptTokens : Int := 0
  completionTokens : Int := 0
  totalTokens : Int := 0
  promptCacheHitTokens : Int := 0
  usageSemantic : String := ""
  usageSource : String := ""
  promptTokensDetails : InputTokenDetails := {}
  completionTokenDetails : OutputTokenDetails := {}
  inputTokens : Int := 0
  outputTokens : Int := 0
  inputTokensDetails : Option InputTokenDetails := none
  claudeCacheCreation5mTokens : Int := 0
  claudeCacheCreation1hTokens : Int := 0
  /-- The cost that some upstreams report, when it is a number. -/
  cost : Option Float64 := none
  deriving DecidableEq, Repr

structure RealtimeUsage where
  totalTokens : Int := 0
  inputTokens : Int := 0
  outputTokens : Int := 0
  inputTokenDetails : InputTokenDetails := {}
  outputTokenDetails : OutputTokenDetails := {}
  deriving DecidableEq, Repr

/-! ### Prices -/

structure PriceData where
  modelPrice : ℚ := 0
  modelRatio : ℚ := 0
  completionRatio : ℚ := 0
  cacheRatio : ℚ := 0
  cacheCreationRatio : ℚ := 0
  cacheCreation5mRatio : ℚ := 0
  cacheCreation1hRatio : ℚ := 0
  imageRatio : ℚ := 0
  otherRatios : List (String × ℚ) := []
  usePrice : Bool := false
  groupRatio : ℚ := 0
  deriving DecidableEq, Repr

/-- The ratios and prices of the installation, and the decimal library's reading
of a floating-point number. -/
structure PricingEnv where
  newFromFloat : ℚ → ℚ
  newFromFloat_nonneg : ∀ q, 0 ≤ q → 0 ≤ newFromFloat q
  quotaPerUnit : ℚ
  toolPriceForModel : String → String → ℚ
  defaultModelRatio : String → Option ℚ
  completionRatio : String → ℚ
  audioRatio : String → ℚ
  audioCompletionRatio : String → ℚ
  modelRatio : String → ℚ
  groupRatio : String → ℚ
  groupGroupRatio : String → String → Option ℚ

def isValidOtherRatio (ratio : ℚ) : Bool := ratio > 0

def PriceData.applyOtherRatiosToDecimal (p : PriceData) (env : PricingEnv) (value : ℚ) : ℚ :=
  p.otherRatios.foldl (fun value entry =>
    if isValidOtherRatio entry.2 ∧ entry.2 ≠ 1 then value * env.newFromFloat entry.2 else value)
    value

def hasCustomModelRatio (env : PricingEnv) (modelName : String) (currentRatio : ℚ) : Bool :=
  match env.defaultModelRatio modelName with
  | none => true
  | some defaultRatio => currentRatio ≠ defaultRatio

def getGeminiInputAudioPricePerMillionTokens (modelName : String) : ℚ :=
  if modelName.startsWith "gemini-2.5-flash-preview-native-audio" then 3
  else if modelName.startsWith "gemini-2.5-flash-preview-lite" then 1 / 2
  else if modelName.startsWith "gemini-2.5-flash-preview" then 1
  else if modelName.startsWith "gemini-2.5-flash" then 1
  else if modelName.startsWith "gemini-2.0-flash" then 7 / 10
  else if modelName.startsWith "gemini-robotics-er-1.5" then 1
  else 0

def getGPTImage1PriceOnceCall (quality size : String) : ℚ :=
  match quality, size with
  | "low", "1024x1024" => 11 / 1000
  | "low", "1024x1536" => 16 / 1000
  | "low", "1536x1024" => 16 / 1000
  | "medium", "1024x1024" => 42 / 1000
  | "medium", "1024x1536" => 63 / 1000
  | "medium", "1536x1024" => 63 / 1000
  | "high", "1024x1024" => 167 / 1000
  | "high", "1024x1536" => 1 / 4
  | "high", "1536x1024" => 1 / 4
  | _, _ => 167 / 1000

/-! ### The request -/

inductive RelayFormat
  | openAI
  | claude
  | gemini
  | other (name : String)
  deriving DecidableEq, Repr

structure RequestInput where
  headers : List (String × String) := []
  body : String := ""
  deriving DecidableEq, Repr

structure BillingSnapshot where
  billingMode : String
  exprString : String
  groupRatio : Float64
  estimatedQuotaAfterGroup : Int
  estimatedTier : String
  quotaPerUnit : Float64
  deriving DecidableEq, Repr

structure RelayInfo where
  originModelName : String := ""
  relayFormat : RelayFormat := .openAI
  finalRequestRelayFormat : Option RelayFormat := none
  requestConversionChain : List RelayFormat := []
  channelType : Option Int := none
  usePrice : Bool := false
  userGroup : String := ""
  usingGroup : String := ""
  estimatePromptTokens : Int := 0
  priceData : PriceData := {}
  /-- The calls of built-in tools, for a Responses request. -/
  builtInTools : Option (List (String × Int)) := none
  tieredBillingSnapshot : Option BillingSnapshot := none
  billingRequestInput : Option RequestInput := none
  finalPreConsumedQuota : Int := 0
  quotaClamp : Option QuotaClamp := none
  deriving DecidableEq, Repr

structure RelayContext where
  claudeWebSearchRequests : Int := 0
  imageGenerationCall : Bool := false
  imageGenerationCallQuality : String := ""
  imageGenerationCallSize : String := ""
  autoGroup : Option String := none
  deriving DecidableEq, Repr

def RelayInfo.getFinalRequestRelayFormat (info : RelayInfo) : RelayFormat :=
  match info.finalRequestRelayFormat with
  | some format => format
  | none => info.requestConversionChain.getLast?.getD info.relayFormat

def noteQuotaClamp (info : RelayInfo) (clamp : Option QuotaClamp) : RelayInfo :=
  { info with quotaClamp := info.quotaClamp.or clamp }

def atLeastOne (ratio quota : ℚ) : ℚ := if ratio ≠ 0 ∧ quota ≤ 0 then 1 else quota

theorem atLeastOne_nonneg (h : ratio = 0 → 0 ≤ quota) :
    0 ≤ atLeastOne ratio quota := by
  unfold atLeastOne
  split
  · exact zero_le_one
  · next hNot =>
      by_contra hNeg
      exact hNot ⟨fun hRatio => hNeg (h hRatio), (not_le.mp hNeg).le⟩

/-! ### No negative price -/

structure PriceData.Nonneg (p : PriceData) : Prop where
  modelPrice : 0 ≤ p.modelPrice
  modelRatio : 0 ≤ p.modelRatio
  completionRatio : 0 ≤ p.completionRatio
  cacheRatio : 0 ≤ p.cacheRatio
  cacheCreationRatio : 0 ≤ p.cacheCreationRatio
  cacheCreation5mRatio : 0 ≤ p.cacheCreation5mRatio
  cacheCreation1hRatio : 0 ≤ p.cacheCreation1hRatio
  imageRatio : 0 ≤ p.imageRatio
  otherRatios : ∀ entry ∈ p.otherRatios, 0 ≤ entry.2
  groupRatio : 0 ≤ p.groupRatio

structure PricingEnv.Nonneg (env : PricingEnv) : Prop where
  quotaPerUnit : 0 ≤ env.quotaPerUnit
  toolPrice : ∀ tool model, 0 ≤ env.toolPriceForModel tool model
  completionRatio : ∀ model, 0 ≤ env.completionRatio model
  audioRatio : ∀ model, 0 ≤ env.audioRatio model
  audioCompletionRatio : ∀ model, 0 ≤ env.audioCompletionRatio model
  modelRatio : ∀ model, 0 ≤ env.modelRatio model
  groupRatio : ∀ group, 0 ≤ env.groupRatio group
  groupGroupRatio : ∀ user group ratio, env.groupGroupRatio user group = some ratio → 0 ≤ ratio

theorem PriceData.applyOtherRatiosToDecimal_nonneg (p : PriceData) (env : PricingEnv)
    (h : 0 ≤ value) : 0 ≤ p.applyOtherRatiosToDecimal env value := by
  unfold applyOtherRatiosToDecimal
  induction p.otherRatios generalizing value with
  | nil => exact h
  | cons entry rest ih =>
    refine ih ?_
    dsimp only
    split
    · next hValid =>
        have hPos : 0 < entry.2 := by simpa [isValidOtherRatio] using hValid.1
        exact mul_nonneg h (env.newFromFloat_nonneg _ hPos.le)
    · exact h

theorem getGPTImage1PriceOnceCall_nonneg :
    0 ≤ getGPTImage1PriceOnceCall quality size := by
  unfold getGPTImage1PriceOnceCall
  split <;> norm_num

end XyApi.Pricing

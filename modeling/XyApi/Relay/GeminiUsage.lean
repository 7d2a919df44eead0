import XyApi.Relay.ChatHandler

/-!
The usage of a Gemini answer, as one response and as a stream. Missing counts are
filled in: the prompt by the estimate of the request, the completion by what the
total leaves. Only the handler of streams replaces a completion that is not
positive, by an estimate from the text of the answer.
-/

namespace XyApi.Relay

open Pricing

structure GeminiTokensDetails where
  modality : String
  tokenCount : Int
  deriving DecidableEq, Repr

structure GeminiUsageMetadata where
  promptTokenCount : Int := 0
  toolUsePromptTokenCount : Int := 0
  candidatesTokenCount : Int := 0
  totalTokenCount : Int := 0
  thoughtsTokenCount : Int := 0
  cachedContentTokenCount : Int := 0
  promptTokensDetails : List GeminiTokensDetails := []
  toolUsePromptTokensDetails : List GeminiTokensDetails := []
  candidatesTokensDetails : List GeminiTokensDetails := []
  deriving DecidableEq, Repr

structure ReceivedPart where
  text : String := ""
  /-- The MIME type of inline data, empty without any. -/
  mimeType : String := ""
  deriving DecidableEq, Repr

structure ReceivedResponse where
  candidates : List (List ReceivedPart) := []
  usageMetadata : GeminiUsageMetadata := {}
  deriving DecidableEq, Repr

section Usage

variable (metadata : GeminiUsageMetadata) (fallbackPromptTokens : Int)

def modalityTokens (modality : String) (details : List GeminiTokensDetails) : Int :=
  details.foldl
    (fun sum d => if d.modality = modality then int64 (sum + d.tokenCount) else sum) 0

def geminiPromptTokens : Int :=
  let promptTokens := int64 (metadata.promptTokenCount + metadata.toolUsePromptTokenCount)
  if promptTokens ≤ 0 ∧ 0 < fallbackPromptTokens then fallbackPromptTokens else promptTokens

def buildUsageFromGeminiMetadata : Usage :=
  let promptTokens := geminiPromptTokens metadata fallbackPromptTokens
  let completion := int64 (metadata.candidatesTokenCount + metadata.thoughtsTokenCount)
  let details := metadata.promptTokensDetails ++ metadata.toolUsePromptTokensDetails
  let text := modalityTokens "TEXT" details
  let audio := modalityTokens "AUDIO" details
  { promptTokens
    completionTokens :=
      if 0 < metadata.totalTokenCount ∧ completion ≤ 0 then
        int64 (metadata.totalTokenCount - promptTokens)
      else completion
    totalTokens := metadata.totalTokenCount
    promptTokensDetails :=
      { cachedTokens := metadata.cachedContentTokenCount
        audioTokens := audio
        textTokens := if 0 < promptTokens ∧ text = 0 ∧ audio = 0 then promptTokens else text }
    completionTokenDetails :=
      { reasoningTokens := metadata.thoughtsTokenCount
        imageTokens := modalityTokens "IMAGE" metadata.candidatesTokensDetails
        audioTokens := modalityTokens "AUDIO" metadata.candidatesTokensDetails
        textTokens := modalityTokens "TEXT" metadata.candidatesTokensDetails } }

end Usage

/-! ### The handlers -/

structure GeminiStreamState where
  usage : Usage := {}
  imageCount : Int := 0
  responseText : String := ""

section Handlers

variable (estimateTokenByModel : String → String → Int) (upstreamModelName : String)
variable (estimatePromptTokens : Int)

def receiveGeminiResponse (s : GeminiStreamState) (r : ReceivedResponse) : GeminiStreamState :=
  let parts := r.candidates.flatten
  { imageCount := s.imageCount + parts.countP fun part => part.mimeType ≠ ""
    responseText := parts.foldl (fun text part => text ++ part.text) s.responseText
    usage :=
      if r.usageMetadata.totalTokenCount ≠ 0 then
        buildUsageFromGeminiMetadata r.usageMetadata estimatePromptTokens
      else s.usage }

def geminiStreamHandler (responses : List ReceivedResponse) : Usage :=
  let s := responses.foldl (receiveGeminiResponse estimatePromptTokens) {}
  let usage :=
    if s.imageCount ≠ 0 ∧ s.usage.completionTokens = 0 then
      { s.usage with completionTokens := s.imageCount * 1400 }
    else s.usage
  if usage.completionTokens ≤ 0 then
    if responses ≠ [] then
      responseText2Usage estimateTokenByModel s.responseText upstreamModelName
        estimatePromptTokens
    else {}
  else usage

/-- The usage of a whole response; an answer without candidates is billed like any other. -/
def geminiChatHandler (r : ReceivedResponse) : Usage :=
  buildUsageFromGeminiMetadata r.usageMetadata estimatePromptTokens

end Handlers

/-! ### Agreement of the two -/

def IsCount (n : Int) : Prop := 0 ≤ n ∧ n < 9223372036854775808
  deriving Decidable

/-- Counts as the upstream may report them, with a total. -/
structure GeminiUsageMetadata.Counts (metadata : GeminiUsageMetadata) : Prop where
  prompt : IsCount metadata.promptTokenCount
  toolUse : IsCount metadata.toolUsePromptTokenCount
  candidates : IsCount metadata.candidatesTokenCount
  thoughts : IsCount metadata.thoughtsTokenCount
  total : 0 < metadata.totalTokenCount ∧ IsCount metadata.totalTokenCount

def knownPrompt (metadata : GeminiUsageMetadata) (estimate : Int) : Int :=
  let prompt := metadata.promptTokenCount + metadata.toolUsePromptTokenCount
  if 0 < prompt ∧ IsCount prompt then prompt else estimate

/-- There is a prompt count, and either one of the answer or something left for it. -/
structure Metered (metadata : GeminiUsageMetadata) (estimate : Int) : Prop where
  prompt : IsCount (metadata.promptTokenCount + metadata.toolUsePromptTokenCount) ∨ 0 < estimate
  answer : (0 < metadata.candidatesTokenCount + metadata.thoughtsTokenCount ∧
      IsCount (metadata.candidatesTokenCount + metadata.thoughtsTokenCount)) ∨
    knownPrompt metadata estimate < metadata.totalTokenCount

/-- A text-only answer costs the same as one response and as a stream that ends with it, and
never less than nothing. -/
structure BilledAlike (estimateTokenByModel : String → String → Int) (modelName : String)
    (metadata : GeminiUsageMetadata) (estimate : Int) : Prop where
  prompt : 0 ≤ (buildUsageFromGeminiMetadata metadata estimate).promptTokens
  completion : 0 ≤ (buildUsageFromGeminiMetadata metadata estimate).completionTokens
  stream : ∀ whole last : ReceivedResponse, ∀ stream : List ReceivedResponse,
    whole.usageMetadata = metadata → last.usageMetadata = metadata →
    (∀ r ∈ whole :: last :: stream, ∀ part ∈ r.candidates.flatten, part.mimeType = "") →
    geminiStreamHandler estimateTokenByModel modelName estimate (stream ++ [last]) =
      geminiChatHandler estimate whole

theorem int64_sum (hm : IsCount m) (hn : IsCount n) :
    int64 (m + n) = if IsCount (m + n) then m + n else m + n - 18446744073709551616 := by
  unfold int64
  split
  · next hSum => rw [Int.bmod_eq_of_le] <;> grind [IsCount]
  · next hSum =>
    rw [← Int.sub_bmod_right, Int.bmod_eq_of_le] <;> grind [IsCount]

section Agreement

variable {metadata : GeminiUsageMetadata} (hCounts : metadata.Counts)
include hCounts

theorem geminiPromptTokens_nonneg_iff : 0 ≤ geminiPromptTokens metadata estimate ↔
    IsCount (metadata.promptTokenCount + metadata.toolUsePromptTokenCount) ∨ 0 < estimate := by
  have hPrompt := hCounts.prompt
  have hTool := hCounts.toolUse
  simp only [geminiPromptTokens, int64_sum hPrompt hTool]
  grind [IsCount]

variable (hEstimate : IsCount estimate) (h : 0 ≤ geminiPromptTokens metadata estimate)
include hEstimate h

theorem geminiPromptTokens_eq :
    geminiPromptTokens metadata estimate = knownPrompt metadata estimate ∧
      IsCount (knownPrompt metadata estimate) := by
  have hPrompt := hCounts.prompt
  have hTool := hCounts.toolUse
  simp only [geminiPromptTokens, knownPrompt, int64_sum hPrompt hTool] at h ⊢
  grind [IsCount]

theorem completionTokens_eq :
    (buildUsageFromGeminiMetadata metadata estimate).completionTokens =
      if 0 < metadata.candidatesTokenCount + metadata.thoughtsTokenCount ∧
          IsCount (metadata.candidatesTokenCount + metadata.thoughtsTokenCount) then
        metadata.candidatesTokenCount + metadata.thoughtsTokenCount
      else metadata.totalTokenCount - knownPrompt metadata estimate := by
  have hCandidates := hCounts.candidates
  have hThoughts := hCounts.thoughts
  obtain ⟨hTotal, hFits⟩ := hCounts.total
  obtain ⟨hKnown, hPrompt⟩ := geminiPromptTokens_eq hCounts hEstimate h
  have hRest : int64 (metadata.totalTokenCount - knownPrompt metadata estimate) =
      metadata.totalTokenCount - knownPrompt metadata estimate := by
    refine int64_of_mem ?_ ?_ <;> grind [IsCount]
  simp only [buildUsageFromGeminiMetadata, int64_sum hCandidates hThoughts, hKnown, hRest]
  grind [IsCount]

theorem completionTokens_pos_iff :
    0 < (buildUsageFromGeminiMetadata metadata estimate).completionTokens ↔
      Metered metadata estimate := by
  have hPrompt := (geminiPromptTokens_nonneg_iff hCounts).mp h
  rw [completionTokens_eq hCounts hEstimate h]
  constructor
  · intro hPos
    exact ⟨hPrompt, by grind⟩
  · rintro ⟨-, hAnswer⟩
    grind

end Agreement

/-- A prompt always has details, unlike the usage that is estimated from a text. -/
theorem promptTokensDetails_ne (hPos : 0 < geminiPromptTokens metadata estimate) :
    (buildUsageFromGeminiMetadata metadata estimate).promptTokensDetails ≠ {} := by
  simp only [buildUsageFromGeminiMetadata, ne_eq, InputTokenDetails.mk.injEq]
  grind

theorem gemini_usage_of_stream (estimateTokenByModel : String → String → Int) (modelName : String)
    (hCounts : metadata.Counts) (hEstimate : IsCount estimate) :
    BilledAlike estimateTokenByModel modelName metadata estimate ↔ Metered metadata estimate := by
  have hTotal : 0 < metadata.totalTokenCount := hCounts.total.1
  constructor
  · intro hAlike
    have hPrompt : 0 ≤ geminiPromptTokens metadata estimate := hAlike.prompt
    refine (completionTokens_pos_iff hCounts hEstimate hPrompt).mp ?_
    refine lt_of_le_of_ne hAlike.completion fun hZero => ?_
    have hStream := hAlike.stream { usageMetadata := metadata } { usageMetadata := metadata } []
      rfl rfl (by simp)
    have hEstimated : (geminiStreamHandler estimateTokenByModel modelName estimate
        [{ usageMetadata := metadata }]).promptTokensDetails = {} := by
      simp [geminiStreamHandler, receiveGeminiResponse, hTotal.ne', ← hZero, responseText2Usage]
    -- Nothing is left for the answer when the prompt is the whole total.
    have hWhole : 0 < geminiPromptTokens metadata estimate := by
      have hKnown := (geminiPromptTokens_eq hCounts hEstimate hPrompt).1
      have hCompletion := completionTokens_eq hCounts hEstimate hPrompt
      grind
    exact promptTokensDetails_ne hWhole
      ((congrArg Usage.promptTokensDetails hStream).symm.trans hEstimated)
  · intro hMetered
    have hPrompt := (geminiPromptTokens_nonneg_iff hCounts).mpr hMetered.prompt
    have hPos := (completionTokens_pos_iff hCounts hEstimate hPrompt).mpr hMetered
    refine ⟨hPrompt, hPos.le, fun whole last stream hWhole hLast _ => ?_⟩
    simp only [geminiStreamHandler, geminiChatHandler, List.foldl_append, List.foldl_cons,
      List.foldl_nil, receiveGeminiResponse, hLast, if_pos hTotal.ne', hWhole, hPos.ne', and_false,
      if_false]
    rw [if_neg hPos.not_ge]

def countedResponse : ReceivedResponse :=
  { usageMetadata := { candidatesTokenCount := 3, totalTokenCount := 10 } }

theorem gemini_usage_of_stream_counted :
    BilledAlike (fun _ _ => 0) "m" countedResponse.usageMetadata 7 := by
  have hCounts : countedResponse.usageMetadata.Counts :=
    ⟨by decide, by decide, by decide, by decide, by decide⟩
  have hMetered : Metered countedResponse.usageMetadata 7 := ⟨.inr (by decide), .inl (by decide)⟩
  exact (gemini_usage_of_stream (fun _ _ => 0) "m" hCounts (by decide)).mpr hMetered

/-- A whole answer without a prompt count, against an estimate above its total. -/
theorem missing_counts_billed_negative :
    (geminiChatHandler 100 { usageMetadata := { totalTokenCount := 10 } }).completionTokens = -90 ∧
      (geminiStreamHandler (fun _ _ => 1) "m" 100
        [{ usageMetadata := { totalTokenCount := 10 } }]).completionTokens = 1 := by
  decide

end XyApi.Relay

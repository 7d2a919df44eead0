import XyApi.Relay.ClaudeStream

/-!
The handler of a chat stream for a client that speaks Claude's format. It stays
one chunk behind the upstream: a chunk is converted when the next one arrives, and
the last one after the end of the stream, together with the usage that is billed.
The billed usage is the one the upstream reported last, or an estimate.
-/

namespace XyApi.Relay

open Lib Pricing

variable (estimateTokenByModel : String → String → Int) (request : ChatRequest) (data : StreamData)
  (usage : Usage)

/-- What is decoded from one line of the stream: the chunk, the places where some
upstreams report cached tokens, and the texts of a completion stream. -/
structure StreamData where
  chunk : ChatChunk := {}
  promptCachedTokens : Option Int := none
  usageCachedTokens : Option Int := none
  promptCacheHitTokens : Option Int := none
  choiceCachedTokens : List (Option Int) := []
  timingsCachedTokens : Option Int := none
  completionTexts : List String := []
  deriving DecidableEq, Repr

inductive ChannelType
  | openAI
  | deepSeek
  | zhipuV4
  | moonshot
  | other
  deriving DecidableEq, Repr

inductive RelayMode
  | chatCompletions
  | completions
  | other
  deriving DecidableEq, Repr

structure ChatRequest where
  upstreamModelName : String := ""
  channelType : ChannelType := .other
  relayMode : RelayMode := .other
  estimatePromptTokens : Int := 0
  deriving DecidableEq, Repr

/-! ### Tokens of the answer -/

def validUsage : Bool := usage.promptTokens ≠ 0 ∨ usage.completionTokens ≠ 0

/-- The text of the answer so far, and the largest number of tool calls in a chunk. -/
structure TokenData where
  responseText : String := ""
  toolCount : Nat := 0
  deriving DecidableEq, Repr

def processStreamResponse (chunk : ChatChunk) (tokens : TokenData) : TokenData :=
  chunk.choices.foldl (fun tokens choice =>
    { responseText := tokens.responseText ++ choice.delta.getContentString ++
        choice.delta.getReasoningContent ++
        String.join (choice.delta.toolCalls.map fun tool => tool.name ++ tool.arguments)
      toolCount := max tokens.toolCount choice.delta.toolCalls.length }) tokens

def processTokenData (mode : RelayMode) (data : StreamData) (tokens : TokenData) : TokenData :=
  match mode with
  | .chatCompletions => processStreamResponse data.chunk tokens
  | .completions =>
    { tokens with responseText := tokens.responseText ++ String.join data.completionTexts }
  | .other => tokens

def responseText2Usage (responseText modelName : String) (promptTokens : Int) : Usage :=
  let completionTokens := estimateTokenByModel modelName responseText
  { promptTokens := promptTokens
    completionTokens := completionTokens
    totalTokens := promptTokens + completionTokens }

/-! ### Cached tokens in other places -/

def extractCachedTokensFromBody : Option Int :=
  data.promptCachedTokens.or (data.usageCachedTokens.or data.promptCacheHitTokens)

def extractMoonshotCachedTokensFromBody : Option Int :=
  data.choiceCachedTokens.findSome? fun cachedTokens => cachedTokens.filter (· > 0)

def extractLlamaCachedTokensFromBody : Option Int := data.timingsCachedTokens

def withCachedTokens (cachedTokens : Int) : Usage :=
  { usage with promptTokensDetails := { usage.promptTokensDetails with cachedTokens := cachedTokens } }

def inputCachedTokens : Option Int :=
  (usage.inputTokensDetails.map InputTokenDetails.cachedTokens).filter (· > 0)

def otherCachedTokens (channel : ChannelType) (usage : Usage) (body : Option StreamData) :
    Option Int :=
  let hitTokens := (some usage.promptCacheHitTokens).filter (· > 0)
  match channel with
  | .deepSeek => (some usage.promptCacheHitTokens).filter (· ≠ 0)
  | .zhipuV4 =>
    (inputCachedTokens usage).or ((body.bind extractCachedTokensFromBody).or hitTokens)
  | .moonshot =>
    (inputCachedTokens usage).or ((body.bind extractMoonshotCachedTokensFromBody).or
      ((body.bind extractCachedTokensFromBody).or hitTokens))
  | .openAI => body.bind extractLlamaCachedTokensFromBody
  | .other => none

def applyUsagePostProcessing (channel : ChannelType) (usage : Usage) (body : Option StreamData) :
    Usage :=
  if usage.promptTokensDetails.cachedTokens = 0 then
    match otherCachedTokens channel usage body with
    | none => usage
    | some cachedTokens => withCachedTokens usage cachedTokens
  else usage

/-! ### The handler -/

structure StreamState where
  info : ConvertInfo
  lastStreamData : Option StreamData := none
  secondLastStreamData : Option StreamData := none
  tokens : TokenData := {}
  deriving DecidableEq, Repr

def isAudioModel (model : String) : Bool := "audio".toList <:+: (toLower model).toList

def receiveData : Emit StreamState ClaudeEvent :=
  fun s =>
    let (info, events) := match s.lastStreamData with
      | none => (s.info, [])
      | some last => handleStreamFormat last.chunk s.info
    ({ info := info
       lastStreamData := some data
       secondLastStreamData :=
         if isAudioModel request.upstreamModelName then s.lastStreamData.or s.secondLastStreamData
         else s.secondLastStreamData
       tokens := processTokenData request.relayMode data s.tokens }, events)

def reportedUsage (data? : Option StreamData) : Option Usage :=
  (data?.bind fun data => data.chunk.usage).filter validUsage

/-- The usage to bill: that of the last line, for audio models that of the line before
it, and an estimate from the text of the answer when neither is valid. -/
def billedUsage (s : StreamState) : Usage :=
  let estimate := responseText2Usage estimateTokenByModel s.tokens.responseText
    request.upstreamModelName request.estimatePromptTokens
  let usage := ((reportedUsage s.lastStreamData).or (reportedUsage s.secondLastStreamData)).getD
    { estimate with completionTokens := estimate.completionTokens + s.tokens.toolCount * 7 }
  applyUsagePostProcessing request.channelType usage s.lastStreamData

/-- The last line. It does not count as one more response. -/
def handleFinalResponse : Option StreamData → Convert
  | none => .skip
  | some last => fun s =>
    (streamResponseOpenAI2Claude last.chunk).andThen (.modify fun s => { s with done := true })
      { s with usage := some usage }

def oaiStreamHandler (stream : List StreamData) : Usage × List ClaudeEvent :=
  let (s, events) := Emit.forEach (receiveData request) stream
    { info := { estimatePromptTokens := request.estimatePromptTokens } }
  let usage := billedUsage estimateTokenByModel request s
  (usage, events ++ (handleFinalResponse usage s.lastStreamData s.info).2)

end XyApi.Relay

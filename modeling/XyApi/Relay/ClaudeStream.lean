import XyApi.Pricing.Usage
import XyApi.Lib.Emitter

/-!
The stream of Claude events that chunks of an OpenAI chat stream are converted
to. The converter keeps the type and index of the block it has open; tool calls
are open side by side, from a base index on. The first chunk opens the message,
and a chunk with a finish reason or with usage alone closes it.
-/

namespace XyApi.Relay

open Lib Pricing

/-! ### Chat chunks -/

structure ToolCallResponse where
  index : Option Int := none
  id : String := ""
  name : String := ""
  arguments : String := ""
  deriving DecidableEq, Repr

structure ChoiceDelta where
  content : Option String := none
  reasoningContent : Option String := none
  reasoning : Option String := none
  toolCalls : List ToolCallResponse := []
  deriving DecidableEq, Repr

structure StreamChoice where
  delta : ChoiceDelta := {}
  finishReason : Option String := none
  deriving DecidableEq, Repr

structure ChatChunk where
  id : String := ""
  model : String := ""
  choices : List StreamChoice := []
  usage : Option Usage := none
  deriving DecidableEq, Repr

def ChoiceDelta.getContentString (d : ChoiceDelta) : String := d.content.getD ""

def ChoiceDelta.getReasoningContent (d : ChoiceDelta) : String :=
  (d.reasoningContent.or d.reasoning).getD ""

def StreamChoice.finish? (c : StreamChoice) : Option String := c.finishReason.filter (· ≠ "")

/-! ### Claude events -/

structure ClaudeUsage where
  inputTokens : Int := 0
  outputTokens : Int := 0
  cacheCreationInputTokens : Int := 0
  cacheReadInputTokens : Int := 0
  /-- The cache creation by lifetime: five minutes and one hour. -/
  cacheCreation : Option (Int × Int) := none
  deriving DecidableEq, Repr

inductive ContentBlock
  | text
  | thinking
  | toolUse (id name : String)
  deriving DecidableEq, Repr

inductive BlockDelta
  | textDelta (text : String)
  | thinkingDelta (thinking : String)
  | inputJsonDelta (partialJson : String)
  deriving DecidableEq, Repr

inductive ClaudeEvent
  | messageStart (id model : String) (inputTokens : Int)
  | contentBlockStart (index : Int) (block : ContentBlock)
  | contentBlockDelta (index : Int) (delta : BlockDelta)
  | contentBlockStop (index : Int)
  | messageDelta (usage : ClaudeUsage) (stopReason : String)
  | messageStop
  deriving DecidableEq, Repr

def normalizeCacheCreationSplit (totalTokens tokens5m tokens1h : Int) : Int × Int :=
  (tokens5m + max (totalTokens - tokens5m - tokens1h) 0, tokens1h)

def buildClaudeUsageFromOpenAIUsage (usage : Usage) : ClaudeUsage :=
  let split := normalizeCacheCreationSplit usage.promptTokensDetails.cachedCreationTokens
    usage.claudeCacheCreation5mTokens usage.claudeCacheCreation1hTokens
  { inputTokens := usage.promptTokens
    outputTokens := usage.completionTokens
    cacheCreationInputTokens := usage.promptTokensDetails.cachedCreationTokens
    cacheReadInputTokens := usage.promptTokensDetails.cachedTokens
    cacheCreation := if split.1 > 0 ∨ split.2 > 0 then some split else none }

def stopReasonOpenAI2Claude (reason : String) : String :=
  match toLower reason with
  | "stop" => "end_turn"
  | "stop_sequence" => "stop_sequence"
  | "length" | "max_tokens" => "max_tokens"
  | "content_filter" => "refusal"
  | "tool_calls" => "tool_use"
  | _ => reason

/-! ### The converter -/

inductive LastMessageType
  | none
  | text
  | tools
  | thinking
  deriving DecidableEq, Repr

structure ConvertInfo where
  sendResponseCount : Nat := 0
  estimatePromptTokens : Int := 0
  lastMessagesType : LastMessageType := .none
  index : Int := 0
  usage : Option Usage := none
  finishReason : String := ""
  done : Bool := false
  toolCallBaseIndex : Int := 0
  toolCallMaxIndexOffset : Int := 0
  deriving DecidableEq, Repr

abbrev Convert := Emit ConvertInfo ClaudeEvent

def openBlocks (s : ConvertInfo) : List Int :=
  match s.lastMessagesType with
  | .none => []
  | .text | .thinking => [s.index]
  | .tools =>
    (List.range (s.toolCallMaxIndexOffset + 1).toNat).map fun offset : Nat =>
      s.toolCallBaseIndex + offset

def stopOpenBlocks : Convert := fun s => (s, (openBlocks s).map .contentBlockStop)

def advance (s : ConvertInfo) : ConvertInfo :=
  if s.lastMessagesType = .tools then
    { s with
      index := s.toolCallBaseIndex + s.toolCallMaxIndexOffset + 1
      toolCallBaseIndex := 0
      toolCallMaxIndexOffset := 0
      lastMessagesType := .none }
  else { s with index := s.index + 1, lastMessagesType := .none }

def stopOpenBlocksAndAdvance : Convert := fun s =>
  if s.lastMessagesType = .none then (s, []) else stopOpenBlocks.andThen (.modify advance) s

def switchTo (kind : LastMessageType) : Convert := fun s =>
  if s.lastMessagesType ≠ kind then stopOpenBlocksAndAdvance s else (s, [])

def argumentDelta (index : Int) (toolCall : ToolCallResponse) : List ClaudeEvent :=
  if toolCall.arguments ≠ "" then
    [.contentBlockDelta index (.inputJsonDelta toolCall.arguments)]
  else []

/-- The end of the message. The usage is left out when there is none. -/
def closeMessage (usage? : Option Usage) (stopReason : String) : Convert :=
  stopOpenBlocks.andThen fun s =>
    ({ s with done := true },
      (usage?.map fun usage =>
        ClaudeEvent.messageDelta (buildClaudeUsageFromOpenAIUsage usage) stopReason).toList ++
        [.messageStop])

/-! #### The first chunk -/

def openFirstTool : List ToolCallResponse → Convert
  | [] => .skip
  | toolCall :: _ => fun s =>
    ({ s with
        lastMessagesType := .tools, toolCallBaseIndex := 0, toolCallMaxIndexOffset := 0 },
      .contentBlockStart 0 (.toolUse toolCall.id toolCall.name) :: argumentDelta 0 toolCall)

def openFirstBlock (kind : LastMessageType) (block : ContentBlock) (delta : BlockDelta) : Convert :=
  (switchTo kind).andThen fun s =>
    ({ s with lastMessagesType := kind },
      [.contentBlockStart s.index block, .contentBlockDelta s.index delta])

def openFirstContent (delta : ChoiceDelta) : Convert :=
  if delta.getReasoningContent ≠ "" then
    openFirstBlock .thinking .thinking (.thinkingDelta delta.getReasoningContent)
  else if delta.getContentString ≠ "" then
    openFirstBlock .text .text (.textDelta delta.getContentString)
  else .skip

def finishFirst (chunk : ChatChunk) (choice : StreamChoice) : Convert :=
  match choice.finish? with
  | none => .skip
  | some reason => fun s =>
    closeMessage (chunk.usage.or s.usage) (stopReasonOpenAI2Claude reason)
      { s with finishReason := reason }

def convertFirst (chunk : ChatChunk) : Convert :=
  Emit.andThen (fun s => (s, [.messageStart chunk.id chunk.model s.estimatePromptTokens]))
    (match chunk.choices with
      | [] => .skip
      | choice :: _ =>
        (openFirstTool choice.delta.toolCalls).andThen
          ((openFirstContent choice.delta).andThen (finishFirst chunk choice)))

/-! #### Later chunks -/

def toolOffset (position : Nat) (toolCall : ToolCallResponse) : Int :=
  toolCall.index.getD position

def toolFragment (base : Int) (fragment : ToolCallResponse × Nat) : List ClaudeEvent :=
  let (toolCall, position) := fragment
  let blockIndex := base + toolOffset position toolCall
  (if toolCall.name ≠ "" then
    [.contentBlockStart blockIndex (.toolUse toolCall.id toolCall.name)] else []) ++
    argumentDelta blockIndex toolCall

def maxToolOffset (offset : Int) (fragments : List (ToolCallResponse × Nat)) : Int :=
  fragments.foldl (fun offset fragment => max offset (toolOffset fragment.2 fragment.1)) offset

def beginTools : Convert := fun s =>
  if s.lastMessagesType ≠ .tools then
    stopOpenBlocksAndAdvance.andThen (.modify fun s =>
      { s with toolCallBaseIndex := s.index, toolCallMaxIndexOffset := 0 }) s
  else (s, [])

def convertTools (toolCalls : List ToolCallResponse) : Convert :=
  beginTools.andThen fun s =>
    let base := s.toolCallBaseIndex
    let maxOffset := maxToolOffset s.toolCallMaxIndexOffset toolCalls.zipIdx
    ({ s with
        lastMessagesType := .tools
        toolCallMaxIndexOffset := maxOffset
        index := base + maxOffset },
      toolCalls.zipIdx.flatMap (toolFragment base))

def convertContent (kind : LastMessageType) (block : ContentBlock) (delta : BlockDelta) :
    Convert := fun s =>
  if s.lastMessagesType ≠ kind then
    stopOpenBlocksAndAdvance.andThen (fun s =>
      ({ s with lastMessagesType := kind },
        [.contentBlockStart s.index block, .contentBlockDelta s.index delta])) s
  else (s, [.contentBlockDelta s.index delta])

def convertDelta (delta : ChoiceDelta) : Convert :=
  if delta.toolCalls ≠ [] then convertTools delta.toolCalls
  else if delta.getReasoningContent ≠ "" then
    convertContent .thinking .thinking (.thinkingDelta delta.getReasoningContent)
  else if delta.getContentString ≠ "" then
    convertContent .text .text (.textDelta delta.getContentString)
  else .skip

def convertUsageOnly (chunk : ChatChunk) : Convert := fun s =>
  match chunk.usage.or s.usage with
  | none => (s, [])
  | some usage =>
    let stopReason := stopReasonOpenAI2Claude s.finishReason
    closeMessage (some usage) (if stopReason = "" then "end_turn" else stopReason) s

/-- A chunk with a finish reason closes the message if it has usage. Without, nothing
of it is converted: closing is left to a later chunk. -/
def convertChoice (chunk : ChatChunk) (choice : StreamChoice) : Convert :=
  match choice.finish? with
  | none => convertDelta choice.delta
  | some reason => fun s =>
    let s := { s with finishReason := reason }
    match chunk.usage with
    | none => (s, [])
    | some usage =>
      (convertDelta choice.delta).andThen
        (closeMessage (some usage) (stopReasonOpenAI2Claude reason)) s

section

variable {chunk : ChatChunk} {choice : StreamChoice}

theorem convertChoice_open (h : choice.finish? = none) :
    convertChoice chunk choice = convertDelta choice.delta := by
  rw [convertChoice, h]

theorem convertChoice_deferred (h : choice.finish? = some reason) (hUsage : chunk.usage = none)
    (s : ConvertInfo) :
    convertChoice chunk choice s = ({ s with finishReason := reason }, []) := by
  simp only [convertChoice, h, hUsage]

theorem convertChoice_closing (h : choice.finish? = some reason) (hUsage : chunk.usage = some usage)
    (s : ConvertInfo) :
    convertChoice chunk choice s =
      (convertDelta choice.delta).andThen
        (closeMessage (some usage) (stopReasonOpenAI2Claude reason))
        { s with finishReason := reason } := by
  simp only [convertChoice, h, hUsage]

end

def convertLater (chunk : ChatChunk) : Convert :=
  match chunk.choices with
  | [] => convertUsageOnly chunk
  | choice :: _ => convertChoice chunk choice

def streamResponseOpenAI2Claude (chunk : ChatChunk) : Convert := fun s =>
  if s.done then (s, [])
  else if s.sendResponseCount = 1 then convertFirst chunk s
  else convertLater chunk s

/-! ### Handlers -/

def handleClaudeFormat (chunk : ChatChunk) : Convert := fun s =>
  streamResponseOpenAI2Claude chunk { s with usage := chunk.usage.or s.usage }

def handleStreamFormat (chunk : ChatChunk) : Convert := fun s =>
  handleClaudeFormat chunk { s with sendResponseCount := s.sendResponseCount + 1 }

end XyApi.Relay

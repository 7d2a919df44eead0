import Mathlib.Data.List.Basic

/-!
Claude requests as OpenAI requests: the messages. A Claude message is a list of blocks; it
becomes one tool message for each tool result and one message for the rest. That message
has tool calls or content, never both, so the text of a message that also uses tools is
dropped. Without such messages the content arrives, message by message.
-/

namespace XyApi.Relay

/-! ### The two shapes -/

inductive ClaudeRole
  | user
  | assistant
  deriving DecidableEq, Repr

def ClaudeRole.name : ClaudeRole → String
  | user => "user"
  | assistant => "assistant"

inductive ResultContent (V : Type)
  | string (content : String)
  | media (content : V)
  deriving DecidableEq, Repr

inductive ClaudeBlock (V : Type)
  | text (text cacheControl : String)
  | image (mediaType data : String)
  | toolUse (id name : String) (input : V)
  | toolResult (name toolUseId : String) (content : ResultContent V)
  | other
  deriving DecidableEq, Repr

inductive ClaudeContent (V : Type)
  | string (content : String)
  | blocks (blocks : List (ClaudeBlock V))
  | invalid (err : String)
  deriving DecidableEq, Repr

structure ClaudeMessage (V : Type) where
  role : ClaudeRole
  content : ClaudeContent V
  deriving DecidableEq, Repr

inductive ClaudeSystem
  | string (content : String)
  | blocks (texts : List (Option String × String))
  deriving DecidableEq, Repr

structure ClaudeRequest (V : Type) where
  system : Option ClaudeSystem := none
  messages : List (ClaudeMessage V)
  deriving DecidableEq, Repr

inductive MediaContent
  | text (text cacheControl : String)
  | imageUrl (url detail mimeType : String)
  deriving DecidableEq, Repr

inductive MessageContent
  | string (content : String)
  | media (content : List MediaContent)
  deriving DecidableEq, Repr

structure ToolCallRequest where
  id : String
  name : String
  arguments : String
  deriving DecidableEq, Repr

structure Message where
  role : String
  content : Option MessageContent := none
  toolCalls : List ToolCallRequest := []
  name : Option String := none
  toolCallId : String := ""
  deriving DecidableEq, Repr

structure JsonEncoder (V : Type) where
  toJSONString : V → String
  encodeMediaContent : V → String

variable {V : Type}

/-! ### Conversion -/

def ClaudeBlock.id : ClaudeBlock V → String
  | .toolUse id _ _ => id
  | .text .. | .image .. | .toolResult .. | .other => ""

def ClaudeBlock.name : ClaudeBlock V → String
  | .toolUse _ name _ | .toolResult name _ _ => name
  | .text .. | .image .. | .other => ""

def ClaudeContent.parsed : ClaudeContent V → List (ClaudeBlock V)
  | .blocks parts => parts
  | .string _ | .invalid _ => []

def ClaudeRequest.searchToolNameByToolCallId (request : ClaudeRequest V) (toolCallId : String) :
    String :=
  ((request.messages.flatMap (·.content.parsed)).find? (·.id = toolCallId)).elim "" (·.name)

def ResultContent.encoded (encoder : JsonEncoder V) : ResultContent V → String
  | .string content => content
  | .media content => encoder.encodeMediaContent content

structure Converted where
  toolCalls : List ToolCallRequest := []
  mediaMessages : List MediaContent := []
  messages : List Message := []
  deriving DecidableEq, Repr

def convertBlock (encoder : JsonEncoder V) (request : ClaudeRequest V) (acc : Converted) :
    ClaudeBlock V → Converted
  | .text text cacheControl =>
    { acc with mediaMessages := acc.mediaMessages ++ [.text text cacheControl] }
  | .image mediaType data =>
    { acc with mediaMessages :=
        acc.mediaMessages ++ [.imageUrl ("data:" ++ mediaType ++ ";base64," ++ data) "" ""] }
  | .toolUse id name input =>
    { acc with toolCalls := acc.toolCalls ++ [⟨id, name, encoder.toJSONString input⟩] }
  | .toolResult name toolUseId content =>
    let toolName := if name = "" then request.searchToolNameByToolCallId toolUseId else name
    { acc with messages := acc.messages ++ [{
        role := "tool"
        name := some toolName
        toolCallId := toolUseId
        content := some (.string (content.encoded encoder)) }] }
  | .other => acc

def Message.parseContent (message : Message) : List MediaContent :=
  match message.content with
  | none => []
  | some (.string content) => [.text content ""]
  | some (.media content) => content

def sent (message : Message) : List Message :=
  if message.parseContent.length > 0 ∨ message.toolCalls.length > 0 then [message] else []

def convertMessage (encoder : JsonEncoder V) (request : ClaudeRequest V)
    (message : ClaudeMessage V) : Except String (List Message) :=
  match message.content with
  | .string content => .ok (sent { role := message.role.name, content := some (.string content) })
  | .invalid err => .error err
  | .blocks blocks =>
    let acc := blocks.foldl (convertBlock encoder request) {}
    let content := if acc.mediaMessages.length > 0 ∧ acc.toolCalls.length = 0 then
      some (MessageContent.media acc.mediaMessages) else none
    .ok (acc.messages ++ sent {
      role := message.role.name, content := content, toolCalls := acc.toolCalls })

def systemMessages (isOpenRouterClaude : Bool) : Option ClaudeSystem → List Message
  | none | some (.string "") | some (.blocks []) => []
  | some (.string content) => [{ role := "system", content := some (.string content) }]
  | some (.blocks systems) =>
    [{ role := "system"
       content := some (if isOpenRouterClaude then
         .media (systems.map fun system => .text (system.1.getD "") system.2)
       else .string (String.join (systems.map fun system => system.1.getD ""))) }]

def claudeToOpenAIRequest (encoder : JsonEncoder V) (isOpenRouterClaude : Bool)
    (request : ClaudeRequest V) : Except String (List Message) := do
  let converted ← request.messages.mapM (convertMessage encoder request)
  pure (systemMessages isOpenRouterClaude request.system ++ converted.flatten)

/-! ### What a conversation says -/

inductive Item
  | text (role text : String)
  | toolCall (role id name arguments : String)
  | toolResult (toolCallId content : String)
  deriving DecidableEq, Repr

def Item.isResult : Item → Bool
  | .toolResult .. => true
  | .text .. | .toolCall .. => false

def ClaudeBlock.item? (encoder : JsonEncoder V) (role : ClaudeRole) : ClaudeBlock V → Option Item
  | .text value _ => some (.text role.name value)
  | .toolUse id name input => some (.toolCall role.name id name (encoder.toJSONString input))
  | .toolResult _ toolUseId content => some (.toolResult toolUseId (content.encoded encoder))
  | .image .. | .other => none

def ClaudeMessage.items (encoder : JsonEncoder V) (message : ClaudeMessage V) : List Item :=
  match message.content with
  | .string content => [.text message.role.name content]
  | .blocks blocks => blocks.filterMap (·.item? encoder message.role)
  | .invalid _ => []

def MediaContent.item? (role : String) : MediaContent → Option Item
  | .text value _ => some (.text role value)
  | .imageUrl .. => none

def ToolCallRequest.item (role : String) (call : ToolCallRequest) : Item :=
  .toolCall role call.id call.name call.arguments

def Message.items (message : Message) : List Item :=
  if message.role = "tool" then
    match message.content with
    | some (.string content) => [.toolResult message.toolCallId content]
    | some (.media _) | none => []
  else
    message.parseContent.filterMap (·.item? message.role) ++
      message.toolCalls.map (·.item message.role)

/-! ### One message -/

def ClaudeBlock.isText : ClaudeBlock V → Bool
  | .text .. => true
  | .image .. | .toolUse .. | .toolResult .. | .other => false

def ClaudeBlock.isToolUse : ClaudeBlock V → Bool
  | .toolUse .. => true
  | .text .. | .image .. | .toolResult .. | .other => false

/-- The message can be read, and does not say something and use a tool. -/
def ClaudeContent.Unmixed : ClaudeContent V → Prop
  | .string _ => True
  | .blocks parts => (∀ block ∈ parts, block.isText = false) ∨
      ∀ block ∈ parts, block.isToolUse = false
  | .invalid _ => False

def resultsFirst (items : List Item) : List Item :=
  items.filter (·.isResult) ++ items.filter (!·.isResult)

variable (encoder : JsonEncoder V) (request : ClaudeRequest V)

theorem ClaudeRole.name_ne_tool (role : ClaudeRole) : role.name ≠ "tool" := by
  cases role <;> decide

/-- Every block adds its items to one of the three lists. -/
theorem convertBlock_items (role : ClaudeRole) (acc : Converted) (block : ClaudeBlock V) :
    (convertBlock encoder request acc block).messages.flatMap Message.items =
        acc.messages.flatMap Message.items ++
          (block.item? encoder role).toList.filter (·.isResult) ∧
      (convertBlock encoder request acc block).mediaMessages.filterMap (·.item? role.name) =
        acc.mediaMessages.filterMap (·.item? role.name) ++
          (if block.isText then (block.item? encoder role).toList else []) ∧
      (convertBlock encoder request acc block).toolCalls.map (·.item role.name) =
        acc.toolCalls.map (·.item role.name) ++
          (if block.isToolUse then (block.item? encoder role).toList else []) := by
  cases block <;>
    simp [convertBlock, ClaudeBlock.item?, ClaudeBlock.isText, ClaudeBlock.isToolUse,
      Item.isResult, Message.items, MediaContent.item?, ToolCallRequest.item]

theorem foldl_convertBlock_items (role : ClaudeRole) (blocks : List (ClaudeBlock V))
    (acc : Converted) :
    let converted := blocks.foldl (convertBlock encoder request) acc
    converted.messages.flatMap Message.items = acc.messages.flatMap Message.items ++
        (blocks.filterMap (·.item? encoder role)).filter (·.isResult) ∧
      converted.mediaMessages.filterMap (·.item? role.name) =
        acc.mediaMessages.filterMap (·.item? role.name) ++
          (blocks.filter (·.isText)).filterMap (·.item? encoder role) ∧
      converted.toolCalls.map (·.item role.name) = acc.toolCalls.map (·.item role.name) ++
        (blocks.filter (·.isToolUse)).filterMap (·.item? encoder role) := by
  induction blocks generalizing acc with
  | nil => simp
  | cons block rest ih =>
    obtain ⟨hMessages, hMedia, hCalls⟩ := convertBlock_items encoder request role acc block
    obtain ⟨hMessages', hMedia', hCalls'⟩ := ih (convertBlock encoder request acc block)
    refine ⟨?_, ?_, ?_⟩
    · rw [List.foldl_cons, hMessages', hMessages, List.append_assoc]
      cases hItem : block.item? encoder role with
      | none => simp [hItem]
      | some item => by_cases hResult : item.isResult <;> simp [hItem, hResult]
    · rw [List.foldl_cons, hMedia', hMedia, List.append_assoc]
      by_cases hText : block.isText <;> cases hItem : block.item? encoder role <;>
        simp [hText, hItem]
    · rw [List.foldl_cons, hCalls', hCalls, List.append_assoc]
      by_cases hUse : block.isToolUse <;> cases hItem : block.item? encoder role <;>
        simp [hUse, hItem]

/-- What is no tool result is text or a tool call. -/
theorem filter_not_isResult (role : ClaudeRole) (blocks : List (ClaudeBlock V)) :
    (blocks.filterMap (·.item? encoder role)).filter (!·.isResult) =
      (blocks.filter fun block => block.isText || block.isToolUse).filterMap
        (·.item? encoder role) := by
  rw [List.filter_filterMap, List.filterMap_filter]
  refine congrArg (List.filterMap · blocks) (funext fun block => ?_)
  cases block <;> rfl

theorem items_sent (role : ClaudeRole) (content : Option MessageContent)
    (toolCalls : List ToolCallRequest) :
    (sent { role := role.name, content := content, toolCalls := toolCalls }).flatMap
        Message.items =
      (Message.parseContent { role := role.name, content := content }).filterMap
        (·.item? role.name) ++ toolCalls.map (·.item role.name) := by
  unfold sent
  split
  · simp [Message.items, role.name_ne_tool, Message.parseContent]
  · next hEmpty =>
      simp only [not_or, Nat.not_lt, Nat.le_zero, List.length_eq_zero_iff] at hEmpty
      obtain ⟨hContent, rfl⟩ := hEmpty
      simp only [Message.parseContent] at hContent ⊢
      rw [hContent]
      rfl

theorem convertMessage_items (h : message.content.Unmixed) :
    ∃ messages, convertMessage encoder request message = .ok messages ∧
      messages.flatMap Message.items = resultsFirst (message.items encoder) := by
  obtain ⟨role, content⟩ := message
  cases content with
  | invalid => exact h.elim
  | string =>
    refine ⟨_, rfl, ?_⟩
    rw [items_sent]
    rfl
  | blocks blocks =>
    obtain ⟨hMessages, hMedia, hCalls⟩ :=
      foldl_convertBlock_items encoder request role blocks {}
    refine ⟨_, rfl, ?_⟩
    rw [List.flatMap_append, hMessages, items_sent, hCalls, resultsFirst]
    simp only [ClaudeMessage.items, filter_not_isResult]
    refine congrArg₂ _ (by simp) ?_
    rcases h with hNoText | hNoUse
    · have hTexts : blocks.filter (·.isText) = [] := by simpa using hNoText
      have hUses : (blocks.filter fun block => block.isText || block.isToolUse) =
          blocks.filter (·.isToolUse) :=
        List.filter_congr fun block hBlock => by simp [hNoText block hBlock]
      rw [hTexts] at hMedia
      rw [hUses]
      split
      · simpa [Message.parseContent] using hMedia
      · simp [Message.parseContent]
    · have hUses : blocks.filter (·.isToolUse) = [] := by simpa using hNoUse
      have hTexts : (blocks.filter fun block => block.isText || block.isToolUse) =
          blocks.filter (·.isText) :=
        List.filter_congr fun block hBlock => by simp [hNoUse block hBlock]
      rw [hUses] at hCalls
      rw [hTexts, hUses]
      have hNone : (blocks.foldl (convertBlock encoder request) {}).toolCalls = [] := by
        simpa using hCalls
      split
      · simpa [Message.parseContent] using hMedia
      · next hEmpty =>
          have hNoMedia : (blocks.foldl (convertBlock encoder request) {}).mediaMessages = [] := by
            simpa [hNone] using hEmpty
          simpa [Message.parseContent, hNoMedia] using hMedia

theorem mapM_convertMessage {messages : List (ClaudeMessage V)}
    (h : ∀ message ∈ messages, message.content.Unmixed) :
    ∃ converted, messages.mapM (convertMessage encoder request) = .ok converted ∧
      converted.flatten.flatMap Message.items =
        messages.flatMap fun message => resultsFirst (message.items encoder) := by
  induction messages with
  | nil => exact ⟨[], rfl, rfl⟩
  | cons message rest ih =>
    obtain ⟨first, hFirst, hItems⟩ :=
      convertMessage_items encoder request (h message List.mem_cons_self)
    obtain ⟨others, hOthers, hRest⟩ := ih fun m hm => h m (List.mem_cons_of_mem _ hm)
    refine ⟨first :: others, ?_, ?_⟩
    · rw [List.mapM_cons, hFirst, hOthers]
      rfl
    · rw [List.flatten_cons, List.flatMap_append, hItems, hRest, List.flatMap_cons]

def plainEncoder : JsonEncoder String := ⟨id, id⟩

def weatherRequest : ClaudeRequest String where
  system := some (.string "be brief")
  messages := [
    ⟨.user, .string "weather?"⟩,
    ⟨.assistant, .blocks [.toolUse "t1" "weather" "1", .toolUse "t2" "weather" "2"]⟩,
    ⟨.user, .blocks [.text "and then" "", .toolResult "" "t1" (.string "rain"),
      .toolResult "" "t2" (.string "sun")]⟩]

end XyApi.Relay

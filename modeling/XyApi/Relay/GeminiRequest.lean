import XyApi.Lib.Numeral
import XyApi.Relay.ClaudeRequest

/-!
Gemini requests as OpenAI requests: the messages and the stop sequences. Gemini links a
function response to its call by the name of the function, OpenAI by an id. The ids are
made up from the number of calls seen so far in the same content, so they start over with
every content, and a response is linked to the last call of its own content. The first four
stop sequences are taken without looking whether there are four.
-/

namespace XyApi.Relay

variable {V : Type}

structure GeminiPart (V : Type) where
  text : String := ""
  /-- Media type and data. -/
  inlineData : Option (String × String) := none
  /-- Media type and address. -/
  fileData : Option (String × String) := none
  functionCall : Option (String × V) := none
  functionResponse : Option (String × V) := none
  deriving DecidableEq, Repr

structure GeminiContent (V : Type) where
  role : String
  parts : List (GeminiPart V)
  deriving DecidableEq, Repr

structure GeminiRequest (V : Type) where
  contents : List (GeminiContent V)
  systemInstructions : Option (List (GeminiPart V)) := none
  stopSequences : List String := []
  /-- The room behind the stop sequences in the memory they were read into. -/
  stopSpare : Nat := 0
  deriving DecidableEq, Repr

/-! ### Conversion -/

def convertGeminiRoleToOpenAI : String → String
  | "model" => "assistant"
  | "function" => "function"
  | _ => "user"

def extractTextFromGeminiParts (parts : List (GeminiPart V)) : String :=
  "\n".intercalate ((parts.map (·.text)).filter (· ≠ ""))

def callId (n : Nat) : String := "call_" ++ toString n

def convertGeminiPart (encoder : JsonEncoder V) (acc : Converted) (part : GeminiPart V) : Converted :=
  if part.text ≠ "" then
    { acc with mediaMessages := acc.mediaMessages ++ [.text part.text ""] }
  else
    match part.inlineData, part.fileData, part.functionCall, part.functionResponse with
    | some (mimeType, data), _, _, _ =>
      { acc with mediaMessages := acc.mediaMessages ++
          [.imageUrl ("data:" ++ mimeType ++ ";base64," ++ data) "auto" mimeType] }
    | none, some (mimeType, fileUri), _, _ =>
      { acc with mediaMessages := acc.mediaMessages ++ [.imageUrl fileUri "auto" mimeType] }
    | none, none, some (name, arguments), _ =>
      { acc with toolCalls := acc.toolCalls ++
          [⟨callId (acc.toolCalls.length + 1), name, encoder.toJSONString arguments⟩] }
    | none, none, none, some (_, response) =>
      { acc with messages := acc.messages ++ [{
          role := "tool"
          toolCallId := callId acc.toolCalls.length
          content := some (.string (encoder.toJSONString response)) }] }
    | none, none, none, none => acc

def mediaMessageContent : List MediaContent → Option MessageContent
  | [] => none
  | [.text text _] => some (.string text)
  | media => some (.media media)

def convertGeminiContent (encoder : JsonEncoder V) (content : GeminiContent V) : List Message :=
  let acc := content.parts.foldl (convertGeminiPart encoder) {}
  acc.messages ++ sent {
    role := convertGeminiRoleToOpenAI content.role
    content := if acc.toolCalls.length > 0 then none else mediaMessageContent acc.mediaMessages
    toolCalls := acc.toolCalls }

/-- The slice up to the fourth place, which reaches into the room behind the items. -/
def firstFour (items : List String) (spare : Nat) : Option (List String) :=
  if items.length + spare < 4 then none else some ((items ++ List.replicate spare "").take 4)

def convertStopSequences (request : GeminiRequest V) : Option (List String) :=
  if request.stopSequences.length > 0 then firstFour request.stopSequences request.stopSpare
  else some []

/-- The messages and stop sequences of the OpenAI request, unless the conversion panics. -/
def geminiToOpenAIRequest (encoder : JsonEncoder V) (request : GeminiRequest V) :
    Option (List Message × List String) := do
  let messages := request.contents.flatMap (convertGeminiContent encoder)
  let stop ← convertStopSequences request
  let system := request.systemInstructions.map fun parts =>
    { role := "system", content := some (.string (extractTextFromGeminiParts parts)) : Message }
  pure (system.toList ++ messages, stop)

/-! ### Calls and responses -/

inductive FunctionEvent
  | call (name : String)
  | response (name : String)
  deriving DecidableEq, Repr

def GeminiPart.events (part : GeminiPart V) : List FunctionEvent :=
  (part.functionCall.map fun call => .call call.1).toList ++
    (part.functionResponse.map fun response => .response response.1).toList

def GeminiContent.events (content : GeminiContent V) : List FunctionEvent :=
  content.parts.flatMap (·.events)

def callIds (messages : List Message) : List String :=
  messages.flatMap fun message => message.toolCalls.map (·.id)

def answerIds (messages : List Message) : List String :=
  (messages.filter (·.role = "tool")).map (·.toolCallId)

/-- For each response, the id of the latest unanswered call of the same function. The open
calls are listed from the latest, and `ids` are those of the calls to come. -/
def linkedIds : List (String × String) → List String → List FunctionEvent → List (Option String)
  | calls, id :: ids, .call name :: rest => linkedIds ((id, name) :: calls) ids rest
  | calls, [], .call _ :: rest => linkedIds calls [] rest
  | calls, ids, .response name :: rest =>
    (calls.find? (·.2 = name)).map Prod.fst ::
      linkedIds (calls.eraseP (·.2 = name)) ids rest
  | _, _, [] => []

/-- Every response follows its call, with no other call in between. -/
def Answered : Option String → List FunctionEvent → Prop
  | _, [] => True
  | _, .call name :: rest => Answered (some name) rest
  | last, .response name :: rest => last = some name ∧ Answered none rest

instance : (last : Option String) → (events : List FunctionEvent) → Decidable (Answered last events)
  | _, [] => isTrue trivial
  | _, .call name :: rest => instDecidableAnswered (some name) rest
  | last, .response name :: rest =>
    have := instDecidableAnswered none rest
    inferInstanceAs (Decidable (last = some name ∧ Answered none rest))

def GeminiPart.Plain (part : GeminiPart V) : Prop :=
  part.events = [] ∨ (part.text = "" ∧ part.inlineData = none ∧ part.fileData = none ∧
    (part.functionCall = none ∨ part.functionResponse = none))

/-- All calls and responses are in one content, each response right behind its call. -/
structure Linked (request : GeminiRequest V) : Prop where
  plain : ∀ content ∈ request.contents, ∀ part ∈ content.parts, part.Plain
  answered : ∀ content ∈ request.contents, Answered none content.events
  single : (request.contents.filter (·.events ≠ [])).length ≤ 1

/-! ### One content -/

def newCallIds (k : Nat) : List FunctionEvent → List String
  | [] => []
  | .call _ :: rest => callId (k + 1) :: newCallIds (k + 1) rest
  | .response _ :: rest => newCallIds k rest

def newAnswerIds (k : Nat) : List FunctionEvent → List String
  | [] => []
  | .call _ :: rest => newAnswerIds (k + 1) rest
  | .response _ :: rest => callId k :: newAnswerIds k rest

theorem callId_injective : Function.Injective callId := by
  intro m n h
  exact Lib.natRepr_inj ((String.append_right_inj "call_").mp h)

theorem mem_newCallIds {id : String} (h : id ∈ newCallIds k events) : ∃ n, k < n ∧ id = callId n := by
  induction events generalizing k with
  | nil => cases h
  | cons event rest ih =>
    cases event with
    | response => exact ih h
    | call =>
      rcases List.mem_cons.mp h with rfl | h
      · exact ⟨k + 1, by omega, rfl⟩
      · obtain ⟨n, hn, rfl⟩ := ih h
        exact ⟨n, by omega, rfl⟩

theorem newCallIds_nodup (k : Nat) (events : List FunctionEvent) :
    (newCallIds k events).Nodup := by
  induction events generalizing k with
  | nil => exact List.nodup_nil
  | cons event rest ih =>
    cases event with
    | response => exact ih k
    | call =>
      refine List.nodup_cons.mpr ⟨fun hMem => ?_, ih _⟩
      obtain ⟨n, hn, hId⟩ := mem_newCallIds hMem
      have := callId_injective hId
      omega

/-- Behind its call, a response gets the id of its call. -/
theorem newAnswerIds_linked (h : Answered last events)
    (hLast : ∀ name ∈ last, calls.head? = some (callId k, name)) :
    (newAnswerIds k events).map some = linkedIds calls (newCallIds k events) events := by
  induction events generalizing k last calls with
  | nil => rfl
  | cons event rest ih =>
    cases event with
    | call =>
      refine ih h fun name' hName => ?_
      cases hName
      rfl
    | response name =>
      obtain ⟨rfl, hRest⟩ := h
      obtain ⟨tail, rfl⟩ : ∃ tail, calls = (callId k, name) :: tail := by
        have hHead := hLast name rfl
        cases calls with
        | nil => cases hHead
        | cons head tail => exact ⟨tail, by rw [Option.some.inj hHead]⟩
      have hRest' : (newAnswerIds k rest).map some =
          linkedIds tail (newCallIds k rest) rest :=
        ih hRest fun _ hName => by cases hName
      simpa [newAnswerIds, newCallIds, linkedIds] using hRest'

section Content

/-- What a part adds. -/
theorem convertGeminiPart_ids (h : part.Plain) (acc : Converted) :
    (convertGeminiPart encoder acc part).toolCalls.map (·.id) =
        acc.toolCalls.map (·.id) ++ newCallIds acc.toolCalls.length part.events ∧
      answerIds (convertGeminiPart encoder acc part).messages =
        answerIds acc.messages ++ newAnswerIds acc.toolCalls.length part.events ∧
      callIds (convertGeminiPart encoder acc part).messages = callIds acc.messages := by
  obtain ⟨text, inlineData, fileData, functionCall, functionResponse⟩ := part
  rcases h with hNone | ⟨hText, hInline, hFile, hOne⟩
  · obtain ⟨rfl, rfl⟩ : functionCall = none ∧ functionResponse = none := by
      simpa [GeminiPart.events] using hNone
    unfold convertGeminiPart
    split
    · simp [GeminiPart.events, newCallIds, newAnswerIds]
    · cases inlineData <;> cases fileData <;>
        simp [GeminiPart.events, newCallIds, newAnswerIds]
  · dsimp only at hText hInline hFile hOne
    subst hText hInline hFile
    cases functionCall with
    | some =>
      obtain rfl : functionResponse = none := by simpa using hOne
      simp [convertGeminiPart, GeminiPart.events, newCallIds, newAnswerIds]
    | none =>
      cases functionResponse <;>
        simp [convertGeminiPart, GeminiPart.events, newCallIds, newAnswerIds, answerIds, callIds]

theorem newIds_append (k : Nat) (events events' : List FunctionEvent) :
    newCallIds k (events ++ events') =
        newCallIds k events ++ newCallIds (k + (newCallIds k events).length) events' ∧
      newAnswerIds k (events ++ events') =
        newAnswerIds k events ++ newAnswerIds (k + (newCallIds k events).length) events' := by
  induction events generalizing k with
  | nil => exact ⟨rfl, rfl⟩
  | cons event rest ih =>
    cases event with
    | response => exact ⟨(ih k).1, congrArg (callId k :: ·) (ih k).2⟩
    | call =>
      obtain ⟨hCalls, hAnswers⟩ := ih (k + 1)
      rw [show k + 1 + (newCallIds (k + 1) rest).length =
        k + ((newCallIds (k + 1) rest).length + 1) by omega] at hCalls hAnswers
      exact ⟨congrArg (callId (k + 1) :: ·) hCalls, hAnswers⟩

theorem foldl_convertGeminiPart_ids {parts : List (GeminiPart V)} (h : ∀ part ∈ parts, part.Plain)
    (acc : Converted) :
    let converted := parts.foldl (convertGeminiPart encoder) acc
    let events := parts.flatMap (·.events)
    converted.toolCalls.map (·.id) =
        acc.toolCalls.map (·.id) ++ newCallIds acc.toolCalls.length events ∧
      answerIds converted.messages =
        answerIds acc.messages ++ newAnswerIds acc.toolCalls.length events ∧
      callIds converted.messages = callIds acc.messages := by
  induction parts generalizing acc with
  | nil => exact ⟨(List.append_nil _).symm, (List.append_nil _).symm, rfl⟩
  | cons part rest ih =>
    obtain ⟨hCalls, hAnswers, hNone⟩ :=
      @convertGeminiPart_ids V encoder part (h part List.mem_cons_self) acc
    obtain ⟨hCalls', hAnswers', hNone'⟩ :=
      ih (fun p hp => h p (List.mem_cons_of_mem _ hp)) (convertGeminiPart encoder acc part)
    have hLength : (convertGeminiPart encoder acc part).toolCalls.length =
        acc.toolCalls.length + (newCallIds acc.toolCalls.length part.events).length := by
      simpa using congrArg List.length hCalls
    refine ⟨?_, ?_, ?_⟩
    · rw [List.foldl_cons, hCalls', hCalls, hLength, List.flatMap_cons,
        (newIds_append ..).1, List.append_assoc]
    · rw [List.foldl_cons, hAnswers', hAnswers, hLength, List.flatMap_cons,
        (newIds_append ..).2, List.append_assoc]
    · rw [List.foldl_cons, hNone', hNone]

theorem convertGeminiRoleToOpenAI_ne_tool :
    convertGeminiRoleToOpenAI role ≠ "tool" := by
  unfold convertGeminiRoleToOpenAI
  split <;> decide

theorem callIds_sent : callIds (sent message) = message.toolCalls.map (·.id) := by
  unfold sent
  split
  · simp [callIds]
  · next hEmpty =>
      have hNone : message.toolCalls = [] :=
        List.eq_nil_of_length_eq_zero (Nat.eq_zero_of_not_pos fun hSome => hEmpty (.inr hSome))
      simp [hNone, callIds]

theorem answerIds_sent (h : message.role ≠ "tool") :
    answerIds (sent message) = [] := by
  unfold sent
  split <;> simp [answerIds, h]

theorem convertGeminiContent_ids {content : GeminiContent V} (h : ∀ part ∈ content.parts, part.Plain) :
    callIds (convertGeminiContent encoder content) = newCallIds 0 content.events ∧
      answerIds (convertGeminiContent encoder content) = newAnswerIds 0 content.events := by
  obtain ⟨hCalls, hAnswers, hNone⟩ := @foldl_convertGeminiPart_ids V encoder content.parts h {}
  constructor
  · rw [convertGeminiContent, callIds, List.flatMap_append, ← callIds, ← callIds, hNone, callIds_sent]
    exact hCalls
  · rw [convertGeminiContent, answerIds, List.filter_append, List.map_append, ← answerIds, ← answerIds,
      hAnswers, answerIds_sent convertGeminiRoleToOpenAI_ne_tool, List.append_nil]
    rfl

end Content

/-! ### The conversation -/

/-- With all events in one content, what is counted per content is counted once. -/
theorem events_single {contents : List (GeminiContent V)}
    (h : (contents.filter (·.events ≠ [])).length ≤ 1)
    (hAnswered : ∀ content ∈ contents, Answered none content.events) :
    Answered none (contents.flatMap (·.events)) ∧
      ∀ g : List FunctionEvent → List String, g [] = [] →
        (contents.flatMap fun content => g content.events) = g (contents.flatMap (·.events)) := by
  induction contents with
  | nil => exact ⟨trivial, fun g hg => hg.symm⟩
  | cons content rest ih =>
    by_cases hEvents : content.events = []
    · obtain ⟨hRest, hOnce⟩ := ih (by simpa [hEvents] using h)
        fun c hc => hAnswered c (List.mem_cons_of_mem _ hc)
      refine ⟨by simpa [hEvents] using hRest, fun g hg => ?_⟩
      simp only [List.flatMap_cons, hEvents, hg, List.nil_append, hOnce g hg]
    · have hRest : ∀ c ∈ rest, c.events = [] := by
        simpa [hEvents, List.filter_eq_nil_iff] using h
      have hNone (g : List FunctionEvent → List String) (hg : g [] = []) :
          (rest.flatMap fun c => g c.events) = [] := by
        refine List.flatMap_eq_nil_iff.mpr fun c hc => ?_
        rw [hRest c hc, hg]
      have hNil : rest.flatMap (·.events) = [] := List.flatMap_eq_nil_iff.mpr hRest
      refine ⟨?_, fun g hg => ?_⟩
      · rw [List.flatMap_cons, hNil, List.append_nil]
        exact hAnswered content List.mem_cons_self
      · rw [List.flatMap_cons, List.flatMap_cons, hNil, hNone g hg, List.append_nil,
          List.append_nil]

theorem convertStopSequences_eq {request : GeminiRequest V}
    (h : request.stopSequences = [] ∨ 4 ≤ request.stopSequences.length) :
    convertStopSequences request = some (request.stopSequences.take 4) := by
  unfold convertStopSequences
  rcases h with hNone | hFour
  · simp [hNone]
  · rw [if_pos (by omega), firstFour, if_neg (by omega), List.take_append_of_le_length hFour]

def functionCallPart (name : String) : GeminiPart String := { functionCall := some (name, "1") }

def functionResponsePart (name : String) : GeminiPart String :=
  { functionResponse := some (name, "2") }

def linkedRequest : GeminiRequest String where
  contents := [
    ⟨"user", [{ text := "weather?" }]⟩,
    ⟨"model", [functionCallPart "rain", functionResponsePart "rain", functionCallPart "sun",
      functionResponsePart "sun"]⟩]
  stopSequences := ["a", "b", "c", "d", "e"]

theorem linkedRequest_linked : Linked linkedRequest where
  plain := by
    simp [linkedRequest, GeminiPart.Plain, GeminiPart.events, functionCallPart,
      functionResponsePart]
  answered := by decide
  single := by decide

end XyApi.Relay

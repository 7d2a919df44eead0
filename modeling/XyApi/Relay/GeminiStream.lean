import XyApi.Relay.ClaudeStream

/-!
The stream of Gemini responses that chunks of an OpenAI chat stream are converted to. The
converter has no state: every fragment of a tool call becomes a function call of its own,
and arguments that are not complete in their fragment are passed on as text. Text beside a
list of tool calls, even an empty one, is dropped.
-/

namespace XyApi.Relay

open Pricing

structure IndexedChoice where
  index : Int := 0
  content : Option String := none
  /-- Nil, or a list that may be empty. -/
  toolCalls : Option (List ToolCallResponse) := none
  finishReason : Option String := none
  deriving DecidableEq, Repr

structure IndexedChunk where
  choices : List IndexedChoice
  usage : Option Usage := none
  deriving DecidableEq, Repr

inductive ResponsePart (A : Type)
  | text (text : String)
  | functionCall (name : String) (args : A)
  deriving DecidableEq, Repr

structure GeminiCandidate (A : Type) where
  index : Int
  finishReason : Option String
  parts : List (ResponsePart A)
  deriving DecidableEq, Repr

structure GeminiChatResponse (A : Type) where
  candidates : List (GeminiCandidate A)
  promptTokenCount : Int
  candidatesTokenCount : Int
  totalTokenCount : Int
  deriving DecidableEq, Repr

/-- Arguments as decoded objects: the empty one, and the one that holds a text as it is. -/
structure ArgumentCodec (A : Type) where
  decode : String → Option A
  empty : A
  raw : String → A

variable {A : Type} (codec : ArgumentCodec A)

/-! ### Conversion -/

def IndexedChoice.getContentString (choice : IndexedChoice) : String := choice.content.getD ""

def IndexedChoice.hasContent (choice : IndexedChoice) : Bool :=
  choice.getContentString ≠ "" ∨ choice.toolCalls.getD [] ≠ []

def geminiFinishReason : String → String
  | "length" => "MAX_TOKENS"
  | "content_filter" => "SAFETY"
  | _ => "STOP"

def ArgumentCodec.args (arguments : String) : A :=
  if arguments ≠ "" then (codec.decode arguments).getD (codec.raw arguments) else codec.empty

def IndexedChoice.parts (choice : IndexedChoice) : List (ResponsePart A) :=
  match choice.toolCalls with
  | some toolCalls => toolCalls.map fun call => .functionCall call.name (codec.args call.arguments)
  | none => if choice.getContentString ≠ "" then [.text choice.getContentString] else []

def streamResponseOpenAI2Gemini (estimatePromptTokens : Int) (chunk : IndexedChunk) :
    Option (GeminiChatResponse A) :=
  let hasContent := chunk.choices.any (·.hasContent)
  let hasFinishReason := chunk.choices.any (·.finishReason.isSome)
  if ¬ hasContent ∧ ¬ hasFinishReason then none
  else some {
    candidates := chunk.choices.map fun choice => {
      index := choice.index
      finishReason := choice.finishReason.map geminiFinishReason
      parts := choice.parts codec }
    promptTokenCount := chunk.usage.elim estimatePromptTokens (·.promptTokens)
    candidatesTokenCount := chunk.usage.elim 0 (·.completionTokens)
    totalTokenCount := chunk.usage.elim estimatePromptTokens (·.totalTokens) }

def geminiStream (estimatePromptTokens : Int) (chunks : List IndexedChunk) :
    List (GeminiChatResponse A) :=
  chunks.filterMap (streamResponseOpenAI2Gemini codec estimatePromptTokens)

/-! ### What a stream says -/

/-- A tool call is told from others by its choice and its index. -/
abbrev CallKey := Int × Option Int

structure ToolCall where
  key : CallKey
  name : String
  arguments : String
  deriving DecidableEq, Repr

def IndexedChoice.fragments (choice : IndexedChoice) : List ToolCall :=
  (choice.toolCalls.getD []).map fun call => ⟨(choice.index, call.index), call.name, call.arguments⟩

def addFragment (calls : List ToolCall) (fragment : ToolCall) : List ToolCall :=
  if calls.any (·.key = fragment.key) then
    calls.map fun call =>
      if call.key = fragment.key then
        { call with
          name := if call.name = "" then fragment.name else call.name
          arguments := call.arguments ++ fragment.arguments }
      else call
  else calls ++ [fragment]

def streamFragments (chunks : List IndexedChunk) : List ToolCall :=
  chunks.flatMap fun chunk => chunk.choices.flatMap (·.fragments)

def streamToolCalls (chunks : List IndexedChunk) : List ToolCall :=
  (streamFragments chunks).foldl addFragment []

/-- The parsed arguments of a whole call; a call without any has the empty ones. -/
def ArgumentCodec.parsed (arguments : String) : Option A :=
  if arguments = "" then some codec.empty else codec.decode arguments

def streamText (chunks : List IndexedChunk) (index : Int) : String :=
  String.join (chunks.flatMap fun chunk =>
    (chunk.choices.filter (·.index = index)).map (·.getContentString))

def ResponsePart.call? : ResponsePart A → Option (String × A)
  | .functionCall name args => some (name, args)
  | .text _ => none

def ResponsePart.text? : ResponsePart A → Option String
  | .text value => some value
  | .functionCall .. => none

def functionCalls (responses : List (GeminiChatResponse A)) : List (String × A) :=
  responses.flatMap fun response => response.candidates.flatMap fun candidate =>
    candidate.parts.filterMap (·.call?)

def responseText (responses : List (GeminiChatResponse A)) (index : Int) : String :=
  String.join (responses.flatMap fun response =>
    (response.candidates.filter (·.index = index)).flatMap fun candidate =>
      candidate.parts.filterMap (·.text?))

/-! ### Streams of whole calls -/

/-- Every call arrives in one fragment with arguments that can be parsed, and no text stands
beside a list of tool calls. -/
structure WholeCalls (chunks : List IndexedChunk) : Prop where
  once : ((streamFragments chunks).map (·.key)).Nodup
  parses : ∀ fragment ∈ streamFragments chunks, (codec.parsed fragment.arguments).isSome
  apart : ∀ chunk ∈ chunks, ∀ choice ∈ chunk.choices,
    choice.toolCalls.isSome → choice.getContentString = ""

variable {codec}

theorem foldl_addFragment_of_nodup {fragments calls : List ToolCall}
    (h : ((calls ++ fragments).map (·.key)).Nodup) :
    fragments.foldl addFragment calls = calls ++ fragments := by
  induction fragments generalizing calls with
  | nil => simp
  | cons fragment rest ih =>
    have hNew : ¬ calls.any (·.key = fragment.key) = true := by
      rw [List.map_append, List.map_cons, List.nodup_append] at h
      simp only [List.any_eq_true, decide_eq_true_eq, not_exists, not_and]
      intro call hCall hKey
      exact h.2.2 _ (List.mem_map_of_mem hCall) _ List.mem_cons_self hKey
    rw [List.foldl_cons, addFragment, if_neg hNew, ih (by simpa using h), List.append_assoc]
    rfl

theorem parts_call? (choice : IndexedChoice) :
    (choice.parts codec).filterMap (·.call?) =
      choice.fragments.map fun fragment => (fragment.name, codec.args fragment.arguments) := by
  unfold IndexedChoice.parts IndexedChoice.fragments
  cases choice.toolCalls with
  | some => simp [List.filterMap_map, Function.comp_def, ResponsePart.call?]
  | none => dsimp only; split <;> simp [ResponsePart.call?]

theorem parts_text? {choice : IndexedChoice}
    (h : choice.toolCalls.isSome → choice.getContentString = "") :
    String.join ((choice.parts codec).filterMap (·.text?)) = choice.getContentString := by
  unfold IndexedChoice.parts
  cases hCalls : choice.toolCalls with
  | some =>
    rw [h (by simp [hCalls])]
    simp [List.filterMap_map, ResponsePart.text?]
  | none =>
    dsimp only
    split
    · simp [ResponsePart.text?]
    · next hEmpty => simpa using (not_not.mp hEmpty).symm

/-- A chunk that is skipped has neither text nor tool calls. -/
theorem streamResponse_cases (estimate : Int) (chunk : IndexedChunk) :
    (∃ response, streamResponseOpenAI2Gemini codec estimate chunk = some response ∧
      response.candidates = chunk.choices.map fun choice => {
        index := choice.index
        finishReason := choice.finishReason.map geminiFinishReason
        parts := choice.parts codec }) ∨
    (streamResponseOpenAI2Gemini codec estimate chunk = none ∧
      ∀ choice ∈ chunk.choices, choice.getContentString = "" ∧ choice.fragments = []) := by
  unfold streamResponseOpenAI2Gemini
  dsimp only
  split
  · next hNone =>
      refine .inr ⟨rfl, fun choice hChoice => ?_⟩
      have hEmpty : choice.hasContent = false := by
        simpa using List.any_eq_false.mp (by simpa using hNone.1) choice hChoice
      simpa [IndexedChoice.hasContent, IndexedChoice.fragments] using hEmpty
  · exact .inl ⟨_, rfl, rfl⟩

/-- Every fragment becomes a function call. -/
theorem functionCalls_geminiStream (estimate : Int) (chunks : List IndexedChunk) :
    functionCalls (geminiStream codec estimate chunks) =
      (streamFragments chunks).map fun fragment =>
        (fragment.name, codec.args fragment.arguments) := by
  induction chunks with
  | nil => rfl
  | cons chunk rest ih =>
    simp only [functionCalls, geminiStream, streamFragments, List.flatMap_cons, List.map_append,
      List.filterMap_cons] at ih ⊢
    rcases @streamResponse_cases A codec estimate chunk with
      ⟨response, hSome, hCandidates⟩ | ⟨hNone, hEmpty⟩
    · simp only [hSome, List.flatMap_cons, ih, hCandidates, List.flatMap_map, parts_call?,
        List.map_flatMap]
    · have hFragments : chunk.choices.flatMap (·.fragments) = [] :=
        List.flatMap_eq_nil_iff.mpr fun choice hChoice => (hEmpty choice hChoice).2
      simp only [hNone, hFragments, List.map_nil, List.nil_append, ih]

theorem join_choices {choices : List IndexedChoice}
    (h : ∀ choice ∈ choices, choice.toolCalls.isSome → choice.getContentString = "") :
    String.join (choices.flatMap fun choice => (choice.parts codec).filterMap (·.text?)) =
      String.join (choices.map (·.getContentString)) := by
  induction choices with
  | nil => rfl
  | cons choice rest ih =>
    rw [List.flatMap_cons, List.map_cons, String.join_append, String.join_cons,
      parts_text? (h choice List.mem_cons_self),
      ih fun c hc => h c (List.mem_cons_of_mem _ hc)]

theorem join_empty {choices : List IndexedChoice}
    (h : ∀ choice ∈ choices, choice.getContentString = "") :
    String.join (choices.map (·.getContentString)) = "" := by
  induction choices with
  | nil => rfl
  | cons choice rest ih =>
    rw [List.map_cons, String.join_cons, h choice List.mem_cons_self,
      ih fun c hc => h c (List.mem_cons_of_mem _ hc)]
    rfl

theorem responseText_geminiStream (estimate : Int) {chunks : List IndexedChunk}
    (h : ∀ chunk ∈ chunks, ∀ choice ∈ chunk.choices,
      choice.toolCalls.isSome → choice.getContentString = "") (index : Int) :
    responseText (geminiStream codec estimate chunks) index = streamText chunks index := by
  induction chunks with
  | nil => rfl
  | cons chunk rest ih =>
    have hRest := ih fun c hc => h c (List.mem_cons_of_mem _ hc)
    simp only [responseText, geminiStream, streamText, List.flatMap_cons, String.join_append,
      List.filterMap_cons] at hRest ⊢
    rcases @streamResponse_cases A codec estimate chunk with
      ⟨response, hSome, hCandidates⟩ | ⟨hNone, hEmpty⟩
    · have hChoices := @join_choices A codec (chunk.choices.filter (·.index = index))
        fun choice hChoice => h chunk List.mem_cons_self choice (List.mem_of_mem_filter hChoice)
      simp only [hSome, List.flatMap_cons, String.join_append, hRest, hCandidates,
        List.filter_map, List.flatMap_map, Function.comp_def]
      rw [hChoices]
    · rw [hNone, join_empty fun choice hChoice =>
        (hEmpty choice (List.mem_of_mem_filter hChoice)).1]
      simpa using hRest

/-- A stream of whole calls arrives with every call once and with all of its text. -/
theorem gemini_stream_complete (codec : ArgumentCodec A) (estimate : Int)
    {chunks : List IndexedChunk} (h : WholeCalls codec chunks) :
    ((functionCalls (geminiStream codec estimate chunks)).map fun call => (call.1, some call.2)) =
        ((streamToolCalls chunks).map fun call => (call.name, codec.parsed call.arguments)) ∧
      ∀ index, responseText (geminiStream codec estimate chunks) index = streamText chunks index := by
  refine ⟨?_, responseText_geminiStream estimate h.apart⟩
  have hCalls : streamToolCalls chunks = streamFragments chunks :=
    @foldl_addFragment_of_nodup _ [] (by simpa using h.once)
  rw [functionCalls_geminiStream, hCalls, List.map_map]
  refine List.map_congr_left fun fragment hFragment => ?_
  have hParses := h.parses fragment hFragment
  unfold ArgumentCodec.parsed at hParses ⊢
  simp only [Function.comp_apply, ArgumentCodec.args]
  split
  · next hSome =>
      rw [if_neg hSome] at hParses
      obtain ⟨args, hArgs⟩ := Option.isSome_iff_exists.mp hParses
      simp [hArgs]
  · next hNone => rw [if_pos (not_not.mp hNone)]

def sampleCodec : ArgumentCodec String where
  decode arguments := if arguments = "\x7b\"city\":\"Rome\"\x7d" then some "city=Rome" else none
  empty := ""
  raw arguments := "arguments=" ++ arguments

def wholeStream : List IndexedChunk := [
  { choices := [{ content := some "" }] },
  { choices := [{ content := some "Let me " }] },
  { choices := [{ content := some "look." }] },
  { choices := [{ toolCalls := some [⟨some 0, "t1", "weather", "\x7b\"city\":\"Rome\"\x7d"⟩,
      ⟨some 1, "t2", "time", ""⟩] }] },
  { choices := [{ finishReason := some "tool_calls" }] }]

theorem wholeStream_whole : WholeCalls sampleCodec wholeStream := by
  constructor <;> decide

theorem gemini_stream_complete_whole :
    ((functionCalls (geminiStream sampleCodec 7 wholeStream)).map fun call =>
        (call.1, some call.2)) = [("weather", some "city=Rome"), ("time", some "")] ∧
      ∀ index, responseText (geminiStream sampleCodec 7 wholeStream) index =
        streamText wholeStream index :=
  gemini_stream_complete sampleCodec 7 wholeStream_whole

/-- One call in two fragments becomes two calls, neither with its arguments. -/
theorem split_call_broken :
    let chunks : List IndexedChunk := [
      { choices := [{ toolCalls := some [⟨some 0, "t1", "weather", "\x7b\"city\":"⟩] }] },
      { choices := [{ toolCalls := some [⟨some 0, "", "", "\"Rome\"\x7d"⟩] }] }]
    functionCalls (geminiStream sampleCodec 7 chunks) =
        [("weather", "arguments=\x7b\"city\":"), ("", "arguments=\"Rome\"\x7d")] ∧
      (streamToolCalls chunks).map (fun call => (call.name, sampleCodec.parsed call.arguments)) =
        [("weather", some "city=Rome")] :=
  ⟨by decide, by decide⟩

end XyApi.Relay

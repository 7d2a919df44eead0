import XyApi.Relay.BlockDiscipline

/-!
What a stream says. A reading holds the text, the reasoning and, for every place
among the tool calls, the ids and names announced there and the arguments sent
there. Events and chunks are read alike, so a conversion that keeps the content
has equal readings on both sides. Places of events are block indexes; places of
chunks count the tool calls of the message.
-/

namespace XyApi.Relay

open Lib

@[ext] structure Reading where
  text : String := ""
  reasoning : String := ""
  calls : Int → List (String × String) := fun _ => []
  arguments : Int → String := fun _ => ""

namespace Reading

instance : EmptyCollection Reading := ⟨{}⟩

/-- One reading after the other. -/
instance : Append Reading where
  append a b :=
    { text := a.text ++ b.text
      reasoning := a.reasoning ++ b.reasoning
      calls := fun i => a.calls i ++ b.calls i
      arguments := fun i => a.arguments i ++ b.arguments i }

variable (a b c : Reading)

theorem append_def :
    a ++ b =
      { text := a.text ++ b.text
        reasoning := a.reasoning ++ b.reasoning
        calls := fun i => a.calls i ++ b.calls i
        arguments := fun i => a.arguments i ++ b.arguments i } := rfl

theorem append_assoc : a ++ b ++ c = a ++ (b ++ c) := by
  simp only [append_def, String.append_assoc, List.append_assoc]

@[simp] theorem empty_append : ∅ ++ a = a := by
  ext <;> simp [append_def, EmptyCollection.emptyCollection]

@[simp] theorem append_empty : a ++ ∅ = a := by
  ext <;> simp [append_def, EmptyCollection.emptyCollection]

def shift (base : Int) : Reading :=
  { a with
    calls := fun i => a.calls (i - base)
    arguments := fun i => a.arguments (i - base) }

theorem shift_append : (a ++ b).shift base = a.shift base ++ b.shift base := rfl

def join (readings : List Reading) : Reading := readings.foldr (· ++ ·) ∅

@[simp] theorem join_nil : join [] = ∅ := rfl

@[simp] theorem join_cons : join (a :: readings) = a ++ join readings :=
  rfl

theorem join_append :
    join (first ++ second) = join first ++ join second := by
  induction first with
  | nil => rw [List.nil_append, join_nil, empty_append]
  | cons a rest ih => rw [List.cons_append, join_cons, join_cons, ih, append_assoc]

theorem shift_join :
    (join readings).shift base = join (readings.map fun r => r.shift base) := by
  induction readings with
  | nil => rfl
  | cons a rest ih => rw [join_cons, shift_append, ih, List.map_cons, join_cons]

end Reading

/-! ### Events -/

def ClaudeEvent.reading : ClaudeEvent → Reading
  | .contentBlockStart index (.toolUse id name) =>
    { calls := fun i => if i = index then [(id, name)] else [] }
  | .contentBlockDelta _ (.textDelta text) => { text := text }
  | .contentBlockDelta _ (.thinkingDelta thinking) => { reasoning := thinking }
  | .contentBlockDelta index (.inputJsonDelta partialJson) =>
    { arguments := fun i => if i = index then partialJson else "" }
  | _ => ∅

def readEvents (events : List ClaudeEvent) : Reading := .join (events.map ClaudeEvent.reading)

@[simp] theorem readEvents_nil : readEvents [] = ∅ := rfl

@[simp] theorem readEvents_cons :
    readEvents (e :: events) = e.reading ++ readEvents events := rfl

theorem readEvents_append :
    readEvents (first ++ second) = readEvents first ++ readEvents second := by
  rw [readEvents, List.map_append, Reading.join_append]
  rfl

theorem readEvents_flatMap {α : Type} (f : α → List ClaudeEvent) (inputs : List α) :
    readEvents (inputs.flatMap f) = .join (inputs.map fun a => readEvents (f a)) := by
  induction inputs with
  | nil => rfl
  | cons a rest ih =>
    rw [List.flatMap_cons, readEvents_append, ih, List.map_cons, Reading.join_cons]

/-! ### Chunks -/

/-- A fragment belongs to the call of its index. It announces the call if it has a name. -/
def readFragment (fragment : ToolCallResponse × Nat) : Reading :=
  let (toolCall, position) := fragment
  let place := toolOffset position toolCall
  { calls := fun i => if i = place ∧ toolCall.name ≠ "" then [(toolCall.id, toolCall.name)] else []
    arguments := fun i => if i = place then toolCall.arguments else "" }

def readToolCalls (toolCalls : List ToolCallResponse) : Reading :=
  .join (toolCalls.zipIdx.map readFragment)

def ChoiceDelta.reading (d : ChoiceDelta) : Reading :=
  { text := d.getContentString, reasoning := d.getReasoningContent } ++ readToolCalls d.toolCalls

def ChatChunk.reading (chunk : ChatChunk) : Reading :=
  match chunk.choices with
  | [] => ∅
  | choice :: _ => choice.delta.reading

def readChunks (chunks : List ChatChunk) : Reading := .join (chunks.map ChatChunk.reading)

theorem readChunks_cons :
    readChunks (chunk :: rest) = chunk.reading ++ readChunks rest := rfl

/-! ### Pieces of the converter -/

section

variable (s : ConvertInfo)

@[simp] theorem readEvents_stops (indexes : List Int) :
    readEvents (indexes.map .contentBlockStop) = ∅ := by
  induction indexes with
  | nil => rfl
  | cons index rest ih =>
    rw [List.map_cons, readEvents_cons, ih]
    exact Reading.empty_append ∅

theorem readEvents_stopOpenBlocksAndAdvance :
    readEvents (stopOpenBlocksAndAdvance s).2 = ∅ := by
  unfold stopOpenBlocksAndAdvance
  split
  · rfl
  · rw [Emit.andThen_snd, readEvents_append]
    simp [stopOpenBlocks, Emit.modify]

theorem readEvents_closeMessage (usage? : Option Pricing.Usage) (stopReason : String) :
    readEvents (closeMessage usage? stopReason s).2 = ∅ := by
  rw [closeMessage, Emit.andThen_snd, readEvents_append]
  cases usage? <;> simp [stopOpenBlocks, ClaudeEvent.reading]

theorem readEvents_argumentDelta :
    readEvents (argumentDelta index toolCall) =
      { arguments := fun i => if i = index then toolCall.arguments else "" } := by
  unfold argumentDelta
  split
  · exact Reading.append_empty _
  · next hNone =>
      rw [not_not.mp hNone]
      ext <;> simp [EmptyCollection.emptyCollection]

theorem readEvents_toolFragment (base : Int) (fragment : ToolCallResponse × Nat) :
    readEvents (toolFragment base fragment) = (readFragment fragment).shift base := by
  obtain ⟨toolCall, position⟩ := fragment
  have hPlace (i : Int) :
      i = base + toolOffset position toolCall ↔ i - base = toolOffset position toolCall := by
    omega
  rw [toolFragment, readEvents_append, readEvents_argumentDelta, Reading.append_def]
  by_cases hName : toolCall.name ≠ ""
  · rw [if_pos hName]
    simp [readFragment, Reading.shift, hPlace, hName, Reading.append_def, ClaudeEvent.reading,
      EmptyCollection.emptyCollection]
  · rw [if_neg hName]
    simp [readFragment, Reading.shift, hPlace, hName, EmptyCollection.emptyCollection]

/-- Fragments are read at their place from the base on. -/
theorem readEvents_fragments :
    readEvents (toolCalls.zipIdx.flatMap (toolFragment base)) =
      (readToolCalls toolCalls).shift base := by
  rw [readEvents_flatMap, readToolCalls, Reading.shift_join, List.map_map]
  congr 1
  exact List.map_congr_left fun fragment _ => readEvents_toolFragment base fragment

theorem readEvents_beginTools : readEvents (beginTools s).2 = ∅ := by
  unfold beginTools
  split
  · rw [Emit.andThen_snd, readEvents_append, readEvents_stopOpenBlocksAndAdvance]
    rfl
  · rfl

theorem readEvents_convertTools :
    readEvents (convertTools toolCalls s).2 =
      (readToolCalls toolCalls).shift (convertTools toolCalls s).1.toolCallBaseIndex := by
  rw [convertTools, Emit.andThen_snd, readEvents_append, readEvents_beginTools,
    Reading.empty_append, readEvents_fragments, Emit.andThen_fst]

/-- A run of tool calls keeps its base. -/
theorem convertTools_base (toolCalls : List ToolCallResponse) (h : s.lastMessagesType = .tools) :
    (convertTools toolCalls s).1.toolCallBaseIndex = s.toolCallBaseIndex := by
  rw [convertTools, Emit.andThen_fst, beginTools, if_neg (not_not.mpr h)]

end

/-! #### Text and reasoning -/

def BlockDelta.reading : BlockDelta → Reading
  | .textDelta text => { text := text }
  | .thinkingDelta thinking => { reasoning := thinking }
  | .inputJsonDelta _ => ∅

section Content

variable {kind : LastMessageType} {block : ContentBlock} {delta : BlockDelta}
  (hBlock : block.kind ≠ .toolUse) (hDelta : delta.kind ≠ .toolUse) (s : ConvertInfo)
include hDelta

theorem reading_contentBlockDelta (index : Int) :
    (ClaudeEvent.contentBlockDelta index delta).reading = delta.reading := by
  cases delta with
  | textDelta | thinkingDelta => rfl
  | inputJsonDelta => exact absurd rfl hDelta

include hBlock

theorem readEvents_openBlock (index : Int) :
    readEvents [.contentBlockStart index block, .contentBlockDelta index delta] =
      delta.reading := by
  have hStart : (ClaudeEvent.contentBlockStart index block).reading = ∅ := by
    cases block with
    | text | thinking => rfl
    | toolUse => exact absurd rfl hBlock
  simp [hStart, reading_contentBlockDelta hDelta]

theorem readEvents_convertContent :
    readEvents (convertContent kind block delta s).2 = delta.reading := by
  unfold convertContent
  split
  · rw [Emit.andThen_snd, readEvents_append, readEvents_stopOpenBlocksAndAdvance,
      readEvents_openBlock hBlock hDelta, Reading.empty_append]
  · simp [reading_contentBlockDelta hDelta]

theorem readEvents_openFirstBlock :
    readEvents (openFirstBlock kind block delta s).2 = delta.reading := by
  have hSwitch : readEvents (switchTo kind s).2 = ∅ := by
    unfold switchTo
    split
    · exact readEvents_stopOpenBlocksAndAdvance s
    · rfl
  rw [openFirstBlock, Emit.andThen_snd, readEvents_append, hSwitch,
    readEvents_openBlock hBlock hDelta, Reading.empty_append]

end Content

end XyApi.Relay

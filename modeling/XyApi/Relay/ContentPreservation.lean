import XyApi.Relay.ContentReading

/-!
The conversion keeps the content of a stream whose chunks carry one kind of
content each. Of a chunk with several kinds the converter takes one; of the tool
calls of the first chunk it takes one; of a chunk that finishes without usage it
takes nothing; and what follows a chunk that closed the message is not seen.
-/

namespace XyApi.Relay

open Lib

variable {chunks : List ChatChunk} {turn : ToolTurn} {emitted given : Reading}

/-! ### Streams without loss -/

/-- Tool calls come alone, and text does not come with reasoning. -/
def ChoiceDelta.OneKind (d : ChoiceDelta) : Prop :=
  (d.toolCalls ≠ [] → ¬ d.hasContent) ∧ (d.getReasoningContent ≠ "" → d.getContentString = "")
  deriving Decidable

def ChoiceDelta.Silent (d : ChoiceDelta) : Prop := d.toolCalls = [] ∧ ¬ d.hasContent
  deriving Decidable

namespace ChatChunk

variable (chunk : ChatChunk)

def Silent : Prop := ∀ choice ∈ chunk.choices.head?, choice.delta.Silent
  deriving Decidable

/-- A chunk with a finish reason or without a choice may close the message. -/
def Final : Prop := ∀ choice ∈ chunk.choices.head?, choice.finish?.isSome
  deriving Decidable

def Plain : Prop :=
  ∀ choice ∈ chunk.choices.head?,
    choice.delta.OneKind ∧ (deferred chunk choice → choice.delta.Silent)
  deriving Decidable

/-- The first chunk may have one tool call next to its text or its reasoning. -/
def PlainFirst : Prop :=
  ∀ choice ∈ chunk.choices.head?,
    (choice.delta.toolCalls.length ≤ 1 ∧ Numbered 0 choice.delta.toolCalls.zipIdx) ∧
      (choice.delta.getReasoningContent ≠ "" → choice.delta.getContentString = "")
  deriving Decidable

end ChatChunk

def Faithful : ToolTurn → List ChatChunk → Prop
  | _, [] => True
  | turn, chunk :: rest =>
    (turn.AllowsChunk chunk ∧ chunk.Plain) ∧ (chunk.Final → ∀ later ∈ rest, later.Silent) ∧
      Faithful (turn.afterChunk chunk) rest

instance Faithful.decidable : (turn : ToolTurn) → (chunks : List ChatChunk) →
    Decidable (Faithful turn chunks)
  | _, [] => .isTrue trivial
  | turn, chunk :: rest =>
    have := Faithful.decidable (turn.afterChunk chunk) rest
    inferInstanceAs (Decidable (_ ∧ _))

def FaithfulStream : List ChatChunk → Prop
  | [] => True
  | first :: rest =>
    first.PlainFirst ∧ (first.choices ≠ [] → first.Final → ∀ later ∈ rest, later.Silent) ∧
      Faithful (firstTurn first) rest

instance : (chunks : List ChatChunk) → Decidable (FaithfulStream chunks)
  | [] => .isTrue trivial
  | _ :: _ => inferInstanceAs (Decidable (_ ∧ _))

/-! ### Chunks without content -/

theorem ChoiceDelta.Silent.reading {d : ChoiceDelta} (h : d.Silent) : d.reading = ∅ := by
  obtain ⟨hCalls, hContent⟩ := h
  obtain ⟨hReasoning, hText⟩ := not_or.mp hContent
  rw [ChoiceDelta.reading, hCalls, not_not.mp hReasoning, not_not.mp hText]
  exact Reading.append_empty _

theorem ChoiceDelta.Silent.convertDelta (h : d.Silent) :
    convertDelta d = .skip := by
  obtain ⟨hCalls, hContent⟩ := h
  obtain ⟨hReasoning, hText⟩ := not_or.mp hContent
  rw [Relay.convertDelta, if_neg (not_not.mpr hCalls), if_neg hReasoning, if_neg hText]

theorem ChoiceDelta.Silent.openFirstContent (h : d.Silent) :
    openFirstContent d = .skip := by
  obtain ⟨hReasoning, hText⟩ := not_or.mp h.2
  rw [Relay.openFirstContent, if_neg hReasoning, if_neg hText]

theorem readEvents_finishFirst (chunk : ChatChunk) (choice : StreamChoice) (s : ConvertInfo) :
    readEvents (finishFirst chunk choice s).2 = ∅ := by
  cases hFinish : choice.finish? with
  | none => rw [finishFirst, hFinish]; rfl
  | some =>
    rw [finishFirst, hFinish]
    exact readEvents_closeMessage ..

theorem readEvents_convertUsageOnly (chunk : ChatChunk) (s : ConvertInfo) :
    readEvents (convertUsageOnly chunk s).2 = ∅ := by
  unfold convertUsageOnly
  split
  · rfl
  · exact readEvents_closeMessage ..

theorem ChatChunk.Silent.reading {chunk : ChatChunk} (h : chunk.Silent) : chunk.reading = ∅ := by
  unfold ChatChunk.reading
  cases hChoices : chunk.choices with
  | nil => rfl
  | cons choice => exact (h choice (by rw [hChoices]; rfl)).reading

theorem ChatChunk.Silent.convertFirst (h : chunk.Silent) (s : ConvertInfo) :
    readEvents (convertFirst chunk s).2 = ∅ := by
  rw [Relay.convertFirst, Emit.andThen_snd, readEvents_append]
  cases hChoices : chunk.choices with
  | nil => exact Reading.append_empty ∅
  | cons choice =>
    have hSilent := h choice (by rw [hChoices]; rfl)
    dsimp only
    rw [hSilent.1, hSilent.openFirstContent]
    exact (Reading.empty_append _).trans
      ((Reading.empty_append _).trans (readEvents_finishFirst ..))

theorem ChatChunk.Silent.convertLater (h : chunk.Silent) (s : ConvertInfo) :
    readEvents (convertLater chunk s).2 = ∅ := by
  unfold Relay.convertLater
  cases hChoices : chunk.choices with
  | nil => exact readEvents_convertUsageOnly chunk s
  | cons choice =>
    have hSilent := h choice (by rw [hChoices]; rfl)
    dsimp only
    cases hFinish : choice.finish? with
    | none => rw [convertChoice_open hFinish, hSilent.convertDelta]; rfl
    | some =>
      cases hUsage : chunk.usage with
      | none => rw [convertChoice_deferred hFinish hUsage]; rfl
      | some =>
        rw [convertChoice_closing hFinish hUsage, hSilent.convertDelta]
        exact (Reading.empty_append _).trans (readEvents_closeMessage ..)

theorem ChatChunk.Silent.handled (h : chunk.Silent) (s : ConvertInfo) :
    readEvents (handleStreamFormat chunk s).2 = ∅ := by
  unfold handleStreamFormat handleClaudeFormat streamResponseOpenAI2Claude
  split
  · rfl
  · split
    · exact h.convertFirst _
    · exact h.convertLater _

theorem readEvents_silent (h : ∀ chunk ∈ chunks, chunk.Silent) (s : ConvertInfo) :
    readEvents (Emit.forEach handleStreamFormat chunks s).2 = ∅ ∧ readChunks chunks = ∅ := by
  induction chunks generalizing s with
  | nil => exact ⟨rfl, rfl⟩
  | cons chunk rest ih =>
    obtain ⟨hEvents, hChunks⟩ := ih (fun later hLater => h later (by simp [hLater]))
      (handleStreamFormat chunk s).1
    have hSilent := h chunk (by simp)
    rw [Emit.forEach, Emit.andThen_snd, readEvents_append, hSilent.handled, hEvents,
      readChunks_cons, hSilent.reading, hChunks]
    exact ⟨Reading.empty_append ∅, Reading.empty_append ∅⟩

/-! ### Later chunks -/

/-- The emitted content is the given one. The blocks of tool calls are counted from
the base of the run that is open, or of the one run that is still to come. -/
def Matches (turn : ToolTurn) (base : Int) (emitted given : Reading) : Prop :=
  match turn with
  | .before => ∃ base, emitted = given.shift base
  | .during _ => emitted = given.shift base
  | .past => ∀ base, emitted = given.shift base

theorem Matches.empty (turn : ToolTurn) (base : Int) : Matches turn base ∅ ∅ := by
  cases turn with
  | before => exact ⟨0, rfl⟩
  | during => rfl
  | past => exact fun _ => rfl

/-- Content that is not of tool calls, before more content. -/
theorem Matches.content {base base' : Int} {content : Reading}
    (hContent : ∀ base, content.shift base = content) (h : Matches turn.leave base' emitted given) :
    Matches turn base (content ++ emitted) (content ++ given) := by
  cases turn with
  | before =>
    obtain ⟨base, h⟩ := h
    exact ⟨base, by rw [Reading.shift_append, hContent, h]⟩
  | during =>
    show _ = _
    rw [Reading.shift_append, hContent, h base]
  | past =>
    intro base
    rw [Reading.shift_append, hContent, h base]

/-- Tool calls are taken at the base of their run. -/
theorem Matches.tools (hTurn : turn ≠ .past) (hBase : ∀ n, turn = .during n → base' = base)
    (h : Matches (.during count) base' emitted given) :
    Matches turn base (calls.shift base' ++ emitted) (calls ++ given) := by
  have hRest : emitted = given.shift base' := h
  cases turn with
  | before => exact ⟨base', by rw [Reading.shift_append, hRest]⟩
  | during n =>
    show _ = _
    rw [hRest, ← hBase n rfl, Reading.shift_append]
  | past => exact absurd rfl hTurn

theorem readEvents_convertDelta {d : ChoiceDelta} (hAt : turn.At s) (hAllows : turn.Allows d)
    (hKind : d.OneKind)
    (hRest : Matches (turn.after d) (convertDelta d s).1.toolCallBaseIndex emitted given) :
    Matches turn s.toolCallBaseIndex (readEvents (convertDelta d s).2 ++ emitted)
      (d.reading ++ given) := by
  unfold convertDelta ToolTurn.after at *
  by_cases hCalls : d.toolCalls ≠ []
  · have hReading : d.reading = readToolCalls d.toolCalls := by
      obtain ⟨hReasoning, hText⟩ := not_or.mp (hKind.1 hCalls)
      rw [ChoiceDelta.reading, not_not.mp hReasoning, not_not.mp hText]
      exact Reading.empty_append _
    rw [if_pos hCalls, if_pos hCalls] at hRest
    rw [if_pos hCalls, readEvents_convertTools, hReading]
    refine Matches.tools (hAllows hCalls).1 (fun n hTurn => ?_) hRest
    subst hTurn
    exact convertTools_base s d.toolCalls hAt.1
  · have hNoCalls : d.toolCalls = [] := not_not.mp hCalls
    have hReading : d.reading = { text := d.getContentString, reasoning := d.getReasoningContent } := by
      rw [ChoiceDelta.reading, hNoCalls]
      exact Reading.append_empty _
    rw [if_neg hCalls, if_neg hCalls] at hRest
    rw [if_neg hCalls, hReading]
    by_cases hReasoning : d.getReasoningContent ≠ ""
    · rw [if_pos (show d.hasContent from .inl hReasoning)] at hRest
      rw [if_pos hReasoning, readEvents_convertContent (by decide)
        (by simp [BlockDelta.kind]), hKind.2 hReasoning]
      exact hRest.content fun _ => rfl
    · by_cases hText : d.getContentString ≠ ""
      · rw [if_pos (show d.hasContent from .inr hText)] at hRest
        rw [if_neg hReasoning, if_pos hText, readEvents_convertContent (by decide)
          (by simp [BlockDelta.kind]), not_not.mp hReasoning]
        exact hRest.content fun _ => rfl
      · have hNone : ¬ d.hasContent := not_or.mpr ⟨hReasoning, hText⟩
        rw [if_neg hNone, if_neg hReasoning, if_neg hText] at hRest
        rw [if_neg hReasoning, if_neg hText, not_not.mp hReasoning, not_not.mp hText]
        exact (Reading.empty_append emitted).symm ▸ (Reading.empty_append given).symm ▸ hRest

/-- By induction on the chunks; a chunk that may close the message has nothing after it. -/
theorem readEvents_run (hFaithful : Faithful turn chunks) (h : Tracks s t) (hAt : turn.At s) :
    Matches turn s.toolCallBaseIndex (readEvents (Emit.forEach handleStreamFormat chunks s).2)
      (readChunks chunks) := by
  induction chunks generalizing turn s t with
  | nil => exact .empty ..
  | cons chunk rest ih =>
    obtain ⟨⟨hAllows, hPlain⟩, hFinal, hRest⟩ := hFaithful
    rw [Emit.forEach, Emit.andThen_snd, readEvents_append, readChunks_cons,
      handleStreamFormat_later chunk h.running]
    -- After a chunk that may close the message nothing is left to say.
    have hOver (hLast : chunk.Final) (s : ConvertInfo) :
        readEvents (Emit.forEach handleStreamFormat rest s).2 = ∅ ∧ readChunks rest = ∅ :=
      readEvents_silent (hFinal hLast) s
    cases hChoices : chunk.choices with
    | nil =>
      have hSilent : chunk.Silent := by simp [ChatChunk.Silent, hChoices]
      obtain ⟨hEvents, hChunks⟩ := hOver (by simp [ChatChunk.Final, hChoices])
        (convertLater chunk (received chunk s)).1
      rw [hSilent.convertLater, hSilent.reading, hEvents, hChunks]
      exact (Reading.empty_append ∅).symm ▸ .empty ..
    | cons choice =>
      have hHead : choice ∈ chunk.choices.head? := by rw [hChoices]; rfl
      obtain ⟨hKind, hDeferred⟩ := hPlain choice hHead
      have hReading : chunk.reading = choice.delta.reading := by
        rw [ChatChunk.reading, hChoices]
      have hLater : convertLater chunk = convertChoice chunk choice := by
        rw [convertLater, hChoices]
      cases hFinish : choice.finish? with
      | none =>
        have hOpen : ¬ deferred chunk choice := by simp [deferred, hFinish]
        have hAfter : turn.afterChunk chunk = turn.after choice.delta := by
          rw [ToolTurn.afterChunk, hChoices]
          exact if_neg hOpen
        obtain ⟨t', -, hTracks, hAt'⟩ := sim_convertDelta (hAllows choice hHead hOpen)
          (received chunk s) t ⟨h.received chunk, hAt⟩
        rw [hLater, convertChoice_open hFinish, hReading]
        exact readEvents_convertDelta (s := received chunk s) hAt (hAllows choice hHead hOpen)
          hKind (ih (hAfter ▸ hRest) hTracks hAt')
      | some reason =>
        have hLast : chunk.Final := by simp [ChatChunk.Final, hChoices, hFinish]
        obtain ⟨hEvents, hChunks⟩ := hOver hLast (convertLater chunk (received chunk s)).1
        rw [hEvents, hChunks, hReading, hLater]
        cases hUsage : chunk.usage with
        | none =>
          have hSilent := hDeferred (by simp [deferred, hFinish, hUsage])
          rw [convertChoice_deferred hFinish hUsage, hSilent.reading]
          exact (Reading.empty_append ∅).symm ▸ .empty ..
        | some =>
          have hClosing : ¬ deferred chunk choice := by simp [deferred, hUsage]
          rw [convertChoice_closing hFinish hUsage, Emit.andThen_snd, readEvents_append,
            readEvents_closeMessage, Reading.append_empty]
          exact readEvents_convertDelta (s := { received chunk s with finishReason := reason })
            hAt (hAllows choice hHead hClosing) hKind (.empty ..)

/-! ### The first chunk -/

theorem readEvents_openFirstContent (hKind : d.getReasoningContent ≠ "" → d.getContentString = "")
    (s : ConvertInfo) :
    readEvents (openFirstContent d s).2 =
      { text := d.getContentString, reasoning := d.getReasoningContent } := by
  unfold openFirstContent
  by_cases hReasoning : d.getReasoningContent ≠ ""
  · rw [if_pos hReasoning, readEvents_openFirstBlock (by decide)
      (by simp [BlockDelta.kind]), hKind hReasoning]
    rfl
  · by_cases hText : d.getContentString ≠ ""
    · rw [if_neg hReasoning, if_pos hText, readEvents_openFirstBlock (by decide)
        (by simp [BlockDelta.kind]), not_not.mp hReasoning]
      rfl
    · rw [if_neg hReasoning, if_neg hText, not_not.mp hReasoning, not_not.mp hText]
      rfl

/-- The one tool call of the first chunk is call zero, in block zero. -/
theorem readEvents_openFirstTool (hOne : toolCalls.length ≤ 1)
    (hNumbered : Numbered 0 toolCalls.zipIdx) (s : ConvertInfo) :
    readEvents (openFirstTool toolCalls s).2 = (readToolCalls toolCalls).shift 0 := by
  cases toolCalls with
  | nil => rfl
  | cons toolCall rest =>
    obtain rfl : rest = [] := List.length_eq_zero_iff.mp (Nat.le_zero.mp (Nat.le_of_succ_le_succ hOne))
    rcases hNumbered with ⟨hLow, hHigh, -⟩ | ⟨hPlace, -, hName, -⟩
    · omega
    · have hEvents : (openFirstTool [toolCall] s).2 =
          [toolCall].zipIdx.flatMap (toolFragment 0) := by
        simp [openFirstTool, toolFragment, hName, hPlace]
      rw [hEvents, readEvents_fragments]

theorem readToolCalls_texts (toolCalls : List ToolCallResponse) :
    (readToolCalls toolCalls).text = "" ∧ (readToolCalls toolCalls).reasoning = "" := by
  unfold readToolCalls
  induction toolCalls.zipIdx with
  | nil => exact ⟨rfl, rfl⟩
  | cons fragment rest ih =>
    rw [List.map_cons, Reading.join_cons, Reading.append_def]
    simp [readFragment, ih]

/-- Text and reasoning may be read before or after tool calls. -/
theorem texts_append_readToolCalls :
    readToolCalls toolCalls ++ { text := text, reasoning := reasoning } =
      ({ text := text, reasoning := reasoning } : Reading) ++ readToolCalls toolCalls := by
  obtain ⟨hText, hReasoning⟩ := readToolCalls_texts toolCalls
  simp [Reading.append_def, hText, hReasoning]

theorem readEvents_openFirst (hOne : d.toolCalls.length ≤ 1)
    (hNumbered : Numbered 0 d.toolCalls.zipIdx)
    (hKind : d.getReasoningContent ≠ "" → d.getContentString = "") (s : ConvertInfo) :
    readEvents ((openFirstTool d.toolCalls).andThen (openFirstContent d) s).2 =
      d.reading.shift 0 := by
  rw [Emit.andThen_snd, readEvents_append, readEvents_openFirstTool hOne hNumbered,
    readEvents_openFirstContent hKind, ChoiceDelta.reading, ← texts_append_readToolCalls]
  rfl

/-- The first chunk, before the rest of an open message. -/
theorem Matches.first
    (h : Matches (if d.hasContent then (openingTurn d.toolCalls).leave else openingTurn d.toolCalls) ((openFirstTool d.toolCalls).andThen (openFirstContent d) s).1.toolCallBaseIndex emitted given)
    :
    ∃ base, d.reading.shift 0 ++ emitted = (d.reading ++ given).shift base := by
  cases hCalls : d.toolCalls with
  | nil =>
    have hReading (base : Int) : d.reading.shift base = d.reading.shift 0 := by
      rw [ChoiceDelta.reading, hCalls]
      rfl
    have hBefore : ∃ base, emitted = given.shift base := by
      rw [hCalls] at h
      split at h <;> exact h
    obtain ⟨base, hEmitted⟩ := hBefore
    exact ⟨base, by rw [Reading.shift_append, hReading base, hEmitted]⟩
  | cons =>
    refine ⟨0, ?_⟩
    have hEmitted : emitted = given.shift 0 := by
      rw [hCalls] at h
      by_cases hContent : d.hasContent
      · rw [if_pos hContent] at h
        exact h 0
      · have hSkip : openFirstContent d = .skip := by
          obtain ⟨hReasoning, hText⟩ := not_or.mp hContent
          rw [openFirstContent, if_neg hReasoning, if_neg hText]
        rw [if_neg hContent, hSkip] at h
        exact h
    rw [Reading.shift_append, hEmitted]

def streamWith (d : ChoiceDelta) : List ChatChunk :=
  [{ choices := [{}] }, { choices := [{ delta := d }] },
    { choices := [{ delta := { toolCalls := [{ index := some 0, id := "call_0", name := "search" }] } }] },
    { choices := [{ finishReason := some "tool_calls" }], usage := some {} }]

end XyApi.Relay

import XyApi.Relay.ChatHandler

/-!
The end of a Claude stream. A message is closed by one `message_delta` with the
usage that is billed and one `message_stop`. The handler reaches that end when the
usage comes with the finish reason or after it. A stream of three or more chunks
that reports no usage is left open: its last chunk is put off until usage is
known, and nothing comes after it.
-/

namespace XyApi.Relay

open Lib Pricing

variable (kind : LastMessageType) (block : ContentBlock) (chunk : ChatChunk) (delta : BlockDelta)
  (d : ChoiceDelta)

variable {choice : StreamChoice} {count : Nat} {known : Option Usage} {s : ConvertInfo}
    {usage : Usage}

def ClaudeEvent.closes : ClaudeEvent → Bool
  | .messageDelta .. | .messageStop => true
  | _ => false

def openMessage : Convert :=
  Emit.andThen (fun s => (s, [.messageStart chunk.id chunk.model s.estimatePromptTokens]))
    ((openFirstTool d.toolCalls).andThen (openFirstContent d))

theorem convertFirst_choice {chunk : ChatChunk} {others : List StreamChoice}
    (h : chunk.choices = choice :: others) :
    convertFirst chunk = (openMessage chunk choice.delta).andThen (finishFirst chunk choice) := by
  rw [convertFirst, h, openMessage, Emit.andThen_assoc, Emit.andThen_assoc]

/-! ### Pieces that leave the message open -/

/-- The piece closes nothing, and leaves alone what the handler keeps on the converter. -/
structure LeavesOpen (f : Convert) : Prop where
  events : ∀ s, ∀ e ∈ (f s).2, e.closes = false
  kept : ∀ s, (f s).1.done = s.done ∧ (f s).1.sendResponseCount = s.sendResponseCount ∧
    (f s).1.usage = s.usage

namespace LeavesOpen

theorem skip : LeavesOpen .skip := ⟨fun _ _ he => absurd he List.not_mem_nil, fun _ => ⟨rfl, rfl, rfl⟩⟩

theorem andThen (hf : LeavesOpen f) (hg : LeavesOpen g) : LeavesOpen (f.andThen g) where
  events s e he := by
    rcases List.mem_append.mp he with he | he
    · exact hf.events s e he
    · exact hg.events (f s).1 e he
  kept s := by
    obtain ⟨hDone, hCount, hUsage⟩ := hf.kept s
    obtain ⟨hDone', hCount', hUsage'⟩ := hg.kept (f s).1
    exact ⟨hDone'.trans hDone, hCount'.trans hCount, hUsage'.trans hUsage⟩

theorem stopOpenBlocks : LeavesOpen stopOpenBlocks where
  events s e he := by
    obtain ⟨index, -, rfl⟩ := List.mem_map.mp he
    rfl
  kept _ := ⟨rfl, rfl, rfl⟩

theorem advance : LeavesOpen (.modify advance) where
  events _ _ he := absurd he List.not_mem_nil
  kept s := by
    simp only [Emit.modify, Relay.advance]
    split <;> exact ⟨rfl, rfl, rfl⟩

/-- A branch that depends on the state. -/
theorem ite {p : ConvertInfo → Prop} [DecidablePred p] (hf : LeavesOpen f) (hg : LeavesOpen g) :
    LeavesOpen fun s => if p s then f s else g s where
  events s e he := by
    split at he
    · exact hf.events s e he
    · exact hg.events s e he
  kept s := by
    split
    · exact hf.kept s
    · exact hg.kept s

theorem stopOpenBlocksAndAdvance : LeavesOpen stopOpenBlocksAndAdvance :=
  ite skip (stopOpenBlocks.andThen advance)

theorem beginTools : LeavesOpen beginTools :=
  ite (stopOpenBlocksAndAdvance.andThen ⟨fun _ _ he => absurd he List.not_mem_nil,
    fun _ => ⟨rfl, rfl, rfl⟩⟩) skip

theorem argumentDelta (index : Int) (toolCall : ToolCallResponse) :
    ∀ e ∈ Relay.argumentDelta index toolCall, e.closes = false := by
  intro e he
  unfold Relay.argumentDelta at he
  split at he <;> simp_all [ClaudeEvent.closes]

theorem convertTools (toolCalls : List ToolCallResponse) : LeavesOpen (convertTools toolCalls) := by
  refine beginTools.andThen ⟨fun s e he => ?_, fun _ => ⟨rfl, rfl, rfl⟩⟩
  obtain ⟨fragment, -, he⟩ := List.mem_flatMap.mp he
  rcases List.mem_append.mp he with he | he
  · split at he <;> simp_all [ClaudeEvent.closes]
  · exact argumentDelta _ _ e he

theorem openBlock :
    LeavesOpen fun s => ({ s with lastMessagesType := kind }, [.contentBlockStart s.index block,
      .contentBlockDelta s.index delta]) :=
  ⟨fun s e he => by
    rcases List.mem_cons.mp he with rfl | he
    · rfl
    · rw [List.mem_singleton.mp he]
      rfl, fun _ => ⟨rfl, rfl, rfl⟩⟩

theorem convertContent : LeavesOpen (convertContent kind block delta) :=
  ite (stopOpenBlocksAndAdvance.andThen (openBlock kind block delta))
    ⟨fun s e he => by rw [List.mem_singleton.mp he]; rfl, fun _ => ⟨rfl, rfl, rfl⟩⟩

theorem convertDelta : LeavesOpen (convertDelta d) := by
  unfold Relay.convertDelta
  split
  · exact convertTools _
  · split
    · exact convertContent ..
    · split
      · exact convertContent ..
      · exact skip

theorem openFirstTool (toolCalls : List ToolCallResponse) :
    LeavesOpen (openFirstTool toolCalls) := by
  cases toolCalls with
  | nil => exact skip
  | cons =>
    refine ⟨fun s e he => ?_, fun _ => ⟨rfl, rfl, rfl⟩⟩
    rcases List.mem_cons.mp he with rfl | he
    · rfl
    · exact argumentDelta _ _ e he

theorem openFirstBlock : LeavesOpen (openFirstBlock kind block delta) :=
  (ite stopOpenBlocksAndAdvance skip).andThen (openBlock kind block delta)

theorem openFirstContent : LeavesOpen (openFirstContent d) := by
  unfold Relay.openFirstContent
  split
  · exact openFirstBlock ..
  · split
    · exact openFirstBlock ..
    · exact skip

theorem messageStart :
    LeavesOpen fun s => (s, [.messageStart chunk.id chunk.model s.estimatePromptTokens]) :=
  ⟨fun s e he => by rw [List.mem_singleton.mp he]; rfl, fun _ => ⟨rfl, rfl, rfl⟩⟩

theorem openMessage : LeavesOpen (openMessage chunk d) :=
  (messageStart chunk).andThen ((openFirstTool _).andThen (openFirstContent d))

end LeavesOpen

/-! ### Streams before their end -/

/-- The message is open after `count` chunks, and `known` is the usage seen last. -/
structure Ongoing (count : Nat) (known : Option Usage) (s : ConvertInfo) : Prop where
  done : s.done = false
  count : s.sendResponseCount = count
  usage : s.usage = known

theorem LeavesOpen.ongoing {f : Convert} (hf : LeavesOpen f) (h : Ongoing count known s) :
    Ongoing count known (f s).1 := by
  obtain ⟨hDone, hCount, hUsage⟩ := hf.kept s
  exact ⟨hDone.trans h.done, hCount.trans h.count, hUsage.trans h.usage⟩

/-- No chunk has a finish reason, and one without a choice comes before any usage. -/
def Unfinished : Option Usage → List ChatChunk → Prop
  | _, [] => True
  | known, chunk :: rest =>
    (∀ choice ∈ chunk.choices.head?, choice.finish? = none) ∧
      (chunk.choices = [] → chunk.usage.or known = none) ∧
      Unfinished (chunk.usage.or known) rest

/-- What a chunk that does not finish is converted by, whichever its place. -/
theorem leavesOpen_unfinished {chunk : ChatChunk}
    (hOpen : ∀ choice ∈ chunk.choices.head?, choice.finish? = none)
    (hUnknown : chunk.choices = [] → chunk.usage.or known = none) (hUsage : s.usage = known)
    (hDone : s.done = false) :
    ∃ f, LeavesOpen f ∧ streamResponseOpenAI2Claude chunk s = f s := by
  unfold streamResponseOpenAI2Claude
  rw [if_neg (by simp [hDone])]
  cases hChoices : chunk.choices with
  | nil =>
    split
    · refine ⟨_, (LeavesOpen.messageStart chunk).andThen .skip, ?_⟩
      rw [convertFirst, hChoices]
    · refine ⟨.skip, .skip, ?_⟩
      have hNone : chunk.usage.or s.usage = none := hUsage ▸ hUnknown hChoices
      simp only [convertLater, hChoices, convertUsageOnly, hNone]
      rfl
  | cons choice =>
    have hFinish := hOpen choice (by rw [hChoices]; rfl)
    split
    · refine ⟨_, LeavesOpen.openMessage chunk choice.delta, ?_⟩
      rw [convertFirst_choice hChoices, finishFirst, hFinish]
      exact congrFun (Emit.andThen_skip _) s
    · refine ⟨_, LeavesOpen.convertDelta choice.delta, ?_⟩
      rw [convertLater, hChoices]
      dsimp only
      rw [convertChoice_open hFinish]

theorem handleStreamFormat_unfinished {chunk : ChatChunk}
    (hOpen : ∀ choice ∈ chunk.choices.head?, choice.finish? = none)
    (hUnknown : chunk.choices = [] → chunk.usage.or known = none) (h : Ongoing count known s) :
    (∀ e ∈ (handleStreamFormat chunk s).2, e.closes = false) ∧
      Ongoing (count + 1) (chunk.usage.or known) (handleStreamFormat chunk s).1 := by
  let received : ConvertInfo :=
    { s with sendResponseCount := s.sendResponseCount + 1, usage := chunk.usage.or s.usage }
  have hReceived : Ongoing (count + 1) (chunk.usage.or known) received :=
    ⟨h.done, by rw [← h.count], by rw [← h.usage]⟩
  have hKnown : chunk.choices = [] → chunk.usage.or (chunk.usage.or known) = none := fun hNone => by
    obtain ⟨hOwn, hBefore⟩ := Option.or_eq_none_iff.mp (hUnknown hNone)
    rw [hOwn, hBefore]
    rfl
  obtain ⟨f, hf, hEq⟩ := leavesOpen_unfinished hOpen hKnown hReceived.usage hReceived.done
  have hHandled : handleStreamFormat chunk s = f received := hEq
  rw [hHandled]
  exact ⟨hf.events received, hf.ongoing hReceived⟩

def knownUsage (known : Option Usage) (chunks : List ChatChunk) : Option Usage :=
  chunks.foldl (fun known chunk => chunk.usage.or known) known

/-- By induction on the chunks. -/
theorem unfinished_run {chunks : List ChatChunk} (hUnfinished : Unfinished known chunks)
    (h : Ongoing count known s) :
    (∀ e ∈ (Emit.forEach handleStreamFormat chunks s).2, e.closes = false) ∧
      Ongoing (count + chunks.length) (knownUsage known chunks)
        (Emit.forEach handleStreamFormat chunks s).1 := by
  induction chunks generalizing count known s with
  | nil => exact ⟨fun _ he => absurd he List.not_mem_nil, h⟩
  | cons chunk rest ih =>
    obtain ⟨hOpen, hUnknown, hRest⟩ := hUnfinished
    obtain ⟨hEvents, hNext⟩ := handleStreamFormat_unfinished hOpen hUnknown h
    obtain ⟨hLater, hEnd⟩ := ih hRest hNext
    refine ⟨fun e he => ?_, ?_⟩
    · rcases List.mem_append.mp he with he | he
      · exact hEvents e he
      · exact hLater e he
    · rw [List.length_cons, Nat.add_comm rest.length 1, ← Nat.add_assoc]
      exact hEnd

/-! ### The end -/

/-- The events end with the given usage and the stop, and close nothing before. -/
def ClosedWith (usage : Usage) (events : List ClaudeEvent) : Prop :=
  ∃ before reason,
    events = before ++ [.messageDelta (buildClaudeUsageFromOpenAIUsage usage) reason, .messageStop] ∧
      ∀ e ∈ before, e.closes = false

theorem ClosedWith.prepend {first events : List ClaudeEvent}
    (hFirst : ∀ e ∈ first, e.closes = false) (h : ClosedWith usage events) :
    ClosedWith usage (first ++ events) := by
  obtain ⟨before, reason, rfl, hBefore⟩ := h
  refine ⟨first ++ before, reason, (List.append_assoc ..).symm, fun e he => ?_⟩
  rcases List.mem_append.mp he with he | he
  · exact hFirst e he
  · exact hBefore e he

theorem closeMessage_closed :
    ClosedWith usage (closeMessage (some usage) reason s).2 :=
  ⟨_, reason, rfl, LeavesOpen.stopOpenBlocks.events s⟩

/-- A chunk that finishes with usage, at any place of an open message. -/
theorem finish_closed {chunk : ChatChunk} {reason : String} (hHead : choice ∈ chunk.choices.head?)
    (hFinish : choice.finish? = some reason) (hUsage : chunk.usage = some usage)
    (hDone : s.done = false) :
    ClosedWith usage (streamResponseOpenAI2Claude chunk s).2 := by
  obtain ⟨others, hChoices⟩ : ∃ others, chunk.choices = choice :: others :=
    List.head?_eq_some_iff.mp hHead
  unfold streamResponseOpenAI2Claude
  rw [if_neg (by simp [hDone])]
  split
  · rw [convertFirst_choice hChoices, finishFirst, hFinish, hUsage, Emit.andThen_snd]
    exact .prepend ((LeavesOpen.openMessage chunk choice.delta).events s) (closeMessage_closed ..)
  · rw [convertLater, hChoices]
    dsimp only
    rw [convertChoice_closing hFinish hUsage, Emit.andThen_snd]
    exact .prepend ((LeavesOpen.convertDelta choice.delta).events _) (closeMessage_closed ..)

/-- A second chunk that is converted like the first: it closes with the usage at hand. -/
theorem second_closed {chunk : ChatChunk} {reason : String} (hHead : choice ∈ chunk.choices.head?)
    (hFinish : choice.finish? = some reason) (hNone : chunk.usage = none) (hDone : s.done = false)
    (hCount : s.sendResponseCount = 1) (hUsage : s.usage = some usage) :
    ClosedWith usage (streamResponseOpenAI2Claude chunk s).2 := by
  obtain ⟨others, hChoices⟩ := List.head?_eq_some_iff.mp hHead
  have hOpen := LeavesOpen.openMessage chunk choice.delta
  rw [streamResponseOpenAI2Claude, if_neg (by simp [hDone]), if_pos hCount,
    convertFirst_choice hChoices, finishFirst, hFinish, hNone, Emit.andThen_snd]
  refine .prepend (hOpen.events s) ?_
  dsimp only
  rw [(hOpen.kept s).2.2, hUsage]
  exact closeMessage_closed ..

/-- A chunk without a choice closes an open message past its first chunk. -/
theorem usageOnly_closed {chunk : ChatChunk} (hChoices : chunk.choices = [])
    (hUsage : chunk.usage = some usage) (hDone : s.done = false) (hCount : s.sendResponseCount ≠ 1)
    :
    ClosedWith usage (streamResponseOpenAI2Claude chunk s).2 := by
  rw [streamResponseOpenAI2Claude, if_neg (by simp [hDone]), if_neg hCount, convertLater, hChoices]
  dsimp only
  rw [convertUsageOnly, hUsage]
  exact closeMessage_closed ..

def ChatChunk.Finishes : Prop :=
  ∃ choice ∈ chunk.choices.head?, ∃ reason, choice.finish? = some reason

/-- A finish reason without usage: closing is put off. -/
theorem handleStreamFormat_deferred {chunk : ChatChunk} (hFinish : chunk.Finishes)
    (hNone : chunk.usage = none) (h : Ongoing count known s) (hCount : 1 ≤ count) :
    (handleStreamFormat chunk s).2 = [] ∧
      Ongoing (count + 1) known (handleStreamFormat chunk s).1 := by
  obtain ⟨choice, hHead, reason, hReason⟩ := hFinish
  obtain ⟨others, hChoices⟩ := List.head?_eq_some_iff.mp hHead
  have hLater : s.sendResponseCount + 1 ≠ 1 := by
    have hBefore := h.count
    omega
  rw [handleStreamFormat, handleClaudeFormat, streamResponseOpenAI2Claude,
    if_neg (by simp [h.done]), if_neg hLater, convertLater, hChoices]
  dsimp only
  rw [convertChoice_deferred hReason hNone, hNone]
  exact ⟨rfl, h.done, by rw [← h.count], h.usage⟩

/-! ### The handler -/

section Handler

variable {request : ChatRequest}

theorem receiveData_pending (request : ChatRequest) {s : StreamState} {first : StreamData}
    (h : s.lastStreamData = some first) (next : StreamData) :
    (receiveData request next s).2 = (handleStreamFormat first.chunk s.info).2 ∧
      (receiveData request next s).1.info = (handleStreamFormat first.chunk s.info).1 := by
  simp [receiveData, h]

/-- The handler is one line behind: with `first` pending, it converts everything
but the last line. -/
theorem receiveData_run (rest : List StreamData) (first last : StreamData) (s : StreamState)
    (h : s.lastStreamData = some first) :
    let run := Emit.forEach (receiveData request) (rest ++ [last]) s
    let converted := Emit.forEach handleStreamFormat
      ((first :: rest).map StreamData.chunk) s.info
    run.2 = converted.2 ∧ run.1.info = converted.1 ∧ run.1.lastStreamData = some last := by
  induction rest generalizing first s with
  | nil =>
    obtain ⟨hEvents, hInfo⟩ := receiveData_pending request h last
    rw [List.nil_append, List.map_cons, List.map_nil, Emit.forEach, Emit.forEach, Emit.forEach,
      Emit.forEach, Emit.andThen_skip, Emit.andThen_skip]
    exact ⟨hEvents, hInfo, rfl⟩
  | cons next rest ih =>
    obtain ⟨hStep, hStepInfo⟩ := receiveData_pending request h next
    obtain ⟨hEvents, hInfo, hLast⟩ := ih next (receiveData request next s).1 rfl
    rw [hStepInfo] at hEvents hInfo
    rw [List.cons_append, List.map_cons, Emit.forEach, Emit.forEach]
    dsimp only
    rw [Emit.andThen_snd, Emit.andThen_fst, Emit.andThen_snd, Emit.andThen_fst, hStep, hEvents]
    exact ⟨rfl, hInfo, hLast⟩

/-- What the handler has done when the stream is over. -/
theorem receiveData_all (init : List StreamData) (last : StreamData) (info : ConvertInfo) :
    let run := Emit.forEach (receiveData request) (init ++ [last]) { info := info }
    let converted := Emit.forEach handleStreamFormat (init.map StreamData.chunk) info
    run.2 = converted.2 ∧ run.1.info = converted.1 ∧ run.1.lastStreamData = some last := by
  cases init with
  | nil => exact ⟨rfl, rfl, rfl⟩
  | cons first rest =>
    exact receiveData_run rest first last (receiveData request first { info := info }).1 rfl

/-- The usage and the events of a whole stream, as the conversion of all lines but
the last and then of the last one with the billed usage at hand. -/
theorem oaiStreamHandler_eq (init : List StreamData) (last : StreamData) :
    ∃ s : StreamState, s.lastStreamData = some last ∧
      let converted := Emit.forEach handleStreamFormat (init.map StreamData.chunk)
        { estimatePromptTokens := request.estimatePromptTokens }
      let usage := billedUsage estimateTokenByModel request s
      oaiStreamHandler estimateTokenByModel request (init ++ [last]) =
        (usage, converted.2 ++
          (streamResponseOpenAI2Claude last.chunk { converted.1 with usage := some usage }).2) := by
  obtain ⟨hEvents, hInfo, hLast⟩ := receiveData_all init last
    { estimatePromptTokens := request.estimatePromptTokens }
  refine ⟨_, hLast, ?_⟩
  unfold oaiStreamHandler
  dsimp only
  rw [hEvents, hInfo, hLast, handleFinalResponse, Emit.andThen_snd]
  simp [Emit.modify]

def Settles (request : ChatRequest) (data : StreamData) (usage : Usage) : Prop :=
  data.chunk.usage = some usage ∧ validUsage usage ∧
    applyUsagePostProcessing request.channelType usage (some data) = usage

theorem Settles.billed {data : StreamData} (h : Settles request data usage) {s : StreamState}
    (hLast : s.lastStreamData = some data) :
    billedUsage estimateTokenByModel request s = usage := by
  have hReported : reportedUsage s.lastStreamData = some usage := by
    rw [reportedUsage, hLast, Option.bind_some, h.1, Option.filter_some, if_pos h.2.1]
  rw [billedUsage, hReported, hLast]
  exact h.2.2

inductive Closable (request : ChatRequest) : List StreamData → Prop
  /-- The usage comes with the finish reason. -/
  | withFinish {init : List StreamData} {last : StreamData} {usage : Usage}
      (hInit : Unfinished none (init.map StreamData.chunk)) (hFinish : last.chunk.Finishes)
      (hUsage : Settles request last usage) : Closable request (init ++ [last])
  /-- The usage comes in a chunk of its own after the finish reason. -/
  | afterFinish {first : StreamData} {init : List StreamData} {finish last : StreamData}
      {usage : Usage} (hInit : Unfinished none ((first :: init).map StreamData.chunk))
      (hFinish : finish.chunk.Finishes) (hNone : finish.chunk.usage = none)
      (hLast : last.chunk.choices = []) (hUsage : Settles request last usage) :
      Closable request (first :: init ++ [finish] ++ [last])
  /-- There is no usage, and the chunk with the finish reason is the second one. -/
  | second {first last : StreamData} (hInit : Unfinished none [first.chunk])
      (hFinish : last.chunk.Finishes) (hNone : last.chunk.usage = none) :
      Closable request [first, last]

end Handler

def answered (rest : List StreamData) : List StreamData :=
  [{ chunk := { choices := [{}] } },
    { chunk := { choices := [{ delta := { content := some "hello" } }] } },
    { chunk := { choices := [{ finishReason := some "stop" }] } }] ++ rest

end XyApi.Relay

import XyApi.Relay.BlockTracking

/-!
The converter keeps the discipline of the Claude stream as long as the tool calls
of the message come in one run. Once text or reasoning has followed a tool call,
a later fragment would be counted from a new base, and the blocks of the earlier
calls would be stopped again.
-/

namespace XyApi.Relay

open Lib

variable (turn : ToolTurn) (chunk : ChatChunk)

variable {s : ConvertInfo} {t : Session}

/-! ### The run of tool calls -/

inductive ToolTurn
  | before
  | during (count : Nat)
  | past
  deriving DecidableEq, Repr

def ToolTurn.count : ToolTurn → Nat
  | .during count => count
  | _ => 0

def ChoiceDelta.hasContent (d : ChoiceDelta) : Prop :=
  d.getReasoningContent ≠ "" ∨ d.getContentString ≠ ""
  deriving Decidable

/-- Tool calls are numbered, and none comes after the run of tool calls is over. -/
def ToolTurn.Allows (d : ChoiceDelta) : Prop :=
  d.toolCalls ≠ [] → turn ≠ .past ∧ Numbered turn.count d.toolCalls.zipIdx
  deriving Decidable

def ToolTurn.leave : ToolTurn → ToolTurn
  | .before => .before
  | _ => .past

def ToolTurn.after (d : ChoiceDelta) : ToolTurn :=
  if d.toolCalls ≠ [] then .during (countAfter turn.count d.toolCalls.zipIdx)
  else if d.hasContent then turn.leave
  else turn

def ToolTurn.At (s : ConvertInfo) : Prop :=
  match turn with
  | .during count => s.lastMessagesType = .tools ∧ s.toolCallMaxIndexOffset + 1 = count
  | _ => s.lastMessagesType ≠ .tools

theorem ToolTurn.at_leave (h : s.lastMessagesType ≠ .tools) : turn.leave.At s := by
  cases turn <;> exact h

/-! ### Later chunks -/

theorem mem_openBlocks_tools {i : Int} (hLast : s.lastMessagesType = .tools) :
    i ∈ openBlocks s ↔
      s.toolCallBaseIndex ≤ i ∧ i < s.toolCallBaseIndex + (s.toolCallMaxIndexOffset + 1) := by
  rw [openBlocks, hLast]
  simp only [List.mem_map, List.mem_range]
  constructor
  · rintro ⟨offset, hOffset, rfl⟩
    omega
  · rintro ⟨hLow, hHigh⟩
    exact ⟨(i - s.toolCallBaseIndex).toNat, by omega, by omega⟩

theorem Tracks.toolsOpen {n : Nat} (h : Tracks s t) (hLast : s.lastMessagesType = .tools)
    (hCount : s.toolCallMaxIndexOffset + 1 = n) : ToolsOpen s.toolCallBaseIndex n t where
  phase := h.phase
  opened i := by
    rw [h.opened, hLast, ← hCount]
    exact if_congr (mem_openBlocks_tools hLast) rfl rfl
  used i hi := by
    have hLt := h.used i hi
    rw [nextIndex, hLast] at hLt
    dsimp only at hLt
    omega

theorem ToolsOpen.tracks {n : Nat} (h : ToolsOpen s.toolCallBaseIndex n t)
    (hRunning : s.done = false ∧ 1 ≤ s.sendResponseCount) (hLast : s.lastMessagesType = .tools)
    (hCount : s.toolCallMaxIndexOffset + 1 = n) : Tracks s t where
  running := hRunning
  phase := h.phase
  opened i := by
    rw [h.opened, hLast, ← hCount]
    exact (if_congr (mem_openBlocks_tools hLast) rfl rfl).symm
  used i hi := by
    have hLt := h.used i hi
    rw [nextIndex, hLast]
    dsimp only
    omega

theorem Quiet.toolsOpen (h : Quiet s t) : ToolsOpen s.index 0 t where
  phase := h.phase
  opened i := by
    rw [Session.opened_eq_nil_iff.mp h.opened i, if_neg (by omega)]
  used i hi := by
    have hLt := h.used i hi
    omega

/-- What a run of tool calls starts from: the calls of the message so far. -/
theorem sim_beginTools {turn : ToolTurn} (hTurn : turn ≠ .past) :
    Emit.Sim Session.observe (fun s t => Tracks s t ∧ turn.At s) beginTools fun s t =>
      (s.done = false ∧ 1 ≤ s.sendResponseCount) ∧
        ToolsOpen s.toolCallBaseIndex turn.count t ∧
        (s.toolCallMaxIndexOffset + 1 = turn.count ∨
          turn.count = 0 ∧ s.toolCallMaxIndexOffset = 0) := by
  intro s t ⟨h, hAt⟩
  unfold beginTools
  cases turn with
  | past => exact absurd rfl hTurn
  | before =>
    obtain ⟨t', hStop, hQuiet⟩ := sim_stopOpenBlocksAndAdvance s t h
    have hLast : s.lastMessagesType ≠ .tools := hAt
    rw [if_pos hLast]
    refine ⟨t', ?_, hQuiet.running, hQuiet.toolsOpen, .inr ⟨rfl, rfl⟩⟩
    rw [Emit.andThen_snd]
    simpa [Emit.modify] using hStop
  | during =>
    rw [if_neg (not_not.mpr hAt.1)]
    exact ⟨t, rfl, h.running, h.toolsOpen hAt.1 hAt.2, .inl hAt.2⟩

theorem sim_convertTools {turn : ToolTurn} {toolCalls : List ToolCallResponse}
    (hTurn : turn ≠ .past) (hCalls : toolCalls ≠ [])
    (hNumbered : Numbered turn.count toolCalls.zipIdx) :
    Emit.Sim Session.observe (fun s t => Tracks s t ∧ turn.At s) (convertTools toolCalls)
      fun s t => Tracks s t ∧ (ToolTurn.during (countAfter turn.count toolCalls.zipIdx)).At s := by
  refine (sim_beginTools hTurn).andThen fun s t ⟨hRunning, hOpen, hOffset⟩ => ?_
  obtain ⟨t', hWatch, hAfter⟩ := hOpen.fragments hNumbered
  have hCount : maxToolOffset s.toolCallMaxIndexOffset toolCalls.zipIdx + 1 =
      countAfter turn.count toolCalls.zipIdx :=
    maxToolOffset_add_one hNumbered (hOffset.imp id fun h => ⟨h.1, h.2, by simpa using hCalls⟩)
  exact ⟨t', hWatch, ToolsOpen.tracks hAfter hRunning rfl hCount, rfl, hCount⟩

theorem sim_convertThinking (text : String) :
    Emit.Sim Session.observe Tracks (convertContent .thinking .thinking (.thinkingDelta text))
      fun s t => Tracks s t ∧ s.lastMessagesType = .thinking :=
  sim_convertContent (.inr rfl) rfl rfl

theorem sim_convertText (text : String) :
    Emit.Sim Session.observe Tracks (convertContent .text .text (.textDelta text))
      fun s t => Tracks s t ∧ s.lastMessagesType = .text :=
  sim_convertContent (.inl rfl) rfl rfl

theorem sim_convertDelta {turn : ToolTurn} {d : ChoiceDelta} (hAllows : turn.Allows d) :
    Emit.Sim Session.observe (fun s t => Tracks s t ∧ turn.At s) (convertDelta d)
      fun s t => Tracks s t ∧ (turn.after d).At s := by
  intro s t ⟨h, hAt⟩
  unfold convertDelta ToolTurn.after
  split
  · next hCalls =>
      exact sim_convertTools (hAllows hCalls).1 hCalls (hAllows hCalls).2 s t ⟨h, hAt⟩
  · split
    · next hReasoning =>
        obtain ⟨t', hWatch, hTracks, hLast⟩ := sim_convertThinking _ s t h
        have hContent : d.hasContent := .inl hReasoning
        rw [if_pos hContent]
        exact ⟨t', hWatch, hTracks, turn.at_leave (by rw [hLast]; decide)⟩
    · next hReasoning =>
        split
        · next hText =>
            obtain ⟨t', hWatch, hTracks, hLast⟩ := sim_convertText _ s t h
            have hContent : d.hasContent := .inr hText
            rw [if_pos hContent]
            exact ⟨t', hWatch, hTracks, turn.at_leave (by rw [hLast]; decide)⟩
        · next hText =>
            have hNone : ¬ d.hasContent := not_or.mpr ⟨hReasoning, hText⟩
            rw [if_neg hNone]
            exact ⟨t, rfl, h, hAt⟩

def Closed (s : ConvertInfo) (t : Session) : Prop := s.done = true ∧ t.phase = .stopped

theorem sim_closeMessage (usage? : Option Pricing.Usage) (stopReason : String) :
    Emit.Sim Session.observe Tracks (closeMessage usage? stopReason) Closed := by
  intro s t h
  obtain ⟨t₁, hStop, hPhase, hOpened, -⟩ := h.stopOpenBlocks
  unfold closeMessage
  rw [Emit.andThen_snd, watch_append, hStop, Option.bind_some]
  cases usage? with
  | none =>
    refine ⟨{ t₁ with phase := .stopped }, ?_, rfl, rfl⟩
    simp [Session.observe, hPhase, hOpened]
  | some =>
    refine ⟨{ t₁ with phase := .stopped }, ?_, rfl, rfl⟩
    simp [Session.observe, hPhase, hOpened]

def deferred (choice : StreamChoice) : Prop :=
  choice.finish?.isSome ∧ chunk.usage = none
  deriving Decidable

def ToolTurn.AllowsChunk : Prop :=
  ∀ choice ∈ chunk.choices.head?, ¬ deferred chunk choice → turn.Allows choice.delta
  deriving Decidable

def ToolTurn.afterChunk : ToolTurn :=
  match chunk.choices with
  | [] => turn
  | choice :: _ => if deferred chunk choice then turn else turn.after choice.delta

def Orderly : ToolTurn → List ChatChunk → Prop
  | _, [] => True
  | turn, chunk :: rest => turn.AllowsChunk chunk ∧ Orderly (turn.afterChunk chunk) rest

instance Orderly.decidable : (turn : ToolTurn) → (chunks : List ChatChunk) →
    Decidable (Orderly turn chunks)
  | _, [] => .isTrue trivial
  | turn, chunk :: rest =>
    have := Orderly.decidable (turn.afterChunk chunk) rest
    inferInstanceAs (Decidable (_ ∧ _))

def InStep (s : ConvertInfo) (t : Session) : Prop :=
  Closed s t ∨ Tracks s t ∧ turn.At s

theorem sim_convertUsageOnly {turn : ToolTurn} (chunk : ChatChunk) :
    Emit.Sim Session.observe (fun s t => Tracks s t ∧ turn.At s) (convertUsageOnly chunk)
      (InStep turn) := by
  intro s t ⟨h, hAt⟩
  unfold convertUsageOnly
  split
  · exact ⟨t, rfl, .inr ⟨h, hAt⟩⟩
  · obtain ⟨t', hWatch, hClosed⟩ := sim_closeMessage _ _ s t h
    exact ⟨t', hWatch, .inl hClosed⟩

theorem sim_convertChoice {turn : ToolTurn} {chunk : ChatChunk} {choice : StreamChoice}
    (hAllows : ¬ deferred chunk choice → turn.Allows choice.delta) :
    Emit.Sim Session.observe (fun s t => Tracks s t ∧ turn.At s) (convertChoice chunk choice)
      (InStep (if deferred chunk choice then turn else turn.after choice.delta)) := by
  intro s t ⟨h, hAt⟩
  have hNoted (reason : String) : Tracks { s with finishReason := reason } t :=
    ⟨h.running, h.phase, h.opened, h.used⟩
  have hNotedAt (reason : String) : turn.At { s with finishReason := reason } := by
    cases turn <;> exact hAt
  cases hFinish : choice.finish? with
  | none =>
    have hOpen : ¬ deferred chunk choice := by simp [deferred, hFinish]
    obtain ⟨t', hWatch, hAfter⟩ := sim_convertDelta (hAllows hOpen) s t ⟨h, hAt⟩
    rw [convertChoice_open hFinish, if_neg hOpen]
    exact ⟨t', hWatch, .inr hAfter⟩
  | some reason =>
    cases hUsage : chunk.usage with
    | none =>
      rw [convertChoice_deferred hFinish hUsage, if_pos (by simp [deferred, hFinish, hUsage])]
      exact ⟨t, rfl, .inr ⟨hNoted reason, hNotedAt reason⟩⟩
    | some usage =>
      have hClosing : ¬ deferred chunk choice := by simp [deferred, hUsage]
      obtain ⟨t', hWatch, hClosed⟩ := (sim_convertDelta (hAllows hClosing)).andThen
        (fun s t h => sim_closeMessage (some usage) (stopReasonOpenAI2Claude reason) s t h.1)
        _ t ⟨hNoted reason, hNotedAt reason⟩
      rw [convertChoice_closing hFinish hUsage]
      exact ⟨t', hWatch, .inl hClosed⟩

theorem sim_convertLater {turn : ToolTurn} {chunk : ChatChunk} (hAllows : turn.AllowsChunk chunk) :
    Emit.Sim Session.observe (fun s t => Tracks s t ∧ turn.At s)
      (convertLater chunk) (InStep (turn.afterChunk chunk)) := by
  unfold convertLater ToolTurn.afterChunk
  cases hChoices : chunk.choices with
  | nil => exact sim_convertUsageOnly chunk
  | cons choice => exact sim_convertChoice (hAllows choice (by rw [hChoices]; rfl))

/-! ### The first chunk -/

def openingTurn (toolCalls : List ToolCallResponse) : ToolTurn :=
  if toolCalls = [] then .before else .during 1

/-- One tool call of the first chunk is seen, and its text and reasoning follow. -/
def firstTurn : ToolTurn :=
  match chunk.choices with
  | [] => .before
  | choice :: _ =>
    let turn := openingTurn choice.delta.toolCalls
    if choice.delta.hasContent then turn.leave else turn

structure Fresh (s : ConvertInfo) (t : Session) : Prop where
  running : s.done = false ∧ 1 ≤ s.sendResponseCount
  last : s.lastMessagesType = .none
  index : s.index = 0
  session : t = {}

/-- A message whose content has not begun, or has begun with a tool call. -/
structure Opening (turn : ToolTurn) (s : ConvertInfo) (t : Session) : Prop where
  tracks : Tracks s t
  isAt : turn.At s
  notText : s.lastMessagesType ≠ .text
  notThinking : s.lastMessagesType ≠ .thinking

theorem sim_messageStart :
    Emit.Sim Session.observe Fresh (fun s => (s, [.messageStart chunk.id chunk.model
      s.estimatePromptTokens])) fun s t => Quiet s t ∧ s.index = 0 := by
  rintro s t ⟨hRunning, hLast, hIndex, rfl⟩
  exact ⟨{ phase := .streaming }, rfl, ⟨hRunning, hLast, rfl, rfl, by simp⟩, hIndex⟩

theorem sim_openFirstTool (toolCalls : List ToolCallResponse) :
    Emit.Sim Session.observe (fun s t => Quiet s t ∧ s.index = 0) (openFirstTool toolCalls)
      (Opening (openingTurn toolCalls)) := by
  intro s t ⟨h, hIndex⟩
  cases toolCalls with
  | nil =>
    have hNe (kind : LastMessageType) (hKind : kind ≠ .none) : s.lastMessagesType ≠ kind := by
      rw [h.last]
      exact hKind.symm
    exact ⟨t, rfl, h.tracks, hNe .tools nofun, hNe .text nofun, hNe .thinking nofun⟩
  | cons toolCall =>
    have hOpen : ToolsOpen 0 0 t := hIndex ▸ h.toolsOpen
    obtain ⟨t', hStart, hAfter⟩ := hOpen.start toolCall.id toolCall.name
    refine ⟨t', ?_, ToolsOpen.tracks hAfter h.running rfl rfl, ?_, nofun, nofun⟩
    · rw [openFirstTool, watch_cons, show (0 : Int) = 0 + ((0 : Nat) : Int) from rfl, hStart]
      exact hAfter.arguments (by omega) toolCall
    · rw [openingTurn, if_neg (List.cons_ne_nil _ _)]
      exact ⟨rfl, rfl⟩

theorem sim_openFirstContent {turn : ToolTurn} (d : ChoiceDelta) :
    Emit.Sim Session.observe (Opening turn) (openFirstContent d)
      fun s t => Tracks s t ∧ (if d.hasContent then turn.leave else turn).At s := by
  intro s t h
  unfold openFirstContent
  split
  · next hReasoning =>
      obtain ⟨t', hWatch, hTracks, hLast⟩ := sim_openFirstBlock (.inr rfl) rfl
        (show (BlockDelta.thinkingDelta d.getReasoningContent).kind = ContentBlock.thinking.kind
          from rfl) s t ⟨h.tracks, h.notThinking⟩
      have hContent : d.hasContent := .inl hReasoning
      rw [if_pos hContent]
      exact ⟨t', hWatch, hTracks, turn.at_leave (by rw [hLast]; decide)⟩
  · next hReasoning =>
      split
      · next hText =>
          obtain ⟨t', hWatch, hTracks, hLast⟩ := sim_openFirstBlock (.inl rfl) rfl
            (show (BlockDelta.textDelta d.getContentString).kind = ContentBlock.text.kind
              from rfl) s t ⟨h.tracks, h.notText⟩
          have hContent : d.hasContent := .inr hText
          rw [if_pos hContent]
          exact ⟨t', hWatch, hTracks, turn.at_leave (by rw [hLast]; decide)⟩
      · next hText =>
          have hNone : ¬ d.hasContent := not_or.mpr ⟨hReasoning, hText⟩
          rw [if_neg hNone]
          exact ⟨t, rfl, h.tracks, h.isAt⟩

theorem sim_finishFirst {turn : ToolTurn} (chunk : ChatChunk) (choice : StreamChoice) :
    Emit.Sim Session.observe (fun s t => Tracks s t ∧ turn.At s) (finishFirst chunk choice)
      (InStep turn) := by
  intro s t ⟨h, hAt⟩
  cases hFinish : choice.finish? with
  | none =>
    rw [finishFirst, hFinish]
    exact ⟨t, rfl, .inr ⟨h, hAt⟩⟩
  | some reason =>
    have hNoted : Tracks { s with finishReason := reason } t :=
      ⟨h.running, h.phase, h.opened, h.used⟩
    obtain ⟨t', hWatch, hClosed⟩ := sim_closeMessage (chunk.usage.or s.usage)
      (stopReasonOpenAI2Claude reason) _ t hNoted
    rw [finishFirst, hFinish]
    exact ⟨t', hWatch, .inl hClosed⟩

theorem sim_convertFirst :
    Emit.Sim Session.observe Fresh (convertFirst chunk) (InStep (firstTurn chunk)) := by
  refine (sim_messageStart chunk).andThen ?_
  unfold firstTurn
  cases chunk.choices with
  | nil =>
    rintro s t ⟨h, -⟩
    refine ⟨t, rfl, .inr ⟨h.tracks, ?_⟩⟩
    show s.lastMessagesType ≠ .tools
    rw [h.last]
    decide
  | cons choice =>
    exact (sim_openFirstTool _).andThen ((sim_openFirstContent _).andThen
      (sim_finishFirst chunk choice))

/-! ### Streams -/

def OrderlyStream : List ChatChunk → Prop
  | [] => True
  | first :: rest => Orderly (firstTurn first) rest

instance : (chunks : List ChatChunk) → Decidable (OrderlyStream chunks)
  | [] => .isTrue trivial
  | first :: rest => inferInstanceAs (Decidable (Orderly (firstTurn first) rest))

def received (s : ConvertInfo) : ConvertInfo :=
  { s with sendResponseCount := s.sendResponseCount + 1, usage := chunk.usage.or s.usage }

theorem Tracks.received (h : Tracks s t) (chunk : ChatChunk) : Tracks (received chunk s) t :=
  ⟨⟨h.running.1, Nat.le_add_left 1 _⟩, h.phase, h.opened, h.used⟩

theorem handleStreamFormat_first (hDone : s.done = false) (hCount : s.sendResponseCount = 0) :
    handleStreamFormat chunk s = convertFirst chunk (received chunk s) := by
  rw [handleStreamFormat, handleClaudeFormat, streamResponseOpenAI2Claude, if_neg (by simp [hDone]),
    if_pos (by rw [hCount])]
  rfl

theorem handleStreamFormat_later (hRunning : s.done = false ∧ 1 ≤ s.sendResponseCount) :
    handleStreamFormat chunk s = convertLater chunk (received chunk s) := by
  have hCount : s.sendResponseCount + 1 ≠ 1 := by omega
  rw [handleStreamFormat, handleClaudeFormat, streamResponseOpenAI2Claude,
    if_neg (by simp [hRunning.1]), if_neg hCount]
  rfl

def Along (chunks : List ChatChunk) (s : ConvertInfo) (t : Session) : Prop :=
  ∃ turn, InStep turn s t ∧ Orderly turn chunks

theorem sim_handleStreamFormat (rest : List ChatChunk) :
    Emit.Sim Session.observe (Along (chunk :: rest)) (handleStreamFormat chunk) (Along rest) := by
  rintro s t ⟨turn, hInStep, hAllows, hRest⟩
  rcases hInStep with ⟨hDone, hPhase⟩ | ⟨h, hAt⟩
  · rw [handleStreamFormat, handleClaudeFormat, streamResponseOpenAI2Claude, if_pos hDone]
    exact ⟨t, rfl, turn.afterChunk chunk, .inl ⟨hDone, hPhase⟩, hRest⟩
  · rw [handleStreamFormat_later chunk h.running]
    obtain ⟨t', hWatch, hAfter⟩ := sim_convertLater hAllows _ t ⟨h.received chunk, hAt⟩
    exact ⟨t', hWatch, _, hAfter, hRest⟩

/-- The first chunk of the stream, on a converter that was just set up. -/
theorem sim_handleStreamFormat_first {chunk : ChatChunk} {rest : List ChatChunk}
    (hRest : Orderly (firstTurn chunk) rest) :
    Emit.Sim Session.observe (fun s t => s.sendResponseCount = 0 ∧ Fresh (received chunk s) t)
      (handleStreamFormat chunk) (Along rest) := by
  rintro s t ⟨hCount, hFresh⟩
  have hDone : s.done = false := hFresh.running.1
  rw [handleStreamFormat_first chunk hDone hCount]
  obtain ⟨t', hWatch, hAfter⟩ := sim_convertFirst chunk _ t hFresh
  exact ⟨t', hWatch, _, hAfter, hRest⟩

def initialInfo (estimatePromptTokens : Int) : ConvertInfo :=
  { estimatePromptTokens := estimatePromptTokens }

theorem fresh_initialInfo (estimatePromptTokens : Int) (chunk : ChatChunk) :
    Fresh (received chunk (initialInfo estimatePromptTokens)) {} :=
  ⟨⟨rfl, le_rfl⟩, rfl, rfl, rfl⟩

def toolsAroundText (second : Option String) : List ChatChunk :=
  [{ choices := [{}] },
    { choices := [{ delta := {
      toolCalls := [{ index := some 0, id := "call_0", name := "search" }] } }] },
    { choices := [{ delta := { content := some "found" } }] }] ++
  (second.map fun name =>
    { choices := [{ delta := {
      toolCalls := [{ index := some 1, id := "call_1", name := name }] } }] }).toList ++
  [{ choices := [{ finishReason := some "stop" }], usage := some {} }]

end XyApi.Relay

import XyApi.Relay.ClaudeProtocol
import Mathlib.Data.List.Nodup

/-!
What the converter takes for open, against what a client has open. Related states
have the same open blocks, and every index used so far lies below the next one
the converter takes. Each piece of the converter keeps the two in step; fragments
of tool calls do when they are numbered in order of appearance.
-/

namespace XyApi.Relay

open Lib

variable {s : ConvertInfo} {t : Session}

def LastMessageType.kind : LastMessageType → Option BlockKind
  | .none => Option.none
  | .text => some .text
  | .thinking => some .thinking
  | .tools => some .toolUse

def nextIndex (s : ConvertInfo) : Int :=
  match s.lastMessagesType with
  | .none => s.index
  | .text | .thinking => s.index + 1
  | .tools => s.toolCallBaseIndex + s.toolCallMaxIndexOffset + 1

/-- The client has the blocks open that the converter takes for open. The message
was started and has not ended. -/
structure Tracks (s : ConvertInfo) (t : Session) : Prop where
  running : s.done = false ∧ 1 ≤ s.sendResponseCount
  phase : t.phase = .streaming
  opened : ∀ i, t.kindAt i = if i ∈ openBlocks s then s.lastMessagesType.kind else none
  used : ∀ i ∈ t.used, i < nextIndex s

theorem openBlocks_nodup : (openBlocks s).Nodup := by
  unfold openBlocks
  split
  · exact List.nodup_nil
  · exact List.nodup_singleton _
  · exact List.nodup_singleton _
  · refine List.Nodup.map (fun a b h => ?_) List.nodup_range
    have hCast : (a : Int) = b := by simpa using h
    exact_mod_cast hCast

theorem kind_isSome_of_mem (h : i ∈ openBlocks s) :
    s.lastMessagesType.kind.isSome := by
  unfold openBlocks at h
  split at h <;> simp_all [LastMessageType.kind]

/-- No block is open, and nothing at or above the next index was used. -/
structure Quiet (s : ConvertInfo) (t : Session) : Prop where
  running : s.done = false ∧ 1 ≤ s.sendResponseCount
  last : s.lastMessagesType = .none
  phase : t.phase = .streaming
  opened : t.opened = []
  used : ∀ i ∈ t.used, i < s.index

theorem Quiet.tracks (h : Quiet s t) : Tracks s t where
  running := h.running
  phase := h.phase
  opened i := by
    rw [Session.opened_eq_nil_iff.mp h.opened i, openBlocks, h.last]
    simp
  used i hi := by
    rw [nextIndex, h.last]
    exact h.used i hi

theorem Tracks.stopOpenBlocks (h : Tracks s t) :
    ∃ t', watch Session.observe t (stopOpenBlocks s).2 = some t' ∧ t'.phase = .streaming ∧
      t'.opened = [] ∧ t'.used = t.used := by
  obtain ⟨t', hWatch, hPhase, hUsed, hKind⟩ := Session.watch_stops openBlocks_nodup h.phase
    fun i hi => by rw [h.opened, if_pos hi]; exact kind_isSome_of_mem hi
  refine ⟨t', hWatch, hPhase, ?_, hUsed⟩
  rw [Session.opened_eq_nil_iff]
  intro i
  rw [hKind]
  split
  · rfl
  · next hOut => rw [h.opened, if_neg hOut]

theorem advance_index (h : s.lastMessagesType ≠ .none) :
    (advance s).lastMessagesType = .none ∧ (advance s).index = nextIndex s ∧
      (advance s).done = s.done ∧ (advance s).sendResponseCount = s.sendResponseCount := by
  unfold advance nextIndex
  cases hLast : s.lastMessagesType with
  | none => exact absurd hLast h
  | text | thinking | tools => simp

theorem Tracks.quiet (h : Tracks s t) (hLast : s.lastMessagesType = .none) : Quiet s t where
  running := h.running
  last := hLast
  phase := h.phase
  opened := by
    rw [Session.opened_eq_nil_iff]
    intro i
    rw [h.opened, openBlocks, hLast]
    simp
  used i hi := by
    have hLt := h.used i hi
    rwa [nextIndex, hLast] at hLt

theorem sim_stopOpenBlocksAndAdvance :
    Emit.Sim Session.observe Tracks stopOpenBlocksAndAdvance Quiet := by
  intro s t h
  unfold stopOpenBlocksAndAdvance
  split
  · next hLast => exact ⟨t, rfl, h.quiet hLast⟩
  · next hLast =>
      obtain ⟨t', hWatch, hPhase, hOpened, hUsed⟩ := h.stopOpenBlocks
      obtain ⟨hNone, hIndex, hDone, hSent⟩ := advance_index hLast
      refine ⟨t', ?_, ⟨hDone.trans h.running.1, h.running.2.trans_eq hSent.symm⟩, hNone, hPhase,
        hOpened, fun i hi => ?_⟩
      · rw [Emit.andThen_snd]
        simpa [Emit.modify] using hWatch
      · rw [hUsed] at hi
        exact (h.used i hi).trans_eq hIndex.symm

/-- The converter opens a block of text or reasoning and sends its first content. -/
theorem Quiet.open (hKind : kind = .text ∨ kind = .thinking) (hBlock : kind.kind = some block.kind)
    (hDelta : delta.kind = block.kind) (h : Quiet s t) :
    ∃ t', watch Session.observe t
        [.contentBlockStart s.index block, .contentBlockDelta s.index delta] = some t' ∧
      Tracks { s with lastMessagesType := kind } t' := by
  have hFresh : s.index ∉ t.used := fun hMem => lt_irrefl _ (h.used _ hMem)
  let t' : Session :=
    { t with used := s.index :: t.used, opened := (s.index, block.kind) :: t.opened }
  have hKindAt (i : Int) : t'.kindAt i = if i = s.index then some block.kind else none := by
    rw [Session.kindAt, Session.lookup_cons_eq, h.opened, List.lookup_nil]
  refine ⟨t', ?_, h.running, h.phase, fun i => ?_, fun i hi => ?_⟩
  · have hStart : t.observe (.contentBlockStart s.index block) = some t' := by
      rw [Session.observe, if_pos ⟨h.phase, hFresh⟩]
    have hSend : t'.observe (.contentBlockDelta s.index delta) = some t' := by
      rw [Session.observe, if_pos ⟨h.phase, by rw [hKindAt, if_pos rfl, hDelta]⟩]
    rw [watch_cons, hStart, Option.bind_some, watch_cons, hSend]
    rfl
  · rw [hKindAt]
    rcases hKind with rfl | rfl <;> simp [openBlocks, hBlock]
  · have hBound : nextIndex { s with lastMessagesType := kind } = s.index + 1 := by
      rcases hKind with rfl | rfl <;> rfl
    rw [hBound]
    rcases List.mem_cons.mp hi with rfl | hOld
    · omega
    · have hLt := h.used i hOld
      omega

/-! ### Text and reasoning -/

section Content

variable {kind : LastMessageType} {block : ContentBlock} {delta : BlockDelta}
  (hKind : kind = .text ∨ kind = .thinking) (hBlock : kind.kind = some block.kind)
  (hDelta : delta.kind = block.kind)
include hKind hBlock hDelta

/-- More content for the block that is open. -/
theorem Tracks.send (h : Tracks s t) (hLast : s.lastMessagesType = kind) :
    watch Session.observe t [.contentBlockDelta s.index delta] = some t := by
  have hOpen : t.kindAt s.index = some delta.kind := by
    rw [h.opened, hDelta, ← hBlock, hLast]
    rcases hKind with rfl | rfl <;> simp [openBlocks, hLast]
  rw [watch_cons, Session.observe, if_pos ⟨h.phase, hOpen⟩]
  rfl

theorem sim_convertContent :
    Emit.Sim Session.observe Tracks (convertContent kind block delta)
      fun s t => Tracks s t ∧ s.lastMessagesType = kind := by
  intro s t h
  unfold convertContent
  split
  · obtain ⟨t₁, hStop, hQuiet⟩ := sim_stopOpenBlocksAndAdvance s t h
    obtain ⟨t₂, hOpen, hTracks⟩ := hQuiet.open hKind hBlock hDelta
    refine ⟨t₂, ?_, hTracks, rfl⟩
    rw [Emit.andThen_snd, watch_append, hStop]
    exact hOpen
  · next hLast =>
      have hLast : s.lastMessagesType = kind := not_not.mp hLast
      exact ⟨t, h.send hKind hBlock hDelta hLast, h, hLast⟩

theorem sim_openFirstBlock :
    Emit.Sim Session.observe (fun s t => Tracks s t ∧ s.lastMessagesType ≠ kind)
      (openFirstBlock kind block delta) fun s t => Tracks s t ∧ s.lastMessagesType = kind := by
  intro s t ⟨h, hLast⟩
  obtain ⟨t₁, hStop, hQuiet⟩ := sim_stopOpenBlocksAndAdvance s t h
  obtain ⟨t₂, hOpen, hTracks⟩ := hQuiet.open hKind hBlock hDelta
  rw [openFirstBlock, Emit.andThen, switchTo, if_pos hLast]
  refine ⟨t₂, ?_, hTracks, rfl⟩
  rw [watch_append, hStop]
  exact hOpen

end Content

/-! ### Tool calls -/

/-- The fragments continue one of `n` tool calls or begin the next one. A first
fragment has the id and the name of its call, and only a first fragment has a name. -/
def Numbered : Nat → List (ToolCallResponse × Nat) → Prop
  | _, [] => True
  | n, (toolCall, position) :: rest =>
    (0 ≤ toolOffset position toolCall ∧ toolOffset position toolCall < n ∧
      toolCall.name = "" ∧ Numbered n rest) ∨
    (toolOffset position toolCall = n ∧ toolCall.id ≠ "" ∧ toolCall.name ≠ "" ∧
      Numbered (n + 1) rest)

instance Numbered.decidable : (n : Nat) → (fragments : List (ToolCallResponse × Nat)) →
    Decidable (Numbered n fragments)
  | _, [] => .isTrue trivial
  | n, (_, _) :: rest =>
    have := Numbered.decidable n rest
    have := Numbered.decidable (n + 1) rest
    inferInstanceAs (Decidable (_ ∨ _))

def countAfter : Nat → List (ToolCallResponse × Nat) → Nat
  | n, [] => n
  | n, (toolCall, position) :: rest =>
    countAfter (if toolOffset position toolCall = n then n + 1 else n) rest

structure ToolsOpen (base : Int) (n : Nat) (t : Session) : Prop where
  phase : t.phase = .streaming
  opened : ∀ i, t.kindAt i = if base ≤ i ∧ i < base + n then some .toolUse else none
  used : ∀ i ∈ t.used, i < base + n

theorem ToolsOpen.arguments (h : ToolsOpen base n t) (hIndex : base ≤ i ∧ i < base + n)
    (toolCall : ToolCallResponse) :
    watch Session.observe t (argumentDelta i toolCall) = some t := by
  unfold argumentDelta
  split
  · rw [watch_cons, Session.observe,
      if_pos ⟨h.phase, by rw [h.opened, if_pos hIndex]; rfl⟩]
    rfl
  · rfl

theorem ToolsOpen.start (h : ToolsOpen base n t) (id name : String) :
    ∃ t', t.observe (.contentBlockStart (base + n) (.toolUse id name)) = some t' ∧
      ToolsOpen base (n + 1) t' := by
  have hFresh : base + n ∉ t.used := fun hMem => lt_irrefl _ (h.used _ hMem)
  refine ⟨{ t with
    used := (base + n) :: t.used, opened := (base + n, .toolUse) :: t.opened }, ?_, h.phase,
    fun i => ?_, fun i hi => ?_⟩
  · rw [Session.observe, if_pos ⟨h.phase, hFresh⟩]
    rfl
  · rw [Session.kindAt, Session.lookup_cons_eq]
    by_cases hi : i = base + n
    · rw [if_pos hi, if_pos (by omega)]
    · rw [if_neg hi, ← Session.kindAt, h.opened]
      by_cases hOld : base ≤ i ∧ i < base + n
      · rw [if_pos hOld, if_pos (by omega)]
      · rw [if_neg hOld, if_neg (by omega)]
  · rcases List.mem_cons.mp hi with rfl | hOld
    · omega
    · have hLt := h.used i hOld
      omega

/-- By induction on the fragments: each continues an open block or opens the next. -/
theorem ToolsOpen.fragments {base : Int} {n : Nat} {fragments : List (ToolCallResponse × Nat)}
    (hNumbered : Numbered n fragments) (h : ToolsOpen base n t) :
    ∃ t', watch Session.observe t (fragments.flatMap (toolFragment base)) = some t' ∧
      ToolsOpen base (countAfter n fragments) t' := by
  induction fragments generalizing n t with
  | nil => exact ⟨t, rfl, h⟩
  | cons fragment rest ih =>
    obtain ⟨toolCall, position⟩ := fragment
    rw [List.flatMap_cons, watch_append]
    rcases hNumbered with ⟨hLow, hHigh, hName, hRest⟩ | ⟨hIndex, -, hName, hRest⟩
    · have hSend : watch Session.observe t (toolFragment base (toolCall, position)) = some t := by
        simp only [toolFragment, hName, ne_eq, not_true_eq_false, if_false, List.nil_append]
        exact h.arguments (by omega) toolCall
      rw [hSend, countAfter, if_neg (by omega)]
      exact ih hRest h
    · obtain ⟨t₁, hStart, h₁⟩ := h.start toolCall.id toolCall.name
      have hSend : watch Session.observe t (toolFragment base (toolCall, position)) = some t₁ := by
        rw [toolFragment, if_pos hName, hIndex, List.singleton_append, watch_cons,
          hStart]
        exact h₁.arguments (by omega) toolCall
      rw [hSend, countAfter, if_pos hIndex]
      exact ih hRest h₁

theorem maxToolOffset_cons :
    maxToolOffset offset ((toolCall, position) :: rest) =
      maxToolOffset (max offset (toolOffset position toolCall)) rest := rfl

/-- The largest offset is that of the last tool call begun. -/
theorem maxToolOffset_add_one {n : Nat} {offset : Int}
    {fragments : List (ToolCallResponse × Nat)} (hNumbered : Numbered n fragments)
    (h : offset + 1 = n ∨ n = 0 ∧ offset = 0 ∧ fragments ≠ []) :
    maxToolOffset offset fragments + 1 = countAfter n fragments := by
  induction fragments generalizing n offset with
  | nil =>
    rcases h with h | ⟨-, -, h⟩
    · exact h
    · exact absurd rfl h
  | cons fragment rest ih =>
    obtain ⟨toolCall, position⟩ := fragment
    rw [maxToolOffset_cons, countAfter]
    rcases hNumbered with ⟨hLow, hHigh, -, hRest⟩ | ⟨hIndex, -, -, hRest⟩
    · rw [if_neg (by omega)]
      exact ih hRest (.inl (by omega))
    · rw [if_pos hIndex]
      exact ih hRest (.inl (by omega))

end XyApi.Relay

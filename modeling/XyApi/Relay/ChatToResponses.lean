import XyApi.Relay.ClaudeStream
import XyApi.Lib.TableUpdate

/-!
Chat chunks as a stream of Responses events. An output item is opened when its first
fragment arrives: one message, one reasoning summary, and one call for each chat index
of a tool. A finish reason closes them all, the message and the reasoning first, and the
final response lists them in the order they were opened.
-/

namespace XyApi.Relay.Responses

open Lib

variable (ref : OutputRef) (id delta name : String) (choice : StreamChoice)
  (choices : List StreamChoice)

/-! ### Events -/

inductive OutputType
  | message
  | reasoning
  | functionCall
  deriving DecidableEq, Repr

inductive OutputStatus
  | inProgress
  | completed
  | incomplete
  deriving DecidableEq, Repr

structure ResponsesOutput where
  type : OutputType
  id : String
  status : OutputStatus
  name : String := ""
  /-- The text, the summary or the arguments. -/
  content : String := ""
  deriving DecidableEq, Repr

structure Response where
  id : String
  status : OutputStatus
  incompleteDetails : Option String := none
  output : List ResponsesOutput := []
  deriving DecidableEq, Repr

/-- The deltas of text, summary and arguments are one event with a type, and so are the
events that end them; the one of a summary repeats it. -/
inductive ResponsesEvent
  | created (response : Response)
  | outputItemAdded (index : Nat) (item : ResponsesOutput)
  | delta (type : OutputType) (index : Nat) (itemId text : String)
  | contentDone (type : OutputType) (index : Nat) (itemId : String) (part : Option String)
  | outputItemDone (index : Nat) (item : ResponsesOutput)
  | completed (response : Response)
  | incomplete (response : Response)
  deriving DecidableEq, Repr

/-! ### The converter -/

inductive OutputRef
  | message
  | reasoning
  | tool (chatIndex : Int)
  deriving DecidableEq, Repr

def OutputRef.type : OutputRef → OutputType
  | message => .message
  | reasoning => .reasoning
  | tool _ => .functionCall

def OutputRef.toolIndex? : OutputRef → Option Int
  | tool chatIndex => some chatIndex
  | _ => none

/-- An item that was started. The id and the name are those of a tool. -/
structure StreamPart where
  ref : OutputRef
  outputIndex : Nat
  id : String := ""
  name : String := ""
  content : String := ""
  done : Bool := false
  deriving DecidableEq, Repr

structure StreamState where
  id : String := ""
  /-- Completed, or the reason why not. -/
  incompleteDetails : Option String := none
  sentCreated : Bool := false
  finalized : Bool := false
  nextOutputIndex : Nat := 0
  parts : Table StreamPart.ref := .empty
  outputOrder : List OutputRef := []

abbrev Convert := Emit StreamState ResponsesEvent

def responsesStatusFromChatFinishReason (finishReason : String) : Option String :=
  match trimSpace finishReason with
  | "length" => some "max_output_tokens"
  | "content_filter" => some "content_filter"
  | _ => none

namespace StreamState

def outputStatus (s : StreamState) : OutputStatus :=
  if s.incompleteDetails.isSome then .incomplete else .completed

def itemId (s : StreamState) (part : StreamPart) : String :=
  match part.ref with
  | .message => s.id ++ "_msg_0"
  | .reasoning => s.id ++ "_reasoning_0"
  | .tool _ => part.id

def output (s : StreamState) (status : OutputStatus) (part : StreamPart) : ResponsesOutput where
  type := part.ref.type
  id := s.itemId part
  status := status
  name := part.name
  content := part.content

def finalResponse (s : StreamState) : Response where
  id := s.id
  status := s.outputStatus
  incompleteDetails := s.incompleteDetails
  output := s.outputOrder.filterMap fun ref => (s.parts.get? ref).map (s.output s.outputStatus)

def sortedTools (s : StreamState) : List OutputRef :=
  ((s.parts.rows.filterMap (·.ref.toolIndex?)).mergeSort fun a b => decide (a ≤ b)).map .tool

end StreamState

def startPart : Convert := fun s =>
  match s.parts.get? ref with
  | some _ => (s, [])
  | none =>
    let part : StreamPart := { ref, outputIndex := s.nextOutputIndex, id, name }
    ({ s with
        nextOutputIndex := s.nextOutputIndex + 1
        outputOrder := s.outputOrder ++ [ref]
        parts := s.parts.insertOrKeep part },
      [.outputItemAdded part.outputIndex (s.output .inProgress part)])

def appendDelta : Convert := fun s =>
  match s.parts.get? ref with
  | none => (s, [])
  | some part =>
    ({ s with parts := s.parts.put { part with content := part.content ++ delta } },
      [.delta ref.type part.outputIndex (s.itemId part) delta])

def appendTextDelta : Convert :=
  (startPart .message "" "").andThen (appendDelta .message delta)

def appendReasoningDelta : Convert :=
  (startPart .reasoning "" "").andThen (appendDelta .reasoning delta)

def renameTool : Convert := .modify fun s =>
  match s.parts.get? ref with
  | none => s
  | some part =>
    { s with parts := s.parts.put { part with
        id := if id ≠ "" then id else part.id
        name := if name ≠ "" then name else part.name } }

def appendToolCallDelta (toolCall : ToolCallResponse) : Convert := fun s =>
  let chatIndex := toolCall.index.getD 0
  let id := trimSpace toolCall.id
  let name := trimSpace toolCall.name
  let firstId := if id = "" then s.id ++ "_call_" ++ toString chatIndex else id
  (startPart (.tool chatIndex) firstId name).andThen
    ((renameTool (.tool chatIndex) id name).andThen
      (if toolCall.arguments ≠ "" then appendDelta (.tool chatIndex) toolCall.arguments
        else .skip)) s

def closePart : Convert := fun s =>
  match s.parts.get? ref with
  | none => (s, [])
  | some part =>
    if part.done then (s, []) else
      ({ s with parts := s.parts.put { part with done := true } },
        [.contentDone ref.type part.outputIndex (s.itemId part)
            (if ref = .reasoning then some part.content else none),
          .outputItemDone part.outputIndex (s.output s.outputStatus part)])

def doneDeltaEvents : Convert := fun s =>
  Emit.forEach closePart (.message :: .reasoning :: s.sortedTools) s

def appendChoice : Convert :=
  (if choice.delta.getReasoningContent ≠ "" then
      appendReasoningDelta choice.delta.getReasoningContent
    else .skip).andThen
  ((if choice.delta.getContentString ≠ "" then appendTextDelta choice.delta.getContentString
    else .skip).andThen
  (.forEach appendToolCallDelta choice.delta.toolCalls))

def finishChoice : Convert :=
  match choice.finishReason.filter (trimSpace · ≠ "") with
  | none => .skip
  | some reason =>
    (Emit.modify fun s =>
      { s with incompleteDetails := responsesStatusFromChatFinishReason reason }).andThen
      doneDeltaEvents

def announce : Convert := fun s =>
  if s.sentCreated then (s, []) else
    ({ s with sentCreated := true }, [.created { id := s.id, status := .inProgress }])

def chatCompletionsStreamChunkToResponsesEvents (chunk : ChatChunk) : Convert :=
  (Emit.modify fun s => if s.id = "" then { s with id := chunk.id } else s).andThen
    (announce.andThen
      (.forEach (fun choice => (appendChoice choice).andThen (finishChoice choice)) chunk.choices))

def finalizeChatCompletionsStreamToResponses : Convert := fun s =>
  if s.finalized then (s, []) else
    doneDeltaEvents.andThen (fun s => ({ s with finalized := true },
      [if s.outputStatus = .incomplete then .incomplete s.finalResponse
        else .completed s.finalResponse])) s

def responsesStream (chunks : List ChatChunk) : List ResponsesEvent :=
  ((Emit.forEach chatCompletionsStreamChunkToResponsesEvents chunks).andThen
    finalizeChatCompletionsStreamToResponses { id := id }).2

/-! ### A client -/

inductive ItemStage
  | opened
  | closing
  | done
  deriving DecidableEq, Repr

structure Item where
  index : Nat
  type : OutputType
  content : String := ""
  stage : ItemStage := .opened
  deriving DecidableEq, Repr

structure Client where
  started : Bool := false
  finished : Bool := false
  items : Table Item.index := .empty

namespace Client

def Running (t : Client) : Prop := t.started = true ∧ t.finished = false
  deriving Decidable

def onItem (t : Client) (index : Nat) (f : Item → Option Item) : Option Client :=
  if t.Running then
    ((t.items.get? index).bind f).map fun item => { t with items := t.items.put item }
  else none

/-- The stream starts once; items are added at the next index; deltas come while their
item is open and add to its content; an item ends once, with that content; at the end
every item has ended and the response lists them. -/
def observe (t : Client) : ResponsesEvent → Option Client
  | .created _ => if t.started then none else some { t with started := true }
  | .outputItemAdded index item =>
    if t.Running ∧ index = t.items.rows.length ∧ item.content = "" then
      (t.items.insert? ⟨index, item.type, "", .opened⟩).map fun items => { t with items := items }
    else none
  | .delta type index _ text => t.onItem index fun item =>
    if item.type = type ∧ item.stage = .opened then
      some { item with content := item.content ++ text }
    else none
  | .contentDone type index _ part => t.onItem index fun item =>
    if item.type = type ∧ item.stage = .opened ∧ part.getD item.content = item.content then
      some { item with stage := .closing }
    else none
  | .outputItemDone index output => t.onItem index fun item =>
    if item.stage = .closing ∧ (output.type, output.content) = (item.type, item.content) then
      some { item with stage := .done }
    else none
  | .completed response | .incomplete response =>
    if t.Running ∧ (∀ item ∈ t.items.rows, item.stage = .done) ∧
        response.output.map (fun o => (o.type, o.content)) =
          t.items.rows.map fun item => (item.type, item.content) then
      some { t with finished := true }
    else none

theorem onItem_eq {t : Client} (item : Item) {item' : Item} {f : Item → Option Item}
    (hRun : t.Running) (hItem : t.items.get? item.index = some item) (hf : f item = some item') :
    t.onItem item.index f = some { t with items := t.items.put item' } := by
  rw [onItem, if_pos hRun, hItem, Option.bind_some, hf, Option.map_some]

end Client

/-! ### What the client has -/

def shown (part : StreamPart) : Item where
  index := part.outputIndex
  type := part.ref.type
  content := part.content
  stage := if part.done then .done else .opened

/-- The client has the items of the converter, in the order of their indexes. -/
structure Tracks (s : StreamState) (t : Client) : Prop where
  active : s.sentCreated = true ∧ s.finalized = false
  running : t.Running
  order : s.outputOrder = s.parts.rows.map StreamPart.ref
  next : s.nextOutputIndex = s.parts.rows.length
  index : s.parts.rows.map StreamPart.outputIndex = List.range s.parts.rows.length
  items : t.items.rows = s.parts.rows.map shown

variable {s : StreamState} {t : Client} {part : StreamPart}

theorem Tracks.item (h : Tracks s t) (hPart : part ∈ s.parts.rows) :
    t.items.get? part.outputIndex = some (shown part) := by
  have hShown : shown part ∈ t.items.rows := h.items ▸ List.mem_map_of_mem hPart
  exact Table.get?_of_mem hShown

/-- A part written back at its index is an item written back. -/
theorem Tracks.put {part' : StreamPart} (h : Tracks s t)
    (hPart : s.parts.get? part'.ref = some part) (hIndex : part'.outputIndex = part.outputIndex) :
    Tracks { s with parts := s.parts.put part' } { t with items := t.items.put (shown part') } := by
  have hLength : (s.parts.put part').rows.length = s.parts.rows.length := List.length_map _
  refine ⟨h.active, h.running, ?_, ?_, ?_, ?_⟩
  · exact h.order.trans (Table.map_key_put ..).symm
  · exact h.next.trans hLength.symm
  · rw [Table.map_rows_put hPart hIndex, hLength, h.index]
  · change List.map _ t.items.rows = List.map _ (List.map _ s.parts.rows)
    rw [h.items, List.map_map, List.map_map]
    refine List.map_congr_left fun other hOther => ?_
    -- keys and indexes name the same row, both being without repetition
    have hSame : other.outputIndex = part'.outputIndex ↔ other.ref = part'.ref := by
      constructor
      · intro hEq
        have hNodup : (s.parts.rows.map StreamPart.outputIndex).Nodup :=
          h.index ▸ List.nodup_range
        rw [List.inj_on_of_nodup_map hNodup hOther (Table.mem_of_get? hPart) (hEq.trans hIndex)]
        exact Table.key_of_get? hPart
      · intro hEq
        have hGet := Table.get?_of_mem hOther
        rw [hEq, hPart, Option.some.injEq] at hGet
        rw [← hGet, hIndex]
    simp only [Function.comp_apply, show (shown other).index = other.outputIndex from rfl,
      show (shown part').index = part'.outputIndex from rfl, hSame]
    split <;> rfl

/-- Nothing the client has was changed. -/
theorem Tracks.put_same {part' : StreamPart} (h : Tracks s t)
    (hPart : s.parts.get? part'.ref = some part) (hSame : shown part' = shown part) :
    Tracks { s with parts := s.parts.put part' } t := by
  have hIndex : part'.outputIndex = part.outputIndex := congrArg Item.index hSame
  have hPut := h.put hPart hIndex
  have hItem : t.items.put (shown part) = t.items :=
    Table.put_of_get? (h.item (Table.mem_of_get? hPart))
  rwa [hSame, hItem] at hPut

theorem Tracks.congr {s' : StreamState} (h : Tracks s t) (hParts : s'.parts = s.parts)
    (hOrder : s'.outputOrder = s.outputOrder) (hNext : s'.nextOutputIndex = s.nextOutputIndex)
    (hActive : (s'.sentCreated, s'.finalized) = (s.sentCreated, s.finalized)) : Tracks s' t := by
  rw [Prod.mk.injEq] at hActive
  refine ⟨?_, h.running, ?_, ?_, ?_, ?_⟩
  · rw [hActive.1, hActive.2]
    exact h.active
  · rw [hOrder, hParts, h.order]
  · rw [hNext, hParts, h.next]
  · rw [hParts, h.index]
  · rw [hParts, h.items]

/-! ### Fragments -/

def Speaking (s : StreamState) (t : Client) : Prop :=
  Tracks s t ∧ ∀ part ∈ s.parts.rows, part.done = false

/-- No item of the client has the next index. -/
theorem Tracks.fresh (h : Tracks s t) : t.items.get? s.nextOutputIndex = none := by
  rw [Table.get?_eq_none_iff, h.items, List.map_map]
  change s.nextOutputIndex ∉ s.parts.rows.map StreamPart.outputIndex
  rw [h.index, h.next]
  exact List.not_mem_range_self

theorem startPart_speaking : Emit.Sim Client.observe Speaking (startPart ref id name) Speaking := by
  rintro s t ⟨h, hOpen⟩
  unfold startPart
  cases hPart : s.parts.get? ref with
  | some => exact ⟨t, rfl, h, hOpen⟩
  | none =>
    let part : StreamPart := { ref, outputIndex := s.nextOutputIndex, id, name }
    obtain ⟨parts, hInsert, hParts⟩ := Table.exists_insert? (a := part) hPart
    obtain ⟨items, hItem, hItems⟩ := Table.exists_insert? (a := shown part) h.fresh
    have hLength : s.nextOutputIndex = t.items.rows.length := by
      rw [h.items, List.length_map, h.next]
    have hAdded : t.observe (.outputItemAdded s.nextOutputIndex (s.output .inProgress part)) =
        some { t with items := items } :=
      (if_pos ⟨h.running, hLength, rfl⟩).trans (congrArg (Option.map _) hItem)
    have hKept : s.parts.insertOrKeep part = parts := by
      rw [Table.insertOrKeep, hInsert, Option.getD_some]
    refine ⟨{ t with items := items }, ?_, ?_, ?_⟩
    · change (t.observe _).bind _ = _
      rw [hAdded]
      rfl
    · dsimp only
      rw [hKept]
      refine ⟨h.active, h.running, ?_, ?_, ?_, ?_⟩
      · rw [hParts, List.map_append, h.order, List.map_singleton]
      · rw [hParts, List.length_append, h.next, List.length_singleton]
      · rw [hParts, List.map_append, h.index, List.map_singleton, List.length_append,
          List.length_singleton, List.range_succ]
        exact congrArg (_ ++ [·]) h.next
      · rw [hParts, hItems, List.map_append, h.items, List.map_singleton]
    · change ∀ other ∈ (s.parts.insertOrKeep part).rows, _
      rw [hKept, hParts]
      intro other hOther
      rcases List.mem_append.mp hOther with hOther | hOther
      · exact hOpen other hOther
      · rw [List.mem_singleton.mp hOther]

theorem appendDelta_speaking :
    Emit.Sim Client.observe Speaking (appendDelta ref delta) Speaking := by
  rintro s t ⟨h, hOpen⟩
  unfold appendDelta
  cases hPart : s.parts.get? ref with
  | none => exact ⟨t, rfl, h, hOpen⟩
  | some part =>
    have hMem := Table.mem_of_get? hPart
    have hRef : part.ref = ref := Table.key_of_get? hPart
    have hDone : part.done = false := hOpen part hMem
    let part' := { part with content := part.content ++ delta }
    have hStep : t.observe (.delta ref.type part.outputIndex (s.itemId part) delta) =
        some { t with items := t.items.put (shown part') } := by
      refine Client.onItem_eq (shown part) h.running (h.item hMem) ?_
      simp [shown, hDone, hRef, part']
    have hGet : s.parts.get? part'.ref = some part := by rw [show part'.ref = ref from hRef, hPart]
    refine ⟨_, ?_, h.put hGet rfl, ?_⟩
    · rw [watch_cons, hStep]
      rfl
    · intro other hOther
      rcases Table.mem_put hOther with rfl | hOther
      · exact hDone
      · exact hOpen other hOther

theorem renameTool_speaking :
    Emit.Sim Client.observe Speaking (renameTool ref id name) Speaking := by
  refine .modify fun s t h => ?_
  obtain ⟨h, hOpen⟩ := h
  cases hPart : s.parts.get? ref with
  | none => exact ⟨h, hOpen⟩
  | some part =>
    have hRef : part.ref = ref := Table.key_of_get? hPart
    have hGet : s.parts.get? part.ref = some part := by rw [hRef, hPart]
    refine ⟨h.put_same hGet rfl, fun other hOther => ?_⟩
    rcases Table.mem_put hOther with rfl | hOther
    · exact hOpen part (Table.mem_of_get? hPart)
    · exact hOpen other hOther

theorem appendToolCallDelta_speaking (toolCall : ToolCallResponse) :
    Emit.Sim Client.observe Speaking (appendToolCallDelta toolCall) Speaking := by
  have hArguments (ref : OutputRef) : Emit.Sim Client.observe Speaking
      (if toolCall.arguments ≠ "" then appendDelta ref toolCall.arguments else .skip)
      Speaking := by
    split
    · exact appendDelta_speaking _ _
    · exact .skip
  exact fun s => (startPart_speaking _ _ _).andThen
    ((renameTool_speaking _ _ _).andThen (hArguments _)) s

theorem appendChoice_speaking :
    Emit.Sim Client.observe Speaking (appendChoice choice) Speaking := by
  have hPart (ref : OutputRef) (delta : String) : Emit.Sim Client.observe Speaking
      (if delta ≠ "" then (startPart ref "" "").andThen (appendDelta ref delta) else .skip)
      Speaking := by
    split
    · exact (startPart_speaking ref "" "").andThen (appendDelta_speaking ref delta)
    · exact .skip
  exact (hPart .reasoning _).andThen ((hPart .message _).andThen
    (.forEach (R := fun _ => Speaking) (fun toolCall _ => appendToolCallDelta_speaking toolCall) _))

/-! ### Ends -/

/-- Every item has ended, except those that are still to be closed. -/
def Ending (todo : List OutputRef) (s : StreamState) (t : Client) : Prop :=
  Tracks s t ∧ ∀ ref ∉ todo, ∀ part, s.parts.get? ref = some part → part.done = true

theorem closePart_ending (rest : List OutputRef) :
    Emit.Sim Client.observe (Ending (ref :: rest)) (closePart ref) (Ending rest) := by
  rintro s t ⟨h, hTodo⟩
  have hOther : ∀ other ∉ rest, other ≠ ref → ∀ part, s.parts.get? other = some part →
      part.done = true := fun other hOut hNe => hTodo other (by simp [hOut, hNe])
  unfold closePart
  cases hPart : s.parts.get? ref with
  | none =>
    refine ⟨t, rfl, h, fun other hOut found hFound => ?_⟩
    by_cases hEq : other = ref
    · rw [hEq, hPart] at hFound
      cases hFound
    · exact hOther other hOut hEq found hFound
  | some part =>
    have hMem := Table.mem_of_get? hPart
    have hRef : part.ref = ref := Table.key_of_get? hPart
    cases hDone : part.done with
    | true =>
      simp only [hDone, if_true]
      refine ⟨t, rfl, h, fun other hOut found hFound => ?_⟩
      by_cases hEq : other = ref
      · rw [hEq, hPart, Option.some.injEq] at hFound
        exact hFound ▸ hDone
      · exact hOther other hOut hEq found hFound
    | false =>
      simp only [hDone, Bool.false_eq_true, if_false]
      let closed : StreamPart := { part with done := true }
      let closing : Item := { shown part with stage := .closing }
      have hGet : s.parts.get? closed.ref = some part := by
        rw [show closed.ref = ref from hRef, hPart]
      have hContent : t.observe (.contentDone ref.type part.outputIndex (s.itemId part)
          (if ref = .reasoning then some part.content else none)) =
          some { t with items := t.items.put closing } := by
        refine Client.onItem_eq (shown part) h.running (h.item hMem) ?_
        refine if_pos ⟨congrArg OutputRef.type hRef, by simp [shown, hDone], ?_⟩
        split <;> rfl
      have hItem : (t.items.put closing).get? part.outputIndex = some closing :=
        Table.get?_put_self (a := closing) (h.item hMem)
      have hTwice : (t.items.put closing).put (shown closed) = t.items.put (shown closed) :=
        Table.put_put (show closing.index = (shown closed).index from rfl)
      have hEnd : Client.observe { t with items := t.items.put closing }
          (.outputItemDone part.outputIndex (s.output s.outputStatus part)) =
          some { t with items := t.items.put (shown closed) } :=
        hTwice ▸ Client.onItem_eq closing h.running hItem (if_pos ⟨rfl, rfl⟩)
      refine ⟨_, ?_, h.put hGet rfl, fun other hOut found hFound => ?_⟩
      · rw [watch_cons, hContent, Option.bind_some, watch_cons, hEnd]
        rfl
      · by_cases hEq : other = ref
        · rw [hEq, ← hRef, Table.get?_put_self hGet, Option.some.injEq] at hFound
          exact hFound ▸ rfl
        · have hNe : other ≠ closed.ref := fun hIs => hEq (hIs.trans hRef)
          rw [Table.get?_put_of_ne hNe] at hFound
          exact hOther other hOut hEq found hFound

def Ended (s : StreamState) (t : Client) : Prop :=
  Tracks s t ∧ ∀ part ∈ s.parts.rows, part.done = true

theorem mem_sortedTools {part : StreamPart} (h : part ∈ s.parts.rows) :
    part.ref ∈ .message :: .reasoning :: s.sortedTools := by
  cases hRef : part.ref with
  | message => simp
  | reasoning => simp
  | tool chatIndex =>
    have hIndex : chatIndex ∈ s.parts.rows.filterMap (·.ref.toolIndex?) :=
      List.mem_filterMap.mpr ⟨part, h, by rw [hRef]; rfl⟩
    refine List.mem_cons_of_mem _ (List.mem_cons_of_mem _ ?_)
    exact List.mem_map_of_mem (List.mem_mergeSort.mpr hIndex)

theorem doneDeltaEvents_ended : Emit.Sim Client.observe Tracks doneDeltaEvents Ended := by
  intro s t h
  have hStart : Ending (.message :: .reasoning :: s.sortedTools) s t := by
    refine ⟨h, fun ref hOut part hPart => absurd ?_ hOut⟩
    exact Table.key_of_get? hPart ▸ mem_sortedTools (Table.mem_of_get? hPart)
  obtain ⟨t', hWatch, hTracks, hDone⟩ := Emit.Sim.forEach closePart_ending _ s t hStart
  exact ⟨t', hWatch, hTracks, fun part hMem =>
    hDone part.ref List.not_mem_nil part (Table.get?_of_mem hMem)⟩

/-! ### Whole streams -/

def Finishes : Prop :=
  (choice.finishReason.filter (trimSpace · ≠ "")).isSome

def Speaks : Prop :=
  choice.delta.getReasoningContent ≠ "" ∨ choice.delta.getContentString ≠ "" ∨
    choice.delta.toolCalls ≠ []

/-- The choices of the chunks in order: none has a fragment after one with a finish
reason, also not within its chunk. -/
def FinishLast : Prop :=
  choices.Pairwise fun earlier later => Finishes earlier → ¬ Speaks later

theorem appendChoice_of_silent {choice : StreamChoice} (h : ¬ Speaks choice) :
    appendChoice choice = .skip := by
  simp only [Speaks, not_or, not_not] at h
  obtain ⟨hReasoning, hContent, hTools⟩ := h
  unfold appendChoice
  rw [if_neg (not_not.mpr hReasoning), if_neg (not_not.mpr hContent), hTools]
  rfl

/-- Either no item has ended, or all have and no fragment is to come. -/
def Progress (s : StreamState) (t : Client) : Prop :=
  FinishLast choices ∧ (Speaking s t ∨ Ended s t ∧ ∀ choice ∈ choices, ¬ Speaks choice)

theorem Progress.tracks {choices : List StreamChoice} (h : Progress choices s t) : Tracks s t := by
  rcases h.2 with h | h
  · exact h.1
  · exact h.1.1

/-- The status is not part of what the client has. -/
theorem finishChoice_ended {choice : StreamChoice} (h : Finishes choice) :
    Emit.Sim Client.observe Tracks (finishChoice choice) Ended := by
  unfold finishChoice
  obtain ⟨reason, hReason⟩ := Option.isSome_iff_exists.mp h
  rw [hReason]
  exact Emit.Sim.andThen (.modify fun s t h => h.congr rfl rfl rfl rfl) doneDeltaEvents_ended

theorem finishChoice_of_unfinished {choice : StreamChoice} (h : ¬ Finishes choice) :
    finishChoice choice = .skip := by
  unfold finishChoice
  rw [Option.not_isSome_iff_eq_none.mp h]

theorem choice_progress (rest : List StreamChoice) :
    Emit.Sim Client.observe (Progress (choice :: rest)) ((appendChoice choice).andThen
      (finishChoice choice)) (Progress rest) := by
  rintro s t ⟨hLast, hState⟩
  obtain ⟨hFirst, hRest⟩ := List.pairwise_cons.mp hLast
  -- the fragments of the choice come while its items are open, or there are none
  obtain ⟨t₁, hAppend, hAppended⟩ : ∃ t₁,
      watch Client.observe t (appendChoice choice s).2 = some t₁ ∧
      (Speaking (appendChoice choice s).1 t₁ ∨
        Ended (appendChoice choice s).1 t₁ ∧ ∀ later ∈ rest, ¬ Speaks later) := by
    rcases hState with hSpeaking | ⟨hEnded, hSilent⟩
    · obtain ⟨t₁, hWatch, hSpeaking⟩ := appendChoice_speaking choice s t hSpeaking
      exact ⟨t₁, hWatch, .inl hSpeaking⟩
    · rw [appendChoice_of_silent (hSilent choice List.mem_cons_self)]
      exact ⟨t, rfl, .inr ⟨hEnded, fun later hLater =>
        hSilent later (List.mem_cons_of_mem _ hLater)⟩⟩
  rw [Emit.andThen_snd, Emit.andThen_fst, watch_append, hAppend, Option.bind_some]
  by_cases hFinishes : Finishes choice
  · have hTracks : Tracks (appendChoice choice s).1 t₁ := Progress.tracks ⟨hRest, hAppended⟩
    obtain ⟨t₂, hWatch, hEnded⟩ := finishChoice_ended hFinishes _ t₁ hTracks
    exact ⟨t₂, hWatch, hRest, .inr ⟨hEnded, fun later hLater => hFirst later hLater hFinishes⟩⟩
  · rw [finishChoice_of_unfinished hFinishes]
    exact ⟨t₁, rfl, hRest, hAppended⟩

structure Fresh (s : StreamState) (t : Client) : Prop where
  state : s = { id := s.id }
  client : t = {}

theorem announce_progress :
    Emit.Sim Client.observe (fun s t => Fresh s t ∧ FinishLast choices ∨ Progress choices s t)
      announce (Progress choices) := by
  rintro s t (⟨⟨hState, rfl⟩, hLast⟩ | h)
  · rw [hState]
    refine ⟨{ started := true }, rfl, hLast,
      .inl ⟨⟨⟨rfl, rfl⟩, ⟨rfl, rfl⟩, rfl, rfl, rfl, rfl⟩, ?_⟩⟩
    exact fun part hPart => absurd hPart List.not_mem_nil
  · unfold announce
    rw [if_pos h.tracks.active.1]
    exact ⟨t, rfl, h⟩

theorem chunk_progress (chunk : ChatChunk) (rest : List StreamChoice) :
    Emit.Sim Client.observe (fun s t => Fresh s t ∧ FinishLast (chunk.choices ++ rest) ∨
        Progress (chunk.choices ++ rest) s t)
      (chatCompletionsStreamChunkToResponsesEvents chunk) (Progress rest) := by
  refine Emit.Sim.andThen (.modify fun s t h => ?_)
    ((announce_progress (chunk.choices ++ rest)).andThen ?_)
  · split
    · rcases h with ⟨⟨hState, hClient⟩, hLast⟩ | ⟨hLast, ⟨h, hOpen⟩ | ⟨⟨h, hDone⟩, hSilent⟩⟩
      · exact .inl ⟨⟨by rw [hState], hClient⟩, hLast⟩
      · exact .inr ⟨hLast, .inl ⟨h.congr rfl rfl rfl rfl, hOpen⟩⟩
      · exact .inr ⟨hLast, .inr ⟨⟨h.congr rfl rfl rfl rfl, hDone⟩, hSilent⟩⟩
    · exact h
  · exact .forEach (R := fun choices => Progress (choices ++ rest))
      (fun choice choices => choice_progress choice (choices ++ rest)) chunk.choices

/-- The output of the final response, item by item. -/
theorem Tracks.output (h : Tracks s t) :
    s.finalResponse.output.map (fun o => (o.type, o.content)) =
      t.items.rows.map fun item => (item.type, item.content) := by
  have hFound : ∀ part ∈ s.parts.rows,
      (s.parts.get? part.ref).map (s.output s.outputStatus) = some (s.output s.outputStatus part) :=
    fun part hPart => by rw [Table.get?_of_mem hPart, Option.map_some]
  have hOutput : s.finalResponse.output = s.parts.rows.map (s.output s.outputStatus) := by
    unfold StreamState.finalResponse
    rw [h.order, List.filterMap_map, ← List.filterMap_eq_map]
    exact List.filterMap_congr hFound
  rw [hOutput, h.items, List.map_map, List.map_map]
  rfl

theorem finalize_finished (s : StreamState) (t : Client) (h : Tracks s t) :
    ∃ t', watch Client.observe t (finalizeChatCompletionsStreamToResponses s).2 = some t' ∧
      t'.finished = true := by
  obtain ⟨t₁, hWatch, hTracks, hDone⟩ := doneDeltaEvents_ended s t h
  have hItems : ∀ item ∈ t₁.items.rows, item.stage = .done := by
    rw [hTracks.items]
    intro item hItem
    obtain ⟨part, hPart, rfl⟩ := List.mem_map.mp hItem
    exact if_pos (hDone part hPart)
  have hFinal := And.intro hTracks.running (And.intro hItems hTracks.output)
  refine ⟨{ t₁ with finished := true }, ?_, rfl⟩
  unfold finalizeChatCompletionsStreamToResponses
  rw [h.active.2, if_neg Bool.false_ne_true, Emit.andThen_snd, watch_append, hWatch,
    Option.bind_some]
  dsimp only
  split
  · exact congrArg (Option.bind · _) (if_pos hFinal)
  · exact congrArg (Option.bind · _) (if_pos hFinal)

theorem responses_stream_well_formed (chunks : List ChatChunk) (hSome : chunks ≠ [])
    (hLast : FinishLast (chunks.flatMap ChatChunk.choices)) :
    ∃ t, watch Client.observe {} (responsesStream id chunks) = some t ∧ t.finished = true := by
  cases chunks with
  | nil => exact absurd rfl hSome
  | cons first rest =>
    have hChunks := (chunk_progress first (rest.flatMap ChatChunk.choices)).andThen
      (.forEach (R := fun chunks => Progress (chunks.flatMap ChatChunk.choices))
        (fun chunk chunks s t h => chunk_progress chunk _ s t (.inr h)) rest)
    obtain ⟨t₁, hWatch, hProgress⟩ := hChunks { id := id } {} (.inl ⟨⟨rfl, rfl⟩, hLast⟩)
    obtain ⟨t₂, hFinal, hFinished⟩ := finalize_finished _ t₁ hProgress.tracks
    refine ⟨t₂, ?_, hFinished⟩
    unfold responsesStream
    rw [Emit.andThen_snd, watch_append]
    exact (congrArg (Option.bind · _) hWatch).trans hFinal

def sampleChunks : List ChatChunk :=
  [{ id := "r", choices := [{ delta := { reasoning := some "why" } }] },
    { choices := [{ delta :=
      { content := some "He", toolCalls := [{ index := some 1, id := "b", name := "g" }] } }] },
    { choices := [{ delta := { toolCalls := [{ index := some 0, id := "a", name := "f" }] } }] },
    { choices := [{ finishReason := some "stop" }] }]

theorem responses_stream_well_formed_sample :
    ∃ t, watch Client.observe {} (responsesStream "" sampleChunks) = some t ∧ t.finished = true :=
  responses_stream_well_formed "" sampleChunks (by decide)
    (by unfold FinishLast Finishes Speaks; decide +kernel)

/-- Without a chunk the stream is never opened. In a chunk with two choices the second
one goes on with the message after the first one has ended it. -/
theorem responses_stream_malformed :
    (watch Client.observe {} (responsesStream "r" [])).isNone ∧
      responsesStream "r" [] = [.completed { id := "r", status := .completed }] ∧
      (watch Client.observe {} (responsesStream "r" [{ choices := [
        { delta := { content := some "a" }, finishReason := some "stop" },
        { delta := { content := some "b" }, finishReason := some "stop" }] }])).isNone := by
  decide +kernel

end XyApi.Relay.Responses

import XyApi.Relay.ClaudeStream

/-!
The discipline of a Claude event stream, as an observer that a client could run.
A message starts once; a block opens at an index that was never used; a delta has
the type of its block, which is open; a message ends when no block is open.
-/

namespace XyApi.Relay

open Lib

inductive BlockKind
  | text
  | thinking
  | toolUse
  deriving DecidableEq, Repr

def ContentBlock.kind : ContentBlock → BlockKind
  | .text => .text
  | .thinking => .thinking
  | .toolUse .. => .toolUse

def BlockDelta.kind : BlockDelta → BlockKind
  | .textDelta _ => .text
  | .thinkingDelta _ => .thinking
  | .inputJsonDelta _ => .toolUse

inductive Phase
  | idle
  | streaming
  | delivered
  | stopped
  deriving DecidableEq, Repr

/-- What a client remembers of the stream: how far it is, the indexes used so far
and the blocks that are open. -/
structure Session where
  phase : Phase := .idle
  used : List Int := []
  opened : List (Int × BlockKind) := []
  deriving DecidableEq, Repr

namespace Session

def kindAt (t : Session) (index : Int) : Option BlockKind := t.opened.lookup index

def observe (t : Session) : ClaudeEvent → Option Session
  | .messageStart .. => if t.phase = .idle then some { t with phase := .streaming } else none
  | .contentBlockStart index block =>
    if t.phase = .streaming ∧ index ∉ t.used then
      some { t with used := index :: t.used, opened := (index, block.kind) :: t.opened }
    else none
  | .contentBlockDelta index delta =>
    if t.phase = .streaming ∧ t.kindAt index = some delta.kind then some t else none
  | .contentBlockStop index =>
    if t.phase = .streaming ∧ (t.kindAt index).isSome then
      some { t with opened := t.opened.filter fun block => block.1 ≠ index }
    else none
  | .messageDelta .. =>
    if t.phase = .streaming ∧ t.opened = [] then some { t with phase := .delivered } else none
  | .messageStop =>
    if (t.phase = .streaming ∨ t.phase = .delivered) ∧ t.opened = [] then
      some { t with phase := .stopped }
    else none

variable {t : Session}

theorem lookup_cons_eq (i key : Int) (kind : BlockKind) (rest : List (Int × BlockKind)) :
    ((key, kind) :: rest).lookup i = if i = key then some kind else rest.lookup i := by
  by_cases h : i = key
  · simp [h]
  · rw [List.lookup_cons, beq_false_of_ne h, if_neg h]

theorem lookup_filter_ne (blocks : List (Int × BlockKind)) (index i : Int) :
    (blocks.filter fun block => block.1 ≠ index).lookup i =
      if i = index then none else blocks.lookup i := by
  induction blocks with
  | nil => simp
  | cons block rest ih =>
    obtain ⟨key, kind⟩ := block
    by_cases hKey : key = index
    · subst hKey
      rw [List.filter_cons_of_neg (by simp), ih, lookup_cons_eq]
      split <;> rfl
    · rw [List.filter_cons_of_pos (by simp [hKey]), lookup_cons_eq, lookup_cons_eq, ih]
      by_cases hi : i = key
      · simp [hi, hKey]
      · simp [hi]

theorem opened_eq_nil_iff : t.opened = [] ↔ ∀ i, t.kindAt i = none := by
  constructor
  · intro h i
    rw [kindAt, h, List.lookup_nil]
  · intro h
    cases hOpened : t.opened with
    | nil => rfl
    | cons block =>
      have hHead := h block.1
      rw [kindAt, hOpened, lookup_cons_eq, if_pos rfl] at hHead
      cases hHead

/-- Stopping open blocks, each once. -/
theorem watch_stops {indexes : List Int} (hNodup : indexes.Nodup) (hPhase : t.phase = .streaming)
    (hOpen : ∀ i ∈ indexes, (t.kindAt i).isSome) :
    ∃ t', watch observe t (indexes.map .contentBlockStop) = some t' ∧ t'.phase = .streaming ∧
      t'.used = t.used ∧ ∀ i, t'.kindAt i = if i ∈ indexes then none else t.kindAt i := by
  induction indexes generalizing t with
  | nil => exact ⟨t, rfl, hPhase, rfl, by simp⟩
  | cons index rest ih =>
    obtain ⟨hFresh, hRest⟩ := List.nodup_cons.mp hNodup
    let t₁ : Session := { t with opened := t.opened.filter fun block => block.1 ≠ index }
    have hFirst : t.observe (.contentBlockStop index) = some t₁ := by
      rw [observe, if_pos ⟨hPhase, hOpen index (by simp)⟩]
    have hKind (i : Int) : t₁.kindAt i = if i = index then none else t.kindAt i :=
      lookup_filter_ne ..
    obtain ⟨t', hWatch, hPhase', hUsed, hKind'⟩ := ih (t := t₁) hRest hPhase fun i hi => by
      have hNe : i ≠ index := fun h => hFresh (h ▸ hi)
      rw [hKind, if_neg hNe]
      exact hOpen i (by simp [hi])
    refine ⟨t', ?_, hPhase', hUsed, fun i => ?_⟩
    · rw [List.map_cons, watch_cons, hFirst]
      exact hWatch
    · rw [hKind', hKind]
      by_cases hi : i = index <;> by_cases hMem : i ∈ rest <;> simp [hi, hMem]

end Session

end XyApi.Relay

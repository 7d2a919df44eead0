import Mathlib.Data.List.Basic

/-!
The first occurrence of one list in another: the part before it, and the list with it
replaced. Both are determined once no occurrence starts earlier.
-/

namespace XyApi.Lib

variable {α : Type} [DecidableEq α]

def beforeFirst (part : List α) : List α → List α
  | [] => []
  | a :: rest => if part <+: a :: rest then [] else a :: beforeFirst part rest

def replaceOnce (part new : List α) : List α → List α
  | [] => []
  | a :: rest =>
    if part <+: a :: rest then new ++ (a :: rest).drop part.length
    else a :: replaceOnce part new rest

/-- No occurrence starts inside `front` when `rest` follows it. -/
def FirstAfter (part front rest : List α) : Prop :=
  ∀ start, start <:+ front → start ≠ [] → ¬ part <+: start ++ rest

omit [DecidableEq α] in
theorem FirstAfter.tail (h : FirstAfter part (a :: front) rest) : FirstAfter part front rest :=
  fun start hStart => h start (hStart.trans (List.suffix_cons a front))

theorem beforeFirst_eq {part front rest : List α} (hPart : part ≠ [])
    (h : FirstAfter part front (part ++ rest)) :
    beforeFirst part (front ++ (part ++ rest)) = front := by
  induction front with
  | nil =>
    obtain ⟨a, tail, rfl⟩ := List.exists_cons_of_ne_nil hPart
    have hHere : a :: tail <+: a :: (tail ++ rest) := List.prefix_append (a :: tail) rest
    simp only [List.nil_append, List.cons_append, beforeFirst, if_pos hHere]
  | cons a front ih =>
    have hNot := h (a :: front) List.suffix_rfl (by simp)
    rw [List.cons_append] at hNot ⊢
    rw [beforeFirst, if_neg hNot, ih h.tail]

theorem replaceOnce_eq {part new front rest : List α} (hPart : part ≠ [])
    (h : FirstAfter part front (part ++ rest)) :
    replaceOnce part new (front ++ (part ++ rest)) = front ++ (new ++ rest) := by
  induction front with
  | nil =>
    obtain ⟨a, tail, rfl⟩ := List.exists_cons_of_ne_nil hPart
    simp [replaceOnce]
  | cons a front ih =>
    have hNot := h (a :: front) List.suffix_rfl (by simp)
    rw [List.cons_append] at hNot ⊢
    rw [replaceOnce, if_neg hNot, ih h.tail, List.cons_append]

omit [DecidableEq α] in
/-- A list without the separator that starts in `front` ends before the separator. -/
theorem prefix_of_not_mem (hSep : sep ∉ part) (h : part <+: front ++ sep :: rest) : part <+: front := by
  obtain hShort | ⟨tail, rfl⟩ :=
    List.prefix_or_prefix_of_prefix h (List.prefix_append front (sep :: rest))
  · exact hShort
  · have hTail := (List.prefix_append_right_inj front).mp h
    cases tail with
    | nil => simp
    | cons =>
      obtain ⟨rfl, -⟩ := List.cons_prefix_cons.mp hTail
      simp at hSep

omit [DecidableEq α] in
/-- What does not occur in `front` occurs first after it and a separator. -/
theorem firstAfter_of_not_infix (hSep : sep ∉ part) (h : ¬ part <:+: front) :
    FirstAfter part (front ++ [sep]) rest := by
  intro start hStart hNe hPrefix
  obtain ⟨before, hBefore⟩ := hStart
  obtain ⟨inner, rfl⟩ : ∃ inner, start = inner ++ [sep] := by
    have hLast : start.getLast hNe = sep := by
      have hAll := congrArg List.getLast? hBefore
      rw [List.getLast?_append_of_ne_nil _ hNe, List.getLast?_eq_some_getLast hNe] at hAll
      simpa using hAll
    exact ⟨start.dropLast, by rw [← hLast, List.dropLast_append_getLast]⟩
  have hFront : before ++ inner = front := by
    rw [← List.append_assoc] at hBefore
    exact List.append_inj_left' hBefore rfl
  rw [List.append_assoc] at hPrefix
  exact h (List.infix_iff_prefix_suffix.mpr
    ⟨inner, prefix_of_not_mem hSep hPrefix, before, hFront⟩)

omit [DecidableEq α] in
/-- With the separator at its head, the list occurs first where the separator is. -/
theorem firstAfter_sep_of_not_infix (hSep : sep ∉ part) (h : ¬ part <:+: front) :
    FirstAfter (sep :: part) front (sep :: rest) := by
  intro start hStart hNe hPrefix
  obtain ⟨a, inner, rfl⟩ := List.exists_cons_of_ne_nil hNe
  have hInner := prefix_of_not_mem hSep (List.cons_prefix_cons.mp hPrefix).2
  exact h (List.infix_iff_prefix_suffix.mpr
    ⟨inner, hInner, (List.suffix_cons a inner).trans hStart⟩)

end XyApi.Lib

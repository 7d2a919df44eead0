import XyApi.Override.Operations
import Mathlib.Data.List.TakeWhile

/-!
What a negative index is for: the segment `-k`, applied to an array, names the element `k`
from the end of that array. The source works on the text of the whole path. It agrees with
the segments read one after another when the path has one such segment and its text does
not occur earlier in the path; two of them are both looked up before the first.
-/

namespace XyApi.Override

open Lib (beforeFirst replaceOnce)

section

variable {segment : List Char} {back : Nat}

abbrev joinDots (segments : List (List Char)) : List Char := ['.'].intercalate segments

/-- How far from the end a segment counts, if it is a negative index. -/
def negative? : List Char → Option Nat
  | '-' :: digits =>
    if digits ≠ [] ∧ digits.all Char.isDigit then some (Nat.ofDigitChars 10 digits 0) else none
  | _ => none

def nodeAt (lib : JsonLib) (doc : Json) (before : List (List Char)) : Option Json :=
  if before = [] then some doc else lib.get doc (String.ofList (joinDots before))

def plainSegment (node : Option Json) (segment : List Char) : List Char :=
  match negative? segment, node with
  | some back, some (.arr items) =>
    if back ≤ items.length ∧ 0 < back then (toString (items.length - back)).toList else segment
  | _, _ => segment

/-- The segments made plain from left to right, each under those before it. -/
def plainSegments (lib : JsonLib) (doc : Json) (before : List (List Char)) :
    List (List Char) → List (List Char)
  | [] => before
  | segment :: rest =>
    plainSegments lib doc (before ++ [plainSegment (nodeAt lib doc before) segment]) rest

theorem plainSegments_cons :
    plainSegments lib doc before (segment :: rest) =
      plainSegments lib doc (before ++ [plainSegment (nodeAt lib doc before) segment]) rest := rfl

def plainPath (lib : JsonLib) (doc : Json) (path : String) : String :=
  String.ofList (joinDots (plainSegments lib doc [] (path.toList.splitOn '.')))

def NegativesInRange (lib : JsonLib) (doc : Json) (before : List (List Char)) :
    List (List Char) → Prop
  | [] => True
  | segment :: rest =>
    (∀ back, negative? segment = some back → 0 < back ∧
      ∃ items, nodeAt lib doc before = some (.arr items) ∧ back ≤ items.length) ∧
    NegativesInRange lib doc (before ++ [plainSegment (nodeAt lib doc before) segment]) rest

def leadingNegative : List Char → Option (List Char)
  | '-' :: rest =>
    match rest.takeWhile Char.isDigit with
    | [] => none
    | digits => some ('-' :: digits)
  | _ => none

theorem leadingNegative_minus :
    leadingNegative ('-' :: rest) =
      match rest.takeWhile Char.isDigit with
      | [] => none
      | digits => some ('-' :: digits) := rfl

/-- At most one segment starts with a negative index. It is one as a whole, it is not the
first, and its text does not occur in the path before it. -/
def OneNegative (segments : List (List Char)) : Prop :=
  ∀ front segment back, segments = front ++ segment :: back → leadingNegative segment ≠ none →
    front ≠ [] ∧ negative? segment ≠ none ∧
      (∀ other ∈ front ++ back, leadingNegative other = none) ∧
      ¬ segment <:+: joinDots front

/-! ### The matches are the segments -/

theorem splitOn_dot_cons :
    (c :: rest).splitOn '.' =
      if c = '.' then [] :: rest.splitOn '.' else (rest.splitOn '.').modifyHead (c :: ·) := by
  simp [List.splitOn, List.splitOnP_cons_eq_if_modifyHead]

theorem exists_splitOn_dot (text : List Char) :
    ∃ head tail, text.splitOn '.' = head :: tail ∧
      head.takeWhile Char.isDigit = text.takeWhile Char.isDigit := by
  induction text with
  | nil => exact ⟨[], [], by simp, rfl⟩
  | cons c rest ih =>
    obtain ⟨head, tail, hSplit, hDigits⟩ := ih
    rw [splitOn_dot_cons, hSplit]
    by_cases hc : c = '.'
    · subst hc
      exact ⟨[], head :: tail, by simp, by simp⟩
    · exact ⟨c :: head, tail, by simp [hc], by simp [List.takeWhile_cons, hDigits]⟩

theorem leadingNegative_head (h : text.splitOn '.' = head :: tail) :
    leadingNegative head = leadingNegative text := by
  cases text with
  | nil =>
    rw [List.splitOn_nil] at h
    cases h
    rfl
  | cons c rest =>
    obtain ⟨first, others, hSplit, hDigits⟩ := exists_splitOn_dot rest
    rw [splitOn_dot_cons, hSplit] at h
    by_cases hc : c = '.'
    · subst hc
      rw [if_pos rfl] at h
      cases h
      rfl
    · rw [if_neg hc, List.modifyHead_cons] at h
      cases h
      by_cases hMinus : c = '-'
      · subst hMinus
        rw [leadingNegative_minus, leadingNegative_minus, hDigits]
      · simp [leadingNegative, hMinus]

theorem negativeIndexes_dot :
    negativeIndexes ('.' :: rest) = (leadingNegative rest).toList ++ negativeIndexes rest := by
  cases rest with
  | nil => rfl
  | cons c rest =>
    by_cases hc : c = '-'
    · subst hc
      have hSkip := negativeIndexes_cons_of_ne (show '-' ≠ '.' by decide) rest
      cases hDigits : rest.takeWhile Char.isDigit with
      | nil => simp only [negativeIndexes, leadingNegative, hDigits, Option.toList_none,
          List.nil_append]
      | cons => simp only [negativeIndexes, leadingNegative, hDigits, hSkip,
          Option.toList_some, List.singleton_append]
    · rw [negativeIndexes]
      · simp [leadingNegative, hc]
      · intro _ _ h
        exact hc (List.cons.inj h).1

theorem negativeIndexes_eq :
    negativeIndexes text = (text.splitOn '.').tail.filterMap leadingNegative := by
  induction text with
  | nil => simp [negativeIndexes]
  | cons c rest ih =>
    obtain ⟨head, tail, hSplit, -⟩ := exists_splitOn_dot rest
    rw [hSplit] at ih
    rw [splitOn_dot_cons, hSplit]
    by_cases hc : c = '.'
    · subst hc
      rw [negativeIndexes_dot, ih, if_pos rfl, ← leadingNegative_head hSplit]
      cases h : leadingNegative head <;> simp [h]
    · rw [negativeIndexes_cons_of_ne hc, ih, if_neg hc]
      rfl

/-! ### One negative index -/

theorem negative?_some (h : negative? segment = some back) :
    ∃ digits, segment = '-' :: digits ∧ digits ≠ [] ∧ digits.all Char.isDigit ∧
      back = Nat.ofDigitChars 10 digits 0 := by
  unfold negative? at h
  split at h
  · rename_i digits
    split at h
    · rename_i hDigits
      exact ⟨digits, rfl, hDigits.1, hDigits.2, (Option.some.inj h).symm⟩
    · cases h
  · cases h

theorem leadingNegative_of_negative? (h : negative? segment = some back) :
    leadingNegative segment = some segment := by
  obtain ⟨digits, rfl, hNe, hAll, -⟩ := negative?_some h
  have hTake : digits.takeWhile Char.isDigit = digits :=
    List.takeWhile_eq_self_iff.mpr fun c hc => List.all_eq_true.mp hAll c hc
  rw [leadingNegative_minus, hTake]
  cases digits with
  | nil => exact absurd rfl hNe
  | cons => rfl

theorem dot_not_mem_of_negative? (h : negative? segment = some back) : '.' ∉ segment := by
  obtain ⟨digits, rfl, -, hAll, -⟩ := negative?_some h
  intro hMem
  obtain hMinus | hDigit := List.mem_cons.mp hMem
  · exact absurd hMinus (by decide)
  · exact absurd (List.all_eq_true.mp hAll _ hDigit) (by decide)

theorem plainSegment_of_leadingNegative_none (node : Option Json)
    (h : leadingNegative segment = none) : plainSegment node segment = segment := by
  cases hNegative : negative? segment with
  | none => simp [plainSegment, hNegative]
  | some => simp [leadingNegative_of_negative? hNegative] at h

theorem plainSegments_append (lib : JsonLib) (doc : Json) (front rest : List (List Char))
    (before : List (List Char)) (h : ∀ segment ∈ front, leadingNegative segment = none) :
    plainSegments lib doc before (front ++ rest) =
      plainSegments lib doc (before ++ front) rest := by
  induction front generalizing before with
  | nil => simp
  | cons segment front ih =>
    have hHead := plainSegment_of_leadingNegative_none (nodeAt lib doc before)
      (h segment List.mem_cons_self)
    rw [List.cons_append, plainSegments_cons, hHead,
      ih _ fun other hOther => h other (List.mem_cons_of_mem _ hOther),
      List.append_assoc, List.singleton_append]

theorem plainSegments_of_none (lib : JsonLib) (doc : Json) (segments before : List (List Char))
    (h : ∀ segment ∈ segments, leadingNegative segment = none) :
    plainSegments lib doc before segments = before ++ segments := by
  have hAppend := plainSegments_append lib doc segments [] before h
  rwa [List.append_nil] at hAppend

theorem joinDots_cons (segment : List Char) (rest : List (List Char)) :
    joinDots (segment :: rest) = segment ++ rest.flatMap ('.' :: ·) := by
  induction rest generalizing segment with
  | nil => simp
  | cons next rest ih =>
    rw [joinDots, List.intercalate_cons_cons, ← joinDots, ih next]
    simp

theorem joinDots_append (hFront : front ≠ []) (segment : List Char) (back : List (List Char)) :
    joinDots (front ++ segment :: back) =
      joinDots front ++ '.' :: (segment ++ back.flatMap ('.' :: ·)) := by
  obtain ⟨first, others, rfl⟩ := List.exists_cons_of_ne_nil hFront
  rw [List.cons_append, joinDots_cons, joinDots_cons]
  simp

theorem stripDot_append_dot : stripDot (text ++ ['.']) = text := by
  simp [stripDot]

/-- The text before the segment leads to its own array, and the segment itself is what
the replacement finds. -/
theorem resolveNegative_eq (lib : JsonLib) (doc : Json) {front back : List (List Char)}
    {count : Nat} (hFront : front ≠ []) (hNegative : negative? segment = some count)
    (hInfix : ¬ segment <:+: joinDots front) :
    resolveNegative lib doc (joinDots (front ++ segment :: back))
        (joinDots (front ++ segment :: back)) segment =
      joinDots (front ++ plainSegment (nodeAt lib doc front) segment :: back) := by
  have hDot := dot_not_mem_of_negative? hNegative
  obtain ⟨digits, hSegment, -, -, hCount⟩ := negative?_some hNegative
  have hNe : segment ≠ [] := by simp [hSegment]
  have hBefore : beforeFirst segment (joinDots (front ++ segment :: back)) =
      joinDots front ++ ['.'] := by
    rw [joinDots_append hFront, List.append_cons]
    exact Lib.beforeFirst_eq hNe (Lib.firstAfter_of_not_infix hDot hInfix)
  have hReplace (new : List Char) :
      replaceOnce ('.' :: segment) ('.' :: new) (joinDots (front ++ segment :: back)) =
        joinDots (front ++ new :: back) := by
    rw [joinDots_append hFront, joinDots_append hFront, ← List.cons_append, ← List.cons_append]
    exact Lib.replaceOnce_eq (by simp) (Lib.firstAfter_sep_of_not_infix hDot hInfix)
  have hDrop : Nat.ofDigitChars 10 (segment.drop 1) 0 = count := by simp [hSegment, hCount]
  simp only [resolveNegative, hBefore, stripDot_append_dot, hDrop]
  simp only [plainSegment, hNegative, nodeAt, if_neg hFront]
  generalize lib.get doc (String.ofList (joinDots front)) = node
  cases node with
  | none => rfl
  | some node =>
    cases node with
    | arr =>
      dsimp only
      split
      · exact hReplace _
      · rfl
    | null | bool _ | num _ | str _ | obj _ => rfl

theorem oneNegative_append (front back : List (List Char)) (segment : List Char)
    (hFront : front ≠ []) (hWhole : negative? segment ≠ none)
    (hOthers : ∀ other ∈ front ++ back, leadingNegative other = none)
    (hInfix : ¬ segment <:+: joinDots front) : OneNegative (front ++ segment :: back) := by
  intro front' segment' back' hSplit hLeading
  have hAbsent : segment' ∉ front ++ back := fun hMem => hLeading (hOthers segment' hMem)
  obtain ⟨middle, rfl, hTail⟩ | ⟨middle, rfl, hTail⟩ := List.append_eq_append_iff.mp hSplit
  · cases middle with
    | nil =>
      cases hTail
      rw [List.append_nil]
      exact ⟨hFront, hWhole, hOthers, hInfix⟩
    | cons =>
      cases hTail
      simp at hAbsent
  · cases middle with
    | nil =>
      cases hTail
      rw [List.append_nil] at hFront hOthers hInfix
      exact ⟨hFront, hWhole, hOthers, hInfix⟩
    | cons =>
      cases hTail
      simp at hAbsent

/-! ### Two negative indexes -/

def sampleJsonLib : JsonLib where
  specialGet _ _ := none
  specialSet doc _ _ := .ok doc
  specialDelete doc _ := .ok doc
  formatValue _ := ""
  recode value := value
  regexReplace _ _ text := .ok text

def nestedArrays : Json :=
  .obj [("a", .arr [.obj [("b", .arr [.num "1", .num "2"])]])]

end

/-! ### Plain keys -/

/-- A key without special characters that is not blank and does not start with a colon. -/
def PlainKey (key : String) : Prop :=
  key.toList.all isSafePathKeyChar = true ∧ key.toList.head?.any (· ≠ ':') = true ∧
    key.toList.any (fun c => !isSpace c) = true
  deriving Decidable

theorem PlainKey.safe (h : PlainKey key) (hc : c ∈ key.toList) :
    isSafePathKeyChar c = true := List.all_eq_true.mp h.1 c hc

theorem PlainKey.visible (h : PlainKey key) :
    ∃ c ∈ key.toList, isSpace c = false := by
  obtain ⟨c, hc, hSpace⟩ := List.any_eq_true.mp h.2.2
  exact ⟨c, hc, by simpa using hSpace⟩

theorem PlainKey.ne_empty (h : PlainKey key) : key ≠ "" := by
  rintro rfl
  obtain ⟨c, hc, -⟩ := h.visible
  simp at hc

theorem consHead_eq_modifyHead (h : segments ≠ []) :
    consHead c segments = segments.modifyHead (c :: ·) := by
  obtain ⟨first, rest, rfl⟩ := List.exists_cons_of_ne_nil h
  rfl

theorem splitOn_dot_ne_nil (text : List Char) : text.splitOn '.' ≠ [] := by
  obtain ⟨head, tail, hSplit, -⟩ := exists_splitOn_dot text
  simp [hSplit]

theorem splitPath_eq_splitOn (h : ∀ c ∈ text, isSafePathKeyChar c ∨ c = '.') :
    splitPath text = some (text.splitOn '.') := by
  induction text with
  | nil => simp [splitPath]
  | cons c rest ih =>
    have hRest := ih fun d hd => h d (List.mem_cons_of_mem _ hd)
    by_cases hDot : c = '.'
    · subst hDot
      simp [splitPath, hRest, splitOn_dot_cons]
    · have hSafe := (h c List.mem_cons_self).resolve_right hDot
      have hSlash : c ≠ '\\' := by
        rintro rfl
        exact absurd hSafe (by decide)
      rw [splitPath, if_pos hSafe, hRest, splitOn_dot_cons, if_neg hDot, Option.map_some,
        consHead_eq_modifyHead (splitOn_dot_ne_nil rest)]
      · intro _ _ hc
        exact absurd hc hSlash
      · exact hDot

theorem dot_not_mem_of_plainKey (h : PlainKey key) : '.' ∉ key.toList :=
  fun hDot => absurd (h.safe hDot) (by decide)

theorem toList_joinPath :
    (joinPath keys).toList = joinDots (keys.map String.toList) := String.toList_intercalate

theorem mem_joinDots (h : c ∈ joinDots segments) :
    c = '.' ∨ ∃ segment ∈ segments, c ∈ segment := by
  cases segments with
  | nil => simp at h
  | cons first =>
    rw [joinDots_cons, List.mem_append, List.mem_flatMap] at h
    obtain hFirst | ⟨segment, hSegment, hc⟩ := h
    · exact .inr ⟨first, List.mem_cons_self, hFirst⟩
    · obtain rfl | hc := List.mem_cons.mp hc
      · exact .inl rfl
      · exact .inr ⟨segment, List.mem_cons_of_mem _ hSegment, hc⟩

theorem parsePath_joinPath (hNe : keys ≠ []) (h : ∀ key ∈ keys, PlainKey key) :
    parsePath (joinPath keys) = some keys := by
  have hSafe : ∀ c ∈ (joinPath keys).toList, isSafePathKeyChar c ∨ c = '.' := by
    intro c hc
    rw [toList_joinPath] at hc
    obtain hDot | ⟨segment, hSegment, hc⟩ := mem_joinDots hc
    · exact .inr hDot
    · obtain ⟨key, hKey, rfl⟩ := List.mem_map.mp hSegment
      exact .inl ((h key hKey).safe hc)
  have hSplit : (joinPath keys).toList.splitOn '.' = keys.map String.toList := by
    rw [toList_joinPath]
    refine List.splitOn_intercalate '.' ?_ (by simpa using hNe)
    intro segment hSegment
    obtain ⟨key, hKey, rfl⟩ := List.mem_map.mp hSegment
    exact dot_not_mem_of_plainKey (h key hKey)
  have hHeads : (keys.map String.toList).all (fun segment => segment.head?.any (· ≠ ':')) = true := by
    rw [List.all_map, List.all_eq_true]
    exact fun key hKey => (h key hKey).2.1
  rw [parsePath, splitPath_eq_splitOn hSafe, hSplit, Option.filter_some, if_pos hHeads]
  simp

theorem trimSpace_joinPath_ne_empty (hNe : keys ≠ []) (h : ∀ key ∈ keys, PlainKey key) :
    XyApi.trimSpace (joinPath keys) ≠ "" := by
  obtain ⟨first, rest, rfl⟩ := List.exists_cons_of_ne_nil hNe
  obtain ⟨c, hc, hSpace⟩ := (h first List.mem_cons_self).visible
  refine trimSpace_ne_empty (c := c) ?_ hSpace
  rw [toList_joinPath, List.map_cons, joinDots_cons]
  exact List.mem_append_left _ hc

theorem isSafePathKeyChar_of_isDigit (h : c.isDigit) : isSafePathKeyChar c = true := by
  simp [isSafePathKeyChar, Char.isAlphanum, h]

theorem isSpace_of_isDigit (h : c.isDigit) : isSpace c = false := by
  simp only [Char.isDigit, Bool.and_eq_true, decide_eq_true_eq] at h
  have hLow : 48 ≤ c.val.toNat := h.1
  have hHigh : c.val.toNat ≤ 57 := h.2
  simp only [isSpace, Bool.or_eq_false_iff, Bool.and_eq_false_iff, decide_eq_false_iff_not,
    beq_eq_false_iff_ne]
  omega

theorem plainKey_of_digits (hNe : key.toList ≠ []) (hDigits : ∀ c ∈ key.toList, c.isDigit) :
    PlainKey key := by
  obtain ⟨c, rest, hText⟩ := List.exists_cons_of_ne_nil hNe
  have hMem : c ∈ key.toList := by simp [hText]
  have hColon : c ≠ ':' := by
    rintro rfl
    exact absurd (hDigits ':' hMem) (by decide)
  refine ⟨List.all_eq_true.mpr fun d hd => isSafePathKeyChar_of_isDigit (hDigits d hd),
    by simp [hText, hColon], List.any_eq_true.mpr ⟨c, hMem, ?_⟩⟩
  simpa using isSpace_of_isDigit (hDigits c hMem)

theorem plainKey_toString (n : Nat) : PlainKey (toString n) := by
  have hText : (toString n).toList = Nat.toDigits 10 n := by
    rw [Nat.toString_eq_repr, Nat.toList_repr]
  refine plainKey_of_digits (hText ▸ Nat.toDigits_ne_nil) fun c hc => ?_
  rw [hText] at hc
  exact Nat.isDigit_of_mem_toDigits (by decide) (by decide) hc

theorem foldl_digits :
    digits.foldl (fun (m : Int) c => m * 10 + (c.toNat - 48 : Nat)) (n : Int) =
      (Nat.ofDigitChars 10 digits n : Nat) := by
  induction digits generalizing n with
  | nil => rfl
  | cons c digits ih =>
    rw [List.foldl_cons, Nat.ofDigitChars_cons, ← ih]
    congr 1
    have hZero : '0'.toNat = 48 := rfl
    push_cast
    omega

/-- The index that a matched literal stands for is the one its text is read as. -/
theorem parseIndex_of_atoi {segment : String} {i : Nat} (hPlain : PlainKey segment)
    (hMinus : segment.toList.head? ≠ some '-') (h : atoi segment = some (i : Int)) :
    parseIndex segment = some i := by
  have hPlus : segment.toList.head? ≠ some '+' := fun hHead =>
    absurd (hPlain.safe (List.mem_of_mem_head? hHead)) (by decide)
  have hValue := (Option.filter_eq_some_iff.mp h).1
  revert hValue
  split
  · rename_i hText
    simp [hText] at hMinus
  · rename_i hText
    simp [hText] at hPlus
  · intro hValue
    dsimp only at hValue
    split at hValue
    · rename_i hDigits
      rw [parseIndex, if_pos hDigits]
      have hFold := (foldl_digits).symm.trans (Option.some.inj hValue)
      exact congrArg some (Int.ofNat.inj hFold)
    · cases hValue

end XyApi.Override

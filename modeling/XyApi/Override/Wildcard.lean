import XyApi.Override.Children
import XyApi.Override.NegativeIndex
import Mathlib.Data.List.Perm.Basic
import Mathlib.Data.List.Sort

/-!
What a wildcard path is for: every location that it matches is changed, all at once, and
nothing else is. The source expands the path against the document and then works through
the expanded paths one by one, as texts. The two agree when the keys on the way are plain
and distinct and a deletion does not take several elements out of one array.
-/

namespace XyApi.Override

variable {items : List Json} {node : Json} {segment : String}

/-! ### Locations -/

def MatchesKey (segment key : String) : Prop := segment = "*" ∨ key = segment
  deriving Decidable

def MatchesIndex (segment : String) (i : Nat) : Prop := segment = "*" ∨ atoi segment = some (i : Int)
  deriving Decidable

def matchedParts (segment : String) : Json → List Json
  | .obj fields => (fields.filter (MatchesKey segment ·.1)).map Prod.snd
  | .arr items => (items.zipIdx.filter (MatchesIndex segment ·.2)).map Prod.fst
  | _ => []

def onMatched (f : Json → Json) (segment : String) : Json → Json
  | .obj fields => .obj (fields.map fun field =>
    if MatchesKey segment field.1 then (field.1, f field.2) else field)
  | .arr items => .arr (items.mapIdx fun i item =>
    if MatchesIndex segment i then f item else item)
  | node => node

def rewriteMatched (last : String → Json → Json) : List String → Json → Json
  | [], node => node
  | [segment], node => last segment node
  | segment :: rest, node => onMatched (rewriteMatched last rest) segment node

/-- Put new values in the matched places. A key that is written out and missing is added. -/
def setLast (new : Option Json → Option Json) (segment : String) : Json → Json
  | .obj fields =>
    if segment = "*" ∨ segment ∈ fields.map Prod.fst then
      onMatched (fun value => (new (some value)).getD value) segment (.obj fields)
    else .obj (fields ++ ((new none).map fun value => (segment, value)).toList)
  | node => onMatched (fun value => (new (some value)).getD value) segment node

def deleteLast (segment : String) : Json → Json
  | .obj fields => .obj (fields.filter fun field => ¬ MatchesKey segment field.1)
  | .arr items => .arr ((items.zipIdx.filter fun item => ¬ MatchesIndex segment item.2).map Prod.fst)
  | node => node

/-! ### Documents whose matched locations have plain addresses -/

/-- A segment can be followed from a node by the text of a path. -/
def SegmentFits (segment : String) (node : Json) : Prop :=
  (segment ≠ "*" → PlainKey segment) ∧
    match node with
    | .obj fields => (fields.map Prod.fst).Nodup ∧
        (segment = "*" → ∀ field ∈ fields, PlainKey field.1)
    | .arr _ => segment.toList.head? ≠ some '-'
    | _ => True

/-- Every segment fits where the pattern leads, and `Last` holds where it ends. -/
def Along (Last : String → Json → Prop) : List String → Json → Prop
  | [], _ => True
  | [segment], node => SegmentFits segment node ∧ Last segment node
  | segment :: rest, node =>
    SegmentFits segment node ∧ ∀ part ∈ matchedParts segment node, Along Last rest part

/-! ### The expansion -/

theorem uniq_of_nodup {α : Type} [DecidableEq α] {values : List α} (h : values.Nodup) :
    uniq values = values := by
  induction values with
  | nil => rfl
  | cons a rest ih =>
    have hSplit := List.nodup_cons.mp h
    rw [uniq, ih hSplit.2, List.filter_eq_self.mpr]
    intro b hb
    simpa using fun hEq : b = a => hSplit.1 (hEq ▸ hb)

section Fields

variable {fields : List (String × Json)} (hNodup : (fields.map Prod.fst).Nodup)

include hNodup

theorem sortedKeys_perm : (sortedKeys fields).Perm (fields.map Prod.fst) := by
  rw [sortedKeys, uniq_of_nodup hNodup]
  exact List.mergeSort_perm _ _

theorem decodedField_eq_child? (key : String) :
    decodedField fields key = (Json.obj fields).child? key := by
  cases hPart : (Json.obj fields).child? key with
  | none =>
    have hNone := Json.child?_obj_eq_none hPart
    refine Option.map_eq_none_iff.mpr (List.find?_eq_none.mpr fun field hField => ?_)
    simpa using hNone field (List.mem_reverse.mp hField)
  | some part =>
    have hMem := List.mem_of_find?_eq_some (Json.child?_obj_some hPart)
    obtain ⟨field, hField⟩ : ∃ field, fields.reverse.find? (·.1 = key) = some field :=
      Option.isSome_iff_exists.mp
        (List.find?_isSome.mpr ⟨(key, part), List.mem_reverse.mpr hMem, by simp⟩)
    have hKey : field.1 = key := by simpa using List.find?_some hField
    have hIn := List.mem_reverse.mp (List.mem_of_find?_eq_some hField)
    rw [decodedField, hField, Option.map_some, Json.eq_of_mem_fields hNodup hPart hIn hKey]

theorem child?_of_mem (hField : field ∈ fields) :
    (Json.obj fields).child? field.1 = some field.2 := by
  cases hPart : (Json.obj fields).child? field.1 with
  | none => exact absurd rfl (Json.child?_obj_eq_none hPart field hField)
  | some => rw [Json.eq_of_mem_fields hNodup hPart hField rfl]

end Fields

theorem mem_matchedParts_obj (hField : field ∈ fields) (hMatch : MatchesKey segment field.1) :
    field.2 ∈ matchedParts segment (.obj fields) :=
  List.mem_map_of_mem (List.mem_filter.mpr ⟨hField, by simpa using hMatch⟩)

theorem mem_matchedParts_arr (hItem : items[i]? = some item) (hMatch : MatchesIndex segment i) :
    item ∈ matchedParts segment (.arr items) :=
  List.mem_map.mpr ⟨(item, i), List.mem_filter.mpr
    ⟨List.mem_zipIdx_iff_getElem?.mpr hItem, by simpa using hMatch⟩, rfl⟩

def pathsBelow (rest : List String) (part : Option Json) : List (List String) :=
  (part.map (collectWildcardPaths · rest)).getD []

theorem collect_star_obj (hNodup : (fields.map Prod.fst).Nodup) (rest : List String) :
    collectWildcardPaths (.obj fields) ("*" :: rest) = (sortedKeys fields).flatMap fun key =>
      (pathsBelow rest ((Json.obj fields).child? key)).map (key :: ·) := by
  have hTrim : XyApi.trimSpace "*" = "*" := by decide
  simp only [collectWildcardPaths, hTrim, if_neg (show "*" ≠ "" by decide), if_true, pathsBelow,
    decodedField_eq_child? hNodup]

theorem collect_star_arr :
    collectWildcardPaths (.arr items) ("*" :: rest) = (List.range items.length).flatMap fun i =>
      (pathsBelow rest items[i]?).map (toString i :: ·) := by
  have hTrim : XyApi.trimSpace "*" = "*" := by decide
  simp only [collectWildcardPaths, hTrim, if_neg (show "*" ≠ "" by decide), if_true, pathsBelow]

section Literal

variable (hTrim : XyApi.trimSpace segment = segment)
  (hPlain : PlainKey segment) (hStar : segment ≠ "*")

include hTrim hPlain hStar

theorem collect_literal_obj (hNodup : (fields.map Prod.fst).Nodup) (hRest : rest ≠ []) :
    collectWildcardPaths (.obj fields) (segment :: rest) =
      (pathsBelow rest ((Json.obj fields).child? segment)).map (segment :: ·) := by
  simp only [collectWildcardPaths, hTrim, if_neg hPlain.ne_empty, if_neg hStar,
    if_neg hRest, pathsBelow, decodedField_eq_child? hNodup]

theorem collect_last_obj (fields : List (String × Json)) :
    collectWildcardPaths (.obj fields) [segment] = [[segment]] := by
  simp only [collectWildcardPaths, hTrim, if_neg hPlain.ne_empty, if_neg hStar, if_true]

/-- The element that a literal index names, or nothing. -/
theorem collect_literal_arr (items : List Json) (rest : List String) :
    collectWildcardPaths (.arr items) (segment :: rest) =
      match atoi segment with
      | some index =>
        if 0 ≤ index then (pathsBelow rest items[index.toNat]?).map (segment :: ·) else []
      | none => [] := by
  simp only [collectWildcardPaths, hTrim, if_neg hPlain.ne_empty, if_neg hStar]
  cases atoi segment with
  | none => rfl
  | some index =>
    dsimp only
    by_cases hLow : 0 ≤ index
    · rw [if_pos hLow]
      by_cases hHigh : index < items.length
      · have hLt : index.toNat < items.length := by omega
        rw [if_neg (by omega), List.getElem?_eq_getElem hLt]
        split
        · rename_i hRest
          rw [hRest]
          rfl
        · rfl
      · have hNone : items[index.toNat]? = none := List.getElem?_eq_none_iff.mpr (by omega)
        rw [if_pos (by omega), hNone]
        rfl
    · rw [if_pos (by omega), if_neg hLow]

end Literal

theorem collect_scalar (hNode : node.shape = .scalar) (rest : List String) :
    collectWildcardPaths node (segment :: rest) = [] := by
  cases node with
  | obj _ | arr _ => cases hNode
  | null | bool _ | num _ | str _ =>
    simp only [collectWildcardPaths]
    split
    · rfl
    · split <;> rfl

theorem onMatched_literal_arr (f : Json → Json) (hStar : segment ≠ "*") (items : List Json) :
    onMatched f segment (.arr items) =
      match atoi segment with
      | some index => if 0 ≤ index then .arr (items.modify index.toNat f) else .arr items
      | none => .arr items := by
  have hMatched : onMatched f segment (.arr items) = .arr (items.mapIdx fun i item =>
      if atoi segment = some (i : Int) then f item else item) := by
    simp only [onMatched, MatchesIndex, hStar, false_or]
  rw [hMatched]
  cases atoi segment with
  | none => exact congrArg Json.arr (List.ext_getElem? fun j => by simp)
  | some index =>
    dsimp only
    split
    · rename_i hLow
      refine congrArg Json.arr (List.ext_getElem? fun j => ?_)
      rw [List.getElem?_mapIdx, List.getElem?_modify]
      have hEq : some index = some (j : Int) ↔ index.toNat = j := by
        rw [Option.some.injEq]
        omega
      simp only [hEq, Option.map_eq_map]
    · rename_i hLow
      refine congrArg Json.arr (List.ext_getElem? fun j => ?_)
      have hNe : index ≠ (j : Int) := by omega
      simp [hNe]

/-! ### One segment -/

section Step

variable {Below : List String → Prop}
  (hAct : Descends act Below) {f : Json → Json} {rest : List String}

include hAct

theorem foldlM_star_obj (hNodup : (fields.map Prod.fst).Nodup)
    (hBelow : ∀ field ∈ fields, ∀ path ∈ collectWildcardPaths field.2 rest, Below path)
    (hRun : ∀ field ∈ fields,
      (collectWildcardPaths field.2 rest).foldlM act field.2 = .ok (f field.2)) :
    (collectWildcardPaths (.obj fields) ("*" :: rest)).foldlM act (.obj fields) =
      .ok (onMatched f "*" (.obj fields)) := by
  have hPerm := sortedKeys_perm hNodup
  have hField {key : String} (hKey : key ∈ sortedKeys fields) :
      ∃ field ∈ fields, field.1 = key := List.mem_map.mp (hPerm.mem_iff.mp hKey)
  have hGroups := foldlM_groups hAct f id
    (fun key => pathsBelow rest ((Json.obj fields).child? key)) (sortedKeys fields)
    (.obj fields) ?_ ?_ ?_
  · rw [collect_star_obj hNodup]
    refine hGroups.trans (congrArg Except.ok ?_)
    rw [List.map_id, Json.foldl_modifyChild_obj f hNodup (hPerm.nodup_iff.mpr hNodup)]
    refine congrArg Json.obj (List.map_congr_left fun field hIn => ?_)
    have hAll : MatchesKey "*" field.1 := .inl rfl
    rw [if_pos (hPerm.mem_iff.mpr (List.mem_map_of_mem hIn)), if_pos hAll]
  · intro key hKey path hPath
    obtain ⟨field, hIn, rfl⟩ := hField hKey
    rw [child?_of_mem hNodup hIn] at hPath
    exact hBelow field hIn path hPath
  · exact (hPerm.nodup_iff.mpr hNodup).imp fun hNe => Json.apart_object hNe
  · intro key hKey
    obtain ⟨field, hIn, rfl⟩ := hField hKey
    have hChild := child?_of_mem hNodup hIn
    refine ⟨field.2, hChild, ?_⟩
    rw [hChild]
    exact hRun field hIn

theorem foldlM_star_arr
    (hBelow : ∀ item ∈ items, ∀ path ∈ collectWildcardPaths item rest, Below path)
    (hRun : ∀ item ∈ items, (collectWildcardPaths item rest).foldlM act item = .ok (f item)) :
    (collectWildcardPaths (.arr items) ("*" :: rest)).foldlM act (.arr items) =
      .ok (onMatched f "*" (.arr items)) := by
  have hItem {i : Nat} (hi : i ∈ List.range items.length) :
      ∃ item ∈ items, items[i]? = some item := by
    have hLt := List.mem_range.mp hi
    exact ⟨items[i], List.getElem_mem hLt, List.getElem?_eq_getElem hLt⟩
  have hGroups := foldlM_groups hAct f toString (fun i => pathsBelow rest items[i]?)
    (List.range items.length) (.arr items) ?_ ?_ ?_
  · rw [collect_star_arr]
    refine hGroups.trans (congrArg Except.ok ?_)
    rw [Json.foldl_modifyChild_arr]
    refine congrArg Json.arr (List.ext_getElem? fun j => ?_)
    rw [List.getElem?_map, List.getElem?_mapIdx]
    simp [MatchesIndex]
  · intro i hi path hPath
    obtain ⟨item, hIn, hEq⟩ := hItem hi
    rw [hEq] at hPath
    exact hBelow item hIn path hPath
  · exact List.nodup_range.imp fun hNe => Json.apart_array hNe
  · intro i hi
    obtain ⟨item, hIn, hEq⟩ := hItem hi
    refine ⟨item, ?_, ?_⟩
    · rw [Json.child?, parseIndex_toString, Option.bind_some, hEq]
    · rw [hEq]
      exact hRun item hIn

variable (hTrim : XyApi.trimSpace segment = segment)
  (hPlain : PlainKey segment) (hStar : segment ≠ "*")

include hTrim hPlain hStar

theorem foldlM_literal_obj (hNodup : (fields.map Prod.fst).Nodup) (hRest : rest ≠ [])
    (hBelow : ∀ part, (Json.obj fields).child? segment = some part →
      ∀ path ∈ collectWildcardPaths part rest, Below path)
    (hRun : ∀ part, (Json.obj fields).child? segment = some part →
      (collectWildcardPaths part rest).foldlM act part = .ok (f part)) :
    (collectWildcardPaths (.obj fields) (segment :: rest)).foldlM act (.obj fields) =
      .ok (onMatched f segment (.obj fields)) := by
  have hMatched : onMatched f segment (.obj fields) =
      Json.modifyChild f (.obj fields) segment := by
    rw [Json.modifyChild_obj f hNodup, onMatched]
    simp only [MatchesKey, hStar, false_or]
  rw [collect_literal_obj hTrim hPlain hStar hNodup hRest, hMatched]
  cases hPart : (Json.obj fields).child? segment with
  | none =>
    rw [Json.modifyChild, hPart]
    rfl
  | some part =>
    have hPaths : pathsBelow rest (some part) = collectWildcardPaths part rest := rfl
    rw [hPaths, foldlM_below hAct (hBelow part hPart) hPart, hRun part hPart,
      Json.modifyChild_of_child? f hPart]
    rfl

theorem foldlM_literal_arr (hMinus : segment.toList.head? ≠ some '-')
    (hBelow : ∀ (i : Nat) (item : Json), atoi segment = some (i : Int) → items[i]? = some item → ∀ path ∈ collectWildcardPaths item rest, Below path)
    (hRun : ∀ (i : Nat) (item : Json), atoi segment = some (i : Int) → items[i]? = some item → (collectWildcardPaths item rest).foldlM act item = .ok (f item))
    :
    (collectWildcardPaths (.arr items) (segment :: rest)).foldlM act (.arr items) =
      .ok (onMatched f segment (.arr items)) := by
  rw [collect_literal_arr hTrim hPlain hStar, onMatched_literal_arr f hStar]
  cases hIndex : atoi segment with
  | none => rfl
  | some index =>
    by_cases hLow : 0 ≤ index
    · obtain ⟨i, rfl⟩ := Int.eq_ofNat_of_zero_le hLow
      have hParse := parseIndex_of_atoi hPlain hMinus hIndex
      dsimp only
      rw [if_pos hLow, if_pos hLow, Int.toNat_natCast, ← Json.modifyChild_arr f items hParse]
      have hChild : (Json.arr items).child? segment = items[i]? := by
        rw [Json.child?, hParse, Option.bind_some]
      cases hItem : items[i]? with
      | none =>
        rw [Json.modifyChild, hChild, hItem]
        rfl
      | some item =>
        have hPart := hChild.trans hItem
        have hPaths : pathsBelow rest (some item) = collectWildcardPaths item rest := rfl
        rw [hPaths, foldlM_below hAct (hBelow i item hIndex hItem) hPart,
          hRun i item hIndex hItem, Json.modifyChild_of_child? f hPart]
        rfl
    · dsimp only
      rw [if_neg hLow, if_neg hLow]
      rfl

end Step

theorem foldlM_onMatched {Below : List String → Prop} (hAct : Descends act Below)
    (f : Json → Json) (rest : List String)
    (hTrim : XyApi.trimSpace segment = segment) (hFits : SegmentFits segment node)
    (hRest : rest = [] → segment ≠ "*" → node.shape ≠ .object)
    (hBelow : ∀ part ∈ matchedParts segment node,
      ∀ path ∈ collectWildcardPaths part rest, Below path)
    (hRun : ∀ part ∈ matchedParts segment node,
      (collectWildcardPaths part rest).foldlM act part = .ok (f part)) :
    (collectWildcardPaths node (segment :: rest)).foldlM act node =
      .ok (onMatched f segment node) := by
  by_cases hStar : segment = "*"
  · subst hStar
    cases node with
    | obj fields =>
      have hMem {field : String × Json} (h : field ∈ fields) :
          field.2 ∈ matchedParts "*" (.obj fields) := mem_matchedParts_obj h (.inl rfl)
      exact foldlM_star_obj hAct hFits.2.1 (fun field h => hBelow _ (hMem h))
        (fun field h => hRun _ (hMem h))
    | arr items =>
      have hMem {item : Json} (h : item ∈ items) : item ∈ matchedParts "*" (.arr items) := by
        obtain ⟨i, hi⟩ := List.mem_iff_getElem?.mp h
        exact mem_matchedParts_arr hi (.inl rfl)
      exact foldlM_star_arr hAct (fun item h => hBelow _ (hMem h)) (fun item h => hRun _ (hMem h))
    | null | bool _ | num _ | str _ =>
      rw [collect_scalar rfl]
      rfl
  · have hPlain := hFits.1 hStar
    cases node with
    | obj fields =>
      have hMem {part : Json} (h : (Json.obj fields).child? segment = some part) :
          part ∈ matchedParts segment (.obj fields) :=
        mem_matchedParts_obj (List.mem_of_find?_eq_some (Json.child?_obj_some h)) (.inr rfl)
      have hNe : rest ≠ [] := fun h => hRest h hStar rfl
      exact foldlM_literal_obj hAct hTrim hPlain hStar hFits.2.1 hNe
        (fun part h => hBelow part (hMem h)) (fun part h => hRun part (hMem h))
    | arr =>
      exact foldlM_literal_arr hAct hTrim hPlain hStar hFits.2
        (fun i item hi h => hBelow item (mem_matchedParts_arr h (.inr hi)))
        (fun i item hi h => hRun item (mem_matchedParts_arr h (.inr hi)))
    | null | bool _ | num _ | str _ =>
      rw [collect_scalar rfl]
      rfl

/-! ### The whole pattern -/

theorem Along.fits (h : Along Last (segment :: rest) node) : SegmentFits segment node := by
  cases rest <;> exact h.1

theorem Along.part {Last : String → Json → Prop} {segment : String} {rest : List String}
    {part : Json} (h : Along Last (segment :: rest) node) (hRest : rest ≠ [])
    (hPart : part ∈ matchedParts segment node) : Along Last rest part := by
  cases rest with
  | nil => exact absurd rfl hRest
  | cons => exact h.2 part hPart

theorem mem_pathsBelow (h : path ∈ pathsBelow rest part) :
    ∃ node, part = some node ∧ path ∈ collectWildcardPaths node rest := by
  cases part with
  | none => simp [pathsBelow] at h
  | some node => exact ⟨node, rfl, h⟩

/-- An expanded path starts with a plain key and goes on below a matched part. -/
theorem mem_collect_cons (hTrim : XyApi.trimSpace segment = segment)
    (hFits : SegmentFits segment node) (h : path ∈ collectWildcardPaths node (segment :: rest)) :
    ∃ key below, path = key :: below ∧ PlainKey key ∧
      (rest = [] ∧ below = [] ∨
        ∃ part ∈ matchedParts segment node, below ∈ collectWildcardPaths part rest) := by
  by_cases hStar : segment = "*"
  · subst hStar
    cases node with
    | obj =>
      rw [collect_star_obj hFits.2.1] at h
      obtain ⟨key, hKey, hPath⟩ := List.mem_flatMap.mp h
      obtain ⟨below, hBelow, rfl⟩ := List.mem_map.mp hPath
      obtain ⟨part, hPart, hBelow⟩ := mem_pathsBelow hBelow
      have hField := List.mem_of_find?_eq_some (Json.child?_obj_some hPart)
      exact ⟨key, below, rfl, hFits.2.2 rfl _ hField,
        .inr ⟨part, mem_matchedParts_obj hField (.inl rfl), hBelow⟩⟩
    | arr =>
      rw [collect_star_arr] at h
      obtain ⟨i, -, hPath⟩ := List.mem_flatMap.mp h
      obtain ⟨below, hBelow, rfl⟩ := List.mem_map.mp hPath
      obtain ⟨part, hPart, hBelow⟩ := mem_pathsBelow hBelow
      exact ⟨toString i, below, rfl, plainKey_toString i,
        .inr ⟨part, mem_matchedParts_arr hPart (.inl rfl), hBelow⟩⟩
    | null | bool _ | num _ | str _ =>
      rw [collect_scalar rfl] at h
      cases h
  · have hPlain := hFits.1 hStar
    cases node with
    | obj =>
      by_cases hRest : rest = []
      · subst hRest
        rw [collect_last_obj hTrim hPlain hStar, List.mem_singleton] at h
        exact ⟨segment, [], h, hPlain, .inl ⟨rfl, rfl⟩⟩
      · rw [collect_literal_obj hTrim hPlain hStar hFits.2.1 hRest] at h
        obtain ⟨below, hBelow, rfl⟩ := List.mem_map.mp h
        obtain ⟨part, hPart, hBelow⟩ := mem_pathsBelow hBelow
        have hField := List.mem_of_find?_eq_some (Json.child?_obj_some hPart)
        exact ⟨segment, below, rfl, hPlain,
          .inr ⟨part, mem_matchedParts_obj hField (.inr rfl), hBelow⟩⟩
    | arr =>
      rw [collect_literal_arr hTrim hPlain hStar] at h
      cases hIndex : atoi segment with
      | none => simp [hIndex] at h
      | some =>
        simp only [hIndex] at h
        split at h
        · rename_i hLow
          obtain ⟨i, rfl⟩ := Int.eq_ofNat_of_zero_le hLow
          obtain ⟨below, hBelow, rfl⟩ := List.mem_map.mp h
          obtain ⟨part, hPart, hBelow⟩ := mem_pathsBelow hBelow
          exact ⟨segment, below, rfl, hPlain,
            .inr ⟨part, mem_matchedParts_arr hPart (.inr hIndex), hBelow⟩⟩
        · cases h
    | null | bool _ | num _ | str _ =>
      rw [collect_scalar rfl] at h
      cases h

section Expansion

theorem plain_of_mem_collect (hTrim : ∀ segment ∈ segments, XyApi.trimSpace segment = segment)
    (hAlong : Along Last segments node) (h : path ∈ collectWildcardPaths node segments) :
    path.length = segments.length ∧ ∀ key ∈ path, PlainKey key := by
  induction segments generalizing node path with
  | nil =>
    rw [mem_collect_nil] at h
    simp [h]
  | cons segment rest ih =>
    obtain ⟨key, below, rfl, hKey, hBelow⟩ :=
      mem_collect_cons (hTrim segment List.mem_cons_self) hAlong.fits h
    obtain ⟨rfl, rfl⟩ | ⟨part, hPart, hBelow⟩ := hBelow
    · simpa using hKey
    · by_cases hRest : rest = []
      · subst hRest
        rw [mem_collect_nil] at hBelow
        simpa [hBelow] using hKey
      · obtain ⟨hLength, hPlain⟩ := ih (fun s hs => hTrim s (List.mem_cons_of_mem _ hs))
          (hAlong.part hRest hPart) hBelow
        exact ⟨by simp [hLength], List.forall_mem_cons.mpr ⟨hKey, hPlain⟩⟩

theorem nodup_groups {ι : Type} (name : ι → String) (paths : ι → List (List String))
    {groups : List ι} (hName : groups.Pairwise fun g h => name g ≠ name h)
    (hPaths : ∀ g ∈ groups, (paths g).Nodup) :
    (groups.flatMap fun g => (paths g).map (name g :: ·)).Nodup := by
  refine List.nodup_flatMap.mpr ⟨fun g hg => ?_, hName.imp fun hNe => ?_⟩
  · exact (hPaths g hg).map fun a b hab => (List.cons.inj hab).2
  · rintro path hLeft hRight
    obtain ⟨_, _, rfl⟩ := List.mem_map.mp hLeft
    obtain ⟨_, _, hEq⟩ := List.mem_map.mp hRight
    exact hNe (List.cons.inj hEq).1.symm

theorem nodup_collect (hTrim : ∀ segment ∈ segments, XyApi.trimSpace segment = segment)
    (hAlong : Along Last segments node) : (collectWildcardPaths node segments).Nodup := by
  induction segments generalizing node with
  | nil => exact List.nodup_singleton []
  | cons segment rest ih =>
    have hHead := hTrim segment List.mem_cons_self
    have hFits := hAlong.fits
    have hBelow {part : Option Json}
        (hPart : ∀ child, part = some child → child ∈ matchedParts segment node) :
        (pathsBelow rest part).Nodup := by
      cases part with
      | none => exact List.nodup_nil
      | some child =>
        by_cases hRest : rest = []
        · subst hRest
          exact List.nodup_singleton []
        · exact ih (fun s hs => hTrim s (List.mem_cons_of_mem _ hs))
            (hAlong.part hRest (hPart child rfl))
    have hCons {paths : List (List String)} (key : String) (h : paths.Nodup) :
        (paths.map (key :: ·)).Nodup := h.map fun a b hab => (List.cons.inj hab).2
    by_cases hStar : segment = "*"
    · subst hStar
      cases node with
      | obj =>
        rw [collect_star_obj hFits.2.1]
        refine nodup_groups id _ ((sortedKeys_perm hFits.2.1).nodup_iff.mpr hFits.2.1)
          fun key _ => hBelow fun child hChild => ?_
        exact mem_matchedParts_obj
          (List.mem_of_find?_eq_some (Json.child?_obj_some hChild)) (.inl rfl)
      | arr =>
        rw [collect_star_arr]
        refine nodup_groups toString _ (List.nodup_range.imp fun {i j} hNe hEq => hNe ?_)
          fun i _ => hBelow fun child hChild => mem_matchedParts_arr hChild (.inl rfl)
        have hIndex := congrArg parseIndex hEq
        rw [parseIndex_toString, parseIndex_toString] at hIndex
        exact Option.some.inj hIndex
      | null | bool _ | num _ | str _ =>
        rw [collect_scalar rfl]
        exact List.nodup_nil
    · have hPlain := hFits.1 hStar
      cases node with
      | obj =>
        by_cases hRest : rest = []
        · subst hRest
          rw [collect_last_obj hHead hPlain hStar]
          exact List.nodup_singleton _
        · rw [collect_literal_obj hHead hPlain hStar hFits.2.1 hRest]
          exact hCons segment (hBelow fun child hChild => mem_matchedParts_obj
            (List.mem_of_find?_eq_some (Json.child?_obj_some hChild)) (.inr rfl))
      | arr =>
        rw [collect_literal_arr hHead hPlain hStar]
        cases hIndex : atoi segment with
        | none => exact List.nodup_nil
        | some =>
          dsimp only
          split
          · rename_i hLow
            obtain ⟨i, rfl⟩ := Int.eq_ofNat_of_zero_le hLow
            exact hCons segment
              (hBelow fun child hChild => mem_matchedParts_arr hChild (.inr hIndex))
          · exact List.nodup_nil
      | null | bool _ | num _ | str _ =>
        rw [collect_scalar rfl]
        exact List.nodup_nil

end Expansion

theorem foldlM_rewriteMatched (hAct : Descends act (· ≠ []))
    (hLast : ∀ segment node, XyApi.trimSpace segment = segment → SegmentFits segment node → Last segment node → (collectWildcardPaths node [segment]).foldlM act node = .ok (last segment node))
    (hNe : segments ≠ []) (hTrim : ∀ segment ∈ segments, XyApi.trimSpace segment = segment)
    (hAlong : Along Last segments node) :
    (collectWildcardPaths node segments).foldlM act node =
      .ok (rewriteMatched last segments node) := by
  induction segments generalizing node with
  | nil => exact absurd rfl hNe
  | cons segment rest ih =>
    have hHead := hTrim segment List.mem_cons_self
    cases rest with
    | nil => exact hLast segment node hHead hAlong.1 hAlong.2
    | cons next rest =>
      refine foldlM_onMatched hAct _ (next :: rest) hHead hAlong.1 (by simp) ?_ ?_
      · intro part hPart path hPath
        have hLength := (plain_of_mem_collect
          (fun s hs => hTrim s (List.mem_cons_of_mem _ hs)) (hAlong.2 part hPart) hPath).1
        rintro rfl
        simp at hLength
      · intro part hPart
        exact ih (by simp) (fun s hs => hTrim s (List.mem_cons_of_mem _ hs))
          (hAlong.2 part hPart)

end XyApi.Override

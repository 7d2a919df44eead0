import XyApi.Override.Wildcard

/-!
The operations of an override at a wildcard path. Each is an action at one location that
descends through the parts above it; together with what it does at the end of the pattern
this gives the simultaneous change of all matched locations.
-/

namespace XyApi.Override

variable (lib : JsonLib) (new : Option Json → Except String (Option Json)) (op : ParamOperation)

variable {node : Json} {segment : String}

/-! ### The action at one location -/

def updateAt (node : Json) (path : List String) : Except String Json := do
  match ← new (node.getAt path) with
  | some value => node.setAt path value
  | none => .ok node

def actAt (node : Json) (path : List String) : Except String Json :=
  if op.mode = .delete then .ok (node.deleteAt path) else updateAt (change lib op) node path

theorem applyAt_joinPath (doc : Json) {keys : List String} (hNe : keys ≠ [])
    (hPlain : ∀ key ∈ keys, PlainKey key) :
    applyAt lib op doc (joinPath keys) = actAt lib op doc keys := by
  have hParse := parsePath_joinPath hNe hPlain
  unfold applyAt actAt
  split
  · rw [deleteValue, if_neg (trimSpace_joinPath_ne_empty hNe hPlain), JsonLib.delete, hParse]
  · have hGet : lib.get doc (joinPath keys) = doc.getAt keys := by rw [JsonLib.get, hParse]
    have hSet (value : Json) : lib.set doc (joinPath keys) value = doc.setAt keys value := by
      rw [JsonLib.set, hParse]
    unfold updateValue updateAt
    rw [hGet]
    refine bind_congr fun value => ?_
    cases value with
    | none => rfl
    | some value => exact hSet value

theorem applyEach_joinPath {paths : List (List String)}
    (hPaths : ∀ path ∈ paths, path ≠ [] ∧ ∀ key ∈ path, PlainKey key) (doc : Json) :
    applyEach lib op doc (paths.map joinPath) = paths.foldlM (actAt lib op) doc := by
  induction paths generalizing doc with
  | nil => rfl
  | cons path paths ih =>
    have hHead := hPaths path List.mem_cons_self
    rw [List.map_cons, applyEach, applyAt_joinPath lib op doc hHead.1 hHead.2,
      List.foldlM_cons]
    exact bind_congr fun next => ih (fun p hp => hPaths p (List.mem_cons_of_mem _ hp)) next

theorem updateAt_descends : Descends (updateAt new) fun _ => True := by
  intro node key part path _ hPart
  have hGet : node.getAt (key :: path) = part.getAt path := by
    rw [Json.getAt, hPart, Option.bind_some]
  unfold updateAt
  rw [hGet]
  cases new (part.getAt path) with
  | error => rfl
  | ok value =>
    cases value with
    | none => exact congrArg Except.ok (Json.setChild_self hPart).symm
    | some value =>
      change node.setAt (key :: path) value = (part.setAt path value).map (node.setChild key)
      rw [Json.setAt, hPart]
      dsimp only
      cases part.setAt path value <;> rfl

theorem deletedSegment_of_child? {part : Json} {key : String} (h : node.child? key = some part) :
    node.deletedSegment key = key := by
  cases node with
  | arr =>
    obtain ⟨i, hIndex, -⟩ := Json.child?_arr_some h
    have hKey : key ≠ "-1" := by
      rintro rfl
      exact absurd hIndex (by simp [show parseIndex "-1" = none by decide])
    rw [Json.deletedSegment, if_neg fun hBoth => hKey hBoth.1]
  | obj _ | null | bool _ | num _ | str _ => rfl

theorem deleteAt_descends : Descends (fun node path => .ok (node.deleteAt path)) (· ≠ []) := by
  intro node key part path hPath hPart
  refine congrArg Except.ok ?_
  rw [Json.deleteAt]
  simp only [deletedSegment_of_child? hPart, hPart, if_neg hPath]

theorem actAt_descends : Descends (actAt lib op) (· ≠ []) := by
  intro node key part path hPath hPart
  unfold actAt
  split
  · exact deleteAt_descends node key part path hPath hPart
  · exact updateAt_descends _ node key part path trivial hPart

/-! ### The end of the pattern -/

def accepted (current : Option Json) : Option Json :=
  match new current with
  | .ok value => value
  | .error _ => none

/-- The operation accepts every value it finds, and a missing key if it is to be added. -/
def AcceptsLast (segment : String) (node : Json) : Prop :=
  (∀ part ∈ matchedParts segment node, ∃ value, new (some part) = .ok value) ∧
    (segment ≠ "*" → node.shape = .object → node.child? segment = none →
      ∃ value, new none = .ok value)

def DeletesOne (segment : String) (node : Json) : Prop :=
  ∀ items, segment = "*" → node = .arr items → items.length ≤ 1

theorem updateAt_nil {new : Option Json → Except String (Option Json)} {part : Json}
    {value : Option Json} (h : new (some part) = .ok value) :
    updateAt new part [] = .ok ((accepted new (some part)).getD part) := by
  unfold updateAt accepted
  rw [Json.getAt, h]
  cases value <;> rfl

theorem updateAt_last_obj {new : Option Json → Except String (Option Json)}
    {fields : List (String × Json)} (hStar : segment ≠ "*") (hNodup : (fields.map Prod.fst).Nodup)
    (hAccepts : AcceptsLast new segment (.obj fields)) :
    updateAt new (.obj fields) [segment] = .ok (setLast (accepted new) segment (.obj fields)) := by
  cases hPart : (Json.obj fields).child? segment with
  | none =>
    obtain ⟨value, hValue⟩ := hAccepts.2 hStar rfl hPart
    have hMissing : ¬ (segment = "*" ∨ segment ∈ fields.map Prod.fst) := by
      rintro (h | h)
      · exact hStar h
      · obtain ⟨field, hField, hKey⟩ := List.mem_map.mp h
        exact Json.child?_obj_eq_none hPart field hField hKey
    have hGet : (Json.obj fields).getAt [segment] = none := by
      rw [Json.getAt, hPart, Option.bind_none]
    unfold updateAt
    rw [hGet, hValue, setLast, if_neg hMissing, accepted, hValue]
    cases value with
    | none => exact congrArg (fun fields => Except.ok (Json.obj fields)) (by simp)
    | some value =>
      change (Json.obj fields).setAt [segment] value = _
      rw [Json.setAt, hPart]
      rfl
  | some part =>
    have hField := List.mem_of_find?_eq_some (Json.child?_obj_some hPart)
    obtain ⟨value, hValue⟩ := hAccepts.1 part (mem_matchedParts_obj hField (.inr rfl))
    have hPresent : segment = "*" ∨ segment ∈ fields.map Prod.fst :=
      .inr (List.mem_map_of_mem hField)
    rw [updateAt_descends new _ segment part [] trivial hPart, updateAt_nil hValue, setLast,
      if_pos hPresent, onMatched]
    have hModify := Json.modifyChild_obj (fun value => (accepted new (some value)).getD value)
      hNodup segment
    rw [Json.modifyChild_of_child? _ hPart] at hModify
    refine congrArg Except.ok (hModify.trans ?_)
    simp only [MatchesKey, hStar, false_or]

theorem foldlM_setLast {new : Option Json → Except String (Option Json)}
    (hTrim : XyApi.trimSpace segment = segment) (hFits : SegmentFits segment node)
    (hAccepts : AcceptsLast new segment node) :
    (collectWildcardPaths node [segment]).foldlM (updateAt new) node =
      .ok (setLast (accepted new) segment node) := by
  by_cases hAdd : segment ≠ "*" ∧ node.shape = .object
  · obtain ⟨hStar, hShape⟩ := hAdd
    cases node with
    | obj =>
      rw [collect_last_obj hTrim (hFits.1 hStar) hStar, List.foldlM_cons,
        updateAt_last_obj hStar hFits.2.1 hAccepts]
      rfl
    | arr _ | null | bool _ | num _ | str _ => cases hShape
  · have hRun := foldlM_onMatched (updateAt_descends new)
      (fun value => (accepted new (some value)).getD value) [] hTrim hFits
      (fun _ hStar hShape => hAdd ⟨hStar, hShape⟩) (fun _ _ _ _ => trivial) ?_
    · refine hRun.trans (congrArg Except.ok ?_)
      cases node with
      | obj =>
        have hStar : segment = "*" := by
          by_contra hStar
          exact hAdd ⟨hStar, rfl⟩
        rw [setLast, if_pos (.inl hStar)]
      | arr _ | null | bool _ | num _ | str _ => rfl
    · intro part hPart
      obtain ⟨value, hValue⟩ := hAccepts.1 part hPart
      change updateAt new part [] >>= pure = _
      rw [updateAt_nil hValue]
      rfl

theorem eraseP_eq_filter {fields : List (String × Json)} (hNodup : (fields.map Prod.fst).Nodup)
    (key : String) :
    fields.eraseP (·.1 = key) = fields.filter fun field => ¬ field.1 = key := by
  induction fields with
  | nil => rfl
  | cons first rest ih =>
    rw [List.map_cons, List.nodup_cons] at hNodup
    by_cases hKey : first.1 = key
    · have hRest : ∀ field ∈ rest, ¬ field.1 = key := fun field hField hEq =>
        hNodup.1 (hKey ▸ hEq ▸ List.mem_map_of_mem hField)
      rw [List.eraseP_cons_of_pos (by simpa using hKey),
        List.filter_cons_of_neg (by simpa using hKey),
        List.filter_eq_self.mpr fun field hField => by simpa using hRest field hField]
    · rw [List.eraseP_cons_of_neg (by simpa using hKey),
        List.filter_cons_of_pos (by simpa using hKey), ih hNodup.2]

theorem deleteAt_obj {fields : List (String × Json)} (hNodup : (fields.map Prod.fst).Nodup)
    (key : String) :
    (Json.obj fields).deleteAt [key] = .obj (fields.filter fun field => ¬ field.1 = key) := by
  rw [Json.deleteAt]
  simp only [Json.deletedSegment]
  cases hPart : (Json.obj fields).child? key with
  | none =>
    have hNone := Json.child?_obj_eq_none hPart
    rw [List.filter_eq_self.mpr fun field hField => by simpa using hNone field hField]
  | some => exact congrArg Json.obj (eraseP_eq_filter hNodup key)

/-- Deleting keys one after another, in any order, keeps the other fields. -/
theorem foldlM_deleteAt_obj (keys : List String) (hNodup : (fields.map Prod.fst).Nodup) :
    (keys.map ([·])).foldlM (fun node path => .ok (node.deleteAt path)) (Json.obj fields) =
      (.ok (.obj (fields.filter fun field => field.1 ∉ keys)) : Except String Json) := by
  induction keys generalizing fields with
  | nil => exact congrArg (fun fields => Except.ok (Json.obj fields)) (by simp)
  | cons key keys ih =>
    have hKept : ((fields.filter fun field => ¬ field.1 = key).map Prod.fst).Nodup :=
      hNodup.sublist (List.filter_sublist.map Prod.fst)
    rw [List.map_cons, List.foldlM_cons, deleteAt_obj hNodup]
    refine (ih hKept).trans ?_
    rw [List.filter_filter]
    refine congrArg (fun fields => Except.ok (Json.obj fields)) (List.filter_congr ?_)
    intro field _
    simp [not_or, Bool.and_comm]

theorem eraseIdx_eq_filter (items : List Json) (i start : Nat) :
    ((items.zipIdx start).filter fun item => ¬ item.2 = start + i).map Prod.fst =
      items.eraseIdx i := by
  induction items generalizing i start with
  | nil => rfl
  | cons item items ih =>
    rw [List.zipIdx_cons]
    cases i with
    | zero =>
      have hAfter : ∀ x ∈ items.zipIdx (start + 1), ¬ x.2 = start + 0 := fun x hx => by
        have := List.le_snd_of_mem_zipIdx hx
        omega
      rw [List.filter_cons_of_neg (by simp),
        List.filter_eq_self.mpr fun x hx => by simpa using hAfter x hx, List.zipIdx_map_fst]
      rfl
    | succ i =>
      rw [List.filter_cons_of_pos (by simp), List.map_cons,
        List.eraseIdx_cons_succ, ← ih i (start + 1)]
      simp only [Nat.add_assoc, Nat.add_comm 1 i]

theorem deleteLast_literal_arr {i : Nat} (hStar : segment ≠ "*")
    (hIndex : atoi segment = some (i : Int)) (items : List Json) :
    deleteLast segment (.arr items) = .arr (items.eraseIdx i) := by
  rw [← eraseIdx_eq_filter items i 0, deleteLast]
  refine congrArg (fun kept : List (Json × Nat) => Json.arr (kept.map Prod.fst))
    (List.filter_congr fun item _ => ?_)
  simp only [MatchesIndex, hStar, hIndex, false_or, Option.some.injEq, Int.natCast_inj,
    Nat.zero_add, eq_comm (a := i)]

theorem deleteLast_unmatched_arr (h : ∀ i, i < items.length → ¬ MatchesIndex segment i) :
    deleteLast segment (.arr items) = .arr items := by
  have hAll : ∀ item ∈ items.zipIdx, ¬ MatchesIndex segment item.2 := fun item hItem =>
    h item.2 (List.snd_lt_of_mem_zipIdx hItem)
  rw [deleteLast, List.filter_eq_self.mpr fun item hItem => by simpa using hAll item hItem,
    List.zipIdx_map_fst]

theorem foldlM_deleteLast_arr {items : List Json} (hTrim : XyApi.trimSpace segment = segment)
    (hStar : segment ≠ "*") (hPlain : PlainKey segment) (hMinus : segment.toList.head? ≠ some '-') :
    (collectWildcardPaths (.arr items) [segment]).foldlM
        (fun node path => .ok (node.deleteAt path)) (Json.arr items) =
      (.ok (deleteLast segment (.arr items)) : Except String Json) := by
  rw [collect_literal_arr hTrim hPlain hStar]
  cases hIndex : atoi segment with
  | none =>
    rw [deleteLast_unmatched_arr fun i _ => by simp [MatchesIndex, hStar, hIndex]]
    rfl
  | some =>
    dsimp only
    split
    · rename_i hLow
      obtain ⟨i, rfl⟩ := Int.eq_ofNat_of_zero_le hLow
      have hParse := parseIndex_of_atoi hPlain hMinus hIndex
      rw [Int.toNat_natCast, deleteLast_literal_arr hStar hIndex]
      cases hItem : items[i]? with
      | none =>
        rw [List.eraseIdx_of_length_le (List.getElem?_eq_none_iff.mp hItem)]
        rfl
      | some item =>
        have hPart : (Json.arr items).child? segment = some item := by
          rw [Json.child?, hParse, Option.bind_some, hItem]
        change Except.ok ((Json.arr items).deleteAt [segment]) = _
        rw [Json.deleteAt]
        simp only [deletedSegment_of_child? hPart, hPart, if_true, Json.removeChild, hParse]
    · rename_i hLow
      rw [deleteLast_unmatched_arr fun i _ => by
        simp only [MatchesIndex, hStar, hIndex, false_or, Option.some.injEq]
        omega]
      rfl

theorem foldlM_deleteLast (hTrim : XyApi.trimSpace segment = segment)
    (hFits : SegmentFits segment node) (hOne : DeletesOne segment node) :
    (collectWildcardPaths node [segment]).foldlM (fun node path => .ok (node.deleteAt path)) node =
      (.ok (deleteLast segment node) : Except String Json) := by
  by_cases hStar : segment = "*"
  · subst hStar
    cases node with
    | obj fields =>
      have hPerm := sortedKeys_perm hFits.2.1
      have hPaths : collectWildcardPaths (.obj fields) ["*"] =
          (sortedKeys fields).map ([·]) := by
        rw [collect_star_obj hFits.2.1, List.map_eq_flatMap]
        refine List.flatMap_congr fun key hKey => ?_
        obtain ⟨field, hField, rfl⟩ := List.mem_map.mp (hPerm.mem_iff.mp hKey)
        rw [child?_of_mem hFits.2.1 hField]
        rfl
      rw [hPaths, foldlM_deleteAt_obj _ hFits.2.1, deleteLast]
      refine congrArg (fun fields => Except.ok (Json.obj fields)) (List.filter_congr ?_)
      intro field hField
      have hIn := hPerm.mem_iff.mpr (List.mem_map_of_mem hField)
      simp [hIn, MatchesKey]
    | arr items =>
      have hLength := hOne items rfl rfl
      cases items with
      | nil => rfl
      | cons item rest =>
        obtain rfl : rest = [] := List.length_eq_zero_iff.mp (by simpa using hLength)
        rw [collect_star_arr]
        change Except.ok ((Json.arr [item]).deleteAt [toString 0]) = _
        rw [Json.deleteAt]
        have hPart : (Json.arr [item]).child? (toString 0) = some item := by
          rw [Json.child?, parseIndex_toString]
          rfl
        simp only [deletedSegment_of_child? hPart, hPart, if_true, Json.removeChild,
          parseIndex_toString]
        rfl
    | null | bool _ | num _ | str _ =>
      rw [collect_scalar rfl]
      rfl
  · have hPlain := hFits.1 hStar
    cases node with
    | obj =>
      rw [collect_last_obj hTrim hPlain hStar]
      refine (foldlM_deleteAt_obj [segment] hFits.2.1).trans ?_
      simp [deleteLast, MatchesKey, hStar]
    | arr => exact foldlM_deleteLast_arr hTrim hStar hPlain hFits.2
    | null | bool _ | num _ | str _ =>
      rw [collect_scalar rfl]
      rfl

/-! ### The operation -/

def pattern (path : String) : List String :=
  (path.toList.splitOn '.').map fun text => XyApi.trimSpace (String.ofList text)

def lastChange : String → Json → Json :=
  if op.mode = .delete then deleteLast else setLast (accepted (change lib op))

def LastFits : String → Json → Prop :=
  if op.mode = .delete then DeletesOne else AcceptsLast (change lib op)

theorem collect_trimSpace :
    collectWildcardPaths node (texts.map XyApi.trimSpace) = collectWildcardPaths node texts := by
  induction texts generalizing node with
  | nil => rfl
  | cons text rest ih =>
    have hNil : rest.map XyApi.trimSpace = [] ↔ rest = [] := List.map_eq_nil_iff
    rw [List.map_cons]
    simp only [collectWildcardPaths, trimSpace_trimSpace, ih, hNil]

theorem foldlM_lastChange {lib : JsonLib} {op : ParamOperation}
    (hTrim : XyApi.trimSpace segment = segment) (hFits : SegmentFits segment node)
    (hLast : LastFits lib op segment node) :
    (collectWildcardPaths node [segment]).foldlM (actAt lib op) node =
      .ok (lastChange lib op segment node) := by
  unfold LastFits at hLast
  unfold lastChange
  by_cases hMode : op.mode = .delete
  · have hAct : actAt lib op = fun node path => .ok (node.deleteAt path) := by
      funext node path
      rw [actAt, if_pos hMode]
    rw [if_pos hMode] at hLast ⊢
    rw [hAct]
    exact foldlM_deleteLast hTrim hFits hLast
  · have hAct : actAt lib op = updateAt (change lib op) := by
      funext node path
      rw [actAt, if_neg hMode]
    rw [if_neg hMode] at hLast ⊢
    rw [hAct]
    exact foldlM_setLast hTrim hFits hLast

theorem trimSpace_of_mem_pattern (h : segment ∈ pattern path) :
    XyApi.trimSpace segment = segment := by
  obtain ⟨text, -, rfl⟩ := List.mem_map.mp h
  exact trimSpace_trimSpace _

theorem pattern_ne_nil (path : String) : pattern path ≠ [] := by
  simp [pattern]

section Pattern

variable {path : String}
  (hAlong : Along Last (pattern path) doc)

include hAlong

theorem plain_of_mem_pattern (h : keys ∈ collectWildcardPaths doc (pattern path)) :
    keys ≠ [] ∧ ∀ key ∈ keys, PlainKey key := by
  obtain ⟨hLength, hPlain⟩ :=
    plain_of_mem_collect (fun _ => trimSpace_of_mem_pattern) hAlong h
  refine ⟨?_, hPlain⟩
  rintro rfl
  exact pattern_ne_nil path (List.length_eq_zero_iff.mp hLength.symm)

theorem resolveOperationPaths_eq (hWild : '*' ∈ path.toList) :
    resolveOperationPaths doc path = (collectWildcardPaths doc (pattern path)).map joinPath := by
  have hCollect : collectWildcardPaths doc ((path.toList.splitOn '.').map String.ofList) =
      collectWildcardPaths doc (pattern path) := by
    rw [← collect_trimSpace, List.map_map]
    rfl
  rw [resolveOperationPaths, if_pos hWild, expandWildcardPaths, hCollect]
  -- Different paths have different texts: each text is read back as its path.
  refine uniq_of_nodup (List.Nodup.map_on ?_
    (nodup_collect (fun _ => trimSpace_of_mem_pattern) hAlong))
  intro first hFirst second hSecond hEq
  have hOne := plain_of_mem_pattern hAlong hFirst
  have hTwo := plain_of_mem_pattern hAlong hSecond
  have hParse := congrArg parsePath hEq
  rw [parsePath_joinPath hOne.1 hOne.2, parsePath_joinPath hTwo.1 hTwo.2] at hParse
  exact Option.some.inj hParse

end Pattern

/-- The operation runs at the resolved paths, read as segments. -/
theorem applyOperation_ok {lib : JsonLib} {op : ParamOperation} {doc out : Json} {path : String}
    {paths : List (List String)} (hPath : processNegativeIndex lib doc op.path = path)
    (hPaths : resolveOperationPaths doc path = paths.map joinPath)
    (hPlain : ∀ keys ∈ paths, keys ≠ [] ∧ ∀ key ∈ keys, PlainKey key)
    (hRun : paths.foldlM (actAt lib op) doc = .ok out) : applyOperation lib op doc = .ok out := by
  have hEach : applyEach lib op doc
      (resolveOperationPaths doc (processNegativeIndex lib doc op.path)) = .ok out := by
    rw [hPath, hPaths, applyEach_joinPath lib op hPlain, hRun]
  unfold applyOperation
  dsimp only
  rw [hEach]

def setAll : ParamOperation where
  path := "m.*"
  mode := .set
  value := .num "5"

def deleteAll : ParamOperation where
  path := "a.*"
  mode := .delete

def twoKeys : Json :=
  .obj [("k", .num "0"), ("m", .obj [("x", .num "1"), ("y", .num "2")])]

def dottedKey : Json := .obj [("m", .obj [("x.y", .num "1")])]

def threeElements : Json := .obj [("a", .arr [.num "1", .num "2", .num "3"])]

/-- The texts of the samples, read once. -/
theorem sample_texts :
    (processNegativeIndex sampleJsonLib twoKeys "m.*" = "m.*" ∧
      processNegativeIndex sampleJsonLib dottedKey "m.*" = "m.*" ∧
      processNegativeIndex sampleJsonLib threeElements "a.*" = "a.*") ∧
    (pattern "m.*" = ["m", "*"] ∧ pattern "a.*" = ["a", "*"] ∧
      ("m.*".toList.splitOn '.').map String.ofList = ["m", "*"]) ∧
    (PlainKey "m" ∧ PlainKey "x" ∧ PlainKey "y" ∧ PlainKey "a" ∧ PlainKey "0" ∧
      PlainKey "1" ∧ PlainKey "2" ∧ XyApi.trimSpace "m" = "m") ∧
    (parseIndex "0" = some 0 ∧ parseIndex "1" = some 1 ∧ parseIndex "2" = some 2 ∧
      parseIndex "y" = none) ∧
    resolveOperationPaths threeElements "a.*" =
      [["a", "0"], ["a", "1"], ["a", "2"]].map joinPath ∧
    uniq [joinPath ["m", "x.y"]] = [joinPath ["m", "x", "y"]] := by
  decide +kernel

end XyApi.Override

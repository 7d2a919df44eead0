import XyApi.Override.Json
import Mathlib.Data.List.Nodup

/-!
Laws of the parts of a node: reading what was written, writing twice, and writing what is
there. From them, an operation that acts below a part can be run on the part alone, and a
sequence of operations below different parts acts on each part once.
-/

namespace XyApi.Override

variable (f : Json → Json)

variable {key : String} {part node : Json}

theorem find?_replaceField_self (value : Json) (h : fields.find? (·.1 = key) = some field) :
    (replaceField key value fields).find? (·.1 = key) = some (key, value) := by
  induction fields with
  | nil => simp at h
  | cons first rest ih =>
    by_cases hKey : first.1 = key
    · simp [replaceField_cons, hKey]
    · rw [List.find?_cons_of_neg (by simpa using hKey)] at h
      rw [replaceField_cons, if_neg hKey, List.find?_cons_of_neg (by simpa using hKey), ih h]

theorem find?_replaceField_ne (hNe : key ≠ other) (value : Json) (fields : List (String × Json)) :
    (replaceField key value fields).find? (·.1 = other) = fields.find? (·.1 = other) := by
  induction fields with
  | nil => rfl
  | cons first rest ih =>
    by_cases hKey : first.1 = key
    · have hOther : first.1 ≠ other := fun h => hNe (hKey.symm.trans h)
      rw [replaceField_cons, if_pos hKey, List.find?_cons_of_neg (by simpa using hNe),
        List.find?_cons_of_neg (by simpa using hOther)]
    · rw [replaceField_cons, if_neg hKey, List.find?_cons, List.find?_cons, ih]

theorem replaceField_replaceField :
    replaceField key new (replaceField key value fields) = replaceField key new fields := by
  induction fields with
  | nil => rfl
  | cons first rest ih =>
    by_cases hKey : first.1 = key
    · simp [replaceField_cons, hKey]
    · simp [replaceField_cons, hKey, ih]

theorem replaceField_self (h : fields.find? (·.1 = key) = some field) :
    replaceField key field.2 fields = fields := by
  induction fields with
  | nil => rfl
  | cons first rest ih =>
    by_cases hKey : first.1 = key
    · rw [List.find?_cons_of_pos (by simpa using hKey)] at h
      cases h
      rw [replaceField_cons, if_pos hKey, ← hKey]
    · rw [List.find?_cons_of_neg (by simpa using hKey)] at h
      rw [replaceField_cons, if_neg hKey, ih h]

/-- With distinct keys one field has the key. -/
theorem replaceField_eq_map (hNodup : (fields.map Prod.fst).Nodup)
    (h : fields.find? (·.1 = key) = some (key, part)) :
    replaceField key value fields =
      fields.map fun field => if field.1 = key then (field.1, value) else field := by
  induction fields with
  | nil => rfl
  | cons first rest ih =>
    rw [List.map_cons, List.nodup_cons] at hNodup
    by_cases hKey : first.1 = key
    · have hRest : rest.map (fun field => if field.1 = key then (field.1, value) else field) =
          rest := by
        refine (List.map_congr_left fun field hField => ?_).trans (List.map_id rest)
        have hOther : field.1 ≠ key := fun hEq =>
          hNodup.1 (hKey ▸ hEq ▸ List.mem_map_of_mem hField)
        rw [if_neg hOther, id]
      rw [replaceField_cons, if_pos hKey, List.map_cons, if_pos hKey, hRest, hKey]
    · rw [List.find?_cons_of_neg (by simpa using hKey)] at h
      rw [replaceField_cons, if_neg hKey, List.map_cons, if_neg hKey, ih hNodup.2 h]

namespace Json

theorem child?_obj_some (h : (Json.obj fields).child? key = some part) :
    fields.find? (·.1 = key) = some (key, part) := by
  obtain ⟨⟨name, value⟩, hFind, rfl⟩ := Option.map_eq_some_iff.mp h
  have hName : name = key := by simpa using List.find?_some hFind
  rw [hFind, hName]

theorem child?_arr_some (h : (Json.arr items).child? key = some part) :
    ∃ i, parseIndex key = some i ∧ items[i]? = some part :=
  Option.bind_eq_some_iff.mp h

theorem child?_setChild_self (value : Json) (h : node.child? key = some part) :
    (node.setChild key value).child? key = some value := by
  cases node with
  | obj =>
    rw [setChild_obj, child?_obj, find?_replaceField_self value (child?_obj_some h)]
    rfl
  | arr items =>
    obtain ⟨i, hIndex, hItem⟩ := child?_arr_some h
    have hLt := (List.getElem?_eq_some_iff.mp hItem).1
    rw [setChild_arr items hIndex, child?_arr, hIndex]
    simp [hLt]
  | null | bool _ | num _ | str _ => cases h

theorem setChild_setChild (node : Json) (key : String) (value new : Json) :
    (node.setChild key value).setChild key new = node.setChild key new := by
  cases node with
  | obj => simp only [setChild_obj, replaceField_replaceField]
  | arr =>
    cases hIndex : parseIndex key with
    | none => simp only [setChild_arr_none _ hIndex]
    | some => simp only [setChild_arr _ hIndex, List.set_set]
  | null | bool _ | num _ | str _ => rfl

theorem setChild_self (h : node.child? key = some part) : node.setChild key part = node := by
  cases node with
  | obj =>
    have hFind := child?_obj_some h
    exact congrArg Json.obj (replaceField_self hFind)
  | arr items =>
    obtain ⟨i, hIndex, hItem⟩ := child?_arr_some h
    have hLt := (List.getElem?_eq_some_iff.mp hItem).1
    have hEq := (List.getElem?_eq_some_iff.mp hItem).2
    rw [setChild_arr items hIndex, ← hEq, List.set_getElem_self]
  | null | bool _ | num _ | str _ => cases h

inductive Shape
  | object
  | array
  | scalar

def shape : Json → Shape
  | .obj _ => .object
  | .arr _ => .array
  | _ => .scalar

theorem shape_setChild :
    (node.setChild key value).shape = node.shape := by
  cases node with
  | arr items =>
    cases hIndex : parseIndex key with
    | none => rw [setChild_arr_none items hIndex]
    | some =>
      rw [setChild_arr items hIndex]
      rfl
  | obj _ | null | bool _ | num _ | str _ => rfl

/-- Writing one of the two parts leaves the other, in nodes of this shape. -/
def Apart (shape : Shape) (key other : String) : Prop :=
  ∀ node : Json, node.shape = shape → ∀ value,
    (node.setChild key value).child? other = node.child? other

theorem apart_object (h : key ≠ other) : Apart .object key other := by
  intro node hShape value
  cases node with
  | obj fields => exact congrArg (Option.map Prod.snd) (find?_replaceField_ne h value fields)
  | null | bool _ | num _ | str _ | arr _ => cases hShape

theorem apart_array {i j : Nat} (h : i ≠ j) : Apart .array (toString i) (toString j) := by
  intro node hShape value
  cases node with
  | arr items =>
    simp only [setChild_arr items (parseIndex_toString i), child?_arr, parseIndex_toString,
      Option.bind_some, List.getElem?_set_ne h]
  | null | bool _ | num _ | str _ | obj _ => cases hShape

def modifyChild (node : Json) (key : String) : Json :=
  match node.child? key with
  | some part => node.setChild key (f part)
  | none => node

theorem modifyChild_of_child? (h : node.child? key = some part) :
    modifyChild f node key = node.setChild key (f part) := by
  rw [modifyChild, h]

theorem eq_of_mem_fields (hNodup : (fields.map Prod.fst).Nodup)
    (hPart : (Json.obj fields).child? key = some part) (hField : field ∈ fields)
    (hKey : field.1 = key) : field.2 = part := by
  have hMem := List.mem_of_find?_eq_some (child?_obj_some hPart)
  rw [List.inj_on_of_nodup_map hNodup hField hMem hKey]

theorem child?_obj_eq_none (h : (Json.obj fields).child? key = none) :
    ∀ field ∈ fields, field.1 ≠ key := by
  have hFind := List.find?_eq_none.mp (Option.map_eq_none_iff.mp h)
  exact fun field hField => by simpa using hFind field hField

theorem modifyChild_obj (hNodup : (fields.map Prod.fst).Nodup) (key : String) :
    modifyChild f (.obj fields) key = .obj (fields.map fun field => if field.1 = key then (field.1,
      f field.2) else field) := by
  cases hPart : (Json.obj fields).child? key with
  | none =>
    rw [modifyChild, hPart]
    refine congrArg Json.obj ((List.map_id fields).symm.trans (List.map_congr_left ?_))
    intro field hField
    rw [if_neg (child?_obj_eq_none hPart field hField), id]
  | some =>
    rw [modifyChild_of_child? f hPart, setChild_obj,
      replaceField_eq_map hNodup (child?_obj_some hPart)]
    refine congrArg Json.obj (List.map_congr_left fun field hField => ?_)
    split
    · rename_i hKey
      rw [eq_of_mem_fields hNodup hPart hField hKey]
    · rfl

/-- Each of the keys is changed once, whatever their order. -/
theorem foldl_modifyChild_obj {keys : List String} {fields : List (String × Json)}
    (hNodup : (fields.map Prod.fst).Nodup) (hKeys : keys.Nodup) :
    keys.foldl (modifyChild f) (.obj fields) = .obj (fields.map fun field => if field.1 ∈ keys then
      (field.1, f field.2) else field) := by
  induction keys generalizing fields with
  | nil => simp
  | cons key keys ih =>
    have hSplit := List.nodup_cons.mp hKeys
    rw [List.foldl_cons, modifyChild_obj f hNodup, ih _ hSplit.2, List.map_map]
    · refine congrArg Json.obj (List.map_congr_left fun field _ => ?_)
      by_cases hKey : field.1 = key
      · simp [hKey, hSplit.1]
      · simp [hKey]
    · have hSame : (fields.map fun field =>
          if field.1 = key then (field.1, f field.2) else field).map Prod.fst =
          fields.map Prod.fst := by
        rw [List.map_map]
        refine List.map_congr_left fun field _ => ?_
        simp only [Function.comp_apply]
        split <;> rfl
      rwa [hSame]

theorem modifyChild_arr (items : List Json) (hIndex : parseIndex key = some i) :
    modifyChild f (.arr items) key = .arr (items.modify i f) := by
  have hChild : (Json.arr items).child? key = items[i]? := by
    rw [child?_arr, hIndex, Option.bind_some]
  cases hItem : items[i]? with
  | none =>
    rw [modifyChild, hChild, hItem, List.modify_eq_self (List.getElem?_eq_none_iff.mp hItem)]
  | some =>
    rw [modifyChild_of_child? f (hChild.trans hItem), setChild_arr items hIndex,
      List.modify_eq_set_getElem?, hItem]
    rfl

theorem foldl_modify_range (items : List Json) (n : Nat) :
    (List.range n).foldl (fun items i => items.modify i f) items = items.mapIdx fun i item => if i
      < n then f item else item := by
  induction n with
  | zero => exact List.ext_getElem? fun j => by simp
  | succ n ih =>
    rw [List.range_succ, List.foldl_append, ih, List.foldl_cons, List.foldl_nil]
    refine List.ext_getElem? fun j => ?_
    rw [List.getElem?_modify, List.getElem?_mapIdx, List.getElem?_mapIdx]
    cases items[j]? with
    | none => rfl
    | some =>
      by_cases hn : n = j
      · simp [hn]
      · have hLt : j < n + 1 ↔ j < n := by omega
        simp [hn, hLt]

theorem foldl_modifyChild_arr (items : List Json) :
    ((List.range items.length).map toString).foldl (modifyChild f) (.arr items) = .arr (items.map
      f) := by
  have hFold (indexes : List Nat) (items : List Json) :
      (indexes.map toString).foldl (modifyChild f) (.arr items) =
        .arr (indexes.foldl (fun items i => items.modify i f) items) := by
    induction indexes generalizing items with
    | nil => rfl
    | cons i indexes ih =>
      rw [List.map_cons, List.foldl_cons, modifyChild_arr f items (parseIndex_toString i), ih]
      rfl
  rw [hFold, foldl_modify_range]
  refine congrArg Json.arr (List.ext_getElem? fun j => ?_)
  rw [List.getElem?_mapIdx, List.getElem?_map]
  cases hItem : items[j]? with
  | none => rfl
  | some => simp [(List.getElem?_eq_some_iff.mp hItem).1]

end Json

/-! ### Operations below a part -/

/-- An operation on a path that starts with a part acts on that part. -/
def Descends (act : Json → List String → Except String Json) (Below : List String → Prop) :
    Prop :=
  ∀ node key part path, Below path → node.child? key = some part →
    act node (key :: path) = (act part path).map (node.setChild key)

section Descent

theorem foldlM_below (hAct : Descends act Below) {paths : List (List String)}
    (hBelow : ∀ path ∈ paths, Below path) (hPart : node.child? key = some part) :
    (paths.map (key :: ·)).foldlM act node =
      (paths.foldlM act part).map (node.setChild key) := by
  induction paths generalizing node part with
  | nil => exact congrArg Except.ok (Json.setChild_self hPart).symm
  | cons path paths ih =>
    have hStep := hAct node key part path (hBelow path List.mem_cons_self) hPart
    rw [List.map_cons, List.foldlM_cons, List.foldlM_cons, hStep]
    cases act part path with
    | error => rfl
    | ok next =>
      have hRest := ih (fun p hp => hBelow p (List.mem_cons_of_mem _ hp))
        (Json.child?_setChild_self next hPart)
      have hSet : (node.setChild key next).setChild key = node.setChild key :=
        funext (Json.setChild_setChild node key next)
      rw [hSet] at hRest
      exact hRest

theorem foldlM_groups {ι : Type} (hAct : Descends act Below) (f : Json → Json)
    (name : ι → String) (paths : ι → List (List String)) (groups : List ι) (node : Json)
    (hBelow : ∀ g ∈ groups, ∀ path ∈ paths g, Below path)
    (hApart : groups.Pairwise fun g h => Json.Apart node.shape (name g) (name h))
    (hParts : ∀ g ∈ groups, ∃ part, node.child? (name g) = some part ∧
      (paths g).foldlM act part = .ok (f part)) :
    (groups.flatMap fun g => (paths g).map (name g :: ·)).foldlM act node =
      .ok ((groups.map name).foldl (Json.modifyChild f) node) := by
  induction groups generalizing node with
  | nil => rfl
  | cons g groups ih =>
    obtain ⟨part, hPart, hRun⟩ := hParts g List.mem_cons_self
    have hPairs := List.pairwise_cons.mp hApart
    rw [List.flatMap_cons, List.foldlM_append,
      foldlM_below hAct (hBelow g List.mem_cons_self) hPart, hRun, List.map_cons,
      List.foldl_cons, Json.modifyChild_of_child? f hPart]
    refine ih _ (fun h hh => hBelow h (List.mem_cons_of_mem _ hh)) ?_ ?_
    · rw [Json.shape_setChild]
      exact hPairs.2
    · intro h hh
      obtain ⟨other, hOther, hOtherRun⟩ := hParts h (List.mem_cons_of_mem _ hh)
      exact ⟨other, (hPairs.1 h hh node rfl (f part)).trans hOther, hOtherRun⟩

end Descent

end XyApi.Override

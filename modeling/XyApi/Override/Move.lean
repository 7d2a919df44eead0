import XyApi.Override.WildcardOperations

/-!
Moving a value. It is written at the destination, and then the source is deleted in the
document as the write left it. The value arrives, and the source is gone, when the two
paths part at different keys of one object and the source is a key of an object. A value
that is moved to its own place is deleted, and an element that leaves an array gives its
index to the next one.
-/

namespace XyApi.Override

variable {key other : String} {node part value : Json}

def moveValue (lib : JsonLib) (doc : Json) (fromPath toPath : String) : Except String Json :=
  match lib.get doc fromPath with
  | none => .error ("source path does not exist: " ++ fromPath)
  | some value => do
    let result ← lib.set doc toPath (lib.recode value)
    lib.delete result fromPath

def applyMove (lib : JsonLib) (doc : Json) (source target : String) : Except String Json :=
  moveValue lib doc (processNegativeIndex lib doc source) (processNegativeIndex lib doc target)

def Fork : Json → List String → List String → Prop
  | node, key :: rest, other :: rest' =>
    if key = other then ∃ part, node.child? key = some part ∧ Fork part rest rest'
    else ∃ fields, node = .obj fields
  | _, _, _ => False

/-- The path ends at a key of an object whose keys are distinct. -/
def EndsAtKey : Json → List String → Prop
  | _, [] => False
  | node, [_] => ∃ fields, node = .obj fields ∧ (fields.map Prod.fst).Nodup
  | node, key :: rest => ∀ part, node.child? key = some part → EndsAtKey part rest

/-! ### Reading what was written -/

theorem getAt_build (h : "-1" ∉ path) :
    (Json.build path value).getAt path = some value := by
  induction path with
  | nil => rfl
  | cons segment rest ih =>
    have hRest := ih fun hMem => h (List.mem_cons_of_mem _ hMem)
    have hNe : segment ≠ "-1" := fun hEq => h (hEq ▸ List.mem_cons_self)
    rw [Json.build]
    cases hIndex : parseIndex segment with
    | none => simp [Json.getAt, Json.child?, hNe, hRest]
    | some => simp [Json.getAt, Json.child?, hIndex, hRest]

theorem child?_addChild (hNe : key ≠ "-1") (hNone : node.child? key = none)
    (h : node.addChild key value = .ok out) : out.child? key = some value := by
  cases node with
  | obj fields =>
    cases h
    have hFind : fields.find? (·.1 = key) = none := Option.map_eq_none_iff.mp hNone
    simp [Json.child?, List.find?_append, hFind]
  | arr items =>
    rw [Json.addChild] at h
    cases hIndex : parseIndex key with
    | none => simp [hIndex, hNe] at h
    | some i =>
      rw [Json.child?, hIndex, Option.bind_some, List.getElem?_eq_none_iff] at hNone
      simp only [hIndex] at h
      cases h
      have hLength : (items ++ List.replicate (i - items.length) Json.null).length = i := by
        rw [List.length_append, List.length_replicate]
        omega
      rw [Json.child?, hIndex, Option.bind_some, List.getElem?_append_right hLength.le, hLength]
      simp
  | null | bool _ | num _ | str _ =>
    simp only [Json.addChild] at h
    cases hIndex : parseIndex key with
    | none =>
      simp only [hIndex] at h
      cases h
      simp [Json.child?]
    | some =>
      simp only [hIndex] at h
      cases h
      simp [Json.child?, hIndex]

theorem getAt_setAt (hPath : "-1" ∉ path) (h : node.setAt path value = .ok out) :
    out.getAt path = some value := by
  induction path generalizing node out with
  | nil => exact congrArg some (Except.ok.inj h).symm
  | cons segment rest ih =>
    have hRest : "-1" ∉ rest := fun hMem => hPath (List.mem_cons_of_mem _ hMem)
    have hNe : segment ≠ "-1" := fun hEq => hPath (hEq ▸ List.mem_cons_self)
    rw [Json.setAt] at h
    cases hPart : node.child? segment with
    | none =>
      simp only [hPart] at h
      rw [Json.getAt, child?_addChild hNe hPart h, Option.bind_some, getAt_build hRest]
    | some part =>
      simp only [hPart] at h
      cases hSet : part.setAt rest value with
      | error => simp [hSet, bind, Except.bind] at h
      | ok next =>
        simp only [hSet, bind, Except.bind] at h
        cases h
        rw [Json.getAt, Json.child?_setChild_self next hPart, Option.bind_some, ih hRest hSet]

/-- A write below one key of an object leaves its other keys alone. -/
theorem setAt_obj (hNe : key ≠ other) (h : (Json.obj fields).setAt (other :: rest) value = .ok out)
    :
    ∃ fields', out = .obj fields' ∧ out.child? key = (Json.obj fields).child? key ∧
      ((fields.map Prod.fst).Nodup → (fields'.map Prod.fst).Nodup) := by
  rw [Json.setAt] at h
  cases hPart : (Json.obj fields).child? other with
  | none =>
    simp only [hPart, Json.addChild] at h
    cases h
    refine ⟨_, rfl, ?_, fun hNodup => ?_⟩
    · simp [Json.child?, List.find?_append, Ne.symm hNe]
    · rw [List.map_append, List.map_singleton, List.nodup_append]
      refine ⟨hNodup, List.nodup_singleton _, fun a ha b hb => ?_⟩
      obtain ⟨field, hField, rfl⟩ := List.mem_map.mp ha
      exact List.mem_singleton.mp hb ▸ Json.child?_obj_eq_none hPart field hField
  | some part =>
    simp only [hPart] at h
    cases hSet : part.setAt rest value with
    | error => simp [hSet, bind, Except.bind] at h
    | ok next =>
      simp only [hSet, bind, Except.bind] at h
      cases h
      refine ⟨_, rfl, Json.apart_object hNe.symm _ rfl next, fun hNodup => ?_⟩
      have hKeys := Json.modifyChild_obj (fun _ => next) hNodup other
      rw [Json.modifyChild_of_child? _ hPart, Json.setChild_obj, Json.obj.injEq] at hKeys
      rw [hKeys, List.map_map]
      convert hNodup using 2
      funext field
      simp only [Function.comp_apply]
      split <;> rfl

/-! ### The source -/

theorem deleteAt_cons (hPath : path ≠ []) (hPart : node.child? key = some part) :
    node.deleteAt (key :: path) = node.setChild key (part.deleteAt path) :=
  Except.ok.inj (deleteAt_descends node key part path hPath hPart)

theorem child?_deleteAt_obj (hNodup : (fields.map Prod.fst).Nodup) (key other : String) :
    ((Json.obj fields).deleteAt [key]).child? other =
      if other = key then none else (Json.obj fields).child? other := by
  rw [deleteAt_obj hNodup, Json.child?_obj, Json.child?_obj, List.find?_filter]
  split
  · rename_i hEq
    subst hEq
    simp
  · rename_i hNe
    congr 2
    funext field
    by_cases hField : field.1 = other
    · simp [hField, hNe]
    · simp [hField]

theorem getAt_deleteAt (h : EndsAtKey node path) (hValue : node.getAt path = some value) :
    (node.deleteAt path).getAt path = none := by
  induction path generalizing node with
  | nil => cases h
  | cons key rest ih =>
    cases rest with
    | nil =>
      obtain ⟨fields, rfl, hNodup⟩ := h
      rw [Json.getAt, child?_deleteAt_obj hNodup, if_pos rfl, Option.bind_none]
    | cons =>
      obtain ⟨part, hPart, hValue⟩ := Option.bind_eq_some_iff.mp hValue
      rw [deleteAt_cons (by simp) hPart, Json.getAt, Json.child?_setChild_self _ hPart,
        Option.bind_some, ih (h part hPart) hValue]

/-- The deletion of the source leaves what was written, and the source is gone. -/
theorem move_segments (hFork : Fork node source target) (hSource : EndsAtKey node source)
    (hOld : node.getAt source = some old) (hTarget : "-1" ∉ target)
    (hSet : node.setAt target value = .ok mid) :
    (mid.deleteAt source).getAt target = some value ∧
      (mid.deleteAt source).getAt source = none := by
  have hWritten := getAt_setAt hTarget hSet
  induction source generalizing node target mid with
  | nil => cases hFork
  | cons key rest ih =>
    cases target with
    | nil => cases hFork
    | cons other rest' =>
      obtain ⟨part, hPart, hBelow⟩ := Option.bind_eq_some_iff.mp hOld
      rw [Fork] at hFork
      split at hFork
      · -- one part further down
        rename_i hEq
        subst hEq
        obtain ⟨part', hPart', hFork⟩ := hFork
        obtain rfl : part = part' := Option.some.inj (hPart.symm.trans hPart')
        cases rest with
        | nil => cases hFork
        | cons =>
          have hTail : "-1" ∉ rest' := fun hMem => hTarget (List.mem_cons_of_mem _ hMem)
          simp only [Json.setAt, hPart] at hSet
          cases hNext : part.setAt rest' value with
          | error => simp [hNext, bind, Except.bind] at hSet
          | ok out =>
            simp only [hNext, bind, Except.bind] at hSet
            cases hSet
            rw [deleteAt_cons (by simp) (Json.child?_setChild_self out hPart),
              Json.setChild_setChild, Json.getAt, Json.getAt, Json.child?_setChild_self _ hPart]
            exact ih hFork (hSource part hPart) hBelow hTail hNext (getAt_setAt hTail hNext)
      · -- the node where the paths part
        rename_i hNe
        obtain ⟨fields, rfl⟩ := hFork
        obtain ⟨fields', rfl, hKept, hNodup⟩ := setAt_obj hNe hSet
        cases rest with
        | nil =>
          obtain ⟨_, hFields, hDistinct⟩ := hSource
          cases hFields
          have hChild := child?_deleteAt_obj (hNodup hDistinct) key
          rw [Json.getAt, Json.getAt, hChild, hChild, if_neg (Ne.symm hNe), if_pos rfl]
          exact ⟨hWritten, rfl⟩
        | cons =>
          have hMid := hKept.trans hPart
          rw [deleteAt_cons (by simp) hMid, Json.getAt, Json.getAt,
            Json.child?_setChild_self _ hMid, Json.apart_object hNe _ rfl]
          exact ⟨hWritten, getAt_deleteAt (hSource part hPart) hBelow⟩

/-- A move between plain paths, as it acts on their segments. -/
theorem applyMove_eq (hFrom : parsePath (processNegativeIndex lib doc source) = some origin)
    (hTo : parsePath (processNegativeIndex lib doc target) = some place)
    (hValue : doc.getAt origin = some value) :
    applyMove lib doc source target =
      (doc.setAt place (lib.recode value)).map fun mid => mid.deleteAt origin := by
  unfold applyMove moveValue
  simp only [JsonLib.get, JsonLib.set, JsonLib.delete, hFrom, hTo, hValue]
  cases doc.setAt place (lib.recode value) <;> rfl

def oneElement : Json := .obj [("a", .num "1"), ("b", .arr [.num "1", .num "2", .num "3"])]

/-- The texts of the samples, read once. -/
theorem move_texts :
    (parsePath (processNegativeIndex sampleJsonLib oneElement "a") = some ["a"] ∧
      parsePath (processNegativeIndex sampleJsonLib oneElement "b.0") = some ["b", "0"] ∧
      parsePath (processNegativeIndex sampleJsonLib oneElement "b.1") = some ["b", "1"] ∧
      parsePath (processNegativeIndex sampleJsonLib oneElement "c") = some ["c"]) ∧
    parseIndex "0" = some 0 ∧ parseIndex "1" = some 1 := by
  decide +kernel

end XyApi.Override

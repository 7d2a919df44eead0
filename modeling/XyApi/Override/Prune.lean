import Mathlib
import XyApi.Override.NegativeIndex

/-!
Pruning of objects: below a selected node, every object that meets a condition is taken
out, whatever it contains. The condition is checked on an object as it was decoded, before
anything is taken out of it. What is left is the filtered tree: the elements and members
that do not match, in their order, each of them filtered in turn.
-/

namespace XyApi.Override

variable (lib : ConditionLib)

/-! ### Conditions -/

structure ConditionOperation where
  path : String
  mode : String
  value : Json := .null
  invert : Bool := false
  passMissingKey : Bool := false

/-- The text of a value and the number that a literal stands for. -/
structure ConditionLib extends JsonLib where
  text : Json → String
  number : String → ℚ

def compareEqual (value target : Json) : Except String Bool :=
  match value, target with
  | .null, .null => .ok true
  | .null, _ | _, .null => .ok false
  | .bool a, .bool b => .ok (decide (a = b))
  | .num a, .num b => .ok (decide (lib.number a = lib.number b))
  | .str a, .str b => .ok (decide (a = b))
  | value, target =>
    if typeName (some value) = typeName (some target) then
      .ok (decide (lib.text value = lib.text target))
    else .error ("compare for different types, got " ++ typeName (some value) ++ " and " ++
      typeName (some target))

def compareNumeric (value target : Json) (holds : ℚ → ℚ → Bool) : Except String Bool :=
  match value, target with
  | .num a, .num b => .ok (holds (lib.number a) (lib.number b))
  | _, _ => .error ("numeric comparison requires both values to be numbers, got " ++
      typeName (some value) ++ " and " ++ typeName (some target))

def compareGjsonValues (value target : Json) (mode : String) : Except String Bool :=
  let text := (lib.text value).toList
  let part := (lib.text target).toList
  match mode with
  | "full" => compareEqual lib value target
  | "prefix" => .ok (decide (part <+: text))
  | "suffix" => .ok (decide (part <:+ text))
  | "contains" => .ok (decide (part <:+: text))
  | "gt" => compareNumeric lib value target fun a b => decide (a > b)
  | "gte" => compareNumeric lib value target fun a b => decide (a ≥ b)
  | "lt" => compareNumeric lib value target fun a b => decide (a < b)
  | "lte" => compareNumeric lib value target fun a b => decide (a ≤ b)
  | _ => .error ("unsupported comparison mode: " ++ mode)

def checkSingleCondition (data : Json) (context : Option Json) (condition : ConditionOperation) :
    Except String Bool :=
  let path := processNegativeIndex lib.toJsonLib data condition.path
  match (lib.get data path).or (context.bind fun json => lib.get json condition.path) with
  | none => .ok condition.passMissingKey
  | some value =>
    match compareGjsonValues lib value condition.value (toLower condition.mode) with
    | .ok result => .ok (result != condition.invert)
    | .error e => .error ("comparison failed for path " ++ condition.path ++ ": " ++ e)

def checkConditions (data : Json) (context : Option Json) (conditions : List ConditionOperation)
    (logic : String) : Except String Bool :=
  if conditions.isEmpty then .ok true else do
    let results ← conditions.mapM (checkSingleCondition lib data context)
    .ok (if toUpper logic = "AND" then results.all id else results.any id)

/-! ### Pruning -/

structure PruneObjectsOptions where
  conditions : List ConditionOperation
  logic : String := "AND"
  recursive : Bool := true

mutual

/-- `none` drops the node. -/
def pruneObjectsNode (shouldPrune : Json → Except String Bool) (recursive isRoot : Bool) :
    Json → Except String (Option Json)
  | .arr items => do
    let items ← pruneItems shouldPrune recursive items
    .ok (some (.arr items))
  | .obj fields => do
    let shouldDrop ← shouldPrune (.obj fields)
    if shouldDrop && !isRoot then .ok none
    else if !recursive then .ok (some (.obj fields))
    else do
      let fields ← pruneFields shouldPrune recursive fields
      .ok (some (.obj fields))
  | node => .ok (some node)

def pruneItems (shouldPrune : Json → Except String Bool) (recursive : Bool) :
    List Json → Except String (List Json)
  | [] => .ok []
  | item :: rest => do
    let next ← pruneObjectsNode shouldPrune recursive false item
    let rest ← pruneItems shouldPrune recursive rest
    .ok (next.toList ++ rest)

def pruneFields (shouldPrune : Json → Except String Bool) (recursive : Bool) :
    List (String × Json) → Except String (List (String × Json))
  | [] => .ok []
  | (key, child) :: rest => do
    let next ← pruneObjectsNode shouldPrune recursive false child
    let rest ← pruneFields shouldPrune recursive rest
    .ok ((next.map fun child => (key, child)).toList ++ rest)

end

def pruneObjects (doc : Json) (path : String) (context : Option Json)
    (options : PruneObjectsOptions) : Except String Json :=
  let shouldPrune node := checkConditions lib node context options.conditions options.logic
  match if path = "" then some doc else lib.get doc path with
  | none => .ok doc
  | some target => do
    let cleaned ← pruneObjectsNode shouldPrune options.recursive true (lib.recode target)
    if path = "" then .ok (cleaned.getD .null) else lib.set doc path (cleaned.getD .null)

/-! ### The filtered tree -/

section Filter

variable (matching : Json → Bool)

mutual

def filtered : Json → Json
  | .arr items => .arr (filteredItems items)
  | .obj fields => .obj (filteredFields fields)
  | node => node

def filteredItems : List Json → List Json
  | [] => []
  | item :: rest =>
    if matching item then filteredItems rest else filtered item :: filteredItems rest

def filteredFields : List (String × Json) → List (String × Json)
  | [] => []
  | (key, child) :: rest =>
    if matching child then filteredFields rest
    else (key, filtered child) :: filteredFields rest

end

theorem filteredItems_eq :
    filteredItems matching items =
      (items.filter fun item => !matching item).map (filtered matching) := by
  induction items with
  | nil => simp only [filteredItems, List.filter_nil, List.map_nil]
  | cons item rest ih => cases hItem : matching item <;> simp [filteredItems, hItem, ih]

theorem filteredFields_eq :
    filteredFields matching fields =
      (fields.filter fun field => !matching field.2).map fun field =>
        (field.1, filtered matching field.2) := by
  induction fields with
  | nil => simp only [filteredFields, List.filter_nil, List.map_nil]
  | cons field rest ih =>
    cases hField : matching field.2 <;> simp [filteredFields, hField, ih]

/-- A node below another one, where neither it nor a node on the way matches. -/
inductive Within : Json → Json → Prop
  | item {items : List Json} {item : Json} (hMem : item ∈ items)
      (hClear : matching item = false) : Within (.arr items) item
  | field {fields : List (String × Json)} {key : String} {child : Json}
      (hMem : (key, child) ∈ fields) (hClear : matching child = false) :
      Within (.obj fields) child
  | trans {node middle below : Json} (hUpper : Within node middle)
      (hLower : Within middle below) : Within node below

abbrev Below : Json → Json → Prop :=
  Within fun _ => false

variable {matching} {node below : Json}

theorem Within.clear (h : Within matching node below) : matching below = false := by
  induction h with
  | item _ hClear => exact hClear
  | field _ hClear => exact hClear
  | trans _ _ _ ih => exact ih

/-- What neither matches nor lies inside a match is still there. -/
theorem Within.kept (h : Within matching node below) :
    Below (filtered matching node) (filtered matching below) := by
  induction h with
  | item hMem hClear =>
    rw [filtered, filteredItems_eq]
    exact .item (List.mem_map_of_mem (List.mem_filter.mpr ⟨hMem, by rw [hClear]; rfl⟩)) rfl
  | @field fields key child hMem hClear =>
    rw [filtered, filteredFields_eq]
    refine .field (List.mem_map.mpr ⟨(key, child), ?_, rfl⟩) rfl
    exact List.mem_filter.mpr ⟨hMem, by rw [hClear]; rfl⟩
  | trans _ _ ihUpper ihLower => exact ihUpper.trans ihLower

/-- Whatever is in the filtered tree comes from a node that does not match. -/
theorem Within.of_filtered (h : Below (filtered matching node) below) :
    ∃ original, Within matching node original ∧ below = filtered matching original := by
  generalize hTree : filtered matching node = tree at h
  induction h generalizing node with
  | @item items item hMem =>
    cases node with
    | arr =>
      rw [filtered, filteredItems_eq, Json.arr.injEq] at hTree
      obtain ⟨original, hOriginal, rfl⟩ := List.mem_map.mp (hTree ▸ hMem)
      obtain ⟨hOld, hClear⟩ := List.mem_filter.mp hOriginal
      exact ⟨original, .item hOld (by simpa using hClear), rfl⟩
    | _ => simp [filtered] at hTree
  | @field fields key child hMem =>
    cases node with
    | obj =>
      rw [filtered, filteredFields_eq, Json.obj.injEq] at hTree
      obtain ⟨original, hOriginal, hEq⟩ := List.mem_map.mp (hTree ▸ hMem)
      obtain ⟨hOld, hClear⟩ := List.mem_filter.mp hOriginal
      cases hEq
      exact ⟨original.2, .field hOld (by simpa using hClear), rfl⟩
    | _ => simp [filtered] at hTree
  | trans _ _ ihUpper ihLower =>
    obtain ⟨middle, hUpper, rfl⟩ := ihUpper hTree
    obtain ⟨original, hLower, hEq⟩ := ihLower rfl
    exact ⟨original, hUpper.trans hLower, hEq⟩

end Filter

/-! ### Pruning filters -/

/-- A computation that gives the value, or fails only for the reason. -/
def Gives {α : Type} (failing : Prop) (result : α) : Except String α → Prop
  | .ok value => value = result
  | .error _ => failing

section Gives

variable {α β : Type} {failing : Prop}

theorem Gives.bind (hX : Gives failing a x) (hF : Gives failing b (f a)) :
    Gives failing b (x >>= f) := by
  cases x with
  | error => exact hX
  | ok value =>
    obtain rfl : value = a := hX
    exact hF

theorem Gives.mono {failing' : Prop} (hX : Gives failing a x) (hFails : failing → failing') :
    Gives failing' a x := by
  cases x with
  | error => exact hFails hX
  | ok => exact hX

end Gives

section Prune

variable (check : Json → Except String Bool)

def matched : Json → Bool
  | .obj fields => (check (.obj fields)).toOption.getD false
  | _ => false

/-- A node on which, or below which, the condition cannot be checked. -/
def Unchecked (node : Json) : Prop :=
  ∃ object, (object = node ∨ Below node object) ∧ ∃ e, check object = .error e

variable {check}

theorem Unchecked.up (h : Unchecked check child) (hBelow : Below node child) :
    Unchecked check node := by
  obtain ⟨object, rfl | hObject, hError⟩ := h
  · exact ⟨object, .inr hBelow, hError⟩
  · exact ⟨object, .inr (hBelow.trans hObject), hError⟩

variable (check)

mutual

theorem pruneObjectsNode_spec (isRoot : Bool) (node : Json) :
    Gives (Unchecked check node)
      (if matched check node && !isRoot then none else some (filtered (matched check) node))
      (pruneObjectsNode check true isRoot node) := by
  match node with
  | .arr items =>
    rw [pruneObjectsNode]
    refine ((pruneItems_spec items).mono ?_).bind rfl
    rintro ⟨item, hMem, hItem⟩
    exact hItem.up (.item hMem rfl)
  | .obj fields =>
    rw [pruneObjectsNode, matched]
    cases hCheck : check (.obj fields) with
    | error e => exact ⟨_, .inl rfl, e, hCheck⟩
    | ok shouldDrop =>
      show Gives _ (if (shouldDrop && !isRoot) = true then none else _)
        (if (shouldDrop && !isRoot) = true then .ok none else
          pruneFields check true fields >>= fun fields => .ok (some (Json.obj fields)))
      split
      · rfl
      · rw [filtered]
        refine ((pruneFields_spec fields).mono ?_).bind rfl
        rintro ⟨⟨key, child⟩, hMem, hChild⟩
        exact hChild.up (.field hMem rfl)
  | .null | .bool _ | .num _ | .str _ => rfl

theorem pruneItems_spec (items : List Json) :
    Gives (∃ item ∈ items, Unchecked check item) (filteredItems (matched check) items)
      (pruneItems check true items) := by
  match items with
  | [] => rfl
  | item :: rest =>
    rw [pruneItems]
    refine ((pruneObjectsNode_spec false item).mono fun h => ⟨item, by simp, h⟩).bind
      (((pruneItems_spec rest).mono ?_).bind ?_)
    · rintro ⟨other, hMem, hOther⟩
      exact ⟨other, List.mem_cons_of_mem _ hMem, hOther⟩
    · cases hItem : matched check item <;> simp [Gives, filteredItems, hItem]

theorem pruneFields_spec (fields : List (String × Json)) :
    Gives (∃ field ∈ fields, Unchecked check field.2) (filteredFields (matched check) fields)
      (pruneFields check true fields) := by
  match fields with
  | [] => rfl
  | (key, child) :: rest =>
    rw [pruneFields]
    refine ((pruneObjectsNode_spec false child).mono fun h => ⟨(key, child), by simp, h⟩).bind
      (((pruneFields_spec rest).mono ?_).bind ?_)
    · rintro ⟨other, hMem, hOther⟩
      exact ⟨other, List.mem_cons_of_mem _ hMem, hOther⟩
    · cases hChild : matched check child <;> simp [Gives, filteredFields, hChild]

end

end Prune

/-! ### The operation -/

theorem setAt_ok {node old : Json} {path : List String} (h : node.getAt path = some old)
    (value : Json) : ∃ out, node.setAt path value = .ok out := by
  induction path generalizing node with
  | nil => exact ⟨value, rfl⟩
  | cons key rest ih =>
    obtain ⟨part, hPart, hRest⟩ := Option.bind_eq_some_iff.mp h
    obtain ⟨next, hNext⟩ := ih hRest
    exact ⟨node.setChild key next, by simp [Json.setAt, hPart, hNext, bind, Except.bind]⟩

/-- A context in which no condition finds anything changes no check. -/
theorem checkConditions_context {lib : ConditionLib} {context : Option Json}
    {conditions : List ConditionOperation}
    (h : ∀ condition ∈ conditions, ∀ json ∈ context, lib.get json condition.path = none)
    (node : Json) (logic : String) :
    checkConditions lib node context conditions logic =
      checkConditions lib node none conditions logic := by
  have hEach : ∀ condition ∈ conditions, checkSingleCondition lib node context condition =
      checkSingleCondition lib node none condition := by
    intro condition hMem
    have hNone : (context.bind fun json => lib.get json condition.path) = none :=
      Option.bind_eq_none_iff.mpr (h condition hMem)
    rw [checkSingleCondition, checkSingleCondition, hNone, Option.bind_none]
  have hAll : conditions.mapM (checkSingleCondition lib node context) =
      conditions.mapM (checkSingleCondition lib node none) := by
    clear h
    induction conditions with
    | nil => rfl
    | cons condition rest ih =>
      rw [List.mapM_cons, List.mapM_cons, hEach condition List.mem_cons_self,
        ih fun other hMem => hEach other (List.mem_cons_of_mem _ hMem)]
  rw [checkConditions, checkConditions, hAll]

def nestedImages : Json :=
  .arr [.obj [("type", .str "text"), ("part", .obj [("type", .str "image")])],
    .obj [("type", .str "image"), ("part", .obj [])], .num "1"]

def imageObjects : PruneObjectsOptions where
  conditions := [{ path := "type", mode := "full", value := .str "image" }]

def sampleConditionLib : ConditionLib :=
  { sampleJsonLib with
    text := sampleJsonLib.formatValue
    number := fun _ => 0 }

def isImage : Json → Bool :=
  matched fun node =>
    checkConditions sampleConditionLib node none imageObjects.conditions imageObjects.logic

end XyApi.Override

import XyApi.Lib.Occurrence
import XyApi.Override.Json

/-!
The operations of a parameter override that work on a path. A negative index in the path
is resolved on the text of the path; a path with a wildcard is expanded against the
document, once, and the operation is then applied at each expanded path in turn.
-/

namespace XyApi.Override

open Lib (beforeFirst replaceOnce)

variable (lib : JsonLib) (op : ParamOperation) (doc : Json) (fields : List (String × Json))
  (text : String) (value : Json) (path : String)

inductive OperationMode
  | delete
  | set
  | prepend
  | append
  | trimPrefix
  | trimSuffix
  | ensurePrefix
  | ensureSuffix
  | trimSpace
  | toLower
  | toUpper
  | replace
  | regexReplace
  deriving DecidableEq, Repr

def OperationMode.name : OperationMode → String
  | .delete => "delete"
  | .set => "set"
  | .prepend => "prepend"
  | .append => "append"
  | .trimPrefix => "trim_prefix"
  | .trimSuffix => "trim_suffix"
  | .ensurePrefix => "ensure_prefix"
  | .ensureSuffix => "ensure_suffix"
  | .trimSpace => "trim_space"
  | .toLower => "to_lower"
  | .toUpper => "to_upper"
  | .replace => "replace"
  | .regexReplace => "regex_replace"

structure ParamOperation where
  path : String
  mode : OperationMode
  /-- A missing value is the null value. -/
  value : Json := .null
  keepOrigin : Bool := false
  replaceFrom : String := ""
  replaceTo : String := ""

/-! ### Negative indexes -/

/-- The matches of a dot, a minus sign and digits: each without the dot. -/
def negativeIndexes : List Char → List (List Char)
  | [] => []
  | '.' :: '-' :: rest =>
    match rest.takeWhile Char.isDigit with
    | [] => negativeIndexes ('-' :: rest)
    | digits => ('-' :: digits) :: negativeIndexes rest
  | _ :: rest => negativeIndexes rest

theorem negativeIndexes_cons_of_ne (hc : c ≠ '.') (rest : List Char) :
    negativeIndexes (c :: rest) = negativeIndexes rest := by
  rw [negativeIndexes]
  intro _ h
  exact absurd h hc

def stripDot (text : List Char) : List Char :=
  if text.getLast? = some '.' then text.dropLast else text

/-- Resolve one match in the path as it is so far; its array is looked up by the text of
the original path. -/
def resolveNegative (path result negIndex : List Char) : List Char :=
  let arrayPath := stripDot (beforeFirst negIndex path)
  match lib.get doc (String.ofList arrayPath) with
  | some (.arr items) =>
    let back := Nat.ofDigitChars 10 (negIndex.drop 1) 0
    -- An index past the front of the array is left as it is, and so is `-0`.
    if back ≤ items.length ∧ 0 < back then
      replaceOnce ('.' :: negIndex) ('.' :: (toString (items.length - back)).toList) result
    else result
  | _ => result

def processNegativeIndex : String :=
  String.ofList ((negativeIndexes path.toList).foldl (resolveNegative lib doc path.toList)
    path.toList)

/-! ### Wildcards -/

def uniq {α : Type} [DecidableEq α] : List α → List α
  | [] => []
  | a :: rest => a :: (uniq rest).filter (· ≠ a)

def sortedKeys : List String :=
  (uniq (fields.map Prod.fst)).mergeSort

/-- The value of a key in a decoded object, where the last field with the key counts. -/
def decodedField (key : String) : Option Json :=
  (fields.reverse.find? (·.1 = key)).map Prod.snd

def collectWildcardPaths : Json → List String → List (List String)
  | _, [] => [[]]
  | node, text :: rest =>
    let segment := trimSpace text
    if segment = "" then []
    else if segment = "*" then
      match node with
      | .obj fields => (sortedKeys fields).flatMap fun key =>
        (((decodedField fields key).map (collectWildcardPaths · rest)).getD []).map (key :: ·)
      | .arr items => (List.range items.length).flatMap fun i =>
        ((items[i]?.map (collectWildcardPaths · rest)).getD []).map (toString i :: ·)
      | _ => []
    else
      match node with
      | .obj fields =>
        if rest = [] then [[segment]]
        else (((decodedField fields segment).map (collectWildcardPaths · rest)).getD []).map
          (segment :: ·)
      | .arr items =>
        match atoi segment with
        | none => []
        | some index =>
          if index < 0 ∨ index ≥ items.length then []
          else if rest = [] then [[segment]]
          else ((items[index.toNat]?.map (collectWildcardPaths · rest)).getD []).map
            (segment :: ·)
      | _ => []

theorem mem_collect_nil : keys ∈ collectWildcardPaths node [] ↔ keys = [] := by
  rw [collectWildcardPaths, List.mem_singleton]

def joinPath (segments : List String) : String := ".".intercalate segments

def expandWildcardPaths : List String :=
  uniq ((collectWildcardPaths doc ((path.toList.splitOn '.').map String.ofList)).map joinPath)

def resolveOperationPaths : List String :=
  if '*' ∈ path.toList then expandWildcardPaths doc path else [path]

/-! ### The operations at one path -/

def updateValue (change : Option Json → Except String (Option Json)) : Except String Json := do
  match ← change (lib.get doc path) with
  | some value => lib.set doc path value
  | none => .ok doc

def deleteValue : Except String Json :=
  if XyApi.trimSpace path = "" then .ok doc else lib.delete doc path

def typeName : Option Json → String
  | some (.bool false) => "False"
  | some (.bool true) => "True"
  | some (.num _) => "Number"
  | some (.str _) => "String"
  | some (.arr _) | some (.obj _) => "JSON"
  | some .null | none => "Null"

def notSupported (current : Option Json) : String :=
  "operation not supported for type: " ++ typeName current

def changeString (change : String → Except String (Option String)) (current : Option Json) :
    Except String (Option Json) :=
  match current with
  | some (.str text) => do
      let text ← change text
      .ok (text.map .str)
  | _ => .error (notSupported current)

def trimPrefixText (affix : String) : String :=
  if affix.toList <+: text.toList then String.ofList (text.toList.drop affix.toList.length) else text

def trimSuffixText (affix : String) : String :=
  if affix.toList <:+ text.toList then
    String.ofList (text.toList.take (text.toList.length - affix.toList.length))
  else text

def trimStringValue (isPrefix : Bool) : Option Json → Except String (Option Json) :=
  changeString fun text =>
    match value with
    | .null => .error "trim value is required"
    | value =>
      if isPrefix then .ok (some (trimPrefixText text (lib.formatValue value)))
      else .ok (some (trimSuffixText text (lib.formatValue value)))

def ensureStringAffix (isPrefix : Bool) : Option Json → Except String (Option Json) :=
  changeString fun text =>
    match value with
    | .null => .error "ensure value is required"
    | value =>
      let affix := lib.formatValue value
      if affix = "" then .error "ensure value is required"
      else if isPrefix then
        if affix.toList <+: text.toList then .ok none else .ok (some (affix ++ text))
      else if affix.toList <:+ text.toList then .ok none
      else .ok (some (text ++ affix))

def transformStringValue (transform : String → String) :
    Option Json → Except String (Option Json) :=
  changeString fun text => .ok (some (transform text))

def replaceAllFrom (part new : List Char) : Nat → List Char → List Char
  | _, [] => []
  | 0, c :: rest =>
    if part <+: c :: rest then new ++ replaceAllFrom part new (part.length - 1) rest
    else c :: replaceAllFrom part new 0 rest
  | skip + 1, _ :: rest => replaceAllFrom part new skip rest

def replaceStringValue (replaceFrom replaceTo : String) :
    Option Json → Except String (Option Json) :=
  changeString fun text =>
    if replaceFrom = "" then .error "replace from is required"
    else .ok (some (String.ofList
      (replaceAllFrom replaceFrom.toList replaceTo.toList 0 text.toList)))

def regexReplaceStringValue (pattern replacement : String) :
    Option Json → Except String (Option Json) :=
  changeString fun text =>
    if pattern = "" then .error "regex pattern is required"
    else (lib.regexReplace pattern replacement text).map some

def decodedKind : Json → String
  | .null => "null"
  | .bool _ => "bool"
  | .num _ => "number"
  | .str _ => "string"
  | .arr _ => "array"
  | .obj _ => "object"

/-- The value of one key after the merge: an origin that is null counts as missing. -/
def mergedField (origin added : Option Json) (keepOrigin : Bool) : Option Json :=
  match origin with
  | none | some .null => added.or origin
  | some _ => if keepOrigin then origin else added.or origin

def mergeFields (new : List (String × Json)) (keepOrigin : Bool) : Json :=
  .obj (((uniq ((fields ++ new).map Prod.fst)).mergeSort).filterMap fun key =>
    (mergedField ((decodedField fields key).map lib.recode) (decodedField new key)
      keepOrigin).map fun value => (key, value))

def mergeObjects (keepOrigin : Bool) : Except String (Option Json) :=
  match value with
  | .obj new => .ok (some (mergeFields lib fields new keepOrigin))
  | .null => .ok (some (mergeFields lib fields [] keepOrigin))
  | value => .error ("json: cannot unmarshal " ++ decodedKind value ++
      " into Go value of type map[string]interface \x7b\x7d")

def sliceValue : List Json → Json
  | [] => .null
  | items => .arr items

def modifyArray (items : List Json) (value : Json) (isPrepend : Bool) : Json :=
  let added := match value with
    | .arr new => new
    | value => [value]
  let original := items.map lib.recode
  sliceValue (if isPrepend then added ++ original else original ++ added)

def modifyString (isPrepend : Bool) : Json :=
  .str (if isPrepend then lib.formatValue value ++ text else text ++ lib.formatValue value)

def modifyValue (keepOrigin isPrepend : Bool) (current : Option Json) :
    Except String (Option Json) :=
  match current with
  | some (.arr items) => .ok (some (modifyArray lib items value isPrepend))
  | some (.str text) => .ok (some (modifyString lib text value isPrepend))
  | some (.obj fields) => mergeObjects lib fields value keepOrigin
  | _ => .error (notSupported current)

def change : Option Json → Except String (Option Json) :=
  match op.mode with
  | .delete => fun _ => .ok none
  | .set => fun current =>
    .ok (if op.keepOrigin ∧ current.isSome then none else some op.value)
  | .prepend => modifyValue lib op.value op.keepOrigin true
  | .append => modifyValue lib op.value op.keepOrigin false
  | .trimPrefix => trimStringValue lib op.value true
  | .trimSuffix => trimStringValue lib op.value false
  | .ensurePrefix => ensureStringAffix lib op.value true
  | .ensureSuffix => ensureStringAffix lib op.value false
  | .trimSpace => transformStringValue XyApi.trimSpace
  | .toLower => transformStringValue XyApi.toLower
  | .toUpper => transformStringValue XyApi.toUpper
  | .replace => replaceStringValue op.replaceFrom op.replaceTo
  | .regexReplace => regexReplaceStringValue lib op.replaceFrom op.replaceTo

def applyAt : Except String Json :=
  if op.mode = .delete then deleteValue lib doc path
  else updateValue lib doc path (change lib op)

def applyEach (lib : JsonLib) (op : ParamOperation) : Json → List String → Except String Json
  | doc, [] => .ok doc
  | doc, path :: rest => do
      let doc ← applyAt lib op doc path
      applyEach lib op doc rest

def applyOperation : Except String Json :=
  let path := processNegativeIndex lib doc op.path
  match applyEach lib op doc (resolveOperationPaths doc path) with
  | .ok doc => .ok doc
  | .error e => .error ("operation " ++ op.mode.name ++ " failed: " ++ e)

end XyApi.Override

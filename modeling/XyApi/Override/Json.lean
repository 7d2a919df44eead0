import XyApi.Base
import Mathlib.Data.List.Basic

/-!
JSON documents and the paths that parameter overrides use on them. A path is a text of
segments between dots; a segment is a key of an object or an index of an array. Getting,
setting and deleting at a plain path follow the rules of the path libraries. A path with
a character that has a meaning of its own there is left to parameters of the model.
-/

namespace XyApi.Override

inductive Json
  | null
  | bool (value : Bool)
  | num (literal : String)
  | str (value : String)
  | arr (items : List Json)
  | obj (fields : List (String × Json))

def parseIndex (segment : String) : Option Nat :=
  if segment.toList ≠ [] ∧ segment.toList.all Char.isDigit then
    some (Nat.ofDigitChars 10 segment.toList 0)
  else none

theorem parseIndex_toString (n : Nat) : parseIndex (toString n) = some n := by
  unfold parseIndex
  rw [Nat.toString_eq_repr, Nat.toList_repr, if_pos]
  · rw [Nat.ofDigitChars_toDigits (by decide) (by decide)]
  · refine ⟨Nat.toDigits_ne_nil, List.all_eq_true.mpr fun c hc => ?_⟩
    exact Nat.isDigit_of_mem_toDigits (by decide) (by decide) hc

def replaceField (key : String) (value : Json) : List (String × Json) → List (String × Json)
  | [] => []
  | field :: rest =>
    if field.1 = key then (key, value) :: rest else field :: replaceField key value rest

theorem replaceField_cons :
    replaceField key value (field :: rest) =
      if field.1 = key then (key, value) :: rest else field :: replaceField key value rest := rfl

namespace Json

variable {segment : String}

def child? : Json → String → Option Json
  | .obj fields, segment => (fields.find? (·.1 = segment)).map Prod.snd
  | .arr items, segment => (parseIndex segment).bind fun i => items[i]?
  | _, _ => none

theorem child?_obj :
    (Json.obj fields).child? segment = (fields.find? (·.1 = segment)).map Prod.snd := rfl

theorem child?_arr :
    (Json.arr items).child? segment = (parseIndex segment).bind fun i => items[i]? := rfl

def setChild : Json → String → Json → Json
  | .obj fields, segment, value => .obj (replaceField segment value fields)
  | .arr items, segment, value =>
    match parseIndex segment with
    | some i => .arr (items.set i value)
    | none => .arr items
  | node, _, _ => node

theorem setChild_obj :
    (Json.obj fields).setChild segment value = .obj (replaceField segment value fields) := rfl

theorem setChild_arr (items : List Json) (h : parseIndex segment = some i) (value : Json) :
    (Json.arr items).setChild segment value = .arr (items.set i value) :=
  congrArg (fun index : Option Nat => match index with
    | some i => Json.arr (items.set i value)
    | none => Json.arr items) h

theorem setChild_arr_none (items : List Json) (h : parseIndex segment = none) (value : Json) :
    (Json.arr items).setChild segment value = .arr items :=
  congrArg (fun index : Option Nat => match index with
    | some i => Json.arr (items.set i value)
    | none => Json.arr items) h

def removeChild : Json → String → Json
  | .obj fields, segment => .obj (fields.eraseP (·.1 = segment))
  | .arr items, segment =>
    match parseIndex segment with
    | some i => .arr (items.eraseIdx i)
    | none => .arr items
  | node, _ => node

def getAt : Json → List String → Option Json
  | node, [] => some node
  | node, segment :: rest => (node.child? segment).bind (getAt · rest)

def build : List String → Json → Json
  | [], value => value
  | segment :: rest, value =>
    match parseIndex segment with
    | some i => .arr (List.replicate i .null ++ [build rest value])
    | none =>
      if segment = "-1" then .arr [build rest value] else .obj [(segment, build rest value)]

def addChild (node : Json) (segment : String) (value : Json) : Except String Json :=
  match node with
  | .obj fields => .ok (.obj (fields ++ [(segment, value)]))
  | .arr items =>
    match parseIndex segment with
    | some i => .ok (.arr (items ++ List.replicate (i - items.length) .null ++ [value]))
    | none =>
      if segment = "-1" then .ok (.arr (items ++ [value]))
      else .error ("cannot set array element for non-numeric key '" ++ segment ++ "'")
  | _ =>
    match parseIndex segment with
    | some i => .ok (.arr (List.replicate i .null ++ [value]))
    | none => .ok (.obj [(segment, value)])

def setAt : Json → List String → Json → Except String Json
  | _, [], value => .ok value
  | node, segment :: rest, value =>
    match node.child? segment with
    | some part => do
        let part ← setAt part rest value
        .ok (node.setChild segment part)
    | none => node.addChild segment (build rest value)

/-- In a deletion `-1` names the last element. -/
def deletedSegment (node : Json) (segment : String) : String :=
  match node with
  | .arr items => if segment = "-1" ∧ items ≠ [] then toString (items.length - 1) else segment
  | _ => segment

/-- Deleting what does not exist changes nothing. -/
def deleteAt : Json → List String → Json
  | node, [] => node
  | node, segment :: rest =>
    let segment := node.deletedSegment segment
    match node.child? segment with
    | none => node
    | some part =>
      if rest = [] then node.removeChild segment
      else node.setChild segment (deleteAt part rest)

end Json

/-! ### Path texts -/

def isSafePathKeyChar (c : Char) : Bool :=
  c ≤ ' ' || '~' < c || c = '_' || c = '-' || c = ':' || c.isAlphanum

def consHead (c : Char) : List (List Char) → List (List Char)
  | [] => [[c]]
  | segment :: rest => (c :: segment) :: rest

/-- The segments of a text; a backslash takes the next character as it is. -/
def splitPath : List Char → Option (List (List Char))
  | [] => some [[]]
  | '\\' :: c :: rest => (splitPath rest).map (consHead c)
  | '.' :: rest => (splitPath rest).map ([] :: ·)
  | c :: rest => if isSafePathKeyChar c then (splitPath rest).map (consHead c) else none

/-- The segments of a plain path: none is empty or starts with a colon. -/
def parsePath (path : String) : Option (List String) :=
  ((splitPath path.toList).filter fun segments =>
    segments.all fun segment => segment.head?.any (· ≠ ':')).map fun segments =>
      segments.map String.ofList

/-- What the path libraries do with paths that are not plain, how a value is printed, and
regular expressions. -/
structure JsonLib where
  specialGet : Json → String → Option Json
  specialSet : Json → String → Json → Except String Json
  specialDelete : Json → String → Except String Json
  formatValue : Json → String
  /-- A value decoded and encoded again: numbers pass through floating point. -/
  recode : Json → Json
  /-- The text after the replacements, or the error of a pattern that is not valid. -/
  regexReplace : (pattern replacement text : String) → Except String String

namespace JsonLib

variable (lib : JsonLib)

def get (doc : Json) (path : String) : Option Json :=
  match parsePath path with
  | some segments => doc.getAt segments
  | none => lib.specialGet doc path

def set (doc : Json) (path : String) (value : Json) : Except String Json :=
  match parsePath path with
  | some segments => doc.setAt segments value
  | none => lib.specialSet doc path value

def delete (doc : Json) (path : String) : Except String Json :=
  match parsePath path with
  | some segments => .ok (doc.deleteAt segments)
  | none => lib.specialDelete doc path

end JsonLib

end XyApi.Override

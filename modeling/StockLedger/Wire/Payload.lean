import StockLedger.Numeric.Shortest
import StockLedger.Json.Value

/-!
Request payloads. A call's request travels as a dynamic message: a map from names to
values, where a value is null, a number, text, a flag, a nested map or a list. Every
number is a binary64 value, so an integer past 2^53 arrives rounded. A value can also be
broken: a number that is not finite, or a value whose kind was never set. A payload is
handed to a handler as a JSON document with the members of every map sorted by name and
each number written in its shortest form; a broken value makes that document impossible
to write.
-/

namespace StockLedger

/-- A value of a request payload. -/
inductive Payload where
  | null
  | number (x : Binary64)
  | string (s : String)
  | bool (b : Bool)
  | struct (fields : List (String × Payload))
  | list (items : List Payload)
  /-- A number that is not finite. -/
  | notFinite
  /-- A value whose kind was never set. -/
  | unset
deriving Repr, Inhabited

namespace Payload

/-- Sets a field of a map: replaces the field of that name, else adds it. -/
def setField (fields : List (String × Payload)) (name : String) (v : Payload) : List (String × Payload) :=
  if fields.any (·.1 == name) then fields.map (fun f => if f.1 == name then (name, v) else f)
  else fields ++ [(name, v)]

mutual
/-- The payload value of a JSON document. A repeated name keeps its last value. -/
def ofJson : Json → Payload
  | .null => .null
  | .bool b => .bool b
  | .number lit =>
    match Binary64.ofLiteral lit with
    | some x => .number x
    | none => .notFinite
  | .string s => .string s
  | .array items => .list (ofJsonItems items)
  | .object ms => .struct (ofJsonMembers [] ms)

/-- Payload values of array items. -/
def ofJsonItems : List Json → List Payload
  | [] => []
  | j :: rest => ofJson j :: ofJsonItems rest

/-- Adds object members to a map, in order. -/
def ofJsonMembers (acc : List (String × Payload)) : List (String × Json) → List (String × Payload)
  | [] => acc
  | (k, j) :: rest => ofJsonMembers (setField acc k (ofJson j)) rest
end

/-- Sorts map fields by name. -/
def sortFields (fields : List (String × Json)) : List (String × Json) :=
  fields.mergeSort (fun a b => a.1 ≤ b.1)

mutual
/-- The JSON document a handler reads, or none when a value is broken. -/
def toJson : Payload → Option Json
  | .null => some .null
  | .number x => some (.number x.text)
  | .string s => some (.string s)
  | .bool b => some (.bool b)
  | .struct fields => (fieldsJson fields).map (fun ms => .object (sortFields ms))
  | .list items => (itemsJson items).map .array
  | .notFinite => none
  | .unset => none

/-- Documents of list items. -/
def itemsJson : List Payload → Option (List Json)
  | [] => some []
  | p :: rest => do
    let j ← toJson p
    let js ← itemsJson rest
    return j :: js

/-- Documents of map fields. -/
def fieldsJson : List (String × Payload) → Option (List (String × Json))
  | [] => some []
  | (k, p) :: rest => do
    let j ← toJson p
    let js ← fieldsJson rest
    return (k, j) :: js
end

/-- The number written from an integer the way a response carries it: rounded to
binary64 and written in its shortest form. -/
def integer (i : Int) : Json := .number (Binary64.ofInt i).text

end Payload

end StockLedger

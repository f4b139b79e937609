import StockLedger.Json.Bind
import StockLedger.Stock.Level

/-!
Reading the fields of a console request. A missing or `null` field reads as its empty
value: zero, the empty text or false. A field of the wrong type is refused with a
message naming it; an integer must be a number written without point or exponent that
fits in 64 bits, and a time is RFC 3339 text, the empty text meaning none. A few
switches are on only when they are `true` and read anything else as off.
-/

namespace StockLedger

namespace Request

/-- The value of a field, if present and not null. -/
def get? (op : Json) (name : String) : Option Json :=
  match op.field? name with
  | some .null => none
  | other => other

/-- A text field. -/
def text (op : Json) (name : String) : Except String String :=
  match get? op name with
  | none => .ok ""
  | some (.string s) => .ok s
  | some _ => .error ("field " ++ name ++ " must be a string")

/-- A text field read leniently: anything but text reads as the empty text. -/
def lenientText (op : Json) (name : String) : String :=
  match op.field? name with
  | some (.string s) => s
  | _ => ""

/-- An optional integer field. -/
def intOpt (op : Json) (name : String) : Except String (Option Int64) :=
  match get? op name with
  | none => .ok none
  | some (.number lit) =>
    match Bind.integerOf? lit with
    | some v => .ok (some v)
    | none => .error ("field " ++ name ++ " must be an int64")
  | some _ => .error ("field " ++ name ++ " must be an integer")

/-- An integer field, zero when missing. -/
def int (op : Json) (name : String) : Except String Int64 :=
  (intOpt op name).map (·.getD 0)

/-- An optional flag field. -/
def flagOpt (op : Json) (name : String) : Except String (Option Bool) :=
  match get? op name with
  | none => .ok none
  | some (.bool b) => .ok (some b)
  | some _ => .error ("field " ++ name ++ " must be a boolean")

/-- A flag field, false when missing. -/
def flag (op : Json) (name : String) : Except String Bool :=
  (flagOpt op name).map (·.getD false)

/-- A switch: on only when the field is `true`. -/
def switch (op : Json) (name : String) : Bool :=
  match op.field? name with
  | some (.bool true) => true
  | _ => false

/-- An optional time field; the empty text means none. -/
def timeOpt (op : Json) (name : String) : Except String (Option Instant) := do
  let s ← text op name
  if s = "" then return none
  match Rfc3339.parse s with
  | some t => return some t
  | none => throw ("field " ++ name ++ " must be an RFC 3339 time")

/-- The stock key named by `product_id`, `variant_id` and `location_id`. -/
def key (op : Json) : Except String StockKey := do
  return ⟨← text op "product_id", ← text op "variant_id", ← text op "location_id"⟩

/-- A list field, empty when missing. -/
def list (op : Json) (name : String) : Except String (List Json) :=
  match get? op name with
  | none => .ok []
  | some (.array items) => .ok items
  | some _ => .error ("field " ++ name ++ " must be a list")

/-- A list field whose items must be objects. -/
def objects (op : Json) (name : String) : Except String (List Json) := do
  let items ← list op name
  if items.all (fun | .object _ => true | _ => false) then return items
  else throw ("field " ++ name ++ " must hold objects")

/-- The texts among the items of a list field; anything else, in the list or in place
of it, is passed over. -/
def texts (op : Json) (name : String) : List String :=
  match op.field? name with
  | some (.array items) => items.filterMap fun | .string s => some s | _ => none
  | _ => []

/-- Adds one member of an object of texts; a repeated name keeps its last text. -/
def textEntry (name : String) (m : List (String × String)) : String × Json → Except String (List (String × String))
  | (k, .string s) =>
    .ok (if m.any (·.1 == k) then m.map (fun x => if x.1 == k then (k, s) else x) else m ++ [(k, s)])
  | _ => .error ("field " ++ name ++ " must map to strings")

/-- A field holding an object of texts. -/
def textMap (op : Json) (name : String) : Except String (Option (List (String × String))) :=
  match get? op name with
  | none => .ok none
  | some (.object ms) =>
    (ms.foldlM (textEntry name) []).map some
  | some _ => .error ("field " ++ name ++ " must be an object")

end Request

end StockLedger

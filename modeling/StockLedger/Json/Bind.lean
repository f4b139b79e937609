import StockLedger.Json.Value
import StockLedger.Time.Rfc3339

/-!
Binding JSON documents to typed records. A shape says what a document is read into:
text, a 64-bit integer, a flag, an instant, an optional value, a list, a record of
named fields or a text-keyed dictionary. Reading follows these rules:

* a member name picks the field with the same name, else the field whose name is equal
  ignoring case;
* a repeated name is read again into the same field, so the last one wins and a
  repeated record is merged into what the earlier one left;
* a list read again reuses the items already there, item by item, and truncates; an
  empty array leaves a fresh empty list, with nothing left to reuse;
* names that pick no field are skipped, and `null` leaves a value as it was (it
  clears an optional value, a list or a dictionary);
* a value of the wrong type, or an integer written with a point, an exponent or out of
  range, is an error; the error names the path to the value, member names as written
  and item indices joined by dots;
* an instant must be a string holding an RFC 3339 timestamp; a string that holds none is
  an error with the timestamp reader's message;
* reading goes on past an error and reports the first one met.
-/

namespace StockLedger

/-- What a JSON value is read into. -/
inductive Shape where
  | text
  /-- A signed 64-bit integer, with the name of its type. -/
  | integer (typeName : String)
  | flag
  | instant
  | optional (target : Shape)
  | list (item : Shape) (typeName : String)
  /-- A record: its type's short name, its full name and its fields. -/
  | record (name typeName : String) (fields : List (String × Shape))
  | dict (value : Shape) (typeName : String)

/-- A value read into a shape. -/
inductive Held where
  | text (s : String)
  | integer (i : Int64)
  | flag (b : Bool)
  /-- An instant; the zero instant when none was read. -/
  | instant (t : Instant)
  | absent
  | present (h : Held)
  /-- A list: its length and its items, which may run past the length. -/
  | list (length : Nat) (items : List Held)
  | record (fields : List Held)
  /-- A dictionary, or none when it was never made. -/
  | dict (entries : Option (List (String × Held)))
deriving Inhabited

namespace Shape

/-- The name of a shape's type in messages. -/
def typeName : Shape → String
  | .text => "string"
  | .integer n => n
  | .flag => "bool"
  | .instant => "time.Time"
  | .optional s => "*" ++ typeName s
  | .list _ n => n
  | .record _ n _ => n
  | .dict _ n => n

mutual
/-- The value of a shape before anything is read into it. -/
def zero : Shape → Held
  | .text => .text ""
  | .integer _ => .integer 0
  | .flag => .flag false
  | .instant => .instant Instant.zero
  | .optional _ => .absent
  | .list _ _ => .list 0 []
  | .record _ _ fields => .record (zeros fields)
  | .dict _ _ => .dict none

/-- Zero values of record fields. -/
def zeros : List (String × Shape) → List Held
  | [] => []
  | (_, s) :: rest => zero s :: zeros rest
end

end Shape

mutual
/-- The depth of a shape: one more than its deepest part. -/
def Shape.depth : Shape → Nat
  | .optional s => Shape.depth s + 1
  | .list s _ => Shape.depth s + 1
  | .dict s _ => Shape.depth s + 1
  | .record _ _ fields => Shape.depthFields fields + 1
  | _ => 1

/-- The greatest depth among record fields. -/
def Shape.depthFields : List (String × Shape) → Nat
  | [] => 0
  | (_, s) :: rest => max (Shape.depth s) (Shape.depthFields rest)
end

mutual
/-- The number of values in a document, counting containers and their contents. -/
def Json.weight : Json → Nat
  | .array items => Json.weightItems items + 1
  | .object ms => Json.weightMembers ms + 1
  | _ => 1

/-- The number of values in array items. -/
def Json.weightItems : List Json → Nat
  | [] => 0
  | j :: rest => Json.weight j + Json.weightItems rest

/-- The number of values in object members. -/
def Json.weightMembers : List (String × Json) → Nat
  | [] => 0
  | (_, j) :: rest => Json.weight j + Json.weightMembers rest
end

namespace Bind

/-- The upper-case form of a character for name matching. The two letters outside ASCII
that fold to an ASCII letter, the Kelvin sign and the long s, map to it; the dotted
capital I and the dotless small i fold only to themselves. -/
def foldChar (c : Char) : Char :=
  if 'a' ≤ c ∧ c ≤ 'z' then Char.ofNat (c.toNat - 32)
  else if c.toNat == 0x212A then 'K'
  else if c.toNat == 0x17F then 'S'
  else c

/-- Whether two names are equal ignoring case. -/
def sameName (a b : String) : Bool := a.toList.map foldChar == b.toList.map foldChar

/-- The index of the field a member name picks. -/
def pick (fields : List (String × Shape)) (key : String) : Option Nat :=
  match fields.findIdx? (·.1 == key) with
  | some i => some i
  | none => fields.findIdx? (fun f => sameName f.1 key)

/-- Where in a document a value is read: the member names, as written in the
document, and item indices on the way from the top. -/
structure Place where
  path : List String := []

/-- The place of a member of the value at `p`. -/
def Place.member (p : Place) (name : String) : Place := { path := p.path ++ [name] }

/-- The place of an item of the list at `p`. -/
def Place.item (p : Place) (i : Nat) : Place := { path := p.path ++ [Nat.repr i] }

/-- A step of a path as a JSON pointer writes it: `~` as `~0` and `/` as `~1`. -/
def pointerStep (step : String) : String :=
  String.join (step.toList.map fun c => if c = '~' then "~0" else if c = '/' then "~1" else c.toString)

/-- The field a message names for a place: its steps as a pointer writes them, joined
by dots. -/
def Place.field (p : Place) : String := ".".intercalate (p.path.map pointerStep)

/-- Whether text is a run of one or more decimal digits. -/
def isIndex (s : String) : Bool := !s.isEmpty && s.all Char.isDigit

/-- The message of a value of the wrong type. An empty field names the whole value; a
field whose last dot-separated part is an index is named bare, any other as a struct
field, whatever the steps really are. -/
def mismatch (p : Place) (what : String) (s : Shape) : String :=
  let field := p.field
  let start := "json: cannot unmarshal " ++ what ++ " into "
  if field.isEmpty then start ++ "Go value of type " ++ s.typeName
  else if isIndex ((field.splitOn ".").getLast?.getD "") then start ++ "." ++ field ++ " of type " ++ s.typeName
  else start ++ "Go struct field ." ++ field ++ " of type " ++ s.typeName

/-- What kind of value a document is, as messages name it. -/
def kindName : Json → String
  | .null => "null"
  | .bool _ => "bool"
  | .number _ => "number"
  | .string _ => "string"
  | .array _ => "array"
  | .object _ => "object"

/-- Reads a 64-bit integer from a number's text: an optional minus sign and digits. -/
def integerOf? (lit : String) : Option Int64 :=
  let cs := lit.toList
  let (neg, ds) := match cs with
    | '-' :: r => (true, r)
    | _ => (false, cs)
  if ds.isEmpty || !ds.all Char.isDigit then none
  else
    let n : Int := (ds.foldl (fun acc c => acc * 10 + (c.toNat - '0'.toNat)) 0 : Nat)
    let v := if neg then -n else n
    if v < -9223372036854775808 ∨ v > 9223372036854775807 then none else some (Int64.ofInt v)

/-- The first error of two, in reading order. -/
def firstOf (a b : Option String) : Option String := a.or b

/-- The item at an index of a list, or a default. -/
def itemAt (items : List Held) (i : Nat) (default : Held) : Held := (items[i]?).getD default

/-- Replaces or appends the item at an index. -/
def putAt (items : List Held) (i : Nat) (h : Held) : List Held :=
  if i < items.length then items.set i h else items ++ [h]

mutual
/-- Reads a value into a shape, starting from what is already held. Returns the new
value and the first error met, or fails at once when the allowance of steps runs out. -/
def read (p : Place) : Nat → Shape → Held → Json → Except String (Held × Option String)
  | 0, _, _, _ => .error "json: document nested too deeply"
  | _ + 1, .optional _, _, .null => .ok (.absent, none)
  | fuel + 1, .optional s, cur, j =>
    let inner := match cur with
      | .present h => h
      | _ => s.zero
    (read p fuel s inner j).map fun (h, e) => (.present h, e)
  | _ + 1, .instant, cur, .null => .ok (cur, none)
  | _ + 1, .instant, cur, .string txt =>
    match Rfc3339.read txt with
    | .ok t => .ok (.instant t, none)
    | .error m => .ok (cur, some m)
  | _ + 1, .list _ _, _, .null => .ok (.list 0 [], none)
  | _ + 1, .list _ _, _, .array [] => .ok (.list 0 [], none)
  | fuel + 1, .list item _, cur, .array js =>
    let items := match cur with
      | .list _ xs => xs
      | _ => []
    match readItems p fuel item items 0 js with
    | .error m => .error m
    | .ok (items, len, e) => .ok (.list len items, e)
  | _ + 1, .dict _ _, _, .null => .ok (.dict none, none)
  | fuel + 1, .dict v _, cur, .object ms =>
    let entries := match cur with
      | .dict (some es) => es
      | _ => []
    (readEntries p fuel v entries ms).map fun (es, e) => (.dict (some es), e)
  | _ + 1, .record _ _ _, cur, .null => .ok (cur, none)
  | fuel + 1, .record name _ fields, cur, .object ms =>
    let held := match cur with
      | .record hs => hs
      | _ => Shape.zeros fields
    (readMembers p fuel name fields held ms).map fun (hs, e) => (.record hs, e)
  | _ + 1, .text, cur, .null => .ok (cur, none)
  | _ + 1, .text, _, .string s => .ok (.text s, none)
  | _ + 1, .integer _, cur, .null => .ok (cur, none)
  | _ + 1, .integer n, cur, .number lit =>
    match integerOf? lit with
    | some v => .ok (.integer v, none)
    | none => .ok (cur, some (mismatch p ("number " ++ lit) (.integer n)))
  | _ + 1, .flag, cur, .null => .ok (cur, none)
  | _ + 1, .flag, _, .bool b => .ok (.flag b, none)
  | _ + 1, s, cur, j => .ok (cur, some (mismatch p (kindName j) s))
termination_by fuel => (fuel, 0)

/-- Reads array items into a list, reusing the items already held. -/
def readItems (p : Place) (fuel : Nat) (item : Shape) : List Held → Nat → List Json → Except String (List Held × Nat × Option String)
  | items, i, [] => .ok (items, i, none)
  | items, i, j :: rest =>
    match read (p.item i) fuel item (itemAt items i item.zero) j with
    | .error m => .error m
    | .ok (h, e) =>
      match readItems p fuel item (putAt items i h) (i + 1) rest with
      | .error m => .error m
      | .ok (items', n, e') => .ok (items', n, firstOf e e')
termination_by _ _ js => (fuel, js.length + 1)

/-- Reads dictionary entries; each entry is read fresh and the last one of a name wins. -/
def readEntries (p : Place) (fuel : Nat) (v : Shape) : List (String × Held) → List (String × Json) → Except String (List (String × Held) × Option String)
  | entries, [] => .ok (entries, none)
  | entries, (k, j) :: rest =>
    match read (p.member k) fuel v v.zero j with
    | .error m => .error m
    | .ok (h, e) =>
      let entries := if entries.any (·.1 == k) then entries.map (fun x => if x.1 == k then (k, h) else x)
        else entries ++ [(k, h)]
      match readEntries p fuel v entries rest with
      | .error m => .error m
      | .ok (es, e') => .ok (es, firstOf e e')
termination_by _ ms => (fuel, ms.length + 1)

/-- Reads object members into record fields. -/
def readMembers (p : Place) (fuel : Nat) (name : String) (fields : List (String × Shape)) : List Held → List (String × Json) → Except String (List Held × Option String)
  | held, [] => .ok (held, none)
  | held, (k, j) :: rest =>
    match pick fields k with
    | none => readMembers p fuel name fields held rest
    | some i =>
      match fields[i]? with
      | none => readMembers p fuel name fields held rest
      | some (_, s) =>
        match read (p.member k) fuel s (itemAt held i s.zero) j with
        | .error m => .error m
        | .ok (h, e) =>
          match readMembers p fuel name fields (putAt held i h) rest with
          | .error m => .error m
          | .ok (hs, e') => .ok (hs, firstOf e e')
termination_by _ ms => (fuel, ms.length + 1)
end

end Bind

/-- Reads a document into a shape from its zero value; any error refuses the document.
Each value read spends one step of the allowance, which the depth of the shape and the
size of the document bound. -/
def Shape.bind (s : Shape) (j : Json) : Except String Held :=
  match Bind.read {} ((j.weight + 1) * (s.depth + 2)) s s.zero j with
  | .error m => .error m
  | .ok (h, none) => .ok h
  | .ok (_, some m) => .error m

namespace Held

/-- The text held, or empty. -/
def asText : Held → String
  | .text s => s
  | _ => ""

/-- The integer held, or zero. -/
def asInt : Held → Int64
  | .integer i => i
  | _ => 0

/-- The flag held, or false. -/
def asFlag : Held → Bool
  | .flag b => b
  | _ => false

/-- The instant held, if one was read. -/
def asInstant? : Held → Option Instant
  | .instant t => some t
  | .present h => h.asInstant?
  | _ => none

/-- The value inside an optional, if present. -/
def asPresent? : Held → Option Held
  | .present h => some h
  | _ => none

/-- The items of a list, up to its length. -/
def asList : Held → List Held
  | .list n items => items.take n
  | _ => []

/-- The fields of a record. -/
def asFields : Held → List Held
  | .record hs => hs
  | _ => []

/-- The field at an index of a record. -/
def field (h : Held) (i : Nat) : Held := (h.asFields[i]?).getD .absent

/-- The entries of a dictionary, if it was made. -/
def asDict? : Held → Option (List (String × String))
  | .dict (some es) => some (es.map fun (k, v) => (k, v.asText))
  | _ => none

end Held

end StockLedger

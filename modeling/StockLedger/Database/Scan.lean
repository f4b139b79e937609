import StockLedger.Database.Cell
import StockLedger.Text.Quoted

/-!
Reading result cells into record fields. Each field has a slot type, and a cell is
converted into it as the row reader does:

* text takes text, bytes, numbers, flags (as written) and timestamps (RFC 3339 on
  their own clock), but not null;
* a named text type takes only text or bytes;
* an integer takes an integer, or anything whose written form parses as one;
* a flag takes a flag, the integers 0 and 1, or text naming a truth value;
* a timestamp takes only a timestamp; an optional one also takes null;
* optional text takes null or anything text takes;
* bytes take anything, null as empty.

A column no field is named for refuses the whole record. A failed conversion names the
column's index and name.
-/

namespace StockLedger

/-- The type of a record field a column is read into. -/
inductive Slot where
  | text
  /-- A named type whose values are text. -/
  | named (typeName : String)
  | int64
  /-- A platform-sized integer. -/
  | int
  | flag
  | time
  | timeOpt
  | textOpt
  | bytes

/-- A value read into a field. -/
inductive Scanned where
  | text (s : String)
  | int (i : Int64)
  | flag (b : Bool)
  | time (t : Instant)
  | absent
  | bytes (s : String)
deriving Inhabited

namespace Scan

/-- Reads the digits of an unsigned decimal, left to right: the first character that is
not a digit makes the syntax invalid, and a value past 64 bits is out of range, whichever
comes first. -/
def unsignedDigits (acc : Nat) : List Char → Except String Nat
  | [] => .ok acc
  | c :: cs =>
    if !c.isDigit then .error "invalid syntax"
    else
      let n := acc * 10 + (c.toNat - '0'.toNat)
      if n ≥ Nat.pow 2 64 then .error "value out of range" else unsignedDigits n cs

/-- Reads a decimal integer with an optional sign, or says why not. -/
def parseInt (s : String) : Except String Int64 :=
  let cs := s.toList
  let (neg, ds) := match cs with
    | '-' :: r => (true, r)
    | '+' :: r => (false, r)
    | _ => (false, cs)
  if ds.isEmpty then .error "invalid syntax"
  else
    match unsignedDigits 0 ds with
    | .error why => .error why
    | .ok n =>
      let v : Int := if neg then -(n : Int) else n
      if v < -9223372036854775808 ∨ v > 9223372036854775807 then .error "value out of range"
      else .ok (Int64.ofInt v)

/-- Reads a truth value from its written forms. -/
def parseFlag? : String → Option Bool
  | "1" | "t" | "T" | "TRUE" | "true" | "True" => some true
  | "0" | "f" | "F" | "FALSE" | "false" | "False" => some false
  | _ => none

/-- The message of a cell no conversion exists for. -/
def unsupported (c : Cell) (target : String) : String :=
  "unsupported Scan, storing driver.Value type " ++ c.typeName ++ " into type " ++ target

/-- A cell read as text, if it can be. -/
def asText : Cell → Option String
  | .null => none
  | .time t => some (Rfc3339.formatZoned t)
  | c => some c.display

/-- Converts a cell into a slot, or gives the reason it cannot be. -/
def convert : Slot → Cell → Except String Scanned
  | .text, .null => .error "converting NULL to string is unsupported"
  | .text, c => .ok (.text ((asText c).getD ""))
  | .named _, .text s => .ok (.text s)
  | .named _, .bytes s => .ok (.text s)
  | .named _, .null => .error "converting NULL to string is unsupported"
  | .named n, c => .error (unsupported c ("*" ++ n))
  | .int64, c => integer "int64" c
  | .int, c => integer "int" c
  | .flag, .flag b => .ok (.flag b)
  | .flag, .text s => flagText s
  | .flag, .bytes s => flagText s
  | .flag, .int i =>
    if i = 1 then .ok (.flag true) else if i = 0 then .ok (.flag false)
    else .error ("sql/driver: couldn't convert " ++ Quantity.text i ++ " into type bool")
  | .flag, c => .error ("sql/driver: couldn't convert " ++ c.display ++ " (" ++ c.typeName ++ ") into type bool")
  | .time, .time t => .ok (.time t)
  | .time, c => .error (unsupported c "*time.Time")
  | .timeOpt, .null => .ok .absent
  | .timeOpt, .time t => .ok (.time t)
  | .timeOpt, c => .error (unsupported c "*time.Time")
  | .textOpt, .null => .ok .absent
  | .textOpt, c => .ok (.text ((asText c).getD ""))
  | .bytes, .null => .ok (.bytes "")
  | .bytes, c => .ok (.bytes ((asText c).getD ""))
where
  /-- Converts a cell into an integer slot of the named kind. -/
  integer (kind : String) : Cell → Except String Scanned
    | .int i => .ok (.int i)
    | .null => .error ("converting NULL to " ++ kind ++ " is unsupported")
    | c =>
      let s := c.display
      match parseInt s with
      | .ok i => .ok (.int i)
      | .error why =>
        .error ("converting driver.Value type " ++ c.typeName ++ " (" ++ Text.quote s ++ ") to a " ++
          kind ++ ": " ++ why)
  /-- Converts text naming a truth value. -/
  flagText (s : String) : Except String Scanned :=
    match parseFlag? s with
    | some b => .ok (.flag b)
    | none => .error ("sql/driver: couldn't convert " ++ Text.quote s ++ " into type bool")

/-- The value of a field no column filled. -/
def zero : Slot → Scanned
  | .text => .text ""
  | .named _ => .text ""
  | .int64 => .int 0
  | .int => .int 0
  | .flag => .flag false
  | .time => .time Instant.zero
  | .timeOpt => .absent
  | .textOpt => .absent
  | .bytes => .bytes ""

/-- Refuses a result with a column that names no field of the record. -/
def fieldsCover (fields : List (String × Slot)) (columns : List String) (dest : String) : Except String Unit :=
  match columns.find? (fun c => !fields.any (·.1 == c)) with
  | some c => .error ("missing destination name " ++ c ++ " in " ++ dest)
  | none => .ok ()

/-- Converts the cells of one row, column by column. -/
def cells (fields : List (String × Slot)) : Nat → List String → List Cell → Except String (List (String × Scanned))
  | _, [], _ => .ok []
  | _, _, [] => .ok []
  | i, c :: cs, v :: vs => do
    let slot := ((fields.find? (·.1 == c)).map (·.2)).getD .bytes
    let s ← match convert slot v with
      | .ok s => pure s
      | .error why => throw ("sql: Scan error on column index " ++ Nat.repr i ++ ", name " ++ Text.quote c ++ ": " ++ why)
    let rest ← cells fields (i + 1) cs vs
    return (c, s) :: rest

/-- Reads one row into a record: the fields the columns name, converted, and the rest
at their zero values. -/
def record (fields : List (String × Slot)) (columns : List String) (row : List Cell) :
    Except String (List (String × Scanned)) := do
  let got ← cells fields 0 columns row
  return fields.map fun (name, slot) => (name, ((got.find? (·.1 == name)).map (·.2)).getD (zero slot))

end Scan

namespace Scanned

/-- The text of a field, or empty. -/
def asText : Scanned → String
  | .text s => s
  | .bytes s => s
  | _ => ""

/-- The integer of a field, or zero. -/
def asInt : Scanned → Int64
  | .int i => i
  | _ => 0

/-- The flag of a field, or false. -/
def asFlag : Scanned → Bool
  | .flag b => b
  | _ => false

/-- The instant of a field, if set. -/
def asTime? : Scanned → Option Instant
  | .time t => some t
  | _ => none

/-- The text of an optional field, if set. -/
def asText? : Scanned → Option String
  | .text s => some s
  | _ => none

end Scanned

/-- A record read from a row: look up fields by name. -/
def Scanned.field (r : List (String × Scanned)) (name : String) : Scanned :=
  ((r.find? (·.1 == name)).map (·.2)).getD .absent

end StockLedger

import StockLedger.Numeric.Shortest
import StockLedger.Time.Rfc3339
import StockLedger.Quantity

/-!
Values that cross the database boundary: statement arguments and the cells of result
rows. A cell is null, a flag, a 64-bit integer, a binary64 number, text, bytes or a
timestamp. Messages about cells name their types the way the row reader does and write
their values in its long forms.
-/

namespace StockLedger

/-- A value sent to or read from the database. -/
inductive Cell where
  | null
  | flag (b : Bool)
  | int (i : Int64)
  | float (x : Binary64)
  | text (s : String)
  | bytes (s : String)
  | time (t : Instant)
deriving Inhabited

namespace Cell

/-- The text of an instant in the long form messages use, on its own clock: date, time
with the shortest fraction, the offset and the zone's name, which for a bare offset is
the offset again. -/
def longTime (t : Instant) : String :=
  let c := t.wallClock
  Rfc3339.yearText c.year ++ "-" ++ Rfc3339.padded 2 c.month.toNat ++ "-" ++ Rfc3339.padded 2 c.day.toNat ++ " " ++
    Rfc3339.padded 2 c.hour.toNat ++ ":" ++ Rfc3339.padded 2 c.minute.toNat ++ ":" ++
    Rfc3339.padded 2 c.second.toNat ++ Rfc3339.fractionText c.nanos.toNat ++ " " ++
    (if t.zone = 0 then "+0000 UTC" else Rfc3339.offsetText "" t.zone ++ " " ++ Rfc3339.offsetText "" t.zone)

/-- The name of a cell's type in messages. -/
def typeName : Cell → String
  | .null => "<nil>"
  | .flag _ => "bool"
  | .int _ => "int64"
  | .float _ => "float64"
  | .text _ => "string"
  | .bytes _ => "[]uint8"
  | .time _ => "time.Time"

/-- A cell written as text, the way values are printed in messages. -/
def display : Cell → String
  | .null => "<nil>"
  | .flag b => if b then "true" else "false"
  | .int i => Quantity.text i
  | .float x => x.generalText
  | .text s => s
  | .bytes s => s
  | .time t => longTime t

/-- An optional text as an argument: null when absent. -/
def ofOption : Option String → Cell
  | some s => .text s
  | none => .null

/-- An optional instant as an argument: null when absent. -/
def ofTime : Option Instant → Cell
  | some t => .time t
  | none => .null

end Cell

end StockLedger

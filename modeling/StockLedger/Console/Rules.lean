import StockLedger.Console.Request
import StockLedger.Database.Script
import StockLedger.Numeric.Binary64

/-!
Reading a database script from a console request. A script is a list of rule objects;
each rule names the text it matches, how often it may answer, whether it answers at
prepare time, and what it answers: a failure, rows, a failure after the rows, a count
of rows touched, or a failure reading that count. Row values are JSON null, flags,
integers (as 64-bit integers), other numbers (as binary64), text, or objects tagged
`"time"` or `"bytes"`: an object whose `time` member is text is a timestamp, else one
whose `bytes` member is text holds those bytes, and its other members are passed over.
The columns are the first row's names, sorted; only those are read from each row, in
row order and then column order.
-/

namespace StockLedger

namespace Rules

/-- A cell from a row value in a script. -/
def cellOf : Json → Except String Cell
  | .null => .ok .null
  | .bool b => .ok (.flag b)
  | .string s => .ok (.text s)
  | .number lit =>
    match Bind.integerOf? lit with
    | some i => .ok (.int i)
    | none =>
      match Binary64.ofLiteral lit with
      | some x => .ok (.float x)
      | none => .error ("bad number " ++ lit)
  | .object ms =>
    match (Json.object ms).field? "time", (Json.object ms).field? "bytes" with
    | some (.string t), _ =>
      match Rfc3339.parse t with
      | some i => .ok (.time i)
      | none => .error ("bad time " ++ Text.quote t)
    | _, some (.string b) => .ok (.bytes b)
    | _, _ => .error "unsupported column value"
  | .array _ => .error "unsupported column value"

/-- The columns of a script's rows: the names of the first row, each once, sorted. -/
def columnsOf : List Json → List String
  | .object ms :: _ => (ms.map (·.1)).eraseDups.mergeSort (fun a b => a ≤ b)
  | _ => []

/-- A row of a script: its cells under the given columns, in column order, a missing
one null. Members under other names are passed over unread. -/
def rowOf (columns : List String) : Json → Except String (List (String × Cell))
  | .object ms =>
    columns.mapM fun c => do
      let v := ((Json.object ms).field? c).getD .null
      return (c, ← cellOf v)
  | _ => .error "rows must be a list of objects"

/-- A text field where the empty text means none. -/
def textOpt (j : Json) (name : String) : Except String (Option String) := do
  let s ← Request.text j name
  return if s = "" then none else some s

/-- One rule of a script. -/
def ruleOf (j : Json) : Except String Rule := do
  match j with
  | .object _ => pure ()
  | _ => throw "db rules must be objects"
  let pattern ← Request.text j "match"
  let error ← textOpt j "error"
  let affectedError ← textOpt j "affected_error"
  let rowError ← textOpt j "row_error"
  let atPrepare ← Request.flag j "prepare"
  let times ← Request.intOpt j "times"
  let affected ← Request.intOpt j "affected"
  let rows ← match Request.get? j "rows" with
    | none => pure []
    | some (.array rs) => rs.mapM (rowOf (columnsOf rs))
    | some _ => throw "rows must be a list of objects"
  let uses := match times with
    | some n => if n < 0 then none else some n.toInt.toNat
    | none => none
  return { pattern, uses, atPrepare, error, rows, rowError, affected := affected.getD 1, affectedError }

/-- A script: a list of rules. -/
def listOf : Json → Except String (List Rule)
  | .array rules => rules.mapM ruleOf
  | _ => .error "db must be a list of rules"

end Rules

end StockLedger

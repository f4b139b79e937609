import StockLedger.Ledger.State
import StockLedger.Database.Scan

/-!
Talking to the ledger's database. A call given up on fails before anything is sent,
with the reason it was given up; an unreachable database fails every call. Otherwise a
statement is first prepared, where a prepare rule may refuse it unrecorded, then run and
recorded, where a run rule decides its outcome.

On top of running statements sit the three ways records are read: a single row into a
record, which tells whether there was a row at all; every row into records; and a single
value. Columns that name no field refuse the result before any row is read; a failure
after the rows is seen by a full read, and by a single read only when there is no row.
-/

namespace StockLedger

namespace Sql

open Run

/-- The text every call to an unreachable database fails with. -/
def unreachableText : String := "<db unreachable>"

/-- Whether a character continues a parameter name. -/
def nameChar (c : Char) : Bool := c.isAlphanum || c = '_' || c = '.'

/-- Numbers the named parameters of a statement from `next` on: each `:name` becomes
`$n`, and the value the name has, null when it has none, becomes the next argument. A
name used twice takes two parameters. -/
def numberFrom (values : List (String × Cell)) : Nat → List Char → List Char × List Cell
  | _, [] => ([], [])
  | next, ':' :: rest =>
    let name := rest.takeWhile nameChar
    if name.isEmpty then
      let (text, args) := numberFrom values next rest
      (':' :: text, args)
    else
      let (text, args) := numberFrom values (next + 1) (rest.dropWhile nameChar)
      let value := ((values.find? (·.1 == String.ofList name)).map (·.2)).getD .null
      (('$' :: (Nat.repr next).toList) ++ text, value :: args)
  | next, c :: rest =>
    let (text, args) := numberFrom values next rest
    (c :: text, args)
termination_by _ cs => cs.length
decreasing_by
  all_goals simp_wf
  all_goals
    have : (rest.dropWhile nameChar).length ≤ rest.length := (List.dropWhile_suffix nameChar).length_le
    omega

/-- A statement with named parameters as sent: its numbered text and its arguments. -/
def named (text : String) (values : List (String × Cell)) : String × List Cell :=
  let (cs, args) := numberFrom values 1 text.toList
  (String.ofList cs, args)

/-- Fails when the call was given up on or the database cannot be reached. -/
def reach (call : Call) : Run Unit := do
  match call.halted? with
  | some c => fail (.cause c none)
  | none =>
    match (← get).database.backend with
    | .unreachable => fail (.plain unreachableText)
    | .scripted _ => pure ()

/-- Spends the rule for a statement in a phase, recording the statement when it runs. -/
def consult (preparing : Bool) (s : Statement) : Run (Option Rule) := do
  let l ← get
  let (d, rule) := l.database.pick preparing s.text
  set { l with database := if preparing then d else d.record s }
  return rule

/-- Sends a transaction step; a rule's error fails it. -/
def step (call : Call) (name : String) : Run Unit := do
  reach call
  match ← consult false ⟨name, none⟩ with
  | some { error := some e, .. } => fail (.plain e)
  | _ => pure ()

/-- Abandons a transaction. Its outcome is ignored. -/
def rollback : Run Unit := do
  let _ ← consult false ⟨"ROLLBACK", none⟩

/-- Prepares and runs a statement, giving the rule that answered it, if any. -/
def send (call : Call) (text : String) (args : List Cell) : Run (Option Rule) := do
  reach call
  match ← consult true ⟨text, some args⟩ with
  | some { error := some e, .. } => fail (.plain e)
  | _ => pure ()
  match ← consult false ⟨text, some args⟩ with
  | some { error := some e, .. } => fail (.plain e)
  | r => return r

/-- Runs a change: the number of rows it touched, or why that cannot be told. -/
def exec (call : Call) (text : String) (args : List Cell) : Run (Except String Int64) := do
  match ← send call text args with
  | some r =>
    match r.affectedError with
    | some e => return .error e
    | none => return .ok r.affected
  | none => return .ok 1

/-- What a query returns: column names, rows of cells, and a failure after the rows. -/
structure Answer where
  columns : List String
  rows : List (List Cell)
  rowError : Option String

/-- Runs a query. -/
def query (call : Call) (text : String) (args : List Cell) : Run Answer := do
  match ← send call text args with
  | some r => return ⟨r.columns, r.table, r.rowError⟩
  | none => return ⟨[], [], none⟩

/-- Runs a check whose failure is a plain message. -/
def plainly (r : Except String α) : Run α :=
  match r with
  | .ok a => pure a
  | .error m => fail (.plain m)

/-- Reads the first row of a query into a record named `dest`, or none when there is no
row. -/
def getRecord (call : Call) (text : String) (args : List Cell) (fields : List (String × Slot))
    (dest : String) : Run (Option (List (String × Scanned))) := do
  let a ← query call text args
  plainly (Scan.fieldsCover fields a.columns dest)
  match a.rows with
  | [] =>
    match a.rowError with
    | some e => fail (.plain e)
    | none => return none
  | row :: _ => return some (← plainly (Scan.record fields a.columns row))

/-- Reads every row of a query into records of a list named `dest`. -/
def selectRecords (call : Call) (text : String) (args : List Cell) (fields : List (String × Slot))
    (dest : String) : Run (List (List (String × Scanned))) := do
  let a ← query call text args
  plainly (Scan.fieldsCover fields a.columns dest)
  let records ← a.rows.mapM fun row => plainly (Scan.record fields a.columns row)
  match a.rowError with
  | some e => fail (.plain e)
  | none => return records

/-- Reads the single column of a query's first row into a slot of the named kind, or
none when there is no row. -/
def getValue (call : Call) (text : String) (args : List Cell) (slot : Slot) (kind : String) :
    Run (Option Scanned) := do
  let a ← query call text args
  if a.columns.length > 1 then
    fail (.plain ("scannable dest type " ++ kind ++ " with >1 columns (" ++ Nat.repr a.columns.length ++ ") in result"))
  match a.rows with
  | [] =>
    match a.rowError with
    | some e => fail (.plain e)
    | none => return none
  | row :: _ =>
    match a.columns, row with
    | [c], [v] =>
      match Scan.convert slot v with
      | .ok s => return some s
      | .error why => fail (.plain ("sql: Scan error on column index 0, name " ++ Text.quote c ++ ": " ++ why))
    | cols, _ => fail (.plain ("sql: expected " ++ Nat.repr cols.length ++ " destination arguments in Scan, not 1"))

end Sql

end StockLedger

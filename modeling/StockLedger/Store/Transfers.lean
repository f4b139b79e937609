import StockLedger.Ledger.Sql
import StockLedger.Json.Read
import StockLedger.Json.Bind

/-!
Where transfers are kept: in the ledger's list, or in the database's `stock_transfers`
table, as the wiring says. On the database a transfer's lines live in one column as a
JSON array: each line an object with its product, its variant only when it has one,
its quantity, whether it is reserved, and what shipped and arrived. Reading a stored
transfer decodes that column; a column that does not decode refuses the transfer.

A stored record with no lines is read back without a line list at all, unless the
database holds an explicit empty list for it.
-/

namespace StockLedger

namespace TransferStore

open Run

/-- The columns of a stored transfer and the fields they are read into. -/
def columns : List (String × Slot) :=
  [("id", .text), ("from_location_id", .text), ("to_location_id", .text),
   ("status", .named "model.TransferStatus"), ("expected_arrival", .timeOpt),
   ("arrived_at", .timeOpt), ("notes", .textOpt), ("created_at", .time), ("updated_at", .time),
   ("items", .bytes)]

/-- The shape the line column is read into. -/
def linesShape : Shape :=
  .list (.record "TransferItem" "model.TransferItem"
    [("product_id", .text), ("variant_id", .text), ("quantity", .integer "int64"),
     ("reserved", .flag), ("quantity_shipped", .integer "int64"),
     ("quantity_received", .integer "int64")]) "[]model.TransferItem"

/-- The JSON text of one line. -/
def lineText (l : TransferLine) : String :=
  "\x7b\"product_id\":" ++ Json.quoteSafe l.product ++
    (if l.variant = "" then "" else ",\"variant_id\":" ++ Json.quoteSafe l.variant) ++
    ",\"quantity\":" ++ Quantity.text l.quantity ++
    ",\"reserved\":" ++ (if l.reserved then "true" else "false") ++
    ",\"quantity_shipped\":" ++ Quantity.text l.shipped ++
    ",\"quantity_received\":" ++ Quantity.text l.received ++ "\x7d"

/-- The JSON text of a transfer's lines, an empty array when it has none. -/
def linesText (ls : List TransferLine) : String :=
  "[" ++ ",".intercalate (ls.map lineText) ++ "]"

/-- Decodes the line column: the lines, or none for a JSON null. -/
def linesOf (text : String) : Except String (Option (List TransferLine)) := do
  let j ← Json.parse text
  let h ← linesShape.bind j
  match j with
  | .null => return none
  | _ =>
    return some (h.asList.map fun x =>
      ⟨(x.field 0).asText, (x.field 1).asText, (x.field 2).asInt, (x.field 3).asFlag,
       (x.field 4).asInt, (x.field 5).asInt⟩)

/-- A transfer from a stored row, or why its lines do not decode. -/
def transferOf (r : List (String × Scanned)) : Except Failure Transfer :=
  let f := Scanned.field r
  match linesOf (f "items").asText with
  | .error m => .error (.context "failed to decode transfer items" (.plain m))
  | .ok lines =>
    .ok { id := (f "id").asText
          source := (f "from_location_id").asText
          destination := (f "to_location_id").asText
          status := TransferStatus.ofName (f "status").asText
          lines := lines.getD []
          linesAbsent := lines.isNone
          expectedArrival := (f "expected_arrival").asTime?
          arrivedAt := (f "arrived_at").asTime?
          notes := (f "notes").asText?
          createdAt := ((f "created_at").asTime?).getD Instant.zero
          updatedAt := ((f "updated_at").asTime?).getD Instant.zero }

/-- The cells of a transfer, by column name, stamped as written at an instant. -/
def cells (t : Transfer) (now : Instant) : List (String × Cell) :=
  [("id", .text t.id), ("from_location_id", .text t.source), ("to_location_id", .text t.destination),
   ("status", .text t.status.name), ("items", .bytes (linesText t.lines)),
   ("expected_arrival", .ofTime t.expectedArrival), ("arrived_at", .ofTime t.arrivedAt),
   ("notes", .ofOption t.notes), ("created_at", .time t.createdAt), ("updated_at", .time now)]

/-- The statement that adds a transfer. -/
def insertText : String :=
  "INSERT INTO stock_transfers ( id, from_location_id, to_location_id, status, items, " ++
  "expected_arrival, arrived_at, notes, created_at, updated_at ) VALUES ( :id, " ++
  ":from_location_id, :to_location_id, :status, :items, :expected_arrival, :arrived_at, " ++
  ":notes, :created_at, :updated_at )"

/-- The statement that writes a transfer's journal. -/
def updateText : String :=
  "UPDATE stock_transfers SET status = :status, items = :items, arrived_at = :arrived_at, " ++
  "notes = :notes, updated_at = :updated_at WHERE id = :id"

/-- Whether transfers are kept on the database. -/
def onDatabase : Run Bool := do return (← get).wiring.transfers

/-- A transfer as memory gives it back: with no line list when it has no lines. -/
def copied (t : Transfer) : Transfer := { t with linesAbsent := t.lines.isEmpty }

/-- Stores a new transfer; in memory an id already stored is refused. -/
def create (call : Call) (t : Transfer) : Run Unit := do
  if ← onDatabase then
    let (text, args) := Sql.named insertText (cells t (← Run.now))
    match ← attempt (Sql.exec call text args) with
    | .ok _ => pure ()
    | .error e => fail (.context "failed to insert transfer" e)
  else
    let l ← get
    if l.transfers.any (·.id == t.id) then
      fail (.withDetail .transferInvalid ("duplicate id " ++ t.id))
    set { l with transfers := l.transfers ++ [t] }

/-- The stored transfer with an id. -/
def find (call : Call) (id : String) : Run Transfer := do
  if ← onDatabase then
    match ← Sql.getRecord call "SELECT * FROM stock_transfers WHERE id = $1" [.text id] columns
        "*repository.transferRow" with
    | some r => check (transferOf r)
    | none => fail (.withDetail .transferNotFound id)
  else
    match (← get).transfers.find? (·.id == id) with
    | some t => return copied t
    | none => fail (.withDetail .transferNotFound id)

/-- The listing statement of a transfer query, with named parameters. -/
def listText (q : TransferQuery) : String :=
  "SELECT * FROM stock_transfers WHERE 1=1" ++
    (if q.status = "" then "" else " AND status = :status") ++
    (if q.location = "" then "" else " AND (from_location_id = :location_id OR to_location_id = :location_id)") ++
    " ORDER BY created_at, id"

/-- Stored transfers passing a query: on the database in the order it returns them, in
memory in the order they were created. -/
def all (call : Call) (q : TransferQuery) : Run (List Transfer) := do
  if ← onDatabase then
    let (text, args) := Sql.named (listText q) [("status", .text q.status), ("location_id", .text q.location)]
    let rs ← Sql.selectRecords call text args columns "*[]repository.transferRow"
    rs.mapM fun r => check (transferOf r)
  else return ((← get).transfers.filter q.admits).map copied

/-- Writes a stored transfer's journal. -/
def update (call : Call) (t : Transfer) : Run Unit := do
  if ← onDatabase then
    let (text, args) := Sql.named updateText (cells t (← Run.now))
    let touched ← match ← attempt (Sql.exec call text args) with
      | .ok r => pure r
      | .error e => fail (.context "failed to update transfer" e)
    match touched with
    | .error m => fail (.plain m)
    | .ok n => if n = 0 then fail (.withDetail .transferNotFound t.id)
  else
    let l ← get
    if l.transfers.any (·.id == t.id) then
      set { l with transfers := l.transfers.map (fun (s : Transfer) => if s.id == t.id then t else s) }
    else fail (.withDetail .transferNotFound t.id)

end TransferStore

end StockLedger

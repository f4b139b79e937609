import StockLedger.Ledger.Sql

/-!
Where stock levels and the adjustment log are kept: in the ledger's book, or in the
database's `inventory_levels` and `inventory_adjustments` tables, as the wiring says.

A change of a level is one critical section. On the database it is one transaction:
the level is created if the change may create it and none exists, read and locked, the
change computed, the level written back and the change's entry appended, which
returns the entry's sequence number. A failure anywhere before the commit abandons the
transaction; each step's failure is labelled with what it was doing.
-/

namespace StockLedger

namespace LevelStore

open Run

def levelColumns : List (String × Slot) :=
  [("product_id", .text), ("variant_id", .text), ("location_id", .text), ("on_hand", .int64),
   ("committed", .int64), ("available", .int64), ("incoming", .int64), ("damaged", .int64),
   ("low_stock_threshold", .int64), ("reorder_point", .int64), ("reorder_quantity", .int64),
   ("safety_stock", .int64), ("last_counted_at", .timeOpt), ("created_at", .time),
   ("updated_at", .time)]

def entryColumns : List (String × Slot) :=
  [("id", .text), ("seq", .int64), ("product_id", .text), ("variant_id", .text),
   ("location_id", .text), ("adjustment_type", .named "model.AdjustmentType"),
   ("quantity", .int64), ("previous_quantity", .int64), ("new_quantity", .int64),
   ("reference", .textOpt), ("reason", .text), ("created_by", .textOpt), ("created_at", .time)]

def levelOf (r : List (String × Scanned)) : Level :=
  let f := Scanned.field r
  { key := ⟨(f "product_id").asText, (f "variant_id").asText, (f "location_id").asText⟩
    onHand := (f "on_hand").asInt
    committed := (f "committed").asInt
    available := (f "available").asInt
    incoming := (f "incoming").asInt
    damaged := (f "damaged").asInt
    lowStockThreshold := (f "low_stock_threshold").asInt
    reorderPoint := (f "reorder_point").asInt
    reorderQuantity := (f "reorder_quantity").asInt
    safetyStock := (f "safety_stock").asInt
    lastCountedAt := (f "last_counted_at").asTime?
    createdAt := ((f "created_at").asTime?).getD Instant.zero
    updatedAt := ((f "updated_at").asTime?).getD Instant.zero }

def entryOf (r : List (String × Scanned)) : Adjustment :=
  let f := Scanned.field r
  { id := (f "id").asText
    seq := (f "seq").asInt
    key := ⟨(f "product_id").asText, (f "variant_id").asText, (f "location_id").asText⟩
    kind := AdjustmentKind.ofName (f "adjustment_type").asText
    quantity := (f "quantity").asInt
    previous := (f "previous_quantity").asInt
    next := (f "new_quantity").asInt
    reference := (f "reference").asText?
    reason := (f "reason").asText
    createdBy := (f "created_by").asText?
    createdAt := ((f "created_at").asTime?).getD Instant.zero }

def levelCells (l : Level) (now : Instant) : List (String × Cell) :=
  [("product_id", .text l.key.product), ("variant_id", .text l.key.variant),
   ("location_id", .text l.key.location), ("on_hand", .int l.onHand),
   ("committed", .int l.committed), ("available", .int l.available),
   ("incoming", .int l.incoming), ("damaged", .int l.damaged),
   ("low_stock_threshold", .int l.lowStockThreshold), ("reorder_point", .int l.reorderPoint),
   ("reorder_quantity", .int l.reorderQuantity), ("safety_stock", .int l.safetyStock),
   ("last_counted_at", .ofTime l.lastCountedAt), ("created_at", .time now),
   ("updated_at", .time now)]

def entryCells (a : Adjustment) : List (String × Cell) :=
  [("id", .text a.id), ("product_id", .text a.key.product), ("variant_id", .text a.key.variant),
   ("location_id", .text a.key.location), ("adjustment_type", .text a.kind.name),
   ("quantity", .int a.quantity), ("previous_quantity", .int a.previous),
   ("new_quantity", .int a.next), ("reference", .ofOption a.reference),
   ("reason", .text a.reason), ("created_by", .ofOption a.createdBy),
   ("created_at", .time a.createdAt)]

def keyArgs (k : StockKey) : List Cell := [.text k.product, .text k.variant, .text k.location]

def keyClause : String := "product_id = $1 AND variant_id = $2 AND location_id = $3"

def onDatabase : Run Bool := do return (← get).wiring.inventory

def missing (key : StockKey) : Failure := .withDetail .levelNotFound key.text

def find (call : Call) (key : StockKey) : Run Level := do
  if ← onDatabase then
    match ← Sql.getRecord call ("SELECT * FROM inventory_levels WHERE " ++ keyClause) (keyArgs key)
        levelColumns "*model.InventoryLevel" with
    | some r => return levelOf r
    | none => fail (missing key)
  else check ((← get).book.level key)

def listText (q : LevelQuery) : String :=
  let conditions :=
    (if q.product = "" then [] else ["product_id = :product_id"]) ++
    (if q.location = "" then [] else ["location_id = :location_id"]) ++
    (if q.low then ["available > 0 AND available <= low_stock_threshold"] else []) ++
    (if q.out then ["available <= 0"] else []) ++
    (if q.reorder then ["available <= reorder_point"] else [])
  "SELECT * FROM inventory_levels" ++
    (if conditions.isEmpty then "" else " WHERE " ++ " AND ".intercalate conditions) ++
    " ORDER BY product_id, variant_id, location_id"

/-- Levels answering a query: on the database in the order it returns them, in memory
ordered by the text of their keys. -/
def list (call : Call) (q : LevelQuery) : Run (List Level) := do
  if ← onDatabase then
    let (text, args) := Sql.named (listText q)
      [("product_id", .text q.product), ("location_id", .text q.location)]
    let rs ← Sql.selectRecords call text args levelColumns "*[]model.InventoryLevel"
    return rs.map levelOf
  else return (← get).book.list q

def historyText (q : AdjustmentQuery) : String :=
  let conditions :=
    (if q.product = "" then [] else ["product_id = :product_id"]) ++
    (if q.location = "" then [] else ["location_id = :location_id"]) ++
    (if q.kind = "" then [] else ["adjustment_type = :adjustment_type"]) ++
    (if q.reference = "" then [] else ["reference = :reference"]) ++
    (if q.start.isNone then [] else ["created_at >= :start_date"]) ++
    (if q.stop.isNone then [] else ["created_at <= :end_date"])
  "SELECT * FROM inventory_adjustments" ++
    (if conditions.isEmpty then "" else " WHERE " ++ " AND ".intercalate conditions) ++
    " ORDER BY seq DESC" ++
    (if q.limit > 0 then " LIMIT " ++ toString q.limit else "")

def history (call : Call) (q : AdjustmentQuery) : Run (List Adjustment) := do
  if ← onDatabase then
    let (text, args) := Sql.named (historyText q)
      [("product_id", .text q.product), ("location_id", .text q.location),
       ("adjustment_type", .text q.kind), ("reference", .text q.reference),
       ("start_date", .ofTime q.start), ("end_date", .ofTime q.stop)]
    let rs ← Sql.selectRecords call text args entryColumns "*[]model.InventoryAdjustment"
    return rs.map entryOf
  else return (← get).book.history q

/-- The statement that creates a level unless its key has one. -/
def createText : String :=
  "INSERT INTO inventory_levels ( product_id, variant_id, location_id, on_hand, committed, " ++
  "available, incoming, damaged, low_stock_threshold, reorder_point, reorder_quantity, " ++
  "safety_stock, last_counted_at, created_at, updated_at ) VALUES ( :product_id, :variant_id, " ++
  ":location_id, :on_hand, :committed, :available, :incoming, :damaged, :low_stock_threshold, " ++
  ":reorder_point, :reorder_quantity, :safety_stock, :last_counted_at, :created_at, " ++
  ":updated_at ) ON CONFLICT (product_id, variant_id, location_id) DO NOTHING"

def writeText : String :=
  "UPDATE inventory_levels SET on_hand = :on_hand, committed = :committed, " ++
  "available = :available, incoming = :incoming, damaged = :damaged, " ++
  "low_stock_threshold = :low_stock_threshold, reorder_point = :reorder_point, " ++
  "reorder_quantity = :reorder_quantity, safety_stock = :safety_stock, " ++
  "last_counted_at = :last_counted_at, updated_at = :updated_at WHERE " ++
  "product_id = :product_id AND variant_id = :variant_id AND location_id = :location_id"

def appendText : String :=
  "INSERT INTO inventory_adjustments ( id, product_id, variant_id, location_id, " ++
  "adjustment_type, quantity, previous_quantity, new_quantity, reference, reason, " ++
  "created_by, created_at ) VALUES ( :id, :product_id, :variant_id, :location_id, " ++
  ":adjustment_type, :quantity, :previous_quantity, :new_quantity, :reference, :reason, " ++
  ":created_by, :created_at ) RETURNING seq"

def labelled (what : String) (m : Run α) : Run α := do
  match ← attempt m with
  | .ok a => return a
  | .error e => fail (.context what e)

/-- Appends a log entry on the database and reads back its sequence number: the single
column of the first row returned. A failure after the rows still refuses the entry. -/
def append (call : Call) (a : Adjustment) : Run Adjustment := do
  let appended := Sql.named appendText (entryCells a)
  let answer ← labelled "failed to log adjustment" (Sql.query call appended.1 appended.2)
  match answer.rows with
  | [] =>
    match answer.rowError with
    | some e => fail (.context "failed to log adjustment" (.plain e))
    | none => fail (.plain "failed to log adjustment: no sequence returned")
  | row :: _ =>
    let seq ← match answer.columns, row with
      | [c], [v] =>
        match Scan.convert .int64 v with
        | .ok s => pure s.asInt
        | .error why =>
          fail (.plain ("sql: Scan error on column index 0, name " ++ Text.quote c ++ ": " ++ why))
      | cols, _ =>
        fail (.plain ("sql: expected " ++ Nat.repr cols.length ++ " destination arguments in Scan, not 1"))
    match answer.rowError with
    | some e => fail (.context "failed to log adjustment" (.plain e))
    | none => return { a with seq }

def transact (call : Call) (key : StockKey) (create : Bool)
    (change : Level → Run (Level × Option Adjustment)) : Run (Level × Option Adjustment) := do
  let now ← Run.now
  if create then
    let created := Sql.named createText (levelCells (Level.fresh key) now)
    let _ ← labelled "failed to create inventory level" (Sql.exec call created.1 created.2)
  let level ← match ← Sql.getRecord call ("SELECT * FROM inventory_levels WHERE " ++ keyClause ++ " FOR UPDATE")
      (keyArgs key) levelColumns "*model.InventoryLevel" with
    | some r => pure (levelOf r)
    | none => fail (missing key)
  let (level, entry) ← change level
  let written := Sql.named writeText (levelCells level now)
  let _ ← labelled "failed to update inventory level" (Sql.exec call written.1 written.2)
  match entry with
  | none => return (level, none)
  | some a => return (level, some (← append call a))

/-- Applies a change to the level of a key in one critical section. The change gets
the stored level, or a fresh one when `create` allows and none is stored, and gives the
level to write and the log entry to append, whose sequence number the store assigns.
Returns what was written. -/
def mutate (call : Call) (key : StockKey) (create : Bool)
    (change : Level → Run (Level × Option Adjustment)) : Run (Level × Option Adjustment) := do
  if ← onDatabase then
    Sql.step call "BEGIN"
    match ← attempt (transact call key create change) with
    | .ok r =>
      Sql.step call "COMMIT"
      return r
    | .error e =>
      Sql.rollback
      fail e
  else
    let w ← check ((← get).book.working key create)
    let (w', entry) ← change w
    let l ← get
    let (book, entry) := l.book.commit w' (entry.map fun a seq => { a with seq })
    set { l with book }
    return (w', entry)

end LevelStore

end StockLedger

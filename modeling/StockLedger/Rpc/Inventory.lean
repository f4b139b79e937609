import StockLedger.Rpc.Method
import StockLedger.Ledger.Stock

/-!
The inventory service: stock operations on one level, thresholds, and queries over
levels and the log. Operations on a level name it by `product_id`, `variant_id` and
`location_id`; the product and the location are required. Each answers with the level
after the operation under `inventory`.
-/

namespace StockLedger

namespace InventoryService

open Method

/-- The full name of the service. -/
def name : String := "omnipos.inventory.v1.InventoryService"

/-- The fields naming a level. -/
def keyFields : List (String × Shape) :=
  [textField "product_id", textField "variant_id", textField "location_id"]

/-- The level a request names. -/
def keyOf (h : Held) : StockKey := ⟨(h.field 0).asText, (h.field 1).asText, (h.field 2).asText⟩

/-- Refuses a request naming no product or no location. -/
def validate (key : StockKey) : Except Status Unit := do
  require "product_id" key.product
  require "location_id" key.location

/-- The answer holding one level. -/
def levelReply (l : Level) : Run Json := do
  writable (Render.levelTimes l)
  return .object [("inventory", Render.level (← Run.now) l)]

/-- A method moving a quantity of stock. -/
def stockMethod (move : Int64 → Move) : Method := fun call doc => do
  let h ← decode (.record "stockRequest" "handler.stockRequest"
    (keyFields ++ [intField "quantity", textField "reference", textField "reason"])) doc
  let key := keyOf h
  validate key
  let note : Note := { reference := (h.field 4).asText, reason := (h.field 5).asText }
  return do levelReply (← Stock.run call key (move (h.field 3).asInt) note)

/-- A method setting the quantity on hand; a count also stamps the level. -/
def setMethod (counted : Bool) : Method := fun call doc => do
  let h ← decode (.record "setRequest" "handler.setRequest"
    (keyFields ++ [intField "on_hand", textField "reference", textField "reason"])) doc
  let key := keyOf h
  validate key
  let note : Note := { reference := (h.field 4).asText, reason := (h.field 5).asText }
  let v := (h.field 3).asInt
  return do
    let now ← Run.now
    let move := if counted then Move.count v now else Move.set v
    levelReply (← Stock.run call key move note)

/-- Changes the thresholds and incoming quantity of a level. -/
def updateThresholds : Method := fun call doc => do
  let h ← decode (.record "" "struct"
    (keyFields ++ [intOptField "low_stock_threshold", intOptField "reorder_point",
      intOptField "reorder_quantity", intOptField "safety_stock", intOptField "incoming"])) doc
  let key := keyOf h
  validate key
  let t : Thresholds :=
    { lowStock := intOpt (h.field 3), reorderPoint := intOpt (h.field 4),
      reorderQuantity := intOpt (h.field 5), safetyStock := intOpt (h.field 6),
      incoming := intOpt (h.field 7) }
  return do levelReply (← Stock.run call key (.limits t) {})

/-- The shape of a request naming a level. -/
def keyRequest : Shape := .record "keyRequest" "handler.keyRequest" keyFields

/-- Reads one level. -/
def getInventory : Method := fun call doc => do
  let key := keyOf (← decode keyRequest doc)
  validate key
  return do levelReply (← Stock.level call key)

/-- Reads the stock status of one level. -/
def getStockStatus : Method := fun call doc => do
  let key := keyOf (← decode keyRequest doc)
  validate key
  return do
    let l ← Stock.level call key
    return .object [("available", Render.figure l.available), ("low_stock", .bool l.isLow),
      ("out_of_stock", .bool l.isOut), ("needs_reorder", .bool l.needsReorder)]

/-- Reads every level of a product and its total available quantity. -/
def getProductInventory : Method := fun call doc => do
  let product := (keyOf (← decode keyRequest doc)).product
  require "product_id" product
  return do
    let levels ← Stock.levels call { product }
    let total ← Stock.totalAvailable call product
    writable (levels.flatMap Render.levelTimes)
    let clock ← Run.now
    return .object [("inventory", .array (levels.map (Render.level clock))),
      ("total_available", Render.figure total)]

/-- A method listing the levels a query selects, with their count. -/
def listMethod (q : LevelQuery) : Method := fun call _ =>
  return do
    let levels ← Stock.levels call q
    writable (levels.flatMap Render.levelTimes)
    let clock ← Run.now
    return .object [("items", .array (levels.map (Render.level clock))),
      ("total", Render.count levels.length)]

/-- The answer holding log entries. -/
def adjustmentsReply (entries : List Adjustment) : Run Json := do
  writable (entries.map (·.createdAt))
  return .object [("adjustments", .array (entries.map Render.adjustment))]

/-- Reads the newest log entries of a product. -/
def getAdjustmentHistory : Method := fun call doc => do
  let h ← decode (.record "" "struct" [textField "product_id", natField "limit"]) doc
  let product := (h.field 0).asText
  require "product_id" product
  return do adjustmentsReply (← Stock.history call { product, limit := (h.field 1).asInt.toInt })

/-- Reads the log entries a filter selects. -/
def listAdjustments : Method := fun call doc => do
  let h ← decode (.record "" "struct"
    [textField "product_id", textField "location_id", textField "adjustment_type",
     textField "reference", timeOptField "start_date", timeOptField "end_date", natField "limit"]) doc
  let q : AdjustmentQuery :=
    { product := (h.field 0).asText, location := (h.field 1).asText, kind := (h.field 2).asText,
      reference := (h.field 3).asText, start := (h.field 4).asInstant?, stop := (h.field 5).asInstant?,
      limit := (h.field 6).asInt.toInt }
  return do adjustmentsReply (← Stock.history call q)

/-- The methods of the service. -/
def methods : List (String × Method) :=
  [("SetInventory", setMethod false), ("CycleCount", setMethod true),
   ("ReserveStock", stockMethod .reserve), ("ReleaseStock", stockMethod .release),
   ("CommitStock", stockMethod .ship), ("ReceiveStock", stockMethod .receive),
   ("ReturnStock", stockMethod .restock), ("MarkDamaged", stockMethod .damage),
   ("ScrapStock", stockMethod .scrap), ("UpdateThresholds", updateThresholds),
   ("GetInventory", getInventory), ("GetStockStatus", getStockStatus),
   ("GetProductInventory", getProductInventory),
   ("ListLowStock", listMethod { low := true }), ("ListReorderNeeded", listMethod { reorder := true }),
   ("ListOutOfStock", listMethod { out := true }),
   ("ListAdjustments", listAdjustments), ("GetAdjustmentHistory", getAdjustmentHistory)]

end InventoryService

end StockLedger

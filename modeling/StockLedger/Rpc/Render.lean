import StockLedger.Console.Show
import StockLedger.Wire.Payload

/-!
How call responses write ledger values. A response travels as a dynamic message, so
every figure in it is a binary64 number: integers past 2^53 come back rounded and are
written in their shortest form. Empty optional texts and absent times are left out
rather than written as `null`, creation and update times are never part of a response,
and a time within twelve hours of the clock is written `"now"`. A response is still only
written when every time its records carry, shown or not, is a strict RFC 3339 timestamp.
-/

namespace StockLedger

namespace Render

/-- A figure as a response carries it. -/
def figure (i : Int64) : Json := Payload.integer i.toInt

/-- A count as a response carries it. -/
def count (n : Nat) : Json := Payload.integer n

/-- A member kept only when the text is not empty. -/
def textIf (name value : String) : List (String × Json) :=
  if value = "" then [] else [(name, .string value)]

/-- A member kept only when the value is present. -/
def someIf {α : Type} (name : String) (f : α → Json) : Option α → List (String × Json)
  | some v => [(name, f v)]
  | none => []

/-- A stock level. -/
def level (clock : Instant) (l : Level) : Json :=
  .object ([("product_id", .string l.key.product)] ++ textIf "variant_id" l.key.variant ++
    [("location_id", .string l.key.location), ("on_hand", figure l.onHand),
     ("committed", figure l.committed), ("available", figure l.available),
     ("incoming", figure l.incoming), ("damaged", figure l.damaged),
     ("low_stock_threshold", figure l.lowStockThreshold), ("reorder_point", figure l.reorderPoint),
     ("reorder_quantity", figure l.reorderQuantity), ("safety_stock", figure l.safetyStock)] ++
    someIf "last_counted_at" (Show.time clock) l.lastCountedAt)

/-- A log entry, without its random id. -/
def adjustment (a : Adjustment) : Json :=
  .object ([("seq", figure a.seq), ("product_id", .string a.key.product)] ++
    textIf "variant_id" a.key.variant ++
    [("location_id", .string a.key.location), ("adjustment_type", .string a.kind.name),
     ("quantity", figure a.quantity), ("previous_quantity", figure a.previous),
     ("new_quantity", figure a.next)] ++
    someIf "reference" Json.string a.reference ++ [("reason", .string a.reason)] ++
    someIf "created_by" Json.string a.createdBy)

/-- A location. -/
def location (l : Location) : Json :=
  .object [("id", .string l.id), ("name", .string l.name), ("kind", .string l.kind),
    ("address", .string l.address), ("city", .string l.city), ("state", .string l.state),
    ("country_code", .string l.countryCode), ("postal_code", .string l.postalCode),
    ("is_active", .bool l.isActive), ("fulfillment_priority", figure l.priority),
    ("can_ship", .bool l.canShip), ("allows_pickup", .bool l.allowsPickup)]

/-- A transfer line. -/
def line (l : TransferLine) : Json :=
  .object ([("product_id", .string l.product)] ++ textIf "variant_id" l.variant ++
    [("quantity", figure l.quantity), ("reserved", .bool l.reserved),
     ("quantity_shipped", figure l.shipped), ("quantity_received", figure l.received)])

/-- A transfer. A record that carries no line list has its lines as `null`. -/
def transfer (clock : Instant) (t : Transfer) : Json :=
  let items : Json := if t.linesAbsent then .null else .array (t.lines.map line)
  .object ([("id", .string t.id), ("from_location_id", .string t.source),
    ("to_location_id", .string t.destination), ("status", .string t.status.name),
    ("items", items)] ++
    someIf "expected_arrival" (Show.time clock) t.expectedArrival ++
    someIf "arrived_at" (Show.time clock) t.arrivedAt ++
    someIf "notes" Json.string t.notes)

/-- A registered source; its interval is in nanoseconds. -/
def source (clock : Instant) (s : Source) : Json :=
  let mapping : List (String × Json) := match s.locationMap with
    | some (e :: es) => [("location_map", .object ((e :: es).map fun (k, v) => (k, .string v)))]
    | _ => []
  .object ([("id", .string s.id), ("name", .string s.name), ("kind", .string s.kind)] ++
    textIf "endpoint_url" s.endpoint ++
    [("sync_enabled", .bool s.syncEnabled), ("sync_interval", figure s.interval)] ++
    mapping ++ someIf "last_sync_at" (Show.time clock) s.lastSyncAt ++
    someIf "last_sync_status" Json.string s.lastSyncStatus)

/-- The times a level carries. -/
def levelTimes (l : Level) : List Instant := l.lastCountedAt.toList ++ [l.createdAt, l.updatedAt]

/-- The times a transfer carries. -/
def transferTimes (t : Transfer) : List Instant :=
  t.expectedArrival.toList ++ t.arrivedAt.toList ++ [t.createdAt, t.updatedAt]

/-- The times a source carries. -/
def sourceTimes (s : Source) : List Instant := s.lastSyncAt.toList

/-- The outcome of a sync batch. -/
def syncResult (r : SyncResult) : Json :=
  .object [("source_id", .string r.source), ("status", .string r.status),
    ("items_processed", count r.processed), ("items_updated", count r.updated),
    ("items_failed", count r.failed), ("errors", .array (r.errors.map .string))]

end Render

end StockLedger

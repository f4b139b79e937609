import StockLedger.Ledger.State
import StockLedger.Json.Value
import StockLedger.Time.Rfc3339

/-!
How the console writes ledger values as JSON. Every figure is an exact integer, an
empty reference or actor is `null`, times are written in UTC, and a time within twelve
hours of the console's clock is written `"now"`, so answers do not depend on when they
were produced.
-/

namespace StockLedger

namespace Show

/-- Twelve hours in nanoseconds. -/
def nearWindow : Int := 12 * 3600 * 1000000000

/-- Whether a time counts as the present: within twelve hours of the clock. The distance
is a 64-bit nanosecond span, so a time more than 2^63 nanoseconds (about 292 years)
before the clock, whose span has no positive counterpart, also counts. -/
def isPresent (clock t : Instant) : Bool :=
  let span := t.ticks - clock.ticks
  decide (span ≤ -9223372036854775808) || decide (span.natAbs ≤ nearWindow.toNat)

/-- A time: `"now"` when it counts as the present, else its RFC 3339 text in UTC. -/
def time (clock t : Instant) : Json :=
  if isPresent clock t then .string "now" else .string (Rfc3339.format t)

/-- An optional time, `null` when absent. -/
def timeOpt (clock : Instant) : Option Instant → Json
  | some t => time clock t
  | none => .null

/-- A stock level. -/
def level (clock : Instant) (l : Level) : Json :=
  .object [("product_id", .string l.key.product), ("variant_id", .string l.key.variant),
    ("location_id", .string l.key.location), ("on_hand", .ofInt64 l.onHand),
    ("committed", .ofInt64 l.committed), ("available", .ofInt64 l.available),
    ("incoming", .ofInt64 l.incoming), ("damaged", .ofInt64 l.damaged),
    ("low_stock_threshold", .ofInt64 l.lowStockThreshold), ("reorder_point", .ofInt64 l.reorderPoint),
    ("reorder_quantity", .ofInt64 l.reorderQuantity), ("safety_stock", .ofInt64 l.safetyStock),
    ("last_counted_at", timeOpt clock l.lastCountedAt)]

/-- A log entry. -/
def adjustment (a : Adjustment) : Json :=
  .object [("seq", .ofInt64 a.seq), ("product_id", .string a.key.product),
    ("variant_id", .string a.key.variant), ("location_id", .string a.key.location),
    ("type", .string a.kind.name), ("quantity", .ofInt64 a.quantity),
    ("previous_quantity", .ofInt64 a.previous), ("new_quantity", .ofInt64 a.next),
    ("reference", .ofOption a.reference), ("reason", .string a.reason),
    ("created_by", .ofOption a.createdBy)]

/-- A location. -/
def location (clock : Instant) (l : Location) : Json :=
  .object [("id", .string l.id), ("name", .string l.name), ("kind", .string l.kind),
    ("address", .string l.address), ("city", .string l.city), ("state", .string l.state),
    ("country_code", .string l.countryCode), ("postal_code", .string l.postalCode),
    ("is_active", .bool l.isActive), ("fulfillment_priority", .ofInt64 l.priority),
    ("can_ship", .bool l.canShip), ("allows_pickup", .bool l.allowsPickup),
    ("created_at", time clock l.createdAt)]

/-- A transfer line. -/
def line (l : TransferLine) : Json :=
  .object [("product_id", .string l.product), ("variant_id", .string l.variant),
    ("quantity", .ofInt64 l.quantity), ("reserved", .bool l.reserved),
    ("quantity_shipped", .ofInt64 l.shipped), ("quantity_received", .ofInt64 l.received)]

/-- A transfer. -/
def transfer (clock : Instant) (t : Transfer) : Json :=
  .object [("id", .string t.id), ("from_location_id", .string t.source),
    ("to_location_id", .string t.destination), ("status", .string t.status.name),
    ("items", .array (t.lines.map line)), ("expected_arrival", timeOpt clock t.expectedArrival),
    ("arrived_at", timeOpt clock t.arrivedAt), ("notes", .ofOption t.notes)]

/-- A source's location map, `null` when it has none. -/
def locationMap : Option (List (String × String)) → Json
  | some m => .object (m.map fun (k, v) => (k, .string v))
  | none => .null

/-- A registered source. -/
def source (clock : Instant) (s : Source) : Json :=
  .object [("id", .string s.id), ("name", .string s.name), ("kind", .string s.kind),
    ("endpoint_url", .string s.endpoint), ("sync_enabled", .bool s.syncEnabled),
    ("sync_interval_ns", .ofInt64 s.interval), ("location_map", locationMap s.locationMap),
    ("last_sync_at", timeOpt clock s.lastSyncAt), ("last_sync_status", .ofOption s.lastSyncStatus)]

/-- The outcome of a sync batch. -/
def syncResult (r : SyncResult) : Json :=
  .object [("source_id", .string r.source), ("status", .string r.status),
    ("items_processed", .ofInt r.processed), ("items_updated", .ofInt r.updated),
    ("items_failed", .ofInt r.failed), ("errors", .array (r.errors.map .string))]

/-- A published sync event; one the broker refused is marked failed. -/
def event (e : SyncEvent) : Json :=
  let base := [("key", .string e.source), ("event_type", .string e.kind.name), ("source_id", .string e.source)]
  let withResult := match e.result with
    | some r => base ++ [("result", syncResult r)]
    | none => base
  .object (if e.undelivered then withResult ++ [("failed", .bool true)] else withResult)

/-- A statement argument: plain JSON for flags, integers and text, tagged objects for
bytes and timestamps. -/
def cell (clock : Instant) : Cell → Json
  | .null => .null
  | .flag b => .bool b
  | .int i => .ofInt64 i
  | .float x => .number x.text
  | .text s => .string s
  | .bytes s => .object [("bytes", .string s)]
  | .time t => .object [("time", time clock t)]

/-- A statement sent to the database; a transaction step has no arguments. -/
def statement (clock : Instant) (s : Statement) : Json :=
  match s.args with
  | some args => .object [("sql", .string s.text), ("args", .array (args.map (cell clock)))]
  | none => .object [("sql", .string s.text)]

end Show

end StockLedger

import StockLedger.Ledger.Sql
import StockLedger.Json.Read
import StockLedger.Json.Bind

/-!
Where sources are kept: in the ledger's list, or in the database's `inventory_sources`
table, as the wiring says. Storing a source replaces its description and keeps its last
sync. On the database the sync interval is kept in whole seconds and the location map
as a JSON object, `{}` when the source has none; reading a stored source decodes the
map, and a map that does not decode refuses the source.
-/

namespace StockLedger

namespace SourceStore

open Run

/-- The columns of a stored source and the fields they are read into. -/
def columns : List (String × Slot) :=
  [("id", .text), ("name", .text), ("kind", .text), ("endpoint_url", .text),
   ("sync_enabled", .flag), ("sync_interval_seconds", .int64), ("location_map", .bytes),
   ("last_sync_at", .timeOpt), ("last_sync_status", .textOpt)]

/-- Nanoseconds in a second. -/
def second : Int64 := 1000000000

/-- The JSON text of a location map, its entries ordered by key. -/
def mapText (m : Option (List (String × String))) : String :=
  let entries := (m.getD []).mergeSort (fun a b => a.1 ≤ b.1)
  "\x7b" ++ ",".intercalate (entries.map fun (k, v) => Json.quoteSafe k ++ ":" ++ Json.quoteSafe v) ++ "\x7d"

/-- Decodes the location map column: the map, or none for a JSON null. -/
def mapOf (text : String) : Except String (Option (List (String × String))) := do
  let j ← Json.parse text
  let h ← (Shape.dict .text "map[string]string").bind j
  return h.asDict?

/-- A source from a stored row, or why its location map does not decode. -/
def sourceOf (r : List (String × Scanned)) : Except Failure Source :=
  let f := Scanned.field r
  match mapOf (f "location_map").asText with
  | .error m => .error (.context "failed to decode location map" (.plain m))
  | .ok locationMap =>
    .ok { id := (f "id").asText
          name := (f "name").asText
          kind := (f "kind").asText
          endpoint := (f "endpoint_url").asText
          syncEnabled := (f "sync_enabled").asFlag
          interval := (f "sync_interval_seconds").asInt * second
          locationMap
          lastSyncAt := (f "last_sync_at").asTime?
          lastSyncStatus := (f "last_sync_status").asText? }

/-- The cells of a source's description, by column name. -/
def cells (s : Source) : List (String × Cell) :=
  [("id", .text s.id), ("name", .text s.name), ("kind", .text s.kind),
   ("endpoint_url", .text s.endpoint), ("sync_enabled", .flag s.syncEnabled),
   ("sync_interval_seconds", .int (s.interval / second)),
   ("location_map", .bytes (mapText s.locationMap))]

/-- The statement that stores a source's description. -/
def upsertText : String :=
  "INSERT INTO inventory_sources ( id, name, kind, endpoint_url, sync_enabled, " ++
  "sync_interval_seconds, location_map ) VALUES ( :id, :name, :kind, :endpoint_url, " ++
  ":sync_enabled, :sync_interval_seconds, :location_map ) ON CONFLICT (id) DO UPDATE SET " ++
  "name = EXCLUDED.name, kind = EXCLUDED.kind, endpoint_url = EXCLUDED.endpoint_url, " ++
  "sync_enabled = EXCLUDED.sync_enabled, sync_interval_seconds = EXCLUDED.sync_interval_seconds, " ++
  "location_map = EXCLUDED.location_map"

/-- Whether sources are kept on the database. -/
def onDatabase : Run Bool := do return (← get).wiring.sources

/-- Stores a source; in memory a source already stored keeps its last sync when the new
record has none. -/
def upsert (call : Call) (s : Source) : Run Unit := do
  if ← onDatabase then
    let (text, args) := Sql.named upsertText (cells s)
    match ← attempt (Sql.exec call text args) with
    | .ok _ => pure ()
    | .error e => fail (.context "failed to upsert inventory source" e)
  else
    let l ← get
    match l.sources.find? (·.id == s.id) with
    | some old =>
      let s := if s.lastSyncAt.isNone then
          { s with lastSyncAt := old.lastSyncAt, lastSyncStatus := old.lastSyncStatus }
        else s
      set { l with sources := l.sources.map (fun (o : Source) => if o.id == s.id then s else o) }
    | none => set { l with sources := l.sources ++ [s] }

/-- The source with an id. -/
def find (call : Call) (id : String) : Run Source := do
  if ← onDatabase then
    match ← Sql.getRecord call "SELECT * FROM inventory_sources WHERE id = $1" [.text id] columns
        "*repository.sourceRow" with
    | some r => check (sourceOf r)
    | none => fail (.withDetail .sourceNotFound id)
  else
    match (← get).sources.find? (·.id == id) with
    | some s => return s
    | none => fail (.withDetail .sourceNotFound id)

/-- Every source: on the database in the order it returns them, in memory by id. -/
def all (call : Call) : Run (List Source) := do
  if ← onDatabase then
    let rs ← Sql.selectRecords call "SELECT * FROM inventory_sources ORDER BY id" [] columns
      "*[]repository.sourceRow"
    rs.mapM fun r => check (sourceOf r)
  else return (← get).sources.mergeSort (fun a b => a.id ≤ b.id)

/-- Records when a source last synced and how it went. -/
def recordSync (call : Call) (id : String) (at_ : Instant) (status : String) : Run Unit := do
  if ← onDatabase then
    match ← Sql.exec call "UPDATE inventory_sources SET last_sync_at = $1, last_sync_status = $2 WHERE id = $3"
        [.time at_, .text status, .text id] with
    | .error m => fail (.plain m)
    | .ok n => if n = 0 then fail (.withDetail .sourceNotFound id)
  else
    let l ← get
    if l.sources.any (·.id == id) then
      set { l with sources := l.sources.map (fun (s : Source) =>
        if s.id == id then { s with lastSyncAt := some at_, lastSyncStatus := some status } else s) }
    else fail (.withDetail .sourceNotFound id)

end SourceStore

end StockLedger

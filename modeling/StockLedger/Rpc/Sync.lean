import StockLedger.Rpc.Method
import StockLedger.Ledger.Inbox

/-!
The sync service: registering sources, reading them and applying a batch of changes
from one. A source is registered with its interval in seconds and answers with it in
seconds too, beside the source itself, whose interval is in nanoseconds.
-/

namespace StockLedger

namespace SyncService

open Method

/-- The full name of the service. -/
def name : String := "omnipos.inventory.v1.SyncService"

/-- Nanoseconds in a second. -/
def second : Int64 := 1000000000

/-- The answer holding one source. -/
def sourceReply (s : Source) : Run Json := do
  writable (Render.sourceTimes s)
  return .object [("source", Render.source (← Run.now) s),
    ("sync_interval_seconds", Render.figure (s.interval / second))]

/-- The request that registers a source. -/
def registration : Shape :=
  .record "" "struct"
    [textField "id", textField "name", textField "kind", textField "endpoint_url",
     ("sync_enabled", .flag), intField "sync_interval_seconds",
     ("location_map", .dict .text "map[string]string")]

/-- The interval a registration request asks for, in seconds. -/
def seconds (h : Held) : Int64 := (h.field 5).asInt

/-- The source a registration request describes, its interval turned from seconds into
nanoseconds. -/
def requested (h : Held) : Source :=
  { id := (h.field 0).asText, name := (h.field 1).asText, kind := (h.field 2).asText,
    endpoint := (h.field 3).asText, syncEnabled := (h.field 4).asFlag,
    interval := seconds h * second, locationMap := (h.field 6).asDict?,
    lastSyncAt := none, lastSyncStatus := none }

/-- Registers a source, or replaces the one of its id. -/
def registerSource : Method := fun call doc => do
  let h ← decode registration doc
  require "id" (requested h).id
  return do sourceReply (← Feeds.register call (requested h))

/-- Reads a source. -/
def getSource : Method := fun call doc => do
  let id := ((← decode (.record "" "struct" [textField "id"]) doc).field 0).asText
  require "id" id
  return do sourceReply (← Feeds.find call id)

/-- Lists the sources. -/
def listSources : Method := fun call _ =>
  return do
    let sources ← Feeds.all call
    writable (sources.flatMap Render.sourceTimes)
    let clock ← Run.now
    return .object [("sources", .array (sources.map (Render.source clock)))]

/-- Applies a batch of changes from a source. -/
def applySyncChanges : Method := fun call doc => do
  let h ← decode (.record "" "struct"
    [textField "source_id", ("changes", .list Inbox.change "[]model.InventoryChange")]) doc
  let source := (h.field 0).asText
  require "source_id" source
  let changes := (h.field 1).asList.map Inbox.changeOf
  return do
    let r ← Feeds.applyBatch call source changes
    return .object [("result", Render.syncResult r)]

/-- The methods of the service. -/
def methods : List (String × Method) :=
  [("RegisterSource", registerSource), ("GetSource", getSource),
   ("ListSources", listSources), ("ApplySyncChanges", applySyncChanges)]

end SyncService

end StockLedger

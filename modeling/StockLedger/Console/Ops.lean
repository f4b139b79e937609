import StockLedger.Console.Fields
import StockLedger.Console.Show
import StockLedger.Console.Calls
import StockLedger.Console.Alias
import StockLedger.Service.Telemetry

/-!
The console's operations. A request object names an operation and its arguments; it
is read into a ledger operation ready to run, or refused with the reason it cannot be
read. Running an operation ends in a reply: a value, a failure (with extra fields for
the step), or the status a service call ended with.
-/

namespace StockLedger

/-- How an operation ended. -/
inductive Reply where
  | value (j : Json)
  /-- A failure, with extra fields for the step. -/
  | failed (e : Failure) (extra : List (String × Json))
  /-- A service call that ended with a status. -/
  | refused (s : Status)
  /-- A request refused as unreadable after its operation already took effect. -/
  | unread (why : String)

namespace Console

open Run

/-- The step kind of a failure: the first cause it carries, in a fixed order. -/
def kindOf (e : Failure) : String :=
  if e.shortfall?.isSome then "InsufficientInventory"
  else
    let order : List (Cause × String) :=
      [(.lock, "Lock"), (.locationNotFound, "LocationNotFound"),
       (.locationExists, "LocationAlreadyExists"), (.levelNotFound, "InventoryNotFound"),
       (.insufficient, "InsufficientInventory"), (.nonPositive, "InvalidQuantity"),
       (.transferNotFound, "TransferNotFound"), (.transferStatus, "InvalidTransferStatus"),
       (.transferInvalid, "InvalidTransfer"), (.sourceNotFound, "SourceNotFound"),
       (.sourceDisabled, "SourceDisabled"), (.productNotFound, "ProductNotFound"),
       (.changeInvalid, "InvalidChange"), (.journalWrite, "JournalWriteFailed")]
    match order.find? (fun (c, _) => e.carries c) with
    | some (_, n) => n
    | none => "Error"

/-- The message a refused call shows: one from reading the request document is written
as `invalid request`. -/
def statusMessage (s : Status) : String :=
  if s.message.startsWith "json: " || s.message.startsWith "proto:" then "invalid request" else s.message

/-- The reply of a service call. -/
def callReply (work : Run (Except Status Json)) : Run Reply := do
  match ← work with
  | .ok j => return .value j
  | .error s => return .refused s

/-- A level as the clock writes it. -/
def showLevel (l : Level) : Run Json := do return Show.level (← Run.now) l

/-- Levels as the clock writes them. -/
def showLevels (ls : List Level) : Run Json := do
  let c ← Run.now
  return .array (ls.map (Show.level c))

/-- A transfer as the clock writes it. -/
def showTransfer (t : Transfer) : Run Json := do return Show.transfer (← Run.now) t

/-- A unit stock operation. -/
def unitMove (op : Json) (move : Int64 → Move) : Except String (Run Reply) := do
  let call ← callOf op
  let key ← Request.key op
  let q ← Request.int op "quantity"
  let note ← noteOf op true
  return do return .value (← showLevel (← Stock.run call key (move q) note))

/-- The lock server's keys as the console writes them; a token that is a UUID, as the
ledger's own lock tokens are, is written as `<token>`. -/
def showKeys (s : LockServer) : Json :=
  .array (s.listing.map fun (k, v) =>
    .object [("key", .string k), ("value", .string (if Alias.isUuid v then "<token>" else v))])

/-- What a lock server operation does to the server, read from its fields, and the
reason it is refused after that change, if any. Every operation reads its key first. A
hold stores its token before it reads its time to live, so a hold whose time to live is
unreadable still leaves the key, without expiry. -/
def serverChange (op : Json) : Except String ((LockServer → LockServer) × Option String) := do
  let key ← Request.text op "key"
  match Request.lenientText op "op" with
  | "redis_hold" =>
    let token ← Request.text op "token"
    let token := if token = "" then "other-holder" else token
    match Request.int op "ttl_ms" with
    | .ok ttl => return ((·.hold (LockServer.slot key) token (LockServer.lifetime ttl)), none)
    | .error why => return ((·.hold (LockServer.slot key) token none), some why)
  | "redis_release" => return ((·.release (LockServer.slot key)), none)
  | "redis_fast_forward" =>
    let ms ← Request.int op "ms"
    return ((·.advance (LockServer.span ms)), none)
  | "redis_error" =>
    let message ← Request.text op "message"
    return (fun s => { s with outage := if message = "" then none else some message }, none)
  | _ => return (id, none)

/-- A lock server operation, refused when the ledger locks keys in process; it answers
with the server's keys afterwards, or with the reason it was refused after its change. -/
def onServer (l : Ledger) (op : Json) : Except String (Run Reply) :=
  match l.locker.server with
  | none => .error "no redis locker configured"
  | some _ => do
    let (change, refusal) ← serverChange op
    return do
      let l ← get
      match l.locker.server with
      | none => return .value (.array [])
      | some srv =>
        let srv := change srv
        set { l with locker := { l.locker with server := some srv } }
        match refusal with
        | some why => return .unread why
        | none => return .value (showKeys srv)

/-- A change of the catalog, refused when the ledger has none. -/
def onCatalog (l : Ledger) (change : Catalog → Catalog) : Except String (Run Reply) :=
  match l.catalog with
  | none => .error "no catalog configured"
  | some _ => .ok do
    modify fun l => { l with catalog := l.catalog.map change }
    return .value .null

/-- The operation a request names, ready to run, or why it cannot be read. -/
def plan (ledger : Ledger) (op : Json) : Except String (Run Reply) := do
  let call ← callOf op
  match Request.lenientText op "op" with
  | "set" =>
    let key ← Request.key op
    let v ← Request.int op "on_hand"
    let note ← noteOf op true
    return do return .value (← showLevel (← Stock.run call key (.set v) note))
  | "cycle_count" =>
    let key ← Request.key op
    let v ← Request.int op "on_hand"
    let note ← noteOf op true
    return do return .value (← showLevel (← Stock.run call key (.count v (← Run.now)) note))
  | "reserve" => unitMove op .reserve
  | "release" => unitMove op .release
  | "commit" => unitMove op .ship
  | "receive" => unitMove op .receive
  | "return" => unitMove op .restock
  | "damage" => unitMove op .damage
  | "scrap" => unitMove op .scrap
  | "apply_change" =>
    let key ← Request.key op
    let q ← Request.int op "quantity"
    let ty ← Request.text op "change_type"
    let note ← noteOf op false
    return do return .value (← showLevel (← Stock.applyChange call key ty q note.reference note.reason))
  | "thresholds" =>
    let key ← Request.key op
    let t : Thresholds :=
      { lowStock := ← Request.intOpt op "low_stock_threshold", reorderPoint := ← Request.intOpt op "reorder_point",
        reorderQuantity := ← Request.intOpt op "reorder_quantity", safetyStock := ← Request.intOpt op "safety_stock",
        incoming := ← Request.intOpt op "incoming" }
    return do return .value (← showLevel (← Stock.run call key (.limits t) {}))
  | "get" =>
    let key ← Request.key op
    return do return .value (← showLevel (← Stock.level call key))
  | "is_low" =>
    let key ← Request.key op
    return do return .value (.bool (← Stock.level call key).isLow)
  | "is_out" =>
    let key ← Request.key op
    return do return .value (.bool (← Stock.level call key).isOut)
  | "needs_reorder" =>
    let key ← Request.key op
    return do return .value (.bool (← Stock.level call key).needsReorder)
  | "get_all" =>
    let product ← Request.text op "product_id"
    return do return .value (← showLevels (← Stock.levels call { product }))
  | "total" =>
    let product ← Request.text op "product_id"
    return do return .value (.ofInt64 (← Stock.totalAvailable call product))
  | "low_stock" => return do return .value (← showLevels (← Stock.levels call { low := true }))
  | "out_of_stock" => return do return .value (← showLevels (← Stock.levels call { out := true }))
  | "reorder_needed" => return do return .value (← showLevels (← Stock.levels call { reorder := true }))
  | "history" =>
    let product ← Request.text op "product_id"
    let limit ← Request.int op "limit"
    return do return .value (.array ((← Stock.history call { product, limit := limit.toInt }).map Show.adjustment))
  | "adjustments" =>
    let q : AdjustmentQuery :=
      { product := ← Request.text op "product_id", location := ← Request.text op "location_id",
        kind := ← Request.text op "type", reference := ← Request.text op "reference",
        start := ← Request.timeOpt op "start_date", stop := ← Request.timeOpt op "end_date",
        limit := (← Request.int op "limit").toInt }
    return do return .value (.array ((← Stock.history call q).map Show.adjustment))
  | "add_location" =>
    let l ← locationOf op
    return do
      let l ← Places.add call l
      return .value (Show.location (← Run.now) l)
  | "get_location" =>
    let id ← Request.text op "id"
    return do return .value (Show.location (← Run.now) (← Places.find call id))
  | "active_locations" =>
    return do
      let c ← Run.now
      return .value (.array ((← Places.active call).map (Show.location c)))
  | "set_active" =>
    let id ← Request.text op "id"
    let on ← Request.flag op "active"
    return do Places.setActive call id on; return .value .null
  | "ensure_default" => return do Places.ensureMain call; return .value .null
  | "create_transfer" =>
    let req : TransferRequest :=
      { source := ← Request.text op "from_location_id", destination := ← Request.text op "to_location_id",
        notes := ← Request.text op "notes", expectedArrival := ← Request.timeOpt op "expected_arrival",
        lines := ← (← Request.objects op "items").mapM lineOf }
    return do return .value (← showTransfer (← Transfers.create call req))
  | "add_item" =>
    let id ← Request.text op "id"
    let r ← lineOf op
    return do return .value (← showTransfer (← Transfers.addLine call id r))
  | "get_transfer" =>
    let id ← Request.text op "id"
    return do return .value (← showTransfer (← TransferStore.find call id))
  | "start_transfer" =>
    let id ← Request.text op "id"
    return do return .value (← showTransfer (← Transfers.startTransfer call id))
  | "complete_transfer" =>
    let id ← Request.text op "id"
    return do return .value (← showTransfer (← Transfers.complete call id))
  | "cancel_transfer" =>
    let id ← Request.text op "id"
    return do return .value (← showTransfer (← Transfers.cancel call id))
  | "list_transfers" =>
    let q : TransferQuery := { status := ← Request.text op "status", location := ← Request.text op "location_id" }
    return do
      let c ← Run.now
      return .value (.array ((← TransferStore.all call q).map (Show.transfer c)))
  | "resume" =>
    return do
      match ← attempt (Transfers.resume call) with
      | .error e => return .failed e [("resumed", .ofInt 0)]
      | .ok (n, errs) =>
        if errs.isEmpty then return .value (.ofInt n)
        else return .failed (.joined errs) [("resumed", .ofInt n)]
  | "register_source" =>
    let s ← sourceOf op
    return do
      let s ← Feeds.register call s
      return .value (Show.source (← Run.now) s)
  | "get_source" =>
    let id ← Request.text op "id"
    return do return .value (Show.source (← Run.now) (← Feeds.find call id))
  | "list_sources" =>
    return do
      let c ← Run.now
      return .value (.array ((← Feeds.all call).map (Show.source c)))
  | "apply_sync" =>
    let source ← Request.text op "source_id"
    let changes ← (← Request.objects op "changes").mapM changeOf
    return do return .value (Show.syncResult (← Feeds.applyBatch call source changes))
  | "sync_due" =>
    let now ← match ← Request.timeOpt op "now" with
      | some t => pure t
      | none => throw "now is required"
    return do
      let c ← Run.now
      return .value (.array ((← Feeds.claimDue call now).map (Show.source c)))
  | "scheduler" =>
    let interval ← Request.int op "interval_ns"
    if interval < 1000000000 then throw "interval_ns must be at least one second"
    return do
      let c ← Run.now
      let _ ← attempt (Feeds.claimDue { call with cancelled := true } c)
      return .value (.array ((← Feeds.all call).map (Show.source c)))
  | "catalog_add" =>
    if ledger.catalog.isNone then throw "no catalog configured"
    let id ← Request.text op "id"
    let sku ← Request.text op "sku"
    -- only an explicit `false` leaves the product inactive
    let inactive := match op.field? "active" with
      | some (.bool false) => true
      | _ => false
    onCatalog ledger fun c =>
      let c := c.add id sku
      if inactive then c.deactivate id else c
  | "catalog_deactivate" =>
    if ledger.catalog.isNone then throw "no catalog configured"
    let id ← Request.text op "id"
    onCatalog ledger (·.deactivate id)
  | "order_event" =>
    let body ← bodyOf op
    return do Inbox.order call body; return .value .null
  | "sync_batch" =>
    let body ← bodyOf op
    return do Inbox.sync call body; return .value .null
  | "fail_locks" =>
    let keys := Request.texts op "keys"
    return do
      modify fun l => { l with locker := { l.locker with refused := keys } }
      return .value .null
  | "fail_journal" =>
    let trap ← trapOf op
    return do
      modify fun l => { l with trap }
      return .value .null
  | "redis_hold" | "redis_release" | "redis_fast_forward" | "redis_error" | "redis_keys" =>
    onServer ledger op
  | "load_config" =>
    let env ← envOf op
    return do return .value (Settings.load env).toJson
  | "tracing" =>
    let _ ← Request.text op "service_name"
    let _ ← Request.text op "service_version"
    let endpoint ← Request.text op "endpoint"
    let _ ← Request.text op "url_path"
    let _ ← Request.flag op "insecure"
    let _ ← Request.int op "export_timeout_ms"
    return do
      return .value (.object [("setup_error", .ofOption (Telemetry.setupError endpoint)), ("shutdown_error", .null)])
  | "kafka_publish" =>
    let _ ← Request.text op "key"
    let _ ← Request.text op "value"
    return do return .failed (.cause .cancelled none) []
  | "pg_connect" =>
    match ledger.database.backend with
    | .unreachable => return do
      -- the connection check runs on its own deadline, not the operation's
      match ← attempt (Sql.reach {}) with
      | .ok _ => return .value .null
      | .error e => return .failed (.context "ping postgres" e) []
    | .scripted _ => throw "store is not postgres_down"
  | "pg_ledger" =>
    match ledger.database.backend with
    | .unreachable => return do
      -- building the ledger runs on its own context, not the operation's
      match ← attempt (Sql.reach {}) with
      | .ok _ => return .value .null
      | .error e => return .failed (.context "failed to insert location" e) []
    | .scripted _ => throw "store is not postgres_down"
  | "rpc" => return callReply (← Calls.direct op)
  | "grpc" => return callReply (← Calls.remote op)
  | other => throw ("unknown op " ++ Text.quote other)

end Console

end StockLedger

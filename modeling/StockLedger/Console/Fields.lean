import StockLedger.Console.Request
import StockLedger.Ledger.Transfers
import StockLedger.Ledger.Inbox
import StockLedger.Service.Settings

/-!
Reading ledger values out of console requests: the call an operation runs in, the note
a stock operation leaves, locations, transfer lines, reported changes, sources,
listener message bodies, journal traps and environments. Each reader refuses a field of
the wrong type with a message naming it.
-/

namespace StockLedger

namespace Console

/-- An optional text field, none when missing or `null`. -/
def textOpt (op : Json) (name : String) : Except String (Option String) :=
  match Request.get? op name with
  | none => .ok none
  | some (.string s) => .ok (some s)
  | some _ => .error ("field " ++ name ++ " must be a string")

/-- The call an operation is made in. An empty user names none, so the header user
stands in for it. Only `true` cancels the call or lets its deadline pass. -/
def callOf (op : Json) : Except String Call := do
  let header ← textOpt op "md_user"
  let user ← textOpt op "user"
  return { user := user.filter (· != ""), headerUser := header, cancelled := Request.switch op "cancelled",
           expired := Request.switch op "deadline_passed" }

/-- The note of a stock operation, with the acting user when the operation takes one. -/
def noteOf (op : Json) (withUser : Bool) : Except String Note := do
  let reference ← Request.text op "reference"
  let reason ← Request.text op "reason"
  let user ← if withUser then Request.text op "user_id" else pure ""
  return { reference, reason, user }

/-- A location built from a request: a constructor and field overrides. -/
def locationOf (op : Json) : Except String Location := do
  let id ← Request.text op "id"
  let name ← Request.text op "name"
  let base ← match ← Request.text op "ctor" with
    | "warehouse" => pure (Location.warehouse id name)
    | "store" => pure (Location.store id name)
    | "" => pure (Location.blank id name)
    | other => throw ("unknown ctor " ++ Text.quote other)
  let orGiven (f : String) (cur : String) : Except String String := do
    let v ← Request.text op f
    return if v = "" then cur else v
  let address ← orGiven "address" base.address
  let city ← orGiven "city" base.city
  let state ← orGiven "state" base.state
  let country ← orGiven "country_code" base.countryCode
  let postal ← orGiven "postal_code" base.postalCode
  let kind ← orGiven "kind" base.kind
  let active ← Request.flagOpt op "is_active"
  let ship ← Request.flagOpt op "can_ship"
  let pickup ← Request.flagOpt op "allows_pickup"
  let priority ← Request.intOpt op "fulfillment_priority"
  let created ← Request.timeOpt op "created_at"
  let l : Location :=
    { base with
      kind := kind
      address := address
      city := city
      state := state
      countryCode := country
      postalCode := postal
      isActive := active.getD base.isActive
      canShip := ship.getD base.canShip
      allowsPickup := pickup.getD base.allowsPickup
      priority := priority.getD base.priority
      createdAt := created.getD base.createdAt }
  return l

/-- A line request from a request object. -/
def lineOf (j : Json) : Except String LineRequest := do
  return ⟨← Request.text j "product_id", ← Request.text j "variant_id", ← Request.int j "quantity"⟩

/-- A reported change from a request object. -/
def changeOf (j : Json) : Except String ReportedChange := do
  let change : ReportedChange :=
    { product := ← Request.text j "product_id", sku := ← Request.text j "sku",
      location := ← Request.text j "location_id", quantity := ← Request.int j "quantity",
      changeType := ← Request.text j "change_type" }
  let _ ← Request.timeOpt j "source_timestamp"
  return change

/-- A source from a request. -/
def sourceOf (op : Json) : Except String Source := do
  let id ← Request.text op "id"
  let name ← Request.text op "name"
  let kind ← Request.text op "kind"
  let endpoint ← Request.text op "endpoint_url"
  let syncEnabled ← Request.flag op "sync_enabled"
  let interval ← Request.int op "sync_interval_ns"
  let locationMap ← Request.textMap op "location_map"
  let lastSyncAt ← Request.timeOpt op "last_sync_at"
  let status ← Request.text op "last_sync_status"
  return { id, name, kind, endpoint, syncEnabled, interval, locationMap, lastSyncAt,
           lastSyncStatus := if status = "" then none else some status }

/-- The message body a listener operation carries: `raw` text, or `message`, any value
including `null`, written compactly; then how the reader ends, which must be known. -/
def bodyOf (op : Json) : Except String String := do
  let body ← match op.field? "raw" with
    | some (.string s) => pure s
    | some _ => throw "field raw must be a string"
    | none =>
      match op.field? "message" with
      | some j => pure j.render
      | none => throw "message or raw is required"
  match ← Request.text op "after" with
  | "" | "stop" | "error" | "idle" => return body
  | other => throw ("unknown after " ++ Text.quote other)

/-- The journal trap a `fail_journal` request sets, or none to clear it. -/
def trapOf (op : Json) : Except String (Option JournalTrap) := do
  let condition ← Request.text op "when"
  let item := (← Request.int op "item").toInt
  let status ← Request.text op "status"
  match condition with
  | "" => return none
  | "reserved" => return some (.reserved item)
  | "shipped" => return some (.shipped item)
  | "received" => return some (.received item)
  | "unshipped" => return some (.unshipped item)
  | "status" => return some (.status status)
  | "any" => return some .any
  | other => throw ("unknown fail_journal condition " ++ Text.quote other)

/-- Whether a variable can be set in the environment: its name is not empty and holds
neither `=` nor a NUL character, and its value holds no NUL character. -/
def settable (entry : String × String) : Bool :=
  entry.1 != "" && !entry.1.toList.any (fun c => c == '=' || c.toNat == 0) &&
    !entry.2.toList.any (fun c => c.toNat == 0)

/-- The environment a request names: for each name the last text given. -/
def envGiven (op : Json) : Except String Env := do
  return (← Request.textMap op "env").getD []

/-- The environment a `load_config` request sets: the one it names, less the variables
that cannot be set. -/
def envOf (op : Json) : Except String Env := do
  return (← envGiven op).filter settable

end Console

end StockLedger

import StockLedger.Ledger.Sql

/-!
Where locations are kept: in the ledger's registry, or in the database's `locations`
table, as the wiring says. Adding a location whose id is taken changes nothing and is
refused; switching a location that is not there is refused too. On the database both
are told by the number of rows the statement touched.
-/

namespace StockLedger

namespace LocationStore

open Run

/-- The columns of a stored location and the fields they are read into. -/
def columns : List (String × Slot) :=
  [("id", .text), ("name", .text), ("kind", .named "model.LocationKind"), ("address", .text),
   ("city", .text), ("state", .text), ("country_code", .text), ("postal_code", .text),
   ("is_active", .flag), ("fulfillment_priority", .int), ("can_ship", .flag),
   ("allows_pickup", .flag), ("created_at", .time)]

/-- A location from a stored row. -/
def locationOf (r : List (String × Scanned)) : Location :=
  let f := Scanned.field r
  { id := (f "id").asText
    name := (f "name").asText
    kind := (f "kind").asText
    address := (f "address").asText
    city := (f "city").asText
    state := (f "state").asText
    countryCode := (f "country_code").asText
    postalCode := (f "postal_code").asText
    isActive := (f "is_active").asFlag
    priority := (f "fulfillment_priority").asInt
    canShip := (f "can_ship").asFlag
    allowsPickup := (f "allows_pickup").asFlag
    createdAt := ((f "created_at").asTime?).getD Instant.zero }

/-- The cells of a location, by column name. -/
def cells (l : Location) : List (String × Cell) :=
  [("id", .text l.id), ("name", .text l.name), ("kind", .text l.kind),
   ("address", .text l.address), ("city", .text l.city), ("state", .text l.state),
   ("country_code", .text l.countryCode), ("postal_code", .text l.postalCode),
   ("is_active", .flag l.isActive), ("fulfillment_priority", .int l.priority),
   ("can_ship", .flag l.canShip), ("allows_pickup", .flag l.allowsPickup),
   ("created_at", .time l.createdAt)]

/-- The statement that adds a location unless its id is taken. -/
def insertText : String :=
  "INSERT INTO locations ( id, name, kind, address, city, state, country_code, postal_code, " ++
  "is_active, fulfillment_priority, can_ship, allows_pickup, created_at ) VALUES ( :id, :name, " ++
  ":kind, :address, :city, :state, :country_code, :postal_code, :is_active, " ++
  ":fulfillment_priority, :can_ship, :allows_pickup, :created_at ) ON CONFLICT (id) DO NOTHING"

/-- Whether locations are kept on the database. -/
def onDatabase : Run Bool := do return (← get).wiring.locations

/-- Adds a location under a new id. -/
def create (call : Call) (l : Location) : Run Unit := do
  if ← onDatabase then
    let (text, args) := Sql.named insertText (cells l)
    let touched ← match ← attempt (Sql.exec call text args) with
      | .ok r => pure r
      | .error e => fail (.context "failed to insert location" e)
    match touched with
    | .error m => fail (.plain m)
    | .ok n => if n = 0 then fail (.withDetail .locationExists l.id)
  else
    let r ← check ((← get).registry.add l)
    modify fun s => { s with registry := r }

/-- The location with an id. -/
def find (call : Call) (id : String) : Run Location := do
  if ← onDatabase then
    match ← Sql.getRecord call "SELECT * FROM locations WHERE id = $1" [.text id] columns "*model.Location" with
    | some r => return locationOf r
    | none => fail (.withDetail .locationNotFound id)
  else check ((← get).registry.find id)

/-- Locations, only the active ones when asked, in the order the store keeps them. -/
def all (call : Call) (activeOnly : Bool) : Run (List Location) := do
  if ← onDatabase then
    let text := "SELECT * FROM locations" ++ (if activeOnly then " WHERE is_active = TRUE" else "") ++
      " ORDER BY fulfillment_priority, id"
    let rs ← Sql.selectRecords call text [] columns "*[]model.Location"
    return rs.map locationOf
  else
    let es := (← get).registry.entries
    return if activeOnly then es.filter (·.isActive) else es

/-- Switches a location on or off. -/
def setActive (call : Call) (id : String) (on : Bool) : Run Unit := do
  if ← onDatabase then
    match ← Sql.exec call "UPDATE locations SET is_active = $1 WHERE id = $2" [.flag on, .text id] with
    | .error m => fail (.plain m)
    | .ok n => if n = 0 then fail (.withDetail .locationNotFound id)
  else
    let r ← check ((← get).registry.setActive id on)
    modify fun s => { s with registry := r }

end LocationStore

end StockLedger

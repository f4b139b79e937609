import StockLedger.Rpc.Method
import StockLedger.Ledger.Places

/-!
The location service: adding a location, reading one, listing the active ones and
switching one on or off. A new location starts from the defaults of its kind (a store,
or a warehouse for any other kind, which keeps the kind given); the address fields are
taken as given and the flags and priority only when present.
-/

namespace StockLedger

namespace LocationService

open Method

/-- The full name of the service. -/
def name : String := "omnipos.inventory.v1.LocationService"

/-- The shape of a new location. -/
def addShape : Shape :=
  .record "addLocationRequest" "handler.addLocationRequest"
    [textField "id", textField "name", textField "kind", textField "address", textField "city",
     textField "state", textField "country_code", textField "postal_code",
     ("is_active", .optional .flag), ("fulfillment_priority", .optional (.integer "int")),
     ("can_ship", .optional .flag), ("allows_pickup", .optional .flag)]

/-- The location a request describes. -/
def locationOf (h : Held) : Location :=
  let id := (h.field 0).asText
  let name := (h.field 1).asText
  let kind := (h.field 2).asText
  let base :=
    if kind = "store" then Location.store id name
    else
      let w := Location.warehouse id name
      if kind = "" then w else { w with kind }
  let flag (i : Nat) (cur : Bool) : Bool := ((h.field i).asPresent?.map Held.asFlag).getD cur
  { base with
    address := (h.field 3).asText
    city := (h.field 4).asText
    state := (h.field 5).asText
    countryCode := (h.field 6).asText
    postalCode := (h.field 7).asText
    isActive := flag 8 base.isActive
    priority := (intOpt (h.field 9)).getD base.priority
    canShip := flag 10 base.canShip
    allowsPickup := flag 11 base.allowsPickup }

/-- The shape of a request naming a location. -/
def idShape : Shape := .record "" "struct" [textField "id"]

/-- Adds a location. -/
def addLocation : Method := fun call doc => do
  let h ← decode addShape doc
  require "id" (h.field 0).asText
  return do
    let l ← Places.add call (locationOf h)
    writable [l.createdAt]
    return .object [("location", Render.location l)]

/-- Reads a location. -/
def getLocation : Method := fun call doc => do
  let id := ((← decode idShape doc).field 0).asText
  require "id" id
  return do
    let l ← Places.find call id
    writable [l.createdAt]
    return .object [("location", Render.location l)]

/-- Lists the active locations. -/
def listActive : Method := fun call _ =>
  return do
    let ls ← Places.active call
    writable (ls.map (·.createdAt))
    return .object [("locations", .array (ls.map Render.location))]

/-- Switches a location on or off. -/
def setActive : Method := fun call doc => do
  let h ← decode (.record "" "struct" [textField "id", ("active", .flag)]) doc
  let id := (h.field 0).asText
  let on := (h.field 1).asFlag
  require "id" id
  return do
    Places.setActive call id on
    return .object [("id", .string id), ("active", .bool on)]

/-- The methods of the service. -/
def methods : List (String × Method) :=
  [("AddLocation", addLocation), ("GetLocation", getLocation),
   ("ListActiveLocations", listActive), ("SetActive", setActive)]

end LocationService

end StockLedger

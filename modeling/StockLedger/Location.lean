import StockLedger.Failure
import StockLedger.Time.Instant

/-!
Locations that hold stock, and the registry of them. A location is added once under
its id and never replaced; afterwards only its active flag changes. Active locations
are listed by fulfilment priority, lower first, then by id.
-/

namespace StockLedger

/-- A place that holds stock. -/
structure Location where
  id : String
  name : String
  kind : String
  address : String
  city : String
  state : String
  countryCode : String
  postalCode : String
  isActive : Bool
  priority : Int64
  canShip : Bool
  allowsPickup : Bool
  createdAt : Instant
deriving DecidableEq

namespace Location

/-- The id of the warehouse every ledger starts with. -/
def mainId : String := "warehouse-main"

/-- A location with every field empty. -/
def blank (id name : String) : Location where
  id := id
  name := name
  kind := ""
  address := ""
  city := ""
  state := ""
  countryCode := ""
  postalCode := ""
  isActive := false
  priority := 0
  canShip := false
  allowsPickup := false
  createdAt := Instant.zero

/-- An active warehouse that ships, first in fulfilment priority. -/
def warehouse (id name : String) : Location :=
  { blank id name with kind := "warehouse", isActive := true, priority := 1, canShip := true }

/-- An active store that ships and allows pickup, at fulfilment priority 10. -/
def store (id name : String) : Location :=
  { blank id name with kind := "store", isActive := true, priority := 10, canShip := true,
                       allowsPickup := true }

/-- The warehouse every ledger starts with. -/
def main : Location := warehouse mainId "Main Warehouse"

/-- Whether `a` is listed before `b`: lower priority first, then lower id. -/
def before (a b : Location) : Bool :=
  a.priority < b.priority || (a.priority == b.priority && a.id < b.id)

end Location

/-- Locations in the order they were added, at most one per id. -/
structure Registry where
  entries : List Location

namespace Registry

/-- The registry with no locations. -/
def empty : Registry := ⟨[]⟩

/-- The location with an id. -/
def find (r : Registry) (id : String) : Except Failure Location :=
  match r.entries.find? (·.id == id) with
  | some l => .ok l
  | none => .error (.withDetail .locationNotFound id)

/-- Adds a location under a new id; an id already present is refused. -/
def add (r : Registry) (l : Location) : Except Failure Registry :=
  if r.entries.any (·.id == l.id) then .error (.withDetail .locationExists l.id)
  else .ok ⟨r.entries ++ [l]⟩

/-- Sets the active flag of a location. -/
def setActive (r : Registry) (id : String) (active : Bool) : Except Failure Registry :=
  if r.entries.any (·.id == id) then
    .ok ⟨r.entries.map (fun l => if l.id == id then { l with isActive := active } else l)⟩
  else .error (.withDetail .locationNotFound id)

/-- Active locations, lower priority first, then by id. -/
def active (r : Registry) : List Location :=
  (r.entries.filter (·.isActive)).mergeSort (fun a b => !Location.before b a)

end Registry

end StockLedger

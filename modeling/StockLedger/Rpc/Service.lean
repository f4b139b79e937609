import StockLedger.Rpc.Inventory
import StockLedger.Rpc.Transfers
import StockLedger.Rpc.Locations
import StockLedger.Rpc.Sync

/-!
The call services together: finding a method by service and method name, and running it
against the ledger. A service is named in full (`omnipos.inventory.v1.InventoryService`)
or by its last part alone. Running a method refuses the call when the request cannot be
read; otherwise the ledger work runs, and a ledger failure ends the call with the status
its causes give. Writes made before a failure stay.
-/

namespace StockLedger

namespace Services

/-- The package every service is in. -/
def package : String := "omnipos.inventory.v1."

/-- The services and their methods. -/
def all : List (String × List (String × Method)) :=
  [(InventoryService.name, InventoryService.methods),
   (TransferService.name, TransferService.methods),
   (LocationService.name, LocationService.methods),
   (SyncService.name, SyncService.methods)]

/-- The full name of a service: a name with no package gets the services' package. -/
def fullName (service : String) : String :=
  if service.contains '.' then service else package ++ service

/-- The methods of a service, if there is one of that name. -/
def methodsOf? (service : String) : Option (List (String × Method)) :=
  (all.find? (·.1 == fullName service)).map (·.2)

/-- A call path `service/method` split at its last slash into the service and the
method. -/
def splitPath (path : String) : String × String :=
  let cs := path.toList
  let method := cs.reverse.takeWhile (· ≠ '/')
  (String.ofList (cs.take (cs.length - method.length - 1)), String.ofList method.reverse)

/-- A method of a service's methods. -/
def method? (methods : List (String × Method)) (name : String) : Option Method :=
  (methods.find? (·.1 == name)).map (·.2)

/-- Runs a method: the response, or the status the call ends with. -/
def perform (m : Method) (call : Call) (doc : Option Json) : Run (Except Status Json) :=
  match m call doc with
  | .error s => pure (.error s)
  | .ok work => do
    match ← Run.attempt work with
    | .ok j => return .ok j
    | .error e => return .error (Status.ofFailure e)

end Services

end StockLedger

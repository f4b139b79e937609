import StockLedger.Store.Locations

/-!
Location operations on the ledger: adding a location (an id is required, the kind
defaults to a warehouse and an unset creation time to now), looking one up, listing
the active ones and switching a location on or off.
-/

namespace StockLedger

namespace Places

open Run

/-- Registers a location and returns it as stored. -/
def add (call : Call) (l : Location) : Run Location := do
  if l.id = "" then fail (.plain "location id is required")
  let l := if l.kind = "" then { l with kind := "warehouse" } else l
  let now ← Run.now
  let l := if l.createdAt.isZero then { l with createdAt := now } else l
  LocationStore.create call l
  return l

/-- The location with an id. -/
def find (call : Call) (id : String) : Run Location := LocationStore.find call id

/-- Active locations, lower priority first, then by id. -/
def active (call : Call) : Run (List Location) := do
  let ls ← LocationStore.all call true
  return ls.mergeSort (fun a b => !Location.before b a)

/-- Switches a location on or off. -/
def setActive (call : Call) (id : String) (on : Bool) : Run Unit := LocationStore.setActive call id on

/-- Registers the main warehouse unless a location already holds its id. -/
def ensureMain (call : Call) : Run Unit := do
  match ← attempt (add call Location.main) with
  | .ok _ => pure ()
  | .error e => if e.carries .locationExists then pure () else fail e

end Places

end StockLedger

import StockLedger.Ledger.Stock

/-!
Order events from the storefront. A created order reserves every line or none: a line
that cannot be reserved releases the reservations made before it, newest first. A key
on which the order already holds a reservation is skipped, so a redelivered event
reserves nothing twice. Cancelled and fulfilled orders release or ship at most what the
order still holds on each key; returned orders put their units back on hand. What an
order holds on a key is the sum of the reserve, release and ship entries logged under
the order's id.
-/

namespace StockLedger

/-- One line of an order event. -/
structure OrderLine where
  product : String
  variant : String
  quantity : Int64

/-- What happened to an order. -/
inductive OrderChange where
  | created
  | cancelled
  | fulfilled
  | returned
deriving DecidableEq

namespace OrderChange

/-- The change an event type names, if it names one. -/
def ofName? : String → Option OrderChange
  | "OrderCreated" => some .created
  | "OrderCancelled" => some .cancelled
  | "OrderFulfilled" => some .fulfilled
  | "OrderReturned" => some .returned
  | _ => none

end OrderChange

namespace Orders

open Run

/-- The actor order events are applied as. -/
def system : String := "system"

/-- The units an order holds on a key: its reserve, release and ship entries summed. -/
def held (call : Call) (key : StockKey) (order : String) : Run Int64 := do
  let entries ← Stock.history call { product := key.product, location := key.location, reference := order }
  return entries.foldl (fun n e =>
    if e.key.variant != key.variant then n
    else match e.kind with
      | .reserved | .unreserved | .shipped => n + e.quantity
      | _ => n) 0

/-- Releases reservations made for an order, newest first, ignoring failures. -/
def rollback (call : Call) (order : String) (made : List (StockKey × Int64)) : Run Unit :=
  made.reverse.forM fun (key, q) => do
    let _ ← attempt (Stock.run call key (.release q)
      { reference := order, reason := "Order reservation rolled back", user := system })

/-- Reserves the lines of a created order in turn; `made` holds the reservations made
so far, newest last, and `touched` their keys. -/
def reserveLines (call : Call) (order : String) (touched : List StockKey) (made : List (StockKey × Int64)) :
    List (StockKey × Int64) → Run Unit
  | [] => pure ()
  | (key, q) :: rest => do
    -- a key reserved earlier in this event is not looked up again
    let skip ← if touched.contains key then pure (some false) else
      match ← attempt (held call key order) with
      | .error _ => pure none
      | .ok h => pure (some (h > 0))
    match skip with
    | none => rollback call order made
    | some true => reserveLines call order touched made rest
    | some false =>
      match ← attempt (Stock.run call key (.reserve q)
          { reference := order, reason := "Stock reserved for order", user := system }) with
      | .error _ => rollback call order made
      | .ok _ => reserveLines call order (key :: touched) (made ++ [(key, q)]) rest

/-- Releases or ships, on each line, at most what the order still holds on its key. -/
def settle (call : Call) (order : String) (lines : List (StockKey × Int64))
    (move : Int64 → Move) (reason : String) : Run Unit :=
  lines.forM fun (key, q) => do
    match ← attempt (held call key order) with
    | .error _ => pure ()
    | .ok h =>
      if h ≤ 0 then pure ()
      else
        let q := if q > h then h else q
        let _ ← attempt (Stock.run call key (move q) { reference := order, reason, user := system })

/-- Applies an order event: its lines at the event's location (the main warehouse when
none is given), under the order id as reference. -/
def apply (call : Call) (change : OrderChange) (order location : String) (lines : List OrderLine) : Run Unit := do
  let location := if location = "" then "warehouse-main" else location
  let keyed := lines.map fun l => ((⟨l.product, l.variant, location⟩ : StockKey), l.quantity)
  match change with
  | .created => reserveLines call order [] [] keyed
  | .cancelled => settle call order keyed .release "Order cancelled"
  | .fulfilled => settle call order keyed .ship "Order fulfilled"
  | .returned =>
    keyed.forM fun (key, q) => do
      let _ ← attempt (Stock.run call key (.restock q)
        { reference := order, reason := "Order returned", user := system })

end Orders

end StockLedger

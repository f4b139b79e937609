import StockLedger.Stock.Book

/-!
The stock operations as changes of one level. Each move checks what it needs, writes
the level's figures, recomputes available stock and names the figure it moved: on
hand for counts, shipments, receipts, returns, scrapping and sync changes; committed
for reservations and releases; damaged for damage reports. Threshold updates change
no figure and so report none.
-/

namespace StockLedger

/-- How a synchronised change sets on-hand stock. -/
inductive SyncMode where
  | set
  | increment
  | decrement
deriving DecidableEq, Repr

namespace SyncMode

/-- The mode a change type names, if it names one. -/
def ofName? : String → Option SyncMode
  | "set" => some .set
  | "increment" => some .increment
  | "decrement" => some .decrement
  | _ => none

end SyncMode

/-- New thresholds for a level; an absent figure is left as it is. -/
structure Thresholds where
  lowStock : Option Int64 := none
  reorderPoint : Option Int64 := none
  reorderQuantity : Option Int64 := none
  safetyStock : Option Int64 := none
  incoming : Option Int64 := none

namespace Thresholds

/-- The figures given, in the order they are checked. -/
def given (t : Thresholds) : List Int64 :=
  [t.lowStock, t.reorderPoint, t.reorderQuantity, t.safetyStock, t.incoming].filterMap id

/-- The level with every given figure written. -/
def write (t : Thresholds) (l : Level) : Level :=
  { l with
    lowStockThreshold := t.lowStock.getD l.lowStockThreshold
    reorderPoint := t.reorderPoint.getD l.reorderPoint
    reorderQuantity := t.reorderQuantity.getD l.reorderQuantity
    safetyStock := t.safetyStock.getD l.safetyStock
    incoming := t.incoming.getD l.incoming }

end Thresholds

/-- A change of one level requested by a stock operation. -/
inductive Move where
  /-- Set on-hand stock to a figure. -/
  | set (onHand : Int64)
  /-- Set on-hand stock to a counted figure and note when it was counted. -/
  | count (onHand : Int64) (countedAt : Instant)
  /-- Commit available units to an order. -/
  | reserve (quantity : Int64)
  /-- Return committed units to available stock. -/
  | release (quantity : Int64)
  /-- Ship committed units: on hand and committed both drop. -/
  | ship (quantity : Int64)
  /-- Take units in from a supplier. -/
  | receive (quantity : Int64)
  /-- Take units back from a customer. -/
  | restock (quantity : Int64)
  /-- Mark units on hand as damaged. -/
  | damage (quantity : Int64)
  /-- Dispose of damaged units. -/
  | scrap (quantity : Int64)
  /-- Apply a change reported by an external system. -/
  | sync (mode : SyncMode) (quantity : Int64)
  /-- Replace thresholds and incoming stock. -/
  | limits (t : Thresholds)

/-- Figure movement of a move: the kind of entry, how much the figure moved and what it
was before. -/
structure Movement where
  kind : AdjustmentKind
  delta : Int64
  previous : Int64
deriving DecidableEq

namespace Move

/-- Whether the move may create the level it writes. -/
def creates : Move → Bool
  | .set _ | .count _ _ | .receive _ | .restock _ | .sync _ _ => true
  | _ => false

/-- The reason recorded when the caller gives none. -/
def defaultReason : Move → String
  | .set _ => "Inventory set"
  | .count _ _ => "Cycle count"
  | .reserve _ => "Stock reserved for order"
  | .release _ => "Stock released"
  | .ship _ => "Stock shipped"
  | .receive _ => "Stock received"
  | .restock _ => "Stock returned"
  | .damage _ => "Stock damaged"
  | .scrap _ => "Damaged stock scrapped"
  | .sync _ _ => ""
  | .limits _ => ""

/-- What a move checks before it takes the key's lock: quantities of the unit
operations must be positive. -/
def precheck : Move → Except Failure Unit
  | .reserve q | .release q | .ship q | .receive q | .restock q | .damage q | .scrap q =>
    if q ≤ 0 then .error (.withDetail .nonPositive (Quantity.text q)) else .ok ()
  | _ => .ok ()

/-- The written level and the movement of a move, or why it does not apply. -/
def apply (m : Move) (l : Level) : Except Failure (Level × Option Movement) :=
  match m with
  | .set v =>
    let l' := { l with onHand := v }.recount
    .ok (l', some ⟨.adjustment, l'.onHand - l.onHand, l.onHand⟩)
  | .count v t =>
    let l' := { l with onHand := v, lastCountedAt := some t }.recount
    .ok (l', some ⟨.cycleCount, l'.onHand - l.onHand, l.onHand⟩)
  | .reserve q =>
    if l.available < q then
      .error (.shortfall l.key.product (if l.available < 0 then 0 else l.available) q)
    else
      let l' := { l with committed := l.committed + q }.recount
      .ok (l', some ⟨.reserved, q, l.committed⟩)
  | .release q =>
    let l' := { l with committed := Quantity.floorSub l.committed q }.recount
    .ok (l', some ⟨.unreserved, l'.committed - l.committed, l.committed⟩)
  | .ship q =>
    let l' := { l with onHand := Quantity.floorSub l.onHand q,
                       committed := Quantity.floorSub l.committed q }.recount
    .ok (l', some ⟨.shipped, l'.onHand - l.onHand, l.onHand⟩)
  | .receive q =>
    let l' := { l with onHand := Quantity.capAdd l.onHand q }.recount
    .ok (l', some ⟨.received, l'.onHand - l.onHand, l.onHand⟩)
  | .restock q =>
    let l' := { l with onHand := Quantity.capAdd l.onHand q }.recount
    .ok (l', some ⟨.returned, l'.onHand - l.onHand, l.onHand⟩)
  | .damage q =>
    let gap := l.onHand - l.damaged
    let room := if gap < 0 then 0 else gap
    let l' := { l with damaged := l.damaged + (if q ≤ room then q else room) }.recount
    .ok (l', some ⟨.damaged, l'.damaged - l.damaged, l.damaged⟩)
  | .scrap q =>
    let gone := if q ≤ l.damaged then q else l.damaged
    let l' := { l with damaged := l.damaged - gone, onHand := l.onHand - gone }.recount
    .ok (l', some ⟨.scrapped, -gone, l.onHand⟩)
  | .sync mode q =>
    let v := match mode with
      | .set => q
      | .increment => Quantity.capAdd l.onHand q
      | .decrement => Quantity.floorSub l.onHand q
    let l' := { l with onHand := v }.recount
    .ok (l', some ⟨.adjustment, l'.onHand - l.onHand, l.onHand⟩)
  | .limits t =>
    match t.given.find? (· < 0) with
    | some v => .error (.withDetail .nonPositive (Quantity.text v))
    | none => .ok ((t.write l).recount, none)

end Move

end StockLedger

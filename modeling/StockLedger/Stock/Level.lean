import StockLedger.Quantity
import StockLedger.Time.Instant

/-!
Stock levels. A level is the stock of one product variant at one location: units on
hand, units committed to orders, damaged units, units on their way, and the thresholds
that say when stock is low or should be reordered. Available stock is on hand less
committed less damaged, in wrapping 64-bit arithmetic, and every write recomputes it.
-/

namespace StockLedger

/-- What a level is kept for: a product, its variant (empty when it has none) and a
location. -/
structure StockKey where
  product : String
  variant : String
  location : String
deriving DecidableEq, Repr

namespace StockKey

/-- The key as text: `product|location`, or `product:variant|location` with a variant. -/
def text (k : StockKey) : String :=
  if k.variant = "" then k.product ++ "|" ++ k.location
  else k.product ++ ":" ++ k.variant ++ "|" ++ k.location

end StockKey

/-- The stock of one key. -/
structure Level where
  key : StockKey
  onHand : Int64
  committed : Int64
  available : Int64
  incoming : Int64
  damaged : Int64
  lowStockThreshold : Int64
  reorderPoint : Int64
  reorderQuantity : Int64
  safetyStock : Int64
  lastCountedAt : Option Instant
  /-- When the level was created and last updated, as a stored row gives them; a level
  made in memory keeps the unset instant, since these times are never shown. -/
  createdAt : Instant := Instant.zero
  updatedAt : Instant := Instant.zero
deriving DecidableEq

namespace Level

/-- A new level: nothing in stock, low at 10, reorder at 20 by 50, keep 5 in reserve. -/
def fresh (key : StockKey) : Level where
  key := key
  onHand := 0
  committed := 0
  available := 0
  incoming := 0
  damaged := 0
  lowStockThreshold := 10
  reorderPoint := 20
  reorderQuantity := 50
  safetyStock := 5
  lastCountedAt := none

/-- Available stock as the level's figures give it: on hand less committed less damaged,
wrapping. -/
def availableOf (l : Level) : Int64 := l.onHand - l.committed - l.damaged

/-- The level with its available stock recomputed from its figures. -/
def recount (l : Level) : Level := { l with available := l.availableOf }

/-- Stock is low when some is available but no more than the low-stock threshold. -/
def isLow (l : Level) : Bool := l.available > 0 && l.available ≤ l.lowStockThreshold

/-- Stock is out when nothing is available. -/
def isOut (l : Level) : Bool := l.available ≤ 0

/-- Stock should be reordered when what is available is at or below the reorder point. -/
def needsReorder (l : Level) : Bool := l.available ≤ l.reorderPoint

end Level

end StockLedger
